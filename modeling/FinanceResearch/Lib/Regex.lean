import FinanceResearch.Lib.Characters

/-!
# Backtracking regular expressions

The fragment of Python's `re` that has characters, alternatives, greedy
repetition and one-character assertions. `ends` lists the positions at which a
match may end, in the order a backtracking matcher tries them, so its first
element is the match `re` reports. A position is the character before it and the
text after it, which is all that the assertions read.
-/

/-- Patterns. -/
inductive Regex where
  | empty
  | set (accepts : Char → Bool)
  | seq (first second : Regex)
  | alt (first second : Regex)
  | star (body : Regex)
  /-- A condition on the characters before and after the position. -/
  | assert (holds : Option Char → Option Char → Bool)

namespace Regex

/-- A position: the character before it, and the text after it. -/
abbrev Position := Option Char × List Char

/-- Greedy repetition: one more iteration before stopping; an iteration that
consumes nothing is not repeated. -/
def starEnds (body : Position → List Position) : Nat → Position → List Position
  | 0, p => [p]
  | fuel + 1, p =>
    ((body p).filter fun q => q.2.length < p.2.length).flatMap (starEnds body fuel) ++ [p]

/-- Where a match from `p` may end, in the matcher's order. -/
def ends : Regex → Position → List Position
  | empty, p => [p]
  | set accepts, (_, c :: rest) => if accepts c then [(some c, rest)] else []
  | set _, (_, []) => []
  | seq first second, p => (ends first p).flatMap (ends second)
  | alt first second, p => ends first p ++ ends second p
  | star body, p => starEnds (ends body) p.2.length p
  | assert holds, p => if holds p.1 p.2.head? then [p] else []

/-- The length of the match at `p`. -/
def matchLength (r : Regex) (p : Position) : Option Nat :=
  (r.ends p).head?.map fun q => p.2.length - q.2.length

/-- `pattern.search(text) is not None`, from a position on. -/
def searchFrom (r : Regex) : Option Char → List Char → Bool
  | before, [] => !(r.ends (before, [])).isEmpty
  | before, c :: rest => !(r.ends (before, c :: rest)).isEmpty || searchFrom r (some c) rest

/-- `pattern.search(text)`, as a truth value. -/
def search (r : Regex) (text : String) : Bool := r.searchFrom none text.toList

/-- `pattern.findall(text)` for a pattern without groups that matches no empty
text; `skip` is how many characters of a match are still to be passed. -/
def findFrom (r : Regex) : Nat → Option Char → List Char → List String
  | _, _, [] => []
  | skip + 1, _, c :: rest => findFrom r skip (some c) rest
  | 0, before, c :: rest =>
    match r.matchLength (before, c :: rest) with
    | some (n + 1) => String.ofList ((c :: rest).take (n + 1)) :: findFrom r n (some c) rest
    | _ => findFrom r 0 (some c) rest

/-- `pattern.findall(text)`. -/
def findAll (r : Regex) (text : String) : List String := r.findFrom 0 none text.toList

/-- Matches do not overlap, so there are no more of them than characters. -/
theorem length_findFrom (r : Regex) : ∀ (text : List Char) (skip : Nat) (before : Option Char),
    (r.findFrom skip before text).length ≤ text.length
  | [], skip, before => by simp [findFrom]
  | c :: rest, 0, before => by
    unfold findFrom
    split
    next n _ =>
      have ih := length_findFrom r rest n (some c)
      rw [List.length_cons, List.length_cons]
      omega
    · have ih := length_findFrom r rest 0 (some c)
      rw [List.length_cons]
      omega
  | c :: rest, skip + 1, before => by
    have ih := length_findFrom r rest skip (some c)
    rw [findFrom, List.length_cons]
    omega

theorem length_findAll (r : Regex) (text : String) : (r.findAll text).length ≤ text.length := by
  rw [← String.length_toList]
  exact length_findFrom r text.toList 0 none

/-! ## Shorthands -/

def char (c : Char) : Regex := set (· == c)

/-- `r?`. -/
def opt (r : Regex) : Regex := alt r empty

/-- `r+`. -/
def plus (r : Regex) : Regex := seq r (star r)

/-- The patterns in order. -/
def all : List Regex → Regex
  | [] => empty
  | [r] => r
  | r :: rest => seq r (all rest)

/-- `(?:r|…)`. -/
def any : List Regex → Regex
  | [] => set fun _ => false
  | [r] => r
  | r :: rest => alt r (any rest)

/-- A literal under `re.IGNORECASE`. -/
def letters (u : CharacterDatabase) (text : String) : Regex :=
  all (text.toList.map fun c => set (u.sameLetter c))

/-- `\s+`. -/
def spaces (u : CharacterDatabase) : Regex := plus (set u.isSpace)

/-- `\d`. -/
def digit (u : CharacterDatabase) : Regex := set fun c => (u.decimal c).isSome

/-- `\b`. -/
def wordBoundary (u : CharacterDatabase) : Regex :=
  assert fun before after => before.any u.isWord != after.any u.isWord

/-- `(?<![…])`. -/
def notBehind (accepts : Char → Bool) : Regex := assert fun before _ => !before.any accepts

/-- `(?![…])`. -/
def notAhead (accepts : Char → Bool) : Regex := assert fun _ after => !after.any accepts

end Regex
