import Mathlib.Data.String.Basic

/-!
# Characters and texts as Python classifies them

What Python's `re` and `str` read from the Unicode database (`\w`, `\s`, `\d`, the
case of a letter) changes with its version, so it is a `CharacterDatabase`, a
parameter of whatever uses it; `ascii` is that database on ASCII text.
-/

/-- The Unicode properties that Python's `re` and `str` methods read. -/
structure CharacterDatabase where
  /-- `\w`. -/
  isWord : Char → Bool
  /-- `\s`, and `str.isspace` of one character. -/
  isSpace : Char → Bool
  /-- The value of a decimal digit; `\d` is its domain. -/
  decimal : Char → Option Nat
  /-- Equality under `re.IGNORECASE`. -/
  sameLetter : Char → Char → Bool
  /-- `str.casefold`. -/
  casefold : String → String
  /-- `str.isprintable` of one character. -/
  isPrintable : Char → Bool

namespace CharacterDatabase

/-- The database on ASCII text. -/
def ascii : CharacterDatabase where
  isWord c := c.isAlphanum || c == '_'
  isSpace c := c == ' ' || (9 ≤ c.toNat && c.toNat ≤ 13) || (28 ≤ c.toNat && c.toNat ≤ 31)
  decimal c := if c.isDigit then some (c.toNat - '0'.toNat) else none
  sameLetter a b := a.toLower == b.toLower
  casefold := String.toLower
  isPrintable c := 32 ≤ c.toNat && c.toNat ≤ 126

/-- What every version of the database says of the space: white space, no digit, and
the same letter as no other character. -/
structure PlainSpace (u : CharacterDatabase) : Prop where
  isSpace : u.isSpace ' ' = true
  noDigit : u.decimal ' ' = none
  noLetter : ∀ c, u.sameLetter c ' ' = true → c = ' '

theorem ascii_plainSpace : ascii.PlainSpace where
  isSpace := rfl
  noDigit := rfl
  noLetter c h := by
    have hlower : c.toLower = ' ' := by simpa [ascii] using h
    unfold Char.toLower at hlower
    split at hlower
    next hupper =>
      have hval : (c.val.toNat + 32) % 2 ^ 32 = 32 :=
        congrArg (fun d : Char => d.val.toNat) hlower
      have hle : 65 ≤ c.val.toNat := UInt32.le_iff_toNat_le.mp hupper.1
      have hge : c.val.toNat ≤ 90 := UInt32.le_iff_toNat_le.mp hupper.2
      omega
    next => exact hlower

end CharacterDatabase

/-! ## Texts -/

namespace Text

/-- `needle in text`. -/
def contains (text needle : String) : Bool :=
  text.toList.tails.any fun tail => needle.toList.isPrefixOf tail

/-- `separator.join(parts)`. -/
def join (separator : String) (parts : List String) : String := separator.intercalate parts

/-- `text.split()`: the words between white space, `word` being the one read. -/
def splitWords (u : CharacterDatabase) : List Char → List Char → List String
  | word, [] => if word = [] then [] else [String.ofList word.reverse]
  | word, c :: rest =>
    if u.isSpace c then
      if word = [] then splitWords u [] rest
      else String.ofList word.reverse :: splitWords u [] rest
    else splitWords u (c :: word) rest

/-- `text.split()`. -/
def split (u : CharacterDatabase) (text : String) : List String := splitWords u [] text.toList

/-- `text.rstrip()`. -/
def rstrip (u : CharacterDatabase) (text : String) : String :=
  String.ofList (text.toList.reverse.dropWhile u.isSpace).reverse

example : split .ascii " a\tbc  d " = ["a", "bc", "d"] := by decide

end Text
