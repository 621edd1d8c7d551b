import Mathlib.Data.List.Forall2
import FinanceResearch.Lib.Regex

/-!
# Patterns that do not cross a separator

When a pattern matches no text with the character `c` in it, and its assertions
take `c` for the end of the text, then the matches in texts joined with `c` are
the matches in the parts (`findAll_join`). A position of the joined text and the
one of the part are related by `Near`: they have the same text before the next
separator.
-/

namespace Regex

/-- The pattern takes `c` for an end of the text. -/
def Stops (c : Char) : Regex → Prop
  | empty => True
  | set accepts => accepts c = false
  | seq first second => first.Stops c ∧ second.Stops c
  | alt first second => first.Stops c ∧ second.Stops c
  | star body => body.Stops c
  | assert holds => (∀ after, holds (some c) after = holds none after) ∧
      ∀ before, holds before (some c) = holds before none

/-- Two positions that differ in what a separator hides: `tail`, behind the text, and
the separator before it. -/
structure Near (c : Char) (tail : List Char) (p q : Position) : Prop where
  text : p.2 = q.2 ++ tail
  before : p.1 = q.1 ∨ p.1 = some c ∧ q.1 = none

variable {c : Char} {tail : List Char} {p q : Position}

theorem Near.length (h : Near c tail p q) : p.2.length = q.2.length + tail.length := by
  rw [h.text, List.length_append]

/-- The iterations that consume something are those of both. -/
theorem forall₂_filter_shorter {ps qs : List Position} (h : List.Forall₂ (Near c tail) ps qs)
    (hpq : Near c tail p q) :
    List.Forall₂ (Near c tail) (ps.filter fun p' => p'.2.length < p.2.length)
      (qs.filter fun q' => q'.2.length < q.2.length) := by
  induction h with
  | nil => exact .nil
  | @cons p' q' ps qs hnear _ ih =>
    have hp := hnear.length
    have hq := hpq.length
    by_cases hlt : q'.2.length < q.2.length
    · rw [List.filter_cons_of_pos (by simpa using by omega),
        List.filter_cons_of_pos (by simpa using hlt)]
      exact .cons hnear ih
    · rw [List.filter_cons_of_neg (by simpa using by omega),
        List.filter_cons_of_neg (by simpa using hlt)]
      exact ih

theorem forall₂_flatMap {α : Type} {R S : α → α → Prop} {f g : α → List α} {xs ys : List α}
    (h : List.Forall₂ R xs ys)
    (hf : ∀ x ∈ xs, ∀ y ∈ ys, R x y → List.Forall₂ S (f x) (g y)) :
    List.Forall₂ S (xs.flatMap f) (ys.flatMap g) := by
  induction h with
  | nil => exact .nil
  | cons hxy _ ih =>
    rw [List.flatMap_cons, List.flatMap_cons]
    exact List.rel_append (hf _ List.mem_cons_self _ List.mem_cons_self hxy)
      (ih fun x hx y hy => hf x (List.mem_cons_of_mem _ hx) y (List.mem_cons_of_mem _ hy))

/-- Repetition, with any fuel that covers the texts. -/
theorem starEnds_near {body : Position → List Position}
    (hbody : ∀ {p q : Position}, Near c tail p q → List.Forall₂ (Near c tail) (body p) (body q)) :
    ∀ (m n : Nat) {p q : Position}, Near c tail p q → q.2.length ≤ m → p.2.length ≤ n →
      List.Forall₂ (Near c tail) (starEnds body n p) (starEnds body m q)
  | 0, 0, p, q, h, _, _ => .cons h .nil
  | 0, n + 1, p, q, h, hm, _ => by
    have hfilter := forall₂_filter_shorter (hbody h) h
    have hnone : (body q).filter (fun q' => q'.2.length < q.2.length) = [] := by
      rw [List.filter_eq_nil_iff]
      intro q' _
      simp only [decide_eq_true_eq]
      omega
    rw [hnone, List.forall₂_nil_right_iff] at hfilter
    simp only [starEnds, hfilter, List.flatMap_nil, List.nil_append]
    exact .cons h .nil
  | m + 1, 0, p, q, h, _, hn => by
    have hlength := h.length
    have hnone : (body q).filter (fun q' => q'.2.length < q.2.length) = [] := by
      rw [List.filter_eq_nil_iff]
      intro q' _
      simp only [decide_eq_true_eq]
      omega
    rw [starEnds, starEnds, hnone]
    exact .cons h .nil
  | m + 1, n + 1, p, q, h, hm, hn => by
    rw [starEnds, starEnds]
    refine List.rel_append ?_ (.cons h .nil)
    refine forall₂_flatMap (forall₂_filter_shorter (hbody h) h) ?_
    intro p' hp' q' hq' hnear
    have hp := (List.mem_filter.mp hp').2
    have hq := (List.mem_filter.mp hq').2
    simp only [decide_eq_true_eq] at hp hq
    exact starEnds_near hbody m n hnear (by omega) (by omega)

/-- Matches from related positions end at related positions. -/
theorem ends_near {r : Regex} (hr : r.Stops c) (htail : ∀ d ∈ tail.head?, d = c) :
    ∀ {p q : Position}, Near c tail p q → List.Forall₂ (Near c tail) (r.ends p) (r.ends q) := by
  induction r with
  | empty => exact fun h => .cons h .nil
  | set accepts =>
    rintro ⟨before, text⟩ ⟨before', text'⟩ ⟨htext, -⟩
    simp only at htext
    subst htext
    cases text' with
    | cons d rest =>
      simp only [ends, List.cons_append]
      split
      · exact .cons ⟨rfl, Or.inl rfl⟩ .nil
      · exact .nil
    | nil =>
      cases htail' : tail with
      | nil => exact .nil
      | cons d rest =>
        have hd : d = c := htail d (by rw [htail']; rfl)
        have hnot : accepts d = false := by rw [hd]; exact hr
        simp only [ends, List.nil_append, hnot, Bool.false_eq_true, if_false]
        exact .nil
  | seq first second ihf ihs =>
    intro p q h
    exact forall₂_flatMap (ihf hr.1 h) fun _ _ _ _ hnear => ihs hr.2 hnear
  | alt first second ihf ihs =>
    intro p q h
    exact List.rel_append (ihf hr.1 h) (ihs hr.2 h)
  | star body ih =>
    intro p q h
    exact starEnds_near (ih hr) _ _ h (Nat.le_refl _) (Nat.le_refl _)
  | assert holds =>
    rintro p q h
    have hbefore : holds p.1 p.2.head? = holds q.1 p.2.head? := by
      rcases h.before with heq | ⟨hp, hq⟩
      · rw [heq]
      · rw [hp, hq, hr.1]
    have hafter : holds q.1 p.2.head? = holds q.1 q.2.head? := by
      rw [h.text, List.head?_append]
      cases hq : q.2.head? with
      | some d => rfl
      | none =>
        cases htail' : tail.head? with
        | none => rfl
        | some d => rw [htail d htail', Option.none_or, hr.2]
    simp only [ends, hbefore, hafter]
    split
    · exact .cons h .nil
    · exact .nil

theorem matchLength_near {r : Regex} (hr : r.Stops c) (htail : ∀ d ∈ tail.head?, d = c)
    (h : Near c tail p q) : r.matchLength p = r.matchLength q := by
  have hends := ends_near hr htail h
  have hlength := h.length
  unfold matchLength
  generalize r.ends p = ps at hends
  generalize r.ends q = qs at hends
  cases hends with
  | nil => rfl
  | cons hnear _ =>
    have hnear := hnear.length
    simp only [List.head?_cons, Option.map_some, Option.some.injEq]
    omega

/-- The matches before a separator, and those behind it. -/
theorem findFrom_append {r : Regex} (hr : r.Stops c) {rest : List Char} :
    ∀ (text : List Char) (skip : Nat) (before before' : Option Char), skip ≤ text.length →
      before = before' ∨ before = some c ∧ before' = none →
      r.findFrom skip before (text ++ c :: rest) =
        r.findFrom skip before' text ++ r.findFrom 0 (some c) rest
  | [], skip, before, before', hskip, hbefore => by
    obtain rfl : skip = 0 := Nat.le_zero.mp hskip
    have hmatch : r.matchLength (before, c :: rest) = r.matchLength (before', []) :=
      matchLength_near hr (by simp) ⟨rfl, hbefore⟩
    have hempty : ∀ n, r.matchLength (before', []) ≠ some (n + 1) := by
      intro n h
      unfold matchLength at h
      obtain ⟨q, -, hq⟩ := Option.map_eq_some_iff.mp h
      simp at hq
    simp only [List.nil_append, findFrom, hmatch]
  | d :: text, skip + 1, before, before', hskip, _ => by
    rw [List.cons_append, findFrom, findFrom]
    exact findFrom_append hr text skip _ _ (Nat.le_of_succ_le_succ hskip) (Or.inl rfl)
  | d :: text, 0, before, before', _, hbefore => by
    have hmatch : r.matchLength (before, d :: text ++ c :: rest) =
        r.matchLength (before', d :: text) :=
      matchLength_near hr (by simp) ⟨rfl, hbefore⟩
    have hbound : ∀ n, r.matchLength (before', d :: text) = some (n + 1) → n ≤ text.length := by
      intro n h
      unfold matchLength at h
      obtain ⟨q, -, hq⟩ := Option.map_eq_some_iff.mp h
      rw [List.length_cons] at hq
      omega
    rw [List.cons_append] at hmatch
    rw [List.cons_append, findFrom, findFrom, hmatch]
    cases hn : r.matchLength (before', d :: text) with
    | none => exact findFrom_append hr text 0 _ _ (Nat.zero_le _) (Or.inl rfl)
    | some n =>
      cases n with
      | zero => exact findFrom_append hr text 0 _ _ (Nat.zero_le _) (Or.inl rfl)
      | succ n =>
        have hle := hbound n hn
        simp only [List.cons_append, List.take_succ_cons]
        rw [findFrom_append hr text n _ _ hle (Or.inl rfl), List.take_append_of_le_length hle]

/-- A separator before the text is no more than its beginning. -/
theorem findFrom_start {r : Regex} (hr : r.Stops c) :
    ∀ (text : List Char) (skip : Nat) (before before' : Option Char),
      before = before' ∨ before = some c ∧ before' = none →
      r.findFrom skip before text = r.findFrom skip before' text
  | [], skip, before, before', _ => by
    cases skip <;> rfl
  | d :: text, skip + 1, before, before', _ => rfl
  | d :: text, 0, before, before', hbefore => by
    have hnear : Near c [] (before, d :: text) (before', d :: text) :=
      ⟨(List.append_nil _).symm, hbefore⟩
    have hmatch : r.matchLength (before, d :: text) = r.matchLength (before', d :: text) :=
      matchLength_near hr (by simp) hnear
    rw [findFrom, findFrom, hmatch]

/-- **The matches in a joined text are those in its parts.** -/
theorem findAll_join {r : Regex} (hr : r.Stops c) :
    ∀ parts : List String, r.findAll (Text.join (String.singleton c) parts) = parts.flatMap r.findAll
  | [] => by simp [Text.join, findAll, findFrom]
  | [part] => by simp [Text.join]
  | part :: next :: rest => by
    have ih := findAll_join hr (next :: rest)
    rw [List.flatMap_cons, ← ih]
    simp only [findAll, Text.join, String.toList_intercalate, List.map_cons,
      List.intercalate_cons_cons]
    rw [String.toList_singleton, List.append_assoc, List.singleton_append,
      findFrom_append hr _ 0 none none (Nat.zero_le _) (Or.inl rfl),
      findFrom_start hr _ 0 (some c) none (Or.inr ⟨rfl, rfl⟩)]

end Regex
