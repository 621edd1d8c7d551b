import FinanceResearch.Lib.Json
import FinanceResearch.Lib.Calendar

/-!
# Codecs

A way to write values of a type as JSON and to read them back, with the law that
connects the two. A value is `Good` when it can be read back; a codec that can only be
written has no good values. Records are read field by field.
-/

structure Codec (α : Type) where
  write : α → Json
  /-- `none` when the value is refused. -/
  read : Json → Option α
  Good : α → Prop
  write_ne_null : ∀ a, write a ≠ .null
  read_write : ∀ a, Good a → read (write a) = some a

namespace Codec

variable {α β : Type}

/-! ## Values -/

def text : Codec String where
  write s := .str s
  read
    | .str s => some s
    | _ => none
  Good _ := True
  write_ne_null _ := nofun
  read_write _ _ := rfl

@[simp] theorem read_text (s : String) : text.read (.str s) = some s := rfl

def flag : Codec Bool where
  write b := .bool b
  read
    | .bool b => some b
    | _ => none
  Good _ := True
  write_ne_null _ := nofun
  read_write _ _ := rfl

@[simp] theorem read_flag (b : Bool) : flag.read (.bool b) = some b := rfl

def integer : Codec Int where
  write i := .int i
  read
    | .int i => some i
    | _ => none
  Good _ := True
  write_ne_null _ := nofun
  read_write _ _ := rfl

@[simp] theorem read_integer (i : Int) : integer.read (.int i) = some i := rfl

def natural : Codec Nat where
  write n := .int n
  read
    | .int i => if 0 ≤ i then some i.toNat else none
    | _ => none
  Good _ := True
  write_ne_null _ := nofun
  read_write _ _ := rfl

/-- The only member of that name. -/
theorem find_name {all : List α} {name : α → String} (distinct : (all.map name).Nodup) {a : α}
    (h : a ∈ all) : all.find? (fun b => name b = name a) = some a := by
  have hfind : (all.find? fun b => name b = name a).isSome := by
    rw [List.find?_isSome]
    exact ⟨a, h, decide_eq_true rfl⟩
  obtain ⟨b, hb⟩ := Option.isSome_iff_exists.mp hfind
  have hname : name b = name a := by
    have hsome := List.find?_some hb
    simpa using hsome
  have heq := List.inj_on_of_nodup_map distinct (List.mem_of_find?_eq_some hb) h hname
  rw [hb, heq]

/-- A member of a closed vocabulary, by its name. -/
def named (all : List α) (name : α → String) (complete : ∀ a, a ∈ all)
    (distinct : (all.map name).Nodup) : Codec α where
  write a := .str (name a)
  read
    | .str s => all.find? fun a => name a = s
    | _ => none
  Good _ := True
  write_ne_null _ := nofun
  read_write a _ := find_name distinct (complete a)

/-- A value under a condition. -/
def refine (c : Codec α) (p : α → Prop) [DecidablePred p] : Codec { a // p a } where
  write a := c.write a.val
  read j := (c.read j).bind fun a => if h : p a then some ⟨a, h⟩ else none
  Good a := c.Good a.val
  write_ne_null a := c.write_ne_null a.val
  read_write a h := by
    rw [c.read_write _ h, Option.bind_some, dif_pos a.property]

/-- The same values in another form. -/
def iso (c : Codec α) (pack : α → β) (unpack : β → α) (inverse : ∀ b, pack (unpack b) = b) :
    Codec β where
  write b := c.write (unpack b)
  read j := (c.read j).map pack
  Good b := c.Good (unpack b)
  write_ne_null b := c.write_ne_null (unpack b)
  read_write b h := by rw [c.read_write _ h, Option.map_some, inverse]

/-- `value | None`. -/
def writeOptional (c : Codec α) : Option α → Json
  | none => .null
  | some a => c.write a

def readOptional (c : Codec α) (j : Json) : Option (Option α) :=
  if j = .null then some none else (c.read j).map some

theorem readOptional_write (c : Codec α) (value : Option α) (h : ∀ a ∈ value, c.Good a) :
    c.readOptional (c.writeOptional value) = some value := by
  cases value with
  | none => rfl
  | some a =>
    rw [writeOptional, readOptional, if_neg (c.write_ne_null a), c.read_write a (h a rfl)]
    rfl

/-- Every item that was read has a value it was read from. -/
theorem exists_of_mem_mapM {read : β → Option α} : ∀ {values : List β} {items : List α},
    values.mapM read = some items → ∀ a ∈ items, ∃ j ∈ values, read j = some a
  | [], items, h => by
    cases h
    exact fun a ha => absurd ha List.not_mem_nil
  | j :: rest, items, h => by
    rw [List.mapM_cons, Option.bind_eq_bind, Option.bind_eq_some_iff] at h
    obtain ⟨first, hfirst, h⟩ := h
    rw [Option.bind_eq_bind, Option.bind_eq_some_iff] at h
    obtain ⟨others, hothers, h⟩ := h
    cases h
    intro a ha
    rcases List.mem_cons.mp ha with rfl | ha
    · exact ⟨j, List.mem_cons_self, hfirst⟩
    · obtain ⟨k, hk, hread⟩ := exists_of_mem_mapM hothers a ha
      exact ⟨k, List.mem_cons_of_mem _ hk, hread⟩

/-- `tuple[value, ...]`. -/
def list (c : Codec α) : Codec (List α) where
  write items := .arr (items.map c.write)
  read
    | .arr items => items.mapM c.read
    | _ => none
  Good items := ∀ a ∈ items, c.Good a
  write_ne_null _ := nofun
  read_write items h := by
    show (items.map c.write).mapM c.read = some items
    induction items with
    | nil => rfl
    | cons a rest ih =>
      have hrest := ih fun b hb => h b (List.mem_cons_of_mem _ hb)
      rw [List.map_cons, List.mapM_cons, c.read_write a (h a List.mem_cons_self), hrest]
      rfl

/-- `date`: a text is no date. -/
def date : Codec Calendar.Date where
  write d := .str d.isoformat
  read _ := none
  Good _ := False
  write_ne_null _ := nofun
  read_write _ h := h.elim

/-! ## Records -/

/-- The fields of an object that has no others than these. -/
def fields (names : List String) : Json → Option (List (String × Json))
  | .obj items => if items.all fun item => item.1 ∈ names then some items else none
  | _ => none

/-- The fields of a record that has all of them can be looked up. -/
theorem exists_fields (names : List String) (pairs : List (String × Json))
    (h : pairs.map Prod.fst = names) (hnodup : names.Nodup) :
    ∃ items, fields names (.obj pairs) = some items ∧
      ∀ pair ∈ pairs, items.lookup pair.1 = some pair.2 := by
  have hall : pairs.all (fun item => item.1 ∈ names) = true := by
    rw [List.all_eq_true]
    intro item hitem
    rw [← h]
    exact decide_eq_true (List.mem_map_of_mem hitem)
  refine ⟨pairs, if_pos hall, ?_⟩
  rw [← h] at hnodup
  clear h hall
  induction pairs with
  | nil => exact fun pair hpair => absurd hpair List.not_mem_nil
  | cons first rest ih =>
    rw [List.map_cons, List.nodup_cons] at hnodup
    intro pair hpair
    rw [List.lookup_cons]
    rcases List.mem_cons.mp hpair with rfl | hpair
    · simp
    · have hne : pair.1 ≠ first.1 := fun heq =>
        hnodup.1 (heq ▸ List.mem_map_of_mem hpair)
      simp [beq_false_of_ne hne, ih hnodup.2 pair hpair]

/-- A required field. -/
def field (items : List (String × Json)) (name : String) (read : Json → Option α) : Option α :=
  (items.lookup name).bind read

/-- A field with a default. -/
def fieldOr (items : List (String × Json)) (name : String) (read : Json → Option α)
    (default : α) : Option α :=
  match items.lookup name with
  | none => some default
  | some value => read value

theorem field_eq {items : List (String × Json)} {name : String} {read : Json → Option α}
    {value : Json} {a : α} (h : items.lookup name = some value) (hread : read value = some a) :
    field items name read = some a := by
  rw [field, h, Option.bind_some, hread]

theorem fieldOr_eq {items : List (String × Json)} {name : String} {read : Json → Option α}
    {default : α} {value : Json} {a : α} (h : items.lookup name = some value)
    (hread : read value = some a) : fieldOr items name read default = some a := by
  rw [fieldOr, h]
  exact hread

/-- One step of reading a record. -/
theorem bind_ok {x : Option α} {f : α → Option β} {a : α} {b : β} (hx : x = some a)
    (hf : f a = some b) : (x >>= f) = some b := by
  rw [hx]
  exact hf

theorem bind_read {x : Option Json} {read : Json → Option α} {j : Json} {a : α}
    (hx : x = some j) (hread : read j = some a) : x.bind read = some a := by
  rw [hx]
  exact hread

end Codec
