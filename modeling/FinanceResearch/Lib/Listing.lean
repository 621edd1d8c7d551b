import Mathlib.Data.String.Basic
import Mathlib.Data.List.Sort
import Mathlib.Data.List.TakeWhile

/-!
# A directory of files read back in name order

A log kept as one file per entry is written with `os.replace` under a name the
writer chooses and read back by sorting the names. `write` is the atomic
replacement, `inNameOrder` the sorted read. The rules below say when reading
keeps the order of writing: a name above every present one is read back last
(`inNameOrder_write_last`), and whatever the order of writing was, the entry
with the greatest name is the last one read (`getLast?_inNameOrder`).
-/

namespace Listing

variable {α : Type}

/-- The files of one directory, in order of creation. -/
abbrev Files (α : Type) := List (String × α)

/-- `os.replace` onto `name`: an earlier file of that name is gone. -/
def write (files : Files α) (name : String) (content : α) : Files α :=
  files.filter (fun f => f.1 ≠ name) ++ [(name, content)]

/-- The names present. -/
def names (files : Files α) : List String := files.map Prod.fst

/-- `sorted(directory.glob(...))`: by name. -/
def inNameOrder (files : Files α) : Files α :=
  files.insertionSort (fun f g => f.1 ≤ g.1)

/-- A fresh name replaces nothing. -/
theorem write_of_fresh {files : Files α} {name : String} {content : α}
    (h : name ∉ names files) : write files name content = files ++ [(name, content)] := by
  unfold write
  congr 1
  apply List.filter_eq_self.mpr
  intro f hf
  simp only [ne_eq, decide_not, Bool.not_eq_true', decide_eq_false_iff_not]
  intro he
  exact h (List.mem_map.mpr ⟨f, hf, he⟩)

theorem inNameOrder_perm (files : Files α) : (inNameOrder files).Perm files :=
  List.perm_insertionSort _ _

theorem mem_inNameOrder {files : Files α} {f : String × α} :
    f ∈ inNameOrder files ↔ f ∈ files :=
  (inNameOrder_perm files).mem_iff

theorem inNameOrder_length (files : Files α) : (inNameOrder files).length = files.length :=
  (inNameOrder_perm files).length_eq

instance instTotalNames : Std.Total (fun f g : String × α => f.1 ≤ g.1) := ⟨fun f g => le_total f.1 g.1⟩

instance instTransNames : IsTrans (String × α) (fun f g => f.1 ≤ g.1) := ⟨fun _ _ _ h k => le_trans h k⟩

theorem inNameOrder_pairwise (files : Files α) :
    (inNameOrder files).Pairwise (fun f g => f.1 ≤ g.1) :=
  List.pairwise_insertionSort _ files

/-- With distinct names, a name-ordered arrangement of the files is the reading. -/
theorem eq_inNameOrder {files sorted : Files α} (hnd : (names files).Nodup)
    (hp : sorted.Perm files) (hs : sorted.Pairwise (fun f g => f.1 ≤ g.1)) :
    inNameOrder files = sorted := by
  refine List.Perm.eq_of_pairwise ?_ (inNameOrder_pairwise files) hs
    ((inNameOrder_perm files).trans hp.symm)
  intro f g hf hg hfg hgf
  exact List.inj_on_of_nodup_map hnd (mem_inNameOrder.mp hf) (hp.mem_iff.mp hg)
    (le_antisymm hfg hgf)

/-- Files created under increasing names are read in order of creation. -/
theorem inNameOrder_eq_self {files : Files α} (h : files.Pairwise (fun f g => f.1 < g.1)) :
    inNameOrder files = files := by
  refine eq_inNameOrder ?_ (List.Perm.refl _) (h.imp le_of_lt)
  unfold names List.Nodup
  rw [List.pairwise_map]
  exact h.imp ne_of_lt

theorem names_nodup_append {files : Files α} {name : String} {content : α}
    (hnd : (names files).Nodup) (hfresh : name ∉ names files) :
    (names (files ++ [(name, content)])).Nodup := by
  unfold names at *
  rw [List.map_append, List.nodup_append]
  refine ⟨hnd, List.nodup_singleton _, ?_⟩
  intro a ha b hb he
  rw [List.map_singleton, List.mem_singleton] at hb
  rw [he, hb] at ha
  exact hfresh ha

/-- A new file is read at its place: after the smaller names, before the others. -/
theorem inNameOrder_write_insert {files : Files α} {name : String} {content : α}
    (hnd : (names files).Nodup) (hfresh : name ∉ names files) :
    inNameOrder (files ++ [(name, content)]) =
      (inNameOrder files).takeWhile (fun f => ¬ name ≤ f.1) ++
        (name, content) :: (inNameOrder files).dropWhile (fun f => ¬ name ≤ f.1) := by
  have hcons := List.insertionSort_cons_eq_take_drop
    (r := fun f g : String × α => f.1 ≤ g.1) (name, content) files
  have hswap : inNameOrder (files ++ [(name, content)]) = inNameOrder ((name, content) :: files) :=
    eq_inNameOrder (names_nodup_append hnd hfresh)
      ((inNameOrder_perm _).trans (List.perm_append_singleton _ _).symm) (inNameOrder_pairwise _)
  rw [hswap]
  exact hcons

/-- A file whose name is above every present name is read back last. -/
theorem inNameOrder_write_last {files : Files α} {name : String} {content : α}
    (hnd : (names files).Nodup) (h : ∀ n ∈ names files, n < name) :
    inNameOrder (files ++ [(name, content)]) = inNameOrder files ++ [(name, content)] := by
  have hbelow : ∀ f ∈ inNameOrder files, decide (¬ name ≤ f.1) = true := fun f hf =>
    decide_eq_true (not_le.mpr (h _ (List.mem_map.mpr ⟨f, mem_inNameOrder.mp hf, rfl⟩)))
  rw [inNameOrder_write_insert hnd fun hm => lt_irrefl _ (h _ hm),
    List.takeWhile_eq_self_iff.mpr hbelow, List.dropWhile_eq_nil_iff.mpr hbelow]

/-- The last file read is the one with the greatest name. -/
theorem getLast?_inNameOrder {files : Files α} {f : String × α} (hnd : (names files).Nodup)
    (hf : f ∈ files) (hmax : ∀ n ∈ names files, n ≤ f.1) :
    (inNameOrder files).getLast? = some f := by
  have hmem := mem_inNameOrder.mpr hf
  have hne : inNameOrder files ≠ [] := List.ne_nil_of_mem hmem
  rw [List.getLast?_eq_some_getLast hne]
  congr 1
  have hlast := List.getLast_mem hne
  have hle : f.1 ≤ ((inNameOrder files).getLast hne).1 := by
    rcases eq_or_ne f ((inNameOrder files).getLast hne) with he | hne'
    · exact le_of_eq (congrArg Prod.fst he)
    · have hsplit := List.dropLast_append_getLast hne
      have hpw := inNameOrder_pairwise files
      rw [← hsplit, List.pairwise_append] at hpw
      have hin : f ∈ (inNameOrder files).dropLast := by
        rw [← hsplit, List.mem_append, List.mem_singleton] at hmem
        exact hmem.resolve_right hne'
      exact hpw.2.2 f hin _ (List.mem_singleton.mpr rfl)
  exact List.inj_on_of_nodup_map hnd (mem_inNameOrder.mp hlast) hf
    (le_antisymm (hmax _ (List.mem_map.mpr ⟨_, mem_inNameOrder.mp hlast, rfl⟩)) hle)

end Listing
