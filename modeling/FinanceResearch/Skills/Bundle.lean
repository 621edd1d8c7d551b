import Mathlib.Data.List.Sort
import FinanceResearch.Domain.Models
import FinanceResearch.Lib.Fallible
import FinanceResearch.Lib.Frames

/-!
# Skill bundles

`compute_skill_version` of `application/skill_bundle.py`: the files of a bundle, sorted by
their encoded paths, as one stream of framed paths and contents whose hash is the version.

Two accepted bundles have one stream exactly when they are one map from path to bytes
(`skillStream_eq_iff`).

Mirroring notes vs the source:
- The updates of the digest are one stream.
- A `str` with a lone surrogate, which `validate_logical_path` refuses, and contents that
  are not `bytes` are not represented.
-/

namespace FinanceResearch.Skills

open Fallible

/-- What computing the version raises. -/
inductive SkillError where
  | unsafePath
  | duplicatePath
  | skillRequired
  | overflow
  deriving DecidableEq, Repr

/-- `re.match(r"^[A-Za-z]:", path)`. -/
def hasDrive : List Char → Bool
  | letter :: ':' :: _ => letter.isAlpha
  | _ => false

/-- The parts that no logical path has. -/
def unsafeParts : List (List Char) := [[], ['.'], ['.', '.']]

/-- What `validate_logical_path` refuses. -/
def isUnsafe (path : String) : Bool :=
  let text := path.toList
  text.isEmpty || text.contains '\\' || text.contains (Char.ofNat 0) || hasDrive text ||
    (text.splitOn '/').any fun part => unsafeParts.contains part

/-- `validate_logical_path`. -/
def validateLogicalPath (path : String) : Except SkillError String :=
  if isUnsafe path then throw .unsafePath else pure path

/-- A file of a bundle. -/
abbrev SkillFile := String × Bytes

/-- The body of the first loop of `compute_skill_version`. -/
def addFile (validated : List SkillFile) (entry : SkillFile) : Except SkillError (List SkillFile) := do
  let path ← validateLogicalPath entry.1
  if path ∈ validated.map Prod.fst then throw .duplicatePath
  else pure (validated ++ [(path, entry.2)])

/-- The bytes of an encoded path. -/
def pathBytes (path : String) : List UInt8 := (encode path).data.toList

/-- `len(payload).to_bytes(8, "big")` and the payload. -/
def framed (payload : List UInt8) : Except SkillError (List UInt8) :=
  if payload.length < 2 ^ 64 then pure (Frames.frame 8 payload) else throw .overflow

/-- `sorted(validated, key=lambda value: value.encode("utf-8"))`, with the contents. -/
def sortedFiles (files : List SkillFile) : List SkillFile :=
  files.insertionSort fun a b => pathBytes a.1 ≤ pathBytes b.1

/-- What the last loop feeds to the digest. -/
def streamOf (files : List SkillFile) : Except SkillError (List UInt8) := do
  let frames ← (sortedFiles files).mapM fun file => do
    let path ← framed (pathBytes file.1)
    let content ← framed file.2.data.toList
    pure (path ++ content)
  pure frames.flatten

/-- What `compute_skill_version` feeds to the digest. -/
def skillStream (entries : List SkillFile) : Except SkillError (List UInt8) := do
  let validated ← entries.foldlM addFile []
  if "SKILL.md" ∈ validated.map Prod.fst then streamOf validated else throw .skillRequired

/-- `compute_skill_version`. -/
def computeSkillVersion (entries : List SkillFile) : Except SkillError String := do
  let stream ← skillStream entries
  pure ("sha256:" ++ sha256 ⟨stream.toArray⟩)

/-! ## Accepted bundles -/

/-- What the first loop accepts: safe paths, each once. -/
theorem foldlM_addFile {entries : List SkillFile} : ∀ {validated files : List SkillFile},
    entries.foldlM addFile validated = .ok files ↔
      (∀ e ∈ entries, isUnsafe e.1 = false ∧ e.1 ∉ validated.map Prod.fst) ∧
        (entries.map Prod.fst).Nodup ∧ files = validated ++ entries := by
  induction entries with
  | nil =>
    intro validated files
    constructor
    · intro h
      cases h
      exact ⟨nofun, .nil, (List.append_nil _).symm⟩
    · intro h
      rw [h.2.2, List.append_nil]
      rfl
  | cons e entries ih =>
    intro validated files
    rw [List.foldlM_cons, List.forall_mem_cons, List.map_cons, List.nodup_cons]
    unfold addFile validateLogicalPath
    by_cases hsafe : isUnsafe e.1 = true
    · rw [if_pos hsafe]
      constructor
      · nofun
      · intro h
        rw [hsafe] at h
        exact absurd h.1.1.1 (by decide)
    · rw [if_neg hsafe]
      rw [Bool.not_eq_true] at hsafe
      by_cases hmem : e.1 ∈ validated.map Prod.fst
      · show ((if e.1 ∈ validated.map Prod.fst then _ else _) >>= _) = _ ↔ _
        rw [if_pos hmem]
        exact ⟨nofun, fun h => absurd hmem h.1.1.2⟩
      · show ((if e.1 ∈ validated.map Prod.fst then _ else _) >>= _) = _ ↔ _
        rw [if_neg hmem]
        show entries.foldlM addFile (validated ++ [e]) = .ok files ↔ _
        rw [ih, List.append_assoc, List.map_append, List.map_singleton]
        simp only [List.mem_append, List.mem_singleton, not_or]
        constructor
        · intro h
          obtain ⟨hall, hnodup, hfiles⟩ := h
          refine ⟨⟨⟨hsafe, hmem⟩, fun f hf => ⟨(hall f hf).1, (hall f hf).2.1⟩⟩,
            ⟨?_, hnodup⟩, hfiles⟩
          intro hkey
          obtain ⟨f, hf, hfe⟩ := List.mem_map.mp hkey
          exact (hall f hf).2.2 hfe
        · intro h
          obtain ⟨⟨-, hall⟩, ⟨hkey, hnodup⟩, hfiles⟩ := h
          refine ⟨fun f hf => ⟨(hall f hf).1, (hall f hf).2, ?_⟩, hnodup, hfiles⟩
          intro hfe
          exact hkey (List.mem_map.mpr ⟨f, hf, hfe⟩)

/-- The payloads of a file, in the order of their frames. -/
def payloads (file : SkillFile) : List (List UInt8) := [pathBytes file.1, file.2.data.toList]

theorem framed_eq_ok {payload bytes : List UInt8} : framed payload = .ok bytes ↔
    payload.length < 2 ^ 64 ∧ bytes = Frames.frame 8 payload := by
  unfold framed
  by_cases h : payload.length < 2 ^ 64
  · rw [if_pos h]
    constructor
    · intro he
      cases he
      exact ⟨h, rfl⟩
    · intro he
      rw [he.2]
      rfl
  · rw [if_neg h]
    exact ⟨nofun, fun he => absurd he.1 h⟩

/-- The stream is the frames of all payloads, each of which fits its length. -/
theorem streamOf_eq_ok {files : List SkillFile} {stream : List UInt8}
    (h : streamOf files = .ok stream) :
    (∀ p ∈ (sortedFiles files).flatMap payloads, p.length < 256 ^ 8) ∧
      stream = ((sortedFiles files).flatMap payloads).flatMap (Frames.frame 8) := by
  unfold streamOf at h
  generalize sortedFiles files = sorted at h ⊢
  obtain ⟨frames, hframes, hstream⟩ := bind_eq_ok.mp h
  cases hstream
  have hall := mapM_eq_ok.mp hframes
  clear h hframes
  induction hall with
  | nil => exact ⟨nofun, rfl⟩
  | cons hfile _ ih =>
    obtain ⟨path, hpath, hfile⟩ := bind_eq_ok.mp hfile
    obtain ⟨content, hcontent, hfile⟩ := bind_eq_ok.mp hfile
    cases hfile
    obtain ⟨hsmall, rfl⟩ := framed_eq_ok.mp hpath
    obtain ⟨hsmall', rfl⟩ := framed_eq_ok.mp hcontent
    refine ⟨?_, ?_⟩
    · intro p hp
      rw [List.flatMap_cons, List.mem_append] at hp
      rcases hp with hp | hp
      · rcases List.mem_cons.mp hp with hp | hp
        · rw [hp]
          exact hsmall
        · rw [List.mem_singleton.mp hp]
          exact hsmall'
      · exact ih.1 p hp
    · rw [List.flatten_cons, ih.2, List.flatMap_cons, List.flatMap_append]
      show _ = (Frames.frame 8 _ ++ (Frames.frame 8 _ ++ [])) ++ _
      rw [List.append_nil]

/-- What an accepted bundle is, and its stream. -/
theorem skillStream_spec {entries : List SkillFile} {stream : List UInt8}
    (h : skillStream entries = .ok stream) : (entries.map Prod.fst).Nodup ∧
      (∀ p ∈ (sortedFiles entries).flatMap payloads, p.length < 256 ^ 8) ∧
      stream = ((sortedFiles entries).flatMap payloads).flatMap (Frames.frame 8) := by
  obtain ⟨files, hfiles, h⟩ := bind_eq_ok.mp h
  obtain ⟨-, hnodup, hsame⟩ := foldlM_addFile.mp hfiles
  rw [hsame, List.nil_append] at h
  by_cases hskill : "SKILL.md" ∈ entries.map Prod.fst
  · rw [if_pos hskill] at h
    exact ⟨hnodup, streamOf_eq_ok h⟩
  · rw [if_neg hskill] at h
    cases h

/-! ## Streams and maps -/

theorem pathBytes_injective {p q : String} (h : pathBytes p = pathBytes q) : p = q := by
  apply encode_injective
  exact congrArg ByteArray.mk (Array.toList_inj.mp h)

theorem content_injective {a b : Bytes} (h : a.data.toList = b.data.toList) : a = b :=
  congrArg ByteArray.mk (Array.toList_inj.mp h)

/-- The payloads say which files there are. -/
theorem flatMap_payloads_injective : ∀ {left right : List SkillFile},
    left.flatMap payloads = right.flatMap payloads → left = right := by
  intro left
  induction left with
  | nil =>
    intro right h
    cases right with
    | nil => rfl
    | cons g right => cases h
  | cons f left ih =>
    intro right h
    cases right with
    | nil => cases h
    | cons g right =>
      have hparts : pathBytes f.1 = pathBytes g.1 ∧ f.2.data.toList = g.2.data.toList ∧
          left.flatMap payloads = right.flatMap payloads := by
        have hcons : pathBytes f.1 :: f.2.data.toList :: left.flatMap payloads =
          pathBytes g.1 :: g.2.data.toList :: right.flatMap payloads := h
        rw [List.cons.injEq, List.cons.injEq] at hcons
        exact hcons
      obtain ⟨hpath, hcontent, hrest⟩ := hparts
      rw [Prod.ext (pathBytes_injective hpath) (content_injective hcontent), ih hrest]

/-- A map from path to bytes, read off its entries. -/
theorem lookup_eq_some {files : List SkillFile} (h : (files.map Prod.fst).Nodup) {path : String}
    {content : Bytes} : files.lookup path = some content ↔ (path, content) ∈ files := by
  induction files with
  | nil => exact ⟨nofun, nofun⟩
  | cons f files ih =>
    rw [List.map_cons, List.nodup_cons] at h
    rw [List.lookup_cons, List.mem_cons]
    by_cases hpath : path = f.1
    · rw [hpath, beq_self_eq_true]
      constructor
      · intro he
        rw [← Option.some.inj he]
        exact Or.inl rfl
      · intro he
        rcases he with he | he
        · rw [← he]
        · exact absurd (List.mem_map.mpr ⟨_, he, rfl⟩) h.1
    · have hbeq : (path == f.1) = false := beq_eq_false_iff_ne.mpr hpath
      rw [hbeq]
      show files.lookup path = some content ↔ _
      rw [ih h.2]
      constructor
      · exact Or.inr
      · intro he
        rcases he with he | he
        · exact absurd (congrArg Prod.fst he) hpath
        · exact he

/-- One map has one list of sorted files. -/
theorem sortedFiles_eq_iff {left right : List SkillFile} (hleft : (left.map Prod.fst).Nodup)
    (hright : (right.map Prod.fst).Nodup) :
    sortedFiles left = sortedFiles right ↔ ∀ path, left.lookup path = right.lookup path := by
  have htotal : Std.Total fun a b : SkillFile => pathBytes a.1 ≤ pathBytes b.1 :=
    ⟨fun a b => List.le_total _ _⟩
  have htrans : IsTrans SkillFile fun a b => pathBytes a.1 ≤ pathBytes b.1 :=
    ⟨fun _ _ _ hab hbc => List.le_trans hab hbc⟩
  constructor
  · intro h path
    have hperm : left.Perm right := by
      have hright := List.perm_insertionSort (fun a b => pathBytes a.1 ≤ pathBytes b.1) right
      have hsorted : left.insertionSort (fun a b => pathBytes a.1 ≤ pathBytes b.1) =
        right.insertionSort (fun a b => pathBytes a.1 ≤ pathBytes b.1) := h
      rw [← hsorted] at hright
      exact (List.perm_insertionSort _ left).symm.trans hright
    apply Option.ext
    intro content
    rw [lookup_eq_some hleft, lookup_eq_some hright, hperm.mem_iff]
  · intro h
    have hperm : left.Perm right := by
      refine (List.perm_ext_iff_of_nodup hleft.of_map hright.of_map).mpr fun f => ?_
      rw [← lookup_eq_some hleft, ← lookup_eq_some hright, h]
    refine (((List.perm_insertionSort _ left).trans hperm).trans
      (List.perm_insertionSort _ right).symm).eq_of_pairwise ?_ (List.pairwise_insertionSort _ _)
        (List.pairwise_insertionSort _ _)
    intro f g hf hg hfg hgf
    have hpath : f.1 = g.1 := pathBytes_injective (List.le_antisymm hfg hgf)
    have hf' := hperm.mem_iff.mp ((List.mem_insertionSort _).mp hf)
    have hg' := (List.mem_insertionSort _).mp hg
    exact List.inj_on_of_nodup_map hright hf' hg' hpath

/-- **The framing is injective**: accepted bundles have one stream exactly when they are one
map, in whatever order their files are given. -/
theorem skillStream_eq_iff {left right : List SkillFile} {stream stream' : List UInt8}
    (hleft : skillStream left = .ok stream) (hright : skillStream right = .ok stream') :
    stream = stream' ↔ ∀ path, left.lookup path = right.lookup path := by
  obtain ⟨hnodup, hsmall, rfl⟩ := skillStream_spec hleft
  obtain ⟨hnodup', hsmall', rfl⟩ := skillStream_spec hright
  rw [← sortedFiles_eq_iff hnodup hnodup']
  constructor
  · intro h
    exact flatMap_payloads_injective (Frames.flatMap_frame_injective (by decide) hsmall hsmall' h)
  · intro h
    rw [h]

/-- A bundle of two files, and the same files the other way round. -/
theorem skillStream_eq_iff_two :
    ∃ stream stream',
      skillStream [("SKILL.md", encode "a"), ("b", encode "")] = .ok stream ∧
        skillStream [("b", encode ""), ("SKILL.md", encode "a")] = .ok stream' ∧
        stream = stream' := by
  obtain ⟨stream, hleft, -⟩ := exists_of_map_toOption (f := List.length) (b := 42)
    (x := skillStream [("SKILL.md", encode "a"), ("b", encode "")]) (by decide)
  obtain ⟨stream', hright, -⟩ := exists_of_map_toOption (f := List.length) (b := 42)
    (x := skillStream [("b", encode ""), ("SKILL.md", encode "a")]) (by decide)
  refine ⟨stream, stream', hleft, hright, (skillStream_eq_iff hleft hright).mpr ?_⟩
  intro path
  by_cases hskill : path = "SKILL.md"
  · rw [hskill]
    decide
  · by_cases hb : path = "b"
    · rw [hb]
      decide
    · simp only [List.lookup_cons, beq_eq_false_iff_ne.mpr hskill, beq_eq_false_iff_ne.mpr hb]

end FinanceResearch.Skills
