import Mathlib.Algebra.Order.Ring.Nat
import Mathlib.Data.List.Basic

/-!
# Length-prefixed frames

A payload behind its length in big-endian bytes of a fixed width. A sequence of frames
names the sequence of payloads: the width says where the length ends, and the length
where the payload does (`flatMap_frame_injective`).
-/

namespace Frames

/-- `n.to_bytes(width, "big")`, of a number that fits. -/
def bigEndian : (width n : Nat) → List UInt8
  | 0, _ => []
  | width + 1, n => bigEndian width (n / 256) ++ [UInt8.ofNat n]

@[simp] theorem length_bigEndian (width n : Nat) : (bigEndian width n).length = width := by
  induction width generalizing n with
  | zero => rfl
  | succ width ih =>
    show (bigEndian width (n / 256) ++ [UInt8.ofNat n]).length = width + 1
    rw [List.length_append, ih, List.length_singleton]

/-- Numbers that fit are told apart by their bytes. -/
theorem bigEndian_injective {width : Nat} : ∀ {m n : Nat}, m < 256 ^ width → n < 256 ^ width →
    bigEndian width m = bigEndian width n → m = n := by
  induction width with
  | zero =>
    intro m n hm hn _
    omega
  | succ width ih =>
    intro m n hm hn h
    have hsplit := List.append_inj h (by rw [length_bigEndian, length_bigEndian])
    have hlast : m % 256 = n % 256 := by
      have hbyte : UInt8.ofNat m = UInt8.ofNat n := List.head_eq_of_cons_eq hsplit.2
      have htoNat := congrArg UInt8.toNat hbyte
      rwa [UInt8.toNat_ofNat', UInt8.toNat_ofNat'] at htoNat
    have hrest : m / 256 = n / 256 := by
      rw [pow_succ] at hm hn
      exact ih (Nat.div_lt_of_lt_mul (by omega)) (Nat.div_lt_of_lt_mul (by omega)) hsplit.1
    omega

/-- A payload behind its length. -/
def frame (width : Nat) (payload : List UInt8) : List UInt8 :=
  bigEndian width payload.length ++ payload

/-- The first frame can be cut off. -/
theorem frame_append_inj {width : Nat} {p q rest rest' : List UInt8}
    (hp : p.length < 256 ^ width) (hq : q.length < 256 ^ width)
    (h : frame width p ++ rest = frame width q ++ rest') : p = q ∧ rest = rest' := by
  unfold frame at h
  rw [List.append_assoc, List.append_assoc] at h
  obtain ⟨hlength, hrest⟩ := List.append_inj h (by rw [length_bigEndian, length_bigEndian])
  exact List.append_inj hrest (bigEndian_injective hp hq hlength)

/-- No frame of this width is empty, so the number of frames is not lost. -/
theorem frame_ne_nil {width : Nat} (hwidth : 0 < width) (payload : List UInt8) :
    frame width payload ≠ [] := by
  intro h
  have hlength := congrArg List.length h
  rw [frame, List.length_append, length_bigEndian, List.length_nil] at hlength
  omega

/-- **A sequence of frames names its payloads.** -/
theorem flatMap_frame_injective {width : Nat} (hwidth : 0 < width) :
    ∀ {ps qs : List (List UInt8)}, (∀ p ∈ ps, p.length < 256 ^ width) →
      (∀ q ∈ qs, q.length < 256 ^ width) → ps.flatMap (frame width) = qs.flatMap (frame width) →
      ps = qs := by
  intro ps
  induction ps with
  | nil =>
    intro qs _ _ h
    cases qs with
    | nil => rfl
    | cons q qs =>
      rw [List.flatMap_nil, List.flatMap_cons] at h
      exact absurd (List.append_eq_nil_iff.mp h.symm).1 (frame_ne_nil hwidth q)
  | cons p ps ih =>
    intro qs hps hqs h
    cases qs with
    | nil =>
      rw [List.flatMap_nil, List.flatMap_cons] at h
      exact absurd (List.append_eq_nil_iff.mp h).1 (frame_ne_nil hwidth p)
    | cons q qs =>
      rw [List.forall_mem_cons] at hps hqs
      rw [List.flatMap_cons, List.flatMap_cons] at h
      obtain ⟨hfirst, hrest⟩ := frame_append_inj hps.1 hqs.1 h
      rw [hfirst, ih hps.2 hqs.2 hrest]

end Frames
