import Mathlib.Algebra.Ring.Nat

/-!
# SHA-256

`hashlib.sha256(payload).hexdigest()`, as FIPS 180-4 defines it: the message
is padded to whole 64-byte blocks, every block is expanded to a schedule of 64
words and folded into eight 32-bit registers, and the registers are printed as
64 lower-case hexadecimal characters.

Nothing downstream looks inside the function: proofs use that it is a function
and that its result is a 64-character hexadecimal text (`sha256_length`,
`sha256_hex`), so `sha256` is irreducible.
-/

namespace Sha256

/-- The eight working registers. -/
structure Registers where
  a : UInt32
  b : UInt32
  c : UInt32
  d : UInt32
  e : UInt32
  f : UInt32
  g : UInt32
  h : UInt32

/-- The initial hash value. -/
def initial : Registers :=
  ⟨0x6a09e667, 0xbb67ae85, 0x3c6ef372, 0xa54ff53a,
   0x510e527f, 0x9b05688c, 0x1f83d9ab, 0x5be0cd19⟩

/-- The 64 round constants. -/
def roundConstants : List UInt32 :=
  [0x428a2f98, 0x71374491, 0xb5c0fbcf, 0xe9b5dba5, 0x3956c25b, 0x59f111f1, 0x923f82a4, 0xab1c5ed5,
   0xd807aa98, 0x12835b01, 0x243185be, 0x550c7dc3, 0x72be5d74, 0x80deb1fe, 0x9bdc06a7, 0xc19bf174,
   0xe49b69c1, 0xefbe4786, 0x0fc19dc6, 0x240ca1cc, 0x2de92c6f, 0x4a7484aa, 0x5cb0a9dc, 0x76f988da,
   0x983e5152, 0xa831c66d, 0xb00327c8, 0xbf597fc7, 0xc6e00bf3, 0xd5a79147, 0x06ca6351, 0x14292967,
   0x27b70a85, 0x2e1b2138, 0x4d2c6dfc, 0x53380d13, 0x650a7354, 0x766a0abb, 0x81c2c92e, 0x92722c85,
   0xa2bfe8a1, 0xa81a664b, 0xc24b8b70, 0xc76c51a3, 0xd192e819, 0xd6990624, 0xf40e3585, 0x106aa070,
   0x19a4c116, 0x1e376c08, 0x2748774c, 0x34b0bcb5, 0x391c0cb3, 0x4ed8aa4a, 0x5b9cca4f, 0x682e6ff3,
   0x748f82ee, 0x78a5636f, 0x84c87814, 0x8cc70208, 0x90befffa, 0xa4506ceb, 0xbef9a3f7, 0xc67178f2]

/-- Rotate right by `n` bits, `0 < n < 32`. -/
def rotr (x n : UInt32) : UInt32 := (x >>> n) ||| (x <<< (32 - n))

/-- The message with `0x80`, zeros and its bit length, a multiple of 64 bytes long. -/
def pad (message : List UInt8) : List UInt8 :=
  let bits := 8 * message.length
  let zeros := (119 - message.length % 64) % 64
  message ++ 0x80 :: List.replicate zeros 0 ++
    (List.range 8).map fun i => UInt8.ofNat (bits / 256 ^ (7 - i))

/-- Big-endian 32-bit words. -/
def words : List UInt8 → List UInt32
  | b0 :: b1 :: b2 :: b3 :: rest =>
    (b0.toUInt32 <<< 24 ||| b1.toUInt32 <<< 16 ||| b2.toUInt32 <<< 8 ||| b3.toUInt32) :: words rest
  | _ => []

/-- One word of the schedule, from the sixteen words before it (newest first). -/
def nextWord (recent : List UInt32) : UInt32 :=
  let w15 := recent.getD 14 0
  let w2 := recent.getD 1 0
  let s0 := rotr w15 7 ^^^ rotr w15 18 ^^^ (w15 >>> 3)
  let s1 := rotr w2 17 ^^^ rotr w2 19 ^^^ (w2 >>> 10)
  recent.getD 15 0 + s0 + recent.getD 6 0 + s1

/-- `n` more words of the schedule in front of `recent`. -/
def extend : Nat → List UInt32 → List UInt32
  | 0, recent => recent
  | n + 1, recent => extend n (nextWord recent :: recent)

/-- One round. -/
def round (r : Registers) (kw : UInt32 × UInt32) : Registers :=
  let s1 := rotr r.e 6 ^^^ rotr r.e 11 ^^^ rotr r.e 25
  let ch := (r.e &&& r.f) ^^^ (~~~r.e &&& r.g)
  let t1 := r.h + s1 + ch + kw.1 + kw.2
  let s0 := rotr r.a 2 ^^^ rotr r.a 13 ^^^ rotr r.a 22
  let maj := (r.a &&& r.b) ^^^ (r.a &&& r.c) ^^^ (r.b &&& r.c)
  ⟨t1 + (s0 + maj), r.a, r.b, r.c, r.d + t1, r.e, r.f, r.g⟩

/-- Fold one block of sixteen words into the registers. -/
def compress (r : Registers) (block : List UInt32) : Registers :=
  let schedule := (extend 48 block.reverse).reverse
  let q := (roundConstants.zip schedule).foldl round r
  ⟨r.a + q.a, r.b + q.b, r.c + q.c, r.d + q.d, r.e + q.e, r.f + q.f, r.g + q.g, r.h + q.h⟩

/-- Fold `n` blocks of sixteen words. -/
def blocks : Nat → Registers → List UInt32 → Registers
  | 0, r, _ => r
  | n + 1, r, ws => blocks n (compress r (ws.take 16)) (ws.drop 16)

/-- A word as eight lower-case hexadecimal digits. -/
def hexWord (w : UInt32) : List Char :=
  (List.range 8).map fun i => Nat.digitChar (w.toNat / 16 ^ (7 - i) % 16)

/-- The registers, most significant first. -/
def Registers.toList (r : Registers) : List UInt32 := [r.a, r.b, r.c, r.d, r.e, r.f, r.g, r.h]

/-- `hashlib.sha256(payload).hexdigest()`. -/
@[irreducible] def sha256 (payload : ByteArray) : String :=
  let ws := words (pad payload.data.toList)
  String.ofList ((blocks (ws.length / 16) initial ws).toList.flatMap hexWord)

theorem hexWord_length (w : UInt32) : (hexWord w).length = 8 := by simp [hexWord]

/-- The characters of a digest. -/
def isHex (c : Char) : Bool := ('0' ≤ c && c ≤ '9') || ('a' ≤ c && c ≤ 'f')

theorem isHex_digitChar : ∀ n, n < 16 → isHex (Nat.digitChar n) = true := by decide

theorem hexWord_hex (w : UInt32) : ∀ c ∈ hexWord w, isHex c = true := by
  intro c hc
  obtain ⟨i, _, rfl⟩ := List.mem_map.mp hc
  exact isHex_digitChar _ (Nat.mod_lt _ (by decide))

/-- A digest has 64 characters. -/
theorem sha256_length (payload : ByteArray) : (sha256 payload).toList.length = 64 := by
  unfold sha256
  simp [Registers.toList, hexWord_length]

/-- Every character of a digest is a lower-case hexadecimal digit. -/
theorem sha256_hex (payload : ByteArray) : ∀ c ∈ (sha256 payload).toList, isHex c = true := by
  intro c hc
  unfold sha256 at hc
  simp only [String.toList_ofList, List.mem_flatMap] at hc
  obtain ⟨w, _, hw⟩ := hc
  exact hexWord_hex w c hw

example : sha256 "abc".toUTF8 =
    "ba7816bf8f01cfea414140de5dae2223b00361a396177a9cb410ff61f20015ad" := by
  decide +kernel

end Sha256
