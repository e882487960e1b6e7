import Mathlib.Data.List.Infix
import Mathlib.Data.Nat.Notation
import Mathlib.Tactic.Ring

/-!
# SCALE codecs

`Codec α` is a pair of an encoder into bytes and a decoder that reads a value off the front of
its input and returns the remaining bytes.  A codec is lawful when decoding an encoding followed
by anything returns the value and that rest; no encoding is then a prefix of another
(`LawfulCodec.eq_of_prefix`).  Integers are fixed-width little-endian words, booleans are one strict
byte, byte arrays of a fixed length are written as they are.
-/

/-- An encoder and a decoder for a type. -/
class Codec (α : Type) where
  encode : α → List UInt8
  decode : List UInt8 → Option (α × List UInt8)

open Codec

/-- Decoding undoes encoding and leaves the bytes that follow. -/
class LawfulCodec (α : Type) [Codec α] : Prop where
  decode_encode (a : α) (rest : List UInt8) : decode (encode a ++ rest) = some (a, rest)

/-- No encoding is a prefix of the encoding of another value. -/
theorem LawfulCodec.eq_of_prefix {α : Type} [Codec α] [LawfulCodec α] {a b : α}
    (h : encode a <+: encode b) : a = b := by
  obtain ⟨rest, hrest⟩ := h
  have hread : some (a, rest) = some (b, []) := by
    rw [← decode_encode a rest, ← decode_encode b [], hrest, List.append_nil]
  exact congrArg Prod.fst (Option.some.inj hread)

/-- A byte array of a fixed length. -/
structure FixedBytes (n : ℕ) where
  bytes : List UInt8
  length_eq : bytes.length = n
  deriving DecidableEq

/-- An array of equal bytes. -/
def FixedBytes.replicate {n : ℕ} (byte : UInt8) : FixedBytes n :=
  ⟨List.replicate n byte, List.length_replicate⟩

namespace Codec

/-- The `n` low bytes of a number, least significant first. -/
def encodeLE : ℕ → ℕ → List UInt8
  | 0, _ => []
  | n + 1, v => UInt8.ofNat v :: encodeLE n (v / 256)

/-- Read an `n`-byte number, least significant byte first. -/
def decodeLE : ℕ → List UInt8 → Option (ℕ × List UInt8)
  | 0, s => some (0, s)
  | _ + 1, [] => none
  | n + 1, b :: s => (decodeLE n s).map fun p => (b.toNat + 256 * p.1, p.2)

/-- A little-endian word carries a number modulo its range. -/
theorem decodeLE_encodeLE (n v : ℕ) (rest : List UInt8) :
    decodeLE n (encodeLE n v ++ rest) = some (v % 256 ^ n, rest) := by
  induction n generalizing v with
  | zero => simp [encodeLE, decodeLE, Nat.mod_one]
  | succ n ih =>
    have hsplit : v % 256 + 256 * (v / 256 % 256 ^ n) = v % 256 ^ (n + 1) := by
      rw [pow_succ, mul_comm (256 ^ n) 256, Nat.mod_mul]
    have hbyte : (UInt8.ofNat v).toNat = v % 256 := UInt8.toNat_ofNat
    simp [encodeLE, decodeLE, ih, hbyte, hsplit]

instance : Codec Bool where
  encode b := [if b then 1 else 0]
  decode
    | [] => none
    | b :: s => if b = 0 then some (false, s) else if b = 1 then some (true, s) else none

instance : LawfulCodec Bool where
  decode_encode b rest := by cases b <;> rfl

instance (n : ℕ) : Codec (BitVec (8 * n)) where
  encode v := encodeLE n v.toNat
  decode s := (decodeLE n s).map fun p => (BitVec.ofNat (8 * n) p.1, p.2)

instance (n : ℕ) : LawfulCodec (BitVec (8 * n)) where
  decode_encode v rest := by
    have hpow : 256 ^ n = 2 ^ (8 * n) := by rw [pow_mul, show 2 ^ 8 = 256 from rfl]
    have hv : v.toNat % 256 ^ n = v.toNat := by
      rw [hpow, Nat.mod_eq_of_lt v.isLt]
    change (decodeLE n (encodeLE n v.toNat ++ rest)).map _ = _
    rw [decodeLE_encodeLE, hv]
    simp

instance : Codec UInt64 where
  encode v := encodeLE 8 v.toNat
  decode s := (decodeLE 8 s).map fun p => (UInt64.ofNat p.1, p.2)

instance : LawfulCodec UInt64 where
  decode_encode v rest := by
    have hv : v.toNat % 256 ^ 8 = v.toNat := Nat.mod_eq_of_lt v.toNat_lt
    change (decodeLE 8 (encodeLE 8 v.toNat ++ rest)).map _ = _
    rw [decodeLE_encodeLE, hv]
    simp

instance (n : ℕ) : Codec (FixedBytes n) where
  encode v := v.bytes
  decode s :=
    if h : n ≤ s.length then some (⟨s.take n, List.length_take_of_le h⟩, s.drop n) else none

instance (n : ℕ) : LawfulCodec (FixedBytes n) where
  decode_encode v rest := by
    obtain ⟨bytes, rfl⟩ := v
    change (if h : bytes.length ≤ (bytes ++ rest).length then
      some (FixedBytes.mk ((bytes ++ rest).take bytes.length) (List.length_take_of_le h),
        (bytes ++ rest).drop bytes.length) else none) = _
    simp

end Codec
