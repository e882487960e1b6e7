import XcmAutoBank.Foundation.Scale

/-!
# Canonical codecs

A lawful codec reads what it writes.  A canonical codec reads nothing else: whatever decodes begins
with the encoding of the value that was read, and what is left over is all that follows it.  For a
codec that is both, the bytes decide alone what is read: a value is read off bytes exactly when its
encoding begins them (`decode_eq_some_iff`), and an encoding that is cut short is not read as
anything (`decode_of_truncated`).
-/

open Codec

/-- What decodes is an encoding, followed by the bytes left over. -/
class CanonicalCodec (α : Type) [Codec α] : Prop where
  eq_encode_append {s rest : List UInt8} {a : α} : decode s = some (a, rest) → s = encode a ++ rest

namespace CanonicalCodec

variable {α : Type} [Codec α] [LawfulCodec α] [CanonicalCodec α] {s rest : List UInt8} {a : α}

/-- A value is read off bytes exactly when they are its encoding and what follows it. -/
theorem decode_eq_some_iff : decode s = some (a, rest) ↔ s = encode a ++ rest := by
  refine ⟨eq_encode_append, ?_⟩
  rintro rfl
  exact LawfulCodec.decode_encode a rest

/-- Nothing is read off bytes exactly when no encoding begins them. -/
theorem decode_eq_none_iff : (decode s : Option (α × List UInt8)) = none ↔
    ∀ a : α, ¬encode a <+: s := by
  constructor
  · rintro hnone a ⟨rest, rfl⟩
    rw [decode_eq_some_iff.mpr rfl] at hnone
    cases hnone
  · intro h
    cases hs : (decode s : Option (α × List UInt8)) with
    | none => rfl
    | some p => exact absurd ⟨p.2, (decode_eq_some_iff.mp hs).symm⟩ (h p.1)

/-- An encoding that is cut short is not read as anything. -/
theorem decode_of_truncated (h : s <+: encode a) (hne : s ≠ encode a) :
    (decode s : Option (α × List UInt8)) = none := by
  rw [decode_eq_none_iff]
  intro b hb
  obtain rfl : b = a := LawfulCodec.eq_of_prefix (hb.trans h)
  exact hne (h.eq_of_length (Nat.le_antisymm h.length_le hb.length_le))

end CanonicalCodec

namespace Codec

/-- What is read as a word is the word. -/
theorem eq_encodeLE_of_decodeLE {n v : ℕ} {s rest : List UInt8}
    (h : decodeLE n s = some (v, rest)) : s = encodeLE n v ++ rest ∧ v < 256 ^ n := by
  induction n generalizing s v with
  | zero =>
    obtain ⟨rfl, rfl⟩ := Prod.mk.inj (Option.some.inj h)
    exact ⟨rfl, by decide⟩
  | succ n ih =>
    cases s with
    | nil => cases h
    | cons b s =>
      obtain ⟨⟨high, tail⟩, hhigh, heq⟩ := Option.map_eq_some_iff.mp h
      obtain ⟨rfl, rfl⟩ := Prod.mk.inj heq
      obtain ⟨rfl, hlt⟩ := ih hhigh
      have hb : b.toNat < 256 := b.toNat_lt
      have hlow : UInt8.ofNat (b.toNat + 256 * high) = b := by
        apply UInt8.toNat_inj.mp
        rw [UInt8.toNat_ofNat']
        omega
      have hrest : (b.toNat + 256 * high) / 256 = high := by omega
      refine ⟨by rw [encodeLE, hlow, hrest]; rfl, ?_⟩
      rw [pow_succ]
      omega

instance : CanonicalCodec Bool where
  eq_encode_append {s rest b} h := by
    cases s with
    | nil => cases h
    | cons byte s =>
      change (if byte = 0 then some (false, s) else if byte = 1 then some (true, s) else none) =
        some (b, rest) at h
      split_ifs at h with h0 h1
      · obtain ⟨rfl, rfl⟩ := Prod.mk.inj (Option.some.inj h)
        rw [h0]
        rfl
      · obtain ⟨rfl, rfl⟩ := Prod.mk.inj (Option.some.inj h)
        rw [h1]
        rfl

instance (n : ℕ) : CanonicalCodec (BitVec (8 * n)) where
  eq_encode_append {s rest v} h := by
    obtain ⟨⟨value, tail⟩, hvalue, heq⟩ := Option.map_eq_some_iff.mp h
    obtain ⟨rfl, rfl⟩ := Prod.mk.inj heq
    obtain ⟨hs, hlt⟩ := eq_encodeLE_of_decodeLE hvalue
    have hpow : 256 ^ n = 2 ^ (8 * n) := by rw [pow_mul, show 2 ^ 8 = 256 from rfl]
    change s = encodeLE n (BitVec.ofNat (8 * n) value).toNat ++ tail
    rw [BitVec.toNat_ofNat, Nat.mod_eq_of_lt (hpow ▸ hlt)]
    exact hs

instance : CanonicalCodec UInt64 where
  eq_encode_append {s rest v} h := by
    obtain ⟨⟨value, tail⟩, hvalue, heq⟩ := Option.map_eq_some_iff.mp h
    obtain ⟨rfl, rfl⟩ := Prod.mk.inj heq
    obtain ⟨hs, hlt⟩ := eq_encodeLE_of_decodeLE hvalue
    have hword : value < 2 ^ 64 := hlt
    change s = encodeLE 8 (UInt64.ofNat value).toNat ++ tail
    rw [UInt64.toNat_ofNat', Nat.mod_eq_of_lt hword]
    exact hs

instance (n : ℕ) : CanonicalCodec (FixedBytes n) where
  eq_encode_append {s rest v} h := by
    change (if h : n ≤ s.length then some (FixedBytes.mk (s.take n) (List.length_take_of_le h),
      s.drop n) else none) = some (v, rest) at h
    split_ifs at h
    obtain ⟨rfl, rfl⟩ := Prod.mk.inj (Option.some.inj h)
    exact (List.take_append_drop n s).symm

end Codec
