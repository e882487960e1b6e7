import XcmAutoBank.Common.Runtime
import XcmAutoBank.Foundation.Canonical

/-!
# The wire format of the messages

The derived codecs of orders and messages are canonical when those of their fields are.  So a
message has one encoding, nothing but that encoding is read as the message, and what follows it is
left over.
-/

namespace XcmAutoBank

open Codec CanonicalCodec

variable {A B P M : Type} [Codec A] [Codec B] [Codec P] [Codec M] [CanonicalCodec A]
  [CanonicalCodec B] [CanonicalCodec P] [CanonicalCodec M]

instance : CanonicalCodec (OrderBase P B M A) where
  eq_encode_append {s rest b} h := by
    change decodeOrderBase s = some (b, rest) at h
    unfold decodeOrderBase at h
    obtain ⟨⟨untilTime, s₁⟩, hs₁, h⟩ := Option.bind_eq_some_iff.mp h
    obtain ⟨⟨data, s₂⟩, hs₂, h⟩ := Option.bind_eq_some_iff.mp h
    obtain ⟨⟨fee, s₃⟩, hs₃, h⟩ := Option.bind_eq_some_iff.mp h
    obtain ⟨⟨device, s₄⟩, hs₄, h⟩ := Option.bind_eq_some_iff.mp h
    obtain ⟨rfl, rfl⟩ := Prod.mk.inj (Option.some.inj h)
    change s = encodeOrderBase _ ++ s₄
    rw [eq_encode_append hs₁, eq_encode_append hs₂, eq_encode_append hs₃, eq_encode_append hs₄]
    simp only [encodeOrderBase, List.append_assoc]

instance : CanonicalCodec (XCMPMessage A B P M) where
  eq_encode_append {s rest m} h := by
    cases s with
    | nil => cases h
    | cons index s =>
      change decodeMessage (index :: s) = some (m, rest) at h
      change index :: s = encodeMessage m ++ rest
      dsimp only [decodeMessage] at h
      split at h
      · rename_i hindex
        obtain rfl : index = 0 := UInt8.toNat_inj.mp hindex
        obtain ⟨⟨client, s₁⟩, hs₁, h⟩ := Option.bind_eq_some_iff.mp h
        obtain ⟨⟨order, s₂⟩, hs₂, h⟩ := Option.bind_eq_some_iff.mp h
        obtain ⟨rfl, rfl⟩ := Prod.mk.inj (Option.some.inj h)
        dsimp only at hs₂ ⊢
        rw [eq_encode_append hs₁, eq_encode_append hs₂]
        simp only [encodeMessage, List.cons_append, List.append_assoc]
      · rename_i hindex
        obtain rfl : index = 1 := UInt8.toNat_inj.mp hindex
        obtain ⟨⟨client, s₁⟩, hs₁, h⟩ := Option.bind_eq_some_iff.mp h
        obtain ⟨⟨device, s₂⟩, hs₂, h⟩ := Option.bind_eq_some_iff.mp h
        obtain ⟨rfl, rfl⟩ := Prod.mk.inj (Option.some.inj h)
        dsimp only at hs₂ ⊢
        rw [eq_encode_append hs₁, eq_encode_append hs₂]
        simp only [encodeMessage, List.cons_append, List.append_assoc]
      · rename_i hindex
        obtain rfl : index = 2 := UInt8.toNat_inj.mp hindex
        obtain ⟨⟨client, s₁⟩, hs₁, h⟩ := Option.bind_eq_some_iff.mp h
        obtain ⟨⟨device, s₂⟩, hs₂, h⟩ := Option.bind_eq_some_iff.mp h
        obtain ⟨⟨onoff, s₃⟩, hs₃, h⟩ := Option.bind_eq_some_iff.mp h
        obtain ⟨rfl, rfl⟩ := Prod.mk.inj (Option.some.inj h)
        dsimp only at hs₂ hs₃ ⊢
        rw [eq_encode_append hs₁, eq_encode_append hs₂, eq_encode_append hs₃]
        simp only [encodeMessage, List.cons_append, List.append_assoc]
      · rename_i hindex
        obtain rfl : index = 3 := UInt8.toNat_inj.mp hindex
        obtain ⟨⟨client, s₁⟩, hs₁, h⟩ := Option.bind_eq_some_iff.mp h
        obtain ⟨⟨device, s₂⟩, hs₂, h⟩ := Option.bind_eq_some_iff.mp h
        obtain ⟨⟨onoff, s₃⟩, hs₃, h⟩ := Option.bind_eq_some_iff.mp h
        obtain ⟨rfl, rfl⟩ := Prod.mk.inj (Option.some.inj h)
        dsimp only at hs₂ hs₃ ⊢
        rw [eq_encode_append hs₁, eq_encode_append hs₂, eq_encode_append hs₃]
        simp only [encodeMessage, List.cons_append, List.append_assoc]
      · cases h

instance : CanonicalCodec Balance := inferInstanceAs (CanonicalCodec (BitVec (8 * 16)))

end XcmAutoBank
