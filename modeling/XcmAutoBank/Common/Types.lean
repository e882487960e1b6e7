import XcmAutoBank.Foundation.Scale

/-!
# The types both pallets share

The device states, the two forms of an order and the cross-chain messages of `pallet-common`.
An `OrderBase` names the device and leaves the client open; an `Order` is stored under its device
and names the client instead.  The message codec is the one SCALE derives: the variant index as
one byte, then the fields in the order of their declaration.
-/

namespace XcmAutoBank

open Codec

/-- The state of a device. -/
inductive DeviceState where
  /-- Device is off. -/
  | off
  /-- Device is ready to accept orders. -/
  | ready
  /-- Device has order. -/
  | busy
  /-- Device has accepted order. -/
  | accepted
  /-- Device is abandoned. -/
  | timewait
  deriving DecidableEq, Repr

/-- An order as its client states it. -/
structure OrderBase (Payload Balance Moment AccountId : Type) where
  /-- The source's `until`, a reserved word of Lean. -/
  untilTime : Moment
  data : Payload
  fee : Balance
  device : AccountId
  deriving DecidableEq, Repr

/-- An order as it is stored under its device. -/
structure Order (Payload Balance Moment AccountId ParaId : Type) where
  untilTime : Moment
  data : Payload
  fee : Balance
  client : AccountId
  paraid : ParaId
  deriving DecidableEq, Repr

section Convert

variable {Payload Balance Moment AccountId ParaId : Type}

/-- Put the client in the place of the device; the para id is zero. -/
def OrderBase.convert [OfNat ParaId 0] (self : OrderBase Payload Balance Moment AccountId)
    (client : AccountId) : Order Payload Balance Moment AccountId ParaId where
  untilTime := self.untilTime
  data := self.data
  fee := self.fee
  client := client
  paraid := 0

/-- Put the device in the place of the client; the para id is dropped. -/
def Order.convert (self : Order Payload Balance Moment AccountId ParaId) (device : AccountId) :
    OrderBase Payload Balance Moment AccountId where
  untilTime := self.untilTime
  data := self.data
  fee := self.fee
  device := device

/-- Converting there and back only replaces the device. -/
theorem Order.convert_convert [OfNat ParaId 0]
    (b : OrderBase Payload Balance Moment AccountId) (client : AccountId) :
    Order.convert (b.convert client : Order _ _ _ _ ParaId) b.device = b := rfl

end Convert

/-- The messages the two pallets exchange. -/
inductive XCMPMessage (XAccountId XBalance Payout Moment : Type) where
  | newOrder (client : XAccountId) (order : OrderBase Payout XBalance Moment XAccountId)
  | orderAccept (client device : XAccountId)
  | orderReject (client device : XAccountId) (onoff : Bool)
  | orderDone (client device : XAccountId) (onoff : Bool)
  deriving DecidableEq, Repr

/-- How a service chain closes an order. -/
inductive Verdict where
  | reject
  | done
  deriving DecidableEq, Repr

/-- The message that closes an order. -/
def Verdict.message {A B P M : Type} (v : Verdict) (client device : A) (onoff : Bool) :
    XCMPMessage A B P M :=
  match v with
  | .reject => .orderReject client device onoff
  | .done => .orderDone client device onoff

section Codec

variable {A B P M : Type} [Codec A] [Codec B] [Codec P] [Codec M]

/-- The fields of an order in the order of their declaration. -/
def encodeOrderBase (b : OrderBase P B M A) : List UInt8 :=
  encode b.untilTime ++ (encode b.data ++ (encode b.fee ++ encode b.device))

/-- Read the fields of an order. -/
def decodeOrderBase (s : List UInt8) : Option (OrderBase P B M A × List UInt8) := do
  let (untilTime, s) ← decode s
  let (data, s) ← decode s
  let (fee, s) ← decode s
  let (device, s) ← decode s
  return ({ untilTime, data, fee, device }, s)

instance : Codec (OrderBase P B M A) := ⟨encodeOrderBase, decodeOrderBase⟩

/-- The variant index of a message, then its fields. -/
def encodeMessage : XCMPMessage A B P M → List UInt8
  | .newOrder client order => 0 :: (encode client ++ encode order)
  | .orderAccept client device => 1 :: (encode client ++ encode device)
  | .orderReject client device onoff => 2 :: (encode client ++ (encode device ++ encode onoff))
  | .orderDone client device onoff => 3 :: (encode client ++ (encode device ++ encode onoff))

/-- Read a message; an unknown variant index or a missing field is an error. -/
def decodeMessage : List UInt8 → Option (XCMPMessage A B P M × List UInt8)
  | [] => none
  | index :: s =>
    match index.toNat with
    | 0 => do
      let (client, s) ← decode s
      let (order, s) ← decode s
      return (.newOrder client order, s)
    | 1 => do
      let (client, s) ← decode s
      let (device, s) ← decode s
      return (.orderAccept client device, s)
    | 2 => do
      let (client, s) ← decode s
      let (device, s) ← decode s
      let (onoff, s) ← decode s
      return (.orderReject client device onoff, s)
    | 3 => do
      let (client, s) ← decode s
      let (device, s) ← decode s
      let (onoff, s) ← decode s
      return (.orderDone client device onoff, s)
    | _ => none

instance : Codec (XCMPMessage A B P M) := ⟨encodeMessage, decodeMessage⟩

variable [LawfulCodec A] [LawfulCodec B] [LawfulCodec P] [LawfulCodec M]

instance : LawfulCodec (OrderBase P B M A) where
  decode_encode b rest := by
    change decodeOrderBase (encodeOrderBase b ++ rest) = some (b, rest)
    simp [encodeOrderBase, decodeOrderBase, List.append_assoc, LawfulCodec.decode_encode]

instance : LawfulCodec (XCMPMessage A B P M) where
  decode_encode m rest := by
    change decodeMessage (encodeMessage m ++ rest) = some (m, rest)
    cases m <;>
      simp [encodeMessage, decodeMessage, List.append_assoc, LawfulCodec.decode_encode]

end Codec

end XcmAutoBank
