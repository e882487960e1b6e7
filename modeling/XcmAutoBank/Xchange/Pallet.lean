import XcmAutoBank.Common.Runtime
import Mathlib.Logic.Relation

/-!
# The client chain: pallet-xchange

A client's `order` reserves the device's penalty and the client's fee, stores the order under the
device and sends it to the parachain the device's profile names.  The order is closed by the
client's `cancel` once it is overdue, or by an `OrderReject` or `OrderDone` message.

The calls carry no storage layer: what a call wrote before an error stays written.
-/

namespace XcmAutoBank.Xchange

variable {A P L : Type}

/-- What a device declares about itself. -/
structure DeviceProfile where
  penalty : Balance
  wcd : Moment
  paraId : ParaId
  state : DeviceState
  deriving DecidableEq, Repr

inductive Event (AccountId : Type) where
  | newDevice (device : AccountId)
  | newOrder (client device : AccountId)
  | accept (client device : AccountId)
  | reject (client device : AccountId)
  | done (client device : AccountId)
  deriving DecidableEq, Repr

inductive Error where
  | noneValue
  | orderExists
  | illegalState
  | overdue
  | deviceLowBail
  | deviceExists
  | badOrderDetails
  | noDevice
  | noOrder
  | prohibited
  | cannotReachDestination
  deriving DecidableEq, Repr

/-- The storage of the pallet. -/
abbrev State (AccountId Payload Ledger : Type) :=
  Storage AccountId (OrderOf AccountId Payload) DeviceProfile (Event AccountId) Ledger

variable [DecidableEq A] [ReservableCurrency L A]

/-! ### Dispatchables -/

/-- Send the encoding of `vec![0x00, 0x20]` to parachain 200. -/
def test (env : Env) (_origin : Origin A) : Call (State A P L) Error Unit := do
  let message := Xcm.transact [0x08, 0x00, 0x00, 0x00, 0x00, 0x20, 0x00, 0x00, 0x00]
  match ← sendXcm env 200 message with
  | .ok () => return ()
  | .error _ => throw (.module .cannotReachDestination)

/-- Place an order on a device. -/
def order [Codec A] [Codec P] (env : Env) (origin : Origin A) (order : OrderBaseOf A P) :
    Call (State A P L) Error Unit := do
  let who ← ensureSigned origin
  let now := env.now
  if now ≥ order.untilTime then
    throw (.module .overdue)
  if ← Orders.containsKey order.device then
    throw (.module .illegalState)
  let dev ← Dispatch.okOr (← Device.get order.device) (.module .noDevice)
  if dev.state ≠ .ready then
    throw (.module .illegalState)
  -- the sum of the timestamps wraps
  if order.untilTime < now + dev.wcd then
    throw (.module .badOrderDetails)
  if ¬(← Currency.canReserve who order.fee) then
    throw (.module .deviceLowBail)
  Currency.reserve order.device dev.penalty
  Currency.reserve who order.fee
  let device := order.device
  let stored : OrderOf A P := order.convert who
  Orders.insert device stored
  let msg : XCMPMessageOf A P := .newOrder who (stored.convert device)
  -- the transport's answer is mapped to an error and dropped
  let _ ← sendXcm env dev.paraId (Xcm.transact (Codec.encode msg))
  Device.insert device { dev with state := .busy }
  depositEvent (.newOrder who device)

/-- Release the fee of the account the caller names, settle the penalty and close the order. -/
def orderReject (who : A) (order : OrderOf A P) (now : Moment) (device : A)
    (dev : DeviceProfile) : Call (State A P L) Error Unit := do
  Currency.unreserve who order.fee
  if now < order.untilTime then
    Currency.unreserve device dev.penalty
  else
    Currency.repatriateReserved device order.client dev.penalty .free
  Orders.remove device
  Device.insert device dev
  depositEvent (.reject who device)

/-- Withdraw an overdue order; the state of the device stays as it is. -/
def cancel (env : Env) (origin : Origin A) (device : A) : Call (State A P L) Error Unit := do
  let who ← ensureSigned origin
  let order ← Dispatch.okOr (← Orders.get device) (.module .noOrder)
  let now := env.now
  if now < order.untilTime ∨ order.client ≠ who then
    throw (.module .prohibited)
  let dev ← Dispatch.okOr (← Device.get device) (.module .noDevice)
  orderReject who order now device dev

/-- Declare the signer as a device; any old profile is overwritten. -/
def register (origin : Origin A) (paraid : ParaId) (penalty : Balance) (wcd : Moment)
    (onoff : Bool) : Call (State A P L) Error Unit := do
  let id ← ensureSigned origin
  if ← Orders.containsKey id then
    throw (.module .deviceExists)
  Device.insert id { wcd, penalty, state := if onoff then .ready else .off, paraId := paraid }
  depositEvent (.newDevice id)

/-! ### Messages from the service chains -/

def onAccept (who device : A) : Call (State A P L) Error Unit :=
  depositEvent (.accept who device)

def onReject (env : Env) (who device : A) (onoff : Bool) : Call (State A P L) Error Unit := do
  let order ← Dispatch.okOr (← Orders.get device) (.module .noOrder)
  let now := env.now
  let dev ← Dispatch.okOr (← Device.get device) (.module .noDevice)
  let dev := { dev with state := if ¬onoff then .off else .ready }
  orderReject who order now device dev

def onDone (env : Env) (who device : A) (onoff : Bool) : Call (State A P L) Error Unit := do
  let order ← Dispatch.okOr (← Orders.get device) (.module .noOrder)
  let now := env.now
  let dev ← Dispatch.okOr (← Device.get device) (.module .noDevice)
  Currency.repatriateReserved who device order.fee .free
  if now < order.untilTime then
    Currency.unreserve device dev.penalty
  else
    Currency.repatriateReserved device who dev.penalty .free
  Orders.remove device
  Device.insert device { dev with state := if ¬onoff then .off else .ready }
  depositEvent (.done who device)

/-- The account was reaped: a device that is off is forgotten, any other is abandoned. -/
def onKilledAccount (who : A) : Call (State A P L) Error Unit := do
  match ← Device.get who with
  | some dev =>
    if dev.state = .off then
      Device.remove who
    else
      Device.insert who { dev with state := .timewait }
  | none => return ()

/-- The arms of the handler for a decoded message; what the arm's call returns is dropped. -/
def handleMessage (env : Env) (s : State A P L) : XCMPMessageOf A P → State A P L
  | .orderAccept client devid => ((onAccept client devid).run s).2
  | .orderReject client devid onoff => ((onReject env client devid onoff).run s).2
  | .orderDone client devid onoff => ((onDone env client devid onoff).run s).2
  | .newOrder _ _ => s

/-- Handle a batch of messages; the first one that does not decode ends the batch.  The sender
is not looked at. -/
def handleXcmpMessages [Codec A] [Codec P] (env : Env) :
    List (ParaId × RelayBlockNumber × List UInt8) → Weight → State A P L → State A P L × Weight
  | [], maxWeight, s => (s, maxWeight)
  | (_sender, _sentAt, data) :: iter, maxWeight, s =>
    match (Codec.decode data : Option (XCMPMessageOf A P × List UInt8)) with
    | none => (s, 0)
    | some (message, _) => handleXcmpMessages env iter maxWeight (handleMessage env s message)

/-! ### Operations -/

/-- The entry points of the pallet, the message handlers one message at a time. -/
inductive Op (A P : Type) where
  | test (origin : Origin A)
  | order (origin : Origin A) (order : OrderBaseOf A P)
  | cancel (origin : Origin A) (device : A)
  | register (origin : Origin A) (paraid : ParaId) (penalty : Balance) (wcd : Moment)
      (onoff : Bool)
  | onAccept (who device : A)
  | onReject (who device : A) (onoff : Bool)
  | onDone (who device : A) (onoff : Bool)
  | onKilledAccount (who : A)

/-- The call an operation makes. -/
def Op.call [Codec A] [Codec P] (env : Env) : Op A P → Call (State A P L) Error Unit
  | .test origin => Xchange.test env origin
  | .order origin b => Xchange.order env origin b
  | .cancel origin device => Xchange.cancel env origin device
  | .register origin paraid penalty wcd onoff =>
    Xchange.register origin paraid penalty wcd onoff
  | .onAccept who device => Xchange.onAccept who device
  | .onReject who device onoff => Xchange.onReject env who device onoff
  | .onDone who device onoff => Xchange.onDone env who device onoff
  | .onKilledAccount who => Xchange.onKilledAccount who

/-- A step of the pallet: one operation at some time, whatever it returns. -/
def Step [Codec A] [Codec P] (s s' : State A P L) : Prop :=
  ∃ env op, s' = (Op.call env op).exec s

/-- The storages the operations reach from an empty storage and any balances. -/
def Reachable [Codec A] [Codec P] (s : State A P L) : Prop :=
  ∃ ledger, Relation.ReflTransGen Step (Storage.init ledger) s

end XcmAutoBank.Xchange
