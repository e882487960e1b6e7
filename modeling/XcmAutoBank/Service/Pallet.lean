import XcmAutoBank.Common.Runtime
import Mathlib.Logic.Relation

/-!
# The service chain: pallet-xchange-service

The chain of the devices.  An order comes from a local client, with the chain's own para id, or
from a sibling chain in a `NewOrder` message.  Only local orders are backed by reserves; for the
others the device's answers go back to the sibling as messages.  The device accepts, rejects or
finishes its order; the client cancels it once it is overdue.

The chain's para id is a constant of its configuration and an argument of the calls that read it.
-/

namespace XcmAutoBank.Service

variable {A P L : Type}

/-- What a device declares about itself. -/
structure DeviceProfile where
  penalty : Balance
  wcd : Moment
  state : DeviceState
  deriving DecidableEq, Repr

inductive Event (AccountId : Type) where
  | newDevice (device : AccountId)
  | newOrder (device : AccountId)
  | accept (device : AccountId)
  | reject (device : AccountId)
  | done (device : AccountId)
  deriving DecidableEq, Repr

inductive Error where
  | noneValue
  | prohibited
  | deviceExists
  | deviceLowBail
  | noOrder
  | badOrderDetails
  | noDevice
  | illegalState
  | overdue
  | cannotReachDestination
  deriving DecidableEq, Repr

/-- The storage of the pallet. -/
abbrev State (AccountId Payload Ledger : Type) :=
  Storage AccountId (OrderOf AccountId Payload) DeviceProfile (Event AccountId) Ledger

/-- The environment of a call, with the device's own answer to an order it receives. -/
structure ServiceEnv (AccountId Payload : Type) extends Env where
  onReceived : AccountId → OrderOf AccountId Payload → Option DeviceState

/-- The environment at a time, with a transport that takes every message and devices that answer
every order with the same state. -/
def ServiceEnv.online (now : Moment) (state : DeviceState) : ServiceEnv A P :=
  { Env.online now with onReceived := fun _ _ => some state }

/-- An order as the chain stores it, with the para id it came from. -/
def receivedOrder (order : OrderBaseOf A P) (paraid : ParaId) (client : A) : OrderOf A P where
  fee := order.fee
  data := order.data
  untilTime := order.untilTime
  paraid := paraid
  client := client

variable [DecidableEq A] [ReservableCurrency L A]

section Calls

variable [Codec A] [Codec P]

/-! ### Answers of a device -/

/-- Mark the device as working on its order and tell the chain of a remote client. -/
def orderAccept (selfParaId : ParaId) (env : ServiceEnv A P) (order : OrderOf A P)
    (_now : Moment) (device : A) (dev : DeviceProfile) : Call (State A P L) Error Unit := do
  Device.insert device { dev with state := .accepted }
  if order.paraid ≠ selfParaId then
    let msg : XCMPMessageOf A P := .orderAccept order.client device
    -- the transport's answer is mapped to an error and dropped
    let _ ← sendXcm env.toEnv order.paraid (Xcm.transact (Codec.encode msg))
  depositEvent (.accept device)

/-- Pay for a finished order, or tell the chain of a remote client that it is finished.  The order
is no longer stored. -/
def orderDone (selfParaId : ParaId) (env : ServiceEnv A P) (order : OrderOf A P) (now : Moment)
    (device : A) (dev : DeviceProfile) (onoff : Bool) : Call (State A P L) Error Unit := do
  Device.insert device { dev with state := if onoff then .ready else .off }
  if order.paraid = selfParaId then
    Currency.repatriateReserved order.client device order.fee .free
    if now < order.untilTime then
      Currency.unreserve device dev.penalty
    else
      Currency.repatriateReserved device order.client dev.penalty .free
  else
    let msg : XCMPMessageOf A P := .orderDone order.client device onoff
    let _ ← sendXcm env.toEnv order.paraid (Xcm.transact (Codec.encode msg))
  depositEvent (.done device)

/-- Close an order without work done; there may be none left to close. -/
def orderReject (selfParaId : ParaId) (env : ServiceEnv A P) (order : Option (OrderOf A P))
    (now : Moment) (device : A) (dev : DeviceProfile) (onoff : Bool) :
    Call (State A P L) Error Unit := do
  match order with
  | some order =>
    if order.paraid = selfParaId then
      Currency.unreserve order.client order.fee
      if now < order.untilTime then
        Currency.unreserve device dev.penalty
      else
        Currency.repatriateReserved device order.client dev.penalty .free
    else
      let msg : XCMPMessageOf A P := .orderReject order.client device onoff
      let _ ← sendXcm env.toEnv order.paraid (Xcm.transact (Codec.encode msg))
  | none => pure ()
  Orders.remove device
  Device.insert device dev
  depositEvent (.reject device)

/-- Store an order that a client or a sibling chain places on a device. -/
def orderReceived (selfParaId : ParaId) (env : ServiceEnv A P) (order : OrderOf A P)
    (device : A) : Call (State A P L) Error Unit := do
  let now := env.now
  if now ≥ order.untilTime then
    throw (.module .overdue)
  if ← Orders.containsKey device then
    throw (.module .illegalState)
  let dev ← Dispatch.okOr (← Device.get device) (.module .noDevice)
  if dev.state ≠ .ready then
    throw (.module .illegalState)
  -- the sum of the timestamps wraps
  if order.untilTime < now + dev.wcd then
    throw (.module .badOrderDetails)
  let state ← Dispatch.okOr (env.onReceived device order) (.module .illegalState)
  let dev := { dev with state := state }
  if order.paraid = selfParaId then
    if ¬(← Currency.canReserve order.client order.fee) then
      throw (.module .deviceLowBail)
    Currency.reserve device dev.penalty
    Currency.reserve order.client order.fee
  Orders.insert device order
  depositEvent (.newOrder device)
  if dev.state = .accepted then
    orderAccept selfParaId env order now device dev
  else
    Device.insert device dev

/-! ### Dispatchables -/

/-- Place an order on a device of the chain. -/
def order (selfParaId : ParaId) (env : ServiceEnv A P) (origin : Origin A)
    (order : OrderBaseOf A P) : Call (State A P L) Error Unit := do
  let who ← ensureSigned origin
  orderReceived selfParaId env (receivedOrder order selfParaId who) order.device

/-- Withdraw an overdue order; the state of the device stays as it is. -/
def cancel (selfParaId : ParaId) (env : ServiceEnv A P) (origin : Origin A) (device : A) :
    Call (State A P L) Error Unit := do
  let who ← ensureSigned origin
  let order ← Dispatch.okOr (← Orders.get device) (.module .noOrder)
  let now := env.now
  if now < order.untilTime ∨ order.client ≠ who then
    throw (.module .prohibited)
  let dev ← Dispatch.okOr (← Device.get device) (.module .noDevice)
  orderReject selfParaId env (some order) now device dev false

/-- Take on the order of the device that signs, or reject it. -/
def accept (selfParaId : ParaId) (env : ServiceEnv A P) (origin : Origin A) (reject onoff : Bool) :
    Call (State A P L) Error Unit := do
  let id ← ensureSigned origin
  let order ← Orders.get id
  let dev ← Dispatch.okOr (← Device.get id) (.module .noDevice)
  let now := env.now
  if reject then
    if ¬(dev.state = .busy ∨ dev.state = .accepted) then
      throw (.module .illegalState)
    let dev := { dev with state := if onoff then .ready else .off }
    orderReject selfParaId env order now id dev onoff
  else
    if dev.state ≠ .busy then
      throw (.module .illegalState)
    let order ← Dispatch.okOr order (.module .noOrder)
    if now ≥ order.untilTime then
      throw (.module .overdue)
    orderAccept selfParaId env order now id dev

/-- Finish the order of the device that signs. -/
def done (selfParaId : ParaId) (env : ServiceEnv A P) (origin : Origin A) (onoff : Bool) :
    Call (State A P L) Error Unit := do
  let id ← ensureSigned origin
  let dev ← Dispatch.okOr (← Device.get id) (.module .noDevice)
  if dev.state ≠ .accepted then
    throw (.module .illegalState)
  let order ← Dispatch.okOr (← Orders.take id) (.module .noOrder)
  let now := env.now
  orderDone selfParaId env order now id dev onoff

end Calls

/-- Declare the signer as a device; any old profile is overwritten. -/
def register (origin : Origin A) (penalty : Balance) (wcd : Moment) (onoff : Bool) :
    Call (State A P L) Error Unit := do
  let id ← ensureSigned origin
  if ← Orders.containsKey id then
    throw (.module .deviceExists)
  Device.insert id { wcd, penalty, state := if onoff then .ready else .off }
  depositEvent (.newDevice id)

/-- The state `set_state` moves a device to, if it may. -/
def nextState : Bool → DeviceState → Option DeviceState
  | false, .ready | false, .off => some .off
  | true, .off => some .ready
  | _, _ => none

/-- Switch a device without an order on or off. -/
def setState (origin : Origin A) (onoff : Bool) : Call (State A P L) Error Unit := do
  let id ← ensureSigned origin
  let dev ← Dispatch.okOr (← Device.get id) (.module .noDevice)
  let state ← Dispatch.okOr (nextState onoff dev.state) (.module .illegalState)
  Device.insert id { dev with state := state }

/-- The account was reaped: a device that is off is forgotten. -/
def onKilledAccount (who : A) : Call (State A P L) Error Unit := do
  match ← Device.get who with
  | some dev => if dev.state = .off then Device.remove who
  | none => return ()

/-! ### Messages from the client chains -/

section Messages

variable [Codec A] [Codec P]

/-- Handle a batch of messages; the first one that is not a new order ends the batch.  What
`orderReceived` returns is dropped. -/
def handleXcmpMessages (selfParaId : ParaId) (env : ServiceEnv A P) :
    List (ParaId × RelayBlockNumber × List UInt8) → Weight → State A P L → State A P L × Weight
  | [], maxWeight, s => (s, maxWeight)
  | (sender, _sentAt, data) :: iter, maxWeight, s =>
    match (Codec.decode data : Option (XCMPMessageOf A P × List UInt8)) with
    | some (.newOrder client b, _) =>
      let s' := (orderReceived selfParaId env (receivedOrder b sender client) b.device).exec s
      handleXcmpMessages selfParaId env iter maxWeight s'
    | some _ => (s, 0)
    | none => (s, 0)

/-! ### Operations -/

/-- The entry points of the pallet, the message handler one order at a time. -/
inductive Op (A P : Type) where
  | order (origin : Origin A) (order : OrderBaseOf A P)
  | cancel (origin : Origin A) (device : A)
  | accept (origin : Origin A) (reject onoff : Bool)
  | done (origin : Origin A) (onoff : Bool)
  | register (origin : Origin A) (penalty : Balance) (wcd : Moment) (onoff : Bool)
  | setState (origin : Origin A) (onoff : Bool)
  | orderReceived (order : OrderOf A P) (device : A)
  | onKilledAccount (who : A)

/-- The operation that a `NewOrder` message of a chain makes. -/
def Op.newOrder (sender : ParaId) (client : A) (order : OrderBaseOf A P) : Op A P :=
  .orderReceived (receivedOrder order sender client) order.device

/-- The call an operation makes. -/
def Op.call (selfParaId : ParaId) (env : ServiceEnv A P) : Op A P → Call (State A P L) Error Unit
  | .order origin b => Service.order selfParaId env origin b
  | .cancel origin device => Service.cancel selfParaId env origin device
  | .accept origin reject onoff => Service.accept selfParaId env origin reject onoff
  | .done origin onoff => Service.done selfParaId env origin onoff
  | .register origin penalty wcd onoff => Service.register origin penalty wcd onoff
  | .setState origin onoff => Service.setState origin onoff
  | .orderReceived o device => Service.orderReceived selfParaId env o device
  | .onKilledAccount who => Service.onKilledAccount who

/-- A step of the pallet: one operation at some time, whatever it returns. -/
def Step (selfParaId : ParaId) (s s' : State A P L) : Prop :=
  ∃ env op, s' = (Op.call selfParaId env op).exec s

/-- The storages the operations reach from an empty storage and any balances. -/
def Reachable (selfParaId : ParaId) (s : State A P L) : Prop :=
  ∃ ledger, Relation.ReflTransGen (Step selfParaId) (Storage.init ledger) s

end Messages

end XcmAutoBank.Service
