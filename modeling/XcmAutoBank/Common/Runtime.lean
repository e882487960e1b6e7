import XcmAutoBank.Common.Types
import XcmAutoBank.Foundation.Dispatch
import XcmAutoBank.Foundation.Currency

/-!
# What the pallets use of the runtime

The numeric types of the runtime, signed origins, the transport and the storage.  Both pallets
keep two storage maps, `Orders` and `Device`, both keyed by the device's account; `Storage` puts
them beside the ledger of the currency, the messages handed to the transport and the events.

A call runs in an `Env`, which fixes what lies outside the pallets while the call runs: the
timestamp and the transport's answers.
-/

namespace XcmAutoBank

/-- A timestamp, in milliseconds; its addition wraps. -/
abbrev Moment := UInt64

/-- The id of an account of the runtime, a public key. -/
abbrev AccountId32 := FixedBytes 32

/-- The balance of an account. -/
abbrev Balance := BitVec 128

instance : Codec Balance := inferInstanceAs (Codec (BitVec (8 * 16)))

instance : LawfulCodec Balance := inferInstanceAs (LawfulCodec (BitVec (8 * 16)))

/-- The number of a parachain. -/
abbrev ParaId := UInt32

abbrev RelayBlockNumber := UInt32

/-- An order of the runtime's types, as its client states it. -/
abbrev OrderBaseOf (AccountId Payload : Type) := OrderBase Payload Balance Moment AccountId

/-- An order of the runtime's types, as it is stored. -/
abbrev OrderOf (AccountId Payload : Type) := Order Payload Balance Moment AccountId ParaId

/-- A cross-chain message of the runtime's types. -/
abbrev XCMPMessageOf (AccountId Payload : Type) := XCMPMessage AccountId Balance Payload Moment

abbrev Weight := UInt64

/-- Who dispatched a call. -/
inductive Origin (AccountId : Type) where
  | root
  | signed (who : AccountId)
  | none
  deriving DecidableEq, Repr

/-- Why a dispatchable fails. -/
inductive DispatchError (Error : Type) where
  | badOrigin
  | module (e : Error)
  | currency (e : CurrencyError)
  deriving DecidableEq, Repr

/-! ### The transport -/

inductive OriginKind where
  | native
  | sovereignAccount
  | superuser
  | xcm
  deriving DecidableEq, Repr

/-- An XCM program of one `Transact` instruction, the only kind the pallets send. -/
structure Xcm where
  originType : OriginKind
  requireWeightAtMost : Weight
  call : List UInt8
  deriving DecidableEq, Repr

/-- The `Transact` instruction that carries the bytes of a call. -/
def Xcm.transact (call : List UInt8) : Xcm where
  originType := .native
  requireWeightAtMost := 0
  call := call

inductive SendError where
  | cannotReachDestination
  | transport
  deriving DecidableEq, Repr

/-- What the runtime answers during one call. -/
structure Env where
  /-- The timestamp of the block. -/
  now : Moment
  /-- The transport's answer to a message for a sibling parachain. -/
  sendXcm : ParaId → Xcm → Except SendError Unit

/-- The environment at a time, with a transport that takes every message. -/
def Env.online (now : Moment) : Env := ⟨now, fun _ _ => .ok ()⟩

/-- A message handed to the transport, with its answer. -/
structure Sent where
  dest : ParaId
  message : Xcm
  result : Except SendError Unit

/-- The transport took the message. -/
def Sent.accepted (m : Sent) : Bool := m.result.isOk

/-! ### The storage -/

/-- The two maps of a pallet and what its calls read and write beside them. -/
structure Storage (AccountId Order Profile Event Ledger : Type) where
  orders : Finmap fun _ : AccountId => Order
  device : Finmap fun _ : AccountId => Profile
  ledger : Ledger
  /-- The messages handed to the transport, oldest first. -/
  sent : List Sent
  /-- The events deposited, oldest first. -/
  events : List Event

/-- A storage without devices and orders. -/
def Storage.init {A O D E L : Type} (ledger : L) : Storage A O D E L := ⟨∅, ∅, ledger, [], []⟩

/-- A call of a pallet on its storage. -/
abbrev Call (σ Error α : Type) := Dispatch σ (DispatchError Error) α

variable {A O D E L Error : Type}

section Init

variable [DecidableEq A] (ledger : L) (d : A)

/-- An empty storage has no order. -/
theorem Storage.init_orders_ne (o : O) :
    (Storage.init ledger : Storage A O D E L).orders.lookup d ≠ some o := by
  rw [Storage.init, Finmap.lookup_empty]
  exact (Option.some_ne_none o).symm

/-- An empty storage has no profile. -/
theorem Storage.init_device_ne (dev : D) :
    (Storage.init ledger : Storage A O D E L).device.lookup d ≠ some dev := by
  rw [Storage.init, Finmap.lookup_empty]
  exact (Option.some_ne_none dev).symm

end Init

/-- The account that signed the call. -/
def ensureSigned {σ : Type} : Origin A → Call σ Error A
  | .signed who => pure who
  | _ => throw .badOrigin

/-- A signed call is dispatched for its signer. -/
@[simp] theorem ensureSigned_signed {σ : Type} (who : A) :
    (ensureSigned (.signed who) : Call σ Error A) = pure who := rfl

/-! ### The storage maps -/

section Maps

variable [DecidableEq A]

namespace Orders

def get (device : A) : Call (Storage A O D E L) Error (Option O) :=
  Dispatch.read fun s => s.orders.lookup device

def containsKey (device : A) : Call (Storage A O D E L) Error Bool :=
  Dispatch.read fun s => decide (device ∈ s.orders)

def insert (device : A) (order : O) : Call (Storage A O D E L) Error Unit :=
  Dispatch.write fun s => { s with orders := s.orders.insert device order }

def remove (device : A) : Call (Storage A O D E L) Error Unit :=
  Dispatch.write fun s => { s with orders := s.orders.erase device }

/-- Read an order and remove it. -/
def take (device : A) : Call (Storage A O D E L) Error (Option O) := do
  let order ← get device
  remove device
  return order

variable (s : Storage A O D E L) (d : A)

@[simp] theorem run_get :
    Dispatch.run (get d : Call _ Error _) s = (.ok (s.orders.lookup d), s) := rfl

@[simp] theorem run_containsKey :
    Dispatch.run (containsKey d : Call _ Error _) s = (.ok (decide (d ∈ s.orders)), s) := rfl

@[simp] theorem run_insert (o : O) :
    Dispatch.run (insert d o : Call _ Error _) s =
      (.ok (), { s with orders := s.orders.insert d o }) := rfl

@[simp] theorem run_remove :
    Dispatch.run (remove d : Call (Storage A O D E L) Error _) s =
      (.ok (), { s with orders := s.orders.erase d }) := rfl

@[simp] theorem run_take :
    Dispatch.run (take d : Call _ Error _) s =
      (.ok (s.orders.lookup d), { s with orders := s.orders.erase d }) := rfl

end Orders

namespace Device

def get (device : A) : Call (Storage A O D E L) Error (Option D) :=
  Dispatch.read fun s => s.device.lookup device

def insert (device : A) (dev : D) : Call (Storage A O D E L) Error Unit :=
  Dispatch.write fun s => { s with device := s.device.insert device dev }

def remove (device : A) : Call (Storage A O D E L) Error Unit :=
  Dispatch.write fun s => { s with device := s.device.erase device }

variable (s : Storage A O D E L) (d : A)

@[simp] theorem run_get :
    Dispatch.run (get d : Call _ Error _) s = (.ok (s.device.lookup d), s) := rfl

@[simp] theorem run_insert (dev : D) :
    Dispatch.run (insert d dev : Call _ Error _) s =
      (.ok (), { s with device := s.device.insert d dev }) := rfl

@[simp] theorem run_remove :
    Dispatch.run (remove d : Call (Storage A O D E L) Error _) s =
      (.ok (), { s with device := s.device.erase d }) := rfl

end Device

end Maps

/-! ### The currency -/

namespace Currency

/-- Replace the ledger by the one the currency returns, or fail with its error. -/
def update (f : L → Except CurrencyError L) : Call (Storage A O D E L) Error Unit := do
  match f (← Dispatch.read Storage.ledger) with
  | .ok ledger => Dispatch.write fun s => { s with ledger := ledger }
  | .error e => throw (.currency e)

/-- An update writes the ledger or leaves the storage alone. -/
theorem run_update (s : Storage A O D E L) (f : L → Except CurrencyError L) :
    Dispatch.run (update f : Call (Storage A O D E L) Error _) s =
      match f s.ledger with
      | .ok l => (.ok (), { s with ledger := l })
      | .error e => (.error (.currency e), s) := by
  simp only [update, Dispatch.run_bind, Dispatch.run_read]
  cases f s.ledger <;> rfl

variable [ReservableCurrency L A]

def canReserve (who : A) (value : Balance) : Call (Storage A O D E L) Error Bool :=
  Dispatch.read fun s => ReservableCurrency.canReserve s.ledger who value.toNat

def reserve (who : A) (value : Balance) : Call (Storage A O D E L) Error Unit :=
  update fun l => ReservableCurrency.reserve l who value.toNat

def unreserve (who : A) (value : Balance) : Call (Storage A O D E L) Error Unit :=
  Dispatch.write fun s =>
    { s with ledger := ReservableCurrency.unreserve s.ledger who value.toNat }

def repatriateReserved (slashed beneficiary : A) (value : Balance) (status : BalanceStatus) :
    Call (Storage A O D E L) Error Unit :=
  update fun l => ReservableCurrency.repatriateReserved l slashed beneficiary value.toNat status

variable (s : Storage A O D E L) (a b : A) (v : Balance)

@[simp] theorem run_canReserve :
    Dispatch.run (canReserve a v : Call _ Error _) s =
      (.ok (ReservableCurrency.canReserve s.ledger a v.toNat), s) := rfl

@[simp] theorem run_reserve :
    Dispatch.run (reserve a v : Call _ Error _) s =
      match ReservableCurrency.reserve s.ledger a v.toNat with
      | .ok l => (.ok (), { s with ledger := l })
      | .error e => (.error (.currency e), s) :=
  run_update s _

@[simp] theorem run_unreserve :
    Dispatch.run (unreserve a v : Call _ Error _) s =
      (.ok (), { s with ledger := ReservableCurrency.unreserve s.ledger a v.toNat }) := rfl

@[simp] theorem run_repatriateReserved (status : BalanceStatus) :
    Dispatch.run (repatriateReserved a b v status : Call _ Error _) s =
      match ReservableCurrency.repatriateReserved s.ledger a b v.toNat status with
      | .ok l => (.ok (), { s with ledger := l })
      | .error e => (.error (.currency e), s) :=
  run_update s _

end Currency

/-! ### Messages and events -/

/-- Hand a message to the transport and return its answer. -/
def sendXcm (env : Env) (dest : ParaId) (message : Xcm) :
    Call (Storage A O D E L) Error (Except SendError Unit) := do
  let result := env.sendXcm dest message
  Dispatch.write fun s => { s with sent := s.sent ++ [{ dest, message, result }] }
  return result

def depositEvent (event : E) : Call (Storage A O D E L) Error Unit :=
  Dispatch.write fun s => { s with events := s.events ++ [event] }

/-- A message is logged whatever the transport answers. -/
@[simp] theorem run_sendXcm (env : Env) (dest : ParaId) (message : Xcm)
    (s : Storage A O D E L) :
    Dispatch.run (sendXcm env dest message : Call _ Error _) s =
      (.ok (env.sendXcm dest message),
        { s with sent := s.sent ++ [⟨dest, message, env.sendXcm dest message⟩] }) := rfl

@[simp] theorem run_depositEvent (e : E) (s : Storage A O D E L) :
    Dispatch.run (depositEvent e : Call _ Error _) s =
      (.ok (), { s with events := s.events ++ [e] }) := rfl

end XcmAutoBank
