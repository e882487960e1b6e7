import XcmAutoBank.Xchange.Skipping
import XcmAutoBank.Service.Skipping

/-!
# Bad messages and good ones

Both handlers return from the loop over a batch at the first bytes that do not decode.  At a
message meant for the other pallet the client chain goes on to the next item, while the service
chain returns there as well.  The messages behind are lost, though the transport has delivered
them, so a batch does what its messages do one by one only as long as nothing is lost that would
find something to do (`swallows_nothing_iff`).
-/

namespace XcmAutoBank.System

variable {A P LA LB : Type} [DecidableEq A] [Codec A] [Codec P] [ReservableCurrency LA A]
  [ReservableCurrency LB A] [LawfulCurrency LA A] [LawfulCurrency LB A]

/-- On both chains, for every storage and every batch, orders, profiles and balances are those that
the messages the pallet handles lead to one by one, exactly when no message behind the item that
ended the batch would have found something to do. -/
theorem swallows_nothing_iff (selfParaId : ParaId) (env : Service.ServiceEnv A P)
    (items : List (ParaId × RelayBlockNumber × List UInt8)) (maxWeight : Weight)
    (s : Xchange.State A P LA) (t : Service.State A P LB) :
    ((Xchange.handleXcmpMessages env.toEnv items maxWeight s).1.Same
        (Xchange.handleEach env.toEnv items s) ↔ Xchange.NothingLost env.toEnv items s) ∧
    ((Service.handleXcmpMessages selfParaId env items maxWeight t).1.Same
        (Service.handleEach selfParaId env items t) ↔
      Service.NothingLost selfParaId env items t) :=
  ⟨Xchange.same_handleEach_iff items maxWeight, Service.same_handleEach_iff items maxWeight⟩

/-! ### Batches with bytes that do not decode -/

/-- A batch of parachain 2000: a byte that is no message, and the message that the first order is
done. -/
def spoiltBatch : Xchange.Batch :=
  [(2000, 0, [0xff]), (2000, 1, Codec.encode (.orderDone 1 2 true : XCMPMessageOf UInt64 UInt64))]

/-- A batch of parachain 2001: an acceptance, which is not meant for a service chain, and an order
of client 1 for device 2. -/
def misdirectedBatch : List Service.Item :=
  [(2001, 0, Codec.encode (.orderAccept 1 2 : XCMPMessageOf UInt64 UInt64)),
    (2001, 1, Codec.encode (.newOrder 1 ⟨100, 7, 30, 2⟩ : XCMPMessageOf UInt64 UInt64))]

/-- Every account owns 30 on the service chain and device 2 has registered. -/
def registeredDevice : Service.State UInt64 UInt64 (Balances UInt64) :=
  Dispatch.exec (Service.register (.signed 2) 10 20 true) (Storage.init (Balances.uniform 30))

/-- What the two batches do and what their messages do one by one. -/
theorem swallows_nothing_iff_spoilt :
    ((Xchange.handleXcmpMessages (Env.online 50) spoiltBatch 0 Xchange.firstOrder).1.Same
        (Xchange.handleEach (Env.online 50) spoiltBatch Xchange.firstOrder) ↔
      Xchange.NothingLost (Env.online 50) spoiltBatch Xchange.firstOrder) ∧
    ((Service.handleXcmpMessages 2000 (.online 50 .busy) spoiltBatch 0 registeredDevice).1.Same
        (Service.handleEach 2000 (.online 50 .busy) spoiltBatch registeredDevice) ↔
      Service.NothingLost 2000 (.online 50 .busy) spoiltBatch registeredDevice) :=
  swallows_nothing_iff 2000 (.online 50 .busy) spoiltBatch 0 Xchange.firstOrder registeredDevice

/-- On the client chain a byte that is no message swallows the message behind it, and on the service
chain a message meant for the client chain does so too. -/
theorem not_swallows_nothing :
    (¬∀ (env : Env) (items : Xchange.Batch) (maxWeight : Weight)
      (s : Xchange.State UInt64 UInt64 (Balances UInt64)),
      (Xchange.handleXcmpMessages env items maxWeight s).1.Same
        (Xchange.handleEach env items s)) ∧
    ¬∀ (selfParaId : ParaId) (env : Service.ServiceEnv UInt64 UInt64) (items : List Service.Item)
      (maxWeight : Weight) (s : Service.State UInt64 UInt64 (Balances UInt64)),
      (Service.handleXcmpMessages selfParaId env items maxWeight s).1.Same
        (Service.handleEach selfParaId env items s) := by
  constructor
  · intro h
    have horders := (h (Env.online 50) spoiltBatch 0 Xchange.firstOrder).orders
    have hdone : (2 : UInt64) ∉
        (Xchange.handleEach (Env.online 50) spoiltBatch Xchange.firstOrder).orders := by decide
    have hkept : (2 : UInt64) ∈
        (Xchange.handleXcmpMessages (Env.online 50) spoiltBatch 0 Xchange.firstOrder).1.orders := by
      decide
    rw [horders] at hdone
    exact hdone hkept
  · intro h
    have horders := (h 2000 (.online 50 .busy) misdirectedBatch 0 registeredDevice).orders
    have hstored : (2 : UInt64) ∈
        (Service.handleEach 2000 (.online 50 .busy) misdirectedBatch registeredDevice).orders := by
      decide
    have hlost : (2 : UInt64) ∉ (Service.handleXcmpMessages 2000 (.online 50 .busy)
        misdirectedBatch 0 registeredDevice).1.orders := by decide
    rw [horders] at hstored
    exact hlost hstored

end XcmAutoBank.System
