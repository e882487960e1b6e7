import XcmAutoBank.Xchange.Consent
import XcmAutoBank.Service.Consent

/-!
# Nobody pays without having agreed to

On both chains a free balance only goes down by an order, at the account that signs it and at the
device it names.  The remote messages, whoever sent them and whatever their bytes are, never take
from a free balance.
-/

namespace XcmAutoBank.System

open ReservableCurrency

variable {A P LA LB : Type} [DecidableEq A] [Codec A] [Codec P] [ReservableCurrency LA A]
  [ReservableCurrency LB A]

/-- On both chains, whatever enters the pallet and whatever it returns, an account's free balance
only goes down when the entry is an order that the account signed, by at most the fee and, if the
order is for the account itself, its penalty, or when the order names the account as its device,
which is ready and has no order, by at most its penalty. -/
theorem spending_consented [ThriftyCurrency LA A] [ThriftyCurrency LB A] :
    (∀ (env : Env) (entry : Xchange.Entry A P) (s : Xchange.State A P LA) (a : A),
      free (entry.exec env s).ledger a < free s.ledger a →
      ∃ v, Xchange.Consents entry s a v ∧
        free s.ledger a ≤ free (entry.exec env s).ledger a + v) ∧
    ∀ (selfParaId : ParaId) (env : Service.ServiceEnv A P) (entry : Service.Entry A P)
      (s : Service.State A P LB) (a : A), entry.Foreign selfParaId →
      free (entry.exec selfParaId env s).ledger a < free s.ledger a →
      ∃ v, Service.Consents entry s a v ∧
        free s.ledger a ≤ free (entry.exec selfParaId env s).ledger a + v := by
  constructor
  · intro env entry s a h
    exact Xchange.consents_of_free_lt h
  · intro selfParaId env entry s a hforeign h
    exact Service.consents_of_free_lt hforeign h

/-- Device 2 registers on the client chain, where every account owns 30. -/
def readyDevice : Xchange.State UInt64 UInt64 (Balances UInt64) :=
  Dispatch.exec (Xchange.register (.signed 2) 2000 10 20 true) (Storage.init (Balances.uniform 30))

/-- Device 2 registers on the service chain, where every account owns 30. -/
def readyServiceDevice : Service.State UInt64 UInt64 (Balances UInt64) :=
  Dispatch.exec (Service.register (.signed 2) 10 20 true) (Storage.init (Balances.uniform 30))

/-- An order of client 1 for device 2 at a fee of 30. -/
def feeOrder : OrderBaseOf UInt64 UInt64 := ⟨100, 7, 30, 2⟩

/-- The order takes from its client on the one chain and from its device on the other. -/
theorem spending_consented_order :
    (∃ v, Xchange.Consents (.call (.order (.signed 1) feeOrder)) readyDevice 1 v ∧
      free readyDevice.ledger (1 : UInt64) ≤ free ((Xchange.Entry.call
        (.order (.signed 1) feeOrder)).exec (Env.online 0) readyDevice).ledger (1 : UInt64) + v) ∧
    ∃ v, Service.Consents (.call (.order (.signed 1) feeOrder)) readyServiceDevice 2 v ∧
      free readyServiceDevice.ledger (2 : UInt64) ≤ free ((Service.Entry.call
        (.order (.signed 1) feeOrder)).exec 2000 (.online 0 .busy) readyServiceDevice).ledger
          (2 : UInt64) + v := by
  have hspending :=
    @spending_consented UInt64 UInt64 (Balances UInt64) (Balances UInt64) _ _ _ _ _ _ _
  constructor
  · exact hspending.1 (Env.online 0) (.call (.order (.signed 1) feeOrder)) readyDevice 1
      (by decide)
  · exact hspending.2 2000 (.online 0 .busy) (.call (.order (.signed 1) feeOrder))
      readyServiceDevice 2 trivial (by decide)

end XcmAutoBank.System
