import XcmAutoBank.Common.Runtime
import XcmAutoBank.Foundation.Deposit
import XcmAutoBank.Foundation.Tracking

/-!
# Calls over a currency with an existential deposit

The same call may run on a ledger with an existential deposit and on watched balances without one.
Every statement of the pallets does the same to both and returns the same, unless a repatriation
breaks the watch: the storage maps, the messages and the events do not depend on the ledger, and
the currency's own statements are those of the watched balances.
-/

namespace XcmAutoBank

open ReservableCurrency

variable {A O D E L Error α : Type} {deposit : ℕ}

namespace Storage

variable [ReservableCurrency L A]

variable (deposit) in
/-- The same storage over the balances of its ledger, at the start of a watch. -/
def watched (s : Storage A O D E L) : Storage A O D E (Watched A deposit) :=
  ⟨s.orders, s.device, .start A deposit s.ledger, s.sent, s.events⟩

/-- The watch is kept: every repatriation has left the deposit. -/
def Kept (t : Storage A O D E (Watched A deposit)) : Prop := t.ledger.kept = true

/-- A call on watched balances does and returns what the call on the ledger does and returns, unless
it breaks the watch. -/
abbrev Follows (x : Call (Storage A O D E L) Error α)
    (y : Call (Storage A O D E (Watched A deposit)) Error α) : Prop :=
  Dispatch.Follows (watched deposit) Kept x y

end Storage

open Storage Dispatch

variable [ReservableCurrency L A]

/-- A call signed by nobody fails on both. -/
theorem follows_ensureSigned (origin : Origin A) :
    Storage.Follows (ensureSigned origin : Call (Storage A O D E L) Error A)
      (ensureSigned origin : Call (Storage A O D E (Watched A deposit)) Error A) := by
  cases origin with
  | signed who => exact .pure who
  | root => exact .throw _
  | none => exact .throw _

/-! ### The storage maps -/

section Maps

variable [DecidableEq A] (d : A)

/-- Both read the same order. -/
theorem follows_getOrder : Storage.Follows (Orders.get d : Call (Storage A O D E L) Error _)
    (Orders.get d : Call (Storage A O D E (Watched A deposit)) Error _) :=
  .read fun _ => rfl

/-- Both look for the same order. -/
theorem follows_containsKey :
    Storage.Follows (Orders.containsKey d : Call (Storage A O D E L) Error _)
      (Orders.containsKey d : Call (Storage A O D E (Watched A deposit)) Error _) :=
  .read fun _ => rfl

/-- Both store an order. -/
theorem follows_insertOrder (o : O) :
    Storage.Follows (Orders.insert d o : Call (Storage A O D E L) Error _)
      (Orders.insert d o : Call (Storage A O D E (Watched A deposit)) Error _) :=
  .write (fun _ h => h) fun _ => rfl

/-- Both remove an order. -/
theorem follows_removeOrder :
    Storage.Follows (Orders.remove d : Call (Storage A O D E L) Error _)
      (Orders.remove d : Call (Storage A O D E (Watched A deposit)) Error _) :=
  .write (fun _ h => h) fun _ => rfl

/-- Both take the same order. -/
theorem follows_takeOrder : Storage.Follows (Orders.take d : Call (Storage A O D E L) Error _)
    (Orders.take d : Call (Storage A O D E (Watched A deposit)) Error _) :=
  .bind (follows_getOrder d) fun o => .bind (follows_removeOrder d) fun _ => .pure o

/-- Both read the same profile. -/
theorem follows_getDevice : Storage.Follows (Device.get d : Call (Storage A O D E L) Error _)
    (Device.get d : Call (Storage A O D E (Watched A deposit)) Error _) :=
  .read fun _ => rfl

/-- Both write a profile. -/
theorem follows_insertDevice (dev : D) :
    Storage.Follows (Device.insert d dev : Call (Storage A O D E L) Error _)
      (Device.insert d dev : Call (Storage A O D E (Watched A deposit)) Error _) :=
  .write (fun _ h => h) fun _ => rfl

/-- Both remove a profile. -/
theorem follows_removeDevice :
    Storage.Follows (Device.remove d : Call (Storage A O D E L) Error _)
      (Device.remove d : Call (Storage A O D E (Watched A deposit)) Error _) :=
  .write (fun _ h => h) fun _ => rfl

end Maps

/-! ### Messages and events -/

/-- Both hand over the same message and get the same answer. -/
theorem follows_sendXcm (env : Env) (dest : ParaId) (message : Xcm) :
    Storage.Follows (sendXcm env dest message : Call (Storage A O D E L) Error _)
      (sendXcm env dest message : Call (Storage A O D E (Watched A deposit)) Error _) :=
  .bind (.write (fun _ h => h) fun _ => rfl) fun _ => .pure _

/-- Both deposit the same event. -/
theorem follows_depositEvent (e : E) :
    Storage.Follows (depositEvent e : Call (Storage A O D E L) Error _)
      (depositEvent e : Call (Storage A O D E (Watched A deposit)) Error _) :=
  .write (fun _ h => h) fun _ => rfl

/-! ### The currency -/

section Currency

/-- An update of watched balances follows an update of the ledger when it never mends the watch and
does the same while the watch is kept. -/
theorem follows_update {f : L → Except CurrencyError L}
    {g : Watched A deposit → Except CurrencyError (Watched A deposit)}
    (hkept : ∀ w w', g w = .ok w' → w'.kept = true → w.kept = true)
    (h : ∀ l, (∀ w, g (.start A deposit l) = .ok w → w.kept = true) →
      g (.start A deposit l) = (f l).map (.start A deposit)) :
    Storage.Follows (Currency.update f : Call (Storage A O D E L) Error _)
      (Currency.update g : Call (Storage A O D E (Watched A deposit)) Error _) := by
  have both (s : Storage A O D E L)
      (hs : Kept (exec (Currency.update g : Call _ Error _) (s.watched deposit))) :
      run (Currency.update g : Call _ Error _) (s.watched deposit) =
        ((run (Currency.update f : Call _ Error _) s).1,
          (exec (Currency.update f : Call _ Error _) s).watched deposit) := by
    have hsame : g (.start A deposit s.ledger) = (f s.ledger).map (.start A deposit) := by
      refine h s.ledger fun w hw => ?_
      rw [exec, Currency.run_update, show g (s.watched deposit).ledger = .ok w from hw] at hs
      exact hs
    rw [exec, Currency.run_update, Currency.run_update,
      show g (s.watched deposit).ledger = _ from hsame]
    cases f s.ledger <;> rfl
  refine ⟨⟨fun t ht => ?_, fun s hs => congrArg Prod.snd (both s hs)⟩,
    fun s hs => congrArg Prod.fst (both s hs)⟩
  rw [exec, Currency.run_update] at ht
  cases hg : g t.ledger with
  | error e =>
    rw [hg] at ht
    exact ht
  | ok w =>
    rw [hg] at ht
    exact hkept t.ledger w hg ht

variable [DecidableEq A] [DepositCurrency L A deposit] (a b : A) (v : Balance)

/-- Both check the same free balance. -/
theorem follows_canReserve :
    Storage.Follows (Currency.canReserve a v : Call (Storage A O D E L) Error _)
      (Currency.canReserve a v : Call (Storage A O D E (Watched A deposit)) Error _) :=
  .read fun s => Watched.canReserve_start s.ledger a v.toNat

/-- Both reserve the same amount or fail. -/
theorem follows_reserve :
    Storage.Follows (Currency.reserve a v : Call (Storage A O D E L) Error _)
      (Currency.reserve a v : Call (Storage A O D E (Watched A deposit)) Error _) :=
  follows_update (fun _ _ hw hkept => (Watched.reserve_eq_ok hw).2 ▸ hkept)
    fun l _ => Watched.reserve_start l a v.toNat

/-- Both release the same amount. -/
theorem follows_unreserve :
    Storage.Follows (Currency.unreserve a v : Call (Storage A O D E L) Error _)
      (Currency.unreserve a v : Call (Storage A O D E (Watched A deposit)) Error _) := by
  refine .write (fun _ h => h) fun s => ?_
  change ({ s.watched deposit with ledger := unreserve (.start A deposit s.ledger) a v.toNat } :
    Storage A O D E (Watched A deposit)) = _
  rw [Watched.unreserve_start]
  rfl

/-- Both move the same amount or fail, while the deposit is left. -/
theorem follows_repatriateReserved :
    Storage.Follows (Currency.repatriateReserved a b v .free : Call (Storage A O D E L) Error _)
      (Currency.repatriateReserved a b v .free :
        Call (Storage A O D E (Watched A deposit)) Error _) :=
  follows_update (fun _ _ => Watched.kept_of_repatriate) fun _ => Watched.repatriate_start

/-- A settled penalty, released in time and paid late, and what comes after it. -/
theorem follows_penalty {now untilTime : Moment} {device recipient : A} {penalty : Balance}
    {f : Unit → Call (Storage A O D E L) Error α}
    {g : Unit → Call (Storage A O D E (Watched A deposit)) Error α}
    (h : Storage.Follows (f ()) (g ())) :
    Storage.Follows
      (if now < untilTime then Currency.unreserve device penalty >>= f
        else Currency.repatriateReserved device recipient penalty .free >>= f)
      (if now < untilTime then Currency.unreserve device penalty >>= g
        else Currency.repatriateReserved device recipient penalty .free >>= g) :=
  .ite (.bind (follows_unreserve device penalty) fun _ => h)
    (.bind (follows_repatriateReserved device recipient penalty) fun _ => h)

end Currency

end XcmAutoBank
