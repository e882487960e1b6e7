import XcmAutoBank.Foundation.Currency

/-!
# Currencies with an existential deposit

A currency with an existential deposit keeps no account with less than the deposit.  Its operations
do to the balances what those of a currency without a deposit do as long as a repatriation that
takes anything from an account leaves at least the deposit there.  `DepositCurrency` says so by
comparison with `Balances`; of a repatriation that leaves less it says nothing.

`Watched` are balances without a deposit that remember whether a repatriation has left less than the
deposit: a lawful currency, whose operations on the balances of a ledger are those on the ledger
itself for as long as the watch is kept.  `DepositBalances` is a currency that reaps an account
left with less.
-/

open ReservableCurrency LawfulCurrency

variable {Ledger A : Type} [ReservableCurrency Ledger A]

namespace Balances

variable (A) in
/-- The balances of a ledger. -/
def ofLedger (l : Ledger) : Balances A :=
  ⟨ReservableCurrency.free l, ReservableCurrency.reserved l⟩

/-- What was taken from an account, if anything, left at least the deposit there. -/
def Leaves (deposit : ℕ) (l l' : Balances A) (a : A) : Prop :=
  l'.free a + l'.reserved a = l.free a + l.reserved a ∨ deposit ≤ l'.free a + l'.reserved a

instance (deposit : ℕ) (l l' : Balances A) (a : A) : Decidable (Leaves deposit l l' a) :=
  inferInstanceAs (Decidable (_ ∨ _))

variable [DecidableEq A]

/-- The account is reaped: what was left of it is lost. -/
def reap (l : Balances A) (a : A) : Balances A :=
  ⟨fun x => if x = a then 0 else l.free x, fun x => if x = a then 0 else l.reserved x⟩

end Balances

/-- What the operations of a currency with an existential deposit do to the balances: the same as
without a deposit, when a repatriation leaves the deposit at the account it takes from. -/
class DepositCurrency (Ledger A : Type) [DecidableEq A] [ReservableCurrency Ledger A]
    (deposit : ℕ) : Prop where
  /-- The check is that of the free balance. -/
  canReserve_eq (l : Ledger) (a : A) (v : ℕ) :
    canReserve l a v = canReserve (Balances.ofLedger A l) a v
  /-- A reservation moves the amount between two balances of its account, or fails. -/
  reserve_eq (l : Ledger) (a : A) (v : ℕ) :
    (reserve l a v).map (Balances.ofLedger A) = (Balances.ofLedger A l).reserve a v
  /-- Releasing a reserve moves the amount between two balances of its account. -/
  unreserve_eq (l : Ledger) (a : A) (v : ℕ) :
    Balances.ofLedger A (unreserve l a v) = (Balances.ofLedger A l).unreserve a v
  /-- A repatriation fails when the beneficiary holds nothing. -/
  repatriate_error {l : Ledger} {a b : A} {v : ℕ} {e : CurrencyError}
    (h : (Balances.ofLedger A l).repatriateReserved a b v .free = .error e) :
    repatriateReserved l a b v .free = .error e
  /-- A repatriation that leaves the deposit moves the amount. -/
  repatriate_ok {l : Ledger} {a b : A} {v : ℕ} {m : Balances A}
    (h : (Balances.ofLedger A l).repatriateReserved a b v .free = .ok m)
    (hleaves : (Balances.ofLedger A l).Leaves deposit m a) :
    ∃ l', repatriateReserved l a b v .free = .ok l' ∧ Balances.ofLedger A l' = m

/-! ### Watched balances -/

/-- Balances without a deposit, and whether every repatriation has left the deposit. -/
structure Watched (A : Type) (deposit : ℕ) where
  balances : Balances A
  kept : Bool

namespace Watched

variable {deposit : ℕ} {w w' : Watched A deposit} {a b : A} {v : ℕ} {l : Ledger}

variable (A deposit) in
/-- The balances of a ledger at the start of a watch. -/
def start (l : Ledger) : Watched A deposit := ⟨.ofLedger A l, true⟩

variable [DecidableEq A]

instance : ReservableCurrency (Watched A deposit) A where
  free w := w.balances.free
  reserved w := w.balances.reserved
  canReserve w a v := ReservableCurrency.canReserve w.balances a v
  reserve w a v := (w.balances.reserve a v).map fun m => ⟨m, w.kept⟩
  unreserve w a v := ⟨w.balances.unreserve a v, w.kept⟩
  repatriateReserved w a b v status :=
    (w.balances.repatriateReserved a b v status).map fun m =>
      ⟨m, w.kept && decide (w.balances.Leaves deposit m a)⟩

/-- A reservation is one of the balances and leaves the watch alone. -/
theorem reserve_eq_ok (h : reserve w a v = .ok w') :
    ReservableCurrency.reserve w.balances a v = .ok w'.balances ∧ w'.kept = w.kept := by
  change (w.balances.reserve a v).map _ = _ at h
  change w.balances.reserve a v = _ ∧ _
  cases hm : w.balances.reserve a v with
  | error e =>
    rw [hm] at h
    cases h
  | ok m =>
    rw [hm] at h
    cases h
    exact ⟨rfl, rfl⟩

/-- A repatriation is one of the balances and never mends the watch. -/
theorem repatriate_eq_ok {status : BalanceStatus}
    (h : repatriateReserved w a b v status = .ok w') :
    ReservableCurrency.repatriateReserved w.balances a b v status = .ok w'.balances ∧
      w'.kept = (w.kept && decide (w.balances.Leaves deposit w'.balances a)) := by
  change (w.balances.repatriateReserved a b v status).map _ = _ at h
  change w.balances.repatriateReserved a b v status = _ ∧ _
  cases hm : w.balances.repatriateReserved a b v status with
  | error e =>
    rw [hm] at h
    cases h
  | ok m =>
    rw [hm] at h
    cases h
    exact ⟨rfl, rfl⟩

/-- A watch that is kept after a repatriation was kept before it. -/
theorem kept_of_repatriate {status : BalanceStatus}
    (h : repatriateReserved w a b v status = .ok w') (hkept : w'.kept = true) : w.kept = true := by
  rw [(repatriate_eq_ok h).2, Bool.and_eq_true] at hkept
  exact hkept.1

instance : LawfulCurrency (Watched A deposit) A where
  canReserve_iff w := canReserve_iff w.balances
  reserve_ok_iff w a v := by
    rw [← show _ ↔ v ≤ free w a from LawfulCurrency.reserve_ok_iff w.balances a v]
    constructor
    · rintro ⟨w', h⟩
      exact ⟨_, (reserve_eq_ok h).1⟩
    · rintro ⟨m, h⟩
      exact ⟨_, congrArg (Except.map _) h⟩
  free_reserve h x := by
    have hx := free_reserve (reserve_eq_ok h).1 x
    exact hx
  reserved_reserve h x := by
    have hx := reserved_reserve (reserve_eq_ok h).1 x
    exact hx
  free_unreserve w := free_unreserve w.balances
  reserved_unreserve w := reserved_unreserve w.balances
  repatriate_ok_iff w a b v := by
    rw [← show _ ↔ v = 0 ∨ a = b ∨ total w b ≠ 0 from
      LawfulCurrency.repatriate_ok_iff w.balances a b v]
    constructor
    · rintro ⟨w', h⟩
      exact ⟨_, (repatriate_eq_ok h).1⟩
    · rintro ⟨m, h⟩
      exact ⟨_, congrArg (Except.map _) h⟩
  free_repatriate h x := by
    have hx := free_repatriate (repatriate_eq_ok h).1 x
    exact hx
  reserved_repatriate h x := by
    have hx := reserved_repatriate (repatriate_eq_ok h).1 x
    exact hx

/-! ### The balances of a ledger with a deposit -/

section Start

variable [DepositCurrency Ledger A deposit]

/-- The check is the same on watched balances. -/
theorem canReserve_start (l : Ledger) (a : A) (v : ℕ) :
    canReserve (start A deposit l) a v = canReserve l a v :=
  (DepositCurrency.canReserve_eq deposit l a v).symm

/-- A reservation does the same to watched balances. -/
theorem reserve_start (l : Ledger) (a : A) (v : ℕ) :
    reserve (start A deposit l) a v = (reserve l a v).map (start A deposit) := by
  change ((Balances.ofLedger A l).reserve a v).map _ = _
  rw [← DepositCurrency.reserve_eq deposit l a v]
  cases reserve l a v <;> rfl

/-- Releasing a reserve does the same to watched balances. -/
theorem unreserve_start (l : Ledger) (a : A) (v : ℕ) :
    unreserve (start A deposit l) a v = start A deposit (unreserve l a v) := by
  change (⟨(Balances.ofLedger A l).unreserve a v, true⟩ : Watched A deposit) = _
  rw [← DepositCurrency.unreserve_eq deposit l a v]
  rfl

/-- A repatriation does the same to watched balances unless it breaks the watch. -/
theorem repatriate_start
    (h : ∀ w, repatriateReserved (start A deposit l) a b v .free = .ok w → w.kept = true) :
    repatriateReserved (start A deposit l) a b v .free =
      (repatriateReserved l a b v .free).map (start A deposit) := by
  cases hw : repatriateReserved (start A deposit l) a b v .free with
  | error e =>
    change ((Balances.ofLedger A l).repatriateReserved a b v .free).map _ = _ at hw
    cases hm : (Balances.ofLedger A l).repatriateReserved a b v .free with
    | ok m =>
      rw [hm] at hw
      cases hw
    | error e' =>
      rw [hm] at hw
      cases hw
      have herror : repatriateReserved l a b v .free = .error e :=
        DepositCurrency.repatriate_error deposit hm
      rw [herror]
      rfl
  | ok w =>
    have hkept : w.kept = true := h w hw
    obtain ⟨hm, hwatch⟩ := repatriate_eq_ok hw
    have hleaves : (Balances.ofLedger A l).Leaves deposit w.balances a := by
      rw [hwatch, Bool.and_eq_true, decide_eq_true_iff] at hkept
      exact hkept.2
    obtain ⟨l', hl', hbalances⟩ := DepositCurrency.repatriate_ok hm hleaves
    rw [hl', Except.map, start, hbalances, ← hkept]

end Start

end Watched

/-! ### A currency that reaps -/

/-- Balances of a currency with a deposit. -/
structure DepositBalances (A : Type) (deposit : ℕ) where
  balances : Balances A

namespace DepositBalances

variable {deposit : ℕ} [DecidableEq A]

/-- Move as much of a reserve as there is to an account that exists, and reap the other one when it
is left with less than the deposit. -/
def repatriateReserved (l : DepositBalances A deposit) (a b : A) (v : ℕ) (status : BalanceStatus) :
    Except CurrencyError (DepositBalances A deposit) :=
  (l.balances.repatriateReserved a b v status).map fun m =>
    ⟨if l.balances.Leaves deposit m a then m else m.reap a⟩

instance : ReservableCurrency (DepositBalances A deposit) A where
  free l := l.balances.free
  reserved l := l.balances.reserved
  canReserve l a v := canReserve l.balances a v
  reserve l a v := (l.balances.reserve a v).map .mk
  unreserve l a v := ⟨l.balances.unreserve a v⟩
  repatriateReserved := repatriateReserved

instance : DepositCurrency (DepositBalances A deposit) A deposit where
  canReserve_eq _ _ _ := rfl
  reserve_eq l a v := by
    change ((l.balances.reserve a v).map _).map _ = l.balances.reserve a v
    cases l.balances.reserve a v <;> rfl
  unreserve_eq _ _ _ := rfl
  repatriate_error {l a b v e} h := by
    change (l.balances.repatriateReserved a b v .free).map _ = _
    rw [show l.balances.repatriateReserved a b v .free = .error e from h]
    rfl
  repatriate_ok {l a b v m} h hleaves := by
    refine ⟨⟨m⟩, ?_, rfl⟩
    change (l.balances.repatriateReserved a b v .free).map _ = _
    rw [show l.balances.repatriateReserved a b v .free = .ok m from h, Except.map,
      if_pos (show l.balances.Leaves deposit m a from hleaves)]

end DepositBalances
