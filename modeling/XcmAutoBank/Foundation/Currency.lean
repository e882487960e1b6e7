import Mathlib.Order.Lattice
import Mathlib.Data.Nat.Notation
import Mathlib.Tactic.SplitIfs

/-!
# Reservable currencies

A reservable currency keeps a free and a reserved balance for every account.  `reserve` moves
an amount from free to reserved, `unreserve` moves it back, and `repatriateReserved` moves a
reserved amount of one account to another; the last two move as much as there is.
`ReservableCurrency` lists the operations, `LawfulCurrency` what they do to the two balances;
`ThriftyCurrency` is the part of it that bounds what can be taken from a free balance.  A lawful
currency has no existential deposit: an account keeps what it is left with, however little.

`Balances` keeps the two balances as functions and is a lawful currency.
-/

/-- Why a currency refuses a transfer. -/
inductive CurrencyError where
  | insufficientBalance
  | deadAccount
  | other
  deriving DecidableEq, Repr

/-- Where repatriated funds go at the beneficiary. -/
inductive BalanceStatus where
  | free
  | reserved
  deriving DecidableEq, Repr

/-- The operations of a currency with reserves over a type of ledgers. -/
class ReservableCurrency (Ledger AccountId : Type) where
  /-- The free balance of an account. -/
  free : Ledger → AccountId → ℕ
  /-- The reserved balance of an account. -/
  reserved : Ledger → AccountId → ℕ
  /-- Whether `reserve` would succeed. -/
  canReserve : Ledger → AccountId → ℕ → Bool
  /-- Move an amount from the free to the reserved balance. -/
  reserve : Ledger → AccountId → ℕ → Except CurrencyError Ledger
  /-- Move up to an amount from the reserved back to the free balance. -/
  unreserve : Ledger → AccountId → ℕ → Ledger
  /-- Move up to an amount from the reserved balance of one account to another account. -/
  repatriateReserved :
    Ledger → AccountId → AccountId → ℕ → BalanceStatus → Except CurrencyError Ledger

namespace ReservableCurrency

variable {Ledger AccountId : Type} [ReservableCurrency Ledger AccountId]

/-- Everything an account holds. -/
def total (l : Ledger) (a : AccountId) : ℕ := free l a + reserved l a

end ReservableCurrency

open ReservableCurrency

/-- What the operations of a reservable currency do to the balances. -/
class LawfulCurrency (Ledger AccountId : Type) [DecidableEq AccountId]
    [ReservableCurrency Ledger AccountId] : Prop where
  /-- The check agrees with the operation. -/
  canReserve_iff (l : Ledger) (a : AccountId) (v : ℕ) : canReserve l a v = true ↔ v ≤ free l a
  /-- A reservation succeeds when the free balance covers it. -/
  reserve_ok_iff (l : Ledger) (a : AccountId) (v : ℕ) :
    (∃ l', reserve l a v = .ok l') ↔ v ≤ free l a
  /-- A reservation takes the amount from the free balance. -/
  free_reserve {l l' : Ledger} {a : AccountId} {v : ℕ} (h : reserve l a v = .ok l')
    (x : AccountId) : free l' x = free l x - if x = a then v else 0
  /-- A reservation adds the amount to the reserved balance. -/
  reserved_reserve {l l' : Ledger} {a : AccountId} {v : ℕ} (h : reserve l a v = .ok l')
    (x : AccountId) : reserved l' x = reserved l x + if x = a then v else 0
  /-- Releasing a reserve adds what there is of it to the free balance. -/
  free_unreserve (l : Ledger) (a : AccountId) (v : ℕ) (x : AccountId) :
    free (unreserve l a v) x = free l x + if x = a then min v (reserved l a) else 0
  /-- Releasing a reserve takes the amount from the reserved balance, as far as it goes. -/
  reserved_unreserve (l : Ledger) (a : AccountId) (v : ℕ) (x : AccountId) :
    reserved (unreserve l a v) x = reserved l x - if x = a then v else 0
  /-- A repatriation fails when a positive amount goes to another account that holds nothing. -/
  repatriate_ok_iff (l : Ledger) (a b : AccountId) (v : ℕ) :
    (∃ l', repatriateReserved l a b v .free = .ok l') ↔ v = 0 ∨ a = b ∨ total l b ≠ 0
  /-- A repatriation adds what there is of the amount to the free balance it goes to. -/
  free_repatriate {l l' : Ledger} {a b : AccountId} {v : ℕ}
    (h : repatriateReserved l a b v .free = .ok l') (x : AccountId) :
    free l' x = free l x + if x = b then min v (reserved l a) else 0
  /-- A repatriation takes the amount from the reserved balance, as far as it goes. -/
  reserved_repatriate {l l' : Ledger} {a b : AccountId} {v : ℕ}
    (h : repatriateReserved l a b v .free = .ok l') (x : AccountId) :
    reserved l' x = reserved l x - if x = a then v else 0

/-- A reservation takes the amount from the free balance of its account, and nothing else takes from
a free balance. -/
class ThriftyCurrency (Ledger AccountId : Type) [DecidableEq AccountId]
    [ReservableCurrency Ledger AccountId] : Prop where
  /-- A reservation takes the amount from the free balance. -/
  free_of_reserve {l l' : Ledger} {a : AccountId} {v : ℕ} (h : reserve l a v = .ok l')
    (x : AccountId) : free l x = free l' x + if x = a then v else 0
  /-- Releasing a reserve takes from no free balance. -/
  free_le_unreserve (l : Ledger) (a : AccountId) (v : ℕ) (x : AccountId) :
    free l x ≤ free (unreserve l a v) x
  /-- A repatriation takes from no free balance. -/
  free_le_repatriate {l l' : Ledger} {a b : AccountId} {v : ℕ}
    (h : repatriateReserved l a b v .free = .ok l') (x : AccountId) : free l x ≤ free l' x

namespace LawfulCurrency

variable {Ledger AccountId : Type} [DecidableEq AccountId] [ReservableCurrency Ledger AccountId]
  [LawfulCurrency Ledger AccountId]

/-- Releasing a reserve changes no account's total. -/
theorem total_unreserve (l : Ledger) (a : AccountId) (v : ℕ) (x : AccountId) :
    total (unreserve l a v) x = total l x := by
  rw [total, total, free_unreserve, reserved_unreserve]
  split_ifs with h
  · subst h; omega
  · omega

/-- A reservation changes no account's total. -/
theorem total_reserve {l l' : Ledger} {a : AccountId} {v : ℕ} (h : reserve l a v = .ok l')
    (x : AccountId) : total l' x = total l x := by
  have hv : v ≤ free l a := (reserve_ok_iff l a v).mp ⟨l', h⟩
  rw [total, total, free_reserve h, reserved_reserve h]
  split_ifs with hx
  · subst hx; omega
  · omega

/-- A repatriation of an amount that is reserved moves that amount. -/
theorem total_repatriate {l l' : Ledger} {a b : AccountId} {v : ℕ}
    (h : repatriateReserved l a b v .free = .ok l') (hv : v ≤ reserved l a) (x : AccountId) :
    total l' x + (if x = a then v else 0) = total l x + if x = b then v else 0 := by
  rw [total, total, free_repatriate h, reserved_repatriate h, Nat.min_eq_left hv]
  by_cases hx : x = a
  · subst hx
    rw [if_pos rfl]
    omega
  · rw [if_neg hx]
    omega

/-- A reservation that fails found too little. -/
theorem reserve_error_iff (l : Ledger) (a : AccountId) (v : ℕ) :
    (∃ e, reserve l a v = .error e) ↔ free l a < v := by
  rw [← not_le, ← reserve_ok_iff]
  cases reserve l a v <;> simp

/-- A repatriation that fails found the beneficiary without any balance. -/
theorem repatriate_error_iff (l : Ledger) (a b : AccountId) (v : ℕ) :
    (∃ e, repatriateReserved l a b v .free = .error e) ↔ v ≠ 0 ∧ a ≠ b ∧ total l b = 0 := by
  rw [← not_iff_not, not_and_or, not_and_or, not_not, not_not, ← ne_eq, ← repatriate_ok_iff]
  cases repatriateReserved l a b v .free <;> simp

/-- A lawful currency is thrifty. -/
instance : ThriftyCurrency Ledger AccountId where
  free_of_reserve {l l' a v} h x := by
    have hv : v ≤ free l a := (reserve_ok_iff l a v).mp ⟨l', h⟩
    rw [free_reserve h]
    split_ifs with hx
    · subst hx; omega
    · omega
  free_le_unreserve l a v x := by
    rw [free_unreserve]
    exact Nat.le_add_right _ _
  free_le_repatriate h x := by
    rw [free_repatriate h]
    exact Nat.le_add_right _ _

end LawfulCurrency

/-! ### Two ledgers with the same balances -/

section SameBalances

variable {L₁ L₂ A : Type} [ReservableCurrency L₁ A] [ReservableCurrency L₂ A]

variable (A) in
/-- Two ledgers, maybe of different currencies, on which every account has the same balances. -/
structure SameBalances (l₁ : L₁) (l₂ : L₂) : Prop where
  free : ∀ a : A, free l₁ a = ReservableCurrency.free l₂ a
  reserved : ∀ a : A, reserved l₁ a = ReservableCurrency.reserved l₂ a

variable {l₁ l₁' : L₁} {l₂ : L₂} {a b : A} {v : ℕ}

/-- The same balances have the same totals. -/
theorem SameBalances.total (h : SameBalances A l₁ l₂) (a : A) :
    total l₁ a = ReservableCurrency.total l₂ a := by
  rw [ReservableCurrency.total, ReservableCurrency.total, h.free, h.reserved]

open LawfulCurrency

variable [DecidableEq A] [LawfulCurrency L₁ A] [LawfulCurrency L₂ A]

/-- A reservation that succeeds on one ledger succeeds on the other. -/
theorem SameBalances.reserve (h : SameBalances A l₁ l₂) (hl : reserve l₁ a v = .ok l₁') :
    ∃ l₂', ReservableCurrency.reserve l₂ a v = .ok l₂' ∧ SameBalances A l₁' l₂' := by
  have hv : v ≤ ReservableCurrency.free l₂ a := by
    rw [← h.free]
    exact (reserve_ok_iff l₁ a v).mp ⟨l₁', hl⟩
  obtain ⟨l₂', hl'⟩ := (reserve_ok_iff l₂ a v).mpr hv
  refine ⟨l₂', hl', fun x => ?_, fun x => ?_⟩
  · rw [free_reserve hl, free_reserve hl', h.free]
  · rw [reserved_reserve hl, reserved_reserve hl', h.reserved]

/-- Releasing a reserve keeps the balances the same. -/
theorem SameBalances.unreserve (h : SameBalances A l₁ l₂) (a : A) (v : ℕ) :
    SameBalances A (unreserve l₁ a v) (ReservableCurrency.unreserve l₂ a v) := by
  refine ⟨fun x => ?_, fun x => ?_⟩
  · rw [free_unreserve, free_unreserve, h.free, h.reserved]
  · rw [reserved_unreserve, reserved_unreserve, h.reserved]

/-- A repatriation that succeeds on one ledger succeeds on the other. -/
theorem SameBalances.repatriate (h : SameBalances A l₁ l₂)
    (hl : repatriateReserved l₁ a b v .free = .ok l₁') :
    ∃ l₂', repatriateReserved l₂ a b v .free = .ok l₂' ∧ SameBalances A l₁' l₂' := by
  have hok := (repatriate_ok_iff l₁ a b v).mp ⟨l₁', hl⟩
  rw [h.total] at hok
  obtain ⟨l₂', hl'⟩ := (repatriate_ok_iff l₂ a b v).mpr hok
  refine ⟨l₂', hl', fun x => ?_, fun x => ?_⟩
  · rw [free_repatriate hl, free_repatriate hl', h.free, h.reserved]
  · rw [reserved_repatriate hl, reserved_repatriate hl', h.reserved]

end SameBalances

/-! ### Balances kept as functions -/

/-- A free and a reserved balance for every account. -/
structure Balances (AccountId : Type) where
  free : AccountId → ℕ
  reserved : AccountId → ℕ

namespace Balances

variable {AccountId : Type}

/-- Every account has the same free balance and no reserve. -/
def uniform (v : ℕ) : Balances AccountId := ⟨fun _ => v, fun _ => 0⟩

variable [DecidableEq AccountId]

/-- Reserve an amount that the free balance covers. -/
def reserve (l : Balances AccountId) (a : AccountId) (v : ℕ) :
    Except CurrencyError (Balances AccountId) :=
  if v ≤ l.free a then
    .ok ⟨fun x => l.free x - if x = a then v else 0,
      fun x => l.reserved x + if x = a then v else 0⟩
  else .error .insufficientBalance

/-- Release as much of a reserve as there is. -/
def unreserve (l : Balances AccountId) (a : AccountId) (v : ℕ) : Balances AccountId :=
  ⟨fun x => l.free x + if x = a then min v (l.reserved a) else 0,
    fun x => l.reserved x - if x = a then v else 0⟩

/-- Move as much of a reserve as there is to an account that exists. -/
def repatriateReserved (l : Balances AccountId) (a b : AccountId) (v : ℕ)
    (status : BalanceStatus) : Except CurrencyError (Balances AccountId) :=
  if v = 0 ∨ a = b ∨ l.free b + l.reserved b ≠ 0 then
    let moved := fun x => if x = b then min v (l.reserved a) else 0
    let left := fun x => l.reserved x - if x = a then v else 0
    .ok (match status with
      | .free => ⟨fun x => l.free x + moved x, left⟩
      | .reserved => ⟨l.free, fun x => left x + moved x⟩)
  else .error .deadAccount

instance : ReservableCurrency (Balances AccountId) AccountId where
  free := free
  reserved := reserved
  canReserve l a v := decide (v ≤ l.free a)
  reserve := reserve
  unreserve := unreserve
  repatriateReserved := repatriateReserved

instance : LawfulCurrency (Balances AccountId) AccountId where
  canReserve_iff l a v := decide_eq_true_iff
  reserve_ok_iff l a v := by
    change (∃ l', Balances.reserve l a v = .ok l') ↔ v ≤ l.free a
    unfold Balances.reserve
    split_ifs with h <;> simp [h]
  free_reserve {l l' a v} h x := by
    change Balances.reserve l a v = .ok l' at h
    unfold Balances.reserve at h
    split_ifs at h
    cases h
    rfl
  reserved_reserve {l l' a v} h x := by
    change Balances.reserve l a v = .ok l' at h
    unfold Balances.reserve at h
    split_ifs at h
    cases h
    rfl
  free_unreserve l a v x := rfl
  reserved_unreserve l a v x := rfl
  repatriate_ok_iff l a b v := by
    change (∃ l', Balances.repatriateReserved l a b v .free = .ok l') ↔
      v = 0 ∨ a = b ∨ l.free b + l.reserved b ≠ 0
    unfold Balances.repatriateReserved
    split_ifs with h
    · exact ⟨fun _ => h, fun _ => ⟨_, rfl⟩⟩
    · simpa using h
  free_repatriate {l l' a b v} h x := by
    change Balances.repatriateReserved l a b v .free = .ok l' at h
    unfold Balances.repatriateReserved at h
    split_ifs at h
    cases h
    rfl
  reserved_repatriate {l l' a b v} h x := by
    change Balances.repatriateReserved l a b v .free = .ok l' at h
    unfold Balances.repatriateReserved at h
    split_ifs at h
    cases h
    rfl

end Balances
