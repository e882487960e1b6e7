import XcmAutoBank.Foundation.Currency
import Mathlib.Algebra.BigOperators.Group.List.Basic
import Mathlib.Algebra.GroupWithZero.Nat

/-!
# Payments between accounts

A payment moves an amount from one account to another.  `Paid` says that the totals of two ledgers
differ by the payments of a list and by nothing else: an account has lost what it pays and gained
what it is paid.  Reserving and releasing pay nothing, a repatriation of an amount that is reserved
is one payment, and what is paid one after the other is paid together (`Paid.append`).
-/

/-- An amount that one account pays to another. -/
structure Payment (A : Type) where
  payer : A
  payee : A
  amount : ℕ
  deriving DecidableEq, Repr

namespace Payment

variable {A : Type} [DecidableEq A]

/-- What an account pays. -/
def paidBy (a : A) (p : Payment A) : ℕ := if a = p.payer then p.amount else 0

/-- What an account is paid. -/
def paidTo (a : A) (p : Payment A) : ℕ := if a = p.payee then p.amount else 0

end Payment

open ReservableCurrency LawfulCurrency

variable {Ledger A : Type} [DecidableEq A] [ReservableCurrency Ledger A]

/-- The totals change by the payments and by nothing else. -/
def Paid (ps : List (Payment A)) (l l' : Ledger) : Prop :=
  ∀ a, total l' a + (ps.map (Payment.paidBy a)).sum = total l a + (ps.map (Payment.paidTo a)).sum

variable {l l' l'' : Ledger} {ps qs : List (Payment A)}

/-- Equal totals come of no payment. -/
theorem paid_of_total (h : ∀ a : A, total l' a = total l a) : Paid ([] : List (Payment A)) l l' :=
  fun a => congrArg (· + 0) (h a)

/-- Payments one after the other. -/
theorem Paid.append (h : Paid ps l l') (h' : Paid qs l' l'') : Paid (ps ++ qs) l l'' := by
  intro a
  have hfirst := h a
  have hsecond := h' a
  rw [List.map_append, List.map_append, List.sum_append, List.sum_append]
  omega

variable [LawfulCurrency Ledger A] {a b : A} {v : ℕ}

/-- A reservation pays nothing. -/
theorem paid_reserve (h : reserve l a v = .ok l') : Paid ([] : List (Payment A)) l l' :=
  paid_of_total (total_reserve h)

/-- Releasing a reserve pays nothing. -/
theorem paid_unreserve (l : Ledger) (a : A) (v : ℕ) :
    Paid ([] : List (Payment A)) l (unreserve l a v) := paid_of_total (total_unreserve l a v)

/-- A repatriation of an amount that is reserved is a payment. -/
theorem paid_repatriate (h : repatriateReserved l a b v .free = .ok l') (hv : v ≤ reserved l a) :
    Paid [⟨a, b, v⟩] l l' := by
  intro x
  simp only [List.map_cons, List.map_nil, List.sum_cons, List.sum_nil, add_zero, Payment.paidBy,
    Payment.paidTo]
  exact total_repatriate h hv x
