import XcmAutoBank.Foundation.FiniteMap
import Mathlib.Logic.Relation
import Mathlib.Algebra.Order.BigOperators.Group.Finset

/-!
# Escrow over one pool of reserves per account

An escrow keeps, for every open position, the client's fee and the device's penalty in the
reserved balances of the two accounts.  Each account has one reserved balance for all the
positions it takes part in, so what an escrow owes is a sum over its book of open positions.

`Pool.Exact` says that the reserves are a fixed baseline plus what the book owes, and
`Pool.Covered` that they are at least what it owes.  Opening and closing positions keep both;
`Pool.Step` also allows reserves that grow without a position, which keeps `Covered` alone.
-/

namespace Escrow

variable {A : Type} [DecidableEq A]

/-- An open position on a device: who ordered, at which fee, against which penalty. -/
structure Position (A : Type) where
  client : A
  fee : ℕ
  penalty : ℕ

/-- What the position of device `d` keeps in the reserve of an account. -/
def Position.backing (p : Position A) (d a : A) : ℕ :=
  (if a = p.client then p.fee else 0) + if a = d then p.penalty else 0

/-- The open positions, one at most for a device. -/
abbrev Book (A : Type) := Finmap fun _ : A => Position A

/-- What all the open positions keep in the reserve of an account. -/
def Book.held (m : Book A) (a : A) : ℕ := m.sumBy fun d p => p.backing d a

/-- The reserved balances together with the open positions. -/
structure Pool (A : Type) where
  reserved : A → ℕ
  book : Book A

namespace Pool

/-- The reserves are a baseline plus what the book owes. -/
def Exact (b : A → ℕ) (s : Pool A) : Prop := ∀ a, s.reserved a = b a + s.book.held a

/-- The reserves are at least what the book owes. -/
def Covered (s : Pool A) : Prop := ∀ a, s.book.held a ≤ s.reserved a

/-- A position is opened against new reserves or closed with its reserves released. -/
inductive Settles : Pool A → Pool A → Prop
  | idle (s : Pool A) : Settles s s
  | opens (s : Pool A) (r : A → ℕ) (d : A) (p : Position A) (hd : d ∉ s.book)
      (hr : ∀ a, r a = s.reserved a + p.backing d a) : Settles s ⟨r, s.book.insert d p⟩
  | closes (s : Pool A) (r : A → ℕ) (d : A) (p : Position A) (hd : s.book.lookup d = some p)
      (hr : ∀ a, r a = s.reserved a - p.backing d a) : Settles s ⟨r, s.book.erase d⟩

/-- A step may also add to the reserves without opening a position. -/
inductive Step : Pool A → Pool A → Prop
  | settles {s t : Pool A} (h : Settles s t) : Step s t
  | locks (s : Pool A) (r : A → ℕ) (hr : ∀ a, s.reserved a ≤ r a) : Step s ⟨r, s.book⟩

/-- The same pool again is an idle step. -/
theorem Settles.of_eq {s t : Pool A} (h : t = s) : Settles s t := by
  rw [h]
  exact .idle s

/-- The position of a device is part of what the book owes. -/
theorem backing_le_held {m : Book A} {d : A} {p : Position A} (h : m.lookup d = some p) (a : A) :
    p.backing d a ≤ m.held a := by
  rw [Book.held, Finmap.sumBy_erase h]
  exact Nat.le_add_right _ _

/-- Exactly held reserves cover what the book owes. -/
theorem Exact.covered {b : A → ℕ} {s : Pool A} (h : s.Exact b) : s.Covered := fun a => by
  rw [h a]
  exact Nat.le_add_left _ _

/-- In a covered pool the reserves of an account contain its part of every position. -/
theorem Covered.backing_le {s : Pool A} (h : s.Covered) {d : A} {p : Position A}
    (hd : s.book.lookup d = some p) (a : A) : p.backing d a ≤ s.reserved a :=
  (backing_le_held hd a).trans (h a)

/-- Opening and closing positions keeps the baseline. -/
theorem Settles.exact {b : A → ℕ} {s t : Pool A} (h : Settles s t) (hs : s.Exact b) :
    t.Exact b := by
  cases h with
  | idle => exact hs
  | opens r d p hd hr =>
    intro a
    have hins := Finmap.sumBy_insert hd p fun d p => p.backing d a
    have ha := hs a
    simp only [Book.held] at ha ⊢
    rw [hr, hins, ha]
    omega
  | closes r d p hd hr =>
    intro a
    have hsplit := Finmap.sumBy_erase hd fun d p => p.backing d a
    have ha := hs a
    simp only [Book.held] at ha ⊢
    rw [hr, ha, hsplit]
    omega

/-- Every step keeps the reserves above what the book owes. -/
theorem Step.covered {s t : Pool A} (h : Step s t) (hs : s.Covered) : t.Covered := by
  cases h with
  | settles h =>
    -- a covered pool is exact over the baseline of its excess reserves
    have hexact : s.Exact fun a => s.reserved a - s.book.held a := fun a =>
      (Nat.sub_add_cancel (hs a)).symm
    exact (h.exact hexact).covered
  | locks r hr => exact fun a => (hs a).trans (hr a)

/-- A position may be closed with less than its reserves released: the rest stays reserved. -/
theorem steps_of_forfeits {s : Pool A} {r : A → ℕ} {d : A} {p : Position A}
    (hd : s.book.lookup d = some p) (hr : ∀ a, s.reserved a - p.backing d a ≤ r a) :
    Relation.ReflTransGen Step s ⟨r, s.book.erase d⟩ := by
  have hcloses : Settles s ⟨fun a => s.reserved a - p.backing d a, s.book.erase d⟩ :=
    .closes s _ d p hd fun _ => rfl
  exact (Relation.ReflTransGen.single (.settles hcloses)).tail (.locks _ r hr)

/-- Over any run of openings and closings the reserves stay exact over one baseline. -/
theorem exact_of_reflTransGen {b : A → ℕ} {s t : Pool A}
    (h : Relation.ReflTransGen Settles s t) (hs : s.Exact b) : t.Exact b := by
  induction h with
  | refl => exact hs
  | tail _ hstep ih => exact hstep.exact ih

/-- Over any run of steps the reserves stay above what the book owes. -/
theorem covered_of_reflTransGen {s t : Pool A}
    (h : Relation.ReflTransGen Step s t) (hs : s.Covered) : t.Covered := by
  induction h with
  | refl => exact hs
  | tail _ hstep ih => exact hstep.covered ih

end Pool

end Escrow
