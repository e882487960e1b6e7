import XcmAutoBank.Foundation.Escrow
import Mathlib.Data.Fintype.BigOperators

/-!
# Several escrows over one pool

Components that know nothing of each other keep their positions in the same reserved balances, and
others reserve there too.  A component releases what its own positions keep and no more, so what
it does is a step of its own pool over a larger baseline: the share of everyone else
(`Shared.share`).  The frame rules `Settles.exact` and `Step.covered` say that a step of one
component keeps the reserves exact, or sufficient, for all of them.
-/

namespace Escrow

variable {ι A : Type} [DecidableEq ι] [DecidableEq A]

/-! ### A pool with a share set aside -/

namespace Pool

variable {s t : Pool A} {c : A → ℕ}

/-- The reserves contain what the book owes and a share set aside. -/
def Above (c : A → ℕ) (s : Pool A) : Prop := ∀ a, c a + s.book.held a ≤ s.reserved a

/-- A step of the escrow leaves a share that is set aside alone. -/
theorem Step.above (h : Step s t) (hs : s.Above c) : t.Above c := by
  cases h with
  | settles h =>
    -- the share is part of the baseline, which openings and closings keep
    have hexact : s.Exact fun a => s.reserved a - s.book.held a := fun a =>
      (Nat.sub_add_cancel ((Nat.le_add_left _ _).trans (hs a))).symm
    intro a
    have hbefore := hs a
    have hafter : t.reserved a = s.reserved a - s.book.held a + t.book.held a := h.exact hexact a
    omega
  | locks r hr => exact fun a => (hs a).trans (hr a)

/-- Any number of steps leaves a share that is set aside alone. -/
theorem above_of_reflTransGen (h : Relation.ReflTransGen Step s t) (hs : s.Above c) :
    t.Above c := by
  induction h with
  | refl => exact hs
  | tail _ hstep ih => exact hstep.above ih

end Pool

/-! ### Several books -/

/-- The reserved balances, the open positions of every component, and what others keep reserved. -/
structure Shared (ι A : Type) where
  reserved : A → ℕ
  others : A → ℕ
  book : ι → Book A

namespace Shared

/-- The reserves over the positions of one component. -/
def pool (s : Shared ι A) (i : ι) : Pool A := ⟨s.reserved, s.book i⟩

/-- Only the component `i` has changed its book. -/
structure Frame (s t : Shared ι A) (i : ι) : Prop where
  others : t.others = s.others
  book : ∀ j, j ≠ i → t.book j = s.book j

/-- A component opens or closes a position, or the others reserve or release their own share. -/
inductive Settles (s t : Shared ι A) : Prop
  | component (i : ι) (hframe : Frame s t i) (h : Pool.Settles (s.pool i) (t.pool i))
  | others (hbook : t.book = s.book)
      (hr : ∀ a, t.reserved a + s.others a = s.reserved a + t.others a)

/-- A component makes steps of its escrow, or the others reserve or release their own share. -/
inductive Step (s t : Shared ι A) : Prop
  | component (i : ι) (hframe : Frame s t i)
      (h : Relation.ReflTransGen Pool.Step (s.pool i) (t.pool i))
  | others (hbook : t.book = s.book)
      (hr : ∀ a, t.reserved a + s.others a = s.reserved a + t.others a)

variable [Fintype ι]

/-- What all positions and the others keep in the reserve of an account. -/
def owed (s : Shared ι A) (a : A) : ℕ := s.others a + ∑ i, (s.book i).held a

/-- What everyone but one component keeps in the reserve of an account. -/
def share (s : Shared ι A) (i : ι) (a : A) : ℕ :=
  s.others a + ∑ j ∈ Finset.univ.erase i, (s.book j).held a

/-- The reserves are what everyone keeps there. -/
def Exact (s : Shared ι A) : Prop := ∀ a, s.reserved a = s.owed a

/-- The reserves are at least what everyone keeps there. -/
def Covered (s : Shared ι A) : Prop := ∀ a, s.owed a ≤ s.reserved a

variable {s t : Shared ι A}

/-- What is owed is the share of one component and the share of the rest. -/
theorem owed_eq (s : Shared ι A) (i : ι) (a : A) :
    s.owed a = s.share i a + (s.book i).held a := by
  rw [owed, share, ← Finset.add_sum_erase _ (fun j => (s.book j).held a) (Finset.mem_univ i)]
  omega

/-- A component leaves the share of the rest alone. -/
theorem Frame.share {i : ι} (h : Frame s t i) (a : A) : t.share i a = s.share i a := by
  rw [Shared.share, Shared.share, h.others]
  congr 1
  refine Finset.sum_congr rfl fun j hj => ?_
  rw [h.book j (Finset.ne_of_mem_erase hj)]

/-- The reserves are exact for everyone when one pool is exact over the share of the rest. -/
theorem exact_iff (s : Shared ι A) (i : ι) : s.Exact ↔ (s.pool i).Exact (s.share i) := by
  refine forall_congr' fun a => ?_
  rw [owed_eq s i]
  exact Iff.rfl

/-- Reserves that cover everyone cover each component. -/
theorem Covered.pool (h : s.Covered) (i : ι) : (s.pool i).Covered := by
  intro a
  have ha := h a
  rw [owed_eq s i] at ha
  exact (Nat.le_add_left _ _).trans ha

/-- What one component settles keeps the reserves exact for all of them. -/
theorem Settles.exact (h : Settles s t) (hs : s.Exact) : t.Exact := by
  cases h with
  | component i hframe h =>
    have hshare : t.share i = s.share i := funext hframe.share
    rw [exact_iff t i, hshare]
    exact h.exact ((exact_iff s i).mp hs)
  | others hbook hr =>
    intro a
    have ha := hs a
    have hra := hr a
    simp only [owed, hbook] at ha ⊢
    omega

/-- The same positions with more set aside for the others. -/
def widen (s : Shared ι A) (k : A → ℕ) : Shared ι A :=
  { s with others := fun a => s.others a + k a }

omit [DecidableEq ι] in
/-- What is set aside is owed. -/
theorem owed_widen (s : Shared ι A) (k : A → ℕ) (a : A) : (s.widen k).owed a = s.owed a + k a :=
  Nat.add_right_comm _ _ _

omit [DecidableEq ι] [Fintype ι] in
/-- What is set aside does not matter to a step. -/
theorem Settles.widen (h : Settles s t) (k : A → ℕ) : Settles (s.widen k) (t.widen k) := by
  cases h with
  | component i hframe h =>
    exact .component i ⟨funext fun a => congrArg (· + k a) (congrFun hframe.others a),
      hframe.book⟩ h
  | others hbook hr =>
    refine .others hbook fun a => ?_
    have hra := hr a
    change t.reserved a + (s.others a + k a) = s.reserved a + (t.others a + k a)
    omega

/-- A step of covered reserves takes from them what it takes from what is owed, whatever they hold
beyond it. -/
theorem Settles.balance (h : Settles s t) (hs : s.Covered) (a : A) :
    t.reserved a + s.owed a = s.reserved a + t.owed a := by
  -- the reserves are exact when what they hold beyond is set aside
  have hexact : (s.widen fun a => s.reserved a - s.owed a).Exact := fun a => by
    rw [owed_widen]
    exact (Nat.add_sub_of_le (hs a)).symm
  have hafter := (h.widen fun a => s.reserved a - s.owed a).exact hexact a
  rw [owed_widen] at hafter
  have hcovered := hs a
  change t.reserved a = t.owed a + (s.reserved a - s.owed a) at hafter
  omega

/-- What one component settles keeps the reserves sufficient for all of them. -/
theorem Settles.covered (h : Settles s t) (hs : s.Covered) : t.Covered := by
  intro a
  have hbalance := h.balance hs a
  have hcovered := hs a
  omega

/-- What one component does keeps the reserves sufficient for all of them. -/
theorem Step.covered (h : Step s t) (hs : s.Covered) : t.Covered := by
  cases h with
  | component i hframe h =>
    -- the share of the rest is set aside
    have habove : (t.pool i).Above (s.share i) :=
      Pool.above_of_reflTransGen h fun a => (owed_eq s i a).ge.trans (hs a)
    intro a
    rw [owed_eq t i, hframe.share]
    exact habove a
  | others hbook hr =>
    intro a
    have ha := hs a
    have hra := hr a
    simp only [owed, hbook] at ha ⊢
    omega

end Shared

end Escrow
