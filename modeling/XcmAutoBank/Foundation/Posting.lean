import Mathlib.Data.List.Nodup
import Mathlib.Data.Nat.Notation
import Mathlib.Logic.Function.Basic

/-!
# Postings

Accounts with a slot each and two balances, and postings to them.  A posting settles one slot; what
it adds to the free balances and takes from the reserved ones, of any accounts, depends on the slot
it settles and on nothing else.  Postings to different slots therefore commute (`post_comm`),
however much their amounts overlap, and a list of them leads to the same books in every order
(`foldl_post_perm`).
-/

namespace Posting

/-- The slots and balances of all accounts. -/
@[ext] structure Books (A κ : Type) where
  slot : A → κ
  free : A → ℕ
  reserved : A → ℕ

/-- What is posted to the slot of an account, with the amounts it moves. -/
structure Post (A κ : Type) where
  account : A
  settle : κ → κ
  credit : κ → A → ℕ
  release : κ → A → ℕ

variable {A κ : Type} [DecidableEq A]

/-- Make one posting. -/
def post (t : Books A κ) (p : Post A κ) : Books A κ where
  slot := Function.update t.slot p.account (p.settle (t.slot p.account))
  free a := t.free a + p.credit (t.slot p.account) a
  reserved a := t.reserved a - p.release (t.slot p.account) a

variable {t : Books A κ} {p q : Post A κ}

/-- A posting leaves the other slots alone. -/
theorem post_slot_of_ne {a : A} (h : a ≠ p.account) : (post t p).slot a = t.slot a :=
  Function.update_of_ne h _ _

/-- A posting that settles nothing and moves nothing changes nothing. -/
theorem post_of_idle (hsettle : p.settle (t.slot p.account) = t.slot p.account)
    (hcredit : ∀ a, p.credit (t.slot p.account) a = 0)
    (hrelease : ∀ a, p.release (t.slot p.account) a = 0) : post t p = t := by
  refine Books.ext ?_ (funext fun a => ?_) (funext fun a => ?_)
  · change Function.update t.slot p.account (p.settle (t.slot p.account)) = t.slot
    rw [hsettle, Function.update_eq_self]
  · change t.free a + p.credit (t.slot p.account) a = t.free a
    rw [hcredit, Nat.add_zero]
  · change t.reserved a - p.release (t.slot p.account) a = t.reserved a
    rw [hrelease, Nat.sub_zero]

/-- Postings to different slots commute. -/
theorem post_comm (h : p.account ≠ q.account) : post (post t p) q = post (post t q) p := by
  have hq : (post t p).slot q.account = t.slot q.account := post_slot_of_ne h.symm
  have hp : (post t q).slot p.account = t.slot p.account := post_slot_of_ne h
  refine Books.ext ?_ (funext fun a => ?_) (funext fun a => ?_)
  · change Function.update (post t p).slot q.account (q.settle ((post t p).slot q.account)) =
      Function.update (post t q).slot p.account (p.settle ((post t q).slot p.account))
    rw [hq, hp]
    exact Function.update_comm h _ _ t.slot
  · change t.free a + p.credit (t.slot p.account) a + q.credit ((post t p).slot q.account) a =
      t.free a + q.credit (t.slot q.account) a + p.credit ((post t q).slot p.account) a
    rw [hq, hp, Nat.add_right_comm]
  · change t.reserved a - p.release (t.slot p.account) a -
        q.release ((post t p).slot q.account) a =
      t.reserved a - q.release (t.slot q.account) a - p.release ((post t q).slot p.account) a
    rw [hq, hp, Nat.sub_right_comm]

/-- Postings to pairwise different slots lead to the same books in every order. -/
theorem foldl_post_perm {ps qs : List (Post A κ)} (hperm : ps.Perm qs)
    (hdistinct : (ps.map Post.account).Nodup) (t : Books A κ) :
    ps.foldl post t = qs.foldl post t := by
  refine hperm.foldl_eq' (fun x hx y hy z => ?_) t
  by_cases hxy : x.account = y.account
  · have heq : x = y := List.inj_on_of_nodup_map hdistinct hx hy hxy
    rw [heq]
  · exact post_comm hxy

end Posting
