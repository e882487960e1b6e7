import XcmAutoBank.Common.Runtime
import XcmAutoBank.Foundation.Escrow

/-!
# The escrow book of a storage

The two storage maps of a pallet together describe the open positions of an escrow: an order and
the profile of its device back a position, or none when the order is settled elsewhere.  `bookOf`
reads the book off the maps; placing an order inserts a position and closing one erases it.
-/

namespace XcmAutoBank.Storage

open Escrow ReservableCurrency

variable {A O D E L : Type} [DecidableEq A]

/-- The position of a device with an order and a profile. -/
def position (backs : O → D → Option (Position A)) (s : Storage A O D E L) (d : A) :
    Option (Position A) :=
  match s.orders.lookup d, s.device.lookup d with
  | some o, some dev => backs o dev
  | _, _ => none

/-- The open positions of a storage. -/
def bookOf (backs : O → D → Option (Position A)) (s : Storage A O D E L) : Book A :=
  Finmap.ofLookup s.orders.keys (position backs s)

/-- The reserved balances of a storage over its open positions. -/
def pool [ReservableCurrency L A] (backs : O → D → Option (Position A))
    (s : Storage A O D E L) : Pool A where
  reserved := reserved s.ledger
  book := bookOf backs s

variable {backs : O → D → Option (Position A)} {s s' : Storage A O D E L}

/-- A device without an order has no position. -/
theorem position_of_notMem {d : A} (h : d ∉ s.orders) : position backs s d = none := by
  simp [position, Finmap.lookup_eq_none.mpr h]

/-- The book holds the position of every device. -/
theorem lookup_bookOf (d : A) : (bookOf backs s).lookup d = position backs s d := by
  refine Finmap.lookup_ofLookup (fun d h => ?_) d
  by_contra hd
  exact h (position_of_notMem (mt Finmap.mem_keys.mpr hd))

/-- A storage without orders has an empty book. -/
theorem bookOf_empty (h : s.orders = ∅) : bookOf backs s = ∅ := by
  refine Finmap.ext_lookup fun d => ?_
  rw [lookup_bookOf, Finmap.lookup_empty]
  exact position_of_notMem (h ▸ Finmap.notMem_empty)

/-- The book only depends on the profiles of devices with an order. -/
theorem bookOf_congr (ho : s'.orders = s.orders)
    (hd : ∀ d ∈ s.orders, position backs s' d = position backs s d) :
    bookOf backs s' = bookOf backs s := by
  refine Finmap.ext_lookup fun d => ?_
  rw [lookup_bookOf, lookup_bookOf]
  by_cases hmem : d ∈ s.orders
  · exact hd d hmem
  · rw [position_of_notMem hmem, position_of_notMem (ho ▸ hmem)]

/-- Storing an order for a device inserts the position it backs. -/
theorem bookOf_insert {d : A} {o : O} {dev : D} {p : Position A} (hp : backs o dev = some p)
    (ho : s'.orders = s.orders.insert d o) (hd : s'.device = s.device.insert d dev) :
    bookOf backs s' = (bookOf backs s).insert d p := by
  refine Finmap.ext_lookup fun x => ?_
  rw [lookup_bookOf, Finmap.lookup_insert_ite, lookup_bookOf]
  simp only [position, ho, hd, Finmap.lookup_insert_ite]
  split_ifs
  · exact hp
  · rfl

/-- Storing an order that backs no position leaves the book alone. -/
theorem bookOf_insert_none {d : A} {o : O} {dev : D} (hp : backs o dev = none)
    (hfresh : d ∉ s.orders) (ho : s'.orders = s.orders.insert d o)
    (hd : s'.device = s.device.insert d dev) : bookOf backs s' = bookOf backs s := by
  refine Finmap.ext_lookup fun x => ?_
  rw [lookup_bookOf, lookup_bookOf]
  by_cases hx : x = d
  · rw [hx, position_of_notMem hfresh]
    simp [position, ho, hd, hp]
  · simp [position, ho, hd, Finmap.lookup_insert_of_ne _ hx]

/-- Removing the order of a device erases its position. -/
theorem bookOf_erase {d : A} (ho : s'.orders = s.orders.erase d)
    (hd : ∀ x, x ≠ d → s'.device.lookup x = s.device.lookup x) :
    bookOf backs s' = (bookOf backs s).erase d := by
  refine Finmap.ext_lookup fun x => ?_
  rw [lookup_bookOf, Finmap.lookup_erase_ite, lookup_bookOf]
  split_ifs with hx
  · exact position_of_notMem (by simp [ho, hx])
  · simp [position, ho, hd x hx, Finmap.lookup_erase_ne hx]

/-- What the book owes an account: the fees of the positions it is the client of, and its own
penalty. -/
theorem held_bookOf (a : A) :
    (bookOf backs s).held a =
      (s.orders.sumBy fun d _ => (position backs s d).elim 0 fun p =>
        if a = p.client then p.fee else 0) +
      (position backs s a).elim 0 Position.penalty := by
  have hfees : ((bookOf backs s).sumBy fun _ p => if a = p.client then p.fee else 0) =
      s.orders.sumBy fun d _ => (position backs s d).elim 0 fun p =>
        if a = p.client then p.fee else 0 := by
    refine Finmap.sumBy_congr fun d => ?_
    rw [lookup_bookOf]
    cases ho : s.orders.lookup d with
    | none => rw [position_of_notMem (Finmap.lookup_eq_none.mp ho)]; rfl
    | some o => rfl
  have hpenalty : ((bookOf backs s).sumBy fun d p => if a = d then p.penalty else 0) =
      (position backs s a).elim 0 Position.penalty := by
    rw [← lookup_bookOf]
    exact Finmap.sumBy_ite _ a Position.penalty
  rw [← hfees, ← hpenalty]
  exact Finmap.sumBy_add _ _ _

/-! ### Steps of the pool -/

section Pool

variable [ReservableCurrency L A]

/-- A step that leaves the orders and the reserves alone and keeps the positions leaves the pool
alone. -/
theorem pool_congr (ho : s'.orders = s.orders)
    (hl : ∀ a : A, reserved s'.ledger a = reserved s.ledger a)
    (hd : ∀ d ∈ s.orders, position backs s' d = position backs s d) :
    s'.pool backs = s.pool backs := by
  have hreserved : (reserved s'.ledger : A → ℕ) = reserved s.ledger := funext hl
  unfold pool
  rw [hreserved, bookOf_congr ho hd]

/-- Storing an order that backs no position leaves the pool alone. -/
theorem pool_insert_none {d : A} {o : O} {dev : D} (hp : backs o dev = none)
    (hfresh : d ∉ s.orders) (ho : s'.orders = s.orders.insert d o)
    (hd : s'.device = s.device.insert d dev) (hl : s'.ledger = s.ledger) :
    s'.pool backs = s.pool backs := by
  unfold pool
  rw [hl, bookOf_insert_none hp hfresh ho hd]

/-- Removing an order that backs no position leaves the pool alone. -/
theorem pool_erase_none {d : A} (hp : position backs s d = none)
    (ho : s'.orders = s.orders.erase d)
    (hd : ∀ x, x ≠ d → s'.device.lookup x = s.device.lookup x) (hl : s'.ledger = s.ledger) :
    s'.pool backs = s.pool backs := by
  have hbook : bookOf backs s' = bookOf backs s := by
    rw [bookOf_erase ho hd]
    refine Finmap.ext_lookup fun x => ?_
    rw [Finmap.lookup_erase_ite]
    split_ifs with hx
    · rw [hx, lookup_bookOf, hp]
    · rfl
  unfold pool
  rw [hl, hbook]

/-- Storing an order against new reserves opens its position. -/
theorem settles_of_opens {d : A} {o : O} {dev : D} {p : Position A} (hp : backs o dev = some p)
    (hfresh : d ∉ s.orders) (ho : s'.orders = s.orders.insert d o)
    (hd : s'.device = s.device.insert d dev)
    (hr : ∀ a, reserved s'.ledger a = reserved s.ledger a + p.backing d a) :
    Pool.Settles (s.pool backs) (s'.pool backs) := by
  have hnone : d ∉ bookOf backs s := by
    rw [← Finmap.lookup_eq_none, lookup_bookOf]
    exact position_of_notMem hfresh
  have hpool : s'.pool backs = ⟨reserved s'.ledger, (bookOf backs s).insert d p⟩ :=
    congrArg (Pool.mk _) (bookOf_insert hp ho hd)
  rw [hpool]
  exact Pool.Settles.opens (s.pool backs) _ d p hnone hr

/-- Removing an order with its reserves released closes its position. -/
theorem settles_of_closes {d : A} {p : Position A} (hp : position backs s d = some p)
    (ho : s'.orders = s.orders.erase d)
    (hd : ∀ x, x ≠ d → s'.device.lookup x = s.device.lookup x)
    (hr : ∀ a, reserved s'.ledger a = reserved s.ledger a - p.backing d a) :
    Pool.Settles (s.pool backs) (s'.pool backs) := by
  have hmem : (bookOf backs s).lookup d = some p := (lookup_bookOf d).trans hp
  have hpool : s'.pool backs = ⟨reserved s'.ledger, (bookOf backs s).erase d⟩ :=
    congrArg (Pool.mk _) (bookOf_erase ho hd)
  rw [hpool]
  exact Pool.Settles.closes (s.pool backs) _ d p hmem hr

/-- Removing an order with part of its reserves released closes its position. -/
theorem steps_of_forfeits {d : A} {p : Position A} (hp : position backs s d = some p)
    (ho : s'.orders = s.orders.erase d)
    (hd : ∀ x, x ≠ d → s'.device.lookup x = s.device.lookup x)
    (hr : ∀ a, reserved s.ledger a - p.backing d a ≤ reserved s'.ledger a) :
    Relation.ReflTransGen Pool.Step (s.pool backs) (s'.pool backs) := by
  have hmem : (bookOf backs s).lookup d = some p := (lookup_bookOf d).trans hp
  have hpool : s'.pool backs = ⟨reserved s'.ledger, (bookOf backs s).erase d⟩ :=
    congrArg (Pool.mk _) (bookOf_erase ho hd)
  rw [hpool]
  have hr' : ∀ a, (s.pool backs).reserved a - p.backing d a ≤ reserved s'.ledger a := hr
  exact Pool.steps_of_forfeits (s := s.pool backs) hmem hr'

end Pool

end XcmAutoBank.Storage
