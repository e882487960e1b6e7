import XcmAutoBank.Xchange.Settlement
import XcmAutoBank.Foundation.History

/-!
# What a run of the client chain pays

An order that is closed pays twice at most: its fee goes from the client to the device when the
order was done, and the penalty from the device to the client when it was closed late.  Over a run
of successful calls an account's total, free and reserved, changes by these payments and nothing
else (`total_of_run`).  Each transfer moves as much as there is, so that the amounts are exact
because the reserves are.
-/

namespace XcmAutoBank.Xchange

open ReservableCurrency LawfulCurrency Storage History

variable {A P L : Type} [DecidableEq A]

/-- A closed order: its parties and amounts, whether it was done and whether it was closed late. -/
structure Payout (A : Type) where
  client : A
  device : A
  fee : ℕ
  penalty : ℕ
  done : Bool
  late : Bool
  deriving DecidableEq, Repr

namespace Payout

/-- The fee an account gets as the device. -/
def earned (a : A) (p : Payout A) : ℕ := if p.done ∧ a = p.device then p.fee else 0

/-- The fee an account pays as the client. -/
def paid (a : A) (p : Payout A) : ℕ := if p.done ∧ a = p.client then p.fee else 0

/-- The penalty an account gets as the client. -/
def compensated (a : A) (p : Payout A) : ℕ := if p.late ∧ a = p.client then p.penalty else 0

/-- The penalty an account pays as the device. -/
def fined (a : A) (p : Payout A) : ℕ := if p.late ∧ a = p.device then p.penalty else 0

end Payout

/-- The device whose order an operation closes, and whether the order is done. -/
def Op.closing : Op A P → Option (A × Bool)
  | .cancel _ d | .onReject _ d _ => some (d, false)
  | .onDone _ d _ => some (d, true)
  | _ => none

/-- What the operation pays when it succeeds: the order it closes with the penalty its device has
registered by then. -/
def payouts (s : State A P L) (e : Env × Op A P) : List (Payout A) :=
  match e.2.closing with
  | some (d, done) =>
    match s.orders.lookup d, s.device.lookup d with
    | some o, some dev =>
      [⟨o.client, d, o.fee.toNat, dev.penalty.toNat, done, decide (¬e.1.now < o.untilTime)⟩]
    | _, _ => []
  | none => []

variable [ReservableCurrency L A]

/-- The storage after one operation at its time. -/
def operate [Codec A] [Codec P] (s : State A P L) (e : Env × Op A P) : State A P L :=
  (e.2.call e.1).exec s

/-- An operation succeeds, and names the client of the order when it is a settlement message. -/
def Succeeds [Codec A] [Codec P] (s : State A P L) (e : Env × Op A P) : Prop :=
  NamesClient s e.2 ∧ ((e.2.call e.1).run s).1 = .ok ()

variable {env : Env} {s s' : State A P L} {d a : A} {o : OrderOf A P} {dev : DeviceProfile}
  {op : Op A P} {b : A → ℕ} {e : Env × Op A P}

/-! ### One operation -/

omit [ReservableCurrency L A] in
/-- An operation that closes an order pays it out. -/
theorem payouts_of_holds {done : Bool} (hop : op.closing = some (d, done)) (hs : s.Holds d o dev) :
    payouts s (env, op) =
      [⟨o.client, d, o.fee.toNat, dev.penalty.toNat, done, decide (¬env.now < o.untilTime)⟩] := by
  simp [payouts, hop, hs.order, hs.profile]

/-- The totals after an operation differ by what it pays. -/
def Balanced (s s' : State A P L) (ps : List (Payout A)) (a : A) : Prop :=
  total s'.ledger a + (ps.map fun p => p.paid a + p.fined a).sum =
    total s.ledger a + (ps.map fun p => p.earned a + p.compensated a).sum

omit [DecidableEq A] in
/-- Without a payout the totals stay. -/
theorem balanced_nil [DecidableEq A] (h : total s'.ledger a = total s.ledger a) :
    Balanced s s' [] a := by
  rw [Balanced, h]
  rfl

variable [LawfulCurrency L A]

/-- A rejected or cancelled order pays its penalty when it is late. -/
theorem balanced_of_reject {l : L} {dev' : DeviceProfile} {ev : Event A}
    (he : ExactlyEscrowed b s) (hs : s.Holds d o dev)
    (hl : settlePenalty env.now o.untilTime (unreserve s.ledger o.client o.fee.toNat) d o.client
      dev.penalty.toNat = .ok l) (hop : op.closing = some (d, false)) :
    Balanced s (s.closed d dev' l ev) (payouts s (env, op)) a := by
  have hback := he.backing_le hs d
  have hreserved : dev.penalty.toNat ≤
      reserved (unreserve s.ledger o.client o.fee.toNat) d := by
    rw [reserved_unreserve]
    rw [if_pos rfl] at hback
    omega
  have htotal := total_settlePenalty hl hreserved a
  rw [total_unreserve] at htotal
  rw [Balanced, payouts_of_holds hop hs]
  simpa [Payout.paid, Payout.fined, Payout.earned, Payout.compensated] using htotal

/-- A done order pays its fee, and its penalty when it is late. -/
theorem balanced_of_done {l l₁ : L} {dev' : DeviceProfile} {ev : Event A}
    (he : ExactlyEscrowed b s) (hs : s.Holds d o dev)
    (hl₁ : repatriateReserved s.ledger o.client d o.fee.toNat .free = .ok l₁)
    (hl : settlePenalty env.now o.untilTime l₁ d o.client dev.penalty.toNat = .ok l)
    (hop : op.closing = some (d, true)) :
    Balanced s (s.closed d dev' l ev) (payouts s (env, op)) a := by
  have hclient := he.backing_le hs o.client
  have hdevice := he.backing_le hs d
  rw [if_pos rfl] at hclient hdevice
  have hfee : o.fee.toNat ≤ reserved s.ledger o.client := by omega
  have hpenalty : dev.penalty.toNat ≤ reserved l₁ d := by
    rw [reserved_repatriate hl₁]
    omega
  have hpaid := total_repatriate hl₁ hfee a
  have hsettled := total_settlePenalty hl hpenalty a
  rw [Balanced, payouts_of_holds hop hs]
  simp only [List.map_cons, List.map_nil, List.sum_cons, List.sum_nil, Payout.paid, Payout.fined,
    Payout.earned, Payout.compensated, decide_eq_true_eq, true_and, closed_ledger]
  omega

/-- Every operation that succeeds changes the totals by what it pays. -/
theorem balanced_of_succeeds [Codec A] [Codec P] (he : ExactlyEscrowed b s) (h : Succeeds s e)
    (a : A) : Balanced s (operate s e) (payouts s e) a := by
  obtain ⟨env, op⟩ := e
  obtain ⟨hn, hok⟩ := h
  have hrun : (op.call env).run s = (.ok (), (op.call env).exec s) := Dispatch.run_eq_of_fst hok
  change Balanced s ((op.call env).exec s) (payouts s (env, op)) a
  generalize (op.call env).exec s = s' at hrun ⊢
  cases op with
  | test origin =>
    obtain ⟨r, sent, hrun'⟩ := test_run env origin s
    change (test env origin).run s = _ at hrun
    rw [hrun'] at hrun
    obtain rfl := (Prod.ext_iff.mp hrun).2
    exact balanced_nil rfl
  | order origin b =>
    obtain ⟨who, dev, l₁, l₂, -, hl₁, hl₂, rfl⟩ := order_ok hrun
    refine balanced_nil ?_
    change total l₂ a = _
    rw [total_reserve hl₂, total_reserve hl₁]
  | cancel origin d =>
    obtain ⟨o, dev, l, hs, hl, rfl⟩ := cancel_ok hrun
    exact balanced_of_reject he hs.holds hl rfl
  | register origin paraid penalty wcd onoff =>
    obtain ⟨id, -, -, rfl⟩ := register_ok hrun
    exact balanced_nil rfl
  | onAccept who d =>
    obtain rfl := (Prod.ext_iff.mp hrun).2
    exact balanced_nil rfl
  | onReject who d onoff =>
    obtain ⟨o, dev, l, hs, hl, rfl⟩ := onReject_ok hrun
    obtain rfl : o.client = who := hn o hs.order
    exact balanced_of_reject he hs hl rfl
  | onDone who d onoff =>
    obtain ⟨o, dev, l₁, l, hs, hl₁, hl, rfl⟩ := onDone_ok hrun
    obtain rfl : o.client = who := hn o hs.order
    exact balanced_of_done he hs hl₁ hl rfl
  | onKilledAccount who =>
    obtain ⟨m, hrun', -⟩ := onKilledAccount_run s who
    change (onKilledAccount who).run s = _ at hrun
    rw [hrun'] at hrun
    obtain rfl := (Prod.ext_iff.mp hrun).2
    exact balanced_nil rfl

/-! ### Runs -/

omit [LawfulCurrency L A] in
/-- A storage without orders is exactly escrowed over its own reserves. -/
theorem exactlyEscrowed_of_empty (h : s.orders = ∅) :
    ExactlyEscrowed (fun a => reserved s.ledger a) s := by
  intro a
  have hfees : feesHeld s a = 0 := by
    rw [feesHeld, h]
    rfl
  have hpenalty : penaltyHeld s a = 0 := by
    rw [penaltyHeld, h, Finmap.lookup_empty]
  rw [hfees, hpenalty]
  rfl

/-- Over any run of successful calls from a storage without orders, an account's total changes by
the fees and penalties of the orders closed: it gains the fees of the orders done on it and the
penalties of its own orders closed late, and loses the fees of its own orders done and its
registered penalty for each order on it closed late. -/
theorem total_of_run [Codec A] [Codec P] {es : List (Env × Op A P)} (hempty : s.orders = ∅)
    (hes : Along operate Succeeds s es) (a : A) :
    let ps := collect operate payouts s es
    total (after operate s es).ledger a +
        ((ps.map (Payout.paid a)).sum + (ps.map (Payout.fined a)).sum) =
      total s.ledger a +
        ((ps.map (Payout.earned a)).sum + (ps.map (Payout.compensated a)).sum) := by
  intro ps
  have hinv (t : State A P L) (e : Env × Op A P) (h : Succeeds t e)
      (ht : Profiled t ∧ ExactlyEscrowed (fun a => reserved s.ledger a) t) :
      Profiled (operate t e) ∧ ExactlyEscrowed (fun a => reserved s.ledger a) (operate t e) :=
    escrowed_of_run ht.1 ht.2 (.single ⟨e.1, e.2, h.1, Dispatch.run_eq_of_fst h.2⟩)
  have hbalance := balance_of_collect (V := fun t : State A P L => total t.ledger a)
    ⟨profiled_of_empty hempty, exactlyEscrowed_of_empty hempty⟩ hes hinv
    fun t e h ht => balanced_of_succeeds ht.2 h a
  rw [List.sum_map_add, List.sum_map_add] at hbalance
  exact hbalance

/-- Device 2 is registered at a penalty of 10 and ordered by client 1 until time 100 at a fee of 30;
the work is done at time 100. -/
def lateWork : List (Env × Op UInt64 UInt64) :=
  [(Env.online 0, .register (.signed 2) 2000 10 20 true),
    (Env.online 0, .order (.signed 1) ⟨100, 7, 30, 2⟩),
    (Env.online 100, .onDone 1 2 true)]

-- the client pays its fee and gets the penalty
example : collect operate payouts
    (Storage.init (Balances.uniform 50) : State UInt64 UInt64 (Balances UInt64)) lateWork =
      [⟨1, 2, 30, 10, true, true⟩] := by decide

/-- The late work changes the total of its client by the fee and the penalty. -/
theorem total_of_run_late :
    let s : State UInt64 UInt64 (Balances UInt64) := Storage.init (Balances.uniform 50)
    let ps := collect operate payouts s lateWork
    total (after operate s lateWork).ledger (1 : UInt64) +
        ((ps.map (Payout.paid 1)).sum + (ps.map (Payout.fined 1)).sum) =
      total s.ledger (1 : UInt64) +
        ((ps.map (Payout.earned 1)).sum + (ps.map (Payout.compensated 1)).sum) := by
  intro s
  have hwork : Along operate Succeeds s lateWork := by
    refine ⟨⟨trivial, by decide⟩, ⟨trivial, by decide⟩, ⟨?_, by decide⟩, trivial⟩
    intro o ho
    have hclient : o = ⟨100, 7, 30, 1, 0⟩ := Option.some.inj (ho.symm.trans (by decide))
    rw [hclient]
  exact total_of_run rfl hwork 1

end XcmAutoBank.Xchange
