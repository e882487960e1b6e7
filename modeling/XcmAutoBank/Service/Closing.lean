import XcmAutoBank.Service.Atomicity

/-!
# Two ways out of every order

A stored order can always be closed: by its client's `cancel` once it is overdue, and by the
device's rejection at any time.  Two invariants of all runs, failing calls included, exclude every
error on the way: the devices with an order are engaged, and the reserves cover the book of local
orders (`covered_of_run`).  A done call that fails on a transfer forfeits the order and releases
its fee at most, and an order that over-reserves leaves more in reserve than the book owes.
-/

namespace XcmAutoBank.Service

open Escrow ReservableCurrency LawfulCurrency Storage

variable {A P L : Type} [DecidableEq A] [ReservableCurrency L A] [Codec A] [Codec P]

/-- The client can take the order back once it is overdue; a local one returns the fee, with the
penalty on top. -/
def Cancellable (selfParaId : ParaId) (s : State A P L) (d : A) (o : OrderOf A P) : Prop :=
  ∀ env : ServiceEnv A P, env.now ≥ o.untilTime → ∃ dev s', s.Holds d o dev ∧
    (cancel selfParaId env (.signed o.client) d).run s = (.ok (), s') ∧
    s'.orders = s.orders.erase d ∧
    (o.paraid = selfParaId →
      (∀ a, reserved s'.ledger a + (if a = o.client then o.fee.toNat else 0) +
        (if a = d then dev.penalty.toNat else 0) = reserved s.ledger a) ∧
      ∀ a, free s'.ledger a = free s.ledger a +
        if a = o.client then o.fee.toNat + dev.penalty.toNat else 0) ∧
    (o.paraid ≠ selfParaId → s'.ledger = s.ledger)

/-- The device can reject its order at any time, and is then switched on or off as it says. -/
def Rejectable (selfParaId : ParaId) (s : State A P L) (d : A) : Prop :=
  ∀ (env : ServiceEnv A P) (onoff : Bool), ∃ dev s',
    (accept selfParaId env (.signed d) true onoff).run s = (.ok (), s') ∧
    s'.orders = s.orders.erase d ∧ s'.device.lookup d = some dev ∧
    dev.state = if onoff then .ready else .off

/-- A step of a run: a call, whatever it returns, with devices that answer as they should, or
transfers that leave the reserves alone. -/
inductive MixedStep (selfParaId : ParaId) : State A P L → State A P L → Prop
  | call {s : State A P L} (env : ServiceEnv A P) (op : Op A P) (ha : env.Answers) :
      MixedStep selfParaId s ((op.call selfParaId env).exec s)
  | transfer {s : State A P L} (l : L) (hl : ∀ a : A, reserved l a = reserved s.ledger a) :
      MixedStep selfParaId s (s.withLedger l)

variable {selfParaId : ParaId} {env : ServiceEnv A P} {s s' : State A P L} {d : A}
  {o : OrderOf A P} {dev : DeviceProfile} {origin : Origin A} {onoff : Bool}

/-- An order that is refused leaves the storage as it was, or with the penalty reserved. -/
theorem orderReceived_error {e : DispatchError Error}
    (h : (orderReceived selfParaId env o d).run s = (.error e, s')) :
    s' = s ∨ ∃ v l, reserve s.ledger d v = .ok l ∧ s' = s.withLedger l := by
  by_cases hr : ∃ dev state, Receives selfParaId env s o d dev state
  · obtain ⟨dev, state, hr⟩ := hr
    rw [orderReceived_run hr] at h
    split at h
    · split at h
      · exact .inl (Prod.ext_iff.mp h).2.symm
      · rename_i l hl
        split at h
        · exact .inr ⟨_, l, hl, (Prod.ext_iff.mp h).2.symm⟩
        · cases h
    · cases h
  · obtain ⟨e', he⟩ := orderReceived_refused hr
    rw [he] at h
    exact .inl (Prod.ext_iff.mp h).2.symm

section Lawful

variable [LawfulCurrency L A]

/-! ### Steps of the pool -/

/-- A call keeps the devices engaged and moves the pool by steps of the escrow. -/
structure Advances (selfParaId : ParaId) (s s' : State A P L) : Prop where
  engaged : Engaged s'
  steps : Relation.ReflTransGen Pool.Step (s.pool (backs selfParaId)) (s'.pool (backs selfParaId))

omit [LawfulCurrency L A] [Codec A] [Codec P] in
/-- A step of the escrow is an advance. -/
theorem Settled.advances (h : Settled selfParaId s s') : Advances selfParaId s s' :=
  ⟨h.engaged, .single (.settles h.settles)⟩

omit [LawfulCurrency L A] [Codec A] [Codec P] in
/-- The same storage again is an advance. -/
theorem advances_of_same (hs : Engaged s) (h : s.Same s') : Advances selfParaId s s' := by
  refine ⟨fun x ox hx => ?_, h.pool_eq (backs selfParaId) ▸ .refl⟩
  rw [h.orders] at hx
  rw [h.device]
  exact hs x ox hx

/-- An order that is refused locks a penalty at most. -/
theorem advances_of_refused_order {e : DispatchError Error} (hs : Engaged s)
    (h : (orderReceived selfParaId env o d).run s = (.error e, s')) :
    Advances selfParaId s s' := by
  rcases orderReceived_error h with rfl | ⟨v, l, hl, rfl⟩
  · exact advances_of_same hs (.refl _)
  · refine ⟨hs, .single (.locks (s.pool (backs selfParaId)) (reserved l) fun a => ?_)⟩
    rw [reserved_reserve hl]
    exact Nat.le_add_right _ _

/-- A done call that cannot be paid forfeits its order and releases the fee at most. -/
theorem advances_of_unpaid {e : DispatchError Error} (hs : Engaged s)
    (h : (done selfParaId env origin onoff).run s = (.error e, s')) :
    Advances selfParaId s s' := by
  by_cases hf : ∃ d o dev, Finishes s origin d o dev
  · obtain ⟨d, o, dev, hf⟩ := hf
    rcases done_run selfParaId env hf onoff with ⟨l, -, hrun⟩ | ⟨e', l, hl, hrun, hpaid⟩
    · rw [hrun] at h
      cases h
    · rw [hrun] at h
      obtain rfl := (Prod.ext_iff.mp h).2
      have hlocal : o.paraid = selfParaId := (doneLedger_error_iff.mp ⟨e', hl⟩).1
      have hpos : position (backs selfParaId) s d =
          some ⟨o.client, o.fee.toNat, dev.penalty.toNat⟩ := by
        rw [position_of_holds hf.holds, backs, if_pos hlocal]
      have hothers : ∀ x, x ≠ d →
          (s.device.insert d (settledProfile dev onoff)).lookup x = s.device.lookup x :=
        fun x hx => Finmap.lookup_insert_of_ne _ hx
      refine ⟨engaged_erase hs rfl hothers, steps_of_forfeits hpos rfl hothers fun a => ?_⟩
      change reserved s.ledger a - _ ≤ reserved l a
      rcases hpaid with rfl | hpaid
      · exact Nat.sub_le _ _
      · rw [reserved_repatriate hpaid]
        refine Nat.sub_le_sub_left ?_ _
        exact Nat.le_add_right _ _
  · obtain ⟨e', he⟩ := done_refused hf onoff
    rw [he] at h
    obtain rfl := (Prod.ext_iff.mp h).2
    exact advances_of_same hs (.refl _)

/-- Every call, whatever it returns, is an advance. -/
theorem advances_of_call (op : Op A P) (hs : Engaged s) (ha : env.Answers) :
    Advances selfParaId s ((op.call selfParaId env).exec s) := by
  cases hr : ((op.call selfParaId env).run s).1 with
  | ok u => exact (settles_of_ok hs ha (Dispatch.run_eq_of_fst hr)).advances
  | error e =>
    have hrun := Dispatch.run_eq_of_fst hr
    by_cases hatomic : Atomic (op.call selfParaId env) s
    · exact advances_of_same hs (hatomic e _ hrun)
    · rw [service_atomic_iff, not_not] at hatomic
      cases op with
      | order origin b =>
        cases origin with
        | signed who =>
          change (order selfParaId env (.signed who) b).run s = _ at hrun
          rw [order_signed] at hrun
          exact advances_of_refused_order hs hrun
        | root => exact absurd hatomic id
        | none => exact absurd hatomic id
      | orderReceived o d => exact advances_of_refused_order hs hrun
      | done origin onoff => exact advances_of_unpaid hs hrun
      | _ => exact absurd hatomic id

/-- Along every run the devices stay engaged and the reserves cover the book. -/
theorem covered_of_run {ledger : L}
    (hrun : Relation.ReflTransGen (MixedStep selfParaId) (Storage.init ledger) s) :
    Engaged s ∧ (s.pool (backs selfParaId)).Covered := by
  induction hrun with
  | refl =>
    refine ⟨engaged_of_empty rfl, fun a => ?_⟩
    have hempty : bookOf (backs selfParaId) (Storage.init ledger : State A P L) = ∅ :=
      bookOf_empty rfl
    change (bookOf (backs selfParaId) (Storage.init ledger : State A P L)).held a ≤ _
    rw [hempty]
    exact Nat.zero_le _
  | @tail t _ _ hstep ih =>
    obtain ⟨hengaged, hcovered⟩ := ih
    cases hstep with
    | call env op ha =>
      have hadvances : Advances selfParaId t _ := advances_of_call op hengaged ha
      exact ⟨hadvances.engaged, Pool.covered_of_reflTransGen hadvances.steps hcovered⟩
    | transfer l hl =>
      have hpool : (t.withLedger l).pool (backs selfParaId) = t.pool (backs selfParaId) :=
        pool_congr rfl hl fun _ _ => rfl
      rw [hpool]
      exact ⟨hengaged, hcovered⟩

/-! ### The ways out -/

omit [Codec A] [Codec P] [LawfulCurrency L A] in
/-- In a covered storage the reserves contain the fee and the penalty of every local order. -/
theorem backing_le_reserved (hc : (s.pool (backs selfParaId)).Covered) (hs : s.Holds d o dev)
    (hlocal : o.paraid = selfParaId) (a : A) :
    (if a = o.client then o.fee.toNat else 0) + (if a = d then dev.penalty.toNat else 0) ≤
      reserved s.ledger a := by
  refine hc.backing_le (d := d) (p := ⟨o.client, o.fee.toNat, dev.penalty.toNat⟩) ?_ a
  refine (lookup_bookOf d).trans ?_
  rw [position_of_holds hs, backs, if_pos hlocal]

omit [Codec A] [Codec P] in
/-- In a covered storage an order with a fee, or of another chain, can be settled. -/
theorem rejectLedger_ok (hc : (s.pool (backs selfParaId)).Covered) (hs : s.Holds d o dev)
    (ho : 0 < o.fee.toNat ∨ o.paraid ≠ selfParaId) (now : Moment) :
    ∃ l, rejectLedger selfParaId now o d dev s.ledger = .ok l := by
  by_cases hlocal : o.paraid = selfParaId
  · have hfee : 0 < o.fee.toNat := ho.resolve_right (not_not.mpr hlocal)
    rw [rejectLedger, if_pos hlocal]
    cases hl : settlePenalty now o.untilTime (unreserve s.ledger o.client o.fee.toNat) d
        o.client dev.penalty.toNat with
    | ok l => exact ⟨l, rfl⟩
    | error e =>
      -- the client holds its fee, so the penalty can be paid to it
      obtain ⟨-, -, -, hdead⟩ := settlePenalty_error_iff.mp ⟨e, hl⟩
      have hclient := backing_le_reserved hc hs hlocal o.client
      rw [if_pos rfl] at hclient
      rw [total_unreserve, total] at hdead
      omega
  · rw [rejectLedger, if_neg hlocal]
    exact ⟨s.ledger, rfl⟩

/-- In a covered storage an order with a fee, or of another chain, can be cancelled. -/
theorem cancellable_of_covered (hs : Engaged s) (hc : (s.pool (backs selfParaId)).Covered)
    (hstored : s.orders.lookup d = some o) (ho : 0 < o.fee.toNat ∨ o.paraid ≠ selfParaId) :
    Cancellable selfParaId s d o := by
  intro env hover
  have hlate : ¬env.now < o.untilTime := UInt64.not_lt.mpr hover
  obtain ⟨dev, hd, -⟩ := hs d o hstored
  have hholds : s.Holds d o dev := ⟨hstored, hd⟩
  obtain ⟨l, hl⟩ := rejectLedger_ok hc hholds ho env.now
  have hrun : (cancel selfParaId env (.signed o.client) d).run s = _ :=
    cancel_run ⟨hholds, rfl, hlate⟩
  rw [hl] at hrun
  refine ⟨dev, _, hholds, hrun, by simp, fun hlocal => ?_, fun hremote => ?_⟩
  · rw [rejectLedger, if_pos hlocal] at hl
    have hbacked := backing_le_reserved hc hholds hlocal
    constructor
    · intro a
      have ha := hbacked a
      rw [closed_ledger, reserved_settlePenalty hl, reserved_unreserve]
      omega
    · intro a
      have hclient := hbacked o.client
      have hdevice := hbacked d
      rw [if_pos rfl] at hclient hdevice
      rw [closed_ledger, free_settlePenalty hl, free_unreserve, reserved_unreserve,
        penaltyPayee, if_neg hlate]
      split_ifs at * <;> omega
  · rw [rejectLedger, if_neg hremote] at hl
    exact (Except.ok.inj hl).symm

/-- In a covered storage an order with a fee, or of another chain, can be rejected. -/
theorem rejectable_of_covered (hs : Engaged s) (hc : (s.pool (backs selfParaId)).Covered)
    (hstored : s.orders.lookup d = some o) (ho : 0 < o.fee.toNat ∨ o.paraid ≠ selfParaId) :
    Rejectable selfParaId s d := by
  intro env onoff
  obtain ⟨dev, hd, hengaged⟩ := hs d o hstored
  obtain ⟨l, hl⟩ := rejectLedger_ok hc ⟨hstored, hd⟩ ho env.now
  have hrun : (accept selfParaId env (.signed d) true onoff).run s = _ :=
    accept_reject_run ⟨rfl, hd, hengaged⟩ onoff
  -- the state the device asks for does not matter to the settlement
  have hsettled : rejectLedger selfParaId env.now o d (settledProfile dev onoff) s.ledger = .ok l :=
    hl
  rw [hstored, orderReject_run, hsettled] at hrun
  exact ⟨settledProfile dev onoff, _, hrun, by simp, by simp, rfl⟩

/-- In every run from an empty storage, whatever the calls return, an order with a fee or of
another chain can be cancelled once it is overdue, for exactly its fee and penalty, and rejected
at any time. -/
theorem exits_of_run {ledger : L}
    (hrun : Relation.ReflTransGen (MixedStep selfParaId) (Storage.init ledger) s)
    (hstored : s.orders.lookup d = some o) (ho : 0 < o.fee.toNat ∨ o.paraid ≠ selfParaId) :
    Cancellable selfParaId s d o ∧ Rejectable selfParaId s d := by
  obtain ⟨hengaged, hcovered⟩ := covered_of_run hrun
  exact ⟨cancellable_of_covered hengaged hcovered hstored ho,
    rejectable_of_covered hengaged hcovered hstored ho⟩

end Lawful

/-- The local order can be cancelled from time 100 on, and rejected before. -/
theorem exits_of_run_local :
    Cancellable 2000 localOrder 2 ⟨100, 7, 50, 1, 2000⟩ ∧ Rejectable 2000 localOrder 2 := by
  have ha : (ServiceEnv.online 0 .accepted : ServiceEnv UInt64 UInt64).Answers :=
    ServiceEnv.answers_online (.inr rfl)
  let registered : State UInt64 UInt64 (Balances UInt64) :=
    Dispatch.exec (register (.signed 2) 30 20 true) (Storage.init (Balances.uniform 50))
  have hregister : MixedStep 2000 (Storage.init (Balances.uniform 50)) registered :=
    .call (ServiceEnv.online 0 .accepted) (.register (.signed 2) 30 20 true) ha
  have horder : MixedStep 2000 registered localOrder :=
    .call (ServiceEnv.online 0 .accepted) (.order (.signed 1) ⟨100, 7, 50, 2⟩) ha
  exact exits_of_run ((Relation.ReflTransGen.single hregister).tail horder) rfl
    (.inl (by decide))

end XcmAutoBank.Service
