import XcmAutoBank.Xchange.Atomicity

/-!
# The client's way out

`cancel` is a client's only way out of an order its service chain does not settle.  Past the
deadline it succeeds when the reserves cover the book.  Failing calls keep the reserves covered
(`step_of_call`), except for a late done message that drains its client: it hands the fee over
and leaves the order.
-/

namespace XcmAutoBank.Xchange

open Escrow ReservableCurrency LawfulCurrency Storage

variable {A P L : Type} [DecidableEq A] [ReservableCurrency L A]

/-- The order of a device can be cancelled once it is overdue: the client gets the fee back and the
penalty on top. -/
def Closable (s : State A P L) (d : A) (o : OrderOf A P) : Prop :=
  ∀ env : Env, ¬env.now < o.untilTime → ∃ dev s', s.Holds d o dev ∧
    (cancel env (.signed o.client) d).run s = (.ok (), s') ∧
    s'.orders = s.orders.erase d ∧
    (∀ a, reserved s'.ledger a + (if a = o.client then o.fee.toNat else 0) +
      (if a = d then dev.penalty.toNat else 0) = reserved s.ledger a) ∧
    ∀ a, free s'.ledger a = free s.ledger a +
      if a = o.client then o.fee.toNat + dev.penalty.toNat else 0

/-- A late done message that drains its client. -/
def DrainsClient (env : Env) (s : State A P L) : Op A P → Prop
  | .onDone who d _ => Drains env s who d
  | _ => False

/-- A step of a run: a call that meets `Q`, whatever it returns and any settlement message naming
the client, or transfers that leave the reserves alone. -/
inductive MixedStep [Codec A] [Codec P] (Q : Env → State A P L → Op A P → Prop) :
    State A P L → State A P L → Prop
  | call {s : State A P L} (env : Env) (op : Op A P) (hn : NamesClient s op) (hq : Q env s op) :
      MixedStep Q s ((Op.call env op).exec s)
  | transfer {s : State A P L} (l : L) (hl : ∀ a : A, reserved l a = reserved s.ledger a) :
      MixedStep Q s (s.withLedger l)

variable {env : Env} {s s' : State A P L}

/-- An order that fails leaves the storage as it was, or with the penalty reserved. -/
theorem order_error [Codec A] [Codec P] {origin : Origin A} {b : OrderBaseOf A P}
    {e : DispatchError Error} (h : (order env origin b).run s = (.error e, s')) :
    s' = s ∨ ∃ v l, reserve s.ledger b.device v = .ok l ∧ s' = s.withLedger l := by
  have hs' : (order env origin b).exec s = s' := congrArg Prod.snd h
  rcases order_exec env s origin b with hsame | ⟨who, dev, l, -, hl, hpenalty | ⟨l₂, -, hrun⟩⟩
  · exact .inl (hs'.symm.trans hsame)
  · exact .inr ⟨_, l, hl, hs'.symm.trans hpenalty⟩
  · cases hrun.symm.trans h

variable [LawfulCurrency L A]

/-- Every call that does not drain its client moves the pool by a step of the escrow. -/
theorem step_of_call [Codec A] [Codec P] {op : Op A P} (hs : Profiled s)
    (hn : NamesClient s op) (hq : ¬DrainsClient env s op) :
    Profiled ((op.call env).exec s) ∧
      Pool.Step (s.pool backs) (((op.call env).exec s).pool backs) := by
  have hsame (h : s.Same ((op.call env).exec s)) : Profiled ((op.call env).exec s) ∧
      Pool.Step (s.pool backs) (((op.call env).exec s).pool backs) := by
    refine ⟨fun d o ho => ?_, h.pool_eq backs ▸ .settles (.idle _)⟩
    rw [h.device]
    exact hs d o (h.orders ▸ ho)
  cases hr : ((op.call env).run s).1 with
  | ok u =>
    obtain ⟨hprof, hsettles⟩ := settles_of_ok hs hn (Dispatch.run_eq_of_fst hr)
    exact ⟨hprof, .settles hsettles⟩
  | error e =>
    have hrun := Dispatch.run_eq_of_fst hr
    by_cases hatomic : Atomic (op.call env) s
    · exact hsame (hatomic e _ hrun)
    · rw [atomic_iff hn, not_not] at hatomic
      cases op with
      | order origin b =>
        rcases order_error hrun with heq | ⟨v, l, hl, heq⟩
        · refine hsame ?_
          rw [heq]
          exact .refl s
        · -- the penalty stays reserved without an order
          rw [heq]
          refine ⟨hs, .locks (s.pool backs) (reserved l) fun a => ?_⟩
          rw [reserved_reserve hl]
          exact Nat.le_add_right _ _
      | onDone who d onoff => exact absurd hatomic hq
      | _ => exact absurd hatomic id

/-- In a covered storage every order with a fee can be cancelled once it is overdue. -/
theorem closable_of_covered (hs : Profiled s) (hc : (s.pool backs).Covered) {d : A}
    {o : OrderOf A P} (ho : s.orders.lookup d = some o) (hfee : 0 < o.fee.toNat) :
    Closable s d o := by
  intro env hlate
  obtain ⟨dev, hd, -⟩ := hs d o ho
  have hholds : s.Holds d o dev := ⟨ho, hd⟩
  have hbacked : ∀ a, (if a = o.client then o.fee.toNat else 0) +
      (if a = d then dev.penalty.toNat else 0) ≤ reserved s.ledger a := by
    refine hc.backing_le (d := d) (p := ⟨o.client, o.fee.toNat, dev.penalty.toNat⟩) ?_
    exact (lookup_bookOf d).trans (position_of_holds hholds)
  have hrun := cancel_run (⟨hholds, rfl, hlate⟩ : Cancels env s (.signed o.client) d o dev)
  cases hl : settlePenalty env.now o.untilTime (unreserve s.ledger o.client o.fee.toNat) d
      o.client dev.penalty.toNat with
  | error e =>
    -- the client holds its fee, so the penalty can be paid to it
    obtain ⟨-, -, -, hdead⟩ := settlePenalty_error_iff.mp ⟨e, hl⟩
    have hclient := hbacked o.client
    rw [if_pos rfl] at hclient
    rw [total_unreserve, total] at hdead
    omega
  | ok l =>
    simp only [hl] at hrun
    refine ⟨dev, _, hholds, hrun, rfl, fun a => ?_, fun a => ?_⟩
    · have ha := hbacked a
      rw [closed_ledger, reserved_released hl]
      omega
    · have hclient := hbacked o.client
      have hdevice := hbacked d
      rw [if_pos rfl] at hclient hdevice
      rw [closed_ledger, free_settlePenalty hl, free_unreserve, reserved_unreserve,
        penaltyPayee, if_neg hlate]
      split_ifs at * <;> omega

/-- A draining message leaves an order that cannot be cancelled. -/
theorem not_closable_of_drains {who d : A} {onoff : Bool} {o : OrderOf A P}
    (hn : NamesClient s (.onDone who d onoff)) (ho : s.orders.lookup d = some o)
    (h : Drains env s who d) : ¬Closable ((onDone env who d onoff).exec s) d o := by
  intro hclosable
  obtain ⟨o', dev, hs, hwho, hlate, hpen, hd, hfree, hpos, hres⟩ := h
  obtain rfl : o = o' := Option.some.inj (ho.symm.trans hs.order)
  obtain rfl : o.client = who := hn o ho
  obtain ⟨l, hl⟩ : ∃ l, repatriateReserved s.ledger o.client d o.fee.toNat .free = .ok l :=
    (repatriate_ok_iff _ _ _ _).mpr (.inr (.inr hd))
  obtain ⟨e, he⟩ := (settle_done_error_iff hl).mpr ⟨hwho, hlate, hpen, hfree, hres⟩
  have hrun : (onDone env o.client d onoff).run s = _ := onDone_run hs o.client onoff
  simp only [hl, he] at hrun
  have hexec : (onDone env o.client d onoff).exec s = s.withLedger l := by
    rw [Dispatch.exec, hrun]
  rw [hexec] at hclosable
  -- a cancel would release the fee from a reserve that is gone
  obtain ⟨dev', s', -, -, -, hreserved, -⟩ := hclosable env hlate
  have hgone := reserved_repatriate hl o.client
  have hclient := hreserved o.client
  rw [if_pos rfl] at hgone
  rw [if_pos rfl, withLedger_ledger, hgone] at hclient
  omega

/-- Along a run without a draining message the escrow pool makes steps. -/
theorem steps_of_run [Codec A] [Codec P] (hs : Profiled s)
    (hrun : Relation.ReflTransGen (MixedStep fun env s op => ¬DrainsClient env s op) s s') :
    Profiled s' ∧ Relation.ReflTransGen Pool.Step (s.pool backs) (s'.pool backs) := by
  induction hrun with
  | refl => exact ⟨hs, .refl⟩
  | @tail t _ _ hstep ih =>
    obtain ⟨hprof, hsteps⟩ := ih
    cases hstep with
    | call env op hn hq =>
      obtain ⟨hprof', hstep⟩ := step_of_call hprof hn hq
      exact ⟨hprof', hsteps.tail hstep⟩
    | transfer l hl =>
      have hpool : (t.withLedger l).pool backs = t.pool backs := pool_congr rfl hl fun _ _ => rfl
      rw [hpool]
      exact ⟨hprof, hsteps⟩

/-- Along a run without a draining message the reserves cover the book. -/
theorem covered_of_run [Codec A] [Codec P] {ledger : L}
    (hrun : Relation.ReflTransGen (MixedStep fun env s op => ¬DrainsClient env s op)
      (Storage.init ledger) s) : Profiled s ∧ (s.pool backs).Covered := by
  have hempty : bookOf backs (Storage.init ledger : State A P L) = ∅ := bookOf_empty rfl
  have hinit : ((Storage.init ledger : State A P L).pool backs).Covered := by
    intro a
    change (bookOf backs (Storage.init ledger : State A P L)).held a ≤ _
    rw [hempty]
    exact Nat.zero_le _
  obtain ⟨hprof, hsteps⟩ := steps_of_run (profiled_of_empty rfl) hrun
  exact ⟨hprof, Pool.covered_of_reflTransGen hsteps hinit⟩

/-- In every run from an empty storage in which no late done message drains its client, every
stored order with a fee can be cancelled once it is overdue, for exactly its fee and penalty. -/
theorem closable_of_run [Codec A] [Codec P] {ledger : L}
    (hrun : Relation.ReflTransGen (MixedStep fun env s op => ¬DrainsClient env s op)
      (Storage.init ledger) s) {d : A} {o : OrderOf A P} (ho : s.orders.lookup d = some o)
    (hfee : 0 < o.fee.toNat) : Closable s d o := by
  obtain ⟨hprof, hcov⟩ := covered_of_run hrun
  exact closable_of_covered hprof hcov ho hfee

omit [LawfulCurrency L A] in
/-- A successful call is a step of a mixed run. -/
theorem OkStep.mixed [Codec A] [Codec P] (h : OkStep s s') :
    MixedStep (fun _ _ _ => True) s s' := by
  obtain ⟨env, op, hn, hrun⟩ := h
  have hexec : s' = (op.call env).exec s := (congrArg Prod.snd hrun).symm
  rw [hexec]
  exact .call env op hn trivial

/-- The first order can be cancelled from time 100 on. -/
theorem closable_of_run_order : Closable firstOrder 2 ⟨100, 7, 30, 1, 0⟩ := by
  let registered : State UInt64 UInt64 (Balances UInt64) :=
    Dispatch.exec (register (.signed 2) 2000 10 20 true) (Storage.init (Balances.uniform 30))
  have hregister : MixedStep (fun env s op => ¬DrainsClient env s op)
      (Storage.init (Balances.uniform 30)) registered :=
    .call (Env.online 0) (.register (.signed 2) 2000 10 20 true) trivial id
  have horder : MixedStep (fun env s op => ¬DrainsClient env s op) registered firstOrder :=
    .call (Env.online 0) (.order (.signed 1) ⟨100, 7, 30, 2⟩) trivial id
  exact closable_of_run ((Relation.ReflTransGen.single hregister).tail horder)
    (by decide) (by decide)

/-- A done message at time 100 for the first order, whose fee is all its client has: the fee goes to
the device, the message fails on the penalty, and so does every cancel that follows. -/
theorem not_closable_of_drained :
    ¬∀ s : State UInt64 UInt64 (Balances UInt64),
      Relation.ReflTransGen (MixedStep fun _ _ _ => True)
        (Storage.init (Balances.uniform 30)) s →
      ∀ d o, s.orders.lookup d = some o → 0 < o.fee.toNat → Closable s d o := by
  intro h
  let drained := Dispatch.exec (onDone (Env.online 100) 1 2 true) firstOrder
  have hordered : Relation.ReflTransGen (MixedStep fun _ _ _ => True)
      (Storage.init (Balances.uniform 30)) firstOrder :=
    Relation.ReflTransGen.mono (fun _ _ => OkStep.mixed) _ _ firstOrder_run
  have hdone : MixedStep (fun _ _ _ => True) firstOrder drained :=
    .call (Env.online 100) (.onDone 1 2 true) firstOrder_client trivial
  have hclosable := h drained (hordered.tail hdone) 2 ⟨100, 7, 30, 1, 0⟩ (by decide) (by decide)
  obtain ⟨dev, s', -, hcancel, -⟩ := hclosable (Env.online 100) (by decide)
  have herror : ((cancel (Env.online 100) (.signed 1) 2).run drained).1 =
      .error (.currency .deadAccount) := by decide
  rw [hcancel] at herror
  cases herror

end XcmAutoBank.Xchange
