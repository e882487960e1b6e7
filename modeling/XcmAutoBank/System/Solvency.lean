import XcmAutoBank.System.Penalty
import XcmAutoBank.Foundation.History
import XcmAutoBank.Xchange.Delivery

/-!
# Payment across the two chains

The client chain holds the money and the service chain decides who gets it.  In runs in which
clients place an order for a device only when nothing for it is under way any more, balances move
without touching reserves elsewhere, and no late done message drains its client, the reserves of the
client chain cover its open orders.  Every message that closes an order then names its client, and
pays out in full what the device decided on the service chain (`paid_by_verdict`); and an order that
gets no answer can be taken back by its client (`exits_of_solvent_run`).
-/

namespace XcmAutoBank.System

open Escrow ReservableCurrency
open Relay (Item)
open Xchange (SettlesFor Payable PaidOut)

variable {A P LA LB : Type} [DecidableEq A] [Codec A] [Codec P] [ReservableCurrency LA A]
  [ReservableCurrency LB A]

/-- A step that places orders only when nothing for their devices is under way, transfers no
reserves of the client chain and drains no client. -/
structure SolventStep (paras : Paras) (w : World A P LA LB) (action : Action A P)
    (w' : World A P LA LB) : Prop where
  step : Step paras w action w'
  placed : ∀ d, d ∉ w.client.orders → d ∈ w'.client.orders → w.underWay paras d = false
  transfer : action = .transfer →
    ∀ a : A, reserved w'.client.ledger a = reserved w.client.ledger a
  drains : ∀ op, action.op w = some op → ∀ env : Env, env.now = w.clientNow →
    ¬Xchange.DrainsClient env w.client op

/-- A run of such steps from any balances, with nothing stored or in flight at the start. -/
def SolventRun (paras : Paras) (w : World A P LA LB) : Prop :=
  ∃ clientNow serviceNow clientLedger serviceLedger, Relation.ReflTransGen
    (fun w w' => ∃ action, SolventStep paras w action w')
    (World.init clientNow serviceNow clientLedger serviceLedger) w

/-- The reserves of the client chain cover its orders, and each of them was placed when nothing for
its device was under way. -/
structure Solvent (w : World A P LA LB) : Prop where
  profiled : Xchange.Profiled w.client
  covered : (w.client.pool Xchange.backs).Covered
  clear : ∀ d ∈ w.client.orders, w.clear d = true

variable {paras : Paras} {w w' : World A P LA LB} {d : A} {o : OrderOf A P}

/-! ### Messages of a clear order -/

/-- A message in flight that closes the order of a device is about the order the client chain
stores, when it was placed clear. -/
theorem answer_of_clear [LawfulCodec A] [LawfulCodec P] (hw : Reachable paras w)
    (ho : w.client.orders.lookup d = some o) (hclear : w.clear d = true) {a : Answer A P}
    (ha : a ∈ w.answers) {c : A} {m : XCMPMessageOf A P} (hm : readMessage a.data = some m)
    (hsettles : SettlesFor c d m) :
    ∃ v onoff, m = v.message o.client d onoff ∧ c = o.client ∧ a.verdict d = some v ∧
      (w.openItem d o, v, a.time) ∈ (w.view paras d).answers := by
  obtain ⟨i, v, onoff, hv, hitem, -, hclient⟩ :=
    (labelled_of_reachable hw a ha).item hm hsettles
  have hanswer : (i, v, a.time) ∈ (w.view paras d).answers :=
    List.mem_filterMap.mpr ⟨a, ha, hitem⟩
  have hissued : (w.view paras d).issued = some (w.openItem d o) := by
    simp [World.view, World.openItem, ho]
  obtain rfl : i = w.openItem d o :=
    (invariant_of_reachable hw d).answer_eq hissued hclear hanswer
  obtain rfl : o.client = c := hclient
  obtain ⟨v', onoff', hv', hverdict⟩ := Answer.verdict_of_settles hm hsettles
  have hv'v : v' = v := by
    rw [Answer.item, hverdict] at hitem
    split at hitem
    · rename_i v₁ i₁ hv₁ _
      obtain rfl := Option.some.inj hv₁
      exact congrArg (fun p => p.2.1) (Option.some.inj hitem)
    · cases hitem
  exact ⟨v, onoff, hv, rfl, hv'v ▸ hverdict, hanswer⟩

omit [ReservableCurrency LA A] [ReservableCurrency LB A] in
/-- An answer with a verdict is the message that closes the order of the device. -/
theorem Answer.message_of_verdict {a : Answer A P} {v : Verdict} (h : a.verdict d = some v) :
    ∃ c onoff, readMessage a.data = some (v.message c d onoff : XCMPMessageOf A P) ∧
      SettlesFor c d (v.message c d onoff : XCMPMessageOf A P) := by
  unfold Answer.verdict at h
  split at h
  · rename_i c device onoff hm
    split_ifs at h with hd
    subst hd
    obtain rfl := Option.some.inj h
    exact ⟨c, onoff, hm, .orderReject onoff⟩
  · rename_i c device onoff hm
    split_ifs at h with hd
    subst hd
    obtain rfl := Option.some.inj h
    exact ⟨c, onoff, hm, .orderDone onoff⟩
  · cases h

omit [ReservableCurrency LB A] in
variable (paras) in
/-- Bytes are handled as the message they encode. -/
theorem handleAnswer_of_message {env : Env} {data : List UInt8} {s : Xchange.State A P LA}
    {m : XCMPMessageOf A P} (h : readMessage data = some m) :
    handleAnswer paras env data s = Xchange.handleMessage env s m := by
  unfold readMessage at h
  unfold handleAnswer Xchange.handleXcmpMessages Xchange.handleXcmpMessages
  obtain ⟨⟨m', rest⟩, hdecode, rfl⟩ := Option.map_eq_some_iff.mp h
  simp only [hdecode]

/-- Bytes that make no operation change nothing. -/
theorem handleAnswer_of_no_op {env : Env} {data : List UInt8} {s : Xchange.State A P LA}
    (h : ((readMessage data : Option (XCMPMessageOf A P)).bind Xchange.Op.ofMessage) = none) :
    handleAnswer paras env data s = s := by
  unfold readMessage at h
  unfold handleAnswer Xchange.handleXcmpMessages Xchange.handleXcmpMessages
  cases hdecode : (Codec.decode data : Option (XCMPMessageOf A P × List UInt8)) with
  | none => rfl
  | some p =>
    obtain ⟨m, rest⟩ := p
    rw [hdecode, Option.map_some, Option.bind_some] at h
    cases m with
    | newOrder client b => rfl
    | orderAccept client device => cases h
    | orderReject client device onoff => cases h
    | orderDone client device onoff => cases h

/-- The operation of a message that arrives for clear orders names the clients of the orders. -/
theorem namesClient_of_clear [LawfulCodec A] [LawfulCodec P] (hw : Reachable paras w)
    (hclear : ∀ d ∈ w.client.orders, w.clear d = true) {a : Answer A P} (ha : a ∈ w.answers)
    {m : XCMPMessageOf A P} {op : Xchange.Op A P} (hm : readMessage a.data = some m)
    (hop : Xchange.Op.ofMessage m = some op) : Xchange.NamesClient w.client op := by
  have hnames {c d : A} (hsettles : SettlesFor c d m) :
      ∀ o, w.client.orders.lookup d = some o → o.client = c := by
    intro o ho
    obtain ⟨-, -, -, hc, -⟩ := answer_of_clear hw ho
      (hclear d (Finmap.mem_of_lookup_eq_some ho)) ha hm hsettles
    exact hc.symm
  cases m with
  | newOrder client b => cases hop
  | orderAccept client device =>
    obtain rfl := Option.some.inj hop
    exact trivial
  | orderReject client device onoff =>
    obtain rfl := Option.some.inj hop
    exact hnames (.orderReject onoff)
  | orderDone client device onoff =>
    obtain rfl := Option.some.inj hop
    exact hnames (.orderDone onoff)

/-! ### Runs -/

omit [ReservableCurrency LA A] [ReservableCurrency LB A] in
variable (paras) in
/-- A call that places orders clear keeps all orders clear. -/
theorem clear_afterClient (s' : Xchange.State A P LA)
    (hclear : ∀ d ∈ w.client.orders, w.clear d = true)
    (hplaced : ∀ d, d ∉ w.client.orders → d ∈ s'.orders → w.underWay paras d = false) :
    ∀ d ∈ (w.afterClient paras s').client.orders, (w.afterClient paras s').clear d = true := by
  intro d hd
  by_cases hmem : d ∈ w.client.orders
  · have hkept : (w.afterClient paras s').clear d = w.clear d := if_neg fun h => h.2 hmem
    rw [hkept]
    exact hclear d hmem
  · have hnew : (w.afterClient paras s').clear d = !w.underWay paras d := if_pos ⟨hd, hmem⟩
    rw [hnew, hplaced d hmem hd]
    rfl

variable [LawfulCodec A] [LawfulCodec P] [LawfulCurrency LA A]

/-- A step of a solvent run keeps the client chain solvent. -/
theorem SolventStep.solvent {action : Action A P} (hw : Reachable paras w) (hs : Solvent w)
    (h : SolventStep paras w action w') : Solvent w' := by
  obtain ⟨hstep, hplaced, htransfer, hdrains⟩ := h
  cases hstep with
  | clock => exact ⟨hs.profiled, hs.covered, hs.clear⟩
  | service env op hnow hop => exact ⟨hs.profiled, hs.covered, hs.clear⟩
  | deliverRequest env pre post r hnow hflight => exact ⟨hs.profiled, hs.covered, hs.clear⟩
  | loseRequest pre post r hflight => exact ⟨hs.profiled, hs.covered, hs.clear⟩
  | loseAnswer pre post a hflight => exact ⟨hs.profiled, hs.covered, hs.clear⟩
  | transfer la lb =>
    refine ⟨hs.profiled, ?_, hs.clear⟩
    have hpool : (w.client.withLedger la).pool Xchange.backs = w.client.pool Xchange.backs :=
      Storage.pool_congr rfl (htransfer rfl) fun _ _ => rfl
    change ((w.client.withLedger la).pool Xchange.backs).Covered
    rw [hpool]
    exact hs.covered
  | client env op hnow hop =>
    obtain ⟨hprof, hmoves⟩ := Xchange.step_of_call hs.profiled
      (Xchange.namesClient_of_dispatchable hop) (hdrains op rfl env hnow)
    exact ⟨hprof, hmoves.covered hs.covered, clear_afterClient paras _ hs.clear hplaced⟩
  | deliverAnswer env pre post a hnow hflight =>
    have hat : w.answers[pre.length]? = some a := by simp [hflight]
    let rest : World A P LA LB := { w with answers := pre ++ post }
    have hclear := clear_afterClient (w := rest) paras (handleAnswer paras env a.data w.client)
      hs.clear fun d hd hd' => absurd hd' ?_
    · cases hop : ((readMessage a.data : Option (XCMPMessageOf A P)).bind
          Xchange.Op.ofMessage) with
      | none =>
        have hsame : handleAnswer paras env a.data w.client = w.client :=
          handleAnswer_of_no_op hop
        rw [hsame] at hclear ⊢
        exact ⟨hs.profiled, hs.covered, hclear⟩
      | some op =>
        obtain ⟨m, hm, hmessage⟩ := Option.bind_eq_some_iff.mp hop
        have hexec : handleAnswer paras env a.data w.client = (op.call env).exec w.client :=
          handleAnswer_of_op hm hmessage
        have hactions : (Action.deliverAnswer pre.length).op w = some op := by
          rw [Action.op, hat]
          exact hop
        obtain ⟨hprof, hmoves⟩ := Xchange.step_of_call hs.profiled
          (namesClient_of_clear hw hs.clear (List.mem_of_getElem? hat) hm hmessage)
          (hdrains op hactions env hnow)
        rw [hexec] at hclear ⊢
        exact ⟨hprof, hmoves.covered hs.covered, hclear⟩
    · -- a message brings no order
      rcases (handleAnswer_cases paras env a.data w.client).2 d with hkept | hnone
      · rw [← Finmap.lookup_isSome, hkept, Finmap.lookup_isSome]
        exact hd
      · exact Finmap.lookup_eq_none.mp hnone

/-- In every solvent run the client chain stays solvent. -/
theorem solvent_of_run (h : SolventRun paras w) : Reachable paras w ∧ Solvent w := by
  obtain ⟨clientNow, serviceNow, clientLedger, serviceLedger, hrun⟩ := h
  induction hrun with
  | refl =>
    refine ⟨⟨_, _, _, _, .refl⟩, Xchange.profiled_of_empty rfl, fun a => ?_, fun d hd => ?_⟩
    · have hempty : Storage.bookOf Xchange.backs (World.init clientNow serviceNow clientLedger
          serviceLedger : World A P LA LB).client = ∅ := Storage.bookOf_empty rfl
      change (Storage.bookOf Xchange.backs _).held a ≤ _
      rw [hempty]
      exact Nat.zero_le _
    · exact absurd hd Finmap.notMem_empty
  | tail _ hstep ih =>
    obtain ⟨action, hstep⟩ := hstep
    exact ⟨ih.1.step hstep.step, hstep.solvent ih.1 ih.2⟩

/-- In every solvent run each order with a fee can be cancelled by its client once it is overdue,
for exactly its fee and penalty, whatever happened to its messages. -/
theorem exits_of_solvent_run (h : SolventRun paras w)
    (ho : w.client.orders.lookup d = some o) (hfee : 0 < o.fee.toNat) :
    Xchange.Closable w.client d o := by
  obtain ⟨-, hsolvent⟩ := solvent_of_run h
  exact Xchange.closable_of_covered hsolvent.profiled hsolvent.covered ho hfee

/-- In every solvent run a message that arrives for the open order of a device is about that order,
which the service chain had stored and closed with the same verdict and no other.  It names the
client of the order, closes the order and pays its fee and its penalty out in full: the fee to the
device exactly when the device is done. -/
theorem paid_by_verdict (h : SolventRun paras w) {i : ℕ}
    (hstep : Step paras w (.deliverAnswer i) w') {a : Answer A P} (ha : w.answers[i]? = some a)
    {v : Verdict} (hv : a.verdict d = some v) (ho : w.client.orders.lookup d = some o)
    (hfee : 0 < o.fee.toNat)
    (hpayable : ∀ env : Env, env.now = w.clientNow → Payable env w.client v d o) :
    (.stored (w.openItem d o) ∈ w.history ∧ .closed (w.openItem d o) v a.time ∈ w.history ∧
      ∀ v' time, .closed (w.openItem d o) v' time ∈ w.history → v' = v ∧ time = a.time) ∧
    ∃ dev onoff, w.client.Holds d o dev ∧
      readMessage a.data = some (v.message o.client d onoff : XCMPMessageOf A P) ∧
      PaidOut w.clientNow v onoff w.client w'.client d o dev := by
  obtain ⟨hw, hsolvent⟩ := solvent_of_run h
  have hclear := hsolvent.clear d (Finmap.mem_of_lookup_eq_some ho)
  obtain ⟨c, onoff, hm, hsettles⟩ := Answer.message_of_verdict hv
  obtain ⟨v', onoff', hmessage, rfl, hv', hanswer⟩ :=
    answer_of_clear hw ho hclear (List.mem_of_getElem? ha) hm hsettles
  obtain rfl := Option.some.inj (hv.symm.trans hv')
  have hsound := (invariant_of_reachable hw d).sound
  refine ⟨⟨(hsound.answer_received hanswer).2, (hsound.answer_answered _ hanswer).2, ?_⟩, ?_⟩
  · intro v' time hclosed
    have honly := hsound.answer_only hanswer (k := (v', time)) ⟨rfl, hclosed⟩
    exact ⟨congrArg Prod.fst honly, congrArg Prod.snd honly⟩
  · obtain ⟨dev, hdev, -⟩ := hsolvent.profiled d o ho
    refine ⟨dev, onoff, ⟨ho, hdev⟩, hm, ?_⟩
    cases hstep with
    | deliverAnswer env pre post a' hnow hflight =>
      obtain rfl : a' = a := by simpa [hflight] using ha
      have hpaid := Xchange.paidOut_of_covered hsolvent.covered ⟨ho, hdev⟩ hfee
        (hpayable env hnow) onoff
      rw [← handleAnswer_of_message paras hm, hnow] at hpaid
      exact hpaid

/-! ### An order that is done -/

omit [LawfulCodec A] [LawfulCodec P] [LawfulCurrency LA A] in
/-- Moves that place orders clear and drain no client make a solvent run. -/
theorem solventRun_play {moves : List (Move A P)} (h : SolventRun paras w)
    (hmoves : History.Along (World.move paras) (fun w m =>
      (∀ d, d ∉ w.client.orders → d ∈ (w.move paras m).client.orders →
        w.underWay paras d = false) ∧
      ∀ op, m.action.op w = some op → ∀ env : Env, env.now = w.clientNow →
        ¬Xchange.DrainsClient env w.client op) w moves) :
    SolventRun paras (w.play paras moves) := by
  induction moves generalizing w with
  | nil => exact h
  | cons m moves ih =>
    obtain ⟨⟨hplaced, hdrains⟩, hrest⟩ := hmoves
    refine ih ?_ hrest
    rcases World.move_cases paras w m with hmove | hstep
    · rw [hmove]
      exact h
    · obtain ⟨clientNow, serviceNow, clientLedger, serviceLedger, hrun⟩ := h
      refine ⟨clientNow, serviceNow, clientLedger, serviceLedger,
        hrun.tail ⟨m.action, hstep, hplaced, fun htransfer => ?_, hdrains⟩⟩
      cases m <;> cases htransfer

/-- The run to the order that is done in time is solvent. -/
theorem solventRun_doneInTime : SolventRun twoChains doneInTime := by
  have hkept {w w' : World UInt64 UInt64 (Balances UInt64) (Balances UInt64)}
      (h : w'.client.orders = w.client.orders) : ∀ d, d ∉ w.client.orders →
        d ∈ w'.client.orders → w.underWay twoChains d = false :=
    fun d hd hd' => absurd (h ▸ hd') hd
  have hdispatch {w : World UInt64 UInt64 (Balances UInt64) (Balances UInt64)}
      {op : Xchange.Op UInt64 UInt64} (h : op.Dispatchable) :
      ∀ op', some op = some op' → ∀ env : Env, env.now = w.clientNow →
        ¬Xchange.DrainsClient env w.client op' := by
    rintro op' ⟨⟩ env -
    exact Xchange.not_drainsClient_of_dispatchable h
  have hnone {w : World UInt64 UInt64 (Balances UInt64) (Balances UInt64)} :
      ∀ op', (none : Option (Xchange.Op UInt64 UInt64)) = some op' → ∀ env : Env,
        env.now = w.clientNow → ¬Xchange.DrainsClient env w.client op' := by
    rintro op' ⟨⟩
  refine solventRun_play (solventRun_play ⟨0, 0, _, _, .refl⟩
    ⟨⟨hkept rfl, hdispatch trivial⟩, ⟨hkept rfl, hnone⟩, trivial⟩)
    ⟨⟨fun d _ _ => rfl, hdispatch trivial⟩, ⟨hkept rfl, hnone⟩, ⟨hkept rfl, hnone⟩,
      ⟨hkept rfl, ?_⟩, ⟨hkept rfl, hnone⟩, trivial⟩
  -- the message that the order was accepted moves nothing
  rintro op' hop env -
  obtain rfl : Xchange.Op.onAccept 1 2 = op' := Option.some.inj hop
  exact id

/-- Client 1 could take its order back at its deadline. -/
theorem exits_of_solvent_run_done : Xchange.Closable doneInTime.client 2 ⟨100, 7, 30, 1, 0⟩ :=
  exits_of_solvent_run solventRun_doneInTime rfl (by decide)

/-- The message that the order is done gives the device its fee and its penalty. -/
theorem paid_by_verdict_done : ∃ dev onoff,
    PaidOut 0 .done onoff doneInTime.client (doneInTime.move twoChains .passAnswer).client 2
      ⟨100, 7, 30, 1, 0⟩ dev := by
  have hpayable : ∀ env : Env, env.now = doneInTime.clientNow →
      Payable env doneInTime.client .done 2 ⟨100, 7, 30, 1, 0⟩ := by
    refine fun env hnow _ => ⟨by decide, ?_⟩
    rintro ⟨o, dev, hs, -, -, -, -, hfree, -⟩
    exact absurd hfree (by decide)
  obtain ⟨a, ha, hv⟩ : ∃ a, doneInTime.answers[0]? = some a ∧ a.verdict 2 = some .done :=
    ⟨_, rfl, by decide⟩
  obtain ⟨-, dev, onoff, -, -, hpaid⟩ := paid_by_verdict solventRun_doneInTime
    (World.passAnswer_step (by decide)) ha hv rfl (by decide) hpayable
  exact ⟨dev, onoff, hpaid⟩

end XcmAutoBank.System
