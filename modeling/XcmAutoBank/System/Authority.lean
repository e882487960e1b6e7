import XcmAutoBank.System.Solvency
import XcmAutoBank.Foundation.Trace

/-!
# Only its parties close an order

The client chain closes an order when a message arrives, and does not ask who caused the message.
Following the message back to the call that sent it shows who did: the device itself, which rejected
or finished the order on the service chain, or the client, which cancelled it there once it was
overdue (`closed_by_party_of_run`).  No call of another account and no timing of deliveries closes
an order that was placed when nothing for its device was under way.
-/

namespace XcmAutoBank.System

open History
open Relay (Item)

variable {A P LA LB : Type} [DecidableEq A]

/-- A call of the service chain by which a party closes its order: the device rejects or finishes
it, or the client cancels it once it is overdue. -/
inductive PartyCloses (now : Moment) (t : Ticket A P) : Service.Op A P → Verdict → Prop
  | reject (onoff : Bool) : PartyCloses now t (.accept (.signed t.order.device) true onoff) .reject
  | done (onoff : Bool) : PartyCloses now t (.done (.signed t.order.device) onoff) .done
  | cancel (hlate : ¬now < t.order.untilTime) :
      PartyCloses now t (.cancel (.signed t.client) t.order.device) .reject

variable [Codec A] [Codec P] [ReservableCurrency LB A] {paras : Paras} {w w' : World A P LA LB}
  {d : A} {o : OrderOf A P} {i : Item (Ticket A P)} {v : Verdict} {time : Moment}

/-! ### On the service chain -/

omit [Codec A] [Codec P] [ReservableCurrency LB A] in
/-- A record of a closed order tells which order it was. -/
theorem mem_closedRecords {op : Service.Op A P} {s' : Service.State A P LB}
    (h : .closed i v time ∈ w.closedRecords paras op s') :
    ∃ d, op.device = some d ∧ w.heldItem paras d = some i ∧ d ∉ s'.orders ∧ v = op.verdict ∧
      time = w.serviceNow := by
  unfold World.closedRecords at h
  cases hdevice : op.device with
  | none => simp [hdevice] at h
  | some d =>
    cases hheld : w.heldItem paras d with
    | none => simp [hdevice, hheld] at h
    | some j =>
      simp only [hdevice, hheld] at h
      split_ifs at h with hmem
      · exact absurd h List.not_mem_nil
      · obtain ⟨rfl, rfl, rfl⟩ := Record.closed.inj (List.mem_singleton.mp h)
        exact ⟨d, rfl, hheld, hmem, rfl, rfl⟩

omit [Codec A] [Codec P] [ReservableCurrency LB A] in
/-- An item that is held is a stored order of the client chain. -/
theorem order_of_heldItem (h : w.heldItem paras d = some i) :
    ∃ o, w.service.orders.lookup d = some o ∧ i.2 = .ofOrder o d := by
  unfold World.heldItem at h
  cases ho : w.service.orders.lookup d with
  | none => simp [ho] at h
  | some o =>
    simp only [ho] at h
    split_ifs at h
    exact ⟨o, rfl, by rw [← Option.some.inj h]⟩

/-- A dispatchable that removes an order is a call of a party of the order. -/
theorem partyCloses_of_call {env : Service.ServiceEnv A P} {op : Service.Op A P}
    {s : Service.State A P LB} (hop : op.Dispatchable) (hdevice : op.device = some d)
    (ho : s.orders.lookup d = some o) (hgone : d ∉ ((op.call paras.service env).exec s).orders) :
    PartyCloses env.now (.ofOrder o d) op op.verdict := by
  have hmem : d ∈ s.orders := Finmap.mem_of_lookup_eq_some ho
  have kept (hsame : (op.call paras.service env).exec s = s) :
      PartyCloses env.now (.ofOrder o d) op op.verdict := by
    rw [hsame] at hgone
    exact absurd hmem hgone
  cases op with
  | order origin b => cases hdevice
  | register origin penalty wcd onoff => cases hdevice
  | setState origin onoff => cases hdevice
  | onKilledAccount who => cases hdevice
  | orderReceived o x => exact absurd hop id
  | cancel origin x =>
    obtain rfl : x = d := Option.some.inj hdevice
    by_cases hc : ∃ o dev, Service.Cancels env s origin x o dev
    · obtain ⟨o', dev, hc⟩ := hc
      obtain rfl : o = o' := Option.some.inj (ho.symm.trans hc.holds.order)
      obtain rfl := hc.signed
      exact .cancel hc.late
    · exact kept (Dispatch.exec_of_refused (Service.cancel_refused hc))
  | accept origin reject onoff =>
    cases origin with
    | root => cases hdevice
    | none => cases hdevice
    | signed x =>
      obtain rfl : x = d := Option.some.inj hdevice
      cases reject with
      | true => exact .reject onoff
      | false =>
        rcases Service.accept_exec paras.service env s (.signed x) onoff with
          hsame | ⟨y, o', dev, -, htaken⟩
        · exact kept hsame
        · -- an order that is accepted stays
          change x ∉ ((Service.accept paras.service env (.signed x) false onoff).exec s).orders
            at hgone
          rw [htaken, Service.taken_orders] at hgone
          exact absurd hmem hgone
  | done origin onoff =>
    cases origin with
    | root => cases hdevice
    | none => cases hdevice
    | signed x =>
      obtain rfl : x = d := Option.some.inj hdevice
      exact .done onoff

variable [ReservableCurrency LA A]

/-- The step that records an order as closed is a call of a party of the order, on the service
chain, which stored it. -/
theorem partyCloses_of_step {action : Action A P} (h : Step paras w action w')
    (hbefore : .closed i v time ∉ w.history) (hafter : .closed i v time ∈ w'.history) :
    ∃ op, action = .service op ∧ w.heldItem paras i.2.order.device = some i ∧
      PartyCloses w.serviceNow i.2 op v := by
  cases h with
  | clock => exact absurd hafter hbefore
  | transfer => exact absurd hafter hbefore
  | client => exact absurd hafter hbefore
  | deliverAnswer => exact absurd hafter hbefore
  | loseRequest => exact absurd hafter hbefore
  | loseAnswer => exact absurd hafter hbefore
  | deliverRequest env pre post r hnow hflight =>
    have hrecord := (List.mem_append.mp hafter).resolve_left hbefore
    unfold World.storedRecords at hrecord
    split at hrecord
    · split_ifs at hrecord
      · cases List.mem_singleton.mp hrecord
      · exact absurd hrecord List.not_mem_nil
    · exact absurd hrecord List.not_mem_nil
  | service env op hnow hop =>
    have hrecord := (List.mem_append.mp hafter).resolve_left hbefore
    obtain ⟨d, hdevice, hheld, hgone, rfl, rfl⟩ := mem_closedRecords hrecord
    obtain ⟨o, ho, hticket⟩ := order_of_heldItem hheld
    obtain rfl := heldItem_device hheld
    refine ⟨op, rfl, hheld, ?_⟩
    have hparty := partyCloses_of_call hop hdevice ho hgone
    rw [← hticket, hnow] at hparty
    exact hparty

/-! ### Runs -/

/-- A run with labels leads from a run of the two chains to a run. -/
theorem reachable_of_traced {w₀ : World A P LA LB} {actions : List (Action A P)}
    (h : Traced (Step paras) w₀ actions w) (hw₀ : Reachable paras w₀) : Reachable paras w := by
  induction h with
  | nil => exact hw₀
  | cons hstep _ ih => exact ih (hw₀.step hstep)

/-- Moves that each are a step make a run. -/
theorem traced_play {moves : List (Move A P)}
    (h : Along (World.move paras) (fun w m => Step paras w m.action (w.move paras m)) w moves) :
    Traced (Step paras) w (moves.map Move.action) (w.play paras moves) := by
  induction moves generalizing w with
  | nil => exact .nil w
  | cons m moves ih => exact .cons h.1 (ih h.2)

/-- The move that delivers the oldest request is a step when there is one. -/
theorem World.passRequest_step (state : DeviceState) (h : w.requests ≠ []) :
    Step paras w (.deliverRequest 0) (w.move paras (.passRequest state)) := by
  obtain ⟨r, post, hflight⟩ := List.exists_cons_of_ne_nil h
  simp only [World.move, hflight]
  exact .deliverRequest w (.online w.serviceNow state) [] post r rfl hflight

/-- In every run of the two chains, with any loss and reordering of messages, an order that was
placed when nothing for its device was under way leaves the client chain only by a call of one of
its parties: its client cancels it there once it is overdue, or a message is delivered that goes
back to a call on the service chain, made while that chain stored this order, by which the device
rejected or finished it or the client cancelled it once it was overdue there. -/
theorem closed_by_party_of_run [LawfulCodec A] [LawfulCodec P] {clientNow serviceNow : Moment}
    {la : LA} {lb : LB} {actions : List (Action A P)}
    (h : Traced (Step paras) (World.init clientNow serviceNow la lb) actions w)
    {action : Action A P} (hstep : Step paras w action w')
    (ho : w.client.orders.lookup d = some o) (hclear : w.clear d = true)
    (hgone : d ∉ w'.client.orders) :
    (action = .client (.cancel (.signed o.client) d) ∧ ¬w.clientNow < o.untilTime) ∨
      ∃ i pre op v post u u', action = .deliverAnswer i ∧
        actions = pre ++ .service op :: post ∧
        Traced (Step paras) (World.init clientNow serviceNow la lb) pre u ∧
        Step paras u (.service op) u' ∧ Traced (Step paras) u' post w ∧
        u.heldItem paras d = some (w.openItem d o) ∧
        PartyCloses u.serviceNow (.ofOrder o d) op v := by
  have hmem : d ∈ w.client.orders := Finmap.mem_of_lookup_eq_some ho
  cases hstep with
  | clock => exact absurd hmem hgone
  | transfer => exact absurd hmem hgone
  | service => exact absurd hmem hgone
  | deliverRequest => exact absurd hmem hgone
  | loseRequest => exact absurd hmem hgone
  | loseAnswer => exact absurd hmem hgone
  | client env op hnow hop =>
    obtain ⟨rfl, hlate⟩ := Xchange.cancels_of_closed hop ho hgone
    rw [hnow] at hlate
    exact .inl ⟨rfl, hlate⟩
  | deliverAnswer env pre post a hnow hflight =>
    have hw : Reachable paras w :=
      reachable_of_traced h ⟨clientNow, serviceNow, la, lb, .refl⟩
    have hinvariant := invariant_of_reachable hw d
    obtain ⟨a, j, v, onoff, ha, hm, -, hanswer⟩ :=
      answer_of_removed hw (.deliverAnswer w env pre post a hnow hflight) hmem hgone
    have hissued : (w.view paras d).issued = some (w.openItem d o) := by
      simp [World.view, World.openItem, ho]
    obtain rfl : j = w.openItem d o := hinvariant.answer_eq hissued hclear hanswer
    -- the message goes back to the step that recorded the order as closed
    have hrecord : .closed (w.openItem d o) v a.time ∈ w.history :=
      (hinvariant.sound.answer_answered _ hanswer).2
    obtain ⟨before, e, after, u, u', hactions, hpre, hturn, hpost, hopen, hclosed⟩ :=
      h.turning (K := fun x => .closed (w.openItem d o) v a.time ∈ x.history) List.not_mem_nil
        hrecord
    obtain ⟨op, rfl, hheld, hparty⟩ := partyCloses_of_step hturn hopen hclosed
    exact .inr ⟨_, before, op, v, after, u, u', rfl, hactions, hpre, hturn, hpost, hheld, hparty⟩

/-- Device 2 registers and gets an order, which it rejects on the service chain. -/
def rejectedInFlight : List (Move UInt64 UInt64) :=
  [.client (.register (.signed 2) 2000 10 20 true) trivial,
    .service (.register (.signed 2) 10 20 true) trivial,
    .client (.order (.signed 1) ⟨100, 7, 30, 2⟩) trivial,
    .passRequest .busy,
    .service (.accept (.signed 2) true true) trivial]

/-- The message that closes the order goes back to a call of the device or of client 1. -/
theorem closed_by_party_of_run_rejected :
    let start : World UInt64 UInt64 (Balances UInt64) (Balances UInt64) :=
      World.init 0 0 (Balances.uniform 100) (Balances.uniform 100)
    ∃ pre op v post, rejectedInFlight.map Move.action = pre ++ .service op :: post ∧
      ∃ u, Traced (Step twoChains) start pre u ∧
        PartyCloses u.serviceNow (⟨1, ⟨100, 7, 30, 2⟩⟩ : Ticket UInt64 UInt64) op v := by
  intro start
  have hrequest {w : World UInt64 UInt64 (Balances UInt64) (Balances UInt64)}
      (h : 0 < w.requests.length) : Step twoChains w (.deliverRequest 0) _ :=
    World.passRequest_step .busy (List.ne_nil_of_length_pos h)
  have hrun : Traced (Step twoChains) start (rejectedInFlight.map Move.action)
      (start.play twoChains rejectedInFlight) :=
    traced_play ⟨.client _ _ _ rfl trivial, .service _ _ _ rfl trivial, .client _ _ _ rfl trivial,
      hrequest (by decide), .service _ _ _ rfl trivial, trivial⟩
  have hanswer : Step twoChains (start.play twoChains rejectedInFlight) (.deliverAnswer 0) _ :=
    World.passAnswer_step (List.ne_nil_of_length_pos (by decide))
  have hparty := closed_by_party_of_run (d := 2) (o := ⟨100, 7, 30, 1, 0⟩) hrun hanswer
    (by decide) (by decide) (by decide)
  rcases hparty with ⟨heq, -⟩ | ⟨i, pre, op, v, post, u, u', -, hactions, hpre, -, -, -, hparty⟩
  · cases heq
  · exact ⟨pre, op, v, post, hactions, u, hpre, hparty⟩

end XcmAutoBank.System
