import XcmAutoBank.System.Agreement
import XcmAutoBank.Xchange.Penalty

/-!
# Penalties across the two chains

The client chain decides by its own clock, when it closes an order, whether the penalty goes to the
client; the device works on the service chain.  A device that finished in time is fined when its
message arrives late (`not_justified_late_message`).  In runs that close late orders fairly, every
fine is the device's own fault (`justified_of_fair_run`).
-/

namespace XcmAutoBank.System

open Relay (Item)
open Xchange (SettlesFor Charges)

variable {A P LA LB : Type} [DecidableEq A] [Codec A] [Codec P]

/-! ### Charges and their justification -/

/-- The operation of the client chain that an action makes, if it makes one. -/
def Action.op (w : World A P LA LB) : Action A P → Option (Xchange.Op A P)
  | .client op => some op
  | .deliverAnswer i =>
    (w.answers[i]?).bind fun a => (readMessage a.data).bind Xchange.Op.ofMessage
  | _ => none

/-- A step closes the order of a device, and the penalty goes to the client. -/
def Charged [ReservableCurrency LA A] (w : World A P LA LB) (action : Action A P)
    (w' : World A P LA LB) (d : A) (o : OrderOf A P) : Prop :=
  ∃ op, action.op w = some op ∧ Charges w.client w'.client op d o

/-- The order of a device with the number it has on the client chain. -/
def World.openItem (w : World A P LA LB) (d : A) (o : OrderOf A P) : Item (Ticket A P) :=
  (w.placed d, .ofOrder o d)

/-- The service chain had stored the order, and the device did not finish it before its
deadline. -/
structure Justified (w : World A P LA LB) (d : A) (o : OrderOf A P) : Prop where
  received : .stored (w.openItem d o) ∈ w.history
  unfinished : ∀ time, .closed (w.openItem d o) .done time ∈ w.history → o.untilTime ≤ time

section Answers

variable {w : World A P LA LB} {a : Answer A P} {m : XCMPMessageOf A P} {op : Xchange.Op A P}
  {i : ℕ}

omit [DecidableEq A] in
/-- The operation of a delivery is the one the message makes. -/
theorem op_of_answer (ha : w.answers[i]? = some a)
    (hop : (Action.deliverAnswer i).op w = some op) :
    ∃ m, readMessage a.data = some m ∧ Xchange.Op.ofMessage m = some op := by
  rw [Action.op, ha, Option.bind_some, Option.bind_eq_some_iff] at hop
  exact hop

/-- Bytes are handled by the operation their message makes. -/
theorem handleAnswer_of_op [ReservableCurrency LA A] {paras : Paras} {env : Env}
    {s : Xchange.State A P LA} (hm : readMessage a.data = some m)
    (hop : Xchange.Op.ofMessage m = some op) :
    handleAnswer paras env a.data s = (op.call env).exec s := by
  rw [← Xchange.handleMessage_of_op hop]
  unfold readMessage at hm
  unfold handleAnswer Xchange.handleXcmpMessages Xchange.handleXcmpMessages
  obtain ⟨⟨m', rest⟩, hdecode, rfl⟩ := Option.map_eq_some_iff.mp hm
  simp only [hdecode]

/-- A message whose operation closes the order of a device settles it. -/
theorem verdict_of_closes {env : Env} {d : A} {o : OrderOf A P}
    (hm : readMessage a.data = some m) (hop : Xchange.Op.ofMessage m = some op)
    (hcloses : Xchange.ClosesOrder env d o op) : (a.verdict d).isSome := by
  cases m with
  | newOrder client order => cases hop
  | orderAccept client device =>
    obtain rfl := Option.some.inj hop
    cases hcloses
  | orderReject client device onoff =>
    obtain rfl := Option.some.inj hop
    cases hcloses
    simp [Answer.verdict, hm]
  | orderDone client device onoff =>
    obtain rfl := Option.some.inj hop
    cases hcloses
    simp [Answer.verdict, hm]

end Answers

/-! ### Closing late orders fairly -/

/-- A message says that the service chain rejected the item, or finished it at its deadline or
later. -/
structure Answer.TellsLate (a : Answer A P) (d : A) (i : Item (Ticket A P)) : Prop where
  removed : a.removed d = some i
  verdict : a.verdict d = some .reject ∨
    a.verdict d = some .done ∧ i.2.order.untilTime ≤ a.time

/-- An action closes no late order but by a message that tells so of this order, or by its client
while the service chain stores it or such a message is in flight. -/
structure Fair (paras : Paras) (w : World A P LA LB) (action : Action A P) : Prop where
  cancel : ∀ d o, w.client.orders.lookup d = some o → o.untilTime ≤ w.clientNow →
    action = .client (.cancel (.signed o.client) d) →
    w.heldItem paras d = some (w.openItem d o) ∨ ∃ a ∈ w.answers, a.TellsLate d (w.openItem d o)
  message : ∀ d o, w.client.orders.lookup d = some o → o.untilTime ≤ w.clientNow →
    ∀ i a, action = .deliverAnswer i → w.answers[i]? = some a → (a.verdict d).isSome →
    a.TellsLate d (w.openItem d o)

/-- One step of a run. -/
structure Transition (AccountId Payload ClientLedger ServiceLedger : Type) where
  source : World AccountId Payload ClientLedger ServiceLedger
  action : Action AccountId Payload
  target : World AccountId Payload ClientLedger ServiceLedger

/-- The steps of a run, in their order. -/
inductive Run [ReservableCurrency LA A] [ReservableCurrency LB A] (paras : Paras) :
    World A P LA LB → List (Transition A P LA LB) → Prop
  | nil (w : World A P LA LB) : Run paras w []
  | cons {w w' : World A P LA LB} {action : Action A P} {run : List (Transition A P LA LB)}
      (hstep : Step paras w action w') (hrun : Run paras w' run) :
      Run paras w (⟨w, action, w'⟩ :: run)

section Justification

variable [LawfulCodec A] [LawfulCodec P] [ReservableCurrency LA A] [ReservableCurrency LB A]
  {paras : Paras} {w w' : World A P LA LB} {d : A} {o : OrderOf A P} {action : Action A P}

/-- An order the service chain stores was received and is not finished. -/
theorem justified_of_held (hw : Reachable paras w)
    (h : w.heldItem paras d = some (w.openItem d o)) : Justified w d o := by
  have hsound := (invariant_of_reachable hw d).sound
  refine ⟨(hsound.held_received _ h).2, fun time hclosed => ?_⟩
  exact absurd ⟨rfl, hclosed⟩ (hsound.held_unanswered h (.done, time))

/-- An order that a message tells was rejected or finished late was received and not finished
before its deadline. -/
theorem justified_of_tellsLate (hw : Reachable paras w) {a : Answer A P} (ha : a ∈ w.answers)
    (h : a.TellsLate d (w.openItem d o)) : Justified w d o := by
  have hsound := (invariant_of_reachable hw d).sound
  obtain ⟨v, hv⟩ : ∃ v, a.verdict d = some v := by
    rcases h.verdict with hv | ⟨hv, -⟩
    · exact ⟨_, hv⟩
    · exact ⟨_, hv⟩
  have hitem : a.item d = some (w.openItem d o, v, a.time) := by
    simp only [Answer.item, hv, h.removed]
  have hanswer : (w.openItem d o, v, a.time) ∈ (w.view paras d).answers :=
    List.mem_filterMap.mpr ⟨a, ha, hitem⟩
  refine ⟨(hsound.answer_received hanswer).2, fun time hclosed => ?_⟩
  have hanswered : (w.openItem d o, Verdict.done, time) ∈ (w.view paras d).answered :=
    ⟨rfl, hclosed⟩
  have honly := hsound.answer_only hanswer hanswered
  rcases h.verdict with hreject | ⟨-, hlate⟩
  · rw [hv] at hreject
    obtain rfl := Option.some.inj hreject
    cases honly
  · have htime : time = a.time := (Prod.ext_iff.mp honly).2
    rw [htime]
    exact hlate

/-- An order that was finished in time, as a message in flight says, justifies no penalty, however
late the message arrives. -/
theorem not_justified_of_done_in_time (hw : Reachable paras w) {a : Answer A P}
    (ha : a ∈ w.answers) (hremoved : a.removed d = some (w.openItem d o))
    (hverdict : a.verdict d = some .done) (htime : a.time < o.untilTime) : ¬Justified w d o := by
  intro h
  have hitem : a.item d = some (w.openItem d o, .done, a.time) := by
    simp only [Answer.item, hverdict, hremoved]
  have hanswered := (invariant_of_reachable hw d).sound.answer_answered _
    (List.mem_filterMap.mpr ⟨a, ha, hitem⟩)
  have hlate := h.unfinished a.time hanswered.2
  exact UInt64.not_lt.mpr hlate htime

/-- A step that closes late orders fairly charges no penalty without fault of the device. -/
theorem justified_of_fair [LawfulCurrency LA A] (hw : Reachable paras w)
    (hstep : Step paras w action w') (hfair : Fair paras w action)
    (h : Charged w action w' d o) : Justified w d o := by
  obtain ⟨op, hop, hcharges⟩ := h
  cases hstep with
  | client env op' hnow hdispatch =>
    obtain rfl := Option.some.inj hop
    have hlate := hcharges.late
    rw [hnow] at hlate
    cases Xchange.closes_cases hcharges.stored hcharges.closed with
    | cancel =>
      rcases hfair.cancel d o hcharges.stored (UInt64.not_lt.mp hlate) rfl with
        hheld | ⟨a, ha, htells⟩
      · exact justified_of_held hw hheld
      · exact justified_of_tellsLate hw ha htells
    | onReject who onoff => exact absurd hdispatch id
    | onDone who onoff => exact absurd hdispatch id
  | deliverAnswer env pre post a hnow hflight =>
    have hat : w.answers[pre.length]? = some a := by simp [hflight]
    obtain ⟨m, hm, hmessage⟩ := op_of_answer hat hop
    have hclient : handleAnswer paras env a.data w.client = (op.call env).exec w.client :=
      handleAnswer_of_op hm hmessage
    change Charges w.client (handleAnswer paras env a.data w.client) op d o at hcharges
    rw [hclient] at hcharges
    have hlate := hcharges.late
    rw [hnow] at hlate
    have hsettles := verdict_of_closes hm hmessage (Xchange.closes_cases hcharges.stored
      hcharges.closed)
    have htells := hfair.message d o hcharges.stored (UInt64.not_lt.mp hlate) pre.length a rfl hat
      hsettles
    exact justified_of_tellsLate hw (List.mem_of_getElem? hat) htells
  | clock => cases hop
  | transfer => cases hop
  | service env op' hnow hdispatch => cases hop
  | deliverRequest env pre post r hnow hflight => cases hop
  | loseRequest pre post r hflight => cases hop
  | loseAnswer pre post a hflight => cases hop

omit [LawfulCodec A] [LawfulCodec P] in
/-- A step of a run continues the run. -/
theorem Reachable.step (hw : Reachable paras w) (hstep : Step paras w action w') :
    Reachable paras w' := by
  obtain ⟨clientNow, serviceNow, clientLedger, serviceLedger, hrun⟩ := hw
  exact ⟨clientNow, serviceNow, clientLedger, serviceLedger, hrun.tail ⟨action, hstep⟩⟩

/-- In every run whose steps close late orders fairly, a penalty is only charged for an order that
the service chain had stored and that the device did not finish before the deadline. -/
theorem justified_of_fair_run [LawfulCurrency LA A] {run : List (Transition A P LA LB)}
    (hw : Reachable paras w) (hrun : Run paras w run)
    (hfair : ∀ t ∈ run, Fair paras t.source t.action) :
    ∀ t ∈ run, ∀ d o, Charged t.source t.action t.target d o → Justified t.source d o := by
  induction hrun with
  | nil => exact fun t ht => absurd ht List.not_mem_nil
  | cons hstep hrun ih =>
    intro t ht d o hcharged
    rcases List.mem_cons.mp ht with rfl | ht
    · exact justified_of_fair hw hstep (hfair _ List.mem_cons_self) hcharged
    · exact ih (hw.step hstep) (fun t ht => hfair t (List.mem_cons_of_mem _ ht)) t ht d o hcharged

end Justification

/-! ### Orders at their deadline -/

/-- An order is at its deadline while the service chain stores it. -/
def overdue : World UInt64 UInt64 (Balances UInt64) (Balances UInt64) :=
  registeredChains.play twoChains
    [.client (.order (.signed 1) ⟨100, 7, 30, 2⟩) trivial,
      .passRequest .busy,
      .wait 100]

/-- The client cancels the order, and the penalty is charged with reason. -/
theorem justified_of_fair_run_cancel : Justified overdue 2 ⟨100, 7, 30, 1, 0⟩ := by
  have hcancel : Step twoChains overdue (.client (.cancel (.signed 1) 2))
      (overdue.move twoChains (.client (.cancel (.signed 1) 2) trivial)) :=
    .client overdue (.online overdue.clientNow) (.cancel (.signed 1) 2) rfl trivial
  refine justified_of_fair_run (inOrder_play (by decide)).reachable
    (.cons hcancel (.nil _)) ?_ _ List.mem_cons_self 2 _ ?_
  · intro t ht
    obtain rfl := List.mem_singleton.mp ht
    constructor
    · intro d o ho hlate haction
      rw [Action.client.injEq, Xchange.Op.cancel.injEq] at haction
      obtain rfl := haction.2
      have hstored : overdue.client.orders.lookup 2 = some ⟨100, 7, 30, 1, 0⟩ := rfl
      obtain rfl := Option.some.inj (hstored.symm.trans ho)
      exact .inl rfl
    · rintro d o ho hlate i a ⟨⟩
  · exact ⟨.cancel (.signed 1) 2, rfl, rfl, by decide, by decide, by decide⟩

/-- An order is accepted at once and done at time 50; at its deadline the message that says so is
the next one to be delivered. -/
def doneInTimeLateMessage : World UInt64 UInt64 (Balances UInt64) (Balances UInt64) :=
  registeredChains.play twoChains
    [.client (.order (.signed 1) ⟨100, 7, 30, 2⟩) trivial,
      .passRequest .accepted,
      .wait 50,
      .service (.done (.signed 2) true) trivial,
      .passAnswer,
      .wait 100]

/-- Even with one clock and all messages delivered once and in order, a device that finished in time
is fined when its message arrives late. -/
theorem not_justified_late_message :
    ¬∀ (w w' : World UInt64 UInt64 (Balances UInt64) (Balances UInt64))
      (action : Action UInt64 UInt64) (d : UInt64) (o : OrderOf UInt64 UInt64),
      InOrder twoChains w → action.fifo → Step twoChains w action w' →
      w'.clientNow = w'.serviceNow → Charged w action w' d o → Justified w d o := by
  intro h
  have hcharged : Charged doneInTimeLateMessage (.deliverAnswer 0)
      (doneInTimeLateMessage.move twoChains .passAnswer) 2 ⟨100, 7, 30, 1, 0⟩ :=
    ⟨.onDone 1 2 true, rfl, rfl, by decide, by decide, by decide⟩
  have hjustified := h doneInTimeLateMessage (doneInTimeLateMessage.move twoChains .passAnswer)
    (.deliverAnswer 0) 2 _ (inOrder_play (by decide)) rfl (World.passAnswer_step (by decide)) rfl
    hcharged
  exact absurd (hjustified.unfinished 50 (by decide)) (by decide)

end XcmAutoBank.System
