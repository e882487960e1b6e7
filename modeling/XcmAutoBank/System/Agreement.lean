import XcmAutoBank.System.Simulation

/-!
# Agreement of the two chains

The messages that close an order name its client and its device and no order.  A message that was
overtaken by a `cancel`, a registration and a new order closes the new one
(`not_agreement_overtaken`).  An order that was stored while nothing for its device was under way
is safe from this in every run, whatever is lost or delivered out of order: the message that closes
it is about it (`removed_of_clear`).
-/

namespace XcmAutoBank.System

open Relay (Item)
open Xchange (SettlesFor)

variable {A P LA LB : Type} [DecidableEq A] [Codec A] [Codec P]

/-! ### What a message in flight is about -/

/-- A message that closes the order of a device was sent by a call that removed an order of the
client the message names. -/
def Answer.Labelled (a : Answer A P) : Prop :=
  ∀ (c d : A) (m : XCMPMessageOf A P), readMessage a.data = some m → SettlesFor c d m →
    ∃ i, a.removed d = some i ∧ i.2.client = c

/-- How a closing message settles its device. -/
theorem Answer.verdict_of_settles {a : Answer A P} {c d : A} {m : XCMPMessageOf A P}
    (hm : readMessage a.data = some m) (hsettles : SettlesFor c d m) :
    ∃ v onoff, m = v.message c d onoff ∧ a.verdict d = some v := by
  cases hsettles with
  | orderReject onoff => exact ⟨.reject, onoff, rfl, by simp [Answer.verdict, hm]⟩
  | orderDone onoff => exact ⟨.done, onoff, rfl, by simp [Answer.verdict, hm]⟩

omit [DecidableEq A] [Codec A] [Codec P] in
/-- A closing message settles the device it names for the client it names. -/
theorem settlesFor_message {v : Verdict} {c d client device : A} {onoff : Bool}
    (h : SettlesFor c d (v.message client device onoff : XCMPMessageOf A P)) :
    c = client ∧ d = device := by
  cases v with
  | reject =>
    cases h
    exact ⟨rfl, rfl⟩
  | done =>
    cases h
    exact ⟨rfl, rfl⟩

/-- A message that closes the order of a device is an item for the relay. -/
theorem Answer.Labelled.item {a : Answer A P} {c d : A} {m : XCMPMessageOf A P}
    (h : a.Labelled) (hm : readMessage a.data = some m) (hsettles : SettlesFor c d m) :
    ∃ i v onoff, m = v.message c d onoff ∧ a.item d = some (i, v, a.time) ∧ a.removed d = some i ∧
      i.2.client = c := by
  obtain ⟨i, hi, hclient⟩ := h c d m hm hsettles
  obtain ⟨v, onoff, hv, hverdict⟩ := Answer.verdict_of_settles hm hsettles
  refine ⟨i, v, onoff, hv, ?_, hi, hclient⟩
  simp only [Answer.item, hverdict, hi]

section Labels

variable [LawfulCodec A] [LawfulCodec P] {paras : Paras} {w w' : World A P LA LB}

omit [DecidableEq A] in
/-- An acceptance closes nothing. -/
theorem labelled_of_acceptances {ms sent : List Sent} {data : List UInt8} {dest : ParaId}
    {time : Moment} {removed : A → Option (Item (Ticket A P))}
    (haccept : Service.Acceptances A P ms) (hdata : data ∈ outgoing dest sent (sent ++ ms)) :
    (Answer.mk data time removed).Labelled := by
  obtain ⟨m, hm, rfl⟩ := mem_outgoing hdata
  obtain ⟨client, device, hmessage⟩ := haccept m hm
  intro c d x hx hsettles
  rw [hmessage] at hx
  change readMessage (Codec.encode (.orderAccept client device : XCMPMessageOf A P)) = some x at hx
  rw [readMessage_encode] at hx
  obtain rfl := Option.some.inj hx
  cases hsettles

/-- The messages of a dispatchable of the service chain are about the order it removed. -/
theorem labelled_of_effect {op : Service.Op A P} {s' : Service.State A P LB} {data : List UInt8}
    (h : Service.Effect paras.service op w.service s')
    (hdata : data ∈ outgoing paras.client w.service.sent s'.sent) :
    (Answer.mk data w.serviceNow
      fun d => if d ∈ s'.orders then none else w.heldItem paras d).Labelled := by
  cases h with
  | keeps ms hsent haccept horders =>
    rw [hsent] at hdata
    exact labelled_of_acceptances haccept hdata
  | stores x o ms hsent haccept hlocal hfresh horders =>
    rw [hsent] at hdata
    exact labelled_of_acceptances haccept hdata
  | closesLocal x o ho hlocal horders hsent =>
    rw [hsent, outgoing_self] at hdata
    cases hdata
  | closesRemote x o onoff result hdevice ho hremote horders hsent =>
    rw [hsent] at hdata
    rcases outgoing_singleton paras.client w.service.sent ⟨o.paraid, _, result⟩ with
      hout | ⟨hdest, hout⟩
    · rw [hout] at hdata
      cases hdata
    · rw [hout] at hdata
      obtain rfl := List.mem_singleton.mp hdata
      intro c d m hm hsettles
      change readMessage (Codec.encode (op.verdict.message o.client x onoff :
        XCMPMessageOf A P)) = some m at hm
      rw [readMessage_encode] at hm
      obtain rfl := Option.some.inj hm
      obtain ⟨rfl, rfl⟩ := settlesFor_message hsettles
      have hgone : d ∉ s'.orders := by simp [horders]
      have hclient : o.paraid = paras.client := hdest
      refine ⟨(w.held d, .ofOrder o d), ?_, rfl⟩
      simp [hgone, World.heldItem, ho, hclient]

/-- A step keeps all messages in flight about orders that were removed. -/
theorem labelled_step [ReservableCurrency LA A] [ReservableCurrency LB A] {action : Action A P}
    (h : Step paras w action w') (hw : ∀ a ∈ w.answers, a.Labelled) :
    ∀ a ∈ w'.answers, a.Labelled := by
  cases h with
  | clock => exact hw
  | transfer => exact hw
  | client => exact hw
  | service env op hnow hop =>
    intro a ha
    rcases List.mem_append.mp ha with ha | ha
    · exact hw a ha
    · obtain ⟨data, hdata, rfl⟩ := List.mem_map.mp ha
      exact labelled_of_effect (Service.effect_of_call hop) hdata
  | deliverRequest env pre post r hnow hflight =>
    intro a ha
    rcases List.mem_append.mp ha with ha | ha
    · exact hw a ha
    · obtain ⟨data, hdata, rfl⟩ := List.mem_map.mp ha
      rcases handleRequest_cases paras env r.data w.service with
        ⟨-, hsent⟩ | ⟨client, b, ms, -, -, -, hsent, haccept⟩
      · rw [hsent, outgoing_self] at hdata
        cases hdata
      · rw [hsent] at hdata
        exact labelled_of_acceptances haccept hdata
  | deliverAnswer env pre post a hnow hflight =>
    exact fun x hx => hw x (Relay.mem_of_mem_erased hflight hx)
  | loseRequest => exact hw
  | loseAnswer pre post a hflight =>
    exact fun x hx => hw x (Relay.mem_of_mem_erased hflight hx)

/-- In every run all closing messages in flight are about orders that were removed. -/
theorem labelled_of_reachable [ReservableCurrency LA A] [ReservableCurrency LB A]
    (h : Reachable paras w) : ∀ a ∈ w.answers, a.Labelled := by
  obtain ⟨clientNow, serviceNow, clientLedger, serviceLedger, hrun⟩ := h
  induction hrun with
  | refl => exact fun a ha => absurd ha List.not_mem_nil
  | tail _ hstep ih =>
    obtain ⟨action, hstep⟩ := hstep
    exact labelled_step hstep ih

end Labels

/-! ### Orders that messages close -/

section Agreement

variable [ReservableCurrency LA A] {paras : Paras} {w w' : World A P LA LB} {d : A}
  {o : OrderOf A P}

/-- Bytes that remove an order are a message that closes it. -/
theorem settles_of_removed {env : Env} {data : List UInt8} {s : Xchange.State A P LA}
    (hmem : d ∈ s.orders) (hgone : d ∉ (handleAnswer paras env data s).orders) :
    ∃ (c : A) (m : XCMPMessageOf A P), readMessage data = some m ∧ SettlesFor c d m := by
  unfold handleAnswer Xchange.handleXcmpMessages Xchange.handleXcmpMessages at hgone
  unfold readMessage
  cases hdata : (Codec.decode data : Option (XCMPMessageOf A P × List UInt8)) with
  | none =>
    simp only [hdata] at hgone
    exact absurd hmem hgone
  | some p =>
    obtain ⟨m, rest⟩ := p
    simp only [hdata] at hgone
    rcases Xchange.handleMessage_kept_or_gone env s m d with ⟨hkept, -⟩ | ⟨⟨c, hsettles⟩, -⟩
    · rw [← Finmap.lookup_eq_none] at hgone
      exact absurd hmem (Finmap.lookup_eq_none.mp (hkept.symm.trans hgone))
    · exact ⟨c, m, rfl, hsettles⟩

/-- A message that closes the order of a device is one the relay has in flight for it. -/
theorem answer_of_removed [ReservableCurrency LB A] [LawfulCodec A] [LawfulCodec P] {i : ℕ}
    (hw : Reachable paras w) (hstep : Step paras w (.deliverAnswer i) w')
    (hmem : d ∈ w.client.orders) (hgone : d ∉ w'.client.orders) :
    ∃ (a : Answer A P) (j : Item (Ticket A P)) (v : Verdict) (onoff : Bool),
      w.answers[i]? = some a ∧
      readMessage a.data = some (v.message j.2.client d onoff : XCMPMessageOf A P) ∧
      a.removed d = some j ∧ (j, v, a.time) ∈ (w.view paras d).answers := by
  cases hstep with
  | deliverAnswer env pre post a hnow hflight =>
    have ha : a ∈ w.answers := by simp [hflight]
    obtain ⟨c, m, hm, hsettles⟩ := settles_of_removed hmem hgone
    obtain ⟨j, v, onoff, rfl, hitem, hremoved, rfl⟩ :=
      (labelled_of_reachable hw a ha).item hm hsettles
    refine ⟨a, j, v, onoff, ?_, hm, hremoved, List.mem_filterMap.mpr ⟨a, ha, hitem⟩⟩
    simp [hflight]

/-- A message that closes an order on the client chain is about that order, when nothing was under
way for the device when the order was stored: it names the client of the order, and the call that
sent it removed the same order, with its client, deadline, data and fee, from the service chain. -/
theorem removed_of_clear [ReservableCurrency LB A] [LawfulCodec A] [LawfulCodec P] {i : ℕ}
    (hw : Reachable paras w) (hstep : Step paras w (.deliverAnswer i) w')
    (ho : w.client.orders.lookup d = some o) (hgone : d ∉ w'.client.orders)
    (hclear : w.clear d = true) :
    ∃ (a : Answer A P) (m : XCMPMessageOf A P), w.answers[i]? = some a ∧
      readMessage a.data = some m ∧ SettlesFor o.client d m ∧
      a.removed d = some (w.placed d, .ofOrder o d) := by
  obtain ⟨a, j, v, onoff, ha, hm, hremoved, hanswer⟩ :=
    answer_of_removed hw hstep (Finmap.mem_of_lookup_eq_some ho) hgone
  have hissued : (w.view paras d).issued = some (w.placed d, .ofOrder o d) := by
    simp [World.view, ho]
  obtain rfl : j = (w.placed d, .ofOrder o d) :=
    (invariant_of_reachable hw d).answer_eq hissued hclear hanswer
  refine ⟨a, _, ha, hm, ?_, hremoved⟩
  cases v with
  | reject => exact .orderReject onoff
  | done => exact .orderDone onoff

end Agreement

/-! ### A message that was overtaken -/

/-- Parachain 2001 is the client chain and parachain 2000 the service chain. -/
def twoChains : Paras := ⟨2001, 2000, by decide⟩

/-- Every account owns 100 on both chains, and device 2 has registered on both. -/
def registeredChains : World UInt64 UInt64 (Balances UInt64) (Balances UInt64) :=
  (World.init 0 0 (Balances.uniform 100) (Balances.uniform 100)).play twoChains
    [.client (.register (.signed 2) 2000 10 20 true) trivial,
      .service (.register (.signed 2) 10 20 true) trivial]

/-- What is played after the registrations is a run in order, over a transport that took all
messages. -/
theorem inOrder_play {moves : List (Move UInt64 UInt64)}
    (h : (∀ m ∈ (registeredChains.play twoChains moves).client.sent, m.accepted = true) ∧
      ∀ m ∈ (registeredChains.play twoChains moves).service.sent, m.accepted = true) :
    InOrder twoChains (registeredChains.play twoChains moves) :=
  ⟨⟨0, _, _, (World.play_ordered rfl _).trans (World.play_ordered rfl moves)⟩, h⟩

/-- An order is done in time, and the message that says so is the next one to be delivered. -/
def doneInTime : World UInt64 UInt64 (Balances UInt64) (Balances UInt64) :=
  registeredChains.play twoChains
    [.client (.order (.signed 1) ⟨100, 7, 30, 2⟩) trivial,
      .passRequest .busy,
      .service (.accept (.signed 2) false true) trivial,
      .passAnswer,
      .service (.done (.signed 2) true) trivial]

/-- The message that an order is done removes the order that was done. -/
theorem removed_of_clear_done :
    ∃ (a : Answer UInt64 UInt64) (m : XCMPMessageOf UInt64 UInt64),
      doneInTime.answers[0]? = some a ∧ readMessage a.data = some m ∧ SettlesFor 1 2 m ∧
      a.removed 2 = some (1, ⟨1, ⟨100, 7, 30, 2⟩⟩) :=
  removed_of_clear (o := ⟨100, 7, 30, 1, 0⟩) (inOrder_play (by decide)).reachable
    (World.passAnswer_step (by decide)) rfl (by decide) rfl

/-- A late order is cancelled, the device registers again and gets a second order; the service chain
then rejects the first. -/
def overtaken : World UInt64 UInt64 (Balances UInt64) (Balances UInt64) :=
  registeredChains.play twoChains
    [.client (.order (.signed 1) ⟨100, 7, 30, 2⟩) trivial,
      .passRequest .busy,
      .wait 100,
      .client (.cancel (.signed 1) 2) trivial,
      .client (.register (.signed 2) 2000 10 20 true) trivial,
      .client (.order (.signed 1) ⟨200, 8, 30, 2⟩) trivial,
      .service (.accept (.signed 2) true true) trivial]

/-- Even with one clock and all messages delivered once and in order, a message can close another
order than the one the service chain removed when it sent the message. -/
theorem not_agreement_overtaken :
    ¬∀ (w w' : World UInt64 UInt64 (Balances UInt64) (Balances UInt64)) (d : UInt64)
      (o : OrderOf UInt64 UInt64), InOrder twoChains w →
      Step twoChains w (.deliverAnswer 0) w' → w.client.orders.lookup d = some o →
      d ∉ w'.client.orders →
      ∃ (a : Answer UInt64 UInt64) (n : ℕ), w.answers[0]? = some a ∧
        a.removed d = some (n, .ofOrder o d) := by
  intro h
  obtain ⟨a, n, ha, hremoved⟩ := h overtaken (overtaken.move twoChains .passAnswer) 2
    ⟨200, 8, 30, 1, 0⟩ (inOrder_play (by decide)) (World.passAnswer_step (by decide)) rfl
    (by decide)
  have hfirst : overtaken.answers[0]?.map (fun a => a.removed 2) =
      some (some (1, ⟨1, ⟨100, 7, 30, 2⟩⟩)) := by decide
  rw [ha, Option.map_some, hremoved] at hfirst
  exact absurd hfirst (by simp [Ticket.ofOrder, Order.convert])

end XcmAutoBank.System
