import XcmAutoBank.System.Agreement

/-!
# One live copy of each order

The messages name no order, only its client and its device, so they are safe only as long as there
is nothing to mix up.  As long as nobody cancels on the client chain this holds: of the orders for a
device one copy at most is under way, as a request in flight, stored on the service chain or closed
there by a message in flight, and it is a copy of the order the client chain stores for the device
(`oneCopy_of_run`).  Every other step may be taken: the service chain may cancel, reject or lose
orders, take orders of its own, and settlements may fail.
-/

namespace XcmAutoBank.System

open Relay (Item)

variable {A P LA LB : Type} [DecidableEq A] [Codec A] [Codec P]

/-! ### Copies -/

/-- A copy of an order: the request in flight, the order stored on the service chain, or the message
in flight that closes the order, which only names the client. -/
inductive Copy (AccountId Payload : Type) where
  | requested (client : AccountId) (order : OrderBaseOf AccountId Payload)
  | stored (order : OrderOf AccountId Payload)
  | closing (client : AccountId)
  deriving DecidableEq, Repr

/-- A copy is a copy of the order `o`: it names the client, and it has the deadline, the data and
the fee where it has them at all. -/
def Copy.Of (o : OrderOf A P) : Copy A P → Prop
  | .requested client b =>
    client = o.client ∧ b.untilTime = o.untilTime ∧ b.data = o.data ∧ b.fee = o.fee
  | .stored o' =>
    o'.client = o.client ∧ o'.untilTime = o.untilTime ∧ o'.data = o.data ∧ o'.fee = o.fee
  | .closing client => client = o.client

/-- The copy in a `NewOrder` message for a device. -/
def Request.copy (P : Type) [Codec P] (d : A) (r : Request A) : Option (Copy A P) :=
  match (readMessage r.data : Option (XCMPMessageOf A P)) with
  | some (.newOrder client order) =>
    if order.device = d then some (.requested client order) else none
  | _ => none

/-- The copy in an `OrderReject` or `OrderDone` message for a device. -/
def Answer.copy (d : A) (a : Answer A P) : Option (Copy A P) :=
  match (readMessage a.data : Option (XCMPMessageOf A P)) with
  | some (.orderReject client device _) | some (.orderDone client device _) =>
    if device = d then some (.closing client) else none
  | _ => none

/-- The order of the client chain that the service chain stores for a device. -/
def World.storedCopy (paras : Paras) (w : World A P LA LB) (d : A) : Option (Copy A P) :=
  match w.service.orders.lookup d with
  | some o => if o.paraid = paras.client then some (.stored o) else none
  | none => none

/-- The copies of orders for a device, wherever they are. -/
def World.copies (paras : Paras) (w : World A P LA LB) (d : A) : List (Copy A P) :=
  w.requests.filterMap (Request.copy P d) ++ (w.storedCopy paras d).toList ++
    w.answers.filterMap (Answer.copy d)

/-- A run of the two chains from any balances, with nothing stored or in flight at the start, in
which no order is cancelled on the client chain. -/
def Uncancelled [ReservableCurrency LA A] [ReservableCurrency LB A] (paras : Paras)
    (w : World A P LA LB) : Prop :=
  ∃ clientNow serviceNow clientLedger serviceLedger, Relation.ReflTransGen
    (fun w w' => ∃ action : Action A P,
      (∀ origin d, action ≠ .client (.cancel origin d)) ∧ Step paras w action w')
    (World.init clientNow serviceNow clientLedger serviceLedger) w

/-! ### Copies are items of the relay -/

section Items

variable {paras : Paras} {w : World A P LA LB} {d : A} {c : Copy A P}

/-- A request in flight is an item of the relay. -/
theorem Request.item_of_copy {r : Request A} (h : r.copy P d = some c) :
    ∃ i, r.item P d = some i ∧ ∀ o : OrderOf A P, i.2 = .ofOrder o d → c.Of o := by
  unfold Request.copy at h
  unfold Request.item
  cases hm : (readMessage r.data : Option (XCMPMessageOf A P)) with
  | none =>
    rw [hm] at h
    cases h
  | some m =>
    rw [hm] at h
    cases m with
    | newOrder client b =>
      dsimp only at h ⊢
      split_ifs at h with hd
      obtain rfl := Option.some.inj h
      refine ⟨_, if_pos hd, fun o ho => ?_⟩
      obtain ⟨rfl, rfl⟩ := Ticket.mk.inj ho
      exact ⟨rfl, rfl, rfl, rfl⟩
    | orderAccept client device => cases h
    | orderReject client device onoff => cases h
    | orderDone client device onoff => cases h

omit [Codec A] [Codec P] in
/-- An order of the client chain that the service chain stores is an item of the relay. -/
theorem heldItem_of_copy (h : w.storedCopy paras d = some c) :
    ∃ i, w.heldItem paras d = some i ∧ ∀ o : OrderOf A P, i.2 = .ofOrder o d → c.Of o := by
  unfold World.storedCopy at h
  unfold World.heldItem
  cases ho : w.service.orders.lookup d with
  | none =>
    rw [ho] at h
    cases h
  | some o' =>
    rw [ho] at h
    dsimp only at h ⊢
    split_ifs at h with hparaid
    obtain rfl := Option.some.inj h
    refine ⟨_, if_pos hparaid, fun o hticket => ?_⟩
    obtain ⟨hclient, horder⟩ := Ticket.mk.inj hticket
    obtain ⟨huntil, hdata, hfee, -⟩ := OrderBase.mk.inj horder
    exact ⟨hclient, huntil, hdata, hfee⟩

/-- A closing message names the client of the order it closes. -/
theorem Answer.settles_of_copy {a : Answer A P} (h : a.copy d = some c) :
    ∃ (client : A) (m : XCMPMessageOf A P), readMessage a.data = some m ∧
      Xchange.SettlesFor client d m ∧ c = .closing client := by
  unfold Answer.copy at h
  cases hm : (readMessage a.data : Option (XCMPMessageOf A P)) with
  | none =>
    rw [hm] at h
    cases h
  | some m =>
    rw [hm] at h
    cases m with
    | newOrder client b => cases h
    | orderAccept client device => cases h
    | orderReject client device onoff =>
      dsimp only at h
      split_ifs at h with hd
      subst hd
      exact ⟨client, _, rfl, .orderReject onoff, (Option.some.inj h).symm⟩
    | orderDone client device onoff =>
      dsimp only at h
      split_ifs at h with hd
      subst hd
      exact ⟨client, _, rfl, .orderDone onoff, (Option.some.inj h).symm⟩

/-- A closing message in flight is an item of the relay, the order that was removed. -/
theorem Answer.Labelled.item_of_copy {a : Answer A P} (hlabel : a.Labelled)
    (h : a.copy d = some c) :
    ∃ p, a.item d = some p ∧ ∀ o : OrderOf A P, p.1.2 = .ofOrder o d → c.Of o := by
  obtain ⟨client, m, hm, hsettles, rfl⟩ := Answer.settles_of_copy h
  obtain ⟨i, v, onoff, -, hitem, -, hclient⟩ := hlabel.item hm hsettles
  refine ⟨_, hitem, fun o ho => ?_⟩
  have hticket : i.2 = Ticket.ofOrder o d := ho
  rw [hticket] at hclient
  exact hclient.symm

omit [DecidableEq A] [Codec A] [Codec P] in
/-- A coarser selection selects no more. -/
theorem length_filterMap_le {α β γ : Type} {f : α → Option β} {g : α → Option γ} {l : List α}
    (h : ∀ x ∈ l, ∀ y, f x = some y → ∃ z, g x = some z) :
    (l.filterMap f).length ≤ (l.filterMap g).length := by
  rw [List.length_filterMap_eq_countP, List.length_filterMap_eq_countP]
  refine List.countP_mono_left fun x hx hf => ?_
  obtain ⟨y, hy⟩ := Option.isSome_iff_exists.mp hf
  obtain ⟨z, hz⟩ := h x hx y hy
  rw [hz]
  rfl

/-- There are no more copies than items of the relay. -/
theorem length_copies_le (hlabel : ∀ a ∈ w.answers, a.Labelled) :
    (w.copies paras d).length ≤ (w.view paras d).copies.length := by
  have hrequests : (w.requests.filterMap (Request.copy P d)).length ≤
      (w.requests.filterMap (Request.item P d)).length :=
    length_filterMap_le fun r _ c hc => (Request.item_of_copy hc).imp fun _ h => h.1
  have hanswers : (w.answers.filterMap (Answer.copy d)).length ≤
      (w.answers.filterMap (Answer.item d)).length :=
    length_filterMap_le fun a ha c hc => ((hlabel a ha).item_of_copy hc).imp fun _ h => h.1
  have hstored : (w.storedCopy paras d).toList.length ≤ (w.heldItem paras d).toList.length := by
    cases hc : w.storedCopy paras d with
    | none => exact Nat.zero_le _
    | some c =>
      obtain ⟨i, hi, -⟩ := heldItem_of_copy hc
      rw [hi]
      exact Nat.le_refl _
  simp only [World.copies, Relay.State.copies, World.view, List.length_append, List.length_map]
  omega

/-- A copy stands for an item of the relay. -/
theorem item_of_mem_copies (hlabel : ∀ a ∈ w.answers, a.Labelled) (h : c ∈ w.copies paras d) :
    ∃ i ∈ (w.view paras d).copies, ∀ o : OrderOf A P, i.2 = .ofOrder o d → c.Of o := by
  unfold World.copies at h
  unfold Relay.State.copies
  rcases List.mem_append.mp h with h | h
  · rcases List.mem_append.mp h with h | h
    · obtain ⟨r, hr, hc⟩ := List.mem_filterMap.mp h
      obtain ⟨i, hi, hof⟩ := Request.item_of_copy hc
      refine ⟨i, List.mem_append_left _ (List.mem_append_left _ ?_), hof⟩
      exact List.mem_filterMap.mpr ⟨r, hr, hi⟩
    · obtain ⟨i, hi, hof⟩ := heldItem_of_copy (Option.mem_toList.mp h)
      refine ⟨i, List.mem_append_left _ (List.mem_append_right _ ?_), hof⟩
      exact Option.mem_toList.mpr hi
  · obtain ⟨a, ha, hc⟩ := List.mem_filterMap.mp h
    obtain ⟨p, hp, hof⟩ := (hlabel a ha).item_of_copy hc
    refine ⟨p.1, List.mem_append_right _ (List.mem_map_of_mem ?_), hof⟩
    exact List.mem_filterMap.mpr ⟨a, ha, hp⟩

end Items

/-! ### Runs without a cancellation -/

section Runs

variable [ReservableCurrency LA A] [ReservableCurrency LB A] {paras : Paras}
  {w w' : World A P LA LB} {d : A}

omit [ReservableCurrency LA A] [ReservableCurrency LB A] in
/-- A client chain that keeps the order of a device has the same item open. -/
theorem issued_of_kept {s' : Xchange.State A P LA}
    (horder : d ∈ w.client.orders → s'.orders.lookup d = w.client.orders.lookup d)
    {i : Item (Ticket A P)} (hi : (w.view paras d).issued = some i) :
    ((w.afterClient paras s').view paras d).issued = some i := by
  obtain ⟨o, ho, rfl⟩ := Option.map_eq_some_iff.mp hi
  have hmem : d ∈ w.client.orders := Finmap.mem_of_lookup_eq_some ho
  have hplaced : (w.afterClient paras s').placed d = w.placed d := if_neg fun h => h.2 hmem
  have hlookup : (w.afterClient paras s').client.orders.lookup d = some o :=
    (horder hmem).trans ho
  exact Option.map_eq_some_iff.mpr ⟨o, hlookup, by rw [hplaced]⟩

variable (d) in
/-- Without a cancellation the client chain gives its order up for a closing message only. -/
theorem keeps_of_step {action : Action A P}
    (hcancel : ∀ origin x, action ≠ .client (.cancel origin x))
    (hlabel : ∀ a ∈ w.answers, a.Labelled) (h : Step paras w action w') :
    Relay.Keeps (w.view paras d) (w'.view paras d) := by
  intro i hi
  cases h with
  | clock => exact .inl hi
  | transfer => exact .inl hi
  | client env op hnow hop =>
    have hop' : ∀ origin x, op ≠ .cancel origin x := by
      rintro origin x rfl
      exact hcancel origin x rfl
    exact .inl (issued_of_kept (Xchange.order_kept_of_call hop hop') hi)
  | service env op hnow hop => exact .inl hi
  | deliverRequest env pre post r hnow hflight => exact .inl hi
  | loseRequest pre post r hflight => exact .inl hi
  | loseAnswer pre post a hflight => exact .inl hi
  | deliverAnswer env pre post a hnow hflight =>
    by_cases hkept : d ∈ w.client.orders →
        (handleAnswer paras env a.data w.client).orders.lookup d = w.client.orders.lookup d
    · exact .inl (issued_of_kept (w := { w with answers := pre ++ post }) hkept hi)
    · refine .inr ?_
      rw [Classical.not_imp] at hkept
      obtain ⟨hmem, hkept⟩ := hkept
      -- the order was removed, so the bytes close it
      have hgone : d ∉ (handleAnswer paras env a.data w.client).orders := by
        rcases (handleAnswer_cases paras env a.data w.client).2 d with hsame | hnone
        · exact absurd hsame hkept
        · exact Finmap.lookup_eq_none.mp hnone
      obtain ⟨client, m, hm, hsettles⟩ := settles_of_removed hmem hgone
      obtain ⟨j, v, onoff, -, hitem, -⟩ :=
        (hlabel a (by simp [hflight])).item hm hsettles
      rcases view_without_answer paras d hflight with
        ⟨hnone, -⟩ | ⟨p, pre', post', -, hanswers, herased⟩
      · rw [hitem] at hnone
        cases hnone
      · have hless : (pre' ++ post').length < (w.view paras d).answers.length := by
          rw [hanswers, List.length_append, List.length_append, List.length_cons]
          omega
        have hafter : (({ w with answers := pre ++ post }.afterClient paras
            (handleAnswer paras env a.data w.client)).view paras d).answers = pre' ++ post' :=
          congrArg Relay.State.answers herased
        rw [hafter]
        exact hless

variable [LawfulCodec A] [LawfulCodec P]

variable (d) in
/-- In every run without a cancellation one copy of an order is under way at most, for every device,
and what closes orders is labelled. -/
theorem single_of_uncancelled (h : Uncancelled paras w) :
    Relay.Single (w.view paras d) ∧ ∀ a ∈ w.answers, a.Labelled := by
  obtain ⟨clientNow, serviceNow, clientLedger, serviceLedger, hrun⟩ := h
  induction hrun with
  | refl =>
    refine ⟨?_, fun a ha => absurd ha List.not_mem_nil⟩
    rw [view_init]
    exact Relay.single_init
  | tail _ hstep ih =>
    obtain ⟨action, hcancel, hstep⟩ := hstep
    obtain ⟨hsingle, hlabel⟩ := ih
    exact ⟨(step_view hstep d).single (keeps_of_step d hcancel hlabel hstep) hsingle,
      labelled_step hstep hlabel⟩

/-- In every run without a cancellation on the client chain one copy of an order for a device is
under way at most: in flight to the service chain, stored there, or closed there by a message in
flight.  The client chain then stores an order for the device, and the copy is a copy of it. -/
theorem oneCopy_of_run (h : Uncancelled paras w) (d : A) :
    (w.copies paras d).length ≤ 1 ∧
      ∀ c ∈ w.copies paras d, ∃ o, w.client.orders.lookup d = some o ∧ c.Of o := by
  obtain ⟨hsingle, hlabel⟩ := single_of_uncancelled d h
  refine ⟨(length_copies_le hlabel).trans hsingle.length_le, fun c hc => ?_⟩
  obtain ⟨i, hi, hof⟩ := item_of_mem_copies hlabel hc
  obtain ⟨o, ho, rfl⟩ := Option.map_eq_some_iff.mp (hsingle.issued i hi)
  exact ⟨o, ho, hof o rfl⟩

end Runs

/-- Moves that do not cancel on the client chain make a run without a cancellation. -/
theorem uncancelled_play [ReservableCurrency LA A] [ReservableCurrency LB A] {paras : Paras}
    {w : World A P LA LB} {moves : List (Move A P)}
    (hmoves : ∀ m ∈ moves, ∀ origin d, m.action ≠ .client (.cancel origin d))
    (h : Uncancelled paras w) : Uncancelled paras (w.play paras moves) := by
  induction moves generalizing w with
  | nil => exact h
  | cons m moves ih =>
    refine ih (fun x hx => hmoves x (List.mem_cons_of_mem _ hx)) ?_
    rcases World.move_cases paras w m with hmove | hstep
    · rw [hmove]
      exact h
    · obtain ⟨clientNow, serviceNow, clientLedger, serviceLedger, hrun⟩ := h
      exact ⟨clientNow, serviceNow, clientLedger, serviceLedger,
        hrun.tail ⟨m.action, hmoves m List.mem_cons_self, hstep⟩⟩

/-- Device 2 registers on both chains, and an order for it is accepted and done. -/
def doneRemotely : World UInt64 UInt64 (Balances UInt64) (Balances UInt64) :=
  (World.init 0 0 (Balances.uniform 100) (Balances.uniform 100)).play twoChains
    [.client (.register (.signed 2) 2000 10 20 true) trivial,
      .service (.register (.signed 2) 10 20 true) trivial,
      .client (.order (.signed 1) ⟨100, 7, 30, 2⟩) trivial,
      .passRequest .busy,
      .service (.accept (.signed 2) false true) trivial,
      .service (.done (.signed 2) true) trivial]

/-- The one copy of the order is then the message that closes it, and it names the client. -/
theorem oneCopy_of_run_done :
    doneRemotely.copies twoChains 2 = [.closing 1] ∧ (doneRemotely.copies twoChains 2).length ≤ 1 ∧
      ∀ c ∈ doneRemotely.copies twoChains 2,
        ∃ o, doneRemotely.client.orders.lookup 2 = some o ∧ c.Of o := by
  refine ⟨by decide, oneCopy_of_run (uncancelled_play ?_ ⟨0, 0, _, _, .refl⟩) 2⟩
  simp [Move.action]

end XcmAutoBank.System
