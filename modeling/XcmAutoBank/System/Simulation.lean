import XcmAutoBank.System.World

/-!
# The two chains are a relay for every device

Seen from one device, a step of the world is a step of a relay (`step_view`): the client chain
issues an order, withdraws it or settles it, the service chain receives or answers it, a message is
lost, or nothing happens.  What the relay keeps is therefore kept by the two chains.
-/

namespace XcmAutoBank.System

open Relay (Item)

variable {A P LA LB : Type} [DecidableEq A] [Codec A] [Codec P]

/-! ### Messages in flight -/

/-- The messages of a call are those after the old ones. -/
theorem outgoing_append (dest : ParaId) (sent ms : List Sent) :
    outgoing dest sent (sent ++ ms) =
      (ms.filter fun m => m.accepted && decide (m.dest = dest)).map (·.message.call) := by
  rw [outgoing, List.drop_left]

/-- A call that hands over nothing sends nothing. -/
theorem outgoing_self (dest : ParaId) (sent : List Sent) : outgoing dest sent sent = [] := by
  rw [outgoing, List.drop_length]
  rfl

/-- What is sent are bytes that were handed over. -/
theorem mem_outgoing {dest : ParaId} {sent ms : List Sent} {data : List UInt8}
    (h : data ∈ outgoing dest sent (sent ++ ms)) : ∃ m ∈ ms, m.message.call = data := by
  rw [outgoing_append] at h
  obtain ⟨m, hm, hdata⟩ := List.mem_map.mp h
  exact ⟨m, List.mem_of_mem_filter hm, hdata⟩

/-- One message that is handed over is sent, or not. -/
theorem outgoing_singleton (dest : ParaId) (sent : List Sent) (m : Sent) :
    outgoing dest sent (sent ++ [m]) = [] ∨
      m.dest = dest ∧ outgoing dest sent (sent ++ [m]) = [m.message.call] := by
  rw [outgoing_append]
  by_cases hm : m.accepted = true ∧ m.dest = dest
  · obtain ⟨haccepted, hdest⟩ := hm
    exact .inr ⟨hdest, by simp [haccepted, hdest]⟩
  · refine .inl ?_
    simp only [List.filter_cons, List.filter_nil, List.map_eq_nil_iff]
    rw [if_neg]
    simpa using hm

omit [DecidableEq A] in
/-- The bytes of a message encode the message. -/
theorem readMessage_encode [LawfulCodec A] [LawfulCodec P] (m : XCMPMessageOf A P) :
    readMessage (Codec.encode m) = some m := by
  have hdecode := LawfulCodec.decode_encode m []
  rw [List.append_nil] at hdecode
  rw [readMessage, hdecode]
  rfl

/-- Messages that do not concern a device bring it nothing. -/
theorem items_eq_nil {α β : Type} {f : α → Option β} {g : List UInt8 → α} {dest : ParaId}
    {sent ms : List Sent} (h : ∀ m ∈ ms, f (g m.message.call) = none) :
    ((outgoing dest sent (sent ++ ms)).map g).filterMap f = [] := by
  rw [List.filterMap_eq_nil_iff]
  intro x hx
  obtain ⟨data, hdata, rfl⟩ := List.mem_map.mp hx
  obtain ⟨m, hm, rfl⟩ := mem_outgoing hdata
  exact h m hm

/-- What is taken out of a list is either not seen through a partial function, or taken out of what
is seen. -/
theorem filterMap_without {α β : Type} (f : α → Option β) (pre post : List α) (x : α) :
    (f x = none ∧ (pre ++ post).filterMap f = (pre ++ x :: post).filterMap f) ∨
      ∃ y pre' post', f x = some y ∧ (pre ++ x :: post).filterMap f = pre' ++ y :: post' ∧
        (pre ++ post).filterMap f = pre' ++ post' := by
  rw [List.filterMap_append, List.filterMap_append]
  cases hx : f x with
  | none => exact .inl ⟨rfl, by rw [List.filterMap_cons_none hx]⟩
  | some y => exact .inr ⟨y, _, _, rfl, by rw [List.filterMap_cons_some hx], rfl⟩

/-- The orders for a device that a call of the client chain sends. -/
def sentOrders (P : Type) [Codec P] (dest : ParaId) (placed : A → ℕ) (d : A)
    (sent sent' : List Sent) : List (Item (Ticket A P)) :=
  ((outgoing dest sent sent').map (Request.mk · placed)).filterMap (Request.item P d)

/-- The closed orders of a device that a call of the service chain sends. -/
def sentVerdicts (dest : ParaId) (time : Moment) (removed : A → Option (Item (Ticket A P))) (d : A)
    (sent sent' : List Sent) : List (Item (Ticket A P) × Verdict × Moment) :=
  ((outgoing dest sent sent').map (Answer.mk · time removed)).filterMap (Answer.item d)

/-- Bytes that are not a message bring no order. -/
theorem Request.item_of_quiet {d : A} {data : List UInt8} {placed : A → ℕ}
    (h : (Codec.decode data : Option (XCMPMessageOf A P × List UInt8)) = none) :
    Request.item P d ⟨data, placed⟩ = none := by
  simp [Request.item, readMessage, h]

/-- An answer that does not settle the order of a device brings it nothing. -/
theorem Answer.item_of_verdict {d : A} {a : Answer A P} (h : a.verdict d = none) :
    a.item d = none := by
  simp [Answer.item, h]

section Lawful

variable [LawfulCodec A] [LawfulCodec P]

/-- The bytes of a new order bring it to its device. -/
theorem Request.item_newOrder {d : A} {placed : A → ℕ} {client : A} {b : OrderBaseOf A P} :
    Request.item P d ⟨Codec.encode (.newOrder client b : XCMPMessageOf A P), placed⟩ =
      if b.device = d then some (placed d, ⟨client, b⟩) else none := by
  simp [Request.item, readMessage_encode]

/-- An acceptance settles nothing. -/
theorem Answer.item_accept {d client device : A} {time : Moment}
    {removed : A → Option (Item (Ticket A P))} :
    Answer.item d
      ⟨Codec.encode (.orderAccept client device : XCMPMessageOf A P), time, removed⟩ = none := by
  simp [Answer.item, Answer.verdict, readMessage_encode]

/-- The bytes of a closing message settle the order of their device. -/
theorem Answer.verdict_message {d client device : A} {v : Verdict} {onoff : Bool} {time : Moment}
    {removed : A → Option (Item (Ticket A P))} :
    Answer.verdict d
      ⟨Codec.encode (v.message client device onoff : XCMPMessageOf A P), time, removed⟩ =
      if device = d then some v else none := by
  cases v <;> simp [Answer.verdict, Verdict.message, readMessage_encode]

end Lawful

/-! ### Messages that leave -/

section Leaving

variable {paras : Paras} {w : World A P LA LB} {d : A}

variable (paras d) in
/-- A request that is taken out of flight is one the relay has in flight, or one it does not see. -/
theorem view_without_request {pre post : List (Request A)} {r : Request A}
    (hflight : w.requests = pre ++ r :: post) :
    (r.item P d = none ∧ ({ w with requests := pre ++ post }).view paras d = w.view paras d) ∨
      ∃ i pre' post', r.item P d = some i ∧ (w.view paras d).requests = pre' ++ i :: post' ∧
        ({ w with requests := pre ++ post }).view paras d =
          { w.view paras d with requests := pre' ++ post' } := by
  have hrequests : (w.view paras d).requests =
      (pre ++ r :: post).filterMap (Request.item P d) := congrArg _ hflight
  rcases filterMap_without (Request.item P d) pre post r with
    ⟨hitem, hsame⟩ | ⟨i, pre', post', hitem, hseen, herased⟩
  · exact .inl ⟨hitem, Relay.State.ext rfl rfl rfl (hsame.trans hrequests.symm) rfl rfl rfl rfl⟩
  · exact .inr ⟨i, pre', post', hitem, hrequests.trans hseen,
      Relay.State.ext rfl rfl rfl herased rfl rfl rfl rfl⟩

variable (paras d) in
/-- An answer that is taken out of flight is one the relay has in flight, or one it does not see. -/
theorem view_without_answer {pre post : List (Answer A P)} {a : Answer A P}
    (hflight : w.answers = pre ++ a :: post) :
    (a.item d = none ∧ ({ w with answers := pre ++ post }).view paras d = w.view paras d) ∨
      ∃ p pre' post', a.item d = some p ∧ (w.view paras d).answers = pre' ++ p :: post' ∧
        ({ w with answers := pre ++ post }).view paras d =
          { w.view paras d with answers := pre' ++ post' } := by
  have hanswers : (w.view paras d).answers =
      (pre ++ a :: post).filterMap (Answer.item d) := congrArg _ hflight
  rcases filterMap_without (Answer.item d) pre post a with
    ⟨hitem, hsame⟩ | ⟨p, pre', post', hitem, hseen, herased⟩
  · exact .inl ⟨hitem, Relay.State.ext rfl rfl rfl rfl rfl (hsame.trans hanswers.symm) rfl rfl⟩
  · exact .inr ⟨p, pre', post', hitem, hanswers.trans hseen,
      Relay.State.ext rfl rfl rfl rfl rfl herased rfl rfl⟩

/-- A lost request is lost for the relay, or not seen. -/
theorem step_loseRequest {pre post : List (Request A)} {r : Request A}
    (hflight : w.requests = pre ++ r :: post) :
    Relay.Step (w.view paras d) (({ w with requests := pre ++ post }).view paras d) := by
  rcases view_without_request paras d hflight with
    ⟨-, hview⟩ | ⟨i, pre', post', -, hrequests, hview⟩
  · rw [hview]
    exact .idle _
  · rw [hview]
    exact .loseRequest _ _ _ i hrequests

/-- A lost answer is lost for the relay, or not seen. -/
theorem step_loseAnswer {pre post : List (Answer A P)} {a : Answer A P}
    (hflight : w.answers = pre ++ a :: post) :
    Relay.Step (w.view paras d) (({ w with answers := pre ++ post }).view paras d) := by
  rcases view_without_answer paras d hflight with ⟨-, hview⟩ | ⟨p, pre', post', -, hanswers, hview⟩
  · rw [hview]
    exact .idle _
  · rw [hview]
    exact .loseAnswer _ _ _ p hanswers

end Leaving

/-! ### The client chain -/

section Client

variable {paras : Paras} {w : World A P LA LB} {s' : Xchange.State A P LA} {d : A}

/-- A device that keeps its order and gets no request looks the same to the relay; one that loses
its order sees it withdrawn. -/
theorem view_afterClient_of_kept
    (horder : s'.orders.lookup d = w.client.orders.lookup d ∨ s'.orders.lookup d = none)
    (hquiet : ∀ placed, sentOrders P paras.service placed d w.client.sent s'.sent = []) :
    (w.afterClient paras s').view paras d = w.view paras d ∨
      (w.afterClient paras s').view paras d = { w.view paras d with issued := none } := by
  have hnew : ¬(d ∈ s'.orders ∧ d ∉ w.client.orders) := by
    rintro ⟨hmem, hfresh⟩
    rw [← Finmap.lookup_eq_none] at hfresh
    obtain ⟨o, ho⟩ := Finmap.mem_iff.mp hmem
    rcases horder with heq | heq
    · rw [heq, hfresh] at ho
      cases ho
    · rw [heq] at ho
      cases ho
  have hrequests : (w.afterClient paras s').requests.filterMap (Request.item P d) =
      w.requests.filterMap (Request.item P d) := by
    rw [World.afterClient, List.filterMap_append]
    exact (congrArg _ (hquiet _)).trans (List.append_nil _)
  rcases horder with heq | heq
  · refine .inl (Relay.State.ext (if_neg hnew) ?_ (if_neg hnew) hrequests rfl rfl rfl rfl)
    simp [World.view, World.afterClient, heq, hnew]
  · refine .inr (Relay.State.ext (if_neg hnew) ?_ (if_neg hnew) hrequests rfl rfl rfl rfl)
    simp [World.view, World.afterClient, heq]

/-- Nothing under way is nothing the relay counts. -/
theorem quiet_of_not_underWay (h : w.underWay paras d = false) : (w.view paras d).Quiet := by
  rw [World.underWay, Bool.or_eq_false_iff, Bool.or_eq_false_iff] at h
  obtain ⟨⟨hrequests, hheld⟩, hanswers⟩ := h
  have hrequest : w.requests.filterMap (Request.item P d) = [] := by
    rw [List.filterMap_eq_nil_iff]
    intro r hr
    simpa using List.any_eq_false.mp hrequests r hr
  have hanswer : w.answers.filterMap (Answer.item d) = [] := by
    rw [List.filterMap_eq_nil_iff]
    intro a ha
    have hverdict : a.verdict d = none := by simpa using List.any_eq_false.mp hanswers a ha
    exact Answer.item_of_verdict hverdict
  have hnone : w.heldItem paras d = none := by simpa using hheld
  exact ⟨hrequest, hnone, hanswer⟩

/-- The client chain stores an order for the device and sends it. -/
theorem step_places [LawfulCodec A] [LawfulCodec P] {who : A} {b : OrderBaseOf A P}
    {dest : ParaId} {result : Except SendError Unit} (hfresh : b.device ∉ w.client.orders)
    (horders : s'.orders = w.client.orders.insert b.device (b.convert who))
    (hsent : s'.sent = w.client.sent ++
      [⟨dest, Xcm.transact (Codec.encode (.newOrder who b : XCMPMessageOf A P)), result⟩]) :
    Relay.Step (w.view paras b.device) ((w.afterClient paras s').view paras b.device) := by
  have hopen : (w.view paras b.device).issued = none := by
    simp [World.view, Finmap.lookup_eq_none.mpr hfresh]
  have hnew : b.device ∈ s'.orders ∧ b.device ∉ w.client.orders := by
    rw [horders]
    exact ⟨Finmap.mem_insert.mpr (.inl rfl), hfresh⟩
  let placed : A → ℕ := fun d =>
    if d ∈ s'.orders ∧ d ∉ w.client.orders then w.placed d + 1 else w.placed d
  have hplaced : placed b.device = w.placed b.device + 1 := if_pos hnew
  have hitems : Relay.Sent (w.placed b.device + 1, (⟨who, b⟩ : Ticket A P))
      (sentOrders P paras.service placed b.device w.client.sent s'.sent) := by
    rw [hsent, sentOrders]
    rcases outgoing_singleton paras.service w.client.sent ⟨dest, _, result⟩ with hout | ⟨-, hout⟩
    · rw [hout]
      exact .inl rfl
    · rw [hout, ← hplaced]
      refine .inr ?_
      have hitem : Request.item P b.device
          ⟨Codec.encode (.newOrder who b : XCMPMessageOf A P), placed⟩ =
            some (placed b.device, ⟨who, b⟩) := Request.item_newOrder.trans (if_pos rfl)
      exact List.filterMap_cons_some hitem
  have hclear : (!w.underWay paras b.device) = true → (w.view paras b.device).Quiet := by
    intro h
    exact quiet_of_not_underWay (by simpa using h)
  have hstep := Relay.Step.issue (w.view paras b.device) ⟨who, b⟩ (!w.underWay paras b.device) _
    hopen hclear hitems
  have hview : (w.afterClient paras s').view paras b.device = { w.view paras b.device with
      count := w.placed b.device + 1
      issued := some (w.placed b.device + 1, ⟨who, b⟩)
      clear := !w.underWay paras b.device
      requests := (w.view paras b.device).requests ++
        sentOrders P paras.service placed b.device w.client.sent s'.sent } := by
    refine Relay.State.ext (if_pos hnew) ?_ (if_pos hnew) (List.filterMap_append ..) rfl rfl rfl rfl
    have hlookup : s'.orders.lookup b.device = some (b.convert who) := by
      rw [horders, Finmap.lookup_insert]
    have hcount : (w.afterClient paras s').placed b.device = w.placed b.device + 1 := if_pos hnew
    change (s'.orders.lookup b.device).map
      (fun o => ((w.afterClient paras s').placed b.device, Ticket.ofOrder o b.device)) = _
    rw [hlookup, hcount]
    rfl
  rw [hview]
  exact hstep

/-- A dispatchable of the client chain issues an order, withdraws one or does nothing. -/
theorem step_client [ReservableCurrency LA A] [LawfulCodec A] [LawfulCodec P]
    (h : Xchange.Effect w.client s') :
    Relay.Step (w.view paras d) ((w.afterClient paras s').view paras d) := by
  cases h with
  | keeps ms hsent hquiet horders =>
    have hnone : ∀ placed, sentOrders P paras.service placed d w.client.sent s'.sent = [] := by
      intro placed
      rw [hsent]
      exact items_eq_nil fun m hm => Request.item_of_quiet (hquiet m hm)
    rcases view_afterClient_of_kept (horders d) hnone with hview | hview
    · rw [hview]
      exact .idle _
    · rw [hview]
      exact .withdraw _
  | places who b dest result hfresh horders hsent =>
    by_cases hd : d = b.device
    · subst hd
      exact step_places hfresh horders hsent
    · have hnone : ∀ placed, sentOrders P paras.service placed d w.client.sent s'.sent = [] := by
        intro placed
        rw [hsent]
        refine items_eq_nil fun m hm => ?_
        rw [List.mem_singleton.mp hm]
        exact Request.item_newOrder.trans (if_neg (Ne.symm hd))
      have hkept : s'.orders.lookup d = w.client.orders.lookup d := by
        rw [horders, Finmap.lookup_insert_of_ne _ hd]
      rcases view_afterClient_of_kept (.inl hkept) hnone with hview | hview
      · rw [hview]
        exact .idle _
      · rw [hview]
        exact .withdraw _

variable (paras) in
/-- Handling bytes sends nothing and keeps or removes the order of a device. -/
theorem handleAnswer_cases [ReservableCurrency LA A] (env : Env) (data : List UInt8)
    (s : Xchange.State A P LA) :
    (handleAnswer paras env data s).sent = s.sent ∧ ∀ d,
      (handleAnswer paras env data s).orders.lookup d = s.orders.lookup d ∨
        (handleAnswer paras env data s).orders.lookup d = none := by
  unfold handleAnswer Xchange.handleXcmpMessages Xchange.handleXcmpMessages
  cases (Codec.decode data : Option (XCMPMessageOf A P × List UInt8)) with
  | none => exact ⟨rfl, fun d => .inl rfl⟩
  | some p =>
    obtain ⟨m, rest⟩ := p
    refine ⟨(Xchange.handleMessage_cases env s m).1, fun d => ?_⟩
    rcases Xchange.handleMessage_kept_or_gone env s m d with ⟨hkept, -⟩ | ⟨-, hgone⟩
    · exact .inl hkept
    · exact .inr (Finmap.lookup_eq_none.mpr hgone)

/-- A message from the service chain settles the open order, or is as good as lost. -/
theorem step_deliverAnswer [ReservableCurrency LA A] (env : Env) {pre post : List (Answer A P)}
    {a : Answer A P} (hflight : w.answers = pre ++ a :: post) :
    Relay.Step (w.view paras d) (({ w with answers := pre ++ post }.afterClient paras
      (handleAnswer paras env a.data w.client)).view paras d) := by
  obtain ⟨hsent, horders⟩ := handleAnswer_cases paras env a.data w.client
  have hquiet : ∀ placed, sentOrders P paras.service placed d w.client.sent
      (handleAnswer paras env a.data w.client).sent = [] := by
    intro placed
    rw [hsent, sentOrders, outgoing_self]
    rfl
  let erased : World A P LA LB := { w with answers := pre ++ post }
  have hkept : (erased.afterClient paras (handleAnswer paras env a.data w.client)).view paras d =
        erased.view paras d ∨
      (erased.afterClient paras (handleAnswer paras env a.data w.client)).view paras d =
        { erased.view paras d with issued := none } :=
    view_afterClient_of_kept (horders d) hquiet
  rcases view_without_answer paras d hflight with
    ⟨-, hsame⟩ | ⟨p, pre', post', -, hanswers, herased⟩
  · rcases hkept with hview | hview
    · rw [hview, hsame]
      exact .idle _
    · rw [hview, hsame]
      exact .withdraw _
  · rcases hkept with hview | hview
    · rw [hview, herased]
      exact .loseAnswer _ _ _ p hanswers
    · rw [hview, herased]
      exact .settle _ _ _ p hanswers

end Client

/-! ### The service chain -/

section Service

variable {paras : Paras} {w : World A P LA LB} {s' : Service.State A P LB} {d : A}

omit [Codec A] [Codec P] in
/-- A device that keeps its order on the service chain keeps the item it stands for. -/
theorem heldItem_afterService {held : A → ℕ} {records : List (Record A P)}
    (horder : s'.orders.lookup d = w.service.orders.lookup d) (hheld : held d = w.held d) :
    (w.afterService paras s' held records).heldItem paras d = w.heldItem paras d := by
  simp [World.heldItem, World.afterService, horder, hheld]

omit [Codec A] [Codec P] in
/-- A device whose order is not of the client chain holds no item. -/
theorem heldItem_eq_none (h : ∀ o, w.service.orders.lookup d = some o → o.paraid ≠ paras.client) :
    w.heldItem paras d = none := by
  unfold World.heldItem
  cases ho : w.service.orders.lookup d with
  | none => rfl
  | some o => exact if_neg (h o ho)

omit [Codec A] [Codec P] in
/-- The item a device holds is for that device. -/
theorem heldItem_device {i : Item (Ticket A P)} (h : w.heldItem paras d = some i) :
    i.2.order.device = d := by
  unfold World.heldItem at h
  split at h
  · split_ifs at h
    rw [← Option.some.inj h]
    rfl
  · cases h

omit [Codec A] [Codec P] in
/-- A device that holds an item has an order on the service chain. -/
theorem mem_orders_of_heldItem {i : Item (Ticket A P)} (h : w.heldItem paras d = some i) :
    d ∈ w.service.orders := by
  unfold World.heldItem at h
  cases ho : w.service.orders.lookup d with
  | none =>
    rw [ho] at h
    cases h
  | some o => exact Finmap.mem_of_lookup_eq_some ho

/-- A device whose item, messages and record stay looks the same to the relay. -/
theorem view_afterService_of_kept {held : A → ℕ} {records : List (Record A P)}
    (hheld : (w.afterService paras s' held records).heldItem paras d = w.heldItem paras d)
    (hquiet : ∀ removed : A → Option (Item (Ticket A P)),
      sentVerdicts paras.client w.serviceNow removed d w.service.sent s'.sent = [])
    (hrecords : ∀ r ∈ records, r.device ≠ d) :
    (w.afterService paras s' held records).view paras d = w.view paras d := by
  have hold : ∀ r : Record A P, r.device = d → (r ∈ w.history ++ records ↔ r ∈ w.history) := by
    intro r hr
    refine ⟨fun hmem => ?_, fun hmem => List.mem_append_left _ hmem⟩
    rcases List.mem_append.mp hmem with hmem | hmem
    · exact hmem
    · exact absurd hr (hrecords r hmem)
  refine Relay.State.ext rfl rfl rfl rfl hheld ?_ ?_ ?_
  · change (w.answers ++ _).filterMap _ = _
    rw [List.filterMap_append]
    exact (congrArg _ (hquiet _)).trans (List.append_nil _)
  · ext i
    exact and_congr_right fun hi => hold (.stored i) hi
  · ext p
    exact and_congr_right fun hp => hold (.closed p.1 p.2.1 p.2.2) hp

omit [Codec A] [Codec P] in
/-- A dispatchable only records what became of the order of its device. -/
theorem closedRecords_device {op : Service.Op A P} {r : Record A P}
    (h : r ∈ w.closedRecords paras op s') : op.device = some r.device := by
  unfold World.closedRecords at h
  cases hdevice : op.device with
  | none => simp [hdevice] at h
  | some x =>
    cases hi : w.heldItem paras x with
    | none => simp [hdevice, hi] at h
    | some i =>
      simp only [hdevice, hi] at h
      split_ifs at h
      · cases h
      · rw [List.mem_singleton.mp h]
        exact congrArg some (heldItem_device hi).symm

omit [Codec A] [Codec P] in
/-- A dispatchable that keeps the item of every device has nothing to record. -/
theorem closedRecords_eq_nil {op : Service.Op A P}
    (h : ∀ d i, w.heldItem paras d = some i → d ∈ s'.orders) :
    w.closedRecords paras op s' = [] := by
  unfold World.closedRecords
  cases op.device with
  | none => rfl
  | some x =>
    cases hi : w.heldItem paras x with
    | none => simp only [hi]
    | some i => simp only [hi, if_pos (h x i hi)]

/-- The loss of an order that is not of the client chain does not concern the relay. -/
theorem view_afterService_of_erased {op : Service.Op A P} {x : A}
    (h : ∀ o, w.service.orders.lookup x = some o → o.paraid ≠ paras.client)
    (horders : s'.orders = w.service.orders.erase x)
    (hquiet : ∀ removed : A → Option (Item (Ticket A P)),
      sentVerdicts paras.client w.serviceNow removed d w.service.sent s'.sent = []) :
    (w.afterService paras s' w.held (w.closedRecords paras op s')).view paras d =
      w.view paras d := by
  have hrecords : w.closedRecords paras op s' = [] := by
    refine closedRecords_eq_nil fun y i hi => ?_
    have hyx : y ≠ x := by
      rintro rfl
      rw [heldItem_eq_none h] at hi
      cases hi
    rw [horders]
    exact Finmap.mem_erase.mpr ⟨hyx, mem_orders_of_heldItem hi⟩
  refine view_afterService_of_kept ?_ hquiet (by simp [hrecords])
  by_cases hd : d = x
  · subst hd
    rw [heldItem_eq_none h]
    refine heldItem_eq_none fun o ho => ?_
    change s'.orders.lookup d = some o at ho
    rw [horders, Finmap.lookup_erase] at ho
    cases ho
  · exact heldItem_afterService (by rw [horders, Finmap.lookup_erase_ne hd]) rfl

/-- Acceptances settle nothing. -/
theorem quiet_of_acceptances [LawfulCodec A] [LawfulCodec P] {ms : List Sent}
    (h : Service.Acceptances A P ms) (sent : List Sent) (time : Moment)
    (removed : A → Option (Item (Ticket A P))) :
    sentVerdicts paras.client time removed d sent (sent ++ ms) = [] := by
  refine items_eq_nil fun m hm => ?_
  obtain ⟨client, device, hmessage⟩ := h m hm
  rw [hmessage]
  exact Answer.item_accept

variable [LawfulCodec A] [LawfulCodec P]

/-- The service chain closes the order of the device and answers. -/
theorem step_closes {op : Service.Op A P} {o : OrderOf A P} {onoff : Bool}
    {result : Except SendError Unit} (hdevice : op.device = some d)
    (ho : w.service.orders.lookup d = some o) (hclient : o.paraid = paras.client)
    (horders : s'.orders = w.service.orders.erase d)
    (hsent : s'.sent = w.service.sent ++ [⟨o.paraid, Xcm.transact (Codec.encode
      (op.verdict.message o.client d onoff : XCMPMessageOf A P)), result⟩]) :
    Relay.Step (w.view paras d)
      ((w.afterService paras s' w.held (w.closedRecords paras op s')).view paras d) := by
  have hheld : w.heldItem paras d = some (w.held d, .ofOrder o d) := by
    simp [World.heldItem, ho, hclient]
  have hgone : d ∉ s'.orders := by simp [horders]
  have hrecords : w.closedRecords paras op s' =
      [.closed (w.held d, .ofOrder o d) op.verdict w.serviceNow] := by
    simp [World.closedRecords, hdevice, hheld, hgone]
  let removed : A → Option (Item (Ticket A P)) := fun d =>
    if d ∈ s'.orders then none else w.heldItem paras d
  have hremoved : removed d = some (w.held d, .ofOrder o d) := (if_neg hgone).trans hheld
  have hitems : Relay.Sent ((w.held d, Ticket.ofOrder o d), op.verdict, w.serviceNow)
      (sentVerdicts paras.client w.serviceNow removed d w.service.sent s'.sent) := by
    rw [hsent, sentVerdicts]
    rcases outgoing_singleton paras.client w.service.sent ⟨o.paraid, _, result⟩ with
      hout | ⟨-, hout⟩
    · rw [hout]
      exact .inl rfl
    · rw [hout]
      refine .inr (List.filterMap_cons_some ?_)
      have hverdict : Answer.verdict d (⟨Codec.encode (op.verdict.message o.client d onoff :
          XCMPMessageOf A P), w.serviceNow, removed⟩ : Answer A P) = some op.verdict :=
        Answer.verdict_message.trans (if_pos rfl)
      change Answer.item d (⟨Codec.encode (op.verdict.message o.client d onoff :
          XCMPMessageOf A P), w.serviceNow, removed⟩ : Answer A P) = _
      simp only [Answer.item, hverdict, hremoved]
  have hstep := Relay.Step.answer (w.view paras d) _ (op.verdict, w.serviceNow) _ hheld hitems
  have hview : (w.afterService paras s' w.held (w.closedRecords paras op s')).view paras d =
      { w.view paras d with
        held := none
        answers := (w.view paras d).answers ++
          sentVerdicts paras.client w.serviceNow removed d w.service.sent s'.sent
        answered := insert ((w.held d, .ofOrder o d), op.verdict, w.serviceNow)
          (w.view paras d).answered } := by
    refine Relay.State.ext rfl rfl rfl rfl ?_ (List.filterMap_append ..) ?_ ?_
    · simp [World.view, World.heldItem, World.afterService, horders]
    · ext i
      simp [World.view, World.afterService, hrecords]
    · ext p
      have hdev : (Ticket.ofOrder o d).order.device = d := rfl
      obtain ⟨i, v, time⟩ := p
      simp only [World.view, World.afterService, hrecords, List.mem_append, List.mem_singleton,
        Set.mem_ofPred_eq, Set.mem_insert_iff, Record.closed.injEq, Prod.mk.injEq]
      constructor
      · rintro ⟨hi, hmem | hnew⟩
        · exact .inr ⟨hi, hmem⟩
        · exact .inl hnew
      · rintro (⟨rfl, rfl, rfl⟩ | ⟨hi, hmem⟩)
        · exact ⟨hdev, .inr ⟨rfl, rfl, rfl⟩⟩
        · exact ⟨hi, .inl hmem⟩
  rw [hview]
  exact hstep

/-- A dispatchable of the service chain answers an item or does nothing. -/
theorem step_service {op : Service.Op A P} (h : Service.Effect paras.service op w.service s') :
    Relay.Step (w.view paras d)
      ((w.afterService paras s' w.held (w.closedRecords paras op s')).view paras d) := by
  cases h with
  | keeps ms hsent haccept horders =>
    have hrecords : w.closedRecords paras op s' = [] := by
      refine closedRecords_eq_nil fun x i hi => ?_
      rw [horders]
      exact mem_orders_of_heldItem hi
    rw [view_afterService_of_kept (heldItem_afterService (by rw [horders]) rfl)]
    · exact .idle _
    · intro removed
      rw [hsent]
      exact quiet_of_acceptances haccept _ _ removed
    · simp [hrecords]
  | stores x o ms hsent haccept hlocal hfresh horders =>
    have hrecords : w.closedRecords paras op s' = [] := by
      refine closedRecords_eq_nil fun y i hi => ?_
      rw [horders]
      exact Finmap.mem_insert.mpr (.inr (mem_orders_of_heldItem hi))
    have hheld : (w.afterService paras s' w.held (w.closedRecords paras op s')).heldItem paras d =
        w.heldItem paras d := by
      by_cases hd : d = x
      · subst hd
        rw [heldItem_eq_none, heldItem_eq_none]
        · intro o' ho'
          rw [Finmap.lookup_eq_none.mpr hfresh] at ho'
          cases ho'
        · intro o' ho'
          change s'.orders.lookup d = some o' at ho'
          rw [horders, Finmap.lookup_insert] at ho'
          rw [← Option.some.inj ho', hlocal]
          exact paras.distinct.symm
      · exact heldItem_afterService (by rw [horders, Finmap.lookup_insert_of_ne _ hd]) rfl
    rw [view_afterService_of_kept hheld]
    · exact .idle _
    · intro removed
      rw [hsent]
      exact quiet_of_acceptances haccept _ _ removed
    · simp [hrecords]
  | closesLocal x o ho hlocal horders hsent =>
    have hlocal' : ∀ o', w.service.orders.lookup x = some o' → o'.paraid ≠ paras.client := by
      intro o' ho'
      rw [ho] at ho'
      rw [← Option.some.inj ho', hlocal]
      exact paras.distinct.symm
    rw [view_afterService_of_erased hlocal' horders]
    · exact .idle _
    · intro removed
      rw [hsent, sentVerdicts, outgoing_self]
      rfl
  | closesRemote x o onoff result hdevice ho hremote horders hsent =>
    by_cases hclient : o.paraid = paras.client
    · by_cases hd : d = x
      · subst hd
        exact step_closes hdevice ho hclient horders hsent
      · have hheld : (w.afterService paras s' w.held (w.closedRecords paras op s')).heldItem paras
            d = w.heldItem paras d :=
          heldItem_afterService (by rw [horders, Finmap.lookup_erase_ne hd]) rfl
        rw [view_afterService_of_kept hheld]
        · exact .idle _
        · intro removed
          rw [hsent]
          refine items_eq_nil fun m hm => ?_
          rw [List.mem_singleton.mp hm]
          exact Answer.item_of_verdict (Answer.verdict_message.trans (if_neg (Ne.symm hd)))
        · intro r hr hrd
          have hr := closedRecords_device hr
          rw [hdevice, hrd] at hr
          exact hd (Option.some.inj hr).symm
    · have hforeign : ∀ o', w.service.orders.lookup x = some o' → o'.paraid ≠ paras.client := by
        intro o' ho'
        rw [ho] at ho'
        rwa [← Option.some.inj ho']
      rw [view_afterService_of_erased hforeign horders]
      · exact .idle _
      · intro removed
        rw [hsent, sentVerdicts]
        rcases outgoing_singleton paras.client w.service.sent ⟨o.paraid, _, result⟩ with
          hout | ⟨hdest, -⟩
        · rw [hout]
          rfl
        · exact absurd hdest hclient

omit [LawfulCodec A] [LawfulCodec P] in
variable (paras) in
/-- Handling bytes keeps orders and messages, or stores the order the bytes bring. -/
theorem handleRequest_cases [ReservableCurrency LB A] (env : Service.ServiceEnv A P)
    (data : List UInt8) (s : Service.State A P LB) :
    ((handleRequest paras env data s).orders = s.orders ∧
      (handleRequest paras env data s).sent = s.sent) ∨
    ∃ (client : A) (b : OrderBaseOf A P) (ms : List Sent),
      readMessage data = some (.newOrder client b) ∧ b.device ∉ s.orders ∧
      (handleRequest paras env data s).orders =
        s.orders.insert b.device (Service.receivedOrder b paras.client client) ∧
      (handleRequest paras env data s).sent = s.sent ++ ms ∧ Service.Acceptances A P ms := by
  unfold handleRequest Service.handleXcmpMessages Service.handleXcmpMessages readMessage
  cases (Codec.decode data : Option (XCMPMessageOf A P × List UInt8)) with
  | none => exact .inl ⟨rfl, rfl⟩
  | some p =>
    obtain ⟨m, rest⟩ := p
    cases m with
    | newOrder client b =>
      rcases Service.orderReceived_cases paras.service env s b.device
        (Service.receivedOrder b paras.client client) with hkept | ⟨hfresh, horders, ms, hms⟩
      · exact .inl hkept
      · exact .inr ⟨client, b, ms, rfl, hfresh, horders, hms⟩
    | orderAccept client device => exact .inl ⟨rfl, rfl⟩
    | orderReject client device onoff => exact .inl ⟨rfl, rfl⟩
    | orderDone client device onoff => exact .inl ⟨rfl, rfl⟩

/-- An order of the client chain that the service chain stores is received by the relay. -/
theorem step_stores {pre post : List (Request A)} {r : Request A} {client : A}
    {b : OrderBaseOf A P} {ms : List Sent} (hflight : w.requests = pre ++ r :: post)
    (hdata : readMessage r.data = some (.newOrder client b)) (hfresh : b.device ∉ w.service.orders)
    (horders : s'.orders =
      w.service.orders.insert b.device (Service.receivedOrder b paras.client client))
    (hsent : s'.sent = w.service.sent ++ ms) (haccept : Service.Acceptances A P ms) :
    Relay.Step (w.view paras d) (({ w with requests := pre ++ post }.afterService paras s'
      (w.heldAfter r s') (w.storedRecords r s')).view paras d) := by
  let erased : World A P LA LB := { w with requests := pre ++ post }
  have hnew : b.device ∈ s'.orders ∧ b.device ∉ w.service.orders := by
    rw [horders]
    exact ⟨Finmap.mem_insert.mpr (.inl rfl), hfresh⟩
  have hrecords : w.storedRecords r s' = [.stored (r.placed b.device, ⟨client, b⟩)] := by
    simp [World.storedRecords, hdata, hnew]
  have hquiet : ∀ removed : A → Option (Item (Ticket A P)),
      sentVerdicts paras.client w.serviceNow removed d erased.service.sent s'.sent = [] := by
    intro removed
    rw [hsent]
    exact quiet_of_acceptances haccept _ _ removed
  by_cases hd : b.device = d
  · subst hd
    have hitem : r.item P b.device = some (r.placed b.device, ⟨client, b⟩) := by
      simp [Request.item, hdata]
    have hfree : (w.view paras b.device).held = none := by
      refine heldItem_eq_none fun o ho => ?_
      rw [Finmap.lookup_eq_none.mpr hfresh] at ho
      cases ho
    have hheld : w.heldAfter r s' b.device = r.placed b.device := if_pos hnew
    have hview : (erased.afterService paras s' (w.heldAfter r s') (w.storedRecords r s')).view
        paras b.device = { erased.view paras b.device with
          held := some (r.placed b.device, ⟨client, b⟩)
          received := insert (r.placed b.device, ⟨client, b⟩)
            (erased.view paras b.device).received } := by
      refine Relay.State.ext rfl rfl rfl rfl ?_ ?_ ?_ ?_
      · have hlookup : s'.orders.lookup b.device =
            some (Service.receivedOrder b paras.client client) := by
          rw [horders, Finmap.lookup_insert]
        simp only [World.view, World.heldItem, World.afterService, hlookup, hheld]
        exact if_pos rfl
      · change (erased.answers ++ _).filterMap _ = _
        rw [List.filterMap_append]
        exact (congrArg _ (hquiet _)).trans (List.append_nil _)
      · ext i
        simp only [World.view, World.afterService, hrecords, List.mem_append, List.mem_singleton,
          Set.mem_ofPred_eq, Set.mem_insert_iff, Record.stored.injEq]
        constructor
        · rintro ⟨hi, hmem | rfl⟩
          · exact .inr ⟨hi, hmem⟩
          · exact .inl rfl
        · rintro (rfl | ⟨hi, hmem⟩)
          · exact ⟨rfl, .inr rfl⟩
          · exact ⟨hi, .inl hmem⟩
      · ext p
        simp [World.view, World.afterService, hrecords, erased]
    rcases view_without_request paras b.device hflight with
      ⟨hnone, -⟩ | ⟨i, pre', post', hi, hrequests, herased⟩
    · rw [hitem] at hnone
      cases hnone
    · obtain rfl := Option.some.inj (hitem.symm.trans hi)
      have hstep := Relay.Step.receive (w.view paras b.device) pre' post' _ hrequests hfree
      rw [hview, herased]
      exact hstep
  · have hkept : s'.orders.lookup d = w.service.orders.lookup d := by
      rw [horders, Finmap.lookup_insert_of_ne _ (Ne.symm hd)]
    have hold : ¬(d ∈ s'.orders ∧ d ∉ w.service.orders) := by
      rintro ⟨hmem, hout⟩
      rw [horders, Finmap.mem_insert] at hmem
      rcases hmem with rfl | hmem
      · exact hd rfl
      · exact hout hmem
    have hview : (erased.afterService paras s' (w.heldAfter r s') (w.storedRecords r s')).view
        paras d = erased.view paras d := by
      refine view_afterService_of_kept (heldItem_afterService hkept (if_neg hold)) hquiet ?_
      intro x hx
      rw [hrecords] at hx
      rw [List.mem_singleton.mp hx]
      exact hd
    rw [hview]
    exact step_loseRequest hflight

/-- A message from the client chain brings an item to the service chain, or is as good as lost. -/
theorem step_deliverRequest [ReservableCurrency LB A] (env : Service.ServiceEnv A P)
    {pre post : List (Request A)} {r : Request A} (hflight : w.requests = pre ++ r :: post) :
    Relay.Step (w.view paras d) (({ w with requests := pre ++ post }.afterService paras
      (handleRequest paras env r.data w.service)
      (w.heldAfter r (handleRequest paras env r.data w.service))
      (w.storedRecords r (handleRequest paras env r.data w.service))).view paras d) := by
  rcases handleRequest_cases paras env r.data w.service with
    ⟨horders, hsent⟩ | ⟨client, b, ms, hdata, hfresh, horders, hsent, haccept⟩
  · let erased : World A P LA LB := { w with requests := pre ++ post }
    have hrecords : w.storedRecords r (handleRequest paras env r.data w.service) = [] := by
      unfold World.storedRecords
      split
      · exact if_neg fun h => h.2 (horders ▸ h.1)
      · rfl
    have hheld : w.heldAfter r (handleRequest paras env r.data w.service) = w.held := by
      funext x
      exact if_neg fun h => h.2 (horders ▸ h.1)
    have hview : (erased.afterService paras (handleRequest paras env r.data w.service) w.held
        []).view paras d = erased.view paras d := by
      refine view_afterService_of_kept (heldItem_afterService (congrArg _ horders) rfl) ?_ ?_
      · intro removed
        rw [hsent, sentVerdicts, outgoing_self]
        rfl
      · exact fun x hx => absurd hx List.not_mem_nil
    rw [hrecords, hheld, hview]
    exact step_loseRequest hflight
  · exact step_stores hflight hdata hfresh horders hsent haccept

end Service

/-! ### Runs -/

section Runs

variable [LawfulCodec A] [LawfulCodec P] [ReservableCurrency LA A] [ReservableCurrency LB A]
  {paras : Paras} {w w' : World A P LA LB}

/-- Seen from a device, every step of the two chains is a step of a relay. -/
theorem step_view {action : Action A P} (h : Step paras w action w') (d : A) :
    Relay.Step (w.view paras d) (w'.view paras d) := by
  cases h with
  | clock => exact .idle _
  | transfer => exact .idle _
  | client env op hnow hop => exact step_client (Xchange.effect_of_call hop)
  | service env op hnow hop => exact step_service (Service.effect_of_call hop)
  | deliverRequest env pre post r hnow hflight => exact step_deliverRequest env hflight
  | deliverAnswer env pre post a hnow hflight => exact step_deliverAnswer env hflight
  | loseRequest pre post r hflight => exact step_loseRequest hflight
  | loseAnswer pre post a hflight => exact step_loseAnswer hflight

omit [LawfulCodec A] [LawfulCodec P] [ReservableCurrency LA A] [ReservableCurrency LB A] in
/-- At the start the relay has issued nothing. -/
theorem view_init (paras : Paras) (clientNow serviceNow : Moment) (clientLedger : LA)
    (serviceLedger : LB) (d : A) :
    (World.init clientNow serviceNow clientLedger serviceLedger : World A P LA LB).view paras d =
      Relay.State.init := by
  refine Relay.State.ext rfl rfl rfl rfl rfl rfl ?_ ?_
  · ext i
    simp [World.view, World.init, Relay.State.init]
  · ext p
    simp [World.view, World.init, Relay.State.init]

/-- In every run of the two chains each device keeps the invariant of the relay. -/
theorem invariant_of_reachable (h : Reachable paras w) (d : A) :
    Relay.Invariant (w.view paras d) := by
  obtain ⟨clientNow, serviceNow, clientLedger, serviceLedger, hrun⟩ := h
  have hview := hrun.lift (fun w => w.view paras d) fun _ _ ⟨_, hstep⟩ => step_view hstep d
  have hinit : Relay.Invariant ((World.init clientNow serviceNow clientLedger serviceLedger :
      World A P LA LB).view paras d) := by
    rw [view_init]
    exact Relay.invariant_init
  exact Relay.invariant_of_reflTransGen hview hinit

end Runs

end XcmAutoBank.System
