import XcmAutoBank.System.Authority
import XcmAutoBank.Service.Readiness
import XcmAutoBank.Xchange.Readiness

/-!
# Devices are ordered only when they say they are ready

The client chain learns that a device is ready when the device registers there, or from a message
that its order is closed and it stays on.  The service chain sends such a message only in a call the
device signs: a client's cancellation there switches the device off on the client chain.  A message
is delivered once at most, so over every run the client chain places no more orders on a device than
the device asked for, on the two chains together (`placed_within_readiness`).
-/

namespace XcmAutoBank.System

open History

variable {A P LA LB : Type} [DecidableEq A] [Codec A] [Codec P]

/-- Bytes that say that a device is ready again. -/
def reopens (P : Type) [Codec P] (d : A) (data : List UInt8) : Bool :=
  ((readMessage data : Option (XCMPMessageOf A P)).bind Xchange.Op.ofMessage).any (·.turnsOn d)

/-- A call by which the device says on either chain that it is ready for an order of the client
chain. -/
def Action.turnsOn (d : A) : Action A P → Bool
  | .client op => op.turnsOn d
  | .service op => op.reopens d
  | _ => false

/-- How many orders the device may still get from what the client chain knows or is being told. -/
def World.stock (w : World A P LA LB) (d : A) : ℕ :=
  w.client.ready Xchange.DeviceProfile.state d + w.answers.countP fun a => reopens P d a.data

variable {paras : Paras} {w w' : World A P LA LB} {d x : A} {env : Service.ServiceEnv A P}
  {s : Service.State A P LB} {op : Service.Op A P}

/-! ### What the service chain says -/

variable (paras) in
/-- A call of the service chain says no more than the messages it hands over. -/
theorem countP_afterService_le {s' : Service.State A P LB} {ms : List Sent}
    (hsent : s'.sent = w.service.sent ++ ms) (held : A → ℕ) (records : List (Record A P)) :
    (w.afterService paras s' held records).answers.countP (fun a => reopens P d a.data) ≤
      w.answers.countP (fun a => reopens P d a.data) +
        ms.countP fun m => reopens P d m.message.call := by
  rw [World.afterService, List.countP_append, hsent, outgoing_append, List.countP_map,
    List.countP_map]
  exact Nat.add_le_add_left List.filter_sublist.countP_le _

section Lawful

variable [LawfulCodec A] [LawfulCodec P]

/-- An acceptance does not say that a device is ready again. -/
theorem countP_acceptances {ms : List Sent} (h : Service.Acceptances A P ms) :
    ms.countP (fun m => reopens P d m.message.call) = 0 := by
  rw [List.countP_eq_zero]
  intro m hm
  obtain ⟨client, device, hmessage⟩ := h m hm
  rw [hmessage]
  change ¬reopens P d (Codec.encode (.orderAccept client device : XCMPMessageOf A P)) = true
  rw [reopens, readMessage_encode]
  simp [Xchange.Op.ofMessage, Xchange.Op.turnsOn]

/-- The message that closes an order says that its device is ready again when the device stays
on. -/
theorem countP_told_le (env : Env) (o : OrderOf A P) (v : Verdict) (onoff : Bool) :
    (Service.told paras.service env o (v.message o.client x onoff)).countP
        (fun m => reopens P d m.message.call) ≤ (decide (x = d) && onoff).toNat := by
  unfold Service.told
  split_ifs
  · exact Nat.zero_le _
  · have htold : reopens P d (Codec.encode (v.message o.client x onoff : XCMPMessageOf A P)) =
        (decide (x = d) && onoff) := by
      rw [reopens, readMessage_encode]
      cases v <;> rfl
    rw [List.countP_singleton]
    change (if reopens P d (Codec.encode (v.message o.client x onoff : XCMPMessageOf A P)) = true
      then 1 else 0) ≤ _
    rw [htold]
    cases decide (x = d) && onoff <;> exact le_rfl

variable [ReservableCurrency LB A]

/-- A rejection says that the device is ready again only when it stays on. -/
theorem says_of_reject {f : Call (Service.State A P LB) Service.Error Unit}
    {dev : Service.DeviceProfile} {onoff : Bool}
    (hf : f.run s = (Service.orderReject paras.service env (s.orders.lookup x) env.now x dev
      onoff).run s) :
    ∃ ms, (f.exec s).sent = s.sent ++ ms ∧
      ms.countP (fun m => reopens P d m.message.call) ≤ (decide (x = d) && onoff).toNat := by
  rw [Dispatch.exec, hf]
  cases ho : s.orders.lookup x with
  | none =>
    rw [Service.orderReject_none_run]
    exact ⟨[], (List.append_nil _).symm, Nat.zero_le _⟩
  | some o =>
    rw [Service.orderReject_run]
    split
    · exact ⟨_, Service.notified_sent env.toEnv _, countP_told_le env.toEnv o .reject onoff⟩
    · exact ⟨[], (List.append_nil _).symm, Nat.zero_le _⟩

/-- A dispatchable of the service chain says of a device that it is ready again at most once, and
only when the device closes its order by the call and stays on. -/
theorem says_of_call (hop : op.Dispatchable) :
    ∃ ms, ((op.call paras.service env).exec s).sent = s.sent ++ ms ∧
      ms.countP (fun m => reopens P d m.message.call) ≤ (op.reopens d).toNat := by
  have silent (h : ((op.call paras.service env).exec s).sent = s.sent) :
      ∃ ms, ((op.call paras.service env).exec s).sent = s.sent ++ ms ∧
        ms.countP (fun m => reopens P d m.message.call) ≤ (op.reopens d).toNat :=
    ⟨[], by rw [h, List.append_nil], Nat.zero_le _⟩
  have undevised (hdevice : op.device = none) :
      ∃ ms, ((op.call paras.service env).exec s).sent = s.sent ++ ms ∧
        ms.countP (fun m => reopens P d m.message.call) ≤ (op.reopens d).toNat := by
    have heffect : Service.Effect paras.service op s ((op.call paras.service env).exec s) :=
      Service.effect_of_call hop
    cases heffect with
    | keeps ms hsent haccept horders =>
      exact ⟨ms, hsent, (le_of_eq (countP_acceptances haccept)).trans (Nat.zero_le _)⟩
    | stores x o ms hsent haccept hlocal hfresh horders =>
      exact ⟨ms, hsent, (le_of_eq (countP_acceptances haccept)).trans (Nat.zero_le _)⟩
    | closesLocal x o ho hlocal horders hsent => exact silent hsent
    | closesRemote x o onoff result hdevice' ho hremote horders hsent =>
      rw [hdevice] at hdevice'
      cases hdevice'
  cases op with
  | order origin b => exact undevised rfl
  | register origin penalty wcd onoff => exact undevised rfl
  | setState origin onoff => exact undevised rfl
  | onKilledAccount who => exact undevised rfl
  | orderReceived o x => exact absurd hop id
  | cancel origin x =>
    change ∃ ms, ((Service.cancel paras.service env origin x).exec s).sent = s.sent ++ ms ∧ _
    by_cases hc : ∃ o dev, Service.Cancels env s origin x o dev
    · obtain ⟨o, dev, hc⟩ := hc
      -- the message says that the device is off
      obtain ⟨ms, hsent, hcount⟩ := says_of_reject (d := d) (Service.cancel_reject_run hc)
      refine ⟨ms, hsent, hcount.trans ?_⟩
      rw [Bool.and_false]
      exact Nat.zero_le _
    · exact silent (by rw [Service.Op.call, Dispatch.exec_of_refused (Service.cancel_refused hc)])
  | accept origin reject onoff =>
    cases reject with
    | false =>
      cases origin with
      | root => exact undevised rfl
      | none => exact undevised rfl
      | signed x =>
        rcases Service.accept_exec paras.service env s (.signed x) onoff with
          hsame | ⟨y, o, dev, -, htaken⟩
        · exact silent (congrArg Storage.sent hsame)
        · obtain ⟨ms, hms, haccept⟩ : ∃ ms, (Service.notified paras.service env.toEnv o
              (.orderAccept o.client y) s).sent = s.sent ++ ms ∧ Service.Acceptances A P ms :=
            Service.notified_accept_sent env.toEnv
          refine ⟨ms, ?_, (le_of_eq (countP_acceptances haccept)).trans (Nat.zero_le _)⟩
          exact (congrArg Storage.sent htaken).trans hms
    | true =>
      by_cases hr : ∃ x dev, Service.Rejects s origin x dev
      · obtain ⟨x, dev, hr⟩ := hr
        obtain rfl := hr.signed
        exact says_of_reject (Service.accept_reject_run hr onoff)
      · exact silent (congrArg Storage.sent
          (Dispatch.exec_of_refused (Service.accept_reject_refused hr onoff)))
  | done origin onoff =>
    rcases Service.done_exec paras.service env s origin onoff with
      hsame | ⟨x, o, dev, l, hf, ⟨-, hclosed⟩ | ⟨-, hdropped, -⟩⟩
    · exact silent (congrArg Storage.sent hsame)
    · obtain rfl := hf.signed
      refine ⟨_, (congrArg Storage.sent hclosed).trans (Service.notified_sent env.toEnv _), ?_⟩
      exact countP_told_le env.toEnv o .done onoff
    · refine silent ?_
      change ((Service.done paras.service env origin onoff).exec s).sent = s.sent
      rw [hdropped]
      rfl

/-! ### Runs -/

variable [ReservableCurrency LA A]

omit [LawfulCodec A] [LawfulCodec P] in
variable (paras) in
/-- Bytes that the client chain handles raise its demand for a device by one at most, and only when
they say that the device is ready again. -/
theorem demand_of_handleAnswer (env : Env) (data : List UInt8) (s : Xchange.State A P LA) (d : A) :
    Xchange.demand (handleAnswer paras env data s) d ≤
      Xchange.demand s d + (reopens P d data).toNat := by
  cases hop : ((readMessage data : Option (XCMPMessageOf A P)).bind Xchange.Op.ofMessage) with
  | none =>
    rw [handleAnswer_of_no_op hop]
    exact Nat.le_add_right _ _
  | some op =>
    obtain ⟨m, hm, hmessage⟩ := Option.bind_eq_some_iff.mp hop
    have htold : reopens P d data = op.turnsOn d := by rw [reopens, hop, Option.any_some]
    rw [handleAnswer_of_message paras hm, Xchange.handleMessage_of_op hmessage, htold]
    exact Xchange.demand_of_call env s op d

omit [LawfulCodec A] [LawfulCodec P] [ReservableCurrency LB A] [ReservableCurrency LA A] in
variable (w d) in
/-- The orders placed and those the device may still get are the demand of the client chain and what
it is being told. -/
theorem placedOn_add_stock : w.client.placedOn Xchange.Event.places d + w.stock d =
    Xchange.demand w.client d + w.answers.countP fun a => reopens P d a.data :=
  (Nat.add_assoc ..).symm

/-- A step of the two chains places orders out of what the client chain knows and is being told. -/
theorem budget_of_step {action : Action A P} (h : Step paras w action w') (d : A) :
    w'.client.placedOn Xchange.Event.places d + w'.stock d ≤
      w.client.placedOn Xchange.Event.places d + w.stock d + (action.turnsOn d).toNat := by
  rw [placedOn_add_stock, placedOn_add_stock]
  cases h with
  | clock => exact le_rfl
  | transfer => exact le_rfl
  | client env op hnow hop =>
    have hdemand := Xchange.demand_of_call env w.client op d
    simp only [World.afterClient, Action.turnsOn]
    omega
  | service env op hnow hop =>
    obtain ⟨ms, hsent, hcount⟩ : ∃ ms, ((op.call paras.service env).exec w.service).sent =
        w.service.sent ++ ms ∧
        ms.countP (fun m => reopens P d m.message.call) ≤ (op.reopens d).toNat :=
      says_of_call hop
    have hanswers := countP_afterService_le paras (d := d) hsent w.held
      (w.closedRecords paras op ((op.call paras.service env).exec w.service))
    change Xchange.demand w.client d + _ ≤ _ + _ + (op.reopens d).toNat
    omega
  | deliverRequest env pre post r hnow hflight =>
    have hquiet : ∃ ms, (handleRequest paras env r.data w.service).sent = w.service.sent ++ ms ∧
        ms.countP (fun m => reopens P d m.message.call) = 0 := by
      rcases handleRequest_cases paras env r.data w.service with
        ⟨-, hsent⟩ | ⟨client, b, ms, -, -, -, hsent, haccept⟩
      · exact ⟨[], by rw [hsent, List.append_nil], rfl⟩
      · exact ⟨ms, hsent, countP_acceptances haccept⟩
    obtain ⟨ms, hsent, hcount⟩ := hquiet
    let rest : World A P LA LB := { w with requests := pre ++ post }
    have hanswers := countP_afterService_le (w := rest) paras (d := d) hsent
      (w.heldAfter r (handleRequest paras env r.data w.service))
      (w.storedRecords r (handleRequest paras env r.data w.service))
    rw [hcount, Nat.add_zero] at hanswers
    exact Nat.add_le_add_left hanswers _
  | deliverAnswer env pre post a hnow hflight =>
    have hdemand := demand_of_handleAnswer paras env a.data w.client d
    simp only [World.afterClient, Action.turnsOn, hflight, List.countP_append, countP_cons_toNat,
      Bool.toNat_false]
    omega
  | loseRequest pre post r hflight => exact le_rfl
  | loseAnswer pre post a hflight =>
    simp only [hflight, List.countP_append, List.countP_cons]
    omega

/-- Over every run of the two chains, with any loss and reordering of messages, whatever the calls
return, the client chain places at most one order on a device for each time the device said that it
was ready, by registering on the client chain or by closing an order on the service chain, and for
what the client chain knew and was being told at the start. -/
theorem placed_within_readiness {actions : List (Action A P)}
    (h : Traced (Step paras) w actions w') (d : A) :
    w'.client.placedOn Xchange.Event.places d + w'.stock d ≤
      w.client.placedOn Xchange.Event.places d + w.stock d + actions.countP (·.turnsOn d) :=
  h.budget (fun w => w.client.placedOn Xchange.Event.places d) (·.stock d) (·.turnsOn d)
    fun _ _ _ hstep => budget_of_step hstep d

end Lawful

/-- Device 2 registers, rejects an order on the service chain and stays on, and is ordered again. -/
def orderedAgain : List (Move UInt64 UInt64) :=
  [.client (.register (.signed 2) 2000 10 20 true) trivial,
    .service (.register (.signed 2) 10 20 true) trivial,
    .client (.order (.signed 1) ⟨100, 7, 30, 2⟩) trivial,
    .passRequest .busy,
    .service (.accept (.signed 2) true true) trivial,
    .passAnswer,
    .client (.order (.signed 1) ⟨100, 7, 30, 2⟩) trivial]

/-- The device says twice that it is ready and gets two orders. -/
theorem placed_within_readiness_orderedAgain :
    let w : World UInt64 UInt64 (Balances UInt64) (Balances UInt64) :=
      World.init 0 0 (Balances.uniform 100) (Balances.uniform 100)
    let w' := w.play twoChains orderedAgain
    w'.client.placedOn Xchange.Event.places 2 = 2 ∧
      (orderedAgain.map Move.action).countP (·.turnsOn 2) = 2 ∧
      w'.client.placedOn Xchange.Event.places 2 + w'.stock 2 ≤
        w.client.placedOn Xchange.Event.places 2 + w.stock 2 +
          (orderedAgain.map Move.action).countP (·.turnsOn 2) := by
  refine ⟨by decide, by decide, placed_within_readiness (traced_play ?_) 2⟩
  have hrequest {w : World UInt64 UInt64 (Balances UInt64) (Balances UInt64)}
      (h : 0 < w.requests.length) : Step twoChains w (.deliverRequest 0) _ :=
    World.passRequest_step .busy (List.ne_nil_of_length_pos h)
  have hanswer {w : World UInt64 UInt64 (Balances UInt64) (Balances UInt64)}
      (h : 0 < w.answers.length) : Step twoChains w (.deliverAnswer 0) _ :=
    World.passAnswer_step (List.ne_nil_of_length_pos h)
  exact ⟨.client _ _ _ rfl trivial, .service _ _ _ rfl trivial, .client _ _ _ rfl trivial,
    hrequest (by decide), .service _ _ _ rfl trivial, hanswer (by decide),
    .client _ _ _ rfl trivial, trivial⟩

end XcmAutoBank.System
