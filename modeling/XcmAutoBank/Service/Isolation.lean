import XcmAutoBank.Service.Reply
import XcmAutoBank.Foundation.Isolation

/-!
# Devices do not see each other

Devices and clients share balances, and a local order can fail because of what another order has
reserved.  A device that serves remote orders only is out of reach of all this: its order, its
profile, the messages and the events about it depend on the operations on the device alone, in
their order, whatever the chain does for others (`isolated_of_remote`).
-/

namespace XcmAutoBank.Service

open ReservableCurrency Storage History

variable {A P L : Type} [DecidableEq A]

/-- What the pallet has for one device: its order and its profile, and the messages and the events
about it. -/
@[ext] structure View (AccountId Payload : Type) where
  order : Option (OrderOf AccountId Payload)
  profile : Option DeviceProfile
  sent : List Sent
  events : List (Event AccountId)

/-- A view without a local order. -/
def View.Remote (selfParaId : ParaId) (v : View A P) : Prop :=
  ∀ o, v.order = some o → o.paraid ≠ selfParaId

/-- An operation places no local order. -/
def Op.Remote (selfParaId : ParaId) : Op A P → Prop
  | .order _ _ => False
  | .orderReceived o _ => o.paraid ≠ selfParaId
  | _ => True

variable [Codec A] [Codec P]

/-- A message is about a device. -/
def concerns (P : Type) [Codec P] (d : A) (m : Sent) : Bool :=
  match (Codec.decode m.message.call : Option (XCMPMessageOf A P × List UInt8)) with
  | some (msg, _) => messageDevice msg = d
  | none => false

/-- The view of a device. -/
def viewOf (d : A) (s : State A P L) : View A P where
  order := s.orders.lookup d
  profile := s.device.lookup d
  sent := s.sent.filter (concerns P d)
  events := s.events.filter fun e => e.device = d

/-- Two storages show the same view of a device, which has no local order. -/
def SameView (selfParaId : ParaId) (d : A) (s t : State A P L) : Prop :=
  viewOf d s = viewOf d t ∧ (viewOf d s).Remote selfParaId

variable {selfParaId : ParaId} {env : ServiceEnv A P}
  {s t s' : State A P L} {d : A} {o : OrderOf A P} {dev : DeviceProfile}

/-! ### Writing for a device -/

/-- A closed order leaves the view with its profile and its event. -/
theorem viewOf_closed (l : L) (e : Event A) : viewOf d (s.closed d dev l e) =
    { viewOf d s with
      order := none
      profile := some dev
      events := (viewOf d s).events ++ [e].filter fun e => e.device = d } := by
  refine View.ext ?_ ?_ rfl ?_
  · exact Finmap.lookup_erase d s.orders
  · exact Finmap.lookup_insert s.device
  · exact List.filter_append ..

/-- A notification adds a message to the view. -/
theorem viewOf_notified (env : Env) (msg : XCMPMessageOf A P) :
    viewOf d (notified selfParaId env o msg s) =
      { viewOf d s with
        sent := (viewOf d s).sent ++ (told selfParaId env o msg).filter (concerns P d) } := by
  refine View.ext ?_ ?_ ?_ ?_
  · simp only [viewOf, notified_orders]
  · simp only [viewOf, notified_device]
  · simp only [viewOf, notified_sent, List.filter_append]
  · simp only [viewOf, notified_events]

/-- An accepted order changes the profile in the view and adds a message and an event. -/
theorem viewOf_taken (env : Env) : viewOf d (taken selfParaId env s o d dev) =
    { viewOf d s with
      profile := some { dev with state := .accepted }
      sent := (viewOf d s).sent ++
        (told selfParaId env o (.orderAccept o.client d)).filter (concerns P d)
      events := (viewOf d s).events ++ [.accept d] } := by
  refine View.ext ?_ ?_ ?_ ?_
  · simp only [viewOf, taken_orders]
  · exact Finmap.lookup_insert s.device
  · change (notified selfParaId env o (.orderAccept o.client d) s).sent.filter _ = _
    rw [notified_sent, List.filter_append]
    rfl
  · change (s.events ++ [Event.accept d]).filter _ = _
    rw [List.filter_append]
    simp [viewOf, Event.device]

/-- A stored order is in the view with the profile, and adds its messages and events. -/
theorem viewOf_stored (env : Env) (state : DeviceState) (l : L) :
    viewOf d (stored selfParaId env s o d dev state l) =
      { viewOf d s with
        order := some o
        profile := some { dev with state := state }
        sent := (viewOf d s).sent ++ if state = .accepted then
          (told selfParaId env o (.orderAccept o.client d)).filter (concerns P d) else []
        events := (viewOf d s).events ++
          .newOrder d :: if state = .accepted then [.accept d] else [] } := by
  refine View.ext (Finmap.lookup_insert s.orders) (Finmap.lookup_insert s.device) ?_ ?_
  · by_cases haccepted : state = .accepted
    · simp only [stored, viewOf, if_pos haccepted, notified_sent, List.filter_append]
    · simp only [stored, viewOf, if_neg haccepted, List.append_nil]
  · by_cases haccepted : state = .accepted
    · simp [stored, viewOf, haccepted, Event.device]
    · simp [stored, viewOf, haccepted, Event.device]

/-- What an operation on another device leaves is not in the view. -/
theorem viewOf_frame [LawfulCodec A] [LawfulCodec P] {x : A} (h : Frame s s' x) (hx : d ≠ x) :
    viewOf d s' = viewOf d s := by
  obtain ⟨ms, hsent, hms⟩ := h.sent
  obtain ⟨evs, hevents, hevs⟩ := h.events
  have hnosent : ms.filter (concerns P d) = [] := by
    rw [List.filter_eq_nil_iff]
    intro m hm
    obtain ⟨msg, hmessage, hdevice⟩ := hms m hm
    have hdecode := LawfulCodec.decode_encode msg []
    rw [List.append_nil] at hdecode
    have hcall : m.message.call = Codec.encode msg := by rw [hmessage]; rfl
    rw [concerns, hcall, hdecode]
    simpa [hdevice] using hx.symm
  have hnoevents : evs.filter (fun e => decide (e.device = d)) = [] := by
    rw [List.filter_eq_nil_iff]
    intro e he
    simpa [hevs e he] using hx.symm
  refine View.ext (h.orders d hx) (h.device d hx) ?_ ?_
  · change s'.sent.filter _ = _
    rw [hsent, List.filter_append, hnosent, List.append_nil]
    rfl
  · change s'.events.filter _ = _
    rw [hevents, List.filter_append, hnoevents, List.append_nil]
    rfl

/-! ### The same view of two storages -/

variable (h : SameView selfParaId d s t)

include h

/-- The same order is stored. -/
theorem SameView.order : s.orders.lookup d = t.orders.lookup d := congrArg View.order h.1

/-- The same profile is registered. -/
theorem SameView.profile : s.device.lookup d = t.device.lookup d := congrArg View.profile h.1

/-- The other storage shows the same view. -/
theorem SameView.symm : SameView selfParaId d t s := ⟨h.1.symm, h.1 ▸ h.2⟩

/-- A device with an order and a profile has them in both storages. -/
theorem SameView.holds (hs : s.Holds d o dev) : t.Holds d o dev :=
  ⟨h.order.symm.trans hs.order, h.profile.symm.trans hs.profile⟩

/-- Both storages are told of the same message. -/
theorem SameView.notified (env : Env) (msg : XCMPMessageOf A P) :
    SameView selfParaId d (notified selfParaId env o msg s) (notified selfParaId env o msg t) := by
  refine ⟨by rw [viewOf_notified, viewOf_notified, h.1], ?_⟩
  rw [viewOf_notified]
  exact h.2

/-- The order is closed in both storages. -/
theorem SameView.closed (l l' : L) (e : Event A) :
    SameView selfParaId d (s.closed d dev l e) (t.closed d dev l' e) := by
  refine ⟨by rw [viewOf_closed, viewOf_closed, h.1], ?_⟩
  rw [viewOf_closed]
  rintro o ⟨⟩

/-- The order is taken on in both storages. -/
theorem SameView.taken (env : Env) : SameView selfParaId d (taken selfParaId env s o d dev)
    (taken selfParaId env t o d dev) := by
  refine ⟨by rw [viewOf_taken, viewOf_taken, h.1], ?_⟩
  rw [viewOf_taken]
  exact h.2

/-- A remote order is stored in both storages. -/
theorem SameView.stored (hremote : o.paraid ≠ selfParaId) (env : Env) (state : DeviceState)
    (l l' : L) : SameView selfParaId d (stored selfParaId env s o d dev state l)
      (stored selfParaId env t o d dev state l') := by
  refine ⟨by rw [viewOf_stored, viewOf_stored, h.1], ?_⟩
  rw [viewOf_stored]
  rintro o' ⟨⟩
  exact hremote

/-- The profile is written in both storages. -/
theorem SameView.written (m m' : Finmap fun _ : A => DeviceProfile) (evs : List (Event A))
    (hm : m.lookup d = m'.lookup d) :
    SameView selfParaId d { s with device := m, events := s.events ++ evs }
      { t with device := m', events := t.events ++ evs } := by
  obtain ⟨horder, -, hsent, hevents⟩ := View.ext_iff.mp h.1
  refine ⟨View.ext horder hm hsent ?_, h.2⟩
  change (s.events ++ evs).filter _ = (t.events ++ evs).filter _
  rw [List.filter_append, List.filter_append]
  exact congrArg (· ++ _) hevents

omit h

/-! ### Operations on the device -/

section Own

variable [ReservableCurrency L A] {origin : Origin A}

omit [DecidableEq A] [Codec A] [Codec P] in
/-- A rejected remote order leaves the ledger alone. -/
theorem rejectLedger_of_remote (hremote : o.paraid ≠ selfParaId) (now : Moment) (l : L) :
    rejectLedger selfParaId now o d dev l = .ok l := if_neg hremote

omit [DecidableEq A] [Codec A] [Codec P] in
/-- A finished remote order leaves the ledger alone. -/
theorem doneLedger_of_remote (hremote : o.paraid ≠ selfParaId) (now : Moment) (l : L) :
    doneLedger selfParaId now o d dev l = .ok l := if_neg hremote

omit [ReservableCurrency L A] in
/-- Calls that both storages refuse keep the view. -/
theorem SameView.refused (h : SameView selfParaId d s t) {f : Call (State A P L) Error Unit}
    (hs : ∃ e, f.run s = (.error e, s)) (ht : ∃ e, f.run t = (.error e, t)) :
    SameView selfParaId d (f.exec s) (f.exec t) := by
  rw [Dispatch.exec_of_refused hs, Dispatch.exec_of_refused ht]
  exact h

/-- A rejection of what is stored for the device keeps the views the same. -/
theorem SameView.reject (h : SameView selfParaId d s t) (now : Moment) (onoff : Bool) :
    SameView selfParaId d
      ((orderReject selfParaId env (s.orders.lookup d) now d dev onoff).exec s)
      ((orderReject selfParaId env (t.orders.lookup d) now d dev onoff).exec t) := by
  rw [h.order]
  unfold Dispatch.exec
  cases ho : t.orders.lookup d with
  | none =>
    rw [orderReject_none_run, orderReject_none_run]
    exact h.closed _ _ _
  | some o =>
    have hremote : o.paraid ≠ selfParaId := h.2 o (h.order.trans ho)
    rw [orderReject_run, orderReject_run, rejectLedger_of_remote hremote,
      rejectLedger_of_remote hremote]
    exact (h.notified _ _).closed _ _ _

/-- A remote order is received in both storages or in none. -/
theorem SameView.orderReceived (h : SameView selfParaId d s t) (hremote : o.paraid ≠ selfParaId) :
    SameView selfParaId d ((orderReceived selfParaId env o d).exec s)
      ((orderReceived selfParaId env o d).exec t) := by
  have transport {s t : State A P L} (h : SameView selfParaId d s t) {dev : DeviceProfile}
      {state : DeviceState} (hr : Receives selfParaId env s o d dev state) :
      Receives selfParaId env t o d dev state := by
    refine ⟨hr.before, ?_, h.profile.symm.trans hr.profile, hr.ready, hr.enough, hr.answer,
      fun hself => absurd hself hremote⟩
    have hfresh := hr.fresh
    rw [← Finmap.lookup_eq_none] at hfresh ⊢
    exact h.order.symm.trans hfresh
  by_cases hr : ∃ dev state, Receives selfParaId env s o d dev state
  · obtain ⟨dev, state, hr⟩ := hr
    rw [Dispatch.exec, Dispatch.exec, orderReceived_run hr, orderReceived_run (transport h hr),
      if_neg hremote, if_neg hremote]
    exact h.stored hremote _ _ _ _
  · refine h.refused (orderReceived_refused hr) (orderReceived_refused ?_)
    rintro ⟨dev, state, hr'⟩
    exact hr ⟨dev, state, transport h.symm hr'⟩

/-- A cancellation is done in both storages or in none. -/
theorem SameView.cancel (h : SameView selfParaId d s t) :
    SameView selfParaId d ((cancel selfParaId env origin d).exec s)
      ((cancel selfParaId env origin d).exec t) := by
  by_cases hc : ∃ o dev, Cancels env s origin d o dev
  · obtain ⟨o, dev, hc⟩ := hc
    have hc' : Cancels env t origin d o dev := ⟨h.holds hc.holds, hc.signed, hc.late⟩
    rw [Dispatch.exec, Dispatch.exec, cancel_reject_run hc, cancel_reject_run hc']
    exact h.reject _ _
  · refine h.refused (cancel_refused hc) (cancel_refused ?_)
    rintro ⟨o, dev, hc'⟩
    exact hc ⟨o, dev, h.symm.holds hc'.holds, hc'.signed, hc'.late⟩

/-- The device rejects in both storages or in none. -/
theorem SameView.accept_reject (h : SameView selfParaId d s t) (onoff : Bool) :
    SameView selfParaId d ((accept selfParaId env (.signed d) true onoff).exec s)
      ((accept selfParaId env (.signed d) true onoff).exec t) := by
  by_cases hr : ∃ x dev, Rejects s (.signed d) x dev
  · obtain ⟨x, dev, hr⟩ := hr
    obtain rfl : d = x := Origin.signed.inj hr.signed
    have hr' : Rejects t (.signed d) d dev := ⟨rfl, h.profile.symm.trans hr.profile, hr.engaged⟩
    rw [Dispatch.exec, Dispatch.exec, accept_reject_run hr, accept_reject_run hr']
    exact h.reject _ _
  · refine h.refused (accept_reject_refused hr onoff) (accept_reject_refused ?_ onoff)
    rintro ⟨x, dev, hr'⟩
    obtain rfl : d = x := Origin.signed.inj hr'.signed
    exact hr ⟨d, dev, rfl, h.profile.trans hr'.profile, hr'.engaged⟩

/-- The device accepts in both storages or in none. -/
theorem SameView.accept (h : SameView selfParaId d s t) (onoff : Bool) :
    SameView selfParaId d ((accept selfParaId env (.signed d) false onoff).exec s)
      ((accept selfParaId env (.signed d) false onoff).exec t) := by
  by_cases ht : ∃ x o dev, Takes env s (.signed d) x o dev
  · obtain ⟨x, o, dev, ht⟩ := ht
    obtain rfl : d = x := Origin.signed.inj ht.signed
    have ht' : Takes env t (.signed d) d o dev := ⟨h.holds ht.holds, rfl, ht.busy, ht.before⟩
    rw [Dispatch.exec, Dispatch.exec, accept_run ht, accept_run ht']
    exact h.taken _
  · refine h.refused (accept_refused ht onoff) (accept_refused ?_ onoff)
    rintro ⟨x, o, dev, ht'⟩
    obtain rfl : d = x := Origin.signed.inj ht'.signed
    exact ht ⟨d, o, dev, h.symm.holds ht'.holds, rfl, ht'.busy, ht'.before⟩

/-- The device finishes in both storages or in none. -/
theorem SameView.done (h : SameView selfParaId d s t) (onoff : Bool) :
    SameView selfParaId d ((done selfParaId env (.signed d) onoff).exec s)
      ((done selfParaId env (.signed d) onoff).exec t) := by
  have finished {s : State A P L} {o : OrderOf A P} {dev : DeviceProfile}
      (hf : Finishes s (.signed d) d o dev) (hremote : o.paraid ≠ selfParaId) :
      (Service.done selfParaId env (.signed d) onoff).exec s =
        (Service.notified selfParaId env.toEnv o (.orderDone o.client d onoff) s).closed
          d (settledProfile dev onoff) s.ledger (.done d) := by
    rcases done_run selfParaId env hf onoff with ⟨l, hl, hrun⟩ | ⟨e, l, hl, -, -⟩
    · rw [doneLedger_of_remote hremote] at hl
      obtain rfl := Except.ok.inj hl
      rw [Dispatch.exec, hrun]
    · rw [doneLedger_of_remote hremote] at hl
      cases hl
  by_cases hf : ∃ x o dev, Finishes s (.signed d) x o dev
  · obtain ⟨x, o, dev, hf⟩ := hf
    obtain rfl : d = x := Origin.signed.inj hf.signed
    have hf' : Finishes t (.signed d) d o dev := ⟨h.holds hf.holds, rfl, hf.accepted⟩
    have hremote := h.2 o hf.holds.order
    rw [finished hf hremote, finished hf' hremote]
    exact (h.notified _ _).closed _ _ _
  · refine h.refused (done_refused hf onoff) (done_refused ?_ onoff)
    rintro ⟨x, o, dev, hf'⟩
    obtain rfl : d = x := Origin.signed.inj hf'.signed
    exact hf ⟨d, o, dev, h.symm.holds hf'.holds, rfl, hf'.accepted⟩

omit [ReservableCurrency L A] in
/-- The device registers in both storages or in none. -/
theorem SameView.register (h : SameView selfParaId d s t) (penalty : Balance) (wcd : Moment)
    (onoff : Bool) : SameView selfParaId d ((register (.signed d) penalty wcd onoff).exec s)
      ((register (.signed d) penalty wcd onoff).exec t) := by
  have refused {s : State A P L} (hd : d ∈ s.orders) :
      ¬∃ id, Origin.signed d = .signed id ∧ id ∉ s.orders := by
    rintro ⟨id, heq, hid⟩
    obtain rfl := Origin.signed.inj heq
    exact hid hd
  have hmem : d ∈ s.orders ↔ d ∈ t.orders := by
    rw [← Finmap.lookup_isSome, ← Finmap.lookup_isSome, h.order]
  by_cases hd : d ∈ s.orders
  · exact h.refused (register_refused (refused hd) penalty wcd onoff)
      (register_refused (refused (hmem.mp hd)) penalty wcd onoff)
  · rw [Dispatch.exec, Dispatch.exec, register_run hd, register_run (mt hmem.mpr hd)]
    refine h.written _ _ _ ?_
    rw [Finmap.lookup_insert, Finmap.lookup_insert]

omit [ReservableCurrency L A] in
/-- The device switches its state in both storages or in none. -/
theorem SameView.setState (h : SameView selfParaId d s t) (onoff : Bool) :
    SameView selfParaId d ((setState (.signed d) onoff).exec s)
      ((setState (.signed d) onoff).exec t) := by
  by_cases hsw : ∃ x dev state, Switches s (.signed d) onoff x dev state
  · obtain ⟨x, dev, state, hsw⟩ := hsw
    obtain rfl : d = x := Origin.signed.inj hsw.signed
    have hsw' : Switches t (.signed d) onoff d dev state :=
      ⟨rfl, h.profile.symm.trans hsw.profile, hsw.next⟩
    rw [Dispatch.exec, Dispatch.exec, setState_run hsw, setState_run hsw']
    have hwritten := h.written (s.device.insert d { dev with state := state })
      (t.device.insert d { dev with state := state }) []
      (by rw [Finmap.lookup_insert, Finmap.lookup_insert])
    simpa only [List.append_nil] using hwritten
  · refine h.refused (setState_refused hsw) (setState_refused ?_)
    rintro ⟨x, dev, state, hsw'⟩
    obtain rfl : d = x := Origin.signed.inj hsw'.signed
    exact hsw ⟨d, dev, state, rfl, h.profile.trans hsw'.profile, hsw'.next⟩

omit [ReservableCurrency L A] in
/-- The device is reaped in both storages. -/
theorem SameView.onKilledAccount (h : SameView selfParaId d s t) :
    SameView selfParaId d ((onKilledAccount d).exec s) ((onKilledAccount d).exec t) := by
  obtain ⟨m, hrun, hm⟩ := onKilledAccount_run s d
  obtain ⟨m', hrun', hm'⟩ := onKilledAccount_run t d
  rw [Dispatch.exec, Dispatch.exec, hrun, hrun']
  have hwritten := h.written m m' []
    (by rw [hm, hm', if_pos rfl, if_pos rfl, h.profile])
  simpa only [List.append_nil] using hwritten

/-- An operation on the device that places no local order keeps the views the same. -/
theorem SameView.call (h : SameView selfParaId d s t) {op : Op A P} (htarget : op.target = some d)
    (hremote : op.Remote selfParaId) :
    SameView selfParaId d ((op.call selfParaId env).exec s) ((op.call selfParaId env).exec t) := by
  cases op with
  | order origin b => exact absurd hremote id
  | cancel origin x =>
    obtain rfl : x = d := Option.some.inj htarget
    exact h.cancel
  | orderReceived o x =>
    obtain rfl : x = d := Option.some.inj htarget
    exact h.orderReceived hremote
  | onKilledAccount who =>
    obtain rfl : who = d := Option.some.inj htarget
    exact h.onKilledAccount
  | accept origin reject onoff =>
    cases origin with
    | signed x =>
      obtain rfl : x = d := Option.some.inj htarget
      cases reject with
      | true => exact h.accept_reject onoff
      | false => exact h.accept onoff
    | root => cases htarget
    | none => cases htarget
  | done origin onoff =>
    cases origin with
    | signed x =>
      obtain rfl : x = d := Option.some.inj htarget
      exact h.done onoff
    | root => cases htarget
    | none => cases htarget
  | register origin penalty wcd onoff =>
    cases origin with
    | signed x =>
      obtain rfl : x = d := Option.some.inj htarget
      exact h.register penalty wcd onoff
    | root => cases htarget
    | none => cases htarget
  | setState origin onoff =>
    cases origin with
    | signed x =>
      obtain rfl : x = d := Option.some.inj htarget
      exact h.setState onoff
    | root => cases htarget
    | none => cases htarget

end Own

/-! ### Runs -/

variable [ReservableCurrency L A] [LawfulCodec A] [LawfulCodec P]

variable (selfParaId d) in
/-- A device is isolated while it serves remote orders only. -/
theorem isolated_of_remote : Isolated (operate selfParaId : State A P L → _) (viewOf d)
    (View.Remote selfParaId) (fun e => e.2.Remote selfParaId)
    fun e => decide (e.2.target = some d) where
  other s e he := by
    rcases outcome_of_call selfParaId e.1 s e.2 with hu | ⟨x, htarget, hx⟩
    · refine View.ext ?_ ?_ ?_ ?_
      · exact congrArg (Finmap.lookup d) hu.orders
      · exact congrArg (Finmap.lookup d) hu.device
      · exact congrArg (List.filter (concerns P d)) hu.sent
      · exact congrArg (List.filter fun e => decide (e.device = d)) hu.events
    · have hne : d ≠ x := by
        rintro rfl
        simp [htarget] at he
      exact viewOf_frame hx.frame hne
  own s t e he hremote hs hview :=
    (SameView.call ⟨hview, hs⟩ (of_decide_eq_true he) hremote).1
  keeps s e he hremote hs :=
    (SameView.call (t := s) ⟨rfl, hs⟩ (of_decide_eq_true he) hremote).2

/-- A device that serves remote orders only has the same order, the same profile and the same
messages and events after any two runs with the same operations on the device in the same order,
from storages with the same about the device: whatever the other devices, their clients, other
chains and all balances were before and do in between. -/
theorem view_eq_of_run {s t : State A P L} {es es' : List (ServiceEnv A P × Op A P)}
    (hs : (viewOf d s).Remote selfParaId) (hview : viewOf d s = viewOf d t)
    (hremote : ∀ e ∈ es, e.2.target = some d → e.2.Remote selfParaId)
    (hes : es.filter (fun e => e.2.target = some d) =
      es'.filter fun e => e.2.target = some d) :
    viewOf d (after (operate selfParaId) s es) = viewOf d (after (operate selfParaId) t es') :=
  (isolated_of_remote selfParaId d).view_eq
    (fun e he hmine => hremote e he (of_decide_eq_true hmine)) hs hview hes

/-- Device 3 registers and gets a local order while device 2 works. -/
def sharedWork : List (ServiceEnv UInt64 UInt64 × Op UInt64 UInt64) :=
  [remotePlacing,
    (ServiceEnv.online 5 .busy, .register (.signed 3) 10 20 true),
    (ServiceEnv.online 6 .busy, .order (.signed 1) ⟨100, 9, 45, 3⟩),
    (ServiceEnv.online 10 .busy, .accept (.signed 2) false true),
    (ServiceEnv.online 50 .busy, .done (.signed 2) true)]

/-- Device 2 does not notice. -/
theorem view_eq_of_run_shared :
    viewOf 2 (after (operate 2000) registeredDevice sharedWork) =
      viewOf 2 (after (operate 2000) registeredDevice (remotePlacing :: remoteWork)) := by
  refine view_eq_of_run (fun o ho => ?_) rfl (fun e he htarget => ?_) rfl
  · cases ho
  · simp only [sharedWork, List.mem_cons, List.not_mem_nil, or_false] at he
    rcases he with rfl | rfl | rfl | rfl | rfl
    · exact (by decide : (2001 : ParaId) ≠ 2000)
    · exact trivial
    · exact absurd htarget (by decide)
    · exact trivial
    · exact trivial

end XcmAutoBank.Service
