import XcmAutoBank.Xchange.Outcome
import XcmAutoBank.Service.Escrow
import XcmAutoBank.Common.Atomic

/-!
# Messages the transport refuses

Every sender of the two pallets maps the answer of `send_xcm` to an error and drops it.  A call
whose message is refused therefore succeeds, and the order it was about is stored or removed all
the same: no such call reports the loss (`loss_never_reported`).
-/

namespace XcmAutoBank

open ReservableCurrency Storage

section Loss

variable {A O D E L Error : Type} [ReservableCurrency L A]

/-- A call hands one message to the transport, which refuses it. -/
def Loses (x : Call (Storage A O D E L) Error Unit) (s : Storage A O D E L) : Prop :=
  ∃ m, (x.exec s).sent = s.sent ++ [m] ∧ m.accepted = false

/-- A call returns the given error and leaves orders, profiles and balances as they were. -/
def Reports (e : Error) (x : Call (Storage A O D E L) Error Unit) (s : Storage A O D E L) : Prop :=
  (x.run s).1 = .error (.module e) ∧ s.Same (x.exec s)

/-- A call succeeds and changes orders, profiles or balances. -/
def Succeeds (x : Call (Storage A O D E L) Error Unit) (s : Storage A O D E L) : Prop :=
  (x.run s).1 = .ok () ∧ ¬s.Same (x.exec s)

variable {x : Call (Storage A O D E L) Error Unit} {s s' : Storage A O D E L}

/-- A call that succeeds reports no error. -/
theorem Succeeds.not_reports (h : Succeeds x s) (e : Error) : ¬Reports e x s := by
  rintro ⟨herror, -⟩
  rw [h.1] at herror
  cases herror

omit [ReservableCurrency L A] in
/-- A call that hands nothing to the transport loses nothing. -/
theorem not_loses_of_sent {r : Except (DispatchError Error) Unit} (h : x.run s = (r, s'))
    (hsent : s'.sent = s.sent) : ¬Loses x s := by
  rintro ⟨m, hm, -⟩
  rw [Dispatch.exec, h, hsent] at hm
  simpa using congrArg List.length hm

omit [ReservableCurrency L A] in
/-- A call that is refused without a write loses nothing. -/
theorem not_loses_of_refused (h : ∃ e, x.run s = (.error e, s)) : ¬Loses x s := by
  obtain ⟨e, he⟩ := h
  exact not_loses_of_sent he rfl

/-- A call that succeeds in another storage. -/
theorem succeeds_of_run (h : x.run s = (.ok (), s')) (hs : ¬s.Same s') : Succeeds x s := by
  unfold Succeeds
  rw [Dispatch.exec, h]
  exact ⟨rfl, hs⟩

variable [DecidableEq A] {d : A} {o : O}

/-- Removing a stored order changes the storage. -/
theorem not_same_of_erase (ho : s.orders.lookup d = some o)
    (h : s'.orders = s.orders.erase d) : ¬s.Same s' := by
  intro hsame
  rw [← hsame.orders, h, Finmap.lookup_erase] at ho
  cases ho

/-- Storing a new order changes the storage. -/
theorem not_same_of_insert (ho : d ∉ s.orders) (h : s'.orders = s.orders.insert d o) :
    ¬s.Same s' := by
  intro hsame
  rw [← hsame.orders, h] at ho
  exact ho (Finmap.mem_insert.mpr (.inl rfl))

end Loss

variable {A P L : Type} [DecidableEq A] [ReservableCurrency L A] [Codec A] [Codec P]

/-! ### The client chain -/

/-- An order whose message is refused is stored all the same. -/
theorem Xchange.order_succeeds {env : Env} {s : Xchange.State A P L} {origin : Origin A}
    {b : OrderBaseOf A P} (h : Loses (Xchange.order env origin b) s) :
    Succeeds (Xchange.order env origin b) s := by
  by_cases hs : ∃ who dev, Xchange.Accepts env s origin b who dev
  · obtain ⟨who, dev, hs⟩ := hs
    have hrun := Xchange.order_run hs
    split at hrun
    · exact absurd h (not_loses_of_sent hrun rfl)
    · split at hrun
      · exact absurd h (not_loses_of_sent hrun rfl)
      · exact succeeds_of_run hrun (not_same_of_insert hs.fresh rfl)
  · exact absurd h (not_loses_of_refused (Xchange.order_refused hs))

/-! ### The service chain -/

namespace Service

variable {selfParaId : ParaId} {env : ServiceEnv A P} {s : State A P L} {d : A}
  {o : OrderOf A P} {dev : DeviceProfile} {origin : Origin A} {onoff : Bool}

/-- An order whose acceptance is refused by the transport is stored all the same. -/
theorem orderReceived_succeeds (h : Loses (orderReceived selfParaId env o d) s) :
    Succeeds (orderReceived selfParaId env o d) s := by
  by_cases hr : ∃ dev state, Receives selfParaId env s o d dev state
  · obtain ⟨dev, state, hr⟩ := hr
    have hrun := orderReceived_run hr
    split at hrun
    · split at hrun
      · exact absurd h (not_loses_of_sent hrun rfl)
      · split at hrun
        · exact absurd h (not_loses_of_sent hrun rfl)
        · exact succeeds_of_run hrun (not_same_of_insert hr.fresh rfl)
    · exact succeeds_of_run hrun (not_same_of_insert hr.fresh rfl)
  · exact absurd h (not_loses_of_refused (orderReceived_refused hr))

/-- A rejected order is removed, whatever the transport says. -/
theorem orderReject_succeeds {x : Call (State A P L) Error Unit}
    (hx : x.run s =
      (orderReject selfParaId env (s.orders.lookup d) env.now d dev onoff).run s)
    (h : Loses x s) : Succeeds x s := by
  cases ho : s.orders.lookup d with
  | none =>
    rw [ho, orderReject_none_run] at hx
    exact absurd h (not_loses_of_sent hx rfl)
  | some o =>
    rw [ho, orderReject_run] at hx
    split at hx
    · exact succeeds_of_run hx (not_same_of_erase ho (by simp))
    · exact absurd h (not_loses_of_sent hx rfl)

/-- A cancelled order is removed, whatever the transport says. -/
theorem cancel_succeeds (h : Loses (cancel selfParaId env origin d) s) :
    Succeeds (cancel selfParaId env origin d) s := by
  by_cases hc : ∃ o dev, Cancels env s origin d o dev
  · obtain ⟨o, dev, hc⟩ := hc
    exact orderReject_succeeds (cancel_reject_run hc) h
  · exact absurd h (not_loses_of_refused (cancel_refused hc))

/-- A device that answers its order goes on, whatever the transport says. -/
theorem accept_succeeds {reject : Bool} (h : Loses (accept selfParaId env origin reject onoff) s) :
    Succeeds (accept selfParaId env origin reject onoff) s := by
  cases reject with
  | false =>
    by_cases ht : ∃ d o dev, Takes env s origin d o dev
    · obtain ⟨d, o, dev, ht⟩ := ht
      refine succeeds_of_run (accept_run ht onoff) fun hsame => ?_
      -- the device was busy
      have hdevice := congrArg (Finmap.lookup d) hsame.device
      rw [taken_device, Finmap.lookup_insert, ht.holds.profile] at hdevice
      have hstate := congrArg DeviceProfile.state (Option.some.inj hdevice)
      rw [ht.busy] at hstate
      cases hstate
    · exact absurd h (not_loses_of_refused (accept_refused ht onoff))
  | true =>
    by_cases hr : ∃ d dev, Rejects s origin d dev
    · obtain ⟨d, dev, hr⟩ := hr
      exact orderReject_succeeds (accept_reject_run hr onoff) h
    · exact absurd h (not_loses_of_refused (accept_reject_refused hr onoff))

/-- A finished order is removed, whatever the transport says. -/
theorem done_succeeds (h : Loses (done selfParaId env origin onoff) s) :
    Succeeds (done selfParaId env origin onoff) s := by
  by_cases hf : ∃ d o dev, Finishes s origin d o dev
  · obtain ⟨d, o, dev, hf⟩ := hf
    rcases done_run selfParaId env hf onoff with
      ⟨l, -, hrun⟩ | ⟨e, l, -, hrun, -⟩
    · exact succeeds_of_run hrun (not_same_of_erase hf.holds.order (by simp))
    · exact absurd h (not_loses_of_sent hrun rfl)
  · exact absurd h (not_loses_of_refused (done_refused hf onoff))

/-- Every operation of the service chain whose message is refused succeeds. -/
theorem call_succeeds {op : Op A P} (h : Loses (op.call selfParaId env) s) :
    Succeeds (op.call selfParaId env) s := by
  cases op with
  | order origin b =>
    cases origin with
    | signed who =>
      change Loses (order selfParaId env (.signed who) b) s at h
      change Succeeds (order selfParaId env (.signed who) b) s
      rw [order_signed] at h ⊢
      exact orderReceived_succeeds h
    | root => exact absurd h (not_loses_of_refused ⟨_, rfl⟩)
    | none => exact absurd h (not_loses_of_refused ⟨_, rfl⟩)
  | cancel origin d => exact cancel_succeeds h
  | accept origin reject onoff => exact accept_succeeds h
  | done origin onoff => exact done_succeeds h
  | orderReceived o d => exact orderReceived_succeeds h
  | register origin penalty wcd onoff =>
    refine absurd h ?_
    by_cases hid : ∃ id, origin = .signed id ∧ id ∉ s.orders
    · obtain ⟨id, rfl, hid⟩ := hid
      exact not_loses_of_sent (register_run hid penalty wcd onoff) rfl
    · exact not_loses_of_refused (register_refused hid penalty wcd onoff)
  | setState origin onoff =>
    refine absurd h ?_
    by_cases hsw : ∃ d dev state, Switches s origin onoff d dev state
    · obtain ⟨d, dev, state, hsw⟩ := hsw
      exact not_loses_of_sent (setState_run hsw) rfl
    · exact not_loses_of_refused (setState_refused hsw)
  | onKilledAccount who =>
    obtain ⟨m, hrun, -⟩ := onKilledAccount_run s who
    exact absurd h (not_loses_of_sent hrun rfl)

end Service

/-! ### Both chains -/

/-- No order of the client chain and no operation of the service chain whose message the transport
refuses reports the loss. -/
theorem loss_never_reported :
    (∀ (env : Env) (s : Xchange.State A P L) (origin : Origin A) (b : OrderBaseOf A P),
      Loses (Xchange.order env origin b) s →
        ¬Reports .cannotReachDestination (Xchange.order env origin b) s) ∧
    ∀ (selfParaId : ParaId) (env : Service.ServiceEnv A P) (s : Service.State A P L)
      (op : Service.Op A P), Loses (op.call selfParaId env) s →
        ¬Reports .cannotReachDestination (op.call selfParaId env) s :=
  ⟨fun _ _ _ _ h => (Xchange.order_succeeds h).not_reports _,
    fun _ _ _ _ h => (Service.call_succeeds h).not_reports _⟩

/-- The environment at a time, with a transport that refuses every message. -/
def Env.offline (now : Moment) : Env := ⟨now, fun _ _ => .error .transport⟩

/-- Device 2 of the client chain before its first order. -/
def registeredDevice : Xchange.State UInt64 UInt64 (Balances UInt64) :=
  Dispatch.exec (Xchange.register (.signed 2) 2000 10 20 true) (Storage.init (Balances.uniform 30))

/-- An order on the client chain whose message is refused. -/
theorem loses_order :
    Loses (Xchange.order (Env.offline 0) (.signed 1) ⟨100, 7, 30, 2⟩) registeredDevice :=
  ⟨_, rfl, rfl⟩

/-- The remote order on the service chain is accepted and the message refused. -/
theorem loses_accept :
    Loses (Service.Op.call 2000 ⟨Env.offline 50, fun _ _ => none⟩
      (.accept (.signed 2) false true)) Service.remoteOrder :=
  ⟨_, rfl, rfl⟩

/-- Neither of the two calls reports the loss. -/
theorem loss_never_reported_order_accept :
    ¬Reports .cannotReachDestination
      (Xchange.order (Env.offline 0) (.signed 1) ⟨100, 7, 30, 2⟩) registeredDevice ∧
    ¬Reports .cannotReachDestination (Service.Op.call 2000 ⟨Env.offline 50, fun _ _ => none⟩
      (.accept (.signed 2) false true)) Service.remoteOrder :=
  ⟨loss_never_reported.1 _ _ _ _ loses_order, loss_never_reported.2 _ _ _ _ loses_accept⟩

/-- The order on the client chain is stored although its message is refused, and the call
succeeds. -/
theorem not_reports_order :
    ¬∀ (env : Env) (s : Xchange.State UInt64 UInt64 (Balances UInt64)) (origin : Origin UInt64)
      (b : OrderBaseOf UInt64 UInt64), Loses (Xchange.order env origin b) s →
      Reports .cannotReachDestination (Xchange.order env origin b) s := by
  intro h
  have hreports := h (Env.offline 0) registeredDevice (.signed 1) ⟨100, 7, 30, 2⟩ loses_order
  have hok : ((Xchange.order (Env.offline 0) (.signed 1) ⟨100, 7, 30, 2⟩).run
      registeredDevice).1 = .ok () := by decide
  have herror := hreports.1
  rw [hok] at herror
  cases herror

end XcmAutoBank
