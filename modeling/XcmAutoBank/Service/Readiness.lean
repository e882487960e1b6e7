import XcmAutoBank.Service.WorkingTime
import XcmAutoBank.Common.Readiness
import XcmAutoBank.Foundation.Trace

/-!
# Devices of the service chain are ordered only when they say they are ready

A device becomes ready by calls it signs itself: it registers as on, it switches itself on, or it
closes an order and stays on.  An order is stored for a ready device only and ends its readiness,
so a device never gets more orders than the times it said it was ready
(`orders_within_readiness`), whoever calls and whatever bytes come in.  A cancellation does not make
its device ready, and neither does anything another account does.
-/

namespace XcmAutoBank.Service

open ReservableCurrency Storage History

variable {A P L : Type} [DecidableEq A]

/-- The device an event says an order was stored for. -/
def Event.places : Event A → Option A
  | .newOrder device => some device
  | _ => none

/-- A call by which the device closes its order and stays on. -/
def Op.reopens (d : A) : Op A P → Bool
  | .accept (.signed x) true onoff | .done (.signed x) onoff => decide (x = d) && onoff
  | _ => false

/-- A call by which the device says that it is ready. -/
def Op.turnsOn (d : A) : Op A P → Bool
  | .register (.signed x) _ _ onoff | .setState (.signed x) onoff => decide (x = d) && onoff
  | op => op.reopens d

/-- The orders ever stored for a device, and one more when it is ready. -/
abbrev demand (s : State A P L) (d : A) : ℕ := Storage.demand DeviceProfile.state Event.places s d

variable [ReservableCurrency L A] [Codec A] [Codec P]

/-- An entry by which the device says that it is ready. -/
def Entry.turnsOn (d : A) : Entry A P → Bool
  | .call op => op.turnsOn d
  | .batch _ _ => false

variable {selfParaId : ParaId} {env : ServiceEnv A P} {s s' : State A P L} {d x : A}
  {o : OrderOf A P} {dev : DeviceProfile}

/-! ### One entry -/

omit [DecidableEq A] [ReservableCurrency L A] [Codec A] [Codec P] in
/-- A settled order leaves its device ready when the device stays on. -/
theorem onoff_of_settled {onoff : Bool} (h : (settledProfile dev onoff).state = .ready) :
    onoff = true := by
  cases onoff with
  | true => rfl
  | false => cases h

/-- A received order uses up the readiness of its device. -/
theorem demand_of_orderReceived (ha : env.Answers) :
    demand ((orderReceived selfParaId env o x).exec s) d ≤ demand s d := by
  rcases orderReceived_exec selfParaId env s x o with
    hsame | ⟨dev, state, l, hr, ⟨hpenalty, -, -⟩ | ⟨hstored, -, -⟩⟩
  · rw [hsame]
  · rw [hpenalty]
    exact le_of_eq (demand_of_same rfl rfl)
  · have hstate : state ≠ .ready := by
      rcases ha x o state hr.answer with rfl | rfl <;> simp
    rw [hstored]
    refine demand_of_placed (x := x) (e := .newOrder x) hr.profile hr.ready rfl hstate rfl rfl
      fun e he => ?_
    split_ifs at he
    · rw [List.mem_singleton.mp he]
      rfl
    · exact absurd he List.not_mem_nil

omit [ReservableCurrency L A] in
/-- Closing an order deposits one event. -/
theorem events_of_closed (msg : XCMPMessageOf A P) (l : L) (e : Event A) :
    ((notified selfParaId env.toEnv o msg s).closed x dev l e).events = s.events ++ [e] :=
  congrArg (· ++ [e]) (notified_events env.toEnv msg)

omit [ReservableCurrency L A] in
/-- An order that its device closes leaves the device on or off as it says. -/
theorem demand_of_closed {onoff : Bool} {e : Event A} (msg : XCMPMessageOf A P) (l : L)
    (he : e.places = none) :
    demand ((notified selfParaId env.toEnv o msg s).closed x (settledProfile dev onoff) l e) d ≤
      demand s d + (decide (x = d) && onoff).toNat := by
  have hdevice : ((notified selfParaId env.toEnv o msg s).closed x (settledProfile dev onoff) l
      e).device = s.device.insert x (settledProfile dev onoff) := by
    rw [closed_device, notified_device]
  refine demand_of_switched rfl onoff_of_settled hdevice (events_of_closed msg l e) fun e' he' => ?_
  rw [List.mem_singleton.mp he', he]

/-- A rejection by the device leaves it on or off as it says. -/
theorem demand_of_reject {f : Call (State A P L) Error Unit} {onoff : Bool}
    (hf : f.run s = (orderReject selfParaId env (s.orders.lookup x) env.now x
      (settledProfile dev onoff) onoff).run s) :
    demand (f.exec s) d ≤ demand s d + (decide (x = d) && onoff).toNat := by
  rw [Dispatch.exec, hf]
  cases ho : s.orders.lookup x with
  | none =>
    rw [orderReject_none_run]
    exact demand_of_switched rfl onoff_of_settled rfl rfl (by simp [Event.places])
  | some o =>
    rw [orderReject_run]
    split
    · exact demand_of_closed _ _ rfl
    · exact (le_of_eq (demand_of_same rfl rfl)).trans (Nat.le_add_right _ _)

/-- A cancellation leaves the profile of its device as it was. -/
theorem demand_of_cancel {origin : Origin A} :
    demand ((cancel selfParaId env origin x).exec s) d ≤ demand s d := by
  by_cases hc : ∃ o dev, Cancels env s origin x o dev
  · obtain ⟨o, dev, hc⟩ := hc
    rw [Dispatch.exec, cancel_reject_run hc, hc.holds.order, orderReject_run]
    split
    · refine demand_of_rewritten hc.holds.profile ?_ (events_of_closed _ _ _)
        (by simp [Event.places])
      rw [closed_device, notified_device]
    · exact le_of_eq (demand_of_same rfl rfl)
  · rw [Dispatch.exec_of_refused (cancel_refused hc)]

omit [ReservableCurrency L A] [Codec A] [Codec P] in
/-- Reaping an account makes no device ready. -/
theorem demand_of_onKilledAccount (who : A) :
    demand ((onKilledAccount who).exec s) d ≤ demand s d := by
  obtain ⟨m, hrun, hm⟩ := onKilledAccount_run s who
  rw [Dispatch.exec, hrun]
  refine demand_of_silent (List.append_nil _).symm (by simp) ?_
  rw [ready, ready, hm]
  by_cases hd : d = who
  · subst hd
    cases s.device.lookup d with
    | none => simp
    | some dev =>
      by_cases hoff : dev.state = .off
      · simp [hoff]
      · simp [hoff]
  · rw [if_neg hd]

/-- An operation raises the demand for a device by one at most, and only when the device says that
it is ready. -/
theorem demand_of_call (op : Op A P) (ha : env.Answers) :
    demand ((op.call selfParaId env).exec s) d ≤ demand s d + (op.turnsOn d).toNat := by
  have same (hsame : (op.call selfParaId env).exec s = s) :
      demand ((op.call selfParaId env).exec s) d ≤ demand s d + (op.turnsOn d).toNat := by
    rw [hsame]
    exact Nat.le_add_right _ _
  cases op with
  | order origin b =>
    by_cases hwho : ∃ who, origin = .signed who
    · obtain ⟨who, rfl⟩ := hwho
      change demand ((order selfParaId env (.signed who) b).exec s) d ≤ _
      rw [order_signed]
      exact (demand_of_orderReceived ha).trans (Nat.le_add_right _ _)
    · exact same (Dispatch.exec_of_refused (order_unsigned (fun who heq => hwho ⟨who, heq⟩) b))
  | orderReceived o x => exact (demand_of_orderReceived ha).trans (Nat.le_add_right _ _)
  | cancel origin x => exact demand_of_cancel.trans (Nat.le_add_right _ _)
  | accept origin reject onoff =>
    cases reject with
    | false =>
      rcases accept_exec selfParaId env s origin onoff with hsame | ⟨x, o, dev, -, htaken⟩
      · exact same hsame
      · change demand ((accept selfParaId env origin false onoff).exec s) d ≤ _
        rw [htaken]
        let dev' : DeviceProfile := { dev with state := .accepted }
        have hwritten : demand (taken selfParaId env.toEnv s o x dev) d ≤ demand s d +
            if x = d ∧ dev'.state = .ready then 1 else 0 :=
          demand_of_written rfl rfl (by simp [Event.places])
        rw [if_neg fun h => by cases h.2] at hwritten
        exact hwritten.trans (Nat.le_add_right _ _)
    | true =>
      by_cases hr : ∃ x dev, Rejects s origin x dev
      · obtain ⟨x, dev, hr⟩ := hr
        obtain rfl := hr.signed
        exact demand_of_reject (accept_reject_run hr onoff)
      · exact same (Dispatch.exec_of_refused (accept_reject_refused hr onoff))
  | done origin onoff =>
    rcases done_exec selfParaId env s origin onoff with
      hsame | ⟨x, o, dev, l, hf, ⟨-, hclosed⟩ | ⟨-, hdropped, -⟩⟩
    · exact same hsame
    · obtain rfl := hf.signed
      change demand ((done selfParaId env (.signed x) onoff).exec s) d ≤ _
      rw [hclosed]
      exact demand_of_closed _ _ rfl
    · obtain rfl := hf.signed
      change demand ((done selfParaId env (.signed x) onoff).exec s) d ≤ _
      rw [hdropped]
      exact demand_of_switched rfl onoff_of_settled rfl (List.append_nil _).symm (by simp)
  | register origin penalty wcd onoff =>
    rcases register_exec s origin penalty wcd onoff with hsame | ⟨x, rfl, -, hwritten⟩
    · exact same hsame
    · change demand ((register (.signed x) penalty wcd onoff).exec s) d ≤ _
      rw [hwritten]
      refine demand_of_switched rfl ?_ rfl rfl (by simp [Event.places])
      cases onoff <;> simp
  | setState origin onoff =>
    rcases setState_exec s origin onoff with hsame | ⟨x, dev, state, hsw, hwritten⟩
    · exact same hsame
    · obtain rfl := hsw.signed
      change demand ((setState (.signed x) onoff).exec s) d ≤ _
      rw [hwritten]
      have hstate : ({ dev with state := state } : DeviceProfile).state = .ready →
          onoff = true := by
        have hnext := hsw.next
        revert hnext
        cases dev.state <;> cases onoff <;> simp +contextual [nextState, eq_comm]
      exact demand_of_switched rfl hstate rfl (List.append_nil _).symm (by simp)
  | onKilledAccount who => exact (demand_of_onKilledAccount who).trans (Nat.le_add_right _ _)

/-- An entry raises the demand for a device by one at most, and only when the device says that it is
ready. -/
theorem demand_of_exec (entry : Entry A P) (ha : env.Answers) :
    demand (entry.exec selfParaId env s) d ≤ demand s d + (entry.turnsOn d).toNat := by
  cases entry with
  | call op => exact demand_of_call op ha
  | batch items maxWeight =>
    exact handleXcmpMessages_induction selfParaId env
      (R := fun s s' : State A P L => demand s' d ≤ demand s d) (fun _ => le_rfl)
      (fun h h' => h'.trans h) items maxWeight
      (fun item _ s client b => demand_of_orderReceived ha) s

/-! ### Runs -/

/-- Over every run with devices that answer as they should, with calls of anyone, batches of any
bytes and reaped accounts, whatever they return, a device gets at most one order for each time it
said it was ready, and one more if it was ready at the start. -/
theorem orders_within_readiness {es : List (ServiceEnv A P × Entry A P)}
    (ha : ∀ e ∈ es, e.1.Answers) (d : A) :
    let s' := after (enter selfParaId) s es
    s'.placedOn Event.places d + s'.ready DeviceProfile.state d ≤
      s.placedOn Event.places d + s.ready DeviceProfile.state d +
        es.countP fun e => e.2.turnsOn d := by
  have hrun : Traced (fun s e t => e.1.Answers ∧ t = enter selfParaId s e) s es
      (after (enter selfParaId) s es) :=
    (along_of_forall ha).traced
  refine hrun.budget (fun s => s.placedOn Event.places d)
    (fun s => s.ready DeviceProfile.state d) (fun e => e.2.turnsOn d) fun s e t hstep => ?_
  obtain ⟨hanswers, rfl⟩ := hstep
  exact demand_of_exec e.2 hanswers

/-- Device 2 registers as on and gets an order, which its client cancels; another order is refused
until the device says that it is ready again. -/
def reopenedWork : List (ServiceEnv UInt64 UInt64 × Entry UInt64 UInt64) :=
  [(ServiceEnv.online 0 .busy, .call (.register (.signed 2) 30 20 true)),
    (ServiceEnv.online 0 .busy, .call (.order (.signed 1) ⟨100, 7, 40, 2⟩)),
    (ServiceEnv.online 100 .busy, .call (.cancel (.signed 1) 2)),
    (ServiceEnv.online 110 .busy, .call (.order (.signed 1) ⟨200, 7, 40, 2⟩)),
    (ServiceEnv.online 110 .busy, .call (.accept (.signed 2) true true)),
    (ServiceEnv.online 120 .busy, .call (.order (.signed 1) ⟨200, 7, 40, 2⟩))]

/-- The device says twice that it is ready and gets two orders. -/
theorem orders_within_readiness_reopened :
    let s : State UInt64 UInt64 (Balances UInt64) := Storage.init (Balances.uniform 500)
    let s' := after (enter 2000) s reopenedWork
    s'.placedOn Event.places 2 = 2 ∧ reopenedWork.countP (fun e => e.2.turnsOn 2) = 2 ∧
      s'.placedOn Event.places 2 + s'.ready DeviceProfile.state 2 ≤
        s.placedOn Event.places 2 + s.ready DeviceProfile.state 2 +
          reopenedWork.countP fun e => e.2.turnsOn 2 := by
  refine ⟨by decide, by decide, orders_within_readiness (fun e he => ?_) 2⟩
  simp only [reopenedWork, List.mem_cons, List.not_mem_nil, or_false] at he
  rcases he with rfl | rfl | rfl | rfl | rfl | rfl <;>
    exact ServiceEnv.answers_online (.inl rfl)

end XcmAutoBank.Service
