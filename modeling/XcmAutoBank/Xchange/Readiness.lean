import XcmAutoBank.Xchange.Outcome
import XcmAutoBank.Common.Readiness

/-!
# Devices of the client chain are ordered only when somebody says they are ready

On the client chain a device becomes ready when it registers as on, or when a message says that its
order is closed and it stays on (`Op.turnsOn`).  An order is placed on a ready device only and makes
it busy, so one of the two comes before every order.
-/

namespace XcmAutoBank.Xchange

open ReservableCurrency Storage

variable {A P L : Type} [DecidableEq A]

/-- The device an event says an order was placed on. -/
def Event.places : Event A → Option A
  | .newOrder _ device => some device
  | _ => none

/-- A registration or a message that says the device is ready. -/
def Op.turnsOn (d : A) : Op A P → Bool
  | .register (.signed x) _ _ _ onoff | .onReject _ x onoff | .onDone _ x onoff =>
    decide (x = d) && onoff
  | _ => false

/-- The orders ever placed on a device, and one more when it is ready. -/
abbrev demand (s : State A P L) (d : A) : ℕ := Storage.demand DeviceProfile.state Event.places s d

variable {env : Env} {s s' : State A P L} {d x : A} {dev : DeviceProfile}

/-- A settled order leaves its device ready when the device stays on. -/
theorem onoff_of_settled {onoff : Bool} (h : (settledProfile dev onoff).state = .ready) :
    onoff = true := by
  cases onoff with
  | true => rfl
  | false => cases h

/-- Reaping an account makes no device ready. -/
theorem demand_of_onKilledAccount (s : State A P L) (who : A) :
    demand ((onKilledAccount who).exec s) d ≤ demand s d := by
  obtain ⟨m, hrun, hm⟩ := onKilledAccount_run s who
  rw [Dispatch.exec, hrun]
  refine demand_of_silent (List.append_nil _).symm (by simp) ?_
  rw [ready, ready, hm]
  by_cases hd : d = who
  · subst hd
    cases s.device.lookup d with
    | none => simp
    | some dev =>
      by_cases hoff : dev.state = .off
      · simp [afterKill, hoff]
      · simp [afterKill, hoff]
  · rw [if_neg hd]

variable [ReservableCurrency L A] [Codec A] [Codec P]

/-- An operation raises the demand for a device by one at most, and only when it says that the
device is ready. -/
theorem demand_of_call (env : Env) (s : State A P L) (op : Op A P) (d : A) :
    demand ((op.call env).exec s) d ≤ demand s d + (op.turnsOn d).toNat := by
  have same (h : ∃ l sent, (op.call env).exec s = { s with ledger := l, sent := sent }) :
      demand ((op.call env).exec s) d ≤ demand s d + (op.turnsOn d).toNat := by
    obtain ⟨l, sent, h⟩ := h
    rw [h]
    exact (le_of_eq (demand_of_same rfl rfl)).trans (Nat.le_add_right _ _)
  cases op with
  | test origin =>
    obtain ⟨r, sent, hrun⟩ := test_run env origin s
    exact same ⟨s.ledger, sent, by rw [Dispatch.exec]; exact congrArg Prod.snd hrun⟩
  | order origin b =>
    rcases order_exec env s origin b with hsame | ⟨who, dev, l₁, ha, -, hpenalty | ⟨l₂, -, hrun⟩⟩
    · exact same ⟨s.ledger, s.sent, hsame⟩
    · exact same ⟨l₁, s.sent, hpenalty⟩
    · change demand ((order env origin b).exec s) d ≤ _
      rw [Dispatch.exec, hrun]
      have hplaced : demand (placed env s who b dev l₂) d ≤ demand s d :=
        demand_of_placed ha.profile ha.ready rfl (by simp) rfl rfl (by simp)
      exact hplaced.trans (Nat.le_add_right _ _)
  | cancel origin x =>
    rcases cancel_exec env s x origin with hsame | ⟨o, dev, hc, hfee | ⟨l, -, hclosed⟩⟩
    · exact same ⟨s.ledger, s.sent, hsame⟩
    · exact same ⟨_, s.sent, hfee⟩
    · change demand ((cancel env origin x).exec s) d ≤ _
      rw [hclosed]
      have hkept : demand (s.closed x dev l (.reject o.client x)) d ≤ demand s d :=
        demand_of_rewritten hc.holds.profile rfl rfl (by simp [Event.places])
      exact hkept.trans (Nat.le_add_right _ _)
  | register origin paraid penalty wcd onoff =>
    rcases register_exec s onoff origin paraid penalty wcd with hsame | ⟨x, rfl, -, hwritten⟩
    · exact same ⟨s.ledger, s.sent, hsame⟩
    · change demand ((register (.signed x) paraid penalty wcd onoff).exec s) d ≤ _
      rw [hwritten]
      refine demand_of_switched rfl ?_ rfl rfl (by simp [Event.places])
      cases onoff <;> simp
  | onAccept who x =>
    have hexec : (onAccept who x : Call (State A P L) Error Unit).exec s =
        { s with events := s.events ++ [.accept who x] } := by
      simp [onAccept, Dispatch.exec]
    change demand ((onAccept who x : Call (State A P L) Error Unit).exec s) d ≤ _
    rw [hexec]
    have hsilent : demand { s with events := s.events ++ [.accept who x] } d ≤ demand s d :=
      demand_of_silent rfl (by simp [Event.places]) le_rfl
    exact hsilent.trans (Nat.le_add_right _ _)
  | onReject who x onoff =>
    rcases onReject_exec env s who x onoff with hsame | ⟨o, dev, -, hfee | ⟨l, -, hclosed⟩⟩
    · exact same ⟨s.ledger, s.sent, hsame⟩
    · exact same ⟨_, s.sent, hfee⟩
    · change demand ((onReject env who x onoff).exec s) d ≤ _
      rw [hclosed]
      exact demand_of_switched rfl onoff_of_settled rfl rfl (by simp [Event.places])
  | onDone who x onoff =>
    rcases onDone_exec env s who x onoff with hsame | ⟨o, dev, l₁, -, -, hfee | ⟨l, -, hclosed⟩⟩
    · exact same ⟨s.ledger, s.sent, hsame⟩
    · exact same ⟨_, s.sent, hfee⟩
    · change demand ((onDone env who x onoff).exec s) d ≤ _
      rw [hclosed]
      exact demand_of_switched rfl onoff_of_settled rfl rfl (by simp [Event.places])
  | onKilledAccount who => exact (demand_of_onKilledAccount s who).trans (Nat.le_add_right _ _)

end XcmAutoBank.Xchange
