import XcmAutoBank.Xchange.WorkingTime
import XcmAutoBank.Service.WorkingTime

/-!
# An order leaves its device the declared working time

Both pallets check `until` against the sum of the time and the working time of the device, and
neither looks whether the sum wraps.  A device that declares a working time near the largest
timestamp can be ordered for the next moment (`not_working_time_left`), and pays its penalty for an
order it never had the time for.  As long as the sums fit, the check does what it is for
(`working_time_left_iff`).
-/

namespace XcmAutoBank.System

open Storage History

variable {A P LA LB : Type} [DecidableEq A] [Codec A] [Codec P] [ReservableCurrency LA A]
  [ReservableCurrency LB A]

/-- On both chains and for every run from an empty storage: every order that is stored leaves its
device the working time, as natural numbers, exactly when for every order that is stored the time
and the working time fit in a timestamp; and the working time of a device is the one it has
registered with, and has been since then. -/
theorem working_time_left_iff (selfParaId : ParaId) :
    (∀ (ledger : LA) (es : List (Env × Xchange.Entry A P)),
      let s₀ : Xchange.State A P LA := Storage.init ledger
      (Along Xchange.enter
          (fun s e => TimeLeft Xchange.DeviceProfile.wcd e.1.now s (Xchange.enter s e)) s₀ es ↔
        Along Xchange.enter
          (fun s e => TimeFits Xchange.DeviceProfile.wcd e.1.now s (Xchange.enter s e)) s₀ es) ∧
      ∀ d w, (after Xchange.enter s₀ es).workingTime Xchange.DeviceProfile.wcd d = some w →
        Since Xchange.enter (Xchange.Declares d w)
          (fun _ t => t.workingTime Xchange.DeviceProfile.wcd d = some w) s₀ es) ∧
    ∀ (ledger : LB) (es : List (Service.ServiceEnv A P × Service.Entry A P)),
      let s₀ : Service.State A P LB := Storage.init ledger
      let enter := Service.enter selfParaId
      (Along enter (fun s e => TimeLeft Service.DeviceProfile.wcd e.1.now s (enter s e)) s₀ es ↔
        Along enter (fun s e => TimeFits Service.DeviceProfile.wcd e.1.now s (enter s e)) s₀ es) ∧
      ∀ d w, (after enter s₀ es).workingTime Service.DeviceProfile.wcd d = some w →
        Since enter (Service.Declares d w)
          (fun _ t => t.workingTime Service.DeviceProfile.wcd d = some w) s₀ es :=
  ⟨fun ledger es => ⟨Xchange.timeLeft_along_iff ledger es, fun _ _ => Xchange.declared_since⟩,
    fun ledger es => ⟨Service.timeLeft_along_iff ledger es, fun _ _ => Service.declared_since⟩⟩

/-! ### A sum that wraps -/

/-- The largest timestamp. -/
def lastMoment : Moment := 0xffffffffffffffff

/-- Device 2 declares the largest working time and is ordered at time 50 for time 60. -/
def hurriedRun : List (Env × Xchange.Entry UInt64 UInt64) :=
  [(Env.online 0, .call (.register (.signed 2) 2000 10 lastMoment true)),
    (Env.online 50, .call (.order (.signed 1) ⟨60, 7, 30, 2⟩))]

/-- The same on the service chain, by a local client. -/
def hurriedLocalRun : List (Service.ServiceEnv UInt64 UInt64 × Service.Entry UInt64 UInt64) :=
  [(.online 0 .busy, .call (.register (.signed 2) 10 lastMoment true)),
    (.online 50 .busy, .call (.order (.signed 1) ⟨60, 7, 30, 2⟩))]

/-- The same on the service chain, by a message of chain 2001. -/
def hurriedRemoteRun : List (Service.ServiceEnv UInt64 UInt64 × Service.Entry UInt64 UInt64) :=
  [(.online 0 .busy, .call (.register (.signed 2) 10 lastMoment true)),
    (.online 50 .busy, .batch
      [(2001, 0, Codec.encode (.newOrder 1 ⟨60, 7, 30, 2⟩ : XCMPMessageOf UInt64 UInt64))] 0)]

/-- The three orders are stored although they leave ten milliseconds for the largest working
time. -/
theorem not_working_time_left :
    let ledger : Balances UInt64 := Balances.uniform 50
    (¬Along Xchange.enter
        (fun s e => TimeLeft Xchange.DeviceProfile.wcd e.1.now s (Xchange.enter s e))
        (Storage.init ledger) hurriedRun) ∧
    (¬Along (Service.enter 2000)
        (fun s e => TimeLeft Service.DeviceProfile.wcd e.1.now s (Service.enter 2000 s e))
        (Storage.init ledger) hurriedLocalRun) ∧
    ¬Along (Service.enter 2000)
        (fun s e => TimeLeft Service.DeviceProfile.wcd e.1.now s (Service.enter 2000 s e))
        (Storage.init ledger) hurriedRemoteRun := by
  have hlate : (60 : Moment).toNat < (50 : Moment).toNat + lastMoment.toNat := by decide
  refine ⟨fun h => ?_, fun h => ?_, fun h => ?_⟩
  · exact not_timeLeft (d := 2) (o := ⟨60, 7, 30, 1, 0⟩) ⟨by decide, by decide⟩ rfl hlate h.2.1
  · exact not_timeLeft (d := 2) (o := ⟨60, 7, 30, 1, 2000⟩) ⟨by decide, by decide⟩ rfl hlate h.2.1
  · exact not_timeLeft (d := 2) (o := ⟨60, 7, 30, 1, 2001⟩) ⟨by decide, by decide⟩ rfl hlate h.2.1

end XcmAutoBank.System
