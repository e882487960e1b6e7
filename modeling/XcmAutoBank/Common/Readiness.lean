import XcmAutoBank.Common.Settlement
import XcmAutoBank.Foundation.FiniteMap

/-!
# Orders and the readiness of devices

On both chains only a ready device gets an order, and then it is not ready any more.  The orders a
storage has ever placed on a device, told by its events, and the readiness of the device make up
its `demand`: placing an order leaves the demand as it is, and only what makes the device ready
raises it.
-/

namespace XcmAutoBank.Storage

variable {A O D E L : Type} [DecidableEq A]

/-- One when the device is ready, zero otherwise. -/
def ready (stateOf : D → DeviceState) (s : Storage A O D E L) (d : A) : ℕ :=
  if (s.device.lookup d).map stateOf = some .ready then 1 else 0

/-- How many orders were ever placed on a device. -/
def placedOn (places : E → Option A) (s : Storage A O D E L) (d : A) : ℕ :=
  s.events.countP fun e => decide (places e = some d)

/-- The orders ever placed on a device, and one more when it is ready. -/
def demand (stateOf : D → DeviceState) (places : E → Option A) (s : Storage A O D E L) (d : A) :
    ℕ :=
  s.placedOn places d + s.ready stateOf d

variable {stateOf : D → DeviceState} {places : E → Option A} {s s' : Storage A O D E L} {d x : A}
  {e : E} {evs : List E} {dev dev' : D}

/-- A profile that is written makes its device ready when it says so. -/
theorem ready_of_written (h : s'.device = s.device.insert x dev) :
    s'.ready stateOf d = if x = d then if stateOf dev = .ready then 1 else 0
      else s.ready stateOf d := by
  rw [ready, h, Finmap.lookup_insert_ite]
  by_cases hd : x = d
  · rw [if_pos hd.symm, if_pos hd, Option.map_some]
    exact if_congr (by simp) rfl rfl
  · rw [if_neg (Ne.symm hd), if_neg hd]
    rfl

/-- Events that place nothing count for nothing. -/
theorem placedOn_of_silent (hevents : s'.events = s.events ++ evs)
    (h : ∀ e ∈ evs, places e = none) : s'.placedOn places d = s.placedOn places d := by
  have hnone : evs.countP (fun e => decide (places e = some d)) = 0 := by
    rw [List.countP_eq_zero]
    intro e he
    simp [h e he]
  rw [placedOn, hevents, List.countP_append, hnone, Nat.add_zero]
  rfl

/-- A call that places nothing and makes no device ready does not raise the demand. -/
theorem demand_of_silent (hevents : s'.events = s.events ++ evs) (h : ∀ e ∈ evs, places e = none)
    (hready : s'.ready stateOf d ≤ s.ready stateOf d) :
    s'.demand stateOf places d ≤ s.demand stateOf places d := by
  rw [demand, placedOn_of_silent hevents h]
  exact Nat.add_le_add_left hready _

/-- A call that changes neither profiles nor events keeps the demand. -/
theorem demand_of_same (hdevice : s'.device = s.device) (hevents : s'.events = s.events) :
    s'.demand stateOf places d = s.demand stateOf places d := by
  rw [demand, demand, ready, ready, placedOn, placedOn, hdevice, hevents]

/-- A call that places nothing and writes a profile raises the demand by one at most, and only for
the device of a profile that is ready. -/
theorem demand_of_written (hdevice : s'.device = s.device.insert x dev)
    (hevents : s'.events = s.events ++ evs) (h : ∀ e ∈ evs, places e = none) :
    s'.demand stateOf places d ≤ s.demand stateOf places d +
      if x = d ∧ stateOf dev = .ready then 1 else 0 := by
  rw [demand, demand, placedOn_of_silent hevents h, ready_of_written hdevice]
  by_cases hd : x = d
  · rw [if_pos hd]
    by_cases hstate : stateOf dev = .ready
    · rw [if_pos hstate, if_pos ⟨hd, hstate⟩]
      omega
    · rw [if_neg hstate, if_neg fun hboth => hstate hboth.2]
      omega
  · rw [if_neg hd, if_neg fun hboth => hd hboth.1]
    omega

/-- A call that places nothing and switches a device on or off raises the demand for it when it
switches the device on. -/
theorem demand_of_switched {onoff b : Bool} (hb : b = (decide (x = d) && onoff))
    (hstate : stateOf dev = .ready → onoff = true) (hdevice : s'.device = s.device.insert x dev)
    (hevents : s'.events = s.events ++ evs) (h : ∀ e ∈ evs, places e = none) :
    s'.demand stateOf places d ≤ s.demand stateOf places d + b.toNat := by
  refine (demand_of_written hdevice hevents h).trans (Nat.add_le_add_left ?_ _)
  split_ifs with hboth
  · rw [hb, hstate hboth.2, decide_eq_true hboth.1]
    exact le_rfl
  · exact Nat.zero_le _

/-- A call that places nothing and writes a profile back as it was does not raise the demand. -/
theorem demand_of_rewritten (hprofile : s.device.lookup x = some dev)
    (hdevice : s'.device = s.device.insert x dev) (hevents : s'.events = s.events ++ evs)
    (h : ∀ e ∈ evs, places e = none) :
    s'.demand stateOf places d ≤ s.demand stateOf places d := by
  refine demand_of_silent hevents h (le_of_eq ?_)
  rw [ready_of_written hdevice]
  split_ifs with hd
  · subst hd
    rw [ready, hprofile, Option.map_some]
    simp [*]
  · subst hd
    rw [ready, hprofile, Option.map_some]
    simp [*]
  · rfl

/-- A call that places one order on a ready device, and leaves it not ready, does not raise the
demand. -/
theorem demand_of_placed (hprofile : s.device.lookup x = some dev) (hready : stateOf dev = .ready)
    (hdevice : s'.device = s.device.insert x dev') (hstate : stateOf dev' ≠ .ready)
    (hevents : s'.events = s.events ++ e :: evs) (he : places e = some x)
    (h : ∀ e ∈ evs, places e = none) :
    s'.demand stateOf places d ≤ s.demand stateOf places d := by
  have hnone : evs.countP (fun e => decide (places e = some d)) = 0 := by
    rw [List.countP_eq_zero]
    intro e he
    simp [h e he]
  have hplaced : s'.placedOn places d = s.placedOn places d + if x = d then 1 else 0 := by
    rw [placedOn, hevents, List.countP_append, List.countP_cons, hnone, he, Nat.zero_add]
    simp [placedOn]
  rw [demand, demand, hplaced, ready_of_written hdevice]
  by_cases hd : x = d
  · subst hd
    have hbefore : s.ready stateOf x = 1 := by simp [ready, hprofile, hready]
    rw [if_pos rfl, if_pos rfl, if_neg hstate, hbefore]
  · rw [if_neg hd, if_neg hd]
    omega

end XcmAutoBank.Storage
