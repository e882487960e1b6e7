import XcmAutoBank.Common.Runtime

/-!
# The working time of a device

A device declares how long it works on an order, and both pallets refuse an order whose `until` lies
before the time plus the device's working time.  The check adds timestamps, whose addition wraps:
`TimeChecked` is what it gives and `TimeLeft` what it is for.  The two are the same exactly when the
sums fit (`TimeChecked.timeLeft_iff`).
-/

namespace XcmAutoBank

/-- A moment that passes the check against a sum is as late as the sum exactly when the sum does not
wrap. -/
theorem Moment.add_le_iff {a b c : Moment} (h : ¬c < a + b) :
    a.toNat + b.toNat ≤ c.toNat ↔ a.toNat + b.toNat < 2 ^ 64 := by
  have hle : (a.toNat + b.toNat) % 2 ^ 64 ≤ c.toNat := by
    rw [← UInt64.toNat_add]
    apply UInt64.le_iff_toNat_le.mp
    exact UInt64.not_lt.mp h
  have hc : c.toNat < 2 ^ 64 := c.toNat_lt
  constructor
  · intro hsum
    omega
  · intro hfits
    rwa [Nat.mod_eq_of_lt hfits] at hle

namespace Storage

variable {A P D E L : Type} [DecidableEq A]

/-- The working time of a device, if it has a profile. -/
def workingTime {O : Type} (wcd : D → Moment) (s : Storage A O D E L) (d : A) : Option Moment :=
  (s.device.lookup d).map wcd

/-- The device gets an order. -/
structure Gains (s s' : Storage A (OrderOf A P) D E L) (d : A) (o : OrderOf A P) : Prop where
  stored : s'.orders.lookup d = some o
  new : s.orders.lookup d ≠ some o

variable (wcd : D → Moment) (now : Moment) (s s' : Storage A (OrderOf A P) D E L)

/-- Every order a device gets is late enough for its working time by the pallets' check. -/
def TimeChecked : Prop :=
  ∀ d o, Gains s s' d o → ∃ w, s.workingTime wcd d = some w ∧ ¬o.untilTime < now + w

/-- Every order a device gets leaves it its working time. -/
def TimeLeft : Prop :=
  ∀ d o, Gains s s' d o →
    ∃ w, s.workingTime wcd d = some w ∧ now.toNat + w.toNat ≤ o.untilTime.toNat

/-- The time and the working time of every device that gets an order have a timestamp for a sum. -/
def TimeFits : Prop :=
  ∀ d o, Gains s s' d o → ∀ w, s.workingTime wcd d = some w → now.toNat + w.toNat < 2 ^ 64

variable {wcd now s s'}

/-- Orders that pass the check leave the working time exactly when the sums fit. -/
theorem TimeChecked.timeLeft_iff (h : TimeChecked wcd now s s') :
    TimeLeft wcd now s s' ↔ TimeFits wcd now s s' := by
  constructor
  · intro hleft d o hd w hw
    obtain ⟨w', hw', hchecked⟩ := h d o hd
    obtain ⟨w'', hw'', hle⟩ := hleft d o hd
    obtain rfl := Option.some.inj (hw'.symm.trans hw)
    obtain rfl := Option.some.inj (hw''.symm.trans hw)
    exact (Moment.add_le_iff hchecked).mp hle
  · intro hfits d o hd
    obtain ⟨w, hw, hchecked⟩ := h d o hd
    exact ⟨w, hw, (Moment.add_le_iff hchecked).mpr (hfits d o hd w hw)⟩

/-- An order whose `until` lies before the sum of the numbers does not leave the working time. -/
theorem not_timeLeft {d : A} {o : OrderOf A P} {w : Moment} (hd : Gains s s' d o)
    (hw : s.workingTime wcd d = some w) (h : o.untilTime.toNat < now.toNat + w.toNat) :
    ¬TimeLeft wcd now s s' := by
  intro hleft
  obtain ⟨w', hw', hle⟩ := hleft d o hd
  obtain rfl := Option.some.inj (hw'.symm.trans hw)
  omega

/-- Without new orders there is nothing to check. -/
theorem timeChecked_of_kept
    (h : ∀ d o, s'.orders.lookup d = some o → s.orders.lookup d = some o) :
    TimeChecked wcd now s s' :=
  fun d o hd => absurd (h d o hd.stored) hd.new

/-! ### The profiles -/

/-- A device gets no other working time. -/
def KeepsTime {O : Type} (wcd : D → Moment) (d : A) (s s' : Storage A O D E L) : Prop :=
  ∀ w, s'.workingTime wcd d = some w → s.workingTime wcd d = some w

variable {O : Type} {t u v : Storage A O D E L} {d x : A} {dev dev' : D}

/-- The same profile has the same working time. -/
theorem keepsTime_of_lookup (h : u.device.lookup d = t.device.lookup d) : KeepsTime wcd d t u := by
  intro w hw
  rwa [workingTime, h] at hw

/-- A profile that is written back with its working time keeps it. -/
theorem keepsTime_of_insert (hdev : t.device.lookup x = some dev)
    (h : u.device = t.device.insert x dev') (hwcd : wcd dev' = wcd dev) : KeepsTime wcd d t u := by
  by_cases hd : d = x
  · subst hd
    intro w hw
    rw [workingTime, h, Finmap.lookup_insert, Option.map_some, hwcd] at hw
    rw [workingTime, hdev]
    exact hw
  · exact keepsTime_of_lookup (by rw [h, Finmap.lookup_insert_of_ne _ hd])

/-- A working time that is kept twice is kept. -/
theorem KeepsTime.trans (h : KeepsTime wcd d t u) (h' : KeepsTime wcd d u v) :
    KeepsTime wcd d t v :=
  fun w hw => h w (h' w hw)

/-- An empty storage has no working times. -/
theorem workingTime_init (ledger : L) (d : A) (w : Moment) :
    (Storage.init ledger : Storage A O D E L).workingTime wcd d ≠ some w := by
  intro hw
  obtain ⟨dev, hdev, -⟩ := Option.map_eq_some_iff.mp hw
  exact init_device_ne ledger d dev hdev

end Storage

end XcmAutoBank
