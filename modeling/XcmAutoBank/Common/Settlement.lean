import XcmAutoBank.Common.Runtime

/-!
# Closing an order

Both pallets close an order in the same last step: before the order's deadline the device gets
its penalty back, from the deadline on the penalty goes to the client.  `settlePenalty` is that
step on the ledger, and `Storage.closed` the storage it leaves when it succeeds.
-/

namespace XcmAutoBank

open ReservableCurrency LawfulCurrency

/-! ### The storage a settlement leaves -/

namespace Storage

variable {A O D E L : Type}

/-- The storage with another ledger. -/
def withLedger (s : Storage A O D E L) (l : L) : Storage A O D E L := { s with ledger := l }

section Fields

variable (s : Storage A O D E L) (l : L)

@[simp] theorem withLedger_orders : (s.withLedger l).orders = s.orders := rfl

@[simp] theorem withLedger_device : (s.withLedger l).device = s.device := rfl

@[simp] theorem withLedger_ledger : (s.withLedger l).ledger = l := rfl

@[simp] theorem withLedger_sent : (s.withLedger l).sent = s.sent := rfl

end Fields

variable [DecidableEq A]

/-- The storage after the order of a device is closed. -/
def closed (s : Storage A O D E L) (device : A) (dev : D) (l : L) (e : E) :
    Storage A O D E L :=
  { s with
    orders := s.orders.erase device
    device := s.device.insert device dev
    ledger := l
    events := s.events ++ [e] }

section Fields

variable (s : Storage A O D E L) (d : A) (dev : D) (l : L) (e : E)

@[simp] theorem closed_orders : (s.closed d dev l e).orders = s.orders.erase d := rfl

@[simp] theorem closed_device : (s.closed d dev l e).device = s.device.insert d dev := rfl

@[simp] theorem closed_ledger : (s.closed d dev l e).ledger = l := rfl

@[simp] theorem closed_sent : (s.closed d dev l e).sent = s.sent := rfl

end Fields

/-- A device with a stored order and a profile. -/
structure Holds (s : Storage A O D E L) (d : A) (o : O) (dev : D) : Prop where
  order : s.orders.lookup d = some o
  profile : s.device.lookup d = some dev

/-- A device has one stored order and one profile. -/
theorem Holds.unique {s : Storage A O D E L} {d : A} {o o' : O} {dev dev' : D}
    (h : s.Holds d o dev) (h' : s.Holds d o' dev') : o' = o ∧ dev' = dev :=
  ⟨Option.some.inj (h'.order.symm.trans h.order),
    Option.some.inj (h'.profile.symm.trans h.profile)⟩

end Storage

/-! ### The penalty -/

variable {A L : Type} [DecidableEq A] [ReservableCurrency L A]

/-- Release a device's penalty before the deadline, move it to the recipient from then on. -/
def settlePenalty (now untilTime : Moment) (l : L) (device recipient : A) (penalty : ℕ) :
    Except CurrencyError L :=
  if now < untilTime then .ok (unreserve l device penalty)
  else repatriateReserved l device recipient penalty .free

/-- The account a settled penalty goes to. -/
def penaltyPayee (now untilTime : Moment) (device recipient : A) : A :=
  if now < untilTime then device else recipient

/-- A settled penalty takes from no free balance. -/
theorem free_le_settlePenalty [ThriftyCurrency L A] {now untilTime : Moment} {l l' : L}
    {device recipient : A} {penalty : ℕ}
    (h : settlePenalty now untilTime l device recipient penalty = .ok l') (x : A) :
    free l x ≤ free l' x := by
  unfold settlePenalty at h
  split_ifs at h
  · cases h
    exact ThriftyCurrency.free_le_unreserve l device penalty x
  · exact ThriftyCurrency.free_le_repatriate h x

/-- Reserving a penalty and then a fee, or the penalty alone, takes from the account of the fee and
from the device only. -/
theorem free_of_reserves [ThriftyCurrency L A] {l l₁ l' : L} {device who : A} {penalty fee : ℕ}
    (h₁ : reserve l device penalty = .ok l₁) (h₂ : l' = l₁ ∨ reserve l₁ who fee = .ok l') {a : A}
    (h : free l' a < free l a) :
    a = who ∧ free l a ≤ free l' a + (fee + if a = device then penalty else 0) ∨
      a = device ∧ free l a ≤ free l' a + penalty := by
  have hpenalty := ThriftyCurrency.free_of_reserve h₁ a
  rcases h₂ with rfl | h₂
  · by_cases hdevice : a = device
    · rw [if_pos hdevice] at hpenalty
      exact .inr ⟨hdevice, hpenalty.le⟩
    · rw [if_neg hdevice] at hpenalty
      omega
  · have hfee := ThriftyCurrency.free_of_reserve h₂ a
    by_cases hwho : a = who
    · refine .inl ⟨hwho, ?_⟩
      rw [if_pos hwho] at hfee
      omega
    · rw [if_neg hwho] at hfee
      by_cases hdevice : a = device
      · rw [if_pos hdevice] at hpenalty
        exact .inr ⟨hdevice, by omega⟩
      · rw [if_neg hdevice] at hpenalty
        omega

section Lawful

variable [LawfulCurrency L A] {now untilTime : Moment} {l l' : L} {device recipient : A}
  {penalty : ℕ}

/-- A penalty cannot be settled when it is due to another account that holds nothing. -/
theorem settlePenalty_error_iff :
    (∃ e, settlePenalty now untilTime l device recipient penalty = .error e) ↔
      ¬ now < untilTime ∧ penalty ≠ 0 ∧ device ≠ recipient ∧ total l recipient = 0 := by
  unfold settlePenalty
  split_ifs with h
  · simp [h]
  · rw [repatriate_error_iff]
    simp [h]

/-- A settled penalty has left the device's reserve. -/
theorem reserved_settlePenalty
    (h : settlePenalty now untilTime l device recipient penalty = .ok l') (x : A) :
    reserved l' x = reserved l x - if x = device then penalty else 0 := by
  unfold settlePenalty at h
  split_ifs at h
  · cases h
    exact reserved_unreserve l device penalty x
  · exact reserved_repatriate h x

/-- A settled penalty is part of the payee's free balance. -/
theorem free_settlePenalty
    (h : settlePenalty now untilTime l device recipient penalty = .ok l') (x : A) :
    free l' x = free l x +
      if x = penaltyPayee now untilTime device recipient then min penalty (reserved l device)
      else 0 := by
  unfold settlePenalty at h
  unfold penaltyPayee
  split_ifs at h with hlate
  · cases h
    rw [if_pos hlate]
    exact free_unreserve l device penalty x
  · rw [if_neg hlate]
    exact free_repatriate h x

/-- A settled penalty that was reserved changes totals only when it is late: it moves from the
device to the recipient. -/
theorem total_settlePenalty
    (h : settlePenalty now untilTime l device recipient penalty = .ok l')
    (hp : penalty ≤ reserved l device) (x : A) :
    total l' x + (if ¬now < untilTime ∧ x = device then penalty else 0) =
      total l x + if ¬now < untilTime ∧ x = recipient then penalty else 0 := by
  unfold settlePenalty at h
  split_ifs at h with hlate
  · cases h
    simp [hlate, total_unreserve]
  · simpa [hlate] using total_repatriate h hp x

/-- After the fee went to the device, the penalty cannot be paid to a client that owns nothing
beside the fee. -/
theorem settle_done_error_iff {now untilTime : Moment} {l₀ l : L} {who d : A} {fee penalty : ℕ}
    (hl : repatriateReserved l₀ who d fee .free = .ok l) :
    (∃ e, settlePenalty now untilTime l d who penalty = .error e) ↔
      who ≠ d ∧ ¬now < untilTime ∧ penalty ≠ 0 ∧ free l₀ who = 0 ∧
        reserved l₀ who ≤ fee := by
  rw [settlePenalty_error_iff]
  by_cases hwho : who = d
  · simp [hwho]
  · have htotal : total l who = free l₀ who + (reserved l₀ who - fee) := by
      rw [total, free_repatriate hl, reserved_repatriate hl, if_neg hwho, if_pos rfl, add_zero]
    rw [htotal]
    constructor
    · rintro ⟨hlate, hpen, -, hzero⟩
      exact ⟨hwho, hlate, hpen, by omega, by omega⟩
    · rintro ⟨-, hlate, hpen, hfree, hres⟩
      exact ⟨hlate, hpen, Ne.symm hwho, by omega⟩

/-- A penalty that can be settled on one ledger can be settled on another with the same balances. -/
theorem settlePenalty_same {L' : Type} [ReservableCurrency L' A] [LawfulCurrency L' A] {l₂ : L'}
    (h : SameBalances A l l₂)
    (hl : settlePenalty now untilTime l device recipient penalty = .ok l') :
    ∃ l₂', settlePenalty now untilTime l₂ device recipient penalty = .ok l₂' ∧
      SameBalances A l' l₂' := by
  unfold settlePenalty at hl ⊢
  split_ifs at hl ⊢
  · cases hl
    exact ⟨_, rfl, h.unreserve device penalty⟩
  · exact h.repatriate hl

end Lawful

end XcmAutoBank
