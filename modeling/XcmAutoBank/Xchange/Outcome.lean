import XcmAutoBank.Xchange.Pallet
import XcmAutoBank.Common.Settlement
import XcmAutoBank.Foundation.FiniteMap

/-!
# What a call of the client pallet can do

Each call is evaluated once, into an equation for the case its checks pass (`*_run`) and the
statement that it returns an error and changes nothing otherwise (`*_refused`).  What a call can
leave behind (`*_exec`) and the inversions of calls that succeed (`*_ok`) are read off these.
Every later result on the pallet goes through this module and never unfolds a call.
-/

namespace XcmAutoBank.Xchange

open ReservableCurrency Storage

variable {A P L : Type} [DecidableEq A] [ReservableCurrency L A]

/-- The profile a settlement message leaves. -/
def settledProfile (dev : DeviceProfile) (onoff : Bool) : DeviceProfile :=
  { dev with state := if ¬onoff then .off else .ready }

/-- A settlement message only sets the state of a profile. -/
@[simp] theorem settledProfile_penalty (dev : DeviceProfile) (onoff : Bool) :
    (settledProfile dev onoff).penalty = dev.penalty := rfl

/-! ### Closing an order -/

/-- Closing an order releases the fee first; the order stays when the penalty cannot be paid. -/
theorem orderReject_run (who : A) (o : OrderOf A P) (now : Moment) (d : A) (dev : DeviceProfile)
    (s : State A P L) :
    (orderReject who o now d dev).run s =
      match settlePenalty now o.untilTime (unreserve s.ledger who o.fee.toNat) d o.client
        dev.penalty.toNat with
      | .ok l => (.ok (), s.closed d dev l (.reject who d))
      | .error e =>
        (.error (.currency e), s.withLedger (unreserve s.ledger who o.fee.toNat)) := by
  unfold orderReject settlePenalty
  simp only [Dispatch.run_bind, Currency.run_unreserve, Dispatch.run_ite]
  split_ifs
  · simp [closed]
  · simp only [Currency.run_repatriateReserved]
    cases repatriateReserved (unreserve s.ledger who o.fee.toNat) d o.client dev.penalty.toNat
      .free <;> simp [closed, withLedger]

/-- A reject message for a device with an order closes the order. -/
theorem onReject_run {env : Env} {s : State A P L} {d : A} {o : OrderOf A P}
    {dev : DeviceProfile} (h : s.Holds d o dev) (who : A) (onoff : Bool) :
    (onReject env who d onoff).run s =
      match settlePenalty env.now o.untilTime (unreserve s.ledger who o.fee.toNat) d o.client
        dev.penalty.toNat with
      | .ok l => (.ok (), s.closed d (settledProfile dev onoff) l (.reject who d))
      | .error e =>
        (.error (.currency e), s.withLedger (unreserve s.ledger who o.fee.toNat)) := by
  rw [← settledProfile_penalty dev onoff, ← orderReject_run]
  simp only [onReject, Dispatch.run_bind, Orders.run_get, Device.run_get, h.order, h.profile,
    Dispatch.okOr_some, Dispatch.run_pure]
  rfl

/-- A reject message for a device without an order or a profile changes nothing. -/
theorem onReject_refused {env : Env} {s : State A P L} {d : A}
    (h : ¬∃ o dev, s.Holds d o dev) (who : A) (onoff : Bool) :
    ∃ e, (onReject env who d onoff).run s = (.error e, s) := by
  unfold onReject
  cases ho : s.orders.lookup d with
  | none => simp [ho]
  | some o =>
    cases hd : s.device.lookup d with
    | none => simp [ho, hd]
    | some dev => exact absurd ⟨o, dev, ho, hd⟩ h

/-- A done message for a device with an order pays the fee to the device first. -/
theorem onDone_run {env : Env} {s : State A P L} {d : A} {o : OrderOf A P}
    {dev : DeviceProfile} (h : s.Holds d o dev) (who : A) (onoff : Bool) :
    (onDone env who d onoff).run s =
      match repatriateReserved s.ledger who d o.fee.toNat .free with
      | .error e => (.error (.currency e), s)
      | .ok l₁ =>
        match settlePenalty env.now o.untilTime l₁ d who dev.penalty.toNat with
        | .ok l => (.ok (), s.closed d (settledProfile dev onoff) l (.done who d))
        | .error e => (.error (.currency e), s.withLedger l₁) := by
  unfold onDone settlePenalty
  simp only [Dispatch.run_bind, Orders.run_get, Device.run_get, h.order, h.profile,
    Dispatch.okOr_some, Dispatch.run_pure, Currency.run_repatriateReserved]
  cases repatriateReserved s.ledger who d o.fee.toNat .free with
  | error e => rfl
  | ok l₁ =>
    by_cases hlate : env.now < o.untilTime
    · simp [hlate, closed, settledProfile]
    · cases hl : repatriateReserved l₁ d who dev.penalty.toNat .free <;>
        simp [hlate, hl, closed, settledProfile, withLedger]

/-- A done message for a device without an order or a profile changes nothing. -/
theorem onDone_refused {env : Env} {s : State A P L} {d : A}
    (h : ¬∃ o dev, s.Holds d o dev) (who : A) (onoff : Bool) :
    ∃ e, (onDone env who d onoff).run s = (.error e, s) := by
  unfold onDone
  cases ho : s.orders.lookup d with
  | none => simp [ho]
  | some o =>
    cases hd : s.device.lookup d with
    | none => simp [ho, hd]
    | some dev => exact absurd ⟨o, dev, ho, hd⟩ h

/-- The checks of `cancel`. -/
structure Cancels (env : Env) (s : State A P L) (origin : Origin A) (d : A) (o : OrderOf A P)
    (dev : DeviceProfile) : Prop where
  holds : s.Holds d o dev
  signed : origin = .signed o.client
  late : ¬env.now < o.untilTime

/-- A cancel whose checks pass closes the order and leaves the profile as it is. -/
theorem cancel_run {env : Env} {s : State A P L} {origin : Origin A} {d : A} {o : OrderOf A P}
    {dev : DeviceProfile} (h : Cancels env s origin d o dev) :
    (cancel env origin d).run s =
      match settlePenalty env.now o.untilTime (unreserve s.ledger o.client o.fee.toNat) d
        o.client dev.penalty.toNat with
      | .ok l => (.ok (), s.closed d dev l (.reject o.client d))
      | .error e =>
        (.error (.currency e), s.withLedger (unreserve s.ledger o.client o.fee.toNat)) := by
  rw [← orderReject_run, h.signed]
  simp only [cancel, ensureSigned_signed, Dispatch.run_bind, Dispatch.run_pure, Orders.run_get,
    Device.run_get, h.holds.order, h.holds.profile, Dispatch.okOr_some, Dispatch.run_ite]
  simp [h.late]

/-- A cancel that fails a check changes nothing. -/
theorem cancel_refused {env : Env} {s : State A P L} {origin : Origin A} {d : A}
    (h : ¬∃ o dev, Cancels env s origin d o dev) :
    ∃ e, (cancel env origin d).run s = (.error e, s) := by
  unfold cancel
  cases origin with
  | root => exact ⟨_, rfl⟩
  | none => exact ⟨_, rfl⟩
  | signed who =>
    cases ho : s.orders.lookup d with
    | none => simp [ho]
    | some o =>
      by_cases hc : env.now < o.untilTime ∨ o.client ≠ who
      · simp [ho, hc]
      · obtain ⟨hlate, hwho⟩ := not_or.mp hc
        cases hd : s.device.lookup d with
        | none => simp [ho, hd, hc]
        | some dev =>
          refine absurd ⟨o, dev, ⟨ho, hd⟩, ?_, hlate⟩ h
          rw [not_not.mp hwho]

/-! ### Placing an order -/

/-- The checks of `order`. -/
structure Accepts (env : Env) (s : State A P L) (origin : Origin A) (b : OrderBaseOf A P)
    (who : A) (dev : DeviceProfile) : Prop where
  signed : origin = .signed who
  before : ¬env.now ≥ b.untilTime
  fresh : b.device ∉ s.orders
  profile : s.device.lookup b.device = some dev
  ready : dev.state = .ready
  enough : ¬b.untilTime < env.now + dev.wcd
  solvent : canReserve s.ledger who b.fee.toNat = true

/-- The storage after an order is placed. -/
def placed [Codec A] [Codec P] (env : Env) (s : State A P L) (who : A) (b : OrderBaseOf A P)
    (dev : DeviceProfile) (l : L) : State A P L :=
  let message := Xcm.transact (Codec.encode (.newOrder who b : XCMPMessageOf A P))
  { orders := s.orders.insert b.device (b.convert who)
    device := s.device.insert b.device { dev with state := .busy }
    ledger := l
    sent := s.sent ++ [⟨dev.paraId, message, env.sendXcm dev.paraId message⟩]
    events := s.events ++ [.newOrder who b.device] }

/-- An order whose checks pass reserves the penalty, then the fee, and is stored. -/
theorem order_run [Codec A] [Codec P] {env : Env} {s : State A P L} {origin : Origin A}
    {b : OrderBaseOf A P} {who : A} {dev : DeviceProfile} (h : Accepts env s origin b who dev) :
    (order env origin b).run s =
      match reserve s.ledger b.device dev.penalty.toNat with
      | .error e => (.error (.currency e), s)
      | .ok l₁ =>
        match reserve l₁ who b.fee.toNat with
        | .error e => (.error (.currency e), s.withLedger l₁)
        | .ok l₂ => (.ok (), placed env s who b dev l₂) := by
  unfold order
  simp only [h.signed, ensureSigned_signed, Dispatch.run_bind, Dispatch.run_pure,
    Dispatch.run_ite, Dispatch.run_throw, Orders.run_containsKey, Device.run_get, h.profile,
    Dispatch.okOr_some, Currency.run_canReserve, h.before, h.fresh, h.ready, h.enough, h.solvent,
    Currency.run_reserve]
  cases reserve s.ledger b.device dev.penalty.toNat with
  | error e => simp
  | ok l₁ =>
    cases hl : reserve l₁ who b.fee.toNat with
    | error e => simp [hl, withLedger]
    | ok l₂ => simp [hl, placed, Order.convert_convert]

/-- An order that fails a check changes nothing. -/
theorem order_refused [Codec A] [Codec P] {env : Env} {s : State A P L} {origin : Origin A}
    {b : OrderBaseOf A P} (h : ¬∃ who dev, Accepts env s origin b who dev) :
    ∃ e, (order env origin b).run s = (.error e, s) := by
  unfold order
  cases origin with
  | root => exact ⟨_, rfl⟩
  | none => exact ⟨_, rfl⟩
  | signed who =>
    by_cases h₁ : env.now ≥ b.untilTime
    · simp [h₁]
    by_cases h₂ : b.device ∈ s.orders
    · simp [h₁, h₂]
    cases h₃ : s.device.lookup b.device with
    | none => simp [h₁, h₂, h₃]
    | some dev =>
      by_cases h₄ : dev.state = .ready
      · by_cases h₅ : b.untilTime < env.now + dev.wcd
        · simp [h₁, h₂, h₃, h₄, h₅]
        · by_cases h₆ : canReserve s.ledger who b.fee.toNat = true
          · exact absurd ⟨who, dev, rfl, h₁, h₂, h₃, h₄, h₅, h₆⟩ h
          · simp [h₁, h₂, h₃, h₄, h₅, h₆]
      · simp [h₁, h₂, h₃, h₄]

/-! ### The other calls -/

omit [ReservableCurrency L A] in
/-- A registration by a device without an order replaces its profile. -/
theorem register_run {s : State A P L} {id : A} (h : id ∉ s.orders) (paraid : ParaId)
    (penalty : Balance) (wcd : Moment) (onoff : Bool) :
    (register (.signed id) paraid penalty wcd onoff).run s =
      (.ok (), { s with
        device := s.device.insert id
          { wcd, penalty, state := if onoff then .ready else .off, paraId := paraid }
        events := s.events ++ [.newDevice id] }) := by
  simp [register, h]

omit [ReservableCurrency L A] in
/-- Any other registration changes nothing. -/
theorem register_refused {s : State A P L} {origin : Origin A}
    (h : ¬∃ id, origin = .signed id ∧ id ∉ s.orders) (paraid : ParaId) (penalty : Balance)
    (wcd : Moment) (onoff : Bool) :
    ∃ e, (register origin paraid penalty wcd onoff : Call (State A P L) _ _).run s =
      (.error e, s) := by
  unfold register
  cases origin with
  | root => exact ⟨_, rfl⟩
  | none => exact ⟨_, rfl⟩
  | signed id =>
    have hid : id ∈ s.orders := by
      by_contra hid
      exact h ⟨id, rfl, hid⟩
    simp [hid]

/-- What is left of a profile when its account is reaped. -/
def afterKill (dev : DeviceProfile) : Option DeviceProfile :=
  if dev.state = .off then none else some { dev with state := .timewait }

omit [ReservableCurrency L A] in
/-- Reaping an account changes the profile of that account only. -/
theorem onKilledAccount_run (s : State A P L) (who : A) :
    ∃ m, (onKilledAccount who).run s = (.ok (), { s with device := m }) ∧
      ∀ d, m.lookup d =
        if d = who then (s.device.lookup who).bind afterKill else s.device.lookup d := by
  unfold onKilledAccount afterKill
  simp only [Dispatch.run_bind, Device.run_get]
  cases hd : s.device.lookup who with
  | none =>
    refine ⟨s.device, rfl, fun d => ?_⟩
    split_ifs with h
    · rw [h, hd]; rfl
    · rfl
  | some dev =>
    by_cases hoff : dev.state = .off
    · refine ⟨s.device.erase who, by simp [hoff], fun d => ?_⟩
      rw [Finmap.lookup_erase_ite]
      simp [hoff]
    · refine ⟨s.device.insert who { dev with state := .timewait }, by simp [hoff], fun d => ?_⟩
      rw [Finmap.lookup_insert_ite]
      simp [hoff]

omit [DecidableEq A] [ReservableCurrency L A] in
/-- The test call only hands a message to the transport. -/
theorem test_run (env : Env) (origin : Origin A) (s : State A P L) :
    ∃ r sent, (test env origin).run s = (r, { s with sent := sent }) := by
  unfold test
  simp only [Dispatch.run_bind, run_sendXcm]
  cases env.sendXcm 200 _ with
  | ok _ => exact ⟨_, _, rfl⟩
  | error _ => exact ⟨_, _, rfl⟩

/-! ### Inversions -/

section Inversions

variable {env : Env} {s s' : State A P L} {who d : A} {onoff : Bool} {origin : Origin A}

variable (env s who d onoff) in
/-- A reject message leaves nothing behind, the fee released, or the order closed. -/
theorem onReject_exec :
    (onReject env who d onoff).exec s = s ∨ ∃ o dev, s.Holds d o dev ∧
      ((onReject env who d onoff).exec s = s.withLedger (unreserve s.ledger who o.fee.toNat) ∨
        ∃ l, settlePenalty env.now o.untilTime (unreserve s.ledger who o.fee.toNat) d o.client
            dev.penalty.toNat = .ok l ∧
          (onReject env who d onoff).exec s =
            s.closed d (settledProfile dev onoff) l (.reject who d)) := by
  by_cases hs : ∃ o dev, s.Holds d o dev
  · obtain ⟨o, dev, hs⟩ := hs
    refine .inr ⟨o, dev, hs, ?_⟩
    rw [Dispatch.exec, onReject_run hs]
    split
    · rename_i l hl
      exact .inr ⟨l, hl, rfl⟩
    · exact .inl rfl
  · exact .inl (Dispatch.exec_of_refused (onReject_refused hs who onoff))

variable (env s who d onoff) in
/-- A done message leaves nothing behind, the fee paid, or the order closed. -/
theorem onDone_exec :
    (onDone env who d onoff).exec s = s ∨ ∃ o dev l₁, s.Holds d o dev ∧
      repatriateReserved s.ledger who d o.fee.toNat .free = .ok l₁ ∧
      ((onDone env who d onoff).exec s = s.withLedger l₁ ∨
        ∃ l, settlePenalty env.now o.untilTime l₁ d who dev.penalty.toNat = .ok l ∧
          (onDone env who d onoff).exec s =
            s.closed d (settledProfile dev onoff) l (.done who d)) := by
  by_cases hs : ∃ o dev, s.Holds d o dev
  · obtain ⟨o, dev, hs⟩ := hs
    rw [Dispatch.exec, onDone_run hs]
    split
    · exact .inl rfl
    · rename_i l₁ hl₁
      refine .inr ⟨o, dev, l₁, hs, hl₁, ?_⟩
      split
      · rename_i l hl
        exact .inr ⟨l, hl, rfl⟩
      · exact .inl rfl
  · exact .inl (Dispatch.exec_of_refused (onDone_refused hs who onoff))

variable (env s origin d) in
/-- A cancel leaves nothing behind, the fee released, or the order closed. -/
theorem cancel_exec :
    (cancel env origin d).exec s = s ∨ ∃ o dev, Cancels env s origin d o dev ∧
      ((cancel env origin d).exec s =
          s.withLedger (unreserve s.ledger o.client o.fee.toNat) ∨
        ∃ l, settlePenalty env.now o.untilTime (unreserve s.ledger o.client o.fee.toNat) d
            o.client dev.penalty.toNat = .ok l ∧
          (cancel env origin d).exec s = s.closed d dev l (.reject o.client d)) := by
  by_cases hs : ∃ o dev, Cancels env s origin d o dev
  · obtain ⟨o, dev, hs⟩ := hs
    refine .inr ⟨o, dev, hs, ?_⟩
    rw [Dispatch.exec, cancel_run hs]
    split
    · rename_i l hl
      exact .inr ⟨l, hl, rfl⟩
    · exact .inl rfl
  · exact .inl (Dispatch.exec_of_refused (cancel_refused hs))

variable (env s origin) in
/-- An order leaves nothing behind, the penalty reserved, or both amounts reserved and itself
placed. -/
theorem order_exec [Codec A] [Codec P] (b : OrderBaseOf A P) :
    (order env origin b).exec s = s ∨ ∃ who dev l₁, Accepts env s origin b who dev ∧
      reserve s.ledger b.device dev.penalty.toNat = .ok l₁ ∧
      ((order env origin b).exec s = s.withLedger l₁ ∨
        ∃ l₂, reserve l₁ who b.fee.toNat = .ok l₂ ∧
          (order env origin b).run s = (.ok (), placed env s who b dev l₂)) := by
  by_cases hs : ∃ who dev, Accepts env s origin b who dev
  · obtain ⟨who, dev, hs⟩ := hs
    have hrun := order_run hs
    split at hrun
    · exact .inl (by rw [Dispatch.exec, hrun])
    · rename_i l₁ hl₁
      refine .inr ⟨who, dev, l₁, hs, hl₁, ?_⟩
      split at hrun
      · exact .inl (by rw [Dispatch.exec, hrun])
      · rename_i l₂ hl₂
        exact .inr ⟨l₂, hl₂, hrun⟩
  · exact .inl (Dispatch.exec_of_refused (order_refused hs))

variable (s origin onoff) in
omit [ReservableCurrency L A] in
/-- A registration leaves nothing behind or replaces the profile of a device without an order. -/
theorem register_exec (paraid : ParaId) (penalty : Balance) (wcd : Moment) :
    (register origin paraid penalty wcd onoff).exec s = s ∨
      ∃ id, origin = .signed id ∧ id ∉ s.orders ∧
        (register origin paraid penalty wcd onoff).exec s = { s with
          device := s.device.insert id
            { wcd, penalty, state := if onoff then .ready else .off, paraId := paraid }
          events := s.events ++ [.newDevice id] } := by
  by_cases hs : ∃ id, origin = .signed id ∧ id ∉ s.orders
  · obtain ⟨id, rfl, hid⟩ := hs
    refine .inr ⟨id, rfl, hid, ?_⟩
    rw [Dispatch.exec, register_run hid]
  · exact .inl (Dispatch.exec_of_refused (register_refused hs paraid penalty wcd onoff))

/-- A reject message that succeeds has closed the order of its device. -/
theorem onReject_ok (h : (onReject env who d onoff).run s = (.ok (), s')) :
    ∃ o dev l, s.Holds d o dev ∧
      settlePenalty env.now o.untilTime (unreserve s.ledger who o.fee.toNat) d o.client
        dev.penalty.toNat = .ok l ∧
      s' = s.closed d (settledProfile dev onoff) l (.reject who d) := by
  by_cases hs : ∃ o dev, s.Holds d o dev
  · obtain ⟨o, dev, hs⟩ := hs
    rw [onReject_run hs] at h
    split at h
    · rename_i l hl
      exact ⟨o, dev, l, hs, hl, (Prod.ext_iff.mp h).2.symm⟩
    · cases h
  · exact absurd h (Dispatch.run_ne_ok (onReject_refused hs who onoff))

/-- A done message that succeeds has closed the order of its device. -/
theorem onDone_ok (h : (onDone env who d onoff).run s = (.ok (), s')) :
    ∃ o dev l₁ l, s.Holds d o dev ∧
      repatriateReserved s.ledger who d o.fee.toNat .free = .ok l₁ ∧
      settlePenalty env.now o.untilTime l₁ d who dev.penalty.toNat = .ok l ∧
      s' = s.closed d (settledProfile dev onoff) l (.done who d) := by
  by_cases hs : ∃ o dev, s.Holds d o dev
  · obtain ⟨o, dev, hs⟩ := hs
    rw [onDone_run hs] at h
    split at h
    · cases h
    · rename_i l₁ hl₁
      split at h
      · rename_i l hl
        exact ⟨o, dev, l₁, l, hs, hl₁, hl, (Prod.ext_iff.mp h).2.symm⟩
      · cases h
  · exact absurd h (Dispatch.run_ne_ok (onDone_refused hs who onoff))

/-- A cancel that succeeds has closed the order of its device. -/
theorem cancel_ok (h : (cancel env origin d).run s = (.ok (), s')) :
    ∃ o dev l, Cancels env s origin d o dev ∧
      settlePenalty env.now o.untilTime (unreserve s.ledger o.client o.fee.toNat) d o.client
        dev.penalty.toNat = .ok l ∧
      s' = s.closed d dev l (.reject o.client d) := by
  by_cases hs : ∃ o dev, Cancels env s origin d o dev
  · obtain ⟨o, dev, hs⟩ := hs
    rw [cancel_run hs] at h
    split at h
    · rename_i l hl
      exact ⟨o, dev, l, hs, hl, (Prod.ext_iff.mp h).2.symm⟩
    · cases h
  · exact absurd h (Dispatch.run_ne_ok (cancel_refused hs))

/-- An order that succeeds has passed the checks and reserved both amounts. -/
theorem order_ok [Codec A] [Codec P] {b : OrderBaseOf A P}
    (h : (order env origin b).run s = (.ok (), s')) :
    ∃ who dev l₁ l₂, Accepts env s origin b who dev ∧
      reserve s.ledger b.device dev.penalty.toNat = .ok l₁ ∧
      reserve l₁ who b.fee.toNat = .ok l₂ ∧ s' = placed env s who b dev l₂ := by
  by_cases hs : ∃ who dev, Accepts env s origin b who dev
  · obtain ⟨who, dev, hs⟩ := hs
    rw [order_run hs] at h
    split at h
    · cases h
    · rename_i l₁ hl₁
      split at h
      · cases h
      · rename_i l₂ hl₂
        exact ⟨who, dev, l₁, l₂, hs, hl₁, hl₂, (Prod.ext_iff.mp h).2.symm⟩
  · exact absurd h (Dispatch.run_ne_ok (order_refused hs))

omit [ReservableCurrency L A] in
/-- A registration that succeeds was signed by a device without an order. -/
theorem register_ok {paraid : ParaId} {penalty : Balance} {wcd : Moment}
    (h : (register origin paraid penalty wcd onoff).run s = (.ok (), s')) :
    ∃ id, origin = .signed id ∧ id ∉ s.orders ∧
      s' = { s with
        device := s.device.insert id
          { wcd, penalty, state := if onoff then .ready else .off, paraId := paraid }
        events := s.events ++ [.newDevice id] } := by
  by_cases hs : ∃ id, origin = .signed id ∧ id ∉ s.orders
  · obtain ⟨id, rfl, hid⟩ := hs
    rw [register_run hid] at h
    exact ⟨id, rfl, hid, (Prod.ext_iff.mp h).2.symm⟩
  · exact absurd h (Dispatch.run_ne_ok (register_refused hs paraid penalty wcd onoff))

end Inversions

end XcmAutoBank.Xchange
