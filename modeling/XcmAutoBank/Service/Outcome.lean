import XcmAutoBank.Service.Pallet
import XcmAutoBank.Common.Settlement
import XcmAutoBank.Foundation.FiniteMap

/-!
# What a call of the service pallet can do

The calls that act on an order branch on where the order came from: a local order is settled on
the chain's ledger, a remote one by a message.  `rejectLedger` and `doneLedger` are the ledger
after such a call, `notified` the storage with the message.  As for the client pallet there is
one equation for each call whose checks pass (`*_run`), and a call that fails a check returns an
error and changes nothing (`*_refused`).  What a call can leave behind (`*_exec`) and the inversions
of calls that succeed (`*_ok`) are read off these.
-/

namespace XcmAutoBank.Service

open ReservableCurrency Storage

variable {A P L : Type} [DecidableEq A] [ReservableCurrency L A]

/-- The profile with the state a settlement leaves. -/
def settledProfile (dev : DeviceProfile) (onoff : Bool) : DeviceProfile :=
  { dev with state := if onoff then .ready else .off }

/-- The ledger after an order is rejected or cancelled. -/
def rejectLedger (selfParaId : ParaId) (now : Moment) (o : OrderOf A P) (d : A)
    (dev : DeviceProfile) (l : L) : Except CurrencyError L :=
  if o.paraid = selfParaId then
    settlePenalty now o.untilTime (unreserve l o.client o.fee.toNat) d o.client dev.penalty.toNat
  else .ok l

/-- The ledger after an order is done. -/
def doneLedger (selfParaId : ParaId) (now : Moment) (o : OrderOf A P) (d : A)
    (dev : DeviceProfile) (l : L) : Except CurrencyError L :=
  if o.paraid = selfParaId then do
    let l ← repatriateReserved l o.client d o.fee.toNat .free
    settlePenalty now o.untilTime l d o.client dev.penalty.toNat
  else .ok l

/-- A storage whose order was removed and whose profile was written, without an event. -/
def dropped (s : State A P L) (d : A) (dev : DeviceProfile) (l : L) : State A P L :=
  { s with orders := s.orders.erase d, device := s.device.insert d dev, ledger := l }

section Messages

variable [Codec A] [Codec P]

/-- The storage after the chain of a remote order was told about it. -/
def notified (selfParaId : ParaId) (env : Env) (o : OrderOf A P) (msg : XCMPMessageOf A P)
    (s : State A P L) : State A P L :=
  if o.paraid = selfParaId then s
  else
    let message := Xcm.transact (Codec.encode msg)
    { s with sent := s.sent ++ [⟨o.paraid, message, env.sendXcm o.paraid message⟩] }

/-- The storage after a device has taken on its order. -/
def taken (selfParaId : ParaId) (env : Env) (s : State A P L) (o : OrderOf A P) (d : A)
    (dev : DeviceProfile) : State A P L :=
  { notified selfParaId env o (.orderAccept o.client d) s with
    device := s.device.insert d { dev with state := .accepted }
    events := s.events ++ [.accept d] }

section Fields

variable (selfParaId : ParaId) (env : Env) (o : OrderOf A P) (msg : XCMPMessageOf A P)
  (s : State A P L)

omit [ReservableCurrency L A]

omit [DecidableEq A] in
@[simp] theorem notified_orders : (notified selfParaId env o msg s).orders = s.orders := by
  unfold notified
  split_ifs <;> rfl

omit [DecidableEq A] in
@[simp] theorem notified_device : (notified selfParaId env o msg s).device = s.device := by
  unfold notified
  split_ifs <;> rfl

omit [DecidableEq A] in
@[simp] theorem notified_ledger : (notified selfParaId env o msg s).ledger = s.ledger := by
  unfold notified
  split_ifs <;> rfl

variable (d : A) (dev : DeviceProfile)

@[simp] theorem taken_orders : (taken selfParaId env s o d dev).orders = s.orders :=
  notified_orders selfParaId env o _ s

@[simp] theorem taken_device : (taken selfParaId env s o d dev).device =
    s.device.insert d { dev with state := .accepted } := rfl

@[simp] theorem taken_ledger : (taken selfParaId env s o d dev).ledger = s.ledger :=
  notified_ledger selfParaId env o _ s

end Fields

variable {selfParaId : ParaId} {env : ServiceEnv A P} {s : State A P L} {d : A}
  {o : OrderOf A P} {dev : DeviceProfile} {origin : Origin A}

/-! ### Receiving an order -/

/-- The checks of `orderReceived`; the last one is made for local orders only. -/
structure Receives (selfParaId : ParaId) (env : ServiceEnv A P) (s : State A P L)
    (o : OrderOf A P) (d : A) (dev : DeviceProfile) (state : DeviceState) : Prop where
  before : ¬env.now ≥ o.untilTime
  fresh : d ∉ s.orders
  profile : s.device.lookup d = some dev
  ready : dev.state = .ready
  enough : ¬o.untilTime < env.now + dev.wcd
  answer : env.onReceived d o = some state
  solvent : o.paraid = selfParaId → canReserve s.ledger o.client o.fee.toNat = true

/-- The storage after an order is stored and the device has answered it. -/
def stored (selfParaId : ParaId) (env : Env) (s : State A P L) (o : OrderOf A P) (d : A)
    (dev : DeviceProfile) (state : DeviceState) (l : L) : State A P L :=
  let s' := if state = .accepted then
      notified selfParaId env o (.orderAccept o.client d) s
    else s
  { orders := s.orders.insert d o
    device := s.device.insert d { dev with state := state }
    ledger := l
    sent := s'.sent
    events := s.events ++ .newOrder d :: if state = .accepted then [.accept d] else [] }

omit [ReservableCurrency L A] in
/-- Accepting an order marks the device and tells the chain of a remote client. -/
theorem orderAccept_run (now : Moment) :
    (orderAccept selfParaId env o now d dev).run s =
      (.ok (), taken selfParaId env.toEnv s o d dev) := by
  by_cases hlocal : o.paraid = selfParaId
  · simp [orderAccept, taken, notified, hlocal]
  · simp [orderAccept, taken, notified, hlocal]

/-- An order whose checks pass is stored, against new reserves when it is local. -/
theorem orderReceived_run {state : DeviceState} (h : Receives selfParaId env s o d dev state) :
    (orderReceived selfParaId env o d).run s =
      if o.paraid = selfParaId then
        match reserve s.ledger d dev.penalty.toNat with
        | .error e => (.error (.currency e), s)
        | .ok l₁ =>
          match reserve l₁ o.client o.fee.toNat with
          | .error e => (.error (.currency e), s.withLedger l₁)
          | .ok l₂ => (.ok (), stored selfParaId env.toEnv s o d dev state l₂)
      else (.ok (), stored selfParaId env.toEnv s o d dev state s.ledger) := by
  -- what follows the reservations is the same in both cases
  have hstore (l : L) : (if state = .accepted then
        orderAccept selfParaId env o env.now d { dev with state := state }
      else Device.insert d { dev with state := state }).run
        { s with
          orders := s.orders.insert d o, ledger := l, events := s.events ++ [.newOrder d] } =
      (.ok (), stored selfParaId env.toEnv s o d dev state l) := by
    by_cases haccepted : state = .accepted
    · subst haccepted
      simp only [Dispatch.run_ite, orderAccept_run, stored]
      by_cases hlocal : o.paraid = selfParaId <;> simp [taken, notified, hlocal]
    · simp [haccepted, stored]
  unfold orderReceived
  simp only [Dispatch.run_bind, Dispatch.run_pure, Dispatch.run_ite, Orders.run_containsKey,
    Device.run_get, h.before, h.fresh, h.profile, h.ready, h.enough, h.answer,
    Dispatch.okOr_some, Currency.run_canReserve, Currency.run_reserve]
  by_cases hlocal : o.paraid = selfParaId
  · simp only [hlocal, h.solvent hlocal]
    cases reserve s.ledger d dev.penalty.toNat with
    | error e => simp
    | ok l₁ =>
      cases hl : reserve l₁ o.client o.fee.toNat with
      | error e => simp [hl, withLedger]
      | ok l₂ => simpa [hl] using hstore l₂
  · simpa [hlocal] using hstore s.ledger

/-- An order that fails a check changes nothing. -/
theorem orderReceived_refused
    (h : ¬∃ dev state, Receives selfParaId env s o d dev state) :
    ∃ e, (orderReceived selfParaId env o d).run s = (.error e, s) := by
  unfold orderReceived
  by_cases h₁ : env.now ≥ o.untilTime
  · simp [h₁]
  by_cases h₂ : d ∈ s.orders
  · simp [h₁, h₂]
  cases h₃ : s.device.lookup d with
  | none => simp [h₁, h₂, h₃]
  | some dev =>
    by_cases h₄ : dev.state = .ready
    · by_cases h₅ : o.untilTime < env.now + dev.wcd
      · simp [h₁, h₂, h₃, h₄, h₅]
      · cases h₆ : env.onReceived d o with
        | none => simp [h₁, h₂, h₃, h₄, h₅]
        | some state =>
          by_cases h₇ : o.paraid = selfParaId → canReserve s.ledger o.client o.fee.toNat = true
          · exact absurd ⟨dev, state, h₁, h₂, h₃, h₄, h₅, h₆, h₇⟩ h
          · obtain ⟨hlocal, hpoor⟩ := Classical.not_imp.mp h₇
            simp [h₁, h₂, h₃, h₄, h₅, hlocal, hpoor]
    · simp [h₁, h₂, h₃, h₄]

/-- A signed order is received with the chain's own para id. -/
theorem order_signed (who : A) (b : OrderBaseOf A P) :
    (order selfParaId env (.signed who) b : Call (State A P L) _ _) =
      orderReceived selfParaId env (receivedOrder b selfParaId who) b.device := by
  simp [order]

/-- An unsigned order changes nothing. -/
theorem order_unsigned (h : ∀ who, origin ≠ .signed who) (b : OrderBaseOf A P) :
    ∃ e, (order selfParaId env origin b).run s = (.error e, s) := by
  cases origin with
  | root => exact ⟨_, rfl⟩
  | none => exact ⟨_, rfl⟩
  | signed who => exact absurd rfl (h who)

/-! ### Rejecting an order -/

/-- A rejected order is settled on the ledger when it is local and answered by a message when it is
remote. -/
theorem orderReject_run (now : Moment) (onoff : Bool) :
    (orderReject selfParaId env (some o) now d dev onoff).run s =
      match rejectLedger selfParaId now o d dev s.ledger with
      | .ok l => (.ok (), (notified selfParaId env.toEnv o (.orderReject o.client d onoff) s).closed
          d dev l (.reject d))
      | .error e =>
        (.error (.currency e), s.withLedger (unreserve s.ledger o.client o.fee.toNat)) := by
  by_cases hlocal : o.paraid = selfParaId
  · unfold orderReject rejectLedger settlePenalty
    by_cases hlate : now < o.untilTime
    · simp [hlocal, hlate, closed, notified]
    · simp only [hlocal, hlate, Dispatch.run_bind, Currency.run_unreserve, if_true,
        if_false, Currency.run_repatriateReserved]
      cases repatriateReserved (unreserve s.ledger o.client o.fee.toNat) d o.client
        dev.penalty.toNat .free <;> simp [closed, notified, hlocal, withLedger]
  · simp [orderReject, rejectLedger, hlocal, notified, closed]

omit [Codec A] [Codec P] in
/-- Rejecting without an order only writes the profile. -/
theorem orderReject_none_run [Codec A] [Codec P] (now : Moment) (onoff : Bool) :
    (orderReject selfParaId env none now d dev onoff).run s =
      (.ok (), s.closed d dev s.ledger (.reject d)) := by
  simp [orderReject, closed]

/-- The checks of `cancel`. -/
structure Cancels (env : ServiceEnv A P) (s : State A P L) (origin : Origin A) (d : A)
    (o : OrderOf A P) (dev : DeviceProfile) : Prop where
  holds : s.Holds d o dev
  signed : origin = .signed o.client
  late : ¬env.now < o.untilTime

/-- A cancel whose checks pass rejects the order and leaves the profile as it is. -/
theorem cancel_run (h : Cancels env s origin d o dev) :
    (cancel selfParaId env origin d).run s =
      match rejectLedger selfParaId env.now o d dev s.ledger with
      | .ok l => (.ok (), (notified selfParaId env.toEnv o (.orderReject o.client d false) s).closed
          d dev l (.reject d))
      | .error e =>
        (.error (.currency e), s.withLedger (unreserve s.ledger o.client o.fee.toNat)) := by
  rw [← orderReject_run, h.signed]
  simp only [cancel, ensureSigned_signed, Dispatch.run_bind, Dispatch.run_pure, Orders.run_get,
    Device.run_get, h.holds.order, h.holds.profile, Dispatch.okOr_some, Dispatch.run_ite]
  simp [h.late]

/-- A cancel whose checks pass is a rejection of the stored order. -/
theorem cancel_reject_run (h : Cancels env s origin d o dev) :
    (cancel selfParaId env origin d).run s =
      (orderReject selfParaId env (s.orders.lookup d) env.now d dev false).run s := by
  rw [cancel_run h, h.holds.order, orderReject_run]

/-- A cancel that fails a check changes nothing. -/
theorem cancel_refused (h : ¬∃ o dev, Cancels env s origin d o dev) :
    ∃ e, (cancel selfParaId env origin d).run s = (.error e, s) := by
  unfold cancel
  cases origin with
  | root => exact ⟨_, rfl⟩
  | none => exact ⟨_, rfl⟩
  | signed who =>
    cases ho : s.orders.lookup d with
    | none => simp [ho]
    | some o =>
      by_cases hc : env.now < o.untilTime ∨ o.client ≠ who
      · simp [ho, hc]
      · obtain ⟨hlate, hwho⟩ := not_or.mp hc
        cases hd : s.device.lookup d with
        | none => simp [ho, hd, hc]
        | some dev =>
          refine absurd ⟨o, dev, ⟨ho, hd⟩, ?_, hlate⟩ h
          rw [not_not.mp hwho]

/-- The checks of `accept` for a device that rejects. -/
structure Rejects (s : State A P L) (origin : Origin A) (d : A) (dev : DeviceProfile) : Prop where
  signed : origin = .signed d
  profile : s.device.lookup d = some dev
  engaged : dev.state = .busy ∨ dev.state = .accepted

/-- A device that rejects closes its order, if it has one. -/
theorem accept_reject_run (h : Rejects s origin d dev) (onoff : Bool) :
    (accept selfParaId env origin true onoff).run s =
      (orderReject selfParaId env (s.orders.lookup d) env.now d (settledProfile dev onoff)
        onoff).run s := by
  rw [h.signed]
  simp only [accept, ensureSigned_signed, Dispatch.run_bind, Dispatch.run_pure, Orders.run_get,
    Device.run_get, h.profile, Dispatch.okOr_some, Dispatch.run_ite]
  simp [h.engaged, settledProfile]

/-- A reject that fails a check changes nothing. -/
theorem accept_reject_refused (h : ¬∃ d dev, Rejects s origin d dev) (onoff : Bool) :
    ∃ e, (accept selfParaId env origin true onoff).run s = (.error e, s) := by
  unfold accept
  cases origin with
  | root => exact ⟨_, rfl⟩
  | none => exact ⟨_, rfl⟩
  | signed d =>
    cases hd : s.device.lookup d with
    | none => simp [hd]
    | some dev =>
      by_cases hengaged : dev.state = .busy ∨ dev.state = .accepted
      · exact absurd ⟨d, dev, rfl, hd, hengaged⟩ h
      · simp [hd, not_or.mp hengaged]

/-! ### Taking on an order -/

/-- The checks of `accept` for a device that takes on its order. -/
structure Takes (env : ServiceEnv A P) (s : State A P L) (origin : Origin A) (d : A)
    (o : OrderOf A P) (dev : DeviceProfile) : Prop where
  holds : s.Holds d o dev
  signed : origin = .signed d
  busy : dev.state = .busy
  before : ¬env.now ≥ o.untilTime

/-- A device that takes on its order is marked and tells the chain of a remote client. -/
theorem accept_run (h : Takes env s origin d o dev) (onoff : Bool) :
    (accept selfParaId env origin false onoff).run s =
      (.ok (), taken selfParaId env.toEnv s o d dev) := by
  rw [← orderAccept_run env.now, h.signed]
  simp only [accept, ensureSigned_signed, Dispatch.run_bind, Dispatch.run_pure, Orders.run_get,
    Device.run_get, h.holds.order, h.holds.profile, Dispatch.okOr_some, Dispatch.run_ite]
  simp [h.busy, h.before]

/-- An accept that fails a check changes nothing. -/
theorem accept_refused (h : ¬∃ d o dev, Takes env s origin d o dev) (onoff : Bool) :
    ∃ e, (accept selfParaId env origin false onoff).run s = (.error e, s) := by
  unfold accept
  cases origin with
  | root => exact ⟨_, rfl⟩
  | none => exact ⟨_, rfl⟩
  | signed d =>
    cases hd : s.device.lookup d with
    | none => simp [hd]
    | some dev =>
      by_cases hbusy : dev.state = .busy
      · cases ho : s.orders.lookup d with
        | none => simp [hd, ho, hbusy]
        | some o =>
          by_cases hbefore : env.now ≥ o.untilTime
          · simp [hd, ho, hbusy, hbefore]
          · exact absurd ⟨d, o, dev, ⟨ho, hd⟩, rfl, hbusy, hbefore⟩ h
      · simp [hd, hbusy]

/-! ### Finishing an order -/

/-- The checks of `done`. -/
structure Finishes (s : State A P L) (origin : Origin A) (d : A) (o : OrderOf A P)
    (dev : DeviceProfile) : Prop where
  holds : s.Holds d o dev
  signed : origin = .signed d
  accepted : dev.state = .accepted

variable (selfParaId env) in
/-- A finished order is paid on the ledger when it is local and answered by a message when it is
remote; the order is gone and the profile written even when it cannot be paid, and the fee may have
been paid alone. -/
theorem done_run (h : Finishes s origin d o dev) (onoff : Bool) :
    (∃ l, doneLedger selfParaId env.now o d dev s.ledger = .ok l ∧
      (done selfParaId env origin onoff).run s =
        (.ok (), (notified selfParaId env.toEnv o (.orderDone o.client d onoff) s).closed
          d (settledProfile dev onoff) l (.done d))) ∨
    (∃ e l, doneLedger selfParaId env.now o d dev s.ledger = .error e ∧
      (done selfParaId env origin onoff).run s =
        (.error (.currency e), dropped s d (settledProfile dev onoff) l) ∧
      (l = s.ledger ∨
        repatriateReserved s.ledger o.client d o.fee.toNat .free = .ok l)) := by
  have hrun : (done selfParaId env origin onoff).run s =
      (orderDone selfParaId env o env.now d dev onoff).run
        { s with orders := s.orders.erase d } := by
    rw [h.signed]
    simp [done, h.holds.order, h.holds.profile, h.accepted]
  rw [hrun]
  unfold orderDone doneLedger settlePenalty
  by_cases hlocal : o.paraid = selfParaId
  · simp only [hlocal, if_true, Dispatch.run_bind, Device.run_insert, Dispatch.run_ite,
      Currency.run_repatriateReserved, Currency.run_unreserve]
    cases hl : repatriateReserved s.ledger o.client d o.fee.toNat .free with
    | error e => exact .inr ⟨e, s.ledger, rfl, rfl, .inl rfl⟩
    | ok l₁ =>
      by_cases hlate : env.now < o.untilTime
      · refine .inl ⟨unreserve l₁ d dev.penalty.toNat, ?_, ?_⟩
        · simp [bind, Except.bind, hlate]
        · simp [hlate, closed, notified, hlocal, settledProfile]
      · cases hl' : repatriateReserved l₁ d o.client dev.penalty.toNat .free with
        | error e =>
          refine .inr ⟨e, l₁, ?_, ?_, .inr rfl⟩
          · simp [bind, Except.bind, hlate, hl']
          · simp [hlate, hl', dropped, settledProfile]
        | ok l =>
          refine .inl ⟨l, ?_, ?_⟩
          · simp [bind, Except.bind, hlate, hl']
          · simp [hlate, hl', closed, notified, hlocal, settledProfile]
  · refine .inl ⟨s.ledger, by simp [hlocal], ?_⟩
    simp [hlocal, notified, closed, settledProfile]

/-- A done call that fails a check changes nothing. -/
theorem done_refused (h : ¬∃ d o dev, Finishes s origin d o dev) (onoff : Bool) :
    ∃ e, (done selfParaId env origin onoff).run s = (.error e, s) := by
  unfold done
  cases origin with
  | root => exact ⟨_, rfl⟩
  | none => exact ⟨_, rfl⟩
  | signed d =>
    cases hd : s.device.lookup d with
    | none => simp [hd]
    | some dev =>
      by_cases haccepted : dev.state = .accepted
      · cases ho : s.orders.lookup d with
        | none =>
          -- taking an order that is not there changes nothing
          have herase : s.orders.erase d = s.orders :=
            Finmap.erase_of_notMem (Finmap.lookup_eq_none.mp ho)
          simp [hd, ho, haccepted, herase]
        | some o => exact absurd ⟨d, o, dev, ⟨ho, hd⟩, rfl, haccepted⟩ h
      · simp [hd, haccepted]

/-! ### Inversions -/

variable {s' : State A P L} {onoff : Bool}

variable (selfParaId env s o d) in
/-- A received order leaves nothing behind, the penalty of a local order reserved, or the order
stored. -/
theorem orderReceived_exec :
    (orderReceived selfParaId env o d).exec s = s ∨
      ∃ dev state l, Receives selfParaId env s o d dev state ∧
        ((orderReceived selfParaId env o d).exec s = s.withLedger l ∧ o.paraid = selfParaId ∧
            reserve s.ledger d dev.penalty.toNat = .ok l ∨
          (orderReceived selfParaId env o d).exec s =
              stored selfParaId env.toEnv s o d dev state l ∧
            (o.paraid = selfParaId → ∃ l₁, reserve s.ledger d dev.penalty.toNat = .ok l₁ ∧
              reserve l₁ o.client o.fee.toNat = .ok l) ∧
            (o.paraid ≠ selfParaId → l = s.ledger)) := by
  by_cases hr : ∃ dev state, Receives selfParaId env s o d dev state
  · obtain ⟨dev, state, hr⟩ := hr
    rw [Dispatch.exec, orderReceived_run hr]
    by_cases hlocal : o.paraid = selfParaId
    · rw [if_pos hlocal]
      split
      · exact .inl rfl
      · rename_i l₁ hl₁
        split
        · exact .inr ⟨dev, state, l₁, hr, .inl ⟨rfl, hlocal, hl₁⟩⟩
        · rename_i l₂ hl₂
          exact .inr ⟨dev, state, l₂, hr, .inr ⟨rfl, fun _ => ⟨l₁, hl₁, hl₂⟩,
            fun hremote => absurd hlocal hremote⟩⟩
    · rw [if_neg hlocal]
      exact .inr ⟨dev, state, s.ledger, hr, .inr ⟨rfl, fun hself => absurd hself hlocal,
        fun _ => rfl⟩⟩
  · exact .inl (Dispatch.exec_of_refused (orderReceived_refused hr))

variable (selfParaId env s origin onoff) in
/-- An accept leaves nothing behind or marks the device. -/
theorem accept_exec :
    (accept selfParaId env origin false onoff).exec s = s ∨
      ∃ d o dev, Takes env s origin d o dev ∧
        (accept selfParaId env origin false onoff).exec s =
          taken selfParaId env.toEnv s o d dev := by
  by_cases ht : ∃ d o dev, Takes env s origin d o dev
  · obtain ⟨d, o, dev, ht⟩ := ht
    refine .inr ⟨d, o, dev, ht, ?_⟩
    rw [Dispatch.exec, accept_run ht]
  · exact .inl (Dispatch.exec_of_refused (accept_refused ht onoff))

variable (selfParaId env s origin onoff) in
/-- A done call leaves nothing behind or closes the order; only a local order can be closed without
being paid. -/
theorem done_exec :
    (done selfParaId env origin onoff).exec s = s ∨
      ∃ d o dev l, Finishes s origin d o dev ∧
        (doneLedger selfParaId env.now o d dev s.ledger = .ok l ∧
            (done selfParaId env origin onoff).exec s =
              (notified selfParaId env.toEnv o (.orderDone o.client d onoff) s).closed
                d (settledProfile dev onoff) l (.done d) ∨
          o.paraid = selfParaId ∧
            (done selfParaId env origin onoff).exec s =
              dropped s d (settledProfile dev onoff) l ∧
            (l = s.ledger ∨
              repatriateReserved s.ledger o.client d o.fee.toNat .free = .ok l)) := by
  by_cases hf : ∃ d o dev, Finishes s origin d o dev
  · obtain ⟨d, o, dev, hf⟩ := hf
    rcases done_run selfParaId env hf onoff with ⟨l, hl, hrun⟩ | ⟨e, l, hl, hrun, hpaid⟩
    · exact .inr ⟨d, o, dev, l, hf, .inl ⟨hl, congrArg Prod.snd hrun⟩⟩
    · -- only a local order has a transfer that can fail
      have hlocal : o.paraid = selfParaId := by
        by_contra hremote
        rw [doneLedger, if_neg hremote] at hl
        cases hl
      exact .inr ⟨d, o, dev, l, hf, .inr ⟨hlocal, congrArg Prod.snd hrun, hpaid⟩⟩
  · exact .inl (Dispatch.exec_of_refused (done_refused hf onoff))

/-- A received order that succeeds is stored, against new reserves when it is local. -/
theorem orderReceived_ok (h : (orderReceived selfParaId env o d).run s = (.ok (), s')) :
    ∃ dev state l, Receives selfParaId env s o d dev state ∧
      s' = stored selfParaId env.toEnv s o d dev state l ∧
      (o.paraid = selfParaId → ∃ l₁, reserve s.ledger d dev.penalty.toNat = .ok l₁ ∧
        reserve l₁ o.client o.fee.toNat = .ok l) ∧
      (o.paraid ≠ selfParaId → l = s.ledger) := by
  by_cases hr : ∃ dev state, Receives selfParaId env s o d dev state
  · obtain ⟨dev, state, hr⟩ := hr
    rw [orderReceived_run hr] at h
    by_cases hlocal : o.paraid = selfParaId
    · rw [if_pos hlocal] at h
      split at h
      · cases h
      · rename_i l₁ hl₁
        split at h
        · cases h
        · rename_i l₂ hl₂
          exact ⟨dev, state, l₂, hr, (Prod.ext_iff.mp h).2.symm, fun _ => ⟨l₁, hl₁, hl₂⟩,
            fun hremote => absurd hlocal hremote⟩
    · rw [if_neg hlocal] at h
      exact ⟨dev, state, s.ledger, hr, (Prod.ext_iff.mp h).2.symm,
        fun hself => absurd hself hlocal, fun _ => rfl⟩
  · exact absurd h (Dispatch.run_ne_ok (orderReceived_refused hr))

/-- An order that succeeds was signed and received. -/
theorem order_ok {b : OrderBaseOf A P}
    (h : (order selfParaId env origin b).run s = (.ok (), s')) :
    ∃ who, origin = .signed who ∧
      (orderReceived selfParaId env (receivedOrder b selfParaId who) b.device).run s =
        (.ok (), s') := by
  by_cases hwho : ∃ who, origin = .signed who
  · obtain ⟨who, rfl⟩ := hwho
    rw [order_signed] at h
    exact ⟨who, rfl, h⟩
  · exact absurd h (Dispatch.run_ne_ok (order_unsigned (fun who heq => hwho ⟨who, heq⟩) b))

/-- A cancel that succeeds has rejected the order of its device. -/
theorem cancel_ok (h : (cancel selfParaId env origin d).run s = (.ok (), s')) :
    ∃ o dev l, Cancels env s origin d o dev ∧
      rejectLedger selfParaId env.now o d dev s.ledger = .ok l ∧
      s' = (notified selfParaId env.toEnv o (.orderReject o.client d false) s).closed
        d dev l (.reject d) := by
  by_cases hc : ∃ o dev, Cancels env s origin d o dev
  · obtain ⟨o, dev, hc⟩ := hc
    rw [cancel_run hc] at h
    split at h
    · rename_i l hl
      exact ⟨o, dev, l, hc, hl, (Prod.ext_iff.mp h).2.symm⟩
    · cases h
  · exact absurd h (Dispatch.run_ne_ok (cancel_refused hc))

/-- An accept that succeeds has marked the device. -/
theorem accept_ok (h : (accept selfParaId env origin false onoff).run s = (.ok (), s')) :
    ∃ d o dev, Takes env s origin d o dev ∧ s' = taken selfParaId env.toEnv s o d dev := by
  by_cases ht : ∃ d o dev, Takes env s origin d o dev
  · obtain ⟨d, o, dev, ht⟩ := ht
    rw [accept_run ht] at h
    exact ⟨d, o, dev, ht, (Prod.ext_iff.mp h).2.symm⟩
  · exact absurd h (Dispatch.run_ne_ok (accept_refused ht onoff))

/-- A reject that succeeds has rejected the order of the device, or only written its profile. -/
theorem accept_reject_ok (h : (accept selfParaId env origin true onoff).run s = (.ok (), s')) :
    ∃ d dev, Rejects s origin d dev ∧
      (s.orders.lookup d = none ∧
          s' = s.closed d (settledProfile dev onoff) s.ledger (.reject d) ∨
        ∃ o l, s.orders.lookup d = some o ∧
          rejectLedger selfParaId env.now o d dev s.ledger = .ok l ∧
          s' = (notified selfParaId env.toEnv o (.orderReject o.client d onoff) s).closed
            d (settledProfile dev onoff) l (.reject d)) := by
  by_cases hr : ∃ d dev, Rejects s origin d dev
  · obtain ⟨d, dev, hr⟩ := hr
    rw [accept_reject_run hr] at h
    refine ⟨d, dev, hr, ?_⟩
    cases ho : s.orders.lookup d with
    | none =>
      rw [ho, orderReject_none_run] at h
      exact .inl ⟨rfl, (Prod.ext_iff.mp h).2.symm⟩
    | some o =>
      rw [ho, orderReject_run] at h
      split at h
      · rename_i l hl
        exact .inr ⟨o, l, rfl, hl, (Prod.ext_iff.mp h).2.symm⟩
      · cases h
  · exact absurd h (Dispatch.run_ne_ok (accept_reject_refused hr onoff))

/-- A done call that succeeds has finished the order of the device. -/
theorem done_ok (h : (done selfParaId env origin onoff).run s = (.ok (), s')) :
    ∃ d o dev l, Finishes s origin d o dev ∧
      doneLedger selfParaId env.now o d dev s.ledger = .ok l ∧
      s' = (notified selfParaId env.toEnv o (.orderDone o.client d onoff) s).closed
        d (settledProfile dev onoff) l (.done d) := by
  by_cases hf : ∃ d o dev, Finishes s origin d o dev
  · obtain ⟨d, o, dev, hf⟩ := hf
    rcases done_run selfParaId env hf onoff with ⟨l, hl, hrun⟩ | ⟨e, l, -, hrun, -⟩
    · rw [hrun] at h
      exact ⟨d, o, dev, l, hf, hl, (Prod.ext_iff.mp h).2.symm⟩
    · rw [hrun] at h
      cases h
  · exact absurd h (Dispatch.run_ne_ok (done_refused hf onoff))

end Messages

/-! ### The other calls -/

omit [ReservableCurrency L A]

variable {s : State A P L} {origin : Origin A}

/-- A registration by a device without an order replaces its profile. -/
theorem register_run {id : A} (h : id ∉ s.orders) (penalty : Balance) (wcd : Moment)
    (onoff : Bool) :
    (register (.signed id) penalty wcd onoff).run s =
      (.ok (), { s with
        device := s.device.insert id { wcd, penalty, state := if onoff then .ready else .off }
        events := s.events ++ [.newDevice id] }) := by
  simp [register, h]

/-- Any other registration changes nothing. -/
theorem register_refused (h : ¬∃ id, origin = .signed id ∧ id ∉ s.orders) (penalty : Balance)
    (wcd : Moment) (onoff : Bool) :
    ∃ e, (register origin penalty wcd onoff).run s = (.error e, s) := by
  unfold register
  cases origin with
  | root => exact ⟨_, rfl⟩
  | none => exact ⟨_, rfl⟩
  | signed id =>
    have hid : id ∈ s.orders := by
      by_contra hid
      exact h ⟨id, rfl, hid⟩
    simp [hid]

/-- The check of `setState`. -/
structure Switches (s : State A P L) (origin : Origin A) (onoff : Bool) (d : A)
    (dev : DeviceProfile) (state : DeviceState) : Prop where
  signed : origin = .signed d
  profile : s.device.lookup d = some dev
  next : nextState onoff dev.state = some state

/-- A device that may be switched gets its new state. -/
theorem setState_run {onoff : Bool} {d : A} {dev : DeviceProfile} {state : DeviceState}
    (h : Switches s origin onoff d dev state) :
    (setState origin onoff).run s =
      (.ok (), { s with device := s.device.insert d { dev with state := state } }) := by
  rw [h.signed]
  simp [setState, h.profile, h.next]

/-- Any other switch changes nothing. -/
theorem setState_refused {onoff : Bool}
    (h : ¬∃ d dev state, Switches s origin onoff d dev state) :
    ∃ e, (setState origin onoff).run s = (.error e, s) := by
  unfold setState
  cases origin with
  | root => exact ⟨_, rfl⟩
  | none => exact ⟨_, rfl⟩
  | signed d =>
    cases hd : s.device.lookup d with
    | none => simp [hd]
    | some dev =>
      cases hnext : nextState onoff dev.state with
      | none => simp [hd, hnext]
      | some state => exact absurd ⟨d, dev, state, rfl, hd, hnext⟩ h

variable (s origin) in
/-- A registration leaves nothing behind or replaces the profile of a device without an order. -/
theorem register_exec (penalty : Balance) (wcd : Moment) (onoff : Bool) :
    (register origin penalty wcd onoff).exec s = s ∨ ∃ id, origin = .signed id ∧ id ∉ s.orders ∧
      (register origin penalty wcd onoff).exec s = { s with
        device := s.device.insert id { wcd, penalty, state := if onoff then .ready else .off }
        events := s.events ++ [.newDevice id] } := by
  by_cases hid : ∃ id, origin = .signed id ∧ id ∉ s.orders
  · obtain ⟨id, rfl, hid⟩ := hid
    refine .inr ⟨id, rfl, hid, ?_⟩
    rw [Dispatch.exec, register_run hid]
  · exact .inl (Dispatch.exec_of_refused (register_refused hid penalty wcd onoff))

variable (s origin) in
/-- A switch leaves nothing behind or writes the new state. -/
theorem setState_exec (onoff : Bool) :
    (setState origin onoff).exec s = s ∨ ∃ d dev state, Switches s origin onoff d dev state ∧
      (setState origin onoff).exec s =
        { s with device := s.device.insert d { dev with state := state } } := by
  by_cases hsw : ∃ d dev state, Switches s origin onoff d dev state
  · obtain ⟨d, dev, state, hsw⟩ := hsw
    refine .inr ⟨d, dev, state, hsw, ?_⟩
    rw [Dispatch.exec, setState_run hsw]
  · exact .inl (Dispatch.exec_of_refused (setState_refused hsw))

/-- A registration that succeeds was signed by a device without an order. -/
theorem register_ok {s' : State A P L} {penalty : Balance} {wcd : Moment} {onoff : Bool}
    (h : (register origin penalty wcd onoff).run s = (.ok (), s')) :
    ∃ id, origin = .signed id ∧ id ∉ s.orders ∧
      s' = { s with
        device := s.device.insert id { wcd, penalty, state := if onoff then .ready else .off }
        events := s.events ++ [.newDevice id] } := by
  by_cases hid : ∃ id, origin = .signed id ∧ id ∉ s.orders
  · obtain ⟨id, rfl, hid⟩ := hid
    rw [register_run hid] at h
    exact ⟨id, rfl, hid, (Prod.ext_iff.mp h).2.symm⟩
  · exact absurd h (Dispatch.run_ne_ok (register_refused hid penalty wcd onoff))

/-- A switch that succeeds has written the new state. -/
theorem setState_ok {s' : State A P L} {onoff : Bool}
    (h : (setState origin onoff).run s = (.ok (), s')) :
    ∃ d dev state, Switches s origin onoff d dev state ∧
      s' = { s with device := s.device.insert d { dev with state := state } } := by
  by_cases hsw : ∃ d dev state, Switches s origin onoff d dev state
  · obtain ⟨d, dev, state, hsw⟩ := hsw
    rw [setState_run hsw] at h
    exact ⟨d, dev, state, hsw, (Prod.ext_iff.mp h).2.symm⟩
  · exact absurd h (Dispatch.run_ne_ok (setState_refused hsw))

/-- Reaping an account changes at most the profile of that account, when it is off. -/
theorem onKilledAccount_run (s : State A P L) (who : A) :
    ∃ m, (onKilledAccount who).run s = (.ok (), { s with device := m }) ∧
      ∀ d, m.lookup d = if d = who then (s.device.lookup who).bind (fun dev =>
        if dev.state = .off then none else some dev) else s.device.lookup d := by
  unfold onKilledAccount
  simp only [Dispatch.run_bind, Device.run_get]
  cases hd : s.device.lookup who with
  | none =>
    refine ⟨s.device, rfl, fun d => ?_⟩
    split_ifs with h
    · rw [h, hd]; rfl
    · rfl
  | some dev =>
    by_cases hoff : dev.state = .off
    · refine ⟨s.device.erase who, by simp [hoff], fun d => ?_⟩
      rw [Finmap.lookup_erase_ite]
      simp [hoff]
    · refine ⟨s.device, by simp [hoff], fun d => ?_⟩
      split_ifs with h
      · rw [h, hd]; simp [hoff]
      · rfl

end XcmAutoBank.Service
