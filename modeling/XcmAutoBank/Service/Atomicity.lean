import XcmAutoBank.Service.Escrow
import XcmAutoBank.Common.Atomic

/-!
# Which calls of the service pallet fail without a trace

An order that is received reserves from two accounts that may be one, as on the client chain.  A
device that is done has its order removed and its profile written before the first transfer, so
that every transfer that fails leaves a trace.  In all other cases an error leaves none
(`service_atomic_iff`).
-/

namespace XcmAutoBank.Service

open ReservableCurrency LawfulCurrency Storage

variable {A P L : Type} [DecidableEq A] [ReservableCurrency L A]

/-- A local order whose client is its device: each of penalty and fee is free, not both together. -/
def OverReserves (selfParaId : ParaId) (env : ServiceEnv A P) (s : State A P L)
    (o : OrderOf A P) (d : A) : Prop :=
  ∃ dev state, Receives selfParaId env s o d dev state ∧ o.paraid = selfParaId ∧
    o.client = d ∧ dev.penalty.toNat ≤ free s.ledger d ∧
    free s.ledger d < dev.penalty.toNat + o.fee.toNat

/-- A finished local order of another client that cannot be paid: the device owns nothing to take
the fee with, or the work is late and the client owns nothing beside the fee. -/
def Unpayable (selfParaId : ParaId) (env : ServiceEnv A P) (s : State A P L)
    (origin : Origin A) : Prop :=
  ∃ d o dev, Finishes s origin d o dev ∧ o.paraid = selfParaId ∧ o.client ≠ d ∧
    (o.fee.toNat ≠ 0 ∧ total s.ledger d = 0 ∨
      ¬env.now < o.untilTime ∧ dev.penalty.toNat ≠ 0 ∧ free s.ledger o.client = 0 ∧
        reserved s.ledger o.client ≤ o.fee.toNat)

/-- The calls that leave a trace and then fail. -/
def Splits (selfParaId : ParaId) (env : ServiceEnv A P) (s : State A P L) : Op A P → Prop
  | .order (.signed who) b =>
    OverReserves selfParaId env s (receivedOrder b selfParaId who) b.device
  | .orderReceived o d => OverReserves selfParaId env s o d
  | .done origin _ => Unpayable selfParaId env s origin
  | _ => False

variable {selfParaId : ParaId} {env : ServiceEnv A P} {s : State A P L} {o : OrderOf A P} {d : A}
  {dev : DeviceProfile} {origin : Origin A} {onoff : Bool}

/-- The checks of a received order determine the profile and the answer. -/
theorem Receives.unique {dev' : DeviceProfile} {state state' : DeviceState}
    (h : Receives selfParaId env s o d dev state)
    (h' : Receives selfParaId env s o d dev' state') : dev' = dev ∧ state' = state := by
  constructor
  · exact Option.some.inj (h'.profile.symm.trans h.profile)
  · exact Option.some.inj (h'.answer.symm.trans h.answer)

omit [ReservableCurrency L A] in
/-- The checks of a finished order determine the device, the order and the profile. -/
theorem Finishes.unique {d' : A} {o' : OrderOf A P} {dev' : DeviceProfile}
    (h : Finishes s origin d o dev) (h' : Finishes s origin d' o' dev') :
    d' = d ∧ o' = o ∧ dev' = dev := by
  obtain rfl := Origin.signed.inj (h'.signed.symm.trans h.signed)
  exact ⟨rfl, h.holds.unique h'.holds⟩

variable [LawfulCurrency L A] [Codec A] [Codec P]

/-- A received order is atomic unless it is local and over-reserves. -/
theorem orderReceived_atomic_iff :
    Atomic (orderReceived selfParaId env o d) s ↔ ¬OverReserves selfParaId env s o d := by
  by_cases hr : ∃ dev state, Receives selfParaId env s o d dev state
  · obtain ⟨dev, state, hr⟩ := hr
    have hrun := orderReceived_run hr
    by_cases hlocal : o.paraid = selfParaId
    · rw [if_pos hlocal] at hrun
      rw [atomic_reserve_iff ((canReserve_iff _ _ _).mp (hr.solvent hlocal)) hrun, not_iff_not]
      constructor
      · rintro ⟨hclient, hpen, hlt⟩
        exact ⟨dev, state, hr, hlocal, hclient, hpen, hlt⟩
      · rintro ⟨dev', state', h', -, hclient, hpen, hlt⟩
        obtain ⟨rfl, rfl⟩ := hr.unique h'
        exact ⟨hclient, hpen, hlt⟩
    · rw [if_neg hlocal] at hrun
      refine iff_of_true (atomic_of_ok hrun) ?_
      rintro ⟨dev', state', h', hself, -⟩
      exact hlocal hself
  · refine iff_of_true (atomic_of_refused (orderReceived_refused hr)) ?_
    rintro ⟨dev, state, h, -⟩
    exact hr ⟨dev, state, h⟩

omit [Codec A] [Codec P] in
/-- Which finished orders cannot be paid. -/
theorem doneLedger_error_iff {now : Moment} {l : L} :
    (∃ e, doneLedger selfParaId now o d dev l = .error e) ↔
      o.paraid = selfParaId ∧ o.client ≠ d ∧ (o.fee.toNat ≠ 0 ∧ total l d = 0 ∨
        ¬now < o.untilTime ∧ dev.penalty.toNat ≠ 0 ∧ free l o.client = 0 ∧
          reserved l o.client ≤ o.fee.toNat) := by
  unfold doneLedger
  by_cases hlocal : o.paraid = selfParaId
  · have hpaid : (∃ e, repatriateReserved l o.client d o.fee.toNat .free = .error e) ↔
        o.fee.toNat ≠ 0 ∧ o.client ≠ d ∧ total l d = 0 := repatriate_error_iff _ _ _ _
    rw [if_pos hlocal]
    cases hl : repatriateReserved l o.client d o.fee.toNat .free with
    | error e =>
      obtain ⟨hfee, hne, hdead⟩ := hpaid.mp ⟨e, hl⟩
      exact iff_of_true ⟨e, rfl⟩ ⟨hlocal, hne, .inl ⟨hfee, hdead⟩⟩
    | ok l₁ =>
      have hok : ¬(o.fee.toNat ≠ 0 ∧ o.client ≠ d ∧ total l d = 0) := by
        rw [← hpaid, hl]
        simp
      refine (settle_done_error_iff hl).trans ?_
      constructor
      · rintro ⟨hne, hrest⟩
        exact ⟨hlocal, hne, .inr hrest⟩
      · rintro ⟨-, hne, ⟨hfee, hdead⟩ | hrest⟩
        · exact absurd ⟨hfee, hne, hdead⟩ hok
        · exact ⟨hne, hrest⟩
  · rw [if_neg hlocal]
    refine iff_of_false ?_ fun h => hlocal h.1
    rintro ⟨e, he⟩
    cases he

/-- A done call is atomic unless its order cannot be paid. -/
theorem done_atomic_iff :
    Atomic (done selfParaId env origin onoff) s ↔ ¬Unpayable selfParaId env s origin := by
  by_cases hf : ∃ d o dev, Finishes s origin d o dev
  · obtain ⟨d, o, dev, hf⟩ := hf
    have hunpayable : Unpayable selfParaId env s origin ↔
        ∃ e, doneLedger selfParaId env.now o d dev s.ledger = .error e := by
      rw [doneLedger_error_iff]
      constructor
      · rintro ⟨d', o', dev', hf', hrest⟩
        obtain ⟨rfl, rfl, rfl⟩ := hf.unique hf'
        exact hrest
      · exact fun hrest => ⟨d, o, dev, hf, hrest⟩
    rw [hunpayable]
    rcases done_run selfParaId env hf onoff with
      ⟨l, hl, hrun⟩ | ⟨e, l, hl, hrun, -⟩
    · exact iff_of_true (atomic_of_ok hrun) (by simp [hl])
    · refine iff_of_false ?_ (not_not.mpr ⟨e, hl⟩)
      rw [atomic_iff_of_error hrun]
      intro hsame
      -- the order is gone
      have hgone := hf.holds.order
      rw [← hsame.orders] at hgone
      change (s.orders.erase d).lookup d = _ at hgone
      rw [Finmap.lookup_erase] at hgone
      cases hgone
  · refine iff_of_true (atomic_of_refused (done_refused hf onoff)) ?_
    rintro ⟨d, o, dev, h, -⟩
    exact hf ⟨d, o, dev, h⟩

/-- Rejecting an order is atomic. -/
theorem orderReject_atomic :
    Atomic (orderReject selfParaId env (s.orders.lookup d) env.now d dev onoff) s := by
  cases s.orders.lookup d with
  | none => exact atomic_of_ok (orderReject_none_run env.now onoff)
  | some o =>
    have hrun : (orderReject selfParaId env (some o) env.now d dev onoff).run s = _ :=
      orderReject_run env.now onoff
    cases hl : rejectLedger selfParaId env.now o d dev s.ledger with
    | ok l =>
      rw [hl] at hrun
      exact atomic_of_ok hrun
    | error e =>
      rw [hl] at hrun
      rw [atomic_iff_of_error hrun]
      unfold rejectLedger at hl
      by_cases hlocal : o.paraid = selfParaId
      · rw [if_pos hlocal] at hl
        exact same_of_settlePenalty_error ⟨e, hl⟩
      · rw [if_neg hlocal] at hl
        cases hl

/-- A cancel is atomic. -/
theorem cancel_atomic : Atomic (cancel selfParaId env origin d) s := by
  by_cases hc : ∃ o dev, Cancels env s origin d o dev
  · obtain ⟨o, dev, hc⟩ := hc
    exact atomic_congr (cancel_reject_run hc) orderReject_atomic
  · exact atomic_of_refused (cancel_refused hc)

/-- An accept is atomic. -/
theorem accept_atomic {reject : Bool} : Atomic (accept selfParaId env origin reject onoff) s := by
  cases reject with
  | false =>
    by_cases ht : ∃ d o dev, Takes env s origin d o dev
    · obtain ⟨d, o, dev, ht⟩ := ht
      exact atomic_of_ok (accept_run ht onoff)
    · exact atomic_of_refused (accept_refused ht onoff)
  | true =>
    by_cases hr : ∃ d dev, Rejects s origin d dev
    · obtain ⟨d, dev, hr⟩ := hr
      exact atomic_congr (accept_reject_run hr onoff) orderReject_atomic
    · exact atomic_of_refused (accept_reject_refused hr onoff)

/-- A call leaves no trace of an error exactly when it is not a local order of a device on itself
that over-reserves or a done call whose local order cannot be paid. -/
theorem service_atomic_iff {op : Op A P} :
    Atomic (op.call selfParaId env) s ↔ ¬Splits selfParaId env s op := by
  cases op with
  | order origin b =>
    cases origin with
    | signed who =>
      change Atomic (order selfParaId env (.signed who) b) s ↔ _
      rw [order_signed]
      exact orderReceived_atomic_iff
    | root => exact iff_of_true (atomic_of_refused ⟨_, rfl⟩) id
    | none => exact iff_of_true (atomic_of_refused ⟨_, rfl⟩) id
  | orderReceived o d => exact orderReceived_atomic_iff
  | done origin onoff => exact done_atomic_iff
  | cancel origin d => exact iff_of_true cancel_atomic id
  | accept origin reject onoff => exact iff_of_true accept_atomic id
  | register origin penalty wcd onoff =>
    refine iff_of_true ?_ id
    by_cases hid : ∃ id, origin = .signed id ∧ id ∉ s.orders
    · obtain ⟨id, rfl, hid⟩ := hid
      exact atomic_of_ok (register_run hid penalty wcd onoff)
    · exact atomic_of_refused (register_refused hid penalty wcd onoff)
  | setState origin onoff =>
    refine iff_of_true ?_ id
    by_cases hsw : ∃ d dev state, Switches s origin onoff d dev state
    · obtain ⟨d, dev, state, hsw⟩ := hsw
      exact atomic_of_ok (setState_run hsw)
    · exact atomic_of_refused (setState_refused hsw)
  | onKilledAccount who =>
    obtain ⟨m, hrun, -⟩ := onKilledAccount_run s who
    exact iff_of_true (atomic_of_ok hrun) id

/-- Every account owns 50, device 2 has registered a penalty of 30 on chain 2000 and accepted an
order of client 1 until time 100, at a fee of all the client owns. -/
def localOrder : State UInt64 UInt64 (Balances UInt64) :=
  Dispatch.exec (order 2000 (ServiceEnv.online 0 .accepted) (.signed 1) ⟨100, 7, 50, 2⟩)
    (Dispatch.exec (register (.signed 2) 30 20 true) (Storage.init (Balances.uniform 50)))

/-- The local order is reachable. -/
theorem localOrder_reachable : Reachable 2000 localOrder := by
  let registered : State UInt64 UInt64 (Balances UInt64) :=
    Dispatch.exec (register (.signed 2) 30 20 true) (Storage.init (Balances.uniform 50))
  have hregister : Step 2000 (Storage.init (Balances.uniform 50)) registered :=
    ⟨ServiceEnv.online 0 .accepted, .register (.signed 2) 30 20 true, rfl⟩
  have horder : Step 2000 registered localOrder :=
    ⟨ServiceEnv.online 0 .accepted, .order (.signed 1) ⟨100, 7, 50, 2⟩, rfl⟩
  exact ⟨_, (Relation.ReflTransGen.single hregister).tail horder⟩

/-- The local order, finished at its deadline. -/
theorem service_atomic_iff_late_done :
    Atomic (Op.call 2000 (ServiceEnv.online 100 .accepted) (.done (.signed 2) true)) localOrder ↔
      ¬Splits 2000 (ServiceEnv.online 100 .accepted) localOrder (.done (.signed 2) true) :=
  service_atomic_iff

/-- The local order is finished at its deadline: the fee goes to the device, the call fails on the
penalty and the order is gone. -/
theorem not_service_atomic_late_done :
    ¬∀ (env : ServiceEnv UInt64 UInt64) (s : State UInt64 UInt64 (Balances UInt64))
      (op : Op UInt64 UInt64), Reachable 2000 s → Atomic (op.call 2000 env) s := by
  intro h
  have hatomic := h (ServiceEnv.online 100 .accepted) localOrder (.done (.signed 2) true)
    localOrder_reachable
  have herror : (Dispatch.run (Op.call 2000 (ServiceEnv.online 100 .accepted)
      (.done (.signed 2) true)) localOrder).1 = .error (.currency .deadAccount) := by decide
  have hsame := hatomic _ _ (Dispatch.run_eq_of_fst herror)
  exact absurd (congrArg (Finmap.lookup 2) hsame.orders) (by decide)

end XcmAutoBank.Service
