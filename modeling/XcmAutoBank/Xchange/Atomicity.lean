import XcmAutoBank.Xchange.Escrow
import XcmAutoBank.Common.Atomic

/-!
# Which calls of the client pallet fail without a trace

Two calls make a transfer, then a second one that can fail.  `order` reserves the penalty from
the device and the fee from the client, after checking the fee alone: when client and device are
one account, the fee may no longer be free.  `onDone` pays the fee to the device and then, when
late, the penalty to the client, who may hold nothing once the fee is gone.  In all other cases an
error leaves no trace (`atomic_iff`).
-/

namespace XcmAutoBank.Xchange

open ReservableCurrency LawfulCurrency Storage

variable {A P L : Type} [DecidableEq A] [ReservableCurrency L A]

/-- An order whose client is its device: each of penalty and fee is free, not both together. -/
def OverReserves (env : Env) (s : State A P L) (origin : Origin A) (b : OrderBaseOf A P) : Prop :=
  ∃ dev, Accepts env s origin b b.device dev ∧
    dev.penalty.toNat ≤ free s.ledger b.device ∧
    free s.ledger b.device < dev.penalty.toNat + b.fee.toNat

/-- A late done message whose client, another account than the device, owns nothing beside the
fee that goes to the device. -/
def Drains (env : Env) (s : State A P L) (who d : A) : Prop :=
  ∃ o dev, s.Holds d o dev ∧ who ≠ d ∧ ¬env.now < o.untilTime ∧ dev.penalty.toNat ≠ 0 ∧
    total s.ledger d ≠ 0 ∧ free s.ledger who = 0 ∧ reserved s.ledger who ≠ 0 ∧
    reserved s.ledger who ≤ o.fee.toNat

/-- The calls that make a transfer and then fail. -/
def Splits (env : Env) (s : State A P L) : Op A P → Prop
  | .order origin b => OverReserves env s origin b
  | .onDone who d _ => Drains env s who d
  | _ => False

variable {env : Env} {s : State A P L}

/-- The checks of an order determine its client and the profile. -/
theorem Accepts.unique {origin : Origin A} {b : OrderBaseOf A P} {who who' : A}
    {dev dev' : DeviceProfile} (h : Accepts env s origin b who dev)
    (h' : Accepts env s origin b who' dev') : who' = who ∧ dev' = dev := by
  constructor
  · exact Origin.signed.inj (h'.signed.symm.trans h.signed)
  · exact Option.some.inj (h'.profile.symm.trans h.profile)

variable [LawfulCurrency L A]

/-- An order is atomic unless it over-reserves. -/
theorem order_atomic_iff [Codec A] [Codec P] {origin : Origin A} {b : OrderBaseOf A P} :
    Atomic (order env origin b) s ↔ ¬OverReserves env s origin b := by
  by_cases hs : ∃ who dev, Accepts env s origin b who dev
  · obtain ⟨who, dev, hacc⟩ := hs
    rw [atomic_reserve_iff ((canReserve_iff _ _ _).mp hacc.solvent) (order_run hacc), not_iff_not]
    constructor
    · rintro ⟨rfl, hpen, hlt⟩
      exact ⟨dev, hacc, hpen, hlt⟩
    · rintro ⟨dev', h', hpen, hlt⟩
      obtain ⟨hwho, rfl⟩ := hacc.unique h'
      exact ⟨hwho.symm, hpen, hlt⟩
  · refine iff_of_true (atomic_of_refused (order_refused hs)) ?_
    rintro ⟨dev, h, -⟩
    exact hs ⟨_, dev, h⟩

/-- A done message is atomic unless it drains its client. -/
theorem onDone_atomic_iff {who d : A} {onoff : Bool} :
    Atomic (onDone env who d onoff) s ↔ ¬Drains env s who d := by
  by_cases hs : ∃ o dev, s.Holds d o dev
  · obtain ⟨o, dev, hs⟩ := hs
    have hrun : (onDone env who d onoff).run s = _ := onDone_run hs who onoff
    cases hl : repatriateReserved s.ledger who d o.fee.toNat .free with
    | error e =>
      rw [hl] at hrun
      refine iff_of_true (atomic_of_refused ⟨_, hrun⟩) ?_
      rintro ⟨o', dev', h', hwho, -, -, hd, -⟩
      exact hd ((repatriate_error_iff _ _ _ _).mp ⟨e, hl⟩).2.2
    | ok l =>
      simp only [hl] at hrun
      have herror : (∃ e, settlePenalty env.now o.untilTime l d who dev.penalty.toNat =
          .error e) ↔ _ := settle_done_error_iff hl
      cases hl' : settlePenalty env.now o.untilTime l d who dev.penalty.toNat with
      | ok l' =>
        simp only [hl'] at hrun herror
        refine iff_of_true (atomic_of_ok hrun) ?_
        rintro ⟨o', dev', h', hwho, hlate, hpen, -, hfree, -, hres⟩
        obtain ⟨rfl, rfl⟩ := hs.unique h'
        exact absurd (herror.mpr ⟨hwho, hlate, hpen, hfree, hres⟩) (by simp)
      | error e =>
        simp only [hl'] at hrun herror
        obtain ⟨hwho, hlate, hpen, hfree, hres⟩ := herror.mp ⟨e, rfl⟩
        rw [atomic_iff_of_error hrun, same_repatriate_iff hl hwho, ← not_iff_not, not_not]
        have hdev : o.fee.toNat ≠ 0 → total s.ledger d ≠ 0 := fun hfee =>
          (((repatriate_ok_iff _ _ _ _).mp ⟨l, hl⟩).resolve_left hfee).resolve_left hwho
        constructor
        · intro hmin
          exact ⟨o, dev, hs, hwho, hlate, hpen, hdev (by omega), hfree, by omega, hres⟩
        · rintro ⟨o', dev', h', -, -, -, -, -, hpos, -⟩
          obtain ⟨rfl, rfl⟩ := hs.unique h'
          omega
  · refine iff_of_true (atomic_of_refused (onDone_refused hs who onoff)) ?_
    rintro ⟨o, dev, h, -⟩
    exact hs ⟨o, dev, h⟩

/-- A cancel is atomic. -/
theorem cancel_atomic {origin : Origin A} {d : A} : Atomic (cancel env origin d) s := by
  by_cases hs : ∃ o dev, Cancels env s origin d o dev
  · obtain ⟨o, dev, hs⟩ := hs
    have hrun := cancel_run hs
    split at hrun
    · exact atomic_of_ok hrun
    · rename_i e he
      exact (atomic_iff_of_error hrun).mpr (same_of_settlePenalty_error ⟨e, he⟩)
  · exact atomic_of_refused (cancel_refused hs)

/-- A reject message that names the client is atomic. -/
theorem onReject_atomic {who d : A} {onoff : Bool}
    (hn : NamesClient s (.onReject who d onoff)) : Atomic (onReject env who d onoff) s := by
  by_cases hs : ∃ o dev, s.Holds d o dev
  · obtain ⟨o, dev, hs⟩ := hs
    obtain rfl : o.client = who := hn o hs.order
    have hrun : (onReject env o.client d onoff).run s = _ := onReject_run hs o.client onoff
    split at hrun
    · exact atomic_of_ok hrun
    · rename_i e he
      exact (atomic_iff_of_error hrun).mpr (same_of_settlePenalty_error ⟨e, he⟩)
  · exact atomic_of_refused (onReject_refused hs who onoff)

/-- A call leaves no trace of an error exactly when it is not one of those that make a transfer and
then fail: an order of a device on itself that over-reserves, a late done message that drains its
client. -/
theorem atomic_iff [Codec A] [Codec P] {op : Op A P} (hn : NamesClient s op) :
    Atomic (op.call env) s ↔ ¬Splits env s op := by
  cases op with
  | order origin b => exact order_atomic_iff
  | onDone who d onoff => exact onDone_atomic_iff
  | cancel origin d => exact iff_of_true cancel_atomic id
  | onReject who d onoff => exact iff_of_true (onReject_atomic hn) id
  | onAccept who d => exact iff_of_true (atomic_of_ok rfl) id
  | register origin paraid penalty wcd onoff =>
    refine iff_of_true ?_ id
    by_cases hs : ∃ id, origin = .signed id ∧ id ∉ s.orders
    · obtain ⟨id, rfl, hid⟩ := hs
      exact atomic_of_ok (register_run hid paraid penalty wcd onoff)
    · exact atomic_of_refused (register_refused hs paraid penalty wcd onoff)
  | onKilledAccount who =>
    obtain ⟨m, hrun, -⟩ := onKilledAccount_run s who
    exact iff_of_true (atomic_of_ok hrun) id
  | test origin =>
    refine iff_of_true ?_ id
    obtain ⟨r, sent, hrun⟩ := test_run env origin s
    intro e s' h
    change (test env origin).run s = _ at h
    rw [hrun] at h
    obtain rfl := (Prod.ext_iff.mp h).2
    exact ⟨rfl, rfl, fun _ => rfl, fun _ => rfl⟩

/-- An order of device 1 on itself, at a fee and a penalty of 30 each. -/
theorem atomic_iff_self_order :
    Atomic (Op.call (Env.online 0) (.order (.signed 1) ⟨100, 0, 30, 1⟩))
        (Dispatch.exec (register (.signed 1) 2000 30 10 true)
          (Storage.init (Balances.uniform 50)) : State UInt64 UInt64 (Balances UInt64)) ↔
      ¬Splits (Env.online 0)
        (Dispatch.exec (register (.signed 1) 2000 30 10 true)
          (Storage.init (Balances.uniform 50)) : State UInt64 UInt64 (Balances UInt64))
        (.order (.signed 1) ⟨100, 0, 30, 1⟩) :=
  atomic_iff trivial

/-- Device 1 with a free balance of 50 orders itself at a fee and a penalty of 30 each: the call
fails and 30 stay reserved. -/
theorem not_atomic_self_order :
    ¬∀ (env : Env) (s : State UInt64 UInt64 (Balances UInt64)) (op : Op UInt64 UInt64),
      Reachable s → NamesClient s op → Atomic (op.call env) s := by
  intro h
  let registered : State UInt64 UInt64 (Balances UInt64) :=
    Dispatch.exec (register (.signed 1) 2000 30 10 true) (Storage.init (Balances.uniform 50))
  have hreach : Reachable registered :=
    ⟨_, .single ⟨Env.online 0, .register (.signed 1) 2000 30 10 true, rfl⟩⟩
  have hatomic := h (Env.online 0) registered (.order (.signed 1) ⟨100, 0, 30, 1⟩) hreach trivial
  have herror : (Dispatch.run (Op.call (Env.online 0) (.order (.signed 1) ⟨100, 0, 30, 1⟩))
      registered).1 = .error (.currency .insufficientBalance) := by decide
  have hsame := hatomic _ _ (Dispatch.run_eq_of_fst herror)
  exact absurd (hsame.reserved 1) (by decide)

end XcmAutoBank.Xchange
