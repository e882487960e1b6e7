import XcmAutoBank.Common.Book
import XcmAutoBank.Common.Settlement

/-!
# Calls that fail without a trace

A call is atomic on a storage when an error leaves both maps and every balance as they were.
-/

namespace XcmAutoBank

open ReservableCurrency LawfulCurrency

variable {A O D E L Error : Type} [ReservableCurrency L A]

/-- Two storages with the same orders, profiles and balances. -/
structure Storage.Same (s s' : Storage A O D E L) : Prop where
  orders : s'.orders = s.orders
  device : s'.device = s.device
  free : ∀ a : A, free s'.ledger a = ReservableCurrency.free s.ledger a
  reserved : ∀ a : A, reserved s'.ledger a = ReservableCurrency.reserved s.ledger a

/-- A call that returns an error leaves orders, profiles and balances as they were. -/
def Atomic (x : Call (Storage A O D E L) Error Unit) (s : Storage A O D E L) : Prop :=
  ∀ e s', x.run s = (.error e, s') → s.Same s'

variable {x : Call (Storage A O D E L) Error Unit} {s s' : Storage A O D E L}

/-- A storage has the orders, profiles and balances of itself. -/
theorem Storage.Same.refl (s : Storage A O D E L) : s.Same s :=
  ⟨rfl, rfl, fun _ => rfl, fun _ => rfl⟩

/-- Being the same storage holds either way round. -/
theorem Storage.Same.symm (h : s.Same s') : s'.Same s :=
  ⟨h.orders.symm, h.device.symm, fun a => (h.free a).symm, fun a => (h.reserved a).symm⟩

/-- Two storages that are the same as a third are the same. -/
theorem Storage.Same.trans {s'' : Storage A O D E L} (h : s.Same s') (h' : s'.Same s'') :
    s.Same s'' :=
  ⟨h'.orders.trans h.orders, h'.device.trans h.device, fun a => (h'.free a).trans (h.free a),
    fun a => (h'.reserved a).trans (h.reserved a)⟩

/-- The same storage backs the same pool. -/
theorem Storage.Same.pool_eq [DecidableEq A] (backs : O → D → Option (Escrow.Position A))
    (h : s.Same s') : s'.pool backs = s.pool backs :=
  pool_congr h.orders h.reserved fun d _ => by simp [position, h.orders, h.device]

/-- A call that succeeds is atomic. -/
theorem atomic_of_ok (h : x.run s = (.ok (), s')) : Atomic x s := by
  intro e t ht
  rw [h] at ht
  cases ht

/-- A call that fails is atomic when the storage it leaves is the same. -/
theorem atomic_iff_of_error {e : DispatchError Error} (h : x.run s = (.error e, s')) :
    Atomic x s ↔ s.Same s' := by
  constructor
  · exact fun hx => hx e s' h
  · intro hs e' t ht
    rw [h] at ht
    cases ht
    exact hs

/-- A call that fails without a write is atomic. -/
theorem atomic_of_refused (h : ∃ e, x.run s = (.error e, s)) : Atomic x s := by
  obtain ⟨e, he⟩ := h
  exact (atomic_iff_of_error he).mpr (.refl s)

/-- Two calls with the same run are atomic together. -/
theorem atomic_congr {y : Call (Storage A O D E L) Error Unit} (h : x.run s = y.run s)
    (hy : Atomic y s) : Atomic x s := by
  intro e t ht
  exact hy e t (h ▸ ht)

/-- Another ledger gives the same storage when it has the same balances. -/
theorem same_withLedger_iff (s : Storage A O D E L) (l : L) :
    s.Same (s.withLedger l) ↔
      ∀ a : A, free l a = free s.ledger a ∧ reserved l a = reserved s.ledger a :=
  ⟨fun h a => ⟨h.free a, h.reserved a⟩,
    fun h => ⟨rfl, rfl, fun a => (h a).1, fun a => (h a).2⟩⟩

variable [DecidableEq A] [LawfulCurrency L A]

/-- When the penalty cannot be paid after a fee was released, there was no fee to release: the
client holds nothing. -/
theorem same_of_settlePenalty_error {now untilTime : Moment} {client device : A}
    {fee penalty : ℕ}
    (h : ∃ e, settlePenalty now untilTime (unreserve s.ledger client fee) device client penalty =
      .error e) : s.Same (s.withLedger (unreserve s.ledger client fee)) := by
  obtain ⟨-, -, -, hdead⟩ := settlePenalty_error_iff.mp h
  have hzero : reserved s.ledger client = 0 := by
    rw [total_unreserve] at hdead
    exact Nat.eq_zero_of_add_eq_zero_left hdead
  rw [same_withLedger_iff]
  intro a
  rw [free_unreserve, reserved_unreserve]
  by_cases ha : a = client
  · simp [ha, hzero]
  · simp [ha]

/-- A reservation of a positive amount is visible in the balances. -/
theorem not_same_of_reserve {l : L} {a : A} {v : ℕ} (h : reserve s.ledger a v = .ok l)
    (hv : v ≠ 0) : ¬s.Same (s.withLedger l) := by
  intro hsame
  have ha := hsame.reserved a
  rw [Storage.withLedger_ledger, reserved_reserve h, if_pos rfl] at ha
  omega

/-- A release shows in the balances when it moves something. -/
theorem same_unreserve_iff {a : A} {v : ℕ} :
    s.Same (s.withLedger (unreserve s.ledger a v)) ↔ min v (reserved s.ledger a) = 0 := by
  rw [same_withLedger_iff]
  constructor
  · intro hsame
    have ha := (hsame a).1
    rw [free_unreserve, if_pos rfl] at ha
    omega
  · intro hzero x
    rw [free_unreserve, reserved_unreserve, hzero]
    refine ⟨by simp, ?_⟩
    split_ifs with hx
    · subst hx
      omega
    · rfl

/-- A repatriation to another account shows in the balances when it moves something. -/
theorem same_repatriate_iff {l : L} {a b : A} {v : ℕ}
    (h : repatriateReserved s.ledger a b v .free = .ok l) (hne : a ≠ b) :
    s.Same (s.withLedger l) ↔ min v (reserved s.ledger a) = 0 := by
  rw [same_withLedger_iff]
  constructor
  · intro hsame
    have hb := (hsame b).1
    rw [free_repatriate h, if_pos rfl] at hb
    omega
  · intro hzero x
    rw [free_repatriate h, reserved_repatriate h, hzero]
    refine ⟨by simp, ?_⟩
    split_ifs with hx
    · subst hx
      omega
    · rfl

/-- Two reservations, the second of an amount that is free at the start, are atomic unless they come
from one account that cannot bear both. -/
theorem atomic_reserve_iff {d who : A} {penalty fee : ℕ} {t : L → Storage A O D E L}
    (hfee : fee ≤ free s.ledger who)
    (hrun : x.run s =
      match reserve s.ledger d penalty with
      | .error e => (.error (.currency e), s)
      | .ok l₁ =>
        match reserve l₁ who fee with
        | .error e => (.error (.currency e), s.withLedger l₁)
        | .ok l₂ => (.ok (), t l₂)) :
    Atomic x s ↔
      ¬(who = d ∧ penalty ≤ free s.ledger d ∧ free s.ledger d < penalty + fee) := by
  cases hl : reserve s.ledger d penalty with
  | error e =>
    rw [hl] at hrun
    refine iff_of_true (atomic_of_refused ⟨_, hrun⟩) ?_
    rintro ⟨-, hpen, -⟩
    exact absurd hpen (not_le.mpr ((reserve_error_iff _ _ _).mp ⟨e, hl⟩))
  | ok l₁ =>
    have hpen : penalty ≤ free s.ledger d := (reserve_ok_iff _ _ _).mp ⟨l₁, hl⟩
    have herror : (∃ e, reserve l₁ who fee = .error e) ↔ free l₁ who < fee :=
      reserve_error_iff _ _ _
    rw [free_reserve hl] at herror
    simp only [hl] at hrun
    cases hl' : reserve l₁ who fee with
    | ok l₂ =>
      simp only [hl'] at hrun herror
      refine iff_of_true (atomic_of_ok hrun) ?_
      rintro ⟨rfl, -, hlt⟩
      refine absurd (herror.mpr ?_) (by simp)
      rw [if_pos rfl]
      omega
    | error e =>
      simp only [hl'] at hrun
      have hlt := herror.mp ⟨e, hl'⟩
      by_cases hwho : who = d
      · subst hwho
        rw [if_pos rfl] at hlt
        refine iff_of_false ?_ (not_not.mpr ⟨rfl, hpen, by omega⟩)
        rw [atomic_iff_of_error hrun]
        exact not_same_of_reserve hl (by omega)
      · rw [if_neg hwho] at hlt
        omega

end XcmAutoBank
