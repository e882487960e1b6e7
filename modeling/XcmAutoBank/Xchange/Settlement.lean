import XcmAutoBank.Xchange.Atomicity
import XcmAutoBank.Xchange.Effect

/-!
# What a settlement message moves

A reject or done message names a client beside the device.  The fee is taken from the reserve of
the account the message names, whoever the stored order's client is; `cancel` is the only call
that compares the two.  Handling such a message closes the order, changes nothing, or takes the
fee and fails on the penalty (`settlement_outcome`).
-/

namespace XcmAutoBank.Xchange

open ReservableCurrency LawfulCurrency Storage

variable {A P L : Type} [DecidableEq A] [ReservableCurrency L A]

/-- A settlement message that can move nothing.  A late reject fails when the order's client owns
nothing.  A done message fails when the device owns nothing or, late, when the account it names
owns nothing. -/
def Stuck (env : Env) (s : State A P L) (o : OrderOf A P) (dev : DeviceProfile) :
    XCMPMessageOf A P → Prop
  | .orderReject c d _ =>
    o.client ≠ d ∧ ¬env.now < o.untilTime ∧ dev.penalty.toNat ≠ 0 ∧ total s.ledger o.client = 0 ∧
      (o.fee.toNat = 0 ∨ reserved s.ledger c = 0)
  | .orderDone c d _ =>
    c ≠ d ∧ (o.fee.toNat ≠ 0 ∧ total s.ledger d = 0 ∨
      ¬env.now < o.untilTime ∧ dev.penalty.toNat ≠ 0 ∧ total s.ledger c = 0)
  | _ => False

/-- The order of device `d` is closed, its fee taken from the reserve of `c`. -/
structure ClosedFor (s s' : State A P L) (c d : A) (o : OrderOf A P) (dev : DeviceProfile) :
    Prop where
  orders : s'.orders = s.orders.erase d
  device : ∃ dev', s'.device = s.device.insert d dev'
  reserved : ∀ a, reserved s'.ledger a =
    ReservableCurrency.reserved s.ledger a - (if a = c then o.fee.toNat else 0) -
      if a = d then dev.penalty.toNat else 0

/-- A fee is taken from the reserve of `c` and the order stays. -/
structure FeeTaken (s s' : State A P L) (c d : A) (o : OrderOf A P) : Prop where
  orders : s'.orders = s.orders
  device : s'.device = s.device
  reserved : ∀ a, reserved s'.ledger a =
    ReservableCurrency.reserved s.ledger a - if a = c then o.fee.toNat else 0
  moved : min o.fee.toNat (ReservableCurrency.reserved s.ledger c) ≠ 0
  apart : c ≠ d ∨ total s.ledger o.client = 0

variable {env : Env} {s s' : State A P L} {c d : A} {o : OrderOf A P} {dev : DeviceProfile}
  {m : XCMPMessageOf A P}

/-- A settlement message for a device without an order or a profile changes nothing. -/
theorem handleMessage_refused (hm : SettlesFor c d m) (h : ¬∃ o dev, s.Holds d o dev) :
    handleMessage env s m = s := by
  cases hm with
  | orderReject onoff =>
    obtain ⟨e, he⟩ : ∃ e, (onReject env c d onoff).run s = (.error e, s) :=
      onReject_refused h c onoff
    rw [handleMessage, he]
  | orderDone onoff =>
    obtain ⟨e, he⟩ : ∃ e, (onDone env c d onoff).run s = (.error e, s) :=
      onDone_refused h c onoff
    rw [handleMessage, he]

/-- A closed order is not the same storage. -/
theorem ClosedFor.not_same (h : ClosedFor s s' c d o dev) (hs : s.Holds d o dev) :
    ¬s.Same s' := by
  intro hsame
  have hd := hs.order
  rw [← hsame.orders, h.orders, Finmap.lookup_erase] at hd
  cases hd

/-- A fee that is taken shows in the balances. -/
theorem FeeTaken.not_same (h : FeeTaken s s' c d o) : ¬s.Same s' := by
  intro hsame
  have hmoved := h.moved
  have hc := hsame.reserved c
  rw [h.reserved, if_pos rfl] at hc
  omega

variable [LawfulCurrency L A]

/-- A reject message closes the order, changes nothing, or takes the fee alone. -/
theorem onReject_outcome (hs : s.Holds d o dev) (onoff : Bool) :
    let s' := handleMessage env s (.orderReject c d onoff)
    (s.Same s' ∧ Stuck env s o dev (.orderReject c d onoff)) ∨
      (¬Stuck env s o dev (.orderReject c d onoff) ∧
        (ClosedFor s s' c d o dev ∨ FeeTaken s s' c d o)) := by
  intro s'
  have hrun : (onReject env c d onoff).run s = _ := onReject_run hs c onoff
  have herror : (∃ e, settlePenalty env.now o.untilTime (unreserve s.ledger c o.fee.toNat) d
      o.client dev.penalty.toNat = .error e) ↔ _ := settlePenalty_error_iff
  rw [total_unreserve] at herror
  cases hl : settlePenalty env.now o.untilTime (unreserve s.ledger c o.fee.toNat) d o.client
      dev.penalty.toNat with
  | ok l =>
    have hs' : s' = s.closed d (settledProfile dev onoff) l (.reject c d) := by
      simp only [s', handleMessage, hrun, hl]
    refine .inr ⟨?_, .inl ?_⟩
    · rintro ⟨hne, hlate, hpen, htotal, -⟩
      obtain ⟨e, he⟩ := herror.mpr ⟨hlate, hpen, hne.symm, htotal⟩
      cases hl.symm.trans he
    · rw [hs']
      exact ⟨rfl, ⟨_, rfl⟩, reserved_released hl⟩
  | error e =>
    have hs' : s' = s.withLedger (unreserve s.ledger c o.fee.toNat) := by
      simp only [s', handleMessage, hrun, hl]
    obtain ⟨hlate, hpen, hne, htotal⟩ := herror.mp ⟨e, hl⟩
    have hsame : s.Same s' ↔ min o.fee.toNat (reserved s.ledger c) = 0 := by
      rw [hs']
      exact same_unreserve_iff
    by_cases hmoved : min o.fee.toNat (reserved s.ledger c) = 0
    · exact .inl ⟨hsame.mpr hmoved, hne.symm, hlate, hpen, htotal, by omega⟩
    · refine .inr ⟨?_, .inr ?_⟩
      · rintro ⟨-, -, -, -, hzero⟩
        omega
      · rw [hs']
        exact ⟨rfl, rfl, reserved_unreserve _ _ _, hmoved, .inr htotal⟩

/-- A done message closes the order, changes nothing, or takes the fee alone. -/
theorem onDone_outcome (hs : s.Holds d o dev) (onoff : Bool) :
    let s' := handleMessage env s (.orderDone c d onoff)
    (s.Same s' ∧ Stuck env s o dev (.orderDone c d onoff)) ∨
      (¬Stuck env s o dev (.orderDone c d onoff) ∧
        (ClosedFor s s' c d o dev ∨ FeeTaken s s' c d o)) := by
  intro s'
  have hrun : (onDone env c d onoff).run s = _ := onDone_run hs c onoff
  cases hl : repatriateReserved s.ledger c d o.fee.toNat .free with
  | error e =>
    have hs' : s' = s := by simp only [s', handleMessage, hrun, hl]
    obtain ⟨hfee, hne, hdead⟩ := (repatriate_error_iff _ _ _ _).mp ⟨e, hl⟩
    refine .inl ⟨?_, hne, .inl ⟨hfee, hdead⟩⟩
    rw [hs']
    exact .refl s
  | ok l =>
    have hpaid : o.fee.toNat = 0 ∨ c = d ∨ total s.ledger d ≠ 0 :=
      (repatriate_ok_iff _ _ _ _).mp ⟨l, hl⟩
    have herror : (∃ e, settlePenalty env.now o.untilTime l d c dev.penalty.toNat =
        .error e) ↔ _ := settle_done_error_iff hl
    cases hl' : settlePenalty env.now o.untilTime l d c dev.penalty.toNat with
    | ok l' =>
      have hs' : s' = s.closed d (settledProfile dev onoff) l' (.done c d) := by
        simp only [s', handleMessage, hrun, hl, hl']
      refine .inr ⟨?_, .inl ?_⟩
      · rintro ⟨hne, ⟨hfee, hdead⟩ | ⟨hlate, hpen, htotal⟩⟩
        · exact hpaid.elim hfee fun h => h.elim hne fun h => h hdead
        · obtain ⟨e, he⟩ := herror.mpr ⟨hne, hlate, hpen, by rw [total] at htotal; omega,
            by rw [total] at htotal; omega⟩
          cases hl'.symm.trans he
      · rw [hs']
        refine ⟨rfl, ⟨_, rfl⟩, fun a => ?_⟩
        rw [closed_ledger, reserved_settlePenalty hl', reserved_repatriate hl]
    | error e =>
      have hs' : s' = s.withLedger l := by simp only [s', handleMessage, hrun, hl, hl']
      obtain ⟨hne, hlate, hpen, hfree, hres⟩ := herror.mp ⟨e, hl'⟩
      have hsame : s.Same s' ↔ min o.fee.toNat (reserved s.ledger c) = 0 := by
        rw [hs']
        exact same_repatriate_iff hl hne
      by_cases hmoved : min o.fee.toNat (reserved s.ledger c) = 0
      · refine .inl ⟨hsame.mpr hmoved, hne, .inr ⟨hlate, hpen, ?_⟩⟩
        rw [total]
        omega
      · refine .inr ⟨?_, .inr ?_⟩
        · rintro ⟨-, ⟨hfee, hdead⟩ | ⟨-, -, htotal⟩⟩
          · exact hpaid.elim hfee fun h => h.elim hne fun h => h hdead
          · rw [total] at htotal
            omega
        · rw [hs']
          refine ⟨rfl, rfl, fun a => ?_, hmoved, .inl hne⟩
          rw [withLedger_ledger, reserved_repatriate hl]

variable (env) in
/-- A settlement message changes nothing exactly when it is stuck; otherwise it closes the order
or takes the fee alone. -/
theorem settlement_outcome (hm : SettlesFor c d m) (hs : s.Holds d o dev) :
    (s.Same (handleMessage env s m) ∧ Stuck env s o dev m) ∨
      (¬Stuck env s o dev m ∧ (ClosedFor s (handleMessage env s m) c d o dev ∨
        FeeTaken s (handleMessage env s m) c d o)) := by
  cases hm with
  | orderReject onoff => exact onReject_outcome hs onoff
  | orderDone onoff => exact onDone_outcome hs onoff

/-! ### The parties of an order -/

/-- The reserves of all accounts but the device and the order's client are kept, and the client has
paid exactly the fee when the order is gone. -/
structure TouchesOnlyParties (s s' : State A P L) (d : A) : Prop where
  others : ∀ a, a ≠ d → (∀ o, s.orders.lookup d = some o → a ≠ o.client) →
    reserved s.ledger a ≤ reserved s'.ledger a
  fee : ∀ o dev, s.Holds d o dev → d ∉ s'.orders →
    reserved s'.ledger o.client + o.fee.toNat +
      (if o.client = d then dev.penalty.toNat else 0) = reserved s.ledger o.client

omit [LawfulCurrency L A] in
/-- In an exactly escrowed storage the reserves contain the fee and the penalty of every order. -/
theorem ExactlyEscrowed.backing_le {b : A → ℕ} (h : ExactlyEscrowed b s) (hs : s.Holds d o dev)
    (a : A) : (if a = o.client then o.fee.toNat else 0) +
      (if a = d then dev.penalty.toNat else 0) ≤ reserved s.ledger a := by
  have hfee : (if a = o.client then o.fee.toNat else 0) ≤ feesHeld s a := by
    rw [feesHeld, Finmap.sumBy_erase hs.order]
    exact Nat.le_add_right _ _
  have hpenalty : (if a = d then dev.penalty.toNat else 0) ≤ penaltyHeld s a := by
    split_ifs with ha
    · rw [ha, penaltyHeld, hs.order, hs.profile]
    · exact Nat.zero_le _
  rw [h a, add_assoc]
  exact (Nat.add_le_add hfee hpenalty).trans (Nat.le_add_left _ _)

omit [LawfulCurrency L A] in
/-- A message that changes nothing touches nobody. -/
theorem touchesOnlyParties_of_same (hs : s.Holds d o dev) (h : s.Same s') :
    TouchesOnlyParties s s' d := by
  constructor
  · exact fun a _ _ => (h.reserved a).ge
  · intro _ _ _ hgone
    exact absurd (Finmap.mem_of_lookup_eq_some (h.orders ▸ hs.order)) hgone

omit [LawfulCurrency L A] in
/-- A closed order has touched its parties alone when the account that paid the fee is the client
or there was no fee. -/
theorem ClosedFor.touches_iff {b : A → ℕ} (he : ExactlyEscrowed b s)
    (hs : s.Holds d o dev) (h : ClosedFor s s' c d o dev) :
    TouchesOnlyParties s s' d ↔ o.client = c ∨ o.fee.toNat = 0 := by
  have hbacked := he.backing_le hs o.client
  rw [if_pos rfl] at hbacked
  constructor
  · intro htouch
    have hgone : d ∉ s'.orders := by simp [h.orders]
    have hfee := htouch.fee o dev hs hgone
    rw [h.reserved] at hfee
    by_cases hc : o.client = c
    · exact .inl hc
    · rw [if_neg hc] at hfee
      exact .inr (by omega)
  · intro hparty
    constructor
    · intro a hd hclient
      have hfee : (if a = c then o.fee.toNat else 0) = 0 := by
        rcases hparty with rfl | hzero
        · exact if_neg (hclient o hs.order)
        · rw [hzero, ite_self]
      rw [h.reserved, hfee, if_neg hd]
      exact Nat.le_refl _
    · intro o' dev' hs' _
      obtain ⟨rfl, rfl⟩ := hs.unique hs'
      have hfee : (if o'.client = c then o'.fee.toNat else 0) = o'.fee.toNat := by
        rcases hparty with hc | hzero
        · exact if_pos hc
        · rw [hzero, ite_self]
      rw [h.reserved, hfee]
      omega

omit [LawfulCurrency L A] in
/-- A fee that is taken while the order stays has touched the parties alone when the client paid
it. -/
theorem FeeTaken.touches_iff {b : A → ℕ} (he : ExactlyEscrowed b s)
    (hs : s.Holds d o dev) (h : FeeTaken s s' c d o) :
    TouchesOnlyParties s s' d ↔ o.client = c := by
  have hmoved := h.moved
  constructor
  · intro htouch
    by_contra hc
    have hd : c ≠ d := by
      -- a client with an escrowed fee owns something
      refine h.apart.resolve_right fun htotal => ?_
      have hbacked := he.backing_le hs o.client
      rw [if_pos rfl] at hbacked
      rw [total] at htotal
      omega
    have hkept := htouch.others c hd fun o' ho' heq => by
      obtain rfl := Option.some.inj (hs.order.symm.trans ho')
      exact hc heq.symm
    rw [h.reserved, if_pos rfl] at hkept
    omega
  · intro hc
    constructor
    · intro a _ hclient
      rw [h.reserved, if_neg (hc ▸ hclient o hs.order)]
      exact Nat.le_refl _
    · intro _ _ hs' hgone
      exact absurd (Finmap.mem_of_lookup_eq_some (h.orders ▸ hs'.order)) hgone

/-- In an exactly escrowed storage a settlement message touches the parties of the order alone
exactly when there is no order to settle, it names the client of the order, there is no fee, or it
can move nothing. -/
theorem touchesOnlyParties_iff {b : A → ℕ} (he : ExactlyEscrowed b s) (hm : SettlesFor c d m) :
    TouchesOnlyParties s (handleMessage env s m) d ↔
      ∀ o dev, s.Holds d o dev → o.client = c ∨ o.fee.toNat = 0 ∨ Stuck env s o dev m := by
  by_cases hs : ∃ o dev, s.Holds d o dev
  · obtain ⟨o, dev, hs⟩ := hs
    have hcond : (∀ o dev, s.Holds d o dev → o.client = c ∨ o.fee.toNat = 0 ∨
        Stuck env s o dev m) ↔ o.client = c ∨ o.fee.toNat = 0 ∨ Stuck env s o dev m := by
      constructor
      · exact fun h => h o dev hs
      · intro h o' dev' hs'
        obtain ⟨rfl, rfl⟩ := hs.unique hs'
        exact h
    rw [hcond]
    rcases settlement_outcome env hm hs with ⟨hsame, hstuck⟩ | ⟨hstuck, hclosed | hfee⟩
    · exact iff_of_true (touchesOnlyParties_of_same hs hsame) (.inr (.inr hstuck))
    · rw [hclosed.touches_iff he hs, or_iff_left hstuck]
    · have hmoved := hfee.moved
      have hpos : ¬o.fee.toNat = 0 := by omega
      rw [hfee.touches_iff he hs, or_iff_left hstuck, or_iff_left hpos]
  · rw [handleMessage_refused hm hs]
    refine iff_of_true ⟨fun a _ _ => Nat.le_refl _, fun o dev h => ?_⟩ fun o dev h => ?_
    · exact absurd ⟨o, dev, h⟩ hs
    · exact absurd ⟨o, dev, h⟩ hs

/-- The reserves of the first order are exact over the baseline zero. -/
theorem firstOrder_escrowed : ExactlyEscrowed (fun _ => 0) firstOrder :=
  (escrowed_of_run (profiled_of_empty rfl) (fun _ => rfl) firstOrder_run).2

/-- A reject of the first order that names account 3. -/
theorem touchesOnlyParties_iff_foreign_client :
    TouchesOnlyParties firstOrder
        (handleMessage (Env.online 50) firstOrder (.orderReject 3 2 true)) 2 ↔
      ∀ o dev, firstOrder.Holds 2 o dev → o.client = 3 ∨ o.fee.toNat = 0 ∨
        Stuck (Env.online 50) firstOrder o dev (.orderReject 3 2 true) :=
  touchesOnlyParties_iff firstOrder_escrowed (.orderReject true)

/-- The reject of the first order that names account 3 removes the order and leaves the fee of
client 1 reserved. -/
theorem not_touchesOnlyParties_foreign_client :
    ¬∀ (env : Env) (s : State UInt64 UInt64 (Balances UInt64)) (b : UInt64 → ℕ) (c d : UInt64)
      (m : XCMPMessageOf UInt64 UInt64), ExactlyEscrowed b s → SettlesFor c d m →
      TouchesOnlyParties s (handleMessage env s m) d := by
  intro h
  have htouch := h (Env.online 50) firstOrder (fun _ => 0) 3 2 (.orderReject 3 2 true)
    firstOrder_escrowed (.orderReject true)
  exact absurd (htouch.fee _ _ firstOrder_holds (by decide)) (by decide)

end XcmAutoBank.Xchange
