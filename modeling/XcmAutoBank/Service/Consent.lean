import XcmAutoBank.Service.Entry

/-!
# Who pays on the service chain

Only a local order takes from a free balance: the fee from the account that signs it, the penalty
from the device it names, which has declared itself ready.  An order of another chain is stored
without a reservation, and everything else releases reserves or moves them to a free balance,
whatever it returns.
-/

namespace XcmAutoBank.Service

open ReservableCurrency ThriftyCurrency Storage

variable {A P L : Type} [DecidableEq A] [ReservableCurrency L A] [Codec A] [Codec P]

/-- The penalty an account has registered. -/
def penaltyOf (s : State A P L) (a : A) : ℕ :=
  (s.device.lookup a).elim 0 fun dev => dev.penalty.toNat

/-- How much of its free balance an account has agreed to have reserved by an entry: the fee of an
order it signs, with its own penalty if the order is for itself, or its penalty as a ready device
without an order. -/
inductive Consents (entry : Entry A P) (s : State A P L) (a : A) : ℕ → Prop
  | signed (b : OrderBaseOf A P) (he : entry = .call (.order (.signed a) b)) :
      Consents entry s a (b.fee.toNat + if a = b.device then penaltyOf s a else 0)
  | device (origin : Origin A) (b : OrderBaseOf A P) (dev : DeviceProfile)
      (he : entry = .call (.order origin b)) (hd : b.device = a)
      (profile : s.device.lookup a = some dev) (ready : dev.state = .ready)
      (fresh : a ∉ s.orders) : Consents entry s a dev.penalty.toNat

/-- What arrives from elsewhere does not come from the chain itself. -/
def Entry.Foreign (selfParaId : ParaId) : Entry A P → Prop
  | .call (.orderReceived o _) => o.paraid ≠ selfParaId
  | .batch items _ => ∀ item ∈ items, item.1 ≠ selfParaId
  | _ => True

variable [ThriftyCurrency L A] {selfParaId : ParaId} {env : ServiceEnv A P} {s : State A P L}
  {d : A} {o : OrderOf A P} {dev : DeviceProfile} {l : L}

/-! ### Settlements -/

omit [Codec A] [Codec P] in
/-- A rejected order takes from no free balance. -/
theorem free_le_rejectLedger {now : Moment}
    (h : rejectLedger selfParaId now o d dev s.ledger = .ok l) (a : A) :
    free s.ledger a ≤ free l a := by
  unfold rejectLedger at h
  split_ifs at h
  · exact (free_le_unreserve s.ledger o.client o.fee.toNat a).trans (free_le_settlePenalty h a)
  · cases h
    exact Nat.le_refl _

omit [Codec A] [Codec P] in
/-- A finished order takes from no free balance. -/
theorem free_le_doneLedger {now : Moment}
    (h : doneLedger selfParaId now o d dev s.ledger = .ok l) (a : A) :
    free s.ledger a ≤ free l a := by
  unfold doneLedger at h
  split_ifs at h
  · cases hl₁ : repatriateReserved s.ledger o.client d o.fee.toNat .free with
    | error e =>
      rw [hl₁] at h
      cases h
    | ok l₁ =>
      rw [hl₁] at h
      exact (free_le_repatriate hl₁ a).trans (free_le_settlePenalty h a)
  · cases h
    exact Nat.le_refl _

/-- Rejecting an order, whether it succeeds or fails, takes from no free balance. -/
theorem free_le_of_reject {x : Call (State A P L) Error Unit} {order : Option (OrderOf A P)}
    {onoff : Bool}
    (hx : x.run s = (orderReject selfParaId env order env.now d dev onoff).run s) (a : A) :
    free s.ledger a ≤ free (x.exec s).ledger a := by
  rw [Dispatch.exec, hx]
  cases order with
  | none => rw [orderReject_none_run]; exact Nat.le_refl _
  | some o =>
    rw [orderReject_run]
    split
    · rename_i l hl
      exact free_le_rejectLedger hl a
    · exact free_le_unreserve s.ledger o.client o.fee.toNat a

/-! ### Orders -/

omit [ThriftyCurrency L A] in
/-- An order of another chain leaves the ledger alone. -/
theorem orderReceived_ledger (hremote : o.paraid ≠ selfParaId) :
    ((orderReceived selfParaId env o d).exec s).ledger = s.ledger := by
  rcases orderReceived_exec selfParaId env s d o with
    hsame | ⟨dev, state, l, hr, ⟨-, hlocal, -⟩ | ⟨hstored, -, hl⟩⟩
  · rw [hsame]
  · exact absurd hlocal hremote
  · rw [hstored]
    exact hl hremote

/-- An order takes the fee from its signer and the penalty from its device, or a part of it. -/
theorem consents_of_order {origin : Origin A} {b : OrderBaseOf A P} {a : A}
    (h : free ((order selfParaId env origin b).exec s).ledger a < free s.ledger a) :
    ∃ v, Consents (.call (.order origin b)) s a v ∧
      free s.ledger a ≤ free ((order selfParaId env origin b).exec s).ledger a + v := by
  by_cases hwho : ∃ who, origin = .signed who
  · obtain ⟨who, rfl⟩ := hwho
    rw [order_signed] at h ⊢
    let o := receivedOrder b selfParaId who
    rcases orderReceived_exec selfParaId env s b.device o with
      hsame | ⟨dev, state, l, hr, horder⟩
    · rw [hsame] at h
      exact absurd h (Nat.lt_irrefl _)
    · have hpenalty : penaltyOf s b.device = dev.penalty.toNat := by
        rw [penaltyOf, hr.profile]
        rfl
      obtain ⟨l₁, hl₁, hledger⟩ : ∃ l₁, reserve s.ledger b.device dev.penalty.toNat = .ok l₁ ∧
          (((orderReceived selfParaId env o b.device).exec s).ledger = l₁ ∨
            reserve l₁ who b.fee.toNat =
              .ok ((orderReceived selfParaId env o b.device).exec s).ledger) := by
        rcases horder with ⟨hfailed, -, hl⟩ | ⟨hstored, hreserved, -⟩
        · exact ⟨l, hl, .inl (by rw [hfailed]; rfl)⟩
        · obtain ⟨l₁, hl₁, hl₂⟩ := hreserved rfl
          rw [hstored]
          exact ⟨l₁, hl₁, .inr hl₂⟩
      rcases free_of_reserves hl₁ hledger h with ⟨rfl, hle⟩ | ⟨rfl, hle⟩
      · refine ⟨_, .signed b rfl, hle.trans (Nat.add_le_add_left (Nat.add_le_add_left ?_ _) _)⟩
        split_ifs with ha
        · rw [ha, hpenalty]
        · exact Nat.le_refl _
      · exact ⟨_, .device (.signed who) b dev rfl rfl hr.profile hr.ready hr.fresh, hle⟩
  · have hsame : (order selfParaId env origin b).exec s = s :=
      Dispatch.exec_of_refused (order_unsigned (fun who heq => hwho ⟨who, heq⟩) b)
    rw [hsame] at h
    exact absurd h (Nat.lt_irrefl _)

/-! ### Entries -/

/-- Whatever enters the pallet and whatever it returns, an account's free balance only goes down
with the account's consent, and by no more than it has agreed to. -/
theorem consents_of_free_lt {entry : Entry A P} {a : A} (hforeign : entry.Foreign selfParaId)
    (h : free (entry.exec selfParaId env s).ledger a < free s.ledger a) :
    ∃ v, Consents entry s a v ∧
      free s.ledger a ≤ free (entry.exec selfParaId env s).ledger a + v := by
  have thrifty (hle : free s.ledger a ≤ free (entry.exec selfParaId env s).ledger a) :
      ∃ v, Consents entry s a v ∧
        free s.ledger a ≤ free (entry.exec selfParaId env s).ledger a + v :=
    absurd h (Nat.not_lt.mpr hle)
  cases entry with
  | batch items maxWeight =>
    refine thrifty (handleXcmpMessages_induction selfParaId env
      (R := fun s s' : State A P L => free s.ledger a ≤ free s'.ledger a)
      (fun _ => Nat.le_refl _) Nat.le_trans items maxWeight (fun item hitem s client b => ?_) s)
    have hremote : (receivedOrder b item.1 client).paraid ≠ selfParaId := hforeign item hitem
    rw [orderReceived_ledger hremote]
  | call op =>
    cases op with
    | order origin b => exact consents_of_order h
    | cancel origin d =>
      refine thrifty ?_
      change _ ≤ free ((cancel selfParaId env origin d).exec s).ledger a
      by_cases hc : ∃ o dev, Cancels env s origin d o dev
      · obtain ⟨o, dev, hc⟩ := hc
        exact free_le_of_reject (cancel_reject_run hc) a
      · have hsame : (cancel selfParaId env origin d).exec s = s :=
          Dispatch.exec_of_refused (cancel_refused hc)
        rw [hsame]
    | accept origin reject onoff =>
      refine thrifty ?_
      change _ ≤ free ((accept selfParaId env origin reject onoff).exec s).ledger a
      cases reject with
      | false =>
        rcases accept_exec selfParaId env s origin onoff with hsame | ⟨d, o, dev, -, htaken⟩
        · rw [hsame]
        · rw [htaken, taken_ledger]
      | true =>
        by_cases hr : ∃ d dev, Rejects s origin d dev
        · obtain ⟨d, dev, hr⟩ := hr
          exact free_le_of_reject (accept_reject_run hr onoff) a
        · have hsame : (accept selfParaId env origin true onoff).exec s = s :=
            Dispatch.exec_of_refused (accept_reject_refused hr onoff)
          rw [hsame]
    | done origin onoff =>
      refine thrifty ?_
      change _ ≤ free ((done selfParaId env origin onoff).exec s).ledger a
      rcases done_exec selfParaId env s origin onoff with
        hsame | ⟨d, o, dev, l, -, ⟨hl, hclosed⟩ | ⟨-, hdropped, hpaid⟩⟩
      · rw [hsame]
      · rw [hclosed]
        exact free_le_doneLedger hl a
      · rw [hdropped]
        rcases hpaid with rfl | hpaid
        · exact Nat.le_refl _
        · exact free_le_repatriate hpaid a
    | register origin penalty wcd onoff =>
      refine thrifty ?_
      change _ ≤ free ((register origin penalty wcd onoff).exec s).ledger a
      rcases register_exec s origin penalty wcd onoff with hsame | ⟨id, -, -, hwritten⟩
      · rw [hsame]
      · rw [hwritten]
    | setState origin onoff =>
      refine thrifty ?_
      change _ ≤ free ((setState origin onoff).exec s).ledger a
      rcases setState_exec s origin onoff with hsame | ⟨d, dev, state, -, hwritten⟩
      · rw [hsame]
      · rw [hwritten]
    | orderReceived o d =>
      refine thrifty ?_
      change _ ≤ free ((orderReceived selfParaId env o d).exec s).ledger a
      rw [orderReceived_ledger hforeign]
    | onKilledAccount who =>
      obtain ⟨m, hrun, -⟩ := onKilledAccount_run s who
      refine thrifty ?_
      change _ ≤ free ((onKilledAccount who).exec s).ledger a
      rw [Dispatch.exec, hrun]

end XcmAutoBank.Service
