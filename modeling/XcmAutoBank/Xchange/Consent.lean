import XcmAutoBank.Xchange.Entry

/-!
# Who pays on the client chain

Only an order takes from a free balance: the fee from the account that signs it, the penalty from
the device it names, which has declared itself ready.  Everything else releases reserves or moves
them to a free balance, whatever it returns.
-/

namespace XcmAutoBank.Xchange

open ReservableCurrency ThriftyCurrency Storage

variable {A P L : Type} [DecidableEq A] [ReservableCurrency L A] [Codec A] [Codec P]

/-- The penalty an account has registered. -/
def penaltyOf (s : State A P L) (a : A) : ℕ :=
  (s.device.lookup a).elim 0 fun dev => dev.penalty.toNat

/-- How much of its free balance an account has agreed to have reserved by an entry: the fee of an
order it signs, with its own penalty if the order is for itself, or its penalty as a ready device
without an order. -/
inductive Consents (entry : Entry A P) (s : State A P L) (a : A) : ℕ → Prop
  | signed (b : OrderBaseOf A P) (he : entry = .call (.order (.signed a) b)) :
      Consents entry s a (b.fee.toNat + if a = b.device then penaltyOf s a else 0)
  | device (origin : Origin A) (b : OrderBaseOf A P) (dev : DeviceProfile)
      (he : entry = .call (.order origin b)) (hd : b.device = a)
      (profile : s.device.lookup a = some dev) (ready : dev.state = .ready)
      (fresh : a ∉ s.orders) : Consents entry s a dev.penalty.toNat

variable [ThriftyCurrency L A] {env : Env} {s : State A P L}

omit [Codec A] [Codec P] in
/-- No message takes from a free balance. -/
theorem free_le_of_message (m : XCMPMessageOf A P) (a : A) :
    free s.ledger a ≤ free (handleMessage env s m).ledger a := by
  cases m with
  | newOrder client b => exact Nat.le_refl _
  | orderAccept client device => exact Nat.le_refl _
  | orderReject c d onoff =>
    change _ ≤ free ((onReject env c d onoff).exec s).ledger a
    rcases onReject_exec env s c d onoff with hsame | ⟨o, dev, hs, hfee | ⟨l, hl, hclosed⟩⟩
    · rw [hsame]
    · rw [hfee]
      exact free_le_unreserve s.ledger c o.fee.toNat a
    · rw [hclosed]
      exact (free_le_unreserve s.ledger c o.fee.toNat a).trans (free_le_settlePenalty hl a)
  | orderDone c d onoff =>
    change _ ≤ free ((onDone env c d onoff).exec s).ledger a
    rcases onDone_exec env s c d onoff with hsame | ⟨o, dev, l₁, hs, hl₁, hfee | ⟨l, hl, hclosed⟩⟩
    · rw [hsame]
    · rw [hfee]
      exact free_le_repatriate hl₁ a
    · rw [hclosed]
      exact (free_le_repatriate hl₁ a).trans (free_le_settlePenalty hl a)

/-- An order takes the fee from its signer and the penalty from its device, or a part of it. -/
theorem consents_of_order {origin : Origin A} {b : OrderBaseOf A P} {a : A}
    (h : free ((order env origin b).exec s).ledger a < free s.ledger a) :
    ∃ v, Consents (.call (.order origin b)) s a v ∧
      free s.ledger a ≤ free ((order env origin b).exec s).ledger a + v := by
  rcases order_exec env s origin b with hsame | ⟨who, dev, l₁, hs, hl₁, horder⟩
  · rw [hsame] at h
    exact absurd h (Nat.lt_irrefl _)
  · obtain rfl := hs.signed
    have hpenalty : penaltyOf s b.device = dev.penalty.toNat := by
      rw [penaltyOf, hs.profile]
      rfl
    have hledger : ((order env (.signed who) b).exec s).ledger = l₁ ∨
        reserve l₁ who b.fee.toNat = .ok ((order env (.signed who) b).exec s).ledger := by
      rcases horder with hfailed | ⟨l₂, hl₂, hrun⟩
      · exact .inl (by rw [hfailed]; rfl)
      · rw [Dispatch.exec, hrun]
        exact .inr hl₂
    rcases free_of_reserves hl₁ hledger h with ⟨rfl, hle⟩ | ⟨rfl, hle⟩
    · refine ⟨_, .signed b rfl, hle.trans (Nat.add_le_add_left (Nat.add_le_add_left ?_ _) _)⟩
      split_ifs with ha
      · rw [ha, hpenalty]
      · exact Nat.le_refl _
    · exact ⟨_, .device (.signed who) b dev rfl rfl hs.profile hs.ready hs.fresh, hle⟩

/-- Whatever enters the pallet and whatever it returns, an account's free balance only goes down
with the account's consent, and by no more than it has agreed to. -/
theorem consents_of_free_lt {entry : Entry A P} {a : A}
    (h : free (entry.exec env s).ledger a < free s.ledger a) :
    ∃ v, Consents entry s a v ∧ free s.ledger a ≤ free (entry.exec env s).ledger a + v := by
  have thrifty (hle : free s.ledger a ≤ free (entry.exec env s).ledger a) :
      ∃ v, Consents entry s a v ∧ free s.ledger a ≤ free (entry.exec env s).ledger a + v :=
    absurd h (Nat.not_lt.mpr hle)
  cases entry with
  | batch items maxWeight =>
    exact thrifty (handleXcmpMessages_induction (R := fun s s' : State A P L =>
      free s.ledger a ≤ free s'.ledger a) (fun _ => Nat.le_refl _) Nat.le_trans
      (fun s m => free_le_of_message m a) items maxWeight s)
  | call op =>
    cases op with
    | test origin =>
      obtain ⟨r, sent, hrun⟩ := test_run env origin s
      refine thrifty ?_
      change _ ≤ free ((test env origin).exec s).ledger a
      rw [Dispatch.exec, hrun]
    | order origin b => exact consents_of_order h
    | cancel origin d =>
      refine thrifty ?_
      change _ ≤ free ((cancel env origin d).exec s).ledger a
      rcases cancel_exec env s d origin with hsame | ⟨o, dev, hs, hfee | ⟨l, hl, hclosed⟩⟩
      · rw [hsame]
      · rw [hfee]
        exact free_le_unreserve s.ledger o.client o.fee.toNat a
      · rw [hclosed]
        exact (free_le_unreserve s.ledger o.client o.fee.toNat a).trans
          (free_le_settlePenalty hl a)
    | register origin paraid penalty wcd onoff =>
      refine thrifty ?_
      change _ ≤ free ((register origin paraid penalty wcd onoff).exec s).ledger a
      rcases register_exec s onoff origin paraid penalty wcd with hsame | ⟨id, -, -, hwritten⟩
      · rw [hsame]
      · rw [hwritten]
    | onAccept who d => exact thrifty (Nat.le_refl _)
    | onReject who d onoff =>
      exact thrifty (free_le_of_message (.orderReject who d onoff : XCMPMessageOf A P) a)
    | onDone who d onoff =>
      exact thrifty (free_le_of_message (.orderDone who d onoff : XCMPMessageOf A P) a)
    | onKilledAccount who =>
      obtain ⟨m, hrun, -⟩ := onKilledAccount_run s who
      refine thrifty ?_
      change _ ≤ free ((onKilledAccount who).exec s).ledger a
      rw [Dispatch.exec, hrun]

end XcmAutoBank.Xchange
