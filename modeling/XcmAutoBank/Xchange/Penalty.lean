import XcmAutoBank.Xchange.Effect

/-!
# When a client gets the penalty

An order is closed by its client's `cancel` or by a settlement message (`closes_cases`).  Its client
gets the device's penalty only when the time of the call is the deadline of the order or later
(`Charges.late`); when the work was finished does not enter.
-/

namespace XcmAutoBank.Xchange

open ReservableCurrency LawfulCurrency Storage

variable {A P L : Type} [DecidableEq A] [ReservableCurrency L A]

/-- The operation a message makes, if it makes one. -/
def Op.ofMessage : XCMPMessageOf A P → Option (Op A P)
  | .orderAccept client devid => some (.onAccept client devid)
  | .orderReject client devid onoff => some (.onReject client devid onoff)
  | .orderDone client devid onoff => some (.onDone client devid onoff)
  | .newOrder _ _ => none

/-- What the client of an order gets back of its fee when an operation closes the order. -/
def refund (s : State A P L) (o : OrderOf A P) : Op A P → ℕ
  | .cancel .. => min o.fee.toNat (reserved s.ledger o.client)
  | .onReject who _ _ =>
    if who = o.client then min o.fee.toNat (reserved s.ledger o.client) else 0
  | _ => 0

/-- An operation closes the order of a device, and more than its own fee becomes the client's. -/
structure Charges (s s' : State A P L) (op : Op A P) (d : A) (o : OrderOf A P) : Prop where
  stored : s.orders.lookup d = some o
  closed : d ∉ s'.orders
  other : o.client ≠ d
  paid : free s.ledger o.client + refund s o op < free s'.ledger o.client

variable [Codec A] [Codec P] {env : Env} {s s' : State A P L} {op : Op A P} {d : A}
  {o : OrderOf A P}

/-- A message that makes an operation is handled by it. -/
theorem handleMessage_of_op {m : XCMPMessageOf A P} (h : Op.ofMessage m = some op) :
    handleMessage env s m = (op.call env).exec s := by
  cases m with
  | newOrder client order => cases h
  | orderAccept client device =>
    obtain rfl := Option.some.inj h
    rfl
  | orderReject client device onoff =>
    obtain rfl := Option.some.inj h
    rfl
  | orderDone client device onoff =>
    obtain rfl := Option.some.inj h
    rfl

/-- The operations that can close the order of a device. -/
inductive ClosesOrder (env : Env) (d : A) (o : OrderOf A P) : Op A P → Prop
  | cancel (hlate : ¬env.now < o.untilTime) : ClosesOrder env d o (.cancel (.signed o.client) d)
  | onReject (who : A) (onoff : Bool) : ClosesOrder env d o (.onReject who d onoff)
  | onDone (who : A) (onoff : Bool) : ClosesOrder env d o (.onDone who d onoff)

omit [ReservableCurrency L A] [Codec A] [Codec P] in
/-- A call that keeps the orders of a device closes none. -/
theorem mem_of_kept (ho : s.orders.lookup d = some o)
    (hkept : s'.orders.lookup d = s.orders.lookup d) : d ∈ s'.orders :=
  Finmap.mem_of_lookup_eq_some (hkept.trans ho)

omit [Codec A] [Codec P] in
/-- A settlement message of another device keeps the order. -/
theorem mem_of_foreign {m : XCMPMessageOf A P} (ho : s.orders.lookup d = some o)
    (hm : ∀ c, ¬SettlesFor c d m) : d ∈ (handleMessage env s m).orders := by
  rcases handleMessage_kept_or_gone env s m d with ⟨hkept, -⟩ | ⟨⟨c, hsettles⟩, -⟩
  · exact mem_of_kept ho hkept
  · exact absurd hsettles (hm c)

/-- An order is closed by its client once it is late, or by a settlement message. -/
theorem closes_cases (ho : s.orders.lookup d = some o)
    (hgone : d ∉ ((op.call env).exec s).orders) : ClosesOrder env d o op := by
  cases op with
  | test origin =>
    obtain ⟨r, sent, hrun⟩ := test_run env origin s
    refine absurd (mem_of_kept ho ?_) hgone
    rw [Op.call, Dispatch.exec, hrun]
  | order origin b =>
    refine absurd ?_ hgone
    rw [Op.call]
    rcases order_exec env s origin b with hsame | ⟨who, dev, l₁, hs, -, hpenalty | ⟨l₂, -, hrun⟩⟩
    · rw [hsame]
      exact mem_of_kept ho rfl
    · rw [hpenalty]
      exact mem_of_kept ho rfl
    · rw [Dispatch.exec, hrun]
      exact Finmap.mem_insert.mpr (.inr (Finmap.mem_of_lookup_eq_some ho))
  | cancel origin x =>
    rw [Op.call] at hgone
    rcases cancel_exec env s x origin with hsame | ⟨o', dev, hs, hfee | ⟨l, -, hclosed⟩⟩
    · rw [hsame] at hgone
      exact absurd (mem_of_kept ho rfl) hgone
    · rw [hfee] at hgone
      exact absurd (mem_of_kept ho rfl) hgone
    · by_cases hx : d = x
      · subst hx
        obtain rfl : o = o' := Option.some.inj (ho.symm.trans hs.holds.order)
        rw [hs.signed]
        exact .cancel hs.late
      · refine absurd (mem_of_kept ho ?_) hgone
        rw [hclosed]
        exact Finmap.lookup_erase_ne hx
  | register origin paraid penalty wcd onoff =>
    refine absurd (mem_of_kept ho ?_) hgone
    rw [Op.call]
    rcases register_exec s onoff origin paraid penalty wcd with hsame | ⟨id, -, -, hwritten⟩
    · rw [hsame]
    · rw [hwritten]
  | onAccept who x => exact absurd (mem_of_kept ho rfl) hgone
  | onReject who x onoff =>
    by_cases hx : d = x
    · subst hx
      exact .onReject who onoff
    · refine absurd (mem_of_foreign (m := .orderReject who x onoff) ho ?_) hgone
      rintro c ⟨⟩
      exact hx rfl
  | onDone who x onoff =>
    by_cases hx : d = x
    · subst hx
      exact .onDone who onoff
    · refine absurd (mem_of_foreign (m := .orderDone who x onoff) ho ?_) hgone
      rintro c ⟨⟩
      exact hx rfl
  | onKilledAccount who =>
    refine absurd (mem_of_kept ho ?_) hgone
    obtain ⟨m, hrun, -⟩ := onKilledAccount_run s who
    rw [Op.call, Dispatch.exec, hrun]

variable [LawfulCurrency L A]

omit [Codec A] [Codec P] in
/-- Before the deadline a reject message gives the client its fee and no more. -/
theorem free_onReject (hs : s.orders.lookup d = some o) (hnow : env.now < o.untilTime)
    (hother : o.client ≠ d) (who : A) (onoff : Bool) :
    free ((onReject env who d onoff).exec s).ledger o.client ≤
      free s.ledger o.client + refund s o (.onReject who d onoff) := by
  rcases onReject_exec env s who d onoff with hsame | ⟨o', dev, h, hreject⟩
  · rw [hsame]
    exact Nat.le_add_right _ _
  · obtain rfl : o = o' := Option.some.inj (hs.symm.trans h.order)
    have hrelease : free (unreserve s.ledger who o.fee.toNat) o.client =
        free s.ledger o.client + refund s o (.onReject who d onoff) := by
      rw [free_unreserve, refund]
      by_cases hwho : who = o.client
      · rw [if_pos hwho.symm, if_pos hwho, hwho]
      · rw [if_neg (Ne.symm hwho), if_neg hwho]
    rcases hreject with hfee | ⟨l, hl, hclosed⟩
    · rw [hfee, withLedger_ledger, hrelease]
    · rw [hclosed, closed_ledger, free_settlePenalty hl, penaltyPayee, if_pos hnow,
        if_neg hother, hrelease]
      exact Nat.le_refl _

omit [Codec A] [Codec P] in
/-- Before the deadline a done message gives the client nothing. -/
theorem free_onDone (hs : s.orders.lookup d = some o) (hnow : env.now < o.untilTime)
    (hother : o.client ≠ d) (who : A) (onoff : Bool) :
    free ((onDone env who d onoff).exec s).ledger o.client ≤ free s.ledger o.client := by
  rcases onDone_exec env s who d onoff with hsame | ⟨o', dev, l₁, h, hl₁, hdone⟩
  · rw [hsame]
  · obtain rfl : o = o' := Option.some.inj (hs.symm.trans h.order)
    have hfee : free l₁ o.client = free s.ledger o.client := by
      rw [free_repatriate hl₁, if_neg hother, Nat.add_zero]
    rcases hdone with hpaid | ⟨l, hl, hclosed⟩
    · rw [hpaid, withLedger_ledger, hfee]
    · rw [hclosed, closed_ledger, free_settlePenalty hl, penaltyPayee, if_pos hnow,
        if_neg hother, hfee]
      exact Nat.le_refl _

/-- The client of an order gets the penalty of another account only at the deadline or later. -/
theorem Charges.late (h : Charges s ((op.call env).exec s) op d o) : ¬env.now < o.untilTime := by
  intro hnow
  have hpaid := h.paid
  cases closes_cases h.stored h.closed with
  | cancel hlate => exact hlate hnow
  | onReject who onoff =>
    have hfree := free_onReject h.stored hnow h.other who onoff
    exact absurd hpaid (Nat.not_lt.mpr hfree)
  | onDone who onoff =>
    have hfree := free_onDone h.stored hnow h.other who onoff
    exact absurd hpaid (Nat.not_lt.mpr hfree)

end XcmAutoBank.Xchange
