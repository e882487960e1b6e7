import XcmAutoBank.Xchange.Closing
import XcmAutoBank.Xchange.Effect

/-!
# What a message pays in a covered storage

In a storage whose reserves cover its book, a settlement message that names the client of the order
closes the order and pays it out in full: the fee to the device when the order is done and back to
the client when it is rejected, and the penalty back to the device in time and to the client late
(`paidOut_of_covered`).  A done message needs a device that holds something, and a client that is
not drained by the fee before it gets the penalty.
-/

namespace XcmAutoBank

/-- The account that the fee of an order goes to. -/
def Verdict.payee {A : Type} (v : Verdict) (client device : A) : A :=
  match v with
  | .reject => client
  | .done => device

namespace Xchange

open Escrow ReservableCurrency LawfulCurrency Storage

variable {A P L : Type} [DecidableEq A] [ReservableCurrency L A]

/-- The order of a device is closed, its fee and penalty leave the reserves and reach the free
balances of those they are due to. -/
structure PaidOut (now : Moment) (v : Verdict) (onoff : Bool) (s s' : State A P L) (d : A)
    (o : OrderOf A P) (dev : DeviceProfile) : Prop where
  orders : s'.orders = s.orders.erase d
  device : s'.device = s.device.insert d (settledProfile dev onoff)
  reserved : ∀ a, reserved s'.ledger a + (if a = o.client then o.fee.toNat else 0) +
    (if a = d then dev.penalty.toNat else 0) = ReservableCurrency.reserved s.ledger a
  free : ∀ a, free s'.ledger a = ReservableCurrency.free s.ledger a +
    (if a = v.payee o.client d then o.fee.toNat else 0) +
    (if a = penaltyPayee now o.untilTime d o.client then dev.penalty.toNat else 0)

/-- What a done message needs beside the reserves: the device holds something, and the client is
not drained by the fee. -/
def Payable (env : Env) (s : State A P L) (v : Verdict) (d : A) (o : OrderOf A P) : Prop :=
  v = .done → total s.ledger d ≠ 0 ∧ ¬Drains env s o.client d

variable [LawfulCurrency L A] {env : Env} {s : State A P L} {d : A} {o : OrderOf A P}
  {dev : DeviceProfile}

omit [LawfulCurrency L A] in
/-- In a covered storage the reserves contain the fee and the penalty of every order. -/
theorem backing_le_of_covered (hc : (s.pool backs).Covered) (hs : s.Holds d o dev) (a : A) :
    (if a = o.client then o.fee.toNat else 0) + (if a = d then dev.penalty.toNat else 0) ≤
      reserved s.ledger a := by
  refine hc.backing_le (d := d) (p := ⟨o.client, o.fee.toNat, dev.penalty.toNat⟩) ?_ a
  exact (lookup_bookOf d).trans (position_of_holds hs)

/-- A reject message gives the client its fee back. -/
theorem paidOut_of_reject (hc : (s.pool backs).Covered) (hs : s.Holds d o dev)
    (hfee : 0 < o.fee.toNat) (onoff : Bool) :
    PaidOut env.now .reject onoff s (handleMessage env s (.orderReject o.client d onoff)) d o
      dev := by
  have hbacked := backing_le_of_covered hc hs
  have hrun : (onReject env o.client d onoff).run s = _ := onReject_run hs o.client onoff
  cases hl : settlePenalty env.now o.untilTime (unreserve s.ledger o.client o.fee.toNat) d
      o.client dev.penalty.toNat with
  | error e =>
    -- the client holds its fee, so the penalty can be paid to it
    obtain ⟨-, -, -, hdead⟩ := settlePenalty_error_iff.mp ⟨e, hl⟩
    have hclient := hbacked o.client
    rw [if_pos rfl] at hclient
    rw [total_unreserve, total] at hdead
    omega
  | ok l =>
    have hmessage : handleMessage env s (.orderReject o.client d onoff) =
        s.closed d (settledProfile dev onoff) l (.reject o.client d) := by
      simp only [handleMessage, hrun, hl]
    rw [hmessage]
    refine ⟨rfl, rfl, fun a => ?_, fun a => ?_⟩
    · have ha := hbacked a
      rw [closed_ledger, reserved_settlePenalty hl, reserved_unreserve]
      omega
    · have hclient := hbacked o.client
      have hdevice := hbacked d
      rw [if_pos rfl] at hclient hdevice
      have hfull : min dev.penalty.toNat
          (reserved (unreserve s.ledger o.client o.fee.toNat) d) = dev.penalty.toNat := by
        rw [reserved_unreserve]
        omega
      rw [closed_ledger, free_settlePenalty hl, free_unreserve, hfull, Verdict.payee,
        Nat.min_eq_left (by omega)]

/-- A done message gives the device the fee. -/
theorem paidOut_of_done (hc : (s.pool backs).Covered) (hs : s.Holds d o dev)
    (hfee : 0 < o.fee.toNat) (hpayable : Payable env s .done d o) (onoff : Bool) :
    PaidOut env.now .done onoff s (handleMessage env s (.orderDone o.client d onoff)) d o dev := by
  obtain ⟨halive, hdrains⟩ := hpayable rfl
  have hbacked := backing_le_of_covered hc hs
  have hclient := hbacked o.client
  have hdevice := hbacked d
  rw [if_pos rfl] at hclient hdevice
  have hrun : (onDone env o.client d onoff).run s = _ := onDone_run hs o.client onoff
  obtain ⟨l₁, hl₁⟩ : ∃ l₁, repatriateReserved s.ledger o.client d o.fee.toNat .free = .ok l₁ :=
    (repatriate_ok_iff _ _ _ _).mpr (.inr (.inr halive))
  cases hl : settlePenalty env.now o.untilTime l₁ d o.client dev.penalty.toNat with
  | error e =>
    -- the fee is reserved, so a client that cannot be paid was drained
    obtain ⟨hne, hlate, hpen, hfree, hres⟩ := (settle_done_error_iff hl₁).mp ⟨e, hl⟩
    have hheld : reserved s.ledger o.client ≠ 0 := by omega
    exact absurd ⟨o, dev, hs, hne, hlate, hpen, halive, hfree, hheld, hres⟩ hdrains
  | ok l =>
    have hmessage : handleMessage env s (.orderDone o.client d onoff) =
        s.closed d (settledProfile dev onoff) l (.done o.client d) := by
      simp only [handleMessage, hrun, hl₁, hl]
    rw [hmessage]
    refine ⟨rfl, rfl, fun a => ?_, fun a => ?_⟩
    · have ha := hbacked a
      rw [closed_ledger, reserved_settlePenalty hl, reserved_repatriate hl₁]
      omega
    · have hfull : min dev.penalty.toNat (reserved l₁ d) = dev.penalty.toNat := by
        rw [reserved_repatriate hl₁]
        omega
      rw [closed_ledger, free_settlePenalty hl, free_repatriate hl₁, hfull, Verdict.payee,
        Nat.min_eq_left (by omega)]

/-- A settlement message that names the client of the order closes the order and pays it out in
full. -/
theorem paidOut_of_covered (hc : (s.pool backs).Covered) (hs : s.Holds d o dev)
    (hfee : 0 < o.fee.toNat) {v : Verdict} (hpayable : Payable env s v d o) (onoff : Bool) :
    PaidOut env.now v onoff s (handleMessage env s (v.message o.client d onoff)) d o dev := by
  cases v with
  | reject => exact paidOut_of_reject hc hs hfee onoff
  | done => exact paidOut_of_done hc hs hfee hpayable onoff

/-! ### Dispatchables -/

omit [LawfulCurrency L A] [ReservableCurrency L A] in
/-- A dispatchable is no settlement message. -/
theorem namesClient_of_dispatchable {op : Op A P} (h : op.Dispatchable) : NamesClient s op := by
  cases op with
  | onReject who d onoff => exact absurd h id
  | onDone who d onoff => exact absurd h id
  | _ => exact trivial

omit [LawfulCurrency L A] in
/-- A dispatchable drains no client. -/
theorem not_drainsClient_of_dispatchable {op : Op A P} (h : op.Dispatchable) :
    ¬DrainsClient env s op := by
  cases op with
  | onDone who d onoff => exact absurd h id
  | _ => exact id

end Xchange

end XcmAutoBank
