import XcmAutoBank.Runtime.Escrow
import XcmAutoBank.Foundation.History
import XcmAutoBank.Foundation.Payment

/-!
# What the pallets of one runtime pay

As the runtime wires its pallets, money moves between accounts only when an order is closed: the
client pallet pays the penalty of an order that is cancelled, and the service pallet pays the fee of
a local order that is done and the penalty of a local order that is closed late.  An order of
another chain pays nothing.  A call that fails pays nothing either, but for one case: a done call
takes the order away before it pays, and may fail on the penalty after the fee is paid.

Over any run, whatever the calls return, and over a currency without an existential deposit, an
account's total changes by these payments and by what happens outside the pallets
(`total_of_wired_run`).  Each transfer moves as much as there is, so that the payments are exact
because the reserves cover the open orders of both pallets.
-/

namespace XcmAutoBank

open Escrow ReservableCurrency LawfulCurrency Storage

variable {A P L : Type} [DecidableEq A] [ReservableCurrency L A]

/-- A settled penalty that was reserved is paid when it is late. -/
theorem paid_settlePenalty [LawfulCurrency L A] {now untilTime : Moment} {l l' : L}
    {device recipient : A} {penalty : ℕ}
    (h : settlePenalty now untilTime l device recipient penalty = .ok l')
    (hp : penalty ≤ reserved l device) :
    Paid (if now < untilTime then [] else [⟨device, recipient, penalty⟩]) l l' := by
  unfold settlePenalty at h
  split_ifs at h ⊢
  · cases h
    exact paid_unreserve l device penalty
  · exact paid_repatriate h hp

/-! ### The client pallet -/

namespace Xchange

/-- What a dispatchable pays: the penalty of the order it cancels. -/
def payments (env : Env) (s : State A P L) : Op A P → List (Payment A)
  | .cancel origin d =>
    match s.orders.lookup d, s.device.lookup d with
    | some o, some dev =>
      if d ∈ ((cancel env origin d).exec s).orders then [] else [⟨d, o.client, dev.penalty.toNat⟩]
    | _, _ => []
  | _ => []

variable {env : Env} {s : State A P L} {d : A} {origin : Origin A}

/-- A cancellation that keeps the orders pays nothing. -/
theorem payments_of_kept (h : ((cancel env origin d).exec s).orders = s.orders) :
    payments env s (.cancel origin d) = [] := by
  simp only [payments, h]
  split
  · rename_i o dev ho _
    exact if_pos (Finmap.mem_of_lookup_eq_some ho)
  · rfl

/-- In a covered storage a dispatchable makes its payments, whatever it returns. -/
theorem paid_of_call [Codec A] [Codec P] [LawfulCurrency L A] {op : Op A P}
    (hc : (s.pool backs).Covered) (hop : op.Dispatchable) :
    Paid (payments env s op) s.ledger ((op.call env).exec s).ledger := by
  cases op with
  | onAccept who d => exact absurd hop id
  | onReject who d onoff => exact absurd hop id
  | onDone who d onoff => exact absurd hop id
  | test origin =>
    obtain ⟨r, sent, hrun⟩ := test_run env origin s
    refine paid_of_total fun a => ?_
    change total ((test env origin).exec s).ledger a = _
    rw [Dispatch.exec, hrun]
  | order origin b =>
    change Paid [] s.ledger ((order env origin b).exec s).ledger
    rcases order_exec env s origin b with
      hsame | ⟨who, dev, l₁, -, hl₁, hpenalty | ⟨l₂, hl₂, hrun⟩⟩
    · rw [hsame]
      exact paid_of_total fun _ => rfl
    · rw [hpenalty]
      exact paid_reserve hl₁
    · rw [Dispatch.exec, hrun]
      exact (paid_reserve hl₁).append (paid_reserve hl₂)
  | cancel origin d =>
    change Paid _ s.ledger ((cancel env origin d).exec s).ledger
    rcases cancel_exec env s d origin with hsame | ⟨o, dev, hcancel, hfee | ⟨l, hl, hclosed⟩⟩
    · rw [payments_of_kept (congrArg Storage.orders hsame), hsame]
      exact paid_of_total fun _ => rfl
    · rw [payments_of_kept (by rw [hfee, withLedger_orders]), hfee]
      exact paid_unreserve s.ledger o.client o.fee.toNat
    · have hgone : d ∉ ((cancel env origin d).exec s).orders := by
        rw [hclosed]
        exact Finmap.notMem_erase_self
      have hpayments : payments env s (.cancel origin d) =
          [⟨d, o.client, dev.penalty.toNat⟩] := by
        simp only [payments, hcancel.holds.order, hcancel.holds.profile]
        exact if_neg hgone
      have hbacked := backing_le_of_covered hc hcancel.holds d
      rw [if_pos rfl] at hbacked
      have hsettled := paid_settlePenalty hl (by rw [reserved_unreserve]; omega)
      rw [if_neg hcancel.late] at hsettled
      rw [hpayments, hclosed]
      exact (paid_unreserve s.ledger o.client o.fee.toNat).append hsettled
  | register origin paraid penalty wcd onoff =>
    change Paid [] s.ledger ((register origin paraid penalty wcd onoff).exec s).ledger
    rcases register_exec s onoff origin paraid penalty wcd with hsame | ⟨id, -, -, hwritten⟩
    · rw [hsame]
      exact paid_of_total fun _ => rfl
    · rw [hwritten]
      exact paid_of_total fun _ => rfl
  | onKilledAccount who =>
    obtain ⟨m, hrun, -⟩ := onKilledAccount_run s who
    refine paid_of_total fun a => ?_
    change total ((onKilledAccount who).exec s).ledger a = _
    rw [Dispatch.exec, hrun]

end Xchange

/-! ### The service pallet -/

namespace Service

/-- The ledger after a finished order could not be paid in full: the fee may be paid alone. -/
def feeLedger (l : L) (o : OrderOf A P) (d : A) : L :=
  match repatriateReserved l o.client d o.fee.toNat .free with
  | .ok l₁ => l₁
  | .error _ => l

variable [Codec A] [Codec P]

/-- What a call pays for the local order it closes: the fee of a finished order, unless the device
owns nothing, and the penalty of a late one when the call succeeds. -/
def payments (selfParaId : ParaId) (env : ServiceEnv A P) (s : State A P L) (op : Op A P) :
    List (Payment A) :=
  match op.device with
  | some d =>
    match s.orders.lookup d, s.device.lookup d with
    | some o, some dev =>
      if o.paraid ≠ selfParaId ∨ d ∈ ((op.call selfParaId env).exec s).orders then []
      else
        (if op.verdict = .done ∧ (o.fee.toNat = 0 ∨ o.client = d ∨ total s.ledger d ≠ 0) then
          [⟨o.client, d, o.fee.toNat⟩] else []) ++
        match ((op.call selfParaId env).run s).1 with
        | .ok _ => if env.now < o.untilTime then [] else [⟨d, o.client, dev.penalty.toNat⟩]
        | .error _ => []
    | _, _ => []
  | none => []

variable {selfParaId : ParaId} {env : ServiceEnv A P} {s : State A P L} {d : A} {o : OrderOf A P}
  {dev : DeviceProfile} {op : Op A P} {origin : Origin A}

/-- A call that closes no local order pays nothing. -/
theorem payments_eq_nil (h : ∀ d o, op.device = some d → s.orders.lookup d = some o →
    o.paraid ≠ selfParaId ∨ d ∈ ((op.call selfParaId env).exec s).orders) :
    payments selfParaId env s op = [] := by
  unfold payments
  split
  · rename_i d hdevice
    split
    · rename_i o dev ho hd
      exact if_pos (h d o hdevice ho)
    · rfl
  · rfl

/-- An order of another chain pays nothing. -/
theorem payments_of_remote (hdevice : op.device = some d) (ho : s.orders.lookup d = some o)
    (hremote : o.paraid ≠ selfParaId) : payments selfParaId env s op = [] := by
  refine payments_eq_nil fun x o' hx ho' => ?_
  obtain rfl := Option.some.inj (hdevice.symm.trans hx)
  obtain rfl := Option.some.inj (ho.symm.trans ho')
  exact .inl hremote

/-- A call that closes a local order pays for it. -/
theorem payments_of_closed (hdevice : op.device = some d) (hs : s.Holds d o dev)
    (hlocal : o.paraid = selfParaId) (hgone : d ∉ ((op.call selfParaId env).exec s).orders) :
    payments selfParaId env s op =
      (if op.verdict = .done ∧ (o.fee.toNat = 0 ∨ o.client = d ∨ total s.ledger d ≠ 0) then
        [⟨o.client, d, o.fee.toNat⟩] else []) ++
      match ((op.call selfParaId env).run s).1 with
      | .ok _ => if env.now < o.untilTime then [] else [⟨d, o.client, dev.penalty.toNat⟩]
      | .error _ => [] := by
  simp only [payments, hdevice, hs.order, hs.profile]
  exact if_neg (not_or.mpr ⟨not_not.mpr hlocal, hgone⟩)

/-- A call that leaves the storage alone pays nothing. -/
theorem paid_of_same (h : (op.call selfParaId env).exec s = s) :
    Paid (payments selfParaId env s op) s.ledger ((op.call selfParaId env).exec s).ledger := by
  rw [h, payments_eq_nil fun d o _ ho => ?_]
  · exact paid_of_total fun _ => rfl
  · rw [h]
    exact .inr (Finmap.mem_of_lookup_eq_some ho)

variable [LawfulCurrency L A]

/-- A received order pays nothing. -/
theorem paid_of_received :
    Paid ([] : List (Payment A)) s.ledger ((orderReceived selfParaId env o d).exec s).ledger := by
  rcases orderReceived_exec selfParaId env s d o with
    hsame | ⟨dev, state, l, -, ⟨hfailed, -, hl⟩ | ⟨hstored, hlocal, hremote⟩⟩
  · rw [hsame]
    exact paid_of_total fun _ => rfl
  · rw [hfailed]
    exact paid_reserve hl
  · rw [hstored]
    by_cases hself : o.paraid = selfParaId
    · obtain ⟨l₁, hl₁, hl₂⟩ := hlocal hself
      exact (paid_reserve hl₁).append (paid_reserve hl₂)
    · rw [hremote hself]
      exact paid_of_total fun _ => rfl

omit [Codec A] [Codec P] in
/-- A local order that is rejected pays its penalty when it is late. -/
theorem paid_rejectLedger {now : Moment} {l : L} (hc : (s.pool (backs selfParaId)).Covered)
    (hs : s.Holds d o dev) (hlocal : o.paraid = selfParaId)
    (hl : rejectLedger selfParaId now o d dev s.ledger = .ok l) :
    Paid (if now < o.untilTime then [] else [⟨d, o.client, dev.penalty.toNat⟩]) s.ledger l := by
  have hbacked := backing_le_reserved hc hs hlocal d
  rw [if_pos rfl] at hbacked
  rw [rejectLedger, if_pos hlocal] at hl
  have hreserved : dev.penalty.toNat ≤ reserved (unreserve s.ledger o.client o.fee.toNat) d := by
    rw [reserved_unreserve]
    omega
  exact (paid_unreserve s.ledger o.client o.fee.toNat).append (paid_settlePenalty hl hreserved)

omit [Codec A] [Codec P] in
/-- A local order that is done pays its fee, and its penalty when it is late. -/
theorem paid_doneLedger {now : Moment} {l : L} (hc : (s.pool (backs selfParaId)).Covered)
    (hs : s.Holds d o dev) (hlocal : o.paraid = selfParaId)
    (hl : doneLedger selfParaId now o d dev s.ledger = .ok l) :
    (o.fee.toNat = 0 ∨ o.client = d ∨ total s.ledger d ≠ 0) ∧
      Paid (⟨o.client, d, o.fee.toNat⟩ ::
        if now < o.untilTime then [] else [⟨d, o.client, dev.penalty.toNat⟩]) s.ledger l := by
  have hclient := backing_le_reserved hc hs hlocal o.client
  have hdev := backing_le_reserved hc hs hlocal d
  rw [if_pos rfl] at hclient hdev
  rw [doneLedger, if_pos hlocal] at hl
  cases hl₁ : repatriateReserved s.ledger o.client d o.fee.toNat .free with
  | error e =>
    rw [hl₁] at hl
    cases hl
  | ok l₁ =>
    rw [hl₁] at hl
    have hreserved : dev.penalty.toNat ≤ reserved l₁ d := by
      rw [reserved_repatriate hl₁]
      omega
    exact ⟨(repatriate_ok_iff _ _ _ _).mp ⟨l₁, hl₁⟩,
      (paid_repatriate hl₁ ((Nat.le_add_right _ _).trans hclient)).append
        (paid_settlePenalty hl hreserved)⟩

/-- In a covered storage a call that rejects an order makes its payments. -/
theorem paid_of_reject {dev' : DeviceProfile} {onoff : Bool}
    (hc : (s.pool (backs selfParaId)).Covered) (hdevice : op.device = some d)
    (hverdict : op.verdict = .reject) (hd : s.device.lookup d = some dev)
    (hpenalty : dev'.penalty = dev.penalty)
    (hx : (op.call selfParaId env).run s =
      (orderReject selfParaId env (s.orders.lookup d) env.now d dev' onoff).run s) :
    Paid (payments selfParaId env s op) s.ledger ((op.call selfParaId env).exec s).ledger := by
  cases ho : s.orders.lookup d with
  | none =>
    rw [ho, orderReject_none_run] at hx
    rw [payments_eq_nil fun x o hx ho' => ?_, Dispatch.exec, hx]
    · exact paid_of_total fun _ => rfl
    · obtain rfl := Option.some.inj (hdevice.symm.trans hx)
      cases ho.symm.trans ho'
  | some o =>
    rw [ho, orderReject_run, rejectLedger, hpenalty, ← rejectLedger] at hx
    cases hl : rejectLedger selfParaId env.now o d dev s.ledger with
    | error e =>
      -- the order stays
      rw [hl] at hx
      rw [payments_eq_nil fun x o' _ ho' => ?_, Dispatch.exec, hx]
      · exact paid_unreserve s.ledger o.client o.fee.toNat
      · rw [Dispatch.exec, hx]
        exact .inr (Finmap.mem_of_lookup_eq_some ho')
    | ok l =>
      rw [hl] at hx
      by_cases hlocal : o.paraid = selfParaId
      · have hgone : d ∉ ((op.call selfParaId env).exec s).orders := by
          rw [Dispatch.exec, hx]
          exact Finmap.notMem_erase_self
        rw [payments_of_closed hdevice ⟨ho, hd⟩ hlocal hgone, hverdict, if_neg (by simp),
          Dispatch.exec, hx]
        exact paid_rejectLedger hc ⟨ho, hd⟩ hlocal hl
      · rw [rejectLedger, if_neg hlocal] at hl
        rw [payments_of_remote hdevice ho hlocal, Dispatch.exec, hx]
        exact paid_of_total fun a => by rw [closed_ledger, Except.ok.inj hl]

/-- A done call that cannot be paid drops the order and pays the fee at most. -/
theorem done_unpaid_run {e : CurrencyError} (h : Finishes s origin d o dev) (onoff : Bool)
    (hl : doneLedger selfParaId env.now o d dev s.ledger = .error e) :
    (done selfParaId env origin onoff).run s = (.error (.currency e),
      dropped s d (settledProfile dev onoff) (feeLedger s.ledger o d)) := by
  have hlocal : o.paraid = selfParaId := (doneLedger_error_iff.mp ⟨e, hl⟩).1
  have hrun : (done selfParaId env origin onoff).run s =
      (orderDone selfParaId env o env.now d dev onoff).run
        { s with orders := s.orders.erase d } := by
    rw [h.signed]
    simp [done, h.holds.order, h.holds.profile, h.accepted]
  rw [hrun]
  unfold doneLedger settlePenalty at hl
  unfold orderDone feeLedger
  simp only [hlocal, if_true, Dispatch.run_bind, Device.run_insert, Dispatch.run_ite,
    Currency.run_repatriateReserved, Currency.run_unreserve] at hl ⊢
  cases hfee : repatriateReserved s.ledger o.client d o.fee.toNat .free with
  | error e' =>
    rw [hfee] at hl
    obtain rfl : e' = e := Except.error.inj hl
    rfl
  | ok l₁ =>
    rw [hfee] at hl
    by_cases hearly : env.now < o.untilTime
    · simp [bind, Except.bind, hearly] at hl
    · have hpenalty : repatriateReserved l₁ d o.client dev.penalty.toNat .free = .error e := by
        simpa [bind, Except.bind, hearly] using hl
      simp [hearly, hpenalty, dropped, settledProfile]

omit [Codec A] [Codec P] in
/-- The fee that is paid when the penalty cannot be. -/
theorem paid_feeLedger {l : L} (hfee : o.fee.toNat ≤ reserved l o.client) :
    Paid (if o.fee.toNat = 0 ∨ o.client = d ∨ total l d ≠ 0 then [⟨o.client, d, o.fee.toNat⟩]
      else []) l (feeLedger l o d) := by
  have hok := repatriate_ok_iff l o.client d o.fee.toNat
  unfold feeLedger
  cases hl : repatriateReserved l o.client d o.fee.toNat .free with
  | ok l₁ =>
    rw [if_pos (hok.mp ⟨l₁, hl⟩)]
    exact paid_repatriate hl hfee
  | error e =>
    have hdead : ¬(o.fee.toNat = 0 ∨ o.client = d ∨ total l d ≠ 0) := by
      intro hpayable
      obtain ⟨l₁, hl₁⟩ := hok.mpr hpayable
      cases hl.symm.trans hl₁
    rw [if_neg hdead]
    exact paid_of_total fun _ => rfl

/-- In a covered storage a call that finishes an order makes its payments. -/
theorem paid_of_done (hc : (s.pool (backs selfParaId)).Covered) (hf : Finishes s origin d o dev)
    (onoff : Bool) : Paid (payments selfParaId env s (.done origin onoff)) s.ledger
      ((done selfParaId env origin onoff).exec s).ledger := by
  have hdevice : (Op.done origin onoff : Op A P).device = some d := by
    rw [hf.signed]
    rfl
  cases hl : doneLedger selfParaId env.now o d dev s.ledger with
  | error e =>
    have hrun := done_unpaid_run hf onoff hl
    have hlocal : o.paraid = selfParaId := (doneLedger_error_iff.mp ⟨e, hl⟩).1
    have hgone : d ∉ ((done selfParaId env origin onoff).exec s).orders := by
      rw [Dispatch.exec, hrun]
      exact Finmap.notMem_erase_self
    have hbacked := backing_le_reserved hc hf.holds hlocal o.client
    rw [if_pos rfl] at hbacked
    rw [payments_of_closed hdevice hf.holds hlocal hgone, Op.call, hrun, List.append_nil,
      Dispatch.exec, hrun, Op.verdict]
    simp only [true_and]
    exact paid_feeLedger ((Nat.le_add_right _ _).trans hbacked)
  | ok l =>
    rcases done_run selfParaId env hf onoff with ⟨l', hl', hrun⟩ | ⟨e, -, he, -⟩
    · obtain rfl := Except.ok.inj (hl.symm.trans hl')
      by_cases hlocal : o.paraid = selfParaId
      · have hgone : d ∉ ((done selfParaId env origin onoff).exec s).orders := by
          rw [Dispatch.exec, hrun]
          exact Finmap.notMem_erase_self
        obtain ⟨hpayable, hpaid⟩ := paid_doneLedger hc hf.holds hlocal hl
        rw [payments_of_closed hdevice hf.holds hlocal hgone, if_pos ⟨rfl, hpayable⟩, Op.call,
          Dispatch.exec, hrun]
        exact hpaid
      · rw [doneLedger, if_neg hlocal] at hl
        rw [payments_of_remote hdevice hf.holds.order hlocal, Dispatch.exec, hrun]
        exact paid_of_total fun a => by rw [closed_ledger, Except.ok.inj hl]
    · cases hl.symm.trans he

/-- In a covered storage every call makes its payments, whatever it returns. -/
theorem paid_of_call (op : Op A P) (hc : (s.pool (backs selfParaId)).Covered) :
    Paid (payments selfParaId env s op) s.ledger ((op.call selfParaId env).exec s).ledger := by
  cases op with
  | order origin b =>
    by_cases hwho : ∃ who, origin = .signed who
    · obtain ⟨who, rfl⟩ := hwho
      change Paid [] s.ledger ((order selfParaId env (.signed who) b).exec s).ledger
      rw [order_signed]
      exact paid_of_received
    · exact paid_of_same (Dispatch.exec_of_refused
        (order_unsigned (fun who heq => hwho ⟨who, heq⟩) b))
  | cancel origin d =>
    by_cases hcancel : ∃ o dev, Cancels env s origin d o dev
    · obtain ⟨o, dev, hcancel⟩ := hcancel
      exact paid_of_reject hc rfl rfl hcancel.holds.profile rfl (cancel_reject_run hcancel)
    · exact paid_of_same (Dispatch.exec_of_refused (cancel_refused hcancel))
  | accept origin reject onoff =>
    cases reject with
    | false =>
      rcases accept_exec selfParaId env s origin onoff with hsame | ⟨d, o, dev, -, htaken⟩
      · exact paid_of_same hsame
      · have hcall : ((Op.accept origin false onoff).call selfParaId env).exec s =
            taken selfParaId env.toEnv s o d dev := htaken
        rw [payments_eq_nil fun x o' _ ho' => ?_, hcall, taken_ledger]
        · exact paid_of_total fun _ => rfl
        · rw [hcall, taken_orders]
          exact .inr (Finmap.mem_of_lookup_eq_some ho')
    | true =>
      by_cases hr : ∃ d dev, Rejects s origin d dev
      · obtain ⟨d, dev, hr⟩ := hr
        have hdevice : (Op.accept origin true onoff : Op A P).device = some d := by
          rw [hr.signed]
          rfl
        have hpenalty : (settledProfile dev onoff).penalty = dev.penalty := rfl
        exact paid_of_reject hc hdevice rfl hr.profile hpenalty (accept_reject_run hr onoff)
      · exact paid_of_same (Dispatch.exec_of_refused (accept_reject_refused hr onoff))
  | done origin onoff =>
    by_cases hf : ∃ d o dev, Finishes s origin d o dev
    · obtain ⟨d, o, dev, hf⟩ := hf
      exact paid_of_done hc hf onoff
    · exact paid_of_same (Dispatch.exec_of_refused (done_refused hf onoff))
  | register origin penalty wcd onoff =>
    change Paid [] s.ledger ((register origin penalty wcd onoff).exec s).ledger
    rcases register_exec s origin penalty wcd onoff with hsame | ⟨id, -, -, hwritten⟩
    · rw [hsame]
      exact paid_of_total fun _ => rfl
    · rw [hwritten]
      exact paid_of_total fun _ => rfl
  | setState origin onoff =>
    change Paid [] s.ledger ((setState origin onoff).exec s).ledger
    rcases setState_exec s origin onoff with hsame | ⟨d, dev, state, -, hwritten⟩
    · rw [hsame]
      exact paid_of_total fun _ => rfl
    · rw [hwritten]
      exact paid_of_total fun _ => rfl
  | orderReceived o d => exact paid_of_received
  | onKilledAccount who =>
    obtain ⟨m, hrun, -⟩ := onKilledAccount_run s who
    refine paid_of_total fun a => ?_
    change total ((onKilledAccount who).exec s).ledger a = _
    rw [Dispatch.exec, hrun]

end Service

/-! ### The runtime -/

namespace Runtime

/-- An event of a run: what enters a pallet at a time, or a call elsewhere with the balances and the
share of the other pallets that it leaves. -/
inductive Happening (A P L : Type) where
  | entry (env : Env) (e : Entry A P)
  | elsewhere (balances : L) (others : A → ℕ)

/-- What changes the total of an account. -/
inductive Change (A : Type) where
  | payment (p : Payment A)
  | elsewhere (lost gained : A → ℕ)

/-- What an account loses by a change. -/
def Change.debit (a : A) : Change A → ℕ
  | .payment p => p.paidBy a
  | .elsewhere lost _ => lost a

/-- What an account gains by a change. -/
def Change.credit (a : A) : Change A → ℕ
  | .payment p => p.paidTo a
  | .elsewhere _ gained => gained a

variable [Codec A] [Codec P]

/-- What an entry pays. -/
def Entry.payments (selfParaId : ParaId) (env : Env) (r : State A P L) :
    Entry A P → List (Payment A)
  | .xchange (.call op) => Xchange.payments env r.xchange op
  | .service (.call op) => Service.payments selfParaId (serviceEnv env) r.service op
  | _ => []

/-- The runtime and the share of the other pallets after an event. -/
def Accounts.next (selfParaId : ParaId) (c : Accounts A P L) : Happening A P L → Accounts A P L
  | .entry env e => { c with runtime := e.exec selfParaId env c.runtime }
  | .elsewhere balances others => ⟨c.runtime.putBalances balances, others⟩

/-- What an event changes. -/
def changes (selfParaId : ParaId) (c : Accounts A P L) : Happening A P L → List (Change A)
  | .entry env e => (e.payments selfParaId env c.runtime).map .payment
  | .elsewhere balances _ =>
    [.elsewhere (fun a => total c.runtime.balances a - total balances a)
      (fun a => total balances a - total c.runtime.balances a)]

/-- An event that the wiring of the runtime allows: a signed call of a pallet, or a call elsewhere
that reserves or releases the share of the other pallets. -/
def Wired (c : Accounts A P L) : Happening A P L → Prop
  | .entry _ e => e.Wired
  | .elsewhere balances others =>
    ∀ a, reserved balances a + c.others a = reserved c.runtime.balances a + others a

variable {selfParaId : ParaId} {c : Accounts A P L} {h : Happening A P L} {a : A}

/-- A wired event is a step. -/
theorem wiredStep_of_wired (hwired : Wired c h) : WiredStep selfParaId c (c.next selfParaId h) := by
  cases h with
  | entry env e => exact .entry c env e hwired
  | elsewhere balances others => exact .elsewhere c balances others hwired

variable [LawfulCurrency L A]

/-- In a covered runtime a wired entry makes its payments. -/
theorem paid_of_entry {env : Env} {e : Entry A P} (he : e.Wired)
    (hc : (c.shared selfParaId).Covered) :
    Paid (e.payments selfParaId env c.runtime) c.runtime.balances
      (e.exec selfParaId env c.runtime).balances := by
  cases e with
  | template op => exact paid_of_total fun _ => rfl
  | xchange entry =>
    cases entry with
    | batch items maxWeight => exact absurd he id
    | call op => exact Xchange.paid_of_call (hc.pool .xchange) he.1
  | service entry =>
    cases entry with
    | batch items maxWeight => exact absurd he id
    | call op => exact Service.paid_of_call op (hc.pool .service)

/-- A wired event of a covered runtime changes every total as it says. -/
theorem total_of_wired (hwired : Wired c h) (hc : (c.shared selfParaId).Covered) (a : A) :
    total (c.next selfParaId h).runtime.balances a +
        ((changes selfParaId c h).map (Change.debit a)).sum =
      total c.runtime.balances a + ((changes selfParaId c h).map (Change.credit a)).sum := by
  cases h with
  | entry env e =>
    rw [changes, List.map_map, List.map_map]
    exact paid_of_entry hwired hc a
  | elsewhere balances others =>
    change total balances a + (total c.runtime.balances a - total balances a + 0) =
      total c.runtime.balances a + (total balances a - total c.runtime.balances a + 0)
    omega

/-- Over a currency without an existential deposit and every run of the runtime as it is wired,
whatever the calls return, an account's total changes by exactly the payments of the orders that
are closed and by what happens elsewhere. -/
theorem total_of_wired_run {balances : L} {others : A → ℕ}
    (hothers : ∀ a, others a ≤ reserved balances a) {hs : List (Happening A P L)}
    (hrun : History.Along (Accounts.next selfParaId) Wired ⟨.init balances, others⟩ hs) (a : A) :
    let c : Accounts A P L := ⟨.init balances, others⟩
    let cs := History.collect (Accounts.next selfParaId) (changes selfParaId) c hs
    total (History.after (Accounts.next selfParaId) c hs).runtime.balances a +
        (cs.map (Change.debit a)).sum =
      total balances a + (cs.map (Change.credit a)).sum := by
  intro c cs
  have hstart : Orderly c.runtime ∧ (c.shared selfParaId).Covered :=
    covered_of_wired_run hothers .refl
  exact History.balance_of_collect
    (I := fun c => Orderly c.runtime ∧ (c.shared selfParaId).Covered)
    (V := fun c => total c.runtime.balances a) hstart hrun
    (fun c h hwired hc => by
      obtain ⟨horderly, hstep⟩ := (wiredStep_of_wired hwired).step hc.1
      exact ⟨horderly, hstep.covered hc.2⟩)
    fun c h hwired hc => total_of_wired hwired hc.2 a

/-- Device 2 has an order of client 1, who puts all it owns in the fee, and one of client 3 in the
client pallet.  It finishes the one too late, and the other is cancelled. -/
def drainedAndCancelled : List (Happening UInt64 UInt64 (Balances UInt64)) :=
  [.entry (Env.online 0) (.service (.call (.register (.signed 2) 10 20 true))),
    .entry (Env.online 0) (.xchange (.call (.register (.signed 2) 2000 5 20 true))),
    .entry (Env.online 0) (.service (.call (.order (.signed 1) ⟨100, 7, 40, 2⟩))),
    .entry (Env.online 0) (.xchange (.call (.order (.signed 3) ⟨100, 7, 30, 2⟩))),
    .entry (Env.online 120) (.service (.call (.done (.signed 2) true))),
    .entry (Env.online 120) (.xchange (.call (.cancel (.signed 3) 2)))]

/-- The done call fails after the fee is paid, and the cancellation pays the penalty: the device
gains the one and loses the other. -/
theorem total_of_wired_run_drained :
    let c : Accounts UInt64 UInt64 (Balances UInt64) := ⟨.init (Balances.uniform 40), fun _ => 0⟩
    let cs := History.collect (Accounts.next 2000) (changes 2000) c drainedAndCancelled
    (cs.map (Change.debit 2)).sum = 5 ∧ (cs.map (Change.credit 2)).sum = 40 ∧
      total (History.after (Accounts.next 2000) c drainedAndCancelled).runtime.balances
        (2 : UInt64) + (cs.map (Change.debit 2)).sum =
          40 + (cs.map (Change.credit 2)).sum := by
  intro c cs
  refine ⟨by decide, by decide, ?_⟩
  have hrun : History.Along (Accounts.next 2000) Wired c drainedAndCancelled := by
    refine ⟨?_, ?_, ?_, ?_, ?_, ?_, trivial⟩
    all_goals exact ⟨trivial, fun who h => by cases h⟩
  exact total_of_wired_run (fun _ => Nat.zero_le _) hrun 2

end Runtime

end XcmAutoBank
