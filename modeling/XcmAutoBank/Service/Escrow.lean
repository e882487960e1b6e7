import XcmAutoBank.Service.Outcome
import XcmAutoBank.Common.Book

/-!
# The escrow of the service pallet

Local and remote orders share the map and the device states; a local order backs a position of the
escrow, a remote one backs none.  A device with a stored order is busy or has accepted it, so
neither `setState` nor reaping its account touches its profile.  Each call that succeeds opens a
position, closes one or leaves the book alone (`settles_of_ok`), and calls on remote orders leave
the ledger as it is (`remote_ledger`).
-/

namespace XcmAutoBank.Service

open Escrow ReservableCurrency LawfulCurrency Storage

variable {A P L : Type} [DecidableEq A]

/-- The position an order backs against the profile of its device, if it is local. -/
def backs (selfParaId : ParaId) (o : OrderOf A P) (dev : DeviceProfile) : Option (Position A) :=
  if o.paraid = selfParaId then some ⟨o.client, o.fee.toNat, dev.penalty.toNat⟩ else none

/-- The fees of the stored local orders of a client. -/
def feesHeld (selfParaId : ParaId) (s : State A P L) (a : A) : ℕ :=
  s.orders.sumBy fun _ o => if o.paraid = selfParaId ∧ a = o.client then o.fee.toNat else 0

/-- The penalty of a device with a stored local order. -/
def penaltyHeld (selfParaId : ParaId) (s : State A P L) (d : A) : ℕ :=
  match s.orders.lookup d, s.device.lookup d with
  | some o, some dev => if o.paraid = selfParaId then dev.penalty.toNat else 0
  | _, _ => 0

/-- Every account's reserve is a baseline plus the fees and the penalty of local orders held in
it. -/
def ExactlyEscrowed [ReservableCurrency L A] (selfParaId : ParaId) (b : A → ℕ)
    (s : State A P L) : Prop :=
  ∀ a, reserved s.ledger a = b a + feesHeld selfParaId s a + penaltyHeld selfParaId s a

/-- Every device with a stored order has a profile, and it is busy or has accepted. -/
def Engaged (s : State A P L) : Prop :=
  ∀ d o, s.orders.lookup d = some o →
    ∃ dev, s.device.lookup d = some dev ∧ (dev.state = .busy ∨ dev.state = .accepted)

/-- Devices answer an order by taking it, at once or later. -/
def ServiceEnv.Answers (env : ServiceEnv A P) : Prop :=
  ∀ d o state, env.onReceived d o = some state → state = .busy ∨ state = .accepted

/-- An operation on a remote order, arriving or stored. -/
def Remote (selfParaId : ParaId) (s : State A P L) : Op A P → Prop
  | .orderReceived o _ => o.paraid ≠ selfParaId
  | .cancel _ d | .accept (.signed d) _ _ | .done (.signed d) _ =>
    ∃ o, s.orders.lookup d = some o ∧ o.paraid ≠ selfParaId
  | _ => False

variable {selfParaId : ParaId}

/-! ### The book -/

/-- A stored order and a profile back their position. -/
theorem position_of_holds {s : State A P L} {d : A} {o : OrderOf A P} {dev : DeviceProfile}
    (h : s.Holds d o dev) : position (backs selfParaId) s d = backs selfParaId o dev := by
  simp [position, h.order, h.profile]

/-- The book owes the fees and the penalty of the local orders. -/
theorem held_book {s : State A P L} (h : Engaged s) (a : A) :
    (bookOf (backs selfParaId) s).held a =
      feesHeld selfParaId s a + penaltyHeld selfParaId s a := by
  rw [held_bookOf]
  congr 1
  · refine Finmap.sumBy_congr fun d => ?_
    cases ho : s.orders.lookup d with
    | none => rfl
    | some o =>
      obtain ⟨dev, hd, -⟩ := h d o ho
      by_cases hlocal : o.paraid = selfParaId <;>
        simp [position_of_holds (⟨ho, hd⟩ : s.Holds d o dev), backs, hlocal]
  · unfold position penaltyHeld backs
    cases s.orders.lookup a with
    | none => rfl
    | some o =>
      cases s.device.lookup a with
      | none => rfl
      | some dev => by_cases hlocal : o.paraid = selfParaId <;> simp [hlocal]

/-- Without orders there is no device to engage. -/
theorem engaged_of_empty {s : State A P L} (h : s.orders = ∅) : Engaged s := by
  intro d o ho
  rw [h, Finmap.lookup_empty] at ho
  cases ho

section Escrowed

variable [ReservableCurrency L A]

/-- Exact escrow is exactness of the escrow pool. -/
theorem exactlyEscrowed_iff {s : State A P L} (h : Engaged s) (b : A → ℕ) :
    ExactlyEscrowed selfParaId b s ↔ (s.pool (backs selfParaId)).Exact b := by
  refine forall_congr' fun a => ?_
  change _ ↔ reserved s.ledger a = b a + (bookOf (backs selfParaId) s).held a
  rw [held_book h, add_assoc]

/-! ### One step -/

/-- A step of the escrow that keeps the devices engaged. -/
structure Settled (selfParaId : ParaId) (s s' : State A P L) : Prop where
  engaged : Engaged s'
  settles : Pool.Settles (s.pool (backs selfParaId)) (s'.pool (backs selfParaId))

/-- The ledger after an order on a device is closed: the reserves of a local order are released, the
ledger is left alone for a remote one. -/
structure Released (selfParaId : ParaId) (o : OrderOf A P) (d : A) (dev : DeviceProfile)
    (l l' : L) : Prop where
  reserves : o.paraid = selfParaId → ∀ a, reserved l' a =
    reserved l a - (if a = o.client then o.fee.toNat else 0) -
      if a = d then dev.penalty.toNat else 0
  ledger : o.paraid ≠ selfParaId → l' = l

/-- An order on a device was closed and its reserves released. -/
structure Closes (selfParaId : ParaId) (s s' : State A P L) (d : A) (o : OrderOf A P)
    (dev : DeviceProfile) : Prop where
  holds : s.Holds d o dev
  orders : s'.orders = s.orders.erase d
  device : ∃ dev', s'.device = s.device.insert d dev'
  released : Released selfParaId o d dev s.ledger s'.ledger

omit [ReservableCurrency L A] in
/-- Removing the order of a device keeps the others engaged. -/
theorem engaged_erase {s s' : State A P L} {d : A} (hs : Engaged s)
    (ho : s'.orders = s.orders.erase d)
    (hd : ∀ x, x ≠ d → s'.device.lookup x = s.device.lookup x) : Engaged s' := by
  intro x ox hx
  rw [ho, Finmap.lookup_erase_ite] at hx
  split_ifs at hx with hxd
  rw [hd x hxd]
  exact hs x ox hx

/-- Closing an order closes its position, if it has one. -/
theorem Closes.settled {s s' : State A P L} {d : A} {o : OrderOf A P} {dev : DeviceProfile}
    (h : Closes selfParaId s s' d o dev) (hs : Engaged s) : Settled selfParaId s s' := by
  obtain ⟨dev', hdev'⟩ := h.device
  have hothers : ∀ x, x ≠ d → s'.device.lookup x = s.device.lookup x := fun x hx => by
    rw [hdev', Finmap.lookup_insert_of_ne _ hx]
  refine ⟨engaged_erase hs h.orders hothers, ?_⟩
  by_cases hlocal : o.paraid = selfParaId
  · have hpos : position (backs selfParaId) s d =
        some ⟨o.client, o.fee.toNat, dev.penalty.toNat⟩ := by
      rw [position_of_holds h.holds, backs, if_pos hlocal]
    refine settles_of_closes hpos h.orders hothers fun a => ?_
    rw [h.released.reserves hlocal a, Nat.sub_sub]
    rfl
  · have hpos : position (backs selfParaId) s d = none := by
      rw [position_of_holds h.holds, backs, if_neg hlocal]
    exact .of_eq (pool_erase_none hpos h.orders hothers (h.released.ledger hlocal))

/-- A step that keeps the orders, the ledger and the profiles of devices with an order leaves the
pool alone. -/
theorem settled_of_kept {s s' : State A P L} (hs : Engaged s) (ho : s'.orders = s.orders)
    (hl : s'.ledger = s.ledger)
    (hd : ∀ d ∈ s.orders, s'.device.lookup d = s.device.lookup d) : Settled selfParaId s s' := by
  constructor
  · intro d o hdo
    rw [ho] at hdo
    rw [hd d (Finmap.mem_of_lookup_eq_some hdo)]
    exact hs d o hdo
  · refine .of_eq (pool_congr ho (fun a => by rw [hl]) fun d hmem => ?_)
    simp [position, ho, hd d hmem]

variable {env : ServiceEnv A P} {s s' : State A P L} {d : A} {o : OrderOf A P}
  {dev : DeviceProfile} {onoff : Bool} {origin : Origin A}

/-- A registration leaves the pool alone: the device has no order. -/
theorem register_settled {penalty : Balance} {wcd : Moment} (hs : Engaged s)
    (h : (register origin penalty wcd onoff).run s = (.ok (), s')) : Settled selfParaId s s' := by
  obtain ⟨id, -, hid, rfl⟩ := register_ok h
  refine settled_of_kept hs rfl rfl fun d hd => ?_
  exact Finmap.lookup_insert_of_ne _ fun heq => hid (heq ▸ hd)

/-- Switching a device leaves the pool alone: a device with an order is not switched. -/
theorem setState_settled (hs : Engaged s) (h : (setState origin onoff).run s = (.ok (), s')) :
    Settled selfParaId s s' := by
  obtain ⟨d, dev, state, hsw, rfl⟩ := setState_ok h
  refine settled_of_kept hs rfl rfl fun x hx => Finmap.lookup_insert_of_ne _ fun heq => ?_
  obtain ⟨o, ho⟩ := Finmap.mem_iff.mp hx
  obtain ⟨dev', hdev', hengaged⟩ := hs x o ho
  have hnext := hsw.next
  obtain rfl : dev' = dev := by
    rw [heq, hsw.profile] at hdev'
    exact (Option.some.inj hdev').symm
  rcases hengaged with hstate | hstate <;> cases onoff <;> simp [hstate, nextState] at hnext

/-- Reaping an account leaves the pool alone: a device with an order is not off. -/
theorem onKilledAccount_settled {who : A} (hs : Engaged s)
    (h : (onKilledAccount who).run s = (.ok (), s')) : Settled selfParaId s s' := by
  obtain ⟨m, hrun, hm⟩ := onKilledAccount_run s who
  rw [hrun] at h
  obtain rfl := (Prod.ext_iff.mp h).2
  refine settled_of_kept hs rfl rfl fun d hd => ?_
  obtain ⟨o, ho⟩ := Finmap.mem_iff.mp hd
  obtain ⟨dev, hdev, hengaged⟩ := hs d o ho
  have hoff : dev.state ≠ .off := by
    rcases hengaged with hstate | hstate <;> simp [hstate]
  change m.lookup d = _
  rw [hm]
  split_ifs with heq
  · subst heq
    simp [hdev, hoff]
  · rfl

variable [Codec A] [Codec P]

/-- Taking on an order leaves the pool alone: the penalty of the device stays. -/
theorem accept_settled (hs : Engaged s)
    (h : (accept selfParaId env origin false onoff).run s = (.ok (), s')) :
    Settled selfParaId s s' := by
  obtain ⟨d, o, dev, htakes, rfl⟩ := accept_ok h
  constructor
  · intro x ox hx
    rw [taken_orders] at hx
    rw [taken_device, Finmap.lookup_insert_ite]
    split_ifs
    · exact ⟨_, rfl, .inr rfl⟩
    · exact hs x ox hx
  · refine .of_eq (pool_congr (taken_orders ..) (fun a => by rw [taken_ledger]) fun x _ => ?_)
    by_cases hxd : x = d
    · subst hxd
      rw [position_of_holds htakes.holds]
      simp [position, htakes.holds.order, backs]
    · simp [position, Finmap.lookup_insert_of_ne _ hxd]

variable [LawfulCurrency L A]

omit [Codec A] [Codec P] in
/-- A reject releases the reserves of a local order. -/
theorem released_rejectLedger {now : Moment} {l l' : L}
    (h : rejectLedger selfParaId now o d dev l = .ok l') :
    Released selfParaId o d dev l l' := by
  unfold rejectLedger at h
  constructor
  · intro hlocal a
    rw [if_pos hlocal] at h
    rw [reserved_settlePenalty h, reserved_unreserve]
  · intro hremote
    rw [if_neg hremote] at h
    exact (Except.ok.inj h).symm

omit [Codec A] [Codec P] in
/-- A finished order releases the reserves of a local order. -/
theorem released_doneLedger {now : Moment} {l l' : L}
    (h : doneLedger selfParaId now o d dev l = .ok l') :
    Released selfParaId o d dev l l' := by
  unfold doneLedger at h
  constructor
  · intro hlocal a
    rw [if_pos hlocal] at h
    cases hpaid : repatriateReserved l o.client d o.fee.toNat .free with
    | error e =>
      rw [hpaid] at h
      cases h
    | ok l₁ =>
      rw [hpaid] at h
      rw [reserved_settlePenalty h, reserved_repatriate hpaid]
  · intro hremote
    rw [if_neg hremote] at h
    exact (Except.ok.inj h).symm

omit [LawfulCurrency L A] in
/-- A storage with a closed order, its chain told when it is remote. -/
theorem closes_of_closed {msg : XCMPMessageOf A P} {dev' : DeviceProfile} {l : L} {e : Event A}
    (hs : s.Holds d o dev) (hl : Released selfParaId o d dev s.ledger l) :
    Closes selfParaId s ((notified selfParaId env.toEnv o msg s).closed d dev' l e) d o dev where
  holds := hs
  orders := by simp
  device := ⟨dev', by simp⟩
  released := hl

/-- A cancel that succeeds has closed the order of its device. -/
theorem cancel_closes (h : (cancel selfParaId env origin d).run s = (.ok (), s')) :
    ∃ o dev, Closes selfParaId s s' d o dev := by
  obtain ⟨o, dev, l, hc, hl, rfl⟩ := cancel_ok h
  exact ⟨o, dev, closes_of_closed hc.holds (released_rejectLedger hl)⟩

/-- A device that rejects has closed its order, if it had one. -/
theorem accept_reject_settled (hs : Engaged s)
    (h : (accept selfParaId env origin true onoff).run s = (.ok (), s')) :
    Settled selfParaId s s' := by
  obtain ⟨d, dev, hr, ⟨ho, rfl⟩ | ⟨o, l, ho, hl, rfl⟩⟩ := accept_reject_ok h
  · have hothers : ∀ x, x ≠ d →
        (s.device.insert d (settledProfile dev onoff)).lookup x = s.device.lookup x :=
      fun x hx => Finmap.lookup_insert_of_ne _ hx
    have hnone : position (backs selfParaId) s d = none :=
      position_of_notMem (Finmap.lookup_eq_none.mp ho)
    exact ⟨engaged_erase hs rfl hothers, .of_eq (pool_erase_none hnone rfl hothers rfl)⟩
  · exact (closes_of_closed ⟨ho, hr.profile⟩ (released_rejectLedger hl)).settled hs

/-- A done call that succeeds has closed the order of its device. -/
theorem done_closes (h : (done selfParaId env origin onoff).run s = (.ok (), s')) :
    ∃ d o dev, Closes selfParaId s s' d o dev := by
  obtain ⟨d, o, dev, l, hf, hl, rfl⟩ := done_ok h
  exact ⟨d, o, dev, closes_of_closed hf.holds (released_doneLedger hl)⟩

/-- An order that is received opens its position, if it is local. -/
theorem orderReceived_settled (hs : Engaged s) (ha : env.Answers)
    (h : (orderReceived selfParaId env o d).run s = (.ok (), s')) : Settled selfParaId s s' := by
  obtain ⟨dev, state, l, hr, rfl, hreserved, hremote⟩ := orderReceived_ok h
  have hengaged : Engaged (stored selfParaId env.toEnv s o d dev state l) := by
    intro x ox hx
    simp only [stored, Finmap.lookup_insert_ite] at hx ⊢
    split_ifs at hx ⊢
    · exact ⟨_, rfl, ha d o state hr.answer⟩
    · exact hs x ox hx
  refine ⟨hengaged, ?_⟩
  by_cases hlocal : o.paraid = selfParaId
  · obtain ⟨l₁, hl₁, hl₂⟩ := hreserved hlocal
    have hbacks : backs selfParaId o { dev with state := state } =
        some ⟨o.client, o.fee.toNat, dev.penalty.toNat⟩ := if_pos hlocal
    refine settles_of_opens hbacks hr.fresh rfl rfl fun a => ?_
    change reserved l a = _
    rw [reserved_reserve hl₂, reserved_reserve hl₁, add_assoc, add_comm (ite _ _ _)]
    rfl
  · have hbacks : backs selfParaId o { dev with state := state } = none := if_neg hlocal
    exact .of_eq (pool_insert_none hbacks hr.fresh rfl rfl (hremote hlocal))

/-- Every call that succeeds opens a position, closes one or leaves the book alone. -/
theorem settles_of_ok {op : Op A P} (hs : Engaged s) (ha : env.Answers)
    (h : (op.call selfParaId env).run s = (.ok (), s')) : Settled selfParaId s s' := by
  cases op with
  | order origin b =>
    obtain ⟨who, -, hreceived⟩ := order_ok h
    exact orderReceived_settled hs ha hreceived
  | cancel origin d =>
    obtain ⟨o, dev, hc⟩ := cancel_closes h
    exact hc.settled hs
  | accept origin reject onoff =>
    cases reject with
    | false => exact accept_settled hs h
    | true => exact accept_reject_settled hs h
  | done origin onoff =>
    obtain ⟨d, o, dev, hc⟩ := done_closes h
    exact hc.settled hs
  | register origin penalty wcd onoff => exact register_settled hs h
  | setState origin onoff => exact setState_settled hs h
  | orderReceived o d => exact orderReceived_settled hs ha h
  | onKilledAccount who => exact onKilledAccount_settled hs h

/-! ### Runs -/

/-- A step of a run: a call that succeeds, the devices answering as they should. -/
def OkStep (selfParaId : ParaId) (s s' : State A P L) : Prop :=
  ∃ env op, ServiceEnv.Answers env ∧ (Op.call selfParaId env op).run s = (.ok (), s')

/-- Along a run of successful calls the escrow pool opens and closes positions. -/
theorem settles_of_run (hs : Engaged s) (hrun : Relation.ReflTransGen (OkStep selfParaId) s s') :
    Engaged s' ∧ Relation.ReflTransGen Pool.Settles (s.pool (backs selfParaId))
      (s'.pool (backs selfParaId)) := by
  induction hrun with
  | refl => exact ⟨hs, .refl⟩
  | tail _ hstep ih =>
    obtain ⟨env, op, ha, h⟩ := hstep
    have hsettled := settles_of_ok ih.1 ha h
    exact ⟨hsettled.engaged, ih.2.tail hsettled.settles⟩

omit [LawfulCurrency L A] in
/-- An operation on a remote order leaves the ledger alone, whatever it returns. -/
theorem remote_ledger {op : Op A P} (h : Remote selfParaId s op) :
    ((op.call selfParaId env).exec s).ledger = s.ledger := by
  have refused {x : Call (State A P L) Error Unit} (hx : ∃ e, x.run s = (.error e, s)) :
      (x.exec s).ledger = s.ledger := by
    rw [Dispatch.exec_of_refused hx]
  cases op with
  | orderReceived o d =>
    have hremote : ¬o.paraid = selfParaId := h
    change ((orderReceived selfParaId env o d).exec s).ledger = _
    rcases orderReceived_exec selfParaId env s d o with
      hsame | ⟨dev, state, l, -, ⟨-, hlocal, -⟩ | ⟨hstored, -, hl⟩⟩
    · rw [hsame]
    · exact absurd hlocal hremote
    · rw [hstored]
      exact hl hremote
  | cancel origin d =>
    obtain ⟨o, ho, hremote⟩ := h
    change ((cancel selfParaId env origin d).exec s).ledger = _
    by_cases hc : ∃ o dev, Cancels env s origin d o dev
    · obtain ⟨o', dev, hc⟩ := hc
      obtain rfl := Option.some.inj (ho.symm.trans hc.holds.order)
      rw [Dispatch.exec, cancel_run hc, rejectLedger, if_neg hremote]
      rfl
    · exact refused (cancel_refused hc)
  | accept origin reject onoff =>
    change ((accept selfParaId env origin reject onoff).exec s).ledger = _
    cases reject with
    | false =>
      rcases accept_exec selfParaId env s origin onoff with hsame | ⟨d, o, dev, -, htaken⟩
      · rw [hsame]
      · rw [htaken]
        exact taken_ledger ..
    | true =>
      by_cases hr : ∃ d dev, Rejects s origin d dev
      · obtain ⟨d, dev, hr⟩ := hr
        obtain rfl := hr.signed
        obtain ⟨o, ho, hremote⟩ := h
        rw [Dispatch.exec, accept_reject_run hr, ho, orderReject_run, rejectLedger,
          if_neg hremote]
        rfl
      · exact refused (accept_reject_refused hr onoff)
  | done origin onoff =>
    change ((done selfParaId env origin onoff).exec s).ledger = _
    by_cases hf : ∃ d o dev, Finishes s origin d o dev
    · obtain ⟨d, o, dev, hf⟩ := hf
      obtain rfl := hf.signed
      obtain ⟨o', ho, hremote⟩ := h
      obtain rfl := Option.some.inj (ho.symm.trans hf.holds.order)
      have hledger : doneLedger selfParaId env.now o' d dev s.ledger = .ok s.ledger :=
        if_neg hremote
      rcases done_run selfParaId env hf onoff with
        ⟨l, hl, hrun⟩ | ⟨e, l, hl, -, -⟩
      · obtain rfl := Except.ok.inj (hledger.symm.trans hl)
        rw [Dispatch.exec, hrun]
        rfl
      · cases hledger.symm.trans hl
    · exact refused (done_refused hf onoff)
  | _ => exact absurd h id

/-- Over any run of successful calls from a storage without orders, every account's reserve stays
one baseline plus the fees of its local orders and its penalty while it has one; no operation on a
remote order moves local funds. -/
theorem escrowed_of_mixed_run {b : A → ℕ} (hempty : s.orders = ∅)
    (hs : ExactlyEscrowed selfParaId b s)
    (hrun : Relation.ReflTransGen (OkStep selfParaId) s s') :
    ExactlyEscrowed selfParaId b s' ∧ ∀ env op, Remote selfParaId s' op →
      ((Op.call selfParaId env op).exec s').ledger = s'.ledger := by
  have hengaged := engaged_of_empty hempty
  obtain ⟨hengaged', hsettles⟩ := settles_of_run hengaged hrun
  rw [exactlyEscrowed_iff hengaged] at hs
  rw [exactlyEscrowed_iff hengaged']
  exact ⟨Pool.exact_of_reflTransGen hsettles hs, fun env op h => remote_ledger h⟩

end Escrowed

/-- Every account owns 50, device 2 has registered a penalty of 30 on chain 2000 and client 1 of
chain 2001 has ordered it until time 100 at a fee of 40. -/
def remoteOrder : State UInt64 UInt64 (Balances UInt64) :=
  Dispatch.exec (Op.call 2000 (ServiceEnv.online 0 .busy) (.newOrder 2001 1 ⟨100, 7, 40, 2⟩))
    (Dispatch.exec (register (.signed 2) 30 20 true) (Storage.init (Balances.uniform 50)))

omit [DecidableEq A] in
/-- An online environment has devices that answer as they should. -/
theorem ServiceEnv.answers_online {now : Moment} {state : DeviceState}
    (h : state = .busy ∨ state = .accepted) :
    (ServiceEnv.online now state : ServiceEnv A P).Answers := by
  intro d o state' hstate
  obtain rfl := Option.some.inj hstate
  exact h

/-- The remote order is reached by two calls that succeed. -/
theorem remoteOrder_run :
    Relation.ReflTransGen (OkStep 2000) (Storage.init (Balances.uniform 50)) remoteOrder := by
  let registered : State UInt64 UInt64 (Balances UInt64) :=
    Dispatch.exec (register (.signed 2) 30 20 true) (Storage.init (Balances.uniform 50))
  have hregister : OkStep 2000 (Storage.init (Balances.uniform 50)) registered :=
    ⟨ServiceEnv.online 0 .busy, .register (.signed 2) 30 20 true,
      ServiceEnv.answers_online (.inl rfl), Dispatch.run_eq_of_fst (by decide)⟩
  have horder : OkStep 2000 registered remoteOrder :=
    ⟨ServiceEnv.online 0 .busy, .newOrder 2001 1 ⟨100, 7, 40, 2⟩,
      ServiceEnv.answers_online (.inl rfl), Dispatch.run_eq_of_fst (by decide)⟩
  exact (Relation.ReflTransGen.single hregister).tail horder

/-- The reserves stay exact over the baseline zero with the remote order. -/
theorem escrowed_of_mixed_run_remote :
    ExactlyEscrowed 2000 (fun _ => 0) remoteOrder ∧ ∀ env op, Remote 2000 remoteOrder op →
      ((Op.call 2000 env op).exec remoteOrder).ledger = remoteOrder.ledger :=
  escrowed_of_mixed_run rfl (fun _ => rfl) remoteOrder_run

end XcmAutoBank.Service
