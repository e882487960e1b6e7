import XcmAutoBank.Xchange.Escrow
import XcmAutoBank.Service.Atomicity

/-!
# Local orders and orders of the client chain

The two pallets settle orders by the same rules, written twice.  `counterpart` names the operation
of the client pallet that matches an operation of the service pallet on local orders.  States with
the same balances, orders and terms are `Related`, and an operation that succeeds on the service
chain succeeds as its counterpart and keeps them related (`counterpart_ok`), so that over any run
the two hold and pay the same amounts.
-/

namespace XcmAutoBank.System

open ReservableCurrency LawfulCurrency Storage

variable {A P LA LB : Type} [DecidableEq A]

/-- How the device states of the two chains correspond: the client chain does not tell an accepted
order from one that waits. -/
inductive SameState : DeviceState → DeviceState → Prop
  | off : SameState .off .off
  | ready : SameState .ready .ready
  | busy : SameState .busy .busy
  | accepted : SameState .accepted .busy

/-- The profiles agree on the terms and on the state. -/
structure SameProfile (dev : Service.DeviceProfile) (dev' : Xchange.DeviceProfile) : Prop where
  penalty : dev.penalty = dev'.penalty
  wcd : dev.wcd = dev'.wcd
  state : SameState dev.state dev'.state

/-- The orders agree on everything but the para id, which the client chain does not use. -/
structure SameOrder (o o' : OrderOf A P) : Prop where
  untilTime : o.untilTime = o'.untilTime
  data : o.data = o'.data
  fee : o.fee = o'.fee
  client : o.client = o'.client

/-- A state of the service chain with local orders only, and a state of the client chain, with the
same balances, orders and terms. -/
structure Related [ReservableCurrency LA A] [ReservableCurrency LB A] (selfParaId : ParaId)
    (s : Service.State A P LB) (t : Xchange.State A P LA) : Prop where
  balances : SameBalances A s.ledger t.ledger
  orders : Finmap.Related SameOrder s.orders t.orders
  device : Finmap.Related SameProfile s.device t.device
  engaged : Service.Engaged s
  allLocal : ∀ d o, s.orders.lookup d = some o → o.paraid = selfParaId

/-- The operations on local orders. -/
def LocalOp : Service.Op A P → Prop
  | .orderReceived .. | .onKilledAccount _ => False
  | _ => True

/-- The operation of the client chain that matches an operation of the service chain in the state;
a registration names some parachain there. -/
def counterpart (paraid : ParaId) (s : Service.State A P LB) :
    Service.Op A P → Option (Xchange.Op A P)
  | .order origin b => some (.order origin b)
  | .cancel origin d => some (.cancel origin d)
  | .register origin penalty wcd onoff => some (.register origin paraid penalty wcd onoff)
  | .setState (.signed d) onoff => (s.device.lookup d).map fun dev =>
    .register (.signed d) paraid dev.penalty dev.wcd onoff
  | .accept (.signed d) false _ => (s.orders.lookup d).map fun o => .onAccept o.client d
  | .accept (.signed d) true onoff =>
    match s.orders.lookup d with
    | some o => some (.onReject o.client d onoff)
    | none => (s.device.lookup d).map fun dev =>
      .register (.signed d) paraid dev.penalty dev.wcd onoff
  | .done (.signed d) onoff => (s.orders.lookup d).map fun o => .onDone o.client d onoff
  | _ => none

/-! ### The relation -/

/-- A device that is engaged is busy on the client chain. -/
theorem SameState.busy_of_engaged {state state' : DeviceState} (h : SameState state state')
    (he : state = .busy ∨ state = .accepted) : state' = .busy := by
  cases h with
  | off => rcases he with he | he <;> cases he
  | ready => rcases he with he | he <;> cases he
  | busy => rfl
  | accepted => rfl

/-- A device that is ready is ready on the client chain. -/
theorem SameState.of_ready {state' : DeviceState} (h : SameState .ready state') :
    state' = .ready := by
  cases h
  rfl

/-- A settlement leaves the same profile on both chains. -/
theorem SameProfile.settled {dev : Service.DeviceProfile} {dev' : Xchange.DeviceProfile}
    (h : SameProfile dev dev') (onoff : Bool) :
    SameProfile (Service.settledProfile dev onoff) (Xchange.settledProfile dev' onoff) := by
  refine ⟨h.penalty, h.wcd, ?_⟩
  cases onoff
  · exact .off
  · exact .ready

/-- A registration leaves the same profile on both chains. -/
theorem sameProfile_registered (paraid : ParaId) (penalty : Balance) (wcd : Moment)
    (onoff : Bool) :
    SameProfile { wcd, penalty, state := if onoff then .ready else .off }
      { wcd, penalty, state := if onoff then .ready else .off, paraId := paraid } := by
  refine ⟨rfl, rfl, ?_⟩
  cases onoff
  · exact .off
  · exact .ready

section Steps

variable [ReservableCurrency LA A] [ReservableCurrency LB A] {selfParaId : ParaId}
  {s s' : Service.State A P LB} {t t' : Xchange.State A P LA} {d : A} {o : OrderOf A P}
  {dev : Service.DeviceProfile} {dev' : Xchange.DeviceProfile}

/-- A device with an order has the same order and terms on the client chain, and is busy there. -/
theorem Related.holds (h : Related selfParaId s t) (hs : s.Holds d o dev) :
    ∃ o' dev', t.Holds d o' dev' ∧ SameOrder o o' ∧ SameProfile dev dev' := by
  obtain ⟨o', ho', horder⟩ := h.orders.lookup hs.order
  obtain ⟨dev', hd', hprofile⟩ := h.device.lookup hs.profile
  exact ⟨o', dev', ⟨ho', hd'⟩, horder, hprofile⟩

/-- Writing the same profile for a device without an order keeps the states related. -/
theorem Related.register (h : Related selfParaId s t) (hfresh : d ∉ s.orders)
    (hdev : SameProfile dev dev') (ho : s'.orders = s.orders) (ho' : t'.orders = t.orders)
    (hd : s'.device = s.device.insert d dev) (hd' : t'.device = t.device.insert d dev')
    (hl : s'.ledger = s.ledger) (hl' : t'.ledger = t.ledger) : Related selfParaId s' t' where
  balances := by
    rw [hl, hl']
    exact h.balances
  orders := by
    rw [ho, ho']
    exact h.orders
  device := by
    rw [hd, hd']
    exact h.device.insert hdev
  engaged x o hx := by
    rw [ho] at hx
    have hne : x ≠ d := by
      rintro rfl
      exact hfresh (Finmap.mem_of_lookup_eq_some hx)
    rw [hd, Finmap.lookup_insert_of_ne _ hne]
    exact h.engaged x o hx
  allLocal x o hx := by
    rw [ho] at hx
    exact h.allLocal x o hx

/-- Closing the order of a device on both chains, with the same balances and profile, keeps the
states related. -/
theorem Related.close (h : Related selfParaId s t) (hdev : SameProfile dev dev')
    (hl : SameBalances A s'.ledger t'.ledger)
    (ho : s'.orders = s.orders.erase d) (ho' : t'.orders = t.orders.erase d)
    (hd : s'.device = s.device.insert d dev) (hd' : t'.device = t.device.insert d dev') :
    Related selfParaId s' t' where
  balances := hl
  orders := by
    rw [ho, ho']
    exact h.orders.erase
  device := by
    rw [hd, hd']
    exact h.device.insert hdev
  engaged := Service.engaged_erase h.engaged ho fun x hx => by
    rw [hd, Finmap.lookup_insert_of_ne _ hx]
  allLocal x o hx := by
    rw [ho, Finmap.lookup_erase_ite] at hx
    split_ifs at hx
    exact h.allLocal x o hx

variable {env : Service.ServiceEnv A P} {cenv : Env} {origin : Origin A} {onoff : Bool}

/-! ### Operations without transfers -/

/-- A registration matches one on the client chain. -/
theorem register_simulates {penalty : Balance} {wcd : Moment} (h : Related selfParaId s t)
    (paraid : ParaId)
    (hok : (Service.register origin penalty wcd onoff).run s = (.ok (), s')) :
    ∃ t', (Xchange.register origin paraid penalty wcd onoff).run t = (.ok (), t') ∧
      Related selfParaId s' t' := by
  obtain ⟨id, rfl, hid, rfl⟩ := Service.register_ok hok
  have hid' : id ∉ t.orders := h.orders.notMem hid
  exact ⟨_, Xchange.register_run hid' paraid penalty wcd onoff,
    h.register hid (sameProfile_registered paraid penalty wcd onoff) rfl rfl rfl rfl rfl rfl⟩

/-- Switching a device matches a registration with its terms. -/
theorem setState_simulates (h : Related selfParaId s t) (paraid : ParaId)
    (hok : (Service.setState (.signed d) onoff).run s = (.ok (), s')) :
    ∃ dev t', s.device.lookup d = some dev ∧
      (Xchange.register (.signed d) paraid dev.penalty dev.wcd onoff).run t = (.ok (), t') ∧
      Related selfParaId s' t' := by
  obtain ⟨d', dev, state, hsw, rfl⟩ := Service.setState_ok hok
  obtain rfl := Origin.signed.inj hsw.signed
  have hnext := hsw.next
  obtain ⟨hidle, rfl⟩ : (dev.state ≠ .busy ∧ dev.state ≠ .accepted) ∧
      state = if onoff then .ready else .off := by
    revert hnext
    cases dev.state <;> cases onoff <;> simp +contextual [Service.nextState, eq_comm]
  have hid : d ∉ s.orders := by
    intro hmem
    obtain ⟨o, ho⟩ := Finmap.mem_iff.mp hmem
    obtain ⟨dev', hdev', hengaged⟩ := h.engaged d o ho
    obtain rfl := Option.some.inj (hsw.profile.symm.trans hdev')
    exact hengaged.elim hidle.1 hidle.2
  exact ⟨dev, _, hsw.profile,
    Xchange.register_run (h.orders.notMem hid) paraid dev.penalty dev.wcd onoff,
    h.register hid (sameProfile_registered paraid dev.penalty dev.wcd onoff)
      rfl rfl rfl rfl rfl rfl⟩

variable [Codec A] [Codec P]

/-- Taking on an order matches the message about it, which changes nothing. -/
theorem accept_simulates (h : Related selfParaId s t)
    (hok : (Service.accept selfParaId env (.signed d) false onoff).run s = (.ok (), s')) :
    ∃ o t', s.orders.lookup d = some o ∧
      (Xchange.onAccept o.client d).run t = (.ok (), t') ∧ Related selfParaId s' t' := by
  obtain ⟨d', o, dev, ht, rfl⟩ := Service.accept_ok hok
  obtain rfl := Origin.signed.inj ht.signed
  obtain ⟨o', dev', hholds, horder, hprofile⟩ := h.holds ht.holds
  refine ⟨o, _, ht.holds.order, rfl, ?_⟩
  have hbusy : dev'.state = .busy := hprofile.state.busy_of_engaged (.inl ht.busy)
  have hsame : SameProfile { dev with state := .accepted } dev' := by
    refine ⟨hprofile.penalty, hprofile.wcd, ?_⟩
    rw [hbusy]
    exact .accepted
  constructor
  · rw [Service.taken_ledger]
    exact h.balances
  · rw [Service.taken_orders]
    exact h.orders
  · rw [Service.taken_device]
    exact h.device.insert_left hholds.profile hsame
  · intro x ox hx
    rw [Service.taken_orders] at hx
    rw [Service.taken_device, Finmap.lookup_insert_ite]
    split_ifs
    · exact ⟨_, rfl, .inr rfl⟩
    · exact h.engaged x ox hx
  · intro x ox hx
    rw [Service.taken_orders] at hx
    exact h.allLocal x ox hx

variable [LawfulCurrency LA A] [LawfulCurrency LB A]

/-! ### Placing and closing orders -/

/-- An order matches the same order on the client chain. -/
theorem order_simulates {b : OrderBaseOf A P} (h : Related selfParaId s t) (ha : env.Answers)
    (hnow : cenv.now = env.now)
    (hok : (Service.order selfParaId env origin b).run s = (.ok (), s')) :
    ∃ t', (Xchange.order cenv origin b).run t = (.ok (), t') ∧ Related selfParaId s' t' := by
  obtain ⟨who, rfl, hok⟩ := Service.order_ok hok
  obtain ⟨dev, state, l, hr, rfl, hreserve, -⟩ := Service.orderReceived_ok hok
  obtain ⟨l₁, hl₁, hl⟩ := hreserve rfl
  obtain ⟨dev', hd', hprofile⟩ := h.device.lookup hr.profile
  have hready : dev'.state = .ready := (hr.ready ▸ hprofile.state).of_ready
  have hsolvent : canReserve t.ledger who b.fee.toNat = true := by
    rw [canReserve_iff, ← h.balances.free]
    exact (canReserve_iff _ _ _).mp (hr.solvent rfl)
  have hacc : Xchange.Accepts cenv t (.signed who) b who dev' := by
    refine ⟨rfl, ?_, h.orders.notMem hr.fresh, hd', hready, ?_, hsolvent⟩
    · rw [hnow]
      exact hr.before
    · rw [hnow, ← hprofile.wcd]
      exact hr.enough
  obtain ⟨m₁, hm₁, hsame₁⟩ := h.balances.reserve hl₁
  obtain ⟨m, hm, hsame⟩ := hsame₁.reserve hl
  rw [hprofile.penalty] at hm₁
  have hrun := Xchange.order_run hacc
  simp only [hm₁] at hrun
  have hm' : reserve m₁ who b.fee.toNat = .ok m := hm
  simp only [hm'] at hrun
  refine ⟨_, hrun, hsame, ?_, ?_, ?_, ?_⟩
  · have horder : SameOrder (Service.receivedOrder b selfParaId who)
        (b.convert who : OrderOf A P) :=
      ⟨rfl, rfl, rfl, rfl⟩
    exact h.orders.insert horder
  · refine h.device.insert ⟨hprofile.penalty, hprofile.wcd, ?_⟩
    rcases ha b.device _ state hr.answer with rfl | rfl
    · exact .busy
    · exact .accepted
  · intro x ox hx
    simp only [Service.stored, Finmap.lookup_insert_ite] at hx ⊢
    split_ifs at hx ⊢
    · exact ⟨_, rfl, ha b.device _ state hr.answer⟩
    · exact h.engaged x ox hx
  · intro x ox hx
    simp only [Service.stored, Finmap.lookup_insert_ite] at hx
    split_ifs at hx
    · obtain rfl := Option.some.inj hx
      rfl
    · exact h.allLocal x ox hx

omit [Codec A] [Codec P] in
/-- A rejection that can be settled for a local order can be settled for the same order of the
client chain. -/
theorem reject_simulates {l : LB} {o' : OrderOf A P} (h : Related selfParaId s t)
    (hnow : cenv.now = env.now) (hs : s.Holds d o dev) (horder : SameOrder o o')
    (hprofile : SameProfile dev dev')
    (hl : Service.rejectLedger selfParaId env.now o d dev s.ledger = .ok l) :
    ∃ l', settlePenalty cenv.now o'.untilTime (unreserve t.ledger o'.client o'.fee.toNat) d
      o'.client dev'.penalty.toNat = .ok l' ∧ SameBalances A l l' := by
  rw [Service.rejectLedger, if_pos (h.allLocal d o hs.order)] at hl
  rw [hnow, ← horder.untilTime, ← horder.client, ← horder.fee, ← hprofile.penalty]
  exact settlePenalty_same (h.balances.unreserve _ _) hl

/-- A cancel matches the cancel on the client chain. -/
theorem cancel_simulates (h : Related selfParaId s t) (hnow : cenv.now = env.now)
    (hok : (Service.cancel selfParaId env origin d).run s = (.ok (), s')) :
    ∃ t', (Xchange.cancel cenv origin d).run t = (.ok (), t') ∧ Related selfParaId s' t' := by
  obtain ⟨o, dev, l, hc, hl, rfl⟩ := Service.cancel_ok hok
  obtain ⟨o', dev', hholds, horder, hprofile⟩ := h.holds hc.holds
  obtain ⟨l', hl', hsame⟩ := reject_simulates h hnow hc.holds horder hprofile hl
  have hc' : Xchange.Cancels cenv t origin d o' dev' := by
    refine ⟨hholds, ?_, ?_⟩
    · rw [← horder.client]
      exact hc.signed
    · rw [hnow, ← horder.untilTime]
      exact hc.late
  have hrun := Xchange.cancel_run hc'
  rw [hl'] at hrun
  exact ⟨_, hrun, h.close hprofile hsame (by simp) rfl (by simp) rfl⟩

/-- A rejection of an order matches the message about it, and one without an order a registration
with the terms of the device. -/
theorem accept_reject_simulates (h : Related selfParaId s t) (hnow : cenv.now = env.now)
    (paraid : ParaId)
    (hok : (Service.accept selfParaId env (.signed d) true onoff).run s = (.ok (), s')) :
    (∃ o t', s.orders.lookup d = some o ∧
      (Xchange.onReject cenv o.client d onoff).run t = (.ok (), t') ∧ Related selfParaId s' t') ∨
    (∃ dev t', s.orders.lookup d = none ∧ s.device.lookup d = some dev ∧
      (Xchange.register (.signed d) paraid dev.penalty dev.wcd onoff).run t = (.ok (), t') ∧
      Related selfParaId s' t') := by
  obtain ⟨d', dev, hr, ⟨hnone, rfl⟩ | ⟨o, l, ho, hl, rfl⟩⟩ := Service.accept_reject_ok hok
  · obtain rfl := Origin.signed.inj hr.signed
    have hid : d ∉ s.orders := Finmap.lookup_eq_none.mp hnone
    refine .inr ⟨dev, _, hnone, hr.profile,
      Xchange.register_run (h.orders.notMem hid) paraid dev.penalty dev.wcd onoff, ?_⟩
    exact h.register hid (sameProfile_registered paraid dev.penalty dev.wcd onoff)
      (Finmap.erase_of_notMem hid) rfl rfl rfl rfl rfl
  · obtain rfl := Origin.signed.inj hr.signed
    have hs : s.Holds d o dev := ⟨ho, hr.profile⟩
    obtain ⟨o', dev', hholds, horder, hprofile⟩ := h.holds hs
    obtain ⟨l', hl', hsame⟩ := reject_simulates h hnow hs horder hprofile hl
    have hrun : (Xchange.onReject cenv o.client d onoff).run t = _ :=
      Xchange.onReject_run hholds o.client onoff
    rw [horder.client, hl', ← horder.client] at hrun
    exact .inl ⟨o, _, ho, hrun, h.close (hprofile.settled onoff) hsame (by simp) rfl (by simp) rfl⟩

/-- Finishing an order matches the message about it. -/
theorem done_simulates (h : Related selfParaId s t) (hnow : cenv.now = env.now)
    (hok : (Service.done selfParaId env (.signed d) onoff).run s = (.ok (), s')) :
    ∃ o t', s.orders.lookup d = some o ∧
      (Xchange.onDone cenv o.client d onoff).run t = (.ok (), t') ∧ Related selfParaId s' t' := by
  obtain ⟨d', o, dev, l, hf, hl, rfl⟩ := Service.done_ok hok
  obtain rfl := Origin.signed.inj hf.signed
  obtain ⟨o', dev', hholds, horder, hprofile⟩ := h.holds hf.holds
  rw [Service.doneLedger, if_pos (h.allLocal d o hf.holds.order)] at hl
  cases hpaid : repatriateReserved s.ledger o.client d o.fee.toNat .free with
  | error e =>
    rw [hpaid] at hl
    cases hl
  | ok l₁ =>
    rw [hpaid] at hl
    obtain ⟨m₁, hm₁, hsame₁⟩ := h.balances.repatriate hpaid
    obtain ⟨m, hm, hsame⟩ := settlePenalty_same hsame₁ hl
    have hrun : (Xchange.onDone cenv o.client d onoff).run t = _ :=
      Xchange.onDone_run hholds o.client onoff
    rw [← horder.fee, hm₁] at hrun
    simp only [hnow, ← horder.untilTime, ← hprofile.penalty, hm] at hrun
    exact ⟨o, _, hf.holds.order, hrun,
      h.close (hprofile.settled onoff) hsame (by simp) rfl (by simp) rfl⟩

/-! ### Steps and runs -/

/-- An operation on local orders that succeeds succeeds on the client chain as its counterpart, at
the same time and whatever the transport there answers, and keeps the states related. -/
theorem counterpart_ok {op : Service.Op A P} (h : Related selfParaId s t) (hop : LocalOp op)
    (ha : env.Answers) (hnow : cenv.now = env.now) (paraid : ParaId)
    (hok : (op.call selfParaId env).run s = (.ok (), s')) :
    ∃ op' t', counterpart paraid s op = some op' ∧
      (op'.call cenv).run t = (.ok (), t') ∧ Related selfParaId s' t' := by
  cases op with
  | order origin b =>
    obtain ⟨t', hrun, hrel⟩ := order_simulates h ha hnow hok
    exact ⟨.order origin b, t', rfl, hrun, hrel⟩
  | cancel origin d =>
    obtain ⟨t', hrun, hrel⟩ := cancel_simulates h hnow hok
    exact ⟨.cancel origin d, t', rfl, hrun, hrel⟩
  | register origin penalty wcd onoff =>
    obtain ⟨t', hrun, hrel⟩ := register_simulates h paraid hok
    exact ⟨.register origin paraid penalty wcd onoff, t', rfl, hrun, hrel⟩
  | setState origin onoff =>
    obtain ⟨d, dev, state, hsw, -⟩ := Service.setState_ok hok
    obtain rfl := hsw.signed
    obtain ⟨dev', t', hd, hrun, hrel⟩ := setState_simulates h paraid hok
    exact ⟨.register (.signed d) paraid dev'.penalty dev'.wcd onoff, t',
      by rw [counterpart, hd, Option.map_some], hrun, hrel⟩
  | accept origin reject onoff =>
    cases reject with
    | false =>
      obtain ⟨d, o, dev, ht, -⟩ := Service.accept_ok hok
      obtain rfl := ht.signed
      obtain ⟨o', t', ho, hrun, hrel⟩ := accept_simulates h hok
      exact ⟨.onAccept o'.client d, t', by rw [counterpart, ho, Option.map_some], hrun, hrel⟩
    | true =>
      obtain ⟨d, dev, hr, -⟩ := Service.accept_reject_ok hok
      obtain rfl := hr.signed
      rcases accept_reject_simulates h hnow paraid hok with
        ⟨o, t', ho, hrun, hrel⟩ | ⟨dev', t', ho, hd, hrun, hrel⟩
      · exact ⟨.onReject o.client d onoff, t', by rw [counterpart, ho], hrun, hrel⟩
      · exact ⟨.register (.signed d) paraid dev'.penalty dev'.wcd onoff, t',
          by rw [counterpart, ho, hd, Option.map_some], hrun, hrel⟩
  | done origin onoff =>
    obtain ⟨d, o, dev, l, hf, -⟩ := Service.done_ok hok
    obtain rfl := hf.signed
    obtain ⟨o', t', ho, hrun, hrel⟩ := done_simulates h hnow hok
    exact ⟨.onDone o'.client d onoff, t', by rw [counterpart, ho, Option.map_some], hrun, hrel⟩
  | orderReceived o d => exact absurd hop id
  | onKilledAccount who => exact absurd hop id

/-- A step of the service chain: an operation on local orders that succeeds. -/
def LocalStep (selfParaId : ParaId) (s s' : Service.State A P LB) : Prop :=
  ∃ (env : Service.ServiceEnv A P) (op : Service.Op A P), LocalOp op ∧ env.Answers ∧
    (op.call selfParaId env).run s = (.ok (), s')

/-- A step of both chains: an operation on local orders and its counterpart at the same time, both
of which succeed. -/
def Lockstep (selfParaId paraid : ParaId)
    (x x' : Service.State A P LB × Xchange.State A P LA) : Prop :=
  ∃ (env : Service.ServiceEnv A P) (op : Service.Op A P) (op' : Xchange.Op A P), LocalOp op ∧
    env.Answers ∧ (op.call selfParaId env).run x.1 = (.ok (), x'.1) ∧
    counterpart paraid x.1 op = some op' ∧ (op'.call env.toEnv).run x.2 = (.ok (), x'.2)

/-- Local and cross-chain accounting agree: from related states every operation on local orders that
succeeds is matched by its counterpart, and every run of them by a run of the client chain in
lockstep, and the states stay related. -/
theorem lockstep_of_run (h : Related selfParaId s t) (paraid : ParaId) :
    (∀ (env : Service.ServiceEnv A P) (cenv : Env) (op : Service.Op A P) s', LocalOp op →
      env.Answers → cenv.now = env.now → (op.call selfParaId env).run s = (.ok (), s') →
      ∃ op' t', counterpart paraid s op = some op' ∧
        (op'.call cenv).run t = (.ok (), t') ∧ Related selfParaId s' t') ∧
    ∀ s', Relation.ReflTransGen (LocalStep selfParaId) s s' →
      ∃ t', Relation.ReflTransGen (Lockstep selfParaId paraid) (s, t) (s', t') ∧
        Related selfParaId s' t' := by
  refine ⟨fun env cenv op s' hop ha hnow hok => counterpart_ok h hop ha hnow paraid hok, ?_⟩
  intro s' hrun
  induction hrun with
  | refl => exact ⟨t, .refl, h⟩
  | tail _ hstep ih =>
    obtain ⟨t₁, hrun₁, hrel₁⟩ := ih
    obtain ⟨env, op, hop, ha, hok⟩ := hstep
    obtain ⟨op', t₂, hcounter, hok', hrel₂⟩ : ∃ op' t', counterpart paraid _ op = some op' ∧
        (op'.call env.toEnv).run t₁ = (.ok (), t') ∧ Related selfParaId _ t' :=
      counterpart_ok hrel₁ hop ha rfl paraid hok
    exact ⟨t₂, hrun₁.tail ⟨env, op, op', hop, ha, hok, hcounter, hok'⟩, hrel₂⟩

end Steps

/-- Every account owns 50 on both chains. -/
theorem related_init : Related 2000
    (Storage.init (Balances.uniform 50) : Service.State UInt64 UInt64 (Balances UInt64))
    (Storage.init (Balances.uniform 50) : Xchange.State UInt64 UInt64 (Balances UInt64)) where
  balances := ⟨fun _ => rfl, fun _ => rfl⟩
  orders _ := .none
  device _ := .none
  engaged := Service.engaged_of_empty rfl
  allLocal d o ho := by
    exact absurd ho (Storage.init_orders_ne _ d o)

/-- The local order on device 2 has its counterpart on the client chain. -/
theorem lockstep_of_run_local :
    ∃ t : Xchange.State UInt64 UInt64 (Balances UInt64), Related 2000 Service.localOrder t := by
  let registered : Service.State UInt64 UInt64 (Balances UInt64) :=
    Dispatch.exec (Service.register (.signed 2) 30 20 true) (Storage.init (Balances.uniform 50))
  have ha : (Service.ServiceEnv.online 0 .accepted : Service.ServiceEnv UInt64 UInt64).Answers :=
    Service.ServiceEnv.answers_online (.inr rfl)
  have hregister : LocalStep 2000 (Storage.init (Balances.uniform 50)) registered :=
    ⟨.online 0 .accepted, .register (.signed 2) 30 20 true, trivial, ha,
      Dispatch.run_eq_of_fst (by decide)⟩
  have horder : LocalStep 2000 registered Service.localOrder :=
    ⟨.online 0 .accepted, .order (.signed 1) ⟨100, 7, 50, 2⟩, trivial, ha,
      Dispatch.run_eq_of_fst (by decide)⟩
  obtain ⟨t, -, ht⟩ := (lockstep_of_run related_init 2000).2 _
    ((Relation.ReflTransGen.single hregister).tail horder)
  exact ⟨t, ht⟩

end XcmAutoBank.System
