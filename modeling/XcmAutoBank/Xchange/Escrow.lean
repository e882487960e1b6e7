import XcmAutoBank.Xchange.Outcome
import XcmAutoBank.Common.Book

/-!
# The escrow of the client pallet

A stored order backs a position of an escrow: its fee is kept in the client's reserve and the
device's penalty in the device's.  Each call that succeeds opens a position, closes one or leaves
the book alone (`settles_of_ok`), so that over any run of successful calls the reserves stay exact
over one baseline (`exactlyEscrowed_of_run`).
-/

namespace XcmAutoBank.Xchange

open Escrow ReservableCurrency LawfulCurrency Storage

variable {A P L : Type} [DecidableEq A]

/-- The position an order backs against the profile of its device. -/
def backs (o : OrderOf A P) (dev : DeviceProfile) : Option (Position A) :=
  some ⟨o.client, o.fee.toNat, dev.penalty.toNat⟩

/-- The fees of the stored orders of a client. -/
def feesHeld (s : State A P L) (a : A) : ℕ :=
  s.orders.sumBy fun _ o => if a = o.client then o.fee.toNat else 0

/-- The penalty of a device with a stored order. -/
def penaltyHeld (s : State A P L) (d : A) : ℕ :=
  match s.orders.lookup d, s.device.lookup d with
  | some _, some dev => dev.penalty.toNat
  | _, _ => 0

/-- Every account's reserve is a baseline plus the fees and the penalty held in it. -/
def ExactlyEscrowed [ReservableCurrency L A] (b : A → ℕ) (s : State A P L) : Prop :=
  ∀ a, reserved s.ledger a = b a + feesHeld s a + penaltyHeld s a

/-- Every device with a stored order has a profile, and it is not off. -/
def Profiled (s : State A P L) : Prop :=
  ∀ d o, s.orders.lookup d = some o → ∃ dev, s.device.lookup d = some dev ∧ dev.state ≠ .off

/-- The message of a settlement names the client of the stored order. -/
def NamesClient (s : State A P L) : Op A P → Prop
  | .onReject who d _ | .onDone who d _ => ∀ o, s.orders.lookup d = some o → o.client = who
  | _ => True

/-! ### The book -/

/-- A stored order and a profile back their position. -/
theorem position_of_holds {s : State A P L} {d : A} {o : OrderOf A P} {dev : DeviceProfile}
    (h : s.Holds d o dev) :
    position backs s d = some ⟨o.client, o.fee.toNat, dev.penalty.toNat⟩ := by
  simp [position, h.order, h.profile, backs]

/-- The book owes the fees and the penalty held. -/
theorem held_book {s : State A P L} (h : Profiled s) (a : A) :
    (bookOf backs s).held a = feesHeld s a + penaltyHeld s a := by
  rw [held_bookOf]
  congr 1
  · refine Finmap.sumBy_congr fun d => ?_
    cases ho : s.orders.lookup d with
    | none => rfl
    | some o =>
      obtain ⟨dev, hd, -⟩ := h d o ho
      simp [position_of_holds ⟨ho, hd⟩]
  · unfold position penaltyHeld
    cases s.orders.lookup a with
    | none => rfl
    | some o => cases s.device.lookup a <;> rfl

/-- Without orders there is no profile to keep. -/
theorem profiled_of_empty {s : State A P L} (h : s.orders = ∅) : Profiled s := by
  intro d o ho
  rw [h, Finmap.lookup_empty] at ho
  cases ho

section Escrowed

variable [ReservableCurrency L A]

/-- Exact escrow is exactness of the escrow pool. -/
theorem exactlyEscrowed_iff {s : State A P L} (h : Profiled s) (b : A → ℕ) :
    ExactlyEscrowed b s ↔ (s.pool backs).Exact b := by
  refine forall_congr' fun a => ?_
  change _ ↔ reserved s.ledger a = b a + (bookOf backs s).held a
  rw [held_book h, add_assoc]

/-! ### One step -/

/-- An order of a client on a device was closed: its fee has left the client's reserve and the
penalty the device's. -/
structure Closes (s s' : State A P L) (d : A) (o : OrderOf A P) (dev : DeviceProfile) :
    Prop where
  holds : s.Holds d o dev
  orders : s'.orders = s.orders.erase d
  device : ∃ dev', s'.device = s.device.insert d dev'
  reserved : ∀ a, reserved s'.ledger a =
    ReservableCurrency.reserved s.ledger a - (if a = o.client then o.fee.toNat else 0) -
      if a = d then dev.penalty.toNat else 0

/-- Closing an order closes its position. -/
theorem Closes.settles {s s' : State A P L} {d : A} {o : OrderOf A P} {dev : DeviceProfile}
    (h : Closes s s' d o dev) : Pool.Settles (s.pool backs) (s'.pool backs) := by
  obtain ⟨dev', hdev'⟩ := h.device
  refine settles_of_closes (position_of_holds h.holds) h.orders (fun x hx => ?_) fun a => ?_
  · rw [hdev', Finmap.lookup_insert_of_ne _ hx]
  · rw [h.reserved a, Nat.sub_sub]
    rfl

/-- Closing an order keeps the profiles of the others. -/
theorem Closes.profiled {s s' : State A P L} {d : A} {o : OrderOf A P} {dev : DeviceProfile}
    (h : Closes s s' d o dev) (hs : Profiled s) : Profiled s' := by
  obtain ⟨dev', hdev'⟩ := h.device
  intro x ox hx
  rw [h.orders, Finmap.lookup_erase_ite] at hx
  split_ifs at hx with hxd
  rw [hdev', Finmap.lookup_insert_of_ne _ hxd]
  exact hs x ox hx

variable {env : Env} {s s' : State A P L} {who d : A} {onoff : Bool} {origin : Origin A}

/-- Reaping an account leaves the pool alone: a device with an order keeps its profile. -/
theorem onKilledAccount_idle (hs : Profiled s)
    (h : (onKilledAccount who).run s = (.ok (), s')) :
    Profiled s' ∧ s'.pool backs = s.pool backs := by
  obtain ⟨m, hrun, hm⟩ := onKilledAccount_run s who
  rw [hrun] at h
  obtain rfl := (Prod.ext_iff.mp h).2
  have hkept : ∀ d o, s.orders.lookup d = some o → ∃ dev dev', s.device.lookup d = some dev ∧
      m.lookup d = some dev' ∧ dev'.penalty = dev.penalty ∧ dev'.state ≠ .off := by
    intro d o ho
    obtain ⟨dev, hd, hoff⟩ := hs d o ho
    rw [hm]
    by_cases hdw : d = who
    · subst hdw
      exact ⟨dev, { dev with state := .timewait }, hd, by simp [hd, afterKill, hoff], rfl,
        by simp⟩
    · exact ⟨dev, dev, hd, by rw [if_neg hdw, hd], rfl, hoff⟩
  constructor
  · intro d o ho
    obtain ⟨dev, dev', -, hd', -, hoff⟩ := hkept d o ho
    exact ⟨dev', hd', hoff⟩
  · refine pool_congr rfl (fun _ => rfl) fun d hd => ?_
    obtain ⟨o, ho⟩ := Finmap.mem_iff.mp hd
    obtain ⟨dev, dev', hdev, hdev', hpen, -⟩ := hkept d o ho
    rw [position_of_holds (⟨ho, hdev⟩ : s.Holds d o dev)]
    simp [position, ho, hdev', backs, hpen]

/-- A registration leaves the pool alone: the device has no order. -/
theorem register_idle {paraid : ParaId} {penalty : Balance} {wcd : Moment} (hs : Profiled s)
    (h : (register origin paraid penalty wcd onoff).run s = (.ok (), s')) :
    Profiled s' ∧ s'.pool backs = s.pool backs := by
  obtain ⟨id, -, hid, rfl⟩ := register_ok h
  have hne : ∀ d ∈ s.orders, d ≠ id := fun d hd heq => hid (heq ▸ hd)
  constructor
  · intro d o ho
    change ∃ dev, (s.device.insert id _).lookup d = some dev ∧ _
    rw [Finmap.lookup_insert_of_ne _ (hne d (Finmap.mem_of_lookup_eq_some ho))]
    exact hs d o ho
  · refine pool_congr rfl (fun _ => rfl) fun d hd => ?_
    simp [position, Finmap.lookup_insert_of_ne _ (hne d hd)]

variable [LawfulCurrency L A]

/-- The reserves after a fee is released and a penalty settled. -/
theorem reserved_released {now untilTime : Moment} {l l' : L} {client device recipient : A}
    {fee penalty : ℕ}
    (h : settlePenalty now untilTime (unreserve l client fee) device recipient penalty = .ok l')
    (a : A) :
    reserved l' a = reserved l a - (if a = client then fee else 0) -
      if a = device then penalty else 0 := by
  rw [reserved_settlePenalty h, reserved_unreserve]

/-- A reject message that names the client closes the order. -/
theorem onReject_closes (h : (onReject env who d onoff).run s = (.ok (), s'))
    (hn : NamesClient s (.onReject who d onoff)) : ∃ o dev, Closes s s' d o dev := by
  obtain ⟨o, dev, l, hs, hl, rfl⟩ := onReject_ok h
  have hwho : o.client = who := hn o hs.order
  refine ⟨o, dev, hs, rfl, ⟨_, rfl⟩, fun a => ?_⟩
  rw [hwho]
  exact reserved_released hl a

/-- A cancel closes the order. -/
theorem cancel_closes (h : (cancel env origin d).run s = (.ok (), s')) :
    ∃ o dev, Closes s s' d o dev := by
  obtain ⟨o, dev, l, hs, hl, rfl⟩ := cancel_ok h
  exact ⟨o, dev, hs.holds, rfl, ⟨_, rfl⟩, reserved_released hl⟩

/-- A done message that names the client closes the order. -/
theorem onDone_closes (h : (onDone env who d onoff).run s = (.ok (), s'))
    (hn : NamesClient s (.onDone who d onoff)) : ∃ o dev, Closes s s' d o dev := by
  obtain ⟨o, dev, l₁, l, hs, hl₁, hl, rfl⟩ := onDone_ok h
  have hwho : o.client = who := hn o hs.order
  refine ⟨o, dev, hs, rfl, ⟨_, rfl⟩, fun a => ?_⟩
  rw [hwho]
  change reserved l a = _
  rw [reserved_settlePenalty hl, reserved_repatriate hl₁]

/-- An order opens its position. -/
theorem order_opens [Codec A] [Codec P] {b : OrderBaseOf A P} (hs : Profiled s)
    (h : (order env origin b).run s = (.ok (), s')) :
    Profiled s' ∧ Pool.Settles (s.pool backs) (s'.pool backs) := by
  obtain ⟨who, dev, l₁, l₂, hacc, hl₁, hl₂, rfl⟩ := order_ok h
  constructor
  · intro x ox hx
    simp only [placed, Finmap.lookup_insert_ite] at hx ⊢
    split_ifs at hx ⊢
    · exact ⟨_, rfl, by simp⟩
    · exact hs x ox hx
  · refine settles_of_opens rfl hacc.fresh rfl rfl fun a => ?_
    change reserved l₂ a = _
    rw [reserved_reserve hl₂, reserved_reserve hl₁, add_assoc, add_comm (ite _ _ _)]
    rfl

/-- Every call that succeeds opens a position, closes one or leaves the book alone. -/
theorem settles_of_ok [Codec A] [Codec P] {op : Op A P} (hs : Profiled s)
    (hn : NamesClient s op) (h : (op.call env).run s = (.ok (), s')) :
    Profiled s' ∧ Pool.Settles (s.pool backs) (s'.pool backs) := by
  have idle (h : Profiled s' ∧ s'.pool backs = s.pool backs) :
      Profiled s' ∧ Pool.Settles (s.pool backs) (s'.pool backs) :=
    ⟨h.1, h.2 ▸ Pool.Settles.idle _⟩
  cases op with
  | test origin =>
    obtain ⟨r, sent, hrun⟩ := test_run env origin s
    change (test env origin).run s = _ at h
    rw [hrun] at h
    obtain rfl := (Prod.ext_iff.mp h).2
    exact idle ⟨hs, rfl⟩
  | order origin b => exact order_opens hs h
  | cancel origin d =>
    obtain ⟨o, dev, hc⟩ := cancel_closes h
    exact ⟨hc.profiled hs, hc.settles⟩
  | register origin paraid penalty wcd onoff => exact idle (register_idle hs h)
  | onAccept who d =>
    obtain rfl := (Prod.ext_iff.mp h).2
    exact idle ⟨hs, rfl⟩
  | onReject who d onoff =>
    obtain ⟨o, dev, hc⟩ := onReject_closes h hn
    exact ⟨hc.profiled hs, hc.settles⟩
  | onDone who d onoff =>
    obtain ⟨o, dev, hc⟩ := onDone_closes h hn
    exact ⟨hc.profiled hs, hc.settles⟩
  | onKilledAccount who => exact idle (onKilledAccount_idle hs h)

/-! ### Runs -/

/-- A step of a run: a call that succeeds, any settlement message naming the client. -/
def OkStep [Codec A] [Codec P] (s s' : State A P L) : Prop :=
  ∃ env op, NamesClient s op ∧ (op.call env).run s = (.ok (), s')

omit [LawfulCurrency L A] in
/-- A successful call is a step of the pallet. -/
theorem OkStep.step [Codec A] [Codec P] (h : OkStep s s') : Step s s' := by
  obtain ⟨env, op, -, hrun⟩ := h
  exact ⟨env, op, (congrArg Prod.snd hrun).symm⟩

/-- Along a run of successful calls the escrow pool opens and closes positions. -/
theorem settles_of_run [Codec A] [Codec P] (hs : Profiled s)
    (hrun : Relation.ReflTransGen OkStep s s') :
    Profiled s' ∧ Relation.ReflTransGen Pool.Settles (s.pool backs) (s'.pool backs) := by
  induction hrun with
  | refl => exact ⟨hs, .refl⟩
  | tail _ hstep ih =>
    obtain ⟨env, op, hn, h⟩ := hstep
    obtain ⟨hprof, hsettles⟩ := settles_of_ok ih.1 hn h
    exact ⟨hprof, ih.2.tail hsettles⟩

/-- A run of successful calls keeps the baseline of the reserves. -/
theorem escrowed_of_run [Codec A] [Codec P] {b : A → ℕ} (hprof : Profiled s)
    (hs : ExactlyEscrowed b s) (hrun : Relation.ReflTransGen OkStep s s') :
    Profiled s' ∧ ExactlyEscrowed b s' := by
  obtain ⟨hprof', hsettles⟩ := settles_of_run hprof hrun
  rw [exactlyEscrowed_iff hprof] at hs
  rw [exactlyEscrowed_iff hprof']
  exact ⟨hprof', Pool.exact_of_reflTransGen hsettles hs⟩

/-- Over any run of successful calls from a storage without orders, every account's reserve stays
one baseline plus the fees of its orders and its penalty while it has an order. -/
theorem exactlyEscrowed_of_run [Codec A] [Codec P] {b : A → ℕ} (hempty : s.orders = ∅)
    (hs : ExactlyEscrowed b s) (hrun : Relation.ReflTransGen OkStep s s') :
    ExactlyEscrowed b s' :=
  (escrowed_of_run (profiled_of_empty hempty) hs hrun).2

end Escrowed

/-- Every account owns 30, device 2 has registered a penalty of 10 and client 1 has ordered it until
time 100 at a fee of 30. -/
def firstOrder : State UInt64 UInt64 (Balances UInt64) :=
  Dispatch.exec (order (Env.online 0) (.signed 1) ⟨100, 7, 30, 2⟩)
    (Dispatch.exec (register (.signed 2) 2000 10 20 true) (Storage.init (Balances.uniform 30)))

/-- The first order is reached by two calls that succeed. -/
theorem firstOrder_run :
    Relation.ReflTransGen OkStep (Storage.init (Balances.uniform 30)) firstOrder := by
  let registered : State UInt64 UInt64 (Balances UInt64) :=
    Dispatch.exec (register (.signed 2) 2000 10 20 true) (Storage.init (Balances.uniform 30))
  have hregister : OkStep (Storage.init (Balances.uniform 30)) registered :=
    ⟨Env.online 0, .register (.signed 2) 2000 10 20 true, trivial,
      Dispatch.run_eq_of_fst (by decide)⟩
  have horder : OkStep registered firstOrder :=
    ⟨Env.online 0, .order (.signed 1) ⟨100, 7, 30, 2⟩, trivial,
      Dispatch.run_eq_of_fst (by decide)⟩
  exact (Relation.ReflTransGen.single hregister).tail horder

/-- The first order is stored with the profile of device 2. -/
theorem firstOrder_holds : firstOrder.Holds 2 ⟨100, 7, 30, 1, 0⟩ ⟨10, 20, 2000, .busy⟩ :=
  ⟨rfl, rfl⟩

/-- Client 1 is the client of the first order. -/
theorem firstOrder_client (o : OrderOf UInt64 UInt64) (h : firstOrder.orders.lookup 2 = some o) :
    o.client = 1 := by
  cases h
  rfl

/-- The first order is done in time: the reserves stay exact over the baseline zero. -/
theorem exactlyEscrowed_of_run_done :
    ExactlyEscrowed (fun _ => 0) (Dispatch.exec (onDone (Env.online 50) 1 2 true) firstOrder) := by
  have hdone : OkStep firstOrder (Dispatch.exec (onDone (Env.online 50) 1 2 true) firstOrder) :=
    ⟨Env.online 50, .onDone 1 2 true, firstOrder_client, Dispatch.run_eq_of_fst (by decide)⟩
  exact exactlyEscrowed_of_run rfl (fun _ => rfl) (firstOrder_run.tail hdone)

end XcmAutoBank.Xchange
