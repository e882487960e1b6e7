import XcmAutoBank.Runtime.Escrow

/-!
# What the runtime never does

As the runtime wires its pallets, no message reaches them: the client pallet never hears from a
service chain and the service pallet never gets an order of another chain.  Its devices take on
every order at once.  So the service pallet only has local orders, never asks a device to accept
one and never sends a message (`serves_locally_of_wired_run`), and an order of the client pallet is
only closed by its client, when it is overdue and, over a currency without an existential deposit,
at the cost of the device's penalty: no device is ever paid there (`closed_by_client_of_wired_run`).
-/

namespace XcmAutoBank

open ReservableCurrency Storage

variable {A P L : Type} [DecidableEq A] [ReservableCurrency L A] [Codec A] [Codec P]

/-! ### The service pallet -/

namespace Service

variable {selfParaId : ParaId} {env : ServiceEnv A P} {s s' : State A P L} {op : Op A P}

/-- All orders are local and were taken on at once, no device waits for anything, and nothing was
sent. -/
structure ServesLocally (selfParaId : ParaId) (s : State A P L) : Prop where
  silent : s.sent = []
  isLocal : ∀ d o, s.orders.lookup d = some o → o.paraid = selfParaId
  accepted : ∀ d o, s.orders.lookup d = some o →
    ∃ dev, s.device.lookup d = some dev ∧ dev.state = .accepted
  settled : ∀ d dev, s.device.lookup d = some dev → dev.state ≠ .busy ∧ dev.state ≠ .timewait

omit [ReservableCurrency L A] in
/-- A dispatchable brings local orders only. -/
theorem isLocal_of_effect (h : Effect selfParaId op s s')
    (hs : ∀ d o, s.orders.lookup d = some o → o.paraid = selfParaId) :
    ∀ d o, s'.orders.lookup d = some o → o.paraid = selfParaId := by
  have erased {x : A} (horders : s'.orders = s.orders.erase x) :
      ∀ d o, s'.orders.lookup d = some o → o.paraid = selfParaId := by
    intro d o ho
    rw [horders, Finmap.lookup_erase_ite] at ho
    split_ifs at ho
    exact hs d o ho
  cases h with
  | keeps ms _ _ horders =>
    rw [horders]
    exact hs
  | stores x o' ms _ _ hlocal _ horders =>
    intro d o ho
    rw [horders, Finmap.lookup_insert_ite] at ho
    split_ifs at ho
    · rw [← Option.some.inj ho]
      exact hlocal
    · exact hs d o ho
  | closesLocal x o' _ _ horders _ => exact erased horders
  | closesRemote x o' onoff result _ _ _ horders _ => exact erased horders

omit [DecidableEq A] in
/-- Nobody is told about a local order. -/
theorem told_of_isLocal {o : OrderOf A P} (h : o.paraid = selfParaId) (env : Env)
    (msg : XCMPMessageOf A P) : told selfParaId env o msg = [] :=
  if_pos h

/-- An operation that brings no order of another chain, on devices that take on every order, sends
nothing and leaves the order of its device taken on. -/
theorem servesLocally_of_deed {x : A} (hs : ServesLocally selfParaId s)
    (hlocal : ∀ d o, s'.orders.lookup d = some o → o.paraid = selfParaId)
    (hanswer : ∀ d o, env.onReceived d o = some .accepted)
    (hframe : Frame s s' x) (h : Deed selfParaId env s s' x) : ServesLocally selfParaId s' := by
  -- the other devices keep their orders and profiles
  have build (hsent : s'.sent = [])
      (haccepted : ∀ o, s'.orders.lookup x = some o →
        ∃ dev, s'.device.lookup x = some dev ∧ dev.state = .accepted)
      (hsettled : ∀ dev, s'.device.lookup x = some dev →
        dev.state ≠ .busy ∧ dev.state ≠ .timewait) : ServesLocally selfParaId s' := by
    refine ⟨hsent, hlocal, fun d o ho => ?_, fun d dev hd => ?_⟩
    · by_cases hdx : d = x
      · subst hdx
        exact haccepted o ho
      · rw [hframe.orders d hdx] at ho
        rw [hframe.device d hdx]
        exact hs.accepted d o ho
    · by_cases hdx : d = x
      · subst hdx
        exact hsettled dev hd
      · rw [hframe.device d hdx] at hd
        exact hs.settled d dev hd
  cases h with
  | none h =>
    refine build (h.sent.trans hs.silent) (fun o ho => ?_) fun dev hd => ?_
    · rw [h.orders] at ho
      rw [h.device]
      exact hs.accepted x o ho
    · rw [h.device] at hd
      exact hs.settled x dev hd
  | stored o dev state hr ho hd hsent _ =>
    obtain rfl := Option.some.inj ((hanswer x o).symm.trans hr.answer)
    rw [if_pos rfl, told_of_isLocal (hlocal x o ho), List.append_nil] at hsent
    refine build (hsent.trans hs.silent) (fun _ _ => ⟨_, hd, rfl⟩) fun dev' hd' => ?_
    rw [← Option.some.inj (hd.symm.trans hd')]
    simp
  | taken o dev hholds hbusy _ _ _ => exact absurd hbusy (hs.settled x dev hholds.profile).1
  | closed o dev dev' v onoff hholds ho hd hstate _ hsent _ =>
    rw [told_of_isLocal (hs.isLocal x o hholds.order), List.append_nil] at hsent
    refine build (hsent.trans hs.silent) (fun o' ho' => ?_) fun dev'' hd'' => ?_
    · exact absurd (Finmap.mem_of_lookup_eq_some ho') ho
    · rw [← Option.some.inj (hd.symm.trans hd'')]
      rcases hstate with rfl | rfl
      · exact hs.settled x _ hholds.profile
      · cases onoff <;> simp [settledProfile]
  | idle hidle ho hd hsent _ =>
    refine build (hsent.trans hs.silent) (fun o ho' => ?_) fun dev hd' => ?_
    · obtain ⟨dev, hdev, haccepted⟩ := hs.accepted x o (ho.symm.trans ho')
      exact absurd haccepted (hidle o dev ⟨ho.symm.trans ho', hdev⟩).2
    · rcases hd with hd | hd | ⟨dev', hd, hstate⟩
      · exact hs.settled x dev (hd.symm.trans hd')
      · rw [hd] at hd'
        cases hd'
      · rw [← Option.some.inj (hd.symm.trans hd')]
        rcases hstate with hstate | hstate <;> simp [hstate]

/-- Dispatchables keep the pallet serving locally. -/
theorem servesLocally_of_call (hs : ServesLocally selfParaId s) (hop : op.Dispatchable)
    (hanswer : ∀ d o, env.onReceived d o = some .accepted) :
    ServesLocally selfParaId ((op.call selfParaId env).exec s) := by
  have heffect : Effect selfParaId op s ((op.call selfParaId env).exec s) := effect_of_call hop
  have hlocal := isLocal_of_effect heffect hs.isLocal
  rcases outcome_of_call selfParaId env s op with hu | ⟨x, -, hx⟩
  · refine ⟨hu.sent.trans hs.silent, hlocal, fun d o ho => ?_, fun d dev hd => ?_⟩
    · rw [hu.orders] at ho
      rw [hu.device]
      exact hs.accepted d o ho
    · rw [hu.device] at hd
      exact hs.settled d dev hd
  · exact servesLocally_of_deed hs hlocal hanswer hx.frame hx.deed

/-- Without a device that waits nobody can accept an order. -/
theorem accept_refused_of_servesLocally (hs : ServesLocally selfParaId s) (env : ServiceEnv A P)
    (origin : Origin A) (onoff : Bool) :
    ∃ e, (accept selfParaId env origin false onoff).run s = (.error e, s) := by
  refine accept_refused ?_ onoff
  rintro ⟨d, o, dev, ht⟩
  exact (hs.settled d dev ht.holds.profile).1 ht.busy

end Service

/-! ### Wired runs -/

namespace Runtime

variable {selfParaId : ParaId} {c c' : Accounts A P L} {balances : L} {others : A → ℕ}

/-- A wired step keeps the service pallet serving locally. -/
theorem WiredStep.servesLocally (h : WiredStep selfParaId c c')
    (hc : Service.ServesLocally selfParaId c.runtime.service) :
    Service.ServesLocally selfParaId c'.runtime.service := by
  cases h with
  | elsewhere l others hl => exact ⟨hc.silent, hc.isLocal, hc.accepted, hc.settled⟩
  | entry env e he =>
    cases e with
    | template op => exact hc
    | xchange entry => exact ⟨hc.silent, hc.isLocal, hc.accepted, hc.settled⟩
    | service entry =>
      cases entry with
      | batch items maxWeight => exact absurd he id
      | call op => exact Service.servesLocally_of_call hc he.1 fun _ _ => rfl

/-- In every run of the runtime as it is wired all orders of the service pallet are local and were
taken on at once, no device is ever busy or abandoned, no message was ever sent by the pallet, and
nobody can accept an order. -/
theorem serves_locally_of_wired_run
    (hrun : Relation.ReflTransGen (WiredStep selfParaId) ⟨.init balances, others⟩ c) :
    Service.ServesLocally selfParaId c.runtime.service ∧ ∀ env origin onoff,
      ∃ e, (Service.accept selfParaId env origin false onoff).run c.runtime.service =
        (.error e, c.runtime.service) := by
  have hserves : Service.ServesLocally selfParaId c.runtime.service := by
    induction hrun with
    | refl =>
      refine ⟨rfl, fun d o ho => ?_, fun d o ho => ?_, fun d dev hd => ?_⟩
      · exact absurd ho (init_orders_ne balances d o)
      · exact absurd ho (init_orders_ne balances d o)
      · exact absurd hd (init_device_ne balances d dev)
    | tail _ hstep ih => exact hstep.servesLocally ih
  exact ⟨hserves, Service.accept_refused_of_servesLocally hserves⟩

/-- Over a currency without an existential deposit, in every run of the runtime as it is wired, an
order with a fee leaves the client pallet only when its own client cancels it, overdue, and then the
client gets the fee back and the device's penalty on top: the device is not paid for any order, and
pays for every order that is closed. -/
theorem closed_by_client_of_wired_run [LawfulCurrency L A]
    (hothers : ∀ a, others a ≤ reserved balances a)
    (hrun : Relation.ReflTransGen (WiredStep selfParaId) ⟨.init balances, others⟩ c)
    {env : Env} {e : Entry A P} (he : e.Wired) {d : A} {o : OrderOf A P}
    (ho : c.runtime.xchange.orders.lookup d = some o) (hfee : 0 < o.fee.toNat)
    (hgone : d ∉ (e.exec selfParaId env c.runtime).xchange.orders) :
    e = .xchange (.call (.cancel (.signed o.client) d)) ∧ ¬env.now < o.untilTime ∧
      ∃ dev, c.runtime.xchange.device.lookup d = some dev ∧ ∀ a,
        free (e.exec selfParaId env c.runtime).balances a = free c.runtime.balances a +
          (if a = o.client then o.fee.toNat + dev.penalty.toNat else 0) ∧
        reserved (e.exec selfParaId env c.runtime).balances a +
          (if a = o.client then o.fee.toNat else 0) + (if a = d then dev.penalty.toNat else 0) =
          reserved c.runtime.balances a := by
  have hmem : d ∈ c.runtime.xchange.orders := Finmap.mem_of_lookup_eq_some ho
  cases e with
  | template op => exact absurd hmem hgone
  | service entry => exact absurd hmem hgone
  | xchange entry =>
    cases entry with
    | batch items maxWeight => exact absurd he id
    | call op =>
      have hgone' : d ∉ ((op.call env).exec c.runtime.xchange).orders := hgone
      obtain ⟨rfl, hlate⟩ := Xchange.cancels_of_closed he.1 ho hgone'
      obtain ⟨horderly, hcovered⟩ := covered_of_wired_run hothers hrun
      have hclosable := Xchange.closable_of_covered horderly.profiled (hcovered.pool .xchange) ho
        hfee
      obtain ⟨dev, s', hholds, hcancel, -, hreserved, hfree⟩ := hclosable env hlate
      have hexec : (Xchange.cancel env (.signed o.client) d).exec c.runtime.xchange = s' :=
        congrArg Prod.snd hcancel
      refine ⟨rfl, hlate, dev, hholds.profile, fun a => ?_⟩
      change free ((Xchange.cancel env (.signed o.client) d).exec c.runtime.xchange).ledger a = _ ∧
        reserved ((Xchange.cancel env (.signed o.client) d).exec c.runtime.xchange).ledger a +
          _ + _ = _
      rw [hexec]
      exact ⟨hfree a, hreserved a⟩

/-- The order of client 1 in the service pallet was taken on at once. -/
theorem serves_locally_of_wired_run_twice :
    orderedTwice.service.device.lookup 2 = some ⟨25, 20, .accepted⟩ ∧
      Service.ServesLocally 2000 orderedTwice.service :=
  ⟨by decide, (serves_locally_of_wired_run orderedTwice_run).1⟩

/-- Client 1 takes its order in the client pallet back at time 100, with the penalty on top. -/
theorem closed_by_client_of_wired_run_cancel :
    ∃ dev, orderedTwice.xchange.device.lookup 2 = some dev ∧ ∀ a : UInt64,
      free (Entry.exec 2000 (Env.online 100) orderedTwice
        (.xchange (.call (.cancel (.signed 1) 2)))).balances a = free orderedTwice.balances a +
          if a = 1 then 30 + dev.penalty.toNat else 0 := by
  have hwired : (.xchange (.call (.cancel (.signed 1) 2)) : Entry UInt64 UInt64).Wired :=
    ⟨trivial, fun who h => by cases h⟩
  have hgone : 2 ∉ (Entry.exec 2000 (Env.online 100) orderedTwice
      (.xchange (.call (.cancel (.signed 1) 2)))).xchange.orders := by decide
  obtain ⟨-, -, dev, hdev, hbalances⟩ := closed_by_client_of_wired_run
    (o := ⟨100, 7, 30, 1, 0⟩) (fun _ => Nat.zero_le _) orderedTwice_run hwired (by decide)
    (by decide) hgone
  exact ⟨dev, hdev, fun a => (hbalances a).1⟩

end Runtime

end XcmAutoBank
