import XcmAutoBank.Runtime.Escrow
import XcmAutoBank.Foundation.History

/-!
# Everything can be unwound

Over a currency without an existential deposit, whatever has happened to the runtime as it is wired,
and whatever its calls returned, no order locks it: once the open orders of both pallets are
overdue, their clients can cancel all of them, in any order of the calls and in one block.  Every
one of these calls succeeds, no order is left, and the reserves have lost exactly the fees and
penalties that the orders kept there (`unwound_of_wired_run`).
-/

namespace XcmAutoBank.Runtime

open Escrow ReservableCurrency Storage

variable {A P L : Type} [DecidableEq A]

/-- The order that a pallet stores for a device. -/
def State.order (r : State A P L) : Pallet → A → Option (OrderOf A P)
  | .xchange, d => r.xchange.orders.lookup d
  | .service, d => r.service.orders.lookup d

/-- A client's call to cancel the order of a device. -/
def cancellation (client : A) : Pallet × A → Entry A P
  | (.xchange, d) => .xchange (.call (.cancel (.signed client) d))
  | (.service, d) => .service (.call (.cancel (.signed client) d))

/-- The calls that cancel the stored orders of a list of devices, each by the order's client. -/
def cancellations (r : State A P L) (ds : List (Pallet × A)) : List (Entry A P) :=
  ds.filterMap fun d => (r.order d.1 d.2).map fun o => cancellation o.client d

/-- An order that its client can cancel: it is overdue, and its fee is positive or it is an order of
another chain. -/
structure Due (selfParaId : ParaId) (env : Env) (p : Pallet) (o : OrderOf A P) : Prop where
  late : ¬env.now < o.untilTime
  backed : 0 < o.fee.toNat ∨ p = .service ∧ o.paraid ≠ selfParaId

variable [ReservableCurrency L A] [Codec A] [Codec P]

/-- A call that returns no error. -/
def Entry.Succeeds (selfParaId : ParaId) (env : Env) (r : State A P L) : Entry A P → Prop
  | .xchange (.call op) => ((op.call env).run r.xchange).1 = .ok ()
  | .service (.call op) => ((op.call selfParaId (serviceEnv env)).run r.service).1 = .ok ()
  | _ => False

variable {selfParaId : ParaId} {env : Env} {c : Accounts A P L} {r : State A P L} {d : A}
  {o : OrderOf A P}

/-! ### One cancellation -/

/-- A cancelled order is gone, and the others are still there. -/
structure Cancelled (r r' : State A P L) (d : Pallet × A) : Prop where
  gone : r'.order d.1 d.2 = none
  kept : ∀ x, x ≠ d → r'.order x.1 x.2 = r.order x.1 x.2

variable [LawfulCurrency L A]

/-- In a covered runtime an order that is due can be cancelled. -/
theorem cancelled_of_due {p : Pallet} (hc : Orderly c.runtime)
    (hcovered : (c.shared selfParaId).Covered) (ho : c.runtime.order p d = some o)
    (hdue : Due selfParaId env p o) :
    let e : Entry A P := cancellation o.client (p, d)
    let r' := e.exec selfParaId env c.runtime
    e.Succeeds selfParaId env c.runtime ∧ OkStep selfParaId c ⟨r', c.others⟩ ∧
      Cancelled c.runtime r' (p, d) := by
  intro e r'
  cases p with
  | xchange =>
    have hfee : 0 < o.fee.toNat := hdue.backed.resolve_right fun h => nomatch h.1
    obtain ⟨dev, s', -, hrun, horders, -⟩ :=
      Xchange.closable_of_covered hc.profiled (hcovered.pool .xchange) ho hfee env hdue.late
    have hr' : r' = c.runtime.putXchange s' := by
      change c.runtime.putXchange ((Xchange.cancel env (.signed o.client) d).exec _) = _
      rw [Dispatch.exec, hrun]
    refine ⟨congrArg Prod.fst hrun, ?_, ?_, ?_⟩
    · rw [hr']
      exact .xchange c env (.cancel (.signed o.client) d) s' trivial hrun
    · rw [hr']
      change s'.orders.lookup d = none
      rw [horders, Finmap.lookup_erase]
    · rintro ⟨q, x⟩ hne
      rw [hr']
      cases q with
      | xchange =>
        change s'.orders.lookup x = _
        rw [horders, Finmap.lookup_erase_ne fun heq => hne (by rw [heq])]
        rfl
      | service => rfl
  | service =>
    have hbacked : 0 < o.fee.toNat ∨ o.paraid ≠ selfParaId := hdue.backed.imp_right And.right
    obtain ⟨dev, s', -, hrun, horders, -⟩ :=
      Service.cancellable_of_covered hc.engaged (hcovered.pool .service) ho hbacked
        (serviceEnv env) (UInt64.not_lt.mp hdue.late)
    have hr' : r' = c.runtime.putService s' := by
      change c.runtime.putService ((Service.cancel selfParaId (serviceEnv env) (.signed o.client)
        d).exec _) = _
      rw [Dispatch.exec, hrun]
    refine ⟨congrArg Prod.fst hrun, ?_, ?_, ?_⟩
    · rw [hr']
      exact .service c env (.cancel (.signed o.client) d) s' hrun
    · rw [hr']
      change s'.orders.lookup d = none
      rw [horders, Finmap.lookup_erase]
    · rintro ⟨q, x⟩ hne
      rw [hr']
      cases q with
      | xchange => rfl
      | service =>
        change s'.orders.lookup x = _
        rw [horders, Finmap.lookup_erase_ne fun heq => hne (by rw [heq])]
        rfl

/-! ### All of them -/

section List

omit [ReservableCurrency L A] [Codec A] [Codec P] [LawfulCurrency L A]

variable {ds : List (Pallet × A)} {d : Pallet × A}

/-- A device without an order adds no call. -/
theorem cancellations_cons_of_none (h : r.order d.1 d.2 = none) :
    cancellations r (d :: ds) = cancellations r ds := by
  rw [cancellations, List.filterMap_cons_none (by rw [h, Option.map_none])]
  rfl

/-- A device with an order adds the call that cancels it. -/
theorem cancellations_cons_of_some (h : r.order d.1 d.2 = some o) :
    cancellations r (d :: ds) = cancellation o.client d :: cancellations r ds := by
  rw [cancellations, List.filterMap_cons_some (by rw [h, Option.map_some])]
  rfl

/-- Only the orders of the devices of the list matter. -/
theorem cancellations_congr {r' : State A P L} (h : ∀ x ∈ ds, r'.order x.1 x.2 = r.order x.1 x.2) :
    cancellations r' ds = cancellations r ds := by
  refine List.filterMap_congr fun x hx => ?_
  rw [h x hx]

end List

/-- In a covered runtime all orders that are due can be cancelled, one after the other. -/
theorem cancelled_of_all_due {ds : List (Pallet × A)} (hc : Orderly c.runtime)
    (hcovered : (c.shared selfParaId).Covered) (hnodup : ds.Nodup)
    (hdue : ∀ p d o, c.runtime.order p d = some o → (p, d) ∈ ds ∧ Due selfParaId env p o) :
    let step : State A P L → Entry A P → State A P L := fun r e => e.exec selfParaId env r
    let es := cancellations c.runtime ds
    History.Along step (fun r e => e.Succeeds selfParaId env r) c.runtime es ∧
      Relation.ReflTransGen (OkStep selfParaId) c ⟨History.after step c.runtime es, c.others⟩ ∧
      ∀ p d, (History.after step c.runtime es).order p d = none := by
  intro step
  induction ds generalizing c with
  | nil =>
    refine ⟨trivial, .refl, fun p d => ?_⟩
    cases ho : c.runtime.order p d with
    | none => exact ho
    | some o => exact absurd (hdue p d o ho).1 List.not_mem_nil
  | cons d ds ih =>
    obtain ⟨hfresh, hnodup⟩ := List.nodup_cons.mp hnodup
    cases ho : c.runtime.order d.1 d.2 with
    | none =>
      rw [cancellations_cons_of_none ho]
      refine ih hc hcovered hnodup fun p x o hx => ?_
      obtain ⟨hmem, hdue⟩ := hdue p x o hx
      refine ⟨(List.mem_cons.mp hmem).resolve_left ?_, hdue⟩
      rintro rfl
      cases ho.symm.trans hx
    | some o =>
      obtain ⟨hok, hstep, hcancelled⟩ := cancelled_of_due hc hcovered ho (hdue d.1 d.2 o ho).2
      obtain ⟨horderly, hsettles⟩ := hstep.settles hc
      -- the calls that follow are those for the orders that are left
      have hrest : cancellations (step c.runtime (cancellation o.client d)) ds =
          cancellations c.runtime ds :=
        cancellations_congr fun x hx => hcancelled.kept x fun heq => hfresh (by rwa [heq] at hx)
      have hdue' (p : Pallet) (x : A) (o' : OrderOf A P)
          (ho' : (step c.runtime (cancellation o.client d)).order p x = some o') :
          (p, x) ∈ ds ∧ Due selfParaId env p o' := by
        have hne : (p, x) ≠ d := by
          rintro rfl
          cases ho'.symm.trans hcancelled.gone
        obtain ⟨hmem, hdue⟩ := hdue p x o' ((hcancelled.kept (p, x) hne).symm.trans ho')
        exact ⟨(List.mem_cons.mp hmem).resolve_left hne, hdue⟩
      obtain ⟨halong, hrun, hnone⟩ := ih horderly (hsettles.covered hcovered) hnodup hdue'
      rw [cancellations_cons_of_some ho, ← hrest]
      exact ⟨⟨hok, halong⟩, .head hstep hrun, hnone⟩

/-- Over any run of successful calls the reserves lose and gain what is owed less and more. -/
theorem balance_of_okSteps {c' : Accounts A P L} (hc : Orderly c.runtime)
    (hcovered : (c.shared selfParaId).Covered)
    (hrun : Relation.ReflTransGen (OkStep selfParaId) c c') (a : A) :
    reserved c'.runtime.balances a + (c.shared selfParaId).owed a =
      reserved c.runtime.balances a + (c'.shared selfParaId).owed a := by
  have hinvariant : Orderly c'.runtime ∧ (c'.shared selfParaId).Covered ∧
      ∀ a, reserved c'.runtime.balances a + (c.shared selfParaId).owed a =
        reserved c.runtime.balances a + (c'.shared selfParaId).owed a := by
    induction hrun with
    | refl => exact ⟨hc, hcovered, fun _ => rfl⟩
    | @tail t u _ hstep ih =>
      obtain ⟨horderly, hcov, hbalance⟩ := ih
      obtain ⟨horderly', hsettles⟩ := hstep.settles horderly
      refine ⟨horderly', hsettles.covered hcov, fun a => ?_⟩
      have hbefore := hbalance a
      have hone : reserved u.runtime.balances a + (t.shared selfParaId).owed a =
          reserved t.runtime.balances a + (u.shared selfParaId).owed a := hsettles.balance hcov a
      omega
  exact hinvariant.2.2 a

/-- In a covered runtime all open orders that are due can be cancelled, and the reserves lose what
the orders kept there. -/
theorem unwound_of_covered (hc : Orderly c.runtime) (hcovered : (c.shared selfParaId).Covered)
    {ds : List (Pallet × A)} (hnodup : ds.Nodup)
    (hdue : ∀ p d o, c.runtime.order p d = some o → (p, d) ∈ ds ∧ Due selfParaId env p o) :
    let step : State A P L → Entry A P → State A P L := fun r e => e.exec selfParaId env r
    let es := cancellations c.runtime ds
    let r' := History.after step c.runtime es
    History.Along step (fun r e => e.Succeeds selfParaId env r) c.runtime es ∧
      r'.xchange.orders = ∅ ∧ r'.service.orders = ∅ ∧
      ∀ a, reserved r'.balances a +
        (Xchange.feesHeld c.runtime.xchange a + Xchange.penaltyHeld c.runtime.xchange a) +
        (Service.feesHeld selfParaId c.runtime.service a +
          Service.penaltyHeld selfParaId c.runtime.service a) = reserved c.runtime.balances a := by
  intro step es r'
  obtain ⟨halong, hsteps, hnone⟩ := cancelled_of_all_due hc hcovered hnodup hdue
  have hxchange : r'.xchange.orders = ∅ := by
    refine Finmap.ext_lookup fun d => ?_
    rw [Finmap.lookup_empty]
    exact hnone .xchange d
  have hservice : r'.service.orders = ∅ := by
    refine Finmap.ext_lookup fun d => ?_
    rw [Finmap.lookup_empty]
    exact hnone .service d
  refine ⟨halong, hxchange, hservice, fun a => ?_⟩
  have hbalance := balance_of_okSteps hc hcovered hsteps a
  rw [owed_eq_held hc, owed_of_empty hxchange hservice] at hbalance
  change reserved r'.balances a + _ = _ + c.others a at hbalance
  omega

/-- Over a currency without an existential deposit, from every state of a run of the runtime as it
is wired, whatever its calls returned, the clients can cancel all open orders of both pallets once
these are overdue, in any order of the calls and in one block: every call succeeds, no order is
left, and each account's reserve has lost exactly the fees and the penalties that the orders kept
there. -/
theorem unwound_of_wired_run {balances : L} {others : A → ℕ}
    (hothers : ∀ a, others a ≤ reserved balances a)
    (hrun : Relation.ReflTransGen (WiredStep selfParaId) ⟨.init balances, others⟩ c)
    {ds : List (Pallet × A)} (hnodup : ds.Nodup)
    (hdue : ∀ p d o, c.runtime.order p d = some o → (p, d) ∈ ds ∧ Due selfParaId env p o) :
    let step : State A P L → Entry A P → State A P L := fun r e => e.exec selfParaId env r
    let es := cancellations c.runtime ds
    let r' := History.after step c.runtime es
    History.Along step (fun r e => e.Succeeds selfParaId env r) c.runtime es ∧
      r'.xchange.orders = ∅ ∧ r'.service.orders = ∅ ∧
      ∀ a, reserved r'.balances a +
        (Xchange.feesHeld c.runtime.xchange a + Xchange.penaltyHeld c.runtime.xchange a) +
        (Service.feesHeld selfParaId c.runtime.service a +
          Service.penaltyHeld selfParaId c.runtime.service a) = reserved c.runtime.balances a := by
  obtain ⟨horderly, hcovered⟩ := covered_of_wired_run hothers hrun
  exact unwound_of_covered horderly hcovered hnodup hdue

/-- The orders of `orderedTwice` are the two of device 2, and both are due at time 100. -/
theorem due_orderedTwice (p : Pallet) (d : UInt64) (o : OrderOf UInt64 UInt64)
    (ho : orderedTwice.order p d = some o) :
    (p, d) ∈ [(Pallet.service, (2 : UInt64)), (.xchange, 2)] ∧ Due 2000 (Env.online 100) p o := by
  cases p with
  | xchange =>
    have hkeys : orderedTwice.xchange.orders.keys = {2} := by decide
    obtain rfl : d = 2 := Finset.mem_singleton.mp (Finmap.mem_keys_of_lookup hkeys ho)
    obtain rfl : ⟨100, 7, 30, 1, 0⟩ = o := Option.some.inj ho
    exact ⟨by decide, by decide, .inl (by decide)⟩
  | service =>
    have hkeys : orderedTwice.service.orders.keys = {2} := by decide
    obtain rfl : d = 2 := Finset.mem_singleton.mp (Finmap.mem_keys_of_lookup hkeys ho)
    obtain rfl : ⟨100, 8, 40, 1, 2000⟩ = o := Option.some.inj ho
    exact ⟨by decide, by decide, .inl (by decide)⟩

/-- Client 1 cancels both orders, the one of the service pallet first. -/
theorem unwound_of_wired_run_twice :
    let es := cancellations orderedTwice [(.service, 2), (.xchange, 2)]
    let r' := History.after (fun r e => e.exec 2000 (Env.online 100) r) orderedTwice es
    es.length = 2 ∧ r'.xchange.orders = ∅ ∧ r'.service.orders = ∅ ∧
      reserved r'.balances (1 : UInt64) + 30 + 40 = 70 := by
  intro es r'
  obtain ⟨-, hxchange, hservice, hreserved⟩ := unwound_of_wired_run (fun _ => Nat.zero_le _)
    orderedTwice_run (by decide) due_orderedTwice
  exact ⟨rfl, hxchange, hservice, hreserved 1⟩

end XcmAutoBank.Runtime
