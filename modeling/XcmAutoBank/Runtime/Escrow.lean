import XcmAutoBank.Runtime.Pallets
import XcmAutoBank.Foundation.SharedEscrow
import XcmAutoBank.Xchange.Delivery
import XcmAutoBank.Service.Closing

/-!
# Two pallets in one reserve

The client pallet and the service pallet reserve fees and penalties in the same balances, one
account may be a client and a device of both, and other pallets reserve there too.  Neither pallet
knows what the others keep.  Over a currency without an existential deposit the reserves are
nevertheless exact over every interleaving of successful calls (`jointly_escrowed_of_run`), and as
the runtime wires its pallets they cover all open orders whatever the calls return, so that every
order of either pallet has its way out (`exits_of_wired_run`).
-/

namespace XcmAutoBank.Runtime

open Escrow ReservableCurrency Storage

variable {A P L : Type}

/-- The pallets that reserve. -/
inductive Pallet where
  | xchange
  | service
  deriving DecidableEq, Repr

instance : Fintype Pallet where
  elems := {.xchange, .service}
  complete i := by cases i <;> decide

/-- A runtime together with what the other pallets keep in the reserves. -/
structure Accounts (AccountId Payload Ledger : Type) where
  runtime : State AccountId Payload Ledger
  others : AccountId → ℕ

variable [DecidableEq A]

/-- The open positions of a pallet. -/
def bookOf (selfParaId : ParaId) (r : State A P L) : Pallet → Book A
  | .xchange => Storage.bookOf Xchange.backs r.xchange
  | .service => Storage.bookOf (Service.backs selfParaId) r.service

variable [ReservableCurrency L A]

/-- The reserves over the positions of both pallets. -/
def Accounts.shared (selfParaId : ParaId) (c : Accounts A P L) : Shared Pallet A where
  reserved := reserved c.runtime.balances
  others := c.others
  book := bookOf selfParaId c.runtime

/-- Every account's reserve is what the other pallets keep there, the fees of the account's orders
on both pallets, local ones on the service pallet, and the account's penalties while it has an
order there. -/
def JointlyEscrowed (selfParaId : ParaId) (c : Accounts A P L) : Prop :=
  ∀ a, reserved c.runtime.balances a = c.others a +
    (Xchange.feesHeld c.runtime.xchange a + Xchange.penaltyHeld c.runtime.xchange a) +
    (Service.feesHeld selfParaId c.runtime.service a +
      Service.penaltyHeld selfParaId c.runtime.service a)

/-- The devices with an order have a profile in both pallets. -/
structure Orderly (r : State A P L) : Prop where
  profiled : Xchange.Profiled r.xchange
  engaged : Service.Engaged r.service

variable {selfParaId : ParaId} {c c' : Accounts A P L} {r : State A P L}

/-! ### The shared pool -/

/-- What is owed to an account is what the others keep there, and the fees of its orders and its
penalties on both pallets. -/
theorem owed_eq_held (h : Orderly c.runtime) (a : A) : (c.shared selfParaId).owed a = c.others a +
    (Xchange.feesHeld c.runtime.xchange a + Xchange.penaltyHeld c.runtime.xchange a) +
    (Service.feesHeld selfParaId c.runtime.service a +
      Service.penaltyHeld selfParaId c.runtime.service a) := by
  have hsum : ∑ i, ((c.shared selfParaId).book i).held a =
      (Storage.bookOf Xchange.backs c.runtime.xchange).held a +
        (Storage.bookOf (Service.backs selfParaId) c.runtime.service).held a :=
    Finset.sum_pair (by decide)
  rw [Shared.owed, hsum, Xchange.held_book h.profiled, Service.held_book h.engaged,
    add_assoc (c.others a)]
  rfl

/-- The reserves are exact for both pallets when their shared pool is exact. -/
theorem jointlyEscrowed_iff (h : Orderly c.runtime) :
    JointlyEscrowed selfParaId c ↔ (c.shared selfParaId).Exact := by
  refine forall_congr' fun a => ?_
  rw [owed_eq_held h]
  exact Iff.rfl

/-- Without orders only the others are owed anything. -/
theorem owed_of_empty (hxchange : c.runtime.xchange.orders = ∅)
    (hservice : c.runtime.service.orders = ∅) (a : A) :
    (c.shared selfParaId).owed a = c.others a := by
  have hempty : ∀ i, (c.shared selfParaId).book i = ∅ := by
    intro i
    cases i with
    | xchange => exact bookOf_empty hxchange
    | service => exact bookOf_empty hservice
  rw [Shared.owed, Finset.sum_eq_zero]
  · rfl
  · intro i _
    rw [hempty i]
    rfl

section Frames

variable {s : Xchange.State A P L} {t : Service.State A P L}

/-- A call of the client pallet leaves the positions of the service pallet alone. -/
theorem frame_putXchange : Shared.Frame (c.shared selfParaId)
    (Accounts.shared selfParaId ⟨c.runtime.putXchange s, c.others⟩) .xchange where
  others := rfl
  book i hi := by
    cases i with
    | xchange => exact absurd rfl hi
    | service => exact bookOf_congr rfl fun _ _ => rfl

/-- A call of the service pallet leaves the positions of the client pallet alone. -/
theorem frame_putService : Shared.Frame (c.shared selfParaId)
    (Accounts.shared selfParaId ⟨c.runtime.putService t, c.others⟩) .service where
  others := rfl
  book i hi := by
    cases i with
    | xchange => exact bookOf_congr rfl fun _ _ => rfl
    | service => exact absurd rfl hi

omit [ReservableCurrency L A] in
/-- Calls elsewhere leave the positions of both pallets alone. -/
theorem bookOf_putBalances (l : L) :
    bookOf selfParaId (r.putBalances l) = bookOf selfParaId r := by
  funext i
  cases i with
  | xchange => exact bookOf_congr rfl fun _ _ => rfl
  | service => exact bookOf_congr rfl fun _ _ => rfl

end Frames

/-! ### Successful calls -/

section Runs

variable [Codec A] [Codec P]

/-- A step of a run: a call of a pallet that succeeds, any settlement message naming the client, or
a call elsewhere that reserves or releases the share of the other pallets. -/
inductive OkStep (selfParaId : ParaId) : Accounts A P L → Accounts A P L → Prop
  | template (c : Accounts A P L) (op : Template.Op A) :
      OkStep selfParaId c
        { c with runtime := { c.runtime with
            templatePallet := Template.perform c.runtime.templatePallet op } }
  | xchange (c : Accounts A P L) (env : Env) (op : Xchange.Op A P) (s : Xchange.State A P L)
      (hn : Xchange.NamesClient c.runtime.xchange op)
      (h : (op.call env).run c.runtime.xchange = (.ok (), s)) :
      OkStep selfParaId c { c with runtime := c.runtime.putXchange s }
  | service (c : Accounts A P L) (env : Env) (op : Service.Op A P) (s : Service.State A P L)
      (h : (op.call selfParaId (serviceEnv env)).run c.runtime.service = (.ok (), s)) :
      OkStep selfParaId c { c with runtime := c.runtime.putService s }
  | elsewhere (c : Accounts A P L) (l : L) (others : A → ℕ)
      (hl : ∀ a, reserved l a + c.others a = reserved c.runtime.balances a + others a) :
      OkStep selfParaId c ⟨c.runtime.putBalances l, others⟩

variable [LawfulCurrency L A]

/-- A successful call settles the shared pool. -/
theorem OkStep.settles (h : OkStep selfParaId c c') (hc : Orderly c.runtime) :
    Orderly c'.runtime ∧ Shared.Settles (c.shared selfParaId) (c'.shared selfParaId) := by
  cases h with
  | template op =>
    exact ⟨⟨hc.profiled, hc.engaged⟩, .others rfl fun a => rfl⟩
  | xchange env op s hn h =>
    obtain ⟨hprof, hsettles⟩ := Xchange.settles_of_ok hc.profiled hn h
    exact ⟨⟨hprof, hc.engaged⟩, .component .xchange frame_putXchange hsettles⟩
  | service env op s h =>
    have hsettled := Service.settles_of_ok hc.engaged (answers_serviceEnv env) h
    exact ⟨⟨hc.profiled, hsettled.engaged⟩, .component .service frame_putService hsettled.settles⟩
  | elsewhere l others hl =>
    exact ⟨⟨hc.profiled, hc.engaged⟩, .others (bookOf_putBalances l) hl⟩

/-- Successful calls keep the shared pool exact. -/
theorem jointlyEscrowed_of_okSteps (horderly : Orderly c.runtime)
    (hc : JointlyEscrowed selfParaId c)
    (hrun : Relation.ReflTransGen (OkStep selfParaId) c c') : JointlyEscrowed selfParaId c' := by
  have hinvariant : Orderly c'.runtime ∧ (c'.shared selfParaId).Exact := by
    induction hrun with
    | refl => exact ⟨horderly, (jointlyEscrowed_iff horderly).mp hc⟩
    | tail _ hstep ih =>
      obtain ⟨hprof, hsettles⟩ := hstep.settles ih.1
      exact ⟨hprof, hsettles.exact ih.2⟩
  exact (jointlyEscrowed_iff hinvariant.1).mpr hinvariant.2

/-- Over a currency without an existential deposit and every interleaving of successful calls of
both pallets and calls elsewhere, from a runtime without orders, every account's reserve stays what
the other pallets keep there plus what the open orders of each of the two pallets keep there. -/
theorem jointly_escrowed_of_run (hxchange : c.runtime.xchangePallet.orders = ∅)
    (hservice : c.runtime.xchangeService.orders = ∅) (hc : JointlyEscrowed selfParaId c)
    (hrun : Relation.ReflTransGen (OkStep selfParaId) c c') : JointlyEscrowed selfParaId c' :=
  jointlyEscrowed_of_okSteps
    ⟨Xchange.profiled_of_empty hxchange, Service.engaged_of_empty hservice⟩ hc hrun

/-! ### All calls -/

/-- A step of a run of the runtime as it is wired: a signed call of one of its pallets, whatever it
returns, or a call elsewhere that reserves or releases the share of the other pallets. -/
inductive WiredStep (selfParaId : ParaId) : Accounts A P L → Accounts A P L → Prop
  | entry (c : Accounts A P L) (env : Env) (e : Entry A P) (he : e.Wired) :
      WiredStep selfParaId c { c with runtime := e.exec selfParaId env c.runtime }
  | elsewhere (c : Accounts A P L) (l : L) (others : A → ℕ)
      (hl : ∀ a, reserved l a + c.others a = reserved c.runtime.balances a + others a) :
      WiredStep selfParaId c ⟨c.runtime.putBalances l, others⟩

/-- A wired entry moves the shared pool by a step. -/
theorem WiredStep.step (h : WiredStep selfParaId c c') (hc : Orderly c.runtime) :
    Orderly c'.runtime ∧ Shared.Step (c.shared selfParaId) (c'.shared selfParaId) := by
  cases h with
  | elsewhere l others hl =>
    exact ⟨⟨hc.profiled, hc.engaged⟩, .others (bookOf_putBalances l) hl⟩
  | entry env e he =>
    cases e with
    | template op => exact ⟨⟨hc.profiled, hc.engaged⟩, .others rfl fun a => rfl⟩
    | xchange entry =>
      cases entry with
      | batch items maxWeight => exact absurd he id
      | call op =>
        have hcall : Xchange.Profiled ((op.call env).exec c.runtime.xchange) ∧ _ :=
          Xchange.step_of_call hc.profiled (Xchange.namesClient_of_dispatchable he.1)
            (Xchange.not_drainsClient_of_dispatchable he.1)
        obtain ⟨hprof, hstep⟩ := hcall
        exact ⟨⟨hprof, hc.engaged⟩, .component .xchange frame_putXchange (.single hstep)⟩
    | service entry =>
      cases entry with
      | batch items maxWeight => exact absurd he id
      | call op =>
        have hadvances : Service.Advances selfParaId c.runtime.service _ :=
          Service.advances_of_call op hc.engaged (answers_serviceEnv env)
        exact ⟨⟨hc.profiled, hadvances.engaged⟩,
          .component .service frame_putService hadvances.steps⟩

/-- In every run of the runtime as it is wired the reserves cover the other pallets and the open
orders of both pallets. -/
theorem covered_of_wired_run {balances : L} {others : A → ℕ}
    (hothers : ∀ a, others a ≤ reserved balances a)
    (hrun : Relation.ReflTransGen (WiredStep selfParaId) ⟨.init balances, others⟩ c) :
    Orderly c.runtime ∧ (c.shared selfParaId).Covered := by
  induction hrun with
  | refl =>
    refine ⟨⟨Xchange.profiled_of_empty rfl, Service.engaged_of_empty rfl⟩, fun a => ?_⟩
    rw [owed_of_empty rfl rfl]
    exact hothers a
  | tail _ hstep ih =>
    obtain ⟨horderly, hstep⟩ := hstep.step ih.1
    exact ⟨horderly, hstep.covered ih.2⟩

/-- Over a currency without an existential deposit, in every run of the runtime as it is wired,
whatever the calls of its pallets return, every order with a fee has its way out: on the client
pallet its client can cancel it once it is overdue, for exactly its fee and penalty, and on the
service pallet its client can do so too and its device can reject it at any time. -/
theorem exits_of_wired_run {balances : L} {others : A → ℕ}
    (hothers : ∀ a, others a ≤ reserved balances a)
    (hrun : Relation.ReflTransGen (WiredStep selfParaId) ⟨.init balances, others⟩ c) {d : A}
    {o : OrderOf A P} (hfee : 0 < o.fee.toNat) :
    (c.runtime.xchange.orders.lookup d = some o → Xchange.Closable c.runtime.xchange d o) ∧
    (c.runtime.service.orders.lookup d = some o →
      Service.Cancellable selfParaId c.runtime.service d o ∧
        Service.Rejectable selfParaId c.runtime.service d) := by
  obtain ⟨horderly, hcovered⟩ := covered_of_wired_run hothers hrun
  refine ⟨fun ho => ?_, fun ho => ⟨?_, ?_⟩⟩
  · exact Xchange.closable_of_covered horderly.profiled (hcovered.pool .xchange) ho hfee
  · exact Service.cancellable_of_covered horderly.engaged (hcovered.pool .service) ho (.inl hfee)
  · exact Service.rejectable_of_covered horderly.engaged (hcovered.pool .service) ho (.inl hfee)

end Runs

/-! ### One device of both pallets -/

/-- Every account owns 100, device 2 has registered a penalty of 10 in the client pallet and one of
25 in the service pallet. -/
def registeredTwice : State UInt64 UInt64 (Balances UInt64) :=
  [.xchange (.call (.register (.signed 2) 2000 10 20 true)),
    .service (.call (.register (.signed 2) 25 20 true))].foldl
      (Entry.exec 2000 (Env.online 0)) (.init (Balances.uniform 100))

/-- Client 1 orders device 2 in both pallets, at fees of 30 and 40. -/
def orderedTwice : State UInt64 UInt64 (Balances UInt64) :=
  [.xchange (.call (.order (.signed 1) ⟨100, 7, 30, 2⟩)),
    .service (.call (.order (.signed 1) ⟨100, 8, 40, 2⟩))].foldl
      (Entry.exec 2000 (Env.online 0)) registeredTwice

/-- The device is done with its order in the service pallet. -/
def doneOnce : State UInt64 UInt64 (Balances UInt64) :=
  Entry.exec 2000 (Env.online 50) orderedTwice (.service (.call (.done (.signed 2) true)))

/-- The reserves are then exact: client 1 keeps its fee and device 2 its penalty for the other
order. -/
theorem jointly_escrowed_of_run_done :
    JointlyEscrowed 2000 ⟨doneOnce, fun _ => 0⟩ ∧ reserved doneOnce.balances (1 : UInt64) = 30 ∧
      reserved doneOnce.balances (2 : UInt64) = 10 := by
  have hrun : Relation.ReflTransGen (OkStep 2000)
      (⟨.init (Balances.uniform 100), fun _ => 0⟩ : Accounts UInt64 UInt64 (Balances UInt64))
      ⟨doneOnce, fun _ => 0⟩ := by
    refine .tail (.tail (.tail (.tail (.tail .refl
      (.xchange _ (Env.online 0) (.register (.signed 2) 2000 10 20 true) _ trivial
        (Dispatch.run_eq_of_fst (by decide))))
      (.service _ (Env.online 0) (.register (.signed 2) 25 20 true) _
        (Dispatch.run_eq_of_fst (by decide))))
      (.xchange _ (Env.online 0) (.order (.signed 1) ⟨100, 7, 30, 2⟩) _ trivial
        (Dispatch.run_eq_of_fst (by decide))))
      (.service _ (Env.online 0) (.order (.signed 1) ⟨100, 8, 40, 2⟩) _
        (Dispatch.run_eq_of_fst (by decide))))
      (.service _ (Env.online 50) (.done (.signed 2) true) _
        (Dispatch.run_eq_of_fst (by decide)))
  exact ⟨jointly_escrowed_of_run rfl rfl (fun _ => rfl) hrun, by decide, by decide⟩

/-- The two orders are reached by four signed calls. -/
theorem orderedTwice_run : Relation.ReflTransGen (WiredStep 2000)
    (⟨.init (Balances.uniform 100), fun _ => 0⟩ : Accounts UInt64 UInt64 (Balances UInt64))
    ⟨orderedTwice, fun _ => 0⟩ := by
  refine .tail (.tail (.tail (.tail .refl
    (.entry _ (Env.online 0) (.xchange (.call (.register (.signed 2) 2000 10 20 true))) ?_))
    (.entry _ (Env.online 0) (.service (.call (.register (.signed 2) 25 20 true))) ?_))
    (.entry _ (Env.online 0) (.xchange (.call (.order (.signed 1) ⟨100, 7, 30, 2⟩))) ?_))
    (.entry _ (Env.online 0) (.service (.call (.order (.signed 1) ⟨100, 8, 40, 2⟩))) ?_)
  all_goals exact ⟨trivial, fun who h => by cases h⟩

/-- Client 1 can cancel both orders once they are overdue. -/
theorem exits_of_wired_run_twice :
    Xchange.Closable orderedTwice.xchange 2 ⟨100, 7, 30, 1, 0⟩ ∧
      Service.Cancellable 2000 orderedTwice.service 2 ⟨100, 8, 40, 1, 2000⟩ := by
  have hexits (d : UInt64) (o : OrderOf UInt64 UInt64) (hfee : 0 < o.fee.toNat) :=
    exits_of_wired_run (fun _ => Nat.zero_le _) orderedTwice_run (d := d) hfee
  exact ⟨(hexits 2 _ (by decide)).1 (by decide), ((hexits 2 _ (by decide)).2 (by decide)).1⟩

end XcmAutoBank.Runtime
