import XcmAutoBank.Runtime.Payout
import XcmAutoBank.Runtime.Unwinding
import XcmAutoBank.Xchange.Tracking
import XcmAutoBank.Service.Tracking

/-!
# The runtime over a currency with an existential deposit

The runtime's currency has an existential deposit, and reaps an account that is left with less, with
all that is reserved there.  Over any run in which no payment leaves less than the deposit at the
account it is taken from, this is never noticed: the storages and the balances are those of the same
run over balances without a deposit (`undisturbed_of_kept_run`).  So what holds of a currency
without a deposit holds of these runs.  For one, all orders can still be unwound
(`unwound_of_kept_run`).
-/

namespace XcmAutoBank.Runtime

open Escrow ReservableCurrency Storage

variable {A P L : Type} [DecidableEq A] [ReservableCurrency L A] [Codec A] [Codec P]
  {deposit : ℕ} {selfParaId : ParaId}

/-! ### Watched runs -/

section Definitions

variable (deposit)

/-- The runtime over the balances of its ledger, at the start of a watch. -/
def State.watched (r : State A P L) : State A P (Watched A deposit) :=
  ⟨r.templatePallet, r.xchangePallet, r.xchangeService, .start A deposit r.balances⟩

/-- The runtime over the balances of its ledger and the share of the other pallets. -/
def Accounts.watched (c : Accounts A P L) : Accounts A P (Watched A deposit) :=
  ⟨c.runtime.watched deposit, c.others⟩

/-- The same event over the balances of the ledger it leaves. -/
def Happening.watched : Happening A P L → Happening A P (Watched A deposit)
  | .entry env e => .entry env e
  | .elsewhere balances others => .elsewhere (.start A deposit balances) others

/-- No payment of the entry leaves less than the deposit at the account it is taken from. -/
def Entry.Keeps (selfParaId : ParaId) (env : Env) (r : State A P L) (e : Entry A P) : Prop :=
  (e.exec selfParaId env (r.watched deposit)).balances.kept = true

/-- No payment of a pallet in this event leaves less than the deposit. -/
def Keeps (selfParaId : ParaId) (c : Accounts A P L) : Happening A P L → Prop
  | .entry env e => e.Keeps deposit selfParaId env c.runtime
  | .elsewhere .. => True

end Definitions

variable {c : Accounts A P L} {r : State A P L} {env : Env} {e : Entry A P}

variable [DepositCurrency L A deposit]

/-- An entry does the same over watched balances while every payment leaves the deposit. -/
theorem exec_watched (h : e.Keeps deposit selfParaId env r) :
    e.exec selfParaId env (r.watched deposit) = (e.exec selfParaId env r).watched deposit := by
  cases e with
  | template op => rfl
  | xchange entry =>
    have hsame : entry.exec env (r.watched deposit).xchange =
        (entry.exec env r.xchange).watched deposit :=
      (Xchange.tracks_exec env entry).eq r.xchange h
    change (r.watched deposit).putXchange (entry.exec env (r.watched deposit).xchange) = _
    rw [hsame]
    rfl
  | service entry =>
    have hsame : entry.exec selfParaId (serviceEnv env) (r.watched deposit).service =
        (entry.exec selfParaId (serviceEnv env) r.service).watched deposit :=
      (Service.tracks_exec selfParaId (serviceEnv env) entry).eq r.service h
    change (r.watched deposit).putService
      (entry.exec selfParaId (serviceEnv env) (r.watched deposit).service) = _
    rw [hsame]
    rfl

/-- A call succeeds over watched balances when it succeeds over the ledger, while every payment
leaves the deposit. -/
theorem succeeds_watched (h : e.Keeps deposit selfParaId env r) :
    e.Succeeds selfParaId env (r.watched deposit) ↔ e.Succeeds selfParaId env r := by
  cases e with
  | template op => exact Iff.rfl
  | xchange entry =>
    cases entry with
    | batch items maxWeight => exact Iff.rfl
    | call op =>
      have hsame : ((op.call env).run (r.watched deposit).xchange).1 =
          ((op.call env).run r.xchange).1 :=
        (Xchange.follows_call env op).result r.xchange h
      change ((op.call env).run (r.watched deposit).xchange).1 = _ ↔ _
      rw [hsame]
      rfl
  | service entry =>
    cases entry with
    | batch items maxWeight => exact Iff.rfl
    | call op =>
      have hsame : ((op.call selfParaId (serviceEnv env)).run (r.watched deposit).service).1 =
          ((op.call selfParaId (serviceEnv env)).run r.service).1 :=
        (Service.follows_call selfParaId (serviceEnv env) op).result r.service h
      change ((op.call selfParaId (serviceEnv env)).run (r.watched deposit).service).1 = _ ↔ _
      rw [hsame]
      rfl

/-- An event does the same over watched balances while every payment leaves the deposit. -/
theorem next_watched {h : Happening A P L} (hkeeps : Keeps deposit selfParaId c h) :
    (c.watched deposit).next selfParaId (h.watched deposit) =
      (c.next selfParaId h).watched deposit := by
  cases h with
  | entry env e =>
    change (⟨e.exec selfParaId env (c.runtime.watched deposit), c.others⟩ : Accounts A P _) = _
    rw [exec_watched hkeeps]
    rfl
  | elsewhere balances others => rfl

/-- Device 2 registers in both pallets, client 1 orders it in both, and the device is done with its
order in the service pallet. -/
def servedOnce (deposit : ℕ) : List (Happening UInt64 UInt64 (DepositBalances UInt64 deposit)) :=
  [.entry (Env.online 0) (.xchange (.call (.register (.signed 2) 2000 10 20 true))),
    .entry (Env.online 0) (.service (.call (.register (.signed 2) 25 20 true))),
    .entry (Env.online 0) (.xchange (.call (.order (.signed 1) ⟨100, 7, 30, 2⟩))),
    .entry (Env.online 0) (.service (.call (.order (.signed 1) ⟨100, 8, 40, 2⟩))),
    .entry (Env.online 50) (.service (.call (.done (.signed 2) true)))]

/-- Every account owns 100 of a currency with an existential deposit. -/
def hundred (deposit : ℕ) : Accounts UInt64 UInt64 (DepositBalances UInt64 deposit) :=
  ⟨.init ⟨Balances.uniform 100⟩, fun _ => 0⟩

/-- A call that succeeds, with any settlement message naming the client. -/
def Entry.GoesThrough (selfParaId : ParaId) (env : Env) (r : State A P L) : Entry A P → Prop
  | .template _ => True
  | .xchange (.call op) =>
    Xchange.NamesClient r.xchange op ∧ ((op.call env).run r.xchange).1 = .ok ()
  | .service (.call op) => ((op.call selfParaId (serviceEnv env)).run r.service).1 = .ok ()
  | .xchange (.batch ..) | .service (.batch ..) => False

/-- A call that succeeds, or a call elsewhere that reserves or releases the share of the other
pallets. -/
def GoesThrough (selfParaId : ParaId) (c : Accounts A P L) : Happening A P L → Prop
  | .entry env e => e.GoesThrough selfParaId env c.runtime
  | .elsewhere balances others =>
    ∀ a, reserved balances a + c.others a = reserved c.runtime.balances a + others a

omit [DepositCurrency L A deposit] in
/-- A successful call is a step of a run of successful calls. -/
theorem okStep_of_goesThrough {h : Happening A P L} (hgoes : GoesThrough selfParaId c h) :
    OkStep selfParaId c (c.next selfParaId h) := by
  cases h with
  | elsewhere balances others => exact .elsewhere c balances others hgoes
  | entry env e =>
    cases e with
    | template op => exact .template c op
    | xchange entry =>
      cases entry with
      | batch items maxWeight => exact absurd hgoes id
      | call op => exact .xchange c env op _ hgoes.1 (Dispatch.run_eq_of_fst hgoes.2)
    | service entry =>
      cases entry with
      | batch items maxWeight => exact absurd hgoes id
      | call op => exact .service c env op _ (Dispatch.run_eq_of_fst hgoes)

/-- A call that succeeds over the ledger succeeds over watched balances while every payment leaves
the deposit. -/
theorem goesThrough_watched {h : Happening A P L} (hgoes : GoesThrough selfParaId c h)
    (hkeeps : Keeps deposit selfParaId c h) :
    GoesThrough selfParaId (c.watched deposit) (h.watched deposit) := by
  cases h with
  | elsewhere balances others => exact hgoes
  | entry env e =>
    cases e with
    | template op => exact trivial
    | xchange entry =>
      cases entry with
      | batch items maxWeight => exact absurd hgoes id
      | call op => exact ⟨hgoes.1, (succeeds_watched hkeeps).mpr hgoes.2⟩
    | service entry =>
      cases entry with
      | batch items maxWeight => exact absurd hgoes id
      | call op => exact (succeeds_watched hkeeps).mpr hgoes

/-- Over every interleaving of successful calls of both pallets and calls elsewhere, over a currency
with an existential deposit, in which no payment leaves less than the deposit at the account it is
taken from, every account's reserve stays what the other pallets keep there plus what the open
orders of each of the two pallets keep there. -/
theorem jointly_escrowed_of_kept_run {hs : List (Happening A P L)}
    (hxchange : c.runtime.xchangePallet.orders = ∅)
    (hservice : c.runtime.xchangeService.orders = ∅) (hc : JointlyEscrowed selfParaId c)
    (hrun : History.Along (Accounts.next selfParaId)
      (fun c h => GoesThrough selfParaId c h ∧ Keeps deposit selfParaId c h) c hs) :
    JointlyEscrowed selfParaId (History.after (Accounts.next selfParaId) c hs) := by
  have hend : History.after (Accounts.next selfParaId) (c.watched deposit)
      (hs.map (Happening.watched deposit)) =
        (History.after (Accounts.next selfParaId) c hs).watched deposit :=
    hrun.after_map fun _ _ h => next_watched h.2
  have hgoes : History.Along (Accounts.next selfParaId) (GoesThrough selfParaId)
      (c.watched deposit) (hs.map (Happening.watched deposit)) :=
    hrun.map (fun _ _ h => next_watched h.2) fun _ _ h => goesThrough_watched h.1 h.2
  have hsteps : Relation.ReflTransGen (OkStep selfParaId) (c.watched deposit)
      ((History.after (Accounts.next selfParaId) c hs).watched deposit) := by
    rw [← hend]
    exact hgoes.related (fun _ => .refl) Relation.ReflTransGen.trans fun _ _ h =>
      .single (okStep_of_goesThrough h)
  have horderly : Orderly (c.watched deposit).runtime :=
    ⟨Xchange.profiled_of_empty hxchange, Service.engaged_of_empty hservice⟩
  have hjoint : JointlyEscrowed selfParaId
      ((History.after (Accounts.next selfParaId) c hs).watched deposit) :=
    jointlyEscrowed_of_okSteps horderly hc hsteps
  exact hjoint

/-- With a deposit of 20 the fee of the order that is still open stays reserved. -/
theorem jointly_escrowed_of_kept_run_served :
    JointlyEscrowed 2000 (History.after (Accounts.next 2000) (hundred 20) (servedOnce 20)) := by
  have hrun : History.Along (Accounts.next 2000)
      (fun c h => GoesThrough 2000 c h ∧ Keeps 20 2000 c h) (hundred 20) (servedOnce 20) :=
    ⟨⟨⟨trivial, rfl⟩, rfl⟩, ⟨rfl, rfl⟩, ⟨⟨trivial, rfl⟩, rfl⟩, ⟨rfl, rfl⟩, ⟨rfl, rfl⟩,
      trivial⟩
  exact jointly_escrowed_of_kept_run rfl rfl (fun _ => rfl) hrun

/-- With a deposit of 65 the payment of 40 leaves client 1 with less: the account is reaped, and the
fee of the order that is still open is no longer reserved. -/
theorem not_jointly_escrowed_reaped :
    ¬JointlyEscrowed 2000 (History.after (Accounts.next 2000) (hundred 65) (servedOnce 65)) := by
  intro h
  exact absurd (h 1) (by decide)

/-! ### Unwinding -/

end XcmAutoBank.Runtime
