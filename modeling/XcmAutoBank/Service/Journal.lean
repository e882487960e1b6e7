import XcmAutoBank.Service.Atomicity
import XcmAutoBank.Service.WorkingTime
import XcmAutoBank.Common.Journal
import XcmAutoBank.Foundation.History

/-!
# The events of the service chain tell its open orders

An order that is stored deposits a `NewOrder` and an order that is removed a `Reject` or a `Done`,
with one exception: a local order that a done call removes and cannot pay leaves without an event.
In runs without such a call an observer of the events knows at any time which devices have an order
(`orders_told_of_run`).
-/

namespace XcmAutoBank.Service

open ReservableCurrency Storage History

variable {A P L : Type} [DecidableEq A]

/-- What an event tells about orders: a device has one, or it has none. -/
def Event.marks : Event A → Option (A × Option Unit)
  | .newOrder device => some (device, some ())
  | .reject device | .done device => some (device, none)
  | .newDevice _ | .accept _ => none

/-- The events tell that a device has an order. -/
def hasOrder (events : List (Event A)) (d : A) : Bool := (journal Event.marks events d).isSome

variable [ReservableCurrency L A] [Codec A] [Codec P] {selfParaId : ParaId} {env : ServiceEnv A P}
  {s : State A P L} {d : A} {o : OrderOf A P} {dev : DeviceProfile}

/-- An entry is no done call for a local order that cannot be paid. -/
def Pays (selfParaId : ParaId) (s : State A P L) (e : ServiceEnv A P × Entry A P) : Prop :=
  ∀ origin onoff, e.2 = .call (.done origin onoff) → ¬Unpayable selfParaId e.1 s origin

/-- Every change of the orders is told. -/
abbrev Told (s s' : State A P L) : Prop :=
  Journaled Event.marks (fun _ : OrderOf A P => ()) s s'

omit [ReservableCurrency L A] in
/-- A storage with a closed order, told by its event. -/
theorem told_of_closed {l : L} {e : Event A} {msg : XCMPMessageOf A P}
    (he : e.marks = some (d, none)) :
    Told s ((notified selfParaId env.toEnv o msg s).closed d dev l e) := by
  refine journaled_of_erased ?_ ?_ he
  · rw [closed_orders, notified_orders]
  · exact congrArg (· ++ [e]) (notified_events env.toEnv msg)

/-- A rejection tells so. -/
theorem told_of_reject {f : Call (State A P L) Error Unit} {onoff : Bool}
    (hf : f.run s = (orderReject selfParaId env (s.orders.lookup d) env.now d dev onoff).run s) :
    Told s (f.exec s) := by
  rw [Dispatch.exec, hf]
  cases ho : s.orders.lookup d with
  | none =>
    rw [orderReject_none_run]
    exact journaled_of_erased rfl rfl rfl
  | some o =>
    rw [orderReject_run]
    split
    · exact told_of_closed rfl
    · exact journaled_of_same rfl rfl

/-- A received order tells when it is stored. -/
theorem told_of_orderReceived (env : ServiceEnv A P) (s : State A P L) (o : OrderOf A P) (d : A) :
    Told s ((orderReceived selfParaId env o d).exec s) := by
  rcases orderReceived_exec selfParaId env s d o with
    hsame | ⟨dev, state, l, hr, ⟨hpenalty, -, -⟩ | ⟨hexec, -, -⟩⟩
  · rw [hsame]
    exact journaled_of_same rfl rfl
  · rw [hpenalty]
    exact journaled_of_same rfl rfl
  · rw [hexec]
    refine journaled_of_stored (o := o) rfl rfl rfl fun e he => ?_
    split_ifs at he
    · rw [List.mem_singleton.mp he]
      rfl
    · exact absurd he List.not_mem_nil

variable [LawfulCurrency L A]

/-- Every operation but a done call that cannot be paid tells what it does to the orders. -/
theorem told_of_call {op : Op A P}
    (hpays : ∀ origin onoff, op = .done origin onoff → ¬Unpayable selfParaId env s origin) :
    Told s ((op.call selfParaId env).exec s) := by
  cases op with
  | order origin b =>
    change Told s ((order selfParaId env origin b).exec s)
    by_cases hwho : ∃ who, origin = .signed who
    · obtain ⟨who, rfl⟩ := hwho
      rw [order_signed]
      exact told_of_orderReceived env s _ _
    · rw [Dispatch.exec_of_refused (order_unsigned (fun who heq => hwho ⟨who, heq⟩) b)]
      exact journaled_of_same rfl rfl
  | orderReceived o d => exact told_of_orderReceived env s o d
  | cancel origin d =>
    change Told s ((cancel selfParaId env origin d).exec s)
    by_cases hc : ∃ o dev, Cancels env s origin d o dev
    · obtain ⟨o, dev, hc⟩ := hc
      exact told_of_reject (cancel_reject_run hc)
    · rw [Dispatch.exec_of_refused (cancel_refused hc)]
      exact journaled_of_same rfl rfl
  | accept origin reject onoff =>
    change Told s ((accept selfParaId env origin reject onoff).exec s)
    cases reject with
    | false =>
      rcases accept_exec selfParaId env s origin onoff with hsame | ⟨d, o, dev, -, htaken⟩
      · rw [hsame]
        exact journaled_of_same rfl rfl
      · rw [htaken]
        refine journaled_of_silent (taken_orders ..) rfl fun e he => ?_
        rw [List.mem_singleton.mp he]
        rfl
    | true =>
      by_cases hr : ∃ d dev, Rejects s origin d dev
      · obtain ⟨d, dev, hr⟩ := hr
        exact told_of_reject (accept_reject_run hr onoff)
      · rw [Dispatch.exec_of_refused (accept_reject_refused hr onoff)]
        exact journaled_of_same rfl rfl
  | done origin onoff =>
    change Told s ((done selfParaId env origin onoff).exec s)
    by_cases hf : ∃ d o dev, Finishes s origin d o dev
    · obtain ⟨d, o, dev, hf⟩ := hf
      rcases done_run selfParaId env hf onoff with ⟨l, -, hrun⟩ | ⟨e, l, -, hrun, -⟩
      · rw [Dispatch.exec, hrun]
        exact told_of_closed rfl
      · -- an order that cannot be paid would be gone without an event
        have hatomic := done_atomic_iff.mpr (hpays origin onoff rfl) _ _ hrun
        have hkept := hatomic.orders
        have hlookup := hf.holds.order
        rw [← hkept] at hlookup
        exact absurd hlookup (by simp [dropped])
    · rw [Dispatch.exec_of_refused (done_refused hf onoff)]
      exact journaled_of_same rfl rfl
  | register origin penalty wcd onoff =>
    change Told s ((register origin penalty wcd onoff).exec s)
    rcases register_exec s origin penalty wcd onoff with hsame | ⟨id, -, -, hwritten⟩
    · rw [hsame]
      exact journaled_of_same rfl rfl
    · rw [hwritten]
      refine journaled_of_silent rfl rfl fun e he => ?_
      rw [List.mem_singleton.mp he]
      rfl
  | setState origin onoff =>
    change Told s ((setState origin onoff).exec s)
    rcases setState_exec s origin onoff with hsame | ⟨d, dev, state, -, hwritten⟩
    · rw [hsame]
      exact journaled_of_same rfl rfl
    · rw [hwritten]
      exact journaled_of_same rfl rfl
  | onKilledAccount who =>
    change Told s ((onKilledAccount who).exec s)
    obtain ⟨m, hrun, -⟩ := onKilledAccount_run s who
    rw [Dispatch.exec, hrun]
    exact journaled_of_same rfl rfl

/-- Every entry but a done call that cannot be paid tells what it does to the orders. -/
theorem told_of_exec {e : ServiceEnv A P × Entry A P} (hpays : Pays selfParaId s e) :
    Told s (e.2.exec selfParaId e.1 s) := by
  obtain ⟨env, entry⟩ := e
  cases entry with
  | call op => exact told_of_call fun origin onoff hop => hpays origin onoff (congrArg _ hop)
  | batch items maxWeight =>
    exact handleXcmpMessages_induction selfParaId env (fun s => journaled_of_same rfl rfl)
      Journaled.trans items maxWeight (fun item _ s client b => told_of_orderReceived env s _ _) s

/-- Over every run from an empty storage, with calls of anyone, batches of any bytes and reaped
accounts, whatever they return, in which no done call is made for a local order that cannot be
paid, the events tell which devices have an order. -/
theorem orders_told_of_run {ledger : L} {es : List (ServiceEnv A P × Entry A P)}
    (hes : Along (enter selfParaId) (Pays selfParaId) (Storage.init ledger : State A P L) es)
    (d : A) :
    let s := after (enter selfParaId) (Storage.init ledger : State A P L) es
    d ∈ s.orders ↔ hasOrder s.events d = true := by
  have hrun : Told (Storage.init ledger : State A P L)
      (after (enter selfParaId) (Storage.init ledger) es) :=
    hes.related (fun s => journaled_of_same rfl rfl) Journaled.trans
      fun s e hpays => told_of_exec hpays
  intro s
  rw [hasOrder, ← hrun.journal_eq d, Option.isSome_map]
  exact Finmap.lookup_isSome.symm

/-- Device 2 registers and accepts an order of client 1, device 3 gets one of chain 2001 and then
device 2 is done in time. -/
def toldWork : List (ServiceEnv UInt64 UInt64 × Entry UInt64 UInt64) :=
  [(ServiceEnv.online 0 .busy, .call (.register (.signed 2) 30 20 true)),
    (ServiceEnv.online 0 .busy, .call (.register (.signed 3) 30 20 true)),
    (ServiceEnv.online 0 .busy, .call (.order (.signed 1) ⟨100, 7, 40, 2⟩)),
    (ServiceEnv.online 5 .busy, .call (.accept (.signed 2) false true)),
    (ServiceEnv.online 6 .busy, .batch
      [(2001, 0, Codec.encode (.newOrder 1 ⟨100, 7, 40, 3⟩ : XCMPMessageOf UInt64 UInt64))] 0),
    (ServiceEnv.online 50 .busy, .call (.done (.signed 2) true))]

/-- In the end only device 3 has an order, and the events tell. -/
theorem orders_told_of_run_toldWork :
    let s := after (enter 2000)
      (Storage.init (Balances.uniform 50) : State UInt64 UInt64 (Balances UInt64)) toldWork
    2 ∉ s.orders ∧ 3 ∈ s.orders ∧ (2 ∈ s.orders ↔ hasOrder s.events 2 = true) ∧
      (3 ∈ s.orders ↔ hasOrder s.events 3 = true) := by
  have hpays : Along (enter 2000) (Pays 2000)
      (Storage.init (Balances.uniform 50) : State UInt64 UInt64 (Balances UInt64)) toldWork := by
    refine ⟨?_, ?_, ?_, ?_, ?_, ?_, trivial⟩
    all_goals intro origin onoff heq
    · cases heq
    · cases heq
    · cases heq
    · cases heq
    · cases heq
    · cases heq
      rintro ⟨d, o, dev, hf, -, -, hrest⟩
      obtain rfl : (2 : UInt64) = d := Origin.signed.inj hf.signed
      have ho : some (⟨100, 7, 40, 1, 2000⟩ : OrderOf UInt64 UInt64) = some o := hf.holds.order
      obtain rfl := Option.some.inj ho
      rcases hrest with ⟨-, hpoor⟩ | ⟨hlate, -⟩
      · exact absurd hpoor (by decide)
      · exact hlate (by decide)
  exact ⟨by decide, by decide, orders_told_of_run hpays 2, orders_told_of_run hpays 3⟩

end XcmAutoBank.Service
