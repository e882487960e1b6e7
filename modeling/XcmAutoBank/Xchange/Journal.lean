import XcmAutoBank.Xchange.Consistency
import XcmAutoBank.Common.Journal

/-!
# The events of the client chain tell its open orders

`NewOrder` is deposited exactly when an order is stored, and every removal of an order deposits a
`Reject` or a `Done`.  The account such an event names is the one a message named, not always the
client; but the device it names is right.  An observer of the events therefore knows at any time
which devices have an order and of which client, whatever the calls returned and whichever bytes
came in (`clients_told_of_run`).
-/

namespace XcmAutoBank.Xchange

open ReservableCurrency Storage History

variable {A P L : Type} [DecidableEq A]

/-- What an event tells about orders: a client has one on a device, or nobody has. -/
def Event.marks : Event A → Option (A × Option A)
  | .newOrder client device => some (device, some client)
  | .reject _ device | .done _ device => some (device, none)
  | .newDevice _ | .accept _ _ => none

/-- The client of the open order of a device, as the events tell. -/
def clientOf (events : List (Event A)) (d : A) : Option A := journal Event.marks events d

variable [ReservableCurrency L A] [Codec A] [Codec P] {env : Env} {s : State A P L}

omit [ReservableCurrency L A] [Codec A] [Codec P] in
/-- A storage with a closed order, told by its event. -/
theorem journaled_of_closed {d : A} {dev : DeviceProfile} {l : L} {e : Event A}
    (he : e.marks = some (d, none)) :
    Journaled Event.marks Order.client s (s.closed d dev l e) :=
  journaled_of_erased rfl rfl he

omit [Codec A] [Codec P] in
/-- A message that settles an order tells so. -/
theorem journaled_of_message (env : Env) (s : State A P L) (m : XCMPMessageOf A P) :
    Journaled Event.marks Order.client s (handleMessage env s m) := by
  cases m with
  | newOrder client b => exact journaled_of_same rfl rfl
  | orderAccept client d =>
    have hexec : handleMessage env s (.orderAccept client d : XCMPMessageOf A P) =
        { s with events := s.events ++ [.accept client d] } := by
      simp [handleMessage, onAccept]
    rw [hexec]
    refine journaled_of_silent rfl rfl fun e he => ?_
    rw [List.mem_singleton.mp he]
    rfl
  | orderReject client d onoff =>
    change Journaled _ _ s ((onReject env client d onoff).exec s)
    rcases onReject_exec env s client d onoff with hsame | ⟨o, dev, -, hfee | ⟨l, -, hclosed⟩⟩
    · rw [hsame]
      exact journaled_of_same rfl rfl
    · rw [hfee]
      exact journaled_of_same rfl rfl
    · rw [hclosed]
      exact journaled_of_closed rfl
  | orderDone client d onoff =>
    change Journaled _ _ s ((onDone env client d onoff).exec s)
    rcases onDone_exec env s client d onoff with
      hsame | ⟨o, dev, l₁, -, -, hfee | ⟨l, -, hclosed⟩⟩
    · rw [hsame]
      exact journaled_of_same rfl rfl
    · rw [hfee]
      exact journaled_of_same rfl rfl
    · rw [hclosed]
      exact journaled_of_closed rfl

/-- Every operation tells what it does to the orders. -/
theorem journaled_of_call (env : Env) (s : State A P L) (op : Op A P) :
    Journaled Event.marks Order.client s ((op.call env).exec s) := by
  cases op with
  | test origin =>
    change Journaled _ _ s ((test env origin).exec s)
    obtain ⟨r, sent, hrun⟩ := test_run env origin s
    rw [Dispatch.exec, hrun]
    exact journaled_of_same rfl rfl
  | order origin b =>
    change Journaled _ _ s ((order env origin b).exec s)
    rcases order_exec env s origin b with hsame | ⟨who, dev, l₁, -, -, hpenalty | ⟨l₂, -, hrun⟩⟩
    · rw [hsame]
      exact journaled_of_same rfl rfl
    · rw [hpenalty]
      exact journaled_of_same rfl rfl
    · rw [Dispatch.exec, hrun]
      exact journaled_of_stored (o := b.convert who) rfl rfl rfl
        fun e he => absurd he List.not_mem_nil
  | cancel origin d =>
    change Journaled _ _ s ((cancel env origin d).exec s)
    rcases cancel_exec env s d origin with hsame | ⟨o, dev, -, hfee | ⟨l, -, hclosed⟩⟩
    · rw [hsame]
      exact journaled_of_same rfl rfl
    · rw [hfee]
      exact journaled_of_same rfl rfl
    · rw [hclosed]
      exact journaled_of_closed rfl
  | register origin paraid penalty wcd onoff =>
    change Journaled _ _ s ((register origin paraid penalty wcd onoff).exec s)
    rcases register_exec s onoff origin paraid penalty wcd with hsame | ⟨id, -, -, hwritten⟩
    · rw [hsame]
      exact journaled_of_same rfl rfl
    · rw [hwritten]
      refine journaled_of_silent rfl rfl fun e he => ?_
      rw [List.mem_singleton.mp he]
      rfl
  | onAccept who d => exact journaled_of_message env s (.orderAccept who d)
  | onReject who d onoff => exact journaled_of_message env s (.orderReject who d onoff)
  | onDone who d onoff => exact journaled_of_message env s (.orderDone who d onoff)
  | onKilledAccount who =>
    change Journaled _ _ s ((onKilledAccount who).exec s)
    obtain ⟨m, hrun, -⟩ := onKilledAccount_run s who
    rw [Dispatch.exec, hrun]
    exact journaled_of_same rfl rfl

/-- Every entry tells what it does to the orders. -/
theorem journaled_of_exec (env : Env) (s : State A P L) (entry : Entry A P) :
    Journaled Event.marks Order.client s (entry.exec env s) := by
  cases entry with
  | call op => exact journaled_of_call env s op
  | batch items maxWeight =>
    exact handleXcmpMessages_induction (fun s => journaled_of_same rfl rfl) Journaled.trans
      (journaled_of_message env) items maxWeight s

/-- Over every run from an empty storage, with calls of anyone, batches of any bytes and reaped
accounts, whatever they return, the events tell which devices have an open order and of which
client. -/
theorem clients_told_of_run (ledger : L) (es : List (Env × Entry A P)) (d : A) :
    let s := after enter (Storage.init ledger : State A P L) es
    (s.orders.lookup d).map Order.client = clientOf s.events d := by
  have hrun : Journaled Event.marks Order.client (Storage.init ledger : State A P L)
      (after enter (Storage.init ledger) es) :=
    (along_of_forall (P := fun _ => True) fun _ _ => trivial).related
      (fun s => journaled_of_same rfl rfl) Journaled.trans fun s e _ => journaled_of_exec e.1 s e.2
  exact hrun.journal_eq d

end XcmAutoBank.Xchange
