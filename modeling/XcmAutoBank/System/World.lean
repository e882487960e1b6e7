import XcmAutoBank.Xchange.Effect
import XcmAutoBank.Service.Effect
import XcmAutoBank.Foundation.Relay

/-!
# The two chains

A client chain and a service chain, each with its clock, and the messages in flight between them.
Any dispatchable may be called on either chain at any time, clocks only advance, and a message that
the transport took may be delivered later, in any order, or be lost; delivery in the order of
sending is the special case `Action.fifo`.

Beside what the chains store, a world keeps a record that no call reads: how many orders the client
chain has stored for each device, whether anything was under way for the device when its order was
stored, and what became of the orders on the service chain.
-/

namespace XcmAutoBank.System

open Relay (Item)

variable {A P : Type}

/-- The para ids of the two chains. -/
structure Paras where
  client : ParaId
  service : ParaId
  distinct : client ≠ service

/-- An order as the client chain sends it: its client, and what the client stated. -/
structure Ticket (AccountId Payload : Type) where
  client : AccountId
  order : OrderBaseOf AccountId Payload
  deriving DecidableEq, Repr

/-- The ticket of an order that is stored for a device. -/
def Ticket.ofOrder (o : OrderOf A P) (device : A) : Ticket A P := ⟨o.client, o.convert device⟩

/-- A message in flight to the service chain: its bytes, and how many orders its sender had stored
for each device. -/
structure Request (AccountId : Type) where
  data : List UInt8
  placed : AccountId → ℕ

/-- A message in flight to the client chain: its bytes, and the time and the orders its sender
removed in the call that sent it. -/
structure Answer (AccountId Payload : Type) where
  data : List UInt8
  time : Moment
  removed : AccountId → Option (Item (Ticket AccountId Payload))

/-- What became of an order on the service chain. -/
inductive Record (AccountId Payload : Type) where
  | stored (i : Item (Ticket AccountId Payload))
  | closed (i : Item (Ticket AccountId Payload)) (v : Verdict) (time : Moment)
  deriving DecidableEq, Repr

/-- The device whose order a record is about. -/
def Record.device : Record A P → A
  | .stored i | .closed i _ _ => i.2.order.device

/-- The two chains and what is in flight between them. -/
structure World (AccountId Payload ClientLedger ServiceLedger : Type) where
  clientNow : Moment
  serviceNow : Moment
  client : Xchange.State AccountId Payload ClientLedger
  service : Service.State AccountId Payload ServiceLedger
  /-- In flight to the service chain, oldest first. -/
  requests : List (Request AccountId)
  /-- In flight to the client chain, oldest first. -/
  answers : List (Answer AccountId Payload)
  /-- How many orders the client chain has stored for a device. -/
  placed : AccountId → ℕ
  /-- Nothing was under way for a device when the client chain stored its order. -/
  clear : AccountId → Bool
  /-- Which of these orders the service chain stores for a device, if it stores one of them. -/
  held : AccountId → ℕ
  history : List (Record AccountId Payload)

/-- What happens in one step of the world. -/
inductive Action (AccountId Payload : Type) where
  | clock
  | transfer
  | client (op : Xchange.Op AccountId Payload)
  | service (op : Service.Op AccountId Payload)
  | deliverRequest (position : ℕ)
  | deliverAnswer (position : ℕ)
  | loseRequest (position : ℕ)
  | loseAnswer (position : ℕ)

/-- Messages are delivered in the order of sending, and none is lost. -/
def Action.fifo : Action A P → Prop
  | .deliverRequest position | .deliverAnswer position => position = 0
  | .loseRequest _ | .loseAnswer _ => False
  | _ => True

/-! ### Messages in flight -/

/-- The bytes of the messages for a chain that the transport took in a call. -/
def outgoing (dest : ParaId) (sent sent' : List Sent) : List (List UInt8) :=
  ((sent'.drop sent.length).filter fun m => m.accepted && decide (m.dest = dest)).map
    (·.message.call)

section Reading

variable [DecidableEq A] [Codec A] [Codec P]

/-- The message some bytes encode. -/
def readMessage (data : List UInt8) : Option (XCMPMessageOf A P) :=
  (Codec.decode data).map Prod.fst

/-- The order for a device that a request brings. -/
def Request.item (P : Type) [Codec P] (d : A) (r : Request A) : Option (Item (Ticket A P)) :=
  match (readMessage r.data : Option (XCMPMessageOf A P)) with
  | some (.newOrder client order) =>
    if order.device = d then some (r.placed d, ⟨client, order⟩) else none
  | _ => none

/-- How an answer settles the order of a device. -/
def Answer.verdict (d : A) (a : Answer A P) : Option Verdict :=
  match (readMessage a.data : Option (XCMPMessageOf A P)) with
  | some (.orderReject _ device _) => if device = d then some .reject else none
  | some (.orderDone _ device _) => if device = d then some .done else none
  | _ => none

/-- The order for a device that an answer is about, and how and when it was closed. -/
def Answer.item (d : A) (a : Answer A P) :
    Option (Item (Ticket A P) × Verdict × Moment) :=
  match a.verdict d, a.removed d with
  | some v, some i => some (i, v, a.time)
  | _, _ => none

end Reading

/-! ### The state of a device -/

namespace World

variable {LA LB : Type} [DecidableEq A]

/-- The order of the client chain that the service chain stores for a device. -/
def heldItem (paras : Paras) (w : World A P LA LB) (d : A) : Option (Item (Ticket A P)) :=
  match w.service.orders.lookup d with
  | some o => if o.paraid = paras.client then some (w.held d, .ofOrder o d) else none
  | none => none

/-- An order for the device is in flight, stored on the service chain, or closed there by a message
in flight. -/
def underWay [Codec A] [Codec P] (paras : Paras) (w : World A P LA LB) (d : A) : Bool :=
  w.requests.any (fun r => (r.item P d).isSome) || (w.heldItem paras d).isSome ||
    w.answers.any fun a => (a.verdict d).isSome

/-- Both chains without devices and orders, and nothing in flight. -/
def init (clientNow serviceNow : Moment) (clientLedger : LA) (serviceLedger : LB) :
    World A P LA LB where
  clientNow := clientNow
  serviceNow := serviceNow
  client := .init clientLedger
  service := .init serviceLedger
  requests := []
  answers := []
  placed := fun _ => 0
  clear := fun _ => false
  held := fun _ => 0
  history := []

/-- A call of the client chain has left the storage `s'`. -/
def afterClient [Codec A] [Codec P] (paras : Paras) (w : World A P LA LB)
    (s' : Xchange.State A P LA) : World A P LA LB :=
  let placed := fun d =>
    if d ∈ s'.orders ∧ d ∉ w.client.orders then w.placed d + 1 else w.placed d
  { w with
    client := s'
    requests := w.requests ++ (outgoing paras.service w.client.sent s'.sent).map (⟨·, placed⟩)
    placed := placed
    clear := fun d =>
      if d ∈ s'.orders ∧ d ∉ w.client.orders then !w.underWay paras d else w.clear d }

/-- A call of the service chain has left the storage `s'`. -/
def afterService (paras : Paras) (w : World A P LA LB) (s' : Service.State A P LB)
    (held : A → ℕ) (records : List (Record A P)) : World A P LA LB :=
  let removed := fun d => if d ∈ s'.orders then none else w.heldItem paras d
  { w with
    service := s'
    answers := w.answers ++
      (outgoing paras.client w.service.sent s'.sent).map (⟨·, w.serviceNow, removed⟩)
    held := held
    history := w.history ++ records }

/-- The record of a dispatchable of the service chain: the order of the client chain it closed. -/
def closedRecords (paras : Paras) (w : World A P LA LB) (op : Service.Op A P)
    (s' : Service.State A P LB) : List (Record A P) :=
  match op.device with
  | some d =>
    match w.heldItem paras d with
    | some i => if d ∈ s'.orders then [] else [.closed i op.verdict w.serviceNow]
    | none => []
  | none => []

/-- The record of a delivered request: the order the service chain stored. -/
def storedRecords [Codec A] [Codec P] (w : World A P LA LB) (r : Request A)
    (s' : Service.State A P LB) : List (Record A P) :=
  match (readMessage r.data : Option (XCMPMessageOf A P)) with
  | some (.newOrder client order) =>
    if order.device ∈ s'.orders ∧ order.device ∉ w.service.orders then
      [.stored (r.placed order.device, ⟨client, order⟩)]
    else []
  | _ => []

/-- Which order the service chain stores for each device after a delivered request. -/
def heldAfter (w : World A P LA LB) (r : Request A) (s' : Service.State A P LB) : A → ℕ :=
  fun d => if d ∈ s'.orders ∧ d ∉ w.service.orders then r.placed d else w.held d

/-- The record of the past as a relay keeps it for one device: the client chain issues orders to the
service chain and settles them when they come back. -/
def view [Codec A] [Codec P] (paras : Paras) (w : World A P LA LB) (d : A) :
    Relay.State (Ticket A P) (Verdict × Moment) where
  count := w.placed d
  issued := (w.client.orders.lookup d).map fun o => (w.placed d, .ofOrder o d)
  clear := w.clear d
  requests := w.requests.filterMap (Request.item P d)
  held := w.heldItem paras d
  answers := w.answers.filterMap (Answer.item d)
  received := {i | i.2.order.device = d ∧ .stored i ∈ w.history}
  answered := {p | p.1.2.order.device = d ∧ .closed p.1 p.2.1 p.2.2 ∈ w.history}

end World

/-! ### Steps -/

section Steps

variable {LA LB : Type} [DecidableEq A] [Codec A] [Codec P] [ReservableCurrency LA A]
  [ReservableCurrency LB A]

/-- The client chain handles bytes from the service chain. -/
def handleAnswer (paras : Paras) (env : Env) (data : List UInt8) (s : Xchange.State A P LA) :
    Xchange.State A P LA :=
  (Xchange.handleXcmpMessages env [(paras.service, 0, data)] 0 s).1

/-- The service chain handles bytes from the client chain. -/
def handleRequest (paras : Paras) (env : Service.ServiceEnv A P) (data : List UInt8)
    (s : Service.State A P LB) : Service.State A P LB :=
  (Service.handleXcmpMessages paras.service env [(paras.client, 0, data)] 0 s).1

/-- One step of the two chains.  A transfer stands for everything else that changes balances. -/
inductive Step (paras : Paras) : World A P LA LB → Action A P → World A P LA LB → Prop
  | clock (w : World A P LA LB) (clientNow serviceNow : Moment)
      (hclient : w.clientNow ≤ clientNow) (hservice : w.serviceNow ≤ serviceNow) :
      Step paras w .clock { w with clientNow := clientNow, serviceNow := serviceNow }
  | transfer (w : World A P LA LB) (la : LA) (lb : LB) :
      Step paras w .transfer
        { w with
          client := { w.client with ledger := la }
          service := { w.service with ledger := lb } }
  | client (w : World A P LA LB) (env : Env) (op : Xchange.Op A P) (hnow : env.now = w.clientNow)
      (hop : op.Dispatchable) :
      Step paras w (.client op) (w.afterClient paras ((op.call env).exec w.client))
  | service (w : World A P LA LB) (env : Service.ServiceEnv A P) (op : Service.Op A P)
      (hnow : env.now = w.serviceNow) (hop : op.Dispatchable) :
      Step paras w (.service op) (w.afterService paras
        ((op.call paras.service env).exec w.service) w.held
        (w.closedRecords paras op ((op.call paras.service env).exec w.service)))
  | deliverRequest (w : World A P LA LB) (env : Service.ServiceEnv A P)
      (pre post : List (Request A)) (r : Request A) (hnow : env.now = w.serviceNow)
      (hflight : w.requests = pre ++ r :: post) :
      Step paras w (.deliverRequest pre.length)
        ({ w with requests := pre ++ post }.afterService paras
          (handleRequest paras env r.data w.service)
          (w.heldAfter r (handleRequest paras env r.data w.service))
          (w.storedRecords r (handleRequest paras env r.data w.service)))
  | deliverAnswer (w : World A P LA LB) (env : Env) (pre post : List (Answer A P))
      (a : Answer A P) (hnow : env.now = w.clientNow) (hflight : w.answers = pre ++ a :: post) :
      Step paras w (.deliverAnswer pre.length)
        ({ w with answers := pre ++ post }.afterClient paras
          (handleAnswer paras env a.data w.client))
  | loseRequest (w : World A P LA LB) (pre post : List (Request A)) (r : Request A)
      (hflight : w.requests = pre ++ r :: post) :
      Step paras w (.loseRequest pre.length) { w with requests := pre ++ post }
  | loseAnswer (w : World A P LA LB) (pre post : List (Answer A P)) (a : Answer A P)
      (hflight : w.answers = pre ++ a :: post) :
      Step paras w (.loseAnswer pre.length) { w with answers := pre ++ post }

/-- A run of the two chains from any balances, with nothing stored or in flight at the start. -/
def Reachable (paras : Paras) (w : World A P LA LB) : Prop :=
  ∃ clientNow serviceNow clientLedger serviceLedger, Relation.ReflTransGen
    (fun w w' => ∃ action, Step paras w action w')
    (World.init clientNow serviceNow clientLedger serviceLedger) w

/-! ### Runs in order -/

/-- A step that delivers the oldest message at most and leaves both chains with one time. -/
def OrderedStep (paras : Paras) (w w' : World A P LA LB) : Prop :=
  ∃ action : Action A P, action.fifo ∧ Step paras w action w' ∧ w'.clientNow = w'.serviceNow

/-- A run of two chains with one clock whose messages were all taken by the transport; each of them
is delivered once, in the order of sending. -/
structure InOrder (paras : Paras) (w : World A P LA LB) : Prop where
  run : ∃ now clientLedger serviceLedger, Relation.ReflTransGen (OrderedStep paras)
    (World.init now now clientLedger serviceLedger) w
  taken : (∀ m ∈ w.client.sent, m.accepted = true) ∧ ∀ m ∈ w.service.sent, m.accepted = true

/-- A run in order is a run. -/
theorem InOrder.reachable {paras : Paras} {w : World A P LA LB} (h : InOrder paras w) :
    Reachable paras w := by
  obtain ⟨now, clientLedger, serviceLedger, hrun⟩ := h.run
  refine ⟨now, now, clientLedger, serviceLedger, Relation.ReflTransGen.mono ?_ _ _ hrun⟩
  rintro w w' ⟨action, -, hstep, -⟩
  exact ⟨action, hstep⟩

/-- What can be played out one after the other: a call on either chain, the passing of time, or the
delivery of the oldest message.  A device answers an order it gets with the state given. -/
inductive Move (A P : Type) where
  | client (op : Xchange.Op A P) (hop : op.Dispatchable)
  | service (op : Service.Op A P) (hop : op.Dispatchable)
  | wait (time : Moment)
  | passRequest (state : DeviceState)
  | passAnswer

/-- The action a move plays. -/
def Move.action : Move A P → Action A P
  | .client op _ => .client op
  | .service op _ => .service op
  | .wait _ => .clock
  | .passRequest _ => .deliverRequest 0
  | .passAnswer => .deliverAnswer 0

/-- Play one move, over a transport that takes every message. -/
def World.move (paras : Paras) (w : World A P LA LB) : Move A P → World A P LA LB
  | .client op _ => w.afterClient paras ((op.call (.online w.clientNow)).exec w.client)
  | .service op _ =>
    let s' := (op.call paras.service (.online w.serviceNow .busy)).exec w.service
    w.afterService paras s' w.held (w.closedRecords paras op s')
  | .wait time =>
    if w.clientNow ≤ time ∧ w.serviceNow ≤ time then
      { w with clientNow := time, serviceNow := time }
    else w
  | .passRequest state =>
    match w.requests with
    | [] => w
    | r :: post =>
      let s' := handleRequest paras (.online w.serviceNow state) r.data w.service
      { w with requests := post }.afterService paras s' (w.heldAfter r s') (w.storedRecords r s')
  | .passAnswer =>
    match w.answers with
    | [] => w
    | a :: post =>
      { w with answers := post }.afterClient paras
        (handleAnswer paras (.online w.clientNow) a.data w.client)

/-- Play moves one after the other. -/
def World.play (paras : Paras) (w : World A P LA LB) (moves : List (Move A P)) :
    World A P LA LB :=
  moves.foldl (World.move paras) w

variable {paras : Paras} {w : World A P LA LB}

/-- The move that delivers the oldest answer is a step when there is one. -/
theorem World.passAnswer_step (h : w.answers ≠ []) :
    Step paras w (.deliverAnswer 0) (w.move paras .passAnswer) := by
  obtain ⟨a, post, hflight⟩ := List.exists_cons_of_ne_nil h
  simp only [World.move, hflight]
  exact .deliverAnswer w (.online w.clientNow) [] post a rfl hflight

variable (paras w) in
/-- A move is the step it stands for, or nothing. -/
theorem World.move_cases (m : Move A P) :
    w.move paras m = w ∨ Step paras w m.action (w.move paras m) := by
  cases m with
  | client op hop => exact .inr (.client w (.online w.clientNow) op rfl hop)
  | service op hop => exact .inr (.service w (.online w.serviceNow .busy) op rfl hop)
  | wait time =>
    by_cases h : w.clientNow ≤ time ∧ w.serviceNow ≤ time
    · have hmove : w.move paras (.wait time) =
          { w with clientNow := time, serviceNow := time } := if_pos h
      rw [hmove]
      exact .inr (.clock w time time h.1 h.2)
    · exact .inl (if_neg h)
  | passRequest state =>
    cases hflight : w.requests with
    | nil => exact .inl (by simp only [World.move, hflight])
    | cons r post =>
      simp only [World.move, hflight]
      exact .inr (.deliverRequest w (.online w.serviceNow state) [] post r rfl hflight)
  | passAnswer =>
    by_cases h : w.answers = []
    · exact .inl (by simp only [World.move, h])
    · exact .inr (World.passAnswer_step h)

/-- Moves keep two clocks that show the same time together. -/
theorem World.move_now (hnow : w.clientNow = w.serviceNow) (m : Move A P) :
    (w.move paras m).clientNow = (w.move paras m).serviceNow := by
  cases m with
  | client op hop => exact hnow
  | service op hop => exact hnow
  | wait time =>
    simp only [World.move]
    split_ifs
    · rfl
    · exact hnow
  | passRequest state =>
    simp only [World.move]
    split
    · exact hnow
    · exact hnow
  | passAnswer =>
    simp only [World.move]
    split
    · exact hnow
    · exact hnow

/-- A move is a step in order, or nothing. -/
theorem World.move_ordered (hnow : w.clientNow = w.serviceNow) (m : Move A P) :
    Relation.ReflTransGen (OrderedStep paras) w (w.move paras m) ∧
      (w.move paras m).clientNow = (w.move paras m).serviceNow := by
  refine ⟨?_, World.move_now hnow m⟩
  rcases World.move_cases paras w m with hmove | hstep
  · rw [hmove]
  · refine .single ⟨m.action, ?_, hstep, World.move_now hnow m⟩
    cases m with
    | client | service | wait => exact trivial
    | passRequest | passAnswer => exact rfl

/-- Moves make a run in order. -/
theorem World.play_ordered (hnow : w.clientNow = w.serviceNow) (moves : List (Move A P)) :
    Relation.ReflTransGen (OrderedStep paras) w (w.play paras moves) := by
  induction moves generalizing w with
  | nil => exact .refl
  | cons m moves ih =>
    obtain ⟨hmove, hnow'⟩ := World.move_ordered hnow m
    exact hmove.trans (ih hnow')

end Steps

end XcmAutoBank.System
