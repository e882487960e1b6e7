import XcmAutoBank.Service.Effect
import XcmAutoBank.Service.Entry

/-!
# What the service chain tells the chains of its clients

An entry speaks about orders that are stored before it or after it, to the chain an order came
from, and in one form only: `Entry.reply` is the message it has for the client and the device of
such an order (`onlyReplies_of_exec`).
-/

namespace XcmAutoBank.Service

open ReservableCurrency Storage

variable {A P L : Type}

/-- The message with which an operation answers an order of a client on a device. -/
def Op.reply (client device : A) : Op A P → Option (XCMPMessageOf A P)
  | .order .. | .orderReceived .. | .accept _ false _ => some (.orderAccept client device)
  | .cancel .. => some (.orderReject client device false)
  | .accept _ true onoff => some (.orderReject client device onoff)
  | .done _ onoff => some (.orderDone client device onoff)
  | .register .. | .setState .. | .onKilledAccount _ => none

/-- The message with which an entry answers an order; a batch only ever accepts. -/
def Entry.reply (client device : A) : Entry A P → Option (XCMPMessageOf A P)
  | .call op => op.reply client device
  | .batch .. => some (.orderAccept client device)

variable [DecidableEq A] [Codec A] [Codec P]

/-- A message is the answer to an order that is stored before or after, sent to the chain the order
came from. -/
def IsReply (reply : A → A → Option (XCMPMessageOf A P)) (s s' : State A P L) (m : Sent) : Prop :=
  ∃ o d msg, (s.orders.lookup d = some o ∨ s'.orders.lookup d = some o) ∧ m.dest = o.paraid ∧
    reply o.client d = some msg ∧ m.message = Xcm.transact (Codec.encode msg)

/-- Whatever is handed to the transport on the way is a reply. -/
def OnlyReplies (reply : A → A → Option (XCMPMessageOf A P)) (s s' : State A P L) : Prop :=
  ∃ ms, s'.sent = s.sent ++ ms ∧ ∀ m ∈ ms, IsReply reply s s' m

variable {selfParaId : ParaId} {env : ServiceEnv A P} {s s' t : State A P L} {d : A}
  {o : OrderOf A P} {dev : DeviceProfile} {reply : A → A → Option (XCMPMessageOf A P)}

/-- Silence answers nothing. -/
theorem onlyReplies_of_quiet (h : s'.sent = s.sent) : OnlyReplies reply s s' :=
  ⟨[], by rw [h, List.append_nil], fun m hm => absurd hm List.not_mem_nil⟩

/-- Telling the chain of an order is an answer to the order. -/
theorem onlyReplies_of_told {env : Env} {msg : XCMPMessageOf A P}
    (hsent : s'.sent = s.sent ++ told selfParaId env o msg)
    (ho : s.orders.lookup d = some o ∨ s'.orders.lookup d = some o)
    (hreply : reply o.client d = some msg) : OnlyReplies reply s s' := by
  refine ⟨_, hsent, fun m hm => ?_⟩
  unfold told at hm
  split_ifs at hm
  · exact absurd hm List.not_mem_nil
  · rw [List.mem_singleton.mp hm]
    exact ⟨o, d, msg, ho, rfl, hreply, rfl⟩

/-- A refused call answers nothing. -/
theorem onlyReplies_of_refused {f : Call (State A P L) Error Unit}
    (h : ∃ e, f.run s = (.error e, s)) : OnlyReplies reply s (f.exec s) := by
  rw [Dispatch.exec_of_refused h]
  exact onlyReplies_of_quiet rfl

/-- A closed order is answered with the message that closes it. -/
theorem onlyReplies_of_closed {dev' : DeviceProfile} {l : L} {e : Event A}
    {msg : XCMPMessageOf A P} (ho : s.orders.lookup d = some o)
    (hreply : reply o.client d = some msg) :
    OnlyReplies reply s ((notified selfParaId env.toEnv o msg s).closed d dev' l e) :=
  onlyReplies_of_told (notified_sent env.toEnv msg) (.inl ho) hreply

/-! ### One operation -/

variable [ReservableCurrency L A]

/-- A received order is accepted at once or not answered. -/
theorem onlyReplies_of_orderReceived
    (hreply : reply o.client d = some (.orderAccept o.client d)) :
    OnlyReplies reply s ((orderReceived selfParaId env o d).exec s) := by
  rcases orderReceived_exec selfParaId env s d o with
    hsame | ⟨dev, state, l, -, ⟨hpenalty, -, -⟩ | ⟨hstored, -, -⟩⟩
  · rw [hsame]
    exact onlyReplies_of_quiet rfl
  · rw [hpenalty]
    exact onlyReplies_of_quiet rfl
  · rw [hstored]
    have ho : (stored selfParaId env.toEnv s o d dev state l).orders.lookup d = some o :=
      Finmap.lookup_insert _
    by_cases hstate : state = .accepted
    · have hsent : (stored selfParaId env.toEnv s o d dev state l).sent =
          s.sent ++ told selfParaId env.toEnv o (.orderAccept o.client d) := by
        simp only [stored, if_pos hstate]
        exact notified_sent env.toEnv _
      exact onlyReplies_of_told hsent (.inr ho) hreply
    · exact onlyReplies_of_quiet (by simp only [stored, if_neg hstate])

/-- A rejection is answered when there was an order. -/
theorem onlyReplies_of_reject {f : Call (State A P L) Error Unit} {onoff : Bool}
    (hf : f.run s = (orderReject selfParaId env (s.orders.lookup d) env.now d dev onoff).run s)
    (hreply : ∀ client, reply client d = some (.orderReject client d onoff)) :
    OnlyReplies reply s (f.exec s) := by
  rw [Dispatch.exec, hf]
  cases ho : s.orders.lookup d with
  | none =>
    rw [orderReject_none_run]
    exact onlyReplies_of_quiet rfl
  | some o =>
    rw [orderReject_run]
    split
    · exact onlyReplies_of_closed ho (hreply o.client)
    · exact onlyReplies_of_quiet rfl

/-- Every operation hands over replies only. -/
theorem onlyReplies_of_call (op : Op A P) :
    OnlyReplies (fun client device => op.reply client device) s
      ((op.call selfParaId env).exec s) := by
  cases op with
  | order origin b =>
    change OnlyReplies _ s ((order selfParaId env origin b).exec s)
    by_cases hwho : ∃ who, origin = .signed who
    · obtain ⟨who, rfl⟩ := hwho
      rw [order_signed]
      exact onlyReplies_of_orderReceived rfl
    · exact onlyReplies_of_refused (order_unsigned (fun who heq => hwho ⟨who, heq⟩) b)
  | cancel origin d =>
    change OnlyReplies _ s ((cancel selfParaId env origin d).exec s)
    by_cases hc : ∃ o dev, Cancels env s origin d o dev
    · obtain ⟨o, dev, hc⟩ := hc
      exact onlyReplies_of_reject (cancel_reject_run hc) fun client => rfl
    · exact onlyReplies_of_refused (cancel_refused hc)
  | accept origin reject onoff =>
    change OnlyReplies _ s ((accept selfParaId env origin reject onoff).exec s)
    cases reject with
    | false =>
      rcases accept_exec selfParaId env s origin onoff with hsame | ⟨d, o, dev, ht, htaken⟩
      · rw [hsame]
        exact onlyReplies_of_quiet rfl
      · rw [htaken]
        exact onlyReplies_of_told (notified_sent env.toEnv _) (.inl ht.holds.order) rfl
    | true =>
      by_cases hr : ∃ d dev, Rejects s origin d dev
      · obtain ⟨d, dev, hr⟩ := hr
        exact onlyReplies_of_reject (accept_reject_run hr onoff) fun client => rfl
      · exact onlyReplies_of_refused (accept_reject_refused hr onoff)
  | done origin onoff =>
    change OnlyReplies _ s ((done selfParaId env origin onoff).exec s)
    rcases done_exec selfParaId env s origin onoff with
      hsame | ⟨d, o, dev, l, hf, ⟨-, hclosed⟩ | ⟨-, hdropped, -⟩⟩
    · rw [hsame]
      exact onlyReplies_of_quiet rfl
    · rw [hclosed]
      exact onlyReplies_of_closed hf.holds.order rfl
    · rw [hdropped]
      exact onlyReplies_of_quiet rfl
  | register origin penalty wcd onoff =>
    change OnlyReplies _ s ((register origin penalty wcd onoff).exec s)
    rcases register_exec s origin penalty wcd onoff with hsame | ⟨id, -, -, hwritten⟩
    · rw [hsame]
      exact onlyReplies_of_quiet rfl
    · rw [hwritten]
      exact onlyReplies_of_quiet rfl
  | setState origin onoff =>
    change OnlyReplies _ s ((setState origin onoff).exec s)
    rcases setState_exec s origin onoff with hsame | ⟨d, dev, state, -, hwritten⟩
    · rw [hsame]
      exact onlyReplies_of_quiet rfl
    · rw [hwritten]
      exact onlyReplies_of_quiet rfl
  | orderReceived o d => exact onlyReplies_of_orderReceived rfl
  | onKilledAccount who =>
    change OnlyReplies _ s ((onKilledAccount who).exec s)
    obtain ⟨m, hrun, -⟩ := onKilledAccount_run s who
    rw [Dispatch.exec, hrun]
    exact onlyReplies_of_quiet rfl

/-! ### Batches -/

/-- Orders stay stored and whatever is handed over is a reply. -/
structure Replying (reply : A → A → Option (XCMPMessageOf A P)) (s s' : State A P L) : Prop where
  orders : ∀ d o, s.orders.lookup d = some o → s'.orders.lookup d = some o
  sent : OnlyReplies reply s s'

omit [ReservableCurrency L A] in
/-- The replies to orders that stay stored add up. -/
theorem Replying.trans (h : Replying reply s t) (h' : Replying reply t s') :
    Replying reply s s' := by
  obtain ⟨ms, hms, hreply⟩ := h.sent
  obtain ⟨ms', hms', hreply'⟩ := h'.sent
  refine ⟨fun d o ho => h'.orders d o (h.orders d o ho),
    ms ++ ms', by rw [hms', hms, List.append_assoc], fun m hm => ?_⟩
  rcases List.mem_append.mp hm with hm | hm
  · obtain ⟨o, d, msg, ho, hrest⟩ := hreply m hm
    rcases ho with ho | ho
    · exact ⟨o, d, msg, .inl ho, hrest⟩
    · exact ⟨o, d, msg, .inr (h'.orders d o ho), hrest⟩
  · obtain ⟨o, d, msg, ho, hrest⟩ := hreply' m hm
    rcases ho with ho | ho
    · exact ⟨o, d, msg, .inr (h'.orders d o ho), hrest⟩
    · exact ⟨o, d, msg, .inr ho, hrest⟩

/-- A received order displaces no order. -/
theorem orders_of_orderReceived {x : A} {o' : OrderOf A P} (ho : s.orders.lookup d = some o') :
    ((orderReceived selfParaId env o x).exec s).orders.lookup d = some o' := by
  rcases orderReceived_cases selfParaId env s x o with ⟨hsame, -⟩ | ⟨hfresh, hstored, -⟩
  · rw [hsame, ho]
  · rw [hstored, Finmap.lookup_insert_of_notMem hfresh ho]

/-- Every entry hands over replies only. -/
theorem onlyReplies_of_exec (env : ServiceEnv A P) (entry : Entry A P) (s : State A P L) :
    OnlyReplies (fun client device => entry.reply client device) s
      (entry.exec selfParaId env s) := by
  cases entry with
  | call op => exact onlyReplies_of_call op
  | batch items maxWeight =>
    have hbatch := handleXcmpMessages_induction selfParaId env
      (R := Replying fun client device => some (.orderAccept client device))
      (fun s => ⟨fun d o ho => ho, onlyReplies_of_quiet rfl⟩) Replying.trans items maxWeight
      (fun item _ s client b =>
        ⟨fun d o ho => orders_of_orderReceived ho, onlyReplies_of_orderReceived rfl⟩) s
    exact hbatch.sent

end XcmAutoBank.Service
