import XcmAutoBank.Service.Outcome

/-!
# What the service chain stores and sends

The part of a call that a client chain can notice: how the stored orders change and which messages
are handed to the transport.  A remote order that leaves the storage leaves it with one message to
the chain it came from, the one that closes it; all other messages are acceptances.
-/

namespace XcmAutoBank.Service

open ReservableCurrency Storage

variable {A P L : Type} [DecidableEq A] [ReservableCurrency L A]

/-- The device whose order an operation acts on. -/
def Op.device : Op A P → Option A
  | .cancel _ d => some d
  | .accept (.signed d) _ _ | .done (.signed d) _ => some d
  | _ => none

/-- How an operation closes an order. -/
def Op.verdict : Op A P → Verdict
  | .done .. => .done
  | _ => .reject

/-- The operations that are not messages of a client chain. -/
def Op.Dispatchable : Op A P → Prop
  | .orderReceived .. => False
  | _ => True

variable [Codec A] [Codec P]

/-- Messages that only tell of acceptances. -/
def Acceptances (A P : Type) [Codec A] [Codec P] (ms : List Sent) : Prop :=
  ∀ m ∈ ms, ∃ client device, m.message =
    Xcm.transact (Codec.encode (.orderAccept client device : XCMPMessageOf A P))

/-- What a dispatchable does to the orders and the messages. -/
inductive Effect (selfParaId : ParaId) (op : Op A P) (s s' : State A P L) : Prop
  | keeps (ms : List Sent) (hsent : s'.sent = s.sent ++ ms) (haccept : Acceptances A P ms)
      (horders : s'.orders = s.orders)
  | stores (d : A) (o : OrderOf A P) (ms : List Sent) (hsent : s'.sent = s.sent ++ ms)
      (haccept : Acceptances A P ms) (hlocal : o.paraid = selfParaId) (hfresh : d ∉ s.orders)
      (horders : s'.orders = s.orders.insert d o)
  | closesLocal (d : A) (o : OrderOf A P) (ho : s.orders.lookup d = some o)
      (hlocal : o.paraid = selfParaId) (horders : s'.orders = s.orders.erase d)
      (hsent : s'.sent = s.sent)
  | closesRemote (d : A) (o : OrderOf A P) (onoff : Bool) (result : Except SendError Unit)
      (hdevice : op.device = some d) (ho : s.orders.lookup d = some o)
      (hremote : o.paraid ≠ selfParaId) (horders : s'.orders = s.orders.erase d)
      (hsent : s'.sent = s.sent ++ [⟨o.paraid, Xcm.transact (Codec.encode
        (op.verdict.message o.client d onoff : XCMPMessageOf A P)), result⟩])

variable {selfParaId : ParaId} {env : ServiceEnv A P} {s s' : State A P L} {d : A}
  {o : OrderOf A P} {dev : DeviceProfile} {origin : Origin A} {op : Op A P}

omit [DecidableEq A] in
/-- No message is no news. -/
theorem acceptances_nil : Acceptances A P [] := fun _ hm => absurd hm List.not_mem_nil

omit [ReservableCurrency L A] in
/-- A call that changes neither orders nor messages. -/
theorem effect_of_same (ho : s'.orders = s.orders) (hs : s'.sent = s.sent) :
    Effect selfParaId op s s' :=
  .keeps [] (by rw [hs, List.append_nil]) acceptances_nil ho

omit [ReservableCurrency L A] in
/-- A refused call changes nothing. -/
theorem effect_of_refused {x : Call (State A P L) Error Unit}
    (h : ∃ e, x.run s = (.error e, s)) : Effect selfParaId op s (x.exec s) := by
  rw [Dispatch.exec_of_refused h]
  exact effect_of_same rfl rfl

omit [DecidableEq A] [ReservableCurrency L A] in
/-- Telling a remote client that its order is accepted is an acceptance. -/
theorem notified_accept_sent (env : Env) :
    ∃ ms, (notified selfParaId env o (.orderAccept o.client d) s).sent = s.sent ++ ms ∧
      Acceptances A P ms := by
  unfold notified
  split_ifs
  · exact ⟨[], (List.append_nil _).symm, acceptances_nil⟩
  · refine ⟨_, rfl, fun m hm => ⟨o.client, d, ?_⟩⟩
    rw [List.mem_singleton.mp hm]

variable (selfParaId env s o d) in
/-- A received order is stored, with an acceptance at most, or changes nothing. -/
theorem orderReceived_cases :
    (((orderReceived selfParaId env o d).exec s).orders = s.orders ∧
      ((orderReceived selfParaId env o d).exec s).sent = s.sent) ∨
    (d ∉ s.orders ∧
      ((orderReceived selfParaId env o d).exec s).orders = s.orders.insert d o ∧
      ∃ ms, ((orderReceived selfParaId env o d).exec s).sent = s.sent ++ ms ∧
        Acceptances A P ms) := by
  rcases orderReceived_exec selfParaId env s d o with
    hsame | ⟨dev, state, l, hr, ⟨hpenalty, -, -⟩ | ⟨hexec, -, -⟩⟩
  · rw [hsame]
    exact .inl ⟨rfl, rfl⟩
  · rw [hpenalty]
    exact .inl ⟨rfl, rfl⟩
  · have hstored : ∃ ms,
        (stored selfParaId env.toEnv s o d dev state l).sent = s.sent ++ ms ∧
          Acceptances A P ms := by
      unfold stored
      split_ifs
      · exact notified_accept_sent env.toEnv
      · exact ⟨[], (List.append_nil _).symm, acceptances_nil⟩
    rw [hexec]
    exact .inr ⟨hr.fresh, rfl, hstored⟩

omit [ReservableCurrency L A] in
/-- A storage with a closed order, its chain told when it is remote. -/
theorem effect_of_closed {onoff : Bool} {dev' : DeviceProfile} {l : L} {e : Event A}
    (hdevice : op.device = some d) (ho : s.orders.lookup d = some o) :
    Effect selfParaId op s ((notified selfParaId env.toEnv o
      (op.verdict.message o.client d onoff) s).closed d dev' l e) := by
  by_cases hlocal : o.paraid = selfParaId
  · refine .closesLocal d o ho hlocal ?_ ?_
    · rw [closed_orders, notified_orders]
    · rw [closed_sent, notified, if_pos hlocal]
  · have hsent : ∃ result, (notified selfParaId env.toEnv o
        (op.verdict.message o.client d onoff) s).sent = s.sent ++ [⟨o.paraid, Xcm.transact
          (Codec.encode (op.verdict.message o.client d onoff : XCMPMessageOf A P)), result⟩] := by
      rw [notified, if_neg hlocal]
      exact ⟨_, rfl⟩
    obtain ⟨result, hsent⟩ := hsent
    refine .closesRemote d o onoff result hdevice ho hlocal ?_ hsent
    rw [closed_orders, notified_orders]

/-- A reject closes the order it is given, or only writes a profile. -/
theorem effect_of_reject {x : Call (State A P L) Error Unit} {onoff : Bool}
    (hdevice : op.device = some d) (hverdict : op.verdict = .reject)
    (hx : x.run s =
      (orderReject selfParaId env (s.orders.lookup d) env.now d dev onoff).run s) :
    Effect selfParaId op s (x.exec s) := by
  rw [Dispatch.exec, hx]
  cases ho : s.orders.lookup d with
  | none =>
    rw [orderReject_none_run]
    refine effect_of_same ?_ rfl
    rw [closed_orders]
    exact Finmap.erase_of_notMem (Finmap.lookup_eq_none.mp ho)
  | some o =>
    rw [orderReject_run]
    split
    · have hmessage : (op.verdict.message o.client d onoff : XCMPMessageOf A P) =
          .orderReject o.client d onoff := by rw [hverdict]; rfl
      rw [← hmessage]
      exact effect_of_closed hdevice ho
    · exact effect_of_same rfl rfl

/-- Every dispatchable stores a local order, closes an order or keeps the orders. -/
theorem effect_of_call (hop : op.Dispatchable) :
    Effect selfParaId op s ((op.call selfParaId env).exec s) := by
  cases op with
  | order origin b =>
    by_cases hwho : ∃ who, origin = .signed who
    · obtain ⟨who, rfl⟩ := hwho
      change Effect _ _ s ((order selfParaId env (.signed who) b).exec s)
      rw [order_signed]
      rcases orderReceived_cases selfParaId env s b.device (receivedOrder b selfParaId who) with
        ⟨ho, hs⟩ | ⟨hfresh, ho, ms, hs, hms⟩
      · exact effect_of_same ho hs
      · exact .stores b.device _ ms hs hms rfl hfresh ho
    · exact effect_of_refused (order_unsigned (fun who heq => hwho ⟨who, heq⟩) b)
  | cancel origin d =>
    change Effect _ _ s ((cancel selfParaId env origin d).exec s)
    by_cases hc : ∃ o dev, Cancels env s origin d o dev
    · obtain ⟨o, dev, hc⟩ := hc
      exact effect_of_reject rfl rfl (cancel_reject_run hc)
    · exact effect_of_refused (cancel_refused hc)
  | accept origin reject onoff =>
    change Effect _ _ s ((accept selfParaId env origin reject onoff).exec s)
    cases reject with
    | false =>
      rcases accept_exec selfParaId env s origin onoff with hsame | ⟨d, o, dev, -, htaken⟩
      · rw [hsame]
        exact effect_of_same rfl rfl
      · obtain ⟨ms, hms, haccept⟩ : ∃ ms, (notified selfParaId env.toEnv o
            (.orderAccept o.client d) s).sent = s.sent ++ ms ∧ Acceptances A P ms :=
          notified_accept_sent env.toEnv
        rw [htaken]
        exact .keeps ms hms haccept (taken_orders ..)
    | true =>
      by_cases hr : ∃ d dev, Rejects s origin d dev
      · obtain ⟨d, dev, hr⟩ := hr
        obtain rfl := hr.signed
        exact effect_of_reject rfl rfl (accept_reject_run hr onoff)
      · exact effect_of_refused (accept_reject_refused hr onoff)
  | done origin onoff =>
    change Effect _ _ s ((done selfParaId env origin onoff).exec s)
    rcases done_exec selfParaId env s origin onoff with
      hsame | ⟨d, o, dev, l, hf, ⟨-, hclosed⟩ | ⟨hlocal, hdropped, -⟩⟩
    · rw [hsame]
      exact effect_of_same rfl rfl
    · obtain rfl := hf.signed
      rw [hclosed]
      have hdevice : (Op.done (.signed d) onoff : Op A P).device = some d := rfl
      exact effect_of_closed hdevice hf.holds.order
    · rw [hdropped]
      exact .closesLocal d o hf.holds.order hlocal rfl rfl
  | register origin penalty wcd onoff =>
    change Effect _ _ s ((register origin penalty wcd onoff).exec s)
    rcases register_exec s origin penalty wcd onoff with hsame | ⟨id, -, -, hwritten⟩
    · rw [hsame]
      exact effect_of_same rfl rfl
    · rw [hwritten]
      exact effect_of_same rfl rfl
  | setState origin onoff =>
    change Effect _ _ s ((setState origin onoff).exec s)
    rcases setState_exec s origin onoff with hsame | ⟨d, dev, state, -, hwritten⟩
    · rw [hsame]
      exact effect_of_same rfl rfl
    · rw [hwritten]
      exact effect_of_same rfl rfl
  | onKilledAccount who =>
    change Effect _ _ s ((onKilledAccount who).exec s)
    obtain ⟨m, hrun, -⟩ := onKilledAccount_run s who
    rw [Dispatch.exec, hrun]
    exact effect_of_same rfl rfl
  | orderReceived o d => exact absurd hop id

end XcmAutoBank.Service
