import XcmAutoBank.Service.Escrow

/-!
# What one entry point of the service pallet does

Every operation acts on one device at most (`Op.target`): beside the ledger it only changes the
order and the profile of that device, and what it sends and deposits is about that device
(`Frame`).  `Deed` lists what it may do there: store an order, have it accepted, close it, or write
the profile of a device that is not engaged.  A batch is a run of received orders
(`handleXcmpMessages_induction`).
-/

namespace XcmAutoBank.Service

open ReservableCurrency Storage

variable {A P L : Type}

/-- The device a message is about. -/
def messageDevice : XCMPMessageOf A P → A
  | .newOrder _ b => b.device
  | .orderAccept _ d | .orderReject _ d _ | .orderDone _ d _ => d

/-- The device an event is about. -/
def Event.device : Event A → A
  | .newDevice d | .newOrder d | .accept d | .reject d | .done d => d

/-- The device an operation acts on. -/
def Op.target : Op A P → Option A
  | .order _ b => some b.device
  | .cancel _ d => some d
  | .accept (.signed d) _ _ | .done (.signed d) _ | .register (.signed d) _ _ _
  | .setState (.signed d) _ => some d
  | .orderReceived _ d => some d
  | .onKilledAccount who => some who
  | _ => none

variable [DecidableEq A] [ReservableCurrency L A] [Codec A] [Codec P]

/-- What the runtime may enter the pallet with: one operation, or a batch of bytes. -/
inductive Entry (A P : Type) where
  | call (op : Op A P)
  | batch (items : List (ParaId × RelayBlockNumber × List UInt8)) (maxWeight : Weight)

/-- The storage an entry leaves, whatever it returns. -/
def Entry.exec (selfParaId : ParaId) (env : ServiceEnv A P) (s : State A P L) :
    Entry A P → State A P L
  | .call op => (op.call selfParaId env).exec s
  | .batch items maxWeight => (handleXcmpMessages selfParaId env items maxWeight s).1

/-- The message handed over about a remote order. -/
def told (selfParaId : ParaId) (env : Env) (o : OrderOf A P) (msg : XCMPMessageOf A P) :
    List Sent :=
  if o.paraid = selfParaId then []
  else
    let message := Xcm.transact (Codec.encode msg)
    [⟨o.paraid, message, env.sendXcm o.paraid message⟩]

/-- At most the ledger differs. -/
structure Untouched (s s' : State A P L) : Prop where
  orders : s'.orders = s.orders
  device : s'.device = s.device
  sent : s'.sent = s.sent
  events : s'.events = s.events

/-- At most the ledger and what is about one device differ. -/
structure Frame (s s' : State A P L) (x : A) : Prop where
  orders : ∀ d, d ≠ x → s'.orders.lookup d = s.orders.lookup d
  device : ∀ d, d ≠ x → s'.device.lookup d = s.device.lookup d
  sent : ∃ ms, s'.sent = s.sent ++ ms ∧ ∀ m ∈ ms, ∃ msg : XCMPMessageOf A P,
    m.message = Xcm.transact (Codec.encode msg) ∧ messageDevice msg = x
  events : ∃ evs, s'.events = s.events ++ evs ∧ ∀ e ∈ evs, e.device = x

/-- What an operation does to the device it acts on. -/
inductive Deed (selfParaId : ParaId) (env : ServiceEnv A P) (s s' : State A P L) (x : A) : Prop
  | none (h : Untouched s s')
  | stored (o : OrderOf A P) (dev : DeviceProfile) (state : DeviceState)
      (hr : Receives selfParaId env s o x dev state)
      (ho : s'.orders.lookup x = some o)
      (hd : s'.device.lookup x = some { dev with state := state })
      (hsent : s'.sent = s.sent ++ if state = .accepted then
        told selfParaId env.toEnv o (.orderAccept o.client x) else [])
      (hevents : s'.events = s.events ++ .newOrder x ::
        if state = .accepted then [.accept x] else [])
  | taken (o : OrderOf A P) (dev : DeviceProfile) (hs : s.Holds x o dev)
      (hbusy : dev.state = .busy)
      (hs' : s'.Holds x o { dev with state := .accepted })
      (hsent : s'.sent = s.sent ++ told selfParaId env.toEnv o (.orderAccept o.client x))
      (hevents : s'.events = s.events ++ [.accept x])
  | closed (o : OrderOf A P) (dev dev' : DeviceProfile) (v : Verdict) (onoff : Bool)
      (hs : s.Holds x o dev) (ho : x ∉ s'.orders) (hd : s'.device.lookup x = some dev')
      (hstate : dev' = dev ∨ dev' = settledProfile dev onoff)
      (hdone : v = .done → dev.state = .accepted)
      (hsent : s'.sent = s.sent ++ told selfParaId env.toEnv o (v.message o.client x onoff))
      (hevents : ∃ evs, s'.events = s.events ++ evs ∧ .newOrder x ∉ evs ∧ .accept x ∉ evs)
  | idle (hidle : ∀ o dev, s.Holds x o dev → dev.state ≠ .busy ∧ dev.state ≠ .accepted)
      (ho : s'.orders.lookup x = s.orders.lookup x)
      (hd : s'.device.lookup x = s.device.lookup x ∨ s'.device.lookup x = .none ∨
        ∃ dev, s'.device.lookup x = some dev ∧ (dev.state = .ready ∨ dev.state = .off))
      (hsent : s'.sent = s.sent)
      (hevents : ∃ evs, s'.events = s.events ++ evs ∧ .newOrder x ∉ evs ∧ .accept x ∉ evs)

variable {selfParaId : ParaId} {env : ServiceEnv A P} {s s' : State A P L} {d x : A}
  {o : OrderOf A P} {dev : DeviceProfile} {origin : Origin A} {onoff : Bool}

/-! ### Messages and events -/

section Sending

omit [DecidableEq A] [ReservableCurrency L A]

/-- What a notification adds to the messages. -/
theorem notified_sent (env : Env) (msg : XCMPMessageOf A P) :
    (notified selfParaId env o msg s).sent = s.sent ++ told selfParaId env o msg := by
  unfold notified told
  split_ifs
  · exact (List.append_nil _).symm
  · rfl

/-- A notification deposits no event. -/
theorem notified_events (env : Env) (msg : XCMPMessageOf A P) :
    (notified selfParaId env o msg s).events = s.events := by
  unfold notified
  split_ifs <;> rfl

/-- A notification is about the device of its message. -/
theorem told_about (env : Env) (msg : XCMPMessageOf A P) :
    ∀ m ∈ told selfParaId env o msg, ∃ msg' : XCMPMessageOf A P,
      m.message = Xcm.transact (Codec.encode msg') ∧ messageDevice msg' = messageDevice msg := by
  intro m hm
  unfold told at hm
  split_ifs at hm
  · exact absurd hm List.not_mem_nil
  · rw [List.mem_singleton.mp hm]
    exact ⟨msg, rfl, rfl⟩

omit [Codec A] [Codec P] in
/-- The message of a verdict is about the device. -/
theorem messageDevice_verdict (v : Verdict) (client : A) :
    messageDevice (v.message client d onoff : XCMPMessageOf A P) = d := by
  cases v <;> rfl

end Sending

omit [DecidableEq A] [ReservableCurrency L A] [Codec A] [Codec P] in
/-- The same storage is untouched. -/
theorem Untouched.refl (s : State A P L) : Untouched s s := ⟨rfl, rfl, rfl, rfl⟩

omit [DecidableEq A] [ReservableCurrency L A] [Codec A] [Codec P] in
/-- A refused call leaves the storage untouched. -/
theorem untouched_of_refused {f : Call (State A P L) Error Unit}
    (h : ∃ e, f.run s = (.error e, s)) : Untouched s (f.exec s) := by
  rw [Dispatch.exec_of_refused h]
  exact .refl s

/-! ### One operation -/

omit [ReservableCurrency L A] in
/-- An untouched storage is framed by every device. -/
theorem Untouched.frame (h : Untouched s s') : Frame s s' x where
  orders d _ := by rw [h.orders]
  device d _ := by rw [h.device]
  sent := ⟨[], by rw [h.sent, List.append_nil], fun m hm => absurd hm List.not_mem_nil⟩
  events := ⟨[], by rw [h.events, List.append_nil], fun e he => absurd he List.not_mem_nil⟩

/-- The outcome of an operation for the device it acts on. -/
structure Outcome (selfParaId : ParaId) (env : ServiceEnv A P) (s s' : State A P L) (x : A) :
    Prop where
  frame : Frame s s' x
  deed : Deed selfParaId env s s' x

/-- An untouched storage is an outcome for every device. -/
theorem Untouched.outcome (h : Untouched s s') : Outcome selfParaId env s s' x :=
  ⟨h.frame, .none h⟩

/-- A received order is stored, or leaves the maps alone. -/
theorem outcome_of_orderReceived :
    Outcome selfParaId env s ((orderReceived selfParaId env o x).exec s) x := by
  rcases orderReceived_exec selfParaId env s x o with
    hsame | ⟨dev, state, l, hr, ⟨hpenalty, -, -⟩ | ⟨hstored, -, -⟩⟩
  · rw [hsame]
    exact (Untouched.refl s).outcome
  · rw [hpenalty]
    exact Untouched.outcome ⟨rfl, rfl, rfl, rfl⟩
  · have hsent : (stored selfParaId env.toEnv s o x dev state l).sent =
        s.sent ++ if state = .accepted then
          told selfParaId env.toEnv o (.orderAccept o.client x) else [] := by
      unfold stored
      split_ifs
      · exact notified_sent env.toEnv _
      · exact (List.append_nil _).symm
    rw [hstored]
    constructor
    · refine ⟨fun d hd => Finmap.lookup_insert_of_ne _ hd,
        fun d hd => Finmap.lookup_insert_of_ne _ hd, ⟨_, hsent, fun m hm => ?_⟩,
        ⟨_, rfl, fun e he => ?_⟩⟩
      · split_ifs at hm
        · exact told_about env.toEnv _ m hm
        · exact absurd hm List.not_mem_nil
      · split_ifs at he
        · rcases List.mem_cons.mp he with rfl | he
          · rfl
          · rw [List.mem_singleton.mp he]
            rfl
        · rw [List.mem_singleton.mp he]
          rfl
    · exact .stored o dev state hr (Finmap.lookup_insert _) (Finmap.lookup_insert _) hsent rfl

/-- The order of a device is closed and its chain told. -/
theorem outcome_of_closed {dev' : DeviceProfile} {v : Verdict} {l : L} {e : Event A}
    (hs : s.Holds x o dev) (hstate : dev' = dev ∨ dev' = settledProfile dev onoff)
    (hdone : v = .done → dev.state = .accepted) (he : e = .reject x ∨ e = .done x) :
    Outcome selfParaId env s
      ((notified selfParaId env.toEnv o (v.message o.client x onoff) s).closed x dev' l e) x := by
  have hsent : ((notified selfParaId env.toEnv o (v.message o.client x onoff) s).closed x dev' l
      e).sent = s.sent ++ told selfParaId env.toEnv o (v.message o.client x onoff) :=
    notified_sent env.toEnv _
  have hevents : ((notified selfParaId env.toEnv o (v.message o.client x onoff) s).closed x dev' l
      e).events = s.events ++ [e] := congrArg (· ++ [e]) (notified_events env.toEnv _)
  constructor
  · refine ⟨fun d hd => ?_, fun d hd => ?_, ⟨_, hsent, fun m hm => ?_⟩,
      ⟨_, hevents, fun e' he' => ?_⟩⟩
    · rw [closed_orders, notified_orders, Finmap.lookup_erase_ne hd]
    · rw [closed_device, notified_device, Finmap.lookup_insert_of_ne _ hd]
    · obtain ⟨msg, hmsg, habout⟩ := told_about env.toEnv _ m hm
      exact ⟨msg, hmsg, habout.trans (messageDevice_verdict v o.client)⟩
    · rw [List.mem_singleton.mp he']
      rcases he with rfl | rfl <;> rfl
  · refine .closed o dev dev' v onoff hs (by simp) (by simp) hstate hdone hsent ⟨[e], hevents, ?_⟩
    rcases he with rfl | rfl <;> simp

/-- A rejection closes the order of its device, or only writes the profile. -/
theorem outcome_of_reject {f : Call (State A P L) Error Unit} {dev' : DeviceProfile}
    (hd : s.device.lookup x = some dev) (hstate : dev' = dev ∨ dev' = settledProfile dev onoff)
    (hf : f.run s = (orderReject selfParaId env (s.orders.lookup x) env.now x dev' onoff).run s) :
    Outcome selfParaId env s (f.exec s) x := by
  rw [Dispatch.exec, hf]
  cases ho : s.orders.lookup x with
  | none =>
    rw [orderReject_none_run]
    have herase : s.orders.erase x = s.orders :=
      Finmap.erase_of_notMem (Finmap.lookup_eq_none.mp ho)
    constructor
    · refine ⟨fun d _ => by rw [closed_orders, herase],
        fun d hne => by rw [closed_device, Finmap.lookup_insert_of_ne _ hne],
        ⟨[], (List.append_nil _).symm, fun m hm => absurd hm List.not_mem_nil⟩,
        ⟨_, rfl, fun e he => ?_⟩⟩
      rw [List.mem_singleton.mp he]
      rfl
    · refine .idle (fun o' dev' hs => ?_) (by rw [closed_orders, herase]) ?_ rfl
        ⟨_, rfl, by simp, by simp⟩
      · rw [hs.order] at ho
        cases ho
      · rw [closed_device, Finmap.lookup_insert]
        rcases hstate with rfl | rfl
        · exact .inl hd.symm
        · refine .inr (.inr ⟨_, rfl, ?_⟩)
          cases onoff
          · exact .inr rfl
          · exact .inl rfl
  | some o =>
    rw [orderReject_run]
    split
    · have hv : (.orderReject o.client x onoff : XCMPMessageOf A P) =
          Verdict.reject.message o.client x onoff := rfl
      rw [hv]
      exact outcome_of_closed ⟨ho, hd⟩ hstate (fun h => by cases h) (.inl rfl)
    · exact Untouched.outcome ⟨rfl, rfl, rfl, rfl⟩

/-- Writing the profile of a device that is not engaged. -/
theorem outcome_of_written {m : Finmap fun _ : A => DeviceProfile} {evs : List (Event A)}
    (hidle : ∀ o dev, s.Holds x o dev → dev.state ≠ .busy ∧ dev.state ≠ .accepted)
    (hothers : ∀ d, d ≠ x → m.lookup d = s.device.lookup d)
    (hx : m.lookup x = s.device.lookup x ∨ m.lookup x = none ∨
      ∃ dev, m.lookup x = some dev ∧ (dev.state = .ready ∨ dev.state = .off))
    (hevs : ∀ e ∈ evs, e = .newDevice x) :
    Outcome selfParaId env s { s with device := m, events := s.events ++ evs } x := by
  constructor
  · refine ⟨fun d _ => rfl, hothers,
      ⟨[], (List.append_nil _).symm, fun m hm => absurd hm List.not_mem_nil⟩,
      ⟨evs, rfl, fun e he => ?_⟩⟩
    rw [hevs e he]
    rfl
  · exact .idle hidle rfl hx rfl
      ⟨evs, rfl, fun he => (by cases hevs _ he), fun he => (by cases hevs _ he)⟩

/-- Every operation is an outcome for the device it acts on, or leaves all devices alone. -/
theorem outcome_of_call (selfParaId : ParaId) (env : ServiceEnv A P) (s : State A P L)
    (op : Op A P) :
    Untouched s ((op.call selfParaId env).exec s) ∨
      ∃ x, op.target = some x ∧ Outcome selfParaId env s ((op.call selfParaId env).exec s) x := by
  cases op with
  | order origin b =>
    change Untouched s ((order selfParaId env origin b).exec s) ∨ ∃ x, _ ∧
      Outcome selfParaId env s ((order selfParaId env origin b).exec s) x
    by_cases hwho : ∃ who, origin = .signed who
    · obtain ⟨who, rfl⟩ := hwho
      rw [order_signed]
      exact .inr ⟨b.device, rfl, outcome_of_orderReceived⟩
    · exact .inl (untouched_of_refused (order_unsigned (fun who heq => hwho ⟨who, heq⟩) b))
  | cancel origin x =>
    change Untouched s ((cancel selfParaId env origin x).exec s) ∨ _
    by_cases hc : ∃ o dev, Cancels env s origin x o dev
    · obtain ⟨o, dev, hc⟩ := hc
      exact .inr ⟨x, rfl, outcome_of_reject hc.holds.profile (.inl rfl) (cancel_reject_run hc)⟩
    · exact .inl (untouched_of_refused (cancel_refused hc))
  | accept origin reject onoff =>
    change Untouched s ((accept selfParaId env origin reject onoff).exec s) ∨ ∃ x, _ ∧
      Outcome selfParaId env s ((accept selfParaId env origin reject onoff).exec s) x
    cases reject with
    | false =>
      rcases accept_exec selfParaId env s origin onoff with hsame | ⟨d, o, dev, ht, htaken⟩
      · rw [hsame]
        exact .inl (.refl s)
      · obtain rfl := ht.signed
        refine .inr ⟨d, rfl, ?_⟩
        rw [htaken]
        have hsent : (taken selfParaId env.toEnv s o d dev).sent =
            s.sent ++ told selfParaId env.toEnv o (.orderAccept o.client d) :=
          notified_sent env.toEnv _
        constructor
        · exact ⟨fun y _ => by rw [taken_orders],
            fun y hy => by rw [taken_device, Finmap.lookup_insert_of_ne _ hy],
            ⟨_, hsent, told_about env.toEnv _⟩,
            ⟨[.accept d], rfl, fun e he => by rw [List.mem_singleton.mp he]; rfl⟩⟩
        · exact .taken o dev ht.holds ht.busy
            ⟨by rw [taken_orders, ht.holds.order], by rw [taken_device, Finmap.lookup_insert]⟩
            hsent rfl
    | true =>
      by_cases hr : ∃ d dev, Rejects s origin d dev
      · obtain ⟨d, dev, hr⟩ := hr
        obtain rfl := hr.signed
        exact .inr ⟨d, rfl,
          outcome_of_reject hr.profile (.inr rfl) (accept_reject_run hr onoff)⟩
      · exact .inl (untouched_of_refused (accept_reject_refused hr onoff))
  | done origin onoff =>
    change Untouched s ((done selfParaId env origin onoff).exec s) ∨ ∃ x, _ ∧
      Outcome selfParaId env s ((done selfParaId env origin onoff).exec s) x
    rcases done_exec selfParaId env s origin onoff with hsame | ⟨d, o, dev, l, hf, hdone⟩
    · rw [hsame]
      exact .inl (.refl s)
    · obtain rfl := hf.signed
      refine .inr ⟨d, rfl, ?_⟩
      rcases hdone with ⟨-, hclosed⟩ | ⟨hlocal, hdropped, -⟩
      · rw [hclosed]
        have hv : (.orderDone o.client d onoff : XCMPMessageOf A P) =
            Verdict.done.message o.client d onoff := rfl
        rw [hv]
        exact outcome_of_closed hf.holds (.inr rfl) (fun _ => hf.accepted) (.inr rfl)
      · -- the order is local, so nobody is told that it is gone
        rw [hdropped]
        constructor
        · exact ⟨fun y hy => Finmap.lookup_erase_ne hy,
            fun y hy => Finmap.lookup_insert_of_ne _ hy,
            ⟨[], (List.append_nil _).symm, fun m hm => absurd hm List.not_mem_nil⟩,
            ⟨[], (List.append_nil _).symm, fun e he => absurd he List.not_mem_nil⟩⟩
        · refine .closed o dev (settledProfile dev onoff) .done onoff hf.holds
            (by simp [dropped]) (Finmap.lookup_insert _) (.inr rfl) (fun _ => hf.accepted) ?_
            ⟨[], (List.append_nil _).symm, by simp, by simp⟩
          rw [told, if_pos hlocal]
          exact (List.append_nil _).symm
  | register origin penalty wcd onoff =>
    change Untouched s ((register origin penalty wcd onoff).exec s) ∨ ∃ x, _ ∧
      Outcome selfParaId env s ((register origin penalty wcd onoff).exec s) x
    rcases register_exec s origin penalty wcd onoff with hsame | ⟨id, rfl, hid, hwritten⟩
    · rw [hsame]
      exact .inl (.refl s)
    · refine .inr ⟨id, rfl, ?_⟩
      rw [hwritten]
      refine outcome_of_written
        (fun o dev hs => absurd (Finmap.mem_of_lookup_eq_some hs.order) hid)
        (fun y hy => Finmap.lookup_insert_of_ne _ hy)
        (.inr (.inr ⟨_, Finmap.lookup_insert _, ?_⟩)) (fun e he => List.mem_singleton.mp he)
      cases onoff
      · exact .inr rfl
      · exact .inl rfl
  | setState origin onoff =>
    change Untouched s ((setState origin onoff).exec s) ∨ ∃ x, _ ∧
      Outcome selfParaId env s ((setState origin onoff).exec s) x
    rcases setState_exec s origin onoff with hsame | ⟨d, dev, state, hsw, hset⟩
    · rw [hsame]
      exact .inl (.refl s)
    · obtain rfl := hsw.signed
      refine .inr ⟨d, rfl, ?_⟩
      have hnext := hsw.next
      have hstates : (dev.state ≠ .busy ∧ dev.state ≠ .accepted) ∧
          (state = .ready ∨ state = .off) := by
        revert hnext
        cases dev.state <;> cases onoff <;> simp +contextual [nextState, eq_comm]
      have hwritten : Outcome selfParaId env s { s with
          device := s.device.insert d { dev with state := state }
          events := s.events ++ [] } d := by
        refine outcome_of_written (fun o dev' hs => ?_)
          (fun y hy => Finmap.lookup_insert_of_ne _ hy)
          (.inr (.inr ⟨_, Finmap.lookup_insert _, hstates.2⟩))
          (fun e he => absurd he List.not_mem_nil)
        obtain rfl := Option.some.inj (hsw.profile.symm.trans hs.profile)
        exact hstates.1
      rw [hset]
      rw [List.append_nil] at hwritten
      exact hwritten
  | orderReceived o x => exact .inr ⟨x, rfl, outcome_of_orderReceived⟩
  | onKilledAccount who =>
    change Untouched s ((onKilledAccount who).exec s) ∨ ∃ x, _ ∧
      Outcome selfParaId env s ((onKilledAccount who).exec s) x
    obtain ⟨m, hrun, hm⟩ := onKilledAccount_run s who
    rw [Dispatch.exec, hrun]
    by_cases hoff : ∃ dev, s.device.lookup who = some dev ∧ dev.state = .off
    · obtain ⟨dev, hd, hoff⟩ := hoff
      have hwho : m.lookup who = none := by
        rw [hm, if_pos rfl, hd, Option.bind_some, if_pos hoff]
      have hwritten : Outcome selfParaId env s { s with
          device := m, events := s.events ++ [] } who := by
        refine outcome_of_written (fun o dev' hs => ?_)
          (fun y hy => (hm y).trans (if_neg hy)) (.inr (.inl hwho))
          (fun e he => absurd he List.not_mem_nil)
        obtain rfl := Option.some.inj (hd.symm.trans hs.profile)
        simp [hoff]
      rw [List.append_nil] at hwritten
      exact .inr ⟨who, rfl, hwritten⟩
    · -- any other profile is written back as it is
      have hsame : m = s.device := by
        refine Finmap.ext_lookup fun y => ?_
        rw [hm]
        split_ifs with hy
        · subst hy
          cases hd : s.device.lookup y with
          | none => rfl
          | some dev =>
            have hstate : dev.state ≠ .off := fun h => hoff ⟨dev, hd, h⟩
            simp [hstate]
        · rfl
      rw [hsame]
      exact .inl (.refl s)

/-! ### Batches -/

variable (selfParaId env) in
/-- What every received order keeps, a batch keeps. -/
theorem handleXcmpMessages_induction {R : State A P L → State A P L → Prop}
    (hrefl : ∀ s, R s s) (htrans : ∀ {s t u}, R s t → R t u → R s u)
    (items : List (ParaId × RelayBlockNumber × List UInt8)) (maxWeight : Weight)
    (hreceived : ∀ item ∈ items, ∀ s client b,
      R s ((orderReceived selfParaId env (receivedOrder b item.1 client) b.device).exec s))
    (s : State A P L) : R s (handleXcmpMessages selfParaId env items maxWeight s).1 := by
  induction items generalizing s with
  | nil => exact hrefl s
  | cons item iter ih =>
    obtain ⟨sender, sentAt, data⟩ := item
    have hrest := ih fun item hitem => hreceived item (List.mem_cons_of_mem _ hitem)
    have hhead := hreceived _ List.mem_cons_self s
    unfold handleXcmpMessages
    split
    · exact htrans (hhead _ _) (hrest _)
    · exact hrefl s
    · exact hrefl s

end XcmAutoBank.Service
