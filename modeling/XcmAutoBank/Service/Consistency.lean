import XcmAutoBank.Service.Entry

/-!
# Orders and profiles on the service chain

A device with a stored order has a profile, busy or accepted, and it is accepted exactly when
`orderAccept` has run for that order.  The events tell: every order that is stored deposits
`newOrder`, and `orderAccept` is the only code that deposits `accept`.  The invariant is kept by
every entry, whatever it returns (`consistent_of_exec`).
-/

namespace XcmAutoBank.Service

open ReservableCurrency Storage

variable {A P L : Type}

/-- A profile whose state tells whether `orderAccept` has run since the last order of the device was
stored. -/
structure Tells (s : State A P L) (d : A) (dev : DeviceProfile) : Prop where
  engaged : dev.state = .busy ∨ dev.state = .accepted
  accepted : ∃ past since, s.events = past ++ .newOrder d :: since ∧ .newOrder d ∉ since ∧
    (dev.state = .accepted ↔ .accept d ∈ since)

/-- The order and the profile of a device fit together. -/
structure ConsistentAt [DecidableEq A] (s : State A P L) (d : A) : Prop where
  tells : ∀ o, s.orders.lookup d = some o → ∃ dev, s.device.lookup d = some dev ∧ Tells s d dev
  waiting : ∀ dev, s.device.lookup d = some dev → dev.state ≠ .timewait

/-- Orders and profiles fit together. -/
def Consistent [DecidableEq A] (s : State A P L) : Prop := ∀ d, ConsistentAt s d

/-- A step of the runtime: one entry, whatever it returns, with devices that answer as they
should. -/
def EntryStep [DecidableEq A] [ReservableCurrency L A] [Codec A] [Codec P] (selfParaId : ParaId)
    (s s' : State A P L) : Prop :=
  ∃ (env : ServiceEnv A P) (entry : Entry A P), env.Answers ∧ s' = entry.exec selfParaId env s

variable {s s' : State A P L} {d x : A} {o : OrderOf A P} {dev : DeviceProfile}

/-! ### One device -/

/-- Events that do not store or accept an order of the device keep what its profile tells. -/
theorem Tells.append (h : Tells s d dev) {evs : List (Event A)}
    (hevents : s'.events = s.events ++ evs) (hnew : .newOrder d ∉ evs)
    (haccept : .accept d ∉ evs) : Tells s' d dev := by
  obtain ⟨past, since, hpast, hlast, haccepted⟩ := h.accepted
  refine ⟨h.engaged, past, since ++ evs, by rw [hevents, hpast]; simp, ?_, ?_⟩
  · rw [List.mem_append, not_or]
    exact ⟨hlast, hnew⟩
  · rw [haccepted, List.mem_append]
    exact ⟨.inl, fun hmem => hmem.resolve_right haccept⟩

/-- An accepted order is told. -/
theorem Tells.accept (h : Tells s d dev) (hevents : s'.events = s.events ++ [.accept d]) :
    Tells s' d { dev with state := .accepted } := by
  obtain ⟨past, since, hpast, hlast, -⟩ := h.accepted
  refine ⟨.inr rfl, past, since ++ [.accept d], by rw [hevents, hpast]; simp, ?_, ?_⟩
  · simp [hlast]
  · simp

/-- A new order is told. -/
theorem tells_of_stored {state : DeviceState} (hstate : state = .busy ∨ state = .accepted)
    (hevents : s'.events = s.events ++ .newOrder d ::
      if state = .accepted then [.accept d] else []) :
    Tells s' d { dev with state := state } := by
  refine ⟨hstate, s.events, _, hevents, ?_, ?_⟩
  · split_ifs <;> simp
  · split_ifs with h <;> simp [h]

variable [DecidableEq A]

/-- A device without an order needs a profile that does not wait. -/
theorem consistentAt_of_notMem (ho : d ∉ s.orders)
    (hw : ∀ dev, s.device.lookup d = some dev → dev.state ≠ .timewait) : ConsistentAt s d := by
  refine ⟨fun o hlookup => ?_, hw⟩
  exact absurd (Finmap.mem_of_lookup_eq_some hlookup) ho

/-- Events elsewhere keep the device consistent. -/
theorem ConsistentAt.append (h : ConsistentAt s d) {evs : List (Event A)}
    (ho : s'.orders.lookup d = s.orders.lookup d)
    (hd : s'.device.lookup d = s.device.lookup d)
    (hevents : s'.events = s.events ++ evs) (hnew : .newOrder d ∉ evs)
    (haccept : .accept d ∉ evs) : ConsistentAt s' d := by
  constructor
  · intro o hlookup
    rw [ho] at hlookup
    obtain ⟨dev, hdev, htells⟩ := h.tells o hlookup
    exact ⟨dev, hd.trans hdev, htells.append hevents hnew haccept⟩
  · rw [hd]
    exact h.waiting

section Steps

variable [ReservableCurrency L A] [Codec A] [Codec P] {selfParaId : ParaId}
  {env : ServiceEnv A P}

/-- Whatever an operation does to the device it acts on, the device stays consistent. -/
theorem Deed.consistentAt (h : Deed selfParaId env s s' x) (hs : ConsistentAt s x)
    (ha : env.Answers) : ConsistentAt s' x := by
  cases h with
  | none h =>
    have hevents : s'.events = s.events ++ [] := by rw [h.events, List.append_nil]
    exact hs.append (by rw [h.orders]) (by rw [h.device]) hevents List.not_mem_nil
      List.not_mem_nil
  | stored o dev state hr ho hd _ hevents =>
    have hstate : state = .busy ∨ state = .accepted := ha x o state hr.answer
    constructor
    · exact fun _ _ => ⟨_, hd, tells_of_stored hstate hevents⟩
    · intro dev' hdev'
      obtain rfl := Option.some.inj (hd.symm.trans hdev')
      rcases hstate with rfl | rfl <;> simp
  | taken o dev hholds _ hs' _ hevents =>
    constructor
    · intro o' _
      obtain ⟨dev', hdev', htells⟩ := hs.tells o hholds.order
      obtain rfl := Option.some.inj (hholds.profile.symm.trans hdev')
      exact ⟨_, hs'.profile, htells.accept hevents⟩
    · intro dev' hdev'
      obtain rfl := Option.some.inj (hs'.profile.symm.trans hdev')
      simp
  | closed o dev dev' v onoff hholds ho hd hstate _ _ _ =>
    refine consistentAt_of_notMem ho fun dev'' hdev'' => ?_
    obtain rfl := Option.some.inj (hd.symm.trans hdev'')
    rcases hstate with rfl | rfl
    · exact hs.waiting _ hholds.profile
    · cases onoff <;> simp [settledProfile]
  | idle hidle ho hd _ hevents =>
    have hfresh : x ∉ s'.orders := by
      rw [← Finmap.lookup_eq_none, ho]
      by_contra hne
      obtain ⟨o, hlookup⟩ := Option.ne_none_iff_exists'.mp hne
      obtain ⟨dev, hdev, htells⟩ := hs.tells o hlookup
      obtain ⟨hbusy, haccepted⟩ := hidle o dev ⟨hlookup, hdev⟩
      exact htells.engaged.elim hbusy haccepted
    refine consistentAt_of_notMem hfresh fun dev hdev => ?_
    rcases hd with hd | hd | ⟨dev', hd, hstate⟩
    · exact hs.waiting dev (hd.symm.trans hdev)
    · rw [hd] at hdev
      cases hdev
    · obtain rfl := Option.some.inj (hd.symm.trans hdev)
      rcases hstate with hstate | hstate <;> simp [hstate]

/-- An operation keeps every device consistent. -/
theorem consistent_of_call (op : Op A P) (hs : Consistent s) (ha : env.Answers) :
    Consistent ((op.call selfParaId env).exec s) := by
  intro d
  rcases outcome_of_call selfParaId env s op with h | ⟨x, -, h⟩
  · exact (Deed.none h : Deed selfParaId env _ _ d).consistentAt (hs d) ha
  · by_cases hd : d = x
    · subst hd
      exact h.deed.consistentAt (hs d) ha
    · obtain ⟨evs, hevents, habout⟩ := h.frame.events
      have helsewhere (e : Event A) (he : e.device = d) : e ∉ evs := fun hmem =>
        hd (he.symm.trans (habout e hmem))
      exact (hs d).append (h.frame.orders d hd) (h.frame.device d hd) hevents
        (helsewhere _ rfl) (helsewhere _ rfl)

/-- An entry keeps every device consistent. -/
theorem consistent_of_exec (entry : Entry A P) (hs : Consistent s) (ha : env.Answers) :
    Consistent (entry.exec selfParaId env s) := by
  cases entry with
  | call op => exact consistent_of_call op hs ha
  | batch items maxWeight =>
    have hbatch := handleXcmpMessages_induction selfParaId env
      (R := fun s s' : State A P L => Consistent s → Consistent s') (fun _ h => h)
      (fun h h' hs => h' (h hs)) items maxWeight fun item _ s client b hs =>
        consistent_of_call (.orderReceived (receivedOrder b item.1 client) b.device) hs ha
    exact hbatch s hs

/-- After any entries from an empty storage orders and profiles fit together, and a device that is
on or off, or has no profile, has no order. -/
theorem consistent_of_run {ledger : L}
    (hrun : Relation.ReflTransGen (EntryStep selfParaId) (Storage.init ledger) s) :
    Consistent s ∧ ∀ d, (∀ dev, s.device.lookup d = some dev →
      dev.state = .ready ∨ dev.state = .off) → d ∉ s.orders := by
  have hs : Consistent s := by
    induction hrun with
    | refl =>
      intro d
      exact consistentAt_of_notMem Finmap.notMem_empty fun dev hdev =>
        absurd hdev (init_device_ne ledger d dev)
    | tail _ hstep ih =>
      obtain ⟨env, entry, ha, rfl⟩ := hstep
      exact consistent_of_exec entry ih ha
  refine ⟨hs, fun d hidle hmem => ?_⟩
  obtain ⟨o, ho⟩ := Finmap.mem_iff.mp hmem
  obtain ⟨dev, hdev, htells⟩ := (hs d).tells o ho
  rcases hidle dev hdev with hstate | hstate <;> rcases htells.engaged with h | h <;>
    rw [hstate] at h <;> cases h

end Steps

/-- Chain 2000 gets the order of client 1 of chain 2001 on device 2 in a batch, ahead of bytes that
are no message. -/
def batchedOrder : State UInt64 UInt64 (Balances UInt64) :=
  Entry.exec 2000 (ServiceEnv.online 0 .busy)
    (Dispatch.exec (register (.signed 2) 30 20 true) (Storage.init (Balances.uniform 50)))
    (.batch [(2001, 0, Codec.encode (.newOrder 1 ⟨100, 7, 40, 2⟩ : XCMPMessageOf UInt64 UInt64)),
      (2001, 0, [9])] 0)

/-- Example: the order is stored. -/
example : batchedOrder.orders.lookup 2 = some ⟨100, 7, 40, 1, 2001⟩ := by decide

/-- The order of the batch fits its device. -/
theorem consistent_of_run_batch :
    Consistent batchedOrder ∧ ∀ d, (∀ dev, batchedOrder.device.lookup d = some dev →
      dev.state = .ready ∨ dev.state = .off) → d ∉ batchedOrder.orders := by
  have ha : (ServiceEnv.online 0 .busy : ServiceEnv UInt64 UInt64).Answers :=
    ServiceEnv.answers_online (.inl rfl)
  let registered : State UInt64 UInt64 (Balances UInt64) :=
    Dispatch.exec (register (.signed 2) 30 20 true) (Storage.init (Balances.uniform 50))
  have hregister : EntryStep 2000 (Storage.init (Balances.uniform 50)) registered :=
    ⟨ServiceEnv.online 0 .busy, .call (.register (.signed 2) 30 20 true), ha, rfl⟩
  have hbatch : EntryStep 2000 registered batchedOrder :=
    ⟨ServiceEnv.online 0 .busy, _, ha, rfl⟩
  exact consistent_of_run ((Relation.ReflTransGen.single hregister).tail hbatch)

end XcmAutoBank.Service
