import XcmAutoBank.Service.Entry
import XcmAutoBank.Foundation.History

/-!
# What the service chain replies to an order

The account of an order is what the operations on its device hand to the transport, from the
operation that stores the order on.  A local order has an empty account.  The account of a remote
order starts with an acceptance at most, ends with a rejection or a done message exactly when the
order has left the storage, and names its client and device on the chain it came from
(`replies_of_run`).
-/

namespace XcmAutoBank.Service

open ReservableCurrency Storage History

variable {A P L : Type} [DecidableEq A] [ReservableCurrency L A] [Codec A] [Codec P]

/-- The reply that an order is accepted. -/
def accepting (d : A) (o : OrderOf A P) : ParaId × Xcm :=
  (o.paraid, Xcm.transact (Codec.encode (.orderAccept o.client d : XCMPMessageOf A P)))

/-- The reply that closes an order. -/
def settling (v : Verdict) (onoff : Bool) (d : A) (o : OrderOf A P) : ParaId × Xcm :=
  (o.paraid, Xcm.transact (Codec.encode (v.message o.client d onoff : XCMPMessageOf A P)))

/-- The replies to an order while it is stored. -/
def OpenReplies (d : A) (o : OrderOf A P) (rs : List (ParaId × Xcm)) : Prop :=
  rs = [] ∨ rs = [accepting d o]

/-- The replies to an order that has left the storage. -/
def ClosedReplies (d : A) (o : OrderOf A P) (rs : List (ParaId × Xcm)) : Prop :=
  ∃ onoff, rs = [settling .reject onoff d o] ∨
    rs = [accepting d o, settling .reject onoff d o] ∨
    rs = [accepting d o, settling .done onoff d o]

/-- The storage after one operation in its environment. -/
def operate (selfParaId : ParaId) (s : State A P L) (e : ServiceEnv A P × Op A P) : State A P L :=
  (e.2.call selfParaId e.1).exec s

/-- What an operation hands to the transport. -/
def handed (selfParaId : ParaId) (s : State A P L) (e : ServiceEnv A P × Op A P) :
    List (ParaId × Xcm) :=
  ((operate selfParaId s e).sent.drop s.sent.length).map fun m => (m.dest, m.message)

/-- What an operation on the device hands to the transport. -/
def account (selfParaId : ParaId) (d : A) (s : State A P L) (e : ServiceEnv A P × Op A P) :
    List (ParaId × Xcm) :=
  if e.2.target = some d then handed selfParaId s e else []

/-- An operation stores an order on the device. -/
def Stores (selfParaId : ParaId) (d : A) (o : OrderOf A P) (s : State A P L)
    (e : ServiceEnv A P × Op A P) : Prop :=
  d ∉ s.orders ∧ (operate selfParaId s e).orders.lookup d = some o

/-- An operation with devices that answer as they should, which stores no other order on the
device. -/
def Continues (selfParaId : ParaId) (d : A) (s : State A P L) (e : ServiceEnv A P × Op A P) :
    Prop :=
  e.1.Answers ∧ ∀ o, ¬Stores selfParaId d o s e

/-- The account of an order, empty for a local one. -/
def remotely (selfParaId : ParaId) (o : OrderOf A P) (rs : List (ParaId × Xcm)) :
    List (ParaId × Xcm) :=
  if o.paraid = selfParaId then [] else rs

/-- How far an order has come, and what was replied to it. -/
inductive Progress (selfParaId : ParaId) (d : A) (o : OrderOf A P) :
    List (ParaId × Xcm) → State A P L → Prop
  | busy {s : State A P L} (dev : DeviceProfile) (hs : s.Holds d o dev)
      (hstate : dev.state = .busy) : Progress selfParaId d o [] s
  | accepted {s : State A P L} (dev : DeviceProfile) (hs : s.Holds d o dev)
      (hstate : dev.state = .accepted) :
      Progress selfParaId d o (remotely selfParaId o [accepting d o]) s
  | closed {s : State A P L} (rs : List (ParaId × Xcm)) (hd : d ∉ s.orders)
      (hrs : ClosedReplies d o rs) : Progress selfParaId d o (remotely selfParaId o rs) s

variable {selfParaId : ParaId} {env : ServiceEnv A P} {s s' : State A P L} {d : A}
  {o : OrderOf A P} {e : ServiceEnv A P × Op A P} {rs : List (ParaId × Xcm)}

/-! ### The account -/

omit [DecidableEq A] [ReservableCurrency L A] in
/-- A notification of a remote order is one reply. -/
theorem map_told (env : Env) (msg : XCMPMessageOf A P) :
    ((told selfParaId env o msg).map fun m => (m.dest, m.message)) =
      remotely selfParaId o [(o.paraid, Xcm.transact (Codec.encode msg))] := by
  unfold told remotely
  split_ifs <;> rfl

omit [DecidableEq A] [Codec A] [Codec P] in
/-- Replies are added to the account of a remote order only. -/
theorem remotely_append (rs rs' : List (ParaId × Xcm)) :
    remotely selfParaId o rs ++ remotely selfParaId o rs' = remotely selfParaId o (rs ++ rs') := by
  unfold remotely
  split_ifs
  · rfl
  · rfl

/-- What an operation hands over is what it adds to the messages. -/
theorem handed_of_sent {ms : List Sent} (h : (operate selfParaId s e).sent = s.sent ++ ms) :
    handed selfParaId s e = ms.map fun m => (m.dest, m.message) := by
  rw [handed, h, List.drop_left]

/-- An operation that sends nothing adds nothing to an account. -/
theorem account_of_quiet (h : (operate selfParaId s e).sent = s.sent) :
    account selfParaId d s e = [] := by
  have hnil : (operate selfParaId s e).sent = s.sent ++ [] := by rw [h, List.append_nil]
  rw [account, handed_of_sent hnil]
  split_ifs <;> rfl

/-! ### One operation -/

omit [ReservableCurrency L A] in
/-- A storage with the same order and profile is as far. -/
theorem Progress.congr (h : Progress selfParaId d o rs s)
    (ho : s'.orders.lookup d = s.orders.lookup d)
    (hd : s'.device.lookup d = s.device.lookup d) : Progress selfParaId d o rs s' := by
  cases h with
  | busy dev hs hstate => exact .busy dev ⟨ho.trans hs.order, hd.trans hs.profile⟩ hstate
  | accepted dev hs hstate => exact .accepted dev ⟨ho.trans hs.order, hd.trans hs.profile⟩ hstate
  | closed rs hgone hrs =>
    refine .closed rs ?_ hrs
    rw [← Finmap.lookup_eq_none] at hgone ⊢
    rw [ho, hgone]

/-- An operation that stores an order starts its account. -/
theorem progress_of_stores (h : Stores selfParaId d o s e) (ha : e.1.Answers) :
    Progress selfParaId d o (account selfParaId d s e) (operate selfParaId s e) := by
  obtain ⟨hfresh, hlookup⟩ := h
  have hnone : s.orders.lookup d = none := Finmap.lookup_eq_none.mpr hfresh
  have hchanged : (operate selfParaId s e).orders.lookup d ≠ s.orders.lookup d := by
    rw [hlookup, hnone]
    exact Option.some_ne_none o
  rcases outcome_of_call selfParaId e.1 s e.2 with h | ⟨x, htarget, h⟩
  · exact absurd (by rw [operate, h.orders]) hchanged
  · obtain rfl : d = x := by
      by_contra hne
      exact hchanged (h.frame.orders d hne)
    cases h.deed with
    | none h => exact absurd (by rw [operate, h.orders]) hchanged
    | taken o' dev hs _ _ _ _ =>
      rw [hs.order] at hnone
      cases hnone
    | closed o' dev _ _ _ hs _ _ _ _ _ _ =>
      rw [hs.order] at hnone
      cases hnone
    | idle _ ho _ _ _ => exact absurd ho hchanged
    | stored o' dev state hr ho hd hsent _ =>
      obtain rfl := Option.some.inj (hlookup.symm.trans ho)
      have hsent' : (operate selfParaId s e).sent = _ := hsent
      rw [account, if_pos htarget, handed_of_sent hsent']
      rcases ha d o state hr.answer with rfl | rfl
      · exact .busy _ ⟨ho, hd⟩ rfl
      · rw [if_pos rfl, map_told]
        exact .accepted _ ⟨ho, hd⟩ rfl

omit [ReservableCurrency L A] in
/-- An operation that closes the order ends its account. -/
theorem Progress.close (h : Progress selfParaId d o rs s) {dev : DeviceProfile} {v : Verdict}
    {onoff : Bool} (hs : s.Holds d o dev) (hgone : d ∉ s'.orders)
    (hdone : v = .done → dev.state = .accepted) :
    Progress selfParaId d o (rs ++ remotely selfParaId o [settling v onoff d o]) s' := by
  cases h with
  | busy dev' hs' hstate =>
    obtain ⟨-, rfl⟩ := hs.unique hs'
    have hv : v = .reject := by
      cases v with
      | reject => rfl
      | done =>
        rw [hdone rfl] at hstate
        cases hstate
    rw [hv]
    exact .closed _ hgone ⟨onoff, .inl rfl⟩
  | accepted dev' _ _ =>
    rw [remotely_append]
    refine .closed _ hgone ⟨onoff, ?_⟩
    cases v with
    | reject => exact .inr (.inl rfl)
    | done => exact .inr (.inr rfl)
  | closed rs hnone _ => exact absurd (Finmap.mem_of_lookup_eq_some hs.order) hnone

/-- An operation that stores no other order continues the account. -/
theorem Progress.step (h : Progress selfParaId d o rs s) (he : Continues selfParaId d s e) :
    Progress selfParaId d o (rs ++ account selfParaId d s e) (operate selfParaId s e) := by
  have quiet (hsent : (operate selfParaId s e).sent = s.sent)
      (ho : (operate selfParaId s e).orders.lookup d = s.orders.lookup d)
      (hd : (operate selfParaId s e).device.lookup d = s.device.lookup d) :
      Progress selfParaId d o (rs ++ account selfParaId d s e) (operate selfParaId s e) := by
    rw [account_of_quiet hsent, List.append_nil]
    exact h.congr ho hd
  rcases outcome_of_call selfParaId e.1 s e.2 with hu | ⟨x, htarget, hx⟩
  · exact quiet hu.sent (by rw [operate, hu.orders]) (by rw [operate, hu.device])
  · by_cases hd : d = x
    · subst hd
      cases hx.deed with
      | none hu => exact quiet hu.sent (by rw [operate, hu.orders]) (by rw [operate, hu.device])
      | stored o' dev state hr ho _ _ _ => exact absurd ⟨hr.fresh, ho⟩ (he.2 o')
      | taken o' dev hs hbusy hs' hsent _ =>
        have hsent' : (operate selfParaId s e).sent = _ := hsent
        rw [account, if_pos htarget, handed_of_sent hsent', map_told]
        cases h with
        | busy dev' hholds _ =>
          obtain ⟨rfl, -⟩ := hholds.unique hs
          exact .accepted _ hs' rfl
        | accepted dev' hholds hstate =>
          obtain ⟨-, rfl⟩ := hholds.unique hs
          rw [hbusy] at hstate
          cases hstate
        | closed rs hnone _ => exact absurd (Finmap.mem_of_lookup_eq_some hs.order) hnone
      | closed o' dev dev' v onoff hs hgone _ _ hdone hsent _ =>
        have hsent' : (operate selfParaId s e).sent = _ := hsent
        rw [account, if_pos htarget, handed_of_sent hsent', map_told]
        obtain rfl : o' = o := by
          cases h with
          | busy _ hholds _ => exact (hholds.unique hs).1
          | accepted _ hholds _ => exact (hholds.unique hs).1
          | closed _ hnone _ => exact absurd (Finmap.mem_of_lookup_eq_some hs.order) hnone
        exact h.close hs hgone hdone
      | idle hidle ho _ hsent _ =>
        rw [account_of_quiet hsent, List.append_nil]
        cases h with
        | busy dev hs hstate => exact absurd hstate (hidle o dev hs).1
        | accepted dev hs hstate => exact absurd hstate (hidle o dev hs).2
        | closed rs hnone hrs =>
          refine .closed rs ?_ hrs
          rw [← Finmap.lookup_eq_none] at hnone ⊢
          exact ho.trans hnone
    · have hother : e.2.target ≠ some d := by
        rw [htarget]
        exact fun heq => hd (Option.some.inj heq).symm
      rw [account, if_neg hother, List.append_nil]
      exact h.congr (hx.frame.orders d hd) (hx.frame.device d hd)

/-! ### Runs -/

omit [ReservableCurrency L A] in
/-- What was replied to an order tells how far it has come. -/
theorem Progress.replies (h : Progress selfParaId d o rs s) :
    (o.paraid = selfParaId → rs = []) ∧
    (o.paraid ≠ selfParaId → s.orders.lookup d = some o ∧ OpenReplies d o rs ∨
      d ∉ s.orders ∧ ClosedReplies d o rs) := by
  cases h with
  | busy dev hs _ => exact ⟨fun _ => rfl, fun _ => .inl ⟨hs.order, .inl rfl⟩⟩
  | accepted dev hs _ =>
    exact ⟨fun hlocal => if_pos hlocal, fun hremote => .inl ⟨hs.order, .inr (if_neg hremote)⟩⟩
  | closed rs hd hrs =>
    refine ⟨fun hlocal => if_pos hlocal, fun hremote => .inr ⟨hd, ?_⟩⟩
    rw [remotely, if_neg hremote]
    exact hrs

/-- An operation says nothing about a device it does not act on. -/
theorem handed_elsewhere (h : e.2.target ≠ some d) :
    ∀ m ∈ handed selfParaId s e, ∃ msg : XCMPMessageOf A P,
      m.2 = Xcm.transact (Codec.encode msg) ∧ messageDevice msg ≠ d := by
  rcases outcome_of_call selfParaId e.1 s e.2 with hu | ⟨x, htarget, hx⟩
  · have hnil : (operate selfParaId s e).sent = s.sent ++ [] := by
      rw [List.append_nil]
      exact hu.sent
    rw [handed_of_sent hnil]
    exact fun m hm => absurd hm List.not_mem_nil
  · obtain ⟨ms, hsent, habout⟩ := hx.frame.sent
    have hsent' : (operate selfParaId s e).sent = s.sent ++ ms := hsent
    rw [handed_of_sent hsent']
    intro m hm
    obtain ⟨m', hm', rfl⟩ := List.mem_map.mp hm
    obtain ⟨msg, hmsg, hdevice⟩ := habout m' hm'
    refine ⟨msg, hmsg, fun heq => h ?_⟩
    rw [htarget, ← hdevice, heq]

/-- Whatever the run, from the operation that stores an order to the one that stores the next order
on its device: a local order is never replied to; a remote order is replied to with nothing or one
acceptance while it is stored, and then with one rejection, or one done message after an
acceptance; and the operations on other devices do not speak of the device. -/
theorem replies_of_run {es : List (ServiceEnv A P × Op A P)} (hstore : Stores selfParaId d o s e)
    (ha : e.1.Answers)
    (hes : Along (operate selfParaId) (Continues selfParaId d) (operate selfParaId s e) es) :
    let replies := collect (operate selfParaId) (account selfParaId d) s (e :: es)
    let t := after (operate selfParaId) s (e :: es)
    (o.paraid = selfParaId → replies = []) ∧
    (o.paraid ≠ selfParaId →
      t.orders.lookup d = some o ∧ OpenReplies d o replies ∨
        d ∉ t.orders ∧ ClosedReplies d o replies) ∧
    ∀ (t' : State A P L) e', e'.2.target ≠ some d → ∀ m ∈ handed selfParaId t' e',
      ∃ msg : XCMPMessageOf A P, m.2 = Xcm.transact (Codec.encode msg) ∧ messageDevice msg ≠ d := by
  have hprogress : Progress selfParaId d o
      (collect (operate selfParaId) (account selfParaId d) s (e :: es))
      (after (operate selfParaId) s (e :: es)) :=
    hes.collected (progress_of_stores hstore ha) fun t e' rs he h => h.step he
  exact ⟨hprogress.replies.1, hprogress.replies.2, fun t' e' => handed_elsewhere⟩

/-- Device 2 is registered on chain 2000. -/
def registeredDevice : State UInt64 UInt64 (Balances UInt64) :=
  Dispatch.exec (register (.signed 2) 30 20 true) (Storage.init (Balances.uniform 50))

/-- Client 1 of chain 2001 orders device 2. -/
def remotePlacing : ServiceEnv UInt64 UInt64 × Op UInt64 UInt64 :=
  (ServiceEnv.online 0 .busy, .newOrder 2001 1 ⟨100, 7, 40, 2⟩)

/-- The device accepts the order and finishes it. -/
def remoteWork : List (ServiceEnv UInt64 UInt64 × Op UInt64 UInt64) :=
  [(ServiceEnv.online 10 .busy, .accept (.signed 2) false true),
    (ServiceEnv.online 50 .busy, .done (.signed 2) true)]

/-- The remote order is answered by an acceptance and a done message. -/
theorem replies_of_run_done :
    2 ∉ (after (operate 2000) registeredDevice (remotePlacing :: remoteWork)).orders ∧
      ClosedReplies 2 (⟨100, 7, 40, 1, 2001⟩ : OrderOf UInt64 UInt64)
        (collect (operate 2000) (account 2000 2) registeredDevice
          (remotePlacing :: remoteWork)) := by
  have hstore : Stores 2000 2 ⟨100, 7, 40, 1, 2001⟩ registeredDevice remotePlacing :=
    ⟨by decide, by decide⟩
  have ha (now : Moment) : (ServiceEnv.online now .busy : ServiceEnv UInt64 UInt64).Answers :=
    ServiceEnv.answers_online (.inl rfl)
  have hwork : Along (operate 2000) (Continues 2000 2) (operate 2000 registeredDevice remotePlacing)
      remoteWork := by
    refine ⟨⟨ha 10, fun o h => ?_⟩, ⟨ha 50, fun o h => ?_⟩, trivial⟩
    · exact absurd (by decide) h.1
    · exact absurd (by decide) h.1
  have hreplies := (replies_of_run hstore (ha 0) hwork).2.1 (by decide)
  exact hreplies.resolve_left fun h => absurd h.1 (by decide)

end XcmAutoBank.Service
