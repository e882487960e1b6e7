import XcmAutoBank.Xchange.Handler
import XcmAutoBank.Foundation.History

/-!
# What one entry point does to one device

The runtime enters the client pallet through its dispatchables, through the reaping hook and with
batches of bytes from the sibling chains.  Whatever the entry point returns, the order and the
profile of a device meet one of four fates (`fate_of_exec`): they are kept, the order is placed on
a ready device, the account is reaped, or the device is left without an order.
-/

namespace XcmAutoBank.Xchange

open ReservableCurrency Storage

variable {A P L : Type} [DecidableEq A] [ReservableCurrency L A] [Codec A] [Codec P]

/-- What the runtime may enter the pallet with: one operation, or a batch of bytes. -/
inductive Entry (A P : Type) where
  | call (op : Op A P)
  | batch (items : Batch) (maxWeight : Weight)

/-- The storage an entry leaves, whatever it returns. -/
def Entry.exec (env : Env) (s : State A P L) : Entry A P → State A P L
  | .call op => (op.call env).exec s
  | .batch items maxWeight => (handleXcmpMessages env items maxWeight s).1

/-- The order and the profile of a device are kept, or the device is left without an order and with
its profile as it was or switched on or off. -/
inductive Cleared (s s' : State A P L) (d : A) : Prop
  | kept (ho : s'.orders.lookup d = s.orders.lookup d)
      (hd : s'.device.lookup d = s.device.lookup d)
  | freed (ho : d ∉ s'.orders)
      (hd : s'.device.lookup d = s.device.lookup d ∨
        ∃ dev, s'.device.lookup d = some dev ∧ (dev.state = .ready ∨ dev.state = .off))

/-- An entry places the order of a client on a device with a profile. -/
structure Places (env : Env) (entry : Entry A P) (s : State A P L) (d : A) (o : OrderOf A P)
    (dev : DeviceProfile) : Prop where
  fresh : d ∉ s.orders
  profile : s.device.lookup d = some dev
  called : ∃ who b, entry = .call (.order (.signed who) b) ∧ b.device = d ∧ o = b.convert who ∧
    ((order env (.signed who) b).run s).1 = .ok ()

/-- What becomes of a device in one entry. -/
inductive Fate (env : Env) (entry : Entry A P) (s s' : State A P L) (d : A) : Prop
  | cleared (h : Cleared s s' d)
  | placed (o : OrderOf A P) (dev : DeviceProfile) (h : Places env entry s d o dev)
      (ho : s'.orders.lookup d = some o)
      (hd : s'.device.lookup d = some { dev with state := .busy })
  | killed (he : entry = .call (.onKilledAccount d))
      (ho : s'.orders.lookup d = s.orders.lookup d)
      (hd : s'.device.lookup d = (s.device.lookup d).bind afterKill)

variable {env : Env} {s s' t : State A P L} {d : A} {o : OrderOf A P} {dev : DeviceProfile}
  {entry : Entry A P}

/-! ### Batches -/

/-- What every message keeps, a batch keeps. -/
theorem handleXcmpMessages_induction {R : State A P L → State A P L → Prop}
    (hrefl : ∀ s, R s s) (htrans : ∀ {s t u}, R s t → R t u → R s u)
    (hmessage : ∀ s m, R s (handleMessage env s m)) (batch : Batch) (maxWeight : Weight)
    (s : State A P L) : R s (handleXcmpMessages env batch maxWeight s).1 := by
  induction batch generalizing s with
  | nil => exact hrefl s
  | cons item iter ih =>
    obtain ⟨sender, sentAt, data⟩ := item
    cases hdec : (Codec.decode data : Option (XCMPMessageOf A P × List UInt8)) with
    | none =>
      rw [handleXcmpMessages_undecodable hdec]
      exact hrefl s
    | some p =>
      obtain ⟨m, rest⟩ := p
      rw [handleXcmpMessages_cons hdec]
      exact htrans (hmessage s m) (ih _)

omit [ReservableCurrency L A] [Codec A] [Codec P] in
/-- A device without an order is cleared again. -/
theorem Cleared.trans (h : Cleared s t d) (h' : Cleared t s' d) : Cleared s s' d := by
  cases h' with
  | kept ho' hd' =>
    cases h with
    | kept ho hd => exact .kept (ho'.trans ho) (hd'.trans hd)
    | freed ho hd =>
      refine .freed ?_ (by rwa [hd'])
      rw [← Finmap.lookup_eq_none] at ho ⊢
      rw [ho', ho]
  | freed ho' hd' =>
    rcases hd' with hd' | hd'
    · cases h with
      | kept ho hd => exact .freed ho' (.inl (hd'.trans hd))
      | freed ho hd => exact .freed ho' (by rwa [hd'])
    · exact .freed ho' (.inr hd')

omit [ReservableCurrency L A] [Codec A] [Codec P] in
/-- Closing the order of one device clears every device. -/
theorem cleared_of_closed {x : A} {dev' : DeviceProfile} {l : L} {e : Event A}
    (hdev : s.device.lookup x = some dev' ∨ dev'.state = .ready ∨ dev'.state = .off) :
    Cleared s (s.closed x dev' l e) d := by
  by_cases hd : d = x
  · subst hd
    refine .freed (by simp) ?_
    rw [closed_device, Finmap.lookup_insert]
    rcases hdev with hdev | hdev
    · exact .inl hdev.symm
    · exact .inr ⟨dev', rfl, hdev⟩
  · exact .kept (by rw [closed_orders, Finmap.lookup_erase_ne hd])
      (by rw [closed_device, Finmap.lookup_insert_of_ne _ hd])

omit [DecidableEq A] [ReservableCurrency L A] [Codec A] [Codec P] in
/-- A settlement leaves a device on or off. -/
theorem settledProfile_state (dev : DeviceProfile) (onoff : Bool) :
    (settledProfile dev onoff).state = .ready ∨ (settledProfile dev onoff).state = .off := by
  cases onoff
  · exact .inr rfl
  · exact .inl rfl

omit [Codec A] [Codec P] in
/-- A message clears every device. -/
theorem cleared_of_message (m : XCMPMessageOf A P) : Cleared s (handleMessage env s m) d := by
  cases m with
  | newOrder client order => exact .kept rfl rfl
  | orderAccept client device => exact .kept rfl rfl
  | orderReject c x onoff =>
    change Cleared s ((onReject env c x onoff).exec s) d
    rcases onReject_exec env s c x onoff with hsame | ⟨o, dev, hs, hfee | ⟨l, -, hclosed⟩⟩
    · rw [hsame]
      exact .kept rfl rfl
    · rw [hfee]
      exact .kept rfl rfl
    · rw [hclosed]
      exact cleared_of_closed (.inr (settledProfile_state dev onoff))
  | orderDone c x onoff =>
    change Cleared s ((onDone env c x onoff).exec s) d
    rcases onDone_exec env s c x onoff with hsame | ⟨o, dev, l₁, hs, -, hfee | ⟨l, -, hclosed⟩⟩
    · rw [hsame]
      exact .kept rfl rfl
    · rw [hfee]
      exact .kept rfl rfl
    · rw [hclosed]
      exact cleared_of_closed (.inr (settledProfile_state dev onoff))

/-! ### Entries -/

/-- An order is placed on its device, and leaves every other device alone. -/
theorem fate_of_order (origin : Origin A) (b : OrderBaseOf A P) :
    Fate env (.call (.order origin b)) s ((order env origin b).exec s) d := by
  rcases order_exec env s origin b with hsame | ⟨who, dev, l₁, hs, -, hpenalty | ⟨l₂, -, hrun⟩⟩
  · rw [hsame]
    exact .cleared (.kept rfl rfl)
  · rw [hpenalty]
    exact .cleared (.kept rfl rfl)
  · obtain rfl := hs.signed
    rw [Dispatch.exec, hrun]
    by_cases hd : d = b.device
    · subst hd
      exact .placed (b.convert who) dev
        ⟨hs.fresh, hs.profile, who, b, rfl, rfl, rfl, congrArg Prod.fst hrun⟩
        (Finmap.lookup_insert _) (Finmap.lookup_insert _)
    · exact .cleared (.kept (Finmap.lookup_insert_of_ne _ hd)
        (Finmap.lookup_insert_of_ne _ hd))

/-- Every entry, whatever it returns, clears a device, places its order or reaps its account. -/
theorem fate_of_exec (env : Env) (entry : Entry A P) (s : State A P L) (d : A) :
    Fate env entry s (entry.exec env s) d := by
  cases entry with
  | batch items maxWeight =>
    exact .cleared (handleXcmpMessages_induction (R := fun s s' => Cleared s s' d)
      (fun s => .kept rfl rfl) Cleared.trans (fun s m => cleared_of_message m) items maxWeight s)
  | call op =>
    cases op with
    | test origin =>
      obtain ⟨r, sent, hrun⟩ := test_run env origin s
      change Fate _ _ s ((test env origin).exec s) d
      rw [Dispatch.exec, hrun]
      exact .cleared (.kept rfl rfl)
    | order origin b => exact fate_of_order origin b
    | cancel origin x =>
      change Fate _ _ s ((cancel env origin x).exec s) d
      rcases cancel_exec env s x origin with hsame | ⟨o, dev, hs, hfee | ⟨l, -, hclosed⟩⟩
      · rw [hsame]
        exact .cleared (.kept rfl rfl)
      · rw [hfee]
        exact .cleared (.kept rfl rfl)
      · rw [hclosed]
        exact .cleared (cleared_of_closed (.inl hs.holds.profile))
    | register origin paraid penalty wcd onoff =>
      change Fate _ _ s ((register origin paraid penalty wcd onoff).exec s) d
      rcases register_exec s onoff origin paraid penalty wcd with
        hsame | ⟨id, -, hid, hwritten⟩
      · rw [hsame]
        exact .cleared (.kept rfl rfl)
      · rw [hwritten]
        by_cases hd : d = id
        · subst hd
          refine .cleared (.freed hid (.inr ⟨_, Finmap.lookup_insert _, ?_⟩))
          cases onoff
          · exact .inr rfl
          · exact .inl rfl
        · exact .cleared (.kept rfl (Finmap.lookup_insert_of_ne _ hd))
    | onAccept who x => exact .cleared (.kept rfl rfl)
    | onReject who x onoff =>
      exact .cleared (cleared_of_message (m := (.orderReject who x onoff : XCMPMessageOf A P)))
    | onDone who x onoff =>
      exact .cleared (cleared_of_message (m := (.orderDone who x onoff : XCMPMessageOf A P)))
    | onKilledAccount who =>
      obtain ⟨m, hrun, hm⟩ := onKilledAccount_run s who
      change Fate _ _ s ((onKilledAccount who).exec s) d
      rw [Dispatch.exec, hrun]
      by_cases hd : d = who
      · subst hd
        exact .killed rfl rfl ((hm d).trans (if_pos rfl))
      · exact .cleared (.kept rfl ((hm d).trans (if_neg hd)))

end XcmAutoBank.Xchange
