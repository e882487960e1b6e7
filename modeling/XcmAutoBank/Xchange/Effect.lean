import XcmAutoBank.Xchange.Outcome

/-!
# What the client chain stores and sends

The part of a call that the service chain can notice: how the stored orders change and which
messages are handed to the transport.  A dispatchable stores one order and sends it, or it sends
nothing that a service chain understands and removes an order at most.  The message handlers send
nothing.
-/

namespace XcmAutoBank.Xchange

open ReservableCurrency Storage

variable {A P L : Type} [DecidableEq A] [ReservableCurrency L A]

/-- The operations that are not messages of a service chain. -/
def Op.Dispatchable : Op A P → Prop
  | .onAccept .. | .onReject .. | .onDone .. => False
  | _ => True

/-- What a dispatchable does to the orders and the messages. -/
inductive Effect [Codec A] [Codec P] (s s' : State A P L) : Prop
  | keeps (ms : List Sent) (hsent : s'.sent = s.sent ++ ms)
      (hquiet : ∀ m ∈ ms,
        (Codec.decode m.message.call : Option (XCMPMessageOf A P × List UInt8)) = none)
      (horders : ∀ d, s'.orders.lookup d = s.orders.lookup d ∨ s'.orders.lookup d = none)
  | places (who : A) (b : OrderBaseOf A P) (dest : ParaId) (result : Except SendError Unit)
      (hfresh : b.device ∉ s.orders)
      (horders : s'.orders = s.orders.insert b.device (b.convert who))
      (hsent : s'.sent = s.sent ++
        [⟨dest, Xcm.transact (Codec.encode (.newOrder who b : XCMPMessageOf A P)), result⟩])

variable {env : Env} {s s' : State A P L} {d : A}

/-! ### Dispatchables -/

section Dispatchables

variable [Codec A] [Codec P]

omit [ReservableCurrency L A] in
/-- A call that changes neither orders nor messages. -/
theorem effect_of_same (ho : s'.orders = s.orders) (hs : s'.sent = s.sent) : Effect s s' :=
  .keeps [] (by rw [hs, List.append_nil]) (fun m hm => absurd hm List.not_mem_nil)
    fun d => .inl (by rw [ho])

omit [DecidableEq A] in
/-- The bytes of the test call are not a message. -/
theorem decode_test_bytes :
    (Codec.decode [0x08, 0x00, 0x00, 0x00, 0x00, 0x20, 0x00, 0x00, 0x00] :
      Option (XCMPMessageOf A P × List UInt8)) = none := rfl

/-- A dispatchable places one order, or keeps all orders but one that it may remove. -/
theorem effect_of_call {op : Op A P} (hop : op.Dispatchable) :
    Effect s ((op.call env).exec s) := by
  cases op with
  | test origin =>
    have hrun : ((test env origin).exec s).sent = s.sent ++
        [⟨200, Xcm.transact [0x08, 0x00, 0x00, 0x00, 0x00, 0x20, 0x00, 0x00, 0x00],
          env.sendXcm 200 (Xcm.transact
            [0x08, 0x00, 0x00, 0x00, 0x00, 0x20, 0x00, 0x00, 0x00])⟩] ∧
        ((test env origin).exec s).orders = s.orders := by
      unfold test Dispatch.exec
      simp only [Dispatch.run_bind, run_sendXcm]
      cases env.sendXcm 200 _ <;> exact ⟨rfl, rfl⟩
    refine .keeps _ hrun.1 (fun m hm => ?_) fun d => .inl (congrArg _ hrun.2)
    rw [List.mem_singleton.mp hm]
    exact decode_test_bytes
  | order origin b =>
    change Effect s ((order env origin b).exec s)
    rcases order_exec env s origin b with hsame | ⟨who, dev, l₁, hs, -, hpenalty | ⟨l₂, -, hrun⟩⟩
    · rw [hsame]
      exact effect_of_same rfl rfl
    · rw [hpenalty]
      exact effect_of_same rfl rfl
    · rw [Dispatch.exec, hrun]
      exact .places who b dev.paraId _ hs.fresh rfl rfl
  | cancel origin d =>
    change Effect s ((cancel env origin d).exec s)
    rcases cancel_exec env s d origin with hsame | ⟨o, dev, hs, hfee | ⟨l, -, hclosed⟩⟩
    · rw [hsame]
      exact effect_of_same rfl rfl
    · rw [hfee]
      exact effect_of_same rfl rfl
    · rw [hclosed]
      refine .keeps [] (List.append_nil _).symm (fun m hm => absurd hm List.not_mem_nil)
        fun x => ?_
      rw [closed_orders, Finmap.lookup_erase_ite]
      split_ifs
      · exact .inr rfl
      · exact .inl rfl
  | register origin paraid penalty wcd onoff =>
    change Effect s ((register origin paraid penalty wcd onoff).exec s)
    rcases register_exec s onoff origin paraid penalty wcd with hsame | ⟨id, -, -, hwritten⟩
    · rw [hsame]
      exact effect_of_same rfl rfl
    · rw [hwritten]
      exact effect_of_same rfl rfl
  | onKilledAccount who =>
    change Effect s ((onKilledAccount who).exec s)
    obtain ⟨m, hrun, -⟩ := onKilledAccount_run s who
    rw [Dispatch.exec, hrun]
    exact effect_of_same rfl rfl
  | onAccept who d => exact absurd hop id
  | onReject who d onoff => exact absurd hop id
  | onDone who d onoff => exact absurd hop id

/-- Of the dispatchables only a cancellation removes an order. -/
theorem order_kept_of_call {op : Op A P} (hop : op.Dispatchable)
    (hcancel : ∀ origin x, op ≠ .cancel origin x) (ho : d ∈ s.orders) :
    ((op.call env).exec s).orders.lookup d = s.orders.lookup d := by
  cases op with
  | test origin =>
    obtain ⟨r, sent, hrun⟩ := test_run env origin s
    change ((test env origin).exec s).orders.lookup d = _
    rw [Dispatch.exec, hrun]
  | order origin b =>
    change ((order env origin b).exec s).orders.lookup d = _
    rcases order_exec env s origin b with hsame | ⟨who, dev, l₁, hs, -, hpenalty | ⟨l₂, -, hrun⟩⟩
    · rw [hsame]
    · rw [hpenalty]
      rfl
    · have hd : d ≠ b.device := by
        rintro rfl
        exact hs.fresh ho
      rw [Dispatch.exec, hrun]
      exact Finmap.lookup_insert_of_ne _ hd
  | cancel origin x => exact absurd rfl (hcancel origin x)
  | register origin paraid penalty wcd onoff =>
    change ((register origin paraid penalty wcd onoff).exec s).orders.lookup d = _
    rcases register_exec s onoff origin paraid penalty wcd with hsame | ⟨id, -, -, hwritten⟩
    · rw [hsame]
    · rw [hwritten]
  | onKilledAccount who =>
    obtain ⟨m, hrun, -⟩ := onKilledAccount_run s who
    change ((onKilledAccount who).exec s).orders.lookup d = _
    rw [Dispatch.exec, hrun]
  | onAccept who x => exact absurd hop id
  | onReject who x onoff => exact absurd hop id
  | onDone who x onoff => exact absurd hop id

/-- Of the dispatchables only a cancellation by the client closes an order, once it is overdue. -/
theorem cancels_of_closed {op : Op A P} {o : OrderOf A P} (hop : op.Dispatchable)
    (ho : s.orders.lookup d = some o) (hgone : d ∉ ((op.call env).exec s).orders) :
    op = .cancel (.signed o.client) d ∧ ¬env.now < o.untilTime := by
  have hmem : d ∈ s.orders := Finmap.mem_of_lookup_eq_some ho
  have hcancel : ∃ origin x, op = .cancel origin x := by
    by_contra hother
    have hkept : ((op.call env).exec s).orders.lookup d = s.orders.lookup d :=
      order_kept_of_call hop (fun origin x heq => hother ⟨origin, x, heq⟩) hmem
    rw [ho] at hkept
    exact hgone (Finmap.mem_of_lookup_eq_some hkept)
  obtain ⟨origin, x, rfl⟩ := hcancel
  change d ∉ ((cancel env origin x).exec s).orders at hgone
  rcases cancel_exec env s x origin with hsame | ⟨o', dev, hc, hfee | ⟨l, -, hclosed⟩⟩
  · rw [hsame] at hgone
    exact absurd hmem hgone
  · rw [hfee] at hgone
    exact absurd hmem hgone
  · have hx : d = x := by
      by_contra hne
      rw [hclosed, closed_orders] at hgone
      exact hgone (Finmap.mem_erase.mpr ⟨hne, hmem⟩)
    subst hx
    obtain rfl := Option.some.inj (ho.symm.trans hc.holds.order)
    exact ⟨by rw [hc.signed], hc.late⟩

end Dispatchables

/-! ### Messages -/

/-- The messages that settle the order of device `d` for the client `c` they name. -/
inductive SettlesFor (c d : A) : XCMPMessageOf A P → Prop
  | orderReject (onoff : Bool) : SettlesFor c d (.orderReject c d onoff)
  | orderDone (onoff : Bool) : SettlesFor c d (.orderDone c d onoff)

/-- A message keeps orders and profiles, or it settles a device and closes its order; nothing is
sent. -/
theorem handleMessage_cases (env : Env) (s : State A P L) (m : XCMPMessageOf A P) :
    (handleMessage env s m).sent = s.sent ∧
      ((handleMessage env s m).orders = s.orders ∧ (handleMessage env s m).device = s.device ∨
        ∃ c d dev, SettlesFor c d m ∧ (handleMessage env s m).orders = s.orders.erase d ∧
          (handleMessage env s m).device = s.device.insert d dev) := by
  cases m with
  | newOrder client order => exact ⟨rfl, .inl ⟨rfl, rfl⟩⟩
  | orderAccept client device => exact ⟨rfl, .inl ⟨rfl, rfl⟩⟩
  | orderReject c d onoff =>
    have hexec : handleMessage env s (.orderReject c d onoff : XCMPMessageOf A P) =
        (onReject env c d onoff).exec s := rfl
    rw [hexec]
    rcases onReject_exec env s c d onoff with hsame | ⟨o, dev, hs, hfee | ⟨l, -, hclosed⟩⟩
    · rw [hsame]
      exact ⟨rfl, .inl ⟨rfl, rfl⟩⟩
    · rw [hfee]
      exact ⟨rfl, .inl ⟨rfl, rfl⟩⟩
    · rw [hclosed]
      exact ⟨rfl, .inr ⟨c, d, _, .orderReject onoff, rfl, rfl⟩⟩
  | orderDone c d onoff =>
    have hexec : handleMessage env s (.orderDone c d onoff : XCMPMessageOf A P) =
        (onDone env c d onoff).exec s := rfl
    rw [hexec]
    rcases onDone_exec env s c d onoff with hsame | ⟨o, dev, l₁, hs, -, hfee | ⟨l, -, hclosed⟩⟩
    · rw [hsame]
      exact ⟨rfl, .inl ⟨rfl, rfl⟩⟩
    · rw [hfee]
      exact ⟨rfl, .inl ⟨rfl, rfl⟩⟩
    · rw [hclosed]
      exact ⟨rfl, .inr ⟨c, d, _, .orderDone onoff, rfl, rfl⟩⟩

/-- Every message keeps the order and the profile of a device, or settles the device and removes its
order. -/
theorem handleMessage_kept_or_gone (env : Env) (s : State A P L) (m : XCMPMessageOf A P) (d : A) :
    ((handleMessage env s m).orders.lookup d = s.orders.lookup d ∧
      (handleMessage env s m).device.lookup d = s.device.lookup d) ∨
    (∃ c, SettlesFor c d m) ∧ d ∉ (handleMessage env s m).orders := by
  obtain ⟨-, ⟨horders, hdevice⟩ | ⟨c, x, dev, hm, horders, hdevice⟩⟩ := handleMessage_cases env s m
  · exact .inl ⟨by rw [horders], by rw [hdevice]⟩
  · by_cases hx : d = x
    · subst hx
      exact .inr ⟨⟨c, hm⟩, by simp [horders]⟩
    · refine .inl ⟨?_, ?_⟩
      · rw [horders, Finmap.lookup_erase_ne hx]
      · rw [hdevice, Finmap.lookup_insert_of_ne _ hx]

end XcmAutoBank.Xchange
