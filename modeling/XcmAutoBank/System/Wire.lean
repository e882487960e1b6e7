import XcmAutoBank.Xchange.Handler
import XcmAutoBank.Service.Message

/-!
# The bytes between the two chains

An order is repacked four times on its way: `order` converts what the client states into what it
stores and back into what it sends, the message is encoded and decoded, and the service chain packs
its fields into an order again.  Both chains end with the same order, up to the para id, and a reply
is read as it was meant (`orders_and_replies_understood`).  The messages are told apart by their
bytes alone: what follows them is never read, and no message begins another.
-/

namespace XcmAutoBank.System

variable {A P L LA LB : Type} [DecidableEq A] [Codec A] [Codec P]

/-- What the bytes sent for an order do on the service chain: they are read as the order of the
client whatever follows them and whoever they come from, and if an order is stored for them it is
the one the client chain stores, with the sender's para id. -/
structure Carries (LB : Type) [ReservableCurrency LB A] (selfParaId : ParaId) (data : List UInt8)
    (who : A) (b : OrderBaseOf A P) (o : OrderOf A P) : Prop where
  reads : ∀ tail,
    Codec.decode (data ++ tail) = some ((.newOrder who b : XCMPMessageOf A P), tail)
  received : ∀ (env : Service.ServiceEnv A P) (t : Service.State A P LB) (p : ParaId)
    (sentAt : RelayBlockNumber) (tail : List UInt8)
    (iter : List (ParaId × RelayBlockNumber × List UInt8)) (maxWeight : Weight),
    Service.handleXcmpMessages selfParaId env ((p, sentAt, data ++ tail) :: iter) maxWeight t =
      Service.handleXcmpMessages selfParaId env iter maxWeight
        ((Service.orderReceived selfParaId env { o with paraid := p } b.device).exec t)
  stores : ∀ (env : Service.ServiceEnv A P) (t : Service.State A P LB) (p : ParaId),
    let t' := (Service.orderReceived selfParaId env { o with paraid := p } b.device).exec t
    t'.orders = t.orders ∨
      b.device ∉ t.orders ∧ t'.orders = t.orders.insert b.device { o with paraid := p }

/-- What the bytes of a message do on the client chain: they are read as the message and handled by
its arm, whatever follows them and whoever they come from. -/
structure Understood (LA : Type) [ReservableCurrency LA A] (data : List UInt8)
    (msg : XCMPMessageOf A P) : Prop where
  reads : ∀ tail, Codec.decode (data ++ tail) = some (msg, tail)
  handled : ∀ (env : Env) (s : Xchange.State A P LA) (p : ParaId) (sentAt : RelayBlockNumber)
    (tail : List UInt8) (iter : Xchange.Batch) (maxWeight : Weight),
    Xchange.handleXcmpMessages env ((p, sentAt, data ++ tail) :: iter) maxWeight s =
      Xchange.handleXcmpMessages env iter maxWeight (Xchange.handleMessage env s msg)

variable [LawfulCodec A] [LawfulCodec P] [ReservableCurrency LA A] [ReservableCurrency LB A]

/-- The encoding of an order carries it to the service chain. -/
theorem carries_encode (selfParaId : ParaId) (who : A) (b : OrderBaseOf A P) :
    Carries LB selfParaId (Codec.encode (.newOrder who b : XCMPMessageOf A P)) who b
      (b.convert who) where
  reads tail := LawfulCodec.decode_encode _ tail
  received env t p sentAt tail iter maxWeight := by
    have hread := LawfulCodec.decode_encode (.newOrder who b : XCMPMessageOf A P) tail
    simp only [Service.handleXcmpMessages, hread]
    -- the fields packed with the sender's para id are the converted order with that para id
    rfl
  stores env t p := by
    rcases Service.orderReceived_cases selfParaId env t b.device { b.convert who with paraid := p }
      with ⟨hkept, -⟩ | ⟨hfresh, hstored, -⟩
    · exact .inl hkept
    · exact .inr ⟨hfresh, hstored⟩

omit [ReservableCurrency LB A] in
/-- The encoding of a message is understood. -/
theorem understood_encode (msg : XCMPMessageOf A P) :
    Understood LA (Codec.encode msg) msg where
  reads tail := LawfulCodec.decode_encode msg tail
  handled _ _ _ _ tail _ _ :=
    Xchange.handleXcmpMessages_cons (LawfulCodec.decode_encode msg tail)

omit [LawfulCodec A] [LawfulCodec P] [ReservableCurrency LB A] in
/-- An order that succeeds is stored and sent. -/
theorem sent_of_order {env : Env} {s s' : Xchange.State A P LA} {origin : Origin A}
    {b : OrderBaseOf A P} (h : (Xchange.order env origin b).run s = (.ok (), s')) :
    ∃ who dest result, origin = .signed who ∧
      s'.orders.lookup b.device = some (b.convert who) ∧
      s'.sent = s.sent ++ [⟨dest,
        Xcm.transact (Codec.encode (.newOrder who b : XCMPMessageOf A P)), result⟩] := by
  obtain ⟨who, dev, l₁, l₂, hs, -, -, rfl⟩ := Xchange.order_ok h
  exact ⟨who, dev.paraId, _, hs.signed, Finmap.lookup_insert _, rfl⟩

/-! ### The law -/

/-- For accounts of 32 bytes and any lawful codec of the payloads: the bytes `order` sends carry the
order it stores to the service chain; every message an entry of the service chain hands over is the
reply it has for the client and the device of an order, and the client chain understands it; and no
message begins another. -/
theorem orders_and_replies_understood {LA LB P : Type} [ReservableCurrency LA AccountId32]
    [ReservableCurrency LB AccountId32] [Codec P] [LawfulCodec P] (selfParaId : ParaId) :
    (∀ (env : Env) (s s' : Xchange.State AccountId32 P LA) (origin : Origin AccountId32)
        (b : OrderBaseOf AccountId32 P), (Xchange.order env origin b).run s = (.ok (), s') →
      ∃ who o dest data result, origin = .signed who ∧ s'.orders.lookup b.device = some o ∧
        s'.sent = s.sent ++ [⟨dest, Xcm.transact data, result⟩] ∧
        Carries LB selfParaId data who b o) ∧
    (∀ (env : Service.ServiceEnv AccountId32 P) (entry : Service.Entry AccountId32 P)
        (t : Service.State AccountId32 P LB), let t' := entry.exec selfParaId env t
      ∃ ms, t'.sent = t.sent ++ ms ∧ ∀ m ∈ ms, ∃ o d msg,
        (t.orders.lookup d = some o ∨ t'.orders.lookup d = some o) ∧ m.dest = o.paraid ∧
        entry.reply o.client d = some msg ∧ Understood LA m.message.call msg) ∧
    ∀ m m' : XCMPMessageOf AccountId32 P, Codec.encode m <+: Codec.encode m' → m = m' := by
  refine ⟨fun env s s' origin b h => ?_, fun env entry t => ?_,
    fun m m' => LawfulCodec.eq_of_prefix⟩
  · obtain ⟨who, dest, result, hwho, ho, hsent⟩ := sent_of_order h
    exact ⟨who, _, dest, _, result, hwho, ho, hsent, carries_encode selfParaId who b⟩
  · obtain ⟨ms, hms, hreplies⟩ := Service.onlyReplies_of_exec env entry t
    refine ⟨ms, hms, fun m hm => ?_⟩
    obtain ⟨o, d, msg, ho, hdest, hreply, hmessage⟩ := hreplies m hm
    refine ⟨o, d, msg, ho, hdest, hreply, ?_⟩
    rw [hmessage]
    exact understood_encode msg

/-- Every account owns 50 on the client chain and device 2 is registered for chain 2000. -/
def wiredDevice : Xchange.State AccountId32 UInt64 (Balances AccountId32) :=
  Dispatch.exec (Xchange.register (.signed (.replicate 2)) 2000 30 20 true)
    (Storage.init (Balances.uniform 50))

/-- The order of client 1 for device 2 is stored, and the bytes sent for it carry it. -/
theorem orders_and_replies_understood_first :
    let s' := (Xchange.order (Env.online 0) (.signed (.replicate 1))
      ⟨100, 7, 40, .replicate 2⟩).exec wiredDevice
    ∃ who o dest data result, Origin.signed (.replicate 1) = .signed who ∧
      s'.orders.lookup (.replicate 2) = some o ∧
      s'.sent = wiredDevice.sent ++ [⟨dest, Xcm.transact data, result⟩] ∧
      Carries (Balances AccountId32) 2000 data who (⟨100, 7, 40, .replicate 2⟩ :
        OrderBaseOf AccountId32 UInt64) o := by
  have hok : ((Xchange.order (Env.online 0) (.signed (.replicate 1))
      ⟨100, 7, 40, .replicate 2⟩).run wiredDevice).1 = .ok () := by decide
  exact (orders_and_replies_understood 2000).1 _ _ _ _ _ (Prod.ext hok rfl)

end XcmAutoBank.System
