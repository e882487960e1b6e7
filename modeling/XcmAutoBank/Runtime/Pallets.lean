import XcmAutoBank.Xchange.Effect
import XcmAutoBank.Xchange.Entry
import XcmAutoBank.Service.Effect
import XcmAutoBank.Service.Entry
import XcmAutoBank.Template.Pallet

/-!
# The pallets of one runtime

The runtime holds the client pallet, the service pallet and the template pallet, each with its own
storage.  The first two reserve in the same `Balances`: a call of one pallet changes its own maps
and the one ledger, and sees what the other pallet has made of it.

The runtime answers every order a device receives with `AcceptOnReceive`.  It hands the messages of
the transport to a queue and reports no account that is reaped, so that of the entries of its
pallets only the signed calls are `Wired`.

The runtime's currency has an existential deposit and reaps an account that is left with less.  It
is a `LawfulCurrency` only as long as no payment does that, and the results below that assume one
speak of such runs; `undisturbed_of_kept_run` shows that the pallets do not notice the deposit
there.
-/

namespace XcmAutoBank

variable {A P L : Type}

namespace Storage

variable {O D E : Type}

/-- The storage of a pallet over a ledger. -/
def onLedger (s : Storage A O D E Unit) (l : L) : Storage A O D E L :=
  ⟨s.orders, s.device, l, s.sent, s.events⟩

/-- What a pallet keeps beside the ledger. -/
def own (s : Storage A O D E L) : Storage A O D E Unit :=
  ⟨s.orders, s.device, (), s.sent, s.events⟩

end Storage

namespace Runtime

/-- The storages of the pallets and the balances they share. -/
structure State (AccountId Payload Ledger : Type) where
  templatePallet : Template.State AccountId
  xchangePallet : Xchange.State AccountId Payload Unit
  xchangeService : Service.State AccountId Payload Unit
  balances : Ledger

/-- Nothing is stored. -/
def State.init (balances : L) : State A P L := ⟨.init, .init (), .init (), balances⟩

/-- What the client pallet sees of the runtime. -/
def State.xchange (r : State A P L) : Xchange.State A P L := r.xchangePallet.onLedger r.balances

/-- What the service pallet sees of the runtime. -/
def State.service (r : State A P L) : Service.State A P L := r.xchangeService.onLedger r.balances

/-- The runtime after the client pallet has left a storage. -/
def State.putXchange (r : State A P L) (s : Xchange.State A P L) : State A P L :=
  { r with xchangePallet := s.own, balances := s.ledger }

/-- The runtime after the service pallet has left a storage. -/
def State.putService (r : State A P L) (s : Service.State A P L) : State A P L :=
  { r with xchangeService := s.own, balances := s.ledger }

/-- The runtime after a call that is not of these pallets has left the balances. -/
def State.putBalances (r : State A P L) (l : L) : State A P L := { r with balances := l }

/-- Every device takes on every order. -/
def acceptOnReceive (_device : A) (_order : OrderOf A P) : Option DeviceState := some .accepted

/-- The environment of a call of the service pallet. -/
def serviceEnv (env : Env) : Service.ServiceEnv A P := { env with onReceived := acceptOnReceive }

/-- The runtime's devices answer as they should. -/
theorem answers_serviceEnv (env : Env) : (serviceEnv env : Service.ServiceEnv A P).Answers := by
  intro d o state h
  exact .inr (Option.some.inj h).symm

variable [DecidableEq A] [ReservableCurrency L A] [Codec A] [Codec P]

/-- What may enter one of the pallets. -/
inductive Entry (A P : Type) where
  | template (op : Template.Op A)
  | xchange (entry : Xchange.Entry A P)
  | service (entry : Service.Entry A P)

/-- The runtime an entry leaves, whatever it returns. -/
def Entry.exec (selfParaId : ParaId) (env : Env) (r : State A P L) : Entry A P → State A P L
  | .template op => { r with templatePallet := Template.perform r.templatePallet op }
  | .xchange entry => r.putXchange (entry.exec env r.xchange)
  | .service entry => r.putService (entry.exec selfParaId (serviceEnv env) r.service)

/-- The signed calls of the pallets are the entries that the runtime makes. -/
def Entry.Wired : Entry A P → Prop
  | .template _ => True
  | .xchange (.call op) => op.Dispatchable ∧ ∀ who, op ≠ .onKilledAccount who
  | .service (.call op) => op.Dispatchable ∧ ∀ who, op ≠ .onKilledAccount who
  | .xchange (.batch ..) | .service (.batch ..) => False

end Runtime

end XcmAutoBank
