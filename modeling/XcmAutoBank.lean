import XcmAutoBank.Foundation.Dispatch
import XcmAutoBank.Foundation.Currency
import XcmAutoBank.Foundation.Scale
import XcmAutoBank.Foundation.Canonical
import XcmAutoBank.Foundation.Escrow
import XcmAutoBank.Foundation.Deposit
import XcmAutoBank.Foundation.Payment
import XcmAutoBank.Foundation.SharedEscrow
import XcmAutoBank.Foundation.Relay
import XcmAutoBank.Foundation.History
import XcmAutoBank.Foundation.Isolation
import XcmAutoBank.Foundation.Trace
import XcmAutoBank.Foundation.Loop
import XcmAutoBank.Foundation.Tracking
import XcmAutoBank.Foundation.Posting
import XcmAutoBank.Common.Types
import XcmAutoBank.Common.Wire
import XcmAutoBank.Common.Runtime
import XcmAutoBank.Xchange.Pallet
import XcmAutoBank.Common.Book
import XcmAutoBank.Common.WorkingTime
import XcmAutoBank.Common.Journal
import XcmAutoBank.Common.Readiness
import XcmAutoBank.Common.Tracking
import XcmAutoBank.Xchange.Outcome
import XcmAutoBank.Xchange.Effect
import XcmAutoBank.Xchange.Escrow
import XcmAutoBank.Xchange.Atomicity
import XcmAutoBank.Xchange.Closing
import XcmAutoBank.Xchange.Delivery
import XcmAutoBank.Xchange.Settlement
import XcmAutoBank.Xchange.Handler
import XcmAutoBank.Xchange.Skipping
import XcmAutoBank.Xchange.Permutation
import XcmAutoBank.Xchange.Penalty
import XcmAutoBank.Xchange.Payout
import XcmAutoBank.Xchange.Entry
import XcmAutoBank.Xchange.Consent
import XcmAutoBank.Xchange.Consistency
import XcmAutoBank.Xchange.WorkingTime
import XcmAutoBank.Xchange.Journal
import XcmAutoBank.Xchange.Readiness
import XcmAutoBank.Xchange.Tracking
import XcmAutoBank.Service.Pallet
import XcmAutoBank.Service.Outcome
import XcmAutoBank.Service.Effect
import XcmAutoBank.Service.Escrow
import XcmAutoBank.Service.Atomicity
import XcmAutoBank.Service.Closing
import XcmAutoBank.Service.Skipping
import XcmAutoBank.Service.Entry
import XcmAutoBank.Service.Consent
import XcmAutoBank.Service.Consistency
import XcmAutoBank.Service.Reply
import XcmAutoBank.Service.Message
import XcmAutoBank.Service.Isolation
import XcmAutoBank.Service.WorkingTime
import XcmAutoBank.Service.Journal
import XcmAutoBank.Service.Readiness
import XcmAutoBank.Service.Tracking
import XcmAutoBank.System.Skipping
import XcmAutoBank.System.Consent
import XcmAutoBank.System.Transport
import XcmAutoBank.System.World
import XcmAutoBank.System.Simulation
import XcmAutoBank.System.Agreement
import XcmAutoBank.System.Penalty
import XcmAutoBank.System.Counterpart
import XcmAutoBank.System.Copies
import XcmAutoBank.System.Quiescence
import XcmAutoBank.System.Solvency
import XcmAutoBank.System.Readiness
import XcmAutoBank.System.Authority
import XcmAutoBank.System.Wire
import XcmAutoBank.System.Bytes
import XcmAutoBank.System.WorkingTime
import XcmAutoBank.Template.Pallet
import XcmAutoBank.Runtime.Pallets
import XcmAutoBank.Runtime.Escrow
import XcmAutoBank.Runtime.Wiring
import XcmAutoBank.Runtime.Payout
import XcmAutoBank.Runtime.Unwinding
import XcmAutoBank.Runtime.Deposit
