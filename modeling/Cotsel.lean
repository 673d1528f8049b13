import Cotsel.Escrow.Spec.Schedule
import Cotsel.Escrow.Invariant.RefundViews
import Cotsel.Escrow.Invariant.Lifetime
import Cotsel.Escrow.Invariant.Sweep
import Cotsel.Escrow.Invariant.Timelock
import Cotsel.Escrow.Invariant.Closing
import Cotsel.Escrow.Invariant.Replay
import Cotsel.Sdk.TransactionFinality
import Cotsel.Oracle.Confirmation
import Cotsel.Oracle.HmacMiddleware
import Cotsel.Gateway.ReplayIsolation
import Cotsel.Gateway.NonceReservation
import Cotsel.Gateway.SettlementReports
import Cotsel.Gateway.OrphanedOutcomes
import Cotsel.Gateway.OutcomeSimulation
import Cotsel.Gateway.OneTransaction
import Cotsel.Treasury.RoleSeparation
import Cotsel.Treasury.Allocations
import Cotsel.Treasury.PeriodClose
import Cotsel.Treasury.ClaimBinding
import Cotsel.Treasury.HandoffCallbacks
import Cotsel.Treasury.HandoffGate
import Cotsel.Treasury.Rollforward
import Cotsel.Auth.ServiceAuth
import Cotsel.Auth.ExchangeAuthority
