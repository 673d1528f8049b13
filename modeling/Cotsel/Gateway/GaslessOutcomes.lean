import Cotsel.Library.Table
import Cotsel.Library.Text

/-!
# The ledger of gasless transactions

`core/gaslessTransactionOutcomeStore.ts`: one row of `gasless_transaction_outcomes` for each
transaction that the gateway signed, written before the transaction is sent.  The row says what is
known of the transaction, and which status was last projected onto the resource it was made for.

The columns that describe the transaction itself (its type, destination, value, fees and hashes) and
the log `gasless_transaction_outcome_events` are not read by what is modelled here.
-/

namespace Cotsel.Gateway.Gasless

/-- `GASLESS_TRANSACTION_OUTCOME_STATUSES`. -/
inductive OutcomeStatus
  | broadcastPending
  | broadcastUnknown
  | confirmationPending
  | confirmed
  | reverted
  | replaced
  | failed
deriving DecidableEq

/-- `resource_type` and `resource_id`. -/
inductive Resource
  | settlementHandoff (handoffId : ℕ)
  | platformTransfer (transferId : List Char)
deriving DecidableEq

/-- `GaslessTransactionIdentity`. -/
structure Identity where
  transactionHash : List Char
  applicationRequestId : List Char
  resource : Resource
  operation : List Char
  chainId : ℕ
  signerAddress : List Char
  nonce : ℕ
deriving DecidableEq

/-- `GaslessTransactionOutcomeRecord`. -/
structure Outcome where
  identity : Identity
  observedTransactionHash : Option (List Char)
  outcomeStatus : OutcomeStatus
  projectedOutcomeStatus : Option OutcomeStatus
  failureCode : Option (List Char)
  blockNumber : Option ℕ
  blockHash : Option (List Char)
  gasUsed : Option ℕ
  effectiveGasPriceWei : Option ℕ
  finalityEvidence : Option (List Char)
  /-- `COALESCE(last_reconciliation_attempt_at, created_at)`. -/
  attemptedAt : ℕ
deriving DecidableEq

namespace Outcome

abbrev transactionHash (r : Outcome) : List Char := r.identity.transactionHash

abbrev resource (r : Outcome) : Resource := r.identity.resource

end Outcome

inductive Constraint
  | primaryKey
  | request
  | check
deriving DecidableEq

def outcomeClash (r r' : Outcome) : Option Constraint :=
  if r.transactionHash = r'.transactionHash then some .primaryKey
  else if r.identity.applicationRequestId = r'.identity.applicationRequestId ∧
      r.identity.operation = r'.identity.operation ∧ r.resource = r'.resource then
    some .request
  else none

theorem outcomeClash_eq_none {r r' : Outcome} : outcomeClash r r' = none ↔
    r.transactionHash ≠ r'.transactionHash ∧
      ¬ (r.identity.applicationRequestId = r'.identity.applicationRequestId ∧
        r.identity.operation = r'.identity.operation ∧ r.resource = r'.resource) := by
  unfold outcomeClash
  split_ifs with hhash hrequest
  · simp [hhash]
  · exact iff_of_false id fun h => h.2 hrequest
  · exact iff_of_true rfl ⟨hhash, hrequest⟩

/-- The checks of the columns of the identity, which no update changes.  The hashes that updates
write come from a provider, in the form that the table asks for. -/
def Outcome.check (r : Outcome) : Option Constraint :=
  if Text.IsLowerHex 64 r.transactionHash ∧ 0 < r.identity.chainId ∧
      Text.IsHex 40 r.identity.signerAddress then none
  else some .check

def outcomes : Table.Schema Outcome (List Char) Constraint where
  key := Outcome.transactionHash
  clash := outcomeClash
  insertGuard := Outcome.check
  updateGuard := fun _ _ => none
  clash_symm := by
    intro r r' h
    rw [outcomeClash_eq_none] at *
    exact ⟨h.1.symm, fun heq => h.2 ⟨heq.1.symm, heq.2.1.symm, heq.2.2.symm⟩⟩
  key_ne := fun _ _ h => (outcomeClash_eq_none.mp h).1

/-! ### Statements -/

/-- The row that `recordPrepared` inserts. -/
def Outcome.prepare (identity : Identity) (now : ℕ) : Outcome where
  identity := identity
  observedTransactionHash := none
  outcomeStatus := .broadcastPending
  projectedOutcomeStatus := none
  failureCode := none
  blockNumber := none
  blockHash := none
  gasUsed := none
  effectiveGasPriceWei := none
  finalityEvidence := none
  attemptedAt := now

def allowedCurrentStatuses : OutcomeStatus → List OutcomeStatus
  | .broadcastUnknown | .confirmationPending | .confirmed | .reverted =>
    [.broadcastPending, .broadcastUnknown, .confirmationPending]
  | _ => []

/-- The argument `details` of `transition`. -/
structure Details where
  failureCode : Option (List Char) := none
  observedTransactionHash : Option (List Char) := none
  blockNumber : Option ℕ := none
  blockHash : Option (List Char) := none
  gasUsed : Option ℕ := none
  effectiveGasPriceWei : Option ℕ := none
  finalityEvidence : Option (List Char) := none
deriving DecidableEq

/-- The terminal columns of the row are those of the details. -/
def Outcome.sameTerminal (r : Outcome) (details : Details) : Bool :=
  r.blockNumber = details.blockNumber && r.blockHash = details.blockHash &&
    r.gasUsed = details.gasUsed && r.effectiveGasPriceWei = details.effectiveGasPriceWei

/-- The condition of the update of `transition`. -/
def Outcome.moves (status : OutcomeStatus) (details : Details) (r : Outcome) : Bool :=
  (allowedCurrentStatuses status ++ [status]).contains r.outcomeStatus &&
    (r.outcomeStatus ≠ status || r.sameTerminal details) &&
    (r.outcomeStatus ≠ status ||
      r.finalityEvidence ≠ details.finalityEvidence.or r.finalityEvidence ||
      status = .broadcastUnknown && (r.failureCode ≠ details.failureCode ||
        r.observedTransactionHash ≠
          details.observedTransactionHash.or r.observedTransactionHash))

/-- The update of `transition`. -/
def Outcome.move (status : OutcomeStatus) (details : Details) (r : Outcome) : Outcome :=
  { r with
    outcomeStatus := status
    failureCode := if status = .broadcastUnknown then details.failureCode else r.failureCode
    blockNumber := details.blockNumber.or r.blockNumber
    blockHash := details.blockHash.or r.blockHash
    gasUsed := details.gasUsed.or r.gasUsed
    effectiveGasPriceWei := details.effectiveGasPriceWei.or r.effectiveGasPriceWei
    observedTransactionHash := details.observedTransactionHash.or r.observedTransactionHash
    finalityEvidence := details.finalityEvidence.or r.finalityEvidence }

/-- The row is already as the update would leave it. -/
def Outcome.settledAs (status : OutcomeStatus) (details : Details) (r : Outcome) : Bool :=
  r.outcomeStatus = status &&
    (status ≠ .broadcastUnknown || r.failureCode = details.failureCode) &&
    (status ≠ .broadcastUnknown || details.observedTransactionHash = none ||
      r.observedTransactionHash = details.observedTransactionHash) &&
    (status ≠ .confirmed && status ≠ .reverted || r.sameTerminal details)

def finalizedBlockOrphaned : List Char := Text.lit "FINALIZED_BLOCK_ORPHANED"

/-- The condition and the update of `markOrphaned`. -/
def Outcome.isTerminal (r : Outcome) : Bool :=
  r.outcomeStatus = .confirmed || r.outcomeStatus = .reverted

def Outcome.orphan (r : Outcome) : Outcome :=
  { r with
    outcomeStatus := .confirmationPending
    failureCode := some finalizedBlockOrphaned
    projectedOutcomeStatus := none }

/-- The condition of `listRecoveryCandidates`. -/
def Outcome.isCandidate (r : Outcome) : Bool :=
  [.broadcastPending, .broadcastUnknown, .confirmationPending, .confirmed, .reverted].contains
      r.outcomeStatus ||
    r.projectedOutcomeStatus ≠ some r.outcomeStatus

/-- The rows that `listRecoveryCandidates` returns, those that waited longest first. -/
def recoveryCandidates (limit : ℕ) (rows : List Outcome) : List Outcome :=
  ((rows.filter Outcome.isCandidate).insertionSort fun r r' => r.attemptedAt ≤ r'.attemptedAt).take
    limit

end Cotsel.Gateway.Gasless
