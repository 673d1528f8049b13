import Cotsel.Gateway.GaslessOutcomes
import Cotsel.Gateway.SettlementCallbacks
import Cotsel.Library.Processes

/-!
# Gasless create-trade executions

The gateway signs and sends a transaction on behalf of a buyer, and moves the settlement handoff
along with it.

* `core/gaslessCreateTradeWorkflow.ts`, `core/gaslessExecutionFailure.ts`: the events of one
  request;
* `core/gaslessManagedSignerExecutor.ts`, `core/gaslessTransactionLifecycle.ts`: simulation,
  signing, broadcast and the wait for a final receipt, under the broadcast lock
  (`core/gaslessRelayerBroadcastLock.ts`);
* `core/gaslessTransactionOutcomeReconciler.ts`, `core/gaslessSettlementOutcomeObserver.ts`: what
  became of a transaction whose request has ended.

The programs ask for operations (`Op`).  The settlement store, the ledger and the lock are in the
`Store`; a statement on them works or is lost with the connection, before or after it took effect.
What the chain, the signer and the other services answer is open.

The executor keeps the address it was told first, so an execution asks for it once.  The validation
of a request, and of the handoff it names, is one operation that may fail.  The metadata of an event
is left out, but for the evidence that it does not have; it is observed when it is recorded.
-/

namespace Cotsel.Gateway.Gasless

open Interaction Settlement

/-! ### Operations -/

/-- The `outcome` of a `GaslessTransactionOutcomePendingError`. -/
inductive PendingOutcome
  | broadcastUnknown
  | confirmationPending
deriving DecidableEq

/-- An error of no particular class: what `normalizeFailureCode` makes of it, and its message. -/
structure PlainError where
  failureCode : List Char
  message : List Char
deriving DecidableEq

inductive Thrown
  /-- `GaslessTransactionOutcomePendingError`. -/
  | outcomePending (transactionHash : List Char) (outcome : PendingOutcome) (message : List Char)
  /-- `GaslessTransactionRevertedError`. -/
  | transactionReverted (transactionHash : List Char) (blockNumber : ℕ)
  | other (error : PlainError)
deriving DecidableEq

structure Receipt where
  status : ℕ
  blockNumber : ℕ
  blockHash : List Char
  gasUsed : ℕ
  gasPrice : ℕ
deriving DecidableEq

/-- `GaslessCreateTradeExecutionInput`, as far as the events name it. -/
structure CreateTrade where
  handoffId : ℕ
  requestId : List Char
  sourceApiKeyId : Option (List Char)
deriving DecidableEq

structure FeeData where
  maxFeePerGas : Option ℕ
  gasPrice : Option ℕ
deriving DecidableEq

inductive Canonicality
  | canonical
  | orphaned
  | unavailable
deriving DecidableEq

inductive BlockTag
  | latest
  | pending
deriving DecidableEq

inductive Op
  -- the settlement store
  | getHandoff (handoffId : ℕ)
  /-- `SettlementService.recordExecutionEvent`. -/
  | recordEvent (input : EventInput)
  -- the broadcast lock, on a connection of its own
  | connect
  | lock
  | unlock
  -- the ledger
  | recordPrepared (identity : Identity)
  /-- The update of `transition`: whether it changed a row. -/
  | transitionOutcome (transactionHash : List Char) (status : OutcomeStatus) (details : Details)
  | readOutcome (transactionHash : List Char)
  /-- Whether a row changed. -/
  | markOrphaned (transactionHash : List Char)
  /-- Whether a row changed. -/
  | applyProjection (transactionHash : List Char) (status : OutcomeStatus)
  | markRecoveryAttempted (transactionHash : List Char)
  | listRecoveryCandidates (limit : ℕ)
  -- the request and its handoff
  | validateRequest (request : CreateTrade)
  | validateHandoff (request : CreateTrade) (handoff : Handoff)
  -- the chain
  | executorAddress
  | getBalance (address : List Char)
  | simulateCall (request : CreateTrade)
  | estimateGas (request : CreateTrade)
  | getFeeData
  | getTransactionCount (address : List Char) (tag : BlockTag)
  /-- Hand the signed transaction over: the hash that the provider returns. -/
  | broadcastTransaction (signed : Identity)
  | waitReceipt (transactionHash : List Char)
  | getTransactionReceipt (transactionHash : List Char)
  | getTransaction (transactionHash : List Char)
  -- the finality verifier
  | verifyReceipt (transactionHash : List Char) (receipt : Receipt)
  | revalidateBlock (blockNumber : ℕ) (blockHash : List Char)
  -- the nonce reservation and the signer
  | reserveNonce (request : CreateTrade) (nonce : ℕ)
  | beginSigning (request : CreateTrade) (nonce : ℕ)
  /-- Sign and validate: the identity of the signed transaction. -/
  | signTransaction (request : CreateTrade) (nonce : ℕ)
  | recordSigned (signed : Identity)

@[reducible] def Ans : Op → Type
  | .getHandoff _ => Option Handoff
  | .recordEvent _ => Recorded
  | .connect => Unit
  | .lock => Unit
  | .unlock => Unit
  | .recordPrepared _ => Unit
  | .transitionOutcome _ _ _ => Bool
  | .readOutcome _ => Option Outcome
  | .markOrphaned _ => Bool
  | .applyProjection _ _ => Bool
  | .markRecoveryAttempted _ => Unit
  | .listRecoveryCandidates _ => List Outcome
  | .validateRequest _ => Unit
  | .validateHandoff _ _ => Unit
  | .executorAddress => List Char
  | .getBalance _ => ℕ
  | .simulateCall _ => Unit
  | .estimateGas _ => ℕ
  | .getFeeData => FeeData
  | .getTransactionCount _ _ => ℕ
  | .broadcastTransaction _ => List Char
  | .waitReceipt _ => Option Receipt
  | .getTransactionReceipt _ => Option Receipt
  | .getTransaction _ => Bool
  | .verifyReceipt _ _ => Option (List Char)
  | .revalidateBlock _ _ => Canonicality
  | .reserveNonce _ _ => Unit
  | .beginSigning _ _ => Unit
  | .signTransaction _ _ => Identity
  | .recordSigned _ => Unit

abbrev Code := Prog Op Ans Thrown

abbrev ask (o : Op) : Code (Ans o) := Prog.call o

/-- `throw new GatewayError(…)`. -/
def throwGatewayError {α : Type} (code message : String) : Code α :=
  throw (Thrown.other ⟨Text.lit code, Text.lit message⟩)

/-- `throw new Error(…)`. -/
def throwPlain {α : Type} (message : List Char) : Code α :=
  throw (Thrown.other ⟨Text.lit "Error", message⟩)

def gaslessBroadcastFailureCode : Thrown → List Char
  | .outcomePending _ _ _ | .transactionReverted _ _ => Text.lit "UPSTREAM_UNAVAILABLE"
  | .other error => error.failureCode

structure Deployment where
  sha256 : List Char → List Char
  callbacks : CallbackConfig
  gaslessMaxGasLimit : ℕ
  gaslessMaxFeePerGasWei : ℕ
  gaslessMaxNativeCostWei : ℕ
  gaslessMinExecutorBalanceWei : ℕ

variable (d : Deployment)

/-! ### The ledger, as the programs use it -/

/-- `if (condition) await work()`. -/
def onlyIf (condition : Prop) [Decidable condition] (work : Code Unit) : Code Unit :=
  if condition then work else pure ()

def transition (transactionHash : List Char) (status : OutcomeStatus) (details : Details) :
    Code Unit := do
  let changed ← ask (.transitionOutcome transactionHash status details)
  if changed then pure ()
  else
    let existing ← ask (.readOutcome transactionHash)
    if existing.any (Outcome.settledAs status details) then pure ()
    else
      throwPlain (Text.lit "Invalid gasless transaction outcome transition for " ++
        transactionHash)

def markBroadcastUnknown (transactionHash failureCode : List Char)
    (observedTransactionHash : Option (List Char)) : Code Unit :=
  transition transactionHash .broadcastUnknown
    { failureCode := some failureCode, observedTransactionHash := observedTransactionHash }

def markConfirmationPending (transactionHash : List Char) : Code Unit :=
  transition transactionHash .confirmationPending {}

/-- `GaslessConfirmedOutcome` of a receipt. -/
def receiptOutcome (receipt : Receipt) (evidence : List Char) : Details :=
  { blockNumber := some receipt.blockNumber
    blockHash := some receipt.blockHash
    gasUsed := some receipt.gasUsed
    effectiveGasPriceWei := some receipt.gasPrice
    finalityEvidence := some evidence }

def markConfirmed (transactionHash : List Char) (outcome : Details) : Code Unit :=
  transition transactionHash .confirmed outcome

def markReverted (transactionHash : List Char) (outcome : Details) : Code Unit :=
  transition transactionHash .reverted outcome

def markOrphaned (transactionHash : List Char) : Code Unit := do
  let changed ← ask (.markOrphaned transactionHash)
  if changed then pure () else throwPlain (Text.lit "Orphaned outcome requires reconciliation")

def markProjectionApplied (transactionHash : List Char) (status : OutcomeStatus) : Code Unit := do
  let changed ← ask (.applyProjection transactionHash status)
  if changed then pure ()
  else throwPlain (Text.lit "Gasless outcome changed before projection for " ++ transactionHash)

/-! ### Life of a transaction -/

/-- Run a program whose errors are only logged. -/
def logged (p : Code Unit) : Code Unit :=
  tryCatchThe Thrown p fun _ => pure ()

def broadcastPersistedGaslessTransaction (signed : Identity) : Code (List Char) := do
  ask (.recordPrepared signed)
  let response ← Prog.attempt (ask (.broadcastTransaction signed))
  match response with
  | .error e =>
    logged (markBroadcastUnknown signed.transactionHash (gaslessBroadcastFailureCode e) none)
    throw (Thrown.outcomePending signed.transactionHash .broadcastUnknown
      (Text.lit "Gasless transaction broadcast outcome requires reconciliation"))
  | .ok hash =>
    if Text.toLowerCase hash ≠ Text.toLowerCase signed.transactionHash then
      logged (markBroadcastUnknown signed.transactionHash (Text.lit "BROADCAST_HASH_MISMATCH")
        (some (Text.toLowerCase hash)))
      throw (Thrown.outcomePending signed.transactionHash .broadcastUnknown
        (Text.lit "Gasless provider returned a different transaction identity"))
    else
      tryCatchThe Thrown (markConfirmationPending signed.transactionHash) fun _ =>
        throw (Thrown.outcomePending signed.transactionHash .confirmationPending
          (Text.lit "Gasless transaction confirmation requires reconciliation"))
      pure hash

def persistGaslessTerminalOutcome (transactionHash : List Char) (persist : Code Unit) :
    Code Unit :=
  tryCatchThe Thrown persist fun _ =>
    throw (Thrown.outcomePending transactionHash .confirmationPending
      (Text.lit "Gasless transaction confirmation requires reconciliation"))

def projectPersistedGaslessTransaction {α : Type} (transactionHash : List Char)
    (project : Code α) : Code α :=
  tryCatchThe Thrown project fun _ =>
    throw (Thrown.outcomePending transactionHash .confirmationPending
      (Text.lit "Gasless transaction outcome projection requires reconciliation"))

/-! ### The executor -/

/-- The balance check of `assertSignerBalance`. -/
def assertBalance (address : List Char) : Code Unit := do
  let balance ← ask (.getBalance address)
  if balance < d.gaslessMinExecutorBalanceWei then
    throwGatewayError "UPSTREAM_UNAVAILABLE" "Gasless executor balance is below floor"
  else pure ()

def assertSignerBalance : Code (List Char) := do
  let address ← ask .executorAddress
  assertBalance d address
  pure address

def assertGasSpendCap (gasEstimate : ℕ) : Code Unit := do
  let feeData ← ask .getFeeData
  match feeData.maxFeePerGas.or feeData.gasPrice with
  | none =>
    throwGatewayError "UPSTREAM_UNAVAILABLE" "Gasless relayer could not resolve chain fee data"
  | some fee =>
    if fee = 0 then
      throwGatewayError "UPSTREAM_UNAVAILABLE" "Gasless relayer could not resolve chain fee data"
    else if d.gaslessMaxFeePerGasWei < fee then
      throwGatewayError "UPSTREAM_UNAVAILABLE" "Gasless relayer fee-per-gas cap exceeded"
    else if d.gaslessMaxNativeCostWei < gasEstimate * fee then
      throwGatewayError "UPSTREAM_UNAVAILABLE" "Gasless relayer native spend cap exceeded"
    else pure ()

def simulateTransaction (request : CreateTrade) : Code ℕ := do
  ask (.simulateCall request)
  let gasEstimate ← ask (.estimateGas request)
  if d.gaslessMaxGasLimit < gasEstimate then
    throwGatewayError "VALIDATION_ERROR" "Gasless transaction gas estimate exceeds cap"
  else pure gasEstimate

def simulateCreateTrade (request : CreateTrade) : Code ℕ := do
  let _ ← assertSignerBalance d
  simulateTransaction d request

/-- The rest of the wait once a receipt is there. -/
def confirmReceipt (address transactionHash : List Char) (receipt : Receipt)
    (evidence : List Char) : Code Unit := do
  let outcome := receiptOutcome receipt evidence
  if receipt.status ≠ 1 then
    persistGaslessTerminalOutcome transactionHash (markReverted transactionHash outcome)
    throw (Thrown.transactionReverted transactionHash receipt.blockNumber)
  else
    assertBalance d address
    let _ ← ask (.getBalance address)
    persistGaslessTerminalOutcome transactionHash (markConfirmed transactionHash outcome)

def waitForConfirmedReceipt (address transactionHash : List Char) : Code Unit := do
  let receipt ← tryCatchThe Thrown (ask (.waitReceipt transactionHash)) fun _ => pure none
  match receipt with
  | none =>
    throw (Thrown.outcomePending transactionHash .confirmationPending
      (Text.lit "Gasless transaction confirmation requires reconciliation"))
  | some receipt =>
    let evidence ← tryCatchThe Thrown (ask (.verifyReceipt transactionHash receipt)) fun _ =>
      pure none
    match evidence with
    | none =>
      throw (Thrown.outcomePending transactionHash .confirmationPending
        (Text.lit "Gasless transaction awaits finalized chain evidence"))
    | some evidence => confirmReceipt d address transactionHash receipt evidence

def broadcastManagedTransaction (request : CreateTrade) (address : List Char) :
    Code (List Char) := do
  let nonce ← ask (.getTransactionCount address .pending)
  ask (.reserveNonce request nonce)
  ask (.beginSigning request nonce)
  let signed ← ask (.signTransaction request nonce)
  ask (.recordSigned signed)
  broadcastPersistedGaslessTransaction
    { signed with
      applicationRequestId := request.requestId
      resource := .settlementHandoff request.handoffId
      operation := Text.lit "create_trade" }

/-- The hash of the transaction, which is confirmed. -/
def executeCreateTrade (request : CreateTrade) : Code (List Char) := do
  let address ← assertSignerBalance d
  let gasEstimate ← simulateTransaction d request
  assertGasSpendCap d gasEstimate
  let hash ← broadcastManagedTransaction request address
  waitForConfirmedReceipt d address hash
  pure hash

def runExclusive {α : Type} (handler : Code α) : Code α := do
  ask .connect
  Prog.tryFinally (do ask .lock; handler) (ask .unlock)

/-! ### The workflow -/

/-- An event that the gateway records about its own request. -/
def gaslessEvent (request : CreateTrade) (eventType : EventType) (status : ExecutionStatus)
    (reconciliationStatus : ReconciliationStatus) (providerStatus : String)
    (txHash : Option (List Char)) (detail : List Char) : EventInput where
  handoffId := request.handoffId
  eventType := eventType
  executionStatus := status
  reconciliationStatus := reconciliationStatus
  providerStatus := some (Text.lit providerStatus)
  txHash := txHash
  detail := some detail
  reconciliationEvidence := .undefined
  observedAt := none
  requestId := request.requestId
  sourceApiKeyId := request.sourceApiKeyId

def PendingOutcome.event : PendingOutcome → EventType × ExecutionStatus × String
  | .broadcastUnknown => (.broadcastUnknown, .broadcastUnknown, "gasless_broadcast_unknown")
  | .confirmationPending =>
    (.confirmationPending, .confirmationPending, "gasless_confirmation_pending")

def failureEvent (request : CreateTrade) (reconciliationStatus : ReconciliationStatus) :
    Thrown → EventInput
  | .outcomePending hash outcome message =>
    gaslessEvent request outcome.event.1 outcome.event.2.1 reconciliationStatus
      outcome.event.2.2 (some hash) message
  | .transactionReverted hash _ =>
    gaslessEvent request .reverted .reverted reconciliationStatus "gasless_receipt_reverted"
      (some hash) (Text.lit "Gasless transaction reverted on-chain")
  | .other error =>
    gaslessEvent request .failed .failed reconciliationStatus "gasless_pre_broadcast_failed"
      none error.message

def recordGaslessExecutionFailure {α : Type} (request : CreateTrade)
    (reconciliationStatus : ReconciliationStatus) (error : Thrown) : Code α := do
  let _ ← ask (.recordEvent (failureEvent request reconciliationStatus error))
  match error with
  | .other _ => throwGatewayError "UPSTREAM_UNAVAILABLE" "Gasless execution failed"
  | _ => throw error

/-- The two events of a confirmed transaction. -/
def projectConfirmed (request : CreateTrade) (reconciliationStatus : ReconciliationStatus)
    (hash : List Char) : Code Unit := do
  let submitted ← ask (.recordEvent (gaslessEvent request .submitted .submitted
    reconciliationStatus "gasless_broadcast_submitted" (some hash)
    (Text.lit "Gasless create-trade transaction submitted by Cotsel.")))
  let _ ← ask (.recordEvent (gaslessEvent request .confirmed .confirmed
    submitted.handoff.reconciliationStatus "gasless_receipt_confirmed" (some hash)
    (Text.lit "Gasless create-trade transaction confirmed on-chain.")))
  pure ()

/-- The part of the workflow whose errors are recorded. -/
def executeAccepted (request : CreateTrade) (accepted : Recorded) : Code Unit := do
  let queued ← ask (.recordEvent (gaslessEvent request .queued .queued
    accepted.handoff.reconciliationStatus "gasless_request_queued" none
    (Text.lit "Gasless create-trade request queued for simulation.")))
  let _ ← simulateCreateTrade d request
  let simulation ← ask (.recordEvent (gaslessEvent request .simulationCompleted .queued
    queued.handoff.reconciliationStatus "gasless_simulation_completed" none
    (Text.lit "Gasless create-trade transaction simulation completed.")))
  let hash ← runExclusive (executeCreateTrade d request)
  projectPersistedGaslessTransaction hash
    (projectConfirmed request simulation.handoff.reconciliationStatus hash)

def executeCreateTradeWorkflow (request : CreateTrade) : Code Unit := do
  ask (.validateRequest request)
  match ← ask (.getHandoff request.handoffId) with
  | none => throwGatewayError "NOT_FOUND" "Settlement handoff not found"
  | some handoff =>
    ask (.validateHandoff request handoff)
    let accepted ← ask (.recordEvent (gaslessEvent request .accepted .accepted
      handoff.reconciliationStatus "gasless_request_accepted" none
      (Text.lit "Gasless create-trade request accepted by Cotsel execution service.")))
    tryCatchThe Thrown (executeAccepted d request accepted)
      (recordGaslessExecutionFailure request accepted.handoff.reconciliationStatus)

/-! ### The observer -/

def recoveryEvent (record : Outcome) (handoffId : ℕ) (eventType : EventType)
    (status : ExecutionStatus) (reconciliationStatus : ReconciliationStatus)
    (providerStatus detail : String) : EventInput where
  handoffId := handoffId
  eventType := eventType
  executionStatus := status
  reconciliationStatus := reconciliationStatus
  providerStatus := some (Text.lit providerStatus)
  txHash := some record.transactionHash
  detail := some (Text.lit detail)
  reconciliationEvidence := .undefined
  observedAt := none
  requestId := record.identity.applicationRequestId
  sourceApiKeyId := none

def orphanedEvent (record : Outcome) (handoffId : ℕ) : EventInput :=
  recoveryEvent record handoffId .chainEvidenceOrphaned .confirmationPending .drift
    "gasless_finalized_block_orphaned"
    "Recorded finalized chain evidence was orphaned. Governed reconciliation is required."

def onOrphaned (record : Outcome) : Code Unit :=
  match record.resource with
  | .platformTransfer _ => pure ()
  | .settlementHandoff handoffId => do
    let _ ← ask (.recordEvent (orphanedEvent record handoffId))
    pure ()

/-- The statuses that are projected onto a handoff. -/
inductive Projection
  | broadcastUnknown
  | confirmationPending
  | confirmed
  | reverted
deriving DecidableEq

namespace Projection

def outcome : Projection → OutcomeStatus
  | broadcastUnknown => .broadcastUnknown
  | confirmationPending => .confirmationPending
  | confirmed => .confirmed
  | reverted => .reverted

def execution : Projection → ExecutionStatus
  | broadcastUnknown => .broadcastUnknown
  | confirmationPending => .confirmationPending
  | confirmed => .confirmed
  | reverted => .reverted

def eventType : Projection → EventType
  | broadcastUnknown => .broadcastUnknown
  | confirmationPending => .confirmationPending
  | confirmed => .confirmed
  | reverted => .reverted

def providerStatus : Projection → String
  | broadcastUnknown => "gasless_recovery_broadcast_unknown"
  | confirmationPending => "gasless_recovery_confirmation_pending"
  | confirmed => "gasless_recovery_confirmed"
  | reverted => "gasless_recovery_reverted"

def detail : Projection → String
  | broadcastUnknown => "Gasless transaction recovery resolved broadcast unknown."
  | confirmationPending => "Gasless transaction recovery resolved confirmation pending."
  | confirmed => "Gasless transaction recovery resolved confirmed."
  | reverted => "Gasless transaction recovery resolved reverted."

end Projection

def requireHandoff (record : Outcome) (handoffId : ℕ) : Code Handoff := do
  match ← ask (.getHandoff handoffId) with
  | some handoff => pure handoff
  | none =>
    throwPlain (Text.lit "Missing settlement handoff for gasless outcome " ++
      record.transactionHash)

def projectionEvent (record : Outcome) (handoffId : ℕ)
    (reconciliationStatus : ReconciliationStatus) (projection : Projection) : EventInput :=
  recoveryEvent record handoffId projection.eventType projection.execution reconciliationStatus
    projection.providerStatus projection.detail

def recordHandoffOutcome (record : Outcome) (projection : Projection) : Code Unit :=
  match record.resource with
  | .platformTransfer _ => pure ()
  | .settlementHandoff handoffId => do
    let handoff ← requireHandoff record handoffId
    let _ ← ask (.recordEvent
      (projectionEvent record handoffId handoff.reconciliationStatus projection))
    pure ()

def prepareTerminalProjection (record : Outcome) : Code Unit :=
  match record.resource with
  | .platformTransfer _ => pure ()
  | .settlementHandoff handoffId => do
    let handoff ← requireHandoff record handoffId
    if handoff.executionStatus ∈ [ExecutionStatus.pending, .accepted, .queued] then
      recordHandoffOutcome record .confirmationPending
    else pure ()

/-- `onConfirmed` and `onReverted`. -/
def onTerminal (record : Outcome) (projection : Projection) : Code Unit := do
  prepareTerminalProjection record
  recordHandoffOutcome record projection

/-! ### The reconciler -/

/-- The status was not projected yet. -/
def Outcome.unprojected (record : Outcome) (projection : Projection) : Bool :=
  record.projectedOutcomeStatus ≠ some projection.outcome

def projectBroadcastUnknown (record : Outcome) (failureCode : List Char) : Code Unit := do
  onlyIf (record.outcomeStatus ≠ .broadcastUnknown ∨ record.failureCode ≠ some failureCode)
    (markBroadcastUnknown record.transactionHash failureCode
      (record.observedTransactionHash.filter (· ≠ [])))
  onlyIf (record.unprojected .broadcastUnknown) (do
    recordHandoffOutcome record .broadcastUnknown
    markProjectionApplied record.transactionHash .broadcastUnknown)

def reconcileFinal (record : Outcome) (projection : Projection) (outcome : Details) :
    Code Unit := do
  onlyIf (record.unprojected projection) (onTerminal record projection)
  onlyIf (record.outcomeStatus ≠ projection.outcome ∨ record.finalityEvidence = none)
    (transition record.transactionHash projection.outcome outcome)
  markProjectionApplied record.transactionHash projection.outcome

def reconcileUnfinal (record : Outcome) : Code Unit :=
  onlyIf (record.isTerminal = false) (do
    markConfirmationPending record.transactionHash
    onlyIf (record.unprojected .confirmationPending) (do
      recordHandoffOutcome record .confirmationPending
      markProjectionApplied record.transactionHash .confirmationPending))

def reconcilePending (record : Outcome) : Code Unit := do
  onlyIf (record.unprojected .confirmationPending)
    (recordHandoffOutcome record .confirmationPending)
  onlyIf (record.outcomeStatus ≠ .confirmationPending)
    (markConfirmationPending record.transactionHash)
  onlyIf (record.unprojected .confirmationPending)
    (markProjectionApplied record.transactionHash .confirmationPending)

/-- What is known of a hash that the provider returned instead of the transaction's. -/
def observedFailure (record : Outcome) : Code (Option (List Char)) :=
  match record.observedTransactionHash with
  | none => pure none
  | some observed =>
    if observed = [] ∨ Text.toLowerCase observed = Text.toLowerCase record.transactionHash then
      pure none
    else do
      if (← ask (.getTransactionReceipt observed)).isSome then
        pure (some (Text.lit "RECOVERY_OBSERVED_HASH_HAS_RECEIPT"))
      else if ← ask (.getTransaction observed) then
        pure (some (Text.lit "RECOVERY_OBSERVED_HASH_IS_PENDING"))
      else pure none

/-- The failure code of a transaction that was not found. -/
def missingFailure (record : Outcome) : Code (List Char) := do
  let confirmedNonce ← ask (.getTransactionCount record.identity.signerAddress .latest)
  let pendingNonce ← ask (.getTransactionCount record.identity.signerAddress .pending)
  if record.identity.nonce < confirmedNonce then
    pure (Text.lit "RECOVERY_SIGNER_NONCE_CONFIRMED_PAST_TRANSACTION")
  else if record.identity.nonce < pendingNonce then
    pure (Text.lit "RECOVERY_SIGNER_NONCE_PENDING_PAST_TRANSACTION")
  else pure (Text.lit "RECOVERY_TRANSACTION_NOT_FOUND")

def reconcileMissing (record : Outcome) : Code Unit := do
  match ← observedFailure record with
  | some failureCode => projectBroadcastUnknown record failureCode
  | none =>
    let failureCode ← missingFailure record
    projectBroadcastUnknown record failureCode

/-- What the chain says of the transaction. -/
def reconcileObserved (record : Outcome) : Code Unit := do
  match ← ask (.getTransactionReceipt record.transactionHash) with
  | some receipt =>
    match ← ask (.verifyReceipt record.transactionHash receipt) with
    | none => reconcileUnfinal record
    | some evidence =>
      reconcileFinal record (if receipt.status = 1 then .confirmed else .reverted)
        (receiptOutcome receipt evidence)
  | none =>
    if record.isTerminal then pure ()
    else if ← ask (.getTransaction record.transactionHash) then reconcilePending record
    else reconcileMissing record

def reconcileOrphaned (record : Outcome) : Code Unit := do
  markOrphaned record.transactionHash
  onOrphaned record
  markProjectionApplied record.transactionHash .confirmationPending

def reconcile (record : Outcome) : Code Unit :=
  if record.failureCode = some finalizedBlockOrphaned then
    onlyIf (record.unprojected .confirmationPending) (do
      onOrphaned record
      markProjectionApplied record.transactionHash .confirmationPending)
  else if record.isTerminal then
    match record.blockNumber, record.blockHash with
    | some blockNumber, some blockHash => do
      match ← ask (.revalidateBlock blockNumber blockHash) with
      | .orphaned => reconcileOrphaned record
      | .unavailable => pure ()
      | .canonical => reconcileObserved record
    | _, _ => reconcileObserved record
  else reconcileObserved record

def reconcileAll : List Outcome → Code Unit
  | [] => pure ()
  | record :: records => do
    logged (reconcile record)
    logged (ask (.markRecoveryAttempted record.transactionHash))
    reconcileAll records

def processUnresolved (limit : ℕ) : Code Unit := do
  let records ← ask (.listRecoveryCandidates limit)
  reconcileAll records

/-! ### The surroundings -/

/-- The database, and which process holds the broadcast lock. -/
structure Store where
  settlement : Settlement.State
  outcomes : List Outcome
  lock : Option ℕ

/-- What becomes of a statement. -/
inductive Fate
  | works
  /-- The connection is lost before the statement takes effect. -/
  | lost (error : PlainError)
  /-- The connection is lost after the statement took effect. -/
  | unacknowledged (error : PlainError)
deriving DecidableEq

/-- The choices that the store leaves open. -/
structure Luck where
  fate : Fate
  /-- The time of the database. -/
  time : ℕ
  /-- What the chain, the signer and the other services answer. -/
  reply : (o : Op) → Except PlainError (Ans o)

def Luck.answer (luck : Luck) (o : Op) : Except Thrown (Ans o) :=
  (luck.reply o).mapError Thrown.other

/-- The outcome of a statement with this effect. -/
def statement {α : Type} (s : Store) (effect : Except Thrown (α × Store)) :
    Fate → Except Thrown α × Store
  | .works =>
    match effect with
    | .ok (a, s') => (.ok a, s')
    | .error e => (.error e, s)
  | .lost error => (.error (.other error), s)
  | .unacknowledged error =>
    match effect with
    | .ok (_, s') => (.error (.other error), s')
    | .error _ => (.error (.other error), s)

def refusal : Failure → PlainError
  | .validation message _ => ⟨Text.lit "VALIDATION_ERROR", message⟩
  | .forbidden message => ⟨Text.lit "FORBIDDEN", message⟩
  | .notFound message _ => ⟨Text.lit "NOT_FOUND", message⟩
  | .conflict message _ => ⟨Text.lit "CONFLICT", message⟩
  | .internal message => ⟨Text.lit "INTERNAL_ERROR", message⟩
  | .database _ => ⟨Text.lit "23505", Text.lit "duplicate key value violates unique constraint"⟩

/-- `SettlementService.recordExecutionEvent`, at the time `now`. -/
def Store.recordEvent (s : Store) (input : EventInput) (now : ℕ) :
    Except Thrown (Recorded × Store) :=
  match Settlement.recordEvent d.sha256 d.callbacks { input with observedAt := some now } now
    s.settlement with
  | .ok (recorded, settlement) => .ok (recorded, { s with settlement := settlement })
  | .error failure => .error (.other (refusal failure))

/-- The update of one row of the ledger: whether it changed. -/
def Store.updateOutcome (s : Store) (transactionHash : List Char) (cond : Outcome → Bool)
    (change : Outcome → Outcome) : Bool × Store :=
  ((Table.lookup Gasless.outcomes transactionHash s.outcomes).any cond,
    { s with outcomes := Table.modify Gasless.outcomes transactionHash cond change s.outcomes })

def Store.recordPrepared (s : Store) (identity : Identity) (now : ℕ) :
    Except Thrown (Unit × Store) :=
  match Table.insert Gasless.outcomes (.prepare identity now) s.outcomes with
  | .ok rows => .ok ((), { s with outcomes := rows })
  | .error (.refused _) =>
    .error (.other ⟨Text.lit "23514", Text.lit "new row violates check constraint"⟩)
  | .error (.unique .request) | .error (.unique .check) =>
    .error (.other ⟨Text.lit "23505",
      Text.lit "duplicate key value violates unique constraint"⟩)
  | .error (.unique .primaryKey) =>
    .error (.other ⟨Text.lit "Error",
      Text.lit "Gasless transaction identity already exists for " ++ identity.transactionHash⟩)

/-- The answer to an operation of the process `p`, and the store after it; `none` while the process
has to wait for the lock. -/
def perform (p : ℕ) (o : Op) (luck : Luck) (s : Store) : Option (Except Thrown (Ans o) × Store) :=
  match o with
  | .getHandoff id => some (statement s (.ok (Settlement.getHandoff id s.settlement, s)) luck.fate)
  | .recordEvent input => some (statement s (s.recordEvent d input luck.time) luck.fate)
  | .connect => some (luck.answer .connect, s)
  | .lock =>
    match luck.fate, s.lock with
    | .works, none => some (.ok (), { s with lock := some p })
    | .works, some _ => none
    | .lost error, _ => some (.error (.other error), s)
    | .unacknowledged error, _ => some (.error (.other error), s)
  | .unlock =>
    -- with its connection a process loses the lock, too
    let s' := if s.lock = some p then { s with lock := none } else s
    match luck.fate with
    | .works => some (.ok (), s')
    | .lost error => some (.error (.other error), s')
    | .unacknowledged error => some (.error (.other error), s')
  | .recordPrepared identity =>
    some (statement s (s.recordPrepared identity luck.time) luck.fate)
  | .transitionOutcome hash status details =>
    some (statement s (.ok (s.updateOutcome hash (Outcome.moves status details)
      (Outcome.move status details))) luck.fate)
  | .readOutcome hash =>
    some (statement s (.ok (Table.lookup Gasless.outcomes hash s.outcomes, s)) luck.fate)
  | .markOrphaned hash =>
    some (statement s (.ok (s.updateOutcome hash Outcome.isTerminal Outcome.orphan)) luck.fate)
  | .applyProjection hash status =>
    some (statement s (.ok (s.updateOutcome hash (fun r => r.outcomeStatus = status)
      fun r => { r with projectedOutcomeStatus := some status })) luck.fate)
  | .markRecoveryAttempted hash =>
    some (statement s (.ok ((), (s.updateOutcome hash (fun _ => true)
      fun r => { r with attemptedAt := luck.time }).2)) luck.fate)
  | .listRecoveryCandidates limit =>
    some (statement s (.ok (recoveryCandidates limit s.outcomes, s)) luck.fate)
  | .validateRequest request => some (luck.answer (.validateRequest request), s)
  | .validateHandoff request handoff => some (luck.answer (.validateHandoff request handoff), s)
  | .executorAddress => some (luck.answer .executorAddress, s)
  | .getBalance address => some (luck.answer (.getBalance address), s)
  | .simulateCall request => some (luck.answer (.simulateCall request), s)
  | .estimateGas request => some (luck.answer (.estimateGas request), s)
  | .getFeeData => some (luck.answer .getFeeData, s)
  | .getTransactionCount address tag => some (luck.answer (.getTransactionCount address tag), s)
  | .broadcastTransaction signed => some (luck.answer (.broadcastTransaction signed), s)
  | .waitReceipt hash => some (luck.answer (.waitReceipt hash), s)
  | .getTransactionReceipt hash => some (luck.answer (.getTransactionReceipt hash), s)
  | .getTransaction hash => some (luck.answer (.getTransaction hash), s)
  | .verifyReceipt hash receipt => some (luck.answer (.verifyReceipt hash receipt), s)
  | .revalidateBlock number hash => some (luck.answer (.revalidateBlock number hash), s)
  | .reserveNonce request nonce => some (luck.answer (.reserveNonce request nonce), s)
  | .beginSigning request nonce => some (luck.answer (.beginSigning request nonce), s)
  | .signTransaction request nonce => some (luck.answer (.signTransaction request nonce), s)
  | .recordSigned signed => some (luck.answer (.recordSigned signed), s)

/-- The lock of a process goes with it. -/
def abandon (p : ℕ) (s : Store) : Store :=
  if s.lock = some p then { s with lock := none } else s

inductive Request
  | createTrade (request : CreateTrade)
  | processUnresolved (limit : ℕ)
deriving DecidableEq

def serve : Request → Code Unit
  | .createTrade request => executeCreateTradeWorkflow d request
  | .processUnresolved limit => processUnresolved limit

def world : World Op Ans Thrown Unit Store ℕ Luck Request where
  perform := perform d
  abandon := abandon
  program := serve d

end Cotsel.Gateway.Gasless
