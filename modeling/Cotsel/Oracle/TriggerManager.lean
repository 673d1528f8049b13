import Cotsel.Oracle.Operations

/-!
# The trigger manager

`oracle/src/core`: `TriggerManager`, `executeTriggerWithRetry` and what they call, as programs over
the operations.  Early returns of the source are branches here; `try`/`catch` is `attempt` or
`tryCatchThe`.  Logs, metrics and the pauses between attempts are left out.
-/

namespace Cotsel.Oracle

open Text Sdk Interaction

variable (d : Deployment)

/-! ### Instructions and trades -/

/-- The phase that belongs to each type, in `requireFundedBinding`. -/
def TriggerType.phase : TriggerType → Phase
  | .releaseStage1 => .initialReleaseAfterCustodyAndDocuments
  | .confirmArrival => .inspectionAvailableStandard
  | .confirmInspectionAvailableStandard => .inspectionAvailableStandard
  | .confirmInspectionAvailablePackagedLocal => .inspectionAvailablePackagedLocal
  | .finalizeAfterInspectionAcceptance => .finalReleaseAfterInspectionAcceptance
  | .finalizeTrade => .finalReleaseAfterNoticeDeadline

/-- A value that may be missing. -/
def bindingValue : Option SettlementFundedBinding → JsValue
  | none => .other
  | some b => b.toJs

def requireFundedBinding (value : Option SettlementFundedBinding) (tradeId : List Char)
    (triggerType : TriggerType) : Except Thrown SettlementFundedBinding :=
  match parseSettlementFundedBinding d.codec (bindingValue value) with
  | .error _ => .error (validationError
      (lit "An immutable original funded binding is required for financial execution"))
  | .ok binding =>
    if binding .tradeId = tradeId ∧ binding .phase = triggerType.phase.text then .ok binding
    else .error (validationError
      (lit "The progression phase or trade differs from the original funded instruction"))

/-- An error of the SDK's binding functions. -/
def bindingError (e : BindingError) : Thrown := plainError (lit e.message)

/-- `getAddress(address).toLowerCase()`. -/
def lowerAddress (address : List Char) : Except Thrown (List Char) :=
  match d.codec.getAddress address with
  | none => .error (.other (lit "INVALID_ARGUMENT") (lit "invalid address"))
  | some a => .ok (toLowerCase a)

/-- The first condition of `verifyFundedSettlementBinding`. -/
def assertDeployment (binding : SettlementFundedBinding) : Except Thrown Unit := do
  let foreign := validationError
    (lit "The funded trade does not belong to this independently witnessed Oracle deployment")
  Guard.require (decimal d.chainId = binding .chainId) foreign
  let escrow ← lowerAddress d d.escrowAddress
  Guard.require (escrow = binding .escrowAddress) foreign
  let token ← lowerAddress d d.tokenAddress
  Guard.require (token = binding .tokenAddress) foreign
  Guard.require (d.witnessIds.length = 2) foreign

def verifyFundedSettlementBinding (value : SettlementFundedBinding) : Code Unit := do
  let binding ← check ((parseSettlementFundedBinding d.codec value.toJs).mapError bindingError)
  check (assertDeployment d binding)
  ask (.witnessFunding binding)

/-- `SDKClient.getTrade`. -/
def getTrade (tradeId : List Char) : Code OnChainTrade := do
  let trade ← ask (.getTrade tradeId)
  if trade.tradeId = ['0'] ∨ trade.buyer = zeroAddress then
    throwThe Thrown (validationError (lit "Trade " ++ tradeId ++ lit " does not exist on-chain"))
  else pure trade

def assertFundedBinding (value : SettlementFundedBinding) : Code Unit := do
  let binding ← check ((parseSettlementFundedBinding d.codec value.toJs).mapError bindingError)
  verifyFundedSettlementBinding d binding
  let trade ← getTrade (binding .tradeId)
  check ((assertFundedTradeMatchesBinding d.codec trade.toTrade binding).mapError bindingError)

def tradeStatusName : Escrow.TradeStatus → String
  | .locked => "LOCKED"
  | .inTransit => "IN_TRANSIT"
  | .arrivalConfirmed => "ARRIVAL_CONFIRMED"
  | .frozen => "FROZEN"
  | .closed => "CLOSED"

/-- One of the status checks of `StateValidator`. -/
def expectStatus (operation : String) (expected : Escrow.TradeStatus) (trade : OnChainTrade) :
    Except Thrown Unit :=
  Guard.require (trade.status = expected) (validationError
    (lit "Cannot " ++ lit operation ++ lit ": Trade " ++ trade.tradeId ++ lit " is in status " ++
      lit (tradeStatusName trade.status) ++ lit ", expected " ++ lit (tradeStatusName expected)))

def validateReleaseStage1 : OnChainTrade → Except Thrown Unit :=
  expectStatus "release stage 1" .locked

def validateConfirmArrival : OnChainTrade → Except Thrown Unit :=
  expectStatus "confirm arrival" .inTransit

def validateFinalizeTrade (trade : OnChainTrade) : Except Thrown Unit := do
  expectStatus "finalize" .arrivalConfirmed trade
  Guard.require (trade.arrivalTimestamp.isSome = true) (validationError
    (lit "Cannot finalize: Trade " ++ trade.tradeId ++ lit " has no arrival timestamp"))

def validateTradeState (trade : OnChainTrade) : TriggerType → Except Thrown Unit
  | .releaseStage1 => validateReleaseStage1 trade
  | .confirmArrival => validateConfirmArrival trade
  | .confirmInspectionAvailableStandard => validateConfirmArrival trade
  | .confirmInspectionAvailablePackagedLocal => validateConfirmArrival trade
  | .finalizeAfterInspectionAcceptance => validateFinalizeTrade trade
  | .finalizeTrade => validateFinalizeTrade trade

def validateTradeId (tradeId : List Char) : Except Thrown Unit :=
  Guard.require (IsDigits tradeId) (validationError (lit "Invalid trade ID format: " ++ tradeId))

/-- `ReconciliationContainmentGuard.assertMayProgress`: a guard that cannot be read refuses. -/
def assertMayProgress (tradeId : List Char) : Code Unit := do
  let row ← tryCatchThe Thrown (ask (.containment tradeId)) fun _ =>
    throwThe Thrown (tradeContainedError (lit "Cannot confirm trade " ++ tradeId ++
      lit " is clear of a reconciliation containment"))
  match row with
  | none => pure ()
  | some c =>
    throwThe Thrown (tradeContainedError (lit "Trade " ++ tradeId ++
      lit " is under reconciliation containment " ++ c.incidentReference ++ lit " (" ++ c.state ++
      lit ") and must not progress until it is released"))

def assertTradeMayProgress (tradeId : List Char) : Code Unit := do
  let paused ← ask (.isTradePaused tradeId)
  if paused then
    throwThe Thrown (validationError (lit "Trade " ++ tradeId ++
      lit " is paused; oracle actions are blocked until an admin resumes it"))
  else assertMayProgress tradeId

/-! ### Responses -/

structure TriggerResponse where
  idempotencyKey : List Char
  actionKey : List Char
  requestId : List Char
  status : TriggerStatus
  txHash : Option (List Char) := none
  blockNumber : Option ℕ := none
  idempotent : Bool
  message : List Char
  finality : Option TransactionFinalityPosition := none
deriving DecidableEq

/-- `tx_hash || undefined`. -/
def orUndefined (s : Option (List Char)) : Option (List Char) := if truthy s then s else none

def handleExistingTrigger (trigger : Trigger) (actionKey : List Char) : TriggerResponse :=
  match trigger.status with
  | .confirmed | .submitted =>
    { idempotencyKey := trigger.idempotencyKey, actionKey, requestId := trigger.requestId
      status := trigger.status, txHash := orUndefined trigger.txHash
      blockNumber := trigger.blockNumber, idempotent := true
      message := lit "Trigger already executed for this request (idempotent)"
      finality := trigger.finality }
  | .terminalFailure =>
    { idempotencyKey := trigger.idempotencyKey, actionKey, requestId := trigger.requestId
      status := trigger.status, idempotent := false
      message := storedFailureMessage trigger.errorType }
  | .exhaustedNeedsRedrive =>
    { idempotencyKey := trigger.idempotencyKey, actionKey, requestId := trigger.requestId
      status := trigger.status, idempotent := false
      message := lit
        "Trigger exhausted retries. Use re-drive endpoint to retry with on-chain verification." }
  | _ =>
    { idempotencyKey := trigger.idempotencyKey, actionKey, requestId := trigger.requestId
      status := trigger.status, idempotent := false, message := lit "Trigger in progress"
      finality := trigger.finality }

def buildResponseFromTrigger (trigger : Trigger) (message : List Char) : TriggerResponse :=
  { idempotencyKey := trigger.idempotencyKey, actionKey := trigger.actionKey
    requestId := trigger.requestId, status := trigger.status, txHash := trigger.txHash
    blockNumber := trigger.blockNumber, idempotent := decide trigger.Completed, message
    finality := trigger.finality }

/-! ### Signer dispatches -/

def getDispatchSignerScope : Code SignerScope := do
  let address ← ask .signerAddress
  pure ⟨decimal d.chainId, toLowerCase address⟩

/-- `verifyOracleDispatchFinality`. -/
def verifyDispatchFinality (scope : SignerScope) (transactionHash : List Char) :
    Code OracleDispatchFinality := do
  let required := validationError (lit "Independent Oracle signer evidence is required")
  let address ← check (lowerAddress d scope.address)
  match d.witnessIds with
  | [first, second] =>
    if IsDigits scope.chainId ∧ scope.chainId.head? ≠ some '0' ∧ address = scope.address ∧
        IsLowerHex 64 transactionHash ∧ first ≠ second then do
      let seen ← ask (.witnessDispatch scope transactionHash)
      let verifiedAt ← ask .now
      pure
        { signerScope := scope, transactionHash, blockNumber := seen.blockNumber
          blockHash := toLowerCase seen.blockHash, receiptStatus := seen.receiptStatus
          witnessIds := (first, second), verifiedAt }
    else throwThe Thrown required
  | _ => throwThe Thrown required

/-- What `resolveSignerDispatch` asks of evidence, apart from its age. -/
def EvidenceShape (e : OracleDispatchFinality) : Prop :=
  e.blockNumber ≤ maxSafeInteger ∧ IsLowerHex 64 e.blockHash ∧ IsLowerHex 64 e.transactionHash ∧
    (e.receiptStatus = 0 ∨ e.receiptStatus = 1) ∧ IsLowerDigest 64 e.witnessIds.1 ∧
    IsLowerDigest 64 e.witnessIds.2 ∧ e.witnessIds.1 ≠ e.witnessIds.2

instance (e : OracleDispatchFinality) : Decidable (EvidenceShape e) :=
  inferInstanceAs (Decidable (_ ∧ _))

/-- The fields that retained evidence must share with new evidence. -/
def SameEvidence (e e' : OracleDispatchFinality) : Prop :=
  e.signerScope = e'.signerScope ∧ e.transactionHash = e'.transactionHash ∧
    e.blockNumber = e'.blockNumber ∧ e.blockHash = e'.blockHash ∧
    e.receiptStatus = e'.receiptStatus

instance (e e' : OracleDispatchFinality) : Decidable (SameEvidence e e') :=
  inferInstanceAs (Decidable (_ ∧ _))

def resolveSignerDispatch (idempotencyKey : List Char) (evidence : OracleDispatchFinality) :
    Code Unit := do
  let present ← ask .now
  let later ← ask .now
  if evidence.verifiedAt ≤ present ∧ later - evidence.verifiedAt ≤ 10000 ∧
      EvidenceShape evidence then do
    let stored ← ask (.storeFinality idempotencyKey evidence)
    if stored then pure ()
    else do
      let retained ← ask
        (.retainedFinality idempotencyKey evidence.signerScope evidence.transactionHash)
      match retained with
      | none => throwThe Thrown (plainError (lit "Original Oracle dispatch evidence changed"))
      | some e =>
        if SameEvidence e evidence then pure ()
        else throwThe Thrown (plainError (lit "Original Oracle dispatch evidence changed"))
  else throwThe Thrown (plainError
    (lit "Fresh independent original dispatch evidence is required"))

def claimTriggerDispatch (idempotencyKey : List Char) (scope : SignerScope) : Code Bool :=
  if scope.WellFormed then ask (.claimTriggerDispatch idempotencyKey scope)
  else throwThe Thrown (plainError (lit "Invalid Oracle signer scope"))

/-! ### Execution -/

def buyerAuthorizationRequired : Thrown :=
  validationError (lit "Buyer authorization is required; submit inspection acceptance through " ++
    lit "the gateway user-action route")

/-- `submitTriggerAction`: the escrow call of each type. -/
def submitTriggerAction (trigger : Trigger) : Code (List Char) :=
  match trigger.triggerType with
  | .releaseStage1 =>
    ask (.escrowCall trigger.idempotencyKey (.releaseFundsStage1 trigger.tradeId))
  | .confirmArrival | .confirmInspectionAvailableStandard =>
    ask (.escrowCall trigger.idempotencyKey
      (.confirmInspectionAvailable trigger.tradeId (72 * 60 * 60)))
  | .confirmInspectionAvailablePackagedLocal =>
    ask (.escrowCall trigger.idempotencyKey
      (.confirmInspectionAvailable trigger.tradeId (48 * 60 * 60)))
  | .finalizeAfterInspectionAcceptance =>
    throwThe Thrown buyerAuthorizationRequired
  | .finalizeTrade =>
    ask (.escrowCall trigger.idempotencyKey (.finalizeAfterDisputeWindow trigger.tradeId))

/-- The escrow call is started, and its transaction has an acceptable hash. -/
def startEscrowCall (trigger : Trigger) : Code (List Char) := do
  let hash ← submitTriggerAction trigger
  if IsHex 64 hash then pure (toLowerCase hash)
  else throwThe Thrown (validationError
    (lit "Oracle broadcast returned an invalid transaction identity"))

/-- The rest of the `try` block once the hash is known: it is stored, the receipt is awaited, and
the row is written again. -/
def followTransaction (trigger : Trigger) (observedHash : List Char) : Code BlockchainResult := do
  let submittedAt ← ask .now
  ask (.updateTrigger trigger.idempotencyKey
    { status := some .submitted, txHash := some observedHash, submittedAt := some submittedAt })
  let result ← ask (.waitReceipt observedHash)
  let receivedAt ← ask .now
  ask (.updateTrigger trigger.idempotencyKey
    { status := some .submitted, txHash := some result.txHash
      blockNumber := some result.blockNumber, submittedAt := some receivedAt })
  pure result

/-- The error path after the claim. -/
def reportUnresolved (trigger : Trigger) (actionKey : List Char)
    (observedHash : Option (List Char)) : Code TriggerResponse := do
  let status := if truthy observedHash then TriggerStatus.submitted else .executing
  ask (.updateTrigger trigger.idempotencyKey
    { status := some status
      lastError := some (lit
        "Original dispatch outcome requires independent reconciliation. Resubmission is blocked.")
      errorType := some .network })
  pure
    { idempotencyKey := trigger.idempotencyKey, actionKey, requestId := trigger.requestId, status
      txHash := observedHash, idempotent := false
      message := lit
        "Original dispatch outcome is unresolved; observation continues without another submission."
      finality := triggerFinality status observedHash none true }

/-- What follows the claim. -/
def sendClaimed (trigger : Trigger) (actionKey : List Char) : Code TriggerResponse := do
  let started ← (startEscrowCall trigger).attempt
  match started with
  | .error _ => reportUnresolved trigger actionKey none
  | .ok observedHash => do
    let followed ← (followTransaction trigger observedHash).attempt
    match followed with
    | .error _ => reportUnresolved trigger actionKey (some observedHash)
    | .ok result =>
      pure
        { idempotencyKey := trigger.idempotencyKey, actionKey, requestId := trigger.requestId
          status := .submitted, txHash := some result.txHash
          blockNumber := some result.blockNumber, idempotent := false
          message := lit "Transaction submitted, awaiting confirmation"
          finality := triggerFinality .submitted (some result.txHash) none false }

/-- An unresolved dispatch of the same signer is resolved by evidence, or blocks. -/
def settleSigner (trigger : Trigger) (scope : SignerScope) : Code Unit := do
  let unresolved ← ask (.getUnresolvedSignerDispatch scope)
  match unresolved with
  | none => pure ()
  | some other =>
    if other.idempotencyKey = trigger.idempotencyKey then pure ()
    else match other.txHash with
      | some hash =>
        if truthy other.txHash = true ∧ other.dispatchSignerScope = some scope then do
          let evidence ← verifyDispatchFinality d scope hash
          resolveSignerDispatch other.idempotencyKey evidence
        else throwThe Thrown (validationError
          (lit "Oracle signer has an unresolved original dispatch; new sends are blocked"))
      | none => throwThe Thrown (validationError
          (lit "Oracle signer has an unresolved original dispatch; new sends are blocked"))

/-- The first half of the `try` block, up to the claim: `none` when the dispatch is claimed, or the
answer when it was claimed before. -/
def claimDispatch (trigger : Trigger) (actionKey : List Char) (attempt : ℕ) :
    Code (Option TriggerResponse) := do
  let trade ← getTrade trigger.tradeId
  check (validateTradeState trade trigger.triggerType)
  ask (.updateTrigger trigger.idempotencyKey
    { status := some .executing, attemptCount := some attempt })
  if trigger.triggerType = .finalizeAfterInspectionAcceptance then
    throwThe Thrown buyerAuthorizationRequired
  else do
    let binding ← check
      (requireFundedBinding d trigger.fundedBinding trigger.tradeId trigger.triggerType)
    assertFundedBinding d binding
    assertMayProgress trigger.tradeId
    let scope ← getDispatchSignerScope d
    settleSigner d trigger scope
    let claimed ← claimTriggerDispatch trigger.idempotencyKey scope
    if claimed then pure none
    else do
      let original ← ask (.getTriggerByIdempotencyKey trigger.idempotencyKey)
      match original with
      | some row =>
        if row.Claimed then pure (some (handleExistingTrigger row actionKey))
        else throwThe Thrown (validationError
          (lit "Oracle signer dispatch is reserved; new sends are blocked"))
      | none => throwThe Thrown (validationError
          (lit "Oracle signer dispatch is reserved; new sends are blocked"))

def notifyTerminalStatus (status : TriggerStatus) (message : List Char) : Code Unit :=
  ask (.notify (lit (if status = .terminalFailure then "ORACLE_TRIGGER_TERMINAL_FAILURE"
    else "ORACLE_TRIGGER_EXHAUSTED_NEEDS_REDRIVE")) message)

/-- The error path before the claim: the failure is recorded; `none` asks for another attempt. -/
def recordFailure (trigger : Trigger) (actionKey : List Char) (attempt : ℕ) (error : Thrown) :
    Code (Option TriggerResponse) := do
  let oracleError := classifyError error
  let nextStatus := determineNextStatus oracleError attempt d.maxAttempts
  let message := publicFailureMessage oracleError
  ask (.updateTrigger trigger.idempotencyKey
    { status := some nextStatus, attemptCount := some attempt, lastError := some message
      errorType := some oracleError.errorType })
  if nextStatus = .terminalFailure then do
    notifyTerminalStatus nextStatus message
    pure (some
      { idempotencyKey := trigger.idempotencyKey, actionKey, requestId := trigger.requestId
        status := nextStatus, idempotent := false, message })
  else if nextStatus = .exhaustedNeedsRedrive then do
    let exhaustedMessage := lit "Exhausted " ++ decimal d.maxAttempts ++ lit " attempts: " ++
      message ++ lit ". Use re-drive endpoint to retry."
    notifyTerminalStatus nextStatus exhaustedMessage
    pure (some
      { idempotencyKey := trigger.idempotencyKey, actionKey, requestId := trigger.requestId
        status := nextStatus, idempotent := false, message := exhaustedMessage })
  else if attempt < d.maxAttempts ∧ oracleError.isTerminal = false then pure none
  else throwThe Thrown error

/-- The `while` loop, with the number of attempts that are left. -/
def attemptFrom (trigger : Trigger) (actionKey : List Char) : ℕ → ℕ → Code TriggerResponse
  | 0, _ => throwThe Thrown (plainError
      (lit "Retry loop exited without terminal status for action " ++ actionKey ++
        lit " after " ++ decimal d.maxAttempts ++ lit " attempts"))
  | left + 1, attempt => do
    let claimed ← (claimDispatch d trigger actionKey attempt).attempt
    match claimed with
    | .ok none => sendClaimed trigger actionKey
    | .ok (some response) => pure response
    | .error error => do
      let recorded ← recordFailure d trigger actionKey attempt error
      match recorded with
      | some response => pure response
      | none => attemptFrom trigger actionKey left (attempt + 1)

def executeTriggerWithRetry (trigger : Trigger) (actionKey : List Char) : Code TriggerResponse :=
  attemptFrom d trigger actionKey d.maxAttempts 1

/-! ### Requests -/

structure TriggerRequest where
  fundedBinding : Option SettlementFundedBinding
  tradeId : List Char
  requestId : List Char
  triggerType : TriggerType
  isRedrive : Bool

/-- `OracleActionLock.withLock`. -/
def withLock {α : Type} (actionKey : List Char) (work : Code α) : Code α := do
  ask (.lock actionKey)
  work.tryFinally (ask (.unlock actionKey))

/-- An insertion that meets an existing row answers with the latest row of the action. -/
def createTrigger (data : CreateTriggerData) : Code Trigger :=
  tryCatchThe Thrown (ask (.insertTrigger data)) fun error =>
    if error.IsUniqueViolation then do
      let existing ← ask (.getLatestTriggerByActionKey data.actionKey)
      match existing with
      | some row => pure row
      | none => throwThe Thrown error
    else throwThe Thrown error

def createNewTrigger (request : TriggerRequest) (actionKey : List Char) : Code Trigger := do
  let fundedBinding ← check
    (requireFundedBinding d request.fundedBinding request.tradeId request.triggerType)
  createTrigger
    { fundedBinding, actionKey, requestId := request.requestId
      idempotencyKey := requestKey actionKey request.requestId
      tradeId := request.tradeId, triggerType := request.triggerType, status := .pending }

def handleRedrive (exhausted : Trigger) : Code TriggerResponse := do
  let binding ← check
    (requireFundedBinding d exhausted.fundedBinding exhausted.tradeId exhausted.triggerType)
  assertFundedBinding d binding
  assertTradeMayProgress exhausted.tradeId
  if exhausted.Claimed ∨ truthy exhausted.txHash = true ∨ exhausted.submittedAt.isSome = true then
    throwThe Thrown (validationError
      (lit "Original execution requires independent reconciliation; re-drive cannot create " ++
        lit "another transaction"))
  else do
    let trade ← getTrade exhausted.tradeId
    check (validateTradeState trade exhausted.triggerType)
    let newRequestId ← ask .randomId
    let suffix ← ask .randomId
    let fundedBinding ← check
      (requireFundedBinding d exhausted.fundedBinding exhausted.tradeId exhausted.triggerType)
    let newTrigger ← createTrigger
      { fundedBinding, actionKey := exhausted.actionKey, requestId := newRequestId
        idempotencyKey := requestKey exhausted.actionKey suffix
        tradeId := exhausted.tradeId, triggerType := exhausted.triggerType, status := .pending }
    if newTrigger.requestId ≠ newRequestId then
      pure (handleExistingTrigger newTrigger exhausted.actionKey)
    else executeTriggerWithRetry d newTrigger exhausted.actionKey

/-- The `try` block of `executeTriggerWithActionLock`. -/
def admitRequest (request : TriggerRequest) (actionKey : List Char) : Code TriggerResponse := do
  let trade ← getTrade request.tradeId
  check (validateTradeState trade request.triggerType)
  assertTradeMayProgress request.tradeId
  let trigger ← createNewTrigger d request actionKey
  if trigger.requestId ≠ request.requestId then pure (handleExistingTrigger trigger actionKey)
  else if d.manualApprovalEnabled = true ∧ request.isRedrive = false then do
    ask (.updateTrigger trigger.idempotencyKey { status := some .pendingApproval })
    pure
      { idempotencyKey := trigger.idempotencyKey, actionKey, requestId := request.requestId
        status := .pendingApproval, idempotent := false
        message := lit "Trigger created and awaiting manual approval" }
  else executeTriggerWithRetry d trigger actionKey

/-- Its `catch` block. -/
def tradeLookupError (tradeId : List Char) (error : Thrown) : Thrown :=
  if error.isCallException || includes error.message (lit "trade not found") ||
      includes error.message (lit "execution reverted") then
    validationError (lit "Trade " ++ tradeId ++ lit " does not exist on-chain")
  else error

/-- `executeTriggerWithActionLock`, once the latest trigger does not decide the answer. -/
def processRequest (request : TriggerRequest) (actionKey : List Char) : Code TriggerResponse := do
  let existingRequest ← ask
    (.getTriggerByIdempotencyKey (requestKey actionKey request.requestId))
  match existingRequest with
  | some row => pure (handleExistingTrigger row actionKey)
  | none => do
    let fundedBinding ← check
      (requireFundedBinding d request.fundedBinding request.tradeId request.triggerType)
    assertFundedBinding d fundedBinding
    tryCatchThe Thrown (admitRequest d request actionKey) fun error =>
      throwThe Thrown (tradeLookupError request.tradeId error)

/-- A request that brings an instruction brings the one of the latest trigger. -/
def assertSameInstruction (request : TriggerRequest) (latest : Trigger) : Except Thrown Unit := do
  let given ← requireFundedBinding d request.fundedBinding request.tradeId request.triggerType
  let original ← requireFundedBinding d latest.fundedBinding latest.tradeId latest.triggerType
  Guard.require (given.stringify = original.stringify) (validationError
    (lit "The original funded progression instruction cannot be replaced"))

def executeTriggerWithActionLock (request : TriggerRequest) (actionKey : List Char) :
    Code TriggerResponse := do
  let latestTrigger ← ask (.getLatestTriggerByActionKey actionKey)
  match latestTrigger with
  | none => processRequest d request actionKey
  | some latest => do
    check (if request.fundedBinding.isSome then assertSameInstruction d request latest
      else .ok ())
    if latest.Claimed ∧ ¬ latest.Completed then pure (handleExistingTrigger latest actionKey)
    else if latest.Completed then
      pure
        { idempotencyKey := latest.idempotencyKey, actionKey, requestId := latest.requestId
          status := latest.status, txHash := orUndefined latest.txHash
          blockNumber := latest.blockNumber, idempotent := true
          message := lit "Action already completed (idempotent)", finality := latest.finality }
    else if request.isRedrive = true ∧ latest.status = .exhaustedNeedsRedrive then
      handleRedrive d latest
    else processRequest d request actionKey

def executeTrigger (request : TriggerRequest) : Code TriggerResponse := do
  check (validateTradeId request.tradeId)
  let actionKey := generateActionKey request.triggerType request.tradeId
  withLock actionKey (executeTriggerWithActionLock d request actionKey)

/-- The answer to an approval or a rejection that finds nothing to do. -/
def alreadyProcessed (idempotencyKey : List Char) : Code TriggerResponse := do
  let existing ← ask (.getTriggerByIdempotencyKey idempotencyKey)
  match existing with
  | none => throwThe Thrown (validationError (lit "Trigger not found: " ++ idempotencyKey))
  | some row => pure (buildResponseFromTrigger row (lit "Trigger already processed"))

/-- The work of `resumeAfterApproval` under the lock. -/
def resumeApproved (updated : Trigger) : Code TriggerResponse := do
  let current ← ask (.getTriggerByIdempotencyKey updated.idempotencyKey)
  match current.filter fun row => row.Completed with
  | some row => pure (handleExistingTrigger row row.actionKey)
  | none => do
    assertTradeMayProgress updated.tradeId
    executeTriggerWithRetry d updated updated.actionKey

def resumeAfterApproval (idempotencyKey actor : List Char) : Code TriggerResponse := do
  let updated ← ask (.approveTrigger idempotencyKey actor)
  match updated with
  | none => alreadyProcessed idempotencyKey
  | some row => withLock row.actionKey (resumeApproved d row)

def rejectPendingTrigger (idempotencyKey actor : List Char) (reason : Option (List Char)) :
    Code TriggerResponse := do
  let updated ← ask (.rejectTrigger idempotencyKey actor reason)
  match updated with
  | none => alreadyProcessed idempotencyKey
  | some row => pure (buildResponseFromTrigger row (lit "Trigger rejected by " ++ actor))

/-! ### The confirmation worker -/

/-- `verifyOracleProgressionReceipt`. -/
def verifyProgressionReceipt (scope : SignerScope) (hash : List Char)
    (value : SettlementFundedBinding) : Code OracleDispatchFinality := do
  assertFundedBinding d value
  let binding ← check ((parseSettlementFundedBinding d.codec value.toJs).mapError bindingError)
  let evidence ← verifyDispatchFinality d scope hash
  if evidence.receiptStatus ≠ 1 ∨ scope.chainId ≠ binding .chainId then
    throwThe Thrown (validationError
      (lit "Original Oracle transaction did not complete successfully"))
  else if binding .phase = Phase.initialReleaseAfterCustodyAndDocuments.text ∨
      lit "inspection_available_" <+: binding .phase ∨
      binding .phase = Phase.finalReleaseAfterNoticeDeadline.text then do
    ask (.witnessProgression evidence binding)
    pure evidence
  else throwThe Thrown (validationError (lit "Unsupported Oracle progression receipt"))

def expectedEvent (binding : SettlementFundedBinding) : List Char :=
  if binding .phase = Phase.initialReleaseAfterCustodyAndDocuments.text then
    lit "FundsReleasedStage1"
  else if lit "inspection_available_" <+: binding .phase then lit "InspectionAvailable"
  else lit "FinalTrancheReleased"

/-- The `try` block of `checkConfirmation`, for a row with an attributable dispatch. -/
def confirmDispatch (trigger : Trigger) (scope : SignerScope) (hash : List Char) : Code Unit := do
  let binding ← check
    (requireFundedBinding d trigger.fundedBinding trigger.tradeId trigger.triggerType)
  let evidence ← verifyProgressionReceipt d scope hash binding
  let event ← ask (.findConfirmationEvent hash trigger.tradeId (expectedEvent binding))
  match event with
  | none => pure ()
  | some event =>
    if toLowerCase event.txHash = toLowerCase hash ∧ event.tradeId = trigger.tradeId ∧
        event.blockNumber = evidence.blockNumber ∧ event.eventName = expectedEvent binding then do
      resolveSignerDispatch trigger.idempotencyKey evidence
      ask (.updateTrigger trigger.idempotencyKey
        { status := some .confirmed, blockNumber := some evidence.blockNumber
          confirmationStage := some .finalized })
    else pure ()

/-- `CONFIRMATION_TIMEOUT_MS`. -/
def confirmationTimeoutMs : ℕ := 30 * 60 * 1000

/-- The `catch` block of `checkConfirmation`. -/
def reportOverdue (trigger : Trigger) : Code Unit :=
  match trigger.submittedAt with
  | none => pure ()
  | some submittedAt => do
    let present ← ask .now
    if present - submittedAt > confirmationTimeoutMs then do
      let _ ← (ask (.notify (lit "ORACLE_CONFIRMATION_TIMEOUT") (lit
        "Original Oracle transaction remains unresolved. New sends stay blocked."))).attempt
      pure ()
    else pure ()

def checkConfirmation (trigger : Trigger) : Code Unit :=
  match trigger.txHash, trigger.dispatchSignerScope with
  | some hash, some scope =>
    if truthy trigger.txHash = true ∧ trigger.submittedAt.isSome = true ∧ trigger.Claimed then
      tryCatchThe Thrown (confirmDispatch d trigger scope hash) fun _ => reportOverdue trigger
    else pure ()
  | _, _ => pure ()

/-- The rows of a poll, one after the other. -/
def checkAll : List Trigger → Code Unit
  | [] => pure ()
  | trigger :: rest => do
    checkConfirmation d trigger
    checkAll rest

/-- `BATCH_SIZE`. -/
def batchSize : ℕ := 100

def pollConfirmations : Code Unit :=
  tryCatchThe Thrown
    (do
      let rows ← ask (.getTriggersByStatus .submitted batchSize)
      checkAll d rows)
    fun _ => pure ()

/-! ### The processes -/

inductive Request
  | executeTrigger (request : TriggerRequest)
  | resumeAfterApproval (idempotencyKey actor : List Char)
  | rejectPendingTrigger (idempotencyKey actor : List Char) (reason : Option (List Char))
  | pollConfirmations

/-- The program of a request; a poll has no response. -/
def serve : Request → Code (Option TriggerResponse)
  | .executeTrigger request => do
    let response ← executeTrigger d request
    pure (some response)
  | .resumeAfterApproval idempotencyKey actor => do
    let response ← resumeAfterApproval d idempotencyKey actor
    pure (some response)
  | .rejectPendingTrigger idempotencyKey actor reason => do
    let response ← rejectPendingTrigger idempotencyKey actor reason
    pure (some response)
  | .pollConfirmations => do
    pollConfirmations d
    pure none

/-- Any number of oracle processes over one database. -/
def world : World Op Ans Thrown (Option TriggerResponse) Store ℕ Luck Request where
  perform := perform d
  abandon := abandon
  program := serve d

end Cotsel.Oracle
