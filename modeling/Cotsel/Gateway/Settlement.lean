import Cotsel.Library.Guard
import Cotsel.Library.Run
import Cotsel.Library.Table
import Cotsel.Library.Text
import Cotsel.Sdk.Finality

/-!
# Settlement handoffs

A settlement handoff is what a platform asks the gateway to settle.  Execution events move its
execution status along a state machine, and every event queues a callback to the platform.

* `core/settlementStateMachine.ts`, `core/settlementFinality.ts`: `validateExecutionTransition`
  and `isServiceReportableExecution`;
* `core/settlementService.ts`: `buildCallbackPayload`, and `recordEvent`, which derives the
  de-duplication key and the callback plan of an event;
* `core/settlementStore.ts`, `core/settlementCallbackStore.ts`: the tables and the six calls that
  write to them (`perform`).

Each call is one transaction under the row locks it takes, so it commits as a whole or does
nothing.  `randomUUID` draws a value that was not drawn before; ids are numbers.  Times are
numbers too and come from the callers.  Of the metadata of an event only the member
`reconciliationEvidence` is read.
-/

namespace Cotsel.Gateway.Settlement

open Runs Guard

/-! ### Statuses -/

/-- `SETTLEMENT_EXECUTION_STATUSES`. -/
inductive ExecutionStatus
  | pending
  | accepted
  | queued
  | broadcastUnknown
  | confirmationPending
  | submitted
  | confirmed
  | reverted
  | replaced
  | failed
  | rejected
deriving DecidableEq

/-- `SETTLEMENT_RECONCILIATION_STATUSES`. -/
inductive ReconciliationStatus
  | pending
  | matched
  | drift
  | unavailable
deriving DecidableEq

/-- `SETTLEMENT_CALLBACK_STATUSES`. -/
inductive CallbackStatus
  | pending
  | delivered
  | failed
  | deadLetter
  | disabled
deriving DecidableEq

/-- `SETTLEMENT_EVENT_TYPES`. -/
inductive EventType
  | accepted
  | queued
  | simulationCompleted
  | broadcastUnknown
  | confirmationPending
  | submitted
  | confirmed
  | reverted
  | replaced
  | failed
  | rejected
  | reconciled
  | driftDetected
  | chainEvidenceOrphaned
deriving DecidableEq

def EventType.name : EventType → String
  | .accepted => "accepted"
  | .queued => "queued"
  | .simulationCompleted => "simulation_completed"
  | .broadcastUnknown => "broadcast_unknown"
  | .confirmationPending => "confirmation_pending"
  | .submitted => "submitted"
  | .confirmed => "confirmed"
  | .reverted => "reverted"
  | .replaced => "replaced"
  | .failed => "failed"
  | .rejected => "rejected"
  | .reconciled => "reconciled"
  | .driftDetected => "drift_detected"
  | .chainEvidenceOrphaned => "chain_evidence_orphaned"

/-! ### Failures -/

inductive Constraint
  | primaryKey
  | platformRef
  | dedupeKey
deriving DecidableEq

structure TransitionDetails where
  currentExecutionStatus : ExecutionStatus
  nextExecutionStatus : Option ExecutionStatus
  eventType : EventType
deriving DecidableEq

/-- Why a call fails: the `GatewayError` it throws, or the statement that the database refuses. -/
inductive Failure
  | validation (message : List Char) (field : Option (List Char))
  | forbidden (message : List Char)
  | notFound (message : List Char) (handoffId : ℕ)
  | conflict (message : List Char) (details : Option TransitionDetails)
  | internal (message : List Char)
  | database (violation : Table.Violation Constraint)
deriving DecidableEq

/-! ### The state machine -/

/-- `EXECUTION_TRANSITIONS`. -/
def executionTransitions : ExecutionStatus → List ExecutionStatus
  | .pending =>
    [.accepted, .queued, .broadcastUnknown, .confirmationPending, .submitted, .failed, .rejected]
  | .accepted =>
    [.queued, .broadcastUnknown, .confirmationPending, .submitted, .failed, .rejected]
  | .queued => [.broadcastUnknown, .confirmationPending, .submitted, .failed, .rejected]
  | .broadcastUnknown => [.confirmationPending, .confirmed, .reverted, .replaced]
  | .confirmationPending => [.confirmed, .reverted, .replaced]
  | .submitted => [.confirmationPending, .confirmed, .reverted, .replaced]
  | .confirmed => [.confirmed]
  | .reverted => [.reverted]
  | .replaced => [.replaced]
  | .failed => [.failed]
  | .rejected => [.rejected]

/-- `SETTLEMENT_EXECUTION_FINALITY`. -/
def settlementExecutionFinality : ExecutionStatus → Option Sdk.TransactionFinalityPosition
  | .pending | .accepted | .queued => none
  | .broadcastUnknown | .confirmationPending => some ⟨.unknown, false⟩
  | .submitted => some ⟨.submitted, false⟩
  | .confirmed => some ⟨.finalized, true⟩
  | .reverted => some ⟨.reverted, true⟩
  | .replaced => some ⟨.replaced, false⟩
  | .failed | .rejected => some ⟨.failed, true⟩

/-- Both positions are known and the shared finality model refuses the move. -/
def finalityRefuses (current next : ExecutionStatus) : Bool :=
  match settlementExecutionFinality current, settlementExecutionFinality next with
  | some source, some target => !Sdk.canTransitionTransactionFinality (some source) target
  | _, _ => false

def validateExecutionTransition (current next : ExecutionStatus) (eventType : EventType) :
    Except Failure Unit :=
  match eventType with
  | .chainEvidenceOrphaned =>
    require (current ∈ [.confirmed, .reverted, .confirmationPending] ∧
        next = .confirmationPending)
      (.conflict (Text.lit
        "Chain canonicality loss must retain the original operation for reconciliation") none)
  | .reconciled | .driftDetected => do
    require (current = .confirmed)
      (.conflict (Text.lit "Reconciliation events require a confirmed settlement handoff")
        (some ⟨current, none, eventType⟩))
    require (next = current)
      (.conflict (Text.lit "Reconciliation events cannot mutate settlement execution state")
        (some ⟨current, some next, eventType⟩))
  | .simulationCompleted =>
    require (next = current)
      (.conflict (Text.lit "Execution telemetry events cannot mutate settlement execution state")
        (some ⟨current, some next, eventType⟩))
  | _ =>
    require (current = next ∨
        next ∈ executionTransitions current ∧ finalityRefuses current next = false)
      (.conflict (Text.lit "Settlement execution event violates the handoff state machine")
        (some ⟨current, some next, eventType⟩))

def isServiceReportableExecution (eventType : EventType) (status : ExecutionStatus) : Bool :=
  !([.confirmed, .reverted, .replaced].contains status) ||
    [EventType.reconciled, .driftDetected].contains eventType

/-! ### Reconciliation evidence -/

/-- The own properties of an object. -/
structure Properties (α : Type) where
  entries : List (List Char × α)
  distinct : (entries.map Prod.fst).Nodup
deriving DecidableEq

/-- `Object.keys`. -/
def Properties.keys {α : Type} (o : Properties α) : List (List Char) := o.entries.map Prod.fst

def Properties.get {α : Type} (o : Properties α) (key : String) : Option α :=
  o.entries.lookup (Text.lit key)

/-- An amount, as far as `requireObservedAmount` looks at it. -/
inductive AmountValue
  | string (s : List Char)
  | other
deriving DecidableEq

/-- A member of the evidence. -/
inductive MemberValue
  | string (s : List Char)
  | object (o : Properties AmountValue)
  /-- A primitive, `null` or an array. -/
  | other
deriving DecidableEq

/-- `metadata.reconciliationEvidence`. -/
inductive EvidenceValue
  | undefined
  | object (o : Properties MemberValue)
  /-- A primitive, `null` or an array. -/
  | other
deriving DecidableEq

structure ObservedAmounts where
  supplierPayoutUsd : List Char
  treasuryClaimableUsd : List Char
  buyerRefundUsd : List Char
deriving DecidableEq

/-- `/^(0|[1-9]\d*)(\.\d{1,2})?$/`. -/
def isSettlementAmount (s : List Char) : Bool :=
  let whole := s.takeWhile (· ≠ '.')
  let rest := s.dropWhile (· ≠ '.')
  let fraction := rest.drop 1
  (whole = ['0'] || whole ≠ [] && whole.head? ≠ some '0' && whole.all Char.isDigit) &&
    (rest = [] || 1 ≤ fraction.length && fraction.length ≤ 2 && fraction.all Char.isDigit)

def evidenceField : List Char := Text.lit "metadata.reconciliationEvidence"

def observedField : List Char := evidenceField ++ Text.lit ".observedAmounts"

/-- The keys of the object are these; they are given in the order of `sort`. -/
def requireExactKeys (keys : List (List Char)) (requiredKeys : List (List Char))
    (field : List Char) : Except Failure Unit :=
  require (keys.isPerm requiredKeys = true)
    (.validation (field ++ Text.lit " must contain exactly: " ++
      (Text.lit ", ").intercalate requiredKeys) (some field))

def requireObservedAmount (value : Option AmountValue) (field : List Char) :
    Except Failure (List Char) :=
  match value with
  | some (.string s) => do
    require (isSettlementAmount s = true) (refusal field)
    pure s
  | _ => .error (refusal field)
where
  refusal (field : List Char) : Failure :=
    .validation (field ++ Text.lit
      " must be a non-negative decimal string with at most two fractional digits") (some field)

def schemaVersion : List Char := Text.lit "cotsel.settlement-observed-amounts.v1"

/-- `parseReconciliationEvidence`; the schema version of the result is always the same one. -/
def parseReconciliationEvidence (value : EvidenceValue) (required : Bool) :
    Except Failure (Option ObservedAmounts) :=
  match value with
  | .undefined => if required then .error missing else .ok none
  | .other => .error missing
  | .object evidence => do
    requireExactKeys evidence.keys [Text.lit "observedAmounts", Text.lit "schemaVersion"]
      evidenceField
    require (evidence.get "schemaVersion" = some (.string schemaVersion))
      (.validation (evidenceField ++ Text.lit ".schemaVersion must be " ++ schemaVersion)
        (some (evidenceField ++ Text.lit ".schemaVersion")))
    match evidence.get "observedAmounts" with
    | some (.object amounts) => do
      requireExactKeys amounts.keys
        [Text.lit "buyerRefundUsd", Text.lit "supplierPayoutUsd", Text.lit "treasuryClaimableUsd"]
        observedField
      let supplierPayoutUsd ← requireObservedAmount (amounts.get "supplierPayoutUsd")
        (observedField ++ Text.lit ".supplierPayoutUsd")
      let treasuryClaimableUsd ← requireObservedAmount (amounts.get "treasuryClaimableUsd")
        (observedField ++ Text.lit ".treasuryClaimableUsd")
      let buyerRefundUsd ← requireObservedAmount (amounts.get "buyerRefundUsd")
        (observedField ++ Text.lit ".buyerRefundUsd")
      pure (some ⟨supplierPayoutUsd, treasuryClaimableUsd, buyerRefundUsd⟩)
    | _ => .error (.validation (observedField ++ Text.lit " is required") (some observedField))
where
  missing : Failure :=
    .validation (evidenceField ++
      Text.lit " is required for matched or drift reconciliation callbacks") (some evidenceField)

/-! ### Rows -/

/-- What a handoff is created with: the columns that never change. -/
structure Terms where
  platformId : List Char
  platformHandoffId : List Char
  tradeId : List Char
  phase : List Char
  settlementChannel : List Char
  displayCurrency : List Char
  displayAmount : List Char
  assetSymbol : Option (List Char)
  assetAmount : Option (List Char)
  ricardianHash : Option (List Char)
  externalReference : Option (List Char)
  executionBinding : Option (List Char)
  requestId : List Char
  sourceApiKeyId : Option (List Char)
deriving DecidableEq

/-- A row of `settlement_handoffs`. -/
structure Handoff where
  handoffId : ℕ
  terms : Terms
  executionStatus : ExecutionStatus
  reconciliationStatus : ReconciliationStatus
  callbackStatus : CallbackStatus
  providerStatus : Option (List Char)
  txHash : Option (List Char)
  latestEventId : Option ℕ
  latestEventType : Option EventType
  latestEventDetail : Option (List Char)
  latestEventAt : Option ℕ
  callbackDeliveredAt : Option ℕ
deriving DecidableEq

/-- `PersistSettlementExecutionEventInput`. -/
structure PersistInput where
  handoffId : ℕ
  eventType : EventType
  executionStatus : ExecutionStatus
  reconciliationStatus : ReconciliationStatus
  providerStatus : Option (List Char)
  txHash : Option (List Char)
  detail : Option (List Char)
  reconciliationEvidence : EvidenceValue
  observedAt : ℕ
  requestId : List Char
  sourceApiKeyId : Option (List Char)
  dedupeKey : List Char
deriving DecidableEq

/-- A row of `settlement_execution_events`. -/
structure Event extends PersistInput where
  eventId : ℕ
deriving DecidableEq

/-- `SettlementCallbackPayload`: the two rows as they are when it is built, without what the
contract fixes. -/
structure CallbackPayload where
  eventId : ℕ
  handoffId : ℕ
  terms : Terms
  executionStatus : ExecutionStatus
  reconciliationStatus : ReconciliationStatus
  callbackStatus : CallbackStatus
  providerStatus : Option (List Char)
  txHash : Option (List Char)
  latestEventType : Option EventType
  latestEventDetail : Option (List Char)
  latestEventAt : Option ℕ
  observedAt : ℕ
  eventEvidence : EvidenceValue
  reconciliationEvidence : Option ObservedAmounts
deriving DecidableEq

/-- The status of a delivery, with the lease that the table ties to `delivering`. -/
inductive DeliveryStage
  | pending
  | delivering (leaseOwner : List Char) (leaseExpiresAt : ℕ)
  | delivered
  | failed
  | deadLetter
  | disabled
deriving DecidableEq

/-- A row of `settlement_callback_deliveries`. -/
structure Delivery where
  deliveryId : ℕ
  handoffId : ℕ
  eventId : ℕ
  targetUrl : List Char
  requestBody : CallbackPayload
  stage : DeliveryStage
  attemptCount : ℕ
  nextAttemptAt : ℕ
  lastAttemptedAt : Option ℕ
  deliveredAt : Option ℕ
  responseStatus : Option ℕ
  lastError : Option (List Char)
  requestId : List Char
deriving DecidableEq

/-! ### Callback payloads -/

def gaslessSponsorshipHandoffPrefix : List Char := Text.lit "gasless-sponsorship:"

/-- Whether the callback has to carry the amounts that were observed. -/
def requiresObservedAmounts (handoff : Handoff) (event : Event) : Bool :=
  !(gaslessSponsorshipHandoffPrefix.isPrefixOf handoff.terms.platformHandoffId) &&
    (handoff.reconciliationStatus = .matched || handoff.reconciliationStatus = .drift ||
      event.eventType = .reconciled || event.eventType = .driftDetected)

def buildCallbackPayload (handoff : Handoff) (event : Event) : Except Failure CallbackPayload := do
  let required := requiresObservedAmounts handoff event
  let evidence ← parseReconciliationEvidence event.reconciliationEvidence required
  require (required = true → Text.IsDigits handoff.terms.tradeId)
    (.validation (Text.lit
        "tradeId must be the numeric on-chain trade identifier for reconciliation callbacks")
      (some (Text.lit "tradeId")))
  require (required = true → Text.IsHex 64 (handoff.txHash.getD []))
    (.validation (Text.lit
        "txHash must be the canonical release transaction hash for reconciliation callbacks")
      (some (Text.lit "txHash")))
  pure
    { eventId := event.eventId
      handoffId := handoff.handoffId
      terms := handoff.terms
      executionStatus := handoff.executionStatus
      reconciliationStatus := handoff.reconciliationStatus
      callbackStatus := handoff.callbackStatus
      providerStatus := handoff.providerStatus
      txHash := handoff.txHash
      latestEventType := handoff.latestEventType
      latestEventDetail := handoff.latestEventDetail
      latestEventAt := handoff.latestEventAt
      observedAt := event.observedAt
      eventEvidence := event.reconciliationEvidence
      reconciliationEvidence := evidence }

/-! ### Tables -/

def handoffClash (h h' : Handoff) : Option Constraint :=
  if h.handoffId = h'.handoffId then some .primaryKey
  else if h.terms.platformId = h'.terms.platformId ∧
      h.terms.platformHandoffId = h'.terms.platformHandoffId then
    some .platformRef
  else none

theorem handoffClash_eq_none {h h' : Handoff} : handoffClash h h' = none ↔
    h.handoffId ≠ h'.handoffId ∧ ¬ (h.terms.platformId = h'.terms.platformId ∧
      h.terms.platformHandoffId = h'.terms.platformHandoffId) := by
  unfold handoffClash
  split_ifs with hid href <;> simp [*]

def handoffs : Table.Schema Handoff ℕ Constraint where
  key := Handoff.handoffId
  clash := handoffClash
  insertGuard := fun _ => none
  updateGuard := fun _ _ => none
  clash_symm := by
    intro h h' hclash
    rw [handoffClash_eq_none] at *
    exact ⟨hclash.1.symm, fun heq => hclash.2 ⟨heq.1.symm, heq.2.symm⟩⟩
  key_ne := fun _ _ hclash => (handoffClash_eq_none.mp hclash).1

def eventClash (e e' : Event) : Option Constraint :=
  if e.eventId = e'.eventId then some .primaryKey
  else if e.handoffId = e'.handoffId ∧ e.dedupeKey = e'.dedupeKey then some .dedupeKey
  else none

theorem eventClash_eq_none {e e' : Event} : eventClash e e' = none ↔
    e.eventId ≠ e'.eventId ∧ ¬ (e.handoffId = e'.handoffId ∧ e.dedupeKey = e'.dedupeKey) := by
  unfold eventClash
  split_ifs with hid href <;> simp [*]

def events : Table.Schema Event ℕ Constraint where
  key := Event.eventId
  clash := eventClash
  insertGuard := fun _ => none
  updateGuard := fun _ _ => none
  clash_symm := by
    intro e e' hclash
    rw [eventClash_eq_none] at *
    exact ⟨hclash.1.symm, fun heq => hclash.2 ⟨heq.1.symm, heq.2.symm⟩⟩
  key_ne := fun _ _ hclash => (eventClash_eq_none.mp hclash).1

def deliveryClash (d d' : Delivery) : Option Constraint :=
  if d.deliveryId = d'.deliveryId then some .primaryKey else none

theorem deliveryClash_eq_none {d d' : Delivery} :
    deliveryClash d d' = none ↔ d.deliveryId ≠ d'.deliveryId := by
  unfold deliveryClash
  split_ifs with hid <;> simp [hid]

def deliveries : Table.Schema Delivery ℕ Constraint where
  key := Delivery.deliveryId
  clash := deliveryClash
  insertGuard := fun _ => none
  updateGuard := fun _ _ => none
  clash_symm := by
    intro d d' hclash
    rw [deliveryClash_eq_none] at *
    exact Ne.symm hclash
  key_ne := fun _ _ hclash => deliveryClash_eq_none.mp hclash

structure State where
  handoffs : List Handoff
  events : List Event
  deliveries : List Delivery
  /-- How many values `randomUUID` has drawn. -/
  drawn : ℕ
deriving DecidableEq

def State.empty : State := ⟨[], [], [], 0⟩

/-- Insert a row, or report why the database refuses it. -/
def insertRow {Row : Type} (schema : Table.Schema Row ℕ Constraint) (row : Row)
    (rows : List Row) : Except Failure (List Row) :=
  (Table.insert schema row rows).mapError .database

/-! ### Handoffs -/

/-- The row that `createHandoff` inserts. -/
def Handoff.create (handoffId : ℕ) (terms : Terms) : Handoff where
  handoffId := handoffId
  terms := terms
  executionStatus := .pending
  reconciliationStatus := .pending
  callbackStatus := .pending
  providerStatus := none
  txHash := none
  latestEventId := none
  latestEventType := none
  latestEventDetail := none
  latestEventAt := none
  callbackDeliveredAt := none

/-- The execution bindings of two requests for the same handoff differ, or what they bind does. -/
def bindingDiffers (existing input : Terms) : Bool :=
  (input.executionBinding.isSome || existing.executionBinding.isSome) &&
    (input.sourceApiKeyId.getD [] = [] || existing.executionBinding ≠ input.executionBinding ||
      existing.phase ≠ input.phase || existing.tradeId ≠ input.tradeId ||
      existing.ricardianHash ≠ input.ricardianHash ||
      existing.externalReference ≠ input.externalReference)

/-- `assertSameMonetaryIntent`. -/
def sameMonetaryIntent (existing input : Terms) : Bool :=
  existing.displayCurrency = input.displayCurrency &&
    existing.displayAmount = input.displayAmount &&
    existing.assetSymbol = input.assetSymbol && existing.assetAmount = input.assetAmount

def createHandoff (input : Terms) (s : State) : Except Failure (Handoff × State) :=
  match s.handoffs.find? fun h => h.terms.platformId = input.platformId ∧
      h.terms.platformHandoffId = input.platformHandoffId with
  | some existing => do
    require (existing.terms.sourceApiKeyId = input.sourceApiKeyId)
      (.forbidden (Text.lit "Handoff belongs to another service identity"))
    require (bindingDiffers existing.terms input = false)
      (.conflict (Text.lit "Handoff key belongs to a different execution binding") none)
    require (sameMonetaryIntent existing.terms input = true)
      (.conflict (Text.lit "Settlement handoff already exists with a different monetary intent")
        none)
    pure (existing, s)
  | none => do
    let handoff := Handoff.create s.drawn input
    let rows ← insertRow handoffs handoff s.handoffs
    pure (handoff, { s with handoffs := rows, drawn := s.drawn + 1 })

/-! ### Events -/

inductive PlanStatus
  | pending
  | disabled
deriving DecidableEq

def PlanStatus.stage : PlanStatus → DeliveryStage
  | pending => .pending
  | disabled => .disabled

/-- `SettlementCallbackPlan`. -/
structure CallbackPlan where
  targetUrl : List Char
  requestId : List Char
  status : PlanStatus
  nextAttemptAt : ℕ
  buildRequestBody : Handoff → Event → Except Failure CallbackPayload

/-- The row that `createEventWithClient` inserts. -/
def PersistInput.event (input : PersistInput) (eventId : ℕ) : Event :=
  { input with eventId := eventId }

/-- What the event writes to its handoff. -/
def Handoff.record (h : Handoff) (event : Event) : Handoff :=
  { h with
    executionStatus := event.executionStatus
    reconciliationStatus := event.reconciliationStatus
    callbackStatus := if h.callbackStatus = .disabled then h.callbackStatus else .pending
    providerStatus := event.providerStatus.or h.providerStatus
    txHash := event.txHash.or h.txHash
    latestEventId := some event.eventId
    latestEventType := some event.eventType
    latestEventDetail := event.detail
    latestEventAt := some event.observedAt }

def createEventWithClient (input : PersistInput) (s : State) : Except Failure (Event × State) := do
  let event := input.event s.drawn
  let rows ← insertRow events event s.events
  pure (event,
    { s with
      events := rows
      handoffs := Table.modify handoffs input.handoffId (fun _ => true) (·.record event) s.handoffs
      drawn := s.drawn + 1 })

/-- The row that `createCallbackDeliveryWithClient` inserts. -/
def CallbackPlan.delivery (plan : CallbackPlan) (deliveryId handoffId eventId : ℕ)
    (requestBody : CallbackPayload) : Delivery where
  deliveryId := deliveryId
  handoffId := handoffId
  eventId := eventId
  targetUrl := plan.targetUrl
  requestBody := requestBody
  stage := plan.status.stage
  attemptCount := 0
  nextAttemptAt := plan.nextAttemptAt
  lastAttemptedAt := none
  deliveredAt := none
  responseStatus := none
  lastError := none
  requestId := plan.requestId

def createCallbackDeliveryWithClient (plan : CallbackPlan) (handoffId eventId : ℕ)
    (requestBody : CallbackPayload) (s : State) : Except Failure (Delivery × State) := do
  let delivery := plan.delivery s.drawn handoffId eventId requestBody
  let rows ← insertRow deliveries delivery s.deliveries
  pure (delivery,
    { s with
      deliveries := rows
      handoffs :=
        if plan.status = .disabled then
          Table.modify handoffs handoffId (fun _ => true)
            (fun h => { h with callbackStatus := .disabled }) s.handoffs
        else s.handoffs
      drawn := s.drawn + 1 })

structure Recorded where
  handoff : Handoff
  event : Event
  callbackDelivery : Delivery
deriving DecidableEq

def getHandoff (handoffId : ℕ) (s : State) : Option Handoff :=
  Table.lookup handoffs handoffId s.handoffs

/-- The event was recorded before: its delivery is created if there is none. -/
def replayEvent (callback : CallbackPlan) (handoff : Handoff) (event : Event) (s : State) :
    Except Failure (Recorded × State) :=
  match s.deliveries.find? fun d => d.eventId = event.eventId with
  | some delivery => .ok (⟨(getHandoff handoff.handoffId s).getD handoff, event, delivery⟩, s)
  | none => do
    let requestBody ← callback.buildRequestBody handoff event
    let (delivery, s') ← createCallbackDeliveryWithClient callback handoff.handoffId event.eventId
      requestBody s
    pure (⟨(getHandoff handoff.handoffId s').getD handoff, event, delivery⟩, s')

/-- The event is new. -/
def appendEvent (input : PersistInput) (callback : CallbackPlan) (handoff : Handoff) (s : State) :
    Except Failure (Recorded × State) := do
  validateExecutionTransition handoff.executionStatus input.executionStatus input.eventType
  let (event, s') ← createEventWithClient input s
  match getHandoff input.handoffId s' with
  | none => .error (.internal
      (Text.lit "Settlement handoff disappeared after event persistence"))
  | some updated => do
    let requestBody ← callback.buildRequestBody updated event
    let (delivery, s'') ← createCallbackDeliveryWithClient callback updated.handoffId
      event.eventId requestBody s'
    let final := if callback.status = .disabled then (getHandoff input.handoffId s'').getD updated
      else updated
    pure (⟨final, event, delivery⟩, s'')

def recordExecutionEvent (input : PersistInput) (callback : CallbackPlan) (s : State) :
    Except Failure (Recorded × State) :=
  match getHandoff input.handoffId s with
  | none => .error (.notFound (Text.lit "Settlement handoff not found") input.handoffId)
  | some handoff =>
    match s.events.find? fun e =>
        e.handoffId = input.handoffId ∧ e.dedupeKey = input.dedupeKey with
    | some event => replayEvent callback handoff event s
    | none => appendEvent input callback handoff s

/-! ### Deliveries -/

/-- A statement about one delivery: when it applies, what it writes to the row, and what, if
anything, it writes to the handoff whose latest event the delivery is for. -/
structure Mark where
  deliveryId : ℕ
  applies : Delivery → Bool
  change : Delivery → Delivery
  handoff : Option (Handoff → Handoff)

/-- The row that was updated, if there is one, and the tables after the statement. -/
def Mark.run (m : Mark) (s : State) : Option Delivery × State :=
  match Table.lookup deliveries m.deliveryId s.deliveries with
  | none => (none, s)
  | some d =>
    if m.applies d = true then
      (some (m.change d),
        { s with
          deliveries := Table.modify deliveries m.deliveryId (fun _ => true) m.change s.deliveries
          handoffs :=
            match m.handoff with
            | none => s.handoffs
            | some write => Table.modify handoffs d.handoffId
                (fun h => h.latestEventId = some d.eventId) write s.handoffs })
    else (none, s)

def Delivery.leasedBy (leaseOwner : List Char) (d : Delivery) : Bool :=
  match d.stage with
  | .delivering owner _ => owner = leaseOwner
  | _ => false

def Delivery.due (attemptedAt : ℕ) (d : Delivery) : Bool :=
  match d.stage with
  | .pending | .failed => d.nextAttemptAt ≤ attemptedAt
  | .delivering _ leaseExpiresAt => leaseExpiresAt ≤ attemptedAt
  | _ => false

def markCallbackDelivering (deliveryId : ℕ) (leaseOwner : List Char)
    (attemptedAt leaseExpiresAt : ℕ) : Mark where
  deliveryId := deliveryId
  applies := Delivery.due attemptedAt
  change := fun d =>
    { d with
      stage := .delivering leaseOwner leaseExpiresAt
      attemptCount := d.attemptCount + 1
      lastAttemptedAt := some attemptedAt }
  handoff := none

def markCallbackDelivered (deliveryId : ℕ) (leaseOwner : List Char)
    (completedAt responseStatus : ℕ) : Mark where
  deliveryId := deliveryId
  applies := Delivery.leasedBy leaseOwner
  change := fun d =>
    { d with
      stage := .delivered
      responseStatus := some responseStatus
      deliveredAt := some completedAt }
  handoff := some fun h =>
    { h with callbackStatus := .delivered, callbackDeliveredAt := some completedAt }

structure FailedUpdate where
  attemptedAt : ℕ
  responseStatus : Option ℕ
  errorMessage : List Char
  nextAttemptAt : ℕ
  deadLetter : Bool
deriving DecidableEq

def markCallbackFailed (deliveryId : ℕ) (leaseOwner : List Char) (update : FailedUpdate) :
    Mark where
  deliveryId := deliveryId
  applies := Delivery.leasedBy leaseOwner
  change := fun d =>
    { d with
      stage := if update.deadLetter then .deadLetter else .failed
      responseStatus := update.responseStatus
      lastError := some update.errorMessage
      lastAttemptedAt := some update.attemptedAt
      nextAttemptAt := update.nextAttemptAt }
  handoff := some fun h =>
    { h with callbackStatus := if update.deadLetter then .deadLetter else .failed }

def requeueCallbackDelivery (deliveryId nextAttemptAt : ℕ) : Mark where
  deliveryId := deliveryId
  applies := fun d => d.stage = .deadLetter
  change := fun d => { d with stage := .pending, nextAttemptAt := nextAttemptAt }
  handoff := none

/-! ### Calls -/

inductive Call
  | createHandoff (input : Terms)
  | recordExecutionEvent (input : PersistInput) (callback : CallbackPlan)
  | markCallbackDelivering (deliveryId : ℕ) (leaseOwner : List Char)
      (attemptedAt leaseExpiresAt : ℕ)
  | markCallbackDelivered (deliveryId : ℕ) (leaseOwner : List Char)
      (completedAt responseStatus : ℕ)
  | markCallbackFailed (deliveryId : ℕ) (leaseOwner : List Char) (update : FailedUpdate)
  | requeueCallbackDelivery (deliveryId nextAttemptAt : ℕ)

/-- The statement of a call about a delivery. -/
def Call.mark : Call → Option Mark
  | .createHandoff _ | .recordExecutionEvent _ _ => none
  | .markCallbackDelivering id owner attemptedAt leaseExpiresAt =>
    some (Settlement.markCallbackDelivering id owner attemptedAt leaseExpiresAt)
  | .markCallbackDelivered id owner completedAt responseStatus =>
    some (Settlement.markCallbackDelivered id owner completedAt responseStatus)
  | .markCallbackFailed id owner update => some (Settlement.markCallbackFailed id owner update)
  | .requeueCallbackDelivery id nextAttemptAt =>
    some (Settlement.requeueCallbackDelivery id nextAttemptAt)

/-- The tables after a call; a call that fails is rolled back. -/
def next (s : State) : Call → State
  | .createHandoff input =>
    match Settlement.createHandoff input s with
    | .ok (_, s') => s'
    | .error _ => s
  | .recordExecutionEvent input callback =>
    match Settlement.recordExecutionEvent input callback s with
    | .ok (_, s') => s'
    | .error _ => s
  | c =>
    match c.mark with
    | some m => (m.run s).2
    | none => s

def Step (s : State) (c : Call) (s' : State) : Prop := next s c = s'

/-! ### The service -/

/-- `CreateSettlementExecutionEventInput`. -/
structure EventInput where
  handoffId : ℕ
  eventType : EventType
  executionStatus : ExecutionStatus
  reconciliationStatus : ReconciliationStatus
  providerStatus : Option (List Char)
  txHash : Option (List Char)
  detail : Option (List Char)
  reconciliationEvidence : EvidenceValue
  /-- The time that the text stands for, if it is an ISO timestamp. -/
  observedAt : Option ℕ
  requestId : List Char
  sourceApiKeyId : Option (List Char)
deriving DecidableEq

structure CallbackConfig where
  settlementCallbackEnabled : Bool
  settlementCallbackUrl : Option (List Char)
  settlementCallbackApiKey : Option (List Char)
  settlementCallbackApiSecret : Option (List Char)
deriving DecidableEq

def CallbackConfig.shouldQueueCallback (config : CallbackConfig) : Bool :=
  config.settlementCallbackEnabled && config.settlementCallbackUrl.getD [] ≠ [] &&
    config.settlementCallbackApiKey.getD [] ≠ [] &&
    config.settlementCallbackApiSecret.getD [] ≠ []

section Service

variable (sha256 : List Char → List Char) (config : CallbackConfig)

def dedupeKey (handoffId : ℕ) (eventType : EventType) (requestId : List Char) : List Char :=
  sha256 (Text.decimal handoffId ++ '\n' :: Text.lit eventType.name ++ '\n' :: requestId)

def EventInput.persist (input : EventInput) (observedAt : ℕ) : PersistInput where
  handoffId := input.handoffId
  eventType := input.eventType
  executionStatus := input.executionStatus
  reconciliationStatus := input.reconciliationStatus
  providerStatus := input.providerStatus
  txHash := input.txHash
  detail := input.detail
  reconciliationEvidence := input.reconciliationEvidence
  observedAt := observedAt
  requestId := input.requestId
  sourceApiKeyId := input.sourceApiKeyId
  dedupeKey := dedupeKey sha256 input.handoffId input.eventType input.requestId

def CallbackConfig.plan (requestId : List Char) (now : ℕ) : CallbackPlan where
  targetUrl := config.settlementCallbackUrl.getD (Text.lit "disabled://callback")
  requestId := requestId
  status := if config.shouldQueueCallback then .pending else .disabled
  nextAttemptAt := now
  buildRequestBody := buildCallbackPayload

/-- `SettlementService.recordExecutionEvent`. -/
def recordEvent (input : EventInput) (now : ℕ) (s : State) :
    Except Failure (Recorded × State) :=
  match input.observedAt with
  | none => .error (.validation (Text.lit "observedAt must be an ISO-8601 timestamp")
      (some (Text.lit "observedAt")))
  | some observedAt =>
    recordExecutionEvent (input.persist sha256 observedAt) (config.plan input.requestId now) s

end Service

end Cotsel.Gateway.Settlement
