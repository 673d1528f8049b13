import Cotsel.Gateway.SettlementCallbacks

/-!
# Reported execution events

`POST /settlement/handoffs/{id}/execution-events` of `routes/settlement.ts`: a service reports what
it saw of an execution.  Statuses that stand for a final outcome on the chain are refused, except in
the two reconciliation events, which may only restate the current status.

* `parseReport`: the checks of the route on the body of a request;
* `Reported`: the calls of the store that reports make, and the calls about deliveries;
* `verified_evidence_kept`: no sequence of reports moves a confirmed handoff to another status, and
  it keeps its transaction hash if the reports name no other one;
* `report_rewrites_hash`: a reconciliation event that names another hash replaces it.
-/

namespace Cotsel.Gateway.Settlement

open Runs Guard

/-! ### The route -/

/-- A member of the body, as far as the checks look at it. -/
inductive BodyValue
  /-- `undefined` or `null`. -/
  | absent
  | string (s : List Char)
  | other
deriving DecidableEq

/-- The member `metadata` of the body. -/
inductive MetadataValue
  | absent
  | object (reconciliationEvidence : EvidenceValue)
  | other
deriving DecidableEq

/-- A request to the route, after authentication. -/
structure Report where
  handoffId : ℕ
  eventType : BodyValue
  executionStatus : BodyValue
  reconciliationStatus : BodyValue
  providerStatus : BodyValue
  txHash : BodyValue
  detail : BodyValue
  metadata : MetadataValue
  observedAt : BodyValue
  /-- The keys of the body other than these. -/
  unexpectedFields : List (List Char)
  requestId : List Char
  apiKeyId : Option (List Char)
deriving DecidableEq

def requireString (value : BodyValue) (field : String) : Except Failure (List Char) :=
  match value with
  | .string s => do
    require (Text.trim s ≠ []) (refusal field)
    pure (Text.trim s)
  | _ => .error (refusal field)
where
  refusal (field : String) : Failure :=
    .validation (Text.lit field ++ Text.lit " must be a non-empty string") none

def optionalString (value : BodyValue) (field : String) : Except Failure (Option (List Char)) :=
  match value with
  | .absent => .ok none
  | .string [] => .ok none
  | _ => (requireString value field).map some

def ExecutionStatus.name : ExecutionStatus → String
  | .pending => "pending"
  | .accepted => "accepted"
  | .queued => "queued"
  | .broadcastUnknown => "broadcast_unknown"
  | .confirmationPending => "confirmation_pending"
  | .submitted => "submitted"
  | .confirmed => "confirmed"
  | .reverted => "reverted"
  | .replaced => "replaced"
  | .failed => "failed"
  | .rejected => "rejected"

def ReconciliationStatus.name : ReconciliationStatus → String
  | .pending => "pending"
  | .matched => "matched"
  | .drift => "drift"
  | .unavailable => "unavailable"

def settlementExecutionStatuses : List ExecutionStatus :=
  [.pending, .accepted, .queued, .broadcastUnknown, .confirmationPending, .submitted, .confirmed,
    .reverted, .replaced, .failed, .rejected]

def settlementReconciliationStatuses : List ReconciliationStatus :=
  [.pending, .matched, .drift, .unavailable]

def settlementEventTypes : List EventType :=
  [.accepted, .queued, .simulationCompleted, .broadcastUnknown, .confirmationPending, .submitted,
    .confirmed, .reverted, .replaced, .failed, .rejected, .reconciled, .driftDetected,
    .chainEvidenceOrphaned]

/-- The member is the name of one of the allowed values. -/
def requireName {α : Type} (name : α → String) (allowed : List α) (value : BodyValue)
    (field : String) : Except Failure α := do
  let s ← requireString value field
  match allowed.find? fun a => Text.lit (name a) = s with
  | some a => .ok a
  | none => .error (.validation (Text.lit field ++ Text.lit " is not supported") none)

def requireExecutionStatus (value : BodyValue) : Except Failure ExecutionStatus :=
  requireName ExecutionStatus.name settlementExecutionStatuses value "executionStatus"

def requireReconciliationStatus (value : BodyValue) : Except Failure ReconciliationStatus :=
  requireName ReconciliationStatus.name settlementReconciliationStatuses value
    "reconciliationStatus"

/-- Events about the loss of canonicality cannot be reported. -/
def requireEventType (value : BodyValue) : Except Failure EventType := do
  let eventType ← requireName EventType.name settlementEventTypes value "eventType"
  require (eventType ≠ .chainEvidenceOrphaned)
    (.validation (Text.lit "Chain canonicality events belong to the retained observer") none)
  pure eventType

def optionalMetadata (value : MetadataValue) : Except Failure EvidenceValue :=
  match value with
  | .absent => .ok .undefined
  | .object evidence => .ok evidence
  | .other => .error (.validation (Text.lit "metadata must be an object") none)

section Route

variable (parseTime : List Char → Option ℕ)

/-- The event that a report asks to record; `parseTime` reads an ISO timestamp. -/
def parseReport (r : Report) : Except Failure EventInput := do
  require (r.unexpectedFields = [])
    (.validation (Text.lit "body contains unsupported fields") (some (Text.lit "body")))
  let executionStatus ← requireExecutionStatus r.executionStatus
  let eventType ← requireEventType r.eventType
  require (isServiceReportableExecution eventType executionStatus = true)
    (.conflict (Text.lit
      "Chain outcomes are recorded only from gateway-verified finalized evidence") none)
  let txHash ← optionalString r.txHash "txHash"
  let reconciliationStatus ← requireReconciliationStatus r.reconciliationStatus
  let providerStatus ← optionalString r.providerStatus "providerStatus"
  let detail ← optionalString r.detail "detail"
  let evidence ← optionalMetadata r.metadata
  let observedAt ← requireString r.observedAt "observedAt"
  pure
    { handoffId := r.handoffId
      eventType := eventType
      executionStatus := executionStatus
      reconciliationStatus := reconciliationStatus
      providerStatus := providerStatus
      txHash := txHash
      detail := detail
      reconciliationEvidence := evidence
      observedAt := parseTime observedAt
      requestId := r.requestId
      sourceApiKeyId := r.apiKeyId }

variable (sha256 : List Char → List Char)

/-- The call of the store that a report makes, if its checks pass. -/
def Report.call (r : Report) (config : CallbackConfig) (now : ℕ) : Option Call :=
  match parseReport parseTime r with
  | .ok input =>
    match input.observedAt with
    | some observedAt => some (.recordExecutionEvent (input.persist sha256 observedAt)
        (config.plan input.requestId now))
    | none => none
  | .error _ => none

/-- The events are recorded by reports; the other calls are about deliveries and new handoffs. -/
def Reported : Call → Prop
  | .recordExecutionEvent input callback =>
    ∃ r config now, Report.call parseTime sha256 r config now =
      some (.recordExecutionEvent input callback)
  | _ => True

end Route

/-! ### What a report can be -/

variable {s s' : State} {c : Call} {h : Handoff} {input : PersistInput} {callback : CallbackPlan}
  {parseTime : List Char → Option ℕ} {sha256 : List Char → List Char}

theorem requireEventType_ne {value : BodyValue} {eventType : EventType}
    (hparse : requireEventType value = .ok eventType) : eventType ≠ .chainEvidenceOrphaned := by
  obtain ⟨found, -, hparse⟩ := bind_eq_ok.mp hparse
  rw [require_bind_eq_ok, pure_eq_ok] at hparse
  rw [← hparse.2]
  exact hparse.1

/-- A report is never about the loss of canonicality. -/
theorem parseReport_eventType {r : Report} {parsed : EventInput}
    (hparse : parseReport parseTime r = .ok parsed) :
    parsed.eventType ≠ .chainEvidenceOrphaned := by
  unfold parseReport at hparse
  rw [require_bind_eq_ok] at hparse
  obtain ⟨status, -, hparse⟩ := bind_eq_ok.mp hparse.2
  obtain ⟨eventType, htype, hparse⟩ := bind_eq_ok.mp hparse
  rw [require_bind_eq_ok] at hparse
  obtain ⟨txHash, -, hparse⟩ := bind_eq_ok.mp hparse.2
  obtain ⟨reconciliation, -, hparse⟩ := bind_eq_ok.mp hparse
  obtain ⟨provider, -, hparse⟩ := bind_eq_ok.mp hparse
  obtain ⟨detail, -, hparse⟩ := bind_eq_ok.mp hparse
  obtain ⟨evidence, -, hparse⟩ := bind_eq_ok.mp hparse
  obtain ⟨observedAt, -, hparse⟩ := bind_eq_ok.mp hparse
  rw [pure_eq_ok] at hparse
  rw [← hparse]
  exact requireEventType_ne htype

theorem Reported.eventType
    (hreported : Reported parseTime sha256 (.recordExecutionEvent input callback)) :
    input.eventType ≠ .chainEvidenceOrphaned := by
  obtain ⟨r, config, now, hcall⟩ := hreported
  unfold Report.call at hcall
  split at hcall
  · next parsed hparse =>
    split at hcall
    · cases hcall
      exact parseReport_eventType hparse
    · cases hcall
  · cases hcall

theorem reported_of_call {r : Report} {config : CallbackConfig} {now : ℕ}
    (hcall : r.call parseTime sha256 config now = some c) : Reported parseTime sha256 c := by
  cases c with
  | recordExecutionEvent => exact ⟨r, config, now, hcall⟩
  | createHandoff | markCallbackDelivering | markCallbackDelivered | markCallbackFailed
  | requeueCallbackDelivery => exact trivial

/-- Only the loss of canonicality leads out of `confirmed`. -/
theorem validate_confirmed {status : ExecutionStatus} {eventType : EventType}
    (hmove : validateExecutionTransition .confirmed status eventType = .ok ())
    (htype : eventType ≠ .chainEvidenceOrphaned) : status = .confirmed := by
  cases eventType with
  | chainEvidenceOrphaned => exact absurd rfl htype
  | reconciled | driftDetected =>
    simp only [validateExecutionTransition, require_bind_eq_ok, require_eq_ok, true_and] at hmove
    exact hmove
  | simulationCompleted =>
    simp only [validateExecutionTransition, require_eq_ok] at hmove
    exact hmove
  | accepted | queued | broadcastUnknown | confirmationPending | submitted | confirmed | reverted
  | replaced | failed | rejected =>
    simp only [validateExecutionTransition, require_eq_ok] at hmove
    rcases hmove with heq | ⟨hmem, -⟩
    · exact heq.symm
    · exact List.mem_singleton.mp hmem

/-! ### Confirmed handoffs -/

/-- The event of the call, if it is about this handoff, names no other transaction hash. -/
def KeepsHash (handoffId : ℕ) (hash : List Char) : Call → Prop
  | .recordExecutionEvent input _ =>
    input.handoffId = handoffId → input.txHash = none ∨ input.txHash = some hash
  | _ => True

instance (handoffId : ℕ) (hash : List Char) : DecidablePred (KeepsHash handoffId hash)
  | .recordExecutionEvent input _ => inferInstanceAs (Decidable (input.handoffId = handoffId →
      input.txHash = none ∨ input.txHash = some hash))
  | .createHandoff _ | .markCallbackDelivering _ _ _ _ | .markCallbackDelivered _ _ _ _
  | .markCallbackFailed _ _ _ | .requeueCallbackDelivery _ _ => isTrue trivial

theorem CallbackPlan.written_txHash (plan : CallbackPlan) (event : Event) (h : Handoff) :
    (plan.written event h).txHash = event.txHash.or h.txHash := by
  unfold CallbackPlan.written
  split_ifs <;> rfl

/-- A reported call leaves a confirmed handoff confirmed, and with its hash if it names no other
one. -/
theorem Effect.confirmed (heffect : Effect s c s') (hs : Sound s)
    (hreported : Reported parseTime sha256 c) (hmem : h ∈ s.handoffs)
    (hstatus : h.executionStatus = .confirmed) :
    ∃ h' ∈ s'.handoffs, h'.handoffId = h.handoffId ∧ h'.executionStatus = .confirmed ∧
      ∀ hash, h.txHash = some hash → KeepsHash h.handoffId hash c → h'.txHash = some hash := by
  rcases heffect.handoff hs hmem with ⟨h', hmem', hlike⟩ |
    ⟨input, callback, rfl, hid, -, hmove, hwritten⟩
  · refine ⟨h', hmem', hlike.handoffId, hlike.executionStatus.trans hstatus, fun hash hhash _ => ?_⟩
    exact hlike.txHash.trans hhash
  · rw [hstatus] at hmove
    refine ⟨_, hwritten, CallbackPlan.written_handoffId _ _ _, ?_, fun hash hhash hkeeps => ?_⟩
    · rw [CallbackPlan.written_executionStatus]
      exact validate_confirmed hmove hreported.eventType
    · rw [CallbackPlan.written_txHash, hhash]
      show input.txHash.or (some hash) = some hash
      rcases hkeeps hid with hnone | hsame
      · rw [hnone, Option.none_or]
      · rw [hsame, Option.some_or]

variable {tr tr₀ : List (Transition State Call)}

/-- **Verified chain evidence cannot be rewritten by reporters**: after any reports, from whichever
services, a confirmed handoff is confirmed; and it has the same transaction hash if none of the
reports names another one. -/
theorem verified_evidence_kept {hash : List Char} (hreached : Run Step State.empty tr₀ s)
    (hrun : Run Step s tr s') (hreported : ∀ t ∈ tr, Reported parseTime sha256 t.label)
    (hmem : h ∈ s.handoffs) (hstatus : h.executionStatus = .confirmed)
    (hhash : h.txHash = some hash) :
    ∃ h' ∈ s'.handoffs, h'.handoffId = h.handoffId ∧ h'.executionStatus = .confirmed ∧
      ((∀ t ∈ tr, KeepsHash h.handoffId hash t.label) → h'.txHash = some hash) := by
  have hs := sound_of_run hreached Sound.empty
  induction hrun with
  | nil => exact ⟨h, hmem, rfl, hstatus, fun _ => hhash⟩
  | @snoc _ _ _ _ hrun hstep ih =>
    obtain ⟨h₁, hmem₁, hid₁, hstatus₁, hhash₁⟩ :=
      ih fun t ht => hreported t (List.mem_append_left _ ht)
    have hs₁ := sound_of_run hrun hs
    obtain ⟨h₂, hmem₂, hid₂, hstatus₂, hhash₂⟩ := (hstep.effect hs₁).confirmed hs₁
      (hreported _ (List.mem_append_right _ (List.mem_singleton_self _))) hmem₁ hstatus₁
    refine ⟨h₂, hmem₂, hid₂.trans hid₁, hstatus₂, fun hkeeps => ?_⟩
    refine hhash₂ hash (hhash₁ fun t ht => hkeeps t (List.mem_append_left _ ht)) ?_
    rw [hid₁]
    exact hkeeps _ (List.mem_append_right _ (List.mem_singleton_self _))

/-! ### Runs -/

def sampleHash : List Char := Text.lit "0x" ++ List.replicate 64 'a'

def otherHash : List Char := Text.lit "0x" ++ List.replicate 64 'b'

/-- The call by which the gateway records what it saw of its own transaction. -/
def verifiedEvent (eventType : EventType) (status : ExecutionStatus) : Call :=
  .recordExecutionEvent
    { handoffId := 0
      eventType := eventType
      executionStatus := status
      reconciliationStatus := .pending
      providerStatus := none
      txHash := some sampleHash
      detail := none
      reconciliationEvidence := .undefined
      observedAt := 10
      requestId := Text.lit "create-trade"
      sourceApiKeyId := none
      dedupeKey := Text.lit eventType.name }
    { targetUrl := Text.lit "https://platform/callback"
      requestId := Text.lit "create-trade"
      status := .disabled
      nextAttemptAt := 10
      buildRequestBody := buildCallbackPayload }

/-- The gateway submits the transaction and confirms it. -/
def confirmedCalls : List Call :=
  [.createHandoff sampleTerms, verifiedEvent .submitted .submitted,
    verifiedEvent .confirmed .confirmed]

def sampleAmounts : Properties AmountValue where
  entries := [(Text.lit "supplierPayoutUsd", .string (Text.lit "9.50")),
    (Text.lit "treasuryClaimableUsd", .string (Text.lit "0.50")),
    (Text.lit "buyerRefundUsd", .string (Text.lit "0"))]
  distinct := by decide +kernel

def sampleEvidence : Properties MemberValue where
  entries := [(Text.lit "schemaVersion", .string schemaVersion),
    (Text.lit "observedAmounts", .object sampleAmounts)]
  distinct := by decide +kernel

/-- A service reports that the handoff was reconciled. -/
def sampleReport (txHash : BodyValue) : Report where
  handoffId := 0
  eventType := .string (Text.lit "reconciled")
  executionStatus := .string (Text.lit "confirmed")
  reconciliationStatus := .string (Text.lit "matched")
  providerStatus := .absent
  txHash := txHash
  detail := .absent
  metadata := .object (.object sampleEvidence)
  observedAt := .string (Text.lit "2026-01-01T00:00:00Z")
  unexpectedFields := []
  requestId := Text.lit "report"
  apiKeyId := some (Text.lit "reporter")

def sampleConfig : CallbackConfig := ⟨false, none, none, none⟩

def confirmedState : State := confirmedCalls.foldl next State.empty

/-- The call of the report, with a clock that reads every timestamp as `20`. -/
def reportCalls (txHash : BodyValue) : List Call :=
  ((sampleReport txHash).call (fun _ => some 20) id sampleConfig 20).toList

theorem verified_evidence_kept_report :
    (reportCalls .absent).length = 1 ∧
    ∃ h ∈ ((reportCalls .absent).foldl next confirmedState).handoffs,
      h.handoffId = 0 ∧ h.executionStatus = .confirmed ∧ h.txHash = some sampleHash := by
  have hconfirmed : ∃ h ∈ confirmedState.handoffs,
      h.handoffId = 0 ∧ h.executionStatus = .confirmed ∧ h.txHash = some sampleHash := by
    decide +kernel
  obtain ⟨h, hmem, hid, hstatus, hhash⟩ := hconfirmed
  have hlabel : ∀ t ∈ trace next confirmedState (reportCalls .absent),
      t.label ∈ reportCalls .absent := by
    intro t ht
    exact List.mem_map_of_mem ht
  obtain ⟨h', hmem', hid', hstatus', hhash'⟩ :=
    verified_evidence_kept (run_trace next confirmedCalls State.empty)
      (run_trace next (reportCalls .absent) confirmedState)
      (fun t ht => reported_of_call (Option.mem_toList.mp (hlabel t ht))) hmem hstatus hhash
  have hkeeps : ∀ c ∈ reportCalls .absent, KeepsHash 0 sampleHash c := by
    decide +kernel
  refine ⟨by decide +kernel, h', hmem', hid'.trans hid, hstatus', hhash' fun t ht => ?_⟩
  rw [hid]
  exact hkeeps _ (hlabel t ht)

/-- **A report rewrites the hash**: the gateway confirmed the handoff by one transaction, and a
service that may report events replaces its hash. -/
theorem report_rewrites_hash :
    Run Step State.empty (trace next State.empty confirmedCalls) confirmedState ∧
    confirmedState.handoffs.map (fun h => (h.executionStatus, h.txHash)) =
      [(.confirmed, some sampleHash)] ∧
    (reportCalls (.string otherHash)).length = 1 ∧
    ((reportCalls (.string otherHash)).foldl next confirmedState).handoffs.map
      (fun h => (h.executionStatus, h.txHash)) = [(.confirmed, some otherHash)] := by
  refine ⟨run_trace _ _ _, ?_, ?_, ?_⟩ <;> decide +kernel

end Cotsel.Gateway.Settlement
