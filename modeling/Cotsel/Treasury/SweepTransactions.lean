import Cotsel.Treasury.SweepTables

/-!
# The transactions of the sweep batches

`queries/accountingPeriods.ts`, `queries/sweepBatches.ts`, `queries/sweepBatchTransitions.ts`,
`queries/treasuryClaims.ts` and `queries/revenueRealizations.ts`.

A transaction takes a lock on the row that it decides on, so what it reads under the lock is what it
writes over, and it is one step here.  What it reads without a lock may be out of date when it
writes; those reads are statements of their own, and their results are arguments here: the ledger
entry and the active allocation of `addSweepBatchEntry`, the claim row that
`upsertTreasuryClaimEventWith` finds, the first facts of `createRevenueRealization`.
-/

namespace Cotsel.Treasury.Sweep

open Guard

/-- `INSERT`, in a table whose unique indexes are all that can refuse it. -/
def insertRow {Row : Type} (T : Table.Schema Row ℕ Unit) (row : Row) (rows : List Row)
    (refusal : Thrown) : Except Thrown (List Row) :=
  match Table.insert T row rows with
  | .ok rows' => pure rows'
  | .error _ => throw refusal

theorem insertRow_eq_ok {Row : Type} {T : Table.Schema Row ℕ Unit} {row : Row}
    {rows rows' : List Row} {refusal : Thrown} (h : insertRow T row rows refusal = .ok rows') :
    Table.insert T row rows = .ok rows' := by
  unfold insertRow at h
  split at h
  · next heq =>
    cases h
    exact heq
  · cases h

theorem eq_append_of_insertRow {Row : Type} {T : Table.Schema Row ℕ Unit} {row : Row}
    {rows rows' : List Row} {refusal : Thrown} (h : insertRow T row rows refusal = .ok rows') :
    rows' = rows ++ [row] :=
  (Table.insert_eq_ok.mp (insertRow_eq_ok h)).2.2

/-! ### Accounting periods -/

structure PeriodInput where
  periodKey : List Char
  endsAt : ℕ
  createdBy : List Char
deriving DecidableEq

def createAccountingPeriod (data : PeriodInput) (id : ℕ) (s : Database) :
    Except Thrown (Period × Database) := do
  let row : Period :=
    { id := id
      periodKey := data.periodKey
      endsAt := data.endsAt
      status := .opened
      createdBy := data.createdBy
      closedBy := none }
  let periods ← insertRow periodTable row s.periods .uniqueViolation
  pure (row, { s with periods := periods })

/-- The record of who made a transition, if it grants a role. -/
def actorRecords (subjectType : SubjectType) (subjectId : ℕ) (actor : List Char) :
    Option TransitionActorRole → List TransitionActor
  | some role =>
    [{ actor := actor, actorRole := role, subjectType := subjectType, subjectId := subjectId }]
  | none => []

structure PeriodStatusUpdate where
  periodId : ℕ
  status : AccountingPeriodStatus
  actor : List Char
deriving DecidableEq

def updateAccountingPeriodStatus (data : PeriodStatusUpdate) (s : Database) :
    Except Thrown (Period × Database) :=
  match s.period data.periodId with
  | none => throw (callerSafe "Accounting period not found")
  | some existing => do
    assertAccountingPeriodTransition existing.status data.status
    assertAccountingPeriodRoleSeparation data.status data.actor existing.createdBy
      (s.chain .accountingPeriod data.periodId)
    let row : Period :=
      { existing with
        status := data.status
        closedBy := if data.status = .closed then some data.actor else existing.closedBy }
    pure (row,
      { s with
        periods := Table.replace periodTable row s.periods
        actors := s.actors ++ actorRecords .accountingPeriod data.periodId data.actor
          (accountingPeriodActorRole data.status) })

/-! ### Sweep batches -/

structure BatchInput where
  batchKey : List Char
  accountingPeriodId : ℕ
  assetSymbol : List Char
  expectedTotalRaw : ℕ
  payoutReceiverAddress : Option (List Char)
  createdBy : List Char
  /-- `metadata.settlementFinalizedEvidence`. -/
  metadata : Option Evidence
deriving DecidableEq

def createSweepBatch (data : BatchInput) (id : ℕ) (s : Database) :
    Except Thrown (Batch × Database) := do
  assertCanonicalRawAmount data.expectedTotalRaw
  match s.period data.accountingPeriodId with
  | none => throw (callerSafe "Accounting period not found")
  | some period =>
    require (period.status = .opened)
      (.callerSafe (Text.lit "Sweep batch creation requires an OPEN accounting period; received " ++
        period.status.text))
    let row : Batch :=
      { id := id
        batchKey := data.batchKey
        accountingPeriodId := data.accountingPeriodId
        assetSymbol := data.assetSymbol
        status := .draft
        expectedTotalRaw := data.expectedTotalRaw
        payoutReceiverAddress := data.payoutReceiverAddress
        approvalRequestedBy := none
        approvedBy := none
        matchedSweepTxHash := none
        matchedSweepBlockNumber := none
        matchedSweptAt := none
        executedBy := none
        closedBy := none
        createdBy := data.createdBy
        settlementFinalizedEvidence := data.metadata }
    let batches ← insertRow batchTable row s.batches .uniqueViolation
    pure (row, { s with batches := batches })

structure AllocationInput where
  sweepBatchId : ℕ
  ledgerEntryId : ℕ
  allocatedBy : List Char
  entryAmountRaw : Option ℕ
deriving DecidableEq

/-- The trigger `treasury_assert_allocation_within_ledger_amount`. -/
def assertAllocationBound (ledgerEntryId amount : ℕ) (s : Database) : Except Thrown Unit :=
  match s.entry ledgerEntryId with
  | none => throw (.database (Text.lit "Sweep allocation references missing ledger entry " ++
      Text.decimal ledgerEntryId))
  | some entry => do
    require (amount ≠ 0)
      (.database (Text.lit "Sweep allocation for ledger entry " ++ Text.decimal ledgerEntryId ++
        Text.lit " must be greater than zero"))
    require (amount ≤ entry.amountRaw)
      (.database (Text.lit "Sweep allocation " ++ Text.decimal amount ++
        Text.lit " exceeds the eligible ledger amount " ++ Text.decimal entry.amountRaw ++
        Text.lit " for entry " ++ Text.decimal ledgerEntryId))

/-- `addSweepBatchEntry`; `ledgerEntry` and `active` are what it has read of the entry. -/
def addSweepBatchEntry (data : AllocationInput) (ledgerEntry : Option LedgerEntry)
    (active : Option Allocation) (id : ℕ) (s : Database) : Except Thrown (Allocation × Database) :=
  match s.batch data.sweepBatchId with
  | none => throw (callerSafe "Sweep batch not found")
  | some batch =>
    match s.period batch.accountingPeriodId with
    | none => throw (callerSafe "Sweep batch not found")
    | some period => do
      assertBatchAllocationAllowed period.status batch.status
      match ledgerEntry with
      | none => throw (callerSafe "Ledger entry not found")
      | some ledgerEntry =>
        -- `assertLedgerEntryCanonical`
        assertSweepEntriesCanonical
          ((s.entry data.ledgerEntryId).toList.map fun e => (e.id, e.canonicalityState))
        require (active = none)
          (callerSafe "Ledger entry is already allocated to an active sweep batch")
        let amount := data.entryAmountRaw.getD ledgerEntry.amountRaw
        assertAllocationWithinLedgerAmount amount ledgerEntry.amountRaw data.ledgerEntryId
        assertAllocationBound data.ledgerEntryId amount s
        let row : Allocation :=
          { id := id
            sweepBatchId := data.sweepBatchId
            ledgerEntryId := data.ledgerEntryId
            allocationStatus := .allocated
            entryAmountRaw := amount
            allocatedBy := data.allocatedBy }
        let allocations ← insertRow allocationTable row s.allocations
          (.concurrentTransition
            (Text.lit "Ledger entry is already allocated to an active sweep batch"))
        pure (row, { s with allocations := allocations })

/-! ### Finality -/

/-- The evidence is what `assertFreshTreasuryFinalizedEvidence` asks for, at the time `now`. -/
def Evidence.isFresh (evidence : Evidence) (transactionHash : List Char) (blockNumber now : ℕ) :
    Bool :=
  evidence.policyVersion = Text.lit "treasury_dual_rpc_finalized_v1" &&
    evidence.transactionHash = Text.toLowerCase transactionHash &&
    evidence.blockNumber = blockNumber &&
    Text.IsLowerHex 64 evidence.blockHash &&
    0 < evidence.chainId &&
    evidence.verifiedAt ≤ now && now - evidence.verifiedAt ≤ 10000 &&
    evidence.rpcWitnesses.length = 2 && evidence.rpcWitnesses.dedup.length = 2 &&
    evidence.rpcWitnesses.all (Text.IsLowerDigest 64 ·) &&
    evidence.finalizedHeads.length = 2 &&
    evidence.finalizedHeads.all fun head => Text.IsLowerHex 64 head.2 && blockNumber ≤ head.1

def assertFreshTreasuryFinalizedEvidence (evidence : Evidence) (transactionHash : List Char)
    (blockNumber now : ℕ) : Except Thrown Unit :=
  require (evidence.isFresh transactionHash blockNumber now = true)
    (plain "Fresh independent finalized treasury evidence is required to commit sweep accounting")

/-- The two are evidence of the same transaction in the same block. -/
def Evidence.agrees (original evidence : Evidence) : Bool :=
  original.policyVersion = evidence.policyVersion && original.chainId = evidence.chainId &&
    original.transactionHash = evidence.transactionHash &&
    original.blockHash = evidence.blockHash && original.blockNumber = evidence.blockNumber

def assertSweepFinalityForProgression (batch : Batch) (evidence : Option Evidence) (now : ℕ) :
    Except Thrown Unit :=
  match evidence, batch.settlementFinalizedEvidence, batch.matchedSweepTxHash,
    batch.matchedSweepBlockNumber with
  | some evidence, some original, some txHash, some blockNumber => do
    require (txHash ≠ [])
      (plain "Original finalized sweep evidence is required for financial progression")
    assertFreshTreasuryFinalizedEvidence evidence txHash blockNumber now
    require (original.agrees evidence = true)
      (plain "Original sweep evidence changed; financial progression is blocked")
  | _, _, _, _ =>
    throw (plain "Original finalized sweep evidence is required for financial progression")

/-! ### Transitions -/

/-- The columns that a match with a claim fills in. -/
structure SweepMatch where
  txHash : List Char
  blockNumber : ℕ
  sweptAt : ℕ
deriving DecidableEq

/-- `SweepBatchStatusUpdate`. -/
structure StatusUpdate where
  batchId : ℕ
  status : SweepBatchStatus
  actor : List Char
  finalizedSweepEvidence : Option Evidence
  matched : Option SweepMatch
  /-- `metadata.settlementFinalizedEvidence`. -/
  metadata : Option Evidence
deriving DecidableEq

def StatusUpdate.row (data : StatusUpdate) (existing : Batch) : Batch :=
  { existing with
    status := data.status
    approvalRequestedBy :=
      if data.status = .pendingApproval then some data.actor else existing.approvalRequestedBy
    approvedBy := if data.status = .approved then some data.actor else existing.approvedBy
    matchedSweepTxHash := (data.matched.map SweepMatch.txHash).or existing.matchedSweepTxHash
    matchedSweepBlockNumber :=
      (data.matched.map SweepMatch.blockNumber).or existing.matchedSweepBlockNumber
    matchedSweptAt := (data.matched.map SweepMatch.sweptAt).or existing.matchedSweptAt
    executedBy := if data.status = .executed then some data.actor else existing.executedBy
    closedBy := if data.status = .closed then some data.actor else existing.closedBy
    settlementFinalizedEvidence := data.metadata.or existing.settlementFinalizedEvidence }

/-- The trigger `sweep_finalized_evidence_guard` lets the update pass. -/
def keepsFinalizedEvidence (old new : Batch) : Bool :=
  old.settlementFinalizedEvidence.isNone ||
    (new.settlementFinalizedEvidence = old.settlementFinalizedEvidence &&
      new.matchedSweepTxHash = old.matchedSweepTxHash &&
      new.matchedSweepBlockNumber = old.matchedSweepBlockNumber &&
      new.payoutReceiverAddress = old.payoutReceiverAddress &&
      new.expectedTotalRaw = old.expectedTotalRaw && new.assetSymbol = old.assetSymbol)

/-- The entries that are actively allocated to the batch, with the verdicts on them. -/
def Database.allocatedEntries (s : Database) (batchId : ℕ) : List (ℕ × ChainCanonicalityState) :=
  (s.allocationsOf batchId).filterMap fun a =>
    if a.allocationStatus = .allocated then
      (s.entry a.ledgerEntryId).map fun e => (e.id, e.canonicalityState)
    else none

def applySweepBatchStatusUpdate (data : StatusUpdate) (now : ℕ) (s : Database) :
    Except Thrown (Batch × Database) :=
  match s.batch data.batchId with
  | none => throw (callerSafe "Sweep batch not found")
  | some existing => do
    assertSweepBatchTransition existing.status data.status
    assertSweepBatchRoleSeparation
      { nextStatus := data.status
        actor := data.actor
        createdBy := existing.createdBy
        approvalRequestedBy := existing.approvalRequestedBy
        approvedBy := existing.approvedBy
        executedBy := existing.executedBy
        transitionChain := s.chain .sweepBatch data.batchId }
    onlyIf (sweepTransitionRequiresCanonicalEntries data.status = true)
      (assertSweepEntriesCanonical (s.allocatedEntries data.batchId))
    onlyIf (data.status = .handedOff ∨ data.status = .closed)
      (assertSweepFinalityForProgression existing data.finalizedSweepEvidence now)
    require (keepsFinalizedEvidence existing (data.row existing) = true)
      (.database (Text.lit "sweep_finalized_evidence_is_immutable"))
    pure (data.row existing,
      { s with
        batches := Table.replace batchTable (data.row existing) s.batches
        actors := s.actors ++ actorRecords .sweepBatch data.batchId data.actor
          (sweepBatchActorRole data.status) })

/-! ### Claims -/

def ClaimInput.row (data : ClaimInput) (id : ℕ) (matchedSweepBatchId : Option ℕ) : Claim :=
  { data with id := id, matchedSweepBatchId := matchedSweepBatchId }

/-- The claims that `upsertTreasuryClaimEventWith` looks for. -/
def Database.claimsFor (s : Database) (txHash sourceEventId : List Char) : List Claim :=
  s.claims.filter fun c => c.txHash = txHash || c.sourceEventId = sourceEventId

/-- `upsertTreasuryClaimEventWith`; `existing` is the row that it has found. -/
def upsertTreasuryClaimEventWith (data : ClaimInput) (existing : Option Claim) (id : ℕ)
    (s : Database) : Except Thrown (Claim × Database) :=
  match existing with
  | some existing => do
    require (¬ (existing.matchedSweepBatchId.isSome ∧ data.matchedSweepBatchId.isSome ∧
        existing.matchedSweepBatchId ≠ data.matchedSweepBatchId))
      (callerSafe "Treasury claim event is already matched to a different sweep batch")
    match Table.updateWhere claimTable existing.id (fun _ => true)
      (fun old => data.row old.id (data.matchedSweepBatchId.or old.matchedSweepBatchId))
      s.claims with
    | .ok (some row, claims) => pure (row, { s with claims := claims })
    | .ok (none, _) => throw (plain "Cannot read properties of undefined")
    | .error _ => throw .uniqueViolation
  | none => do
    let row := data.row id data.matchedSweepBatchId
    let claims ← insertRow claimTable row s.claims .uniqueViolation
    pure (row, { s with claims := claims })

/-- The argument of `recordSweepBatchExecution`. -/
structure ExecutionInput where
  batchId : ℕ
  finalizedEvidence : Evidence
  claim : ClaimInput
  actor : List Char
deriving DecidableEq

/-- The claim, bound to the batch. -/
def ExecutionInput.boundClaim (data : ExecutionInput) : ClaimInput :=
  { data.claim with matchedSweepBatchId := some data.batchId }

def recordSweepBatchExecution (data : ExecutionInput) (existing : Option Claim) (id now : ℕ)
    (s : Database) : Except Thrown (Batch × Database) :=
  match s.batch data.batchId with
  | none => throw (plain "Sweep batch not found")
  | some batch => do
    assertFreshTreasuryFinalizedEvidence data.finalizedEvidence data.claim.txHash
      data.claim.blockNumber now
    require (batch.settlementFinalizedEvidence.all
        (fun recorded => recorded.agrees data.finalizedEvidence) = true)
      (plain "Original finalized sweep evidence requires governed reconciliation")
    let (claim, s) ← upsertTreasuryClaimEventWith data.boundClaim existing id s
    applySweepBatchStatusUpdate
      { batchId := data.batchId
        status := .executed
        actor := data.actor
        finalizedSweepEvidence := none
        matched := some ⟨claim.txHash, claim.blockNumber, claim.observedAt⟩
        metadata := some (batch.settlementFinalizedEvidence.getD data.finalizedEvidence) }
      now s

/-! ### Handoffs -/

/-- The argument of `upsertPartnerHandoff`. -/
structure HandoffInput where
  sweepBatchId : ℕ
  partnerName : List Char
  partnerReference : List Char
  handoffStatus : ProviderHandoffStatus
  evidenceReference : Option (List Char)
deriving DecidableEq

def HandoffInput.transition (data : HandoffInput) (current : Option Handoff) :
    ProviderHandoffDisposition :=
  if (current.bind Handoff.frozenAt).isSome then .frozen
  else if completionLacksEvidence data.handoffStatus data.evidenceReference none then .rejected
  else classifyProviderHandoffTransition (current.map Handoff.handoffStatus) data.handoffStatus

def HandoffInput.frozenMessage (current : Option Handoff) : List Char :=
  Text.lit "External handoff for this batch is frozen pending an approved correction: " ++
    ((current.bind Handoff.frozenReason).getD (Text.lit "contradictory provider evidence"))

def HandoffInput.contradiction (data : HandoffInput) (current : Handoff) : List Char :=
  Text.lit "Provider reported " ++ data.handoffStatus.text ++
    Text.lit " for a batch handoff already terminal at " ++ current.handoffStatus.text

/-- The row that an advance leaves behind. -/
def HandoffInput.row (data : HandoffInput) (id : ℕ) (evidenceReference : Option (List Char)) :
    Handoff where
  id := id
  sweepBatchId := data.sweepBatchId
  partnerName := data.partnerName
  partnerReference := data.partnerReference
  handoffStatus := data.handoffStatus
  evidenceReference := evidenceReference
  frozenAt := none
  frozenReason := none

/-- `upsertPartnerHandoff`.  Some refusals are committed before they are thrown: they are the inner
result. -/
def upsertPartnerHandoff (data : HandoffInput) (id now : ℕ) (s : Database) :
    Except Thrown (Except Thrown Handoff × Database) :=
  match s.batch data.sweepBatchId with
  | none => throw (callerSafe "Sweep batch not found")
  | some batch => do
    require ((batch.matchedSweepTxHash.any fun h => !h.isEmpty) = true ∧
        batch.matchedSweptAt.isSome = true)
      (callerSafe "External handoff requires matched on-chain treasury claim evidence")
    let current := s.handoff data.sweepBatchId
    match data.transition current, current with
    | .frozen, _ =>
      pure (.error (.handoffConflict (HandoffInput.frozenMessage current)), s)
    | .rejected, _ =>
      pure (.error (.handoffAuthority (Text.lit "Completed external handoff requires " ++
        Text.lit "an authoritative provider or bank evidence reference")), s)
    | .contradiction, some current =>
      let detail := data.contradiction current
      let row : Handoff :=
        { current with
          frozenAt := current.frozenAt.or (some now)
          frozenReason := current.frozenReason.or (some detail) }
      pure (.error (.handoffConflict detail),
        { s with handoffs := Table.replace handoffTable row s.handoffs })
    | .stale, some current => pure (.ok current, s)
    | .replay, some current => pure (.ok current, s)
    | _, some current =>
      match Table.updateWhere handoffTable data.sweepBatchId (fun _ => true)
        (fun old => data.row old.id (data.evidenceReference.or old.evidenceReference))
        s.handoffs with
      | .ok (_, handoffs) =>
        pure (.ok (data.row current.id (data.evidenceReference.or current.evidenceReference)),
          { s with handoffs := handoffs })
      | .error _ => throw .uniqueViolation
    | _, none =>
      let row := data.row id data.evidenceReference
      let handoffs ← insertRow handoffTable row s.handoffs .uniqueViolation
      pure (.ok row, { s with handoffs := handoffs })

/-! ### Realizations -/

/-- The argument of `createRevenueRealization`. -/
structure RealizationInput where
  ledgerEntryId : ℕ
  accountingPeriodId : ℕ
  sweepBatchId : Option ℕ
  partnerHandoffId : Option ℕ
  actor : List Char
  finalizedSweepEvidence : Option Evidence
  reconciliationBinding : Option RealizationReconciliationBinding
deriving DecidableEq

/-- `createRevenueRealization`; `discovered` are the facts that it has read before it takes the
locks. -/
def createRevenueRealization (data : RealizationInput) (discovered : Option AccountingFacts)
    (id now : ℕ) (s : Database) : Except Thrown (Realization × Database) :=
  match discovered.bind AccountingFacts.sweepBatchId with
  | none => throw (callerSafe "Original sweep batch is required for realization")
  | some batchId =>
    match s.batch batchId with
    | none => throw (callerSafe "Original sweep batch is unavailable")
    | some locked => do
      assertSweepFinalityForProgression locked data.finalizedSweepEvidence now
      match s.entry data.ledgerEntryId with
      | none => throw (callerSafe "Ledger entry accounting facts not found")
      | some entry =>
        let facts := s.factsOf entry
        require (facts.sweepBatchId = some batchId)
          (callerSafe "Ledger entry accounting facts not found")
        assertRealizationAllowed
          { batchStatus := facts.sweepBatchStatus
            partnerHandoffStatus := facts.partnerHandoffStatus
            bankPayoutState := facts.latestBankPayoutState
            revenueRealizationStatus := facts.revenueRealizationStatus
            reconciliationBinding := data.reconciliationBinding.map fun binding =>
              { binding with entryBlockNumber := entry.blockNumber } }
        require (facts.accountingPeriodId = some data.accountingPeriodId)
          (callerSafe "Revenue realization accounting period does not match the ledger entry batch")
        require (data.sweepBatchId.all (fun b => b = batchId) = true)
          (callerSafe "Revenue realization sweep batch does not match the ledger entry batch")
        require (data.partnerHandoffId.all (fun h => facts.partnerHandoffId = some h) = true)
          (callerSafe
            "Revenue realization external handoff does not match the ledger entry sweep batch")
        let row : Realization :=
          { id := id
            ledgerEntryId := data.ledgerEntryId
            accountingPeriodId := data.accountingPeriodId
            sweepBatchId := data.sweepBatchId.or (some batchId)
            partnerHandoffId := data.partnerHandoffId.or facts.partnerHandoffId
            realizationStatus := .realized
            realizedAt := now
            recognizedBy := data.actor }
        let realizations ← insertRow realizationTable row s.realizations
          (.concurrentTransition (Text.lit "Ledger entry was realized concurrently"))
        pure (row, { s with realizations := realizations })

end Cotsel.Treasury.Sweep
