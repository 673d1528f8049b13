import Cotsel.Library.Processes
import Cotsel.Library.Transaction
import Cotsel.Treasury.SweepTransactions

/-!
# Sweep batches: the requests

The routes of `api/controller.ts` about accounting periods, sweep batches and realizations, with
`core/sweepExecutionMatcher.ts`, `core/treasuryClaimLog.ts`, `core/closeReporting.ts`,
`api/revenueRealizationCommand.ts` and `api/realizationBinding.ts`; and, as requests of their own,
what else writes to the same tables: ingestion, the verdicts of the chain and bank evidence.

A request is a program; what it asks for (`Op`) is a statement or a transaction on the `Database`,
or a question to another service, whose answer is open.  Between two operations anything may happen.
Reads that the source starts together are made one after the other.  The eligibility of ledger
entries is one operation that may refuse (`assertEntries`); what it writes about the entries on the
way are requests of others.
-/

namespace Cotsel.Treasury.Sweep

open Interaction Transaction Guard

/-! ### Other services -/

/-- A `TreasuryClaimed` event as the indexer reports it, or as it is stored. -/
structure ObservedClaim where
  id : List Char
  txHash : List Char
  blockNumber : ℕ
  timestamp : ℕ
  claimAmount : ℕ
  treasuryIdentity : List Char
  payoutReceiver : List Char
  triggeredBy : Option (List Char)
deriving DecidableEq

/-- `TreasuryClaimFields`. -/
structure ClaimFields where
  treasuryIdentity : List Char
  payoutReceiver : List Char
  amountRaw : ℕ
  triggeredBy : Option (List Char)
deriving DecidableEq

structure TokenTransfer where
  sender : List Char
  receiver : List Char
  value : ℕ
deriving DecidableEq

/-- A log of a receipt, with what the interfaces of the escrow and of the token decode of it. -/
structure ReceiptLog where
  address : List Char
  claim : Option ClaimFields
  transfer : Option TokenTransfer
deriving DecidableEq

/-- `FinalizedTransactionVerdict`. -/
inductive FinalizedVerdict
  | finalized (blockHash escrowAddress tokenAddress treasuryIdentity : List Char)
      (evidence : Evidence) (logs : List ReceiptLog)
  | refused (detail : List Char) (unavailable : Bool)
deriving DecidableEq

/-- The status of a trade, or of several, in the latest reconciliation. -/
inductive GateStatus
  | clear
  | blocked
  | stale
  | missing
  | unknown
deriving DecidableEq

/-- `TradeReconciliationGate`. -/
structure TradeGate where
  tradeId : List Char
  status : GateStatus
  runKey : Option (List Char)
  coverageToBlock : Option ℕ
deriving DecidableEq

inductive EligibilityRequirement
  | payout
  | canonical
deriving DecidableEq

/-! ### Operations -/

inductive Op
  -- statements that only read
  | getAccountingPeriodById (id : ℕ)
  | listSweepBatches (accountingPeriodId limit offset : ℕ)
  | listLedgerEntryAccountingProjections (limit offset : ℕ)
  /-- The first statement of `getSweepBatchDetail`. -/
  | getSweepBatch (id : ℕ)
  | listSweepBatchEntries (batchId : ℕ)
  | getLedgerEntryAccountingFacts (ledgerEntryId : ℕ)
  | getPartnerHandoffByBatchId (batchId : ℕ)
  | getTreasuryClaimEventByBatchId (batchId : ℕ)
  | getTreasuryClaimEventByTxHash (txHash : List Char)
  | listSweepBatchEntryLogAddresses (batchId : ℕ)
  | getLedgerEntryById (id : ℕ)
  | getActiveAllocation (ledgerEntryId : ℕ)
  /-- The first statement of `upsertTreasuryClaimEventWith`. -/
  | findClaim (txHash sourceEventId : List Char)
  -- transactions
  | createAccountingPeriod (data : PeriodInput)
  | updateAccountingPeriodStatus (data : PeriodStatusUpdate)
  | createSweepBatch (data : BatchInput)
  | addSweepBatchEntry (data : AllocationInput) (ledgerEntry : Option LedgerEntry)
      (active : Option Allocation)
  | updateSweepBatchStatus (data : StatusUpdate)
  | recordSweepBatchExecution (data : ExecutionInput) (existing : Option Claim)
  | upsertTreasuryClaimEvent (data : ClaimInput) (existing : Option Claim)
  | upsertPartnerHandoff (data : HandoffInput)
  | createRevenueRealization (data : RealizationInput) (discovered : Option AccountingFacts)
  | upsertLedgerEntry (input : LedgerEntryInput)
  | markLedgerEntryCanonical (mark : CanonicalMark)
  | recordLedgerEntryOrphaned (ledgerEntryId : ℕ)
  /-- What the routes about deposits and bank payouts leave in their tables. -/
  | writeEvidence (deposits : List Deposit) (confirmations : List BankConfirmation)
  -- questions to other services
  | assertEntries (ledgerEntryIds : List ℕ) (requirement : EligibilityRequirement)
  | fetchTreasuryClaimEventByTxHash (txHash : List Char)
  | verify (txHash : List Char) (blockNumber : ℕ)
  | assessTrades (tradeIds : List (List Char))
  | summarizeTrades (tradeIds : List (List Char))

def Ans : Op → Type
  | .getAccountingPeriodById _ => Option Period
  | .listSweepBatches _ _ _ => List Batch
  | .listLedgerEntryAccountingProjections _ _ => List AccountingFacts
  | .getSweepBatch _ => Option Batch
  | .listSweepBatchEntries _ => List Allocation
  | .getLedgerEntryAccountingFacts _ => Option AccountingFacts
  | .getPartnerHandoffByBatchId _ => Option Handoff
  | .getTreasuryClaimEventByBatchId _ => Option Claim
  | .getTreasuryClaimEventByTxHash _ => Option Claim
  | .listSweepBatchEntryLogAddresses _ => List (Option (List Char))
  | .getLedgerEntryById _ => Option LedgerEntry
  | .getActiveAllocation _ => Option Allocation
  | .findClaim _ _ => Option Claim
  | .createAccountingPeriod _ => Period
  | .updateAccountingPeriodStatus _ => Period
  | .createSweepBatch _ => Batch
  | .addSweepBatchEntry _ _ _ => Allocation
  | .updateSweepBatchStatus _ => Batch
  | .recordSweepBatchExecution _ _ => Batch
  | .upsertTreasuryClaimEvent _ _ => Claim
  | .upsertPartnerHandoff _ => Handoff
  | .createRevenueRealization _ _ => Realization
  | .upsertLedgerEntry _ => LedgerEntry
  | .markLedgerEntryCanonical _ => ChainCanonicalityState
  | .recordLedgerEntryOrphaned _ => Unit
  | .writeEvidence _ _ => Unit
  | .assertEntries _ _ => Unit
  | .fetchTreasuryClaimEventByTxHash _ => Option ObservedClaim
  | .verify _ _ => FinalizedVerdict
  | .assessTrades _ => List TradeGate
  | .summarizeTrades _ => GateStatus

abbrev Code (α : Type) : Type := Prog Op Ans Thrown α

def ask (o : Op) : Code (Ans o) := .call o

/-- `throw` in a program. -/
def raise {α : Type} (e : Thrown) : Code α := .fail e

/-- `if (!condition) throw e`. -/
def check (condition : Prop) [Decidable condition] (e : Thrown) : Code Unit :=
  if condition then pure () else raise e

/-! ### The detail of a batch -/

/-- An allocated entry: its projection, with the amount that is allocated. -/
structure DetailEntry where
  facts : AccountingFacts
  accountingState : AccountingState
deriving DecidableEq

/-- `SweepBatchDetail`. -/
structure BatchDetail where
  batch : Batch
  entries : List DetailEntry
  partnerHandoff : Option Handoff
deriving DecidableEq

def sumAllocatedEntryAmountRaw (entries : List DetailEntry) : ℕ :=
  (entries.map fun e => e.facts.allocatedAmountRaw.getD e.facts.amountRaw).sum

/-- `totals.allocatedAmountRaw`. -/
def BatchDetail.allocatedAmountRaw (detail : BatchDetail) : ℕ :=
  sumAllocatedEntryAmountRaw detail.entries

/-- The projections of the allocations; one whose entry is not found is left out. -/
def projectAllocations : List Allocation → Code (List DetailEntry)
  | [] => pure []
  | link :: links => do
    let facts ← ask (.getLedgerEntryAccountingFacts link.ledgerEntryId)
    let rest ← projectAllocations links
    match facts with
    | none => pure rest
    | some facts =>
      pure ({ facts := { facts with allocatedAmountRaw := some link.entryAmountRaw }
              accountingState := projectLedgerEntryAccountingState facts } :: rest)

def getSweepBatchDetail (batchId : ℕ) : Code (Option BatchDetail) := do
  let batch ← ask (.getSweepBatch batchId)
  match batch with
  | none => pure none
  | some batch =>
    let links ← ask (.listSweepBatchEntries batchId)
    let entries ← projectAllocations links
    let partnerHandoff ← ask (.getPartnerHandoffByBatchId batchId)
    pure (some { batch := batch, entries := entries, partnerHandoff := partnerHandoff })

/-- The detail of a batch that the request is about. -/
def requireDetail (batchId : ℕ) (e : Thrown) : Code BatchDetail := do
  let detail ← getSweepBatchDetail batchId
  match detail with
  | none => raise e
  | some detail => pure detail

/-- `SweepBatchGate.assertBatch`. -/
def assertBatch (detail : BatchDetail) (requirement : EligibilityRequirement) : Code Unit :=
  ask (.assertEntries
    ((detail.entries.filter fun e => e.facts.allocationStatus = some .allocated).map
      fun e => e.facts.ledgerEntryId) requirement)

/-! ### Matching a claim -/

def sameAddress (left right : List Char) : Bool := normalized left = normalized right

/-- The fields in which the claim on the chain is not the expected one; who triggered it may be left
open. -/
def mismatchedFields (observed expected : ClaimFields) : List (List Char) :=
  (if sameAddress observed.treasuryIdentity expected.treasuryIdentity then []
    else [Text.lit "treasuryIdentity"]) ++
  (if sameAddress observed.payoutReceiver expected.payoutReceiver then []
    else [Text.lit "payoutReceiver"]) ++
  (if observed.amountRaw = expected.amountRaw then [] else [Text.lit "amount"]) ++
  if expected.triggeredBy.all
      fun triggeredBy => sameAddress (observed.triggeredBy.getD []) triggeredBy then []
  else [Text.lit "triggeredBy"]

/-- `verifyTreasuryClaimLog`: the claim that the receipt proves. -/
def verifyTreasuryClaimLog (logs : List ReceiptLog)
    (emitter tokenAddress treasuryIdentity : List Char) (expected : ClaimFields) :
    Except Thrown ClaimFields :=
  let refused (detail : List Char) : Thrown :=
    .callerSafe (Text.lit "TreasuryClaimed transaction does not prove this claim: " ++ detail)
  let movementDiffers := refused (Text.lit "Treasury sweep token movement differs from its " ++
    Text.lit "governed receiver and exact claim amount")
  let own := normalizeLogAddress emitter
  let claims := (logs.filter fun log =>
    own.isSome && normalizeLogAddress log.address = own).filterMap ReceiptLog.claim
  match claims with
  | [observed] => do
    let mismatched := mismatchedFields observed expected
    require (mismatched = [])
      (refused (Text.lit "TreasuryClaimed log on chain differs from the indexed claim in " ++
        (mismatched.intersperse (Text.lit ", ")).flatten))
    require (sameAddress observed.treasuryIdentity treasuryIdentity = true)
      (refused (Text.lit
        "TreasuryClaimed accounting identity differs from the original escrow treasury"))
    let transfers := ((logs.filter fun log =>
        normalizeLogAddress log.address = normalizeLogAddress tokenAddress).filterMap
          ReceiptLog.transfer).filter fun transfer =>
        sameAddress transfer.sender (own.getD []) || sameAddress transfer.receiver (own.getD [])
    match transfers with
    | [transfer] => do
      require (sameAddress transfer.sender (own.getD []) = true ∧
          sameAddress transfer.receiver observed.payoutReceiver = true ∧
          transfer.value = observed.amountRaw ∧ 0 < observed.amountRaw) movementDiffers
      pure observed
    | _ => throw movementDiffers
  | _ => throw (refused (Text.lit "Claim receipt carries " ++ Text.decimal claims.length ++
      Text.lit " TreasuryClaimed logs from " ++ own.getD (Text.lit "an unknown emitter") ++
      Text.lit ", expected exactly one"))

/-- The argument of `verifyAndMatch`. -/
structure MatchParams where
  batchId : ℕ
  txHash : List Char
  actor : List Char
deriving DecidableEq

/-- A stored claim, as an observation. -/
def Claim.observed (claim : Claim) : ObservedClaim where
  id := claim.sourceEventId
  txHash := claim.txHash
  blockNumber := claim.blockNumber
  timestamp := claim.observedAt
  claimAmount := claim.amountRaw
  treasuryIdentity := claim.treasuryIdentity
  payoutReceiver := claim.payoutReceiver
  triggeredBy := claim.triggeredBy

/-- The claim that is bound to the batch, or else the stored claim of the transaction. -/
def persistedClaim (existing : Option Claim) (txHash : List Char) : Code (Option Claim) :=
  match existing with
  | some claim => pure (some claim)
  | none => ask (.getTreasuryClaimEventByTxHash txHash)

/-- The stored claim, or else what the indexer reports. -/
def reportedClaim (persisted : Option Claim) (txHash : List Char) : Code (Option ObservedClaim) :=
  match persisted with
  | some claim => pure (some claim.observed)
  | none => ask (.fetchTreasuryClaimEventByTxHash txHash)

/-- The claim of the transaction. -/
def observeClaim (existing : Option Claim) (txHash : List Char) : Code ObservedClaim := do
  let persisted ← persistedClaim existing txHash
  let observed ← reportedClaim persisted txHash
  match observed with
  | none =>
    raise (callerSafe "No authoritative TreasuryClaimed event was found for the supplied tx hash")
  | some observed => do
    check (normalized observed.txHash = txHash)
      (callerSafe "Indexed TreasuryClaimed event does not belong to the supplied tx hash")
    pure observed

/-- What the chain says about the claim: who triggered it, and the evidence. -/
def proveClaim (batchId : ℕ) (txHash : List Char) (observed : ObservedClaim) :
    Code (Option (List Char) × List Char × Evidence) := do
  let emitters ← ask (.listSweepBatchEntryLogAddresses batchId)
  match emitters with
  | [some emitter] =>
    let verdict ← ask (.verify txHash observed.blockNumber)
    match verdict with
    | .refused detail unavailable =>
      let message := Text.lit "TreasuryClaimed transaction is not finalized canonical evidence: " ++
        detail
      raise (if unavailable then .plain message else .callerSafe message)
    | .finalized blockHash escrowAddress tokenAddress treasuryIdentity evidence logs => do
      check (Text.toLowerCase emitter = escrowAddress)
        (plain "Sweep batch entries differ from the independently verified settlement escrow")
      let claim ← Prog.ofExcept (verifyTreasuryClaimLog logs emitter tokenAddress treasuryIdentity
        { treasuryIdentity := observed.treasuryIdentity
          payoutReceiver := observed.payoutReceiver
          amountRaw := observed.claimAmount
          triggeredBy := observed.triggeredBy })
      pure (observed.triggeredBy.or claim.triggeredBy, blockHash, evidence)
  | _ =>
    raise (.callerSafe
      (Text.lit "Sweep batch entries do not resolve to a single settlement emitter, so the " ++
        Text.lit "claim log cannot be bound to the batch"))

/-- The recorded evidence is of this transaction in this block. -/
def Evidence.isOf (recorded : Evidence) (txHash blockHash : List Char) (evidence : Evidence) :
    Bool :=
  recorded.policyVersion = Text.lit "treasury_dual_rpc_finalized_v1" &&
    recorded.blockHash = blockHash && recorded.transactionHash = txHash &&
    recorded.chainId = evidence.chainId

/-- `recordSweepBatchExecution`, after its first read. -/
def recordExecution (data : ExecutionInput) : Code Batch := do
  let existing ← ask (.findClaim data.claim.txHash data.claim.sourceEventId)
  ask (.recordSweepBatchExecution data existing)

/-- What is checked about the claim that is already bound to the batch. -/
def checkBound (status : SweepBatchStatus) (existing : Option Claim) (txHash : List Char) :
    Code Unit :=
  match existing with
  | none => pure ()
  | some claim => do
    check (Text.toLowerCase claim.txHash = txHash)
      (callerSafe "Sweep batch is already matched to a different treasury claim tx")
    check (status = .approved ∨ status.isExecuted = true)
      (plain "Previously matched sweep has an incompatible accounting state")

def verifyAndMatch (params : MatchParams) : Code Evidence := do
  let detail ← requireDetail params.batchId (callerSafe "Sweep batch not found")
  let txHash := normalized params.txHash
  let existing ← ask (.getTreasuryClaimEventByBatchId params.batchId)
  checkBound detail.batch.status existing txHash
  let previouslyExecuted : Bool := existing.isSome && detail.batch.status ≠ .approved
  let observed ← observeClaim existing txHash
  Prog.ofExcept (assertBatchExecutionMatchable
    { batchStatus := detail.batch.status
      payoutReceiverAddress := detail.batch.payoutReceiverAddress
      assetSymbol := detail.batch.assetSymbol
      expectedTotalRaw := detail.batch.expectedTotalRaw
      allocatedTotalRaw := detail.allocatedAmountRaw
      observedTxHash := observed.txHash
      observedPayoutReceiver := observed.payoutReceiver
      observedAmountRaw := observed.claimAmount
      verificationOnly := previouslyExecuted })
  let (triggeredBy, blockHash, evidence) ← proveClaim params.batchId txHash observed
  let recorded := detail.batch.settlementFinalizedEvidence
  check ((previouslyExecuted = true → recorded.isSome = true) ∧
      recorded.all (fun recorded => recorded.isOf txHash blockHash evidence) = true)
    (.plain (Text.lit "Original sweep finalized evidence requires governed reconciliation; " ++
      Text.lit "it cannot be replaced"))
  if previouslyExecuted then pure evidence
  else do
    let _ ← recordExecution
      { batchId := params.batchId
        finalizedEvidence := evidence
        claim :=
          { sourceEventId := observed.id
            matchedSweepBatchId := some params.batchId
            txHash := observed.txHash
            blockNumber := observed.blockNumber
            observedAt := observed.timestamp
            treasuryIdentity := observed.treasuryIdentity
            payoutReceiver := observed.payoutReceiver
            amountRaw := observed.claimAmount
            triggeredBy := triggeredBy }
        actor := params.actor }
    pure evidence

def revalidateMatchedBatch (batchId : ℕ) : Code Evidence := do
  let required := plain "Original executed sweep evidence is required for progression"
  let detail ← requireDetail batchId required
  check (detail.batch.status.isExecuted = true) required
  match detail.batch.matchedSweepTxHash with
  | none => raise required
  | some txHash => do
    check (txHash ≠ []) required
    verifyAndMatch { batchId := batchId, txHash := txHash, actor := Text.lit "chain-revalidation" }

/-! ### The close packet -/

inductive CloseIssueCode
  | entryExceptionState
  | allocatedAmountDiffersFromSource
  | reconciliation (status : GateStatus)
  | batchNotClosed
  | sweepTxUnmatched
  | externalHandoffMissing
  | periodReconciliation (status : GateStatus)
deriving DecidableEq

/-- The severity is `BLOCKING`, and not `WARNING`. -/
def CloseIssueCode.isBlocking : CloseIssueCode → Bool
  | allocatedAmountDiffersFromSource => false
  | entryExceptionState | reconciliation _ | batchNotClosed | sweepTxUnmatched
  | externalHandoffMissing | periodReconciliation _ => true

/-- `TreasuryCloseIssue`. -/
structure CloseIssue where
  code : CloseIssueCode
  tradeId : Option (List Char)
  sweepBatchId : Option ℕ
  ledgerEntryId : Option ℕ
deriving DecidableEq

/-- The first issue of each kind is kept. -/
def dedupeIssues : List CloseIssue → List CloseIssue
  | [] => []
  | issue :: issues => issue :: (dedupeIssues issues).filter fun i => i ≠ issue

def buildEntryIssues (entry : DetailEntry) : List CloseIssue :=
  let issue (code : CloseIssueCode) : CloseIssue :=
    ⟨code, some entry.facts.tradeId, entry.facts.sweepBatchId, some entry.facts.ledgerEntryId⟩
  (if entry.accountingState = .exception then [issue .entryExceptionState] else []) ++
    if entry.facts.allocatedAmountRaw.all (fun a => a = entry.facts.amountRaw) then []
    else [issue .allocatedAmountDiffersFromSource]

/-- `TreasuryBatchTraceReport`. -/
structure BatchReport where
  detail : BatchDetail
  claimEvent : Option Claim
deriving DecidableEq

/-- The issues of `buildTreasuryBatchTraceReport`, blocking or not. -/
def BatchReport.issues (report : BatchReport) : List CloseIssue :=
  let batch := report.detail.batch
  let issue (code : CloseIssueCode) : CloseIssue := ⟨code, none, some batch.id, none⟩
  report.detail.entries.flatMap buildEntryIssues ++
    (if batch.status = .executed ∧ report.claimEvent = none then [issue .sweepTxUnmatched]
      else []) ++
    if batch.status = .handedOff ∧
        ¬ report.detail.partnerHandoff.any (fun h => !h.partnerReference.isEmpty) then
      [issue .externalHandoffMissing]
    else []

/-- The batch is `CLOSED` or `VOID`. -/
def isSettled : SweepBatchStatus → Bool
  | .closed | .void => true
  | .draft | .pendingApproval | .approved | .executed | .handedOff => false

/-- The issues of `buildTreasuryPeriodRollforwardReport`. -/
def rollforwardIssues (entries : List AccountingFacts) (assessments : List TradeGate)
    (reports : List BatchReport) : List CloseIssue :=
  let entryIssues := entries.flatMap fun facts =>
    buildEntryIssues ⟨facts, projectLedgerEntryAccountingState facts⟩
  let reconciliationIssues := (assessments.filter fun a => a.status ≠ .clear).map fun a =>
    (⟨.reconciliation a.status, some a.tradeId, none, none⟩ : CloseIssue)
  let openBatchIssues := (reports.filter fun r => !isSettled r.detail.batch.status).map fun r =>
    (⟨.batchNotClosed, none, some r.detail.batch.id, none⟩ : CloseIssue)
  dedupeIssues (entryIssues ++ reconciliationIssues ++ openBatchIssues ++
    reports.flatMap BatchReport.issues)

/-- `ready_for_close`. -/
def readyForClose (entries : List AccountingFacts) (assessments : List TradeGate)
    (summary : GateStatus) (reports : List BatchReport) : Bool :=
  (dedupeIssues
    ((rollforwardIssues entries assessments reports).filter (fun i => i.code.isBlocking) ++
      if summary = .clear then [] else [⟨.periodReconciliation summary, none, none, none⟩])).isEmpty

/-- `PAGE_SIZE`. -/
def pageSize : ℕ := 500

/-- The request has read as many pages as it is given here; one that goes on has more `fuel`. -/
def outOfFuel : Thrown := plain "unfinished"

def loadAllAccountingEntriesUpTo (endsAt : ℕ) : ℕ → ℕ → Code (List AccountingFacts)
  | 0, _ => raise outOfFuel
  | fuel + 1, offset => do
    let page ← ask (.listLedgerEntryAccountingProjections pageSize offset)
    let rows := page.filter fun facts => facts.earnedAt ≤ endsAt
    if page.length < pageSize then pure rows
    else do
      let rest ← loadAllAccountingEntriesUpTo endsAt fuel (offset + pageSize)
      pure (rows ++ rest)

def loadAllSweepBatchesForPeriod (periodId : ℕ) : ℕ → ℕ → Code (List Batch)
  | 0, _ => raise outOfFuel
  | fuel + 1, offset => do
    let page : List Batch ← ask (.listSweepBatches periodId pageSize offset)
    if page.length < pageSize then pure page
    else do
      let rest ← loadAllSweepBatchesForPeriod periodId fuel (offset + pageSize)
      pure (page ++ rest)

def loadTreasuryBatchTraceReport (batchId : ℕ) : Code BatchReport := do
  let detail ← requireDetail batchId (callerSafe "Sweep batch not found")
  let claimEvent ← ask (.getTreasuryClaimEventByBatchId batchId)
  pure { detail := detail, claimEvent := claimEvent }

def loadReports : List Batch → Code (List BatchReport)
  | [] => pure []
  | batch :: batches => do
    let report ← loadTreasuryBatchTraceReport batch.id
    let reports ← loadReports batches
    pure (report :: reports)

/-- `loadTreasuryAccountingPeriodClosePacket`, as far as `ready_for_close` goes. -/
def loadClosePacket (periodId fuel : ℕ) : Code Bool := do
  let period ← ask (.getAccountingPeriodById periodId)
  match period with
  | none => raise (callerSafe "Accounting period not found")
  | some period => do
    let entries ← loadAllAccountingEntriesUpTo period.endsAt fuel 0
    let batches ← loadAllSweepBatchesForPeriod periodId fuel 0
    let reports ← loadReports batches
    let tradeIds := (reports.flatMap fun r => r.detail.entries.map fun e => e.facts.tradeId).dedup
    if tradeIds = [] then pure (readyForClose entries [] .clear reports)
    else do
      let assessments ← ask (.assessTrades tradeIds)
      let summary ← ask (.summarizeTrades tradeIds)
      pure (readyForClose entries assessments summary reports)

/-! ### Routes -/

/-- Move a batch on without evidence or a match. -/
def moveBatch (batchId : ℕ) (status : SweepBatchStatus) (actor : List Char)
    (metadata evidence : Option Evidence) : Code Unit := do
  let _ ← ask (.updateSweepBatchStatus
    { batchId := batchId
      status := status
      actor := actor
      finalizedSweepEvidence := evidence
      matched := none
      metadata := metadata })
  pure ()

def requestAccountingPeriodClose (periodId : ℕ) (actor : List Char) : Code Unit := do
  let _ ← ask (.updateAccountingPeriodStatus ⟨periodId, .pendingClose, actor⟩)
  pure ()

def closeAccountingPeriod (periodId : ℕ) (actor : List Char) (fuel : ℕ) : Code Unit := do
  let ready ← loadClosePacket periodId fuel
  check (ready = true) (httpError 409 "CloseBlocked"
    "Accounting period cannot close while blocking treasury close issues remain")
  let _ ← ask (.updateAccountingPeriodStatus ⟨periodId, .closed, actor⟩)
  pure ()

/-- The route, which asks for eligibility first, and the reads of the transaction. -/
def allocateSweepBatchEntry (data : AllocationInput) : Code Unit := do
  ask (.assertEntries [data.ledgerEntryId] .payout)
  let ledgerEntry ← ask (.getLedgerEntryById data.ledgerEntryId)
  let active ← ask (.getActiveAllocation data.ledgerEntryId)
  let _ ← ask (.addSweepBatchEntry data ledgerEntry active)
  pure ()

def notFound : Thrown := httpError 404 "NotFound" "Sweep batch not found"

def totalMismatch : Thrown := httpError 409 "ApprovalBlocked"
  "Sweep batch total does not match allocated entry total"

def requestSweepBatchApproval (batchId : ℕ) (actor : List Char) (metadata : Option Evidence) :
    Code Unit := do
  let detail ← requireDetail batchId notFound
  check (detail.entries ≠ [])
    (httpError 409 "ApprovalBlocked" "Sweep batch has no allocated entries")
  check (detail.batch.payoutReceiverAddress.getD [] ≠ [])
    (httpError 409 "ApprovalBlocked"
      "Sweep batch requires a recorded payout receiver before approval can begin")
  check (detail.allocatedAmountRaw = detail.batch.expectedTotalRaw) totalMismatch
  assertBatch detail .payout
  moveBatch batchId .pendingApproval actor metadata none

def approveSweepBatch (batchId : ℕ) (actor : List Char) (metadata : Option Evidence) :
    Code Unit := do
  let detail ← requireDetail batchId notFound
  check (detail.allocatedAmountRaw = detail.batch.expectedTotalRaw) totalMismatch
  assertBatch detail .payout
  moveBatch batchId .approved actor metadata none

def markSweepBatchExecuted (batchId : ℕ) (txHash : Option (List Char)) (actor : List Char) :
    Code Unit :=
  match txHash with
  | none => raise (httpError 400 "ValidationError"
      "matchedSweepTxHash is required for executed sweep batches")
  | some txHash => do
    let _ ← tryCatchThe Thrown
      (verifyAndMatch { batchId := batchId, txHash := txHash, actor := actor })
      fun e => match e with
        | .callerSafe message => raise (.http 409 (Text.lit "ExecutionMatchFailed") message)
        | e => raise e
    pure ()

/-- The batch moves on with what the request has reported, not with what is recorded then. -/
def recordPartnerHandoff (data : HandoffInput) (actor : List Char) : Code Unit := do
  let _ ← ask (.upsertPartnerHandoff data)
  let detail ← getSweepBatchDetail data.sweepBatchId
  if (detail.any fun d => d.batch.status = .executed) ∧ isHandedOff data.handoffStatus then do
    let evidence ← revalidateMatchedBatch data.sweepBatchId
    moveBatch data.sweepBatchId .handedOff actor none (some evidence)
  else pure ()

def closeSweepBatch (batchId : ℕ) (actor : List Char) (metadata : Option Evidence) :
    Code Unit := do
  let detail ← requireDetail batchId notFound
  check (detail.partnerHandoff.any (fun h => h.handoffStatus = .completed) = true)
    (httpError 409 "CloseBlocked"
      "Sweep batch cannot close without completed external handoff evidence")
  check (detail.entries.all (fun e => e.accountingState = .realized) = true)
    (httpError 409 "CloseBlocked"
      "Sweep batch cannot close while entries remain unrealized or in exception")
  assertBatch detail .canonical
  let evidence ← revalidateMatchedBatch batchId
  moveBatch batchId .closed actor metadata (some evidence)

def resolveRealizationBinding (entryId : ℕ) :
    Code (Option RealizationReconciliationBinding) := do
  let entry ← ask (.getLedgerEntryById entryId)
  match entry with
  | none => pure none
  | some entry => do
    let gates ← ask (.assessTrades [entry.tradeId])
    pure do
      let gate ← gates.find? fun g => g.tradeId = entry.tradeId
      if gate.status = .clear then
        let coverageToBlock ← gate.coverageToBlock
        pure ⟨gate.runKey.getD (Text.lit "unknown"), coverageToBlock, entry.blockNumber⟩
      else none

/-- `CreateRevenueRealizationBody`. -/
structure RealizationBody where
  accountingPeriodId : ℕ
  sweepBatchId : Option ℕ
  partnerHandoffId : Option ℕ
deriving DecidableEq

/-- `realizeEntryWithFinalizedSweep`. -/
def createEntryRealization (entryId : ℕ) (body : RealizationBody) (actor : List Char) :
    Code Unit := do
  let facts ← ask (.getLedgerEntryAccountingFacts entryId)
  match facts.bind AccountingFacts.sweepBatchId with
  | none => raise (plain "Original sweep batch is required for realization")
  | some sweepBatchId => do
    check (body.sweepBatchId.getD sweepBatchId = sweepBatchId)
      (plain "Revenue realization sweep batch does not match the ledger entry batch")
    let evidence ← revalidateMatchedBatch sweepBatchId
    let binding ← resolveRealizationBinding entryId
    let discovered ← ask (.getLedgerEntryAccountingFacts entryId)
    let _ ← ask (.createRevenueRealization
      { ledgerEntryId := entryId
        accountingPeriodId := body.accountingPeriodId
        sweepBatchId := some sweepBatchId
        partnerHandoffId := body.partnerHandoffId
        actor := actor
        finalizedSweepEvidence := some evidence
        reconciliationBinding := binding } discovered)
    pure ()

/-- `upsertTreasuryClaimEvent`, as ingestion calls it. -/
def ingestClaim (data : ClaimInput) : Code Unit := do
  let existing ← ask (.findClaim data.txHash data.sourceEventId)
  let _ ← ask (.upsertTreasuryClaimEvent { data with matchedSweepBatchId := none } existing)
  pure ()

/-! ### Requests -/

inductive Request
  | createAccountingPeriod (data : PeriodInput)
  | requestAccountingPeriodClose (periodId : ℕ) (actor : List Char)
  | closeAccountingPeriod (periodId : ℕ) (actor : List Char) (fuel : ℕ)
  | createSweepBatch (data : BatchInput)
  | addSweepBatchEntry (data : AllocationInput)
  | requestSweepBatchApproval (batchId : ℕ) (actor : List Char) (metadata : Option Evidence)
  | approveSweepBatch (batchId : ℕ) (actor : List Char) (metadata : Option Evidence)
  | markSweepBatchExecuted (batchId : ℕ) (txHash : Option (List Char)) (actor : List Char)
  | recordPartnerHandoff (data : HandoffInput) (actor : List Char)
  | closeSweepBatch (batchId : ℕ) (actor : List Char) (metadata : Option Evidence)
  | createEntryRealization (entryId : ℕ) (body : RealizationBody) (actor : List Char)
  /-- `updateSweepBatchStatus`, back to `DRAFT`. -/
  | returnToDraft (batchId : ℕ) (actor : List Char)
  /-- `updateSweepBatchStatus`, to `VOID`. -/
  | voidBatch (batchId : ℕ) (actor : List Char)
  | ingestClaim (data : ClaimInput)
  | ingestEntry (input : LedgerEntryInput)
  | markCanonical (mark : CanonicalMark)
  | orphanEntry (ledgerEntryId : ℕ)
  | writeEvidence (deposits : List Deposit) (confirmations : List BankConfirmation)

def program : Request → Code Unit
  | .createAccountingPeriod data => do
    let _ ← ask (.createAccountingPeriod data)
    pure ()
  | .requestAccountingPeriodClose periodId actor => requestAccountingPeriodClose periodId actor
  | .closeAccountingPeriod periodId actor fuel => closeAccountingPeriod periodId actor fuel
  | .createSweepBatch data => do
    let _ ← ask (.createSweepBatch data)
    pure ()
  | .addSweepBatchEntry data => allocateSweepBatchEntry data
  | .requestSweepBatchApproval batchId actor metadata =>
    requestSweepBatchApproval batchId actor metadata
  | .approveSweepBatch batchId actor metadata => approveSweepBatch batchId actor metadata
  | .markSweepBatchExecuted batchId txHash actor => markSweepBatchExecuted batchId txHash actor
  | .recordPartnerHandoff data actor => recordPartnerHandoff data actor
  | .closeSweepBatch batchId actor metadata => closeSweepBatch batchId actor metadata
  | .createEntryRealization entryId body actor => createEntryRealization entryId body actor
  | .returnToDraft batchId actor => moveBatch batchId .draft actor none none
  | .voidBatch batchId actor => moveBatch batchId .void actor none none
  | .ingestClaim data => ingestClaim data
  | .ingestEntry input => do
    let _ ← ask (.upsertLedgerEntry input)
    pure ()
  | .markCanonical mark => do
    let _ ← ask (.markLedgerEntryCanonical mark)
    pure ()
  | .orphanEntry ledgerEntryId => ask (.recordLedgerEntryOrphaned ledgerEntryId)
  | .writeEvidence deposits confirmations => ask (.writeEvidence deposits confirmations)

/-! ### The world -/

/-- What the database and the other services do not determine. -/
structure Luck where
  fate : Fate := .done
  /-- The id of a new row. -/
  id : ℕ := 0
  now : ℕ := 0
  /-- The place of the row that comes first in a result without an order. -/
  pick : ℕ := 0
  entries : Except Thrown Unit := .ok ()
  claim : Except Thrown (Option ObservedClaim) := .ok none
  verdict : FinalizedVerdict := .refused [] true
  trades : Except Thrown (List TradeGate) := .ok []
  summary : Except Thrown GateStatus := .ok .clear

def unavailable : Thrown := plain "Connection terminated unexpectedly"

/-- `listSweepBatches`, for one period. -/
def Database.batchPage (s : Database) (accountingPeriodId limit offset : ℕ) : List Batch :=
  (((s.batches.filter fun b => b.accountingPeriodId = accountingPeriodId).reverse).drop
    offset).take limit

/-- `listLedgerEntryAccountingProjections`, of all entries. -/
def Database.factsPage (s : Database) (limit offset : ℕ) : List AccountingFacts :=
  (((s.entries.insertionSort fun e e' => e'.sourceTimestamp < e.sourceTimestamp ∨
    e'.sourceTimestamp = e.sourceTimestamp ∧ e'.id ≤ e.id).map s.factsOf).drop offset).take limit

/-- `getSweepBatchDetail` joins the batch with its period. -/
def Database.batchWithPeriod (s : Database) (id : ℕ) : Option Batch :=
  (s.batch id).filter fun b => (s.period b.accountingPeriodId).isSome

/-- `listSweepBatchEntryLogAddresses`. -/
def Database.logAddresses (s : Database) (batchId : ℕ) : List (Option (List Char)) :=
  ((s.allocationsOf batchId).filterMap fun a =>
    if a.allocationStatus = .allocated then
      (s.entry a.ledgerEntryId).map fun e => e.logAddress.map Text.toLowerCase
    else none).dedup

/-- What an operation answers, and the database afterwards. -/
def perform : (o : Op) → Luck → Database → Except Thrown (Ans o) × Database
  | .getAccountingPeriodById id, luck, s => query unavailable (·.period id) luck.fate s
  | .listSweepBatches periodId limit offset, luck, s =>
    query unavailable (·.batchPage periodId limit offset) luck.fate s
  | .listLedgerEntryAccountingProjections limit offset, luck, s =>
    query unavailable (·.factsPage limit offset) luck.fate s
  | .getSweepBatch id, luck, s => query unavailable (·.batchWithPeriod id) luck.fate s
  | .listSweepBatchEntries batchId, luck, s =>
    query unavailable (·.allocationsOf batchId) luck.fate s
  | .getLedgerEntryAccountingFacts id, luck, s => query unavailable (·.facts id) luck.fate s
  | .getPartnerHandoffByBatchId batchId, luck, s =>
    query unavailable (·.handoff batchId) luck.fate s
  | .getTreasuryClaimEventByBatchId batchId, luck, s =>
    query unavailable (·.claims.find? fun c => c.matchedSweepBatchId = some batchId) luck.fate s
  | .getTreasuryClaimEventByTxHash txHash, luck, s =>
    query unavailable (·.claims.find? fun c => c.txHash = txHash) luck.fate s
  | .listSweepBatchEntryLogAddresses batchId, luck, s =>
    query unavailable (·.logAddresses batchId) luck.fate s
  | .getLedgerEntryById id, luck, s => query unavailable (·.entry id) luck.fate s
  | .getActiveAllocation id, luck, s => query unavailable (·.activeAllocation id) luck.fate s
  | .findClaim txHash sourceEventId, luck, s =>
    query unavailable (fun s => (s.claimsFor txHash sourceEventId)[luck.pick]?.or
      (s.claimsFor txHash sourceEventId).head?) luck.fate s
  | .createAccountingPeriod data, luck, s =>
    transact unavailable (Sweep.createAccountingPeriod data luck.id) luck.fate s
  | .updateAccountingPeriodStatus data, luck, s =>
    transact unavailable (Sweep.updateAccountingPeriodStatus data) luck.fate s
  | .createSweepBatch data, luck, s =>
    transact unavailable (Sweep.createSweepBatch data luck.id) luck.fate s
  | .addSweepBatchEntry data ledgerEntry active, luck, s =>
    transact unavailable (Sweep.addSweepBatchEntry data ledgerEntry active luck.id) luck.fate s
  | .updateSweepBatchStatus data, luck, s =>
    transact unavailable (applySweepBatchStatusUpdate data luck.now) luck.fate s
  | .recordSweepBatchExecution data existing, luck, s =>
    transact unavailable (Sweep.recordSweepBatchExecution data existing luck.id luck.now)
      luck.fate s
  | .upsertTreasuryClaimEvent data existing, luck, s =>
    transact unavailable (upsertTreasuryClaimEventWith data existing luck.id) luck.fate s
  | .upsertPartnerHandoff data, luck, s =>
    transactResult unavailable (Sweep.upsertPartnerHandoff data luck.id luck.now) luck.fate s
  | .createRevenueRealization data discovered, luck, s =>
    transact unavailable (Sweep.createRevenueRealization data discovered luck.id luck.now)
      luck.fate s
  | .upsertLedgerEntry input, luck, s =>
    transact unavailable (fun s => do
      let (entry, entries) ← Treasury.upsertLedgerEntry input luck.id s.entries
      pure (entry, { s with entries := entries })) luck.fate s
  | .markLedgerEntryCanonical mark, luck, s =>
    transact unavailable (fun s =>
      let (state, entries) := Treasury.markLedgerEntryCanonical mark s.entries
      pure (state, { s with entries := entries })) luck.fate s
  | .recordLedgerEntryOrphaned id, luck, s =>
    transact unavailable (fun s =>
      pure ((), { s with entries := markLedgerEntryOrphaned id s.entries })) luck.fate s
  | .writeEvidence deposits confirmations, luck, s =>
    transact unavailable (fun s =>
      pure ((), { s with deposits := deposits, confirmations := confirmations })) luck.fate s
  | .assertEntries _ _, luck, s => (luck.entries, s)
  | .fetchTreasuryClaimEventByTxHash _, luck, s => (luck.claim, s)
  | .verify _ _, luck, s => (.ok luck.verdict, s)
  | .assessTrades _, luck, s => (luck.trades, s)
  | .summarizeTrades _, luck, s => (luck.summary, s)

def world : World Op Ans Thrown Unit Database ℕ Luck Request where
  perform := fun _ o luck s => some (perform o luck s)
  abandon := fun _ s => s
  program := program

abbrev State : Type := Config Op Ans Thrown Unit Database ℕ

abbrev Action : Type := Label Op Ans Thrown Unit ℕ Request

abbrev Event : Type := Runs.Transition Database Action

def initial : State := ⟨.empty, fun _ => none⟩

theorem initial_quiet : initial.Quiet := fun _ => rfl

/-! ### Sample requests

Requests that can be served: the schedules about a batch of the sections and modules below are made
of them. -/

namespace Sample

def hex (n : ℕ) (digit : Char) : List Char := Text.lit "0x" ++ List.replicate n digit

def escrow : List Char := hex 40 'e'

def token : List Char := hex 40 '7'

def receiver : List Char := hex 40 'a'

def treasury : List Char := hex 40 'f'

def claimTx : List Char := hex 64 'c'

def evidence : Evidence where
  policyVersion := Text.lit "treasury_dual_rpc_finalized_v1"
  chainId := 8453
  transactionHash := claimTx
  blockNumber := 9
  blockHash := hex 64 'b'
  rpcWitnesses := [List.replicate 64 '1', List.replicate 64 '2']
  finalizedHeads := [(9, hex 64 'b'), (9, hex 64 'b')]
  verifiedAt := 0

/-- The claim of an amount, as the indexer reports it. -/
def observed (amount : ℕ) : ObservedClaim where
  id := Text.lit "claim-1"
  txHash := claimTx
  blockNumber := 9
  timestamp := 9
  claimAmount := amount
  treasuryIdentity := treasury
  payoutReceiver := receiver
  triggeredBy := none

def verdict (amount : ℕ) : FinalizedVerdict :=
  .finalized (hex 64 'b') escrow token treasury evidence
    [⟨escrow, some ⟨treasury, receiver, amount, none⟩, none⟩,
      ⟨token, none, some ⟨escrow, receiver, amount⟩⟩]

def entry (n amount : ℕ) : LedgerEntryInput where
  entryKey := List.replicate n 'k'
  tradeId := List.replicate n 't'
  txHash := hex 64 'd'
  blockNumber := 3
  blockHash := hex 64 'b'
  logIndex := n
  logAddress := some escrow
  logIdentityHash := some (List.replicate 64 '0')
  eventName := Text.lit "FundsReleasedStage1"
  componentType := .logistics
  amountRaw := amount
  sourceTimestamp := 3

def mark (n : ℕ) : CanonicalMark where
  ledgerEntryId := n
  blockHash := hex 64 'b'
  logIndex := n
  logAddress := escrow
  logIdentityHash := List.replicate 64 '0'

/-- The whole of one request, by process `0`. -/
def serve (q : Request) (luck : Luck) : List (Choice ℕ Luck Request) :=
  [.call 0 q, .acts 0 luck 60, .done 0]

/-- The luck of a request that adds the row `n`. -/
def adds (n : ℕ) : Luck := { id := n }

/-- The luck of a request about a claim on the chain. -/
def sees (amount : ℕ) : Luck :=
  { id := 1, claim := .ok (some (observed amount)), verdict := verdict amount }

/-- Batch `n` of period `1`, with entry `n` allocated to it. -/
def draft (n amount : ℕ) : List (Choice ℕ Luck Request) :=
  serve (.createSweepBatch
    { batchKey := List.replicate n 'b'
      accountingPeriodId := 1
      assetSymbol := Text.lit "USDC"
      expectedTotalRaw := amount
      payoutReceiverAddress := some receiver
      createdBy := Text.lit "maker"
      metadata := none }) (adds n) ++
  serve (.ingestEntry (entry n amount)) (adds n) ++
  serve (.markCanonical (mark n)) (adds n) ++
  serve (.addSweepBatchEntry ⟨n, n, Text.lit "maker", none⟩) (adds n)

def openPeriod : List (Choice ℕ Luck Request) :=
  serve (.createAccountingPeriod ⟨Text.lit "2026-11", 30, Text.lit "controller"⟩) (adds 1)

def approved (n amount : ℕ) : List (Choice ℕ Luck Request) :=
  draft n amount ++
  serve (.requestSweepBatchApproval n (Text.lit "maker") none) (adds n) ++
  serve (.approveSweepBatch n (Text.lit "checker") none) (adds n)

def executed : List (Choice ℕ Luck Request) :=
  openPeriod ++ approved 1 5 ++
  serve (.markSweepBatchExecuted 1 (some claimTx) (Text.lit "executor")) (sees 5)

def delivery (status : ProviderHandoffStatus) : HandoffInput :=
  ⟨1, Text.lit "bank", Text.lit "ref-1", status, some (Text.lit "statement-7")⟩

end Sample
end Cotsel.Treasury.Sweep
