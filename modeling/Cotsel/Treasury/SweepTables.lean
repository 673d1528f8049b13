import Cotsel.Treasury.LedgerEntries
import Cotsel.Treasury.ProviderHandoff

/-!
# The tables of the sweep batches

The rows that the sweep of treasury fees is recorded in (`schema.sql` and the migrations), and what
`queries/accountingProjections.ts` reads from them: the accounting facts of a ledger entry and the
state that they amount to.

A table is the list of its rows in the order of their insertion, and `created_at` is not kept beside
that order.  Of the metadata of a batch only `settlementFinalizedEvidence` is kept.
-/

namespace Cotsel.Treasury.Sweep

/-! ### Rows -/

/-- A row of `accounting_periods`. -/
structure Period where
  id : ℕ
  periodKey : List Char
  endsAt : ℕ
  status : AccountingPeriodStatus
  createdBy : List Char
  closedBy : Option (List Char)
deriving DecidableEq

/-- `TreasuryFinalizedEvidence`. -/
structure Evidence where
  policyVersion : List Char
  chainId : ℕ
  transactionHash : List Char
  blockNumber : ℕ
  blockHash : List Char
  rpcWitnesses : List (List Char)
  /-- Number and hash of the finalized head that each witness reported. -/
  finalizedHeads : List (ℕ × List Char)
  verifiedAt : ℕ
deriving DecidableEq

/-- A row of `sweep_batches`. -/
structure Batch where
  id : ℕ
  batchKey : List Char
  accountingPeriodId : ℕ
  assetSymbol : List Char
  status : SweepBatchStatus
  expectedTotalRaw : ℕ
  payoutReceiverAddress : Option (List Char)
  approvalRequestedBy : Option (List Char)
  approvedBy : Option (List Char)
  matchedSweepTxHash : Option (List Char)
  matchedSweepBlockNumber : Option ℕ
  matchedSweptAt : Option ℕ
  executedBy : Option (List Char)
  closedBy : Option (List Char)
  createdBy : List Char
  settlementFinalizedEvidence : Option Evidence
deriving DecidableEq

inductive AllocationStatus
  | allocated
  | released
deriving DecidableEq

/-- A row of `sweep_batch_entries`. -/
structure Allocation where
  id : ℕ
  sweepBatchId : ℕ
  ledgerEntryId : ℕ
  allocationStatus : AllocationStatus
  entryAmountRaw : ℕ
  allocatedBy : List Char
deriving DecidableEq

inductive SubjectType
  | sweepBatch
  | accountingPeriod
deriving DecidableEq

/-- A row of `treasury_transition_actors`. -/
structure TransitionActor extends TransitionActorRecord where
  subjectType : SubjectType
  subjectId : ℕ
deriving DecidableEq

/-- `TreasuryClaimEventUpsert`. -/
structure ClaimInput where
  sourceEventId : List Char
  matchedSweepBatchId : Option ℕ
  txHash : List Char
  blockNumber : ℕ
  observedAt : ℕ
  treasuryIdentity : List Char
  payoutReceiver : List Char
  amountRaw : ℕ
  triggeredBy : Option (List Char)
deriving DecidableEq

/-- A row of `treasury_claim_events`. -/
structure Claim extends ClaimInput where
  id : ℕ
deriving DecidableEq

/-- A row of `partner_handoffs`. -/
structure Handoff where
  id : ℕ
  sweepBatchId : ℕ
  partnerName : List Char
  partnerReference : List Char
  handoffStatus : ProviderHandoffStatus
  evidenceReference : Option (List Char)
  frozenAt : Option ℕ
  frozenReason : Option (List Char)
deriving DecidableEq

/-- A row of `revenue_realizations`. -/
structure Realization where
  id : ℕ
  ledgerEntryId : ℕ
  accountingPeriodId : ℕ
  sweepBatchId : Option ℕ
  partnerHandoffId : Option ℕ
  realizationStatus : RevenueRealizationStatus
  realizedAt : ℕ
  recognizedBy : List Char
deriving DecidableEq

inductive FiatDepositState
  | pending
  | funded
  /-- `PARTIAL`. -/
  | reduced
  | reversed
  | failed
deriving DecidableEq

/-- A row of `fiat_deposit_references`. -/
structure Deposit where
  id : ℕ
  ledgerEntryId : Option ℕ
  depositState : FiatDepositState
  observedAt : ℕ
deriving DecidableEq

/-- A row of `bank_payout_confirmations`. -/
structure BankConfirmation where
  id : ℕ
  ledgerEntryId : ℕ
  bankState : BankPayoutState
  confirmedAt : ℕ
deriving DecidableEq

structure Database where
  periods : List Period
  batches : List Batch
  allocations : List Allocation
  actors : List TransitionActor
  claims : List Claim
  handoffs : List Handoff
  realizations : List Realization
  entries : List LedgerEntry
  deposits : List Deposit
  confirmations : List BankConfirmation
deriving DecidableEq

def Database.empty : Database := ⟨[], [], [], [], [], [], [], [], [], []⟩

/-! ### Unique indexes -/

def periodTable : Table.Schema Period ℕ Unit :=
  .unique Period.id (fun r r' => r.id = r'.id || r.periodKey = r'.periodKey)
    (by simp [eq_comm]) (by simp +contextual)

def batchTable : Table.Schema Batch ℕ Unit :=
  .unique Batch.id (fun r r' => r.id = r'.id || r.batchKey = r'.batchKey)
    (by simp [eq_comm]) (by simp +contextual)

/-- `idx_sweep_batch_entries_active_ledger_entry` is about the active allocations only. -/
def allocationTable : Table.Schema Allocation ℕ Unit :=
  .unique Allocation.id
    (fun r r' => r.id = r'.id || (r.allocationStatus = .allocated &&
      r'.allocationStatus = .allocated && r.ledgerEntryId = r'.ledgerEntryId))
    (by
      intro r r'
      rw [Bool.and_comm (r.allocationStatus = .allocated)]
      simp [eq_comm])
    (by simp +contextual)

/-- A claim that is not matched has no batch to be unique. -/
def claimTable : Table.Schema Claim ℕ Unit :=
  .unique Claim.id
    (fun r r' => r.id = r'.id || r.sourceEventId = r'.sourceEventId || r.txHash = r'.txHash ||
      (r.matchedSweepBatchId.isSome && r.matchedSweepBatchId = r'.matchedSweepBatchId))
    (by
      intro r r'
      by_cases h : r.matchedSweepBatchId = r'.matchedSweepBatchId
      · simp [h, eq_comm]
      · simp [h, Ne.symm h, eq_comm])
    (by simp +contextual)

def handoffTable : Table.Schema Handoff ℕ Unit :=
  .unique Handoff.sweepBatchId
    (fun r r' => r.id = r'.id || r.sweepBatchId = r'.sweepBatchId ||
      r.partnerReference = r'.partnerReference)
    (by simp [eq_comm]) (by simp +contextual)

def realizationTable : Table.Schema Realization ℕ Unit :=
  .unique Realization.ledgerEntryId
    (fun r r' => r.id = r'.id || r.ledgerEntryId = r'.ledgerEntryId)
    (by simp [eq_comm]) (by simp +contextual)

namespace Database

def period (s : Database) (id : ℕ) : Option Period := Table.lookup periodTable id s.periods

def batch (s : Database) (id : ℕ) : Option Batch := Table.lookup batchTable id s.batches

def handoff (s : Database) (batchId : ℕ) : Option Handoff :=
  Table.lookup handoffTable batchId s.handoffs

def entry (s : Database) (id : ℕ) : Option LedgerEntry := Table.lookup ledgerTable id s.entries

/-- `SELECT * FROM sweep_batch_entries WHERE sweep_batch_id = $1`. -/
def allocationsOf (s : Database) (batchId : ℕ) : List Allocation :=
  s.allocations.filter fun a => a.sweepBatchId = batchId

def activeAllocation (s : Database) (ledgerEntryId : ℕ) : Option Allocation :=
  s.allocations.find? fun a => a.ledgerEntryId = ledgerEntryId && a.allocationStatus = .allocated

/-- `listTransitionActors`. -/
def chain (s : Database) (subjectType : SubjectType) (subjectId : ℕ) :
    List TransitionActorRecord :=
  (s.actors.filter fun a => a.subjectType = subjectType && a.subjectId = subjectId).map
    TransitionActor.toTransitionActorRecord

variable {s : Database} {id : ℕ}

theorem period_id {row : Period} (h : s.period id = some row) : row.id = id :=
  (Table.lookup_eq_some_mem h).2

theorem batch_id {row : Batch} (h : s.batch id = some row) : row.id = id :=
  (Table.lookup_eq_some_mem h).2

theorem handoff_sweepBatchId {row : Handoff} (h : s.handoff id = some row) :
    row.sweepBatchId = id :=
  (Table.lookup_eq_some_mem h).2

theorem entry_id {row : LedgerEntry} (h : s.entry id = some row) : row.id = id :=
  (Table.lookup_eq_some_mem h).2

end Database

/-! ### Accounting facts -/

/-- The newest row, the one inserted last among the newest. -/
def newest {Row : Type} (time id : Row → ℕ) : List Row → Option Row
  | [] => none
  | row :: rows =>
    match newest time id rows with
    | none => some row
    | some best =>
      if time best < time row ∨ time best = time row ∧ id best < id row then some row
      else some best

/-- `LedgerEntryAccountingFacts`. -/
structure AccountingFacts where
  ledgerEntryId : ℕ
  tradeId : List Char
  amountRaw : ℕ
  allocatedAmountRaw : Option ℕ
  earnedAt : ℕ
  accountingPeriodId : Option ℕ
  sweepBatchId : Option ℕ
  sweepBatchStatus : Option SweepBatchStatus
  allocationStatus : Option AllocationStatus
  matchedSweepTxHash : Option (List Char)
  matchedSweptAt : Option ℕ
  partnerHandoffId : Option ℕ
  partnerReference : Option (List Char)
  partnerHandoffStatus : Option ProviderHandoffStatus
  latestFiatDepositState : Option FiatDepositState
  latestBankPayoutState : Option BankPayoutState
  revenueRealizationStatus : Option RevenueRealizationStatus
  realizedAt : Option ℕ
deriving DecidableEq

/-- The joins of the query, for one ledger entry. -/
def Database.factsOf (s : Database) (e : LedgerEntry) : AccountingFacts :=
  let alloc := s.activeAllocation e.id
  let batch := alloc.bind fun a => s.batch a.sweepBatchId
  let period := batch.bind fun b => s.period b.accountingPeriodId
  let claim := batch.bind fun b => s.claims.find? fun c => c.matchedSweepBatchId = some b.id
  let handoff := batch.bind fun b => s.handoff b.id
  let realization := Table.lookup realizationTable e.id s.realizations
  let deposit := newest Deposit.observedAt Deposit.id
    (s.deposits.filter fun d => d.ledgerEntryId = some e.id)
  let bank := newest BankConfirmation.confirmedAt BankConfirmation.id
    (s.confirmations.filter fun b => b.ledgerEntryId = e.id)
  { ledgerEntryId := e.id
    tradeId := e.tradeId
    amountRaw := e.amountRaw
    allocatedAmountRaw := alloc.map Allocation.entryAmountRaw
    earnedAt := e.sourceTimestamp
    accountingPeriodId := period.map Period.id
    sweepBatchId := batch.map Batch.id
    sweepBatchStatus := batch.map Batch.status
    allocationStatus := alloc.map Allocation.allocationStatus
    matchedSweepTxHash := claim.map (·.txHash)
    matchedSweptAt := claim.map (·.observedAt)
    partnerHandoffId := handoff.map Handoff.id
    partnerReference := handoff.map Handoff.partnerReference
    partnerHandoffStatus := handoff.map Handoff.handoffStatus
    latestFiatDepositState := deposit.map Deposit.depositState
    latestBankPayoutState := bank.map BankConfirmation.bankState
    revenueRealizationStatus := realization.map Realization.realizationStatus
    realizedAt := realization.map Realization.realizedAt }

/-- `getLedgerEntryAccountingFacts`. -/
def Database.facts (s : Database) (ledgerEntryId : ℕ) : Option AccountingFacts :=
  (s.entry ledgerEntryId).map s.factsOf

/-! ### Accounting state -/

inductive AccountingState
  | held
  | allocatedToSweep
  | swept
  | handedOff
  | realized
  | exception
deriving DecidableEq

/-- `toSdkPartnerHandoffStatus` has no state of its own for a handoff in process or returned. -/
def toSdkPartnerHandoffStatus : ProviderHandoffStatus → ProviderHandoffStatus
  | .processing => .acknowledged
  | .returned => .failed
  | status => status

/-- `projectTreasuryAccountingState`. -/
def projectLedgerEntryAccountingState (facts : AccountingFacts) : AccountingState :=
  let handoffStatus := facts.partnerHandoffStatus.map toSdkPartnerHandoffStatus
  if facts.revenueRealizationStatus = some .realized ∧ facts.realizedAt.isSome then .realized
  else if handoffStatus = some .failed then .exception
  else if facts.latestBankPayoutState = some .rejected then .exception
  else if facts.latestFiatDepositState = some .failed then .exception
  else if facts.latestFiatDepositState = some .reversed then .exception
  else if facts.partnerReference.any (fun r => !r.isEmpty) ∧ handoffStatus.isSome then .handedOff
  else if facts.matchedSweepTxHash.any (fun h => !h.isEmpty) ∧ facts.matchedSweptAt.isSome then
    .swept
  else if facts.allocationStatus = some .allocated ∧ facts.allocatedAmountRaw.isSome then
    .allocatedToSweep
  else .held

end Cotsel.Treasury.Sweep
