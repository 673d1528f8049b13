import Cotsel.Library.Guard
import Cotsel.Library.Text

/-!
# The accounting policy of the treasury

`core/accountingPolicy.ts`, `core/sweepCanonicality.ts` and `core/canonicalAmount.ts`: the states of
accounting periods and sweep batches, who may move a batch along, and what an allocation, a match
with a claim on the chain and a realization of revenue need.

A raw amount is stored as the decimal spelling of a number below `2 ^ 256`; it is kept here as the
number.  A function that throws is a computation in `Except Thrown`.
-/

namespace Cotsel.Treasury

open Guard

/-! ### Errors -/

inductive Thrown
  /-- `CallerSafeError`. -/
  | callerSafe (message : List Char)
  /-- `TreasuryConcurrentTransitionError`. -/
  | concurrentTransition (message : List Char)
  /-- `ProviderHandoffAuthorityError`. -/
  | handoffAuthority (message : List Char)
  /-- `PartnerHandoffConflictError` and `TreasuryPartnerHandoffConflictError`. -/
  | handoffConflict (message : List Char)
  /-- `SweepCanonicalityError`. -/
  | sweepCanonicality (entryIds : List ℕ)
  /-- `HttpError`. -/
  | http (statusCode : ℕ) (code message : List Char)
  /-- A unique index that a statement would violate. -/
  | uniqueViolation
  /-- An exception of a trigger or a constraint. -/
  | database (message : List Char)
  /-- `Error`, and a service that does not answer. -/
  | plain (message : List Char)
deriving DecidableEq

def callerSafe (message : String) : Thrown := .callerSafe (Text.lit message)

def plain (message : String) : Thrown := .plain (Text.lit message)

def httpError (statusCode : ℕ) (code message : String) : Thrown :=
  .http statusCode (Text.lit code) (Text.lit message)

/-! ### States -/

inductive AccountingPeriodStatus
  | opened
  | pendingClose
  | closed
deriving DecidableEq

def AccountingPeriodStatus.text : AccountingPeriodStatus → List Char
  | opened => Text.lit "OPEN"
  | pendingClose => Text.lit "PENDING_CLOSE"
  | closed => Text.lit "CLOSED"

inductive SweepBatchStatus
  | draft
  | pendingApproval
  | approved
  | executed
  | handedOff
  | closed
  | void
deriving DecidableEq

def SweepBatchStatus.text : SweepBatchStatus → List Char
  | draft => Text.lit "DRAFT"
  | pendingApproval => Text.lit "PENDING_APPROVAL"
  | approved => Text.lit "APPROVED"
  | executed => Text.lit "EXECUTED"
  | handedOff => Text.lit "HANDED_OFF"
  | closed => Text.lit "CLOSED"
  | void => Text.lit "VOID"

/-- `ACCOUNTING_PERIOD_TRANSITIONS`. -/
def accountingPeriodTransitions : AccountingPeriodStatus → List AccountingPeriodStatus
  | .opened => [.pendingClose]
  | .pendingClose => [.opened, .closed]
  | .closed => []

/-- `SWEEP_BATCH_TRANSITIONS`. -/
def sweepBatchTransitions : SweepBatchStatus → List SweepBatchStatus
  | .draft => [.pendingApproval, .void]
  | .pendingApproval => [.draft, .approved, .void]
  | .approved => [.executed, .void]
  | .executed => [.handedOff, .closed]
  | .handedOff => [.closed]
  | .closed => []
  | .void => []

def assertAccountingPeriodTransition (current next : AccountingPeriodStatus) :
    Except Thrown Unit :=
  require (next ∈ accountingPeriodTransitions current)
    (.callerSafe (Text.lit "Invalid accounting period transition: " ++ current.text ++
      Text.lit " -> " ++ next.text))

def assertSweepBatchTransition (current next : SweepBatchStatus) : Except Thrown Unit :=
  require (next ∈ sweepBatchTransitions current)
    (.callerSafe (Text.lit "Invalid sweep batch transition: " ++ current.text ++
      Text.lit " -> " ++ next.text))

/-- The batch has been approved, and not voided since. -/
def SweepBatchStatus.isApproved : SweepBatchStatus → Bool
  | approved | executed | handedOff | closed => true
  | draft | pendingApproval | void => false

/-- The batch has been matched with a claim on the chain. -/
def SweepBatchStatus.isExecuted : SweepBatchStatus → Bool
  | executed | handedOff | closed => true
  | draft | pendingApproval | approved | void => false

/-- How far a batch has come; it may return to `DRAFT` only before it is approved. -/
def SweepBatchStatus.level : SweepBatchStatus → ℕ
  | draft | pendingApproval => 0
  | approved => 1
  | executed => 2
  | handedOff => 3
  | closed | void => 4

theorem level_le_of_transition {status status' : SweepBatchStatus}
    (h : status' ∈ sweepBatchTransitions status) : status.level ≤ status'.level := by
  revert h
  cases status <;> cases status' <;> decide

/-- From the approval on every transition leads further. -/
theorem level_lt_of_transition {status status' : SweepBatchStatus}
    (h : status' ∈ sweepBatchTransitions status) (hpos : status'.level ≠ 0) :
    status.level < status'.level := by
  revert h hpos
  cases status <;> cases status' <;> decide

/-! ### Roles -/

inductive TransitionActorRole
  | maker
  | checker
  | executor
  | closer
deriving DecidableEq

/-- `SWEEP_BATCH_ACTOR_ROLES`. -/
def sweepBatchActorRole : SweepBatchStatus → Option TransitionActorRole
  | .pendingApproval => some .maker
  | .approved => some .checker
  | .executed => some .executor
  | .handedOff => some .executor
  | .closed => some .closer
  | .draft | .void => none

/-- `ACCOUNTING_PERIOD_ACTOR_ROLES`. -/
def accountingPeriodActorRole : AccountingPeriodStatus → Option TransitionActorRole
  | .pendingClose => some .maker
  | .closed => some .checker
  | .opened => none

structure TransitionActorRecord where
  actor : List Char
  actorRole : TransitionActorRole
deriving DecidableEq

def heldRoles (chain : List TransitionActorRecord) (actor : List Char) :
    List TransitionActorRole :=
  (chain.filter fun record => record.actor = actor).map TransitionActorRecord.actorRole

@[simp] theorem mem_heldRoles {chain : List TransitionActorRecord} {actor : List Char}
    {role : TransitionActorRole} : role ∈ heldRoles chain actor ↔ ⟨actor, role⟩ ∈ chain := by
  simp only [heldRoles, List.mem_map, List.mem_filter, decide_eq_true_eq]
  constructor
  · rintro ⟨_, ⟨hmem, rfl⟩, rfl⟩
    exact hmem
  · intro hmem
    exact ⟨_, ⟨hmem, rfl⟩, rfl⟩

/-- The argument of `assertSweepBatchRoleSeparation`. -/
structure SweepBatchRoles where
  nextStatus : SweepBatchStatus
  actor : List Char
  createdBy : List Char
  approvalRequestedBy : Option (List Char)
  approvedBy : Option (List Char)
  executedBy : Option (List Char)
  transitionChain : List TransitionActorRecord

def assertSweepBatchRoleSeparation (params : SweepBatchRoles) : Except Thrown Unit := do
  let held := heldRoles params.transitionChain params.actor
  require
    (¬ (params.nextStatus = .approved ∧
      (params.createdBy = params.actor ∨ params.approvalRequestedBy = some params.actor ∨
        .maker ∈ held)))
    (callerSafe "Sweep batch approval requires a different actor than preparation")
  require
    (¬ (params.nextStatus = .executed ∧
      (params.approvedBy = some params.actor ∨ .checker ∈ held)))
    (callerSafe "Sweep batch execution requires a different actor than approval")
  require
    (¬ (params.nextStatus = .closed ∧
      (params.approvedBy = some params.actor ∨ params.executedBy = some params.actor ∨
        .checker ∈ held ∨ .executor ∈ held)))
    (callerSafe "Sweep batch close requires a different actor than approval or execution")

def assertAccountingPeriodRoleSeparation (nextStatus : AccountingPeriodStatus)
    (actor createdBy : List Char) (transitionChain : List TransitionActorRecord) :
    Except Thrown Unit :=
  require (¬ (nextStatus = .closed ∧
      (.maker ∈ heldRoles transitionChain actor ∨ createdBy = actor)))
    (.callerSafe (Text.lit "Accounting period close requires a different actor than the close " ++
      Text.lit "request or period creation"))

/-! ### Allocations -/

/-- `MAX_RAW_AMOUNT`. -/
def maxRawAmount : ℕ := 2 ^ 256 - 1

/-- `assertCanonicalRawAmount`, of a canonical spelling: what is left is the range. -/
def assertCanonicalRawAmount (value : ℕ) : Except Thrown Unit :=
  require (value ≤ maxRawAmount) (plain "value exceeds the uint256 range")

def assertBatchAllocationAllowed (periodStatus : AccountingPeriodStatus)
    (batchStatus : SweepBatchStatus) : Except Thrown Unit := do
  require (periodStatus = .opened)
    (.callerSafe (Text.lit "Sweep allocation requires an OPEN accounting period; received " ++
      periodStatus.text))
  require (batchStatus = .draft)
    (.callerSafe (Text.lit "Sweep allocation requires a DRAFT batch; received " ++
      batchStatus.text))

def assertAllocationWithinLedgerAmount (entryAmountRaw ledgerAmountRaw ledgerEntryId : ℕ) :
    Except Thrown Unit := do
  assertCanonicalRawAmount entryAmountRaw
  assertCanonicalRawAmount ledgerAmountRaw
  require (entryAmountRaw ≠ 0)
    (.callerSafe (Text.lit "Sweep allocation for ledger entry " ++ Text.decimal ledgerEntryId ++
      Text.lit " must be greater than zero"))
  require (entryAmountRaw ≤ ledgerAmountRaw)
    (.callerSafe (Text.lit "Sweep allocation " ++ Text.decimal entryAmountRaw ++
      Text.lit " exceeds the eligible ledger amount " ++ Text.decimal ledgerAmountRaw ++
      Text.lit " for entry " ++ Text.decimal ledgerEntryId))

/-! ### Canonical entries -/

inductive ChainCanonicalityState
  | unverified
  | canonical
  | orphaned
deriving DecidableEq

/-- `TRANSITIONS_REQUIRING_CANONICAL_ENTRIES`. -/
def sweepTransitionRequiresCanonicalEntries : SweepBatchStatus → Bool
  | .pendingApproval | .approved | .closed => true
  | .draft | .executed | .handedOff | .void => false

def assertSweepEntriesCanonical (entries : List (ℕ × ChainCanonicalityState)) :
    Except Thrown Unit :=
  require (entries.all (fun entry => entry.2 = .canonical) = true)
    (.sweepCanonicality ((entries.filter fun entry => entry.2 ≠ .canonical).map Prod.fst))

/-! ### Matching a claim -/

/-- The argument of `assertBatchExecutionMatchable`. -/
structure ExecutionMatch where
  batchStatus : SweepBatchStatus
  payoutReceiverAddress : Option (List Char)
  assetSymbol : List Char
  expectedTotalRaw : ℕ
  allocatedTotalRaw : ℕ
  observedTxHash : List Char
  observedPayoutReceiver : List Char
  observedAmountRaw : ℕ
  verificationOnly : Bool

/-- `value.trim().toLowerCase()`. -/
def normalized (value : List Char) : List Char := Text.toLowerCase (Text.trim value)

def assertBatchExecutionMatchable (params : ExecutionMatch) : Except Thrown Unit := do
  require (params.batchStatus = .approved ∨
      params.verificationOnly = true ∧ params.batchStatus.isExecuted = true)
    (.callerSafe (Text.lit "Matched sweep execution requires batch status APPROVED; received " ++
      params.batchStatus.text))
  -- the empty string is no address either
  let receiver := params.payoutReceiverAddress.getD []
  require (receiver ≠ [])
    (callerSafe "Matched sweep execution requires a recorded payout receiver address")
  require (Text.toUpperCase (Text.trim params.assetSymbol) = Text.lit "USDC")
    (.callerSafe (Text.lit
      "Matched sweep execution only supports the escrow USDC asset; received " ++
      params.assetSymbol))
  require (params.expectedTotalRaw = params.allocatedTotalRaw)
    (callerSafe "Sweep batch expected total does not match allocated amount total")
  require (params.observedAmountRaw = params.allocatedTotalRaw)
    (callerSafe "Observed treasury claim amount does not match allocated amount total")
  require (normalized params.observedPayoutReceiver = normalized receiver)
    (callerSafe "Observed treasury claim destination does not match the batch payout receiver")
  require (Text.trim params.observedTxHash ≠ [])
    (callerSafe "Matched sweep execution requires an observed treasury claim tx hash")

/-! ### The provider's word -/

inductive ProviderHandoffStatus
  | created
  | submitted
  | acknowledged
  | processing
  | completed
  | failed
  | returned
deriving DecidableEq

/-! ### Realization -/

inductive BankPayoutState
  | pending
  | confirmed
  | rejected
deriving DecidableEq

inductive RevenueRealizationStatus
  | realized
  | reversed
deriving DecidableEq

structure RealizationReconciliationBinding where
  runKey : List Char
  coverageToBlock : ℕ
  entryBlockNumber : ℕ
deriving DecidableEq

/-- The argument of `assertRealizationAllowed`. -/
structure RealizationFacts where
  batchStatus : Option SweepBatchStatus
  partnerHandoffStatus : Option ProviderHandoffStatus
  bankPayoutState : Option BankPayoutState
  revenueRealizationStatus : Option RevenueRealizationStatus
  reconciliationBinding : Option RealizationReconciliationBinding

def assertRealizationAllowed (params : RealizationFacts) : Except Thrown Unit := do
  require (params.batchStatus = some .handedOff ∨ params.batchStatus = some .closed)
    (callerSafe "Revenue realization requires a handed-off or closed sweep batch")
  require (params.partnerHandoffStatus = some .completed)
    (callerSafe "Revenue realization requires completed external handoff evidence")
  require (params.bankPayoutState = some .confirmed)
    (callerSafe "Revenue realization requires confirmed bank settlement evidence")
  require (params.revenueRealizationStatus ≠ some .realized)
    (callerSafe "Ledger entry is already realized")
  require (params.revenueRealizationStatus ≠ some .reversed)
    (callerSafe "Ledger entry has a reversed realization and needs controlled remediation")
  match params.reconciliationBinding with
  | none =>
    throw (callerSafe
      "Revenue realization requires an accepted reconciliation run bound to the entry block")
  | some binding =>
    require (binding.entryBlockNumber ≤ binding.coverageToBlock)
      (.callerSafe (Text.lit "Revenue realization requires reconciliation coverage through block "
        ++ Text.decimal binding.entryBlockNumber ++ Text.lit "; run " ++ binding.runKey ++
        Text.lit " reached only " ++ Text.decimal binding.coverageToBlock))

end Cotsel.Treasury
