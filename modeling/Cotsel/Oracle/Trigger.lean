import Cotsel.Library.Table
import Cotsel.Sdk.Canonical
import Cotsel.Sdk.Finality

/-!
# Triggers

`oracle/src/types/trigger.ts` and the table `oracle_triggers` of `oracle/src/database/schema.sql`
and its migrations 002 to 004: the columns that the oracle's logic reads, the unique indexes and the
row triggers.

A row keeps the texts of the source.  `dispatch_signer_scope` is the text `chainId:address`; it is
kept as the pair of its parts.  Times are milliseconds.  Rows are kept in the order of their
`created_at`, which is the order of their insertion.
-/

namespace Cotsel.Oracle

open Text Sdk

/-! ### Types -/

inductive TriggerStatus
  | pending
  | executing
  | submitted
  | confirmed
  | failed
  | exhaustedNeedsRedrive
  | terminalFailure
  | pendingApproval
  | rejected
deriving DecidableEq

inductive TriggerType
  | releaseStage1
  | confirmArrival
  | confirmInspectionAvailableStandard
  | confirmInspectionAvailablePackagedLocal
  | finalizeAfterInspectionAcceptance
  | finalizeTrade
deriving DecidableEq

inductive ErrorType
  | validation
  | network
  | contract
  | terminal
  | indexerLag
deriving DecidableEq

/-- `generateActionKey`: the two ways to finalize a trade are one action. -/
def TriggerType.operation : TriggerType → String
  | .releaseStage1 => "RELEASE_STAGE_1"
  | .confirmArrival => "CONFIRM_ARRIVAL"
  | .confirmInspectionAvailableStandard => "CONFIRM_INSPECTION_AVAILABLE_STANDARD"
  | .confirmInspectionAvailablePackagedLocal => "CONFIRM_INSPECTION_AVAILABLE_PACKAGED_LOCAL"
  | .finalizeAfterInspectionAcceptance => "FINAL_RELEASE"
  | .finalizeTrade => "FINAL_RELEASE"

def generateActionKey (triggerType : TriggerType) (tradeId : List Char) : List Char :=
  lit triggerType.operation ++ ':' :: tradeId

/-- The idempotency key of a request: `action_key:request_id`. -/
def requestKey (actionKey requestId : List Char) : List Char := actionKey ++ ':' :: requestId

/-- The signer that a dispatch uses, `chainId:address`. -/
structure SignerScope where
  chainId : List Char
  address : List Char
deriving DecidableEq

/-- `/^[1-9][0-9]*:0x[0-9a-f]{40}$/`. -/
def SignerScope.WellFormed (s : SignerScope) : Prop :=
  IsDigits s.chainId ∧ s.chainId.head? ≠ some '0' ∧ IsLowerHex 40 s.address

instance (s : SignerScope) : Decidable s.WellFormed := inferInstanceAs (Decidable (_ ∧ _))

/-- The evidence that a transaction of the signer is final; its policy is always
`oracle_dispatch_nonce_finality_v1`. -/
structure OracleDispatchFinality where
  signerScope : SignerScope
  transactionHash : List Char
  blockNumber : ℕ
  blockHash : List Char
  receiptStatus : ℕ
  witnessIds : List Char × List Char
  verifiedAt : ℕ
deriving DecidableEq

structure Trigger where
  actionKey : List Char
  requestId : List Char
  idempotencyKey : List Char
  tradeId : List Char
  triggerType : TriggerType
  attemptCount : ℕ
  status : TriggerStatus
  txHash : Option (List Char)
  blockNumber : Option ℕ
  confirmationStage : Option SettlementConfirmationStage
  lastError : Option (List Char)
  errorType : Option ErrorType
  submittedAt : Option ℕ
  approvedBy : Option (List Char)
  rejectedBy : Option (List Char)
  rejectionReason : Option (List Char)
  fundedBinding : Option SettlementFundedBinding
  dispatchStartedAt : Option ℕ
  dispatchSignerScope : Option SignerScope
  dispatchFinalityEvidence : Option OracleDispatchFinality
deriving DecidableEq

structure CreateTriggerData where
  fundedBinding : SettlementFundedBinding
  actionKey : List Char
  requestId : List Char
  idempotencyKey : List Char
  tradeId : List Char
  triggerType : TriggerType
  status : TriggerStatus
deriving DecidableEq

/-- The row that `createTrigger` inserts; the other columns have their defaults. -/
def CreateTriggerData.row (data : CreateTriggerData) : Trigger where
  actionKey := data.actionKey
  requestId := data.requestId
  idempotencyKey := data.idempotencyKey
  tradeId := data.tradeId
  triggerType := data.triggerType
  attemptCount := 0
  status := data.status
  txHash := none
  blockNumber := none
  confirmationStage := none
  lastError := none
  errorType := none
  submittedAt := none
  approvedBy := none
  rejectedBy := none
  rejectionReason := none
  fundedBinding := some data.fundedBinding
  dispatchStartedAt := none
  dispatchSignerScope := none
  dispatchFinalityEvidence := none

/-- The columns that `updateTrigger` is called with; `none` leaves a column as it is. -/
structure UpdateTriggerData where
  status : Option TriggerStatus := none
  attemptCount : Option ℕ := none
  txHash : Option (List Char) := none
  blockNumber : Option ℕ := none
  confirmationStage : Option SettlementConfirmationStage := none
  lastError : Option (List Char) := none
  errorType : Option ErrorType := none
  submittedAt : Option ℕ := none

def UpdateTriggerData.apply (u : UpdateTriggerData) (r : Trigger) : Trigger :=
  { r with
    status := u.status.getD r.status
    attemptCount := u.attemptCount.getD r.attemptCount
    txHash := u.txHash.or r.txHash
    blockNumber := u.blockNumber.or r.blockNumber
    confirmationStage := u.confirmationStage.or r.confirmationStage
    lastError := u.lastError.or r.lastError
    errorType := u.errorType.or r.errorType
    submittedAt := u.submittedAt.or r.submittedAt }

/-- A JavaScript text that counts as true. -/
def truthy : Option (List Char) → Bool
  | some (_ :: _) => true
  | _ => false

namespace Trigger

def Claimed (r : Trigger) : Prop := r.dispatchStartedAt.isSome = true

instance (r : Trigger) : Decidable r.Claimed := inferInstanceAs (Decidable (_ = _))

/-- The row is claimed, and there is no evidence yet of what became of its transaction. -/
def Unresolved (r : Trigger) : Prop := r.Claimed ∧ r.dispatchFinalityEvidence = none

instance (r : Trigger) : Decidable r.Unresolved := inferInstanceAs (Decidable (_ ∧ _))

/-- The statuses that `idx_active_action_key_unique` allows once for each action. -/
def Active (r : Trigger) : Prop :=
  r.status = .pending ∨ r.status = .executing ∨ r.status = .submitted ∨
    r.status = .pendingApproval

instance (r : Trigger) : Decidable r.Active := inferInstanceAs (Decidable (_ ∨ _))

/-- `isActionAlreadyCompleted`. -/
def Completed (r : Trigger) : Prop := r.status = .confirmed ∨ r.status = .submitted

instance (r : Trigger) : Decidable r.Completed := inferInstanceAs (Decidable (_ ∨ _))

end Trigger

/-! ### What the table refuses -/

/-- The unique indexes: the primary key, one active row and one claimed row for each action, and one
unresolved dispatch for each signer. -/
def clash (r r' : Trigger) : Option String :=
  if r.idempotencyKey = r'.idempotencyKey then some "oracle_triggers_pkey"
  else if r.Active ∧ r'.Active ∧ r.actionKey = r'.actionKey then
    some "idx_active_action_key_unique"
  else if r.Claimed ∧ r'.Claimed ∧ r.actionKey = r'.actionKey then
    some "one_original_oracle_dispatch_per_action"
  else if r.Unresolved ∧ r'.Unresolved ∧ r.dispatchSignerScope.isSome = true ∧
      r.dispatchSignerScope = r'.dispatchSignerScope then
    some "one_unresolved_oracle_dispatch_per_signer"
  else none

theorem clash_eq_none {r r' : Trigger} : clash r r' = none ↔
    r.idempotencyKey ≠ r'.idempotencyKey ∧
    ¬ (r.Active ∧ r'.Active ∧ r.actionKey = r'.actionKey) ∧
    ¬ (r.Claimed ∧ r'.Claimed ∧ r.actionKey = r'.actionKey) ∧
    ¬ (r.Unresolved ∧ r'.Unresolved ∧ r.dispatchSignerScope.isSome = true ∧
      r.dispatchSignerScope = r'.dispatchSignerScope) := by
  unfold clash
  split_ifs with h₁ h₂ h₃ h₄
  · simp only [false_iff]
    exact fun h => h.1 h₁
  · simp only [false_iff]
    exact fun h => h.2.1 h₂
  · simp only [false_iff]
    exact fun h => h.2.2.1 h₃
  · simp only [false_iff]
    exact fun h => h.2.2.2 h₄
  · exact iff_of_true rfl ⟨h₁, h₂, h₃, h₄⟩

/-- `oracle_dispatch_claim_guard`: a claim and a transaction hash stay as they are. -/
def claimGuard (old new : Trigger) : Option String :=
  if old.Claimed ∧ new.dispatchStartedAt ≠ old.dispatchStartedAt then
    some "oracle_dispatch_claim_is_immutable"
  else if old.txHash.isSome = true ∧ new.txHash ≠ old.txHash then
    some "oracle_original_transaction_is_immutable"
  else none

/-- What the table asks of the evidence of a row: it names the signer and the transaction of the
row, and has the right shape. -/
def EvidenceFits (r : Trigger) (e : OracleDispatchFinality) : Prop :=
  r.dispatchSignerScope = some e.signerScope ∧ r.txHash = some e.transactionHash ∧
    IsLowerHex 64 e.blockHash ∧ (e.receiptStatus = 0 ∨ e.receiptStatus = 1) ∧
    IsLowerDigest 64 e.witnessIds.1 ∧ IsLowerDigest 64 e.witnessIds.2 ∧
    e.witnessIds.1 ≠ e.witnessIds.2

instance (r : Trigger) (e : OracleDispatchFinality) : Decidable (EvidenceFits r e) :=
  inferInstanceAs (Decidable (_ ∧ _))

/-- The last condition of `oracle_dispatch_resolution_guard`. -/
def evidenceGuard (new : Trigger) : Option String :=
  match new.dispatchFinalityEvidence with
  | none => none
  | some e =>
    if EvidenceFits new e then none else some "oracle_original_dispatch_evidence_required"

/-- `oracle_dispatch_resolution_guard` on an update. -/
def resolutionGuard (old new : Trigger) : Option String :=
  if ¬ old.Claimed ∧ new.dispatchFinalityEvidence.isSome = true then
    some "oracle_original_dispatch_evidence_required"
  else if old.Claimed ∧ new.dispatchSignerScope ≠ old.dispatchSignerScope then
    some "oracle_dispatch_signer_is_immutable"
  else if old.dispatchFinalityEvidence.isSome = true ∧
      new.dispatchFinalityEvidence ≠ old.dispatchFinalityEvidence then
    some "oracle_dispatch_resolution_is_immutable"
  else if ¬ old.Claimed ∧ new.Claimed ∧ (new.dispatchSignerScope = none ∨
      new.dispatchSignerScope.map SignerScope.chainId ≠
        new.fundedBinding.map (fun b => b .chainId)) then
    some "oracle_dispatch_signer_scope_required"
  else evidenceGuard new

/-- `oracle_funded_binding_guard` on an update. -/
def bindingGuard (old new : Trigger) : Option String :=
  if new.fundedBinding ≠ old.fundedBinding ∨ old.fundedBinding.isSome = true ∧
      (new.tradeId, new.triggerType, new.actionKey, new.requestId, new.idempotencyKey) ≠
        (old.tradeId, old.triggerType, old.actionKey, old.requestId, old.idempotencyKey) then
    some "oracle_funded_binding_is_immutable"
  else none

/-- The check `oracle_dispatch_signer_scope_shape`. -/
def scopeGuard (new : Trigger) : Option String :=
  match new.dispatchSignerScope with
  | none => none
  | some s => if s.WellFormed then none else some "oracle_dispatch_signer_scope_shape"

/-- Both row triggers on an insertion. -/
def insertGuard (new : Trigger) : Option String :=
  if new.Claimed ∨ new.dispatchFinalityEvidence.isSome = true then
    some "oracle_dispatch_requires_existing_operation"
  else match new.fundedBinding with
    | none => some "complete_original_funded_binding_required"
    | some b =>
      if b .scopeVersion = scopeVersionText ∧ b .tradeId = new.tradeId then scopeGuard new
      else some "complete_original_funded_binding_required"

/-- The row triggers on an update, in the order of their names, and the check. -/
def updateGuard (old new : Trigger) : Option String :=
  ((claimGuard old new).or (resolutionGuard old new)).or
    ((bindingGuard old new).or (scopeGuard new))

def triggerSchema : Table.Schema Trigger (List Char) String where
  key := Trigger.idempotencyKey
  clash := clash
  insertGuard := insertGuard
  updateGuard := updateGuard
  clash_symm r r' h := by
    rw [clash_eq_none] at h ⊢
    obtain ⟨hkey, hactive, hclaimed, hscope⟩ := h
    refine ⟨hkey.symm, ?_, ?_, ?_⟩
    · exact fun h => hactive ⟨h.2.1, h.1, h.2.2.symm⟩
    · exact fun h => hclaimed ⟨h.2.1, h.1, h.2.2.symm⟩
    · exact fun h => hscope ⟨h.2.1, h.1, h.2.2.2 ▸ h.2.2.1, h.2.2.2.symm⟩
  key_ne r r' h := (clash_eq_none.mp h).1

/-! ### Finality -/

def triggerFinality (status : TriggerStatus) (txHash : Option (List Char))
    (stage : Option SettlementConfirmationStage) (dispatchStarted : Bool) :
    Option TransactionFinalityPosition :=
  match status with
  | .confirmed =>
    match truthy txHash, stage with
    | true, some stage => some (finalityFromConfirmationStage stage)
    | _, _ => some ⟨.unknown, false⟩
  | .submitted => if truthy txHash then some ⟨.submitted, false⟩ else some ⟨.unknown, false⟩
  | _ => if truthy txHash || dispatchStarted then some ⟨.unknown, false⟩ else none

/-- The position read from a row. -/
def Trigger.finality (r : Trigger) : Option TransactionFinalityPosition :=
  triggerFinality r.status r.txHash r.confirmationStage r.dispatchStartedAt.isSome

end Cotsel.Oracle
