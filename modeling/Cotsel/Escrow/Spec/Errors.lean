import Cotsel.Escrow.Spec.Settlement

/-!
# Errors that tell of a broken state

Most errors of the contract are the caller's: a wrong role, a wrong status, a wrong moment.  Five
are not; they would show that the contract's own bookkeeping is broken.  `Diagnosis P s e` says
for each of them what would have to be wrong in the state `s`, and `exec_diagnosis` that a call
never stops with such an error otherwise.
-/

namespace Cotsel.Escrow

open Ballot Guard LaunchSettlementSchedule

variable {T α : Type} {P : Platform T} {env : Env} {s s₁ : State T}

/-- What is wrong in the state `s` when a call stops with `e`; nothing for an error the caller is
to blame for. -/
def Diagnosis (P : Platform T) (s : State T) : EscrowError → Prop
  | .safeTransfer .insufficientBalance =>
    (∃ (m : Milestone) (id : ℕ), (s.book.trades id).status = m.source ∧
      P.escrowBalance s.usdc < m.amount (s.book.trades id)) ∨
    P.escrowBalance s.usdc < s.claims.claimableUsdc s.roles.treasuryAddress
  | .arrivalNotSet =>
    ∃ id, (s.book.trades id).status = .arrivalConfirmed ∧ (s.book.trades id).arrivalTimestamp = 0
  | .inTransitTimestampNotSet =>
    ∃ id, (s.book.trades id).status = .inTransit ∧ s.book.inTransitSince id = 0
  | .inspectionNotAvailable => False
  | .invalidDisputeStatus => False
  | _ => True

/-! ### Internal functions -/

section Internal

variable {E : EscrowError → Prop}

variable {tradeId amount : ℕ} {recipient : Address} {claimType : ClaimType}

theorem raises_safeTransferUsdc
    (hfunds : P.escrowBalance s.usdc < amount → E (.safeTransfer .insufficientBalance))
    (hrefused : E (.safeTransfer .refused)) :
    Raises E (safeTransferUsdc P recipient amount s) := by
  unfold safeTransferUsdc
  split
  · exact raises_ok
  · rename_i reason hfail
    rw [raises_error]
    cases reason with
    | insufficientBalance => exact hfunds (P.safeTransfer_insufficient hfail)
    | refused => exact hrefused

theorem raises_transferSupplierPayout
    (hfunds : P.escrowBalance s.usdc < amount → E (.safeTransfer .insufficientBalance))
    (hrefused : E (.safeTransfer .refused)) :
    Raises E (transferSupplierPayout P env tradeId recipient amount claimType s) := by
  unfold transferSupplierPayout
  split_ifs
  · exact raises_pure
  · exact (raises_safeTransferUsdc hfunds hrefused).bind fun _ _ => raises_pure

theorem raises_transferBuyerRefund
    (hfunds : P.escrowBalance s.usdc < amount → E (.safeTransfer .insufficientBalance))
    (hrefused : E (.safeTransfer .refused)) :
    Raises E (transferBuyerRefund P env tradeId recipient amount claimType s) := by
  unfold transferBuyerRefund
  split_ifs
  · exact raises_pure
  · exact (raises_safeTransferUsdc hfunds hrefused).bind fun _ _ => raises_pure

theorem raises_accrueClaimable (h : E .overflow) :
    Raises E (accrueClaimable tradeId recipient amount claimType s) := by
  unfold accrueClaimable
  split_ifs
  · exact raises_pure
  · simp only [raises_bind, addU256, raises_checkedAdd, raises_pure, h, implies_true, and_self]

theorem raises_roundedShare {cents bps : ℕ} (h : E .overflow) :
    Raises E (roundedShare cents bps) :=
  (raises_checkedMul h).bind fun _ _ =>
    Raises.bind (raises_checkedAdd.mpr fun _ => h) fun _ _ => raises_checkedMul h

theorem raises_matchesGoods {cents fees first second : ℕ} (h : E .overflow)
    (hunder : E .underflow) : Raises E (matchesGoods cents fees first second) := by
  refine (raises_roundedShare h).bind fun _ _ => (raises_roundedShare h).bind fun _ _ =>
    (raises_roundedShare h).bind fun _ _ => (raises_checkedMul h).bind fun _ _ => ?_
  split_ifs
  · exact raises_pure
  · exact raises_pure
  · refine Raises.bind (raises_checkedSub.mpr fun _ => hunder) fun _ _ => ?_
    split_ifs
    · exact raises_pure
    · simp only [raises_bind, addU256, raises_checkedAdd, raises_pure, h, implies_true, and_self]

theorem raises_isValid {T : Type} {P : Platform T} {fees first second : ℕ} (h : E .overflow)
    (hunder : E .underflow) : Raises E (isValid P fees first second) := by
  unfold isValid
  split_ifs
  · exact raises_pure
  · refine Raises.bind (raises_checkedAdd.mpr fun _ => h) fun _ _ =>
      Raises.bind ?_ fun _ _ => (raises_matchesGoods h hunder).bind fun here _ => ?_
    · rw [P.mulDiv_eq (by decide)]
      split_ifs
      · exact raises_pure
      · exact raises_error.mpr h
    · split_ifs
      · exact raises_pure
      · exact Raises.bind (raises_checkedAdd.mpr fun _ => h) fun _ _ =>
          raises_matchesGoods h hunder

end Internal

/-! ### Functions that only blame the caller -/

@[local simp] theorem raises_map {ε : Type} {β γ : Type} {E : ε → Prop} {f : β → γ}
    {x : Except ε β} : Raises E (f <$> x) ↔ Raises E x := by
  cases x <;> simp

attribute [local simp] Diagnosis raises_bind onlyAdmin onlyOracle onlyOracleActive onlyOracleOrAdmin
  onlyRelayerOrAdmin onlyTreasuryOrAdmin whenNotPaused whenClaimsNotPaused requireTradeNotPaused
  requireServiceRoleAvailable

@[simp] theorem verifyAuthorization_diagnosis {user : Address} {action : SponsoredAction}
    {message : Preimage} {nonce deadline : ℕ} {signature : Signature} :
    Raises (Diagnosis P s)
      (verifyAuthorization P env user action message nonce deadline signature s₁) := by
  have hrecover : ∀ digest, Raises (Diagnosis P s) (ecdsaRecover P digest signature) := by
    intro _
    unfold ecdsaRecover
    split <;> simp
  simp [verifyAuthorization, requireAuthorization, hrecover]

section

variable {epoch id : ℕ} {b : Board Address α}

@[simp] theorem requireActive_diagnosis :
    Raises (Diagnosis P s) (requireActive env epoch b id) := by
  simp [requireActive]

@[simp] theorem approveProposal_diagnosis :
    Raises (Diagnosis P s) (approveProposal env epoch b id) := by
  simp [approveProposal]

@[simp] theorem requireExpired_diagnosis : Raises (Diagnosis P s) (requireExpired env b id) := by
  simp [requireExpired]

@[simp] theorem cancelExpiredProposal_diagnosis :
    Raises (Diagnosis P s) (cancelExpiredProposal env b id) := by
  simp [cancelExpiredProposal]

end

@[simp] theorem validatePausedScope_diagnosis {scope : PauseScope} {tradeId : ℕ} :
    Raises (Diagnosis P s) (validatePausedScope scope tradeId s₁) := by
  cases scope <;> simp [validatePausedScope]

@[simp] theorem pausablePause_diagnosis : Raises (Diagnosis P s) (pausablePause P env s₁) := by
  simp [pausablePause]

@[simp] theorem liftPause_diagnosis {terms : UnpauseTerms} :
    Raises (Diagnosis P s) (liftPause P env terms s₁) := by
  unfold liftPause
  split <;> simp [pausableUnpause]

@[simp] theorem executeUnpause_diagnosis : Raises (Diagnosis P s) (executeUnpause P env s₁) := by
  simp [executeUnpause]

theorem approveUnpause_diagnosis : Raises (Diagnosis P s) (approveUnpause P env s) := by
  simp only [approveUnpause, raises_bind, onlyAdmin, raises_require, Diagnosis,
    validatePausedScope_diagnosis, implies_true, true_and]
  intros
  split_ifs <;> simp

@[simp] theorem replaceUnpauseProposal_diagnosis :
    Raises (Diagnosis P s) (replaceUnpauseProposal env s₁) := by
  unfold replaceUnpauseProposal
  split_ifs <;> simp

@[simp] theorem validateAdminChange_diagnosis {kind : AdminChangeKind}
    {currentAdmin newAdmin : Address} {newThreshold : ℕ} :
    Raises (Diagnosis P s) (validateAdminChange kind currentAdmin newAdmin newThreshold s₁) := by
  cases kind <;> simp [validateAdminChange]

@[simp] theorem applyAdminChange_diagnosis {terms : AdminChangeTerms} :
    Raises (Diagnosis P s) (applyAdminChange env terms s₁) := by
  have hremove : ∀ a, Raises (Diagnosis P s) (removeAdmin a s₁) := by
    intro a
    unfold removeAdmin
    split <;> simp
  have hreplace : ∀ a b, Raises (Diagnosis P s) (replaceAdmin a b s₁) := by
    intro _ _
    unfold replaceAdmin
    split <;> simp
  unfold applyAdminChange
  split <;> simp [hremove, hreplace]

@[simp] theorem replaceDisputeProposal_diagnosis {tradeId : ℕ} :
    Raises (Diagnosis P s) (replaceDisputeProposal env tradeId s₁) := by
  unfold replaceDisputeProposal
  split_ifs <;> simp

@[simp] theorem receiveUsdc_diagnosis {buyer : Address} {amount : ℕ} {auth : UsdcAuthorization} :
    Raises (Diagnosis P s) (receiveUsdc P env buyer amount auth s₁) := by
  unfold receiveUsdc
  split <;> simp

/-! ### Functions that pay -/

theorem Diagnosis.milestone {m : Milestone} {id : ℕ}
    (hsource : (s.book.trades id).status = m.source)
    (hfunds : P.escrowBalance s.usdc < m.amount (s.book.trades id)) :
    Diagnosis P s (.safeTransfer .insufficientBalance) :=
  Or.inl ⟨m, id, hsource, hfunds⟩

theorem claimTreasury_diagnosis : Raises (Diagnosis P s) (claimTreasury P env s) := by
  simp only [claimTreasury, onlyTreasuryOrAdmin, whenClaimsNotPaused, raises_bind,
    raises_require, raises_pure, subU256, raises_checkedSub, Diagnosis, implies_true, true_and,
    and_true]
  intros
  exact raises_safeTransferUsdc (fun hfunds => Or.inr hfunds) trivial

theorem releaseFundsStage1_diagnosis {tradeId : ℕ} :
    Raises (Diagnosis P s) (releaseFundsStage1 P env tradeId s) := by
  have haccrue : ∀ (s₁ : State T) a n c,
      Raises (Diagnosis P s) (accrueClaimable tradeId a n c s₁) :=
    fun _ _ _ _ => raises_accrueClaimable trivial
  simp only [releaseFundsStage1, onlyOracle, onlyOracleActive, whenNotPaused,
    requireTradeNotPaused, raises_bind, raises_require, raises_pure, require_eq_ok, haccrue,
    Diagnosis, implies_true, true_and, and_true]
  intro _ _ _ _ _ _ _ _ _ _ _ hstatus
  exact raises_transferSupplierPayout (.milestone (m := .stage1) hstatus) trivial

theorem releaseFinalTranche_diagnosis {tradeId : ℕ} (hbook : s₁.book = s.book)
    (husdc : s₁.usdc = s.usdc)
    (hstatus : (s.book.trades tradeId).status = .arrivalConfirmed) :
    Raises (Diagnosis P s) (releaseFinalTranche P env tradeId s₁) := by
  refine Raises.bind ?_ fun _ _ => raises_pure
  refine raises_transferSupplierPayout (fun hfunds => ?_) trivial
  have hfunds' : P.escrowBalance s₁.usdc < (s₁.book.trades tradeId).supplierSecondTranche := hfunds
  rw [hbook, husdc] at hfunds'
  exact .milestone (m := .closing .finalTranche) hstatus hfunds'

theorem finalizeAfterDisputeWindowCore_diagnosis {tradeId : ℕ} (hbook : s₁.book = s.book)
    (husdc : s₁.usdc = s.usdc) :
    Raises (Diagnosis P s) (finalizeAfterDisputeWindowCore P env tradeId s₁) := by
  simp only [finalizeAfterDisputeWindowCore, inspectionDeadline, raises_bind, raises_require,
    raises_pure, require_eq_ok, hbook, Diagnosis, implies_true, true_and, and_true]
  intro _ _ _ hstatus
  refine ⟨fun harrival => ⟨tradeId, hstatus, Nat.eq_zero_of_not_pos harrival⟩, ?_⟩
  intro _ harrival
  exact ⟨fun _ _ hnot => hnot harrival,
    fun _ _ _ _ => releaseFinalTranche_diagnosis hbook husdc hstatus⟩

theorem finalizeAfterDisputeWindow_diagnosis {tradeId : ℕ} :
    Raises (Diagnosis P s) (finalizeAfterDisputeWindow P env tradeId s) := by
  have hcore : Raises (Diagnosis P s) (finalizeAfterDisputeWindowCore P env tradeId s) :=
    finalizeAfterDisputeWindowCore_diagnosis rfl rfl
  simp [finalizeAfterDisputeWindow, hcore]

theorem finalizeAfterDisputeWindowWithAuthorization_diagnosis {tradeId : ℕ}
    {auth : UserAuthorization} :
    Raises (Diagnosis P s)
      (finalizeAfterDisputeWindowWithAuthorization P env tradeId auth s) := by
  simp only [finalizeAfterDisputeWindowWithAuthorization, onlyRelayerOrAdmin, whenNotPaused,
    requireTradeNotPaused, verifyUserActionAuthorization, raises_bind, raises_require,
    raises_pure, verifyAuthorization_diagnosis, verifyAuthorization_eq_ok, Diagnosis,
    implies_true, true_and, and_true]
  rintro _ _ _ _ _ _ _ _ _ ⟨-, rfl⟩
  exact finalizeAfterDisputeWindowCore_diagnosis rfl rfl

theorem finalizeAfterInspectionAcceptanceWithAuthorization_diagnosis {tradeId : ℕ}
    {auth : UserAuthorization} :
    Raises (Diagnosis P s)
      (finalizeAfterInspectionAcceptanceWithAuthorization P env tradeId auth s) := by
  simp only [finalizeAfterInspectionAcceptanceWithAuthorization, onlyRelayerOrAdmin,
    whenNotPaused, requireTradeNotPaused, verifyUserActionAuthorization, raises_bind,
    raises_require, raises_pure, require_eq_ok, verifyAuthorization_diagnosis,
    verifyAuthorization_eq_ok, Diagnosis, implies_true, true_and, and_true]
  rintro _ _ _ _ _ _ _ _ _ hstatus _ ⟨-, rfl⟩
  exact releaseFinalTranche_diagnosis rfl rfl hstatus

theorem openDisputeWithAuthorization_diagnosis {tradeId : ℕ} {auth : UserAuthorization} :
    Raises (Diagnosis P s) (openDisputeWithAuthorization P env tradeId auth s) := by
  simp only [openDisputeWithAuthorization, onlyRelayerOrAdmin, whenNotPaused,
    requireTradeNotPaused, verifyUserActionAuthorization, inspectionDeadline, raises_bind,
    raises_require, raises_pure, require_eq_ok, verifyAuthorization_diagnosis,
    verifyAuthorization_eq_ok, Diagnosis, implies_true, true_and, and_true]
  rintro _ _ _ _ _ _ _ _ _ ⟨-, rfl⟩ _ hstatus
  refine ⟨fun harrival => ⟨tradeId, hstatus, Nat.eq_zero_of_not_pos harrival⟩, ?_⟩
  exact fun _ harrival _ _ hnot => hnot harrival

theorem cancelLockedTradeAfterTimeoutWithAuthorization_diagnosis {tradeId : ℕ}
    {auth : UserAuthorization} :
    Raises (Diagnosis P s)
      (cancelLockedTradeAfterTimeoutWithAuthorization P env tradeId auth s) := by
  simp only [cancelLockedTradeAfterTimeoutWithAuthorization, onlyRelayerOrAdmin, whenNotPaused,
    requireTradeNotPaused, verifyUserActionAuthorization, raises_bind, raises_require,
    raises_pure, require_eq_ok, verifyAuthorization_diagnosis, verifyAuthorization_eq_ok,
    Diagnosis, implies_true, true_and, and_true]
  rintro _ _ _ _ _ _ _ _ _ ⟨-, rfl⟩ _ hstatus _ _
  exact raises_transferBuyerRefund (.milestone (m := .closing .lockTimeout) hstatus) trivial

theorem refundInTransitAfterTimeoutWithAuthorization_diagnosis {tradeId : ℕ}
    {auth : UserAuthorization} :
    Raises (Diagnosis P s)
      (refundInTransitAfterTimeoutWithAuthorization P env tradeId auth s) := by
  simp only [refundInTransitAfterTimeoutWithAuthorization, onlyRelayerOrAdmin, whenNotPaused,
    requireTradeNotPaused, verifyUserActionAuthorization, raises_bind, raises_require,
    raises_pure, require_eq_ok, verifyAuthorization_diagnosis, verifyAuthorization_eq_ok,
    Diagnosis, implies_true, true_and, and_true]
  rintro _ _ _ _ _ _ _ _ _ ⟨-, rfl⟩ _ hstatus
  refine ⟨fun hsince => ⟨tradeId, hstatus, Nat.eq_zero_of_not_pos hsince⟩, ?_⟩
  intros
  exact raises_transferBuyerRefund (.milestone (m := .closing .transitTimeout) hstatus) trivial

theorem executeDispute_diagnosis {proposalId : ℕ} (hbook : s₁.book = s.book)
    (husdc : s₁.usdc = s.usdc) :
    Raises (Diagnosis P s) (executeDispute P env proposalId s₁) := by
  simp only [executeDispute, raises_bind, raises_require, raises_pure, require_eq_ok, hbook,
    Diagnosis, implies_true, true_and, and_true]
  intro _ _ _ _ _ _ _ _ _ _ _ hstatus
  -- the enumeration has two values, so the last branch of the source is never taken
  cases hoc : (s₁.disputes.board.proposals proposalId).payload.disputeStatus with
  | refund =>
    refine (raises_transferBuyerRefund (fun hfunds => ?_) trivial).bind fun _ _ => raises_pure
    exact .milestone (m := .closing .disputeRefund) hstatus (husdc ▸ hfunds)
  | resolve =>
    refine (raises_transferSupplierPayout (fun hfunds => ?_) trivial).bind fun _ _ => raises_pure
    exact .milestone (m := .closing .disputeResolve) hstatus (husdc ▸ hfunds)

theorem approveDisputeSolution_diagnosis {proposalId : ℕ} :
    Raises (Diagnosis P s) (approveDisputeSolution P env proposalId s) := by
  simp only [approveDisputeSolution, onlyAdmin, whenNotPaused, requireTradeNotPaused,
    raises_bind, raises_require, requireActive_diagnosis, Diagnosis, implies_true, true_and]
  intros
  split_ifs
  · exact executeDispute_diagnosis rfl rfl
  · exact raises_pure

/-! ### All functions -/

section Return

variable {E : EscrowError → Prop}

theorem raises_returnVoid {x : Except EscrowError (State T)} :
    Raises E (returnVoid x) ↔ Raises E x := by
  cases x <;> simp [returnVoid, Except.map]

theorem raises_returnUint256 {x : Except EscrowError (State T × ℕ)} :
    Raises E (returnUint256 x) ↔ Raises E x := by
  cases x <;> simp [returnUint256, Except.map]

theorem raises_returnBool {x : Except EscrowError (State T × Bool)} :
    Raises E (returnBool x) ↔ Raises E x := by
  cases x <;> simp [returnBool, Except.map]

end Return

/-- A call that stops with one of the five errors found the state broken. -/
theorem exec_diagnosis (call : Call) : Raises (Diagnosis P s) (exec P env call s) := by
  cases call <;>
    simp only [exec, raises_returnVoid, raises_returnUint256, raises_returnBool]
  case claimTreasury => exact claimTreasury_diagnosis
  case releaseFundsStage1 => exact releaseFundsStage1_diagnosis
  case openDisputeWithAuthorization => exact openDisputeWithAuthorization_diagnosis
  case finalizeAfterDisputeWindow => exact finalizeAfterDisputeWindow_diagnosis
  case finalizeAfterDisputeWindowWithAuthorization =>
    exact finalizeAfterDisputeWindowWithAuthorization_diagnosis
  case finalizeAfterInspectionAcceptanceWithAuthorization =>
    exact finalizeAfterInspectionAcceptanceWithAuthorization_diagnosis
  case cancelLockedTradeAfterTimeoutWithAuthorization =>
    exact cancelLockedTradeAfterTimeoutWithAuthorization_diagnosis
  case refundInTransitAfterTimeoutWithAuthorization =>
    exact refundInTransitAfterTimeoutWithAuthorization_diagnosis
  case approveDisputeSolution => exact approveDisputeSolution_diagnosis
  case approveUnpause => exact approveUnpause_diagnosis
  case disableOracleEmergency =>
    simp only [disableOracleEmergency, onlyAdmin, raises_bind, raises_require, raises_pure,
      Diagnosis, implies_true, true_and, and_true]
    intros
    split_ifs <;> simp
  case createTradeWithAuthorization args =>
    have hvalid : Raises (Diagnosis P s) (isValid P args.platformFeesAmount
        args.supplierFirstTranche args.supplierSecondTranche) := raises_isValid trivial trivial
    simp [createTradeWithAuthorization, createTradeWithAuthorizationCore, validateTradeAmounts,
      validateLaunchSettlementSchedule, verifyCreateTradeAuthorization, addU256, hvalid]
  all_goals
    simp [pause, pauseClaims, pauseTrade, proposeUnpause, cancelUnpauseProposal,
      confirmInspectionAvailable, confirmInspectionAvailableCore, proposeDisputeSolution,
      cancelExpiredDisputeProposal, proposeOracleUpdate, approveOracleUpdate,
      executeOracleUpdate, cancelExpiredOracleUpdateProposal, proposeAdminChange,
      approveAdminChange, executeAdminChange, cancelAdminChangeProposal,
      proposeTreasuryPayoutAddressUpdate, approveTreasuryPayoutAddressUpdate,
      executeTreasuryPayoutAddressUpdate, cancelExpiredTreasuryPayoutAddressUpdateProposal]

end Cotsel.Escrow
