import Cotsel.Escrow.Spec.Inversion

/-!
# When a call succeeds

`Effect` says what a call that succeeded has checked.  For the calls that bring a trade to its end
this module says the converse as well: the call succeeds exactly under these conditions.
-/

namespace Cotsel.Escrow

open Ballot Guard

variable {T : Type} {P : Platform T} {env : Env} {s : State T}

/-! ### Building blocks -/

theorem succeeds_returnVoid {x : Except EscrowError (State T)} :
    Succeeds (returnVoid x) ↔ Succeeds x := by
  cases x <;> simp [returnVoid, Except.map, Succeeds]

theorem succeeds_returnUint256 {x : Except EscrowError (State T × ℕ)} :
    Succeeds (returnUint256 x) ↔ Succeeds x := by
  cases x <;> simp [returnUint256, Except.map, Succeeds]

theorem succeeds_returnBool {x : Except EscrowError (State T × Bool)} :
    Succeeds (returnBool x) ↔ Succeeds x := by
  cases x <;> simp [returnBool, Except.map, Succeeds]

theorem succeeds_transferSupplierPayout {tradeId : ℕ} {supplier : Address} {amount : ℕ}
    {claimType : ClaimType} :
    Succeeds (transferSupplierPayout P env tradeId supplier amount claimType s) ↔
      ∃ usdc, Pays P s.usdc supplier amount usdc := by
  unfold Succeeds
  simp only [transferSupplierPayout_eq_ok]
  constructor
  · rintro ⟨_, usdc, hpay, -⟩
    exact ⟨usdc, hpay⟩
  · rintro ⟨usdc, hpay⟩
    exact ⟨_, usdc, hpay, rfl⟩

theorem succeeds_transferBuyerRefund {tradeId : ℕ} {buyer : Address} {amount : ℕ}
    {claimType : ClaimType} :
    Succeeds (transferBuyerRefund P env tradeId buyer amount claimType s) ↔
      ∃ usdc, Pays P s.usdc buyer amount usdc := by
  unfold Succeeds
  simp only [transferBuyerRefund_eq_ok]
  constructor
  · rintro ⟨_, usdc, hpay, -⟩
    exact ⟨usdc, hpay⟩
  · rintro ⟨usdc, hpay⟩
    exact ⟨_, usdc, hpay, rfl⟩

/-- What follows a signature check works on the state in which the nonce is consumed. -/
theorem succeeds_verify_bind {β : Type} {user : Address} {action : SponsoredAction}
    {tradeId : ℕ} {auth : UserAuthorization} {k : State T → Except EscrowError β} :
    Succeeds (verifyUserActionAuthorization P env user action tradeId auth s >>= k) ↔
      AuthorizedAction P env user action tradeId auth s ∧
        Succeeds (k (consumeAuthorization P env user action auth.nonce auth.deadline s)) := by
  simp only [succeeds_bind, verifyUserActionAuthorization_eq_ok, and_assoc, exists_and_left,
    exists_eq_left]

/-! ### The end of a trade -/

section

variable {tradeId : ℕ} {auth : UserAuthorization}

theorem succeeds_openDispute :
    Succeeds (exec P env (.openDisputeWithAuthorization tradeId auth) s) ↔
      (s.roles.isAdmin env.sender = true ∨ s.roles.isRelayer env.sender = true) ∧
        s.pausing.paused = false ∧ s.pausing.tradePaused tradeId = false ∧
        tradeId < s.book.tradeCounter ∧
        AuthorizedAction P env (s.book.trades tradeId).buyerAddress .openDispute tradeId auth s ∧
        (s.book.trades tradeId).status = .arrivalConfirmed ∧
        0 < (s.book.trades tradeId).arrivalTimestamp ∧
        env.timestamp ≤ (s.book.trades tradeId).arrivalTimestamp + inspectionWindow tradeId s := by
  simp only [exec, succeeds_returnVoid, openDisputeWithAuthorization, onlyRelayerOrAdmin,
    whenNotPaused, requireTradeNotPaused, inspectionDeadline, bind_assoc, pure_bind,
    succeeds_require_bind, succeeds_verify_bind, succeeds_pure]
  tauto

theorem succeeds_finalizeAfterDisputeWindow :
    Succeeds (exec P env (.finalizeAfterDisputeWindow tradeId) s) ↔
      (env.sender = s.roles.oracleAddress ∨ s.roles.isAdmin env.sender = true) ∧
        (env.sender = s.roles.oracleAddress → s.roles.oracleActive = true) ∧
        s.pausing.paused = false ∧ s.pausing.tradePaused tradeId = false ∧
        tradeId < s.book.tradeCounter ∧
        (s.book.trades tradeId).status = .arrivalConfirmed ∧
        0 < (s.book.trades tradeId).arrivalTimestamp ∧
        (s.book.trades tradeId).arrivalTimestamp + inspectionWindow tradeId s < env.timestamp ∧
        ∃ usdc, Pays P s.usdc (s.book.trades tradeId).supplierAddress
          (s.book.trades tradeId).supplierSecondTranche usdc := by
  simp only [exec, succeeds_returnVoid, finalizeAfterDisputeWindow, onlyOracleOrAdmin,
    whenNotPaused, requireTradeNotPaused, finalizeAfterDisputeWindowCore, inspectionDeadline,
    releaseFinalTranche, bind_assoc, pure_bind, succeeds_require_bind,
    succeeds_bind_of_succeeds fun _ => succeeds_pure, succeeds_transferSupplierPayout]
  tauto

theorem succeeds_finalizeAfterDisputeWindowWithAuthorization :
    Succeeds (exec P env (.finalizeAfterDisputeWindowWithAuthorization tradeId auth) s) ↔
      (s.roles.isAdmin env.sender = true ∨ s.roles.isRelayer env.sender = true) ∧
        s.pausing.paused = false ∧ s.pausing.tradePaused tradeId = false ∧
        tradeId < s.book.tradeCounter ∧
        AuthorizedAction P env (s.book.trades tradeId).supplierAddress
          .finalizeAfterDisputeWindow tradeId auth s ∧
        (s.book.trades tradeId).status = .arrivalConfirmed ∧
        0 < (s.book.trades tradeId).arrivalTimestamp ∧
        (s.book.trades tradeId).arrivalTimestamp + inspectionWindow tradeId s < env.timestamp ∧
        ∃ usdc, Pays P s.usdc (s.book.trades tradeId).supplierAddress
          (s.book.trades tradeId).supplierSecondTranche usdc := by
  simp only [exec, succeeds_returnVoid, finalizeAfterDisputeWindowWithAuthorization,
    onlyRelayerOrAdmin, whenNotPaused, requireTradeNotPaused, finalizeAfterDisputeWindowCore,
    inspectionDeadline, releaseFinalTranche, bind_assoc, pure_bind, succeeds_require_bind,
    succeeds_verify_bind, succeeds_bind_of_succeeds fun _ => succeeds_pure,
    succeeds_transferSupplierPayout]
  tauto

theorem succeeds_cancelLockedTrade :
    Succeeds (exec P env (.cancelLockedTradeAfterTimeoutWithAuthorization tradeId auth) s) ↔
      (s.roles.isAdmin env.sender = true ∨ s.roles.isRelayer env.sender = true) ∧
        s.pausing.paused = false ∧ s.pausing.tradePaused tradeId = false ∧
        tradeId < s.book.tradeCounter ∧
        AuthorizedAction P env (s.book.trades tradeId).buyerAddress .cancelLockedTimeout tradeId
          auth s ∧
        (s.book.trades tradeId).status = .locked ∧
        (s.book.trades tradeId).createdAt + lockTimeout < env.timestamp ∧
        ∃ usdc, Pays P s.usdc (s.book.trades tradeId).buyerAddress
          (s.book.trades tradeId).totalAmountLocked usdc := by
  simp only [exec, succeeds_returnVoid, cancelLockedTradeAfterTimeoutWithAuthorization,
    onlyRelayerOrAdmin, whenNotPaused, requireTradeNotPaused, succeeds_require_bind,
    succeeds_verify_bind, succeeds_bind_of_succeeds fun _ => succeeds_pure,
    succeeds_transferBuyerRefund]
  simp only [consumeAuthorization, State.emit]

theorem succeeds_refundInTransit :
    Succeeds (exec P env (.refundInTransitAfterTimeoutWithAuthorization tradeId auth) s) ↔
      (s.roles.isAdmin env.sender = true ∨ s.roles.isRelayer env.sender = true) ∧
        s.pausing.paused = false ∧ s.pausing.tradePaused tradeId = false ∧
        tradeId < s.book.tradeCounter ∧
        AuthorizedAction P env (s.book.trades tradeId).buyerAddress .refundInTransitTimeout
          tradeId auth s ∧
        (s.book.trades tradeId).status = .inTransit ∧ 0 < s.book.inTransitSince tradeId ∧
        s.book.inTransitSince tradeId + inTransitTimeout < env.timestamp ∧
        ∃ usdc, Pays P s.usdc (s.book.trades tradeId).buyerAddress
          (s.book.trades tradeId).supplierSecondTranche usdc := by
  simp only [exec, succeeds_returnVoid, refundInTransitAfterTimeoutWithAuthorization,
    onlyRelayerOrAdmin, whenNotPaused, requireTradeNotPaused, succeeds_require_bind,
    succeeds_verify_bind, succeeds_bind_of_succeeds fun _ => succeeds_pure,
    succeeds_transferBuyerRefund]
  simp only [consumeAuthorization, State.emit]

end

/-! ### Disputes -/

section

variable {tradeId proposalId : ℕ}

theorem succeeds_payDispute {trade : Trade} {disputeStatus : DisputeStatus} :
    Succeeds (payDispute P env tradeId trade disputeStatus s) ↔
      ∃ usdc, Pays P s.usdc (disputeStatus.recipient trade) trade.supplierSecondTranche usdc := by
  cases disputeStatus with
  | refund =>
    simp only [payDispute, if_true, succeeds_bind_of_succeeds fun _ => succeeds_pure,
      succeeds_transferBuyerRefund, DisputeStatus.recipient]
  | resolve =>
    have hne : DisputeStatus.resolve ≠ .refund := by decide
    simp only [payDispute, if_neg hne, if_true, succeeds_bind_of_succeeds fun _ => succeeds_pure,
      succeeds_transferSupplierPayout, DisputeStatus.recipient]

theorem succeeds_replaceDisputeProposal :
    Succeeds (replaceDisputeProposal env tradeId s) ↔
      (s.disputes.tradeHasActiveDisputeProposal tradeId = true →
        ActiveDisputeExpired env tradeId s ∧
          s.disputes.board.cancelled (s.disputes.tradeActiveDisputeProposalId tradeId) =
            false) := by
  unfold replaceDisputeProposal
  split_ifs with hactive
  · simp only [succeeds_require_bind, succeeds_pure, and_true, hactive, forall_const]
  · exact ⟨fun _ h => absurd h hactive, fun _ => succeeds_pure⟩

theorem succeeds_proposeDisputeSolution {disputeStatus : DisputeStatus} :
    Succeeds (exec P env (.proposeDisputeSolution tradeId disputeStatus) s) ↔
      s.roles.isAdmin env.sender = true ∧ s.pausing.paused = false ∧
        s.pausing.tradePaused tradeId = false ∧ tradeId < s.book.tradeCounter ∧
        (s.book.trades tradeId).status = .frozen ∧
        (s.disputes.tradeHasActiveDisputeProposal tradeId = true →
          ActiveDisputeExpired env tradeId s ∧
            s.disputes.board.cancelled (s.disputes.tradeActiveDisputeProposalId tradeId) =
              false) := by
  rw [← succeeds_replaceDisputeProposal]
  simp only [exec, succeeds_returnUint256, proposeDisputeSolution, onlyAdmin, whenNotPaused,
    requireTradeNotPaused, succeeds_require_bind,
    succeeds_bind_of_succeeds fun _ => succeeds_pure]

theorem succeeds_requireActive_bind {α β : Type} {epoch : ℕ} {b : Board Address α} {id : ℕ}
    {k : Proposal Address α → Except EscrowError β} :
    Succeeds (requireActive env epoch b id >>= k) ↔
      IsActive env epoch b id ∧ Succeeds (k (b.proposals id)) := by
  simp only [requireActive, bind_assoc, pure_bind, succeeds_require_bind]
  constructor
  · rintro ⟨h₁, h₂, h₃, h₄, h₅, h₆, hk⟩
    exact ⟨⟨h₁, h₂, h₃, h₄, h₅, h₆⟩, hk⟩
  · rintro ⟨⟨h₁, h₂, h₃, h₄, h₅, h₆⟩, hk⟩
    exact ⟨h₁, h₂, h₃, h₄, h₅, h₆, hk⟩

theorem succeeds_executeDispute :
    Succeeds (executeDispute P env proposalId s) ↔
      (s.disputes.board.proposals proposalId).executed = false ∧
        s.disputes.board.cancelled proposalId = false ∧
        env.timestamp ≤ s.disputes.board.expiresAt proposalId ∧
        (s.disputes.board.proposals proposalId).epoch = s.roles.governanceEpoch ∧
        s.roles.requiredApprovals ≤ (s.disputes.board.proposals proposalId).approvalCount ∧
        (s.book.trades (s.disputes.board.proposals proposalId).payload.tradeId).status =
          .frozen ∧
        ∃ usdc, Pays P s.usdc
          ((s.disputes.board.proposals proposalId).payload.disputeStatus.recipient
            (s.book.trades (s.disputes.board.proposals proposalId).payload.tradeId))
          (s.book.trades
            (s.disputes.board.proposals proposalId).payload.tradeId).supplierSecondTranche
          usdc := by
  simp only [executeDispute, succeeds_require_bind, succeeds_payDispute,
    succeeds_bind_of_succeeds fun _ => succeeds_pure]

/-- With the last approval the proposal runs, and what it pays must go through. -/
theorem succeeds_approveDisputeSolution :
    Succeeds (exec P env (.approveDisputeSolution proposalId) s) ↔
      s.roles.isAdmin env.sender = true ∧ s.pausing.paused = false ∧
        IsActive env s.roles.governanceEpoch s.disputes.board proposalId ∧
        s.pausing.tradePaused (s.disputes.board.proposals proposalId).payload.tradeId = false ∧
        (s.book.trades (s.disputes.board.proposals proposalId).payload.tradeId).status =
          .frozen ∧
        s.disputes.board.hasApproved proposalId env.sender = false ∧
        (s.roles.requiredApprovals ≤
            (s.disputes.board.proposals proposalId).approvalCount + 1 →
          ∃ usdc, Pays P s.usdc
            ((s.disputes.board.proposals proposalId).payload.disputeStatus.recipient
              (s.book.trades (s.disputes.board.proposals proposalId).payload.tradeId))
            (s.book.trades
              (s.disputes.board.proposals proposalId).payload.tradeId).supplierSecondTranche
            usdc) := by
  simp only [exec, succeeds_returnVoid, approveDisputeSolution, onlyAdmin, whenNotPaused,
    requireTradeNotPaused, succeeds_require_bind, succeeds_requireActive_bind]
  refine and_congr_right fun _ => and_congr_right fun _ => and_congr_right fun hactive => ?_
  refine and_congr_right fun _ => and_congr_right fun hstatus => and_congr_right fun _ => ?_
  split_ifs with hquorum
  · -- the checks are made again on the approved proposal
    have hquorum' : s.roles.requiredApprovals ≤
        (s.disputes.board.proposals proposalId).approvalCount + 1 := hquorum
    rw [succeeds_executeDispute]
    simp [State.emit, Board.approve, hactive.notExecuted, hactive.notCancelled, hactive.timely,
      hactive.current, hstatus, hquorum']
  · exact ⟨fun _ h => absurd h hquorum, fun _ => succeeds_pure⟩

end

/-! ### Lifting a pause -/

theorem succeeds_validatePausedScope_bind {β : Type} {scope : PauseScope} {tradeId : ℕ}
    {k : Unit → Except EscrowError β} :
    Succeeds (validatePausedScope scope tradeId s >>= k) ↔
      ScopePaused scope tradeId s ∧ Succeeds (k ()) := by
  simp only [succeeds_bind, validatePausedScope_eq_ok, Unique.exists_iff,
    PUnit.default_eq_unit]

theorem succeeds_replaceUnpauseProposal :
    Succeeds (replaceUnpauseProposal env s) ↔
      (s.unpausing.hasActiveUnpauseProposal = true → UnpauseStaleOrExpired env s) := by
  unfold replaceUnpauseProposal
  split_ifs with hactive
  · simp only [succeeds_require_bind, succeeds_pure, and_true, hactive, forall_const]
  · exact ⟨fun _ h => absurd h hactive, fun _ => succeeds_pure⟩

theorem succeeds_proposeUnpause {scope : PauseScope} {tradeId : ℕ} {incidentRef : Bytes32} :
    Succeeds (exec P env (.proposeUnpause scope tradeId incidentRef) s) ↔
      s.roles.isAdmin env.sender = true ∧ incidentRef ≠ 0 ∧ ScopePaused scope tradeId s ∧
        (s.unpausing.hasActiveUnpauseProposal = true → UnpauseStaleOrExpired env s) := by
  rw [← succeeds_replaceUnpauseProposal]
  simp only [exec, succeeds_returnBool, proposeUnpause, onlyAdmin, succeeds_require_bind,
    succeeds_validatePausedScope_bind, succeeds_bind_of_succeeds fun _ => succeeds_pure]

theorem succeeds_liftPause {terms : UnpauseTerms} {s₀ : State T}
    (hscope : ScopePaused terms.scope terms.tradeId s₀) (hpausing : s.pausing = s₀.pausing) :
    Succeeds (liftPause P env terms s) := by
  unfold liftPause
  split <;> rename_i hterms
  · rw [hterms] at hscope
    have hpaused : s.pausing.paused = true := hpausing ▸ hscope.1
    simp only [pausableUnpause, succeeds_require_bind, succeeds_pure, hpaused, and_true]
  · exact succeeds_pure
  · exact succeeds_pure

theorem succeeds_approveUnpause :
    Succeeds (exec P env .approveUnpause s) ↔
      s.roles.isAdmin env.sender = true ∧ s.unpausing.hasActiveUnpauseProposal = true ∧
        s.unpausing.unpauseProposal.executed = false ∧
        s.unpausing.unpauseProposal.epoch = s.roles.governanceEpoch ∧
        ScopePaused s.unpausing.unpauseProposal.payload.scope
          s.unpausing.unpauseProposal.payload.tradeId s ∧
        s.unpausing.unpauseHasApproved env.sender = false := by
  simp only [exec, succeeds_returnVoid, approveUnpause, onlyAdmin, succeeds_require_bind,
    succeeds_validatePausedScope_bind]
  refine and_congr_right fun _ => and_congr_right fun _ => and_congr_right fun hopen => ?_
  refine and_congr_right fun hepoch => and_congr_right fun hscope =>
    and_iff_left_of_imp fun _ => ?_
  split_ifs with hquorum
  · simp only [executeUnpause, succeeds_require_bind,
      succeeds_bind_of_succeeds fun _ => succeeds_pure]
    exact ⟨hopen, hepoch, hquorum, succeeds_liftPause hscope rfl⟩
  · exact succeeds_pure

end Cotsel.Escrow
