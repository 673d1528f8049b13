import Cotsel.Escrow.Machine

/-!
# A paused trade and the other trades

The pause of a trade is read by the functions that act on that trade, and by no other.  So a call
that does not concern trade `t` does the same whether `t` is paused or not: it fails with the same
error, or returns the same and leaves the same state up to that pause (`exec_resume`).

The proofs move `State.resume t` from the state a function starts with to the state it ends with,
function by function.
-/

namespace Cotsel.Escrow

open Ballot Guard

variable {T : Type} {P : Platform T} {env : Env} {s : State T} {t : ℕ}

/-- The same state, but trade `t` is not paused. -/
def State.resume (t : ℕ) (s : State T) : State T :=
  { s with
    pausing := { s.pausing with
      tradePaused := Function.update s.pausing.tradePaused t false } }

/-- `f` does the same whether trade `t` is paused or not. -/
abbrev Blind (t : ℕ) (f : State T → Except EscrowError (State T)) (s : State T) : Prop :=
  f (s.resume t) = State.resume t <$> f s

/-- `f`, which also returns a value, does the same whether trade `t` is paused or not. -/
abbrev BlindReturning {α : Type} (t : ℕ) (f : State T → Except EscrowError (State T × α))
    (s : State T) : Prop :=
  f (s.resume t) = (fun r => (r.1.resume t, r.2)) <$> f s

/-- The call acts on trade `t`: directly, on a dispute proposal of it, or on its pause. -/
def Call.Concerns (call : Call) (t : ℕ) (s : State T) : Prop :=
  match call with
  | .pauseTrade tradeId | .releaseFundsStage1 tradeId | .confirmInspectionAvailable tradeId _
  | .openDisputeWithAuthorization tradeId _ | .finalizeAfterDisputeWindow tradeId
  | .finalizeAfterDisputeWindowWithAuthorization tradeId _
  | .finalizeAfterInspectionAcceptanceWithAuthorization tradeId _
  | .cancelLockedTradeAfterTimeoutWithAuthorization tradeId _
  | .refundInTransitAfterTimeoutWithAuthorization tradeId _
  | .proposeDisputeSolution tradeId _ => tradeId = t
  | .approveDisputeSolution proposalId | .cancelExpiredDisputeProposal proposalId =>
    (s.disputes.board.proposals proposalId).payload.tradeId = t
  | .proposeUnpause scope tradeId _ => scope = .trade ∧ tradeId = t
  | .approveUnpause =>
    s.unpausing.unpauseProposal.payload.scope = .trade ∧
      s.unpausing.unpauseProposal.payload.tradeId = t
  | _ => False

theorem Call.Concerns.eq {call : Call} {u : ℕ} (ht : call.Concerns t s) (hu : call.Concerns u s) :
    t = u := by
  cases call with
  | proposeUnpause | approveUnpause => exact ht.2.symm.trans hu.2
  | _ => first | exact Eq.trans (Eq.symm ht) hu | exact absurd ht id

/-! ### Guards and building blocks -/

/-- Writes to the trades do not meddle with the pause, and so on. -/
theorem resume_with_book (b : TradeStore) :
    { s.resume t with book := b } = State.resume t { s with book := b } := rfl

theorem resume_with_claims (c : ClaimStore) :
    { s.resume t with claims := c } = State.resume t { s with claims := c } := rfl

theorem resume_with_book_disputes (b : TradeStore) (d : DisputeStore) :
    { s.resume t with book := b, disputes := d } =
      State.resume t { s with book := b, disputes := d } := rfl

theorem resume_with_unpausing (u : UnpauseStore) :
    { s.resume t with unpausing := u } = State.resume t { s with unpausing := u } := rfl

theorem requireTradeNotPaused_resume {u : ℕ} (hu : u ≠ t) :
    requireTradeNotPaused (s.resume t) u = requireTradeNotPaused s u := by
  simp only [requireTradeNotPaused, State.resume, Function.update_of_ne hu]

theorem verifyAuthorization_resume {user : Address} {action : SponsoredAction}
    {message : Preimage} {nonce deadline : ℕ} {signature : Signature} :
    Blind t (verifyAuthorization P env user action message nonce deadline signature) s := by
  simp only [Blind, verifyAuthorization, map_bind, map_pure]
  rfl

theorem receiveUsdc_resume {buyer : Address} {amount : ℕ} {auth : UsdcAuthorization} :
    Blind t (receiveUsdc P env buyer amount auth) s := by
  have husdc : (s.resume t).usdc = s.usdc := rfl
  rw [Blind, receiveUsdc, receiveUsdc, husdc]
  cases P.receiveWithAuthorization s.usdc env.timestamp P.self buyer P.self amount auth <;> rfl

theorem safeTransferUsdc_resume {recipient : Address} {amount : ℕ} :
    Blind t (safeTransferUsdc P recipient amount) s := by
  have husdc : (s.resume t).usdc = s.usdc := rfl
  rw [Blind, safeTransferUsdc, safeTransferUsdc, husdc]
  cases P.safeTransfer s.usdc P.self recipient amount <;> rfl

theorem transferSupplierPayout_resume {tradeId : ℕ} {supplier : Address} {amount : ℕ}
    {claimType : ClaimType} :
    Blind t (transferSupplierPayout P env tradeId supplier amount claimType) s := by
  unfold Blind transferSupplierPayout
  split_ifs with hzero
  · rfl
  · simp only [safeTransferUsdc_resume, bind_map_left, map_bind, map_pure]
    rfl

theorem transferBuyerRefund_resume {tradeId : ℕ} {buyer : Address} {amount : ℕ}
    {claimType : ClaimType} :
    Blind t (transferBuyerRefund P env tradeId buyer amount claimType) s := by
  unfold Blind transferBuyerRefund
  split_ifs with hzero
  · rfl
  · simp only [safeTransferUsdc_resume, bind_map_left, map_bind, map_pure]
    rfl

theorem accrueClaimable_resume {tradeId : ℕ} {recipient : Address} {amount : ℕ}
    {claimType : ClaimType} :
    Blind t (accrueClaimable tradeId recipient amount claimType) s := by
  unfold Blind accrueClaimable
  split_ifs with hzero
  · rfl
  · simp only [map_bind, map_pure]
    rfl

/-! ### Trades -/

theorem createTradeWithAuthorization_resume {args : CreateTradeArgs} :
    BlindReturning t (createTradeWithAuthorization P env args) s := by
  simp only [BlindReturning, createTradeWithAuthorization, createTradeWithAuthorizationCore,
    verifyCreateTradeAuthorization, verifyAuthorization_resume, bind_map_left, map_bind, map_pure]
  have hstore : ∀ s : State T,
      storeTrade env args (s.resume t) = (storeTrade env args s).resume t := fun _ => rfl
  simp only [hstore, receiveUsdc_resume, bind_map_left]
  rfl

theorem claimTreasury_resume : Blind t (claimTreasury P env) s := by
  simp only [Blind, claimTreasury, resume_with_claims, safeTransferUsdc_resume, map_bind, map_pure,
    bind_map_left]
  rfl

section

variable {u : ℕ} {auth : UserAuthorization}

theorem releaseFundsStage1_resume (hu : u ≠ t) : Blind t (releaseFundsStage1 P env u) s := by
  simp only [Blind, releaseFundsStage1, requireTradeNotPaused_resume hu, resume_with_book,
    transferSupplierPayout_resume, accrueClaimable_resume, map_bind, map_pure, bind_map_left]
  rfl

theorem confirmInspectionAvailable_resume {windowSeconds : ℕ} (hu : u ≠ t) :
    Blind t (confirmInspectionAvailable env u windowSeconds) s := by
  simp only [Blind, confirmInspectionAvailable, confirmInspectionAvailableCore,
    requireTradeNotPaused_resume hu, map_bind, map_pure]
  rfl

theorem openDisputeWithAuthorization_resume (hu : u ≠ t) :
    Blind t (openDisputeWithAuthorization P env u auth) s := by
  simp only [Blind, openDisputeWithAuthorization, requireTradeNotPaused_resume hu,
    verifyUserActionAuthorization, verifyAuthorization_resume, map_bind, map_pure, bind_map_left]
  rfl

theorem releaseFinalTranche_resume : Blind t (releaseFinalTranche P env u) s := by
  simp only [Blind, releaseFinalTranche, resume_with_book, transferSupplierPayout_resume, map_bind,
    map_pure, bind_map_left]
  rfl

theorem finalizeAfterDisputeWindowCore_resume :
    Blind t (finalizeAfterDisputeWindowCore P env u) s := by
  simp only [Blind, finalizeAfterDisputeWindowCore, releaseFinalTranche_resume, map_bind]
  rfl

theorem finalizeAfterDisputeWindow_resume (hu : u ≠ t) :
    Blind t (finalizeAfterDisputeWindow P env u) s := by
  simp only [Blind, finalizeAfterDisputeWindow, requireTradeNotPaused_resume hu,
    finalizeAfterDisputeWindowCore_resume, map_bind]
  rfl

theorem finalizeAfterDisputeWindowWithAuthorization_resume (hu : u ≠ t) :
    Blind t (finalizeAfterDisputeWindowWithAuthorization P env u auth) s := by
  simp only [Blind, finalizeAfterDisputeWindowWithAuthorization, requireTradeNotPaused_resume hu,
    verifyUserActionAuthorization, verifyAuthorization_resume,
    finalizeAfterDisputeWindowCore_resume, map_bind, map_pure, bind_map_left]
  rfl

theorem finalizeAfterInspectionAcceptanceWithAuthorization_resume (hu : u ≠ t) :
    Blind t (finalizeAfterInspectionAcceptanceWithAuthorization P env u auth) s := by
  simp only [Blind, finalizeAfterInspectionAcceptanceWithAuthorization,
    requireTradeNotPaused_resume hu, verifyUserActionAuthorization, verifyAuthorization_resume,
    releaseFinalTranche_resume, map_bind, map_pure, bind_map_left]
  rfl

theorem cancelLockedTradeAfterTimeoutWithAuthorization_resume (hu : u ≠ t) :
    Blind t (cancelLockedTradeAfterTimeoutWithAuthorization P env u auth) s := by
  simp only [Blind, cancelLockedTradeAfterTimeoutWithAuthorization, requireTradeNotPaused_resume hu,
    verifyUserActionAuthorization, verifyAuthorization_resume, resume_with_book,
    transferBuyerRefund_resume, map_bind, map_pure, bind_map_left]
  rfl

theorem refundInTransitAfterTimeoutWithAuthorization_resume (hu : u ≠ t) :
    Blind t (refundInTransitAfterTimeoutWithAuthorization P env u auth) s := by
  simp only [Blind, refundInTransitAfterTimeoutWithAuthorization, requireTradeNotPaused_resume hu,
    verifyUserActionAuthorization, verifyAuthorization_resume, resume_with_book,
    transferBuyerRefund_resume, map_bind, map_pure, bind_map_left]
  rfl

/-! ### Disputes -/

theorem replaceDisputeProposal_resume : Blind t (replaceDisputeProposal env u) s := by
  unfold Blind replaceDisputeProposal
  show (if s.disputes.tradeHasActiveDisputeProposal u = true then _ else _) = _
  split_ifs with hactive
  · simp only [map_bind, map_pure]
    rfl
  · rfl

theorem proposeDisputeSolution_resume {disputeStatus : DisputeStatus} (hu : u ≠ t) :
    BlindReturning t (proposeDisputeSolution env u disputeStatus) s := by
  simp only [BlindReturning, proposeDisputeSolution, requireTradeNotPaused_resume hu,
    replaceDisputeProposal_resume, map_bind, map_pure, bind_map_left]
  rfl

theorem payDispute_resume {trade : Trade} {disputeStatus : DisputeStatus} :
    BlindReturning t (payDispute P env u trade disputeStatus) s := by
  cases disputeStatus with
  | refund =>
    simp only [BlindReturning, payDispute, if_true, transferBuyerRefund_resume, map_bind, map_pure,
      bind_map_left]
  | resolve =>
    have hne : DisputeStatus.resolve ≠ .refund := by nofun
    simp only [BlindReturning, payDispute, if_neg hne, if_true, transferSupplierPayout_resume,
      map_bind, map_pure, bind_map_left]

theorem executeDispute_resume {id : ℕ} : Blind t (executeDispute P env id) s := by
  simp only [Blind, executeDispute, resume_with_book_disputes, payDispute_resume, map_bind,
    map_pure, bind_map_left]
  rfl

end

section

variable {id : ℕ}

/-- The trade of a proposal is looked up through the proposal. -/
theorem requireTradeNotPaused_resume_proposal
    (hid : (s.disputes.board.proposals id).payload.tradeId ≠ t) :
    requireTradeNotPaused (s.resume t)
        ((s.resume t).disputes.board.proposals id).payload.tradeId =
      requireTradeNotPaused s (s.disputes.board.proposals id).payload.tradeId :=
  requireTradeNotPaused_resume hid

theorem approveDisputeSolution_resume
    (hid : (s.disputes.board.proposals id).payload.tradeId ≠ t) :
    Blind t (approveDisputeSolution P env id) s := by
  simp only [Blind, approveDisputeSolution, requireActive, bind_assoc, pure_bind,
    requireTradeNotPaused_resume_proposal hid, map_bind, apply_ite (Functor.map (State.resume t)),
    map_pure, ← executeDispute_resume]
  rfl

theorem cancelExpiredDisputeProposal_resume
    (hid : (s.disputes.board.proposals id).payload.tradeId ≠ t) :
    Blind t (cancelExpiredDisputeProposal env id) s := by
  simp only [Blind, cancelExpiredDisputeProposal, requireTradeNotPaused_resume_proposal hid,
    map_bind, map_pure]
  rfl

end

/-! ### Pausing -/

theorem pauseTrade_resume {u : ℕ} (hu : u ≠ t) : Blind t (pauseTrade env u) s := by
  have hflag : (s.resume t).pausing.tradePaused u = s.pausing.tradePaused u :=
    Function.update_of_ne hu ..
  have hwrite : Function.update (s.resume t).pausing.tradePaused u true =
      Function.update (Function.update s.pausing.tradePaused u true) t false :=
    Function.update_comm (Ne.symm hu) ..
  simp only [Blind, pauseTrade, hflag, hwrite, map_bind, map_pure]
  rfl

theorem validatePausedScope_resume {scope : PauseScope} {u : ℕ}
    (hu : ¬ (scope = .trade ∧ u = t)) :
    validatePausedScope scope u (s.resume t) = validatePausedScope scope u s := by
  cases scope with
  | global | claims => rfl
  | trade =>
    have hne : u ≠ t := fun h => hu ⟨rfl, h⟩
    have hflag : (s.resume t).pausing.tradePaused u = s.pausing.tradePaused u :=
      Function.update_of_ne hne ..
    simp only [validatePausedScope, hflag]
    rfl

theorem replaceUnpauseProposal_resume : Blind t (replaceUnpauseProposal env) s := by
  unfold Blind replaceUnpauseProposal
  show (if s.unpausing.hasActiveUnpauseProposal = true then _ else _) = _
  split_ifs with hactive
  · simp only [map_bind, map_pure]
    rfl
  · rfl

theorem proposeUnpause_resume {scope : PauseScope} {u : ℕ} {incidentRef : Bytes32}
    (hu : ¬ (scope = .trade ∧ u = t)) :
    BlindReturning t (proposeUnpause env scope u incidentRef) s := by
  simp only [BlindReturning, proposeUnpause, validatePausedScope_resume hu,
    replaceUnpauseProposal_resume, map_bind, map_pure, bind_map_left]
  rfl

theorem liftPause_resume {terms : UnpauseTerms}
    (hterms : ¬ (terms.scope = .trade ∧ terms.tradeId = t)) :
    Blind t (liftPause P env terms) s := by
  unfold Blind liftPause
  split <;> rename_i hscope
  · simp only [pausableUnpause, map_bind, map_pure]
    rfl
  · rfl
  · have hne : terms.tradeId ≠ t := fun h => hterms ⟨hscope, h⟩
    have hwrite : Function.update (s.resume t).pausing.tradePaused terms.tradeId false =
        Function.update (Function.update s.pausing.tradePaused terms.tradeId false) t false :=
      Function.update_comm (Ne.symm hne) ..
    rw [hwrite]
    rfl

theorem executeUnpause_resume
    (hterms : ¬ (s.unpausing.unpauseProposal.payload.scope = .trade ∧
      s.unpausing.unpauseProposal.payload.tradeId = t)) :
    Blind t (executeUnpause P env) s := by
  have hlift : ∀ s₁ : State T,
      liftPause P env (s.resume t).unpausing.unpauseProposal.payload (s₁.resume t) =
        State.resume t <$> liftPause P env s.unpausing.unpauseProposal.payload s₁ :=
    fun _ => liftPause_resume hterms
  simp only [Blind, executeUnpause, resume_with_unpausing, hlift, map_bind, map_pure, bind_map_left]
  rfl

theorem approveUnpause_resume
    (hterms : ¬ (s.unpausing.unpauseProposal.payload.scope = .trade ∧
      s.unpausing.unpauseProposal.payload.tradeId = t)) :
    Blind t (approveUnpause P env) s := by
  have hscope : validatePausedScope (s.resume t).unpausing.unpauseProposal.payload.scope
      (s.resume t).unpausing.unpauseProposal.payload.tradeId (s.resume t) =
      validatePausedScope s.unpausing.unpauseProposal.payload.scope
        s.unpausing.unpauseProposal.payload.tradeId s :=
    validatePausedScope_resume hterms
  have hrecord : recordUnpauseApproval env (s.resume t) =
      (recordUnpauseApproval env s).resume t := rfl
  -- the approval keeps the terms of the proposal
  have hterms' : ¬ ((recordUnpauseApproval env s).unpausing.unpauseProposal.payload.scope =
      .trade ∧ (recordUnpauseApproval env s).unpausing.unpauseProposal.payload.tradeId = t) :=
    hterms
  simp only [Blind, approveUnpause, hscope, hrecord, executeUnpause_resume hterms', map_bind,
    apply_ite (Functor.map (State.resume t)), map_pure]
  rfl

theorem disableOracleEmergency_resume : Blind t (disableOracleEmergency P env) s := by
  have hpaused : (s.resume t).pausing.paused = s.pausing.paused := rfl
  simp only [Blind, disableOracleEmergency, pausablePause, hpaused, map_bind, map_pure]
  split_ifs with h
  · rfl
  · simp only [bind_assoc, pure_bind]
    rfl

/-! ### Governance -/

theorem applyAdminChange_resume {terms : AdminChangeTerms} :
    applyAdminChange env terms (s.resume t) = State.resume t <$> applyAdminChange env terms s := by
  have hroles : (s.resume t).roles = s.roles := rfl
  unfold applyAdminChange
  split
  · rfl
  · simp only [removeAdmin, hroles, map_bind, map_pure]
    cases swapRemove terms.currentAdmin s.roles.admins <;> rfl
  · simp only [replaceAdmin, hroles, map_bind, map_pure]
    cases swapReplace terms.currentAdmin terms.newAdmin s.roles.admins <;> rfl
  · rfl
  · rfl
  · rfl

theorem executeAdminChange_resume {id : ℕ} : Blind t (executeAdminChange env id) s := by
  have hset : ∀ b : Board Address AdminChangeTerms,
      { s.resume t with adminChanges := b } = State.resume t { s with adminChanges := b } :=
    fun _ => rfl
  simp only [Blind, executeAdminChange, hset, applyAdminChange_resume, map_bind, map_pure,
    bind_map_left]
  rfl

/-! ### Every call -/

theorem returnVoid_map (x : Except EscrowError (State T)) :
    returnVoid (State.resume t <$> x) = (fun r => (r.1.resume t, r.2)) <$> returnVoid x := by
  cases x <;> rfl

theorem returnUint256_map (x : Except EscrowError (State T × ℕ)) :
    returnUint256 ((fun r => (r.1.resume t, r.2)) <$> x) =
      (fun r => (r.1.resume t, r.2)) <$> returnUint256 x := by
  cases x <;> rfl

theorem returnBool_map (x : Except EscrowError (State T × Bool)) :
    returnBool ((fun r => (r.1.resume t, r.2)) <$> x) =
      (fun r => (r.1.resume t, r.2)) <$> returnBool x := by
  cases x <;> rfl

/-- A call that does not concern trade `t` does the same whether `t` is paused or not. -/
theorem exec_resume {call : Call} (h : ¬ call.Concerns t s) :
    exec P env call (s.resume t) = (fun r => (r.1.resume t, r.2)) <$> exec P env call s := by
  -- the functions that neither read a pause of a trade nor call one that does
  have hplain : ∀ {f : State T → Except EscrowError (State T)},
      Blind t f s → BlindReturning t (fun s => returnVoid (f s)) s := by
    intro f hf
    show returnVoid (f (s.resume t)) = _
    rw [hf, returnVoid_map]
  cases call with
  | pause => exact hplain (by simp only [Blind, pause, pausablePause, map_bind, map_pure]; rfl)
  | pauseClaims => exact hplain (by simp only [Blind, pauseClaims, map_bind, map_pure]; rfl)
  | pauseTrade => exact hplain (pauseTrade_resume h)
  | proposeUnpause =>
    rw [exec, exec, proposeUnpause_resume h, returnBool_map]
  | approveUnpause => exact hplain (approveUnpause_resume h)
  | cancelUnpauseProposal =>
    exact hplain (by simp only [Blind, cancelUnpauseProposal, map_bind, map_pure]; rfl)
  | disableOracleEmergency => exact hplain disableOracleEmergency_resume
  | createTradeWithAuthorization =>
    rw [exec, exec, createTradeWithAuthorization_resume, returnUint256_map]
  | claimTreasury => exact hplain claimTreasury_resume
  | releaseFundsStage1 => exact hplain (releaseFundsStage1_resume h)
  | confirmInspectionAvailable =>
    exact hplain (confirmInspectionAvailable_resume h)
  | openDisputeWithAuthorization => exact hplain (openDisputeWithAuthorization_resume h)
  | finalizeAfterDisputeWindow => exact hplain (finalizeAfterDisputeWindow_resume h)
  | finalizeAfterDisputeWindowWithAuthorization =>
    exact hplain (finalizeAfterDisputeWindowWithAuthorization_resume h)
  | finalizeAfterInspectionAcceptanceWithAuthorization =>
    exact hplain (finalizeAfterInspectionAcceptanceWithAuthorization_resume h)
  | cancelLockedTradeAfterTimeoutWithAuthorization =>
    exact hplain (cancelLockedTradeAfterTimeoutWithAuthorization_resume h)
  | refundInTransitAfterTimeoutWithAuthorization =>
    exact hplain (refundInTransitAfterTimeoutWithAuthorization_resume h)
  | proposeDisputeSolution =>
    rw [exec, exec, proposeDisputeSolution_resume h, returnUint256_map]
  | approveDisputeSolution => exact hplain (approveDisputeSolution_resume h)
  | cancelExpiredDisputeProposal => exact hplain (cancelExpiredDisputeProposal_resume h)
  | proposeOracleUpdate =>
    rw [exec, exec, ← returnUint256_map]
    simp only [proposeOracleUpdate, map_bind, map_pure]
    rfl
  | approveOracleUpdate =>
    exact hplain (by simp only [Blind, approveOracleUpdate, map_bind, map_pure]; rfl)
  | executeOracleUpdate =>
    exact hplain (by simp only [Blind, executeOracleUpdate, map_bind, map_pure]; rfl)
  | cancelExpiredOracleUpdateProposal =>
    exact hplain (by simp only [Blind, cancelExpiredOracleUpdateProposal, map_bind, map_pure]; rfl)
  | proposeAdminChange =>
    rw [exec, exec, ← returnUint256_map]
    simp only [proposeAdminChange, map_bind, map_pure]
    rfl
  | approveAdminChange =>
    exact hplain (by simp only [Blind, approveAdminChange, map_bind, map_pure]; rfl)
  | executeAdminChange => exact hplain executeAdminChange_resume
  | cancelAdminChangeProposal =>
    exact hplain (by simp only [Blind, cancelAdminChangeProposal, map_bind, map_pure]; rfl)
  | proposeTreasuryPayoutAddressUpdate =>
    rw [exec, exec, ← returnUint256_map]
    simp only [proposeTreasuryPayoutAddressUpdate, map_bind, map_pure]
    rfl
  | approveTreasuryPayoutAddressUpdate =>
    exact hplain (by simp only [Blind, approveTreasuryPayoutAddressUpdate, map_bind, map_pure]; rfl)
  | executeTreasuryPayoutAddressUpdate =>
    exact hplain (by simp only [Blind, executeTreasuryPayoutAddressUpdate, map_bind, map_pure]; rfl)
  | cancelExpiredTreasuryPayoutAddressUpdateProposal =>
    exact hplain (by
      simp only [Blind, cancelExpiredTreasuryPayoutAddressUpdateProposal, map_bind, map_pure]; rfl)

end Cotsel.Escrow
