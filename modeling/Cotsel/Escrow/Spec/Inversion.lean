import Cotsel.Escrow.Spec.Effect

/-!
# Reading the effect off the functions

One lemma for each external function: if it succeeds, its rule of `Effect` applies.  They are put
together in `exec_effect`.  The proofs peel the guards off a function in the order the source
checks them, and cite one lemma for each internal function it calls.
-/

namespace Cotsel.Escrow

open Ballot Guard LaunchSettlementSchedule

variable {T α : Type} {P : Platform T} {env : Env} {s s' : State T}

/-! ### Internal functions -/

variable {amount : ℕ}

theorem safeTransferUsdc_eq_ok {recipient : Address} :
    safeTransferUsdc P recipient amount s = .ok s' ↔
      ∃ usdc, P.safeTransfer s.usdc P.self recipient amount = .ok usdc ∧
        s' = { s with usdc := usdc } := by
  unfold safeTransferUsdc
  split <;> rename_i h <;> simp [h, eq_comm]

variable {claimType : ClaimType} {tradeId : ℕ}

/-- A payment and its event, unless there is nothing to pay. -/
theorem payment_eq_ok {recipient : Address} {e : Event} :
    (if amount = 0 then pure s else do
      let s ← safeTransferUsdc P recipient amount s
      pure (s.emit e)) = .ok s' ↔
      ∃ usdc, Pays P s.usdc recipient amount usdc ∧
        s' = { s with
          usdc := usdc
          log := s.log ++ paymentLog amount e } := by
  unfold Pays paymentLog
  split_ifs with h
  · simp only [pure_eq_ok, exists_eq_left, List.append_nil]
    exact eq_comm
  · simp only [bind_eq_ok, safeTransferUsdc_eq_ok, State.emit, pure_eq_ok]
    constructor
    · rintro ⟨_, ⟨usdc, hpay, rfl⟩, rfl⟩
      exact ⟨usdc, hpay, rfl⟩
    · rintro ⟨usdc, hpay, rfl⟩
      exact ⟨_, ⟨usdc, hpay, rfl⟩, rfl⟩

theorem transferSupplierPayout_eq_ok {supplier : Address} :
    transferSupplierPayout P env tradeId supplier amount claimType s = .ok s' ↔
      ∃ usdc, Pays P s.usdc supplier amount usdc ∧
        s' = { s with
          usdc := usdc
          log := s.log ++ paymentLog amount
            (.supplierPayoutTransferred tradeId supplier amount claimType env.sender) } :=
  payment_eq_ok

theorem transferBuyerRefund_eq_ok {buyer : Address} :
    transferBuyerRefund P env tradeId buyer amount claimType s = .ok s' ↔
      ∃ usdc, Pays P s.usdc buyer amount usdc ∧
        s' = { s with
          usdc := usdc
          log := s.log ++ paymentLog amount
            (.buyerRefundTransferred tradeId buyer amount claimType env.sender) } :=
  payment_eq_ok

theorem accrueClaimable_ok {recipient : Address}
    (h : accrueClaimable tradeId recipient amount claimType s = .ok s') :
    s' = { s with
      claims := s.claims.accrue recipient amount
      log := s.log ++ paymentLog amount
        (.claimableAccrued tradeId recipient amount claimType) } := by
  unfold accrueClaimable at h
  unfold ClaimStore.accrue paymentLog
  split_ifs at h with hzero
  · rw [pure_eq_ok] at h
    subst h
    simp [hzero]
  · simp only [bind_eq_ok, addU256, checkedAdd_eq_ok, pure_eq_ok, State.emit] at h
    obtain ⟨_, ⟨_, rfl⟩, _, ⟨_, rfl⟩, rfl⟩ := h
    rw [if_neg hzero]

theorem ecdsaRecover_eq_ok {digest : Bytes32} {signature : Signature} {signer : Address} :
    ecdsaRecover P digest signature = .ok signer ↔ P.recover digest signature = some signer := by
  unfold ecdsaRecover
  split <;> rename_i h <;> simp [h]

theorem verifyAuthorization_eq_ok {user : Address} {action : SponsoredAction}
    {message : Preimage} {nonce deadline : ℕ} {signature : Signature} :
    verifyAuthorization P env user action message nonce deadline signature s = .ok s' ↔
      Authorized P env user message nonce deadline signature s ∧
        s' = consumeAuthorization P env user action nonce deadline s := by
  simp only [verifyAuthorization, requireAuthorization, bind_eq_ok, require_eq_ok, exists_const,
    ecdsaRecover_eq_ok, pure_eq_ok]
  constructor
  · rintro ⟨⟨hzero, htime, hnonce⟩, _, hsigned, rfl, rfl⟩
    exact ⟨⟨hzero, htime, hnonce, hsigned⟩, rfl⟩
  · rintro ⟨⟨hzero, htime, hnonce, hsigned⟩, rfl⟩
    exact ⟨⟨hzero, htime, hnonce⟩, _, hsigned, rfl, rfl⟩

variable {auth : UserAuthorization}

theorem verifyUserActionAuthorization_eq_ok {user : Address} {action : SponsoredAction} :
    verifyUserActionAuthorization P env user action tradeId auth s = .ok s' ↔
      AuthorizedAction P env user action tradeId auth s ∧
        s' = consumeAuthorization P env user action auth.nonce auth.deadline s :=
  verifyAuthorization_eq_ok

variable {b : Board Address α} {id : ℕ}

theorem requireActive_eq_ok {epoch : ℕ} {p : Proposal Address α} :
    requireActive env epoch b id = .ok p ↔ IsActive env epoch b id ∧ p = b.proposals id := by
  simp only [requireActive, bind_eq_ok, require_eq_ok, exists_const, pure_eq_ok]
  constructor
  · rintro ⟨h1, h2, h3, h4, h5, h6, rfl⟩
    exact ⟨⟨h1, h2, h3, h4, h5, h6⟩, rfl⟩
  · rintro ⟨⟨h1, h2, h3, h4, h5, h6⟩, rfl⟩
    exact ⟨h1, h2, h3, h4, h5, h6, rfl⟩

theorem approveProposal_eq_ok {epoch : ℕ} {b' : Board Address α} :
    approveProposal env epoch b id = .ok b' ↔
      IsActive env epoch b id ∧ b.hasApproved id env.sender = false ∧
        b' = b.approve id env.sender := by
  simp only [approveProposal, bind_eq_ok, require_eq_ok, exists_const, requireActive_eq_ok,
    pure_eq_ok]
  constructor
  · rintro ⟨_, ⟨hactive, _⟩, hnew, rfl⟩
    exact ⟨hactive, hnew, rfl⟩
  · rintro ⟨hactive, hnew, rfl⟩
    exact ⟨_, ⟨hactive, rfl⟩, hnew, rfl⟩

variable {u : Unit}

theorem requireExpired_eq_ok :
    requireExpired env b id = .ok u ↔ IsExpired env b id := by
  simp only [requireExpired, bind_eq_ok, require_eq_ok, exists_const]
  constructor
  · rintro ⟨h1, h2, h3, h4⟩
    exact ⟨h1, h2, h3, h4⟩
  · rintro ⟨h1, h2, h3, h4⟩
    exact ⟨h1, h2, h3, h4⟩

theorem cancelExpiredProposal_eq_ok {b' : Board Address α} :
    cancelExpiredProposal env b id = .ok b' ↔
      id < b.counter ∧ IsExpired env b id ∧ b.markCancelled id = b' := by
  simp only [cancelExpiredProposal, bind_eq_ok, require_eq_ok, exists_const,
    requireExpired_eq_ok, pure_eq_ok]

theorem validatePausedScope_eq_ok {scope : PauseScope} :
    validatePausedScope scope tradeId s = .ok u ↔ ScopePaused scope tradeId s := by
  cases scope <;>
    simp only [validatePausedScope, ScopePaused, bind_eq_ok, require_eq_ok, exists_const]

theorem requireServiceRoleAvailable_eq_ok {account : Address} :
    requireServiceRoleAvailable account s = .ok u ↔ RoleFree s.roles account := by
  simp only [requireServiceRoleAvailable, require_eq_ok, not_or, Bool.not_eq_true]
  constructor
  · rintro ⟨h1, h2, h3, h4, h5⟩
    exact ⟨h1, h2, h3, h4, h5⟩
  · rintro ⟨h1, h2, h3, h4, h5⟩
    exact ⟨h1, h2, h3, h4, h5⟩

/-! ### Pausing -/

theorem pause_effect (h : pause P env s = .ok s') : Effect P env .pause s s' := by
  simp only [pause, pausablePause, P.pause_eq, whenNotPaused, onlyAdmin, bind_eq_ok, require_eq_ok,
    exists_const, pure_eq_ok] at h
  obtain ⟨hadmin, hpaused, -, rfl⟩ := h
  exact .pause hadmin hpaused

theorem pauseClaims_effect (h : pauseClaims env s = .ok s') : Effect P env .pauseClaims s s' := by
  simp only [pauseClaims, onlyAdmin, bind_eq_ok, require_eq_ok, exists_const, pure_eq_ok] at h
  obtain ⟨hadmin, hpaused, rfl⟩ := h
  exact .pauseClaims hadmin hpaused

theorem pauseTrade_effect (h : pauseTrade env tradeId s = .ok s') :
    Effect P env (.pauseTrade tradeId) s s' := by
  simp only [pauseTrade, onlyAdmin, bind_eq_ok, require_eq_ok, exists_const, pure_eq_ok] at h
  obtain ⟨hadmin, hid, hpaused, rfl⟩ := h
  exact .pauseTrade hadmin hid hpaused

theorem proposeUnpause_effect {scope : PauseScope} {incidentRef : Bytes32}
    {b : Bool} (h : proposeUnpause env scope tradeId incidentRef s = .ok (s', b)) :
    Effect P env (.proposeUnpause scope tradeId incidentRef) s s' := by
  simp only [proposeUnpause, onlyAdmin, bind_eq_ok, require_eq_ok, exists_const, pure_eq_ok,
    validatePausedScope_eq_ok, Prod.mk.injEq] at h
  obtain ⟨hadmin, href, hscope, s₁, hroom, rfl, -⟩ := h
  unfold replaceUnpauseProposal at hroom
  split_ifs at hroom with hactive
  · simp only [bind_eq_ok, require_eq_ok, exists_const, pure_eq_ok] at hroom
    obtain ⟨hstale, rfl⟩ := hroom
    exact .replaceUnpause hadmin href hscope hactive hstale
  · rw [pure_eq_ok] at hroom
    subst hroom
    exact .proposeUnpause hadmin href hscope (Bool.not_eq_true _ ▸ hactive)

theorem liftPause_ok {terms : UnpauseTerms} (h : liftPause P env terms s = .ok s') :
    s' = { s with
      pausing := s.pausing.lift terms
      log := s.log ++ [liftEvent env terms] } := by
  cases hscope : terms.scope <;>
    simp only [liftPause, PauseStore.lift, liftEvent, hscope, pure_eq_ok] at h ⊢
  · simp only [pausableUnpause, P.unpause_eq, bind_eq_ok, require_eq_ok, exists_const,
      pure_eq_ok] at h
    exact h.2.symm
  · exact h.symm
  · exact h.symm

theorem approveUnpause_effect (h : approveUnpause P env s = .ok s') :
    Effect P env .approveUnpause s s' := by
  simp only [approveUnpause, onlyAdmin, bind_eq_ok, require_eq_ok, exists_const,
    validatePausedScope_eq_ok] at h
  obtain ⟨hadmin, hactive, hopen, hepoch, hscope, hnew, h⟩ := h
  split_ifs at h with hcount
  · simp only [executeUnpause, bind_eq_ok, require_eq_ok, exists_const, pure_eq_ok] at h
    obtain ⟨-, -, -, s₁, hlift, rfl⟩ := h
    rw [liftPause_ok hlift]
    exact .executeUnpause hadmin hactive hopen hepoch hscope hnew hcount
  · rw [pure_eq_ok] at h
    subst h
    exact .approveUnpause hadmin hactive hopen hepoch hscope hnew (Nat.lt_of_not_le hcount)

theorem cancelUnpauseProposal_effect (h : cancelUnpauseProposal env s = .ok s') :
    Effect P env .cancelUnpauseProposal s s' := by
  simp only [cancelUnpauseProposal, onlyAdmin, bind_eq_ok, require_eq_ok, exists_const,
    pure_eq_ok, not_and, not_not] at h
  obtain ⟨hadmin, hactive, hopen, hmay, rfl⟩ := h
  exact .cancelUnpauseProposal hadmin hactive hopen (Classical.or_iff_not_imp_left.mpr hmay)

theorem disableOracleEmergency_effect (h : disableOracleEmergency P env s = .ok s') :
    Effect P env .disableOracleEmergency s s' := by
  simp only [disableOracleEmergency, onlyAdmin, bind_eq_ok, require_eq_ok, exists_const,
    pure_eq_ok] at h
  obtain ⟨hadmin, hactive, s₁, hpause, rfl⟩ := h
  have hrule := Effect.disableOracleEmergency (P := P) hadmin hactive
  split_ifs at hpause with hpaused
  · -- already paused: the write of `paused` in the rule changes nothing
    rw [pure_eq_ok] at hpause
    subst hpause
    have hsame : { s.pausing with paused := true } = s.pausing := by rw [← hpaused]
    rw [hsame, if_pos hpaused, List.append_nil] at hrule
    exact hrule
  · simp only [pausablePause, P.pause_eq, whenNotPaused, bind_eq_ok, require_eq_ok, exists_const,
      pure_eq_ok] at hpause
    obtain ⟨-, rfl⟩ := hpause
    rw [if_neg hpaused] at hrule
    exact hrule

/-! ### Trades -/

variable {n : ℕ}

theorem createTradeWithAuthorization_effect {args : CreateTradeArgs}
    (h : createTradeWithAuthorization P env args s = .ok (s', n)) :
    Effect P env (.createTradeWithAuthorization args) s s' := by
  simp only [createTradeWithAuthorization, createTradeWithAuthorizationCore, onlyRelayerOrAdmin,
    whenNotPaused, verifyCreateTradeAuthorization, bind_eq_ok, require_eq_ok, exists_const,
    verifyAuthorization_eq_ok, pure_eq_ok, Prod.mk.injEq] at h
  obtain ⟨hsender, hpaused, _, hamounts, _, hschedule, _, ⟨hauth, rfl⟩, s₂, hpay, rfl, -⟩ := h
  unfold receiveUsdc at hpay
  split at hpay
  · rename_i usdc husdc
    cases hpay
    exact .createTrade hsender hpaused hamounts hschedule hauth husdc
  · cases hpay

theorem claimTreasury_effect (h : claimTreasury P env s = .ok s') :
    Effect P env .claimTreasury s s' := by
  simp only [claimTreasury, onlyTreasuryOrAdmin, whenClaimsNotPaused, bind_eq_ok, require_eq_ok,
    exists_const, subU256, checkedSub_eq_ok, safeTransferUsdc_eq_ok, pure_eq_ok] at h
  obtain ⟨hsender, hpaused, hpos, hreceiver, _, ⟨hle, rfl⟩, _, ⟨usdc, hpay, rfl⟩, rfl⟩ := h
  exact .claimTreasury hsender hpaused hpos hreceiver hle hpay

theorem releaseFundsStage1_effect (h : releaseFundsStage1 P env tradeId s = .ok s') :
    Effect P env (.releaseFundsStage1 tradeId) s s' := by
  simp only [releaseFundsStage1, onlyOracle, onlyOracleActive, whenNotPaused,
    requireTradeNotPaused, bind_eq_ok, require_eq_ok, exists_const, transferSupplierPayout_eq_ok,
    pure_eq_ok] at h
  obtain ⟨hsender, hactive, hpaused, htrade, hid, hstatus, _, ⟨usdc, hpay, rfl⟩, s₂, hlog, s₃,
    hfees, rfl⟩ := h
  obtain rfl := accrueClaimable_ok hlog
  obtain rfl := accrueClaimable_ok hfees
  exact .releaseFundsStage1 hsender hactive hpaused htrade hid hstatus hpay

theorem confirmInspectionAvailable_effect {windowSeconds : ℕ}
    (h : confirmInspectionAvailable env tradeId windowSeconds s = .ok s') :
    Effect P env (.confirmInspectionAvailable tradeId windowSeconds) s s' := by
  simp only [confirmInspectionAvailable, confirmInspectionAvailableCore, onlyOracle,
    onlyOracleActive, whenNotPaused, requireTradeNotPaused, bind_eq_ok, require_eq_ok,
    exists_const, pure_eq_ok] at h
  obtain ⟨hsender, hactive, hpaused, htrade, hid, hstatus, hwindow, rfl⟩ := h
  exact .confirmInspectionAvailable hsender hactive hpaused htrade hid hstatus hwindow

theorem inspectionDeadline_eq_ok {deadline : ℕ} :
    inspectionDeadline tradeId s = .ok deadline ↔
      tradeId < s.book.tradeCounter ∧ 0 < (s.book.trades tradeId).arrivalTimestamp ∧
        (s.book.trades tradeId).arrivalTimestamp + inspectionWindow tradeId s = deadline := by
  simp only [inspectionDeadline, bind_eq_ok, require_eq_ok, exists_const, pure_eq_ok]

theorem openDisputeWithAuthorization_effect
    (h : openDisputeWithAuthorization P env tradeId auth s = .ok s') :
    Effect P env (.openDisputeWithAuthorization tradeId auth) s s' := by
  simp only [openDisputeWithAuthorization, onlyRelayerOrAdmin, whenNotPaused,
    requireTradeNotPaused, bind_eq_ok, require_eq_ok, exists_const,
    verifyUserActionAuthorization_eq_ok, inspectionDeadline_eq_ok, pure_eq_ok] at h
  obtain ⟨hsender, hpaused, htrade, hid, _, ⟨hauth, rfl⟩, hstatus, harrival, _, ⟨-, -, rfl⟩,
    hwindow, rfl⟩ := h
  exact .openDispute hsender hpaused htrade hid hauth hstatus harrival hwindow

theorem releaseFinalTranche_eq_ok :
    releaseFinalTranche P env tradeId s = .ok s' ↔
      ∃ usdc, Pays P s.usdc (s.book.trades tradeId).supplierAddress
          (s.book.trades tradeId).supplierSecondTranche usdc ∧
        s' = { s with
          book := (s.book.setStatus tradeId .closed).setInTransitSince tradeId 0
          usdc := usdc
          log := logFinalTranche env s tradeId s.log } := by
  simp only [releaseFinalTranche, bind_eq_ok, transferSupplierPayout_eq_ok, pure_eq_ok]
  constructor
  · rintro ⟨_, ⟨usdc, hpay, rfl⟩, rfl⟩
    exact ⟨usdc, hpay, rfl⟩
  · rintro ⟨usdc, hpay, rfl⟩
    exact ⟨_, ⟨usdc, hpay, rfl⟩, rfl⟩

theorem finalizeAfterDisputeWindow_effect
    (h : finalizeAfterDisputeWindow P env tradeId s = .ok s') :
    Effect P env (.finalizeAfterDisputeWindow tradeId) s s' := by
  simp only [finalizeAfterDisputeWindow, finalizeAfterDisputeWindowCore, onlyOracleOrAdmin,
    whenNotPaused, requireTradeNotPaused, bind_eq_ok, require_eq_ok, exists_const,
    inspectionDeadline_eq_ok, releaseFinalTranche_eq_ok] at h
  obtain ⟨⟨hsender, hactive⟩, hpaused, htrade, hid, hstatus, harrival, _, ⟨-, -, rfl⟩, hwindow,
    usdc, hpay, rfl⟩ := h
  exact .finalizeAfterDisputeWindow hsender hactive hpaused htrade hid hstatus harrival hwindow
    hpay

theorem finalizeAfterDisputeWindowWithAuthorization_effect
    (h : finalizeAfterDisputeWindowWithAuthorization P env tradeId auth s = .ok s') :
    Effect P env (.finalizeAfterDisputeWindowWithAuthorization tradeId auth) s s' := by
  simp only [finalizeAfterDisputeWindowWithAuthorization, finalizeAfterDisputeWindowCore,
    onlyRelayerOrAdmin, whenNotPaused, requireTradeNotPaused, bind_eq_ok, require_eq_ok,
    exists_const, verifyUserActionAuthorization_eq_ok, inspectionDeadline_eq_ok,
    releaseFinalTranche_eq_ok, pure_eq_ok] at h
  obtain ⟨hsender, hpaused, htrade, hid, _, ⟨hauth, rfl⟩, _, ⟨-, hstatus, harrival, _,
    ⟨-, -, rfl⟩, hwindow, usdc, hpay, rfl⟩, rfl⟩ := h
  exact .finalizeAfterDisputeWindowWithAuthorization hsender hpaused htrade hid hauth hstatus
    harrival hwindow hpay

theorem finalizeAfterInspectionAcceptanceWithAuthorization_effect
    (h : finalizeAfterInspectionAcceptanceWithAuthorization P env tradeId auth s = .ok s') :
    Effect P env (.finalizeAfterInspectionAcceptanceWithAuthorization tradeId auth) s s' := by
  simp only [finalizeAfterInspectionAcceptanceWithAuthorization, onlyRelayerOrAdmin,
    whenNotPaused, requireTradeNotPaused, bind_eq_ok, require_eq_ok, exists_const,
    verifyUserActionAuthorization_eq_ok, releaseFinalTranche_eq_ok, pure_eq_ok] at h
  obtain ⟨hsender, hpaused, htrade, hid, hstatus, _, ⟨hauth, rfl⟩, _, ⟨usdc, hpay, rfl⟩,
    rfl⟩ := h
  exact .finalizeAfterInspectionAcceptance hsender hpaused htrade hid hstatus hauth hpay

theorem cancelLockedTradeAfterTimeoutWithAuthorization_effect
    (h : cancelLockedTradeAfterTimeoutWithAuthorization P env tradeId auth s = .ok s') :
    Effect P env (.cancelLockedTradeAfterTimeoutWithAuthorization tradeId auth) s s' := by
  simp only [cancelLockedTradeAfterTimeoutWithAuthorization, onlyRelayerOrAdmin, whenNotPaused,
    requireTradeNotPaused, bind_eq_ok, require_eq_ok, exists_const,
    verifyUserActionAuthorization_eq_ok, transferBuyerRefund_eq_ok, pure_eq_ok] at h
  obtain ⟨hsender, hpaused, htrade, hid, _, ⟨hauth, rfl⟩, hstatus, htimeout, _,
    ⟨usdc, hpay, rfl⟩, rfl⟩ := h
  exact .cancelLockedTrade hsender hpaused htrade hid hauth hstatus htimeout hpay

theorem refundInTransitAfterTimeoutWithAuthorization_effect
    (h : refundInTransitAfterTimeoutWithAuthorization P env tradeId auth s = .ok s') :
    Effect P env (.refundInTransitAfterTimeoutWithAuthorization tradeId auth) s s' := by
  simp only [refundInTransitAfterTimeoutWithAuthorization, onlyRelayerOrAdmin, whenNotPaused,
    requireTradeNotPaused, bind_eq_ok, require_eq_ok, exists_const,
    verifyUserActionAuthorization_eq_ok, transferBuyerRefund_eq_ok, pure_eq_ok] at h
  obtain ⟨hsender, hpaused, htrade, hid, _, ⟨hauth, rfl⟩, hstatus, hsince, htimeout, _,
    ⟨usdc, hpay, rfl⟩, rfl⟩ := h
  exact .refundInTransit hsender hpaused htrade hid hauth hstatus hsince htimeout hpay

/-! ### Disputes -/

theorem proposeDisputeSolution_effect {disputeStatus : DisputeStatus}
    (h : proposeDisputeSolution env tradeId disputeStatus s = .ok (s', n)) :
    Effect P env (.proposeDisputeSolution tradeId disputeStatus) s s' := by
  simp only [proposeDisputeSolution, onlyAdmin, whenNotPaused, requireTradeNotPaused, bind_eq_ok,
    require_eq_ok, exists_const, pure_eq_ok, Prod.mk.injEq] at h
  obtain ⟨hadmin, hpaused, htrade, hid, hstatus, s₁, hroom, rfl, -⟩ := h
  unfold replaceDisputeProposal at hroom
  split_ifs at hroom with hactive
  · simp only [bind_eq_ok, require_eq_ok, exists_const, pure_eq_ok] at hroom
    obtain ⟨⟨hexpired, hcancelled⟩, rfl⟩ := hroom
    exact .replaceDispute hadmin hpaused htrade hid hstatus hactive hexpired hcancelled
  · rw [pure_eq_ok] at hroom
    subst hroom
    exact .proposeDispute hadmin hpaused htrade hid hstatus (Bool.not_eq_true _ ▸ hactive)

theorem payDispute_ok {trade : Trade} {disputeStatus : DisputeStatus}
    {r : State T × Address} (h : payDispute P env tradeId trade disputeStatus s = .ok r) :
    ∃ usdc, Pays P s.usdc (disputeStatus.recipient trade) trade.supplierSecondTranche usdc ∧
      r = ({ s with
          usdc := usdc
          log := s.log ++ paymentLog trade.supplierSecondTranche
            (disputeStatus.event env tradeId trade) }, disputeStatus.recipient trade) := by
  cases disputeStatus with
  | refund =>
    simp only [payDispute, if_true, bind_eq_ok, transferBuyerRefund_eq_ok, pure_eq_ok] at h
    obtain ⟨_, ⟨usdc, hpay, rfl⟩, rfl⟩ := h
    exact ⟨usdc, hpay, rfl⟩
  | resolve =>
    simp only [payDispute, reduceCtorEq, if_false, if_true, bind_eq_ok,
      transferSupplierPayout_eq_ok, pure_eq_ok] at h
    obtain ⟨_, ⟨usdc, hpay, rfl⟩, rfl⟩ := h
    exact ⟨usdc, hpay, rfl⟩

variable {proposalId : ℕ}

theorem approveDisputeSolution_effect
    (h : approveDisputeSolution P env proposalId s = .ok s') :
    Effect P env (.approveDisputeSolution proposalId) s s' := by
  simp only [approveDisputeSolution, onlyAdmin, whenNotPaused, requireTradeNotPaused, bind_eq_ok,
    require_eq_ok, exists_const, requireActive_eq_ok] at h
  obtain ⟨hadmin, hpaused, _, ⟨hactive, rfl⟩, htrade, hstatus, hnew, h⟩ := h
  split_ifs at h with hcount
  · simp only [executeDispute, bind_eq_ok, require_eq_ok, exists_const, pure_eq_ok] at h
    obtain ⟨-, -, -, -, -, -, r, hpay, rfl⟩ := h
    -- the proposal read back after the approval has the payload it had before
    have hback : ((s.disputes.board.approve proposalId env.sender).proposals proposalId).payload =
        (s.disputes.board.proposals proposalId).payload := by
      simp [Board.approve]
    simp only [State.emit, hback] at hpay ⊢
    obtain ⟨usdc, hpaid, rfl⟩ := payDispute_ok hpay
    exact .executeDispute hadmin hpaused hactive rfl htrade hstatus hnew hcount hpaid
  · rw [pure_eq_ok] at h
    subst h
    exact .approveDispute hadmin hpaused hactive htrade hstatus hnew (Nat.lt_of_not_le hcount)

theorem cancelExpiredDisputeProposal_effect
    (h : cancelExpiredDisputeProposal env proposalId s = .ok s') :
    Effect P env (.cancelExpiredDisputeProposal proposalId) s s' := by
  simp only [cancelExpiredDisputeProposal, onlyAdmin, whenNotPaused, requireTradeNotPaused,
    bind_eq_ok, require_eq_ok, exists_const, requireExpired_eq_ok, pure_eq_ok] at h
  obtain ⟨hadmin, hpaused, hid, hexpired, htrade, rfl⟩ := h
  split_ifs with hactive
  · exact .cancelActiveDispute hadmin hpaused hid hexpired rfl htrade hactive
  · exact .cancelInactiveDispute hadmin hpaused hid hexpired rfl htrade hactive

/-! ### Governance -/

theorem proposeOracleUpdate_effect {newOracle : Address}
    (h : proposeOracleUpdate env newOracle s = .ok (s', n)) :
    Effect P env (.proposeOracleUpdate newOracle) s s' := by
  simp only [proposeOracleUpdate, onlyAdmin, bind_eq_ok, require_eq_ok, exists_const,
    requireServiceRoleAvailable_eq_ok, pure_eq_ok, Prod.mk.injEq] at h
  obtain ⟨hadmin, hne, -, hfree, -, rfl, -⟩ := h
  refine .proposeOracleUpdate hadmin hne hfree ?_
  cases s.roles.oracleActive <;> rfl

theorem approveOracleUpdate_effect
    (h : approveOracleUpdate env proposalId s = .ok s') :
    Effect P env (.approveOracleUpdate proposalId) s s' := by
  simp only [approveOracleUpdate, onlyAdmin, bind_eq_ok, require_eq_ok, exists_const,
    approveProposal_eq_ok, pure_eq_ok] at h
  obtain ⟨hadmin, _, ⟨hactive, hnew, rfl⟩, rfl⟩ := h
  simp only [Board.approve_approvalCount]
  exact .approveOracleUpdate hadmin hactive hnew

theorem executeOracleUpdate_effect
    (h : executeOracleUpdate env proposalId s = .ok s') :
    Effect P env (.executeOracleUpdate proposalId) s s' := by
  simp only [executeOracleUpdate, onlyAdmin, bind_eq_ok, require_eq_ok, exists_const,
    requireActive_eq_ok, pure_eq_ok] at h
  obtain ⟨hadmin, _, ⟨hactive, rfl⟩, hquorum, heta, rfl⟩ := h
  exact .executeOracleUpdate hadmin hactive hquorum heta

theorem cancelExpiredOracleUpdateProposal_effect
    (h : cancelExpiredOracleUpdateProposal env proposalId s = .ok s') :
    Effect P env (.cancelExpiredOracleUpdateProposal proposalId) s s' := by
  simp only [cancelExpiredOracleUpdateProposal, onlyAdmin, bind_eq_ok, require_eq_ok,
    exists_const, cancelExpiredProposal_eq_ok, pure_eq_ok] at h
  obtain ⟨hadmin, _, ⟨hid, hexpired, rfl⟩, rfl⟩ := h
  exact .cancelExpiredOracleUpdate hadmin hid hexpired

theorem proposeAdminChange_effect {kind : AdminChangeKind} {currentAdmin newAdmin : Address}
    {newThreshold : ℕ}
    (h : proposeAdminChange env kind currentAdmin newAdmin newThreshold s = .ok (s', n)) :
    Effect P env (.proposeAdminChange kind currentAdmin newAdmin newThreshold) s s' := by
  simp only [proposeAdminChange, onlyAdmin, bind_eq_ok, require_eq_ok, exists_const, pure_eq_ok,
    Prod.mk.injEq] at h
  obtain ⟨hadmin, _, hvalid, rfl, -⟩ := h
  exact .proposeAdminChange hadmin hvalid

theorem approveAdminChange_effect
    (h : approveAdminChange env proposalId s = .ok s') :
    Effect P env (.approveAdminChange proposalId) s s' := by
  simp only [approveAdminChange, onlyAdmin, bind_eq_ok, require_eq_ok, exists_const,
    approveProposal_eq_ok, pure_eq_ok] at h
  obtain ⟨hadmin, _, ⟨hactive, hnew, rfl⟩, rfl⟩ := h
  simp only [Board.approve_approvalCount]
  exact .approveAdminChange hadmin hactive hnew

theorem applyAdminChange_changed {terms : AdminChangeTerms} {s₁ : State T}
    (h : applyAdminChange env terms s₁ = .ok s')
    (hvalid : validateAdminChange terms.kind terms.currentAdmin terms.newAdmin terms.newThreshold
      s = .ok ())
    (hroles : s₁.roles = s.roles) :
    ∃ roles hasApproved,
      AdminChanged terms s₁.roles s₁.unpausing.unpauseHasApproved roles hasApproved ∧
      s' = { s₁ with
        roles := roles
        unpausing := { s₁.unpausing with unpauseHasApproved := hasApproved }
        log := s₁.log ++ [adminChangeEvent env terms s₁.roles.requiredApprovals] } := by
  rw [hroles]
  unfold applyAdminChange at h
  unfold adminChangeEvent
  cases hkind : terms.kind <;>
    simp only [hkind, validateAdminChange, bind_eq_ok, require_eq_ok, exists_const,
      requireServiceRoleAvailable_eq_ok, checkedSub_eq_ok, pure_eq_ok, not_or, not_lt,
      not_le] at h hvalid
  · obtain ⟨hne, -, hfree, hmax, -⟩ := hvalid
    subst h
    exact ⟨_, _, .add hkind hne hfree hmax, by rw [hroles]; rfl⟩
  · obtain ⟨hadmin, _, ⟨-, rfl⟩, henough, -⟩ := hvalid
    obtain ⟨s₂, hremove, rfl⟩ := h
    unfold removeAdmin at hremove
    split at hremove
    · rename_i admins hswap
      cases hremove
      rw [hroles] at hswap
      exact ⟨_, _, .remove hkind hadmin henough hswap, by rw [hroles]; rfl⟩
    · cases hremove
  · obtain ⟨hne, -, hfree, hadmin, -⟩ := hvalid
    obtain ⟨s₂, hreplace, rfl⟩ := h
    unfold replaceAdmin at hreplace
    split at hreplace
    · rename_i admins hswap
      cases hreplace
      rw [hroles] at hswap
      exact ⟨_, _, .replace hkind hne hfree hadmin hswap, by rw [hroles]; rfl⟩
    · cases hreplace
  · obtain ⟨htwo, hlt, hne⟩ := hvalid
    subst h
    exact ⟨_, _, .threshold hkind htwo hlt hne, by rw [hroles]; rfl⟩
  · obtain ⟨-, hne, -, hfree⟩ := hvalid
    subst h
    exact ⟨_, _, .relayerAdd hkind hne hfree, by rw [hroles]; rfl⟩
  · obtain ⟨-, hrelayer⟩ := hvalid
    subst h
    exact ⟨_, _, .relayerRemove hkind hrelayer, by rw [hroles]; rfl⟩

theorem executeAdminChange_effect
    (h : executeAdminChange env proposalId s = .ok s') :
    Effect P env (.executeAdminChange proposalId) s s' := by
  simp only [executeAdminChange, onlyAdmin, bind_eq_ok, require_eq_ok, exists_const,
    requireActive_eq_ok, pure_eq_ok] at h
  obtain ⟨hadmin, _, ⟨hactive, rfl⟩, hquorum, heta, _, hvalid, s₂, happly, rfl⟩ := h
  obtain ⟨roles, hasApproved, hchange, rfl⟩ := applyAdminChange_changed happly hvalid rfl
  exact .executeAdminChange hadmin hactive rfl hquorum heta hchange

theorem cancelAdminChangeProposal_effect
    (h : cancelAdminChangeProposal env proposalId s = .ok s') :
    Effect P env (.cancelAdminChangeProposal proposalId) s s' := by
  simp only [cancelAdminChangeProposal, onlyAdmin, bind_eq_ok, require_eq_ok, exists_const,
    requireExpired_eq_ok, pure_eq_ok] at h
  obtain ⟨hadmin, hexpired, rfl⟩ := h
  exact .cancelAdminChangeProposal hadmin hexpired

theorem proposeTreasuryPayoutAddressUpdate_effect {newPayoutReceiver : Address}
    (h : proposeTreasuryPayoutAddressUpdate env newPayoutReceiver s = .ok (s', n)) :
    Effect P env (.proposeTreasuryPayoutAddressUpdate newPayoutReceiver) s s' := by
  simp only [proposeTreasuryPayoutAddressUpdate, onlyAdmin, bind_eq_ok, require_eq_ok,
    exists_const, requireServiceRoleAvailable_eq_ok, pure_eq_ok, Prod.mk.injEq] at h
  obtain ⟨hadmin, hne, -, hfree, -, rfl, -⟩ := h
  exact .proposeTreasuryPayout hadmin hne hfree

theorem approveTreasuryPayoutAddressUpdate_effect
    (h : approveTreasuryPayoutAddressUpdate env proposalId s = .ok s') :
    Effect P env (.approveTreasuryPayoutAddressUpdate proposalId) s s' := by
  simp only [approveTreasuryPayoutAddressUpdate, onlyAdmin, bind_eq_ok, require_eq_ok,
    exists_const, approveProposal_eq_ok, pure_eq_ok] at h
  obtain ⟨hadmin, _, ⟨hactive, hnew, rfl⟩, rfl⟩ := h
  simp only [Board.approve_approvalCount]
  exact .approveTreasuryPayout hadmin hactive hnew

theorem executeTreasuryPayoutAddressUpdate_effect
    (h : executeTreasuryPayoutAddressUpdate env proposalId s = .ok s') :
    Effect P env (.executeTreasuryPayoutAddressUpdate proposalId) s s' := by
  simp only [executeTreasuryPayoutAddressUpdate, onlyAdmin, bind_eq_ok, require_eq_ok,
    exists_const, requireActive_eq_ok, pure_eq_ok] at h
  obtain ⟨hadmin, _, ⟨hactive, rfl⟩, hquorum, heta, hne, rfl⟩ := h
  exact .executeTreasuryPayout hadmin hactive hquorum heta hne

theorem cancelExpiredTreasuryPayoutAddressUpdateProposal_effect
    (h : cancelExpiredTreasuryPayoutAddressUpdateProposal env proposalId s = .ok s') :
    Effect P env (.cancelExpiredTreasuryPayoutAddressUpdateProposal proposalId) s s' := by
  simp only [cancelExpiredTreasuryPayoutAddressUpdateProposal, onlyAdmin, bind_eq_ok,
    require_eq_ok, exists_const, cancelExpiredProposal_eq_ok, pure_eq_ok] at h
  obtain ⟨hadmin, _, ⟨hid, hexpired, rfl⟩, rfl⟩ := h
  exact .cancelExpiredTreasuryPayout hadmin hid hexpired

/-! ### All functions -/

variable {r : ReturnData}

theorem returnVoid_eq_ok {x : Except EscrowError (State T)} :
    returnVoid x = .ok (s', r) ↔ x = .ok s' ∧ r = .void := by
  cases x <;> simp [returnVoid, Except.map, eq_comm]

theorem map_return_eq_ok {β : Type} {x : Except EscrowError (State T × β)} {f : β → ReturnData} :
    (x.map fun (s, b) => (s, f b)) = .ok (s', r) ↔ ∃ b, x = .ok (s', b) ∧ r = f b := by
  rcases x with e | ⟨s₁, b⟩
  · simp [Except.map]
  · simp only [Except.map, Except.ok.injEq, Prod.mk.injEq]
    constructor
    · rintro ⟨rfl, rfl⟩
      exact ⟨b, ⟨rfl, rfl⟩, rfl⟩
    · rintro ⟨_, ⟨rfl, rfl⟩, rfl⟩
      exact ⟨rfl, rfl⟩

theorem returnUint256_eq_ok {x : Except EscrowError (State T × ℕ)} :
    returnUint256 x = .ok (s', r) ↔ ∃ n, x = .ok (s', n) ∧ r = .uint256 n :=
  map_return_eq_ok

theorem returnBool_eq_ok {x : Except EscrowError (State T × Bool)} :
    returnBool x = .ok (s', r) ↔ ∃ b, x = .ok (s', b) ∧ r = .bool b :=
  map_return_eq_ok

/-- Whatever call succeeds, its rule applies. -/
theorem exec_effect {call : Call} (h : exec P env call s = .ok (s', r)) :
    Effect P env call s s' := by
  cases call <;>
    simp only [exec, returnVoid_eq_ok, returnUint256_eq_ok, returnBool_eq_ok] at h
  case pause => exact pause_effect h.1
  case pauseClaims => exact pauseClaims_effect h.1
  case pauseTrade => exact pauseTrade_effect h.1
  case proposeUnpause => exact proposeUnpause_effect h.choose_spec.1
  case approveUnpause => exact approveUnpause_effect h.1
  case cancelUnpauseProposal => exact cancelUnpauseProposal_effect h.1
  case disableOracleEmergency => exact disableOracleEmergency_effect h.1
  case createTradeWithAuthorization =>
    exact createTradeWithAuthorization_effect h.choose_spec.1
  case claimTreasury => exact claimTreasury_effect h.1
  case releaseFundsStage1 => exact releaseFundsStage1_effect h.1
  case confirmInspectionAvailable => exact confirmInspectionAvailable_effect h.1
  case openDisputeWithAuthorization => exact openDisputeWithAuthorization_effect h.1
  case finalizeAfterDisputeWindow => exact finalizeAfterDisputeWindow_effect h.1
  case finalizeAfterDisputeWindowWithAuthorization =>
    exact finalizeAfterDisputeWindowWithAuthorization_effect h.1
  case finalizeAfterInspectionAcceptanceWithAuthorization =>
    exact finalizeAfterInspectionAcceptanceWithAuthorization_effect h.1
  case cancelLockedTradeAfterTimeoutWithAuthorization =>
    exact cancelLockedTradeAfterTimeoutWithAuthorization_effect h.1
  case refundInTransitAfterTimeoutWithAuthorization =>
    exact refundInTransitAfterTimeoutWithAuthorization_effect h.1
  case proposeDisputeSolution => exact proposeDisputeSolution_effect h.choose_spec.1
  case approveDisputeSolution => exact approveDisputeSolution_effect h.1
  case cancelExpiredDisputeProposal => exact cancelExpiredDisputeProposal_effect h.1
  case proposeOracleUpdate => exact proposeOracleUpdate_effect h.choose_spec.1
  case approveOracleUpdate => exact approveOracleUpdate_effect h.1
  case executeOracleUpdate => exact executeOracleUpdate_effect h.1
  case cancelExpiredOracleUpdateProposal => exact cancelExpiredOracleUpdateProposal_effect h.1
  case proposeAdminChange => exact proposeAdminChange_effect h.choose_spec.1
  case approveAdminChange => exact approveAdminChange_effect h.1
  case executeAdminChange => exact executeAdminChange_effect h.1
  case cancelAdminChangeProposal => exact cancelAdminChangeProposal_effect h.1
  case proposeTreasuryPayoutAddressUpdate =>
    exact proposeTreasuryPayoutAddressUpdate_effect h.choose_spec.1
  case approveTreasuryPayoutAddressUpdate => exact approveTreasuryPayoutAddressUpdate_effect h.1
  case executeTreasuryPayoutAddressUpdate => exact executeTreasuryPayoutAddressUpdate_effect h.1
  case cancelExpiredTreasuryPayoutAddressUpdateProposal =>
    exact cancelExpiredTreasuryPayoutAddressUpdateProposal_effect h.1

end Cotsel.Escrow
