import Cotsel.Escrow.Invariant.Containment
import Cotsel.Escrow.Invariant.Timers

/-!
# No trade is stuck

From every state in which the contract is not paused, each open trade can be closed by calls of
admins alone, in blocks that are late enough: a locked trade and one in transit by the buyer's
signed timeout, an arrived one when its inspection window is over, a frozen one by a dispute
proposal with a quorum.  A paused trade is released first, again by a quorum.  The oracle is not
needed.

A proposal gathers its quorum one admin at a time; the measure is the number of approvals that are
missing (`Attains.of_measure`), and there is always an admin left who has not approved.
-/

namespace Cotsel.Escrow

open Ballot Guard Runs

variable {T : Type} {P : Platform T} {c c' : Config T} {s : State T} {t : ℕ}

/-! ### What admins can do -/

/-- The step is a call of an admin, who is not the oracle. -/
def ByAdmin (x : ChainStep T) : Prop :=
  ∃ env call, x.label = .call env call ∧ x.source.state.roles.isAdmin env.sender = true ∧
    env.sender ≠ x.source.state.roles.oracleAddress

theorem step_of_succeeds (hreach : Reachable P c) {env : Env} {call : Call}
    (htime : c.clock ≤ env.timestamp) (hadmin : c.state.roles.isAdmin env.sender = true)
    (h : Succeeds (exec P env call c.state)) :
    ∃ s', Step P c (.call env call) ⟨s', env.timestamp⟩ ∧ Effect P env call c.state s' ∧
      ByAdmin ⟨c, .call env call, ⟨s', env.timestamp⟩⟩ := by
  obtain ⟨⟨s', _⟩, hexec⟩ := h
  have hne := (hreach.rolesInv.roles.separated.admins env.sender hadmin).1
  exact ⟨s', .call htime hexec, exec_effect hexec, env, call, rfl, hadmin, hne⟩

theorem Reachable.exists_admin (hreach : Reachable P c) :
    ∃ x, c.state.roles.isAdmin x = true := by
  have hroles := hreach.rolesInv.roles
  have hpos : 0 < c.state.roles.admins.length := Nat.lt_of_le_of_lt (Nat.zero_le _) hroles.enough
  exact ⟨_, (hroles.list.isAdmin_iff _).mpr (List.getElem_mem hpos)⟩

/-- As long as the quorum is not reached, some admin has not voted. -/
theorem Reachable.exists_voter (hreach : Reachable P c) {f : Address → Bool} {n : ℕ}
    (htally : Tally f n) (hfew : n < c.state.roles.requiredApprovals) :
    ∃ x, c.state.roles.isAdmin x = true ∧ f x = false := by
  have hroles := hreach.rolesInv.roles
  obtain ⟨x, hx, hnew⟩ :=
    htally.exists_eq_false hroles.list.nodup (hfew.trans hroles.enough)
  exact ⟨x, (hroles.list.isAdmin_iff x).mpr hx, hnew⟩

theorem exists_authorization (hsign : P.SignersCanSign) {user : Address} (hne : user ≠ 0)
    (hkey : ∃ digest signature, P.recover digest signature = some user) (env : Env)
    (action : SponsoredAction) (t : ℕ) (s : State T) :
    ∃ auth, AuthorizedAction P env user action t auth s := by
  obtain ⟨signature, hsigned⟩ := hsign user hkey (hashTypedDataV4 P (P.keccak256
    (.userActionAuthorization user action t (s.authorizationNonces user) env.timestamp)) s)
  exact ⟨⟨s.authorizationNonces user, env.timestamp, signature⟩, hne, le_rfl, rfl, hsigned⟩

theorem exists_pays (htransfer : P.TransfersCovered) {usdc : T} {recipient : Address}
    {amount : ℕ} (hne : recipient ≠ 0) (hle : amount ≤ P.escrowBalance usdc) :
    ∃ usdc', Pays P usdc recipient amount usdc' := by
  unfold Pays
  split_ifs with hzero
  · exact ⟨usdc, rfl⟩
  · exact htransfer usdc recipient amount hne hle

/-! ### Releasing a paused trade -/

/-- The unpause of trade `t` is under way, and the trades are those of `b`. -/
structure UnpausePending (P : Platform T) (t : ℕ) (b : TradeStore) (c : Config T) : Prop where
  reach : TimedReachable P c
  book : c.state.book = b
  paused : c.state.pausing.paused = false
  tradePaused : c.state.pausing.tradePaused t = true
  active : c.state.unpausing.hasActiveUnpauseProposal = true
  notExecuted : c.state.unpausing.unpauseProposal.executed = false
  current : c.state.unpausing.unpauseProposal.epoch = c.state.roles.governanceEpoch
  scope : c.state.unpausing.unpauseProposal.payload.scope = .trade
  trade : c.state.unpausing.unpauseProposal.payload.tradeId = t
  few : c.state.unpausing.unpauseProposal.approvalCount < c.state.roles.requiredApprovals

/-- Neither the contract nor trade `t` is paused, and the trades are those of `b`. -/
structure Released (P : Platform T) (t : ℕ) (b : TradeStore) (c : Config T) : Prop where
  reach : TimedReachable P c
  book : c.state.book = b
  paused : c.state.pausing.paused = false
  tradePaused : c.state.pausing.tradePaused t = false

/-- One more approval lifts the pause, or leaves one approval less to be found. -/
theorem UnpausePending.vote {b : TradeStore} (h : UnpausePending P t b c) :
    ∃ l c', Step P c l c' ∧ ByAdmin ⟨c, l, c'⟩ ∧ (Released P t b c' ∨
      (UnpausePending P t b c' ∧ c'.state.roles.requiredApprovals -
          c'.state.unpausing.unpauseProposal.approvalCount <
        c.state.roles.requiredApprovals - c.state.unpausing.unpauseProposal.approvalCount)) := by
  have hreach := h.reach.reachable
  have htally := hreach.unpauseOk.tally h.active h.current
  obtain ⟨x, hadmin, hnew⟩ := hreach.exists_voter htally h.few
  have hscope : ScopePaused c.state.unpausing.unpauseProposal.payload.scope
      c.state.unpausing.unpauseProposal.payload.tradeId c.state := by
    rw [h.scope, h.trade]
    exact ⟨hreach.pausedNumbered t h.tradePaused, h.tradePaused⟩
  have hcall : Succeeds (exec P ⟨x, c.clock⟩ .approveUnpause c.state) :=
    succeeds_approveUnpause.mpr ⟨hadmin, h.active, h.notExecuted, h.current, hscope, hnew⟩
  obtain ⟨_, hstep, heffect, hby⟩ := step_of_succeeds hreach le_rfl hadmin hcall
  refine ⟨_, _, hstep, hby, ?_⟩
  have hreach' := h.reach.step hstep
  cases heffect with
  | approveUnpause _ _ _ _ _ _ hfew =>
    right
    refine ⟨⟨hreach', h.book, h.paused, h.tradePaused, h.active, h.notExecuted, h.current,
      h.scope, h.trade, hfew⟩, ?_⟩
    show c.state.roles.requiredApprovals -
      (c.state.unpausing.unpauseProposal.approvalCount + 1) < _
    omega
  | executeUnpause =>
    left
    refine ⟨hreach', h.book, ?_, ?_⟩
    · show (c.state.pausing.lift c.state.unpausing.unpauseProposal.payload).paused = false
      rw [PauseStore.lift, h.scope]
      exact h.paused
    · show (c.state.pausing.lift c.state.unpausing.unpauseProposal.payload).tradePaused t = false
      rw [PauseStore.lift, h.scope, h.trade]
      exact Function.update_self ..

/-- A trade can be released: the proposal is made when any older one has expired. -/
theorem attains_released (hreach : TimedReachable P c) (hpaused : c.state.pausing.paused = false) :
    Attains (Step P) ByAdmin (Released P t c.state.book) c := by
  cases htrade : c.state.pausing.tradePaused t with
  | false => exact .now ⟨hreach, rfl, hpaused, htrade⟩
  | true =>
    obtain ⟨x, hadmin⟩ := hreach.reachable.exists_admin
    have htwo := hreach.reachable.rolesInv.roles.two_le
    let now := max c.clock
      (c.state.unpausing.unpauseProposal.createdAt + governanceProposalTtl + 1)
    have hlate : c.state.unpausing.unpauseProposal.createdAt + governanceProposalTtl < now :=
      lt_of_lt_of_le (Nat.lt_succ_self _) (le_max_right _ _)
    have hcall : Succeeds (exec P ⟨x, now⟩ (.proposeUnpause .trade t 1) c.state) :=
      succeeds_proposeUnpause.mpr ⟨hadmin, by decide,
        ⟨hreach.reachable.pausedNumbered t htrade, htrade⟩, fun _ => Or.inr hlate⟩
    obtain ⟨s', hstep, heffect, hby⟩ :=
      step_of_succeeds hreach.reachable (le_max_left _ _) hadmin hcall
    have hpending : UnpausePending P t c.state.book ⟨s', now⟩ := by
      have hreach' := hreach.step hstep
      cases heffect with
      | proposeUnpause | replaceUnpause =>
        exact ⟨hreach', rfl, hpaused, htrade, rfl, rfl, rfl, rfl, rfl, htwo⟩
    have hproposed : Attains (Step P) ByAdmin (UnpausePending P t c.state.book) c :=
      .of_step hstep hby hpending
    exact hproposed.trans fun d hd => .of_measure
      (fun d => d.state.roles.requiredApprovals - d.state.unpausing.unpauseProposal.approvalCount)
      (fun d hd => hd.vote) hd

/-! ### Closing a trade -/

def IsClosed (t : ℕ) (c : Config T) : Prop := (c.state.book.trades t).status = .closed

theorem attains_closed_of_succeeds (hreach : Reachable P c) {env : Env} {call : Call}
    (htime : c.clock ≤ env.timestamp) (hadmin : c.state.roles.isAdmin env.sender = true)
    (h : Succeeds (exec P env call c.state))
    (hcloses : ∀ s', Effect P env call c.state s' → (s'.book.trades t).status = .closed) :
    Attains (Step P) ByAdmin (IsClosed t) c := by
  obtain ⟨s', hstep, heffect, hby⟩ := step_of_succeeds hreach htime hadmin h
  exact .of_step hstep hby (hcloses s' heffect)

theorem setStatus_status {b : TradeStore} {status : TradeStatus} :
    ((b.setStatus t status).trades t).status = status := by
  simp [TradeStore.setStatus]

section

variable {b : TradeStore} (htransfer : P.TransfersCovered) (h : Released P t b c)
  (hid : t < c.state.book.tradeCounter)

include htransfer h hid

/-- Seven days after its creation the buyer cancels a locked trade. -/
theorem Released.attains_closed_of_locked (hsign : P.SignersCanSign)
    (hstatus : (c.state.book.trades t).status = .locked) :
    Attains (Step P) ByAdmin (IsClosed t) c := by
  have hreach := h.reach.reachable
  have htrade := hreach.solvent.book.trade t hid
  obtain ⟨x, hadmin⟩ := hreach.exists_admin
  let now := max c.clock ((c.state.book.trades t).createdAt + lockTimeout + 1)
  have hlate : (c.state.book.trades t).createdAt + lockTimeout < now :=
    lt_of_lt_of_le (Nat.lt_succ_self _) (le_max_right _ _)
  obtain ⟨_, hauth⟩ := exists_authorization hsign htrade.buyer_ne_zero htrade.buyer_signs
    ⟨x, now⟩ .cancelLockedTimeout t c.state
  have hpays := exists_pays htransfer htrade.buyer_ne_zero
    (hreach.solvent.milestone_covered (m := .closing .lockTimeout) hstatus)
  refine attains_closed_of_succeeds hreach (le_max_left _ _) hadmin
    (succeeds_cancelLockedTrade.mpr ⟨Or.inl hadmin, h.paused, h.tradePaused, hid, hauth, hstatus,
      hlate, hpays⟩) ?_
  intro _ heffect
  cases heffect
  exact setStatus_status

/-- Fourteen days after the first stage the buyer is refunded. -/
theorem Released.attains_closed_of_inTransit (hsign : P.SignersCanSign)
    (hstatus : (c.state.book.trades t).status = .inTransit) :
    Attains (Step P) ByAdmin (IsClosed t) c := by
  have hreach := h.reach.reachable
  have htrade := hreach.solvent.book.trade t hid
  obtain ⟨x, hadmin⟩ := hreach.exists_admin
  have hsince := ((h.reach.timed t).inTransit hstatus).1
  let now := max c.clock (c.state.book.inTransitSince t + inTransitTimeout + 1)
  have hlate : c.state.book.inTransitSince t + inTransitTimeout < now :=
    lt_of_lt_of_le (Nat.lt_succ_self _) (le_max_right _ _)
  obtain ⟨_, hauth⟩ := exists_authorization hsign htrade.buyer_ne_zero htrade.buyer_signs
    ⟨x, now⟩ .refundInTransitTimeout t c.state
  have hpays := exists_pays htransfer htrade.buyer_ne_zero
    (hreach.solvent.milestone_covered (m := .closing .transitTimeout) hstatus)
  refine attains_closed_of_succeeds hreach (le_max_left _ _) hadmin
    (succeeds_refundInTransit.mpr ⟨Or.inl hadmin, h.paused, h.tradePaused, hid, hauth, hstatus,
      hsince, hlate, hpays⟩) ?_
  intro _ heffect
  cases heffect
  exact setStatus_status

/-- When the inspection window is over the supplier gets the second tranche. -/
theorem Released.attains_closed_of_arrivalConfirmed
    (hstatus : (c.state.book.trades t).status = .arrivalConfirmed) :
    Attains (Step P) ByAdmin (IsClosed t) c := by
  have hreach := h.reach.reachable
  have htrade := hreach.solvent.book.trade t hid
  obtain ⟨x, hadmin⟩ := hreach.exists_admin
  have hadmin_ne := (hreach.rolesInv.roles.separated.admins x hadmin).1
  have harrival := ((h.reach.timed t).arrived (Or.inl hstatus)).1
  let deadline := (c.state.book.trades t).arrivalTimestamp + inspectionWindow t c.state
  have hlate : deadline < max c.clock (deadline + 1) :=
    lt_of_lt_of_le (Nat.lt_succ_self _) (le_max_right _ _)
  have hpays := exists_pays htransfer htrade.supplier_ne_zero
    (hreach.solvent.milestone_covered (m := .closing .finalTranche) hstatus)
  have hsucceeds : Succeeds (exec P ⟨x, max c.clock (deadline + 1)⟩
      (.finalizeAfterDisputeWindow t) c.state) :=
    succeeds_finalizeAfterDisputeWindow.mpr ⟨Or.inr hadmin, fun heq => absurd heq hadmin_ne,
      h.paused, h.tradePaused, hid, hstatus, harrival, hlate, hpays⟩
  refine attains_closed_of_succeeds hreach (le_max_left _ _) hadmin hsucceeds ?_
  intro _ heffect
  cases heffect
  exact setStatus_status

end

/-- Dispute proposal `id` for trade `t` gathers approvals. -/
structure DisputePending (P : Platform T) (t id : ℕ) (c : Config T) : Prop where
  reach : TimedReachable P c
  paused : c.state.pausing.paused = false
  tradePaused : c.state.pausing.tradePaused t = false
  frozen : (c.state.book.trades t).status = .frozen
  active : IsActive ⟨0, c.clock⟩ c.state.roles.governanceEpoch c.state.disputes.board id
  trade : (c.state.disputes.board.proposals id).payload.tradeId = t
  few : (c.state.disputes.board.proposals id).approvalCount < c.state.roles.requiredApprovals

/-- One more approval closes the trade, or leaves one approval less to be found. -/
theorem DisputePending.vote (htransfer : P.TransfersCovered) {id : ℕ}
    (h : DisputePending P t id c) :
    ∃ l c', Step P c l c' ∧ ByAdmin ⟨c, l, c'⟩ ∧ (IsClosed t c' ∨
      (DisputePending P t id c' ∧ c'.state.roles.requiredApprovals -
          (c'.state.disputes.board.proposals id).approvalCount <
        c.state.roles.requiredApprovals -
          (c.state.disputes.board.proposals id).approvalCount)) := by
  have hreach := h.reach.reachable
  have htally := hreach.boardsOk.disputes.wellFormed.tally id h.active.numbered
  obtain ⟨x, hadmin, hnew⟩ := hreach.exists_voter htally h.few
  have hactive : IsActive ⟨x, c.clock⟩ c.state.roles.governanceEpoch c.state.disputes.board id :=
    ⟨h.active.1, h.active.2, h.active.3, h.active.4, h.active.5, h.active.6⟩
  have hid := hreach.solvent.book.blank.lt fun hlocked => by
    rw [h.frozen] at hlocked
    cases hlocked
  have hpays : ∃ usdc, Pays P c.state.usdc
      ((c.state.disputes.board.proposals id).payload.disputeStatus.recipient
        (c.state.book.trades t)) (c.state.book.trades t).supplierSecondTranche usdc := by
    have htrade := hreach.solvent.book.trade t hid
    refine exists_pays htransfer ?_
      (hreach.solvent.milestone_covered (m := .closing .disputeRefund) h.frozen)
    cases (c.state.disputes.board.proposals id).payload.disputeStatus with
    | refund => exact htrade.buyer_ne_zero
    | resolve => exact htrade.supplier_ne_zero
  have hcall : Succeeds (exec P ⟨x, c.clock⟩ (.approveDisputeSolution id) c.state) := by
    rw [succeeds_approveDisputeSolution, h.trade]
    exact ⟨hadmin, h.paused, hactive, h.tradePaused, h.frozen, hnew, fun _ => hpays⟩
  obtain ⟨_, hstep, heffect, hby⟩ := step_of_succeeds hreach le_rfl hadmin hcall
  refine ⟨_, _, hstep, hby, ?_⟩
  have hreach' := h.reach.step hstep
  cases heffect with
  | approveDispute _ _ _ _ _ _ hfew =>
    right
    have hcount := Board.approve_approvalCount c.state.disputes.board id x
    refine ⟨⟨hreach', h.paused, h.tradePaused, h.frozen, ?_, ?_, ?_⟩, ?_⟩
    · have hnot := h.active.notExecuted
      have hcur := h.active.current
      have hinit := h.active.initialized
      exact ⟨h.active.numbered, by simpa [Board.approve] using hinit,
        by simpa [Board.approve] using hnot, h.active.notCancelled, h.active.timely,
        by simpa [Board.approve] using hcur⟩
    · show ((c.state.disputes.board.approve id x).proposals id).payload.tradeId = t
      rw [Board.payload_approve]
      exact h.trade
    · show ((c.state.disputes.board.approve id x).proposals id).approvalCount < _
      rw [hcount]
      exact hfew
    · show c.state.roles.requiredApprovals -
        ((c.state.disputes.board.approve id x).proposals id).approvalCount < _
      omega
  | @executeDispute _ _ u _ _ _ _ _ hpayload =>
    left
    have hu : u = t := by
      have htr := h.trade
      rw [hpayload] at htr
      exact htr
    rw [IsClosed, hu]
    exact setStatus_status

/-- A proposal made when the active one, if any, has expired. -/
theorem Released.attains_closed_of_frozen {b : TradeStore} (htransfer : P.TransfersCovered)
    (h : Released P t b c) (hfrozen : (c.state.book.trades t).status = .frozen) :
    Attains (Step P) ByAdmin (IsClosed t) c := by
  have hreach := h.reach.reachable
  obtain ⟨x, hadmin⟩ := hreach.exists_admin
  have htwo : 1 < c.state.roles.requiredApprovals := hreach.rolesInv.roles.two_le
  have hfresh := (hreach.boardsOk.disputes.wellFormed.fresh _ le_rfl).2.1
  let active := c.state.disputes.tradeActiveDisputeProposalId t
  let now := max c.clock (c.state.disputes.board.expiresAt active + 1)
  have hnow : 0 < now := lt_of_lt_of_le h.reach.clock_pos (le_max_left _ _)
  have hlate : c.state.disputes.board.expiresAt active < now :=
    lt_of_lt_of_le (Nat.lt_succ_self _) (le_max_right _ _)
  have hcall : Succeeds (exec P ⟨x, now⟩ (.proposeDisputeSolution t .refund) c.state) :=
    (hreach.succeeds_propose_iff hfrozen h.paused h.tradePaused hadmin .refund).mpr
      (Or.inr (Or.inl hlate))
  obtain ⟨s', hstep, heffect, hby⟩ := step_of_succeeds hreach (le_max_left _ _) hadmin hcall
  have hpending : DisputePending P t c.state.disputes.board.counter ⟨s', now⟩ := by
    have hreach' := h.reach.step hstep
    cases heffect with
    | proposeDispute =>
      refine ⟨hreach', h.paused, h.tradePaused, hfrozen, ⟨Nat.lt_succ_self _, ?_, ?_, hfresh, ?_,
        ?_⟩, ?_, ?_⟩
      · simpa [Board.propose] using hnow
      · simp [Board.propose]
      · simp [Board.propose]
      · simp [Board.propose]
      · simp [Board.propose]
      · simpa [Board.propose] using htwo
    | replaceDispute _ _ _ _ _ hsome =>
      have hne := (hreach.coherent.active t hsome).1.1.ne'
      refine ⟨hreach', h.paused, h.tradePaused, hfrozen, ⟨Nat.lt_succ_self _, ?_, ?_, ?_, ?_, ?_⟩,
        ?_, ?_⟩
      · simpa [Board.propose] using hnow
      · simp [Board.propose]
      · simpa [Board.markCancelled, hne] using hfresh
      · simp [Board.propose]
      · simp [Board.propose]
      · simp [Board.propose]
      · simpa [Board.propose] using htwo
  have hproposed : Attains (Step P) ByAdmin
      (DisputePending P t c.state.disputes.board.counter) c := .of_step hstep hby hpending
  exact hproposed.trans fun d hd => .of_measure
    (fun d => d.state.roles.requiredApprovals -
      (d.state.disputes.board.proposals c.state.disputes.board.counter).approvalCount)
    (fun d hd => hd.vote htransfer) hd

theorem TimedReachable.attains_closed (hreach : TimedReachable P c)
    (hsign : P.SignersCanSign) (htransfer : P.TransfersCovered)
    (hpaused : c.state.pausing.paused = false) (hid : t < c.state.book.tradeCounter) :
    Attains (Step P) ByAdmin (IsClosed t) c := by
  refine (attains_released (t := t) hreach hpaused).trans fun d hd => ?_
  have hid' : t < d.state.book.tradeCounter := hd.book ▸ hid
  cases hstatus : (d.state.book.trades t).status with
  | locked => exact hd.attains_closed_of_locked htransfer hid' hsign hstatus
  | inTransit => exact hd.attains_closed_of_inTransit htransfer hid' hsign hstatus
  | arrivalConfirmed => exact hd.attains_closed_of_arrivalConfirmed htransfer hid' hstatus
  | frozen => exact hd.attains_closed_of_frozen htransfer hstatus
  | closed => exact .now hstatus

/-! ### The end of the inspection window -/

/-- The buyer may open a dispute at time `now`: somebody can relay a request with the buyer's
signature. -/
def MayOpenDispute (P : Platform T) (t now : ℕ) (s : State T) : Prop :=
  ∃ sender auth, Succeeds (exec P ⟨sender, now⟩ (.openDisputeWithAuthorization t auth) s)

/-- The final tranche may be released at time `now` because the window is over: by the oracle or
an admin, or on the supplier's signed request. -/
def MayReleaseByExpiry (P : Platform T) (t now : ℕ) (s : State T) : Prop :=
  (∃ sender, Succeeds (exec P ⟨sender, now⟩ (.finalizeAfterDisputeWindow t) s)) ∨
    ∃ sender auth,
      Succeeds (exec P ⟨sender, now⟩ (.finalizeAfterDisputeWindowWithAuthorization t auth) s)

/-- The state `s` with the pauses of the contract and of trade `t` off. -/
def State.unpausedFor (t : ℕ) (s : State T) : State T :=
  { s.resume t with pausing := { (s.resume t).pausing with paused := false } }

theorem State.unpausedFor_tradePaused : (s.unpausedFor t).pausing.tradePaused t = false :=
  Function.update_self ..

theorem State.unpausedFor_eq (hpaused : s.pausing.paused = false)
    (htrade : s.pausing.tradePaused t = false) : s.unpausedFor t = s := by
  have hsame : Function.update s.pausing.tradePaused t false = s.pausing.tradePaused := by
    rw [← htrade]
    exact Function.update_eq_self ..
  show { s with pausing := ⟨false, s.pausing.claimsPaused,
    Function.update s.pausing.tradePaused t false⟩ } = s
  rw [hsame, ← hpaused]

/-- Up to the deadline a dispute may be opened, after it the tranche may be released. -/
theorem TimedReachable.dispute_xor_release (hreach : TimedReachable P c)
    (hsign : P.SignersCanSign) (htransfer : P.TransfersCovered)
    (hstatus : (c.state.book.trades t).status = .arrivalConfirmed) (now : ℕ) :
    Xor (MayOpenDispute P t now (c.state.unpausedFor t))
      (MayReleaseByExpiry P t now (c.state.unpausedFor t)) := by
  have hr := hreach.reachable
  have hid := hr.solvent.book.blank.lt fun hlocked => by
    rw [hstatus] at hlocked
    cases hlocked
  have htrade := hr.solvent.book.trade t hid
  have harrival := ((hreach.timed t).arrived (Or.inl hstatus)).1
  obtain ⟨x, hadmin⟩ := hr.exists_admin
  have hpauses := State.unpausedFor_tradePaused (s := c.state) (t := t)
  let deadline := (c.state.book.trades t).arrivalTimestamp + inspectionWindow t c.state
  by_cases hopen : now ≤ deadline
  · left
    constructor
    · obtain ⟨auth, hauth⟩ := exists_authorization hsign htrade.buyer_ne_zero htrade.buyer_signs
        ⟨x, now⟩ .openDispute t (c.state.unpausedFor t)
      exact ⟨x, auth, succeeds_openDispute.mpr
        ⟨Or.inl hadmin, rfl, hpauses, hid, hauth, hstatus, harrival, hopen⟩⟩
    · rintro (⟨y, hy⟩ | ⟨y, auth, hy⟩)
      · obtain ⟨-, -, -, -, -, -, -, hlate, -⟩ := succeeds_finalizeAfterDisputeWindow.mp hy
        exact absurd hlate (Nat.not_lt.mpr hopen)
      · obtain ⟨-, -, -, -, -, -, -, hlate, -⟩ :=
          succeeds_finalizeAfterDisputeWindowWithAuthorization.mp hy
        exact absurd hlate (Nat.not_lt.mpr hopen)
  · right
    have hlate : deadline < now := Nat.lt_of_not_le hopen
    constructor
    · have hne := (hr.rolesInv.roles.separated.admins x hadmin).1
      have hpays := exists_pays htransfer htrade.supplier_ne_zero
        (hr.solvent.milestone_covered (m := .closing .finalTranche) hstatus)
      exact Or.inl ⟨x, succeeds_finalizeAfterDisputeWindow.mpr ⟨Or.inr hadmin,
        fun heq => absurd heq hne, rfl, hpauses, hid, hstatus, harrival, hlate, hpays⟩⟩
    · rintro ⟨_, _, hy⟩
      obtain ⟨-, -, -, -, -, -, -, hearly⟩ := succeeds_openDispute.mp hy
      exact absurd hearly (Nat.not_le.mpr hlate)

/-! ### No stuck trade -/

/-- In every reachable state the timers of a trade are those of its status, so no call reports a
missing timer or an unknown outcome.  For an arrived trade, pauses apart, exactly one of opening a
dispute and releasing the final tranche is enabled at any time.  And while the contract is not
paused every open trade can be closed by calls of admins, none of them the oracle. -/
theorem no_stuck_trade (hreach : TimedReachable P c) (t : ℕ) :
    ((c.state.book.trades t).status = .inTransit →
        0 < c.state.book.inTransitSince t ∧ (c.state.book.trades t).arrivalTimestamp = 0) ∧
      ((c.state.book.trades t).status = .arrivalConfirmed ∨
          (c.state.book.trades t).status = .frozen →
        0 < (c.state.book.trades t).arrivalTimestamp ∧
          (c.state.book.inspectionWindowSeconds t = 48 * 3600 ∨
            c.state.book.inspectionWindowSeconds t = 72 * 3600)) ∧
      (∀ env call, ∀ e ∈ [EscrowError.arrivalNotSet, .inTransitTimestampNotSet,
        .inspectionNotAvailable, .invalidDisputeStatus], exec P env call c.state ≠ .error e) ∧
      (P.SignersCanSign → P.TransfersCovered →
        ((c.state.book.trades t).status = .arrivalConfirmed → ∀ now,
          Xor (MayOpenDispute P t now (c.state.unpausedFor t))
            (MayReleaseByExpiry P t now (c.state.unpausedFor t))) ∧
        (c.state.pausing.paused = false → c.state.pausing.tradePaused t = false →
          c.state.unpausedFor t = c.state) ∧
        (c.state.pausing.paused = false → t < c.state.book.tradeCounter →
          (c.state.book.trades t).status ≠ .closed →
          Attains (Step P) ByAdmin (IsClosed t) c)) := by
  refine ⟨(hreach.timed t).inTransit, (hreach.timed t).arrived,
    fun env call e he => hreach.not_raised env call he, fun hsign htransfer => ⟨?_, ?_, ?_⟩⟩
  · exact fun hstatus now => hreach.dispute_xor_release hsign htransfer hstatus now
  · exact fun hpaused htrade => State.unpausedFor_eq hpaused htrade
  · exact fun hpaused hid _ => hreach.attains_closed hsign htransfer hpaused hid

/-- The dispute over trade 0 of the sample deployment can be brought to an end. -/
theorem no_stuck_trade_sample : ∃ c : Config MockUsdc, TimedReachable (mockPlatform 100) c ∧
    (c.state.book.trades 0).status = .frozen ∧
    Attains (Step (mockPlatform 100)) ByAdmin (IsClosed 0) c := by
  have hsim : (sampleRunWhere (fun _ _ _ => true)
      [(⟨4, 20⟩, .createTradeWithAuthorization sampleTrade), (⟨2, 30⟩, .releaseFundsStage1 0),
        (⟨2, 30⟩, .confirmInspectionAvailable 0 172800),
        (⟨4, 40⟩, .openDisputeWithAuthorization 0 ⟨1, 1000, List.replicate 8 0⟩)]).any
      (fun c => decide ((c.state.book.trades 0).status = .frozen ∧
        c.state.pausing.paused = false ∧ 0 < c.state.book.tradeCounter)) = true := by
    decide +kernel
  obtain ⟨c₀, tr, c, hdep, hrun, -, -, hc⟩ := exists_run_sampleRun hsim
  obtain ⟨hfrozen, hpaused, hid⟩ := of_decide_eq_true hc
  have hpos : 0 < c₀.clock := by
    rw [hdep.2]
    decide
  have hreach : TimedReachable (mockPlatform 100) c := ⟨c₀, tr, hdep.deployed, hpos, hrun⟩
  obtain ⟨-, -, -, hlive⟩ := no_stuck_trade hreach 0
  obtain ⟨-, -, hclose⟩ := hlive (mockPlatform_signersCanSign 100)
    (mockPlatform_transfersCovered (by decide))
  exact ⟨c, hreach, hfrozen, hclose hpaused hid (by rw [hfrozen]; nofun)⟩

end Cotsel.Escrow
