import Cotsel.Escrow.Proposals
import Cotsel.Escrow.Trade

/-!
# Dispute resolution

Admins decide a frozen trade by four-eyes approval.  A trade has at most one active proposal; an
expired or stale one is replaced by the next proposal or cancelled.
-/

namespace Cotsel.Escrow

open Ballot Guard

variable {T : Type} (P : Platform T) (env : Env)

/-- The writes that end the activity of the proposal of `tradeId`. -/
def DisputeStore.clearActive (d : DisputeStore) (tradeId : ℕ) : DisputeStore :=
  { d with
    tradeHasActiveDisputeProposal :=
      Function.update d.tradeHasActiveDisputeProposal tradeId false
    tradeActiveDisputeProposalId := Function.update d.tradeActiveDisputeProposalId tradeId 0 }

/-- The active proposal of `tradeId` is past its deadline or of another epoch. -/
def ActiveDisputeExpired (tradeId : ℕ) (s : State T) : Prop :=
  s.disputes.board.expiresAt (s.disputes.tradeActiveDisputeProposalId tradeId) < env.timestamp ∨
    (s.disputes.board.proposals (s.disputes.tradeActiveDisputeProposalId tradeId)).epoch ≠
      s.roles.governanceEpoch

instance (tradeId : ℕ) (s : State T) : Decidable (ActiveDisputeExpired env tradeId s) :=
  inferInstanceAs (Decidable (_ ∨ _))

/-- The part of `proposeDisputeSolution` that makes room for the new proposal. -/
def replaceDisputeProposal (tradeId : ℕ) (s : State T) : Except EscrowError (State T) :=
  if s.disputes.tradeHasActiveDisputeProposal tradeId = true then do
    let activeProposalId := s.disputes.tradeActiveDisputeProposalId tradeId
    require (ActiveDisputeExpired env tradeId s ∧
      s.disputes.board.cancelled activeProposalId = false) .activeProposalExists
    pure ({ s with
      disputes := { s.disputes with
        board := s.disputes.board.markCancelled activeProposalId }.clearActive tradeId }.emit
      (.disputeProposalExpiredCancelled activeProposalId tradeId env.sender))
  else pure s

def proposeDisputeSolution (tradeId : ℕ) (disputeStatus : DisputeStatus) (s : State T) :
    Except EscrowError (State T × ℕ) := do
  onlyAdmin env s
  whenNotPaused s
  requireTradeNotPaused s tradeId
  require (tradeId < s.book.tradeCounter) .tradeNotFound
  require ((s.book.trades tradeId).status = .frozen) .tradeNotFrozen
  let s ← replaceDisputeProposal env tradeId s
  let proposalId := s.disputes.board.counter
  let s := { s with
    disputes :=
      { board := s.disputes.board.propose disputeProposalTtl env.timestamp
          s.roles.governanceEpoch env.sender
          { tradeId := tradeId, disputeStatus := disputeStatus }
        tradeHasActiveDisputeProposal :=
          Function.update s.disputes.tradeHasActiveDisputeProposal tradeId true
        tradeActiveDisputeProposalId :=
          Function.update s.disputes.tradeActiveDisputeProposalId tradeId proposalId } }
  let s := s.emit (.disputeSolutionProposed proposalId tradeId disputeStatus env.sender)
  pure (s, proposalId)

/-- The branch of `_executeDispute` on the proposed outcome, with the recipient it pays. -/
def payDispute (tradeId : ℕ) (trade : Trade) (disputeStatus : DisputeStatus) (s : State T) :
    Except EscrowError (State T × Address) :=
  if disputeStatus = .refund then do
    let s ← transferBuyerRefund P env tradeId trade.buyerAddress trade.supplierSecondTranche
      .disputeRefundBuyer s
    pure (s, trade.buyerAddress)
  else if disputeStatus = .resolve then do
    let s ← transferSupplierPayout P env tradeId trade.supplierAddress
      trade.supplierSecondTranche .disputeResolveSupplier s
    pure (s, trade.supplierAddress)
  else .error .invalidDisputeStatus

def executeDispute (proposalId : ℕ) (s : State T) : Except EscrowError (State T) := do
  let proposal := s.disputes.board.proposals proposalId
  let tradeId := proposal.payload.tradeId
  require (proposal.executed = false) .alreadyExecuted
  require (s.disputes.board.cancelled proposalId = false) .proposalCancelled
  require (env.timestamp ≤ s.disputes.board.expiresAt proposalId) .proposalExpired
  require (proposal.epoch = s.roles.governanceEpoch) .staleGovernanceProposal
  require (s.roles.requiredApprovals ≤ proposal.approvalCount) .notEnoughApprovals
  let trade := s.book.trades tradeId
  require (trade.status = .frozen) .tradeMustBeFrozen
  let s := { s with
    disputes := { s.disputes with
      board := s.disputes.board.markExecuted proposalId }.clearActive tradeId
    book := (s.book.setStatus tradeId .closed).setInTransitSince tradeId 0 }
  let (s, recipient) ← payDispute P env tradeId trade proposal.payload.disputeStatus s
  let s := s.emit (.disputePayout tradeId proposalId recipient trade.supplierSecondTranche
    proposal.payload.disputeStatus)
  pure (s.emit (.disputeFinalized proposalId tradeId proposal.payload.disputeStatus))

def approveDisputeSolution (proposalId : ℕ) (s : State T) : Except EscrowError (State T) := do
  onlyAdmin env s
  whenNotPaused s
  let proposal ← requireActive env s.roles.governanceEpoch s.disputes.board proposalId
  requireTradeNotPaused s proposal.payload.tradeId
  require ((s.book.trades proposal.payload.tradeId).status = .frozen) .tradeNotFrozen
  require (s.disputes.board.hasApproved proposalId env.sender = false) .alreadyApproved
  let s := { s with
    disputes := { s.disputes with board := s.disputes.board.approve proposalId env.sender } }
  let s := s.emit (.disputeApproved proposalId env.sender (proposal.approvalCount + 1)
    s.roles.requiredApprovals)
  if s.roles.requiredApprovals ≤ proposal.approvalCount + 1 then
    executeDispute P env proposalId s
  else pure s

def cancelExpiredDisputeProposal (proposalId : ℕ) (s : State T) :
    Except EscrowError (State T) := do
  onlyAdmin env s
  whenNotPaused s
  require (proposalId < s.disputes.board.counter) .proposalNotFound
  requireExpired env s.disputes.board proposalId
  let tradeId := (s.disputes.board.proposals proposalId).payload.tradeId
  requireTradeNotPaused s tradeId
  let d : DisputeStore :=
    { s.disputes with board := s.disputes.board.markCancelled proposalId }
  let d : DisputeStore :=
    if d.tradeHasActiveDisputeProposal tradeId = true ∧
        d.tradeActiveDisputeProposalId tradeId = proposalId then d.clearActive tradeId
    else d
  pure ({ s with disputes := d }.emit
    (.disputeProposalExpiredCancelled proposalId tradeId env.sender))

end Cotsel.Escrow
