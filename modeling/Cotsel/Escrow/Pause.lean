import Cotsel.Escrow.State

/-!
# Pausing and unpausing

Any admin pauses at once; lifting a pause takes a quorum through the single unpause proposal.
`approveUnpause` runs the proposal as soon as it has enough approvals.
-/

namespace Cotsel.Escrow

open Ballot Guard

variable {T : Type} (P : Platform T) (env : Env)

/-- `_pause()` of `Pausable`. -/
def pausablePause (s : State T) : Except EscrowError (State T) := do
  whenNotPaused s
  pure ({ s with pausing := { s.pausing with paused := P.pause s.pausing.paused } }.emit
    (.paused env.sender))

/-- `_unpause()` of `Pausable`, with the error of the overridden `_requirePaused`. -/
def pausableUnpause (s : State T) : Except EscrowError (State T) := do
  require (s.pausing.paused = true) .notPaused
  pure ({ s with pausing := { s.pausing with paused := P.unpause s.pausing.paused } }.emit
    (.unpaused env.sender))

def pause (s : State T) : Except EscrowError (State T) := do
  onlyAdmin env s
  require (s.pausing.paused = false) .alreadyPaused
  pausablePause P env s

def pauseClaims (s : State T) : Except EscrowError (State T) := do
  onlyAdmin env s
  require (s.pausing.claimsPaused = false) .claimsAlreadyPaused
  pure ({ s with pausing := { s.pausing with claimsPaused := true } }.emit
    (.claimsPaused env.sender))

def pauseTrade (tradeId : ℕ) (s : State T) : Except EscrowError (State T) := do
  onlyAdmin env s
  require (tradeId < s.book.tradeCounter) .tradeNotFound
  require (s.pausing.tradePaused tradeId = false) .tradeAlreadyPaused
  pure ({ s with
    pausing := { s.pausing with
      tradePaused := Function.update s.pausing.tradePaused tradeId true } }.emit
    (.tradePaused tradeId env.sender))

def validatePausedScope (scope : PauseScope) (tradeId : ℕ) (s : State T) :
    Except EscrowError Unit :=
  match scope with
  | .global => do
    require (s.pausing.paused = true) .notPaused
    require (s.roles.oracleActive = true) .oracleDisabled
  | .claims => require (s.pausing.claimsPaused = true) .claimsNotPaused
  | .trade => do
    require (tradeId < s.book.tradeCounter) .tradeNotFound
    require (s.pausing.tradePaused tradeId = true) .tradeNotPaused

/-- The loop `unpauseHasApproved[adminList[i]] = false`. -/
def clearApprovals (admins : List Address) (hasApproved : Address → Bool) : Address → Bool :=
  admins.foldl (fun f admin => Function.update f admin false) hasApproved

/-- The unpause proposal is of another epoch or older than its time to live. -/
def UnpauseStaleOrExpired (s : State T) : Prop :=
  s.unpausing.unpauseProposal.epoch ≠ s.roles.governanceEpoch ∨
    s.unpausing.unpauseProposal.createdAt + governanceProposalTtl < env.timestamp

instance (s : State T) : Decidable (UnpauseStaleOrExpired env s) :=
  inferInstanceAs (Decidable (_ ∨ _))

/-- `_cancelUnpauseProposal`. -/
def cancelUnpauseProposalCore (s : State T) : State T :=
  { s with
    unpausing :=
      { unpauseProposal := default
        unpauseHasApproved := clearApprovals s.roles.admins s.unpausing.unpauseHasApproved
        hasActiveUnpauseProposal := false } }.emit (.unpauseProposalCancelled env.sender)

/-- The part of `proposeUnpause` that makes room for the new proposal. -/
def replaceUnpauseProposal (s : State T) : Except EscrowError (State T) :=
  if s.unpausing.hasActiveUnpauseProposal = true then do
    require (UnpauseStaleOrExpired env s) .activeProposalExists
    pure (cancelUnpauseProposalCore env s)
  else pure s

def proposeUnpause (scope : PauseScope) (tradeId : ℕ) (incidentRef : Bytes32) (s : State T) :
    Except EscrowError (State T × Bool) := do
  onlyAdmin env s
  require (incidentRef ≠ 0) .invalidIncidentReference
  validatePausedScope scope tradeId s
  let s ← replaceUnpauseProposal env s
  let s := { s with
    unpausing :=
      { unpauseProposal :=
          { payload := { scope := scope, tradeId := tradeId, incidentRef := incidentRef }
            approvalCount := 1
            executed := false
            createdAt := env.timestamp
            proposer := env.sender
            epoch := s.roles.governanceEpoch }
        unpauseHasApproved := Function.update s.unpausing.unpauseHasApproved env.sender true
        hasActiveUnpauseProposal := true } }
  let s := s.emit (.unpauseProposed env.sender scope tradeId incidentRef s.roles.governanceEpoch)
  let s := s.emit (.unpauseApproved env.sender 1 (governanceApprovals s))
  pure (s, true)

/-- The branch of `_executeUnpause` on the scope of the proposal. -/
def liftPause (terms : UnpauseTerms) (s : State T) : Except EscrowError (State T) :=
  match terms.scope with
  | .global => pausableUnpause P env s
  | .claims =>
    pure ({ s with pausing := { s.pausing with claimsPaused := false } }.emit
      (.claimsUnpaused env.sender))
  | .trade =>
    pure ({ s with
      pausing := { s.pausing with
        tradePaused := Function.update s.pausing.tradePaused terms.tradeId false } }.emit
      (.tradeUnpaused terms.tradeId env.sender))

def executeUnpause (s : State T) : Except EscrowError (State T) := do
  require (s.unpausing.unpauseProposal.executed = false) .alreadyExecuted
  require (s.unpausing.unpauseProposal.epoch = s.roles.governanceEpoch) .staleGovernanceProposal
  require (governanceApprovals s ≤ s.unpausing.unpauseProposal.approvalCount) .notEnoughApprovals
  let s ← liftPause P env s.unpausing.unpauseProposal.payload { s with
    unpausing := { s.unpausing with
      unpauseProposal := { s.unpausing.unpauseProposal with executed := true }
      hasActiveUnpauseProposal := false } }
  pure { s with
    unpausing := { s.unpausing with
      unpauseHasApproved := clearApprovals s.roles.admins s.unpausing.unpauseHasApproved } }

/-- The approval that `approveUnpause` records before it counts. -/
def recordUnpauseApproval (s : State T) : State T :=
  { s with
    unpausing := { s.unpausing with
      unpauseHasApproved := Function.update s.unpausing.unpauseHasApproved env.sender true
      unpauseProposal := { s.unpausing.unpauseProposal with
        approvalCount := s.unpausing.unpauseProposal.approvalCount + 1 } } }.emit
    (.unpauseApproved env.sender (s.unpausing.unpauseProposal.approvalCount + 1)
      (governanceApprovals s))

def approveUnpause (s : State T) : Except EscrowError (State T) := do
  onlyAdmin env s
  require (s.unpausing.hasActiveUnpauseProposal = true) .noActiveProposal
  require (s.unpausing.unpauseProposal.executed = false) .alreadyExecuted
  require (s.unpausing.unpauseProposal.epoch = s.roles.governanceEpoch) .staleGovernanceProposal
  validatePausedScope s.unpausing.unpauseProposal.payload.scope
    s.unpausing.unpauseProposal.payload.tradeId s
  require (s.unpausing.unpauseHasApproved env.sender = false) .alreadyApproved
  -- unlike the other four kinds, the age of the proposal is not looked at here
  let s := recordUnpauseApproval env s
  if governanceApprovals s ≤ s.unpausing.unpauseProposal.approvalCount then executeUnpause P env s
  else pure s

def cancelUnpauseProposal (s : State T) : Except EscrowError (State T) := do
  onlyAdmin env s
  require (s.unpausing.hasActiveUnpauseProposal = true) .noActiveProposal
  require (s.unpausing.unpauseProposal.executed = false) .alreadyExecuted
  require (¬ (env.sender ≠ s.unpausing.unpauseProposal.proposer ∧
    ¬ UnpauseStaleOrExpired env s)) .activeProposalExists
  pure (cancelUnpauseProposalCore env s)

def disableOracleEmergency (s : State T) : Except EscrowError (State T) := do
  onlyAdmin env s
  require (s.roles.oracleActive = true) .oracleDisabled
  let s := { s with roles := { s.roles with oracleActive := false } }
  let s ← (if s.pausing.paused = true then pure s else pausablePause P env s)
  pure (s.emit (.oracleDisabledEmergency env.sender s.roles.oracleAddress))

end Cotsel.Escrow
