import Cotsel.Escrow.Proposals

/-!
# Timelocked governance

Rotation of the oracle and of the treasury payout receiver, and changes of the admins, the
approval threshold and the relayers.  Every executed change advances the governance epoch, which
makes all proposals of the old epoch stale.
-/

namespace Cotsel.Escrow

open Ballot Guard

variable {T : Type} (env : Env)

def requireServiceRoleAvailable (account : Address) (s : State T) : Except EscrowError Unit :=
  require (¬ (account = s.roles.oracleAddress ∨ account = s.roles.treasuryAddress ∨
    account = s.roles.treasuryPayoutAddress ∨ s.roles.isAdmin account = true ∨
    s.roles.isRelayer account = true)) .invalidRoleSeparation

def advanceGovernanceEpoch (s : State T) : State T :=
  { s with
    roles := { s.roles with governanceEpoch := s.roles.governanceEpoch + 1 } }.emit
    (.governanceEpochAdvanced (s.roles.governanceEpoch + 1))

/-! ### Oracle updates -/

def proposeOracleUpdate (newOracle : Address) (s : State T) :
    Except EscrowError (State T × ℕ) := do
  onlyAdmin env s
  require (newOracle ≠ 0) .invalidOracle
  require (newOracle ≠ s.roles.oracleAddress) .sameOracle
  requireServiceRoleAvailable newOracle s
  require (governanceApprovals s ≤ s.roles.admins.length) .insufficientAdmins
  let proposalId := s.oracleUpdates.counter
  -- no timelock while the oracle is disabled
  let emergencyFastTrack := !s.roles.oracleActive
  let eta :=
    if emergencyFastTrack then env.timestamp else env.timestamp + s.roles.governanceTimelock
  let s := { s with
    oracleUpdates := s.oracleUpdates.propose governanceProposalTtl env.timestamp
      s.roles.governanceEpoch env.sender
      { newOracle := newOracle, eta := eta, emergencyFastTrack := emergencyFastTrack } }
  let s := s.emit (.oracleUpdateProposed proposalId env.sender newOracle eta emergencyFastTrack)
  let s := s.emit (.oracleUpdateApproved proposalId env.sender 1 (governanceApprovals s))
  pure (s, proposalId)

def approveOracleUpdate (proposalId : ℕ) (s : State T) : Except EscrowError (State T) := do
  onlyAdmin env s
  let board ← approveProposal env s.roles.governanceEpoch s.oracleUpdates proposalId
  let s := { s with oracleUpdates := board }
  pure (s.emit (.oracleUpdateApproved proposalId env.sender
    (board.proposals proposalId).approvalCount (governanceApprovals s)))

def executeOracleUpdate (proposalId : ℕ) (s : State T) : Except EscrowError (State T) := do
  onlyAdmin env s
  let proposal ← requireActive env s.roles.governanceEpoch s.oracleUpdates proposalId
  require (governanceApprovals s ≤ proposal.approvalCount) .notEnoughApprovals
  require (proposal.payload.eta ≤ env.timestamp) .timelockNotElapsed
  let oldOracle := s.roles.oracleAddress
  let s := { s with
    oracleUpdates := s.oracleUpdates.markExecuted proposalId
    roles := { s.roles with
      oracleAddress := proposal.payload.newOracle
      oracleActive := true } }
  let s := advanceGovernanceEpoch s
  pure (s.emit (.oracleUpdated oldOracle proposal.payload.newOracle))

def cancelExpiredOracleUpdateProposal (proposalId : ℕ) (s : State T) :
    Except EscrowError (State T) := do
  onlyAdmin env s
  let board ← cancelExpiredProposal env s.oracleUpdates proposalId
  pure ({ s with oracleUpdates := board }.emit
    (.oracleUpdateProposalExpiredCancelled proposalId env.sender))

/-! ### Admin changes -/

def validateAdminChange (kind : AdminChangeKind) (currentAdmin newAdmin : Address)
    (newThreshold : ℕ) (s : State T) : Except EscrowError Unit :=
  match kind with
  | .add => do
    require (newAdmin ≠ 0) .invalidAdmin
    require (s.roles.isAdmin newAdmin = false) .alreadyAdmin
    requireServiceRoleAvailable newAdmin s
    require (s.roles.admins.length < maxAdmins) .maximumAdminsReached
    require (newThreshold = 0) .invalidAdminChange
  | .remove => do
    require (s.roles.isAdmin currentAdmin = true) .invalidAdmin
    let remaining ← checkedSub .underflow s.roles.admins.length 1
    require (s.roles.requiredApprovals < remaining) .notEnoughAdmins
    require (newThreshold = 0) .invalidAdminChange
  | .replace => do
    require (newAdmin ≠ 0) .invalidAdmin
    require (s.roles.isAdmin newAdmin = false) .alreadyAdmin
    requireServiceRoleAvailable newAdmin s
    require (s.roles.isAdmin currentAdmin = true) .invalidAdmin
    require (newThreshold = 0) .invalidAdminChange
  | .threshold =>
    require (¬ (newThreshold < 2 ∨ s.roles.admins.length ≤ newThreshold ∨
      newThreshold = s.roles.requiredApprovals)) .invalidThreshold
  | .relayerAdd => do
    require (newThreshold = 0) .invalidAdminChange
    require (newAdmin ≠ 0) .invalidRelayer
    require (s.roles.isRelayer newAdmin = false) .sameRelayer
    requireServiceRoleAvailable newAdmin s
  | .relayerRemove => do
    require (newThreshold = 0) .invalidAdminChange
    require (s.roles.isRelayer currentAdmin = true) .invalidRelayer

def proposeAdminChange (kind : AdminChangeKind) (currentAdmin newAdmin : Address)
    (newThreshold : ℕ) (s : State T) : Except EscrowError (State T × ℕ) := do
  onlyAdmin env s
  validateAdminChange kind currentAdmin newAdmin newThreshold s
  let proposalId := s.adminChanges.counter
  let eta := env.timestamp + s.roles.governanceTimelock
  let s := { s with
    adminChanges := s.adminChanges.propose governanceProposalTtl env.timestamp
      s.roles.governanceEpoch env.sender
      { kind := kind, currentAdmin := currentAdmin, newAdmin := newAdmin,
        newThreshold := newThreshold, eta := eta } }
  let s := s.emit (.adminChangeProposed proposalId env.sender kind currentAdmin newAdmin
    newThreshold eta s.roles.governanceEpoch)
  let s := s.emit (.adminChangeApproved proposalId env.sender 1 (governanceApprovals s))
  pure (s, proposalId)

def approveAdminChange (proposalId : ℕ) (s : State T) : Except EscrowError (State T) := do
  onlyAdmin env s
  let board ← approveProposal env s.roles.governanceEpoch s.adminChanges proposalId
  let s := { s with adminChanges := board }
  pure (s.emit (.adminChangeApproved proposalId env.sender
    (board.proposals proposalId).approvalCount (governanceApprovals s)))

/-- `_removeAdmin`'s loop: the first `oldAdmin` of the list is overwritten by the last entry, and
the list is cut by one.  `none` when `oldAdmin` does not occur. -/
def swapRemove (oldAdmin : Address) (admins : List Address) : Option (List Address) :=
  match admins.findIdx? (· = oldAdmin) with
  | some i => some ((admins.set i (admins.getLastD 0)).dropLast)
  | none => none

def removeAdmin (oldAdmin : Address) (s : State T) : Except EscrowError (State T) :=
  match swapRemove oldAdmin s.roles.admins with
  | some admins => pure { s with
      roles := { s.roles with
        isAdmin := Function.update s.roles.isAdmin oldAdmin false
        admins := admins }
      unpausing := { s.unpausing with
        unpauseHasApproved :=
          Function.update s.unpausing.unpauseHasApproved oldAdmin false } }
  | none => .error .invalidAdmin

/-- `_replaceAdmin`'s loop: the first `oldAdmin` of the list becomes `newAdmin`. -/
def swapReplace (oldAdmin newAdmin : Address) (admins : List Address) : Option (List Address) :=
  match admins.findIdx? (· = oldAdmin) with
  | some i => some (admins.set i newAdmin)
  | none => none

def replaceAdmin (oldAdmin newAdmin : Address) (s : State T) : Except EscrowError (State T) :=
  match swapReplace oldAdmin newAdmin s.roles.admins with
  | some admins => pure { s with
      roles := { s.roles with
        admins := admins
        isAdmin := Function.update (Function.update s.roles.isAdmin oldAdmin false) newAdmin true }
      unpausing := { s.unpausing with
        unpauseHasApproved := Function.update
          (Function.update s.unpausing.unpauseHasApproved oldAdmin false) newAdmin false } }
  | none => .error .invalidAdmin

/-- The branch of `executeAdminChange` on the kind of change. -/
def applyAdminChange (terms : AdminChangeTerms) (s : State T) : Except EscrowError (State T) :=
  match terms.kind with
  | .add => pure ({ s with
      roles := { s.roles with
        admins := s.roles.admins ++ [terms.newAdmin]
        isAdmin := Function.update s.roles.isAdmin terms.newAdmin true } }.emit
      (.adminAdded terms.newAdmin))
  | .remove => do
    let s ← removeAdmin terms.currentAdmin s
    pure (s.emit (.adminRemoved terms.currentAdmin))
  | .replace => do
    let s ← replaceAdmin terms.currentAdmin terms.newAdmin s
    pure (s.emit (.adminReplaced terms.currentAdmin terms.newAdmin))
  | .threshold =>
    pure ({ s with roles := { s.roles with requiredApprovals := terms.newThreshold } }.emit
      (.requiredApprovalsUpdated s.roles.requiredApprovals terms.newThreshold))
  | .relayerAdd =>
    pure ({ s with
      roles := { s.roles with
        isRelayer := Function.update s.roles.isRelayer terms.newAdmin true } }.emit
      (.relayerUpdated terms.newAdmin true env.sender))
  | .relayerRemove =>
    pure ({ s with
      roles := { s.roles with
        isRelayer := Function.update s.roles.isRelayer terms.currentAdmin false } }.emit
      (.relayerUpdated terms.currentAdmin false env.sender))

def executeAdminChange (proposalId : ℕ) (s : State T) : Except EscrowError (State T) := do
  onlyAdmin env s
  let proposal ← requireActive env s.roles.governanceEpoch s.adminChanges proposalId
  require (governanceApprovals s ≤ proposal.approvalCount) .notEnoughApprovals
  require (proposal.payload.eta ≤ env.timestamp) .timelockNotElapsed
  validateAdminChange proposal.payload.kind proposal.payload.currentAdmin
    proposal.payload.newAdmin proposal.payload.newThreshold s
  let s := { s with adminChanges := s.adminChanges.markExecuted proposalId }
  let s ← applyAdminChange env proposal.payload s
  let s := s.emit (.adminChangeExecuted proposalId proposal.payload.kind
    proposal.payload.currentAdmin proposal.payload.newAdmin proposal.payload.newThreshold)
  pure (advanceGovernanceEpoch s)

/-- The only cancellation that does not check that the number exists. -/
def cancelAdminChangeProposal (proposalId : ℕ) (s : State T) : Except EscrowError (State T) := do
  onlyAdmin env s
  requireExpired env s.adminChanges proposalId
  pure ({ s with adminChanges := s.adminChanges.markCancelled proposalId }.emit
    (.adminChangeProposalCancelled proposalId env.sender))

/-! ### Treasury payout receiver -/

def proposeTreasuryPayoutAddressUpdate (newPayoutReceiver : Address) (s : State T) :
    Except EscrowError (State T × ℕ) := do
  onlyAdmin env s
  require (newPayoutReceiver ≠ 0) .invalidTreasuryPayoutReceiver
  require (newPayoutReceiver ≠ s.roles.treasuryPayoutAddress) .sameTreasuryPayoutReceiver
  requireServiceRoleAvailable newPayoutReceiver s
  require (governanceApprovals s ≤ s.roles.admins.length) .insufficientAdmins
  let proposalId := s.treasuryPayouts.counter
  let eta := env.timestamp + s.roles.governanceTimelock
  let s := { s with
    treasuryPayouts := s.treasuryPayouts.propose governanceProposalTtl env.timestamp
      s.roles.governanceEpoch env.sender { newPayoutReceiver := newPayoutReceiver, eta := eta } }
  let s := s.emit (.treasuryPayoutAddressUpdateProposed proposalId env.sender newPayoutReceiver
    eta)
  let s := s.emit (.treasuryPayoutAddressUpdateApproved proposalId env.sender 1
    (governanceApprovals s))
  pure (s, proposalId)

def approveTreasuryPayoutAddressUpdate (proposalId : ℕ) (s : State T) :
    Except EscrowError (State T) := do
  onlyAdmin env s
  let board ← approveProposal env s.roles.governanceEpoch s.treasuryPayouts proposalId
  let s := { s with treasuryPayouts := board }
  pure (s.emit (.treasuryPayoutAddressUpdateApproved proposalId env.sender
    (board.proposals proposalId).approvalCount (governanceApprovals s)))

def executeTreasuryPayoutAddressUpdate (proposalId : ℕ) (s : State T) :
    Except EscrowError (State T) := do
  onlyAdmin env s
  let proposal ← requireActive env s.roles.governanceEpoch s.treasuryPayouts proposalId
  require (governanceApprovals s ≤ proposal.approvalCount) .notEnoughApprovals
  require (proposal.payload.eta ≤ env.timestamp) .timelockNotElapsed
  require (proposal.payload.newPayoutReceiver ≠ 0) .invalidTreasuryPayoutReceiver
  let oldPayoutReceiver := s.roles.treasuryPayoutAddress
  let s := { s with
    treasuryPayouts := s.treasuryPayouts.markExecuted proposalId
    roles := { s.roles with treasuryPayoutAddress := proposal.payload.newPayoutReceiver } }
  let s := advanceGovernanceEpoch s
  pure (s.emit (.treasuryPayoutAddressUpdated oldPayoutReceiver
    proposal.payload.newPayoutReceiver))

def cancelExpiredTreasuryPayoutAddressUpdateProposal (proposalId : ℕ) (s : State T) :
    Except EscrowError (State T) := do
  onlyAdmin env s
  let board ← cancelExpiredProposal env s.treasuryPayouts proposalId
  pure ({ s with treasuryPayouts := board }.emit
    (.treasuryPayoutAddressUpdateProposalExpiredCancelled proposalId env.sender))

end Cotsel.Escrow
