import Cotsel.Escrow.Platform
import Cotsel.Library.Ballot
import Cotsel.Library.Guard

/-!
# Storage, constructor and modifiers

The storage of `AgroasysEscrow`, grouped by the part of the contract that owns it, together with
the state of the token contract and the chain's event log.  The four kinds of numbered proposals
share one shape (`Ballot.Board`): the source's mappings `xProposals`, `xHasApproved`,
`xProposalExpiresAt`, `xProposalCancelled` and `xCounter` are the fields of the board of kind `x`.

A call is atomic: nothing it calls can call back, so the `nonReentrant` lock is never found taken
and is left out.
-/

namespace Cotsel.Escrow

open Ballot Guard

/-! ### Storage -/

/-- The trades and their timers. -/
structure TradeStore where
  trades : ℕ → Trade
  tradeCounter : ℕ
  inTransitSince : ℕ → ℕ
  inspectionWindowSeconds : ℕ → ℕ

/-- The fees set aside for the treasury. -/
structure ClaimStore where
  claimableUsdc : Address → ℕ
  totalClaimableUsdc : ℕ

/-- The three emergency switches; `paused` is the one of `Pausable`. -/
structure PauseStore where
  paused : Bool
  claimsPaused : Bool
  tradePaused : ℕ → Bool

/-- The single unpause proposal.  Its approvals are not keyed by proposal. -/
structure UnpauseStore where
  unpauseProposal : Proposal Address UnpauseTerms
  unpauseHasApproved : Address → Bool
  hasActiveUnpauseProposal : Bool

/-- Who may do what, and the governance parameters. -/
structure RoleStore where
  oracleAddress : Address
  treasuryAddress : Address
  treasuryPayoutAddress : Address
  oracleActive : Bool
  admins : List Address
  isAdmin : Address → Bool
  isRelayer : Address → Bool
  requiredApprovals : ℕ
  governanceEpoch : ℕ
  governanceTimelock : ℕ

/-- The dispute proposals, and for each trade the one that is active. -/
structure DisputeStore where
  board : Board Address DisputeTerms
  tradeHasActiveDisputeProposal : ℕ → Bool
  tradeActiveDisputeProposalId : ℕ → ℕ

/-- The storage of the contract, the state `usdc` of the token, and the event log. -/
structure State (T : Type) where
  book : TradeStore
  claims : ClaimStore
  pausing : PauseStore
  unpausing : UnpauseStore
  roles : RoleStore
  disputes : DisputeStore
  oracleUpdates : Board Address OracleUpdateTerms
  adminChanges : Board Address AdminChangeTerms
  treasuryPayouts : Board Address TreasuryPayoutTerms
  authorizationNonces : Address → ℕ
  usdcToken : Address
  domainSeparator : Bytes32
  usdc : T
  log : List Event

/-- `msg.sender` and `block.timestamp`. -/
structure Env where
  sender : Address
  timestamp : ℕ

variable {T : Type}

def State.emit (s : State T) (e : Event) : State T := { s with log := s.log ++ [e] }

/-- `trade.status = status` for the stored trade `tradeId`. -/
def TradeStore.setStatus (b : TradeStore) (tradeId : ℕ) (status : TradeStatus) : TradeStore :=
  { b with
    trades := Function.update b.trades tradeId { b.trades tradeId with status := status } }

/-- `inTransitSince[tradeId] = since`. -/
def TradeStore.setInTransitSince (b : TradeStore) (tradeId since : ℕ) : TradeStore :=
  { b with inTransitSince := Function.update b.inTransitSince tradeId since }

/-! ### Constructor -/

structure DeployArgs where
  usdcToken : Address
  oracleAddress : Address
  treasuryAddress : Address
  relayerAddress : Address
  admins : List Address
  requiredApprovals : ℕ

/-- The constructor's loop over `_admins`. -/
def pushAdmins (args : DeployArgs) : List Address → RoleStore → Except EscrowError RoleStore
  | [], r => pure r
  | admin :: rest, r => do
    require (admin ≠ 0) .badAdmin
    require (r.isAdmin admin = false) .duplicateAdmin
    require (¬ (admin = args.oracleAddress ∨ admin = args.treasuryAddress ∨
      admin = args.relayerAddress)) .invalidRoleSeparation
    pushAdmins args rest
      { r with
        admins := r.admins ++ [admin]
        isAdmin := Function.update r.isAdmin admin true }

def buildDomainSeparator (P : Platform T) : Bytes32 :=
  P.keccak256 (.domain "AgroasysEscrow" "1" P.chainId P.self)

/-- The constructor, on a chain where the token's state is `usdc`. -/
def deploy (P : Platform T) (env : Env) (args : DeployArgs) (usdc : T) :
    Except EscrowError (State T) := do
  require (args.usdcToken ≠ 0) .invalidToken
  require (args.oracleAddress ≠ 0) .invalidOracle
  require (args.treasuryAddress ≠ 0) .invalidTreasury
  require (args.relayerAddress ≠ 0) .invalidRelayer
  require (¬ (args.oracleAddress = args.treasuryAddress ∨
    args.oracleAddress = args.relayerAddress ∨ args.treasuryAddress = args.relayerAddress))
    .invalidRoleSeparation
  require (2 ≤ args.requiredApprovals) .requiredApprovalsMustBeAtLeast2
  require (args.requiredApprovals < args.admins.length) .notEnoughAdmins
  require (args.admins.length ≤ maxAdmins) .maximumAdminsReached
  let roles ← pushAdmins args args.admins
    { oracleAddress := args.oracleAddress
      treasuryAddress := args.treasuryAddress
      treasuryPayoutAddress := args.treasuryAddress
      oracleActive := true
      admins := []
      isAdmin := fun _ => false
      isRelayer := Function.update (fun _ => false) args.relayerAddress true
      requiredApprovals := args.requiredApprovals
      governanceEpoch := 1
      governanceTimelock := 24 * 3600 }
  pure
    { book :=
        { trades := fun _ => default, tradeCounter := 0, inTransitSince := fun _ => 0,
          inspectionWindowSeconds := fun _ => 0 }
      claims := { claimableUsdc := fun _ => 0, totalClaimableUsdc := 0 }
      pausing := { paused := false, claimsPaused := false, tradePaused := fun _ => false }
      unpausing :=
        { unpauseProposal := default, unpauseHasApproved := fun _ => false,
          hasActiveUnpauseProposal := false }
      roles := roles
      disputes :=
        { board := .empty, tradeHasActiveDisputeProposal := fun _ => false,
          tradeActiveDisputeProposalId := fun _ => 0 }
      oracleUpdates := .empty
      adminChanges := .empty
      treasuryPayouts := .empty
      authorizationNonces := fun _ => 0
      usdcToken := args.usdcToken
      domainSeparator := buildDomainSeparator P
      usdc := usdc
      log := [.relayerUpdated args.relayerAddress true env.sender] }

/-! ### Modifiers and shared guards -/

section

variable (env : Env) (s : State T)

def onlyAdmin : Except EscrowError Unit :=
  require (s.roles.isAdmin env.sender = true) .onlyAdmin

def onlyTreasuryOrAdmin : Except EscrowError Unit :=
  require (env.sender = s.roles.treasuryAddress ∨ s.roles.isAdmin env.sender = true)
    .onlyTreasuryOrAdmin

def onlyRelayerOrAdmin : Except EscrowError Unit :=
  require (s.roles.isAdmin env.sender = true ∨ s.roles.isRelayer env.sender = true)
    .onlyRelayerOrAdmin

def onlyOracle : Except EscrowError Unit :=
  require (env.sender = s.roles.oracleAddress) .onlyOracle

def onlyOracleActive : Except EscrowError Unit :=
  require (s.roles.oracleActive = true) .oracleDisabled

/-- The oracle is refused while it is disabled, an admin is not. -/
def onlyOracleOrAdmin : Except EscrowError Unit := do
  require (env.sender = s.roles.oracleAddress ∨ s.roles.isAdmin env.sender = true)
    .onlyOracleOrAdmin
  require (env.sender = s.roles.oracleAddress → s.roles.oracleActive = true) .oracleDisabled

/-- `whenNotPaused`, with the error of the overridden `_requireNotPaused`. -/
def whenNotPaused : Except EscrowError Unit :=
  require (s.pausing.paused = false) .paused

def whenClaimsNotPaused : Except EscrowError Unit :=
  require (s.pausing.claimsPaused = false) .claimsPaused

/-- `_requireTradeNotPaused`, also the modifier `whenTradeNotPaused`. -/
def requireTradeNotPaused (tradeId : ℕ) : Except EscrowError Unit :=
  require (s.pausing.tradePaused tradeId = false) .tradePaused

end

def governanceApprovals (s : State T) : ℕ := s.roles.requiredApprovals

end Cotsel.Escrow
