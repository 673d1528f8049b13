import Mathlib

/-!
# The data of `AgroasysEscrow`

The enumerations, records, errors and events of `contracts/src/AgroasysEscrow.sol`.

Conventions.  An `address` is a 160-bit number and `bytes32` a 256-bit vector.  A `uint256` is a
natural number: amounts, which callers choose freely, go through the checked arithmetic of
`Library/Guard.lean` at `2^256`, while counters, nonces, epochs and timestamps only ever grow by
one step or by a few days and are not bounded.  A `mapping` is a total function whose default is
the zero value.
-/

namespace Cotsel.Escrow

/-- A 160-bit account or contract address. -/
abbrev Address := Fin (2 ^ 160)

instance Address.neZero : NeZero (2 ^ 160) := ⟨by decide⟩

abbrev Bytes32 := BitVec 256

/-- One more than the largest `uint256`. -/
def uint256Bound : ℕ := 2 ^ 256

/-! ### Constants -/

/-- Inspection notice window for ordinary agricultural deliveries (72 hours). -/
def standardInspectionWindow : ℕ := 72 * 3600

/-- Inspection notice window for packaged local deliveries (48 hours). -/
def packagedLocalInspectionWindow : ℕ := 48 * 3600

/-- How long a trade may stay locked before the buyer can cancel it (7 days). -/
def lockTimeout : ℕ := 7 * 86400

/-- How long a trade may stay in transit before the buyer is refunded (14 days). -/
def inTransitTimeout : ℕ := 14 * 86400

/-- Time to live of a dispute proposal (7 days). -/
def disputeProposalTtl : ℕ := 7 * 86400

/-- Time to live of a governance proposal (7 days). -/
def governanceProposalTtl : ℕ := 7 * 86400

def maxAdmins : ℕ := 10

/-! ### Enumerations -/

inductive TradeStatus
  | locked
  | inTransit
  | arrivalConfirmed
  | frozen
  | closed
deriving DecidableEq, Inhabited

inductive DisputeStatus
  | refund
  | resolve
deriving DecidableEq, Inhabited

inductive ClaimType
  | stage1Supplier
  | stage1LogisticsFee
  | stage1PlatformFee
  | stage2Supplier
  | lockTimeoutBuyerRefund
  | inTransitTimeoutBuyerRefund
  | disputeRefundBuyer
  | disputeResolveSupplier
deriving DecidableEq, Inhabited

inductive SponsoredAction
  | createTrade
  | openDispute
  | cancelLockedTimeout
  | refundInTransitTimeout
  | finalizeAfterDisputeWindow
  | finalizeAfterInspectionAcceptance
deriving DecidableEq, Inhabited

inductive PauseScope
  | global
  | claims
  | trade
deriving DecidableEq, Inhabited

inductive AdminChangeKind
  | add
  | remove
  | replace
  | threshold
  | relayerAdd
  | relayerRemove
deriving DecidableEq, Inhabited

/-! ### Records -/

/-- The buyer's authorization for the USDC token (EIP-3009). -/
structure UsdcAuthorization where
  validAfter : ℕ
  validBefore : ℕ
  nonce : Bytes32
  v : ℕ
  r : Bytes32
  s : Bytes32
deriving DecidableEq, Inhabited

structure Trade where
  tradeId : ℕ
  ricardianHash : Bytes32
  status : TradeStatus
  buyerAddress : Address
  supplierAddress : Address
  totalAmountLocked : ℕ
  logisticsAmount : ℕ
  platformFeesAmount : ℕ
  supplierFirstTranche : ℕ
  supplierSecondTranche : ℕ
  createdAt : ℕ
  arrivalTimestamp : ℕ
deriving DecidableEq, Inhabited

/-- What a dispute proposal decides. -/
structure DisputeTerms where
  tradeId : ℕ
  disputeStatus : DisputeStatus
deriving DecidableEq, Inhabited

/-- What an oracle-update proposal installs, and from when on. -/
structure OracleUpdateTerms where
  newOracle : Address
  eta : ℕ
  emergencyFastTrack : Bool
deriving DecidableEq, Inhabited

/-- What an admin-change proposal changes, and from when on. -/
structure AdminChangeTerms where
  kind : AdminChangeKind
  currentAdmin : Address
  newAdmin : Address
  newThreshold : ℕ
  eta : ℕ
deriving DecidableEq, Inhabited

/-- What a treasury-payout proposal installs, and from when on. -/
structure TreasuryPayoutTerms where
  newPayoutReceiver : Address
  eta : ℕ
deriving DecidableEq, Inhabited

/-- What an unpause proposal lifts. -/
structure UnpauseTerms where
  scope : PauseScope
  tradeId : ℕ
  incidentRef : Bytes32
deriving DecidableEq, Inhabited

/-! ### Errors -/

/-- Why the USDC token refuses a transfer. -/
inductive TokenError
  | insufficientBalance
  | refused
deriving DecidableEq, Inhabited

/-- Why a call reverts: the contract's own errors, those of the libraries it calls, and the panics
of checked arithmetic. -/
inductive EscrowError
  | alreadyAdmin
  | alreadyApproved
  | alreadyCancelled
  | alreadyExecuted
  | alreadyPaused
  | activeProposalExists
  | arrivalNotSet
  | authorizationExpired
  | badAdmin
  | badAuthorization
  | badAuthorizationNonce
  | breakdownMismatch
  | claimsAlreadyPaused
  | claimsNotPaused
  | claimsPaused
  | duplicateAdmin
  | inTransitTimeoutNotElapsed
  | inTransitTimestampNotSet
  | inspectionNotAvailable
  | insufficientAdmins
  | invalidAdmin
  | invalidAdminChange
  | invalidIncidentReference
  | invalidDisputeStatus
  | invalidLaunchSettlementSchedule
  | invalidOracle
  | invalidRelayer
  | invalidRoleSeparation
  | invalidThreshold
  | invalidToken
  | invalidTreasury
  | invalidTreasuryPayoutReceiver
  | invalidUser
  | lockTimeoutNotElapsed
  | mustBeArrivalConfirmed
  | noActiveProposal
  | notEnoughAdmins
  | notEnoughApprovals
  | maximumAdminsReached
  | notPaused
  | nothingTreasuryClaimable
  | onlyAdmin
  | onlyOracle
  | onlyOracleOrAdmin
  | onlyRelayerOrAdmin
  | onlyTreasuryOrAdmin
  | oracleDisabled
  | paused
  | proposalCancelled
  | proposalExpired
  | proposalNotExpired
  | proposalNotFound
  | proposalNotInitialized
  | requiredApprovalsMustBeAtLeast2
  | ricardianHashRequired
  | sameOracle
  | sameRelayer
  | sameTreasuryPayoutReceiver
  | statusMustBeInTransit
  | statusMustBeLocked
  | supplierCannotBeEscrow
  | supplierRequired
  | staleGovernanceProposal
  | timelockNotElapsed
  | tradeAlreadyPaused
  | tradeMustBeFrozen
  | tradeNotFound
  | tradeNotFrozen
  | tradeNotPaused
  | tradePaused
  | tranchesMustBeGreaterThan0
  | unsupportedInspectionWindow
  | windowClosed
  | windowNotElapsed
  /-- `ECDSA.recover` rejects the signature. -/
  | invalidSignature
  /-- `usdcToken.safeTransfer` reverts. -/
  | safeTransfer (reason : TokenError)
  /-- `usdcToken.receiveWithAuthorization` reverts. -/
  | receiveWithAuthorization (reason : TokenError)
  /-- `Panic(0x11)` of an addition or a multiplication. -/
  | overflow
  /-- `Panic(0x11)` of a subtraction. -/
  | underflow
deriving DecidableEq, Inhabited

/-! ### Events -/

/-- What the contract writes to the chain's log. -/
inductive Event
  | tradeLocked (tradeId : ℕ) (buyer supplier : Address)
      (totalAmount logisticsAmount platformFeesAmount supplierFirstTranche
        supplierSecondTranche : ℕ) (ricardianHash : Bytes32)
  | authorizationConsumed (user : Address) (action : Bytes32) (nonce : ℕ) (relayer : Address)
      (deadline : ℕ)
  | relayedActionExecuted (relayer user : Address) (action : Bytes32) (tradeId : ℕ)
  | relayerUpdated (relayer : Address) (allowed : Bool) (updatedBy : Address)
  | gaslessTradeFunded (tradeId : ℕ) (buyer : Address) (usdcAuthorizationNonce : Bytes32)
      (amount : ℕ)
  | fundsReleasedStage1 (tradeId : ℕ) (supplier : Address) (supplierFirstTranche : ℕ)
      (treasury : Address) (logisticsAmount : ℕ)
  | platformFeesPaidStage1 (tradeId : ℕ) (treasury : Address)
      (platformFeesAmount platformFeeNetAmount settlementSupportFeeAmount : ℕ)
  | inspectionAvailable
      (tradeId inspectionAvailableAt inspectionWindowSeconds noticeDeadline : ℕ)
  | inspectionAcceptedForFinalRelease (tradeId acceptedAt : ℕ)
  | finalTrancheReleased (tradeId : ℕ) (supplier : Address) (supplierSecondTranche : ℕ)
  | disputeOpenedByBuyer (tradeId : ℕ)
  | disputeSolutionProposed (proposalId tradeId : ℕ) (disputeStatus : DisputeStatus)
      (proposer : Address)
  | disputeApproved (proposalId : ℕ) (approver : Address) (approvalCount requiredApprovals : ℕ)
  | disputeFinalized (proposalId tradeId : ℕ) (disputeStatus : DisputeStatus)
  | unpauseProposed (proposer : Address) (scope : PauseScope) (tradeId : ℕ)
      (incidentRef : Bytes32) (epoch : ℕ)
  | unpauseApproved (approver : Address) (approvalCount requiredApprovals : ℕ)
  | unpauseProposalCancelled (cancelledBy : Address)
  | oracleUpdateProposed (proposalId : ℕ) (proposer newOracle : Address) (eta : ℕ)
      (emergencyFastTrack : Bool)
  | oracleUpdateApproved (proposalId : ℕ) (approver : Address)
      (approvalCount requiredApprovals : ℕ)
  | oracleUpdated (oldOracle newOracle : Address)
  | adminChangeProposed (proposalId : ℕ) (proposer : Address) (kind : AdminChangeKind)
      (currentAdmin newAdmin : Address) (newThreshold eta epoch : ℕ)
  | adminChangeApproved (proposalId : ℕ) (approver : Address)
      (approvalCount requiredApprovals : ℕ)
  | adminChangeExecuted (proposalId : ℕ) (kind : AdminChangeKind)
      (currentAdmin newAdmin : Address) (newThreshold : ℕ)
  | adminAdded (newAdmin : Address)
  | adminRemoved (oldAdmin : Address)
  | adminReplaced (oldAdmin newAdmin : Address)
  | requiredApprovalsUpdated (oldThreshold newThreshold : ℕ)
  | governanceEpochAdvanced (newEpoch : ℕ)
  | treasuryPayoutAddressUpdateProposed (proposalId : ℕ) (proposer newPayoutReceiver : Address)
      (eta : ℕ)
  | treasuryPayoutAddressUpdateApproved (proposalId : ℕ) (approver : Address)
      (approvalCount requiredApprovals : ℕ)
  | treasuryPayoutAddressUpdated (oldPayoutReceiver newPayoutReceiver : Address)
  | treasuryPayoutAddressUpdateProposalExpiredCancelled (proposalId : ℕ) (cancelledBy : Address)
  | treasuryClaimed (treasuryIdentity payoutReceiver : Address) (amount : ℕ)
      (triggeredBy : Address)
  | oracleDisabledEmergency (by_ previousOracle : Address)
  | tradeCancelledAfterLockTimeout (tradeId : ℕ) (buyer : Address) (refundedAmount : ℕ)
  | inTransitTimeoutRefunded (tradeId : ℕ) (buyer : Address) (refundedAmount : ℕ)
  | disputeProposalExpiredCancelled (proposalId tradeId : ℕ) (cancelledBy : Address)
  | disputePayout (tradeId proposalId : ℕ) (recipient : Address) (amount : ℕ)
      (payoutType : DisputeStatus)
  | claimableAccrued (tradeId : ℕ) (recipient : Address) (amount : ℕ) (claimType : ClaimType)
  | supplierPayoutTransferred (tradeId : ℕ) (supplier : Address) (amount : ℕ)
      (claimType : ClaimType) (triggeredBy : Address)
  | buyerRefundTransferred (tradeId : ℕ) (buyer : Address) (amount : ℕ) (claimType : ClaimType)
      (triggeredBy : Address)
  | claimsPaused (triggeredBy : Address)
  | claimsUnpaused (triggeredBy : Address)
  | tradePaused (tradeId : ℕ) (triggeredBy : Address)
  | tradeUnpaused (tradeId : ℕ) (triggeredBy : Address)
  | oracleUpdateProposalExpiredCancelled (proposalId : ℕ) (cancelledBy : Address)
  | adminChangeProposalCancelled (proposalId : ℕ) (cancelledBy : Address)
  /-- `Paused` of the `Pausable` base contract. -/
  | paused (account : Address)
  /-- `Unpaused` of the `Pausable` base contract. -/
  | unpaused (account : Address)

end Cotsel.Escrow
