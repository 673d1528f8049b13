import Cotsel.Escrow.Authorization
import Cotsel.Escrow.LaunchSettlementSchedule

/-!
# The life of a trade

Creation, the two stages, the inspection window, the timeouts and the treasury sweep.  Money
leaves the escrow through `transferSupplierPayout`, `transferBuyerRefund` and `claimTreasury`
only; fees are first set aside by `accrueClaimable`.
-/

namespace Cotsel.Escrow

open Guard LaunchSettlementSchedule

variable {T : Type} (P : Platform T) (env : Env)

/-! ### Creation -/

def validateTradeAmounts (args : CreateTradeArgs) : Except EscrowError Unit := do
  require (args.ricardianHash ≠ 0) .ricardianHashRequired
  require (args.supplier ≠ 0) .supplierRequired
  require (args.supplier ≠ P.self) .supplierCannotBeEscrow
  let fees ← addU256 args.logisticsAmount args.platformFeesAmount
  let withFirst ← addU256 fees args.supplierFirstTranche
  let totalExpected ← addU256 withFirst args.supplierSecondTranche
  require (args.totalAmount = totalExpected) .breakdownMismatch
  require (args.logisticsAmount % usdcBaseUnitsPerCent = 0) .invalidLaunchSettlementSchedule
  require (0 < args.supplierFirstTranche ∧ 0 < args.supplierSecondTranche)
    .tranchesMustBeGreaterThan0

def validateLaunchSettlementSchedule
    (platformFeesAmount supplierFirstTranche supplierSecondTranche : ℕ) :
    Except EscrowError Unit := do
  let valid ← isValid P platformFeesAmount supplierFirstTranche supplierSecondTranche
  require (valid = true) .invalidLaunchSettlementSchedule

/-- The trade that `_storeTrade` writes. -/
def newTrade (args : CreateTradeArgs) (tradeId : ℕ) : Trade where
  tradeId := tradeId
  ricardianHash := args.ricardianHash
  status := .locked
  buyerAddress := args.buyer
  supplierAddress := args.supplier
  totalAmountLocked := args.totalAmount
  logisticsAmount := args.logisticsAmount
  platformFeesAmount := args.platformFeesAmount
  supplierFirstTranche := args.supplierFirstTranche
  supplierSecondTranche := args.supplierSecondTranche
  createdAt := env.timestamp
  arrivalTimestamp := 0

/-- `_storeTrade`; the new trade's number is the counter before the call. -/
def storeTrade (args : CreateTradeArgs) (s : State T) : State T :=
  { s with
    book := { s.book with
      tradeCounter := s.book.tradeCounter + 1
      trades := Function.update s.book.trades s.book.tradeCounter
        (newTrade env args s.book.tradeCounter) } }.emit
    (.tradeLocked s.book.tradeCounter args.buyer args.supplier args.totalAmount
      args.logisticsAmount args.platformFeesAmount args.supplierFirstTranche
      args.supplierSecondTranche args.ricardianHash)

/-- `usdcToken.receiveWithAuthorization(buyer, address(this), amount, ..)`. -/
def receiveUsdc (buyer : Address) (amount : ℕ) (auth : UsdcAuthorization) (s : State T) :
    Except EscrowError (State T) :=
  match P.receiveWithAuthorization s.usdc env.timestamp P.self buyer P.self amount auth with
  | .ok usdc => .ok { s with usdc := usdc }
  | .error reason => .error (.receiveWithAuthorization reason)

/-- `_createTradeWithAuthorization`. -/
def createTradeWithAuthorizationCore (args : CreateTradeArgs) (s : State T) :
    Except EscrowError (State T × ℕ) := do
  validateTradeAmounts P args
  validateLaunchSettlementSchedule P args.platformFeesAmount args.supplierFirstTranche
    args.supplierSecondTranche
  let s ← verifyCreateTradeAuthorization P env args s
  let newTradeId := s.book.tradeCounter
  let s := storeTrade env args s
  let s ← receiveUsdc P env args.buyer args.totalAmount args.usdcAuthorization s
  let s := s.emit (.gaslessTradeFunded newTradeId args.buyer args.usdcAuthorization.nonce
    args.totalAmount)
  let s := s.emit (.relayedActionExecuted env.sender args.buyer (actionName P .createTrade)
    newTradeId)
  pure (s, newTradeId)

def createTradeWithAuthorization (args : CreateTradeArgs) (s : State T) :
    Except EscrowError (State T × ℕ) := do
  onlyRelayerOrAdmin env s
  whenNotPaused s
  createTradeWithAuthorizationCore P env args s

/-! ### Payments -/

def accrueClaimable (tradeId : ℕ) (recipient : Address) (amount : ℕ) (claimType : ClaimType)
    (s : State T) : Except EscrowError (State T) :=
  if amount = 0 then pure s
  else do
    let claimable ← addU256 (s.claims.claimableUsdc recipient) amount
    let total ← addU256 s.claims.totalClaimableUsdc amount
    pure ({ s with
      claims :=
        { claimableUsdc := Function.update s.claims.claimableUsdc recipient claimable
          totalClaimableUsdc := total } }.emit
      (.claimableAccrued tradeId recipient amount claimType))

/-- `usdcToken.safeTransfer(recipient, amount)`. -/
def safeTransferUsdc (recipient : Address) (amount : ℕ) (s : State T) :
    Except EscrowError (State T) :=
  match P.safeTransfer s.usdc P.self recipient amount with
  | .ok usdc => .ok { s with usdc := usdc }
  | .error reason => .error (.safeTransfer reason)

def transferSupplierPayout (tradeId : ℕ) (supplier : Address) (amount : ℕ)
    (claimType : ClaimType) (s : State T) : Except EscrowError (State T) :=
  if amount = 0 then pure s
  else do
    let s ← safeTransferUsdc P supplier amount s
    pure (s.emit (.supplierPayoutTransferred tradeId supplier amount claimType env.sender))

def transferBuyerRefund (tradeId : ℕ) (buyer : Address) (amount : ℕ) (claimType : ClaimType)
    (s : State T) : Except EscrowError (State T) :=
  if amount = 0 then pure s
  else do
    let s ← safeTransferUsdc P buyer amount s
    pure (s.emit (.buyerRefundTransferred tradeId buyer amount claimType env.sender))

/-- `_nonRefundableFeeAmount`. -/
def nonRefundableFeeAmountOf (trade : Trade) : Except EscrowError ℕ :=
  if trade.status = .locked then pure 0
  else addU256 trade.logisticsAmount trade.platformFeesAmount

def buyerRefundablePrincipalAmount (trade : Trade) : ℕ :=
  match trade.status with
  | .locked => trade.totalAmountLocked
  | .inTransit | .arrivalConfirmed | .frozen => trade.supplierSecondTranche
  | .closed => 0

def nonRefundableFeeAmount (tradeId : ℕ) (s : State T) : Except EscrowError ℕ := do
  require (tradeId < s.book.tradeCounter) .tradeNotFound
  nonRefundableFeeAmountOf (s.book.trades tradeId)

def buyerRefundableAmount (tradeId : ℕ) (s : State T) : Except EscrowError ℕ := do
  require (tradeId < s.book.tradeCounter) .tradeNotFound
  pure (buyerRefundablePrincipalAmount (s.book.trades tradeId))

/-- `_splitPlatformFeeComponents`: the net platform fee and the settlement support fee. -/
def splitPlatformFeeComponents (platformFeesAmount : ℕ) : ℕ × ℕ :=
  let supportFee :=
    if platformFeesAmount < settlementSupportFee then platformFeesAmount else settlementSupportFee
  (platformFeesAmount - supportFee, supportFee)

def claimTreasury (s : State T) : Except EscrowError (State T) := do
  onlyTreasuryOrAdmin env s
  whenClaimsNotPaused s
  let amount := s.claims.claimableUsdc s.roles.treasuryAddress
  require (0 < amount) .nothingTreasuryClaimable
  let payoutReceiver := s.roles.treasuryPayoutAddress
  require (payoutReceiver ≠ 0) .invalidTreasuryPayoutReceiver
  let total ← subU256 s.claims.totalClaimableUsdc amount
  let s := { s with
    claims :=
      { claimableUsdc := Function.update s.claims.claimableUsdc s.roles.treasuryAddress 0
        totalClaimableUsdc := total } }
  let s ← safeTransferUsdc P payoutReceiver amount s
  pure (s.emit (.treasuryClaimed s.roles.treasuryAddress payoutReceiver amount env.sender))

/-! ### Milestones -/

def releaseFundsStage1 (tradeId : ℕ) (s : State T) : Except EscrowError (State T) := do
  onlyOracle env s
  onlyOracleActive s
  whenNotPaused s
  requireTradeNotPaused s tradeId
  require (tradeId < s.book.tradeCounter) .tradeNotFound
  let trade := s.book.trades tradeId
  require (trade.status = .locked) .statusMustBeLocked
  let s := { s with
    book := (s.book.setStatus tradeId .inTransit).setInTransitSince tradeId env.timestamp }
  let s ← transferSupplierPayout P env tradeId trade.supplierAddress trade.supplierFirstTranche
    .stage1Supplier s
  let s ← accrueClaimable tradeId s.roles.treasuryAddress trade.logisticsAmount
    .stage1LogisticsFee s
  let s ← accrueClaimable tradeId s.roles.treasuryAddress trade.platformFeesAmount
    .stage1PlatformFee s
  let s := s.emit (.fundsReleasedStage1 tradeId trade.supplierAddress trade.supplierFirstTranche
    s.roles.treasuryAddress trade.logisticsAmount)
  let (platformFeeNetAmount, settlementSupportFeeAmount) :=
    splitPlatformFeeComponents trade.platformFeesAmount
  pure (s.emit (.platformFeesPaidStage1 tradeId s.roles.treasuryAddress trade.platformFeesAmount
    platformFeeNetAmount settlementSupportFeeAmount))

/-- `_confirmInspectionAvailable`. -/
def confirmInspectionAvailableCore (tradeId windowSeconds : ℕ) (s : State T) :
    Except EscrowError (State T) := do
  require (tradeId < s.book.tradeCounter) .tradeNotFound
  let trade := s.book.trades tradeId
  require (trade.status = .inTransit) .statusMustBeInTransit
  require (windowSeconds = standardInspectionWindow ∨
    windowSeconds = packagedLocalInspectionWindow) .unsupportedInspectionWindow
  let s := { s with
    book := { s.book with
      trades := Function.update s.book.trades tradeId
        { trade with status := .arrivalConfirmed, arrivalTimestamp := env.timestamp }
      inspectionWindowSeconds :=
        Function.update s.book.inspectionWindowSeconds tradeId windowSeconds
      inTransitSince := Function.update s.book.inTransitSince tradeId 0 } }
  pure (s.emit (.inspectionAvailable tradeId env.timestamp windowSeconds
    (env.timestamp + windowSeconds)))

def confirmInspectionAvailable (tradeId windowSeconds : ℕ) (s : State T) :
    Except EscrowError (State T) := do
  onlyOracle env s
  onlyOracleActive s
  whenNotPaused s
  requireTradeNotPaused s tradeId
  confirmInspectionAvailableCore env tradeId windowSeconds s

def inspectionWindow (tradeId : ℕ) (s : State T) : ℕ :=
  if s.book.inspectionWindowSeconds tradeId = 0 then standardInspectionWindow
  else s.book.inspectionWindowSeconds tradeId

def inspectionDeadline (tradeId : ℕ) (s : State T) : Except EscrowError ℕ := do
  require (tradeId < s.book.tradeCounter) .tradeNotFound
  require (0 < (s.book.trades tradeId).arrivalTimestamp) .inspectionNotAvailable
  pure ((s.book.trades tradeId).arrivalTimestamp + inspectionWindow tradeId s)

def openDisputeWithAuthorization (tradeId : ℕ) (auth : UserAuthorization) (s : State T) :
    Except EscrowError (State T) := do
  onlyRelayerOrAdmin env s
  whenNotPaused s
  requireTradeNotPaused s tradeId
  require (tradeId < s.book.tradeCounter) .tradeNotFound
  let trade := s.book.trades tradeId
  let s ← verifyUserActionAuthorization P env trade.buyerAddress .openDispute tradeId auth s
  require (trade.status = .arrivalConfirmed) .mustBeArrivalConfirmed
  require (0 < trade.arrivalTimestamp) .arrivalNotSet
  let deadline ← inspectionDeadline tradeId s
  require (env.timestamp ≤ deadline) .windowClosed
  let s := { s with book := s.book.setStatus tradeId .frozen }
  let s := s.emit (.disputeOpenedByBuyer tradeId)
  pure (s.emit (.relayedActionExecuted env.sender trade.buyerAddress (actionName P .openDispute)
    tradeId))

def releaseFinalTranche (tradeId : ℕ) (s : State T) : Except EscrowError (State T) := do
  let trade := s.book.trades tradeId
  let s := { s with book := (s.book.setStatus tradeId .closed).setInTransitSince tradeId 0 }
  let s ← transferSupplierPayout P env tradeId trade.supplierAddress trade.supplierSecondTranche
    .stage2Supplier s
  pure (s.emit (.finalTrancheReleased tradeId trade.supplierAddress trade.supplierSecondTranche))

/-- `_finalizeAfterDisputeWindow`. -/
def finalizeAfterDisputeWindowCore (tradeId : ℕ) (s : State T) :
    Except EscrowError (State T) := do
  require (tradeId < s.book.tradeCounter) .tradeNotFound
  let trade := s.book.trades tradeId
  require (trade.status = .arrivalConfirmed) .mustBeArrivalConfirmed
  require (0 < trade.arrivalTimestamp) .arrivalNotSet
  let deadline ← inspectionDeadline tradeId s
  require (deadline < env.timestamp) .windowNotElapsed
  releaseFinalTranche P env tradeId s

def finalizeAfterDisputeWindow (tradeId : ℕ) (s : State T) : Except EscrowError (State T) := do
  onlyOracleOrAdmin env s
  whenNotPaused s
  requireTradeNotPaused s tradeId
  finalizeAfterDisputeWindowCore P env tradeId s

def finalizeAfterDisputeWindowWithAuthorization (tradeId : ℕ) (auth : UserAuthorization)
    (s : State T) : Except EscrowError (State T) := do
  onlyRelayerOrAdmin env s
  whenNotPaused s
  requireTradeNotPaused s tradeId
  require (tradeId < s.book.tradeCounter) .tradeNotFound
  let trade := s.book.trades tradeId
  let s ← verifyUserActionAuthorization P env trade.supplierAddress .finalizeAfterDisputeWindow
    tradeId auth s
  let s ← finalizeAfterDisputeWindowCore P env tradeId s
  pure (s.emit (.relayedActionExecuted env.sender trade.supplierAddress
    (actionName P .finalizeAfterDisputeWindow) tradeId))

def finalizeAfterInspectionAcceptanceWithAuthorization (tradeId : ℕ) (auth : UserAuthorization)
    (s : State T) : Except EscrowError (State T) := do
  onlyRelayerOrAdmin env s
  whenNotPaused s
  requireTradeNotPaused s tradeId
  require (tradeId < s.book.tradeCounter) .tradeNotFound
  let trade := s.book.trades tradeId
  -- here the status is checked before the signature, elsewhere after it
  require (trade.status = .arrivalConfirmed) .mustBeArrivalConfirmed
  let s ← verifyUserActionAuthorization P env trade.buyerAddress
    .finalizeAfterInspectionAcceptance tradeId auth s
  let s ← releaseFinalTranche P env tradeId s
  let s := s.emit (.inspectionAcceptedForFinalRelease tradeId env.timestamp)
  pure (s.emit (.relayedActionExecuted env.sender trade.buyerAddress
    (actionName P .finalizeAfterInspectionAcceptance) tradeId))

/-! ### Timeouts -/

def cancelLockedTradeAfterTimeoutWithAuthorization (tradeId : ℕ) (auth : UserAuthorization)
    (s : State T) : Except EscrowError (State T) := do
  onlyRelayerOrAdmin env s
  whenNotPaused s
  requireTradeNotPaused s tradeId
  require (tradeId < s.book.tradeCounter) .tradeNotFound
  let trade := s.book.trades tradeId
  let s ← verifyUserActionAuthorization P env trade.buyerAddress .cancelLockedTimeout tradeId
    auth s
  require (trade.status = .locked) .statusMustBeLocked
  require (trade.createdAt + lockTimeout < env.timestamp) .lockTimeoutNotElapsed
  let s := { s with book := s.book.setStatus tradeId .closed }
  let s ← transferBuyerRefund P env tradeId trade.buyerAddress trade.totalAmountLocked
    .lockTimeoutBuyerRefund s
  let s := s.emit (.tradeCancelledAfterLockTimeout tradeId trade.buyerAddress
    trade.totalAmountLocked)
  pure (s.emit (.relayedActionExecuted env.sender trade.buyerAddress
    (actionName P .cancelLockedTimeout) tradeId))

def refundInTransitAfterTimeoutWithAuthorization (tradeId : ℕ) (auth : UserAuthorization)
    (s : State T) : Except EscrowError (State T) := do
  onlyRelayerOrAdmin env s
  whenNotPaused s
  requireTradeNotPaused s tradeId
  require (tradeId < s.book.tradeCounter) .tradeNotFound
  let trade := s.book.trades tradeId
  let s ← verifyUserActionAuthorization P env trade.buyerAddress .refundInTransitTimeout tradeId
    auth s
  require (trade.status = .inTransit) .statusMustBeInTransit
  let transitStart := s.book.inTransitSince tradeId
  require (0 < transitStart) .inTransitTimestampNotSet
  require (transitStart + inTransitTimeout < env.timestamp) .inTransitTimeoutNotElapsed
  let s := { s with book := (s.book.setStatus tradeId .closed).setInTransitSince tradeId 0 }
  let s ← transferBuyerRefund P env tradeId trade.buyerAddress trade.supplierSecondTranche
    .inTransitTimeoutBuyerRefund s
  let s := s.emit (.inTransitTimeoutRefunded tradeId trade.buyerAddress
    trade.supplierSecondTranche)
  pure (s.emit (.relayedActionExecuted env.sender trade.buyerAddress
    (actionName P .refundInTransitTimeout) tradeId))

end Cotsel.Escrow
