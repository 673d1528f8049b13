import Cotsel.Escrow.Machine

/-!
# What a successful call does

`Effect P env call s s'` has one rule for each branch of each external function: the guards the
branch passed, and the state it leaves, as an update of the state it found.  Every statement about
steps of the contract is a case analysis on this relation; no other module looks into the bodies
of the functions.

The relation is read off the functions in `Cotsel.Escrow.Spec.Inversion`.
-/

namespace Cotsel.Escrow

open Ballot

variable {T : Type} {α : Type}

/-! ### Guards -/

/-- The token after the escrow paid `amount` to `recipient`; nothing is transferred for zero. -/
def Pays (P : Platform T) (t : T) (recipient : Address) (amount : ℕ) (t' : T) : Prop :=
  if amount = 0 then t' = t else P.safeTransfer t P.self recipient amount = .ok t'

/-- The event of a payment, which is only emitted for a positive amount. -/
def paymentLog (amount : ℕ) (e : Event) : List Event := if amount = 0 then [] else [e]

/-- The events of the release of the second tranche, after those in `log`. -/
abbrev logFinalTranche (env : Env) (s : State T) (tradeId : ℕ) (log : List Event) : List Event :=
  log ++ paymentLog (s.book.trades tradeId).supplierSecondTranche
    (.supplierPayoutTransferred tradeId (s.book.trades tradeId).supplierAddress
      (s.book.trades tradeId).supplierSecondTranche .stage2Supplier env.sender) ++
  [.finalTrancheReleased tradeId (s.book.trades tradeId).supplierAddress
    (s.book.trades tradeId).supplierSecondTranche]

/-- `user` signed `message` with the next nonce and a deadline that is not past. -/
structure Authorized (P : Platform T) (env : Env) (user : Address) (message : Preimage)
    (nonce deadline : ℕ) (signature : Signature) (s : State T) : Prop where
  user_ne_zero : user ≠ 0
  timely : env.timestamp ≤ deadline
  nonce_eq : nonce = s.authorizationNonces user
  signed : P.recover (hashTypedDataV4 P (P.keccak256 message) s) signature = some user

/-- `user` signed the relayed action on trade `tradeId`. -/
def AuthorizedAction (P : Platform T) (env : Env) (user : Address) (action : SponsoredAction)
    (tradeId : ℕ) (auth : UserAuthorization) (s : State T) : Prop :=
  Authorized P env user
    (.userActionAuthorization user action tradeId auth.nonce auth.deadline)
    auth.nonce auth.deadline auth.signature s

/-- What `_validatePausedScope` accepts. -/
def ScopePaused (scope : PauseScope) (tradeId : ℕ) (s : State T) : Prop :=
  match scope with
  | .global => s.pausing.paused = true ∧ s.roles.oracleActive = true
  | .claims => s.pausing.claimsPaused = true
  | .trade => tradeId < s.book.tradeCounter ∧ s.pausing.tradePaused tradeId = true

/-- The proposal exists, is open, within its deadline and of the epoch `epoch`. -/
structure IsActive (env : Env) (epoch : ℕ) (b : Board Address α) (id : ℕ) : Prop where
  numbered : id < b.counter
  initialized : 0 < (b.proposals id).createdAt
  notExecuted : (b.proposals id).executed = false
  notCancelled : b.cancelled id = false
  timely : env.timestamp ≤ b.expiresAt id
  current : (b.proposals id).epoch = epoch

/-- The proposal is open and past its deadline. -/
structure IsExpired (env : Env) (b : Board Address α) (id : ℕ) : Prop where
  initialized : 0 < (b.proposals id).createdAt
  notExecuted : (b.proposals id).executed = false
  notCancelled : b.cancelled id = false
  expired : b.expiresAt id < env.timestamp

/-- `account` holds none of the service roles and is no admin and no relayer. -/
structure RoleFree (roles : RoleStore) (account : Address) : Prop where
  oracle : account ≠ roles.oracleAddress
  treasury : account ≠ roles.treasuryAddress
  payout : account ≠ roles.treasuryPayoutAddress
  admin : roles.isAdmin account = false
  relayer : roles.isRelayer account = false

/-! ### Updates -/

/-- `amount` more is set aside for `recipient`. -/
def ClaimStore.accrue (c : ClaimStore) (recipient : Address) (amount : ℕ) : ClaimStore where
  claimableUsdc :=
    Function.update c.claimableUsdc recipient (c.claimableUsdc recipient + amount)
  totalClaimableUsdc := c.totalClaimableUsdc + amount

/-- The switches after the pause named by `terms` is lifted. -/
def PauseStore.lift (p : PauseStore) (terms : UnpauseTerms) : PauseStore :=
  match terms.scope with
  | .global => { p with paused := false }
  | .claims => { p with claimsPaused := false }
  | .trade => { p with tradePaused := Function.update p.tradePaused terms.tradeId false }

def liftEvent (env : Env) (terms : UnpauseTerms) : Event :=
  match terms.scope with
  | .global => .unpaused env.sender
  | .claims => .claimsUnpaused env.sender
  | .trade => .tradeUnpaused terms.tradeId env.sender

def newUnpauseProposal (env : Env) (scope : PauseScope) (tradeId : ℕ) (incidentRef : Bytes32)
    (epoch : ℕ) : Proposal Address UnpauseTerms where
  payload := { scope := scope, tradeId := tradeId, incidentRef := incidentRef }
  approvalCount := 1
  executed := false
  createdAt := env.timestamp
  proposer := env.sender
  epoch := epoch

/-- Who receives the second tranche when a dispute ends with `d`. -/
def DisputeStatus.recipient (d : DisputeStatus) (trade : Trade) : Address :=
  match d with
  | .refund => trade.buyerAddress
  | .resolve => trade.supplierAddress

/-- The payment event of a dispute that ends with `d`. -/
def DisputeStatus.event (d : DisputeStatus) (env : Env) (tradeId : ℕ) (trade : Trade) : Event :=
  match d with
  | .refund => .buyerRefundTransferred tradeId trade.buyerAddress trade.supplierSecondTranche
      .disputeRefundBuyer env.sender
  | .resolve => .supplierPayoutTransferred tradeId trade.supplierAddress
      trade.supplierSecondTranche .disputeResolveSupplier env.sender

/-- The trade once its inspection window starts. -/
def Trade.arrive (trade : Trade) (now : ℕ) : Trade :=
  { trade with status := .arrivalConfirmed, arrivalTimestamp := now }

/-- The trades once the inspection window of `tradeId` starts. -/
def TradeStore.arrive (b : TradeStore) (tradeId windowSeconds now : ℕ) : TradeStore :=
  { b with
    trades := Function.update b.trades tradeId ((b.trades tradeId).arrive now)
    inspectionWindowSeconds := Function.update b.inspectionWindowSeconds tradeId windowSeconds
    inTransitSince := Function.update b.inTransitSince tradeId 0 }

def TradeStore.push (b : TradeStore) (trade : Trade) : TradeStore :=
  { b with
    tradeCounter := b.tradeCounter + 1
    trades := Function.update b.trades b.tradeCounter trade }

/-- The roles and the unpause approvals after an admin change that passed its validation, before
the epoch advances. -/
inductive AdminChanged (terms : AdminChangeTerms) (r : RoleStore) (f : Address → Bool) :
    RoleStore → (Address → Bool) → Prop
  | add (hkind : terms.kind = .add) (hne : terms.newAdmin ≠ 0)
      (hfree : RoleFree r terms.newAdmin) (hmax : r.admins.length < maxAdmins) :
      AdminChanged terms r f
        { r with
          admins := r.admins ++ [terms.newAdmin]
          isAdmin := Function.update r.isAdmin terms.newAdmin true } f
  | remove {admins : List Address} (hkind : terms.kind = .remove)
      (hadmin : r.isAdmin terms.currentAdmin = true)
      (henough : r.requiredApprovals < r.admins.length - 1)
      (hswap : swapRemove terms.currentAdmin r.admins = some admins) :
      AdminChanged terms r f
        { r with
          isAdmin := Function.update r.isAdmin terms.currentAdmin false
          admins := admins }
        (Function.update f terms.currentAdmin false)
  | replace {admins : List Address} (hkind : terms.kind = .replace) (hne : terms.newAdmin ≠ 0)
      (hfree : RoleFree r terms.newAdmin) (hadmin : r.isAdmin terms.currentAdmin = true)
      (hswap : swapReplace terms.currentAdmin terms.newAdmin r.admins = some admins) :
      AdminChanged terms r f
        { r with
          admins := admins
          isAdmin := Function.update (Function.update r.isAdmin terms.currentAdmin false)
            terms.newAdmin true }
        (Function.update (Function.update f terms.currentAdmin false) terms.newAdmin false)
  | threshold (hkind : terms.kind = .threshold) (htwo : 2 ≤ terms.newThreshold)
      (hlt : terms.newThreshold < r.admins.length)
      (hne : terms.newThreshold ≠ r.requiredApprovals) :
      AdminChanged terms r f { r with requiredApprovals := terms.newThreshold } f
  | relayerAdd (hkind : terms.kind = .relayerAdd) (hne : terms.newAdmin ≠ 0)
      (hfree : RoleFree r terms.newAdmin) :
      AdminChanged terms r f
        { r with isRelayer := Function.update r.isRelayer terms.newAdmin true } f
  | relayerRemove (hkind : terms.kind = .relayerRemove)
      (hrelayer : r.isRelayer terms.currentAdmin = true) :
      AdminChanged terms r f
        { r with isRelayer := Function.update r.isRelayer terms.currentAdmin false } f

def adminChangeEvent (env : Env) (terms : AdminChangeTerms) (oldThreshold : ℕ) : Event :=
  match terms.kind with
  | .add => .adminAdded terms.newAdmin
  | .remove => .adminRemoved terms.currentAdmin
  | .replace => .adminReplaced terms.currentAdmin terms.newAdmin
  | .threshold => .requiredApprovalsUpdated oldThreshold terms.newThreshold
  | .relayerAdd => .relayerUpdated terms.newAdmin true env.sender
  | .relayerRemove => .relayerUpdated terms.currentAdmin false env.sender

def RoleStore.advance (r : RoleStore) : RoleStore :=
  { r with governanceEpoch := r.governanceEpoch + 1 }

/-! ### The rules -/

/-- The guards a successful call passed and the state it leaves. -/
inductive Effect (P : Platform T) (env : Env) : Call → State T → State T → Prop
  -- pausing
  | pause {s : State T} (hadmin : s.roles.isAdmin env.sender = true)
      (hpaused : s.pausing.paused = false) :
      Effect P env .pause s
        { s with
          pausing := { s.pausing with paused := true }
          log := s.log ++ [.paused env.sender] }
  | pauseClaims {s : State T} (hadmin : s.roles.isAdmin env.sender = true)
      (hpaused : s.pausing.claimsPaused = false) :
      Effect P env .pauseClaims s
        { s with
          pausing := { s.pausing with claimsPaused := true }
          log := s.log ++ [.claimsPaused env.sender] }
  | pauseTrade {s : State T} {tradeId : ℕ} (hadmin : s.roles.isAdmin env.sender = true)
      (hid : tradeId < s.book.tradeCounter) (hpaused : s.pausing.tradePaused tradeId = false) :
      Effect P env (.pauseTrade tradeId) s
        { s with
          pausing := { s.pausing with
            tradePaused := Function.update s.pausing.tradePaused tradeId true }
          log := s.log ++ [.tradePaused tradeId env.sender] }
  | proposeUnpause {s : State T} {scope : PauseScope} {tradeId : ℕ} {incidentRef : Bytes32}
      (hadmin : s.roles.isAdmin env.sender = true) (href : incidentRef ≠ 0)
      (hscope : ScopePaused scope tradeId s)
      (hnone : s.unpausing.hasActiveUnpauseProposal = false) :
      Effect P env (.proposeUnpause scope tradeId incidentRef) s
        { s with
          unpausing :=
            { unpauseProposal := newUnpauseProposal env scope tradeId incidentRef
                s.roles.governanceEpoch
              unpauseHasApproved :=
                Function.update s.unpausing.unpauseHasApproved env.sender true
              hasActiveUnpauseProposal := true }
          log := s.log ++
            [.unpauseProposed env.sender scope tradeId incidentRef s.roles.governanceEpoch] ++
            [.unpauseApproved env.sender 1 s.roles.requiredApprovals] }
  | replaceUnpause {s : State T} {scope : PauseScope} {tradeId : ℕ} {incidentRef : Bytes32}
      (hadmin : s.roles.isAdmin env.sender = true) (href : incidentRef ≠ 0)
      (hscope : ScopePaused scope tradeId s)
      (hsome : s.unpausing.hasActiveUnpauseProposal = true)
      (hstale : UnpauseStaleOrExpired env s) :
      Effect P env (.proposeUnpause scope tradeId incidentRef) s
        { s with
          unpausing :=
            { unpauseProposal := newUnpauseProposal env scope tradeId incidentRef
                s.roles.governanceEpoch
              unpauseHasApproved := Function.update
                (clearApprovals s.roles.admins s.unpausing.unpauseHasApproved) env.sender true
              hasActiveUnpauseProposal := true }
          log := s.log ++ [.unpauseProposalCancelled env.sender] ++
            [.unpauseProposed env.sender scope tradeId incidentRef s.roles.governanceEpoch] ++
            [.unpauseApproved env.sender 1 s.roles.requiredApprovals] }
  | approveUnpause {s : State T} (hadmin : s.roles.isAdmin env.sender = true)
      (hactive : s.unpausing.hasActiveUnpauseProposal = true)
      (hopen : s.unpausing.unpauseProposal.executed = false)
      (hepoch : s.unpausing.unpauseProposal.epoch = s.roles.governanceEpoch)
      (hscope : ScopePaused s.unpausing.unpauseProposal.payload.scope
        s.unpausing.unpauseProposal.payload.tradeId s)
      (hnew : s.unpausing.unpauseHasApproved env.sender = false)
      (hfew : s.unpausing.unpauseProposal.approvalCount + 1 < s.roles.requiredApprovals) :
      Effect P env .approveUnpause s
        { s with
          unpausing := { s.unpausing with
            unpauseHasApproved := Function.update s.unpausing.unpauseHasApproved env.sender true
            unpauseProposal := { s.unpausing.unpauseProposal with
              approvalCount := s.unpausing.unpauseProposal.approvalCount + 1 } }
          log := s.log ++ [.unpauseApproved env.sender
            (s.unpausing.unpauseProposal.approvalCount + 1) s.roles.requiredApprovals] }
  | executeUnpause {s : State T} (hadmin : s.roles.isAdmin env.sender = true)
      (hactive : s.unpausing.hasActiveUnpauseProposal = true)
      (hopen : s.unpausing.unpauseProposal.executed = false)
      (hepoch : s.unpausing.unpauseProposal.epoch = s.roles.governanceEpoch)
      (hscope : ScopePaused s.unpausing.unpauseProposal.payload.scope
        s.unpausing.unpauseProposal.payload.tradeId s)
      (hnew : s.unpausing.unpauseHasApproved env.sender = false)
      (hquorum : s.roles.requiredApprovals ≤ s.unpausing.unpauseProposal.approvalCount + 1) :
      Effect P env .approveUnpause s
        { s with
          pausing := s.pausing.lift s.unpausing.unpauseProposal.payload
          unpausing :=
            { unpauseProposal := { s.unpausing.unpauseProposal with
                approvalCount := s.unpausing.unpauseProposal.approvalCount + 1
                executed := true }
              unpauseHasApproved := clearApprovals s.roles.admins
                (Function.update s.unpausing.unpauseHasApproved env.sender true)
              hasActiveUnpauseProposal := false }
          log := s.log ++ [.unpauseApproved env.sender
              (s.unpausing.unpauseProposal.approvalCount + 1) s.roles.requiredApprovals] ++
            [liftEvent env s.unpausing.unpauseProposal.payload] }
  | cancelUnpauseProposal {s : State T} (hadmin : s.roles.isAdmin env.sender = true)
      (hactive : s.unpausing.hasActiveUnpauseProposal = true)
      (hopen : s.unpausing.unpauseProposal.executed = false)
      (hmay : env.sender = s.unpausing.unpauseProposal.proposer ∨ UnpauseStaleOrExpired env s) :
      Effect P env .cancelUnpauseProposal s
        { s with
          unpausing :=
            { unpauseProposal := default
              unpauseHasApproved := clearApprovals s.roles.admins s.unpausing.unpauseHasApproved
              hasActiveUnpauseProposal := false }
          log := s.log ++ [.unpauseProposalCancelled env.sender] }
  | disableOracleEmergency {s : State T} (hadmin : s.roles.isAdmin env.sender = true)
      (hactive : s.roles.oracleActive = true) :
      Effect P env .disableOracleEmergency s
        { s with
          roles := { s.roles with oracleActive := false }
          pausing := { s.pausing with paused := true }
          log := s.log ++ (if s.pausing.paused = true then [] else [.paused env.sender]) ++
            [.oracleDisabledEmergency env.sender s.roles.oracleAddress] }
  -- trades
  | createTrade {s : State T} {args : CreateTradeArgs} {usdc : T}
      (hsender : s.roles.isAdmin env.sender = true ∨ s.roles.isRelayer env.sender = true)
      (hpaused : s.pausing.paused = false) (hamounts : validateTradeAmounts P args = .ok ())
      (hschedule : validateLaunchSettlementSchedule P args.platformFeesAmount
        args.supplierFirstTranche args.supplierSecondTranche = .ok ())
      (hauth : Authorized P env args.buyer args.message args.authorizationNonce
        args.authorizationDeadline args.authorizationSignature s)
      (hpay : P.receiveWithAuthorization s.usdc env.timestamp P.self args.buyer P.self
        args.totalAmount args.usdcAuthorization = .ok usdc) :
      Effect P env (.createTradeWithAuthorization args) s
        { s with
          authorizationNonces :=
            Function.update s.authorizationNonces args.buyer (args.authorizationNonce + 1)
          book := s.book.push (newTrade env args s.book.tradeCounter)
          usdc := usdc
          log := s.log ++
            [.authorizationConsumed args.buyer (actionName P .createTrade)
              args.authorizationNonce env.sender args.authorizationDeadline] ++
            [.tradeLocked s.book.tradeCounter args.buyer args.supplier args.totalAmount
              args.logisticsAmount args.platformFeesAmount args.supplierFirstTranche
              args.supplierSecondTranche args.ricardianHash] ++
            [.gaslessTradeFunded s.book.tradeCounter args.buyer args.usdcAuthorization.nonce
              args.totalAmount] ++
            [.relayedActionExecuted env.sender args.buyer (actionName P .createTrade)
              s.book.tradeCounter] }
  | claimTreasury {s : State T} {usdc : T}
      (hsender : env.sender = s.roles.treasuryAddress ∨ s.roles.isAdmin env.sender = true)
      (hpaused : s.pausing.claimsPaused = false)
      (hpos : 0 < s.claims.claimableUsdc s.roles.treasuryAddress)
      (hreceiver : s.roles.treasuryPayoutAddress ≠ 0)
      (hle : s.claims.claimableUsdc s.roles.treasuryAddress ≤ s.claims.totalClaimableUsdc)
      (hpay : P.safeTransfer s.usdc P.self s.roles.treasuryPayoutAddress
        (s.claims.claimableUsdc s.roles.treasuryAddress) = .ok usdc) :
      Effect P env .claimTreasury s
        { s with
          claims :=
            { claimableUsdc :=
                Function.update s.claims.claimableUsdc s.roles.treasuryAddress 0
              totalClaimableUsdc := s.claims.totalClaimableUsdc -
                s.claims.claimableUsdc s.roles.treasuryAddress }
          usdc := usdc
          log := s.log ++ [.treasuryClaimed s.roles.treasuryAddress
            s.roles.treasuryPayoutAddress (s.claims.claimableUsdc s.roles.treasuryAddress)
            env.sender] }
  | releaseFundsStage1 {s : State T} {tradeId : ℕ} {usdc : T}
      (hsender : env.sender = s.roles.oracleAddress) (hactive : s.roles.oracleActive = true)
      (hpaused : s.pausing.paused = false) (htrade : s.pausing.tradePaused tradeId = false)
      (hid : tradeId < s.book.tradeCounter) (hstatus : (s.book.trades tradeId).status = .locked)
      (hpay : Pays P s.usdc (s.book.trades tradeId).supplierAddress
        (s.book.trades tradeId).supplierFirstTranche usdc) :
      Effect P env (.releaseFundsStage1 tradeId) s
        { s with
          book := (s.book.setStatus tradeId .inTransit).setInTransitSince tradeId env.timestamp
          claims := (s.claims.accrue s.roles.treasuryAddress
            (s.book.trades tradeId).logisticsAmount).accrue s.roles.treasuryAddress
            (s.book.trades tradeId).platformFeesAmount
          usdc := usdc
          log := s.log ++
            paymentLog (s.book.trades tradeId).supplierFirstTranche
              (.supplierPayoutTransferred tradeId (s.book.trades tradeId).supplierAddress
                (s.book.trades tradeId).supplierFirstTranche .stage1Supplier env.sender) ++
            paymentLog (s.book.trades tradeId).logisticsAmount
              (.claimableAccrued tradeId s.roles.treasuryAddress
                (s.book.trades tradeId).logisticsAmount .stage1LogisticsFee) ++
            paymentLog (s.book.trades tradeId).platformFeesAmount
              (.claimableAccrued tradeId s.roles.treasuryAddress
                (s.book.trades tradeId).platformFeesAmount .stage1PlatformFee) ++
            [.fundsReleasedStage1 tradeId (s.book.trades tradeId).supplierAddress
              (s.book.trades tradeId).supplierFirstTranche s.roles.treasuryAddress
              (s.book.trades tradeId).logisticsAmount] ++
            [.platformFeesPaidStage1 tradeId s.roles.treasuryAddress
              (s.book.trades tradeId).platformFeesAmount
              (splitPlatformFeeComponents (s.book.trades tradeId).platformFeesAmount).1
              (splitPlatformFeeComponents (s.book.trades tradeId).platformFeesAmount).2] }
  | confirmInspectionAvailable {s : State T} {tradeId windowSeconds : ℕ}
      (hsender : env.sender = s.roles.oracleAddress) (hactive : s.roles.oracleActive = true)
      (hpaused : s.pausing.paused = false) (htrade : s.pausing.tradePaused tradeId = false)
      (hid : tradeId < s.book.tradeCounter)
      (hstatus : (s.book.trades tradeId).status = .inTransit)
      (hwindow : windowSeconds = standardInspectionWindow ∨
        windowSeconds = packagedLocalInspectionWindow) :
      Effect P env (.confirmInspectionAvailable tradeId windowSeconds) s
        { s with
          book := s.book.arrive tradeId windowSeconds env.timestamp
          log := s.log ++ [.inspectionAvailable tradeId env.timestamp windowSeconds
            (env.timestamp + windowSeconds)] }
  | openDispute {s : State T} {tradeId : ℕ} {auth : UserAuthorization}
      (hsender : s.roles.isAdmin env.sender = true ∨ s.roles.isRelayer env.sender = true)
      (hpaused : s.pausing.paused = false) (htrade : s.pausing.tradePaused tradeId = false)
      (hid : tradeId < s.book.tradeCounter)
      (hauth : AuthorizedAction P env (s.book.trades tradeId).buyerAddress .openDispute tradeId
        auth s)
      (hstatus : (s.book.trades tradeId).status = .arrivalConfirmed)
      (harrival : 0 < (s.book.trades tradeId).arrivalTimestamp)
      (hwindow : env.timestamp ≤
        (s.book.trades tradeId).arrivalTimestamp + inspectionWindow tradeId s) :
      Effect P env (.openDisputeWithAuthorization tradeId auth) s
        { s with
          authorizationNonces := Function.update s.authorizationNonces
            (s.book.trades tradeId).buyerAddress (auth.nonce + 1)
          book := s.book.setStatus tradeId .frozen
          log := s.log ++
            [.authorizationConsumed (s.book.trades tradeId).buyerAddress
              (actionName P .openDispute) auth.nonce env.sender auth.deadline] ++
            [.disputeOpenedByBuyer tradeId] ++
            [.relayedActionExecuted env.sender (s.book.trades tradeId).buyerAddress
              (actionName P .openDispute) tradeId] }
  | finalizeAfterDisputeWindow {s : State T} {tradeId : ℕ} {usdc : T}
      (hsender : env.sender = s.roles.oracleAddress ∨ s.roles.isAdmin env.sender = true)
      (hactive : env.sender = s.roles.oracleAddress → s.roles.oracleActive = true)
      (hpaused : s.pausing.paused = false) (htrade : s.pausing.tradePaused tradeId = false)
      (hid : tradeId < s.book.tradeCounter)
      (hstatus : (s.book.trades tradeId).status = .arrivalConfirmed)
      (harrival : 0 < (s.book.trades tradeId).arrivalTimestamp)
      (hwindow : (s.book.trades tradeId).arrivalTimestamp + inspectionWindow tradeId s <
        env.timestamp)
      (hpay : Pays P s.usdc (s.book.trades tradeId).supplierAddress
        (s.book.trades tradeId).supplierSecondTranche usdc) :
      Effect P env (.finalizeAfterDisputeWindow tradeId) s
        { s with
          book := (s.book.setStatus tradeId .closed).setInTransitSince tradeId 0
          usdc := usdc
          log := logFinalTranche env s tradeId s.log }
  | finalizeAfterDisputeWindowWithAuthorization {s : State T} {tradeId : ℕ}
      {auth : UserAuthorization} {usdc : T}
      (hsender : s.roles.isAdmin env.sender = true ∨ s.roles.isRelayer env.sender = true)
      (hpaused : s.pausing.paused = false) (htrade : s.pausing.tradePaused tradeId = false)
      (hid : tradeId < s.book.tradeCounter)
      (hauth : AuthorizedAction P env (s.book.trades tradeId).supplierAddress
        .finalizeAfterDisputeWindow tradeId auth s)
      (hstatus : (s.book.trades tradeId).status = .arrivalConfirmed)
      (harrival : 0 < (s.book.trades tradeId).arrivalTimestamp)
      (hwindow : (s.book.trades tradeId).arrivalTimestamp + inspectionWindow tradeId s <
        env.timestamp)
      (hpay : Pays P s.usdc (s.book.trades tradeId).supplierAddress
        (s.book.trades tradeId).supplierSecondTranche usdc) :
      Effect P env (.finalizeAfterDisputeWindowWithAuthorization tradeId auth) s
        { s with
          authorizationNonces := Function.update s.authorizationNonces
            (s.book.trades tradeId).supplierAddress (auth.nonce + 1)
          book := (s.book.setStatus tradeId .closed).setInTransitSince tradeId 0
          usdc := usdc
          log := logFinalTranche env s tradeId (s.log ++
            [.authorizationConsumed (s.book.trades tradeId).supplierAddress
              (actionName P .finalizeAfterDisputeWindow) auth.nonce env.sender auth.deadline]) ++
            [.relayedActionExecuted env.sender (s.book.trades tradeId).supplierAddress
              (actionName P .finalizeAfterDisputeWindow) tradeId] }
  | finalizeAfterInspectionAcceptance {s : State T} {tradeId : ℕ} {auth : UserAuthorization}
      {usdc : T}
      (hsender : s.roles.isAdmin env.sender = true ∨ s.roles.isRelayer env.sender = true)
      (hpaused : s.pausing.paused = false) (htrade : s.pausing.tradePaused tradeId = false)
      (hid : tradeId < s.book.tradeCounter)
      (hstatus : (s.book.trades tradeId).status = .arrivalConfirmed)
      (hauth : AuthorizedAction P env (s.book.trades tradeId).buyerAddress
        .finalizeAfterInspectionAcceptance tradeId auth s)
      (hpay : Pays P s.usdc (s.book.trades tradeId).supplierAddress
        (s.book.trades tradeId).supplierSecondTranche usdc) :
      Effect P env (.finalizeAfterInspectionAcceptanceWithAuthorization tradeId auth) s
        { s with
          authorizationNonces := Function.update s.authorizationNonces
            (s.book.trades tradeId).buyerAddress (auth.nonce + 1)
          book := (s.book.setStatus tradeId .closed).setInTransitSince tradeId 0
          usdc := usdc
          log := logFinalTranche env s tradeId (s.log ++
            [.authorizationConsumed (s.book.trades tradeId).buyerAddress
              (actionName P .finalizeAfterInspectionAcceptance) auth.nonce env.sender
              auth.deadline]) ++
            [.inspectionAcceptedForFinalRelease tradeId env.timestamp] ++
            [.relayedActionExecuted env.sender (s.book.trades tradeId).buyerAddress
              (actionName P .finalizeAfterInspectionAcceptance) tradeId] }
  | cancelLockedTrade {s : State T} {tradeId : ℕ} {auth : UserAuthorization} {usdc : T}
      (hsender : s.roles.isAdmin env.sender = true ∨ s.roles.isRelayer env.sender = true)
      (hpaused : s.pausing.paused = false) (htrade : s.pausing.tradePaused tradeId = false)
      (hid : tradeId < s.book.tradeCounter)
      (hauth : AuthorizedAction P env (s.book.trades tradeId).buyerAddress .cancelLockedTimeout
        tradeId auth s)
      (hstatus : (s.book.trades tradeId).status = .locked)
      (htimeout : (s.book.trades tradeId).createdAt + lockTimeout < env.timestamp)
      (hpay : Pays P s.usdc (s.book.trades tradeId).buyerAddress
        (s.book.trades tradeId).totalAmountLocked usdc) :
      Effect P env (.cancelLockedTradeAfterTimeoutWithAuthorization tradeId auth) s
        { s with
          authorizationNonces := Function.update s.authorizationNonces
            (s.book.trades tradeId).buyerAddress (auth.nonce + 1)
          book := s.book.setStatus tradeId .closed
          usdc := usdc
          log := s.log ++
            [.authorizationConsumed (s.book.trades tradeId).buyerAddress
              (actionName P .cancelLockedTimeout) auth.nonce env.sender auth.deadline] ++
            paymentLog (s.book.trades tradeId).totalAmountLocked
              (.buyerRefundTransferred tradeId (s.book.trades tradeId).buyerAddress
                (s.book.trades tradeId).totalAmountLocked .lockTimeoutBuyerRefund env.sender) ++
            [.tradeCancelledAfterLockTimeout tradeId (s.book.trades tradeId).buyerAddress
              (s.book.trades tradeId).totalAmountLocked] ++
            [.relayedActionExecuted env.sender (s.book.trades tradeId).buyerAddress
              (actionName P .cancelLockedTimeout) tradeId] }
  | refundInTransit {s : State T} {tradeId : ℕ} {auth : UserAuthorization} {usdc : T}
      (hsender : s.roles.isAdmin env.sender = true ∨ s.roles.isRelayer env.sender = true)
      (hpaused : s.pausing.paused = false) (htrade : s.pausing.tradePaused tradeId = false)
      (hid : tradeId < s.book.tradeCounter)
      (hauth : AuthorizedAction P env (s.book.trades tradeId).buyerAddress
        .refundInTransitTimeout tradeId auth s)
      (hstatus : (s.book.trades tradeId).status = .inTransit)
      (hsince : 0 < s.book.inTransitSince tradeId)
      (htimeout : s.book.inTransitSince tradeId + inTransitTimeout < env.timestamp)
      (hpay : Pays P s.usdc (s.book.trades tradeId).buyerAddress
        (s.book.trades tradeId).supplierSecondTranche usdc) :
      Effect P env (.refundInTransitAfterTimeoutWithAuthorization tradeId auth) s
        { s with
          authorizationNonces := Function.update s.authorizationNonces
            (s.book.trades tradeId).buyerAddress (auth.nonce + 1)
          book := (s.book.setStatus tradeId .closed).setInTransitSince tradeId 0
          usdc := usdc
          log := s.log ++
            [.authorizationConsumed (s.book.trades tradeId).buyerAddress
              (actionName P .refundInTransitTimeout) auth.nonce env.sender auth.deadline] ++
            paymentLog (s.book.trades tradeId).supplierSecondTranche
              (.buyerRefundTransferred tradeId (s.book.trades tradeId).buyerAddress
                (s.book.trades tradeId).supplierSecondTranche .inTransitTimeoutBuyerRefund
                env.sender) ++
            [.inTransitTimeoutRefunded tradeId (s.book.trades tradeId).buyerAddress
              (s.book.trades tradeId).supplierSecondTranche] ++
            [.relayedActionExecuted env.sender (s.book.trades tradeId).buyerAddress
              (actionName P .refundInTransitTimeout) tradeId] }
  -- disputes
  | proposeDispute {s : State T} {tradeId : ℕ} {disputeStatus : DisputeStatus}
      (hadmin : s.roles.isAdmin env.sender = true) (hpaused : s.pausing.paused = false)
      (htrade : s.pausing.tradePaused tradeId = false) (hid : tradeId < s.book.tradeCounter)
      (hstatus : (s.book.trades tradeId).status = .frozen)
      (hnone : s.disputes.tradeHasActiveDisputeProposal tradeId = false) :
      Effect P env (.proposeDisputeSolution tradeId disputeStatus) s
        { s with
          disputes :=
            { board := s.disputes.board.propose disputeProposalTtl env.timestamp
                s.roles.governanceEpoch env.sender
                { tradeId := tradeId, disputeStatus := disputeStatus }
              tradeHasActiveDisputeProposal :=
                Function.update s.disputes.tradeHasActiveDisputeProposal tradeId true
              tradeActiveDisputeProposalId := Function.update
                s.disputes.tradeActiveDisputeProposalId tradeId s.disputes.board.counter }
          log := s.log ++ [.disputeSolutionProposed s.disputes.board.counter tradeId
            disputeStatus env.sender] }
  | replaceDispute {s : State T} {tradeId : ℕ} {disputeStatus : DisputeStatus}
      (hadmin : s.roles.isAdmin env.sender = true) (hpaused : s.pausing.paused = false)
      (htrade : s.pausing.tradePaused tradeId = false) (hid : tradeId < s.book.tradeCounter)
      (hstatus : (s.book.trades tradeId).status = .frozen)
      (hsome : s.disputes.tradeHasActiveDisputeProposal tradeId = true)
      (hexpired : ActiveDisputeExpired env tradeId s)
      (hcancelled : s.disputes.board.cancelled
        (s.disputes.tradeActiveDisputeProposalId tradeId) = false) :
      Effect P env (.proposeDisputeSolution tradeId disputeStatus) s
        { s with
          disputes :=
            { board := (s.disputes.board.markCancelled
                (s.disputes.tradeActiveDisputeProposalId tradeId)).propose disputeProposalTtl
                env.timestamp s.roles.governanceEpoch env.sender
                { tradeId := tradeId, disputeStatus := disputeStatus }
              tradeHasActiveDisputeProposal := Function.update
                (Function.update s.disputes.tradeHasActiveDisputeProposal tradeId false)
                tradeId true
              tradeActiveDisputeProposalId := Function.update
                (Function.update s.disputes.tradeActiveDisputeProposalId tradeId 0)
                tradeId s.disputes.board.counter }
          log := s.log ++ [.disputeProposalExpiredCancelled
              (s.disputes.tradeActiveDisputeProposalId tradeId) tradeId env.sender] ++
            [.disputeSolutionProposed s.disputes.board.counter tradeId disputeStatus
              env.sender] }
  | approveDispute {s : State T} {proposalId : ℕ}
      (hadmin : s.roles.isAdmin env.sender = true) (hpaused : s.pausing.paused = false)
      (hactive : IsActive env s.roles.governanceEpoch s.disputes.board proposalId)
      (htrade : s.pausing.tradePaused
        (s.disputes.board.proposals proposalId).payload.tradeId = false)
      (hstatus : (s.book.trades
        (s.disputes.board.proposals proposalId).payload.tradeId).status = .frozen)
      (hnew : s.disputes.board.hasApproved proposalId env.sender = false)
      (hfew : (s.disputes.board.proposals proposalId).approvalCount + 1 <
        s.roles.requiredApprovals) :
      Effect P env (.approveDisputeSolution proposalId) s
        { s with
          disputes := { s.disputes with
            board := s.disputes.board.approve proposalId env.sender }
          log := s.log ++ [.disputeApproved proposalId env.sender
            ((s.disputes.board.proposals proposalId).approvalCount + 1)
            s.roles.requiredApprovals] }
  | executeDispute {s : State T} {proposalId tradeId : ℕ} {disputeStatus : DisputeStatus}
      {usdc : T}
      (hadmin : s.roles.isAdmin env.sender = true) (hpaused : s.pausing.paused = false)
      (hactive : IsActive env s.roles.governanceEpoch s.disputes.board proposalId)
      (hpayload : (s.disputes.board.proposals proposalId).payload = ⟨tradeId, disputeStatus⟩)
      (htrade : s.pausing.tradePaused tradeId = false)
      (hstatus : (s.book.trades tradeId).status = .frozen)
      (hnew : s.disputes.board.hasApproved proposalId env.sender = false)
      (hquorum : s.roles.requiredApprovals ≤
        (s.disputes.board.proposals proposalId).approvalCount + 1)
      (hpay : Pays P s.usdc (disputeStatus.recipient (s.book.trades tradeId))
        (s.book.trades tradeId).supplierSecondTranche usdc) :
      Effect P env (.approveDisputeSolution proposalId) s
        { s with
          disputes := { s.disputes with
            board := (s.disputes.board.approve proposalId env.sender).markExecuted
              proposalId }.clearActive tradeId
          book := (s.book.setStatus tradeId .closed).setInTransitSince tradeId 0
          usdc := usdc
          log := s.log ++
            [.disputeApproved proposalId env.sender
              ((s.disputes.board.proposals proposalId).approvalCount + 1)
              s.roles.requiredApprovals] ++
            paymentLog (s.book.trades tradeId).supplierSecondTranche
              (disputeStatus.event env tradeId (s.book.trades tradeId)) ++
            [.disputePayout tradeId proposalId
              (disputeStatus.recipient (s.book.trades tradeId))
              (s.book.trades tradeId).supplierSecondTranche disputeStatus] ++
            [.disputeFinalized proposalId tradeId disputeStatus] }
  | cancelActiveDispute {s : State T} {proposalId tradeId : ℕ}
      (hadmin : s.roles.isAdmin env.sender = true) (hpaused : s.pausing.paused = false)
      (hid : proposalId < s.disputes.board.counter)
      (hexpired : IsExpired env s.disputes.board proposalId)
      (hpayload : (s.disputes.board.proposals proposalId).payload.tradeId = tradeId)
      (htrade : s.pausing.tradePaused tradeId = false)
      (hactive : s.disputes.tradeHasActiveDisputeProposal tradeId = true ∧
        s.disputes.tradeActiveDisputeProposalId tradeId = proposalId) :
      Effect P env (.cancelExpiredDisputeProposal proposalId) s
        { s with
          disputes := { s.disputes with
            board := s.disputes.board.markCancelled proposalId }.clearActive tradeId
          log := s.log ++ [.disputeProposalExpiredCancelled proposalId tradeId env.sender] }
  | cancelInactiveDispute {s : State T} {proposalId tradeId : ℕ}
      (hadmin : s.roles.isAdmin env.sender = true) (hpaused : s.pausing.paused = false)
      (hid : proposalId < s.disputes.board.counter)
      (hexpired : IsExpired env s.disputes.board proposalId)
      (hpayload : (s.disputes.board.proposals proposalId).payload.tradeId = tradeId)
      (htrade : s.pausing.tradePaused tradeId = false)
      (hinactive : ¬ (s.disputes.tradeHasActiveDisputeProposal tradeId = true ∧
        s.disputes.tradeActiveDisputeProposalId tradeId = proposalId)) :
      Effect P env (.cancelExpiredDisputeProposal proposalId) s
        { s with
          disputes := { s.disputes with board := s.disputes.board.markCancelled proposalId }
          log := s.log ++ [.disputeProposalExpiredCancelled proposalId tradeId env.sender] }
  -- oracle updates
  | proposeOracleUpdate {s : State T} {newOracle : Address} {eta : ℕ}
      (hadmin : s.roles.isAdmin env.sender = true) (hne : newOracle ≠ 0)
      (hfree : RoleFree s.roles newOracle)
      (heta : eta = if s.roles.oracleActive = true then
        env.timestamp + s.roles.governanceTimelock else env.timestamp) :
      Effect P env (.proposeOracleUpdate newOracle) s
        { s with
          oracleUpdates := s.oracleUpdates.propose governanceProposalTtl env.timestamp
            s.roles.governanceEpoch env.sender ⟨newOracle, eta, !s.roles.oracleActive⟩
          log := s.log ++
            [.oracleUpdateProposed s.oracleUpdates.counter env.sender newOracle eta
              (!s.roles.oracleActive)] ++
            [.oracleUpdateApproved s.oracleUpdates.counter env.sender 1
              s.roles.requiredApprovals] }
  | approveOracleUpdate {s : State T} {proposalId : ℕ}
      (hadmin : s.roles.isAdmin env.sender = true)
      (hactive : IsActive env s.roles.governanceEpoch s.oracleUpdates proposalId)
      (hnew : s.oracleUpdates.hasApproved proposalId env.sender = false) :
      Effect P env (.approveOracleUpdate proposalId) s
        { s with
          oracleUpdates := s.oracleUpdates.approve proposalId env.sender
          log := s.log ++ [.oracleUpdateApproved proposalId env.sender
            ((s.oracleUpdates.proposals proposalId).approvalCount + 1)
            s.roles.requiredApprovals] }
  | executeOracleUpdate {s : State T} {proposalId : ℕ}
      (hadmin : s.roles.isAdmin env.sender = true)
      (hactive : IsActive env s.roles.governanceEpoch s.oracleUpdates proposalId)
      (hquorum : s.roles.requiredApprovals ≤
        (s.oracleUpdates.proposals proposalId).approvalCount)
      (heta : (s.oracleUpdates.proposals proposalId).payload.eta ≤ env.timestamp) :
      Effect P env (.executeOracleUpdate proposalId) s
        { s with
          oracleUpdates := s.oracleUpdates.markExecuted proposalId
          roles := RoleStore.advance { s.roles with
            oracleAddress := (s.oracleUpdates.proposals proposalId).payload.newOracle
            oracleActive := true }
          log := s.log ++ [.governanceEpochAdvanced (s.roles.governanceEpoch + 1)] ++
            [.oracleUpdated s.roles.oracleAddress
              (s.oracleUpdates.proposals proposalId).payload.newOracle] }
  | cancelExpiredOracleUpdate {s : State T} {proposalId : ℕ}
      (hadmin : s.roles.isAdmin env.sender = true) (hid : proposalId < s.oracleUpdates.counter)
      (hexpired : IsExpired env s.oracleUpdates proposalId) :
      Effect P env (.cancelExpiredOracleUpdateProposal proposalId) s
        { s with
          oracleUpdates := s.oracleUpdates.markCancelled proposalId
          log := s.log ++ [.oracleUpdateProposalExpiredCancelled proposalId env.sender] }
  -- admin changes
  | proposeAdminChange {s : State T} {kind : AdminChangeKind} {currentAdmin newAdmin : Address}
      {newThreshold : ℕ} (hadmin : s.roles.isAdmin env.sender = true)
      (hvalid : validateAdminChange kind currentAdmin newAdmin newThreshold s = .ok ()) :
      Effect P env (.proposeAdminChange kind currentAdmin newAdmin newThreshold) s
        { s with
          adminChanges := s.adminChanges.propose governanceProposalTtl env.timestamp
            s.roles.governanceEpoch env.sender
            { kind := kind, currentAdmin := currentAdmin, newAdmin := newAdmin,
              newThreshold := newThreshold,
              eta := env.timestamp + s.roles.governanceTimelock }
          log := s.log ++
            [.adminChangeProposed s.adminChanges.counter env.sender kind currentAdmin newAdmin
              newThreshold (env.timestamp + s.roles.governanceTimelock)
              s.roles.governanceEpoch] ++
            [.adminChangeApproved s.adminChanges.counter env.sender 1
              s.roles.requiredApprovals] }
  | approveAdminChange {s : State T} {proposalId : ℕ}
      (hadmin : s.roles.isAdmin env.sender = true)
      (hactive : IsActive env s.roles.governanceEpoch s.adminChanges proposalId)
      (hnew : s.adminChanges.hasApproved proposalId env.sender = false) :
      Effect P env (.approveAdminChange proposalId) s
        { s with
          adminChanges := s.adminChanges.approve proposalId env.sender
          log := s.log ++ [.adminChangeApproved proposalId env.sender
            ((s.adminChanges.proposals proposalId).approvalCount + 1)
            s.roles.requiredApprovals] }
  | executeAdminChange {s : State T} {proposalId : ℕ} {terms : AdminChangeTerms}
      {roles : RoleStore} {hasApproved : Address → Bool}
      (hadmin : s.roles.isAdmin env.sender = true)
      (hactive : IsActive env s.roles.governanceEpoch s.adminChanges proposalId)
      (hpayload : (s.adminChanges.proposals proposalId).payload = terms)
      (hquorum : s.roles.requiredApprovals ≤
        (s.adminChanges.proposals proposalId).approvalCount)
      (heta : terms.eta ≤ env.timestamp)
      (hchange : AdminChanged terms s.roles s.unpausing.unpauseHasApproved roles hasApproved) :
      Effect P env (.executeAdminChange proposalId) s
        { s with
          adminChanges := s.adminChanges.markExecuted proposalId
          roles := roles.advance
          unpausing := { s.unpausing with unpauseHasApproved := hasApproved }
          log := s.log ++ [adminChangeEvent env terms s.roles.requiredApprovals] ++
            [.adminChangeExecuted proposalId terms.kind terms.currentAdmin terms.newAdmin
              terms.newThreshold] ++
            [.governanceEpochAdvanced (roles.governanceEpoch + 1)] }
  | cancelAdminChangeProposal {s : State T} {proposalId : ℕ}
      (hadmin : s.roles.isAdmin env.sender = true)
      (hexpired : IsExpired env s.adminChanges proposalId) :
      Effect P env (.cancelAdminChangeProposal proposalId) s
        { s with
          adminChanges := s.adminChanges.markCancelled proposalId
          log := s.log ++ [.adminChangeProposalCancelled proposalId env.sender] }
  -- treasury payout receiver
  | proposeTreasuryPayout {s : State T} {newPayoutReceiver : Address}
      (hadmin : s.roles.isAdmin env.sender = true) (hne : newPayoutReceiver ≠ 0)
      (hfree : RoleFree s.roles newPayoutReceiver) :
      Effect P env (.proposeTreasuryPayoutAddressUpdate newPayoutReceiver) s
        { s with
          treasuryPayouts := s.treasuryPayouts.propose governanceProposalTtl env.timestamp
            s.roles.governanceEpoch env.sender
            ⟨newPayoutReceiver, env.timestamp + s.roles.governanceTimelock⟩
          log := s.log ++
            [.treasuryPayoutAddressUpdateProposed s.treasuryPayouts.counter env.sender
              newPayoutReceiver (env.timestamp + s.roles.governanceTimelock)] ++
            [.treasuryPayoutAddressUpdateApproved s.treasuryPayouts.counter env.sender 1
              s.roles.requiredApprovals] }
  | approveTreasuryPayout {s : State T} {proposalId : ℕ}
      (hadmin : s.roles.isAdmin env.sender = true)
      (hactive : IsActive env s.roles.governanceEpoch s.treasuryPayouts proposalId)
      (hnew : s.treasuryPayouts.hasApproved proposalId env.sender = false) :
      Effect P env (.approveTreasuryPayoutAddressUpdate proposalId) s
        { s with
          treasuryPayouts := s.treasuryPayouts.approve proposalId env.sender
          log := s.log ++ [.treasuryPayoutAddressUpdateApproved proposalId env.sender
            ((s.treasuryPayouts.proposals proposalId).approvalCount + 1)
            s.roles.requiredApprovals] }
  | executeTreasuryPayout {s : State T} {proposalId : ℕ}
      (hadmin : s.roles.isAdmin env.sender = true)
      (hactive : IsActive env s.roles.governanceEpoch s.treasuryPayouts proposalId)
      (hquorum : s.roles.requiredApprovals ≤
        (s.treasuryPayouts.proposals proposalId).approvalCount)
      (heta : (s.treasuryPayouts.proposals proposalId).payload.eta ≤ env.timestamp)
      (hne : (s.treasuryPayouts.proposals proposalId).payload.newPayoutReceiver ≠ 0) :
      Effect P env (.executeTreasuryPayoutAddressUpdate proposalId) s
        { s with
          treasuryPayouts := s.treasuryPayouts.markExecuted proposalId
          roles := RoleStore.advance { s.roles with
            treasuryPayoutAddress :=
              (s.treasuryPayouts.proposals proposalId).payload.newPayoutReceiver }
          log := s.log ++ [.governanceEpochAdvanced (s.roles.governanceEpoch + 1)] ++
            [.treasuryPayoutAddressUpdated s.roles.treasuryPayoutAddress
              (s.treasuryPayouts.proposals proposalId).payload.newPayoutReceiver] }
  | cancelExpiredTreasuryPayout {s : State T} {proposalId : ℕ}
      (hadmin : s.roles.isAdmin env.sender = true)
      (hid : proposalId < s.treasuryPayouts.counter)
      (hexpired : IsExpired env s.treasuryPayouts proposalId) :
      Effect P env (.cancelExpiredTreasuryPayoutAddressUpdateProposal proposalId) s
        { s with
          treasuryPayouts := s.treasuryPayouts.markCancelled proposalId
          log := s.log ++
            [.treasuryPayoutAddressUpdateProposalExpiredCancelled proposalId env.sender] }

end Cotsel.Escrow
