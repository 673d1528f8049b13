import Cotsel.Escrow.Spec.Inversion

/-!
# Milestones and money

What the calls of the contract do to the trades and to the money, as one short list: nothing, a
new trade, a milestone of an existing trade, or a treasury sweep.  The milestones are those of the
trade's life; the five ways to close are one kind of milestone, told apart by `Outcome`.

Payments are read off the event log, where the contract records each transfer and each amount it
sets aside (`State.payments`).
-/

namespace Cotsel.Escrow

open Ballot Guard

variable {T : Type}

/-! ### Payments -/

/-- Whom a payment is for. -/
inductive Payee
  | supplier
  | buyer
  | treasury
deriving DecidableEq

/-- A transfer for a trade, or an amount set aside for the treasury. -/
structure Payment where
  tradeId : ℕ
  payee : Payee
  recipient : Address
  amount : ℕ
  claimType : ClaimType
deriving DecidableEq

def Event.payment : Event → Option Payment
  | .supplierPayoutTransferred tradeId supplier amount claimType _ =>
    some ⟨tradeId, .supplier, supplier, amount, claimType⟩
  | .buyerRefundTransferred tradeId buyer amount claimType _ =>
    some ⟨tradeId, .buyer, buyer, amount, claimType⟩
  | .claimableAccrued tradeId recipient amount claimType =>
    some ⟨tradeId, .treasury, recipient, amount, claimType⟩
  | _ => none

/-- All payments so far, oldest first. -/
def State.payments (s : State T) : List Payment := s.log.filterMap Event.payment

theorem payment_liftEvent (env : Env) (terms : UnpauseTerms) :
    (liftEvent env terms).payment = none := by
  unfold liftEvent
  cases terms.scope <;> rfl

theorem payment_adminChangeEvent (env : Env) (terms : AdminChangeTerms) (n : ℕ) :
    (adminChangeEvent env terms n).payment = none := by
  unfold adminChangeEvent
  cases terms.kind <;> rfl

/-- Only positive amounts are paid. -/
def positivePayments (ps : List Payment) : List Payment := ps.filter (0 < ·.amount)

section Log

variable {l : List Event} {e : Event}

theorem payments_snoc (he : e.payment = none) :
    (l ++ [e]).filterMap Event.payment = l.filterMap Event.payment := by
  rw [List.filterMap_append, List.filterMap_cons_none he]
  exact List.append_nil _

theorem payments_paymentLog (p : Payment) (he : e.payment = some p) :
    (l ++ paymentLog p.amount e).filterMap Event.payment =
      l.filterMap Event.payment ++ positivePayments [p] := by
  unfold paymentLog positivePayments
  rcases Nat.eq_zero_or_pos p.amount with h | h
  · simp [h]
  · simp [h, he, Nat.pos_iff_ne_zero.mp h]

end Log

/-! ### Milestones -/

/-- The five ways a trade closes. -/
inductive Outcome
  | lockTimeout
  | transitTimeout
  | finalTranche
  | disputeRefund
  | disputeResolve
deriving DecidableEq

/-- The moves of a trade after its creation. -/
inductive Milestone
  | stage1
  | arrival (windowSeconds : ℕ)
  | dispute
  | closing (o : Outcome)
deriving DecidableEq

def Outcome.source : Outcome → TradeStatus
  | .lockTimeout => .locked
  | .transitTimeout => .inTransit
  | .finalTranche => .arrivalConfirmed
  | .disputeRefund => .frozen
  | .disputeResolve => .frozen

def Outcome.payee : Outcome → Payee
  | .lockTimeout => .buyer
  | .transitTimeout => .buyer
  | .finalTranche => .supplier
  | .disputeRefund => .buyer
  | .disputeResolve => .supplier

def Outcome.claimType : Outcome → ClaimType
  | .lockTimeout => .lockTimeoutBuyerRefund
  | .transitTimeout => .inTransitTimeoutBuyerRefund
  | .finalTranche => .stage2Supplier
  | .disputeRefund => .disputeRefundBuyer
  | .disputeResolve => .disputeResolveSupplier

/-- What is left to pay when the trade closes. -/
def Outcome.amount (o : Outcome) (trade : Trade) : ℕ :=
  match o with
  | .lockTimeout => trade.totalAmountLocked
  | _ => trade.supplierSecondTranche

/-- The account of a party of the trade; fees are set aside for the treasury. -/
def Payee.address (p : Payee) (trade : Trade) (treasury : Address) : Address :=
  match p with
  | .supplier => trade.supplierAddress
  | .buyer => trade.buyerAddress
  | .treasury => treasury

namespace Milestone

def source : Milestone → TradeStatus
  | .stage1 => .locked
  | .arrival _ => .inTransit
  | .dispute => .arrivalConfirmed
  | .closing o => o.source

def target : Milestone → TradeStatus
  | .stage1 => .inTransit
  | .arrival _ => .arrivalConfirmed
  | .dispute => .frozen
  | .closing _ => .closed

def payee : Milestone → Payee
  | .closing o => o.payee
  | _ => .supplier

def amount (m : Milestone) (trade : Trade) : ℕ :=
  match m with
  | .stage1 => trade.supplierFirstTranche
  | .arrival _ => 0
  | .dispute => 0
  | .closing o => o.amount trade

def fees (m : Milestone) (trade : Trade) : ℕ :=
  match m with
  | .stage1 => trade.logisticsAmount + trade.platformFeesAmount
  | _ => 0

/-- The payments of the milestone, zero amounts included. -/
def scheduled (m : Milestone) (tradeId : ℕ) (trade : Trade) (treasury : Address) :
    List Payment :=
  match m with
  | .stage1 =>
    [⟨tradeId, .supplier, trade.supplierAddress, trade.supplierFirstTranche, .stage1Supplier⟩,
      ⟨tradeId, .treasury, treasury, trade.logisticsAmount, .stage1LogisticsFee⟩,
      ⟨tradeId, .treasury, treasury, trade.platformFeesAmount, .stage1PlatformFee⟩]
  | .arrival _ => []
  | .dispute => []
  | .closing o =>
    [⟨tradeId, o.payee, o.payee.address trade treasury, o.amount trade, o.claimType⟩]

/-- What the milestone writes to the trades. -/
def record (m : Milestone) (now tradeId : ℕ) (b : TradeStore) : TradeStore :=
  match m with
  | .stage1 => (b.setStatus tradeId .inTransit).setInTransitSince tradeId now
  | .arrival windowSeconds => b.arrive tradeId windowSeconds now
  | .dispute => b.setStatus tradeId .frozen
  | .closing .lockTimeout => b.setStatus tradeId .closed
  | .closing _ => (b.setStatus tradeId .closed).setInTransitSince tradeId 0

/-- What the milestone writes to the trade. -/
def advance (m : Milestone) (now : ℕ) (trade : Trade) : Trade :=
  match m with
  | .arrival _ => trade.arrive now
  | _ => { trade with status := m.target }

/-- What the milestone sets aside. -/
def accrued (m : Milestone) (trade : Trade) (treasury : Address) (c : ClaimStore) : ClaimStore :=
  match m with
  | .stage1 => (c.accrue treasury trade.logisticsAmount).accrue treasury trade.platformFeesAmount
  | _ => c

/-- The inspection window of an arrival is one of the two the contract supports. -/
def WindowSupported : Milestone → Prop
  | .arrival w => w = standardInspectionWindow ∨ w = packagedLocalInspectionWindow
  | _ => True

section Fields

variable (m : Milestone) (now id : ℕ) (b : TradeStore) (trade : Trade)

@[simp] theorem record_trades :
    (m.record now id b).trades = Function.update b.trades id (m.advance now (b.trades id)) := by
  rcases m with _ | _ | _ | (_ | _ | _ | _ | _) <;> rfl

@[simp] theorem record_tradeCounter : (m.record now id b).tradeCounter = b.tradeCounter := by
  rcases m with _ | _ | _ | (_ | _ | _ | _ | _) <;> rfl

theorem record_inTransitSince_of_ne {i : ℕ} (h : i ≠ id) :
    (m.record now id b).inTransitSince i = b.inTransitSince i := by
  rcases m with _ | _ | _ | (_ | _ | _ | _ | _) <;>
    simp [record, TradeStore.setStatus, TradeStore.setInTransitSince, TradeStore.arrive, h]

theorem record_inspectionWindowSeconds_of_ne {i : ℕ} (h : i ≠ id) :
    (m.record now id b).inspectionWindowSeconds i = b.inspectionWindowSeconds i := by
  rcases m with _ | _ | _ | (_ | _ | _ | _ | _) <;>
    simp [record, TradeStore.setStatus, TradeStore.setInTransitSince, TradeStore.arrive, h]

@[simp] theorem advance_status : (m.advance now trade).status = m.target := by
  cases m <;> rfl

end Fields

end Milestone

/-! ### The view -/

/-- The numbers not yet given out hold the zero trade. -/
def TradeStore.Blank (b : TradeStore) : Prop :=
  ∀ id, b.tradeCounter ≤ id →
    b.trades id = default ∧ b.inTransitSince id = 0 ∧ b.inspectionWindowSeconds id = 0

/-- Only a stored trade has left the status `LOCKED`. -/
theorem TradeStore.Blank.lt {b : TradeStore} (h : b.Blank) {id : ℕ}
    (hid : (b.trades id).status ≠ .locked) : id < b.tradeCounter := by
  by_contra hle
  apply hid
  rw [(h id (Nat.le_of_not_lt hle)).1]
  rfl

/-- What a call does to the trades and the money. -/
inductive Settlement (P : Platform T) (env : Env) (s s' : State T) : Prop
  /-- Neither trades nor money are touched, and no signature is consumed. -/
  | idle (hbook : s'.book = s.book) (hclaims : s'.claims = s.claims) (husdc : s'.usdc = s.usdc)
      (hnonces : s'.authorizationNonces = s.authorizationNonces)
      (hpayments : s'.payments = s.payments)
  /-- A buyer funds a new trade. -/
  | created (args : CreateTradeArgs) (hpaused : s.pausing.paused = false)
      (hamounts : validateTradeAmounts P args = .ok ())
      (hauth : Authorized P env args.buyer args.message args.authorizationNonce
        args.authorizationDeadline args.authorizationSignature s)
      (hbook : s'.book = s.book.push (newTrade env args s.book.tradeCounter))
      (hpay : P.receiveWithAuthorization s.usdc env.timestamp P.self args.buyer P.self
        args.totalAmount args.usdcAuthorization = .ok s'.usdc)
      (hclaims : s'.claims = s.claims) (hpayments : s'.payments = s.payments)
  /-- A trade reaches its next milestone. -/
  | moved (m : Milestone) (tradeId : ℕ) (hpaused : s.pausing.paused = false)
      (htrade : s.pausing.tradePaused tradeId = false) (hid : tradeId < s.book.tradeCounter)
      (hsource : (s.book.trades tradeId).status = m.source) (hwindow : m.WindowSupported)
      (hbook : s'.book = m.record env.timestamp tradeId s.book)
      (hpay : Pays P s.usdc
        (m.payee.address (s.book.trades tradeId) s.roles.treasuryAddress)
        (m.amount (s.book.trades tradeId)) s'.usdc)
      (hclaims : s'.claims = m.accrued (s.book.trades tradeId) s.roles.treasuryAddress s.claims)
      (hpayments : s'.payments = s.payments ++ positivePayments
        (m.scheduled tradeId (s.book.trades tradeId) s.roles.treasuryAddress))
  /-- The treasury's fees are paid out. -/
  | swept (hbook : s'.book = s.book)
      (hnonces : s'.authorizationNonces = s.authorizationNonces)
      (hpaused : s.pausing.claimsPaused = false)
      (hle : s.claims.claimableUsdc s.roles.treasuryAddress ≤ s.claims.totalClaimableUsdc)
      (hpay : P.safeTransfer s.usdc P.self s.roles.treasuryPayoutAddress
        (s.claims.claimableUsdc s.roles.treasuryAddress) = .ok s'.usdc)
      (hclaims : s'.claims =
        { claimableUsdc := Function.update s.claims.claimableUsdc s.roles.treasuryAddress 0
          totalClaimableUsdc := s.claims.totalClaimableUsdc -
            s.claims.claimableUsdc s.roles.treasuryAddress })
      (hpayments : s'.payments = s.payments)

variable {P : Platform T} {env : Env} {call : Call} {s s' : State T}

theorem payments_closing (o : Outcome) (tradeId : ℕ) (trade : Trade) (treasury : Address)
    {l l' : List Event} {e : Event}
    (hl : l'.filterMap Event.payment = l.filterMap Event.payment)
    (he : e.payment = some
      ⟨tradeId, o.payee, o.payee.address trade treasury, o.amount trade, o.claimType⟩) :
    (l' ++ paymentLog (o.amount trade) e).filterMap Event.payment =
      l.filterMap Event.payment ++
        positivePayments ((Milestone.closing o).scheduled tradeId trade treasury) := by
  rw [← hl]
  exact payments_paymentLog _ he

theorem payments_stage1 {l : List Event} {tradeId : ℕ} {trade : Trade} {treasury x : Address} :
    (l ++ paymentLog trade.supplierFirstTranche
          (.supplierPayoutTransferred tradeId trade.supplierAddress trade.supplierFirstTranche
            .stage1Supplier x) ++
        paymentLog trade.logisticsAmount
          (.claimableAccrued tradeId treasury trade.logisticsAmount .stage1LogisticsFee) ++
        paymentLog trade.platformFeesAmount
          (.claimableAccrued tradeId treasury trade.platformFeesAmount
            .stage1PlatformFee)).filterMap Event.payment =
      l.filterMap Event.payment ++
        positivePayments (Milestone.stage1.scheduled tradeId trade treasury) := by
  have hsplit : Milestone.stage1.scheduled tradeId trade treasury = [_] ++ [_] ++ [_] := rfl
  rw [hsplit, positivePayments, List.filter_append, List.filter_append, ← List.append_assoc,
    ← List.append_assoc]
  refine (payments_paymentLog ⟨_, _, _, _, _⟩ rfl).trans (congrArg (· ++ _) ?_)
  refine (payments_paymentLog ⟨_, _, _, _, _⟩ rfl).trans (congrArg (· ++ _) ?_)
  exact payments_paymentLog ⟨_, _, _, _, _⟩ rfl

theorem Effect.settlement (hblank : s.book.Blank) (h : Effect P env call s s') :
    Settlement P env s s' := by
  cases h with
  | createTrade _ hpaused hamounts _ hauth hpay =>
    refine .created _ hpaused hamounts hauth rfl hpay rfl ?_
    exact (payments_snoc rfl).trans <| (payments_snoc rfl).trans <|
      (payments_snoc rfl).trans (payments_snoc rfl)
  | claimTreasury _ hpaused _ _ hle hpay =>
    exact .swept rfl rfl hpaused hle hpay rfl (payments_snoc rfl)
  | releaseFundsStage1 _ _ hpaused htrade hid hstatus hpay =>
    refine .moved .stage1 _ hpaused htrade hid hstatus trivial rfl hpay rfl ?_
    exact (payments_snoc rfl).trans <| (payments_snoc rfl).trans payments_stage1
  | confirmInspectionAvailable _ _ hpaused htrade hid hstatus hwindow =>
    refine .moved (.arrival _) _ hpaused htrade hid hstatus hwindow rfl rfl rfl ?_
    exact (payments_snoc rfl).trans (List.append_nil _).symm
  | openDispute _ hpaused htrade hid _ hstatus =>
    refine .moved .dispute _ hpaused htrade hid hstatus trivial rfl rfl rfl ?_
    exact (payments_snoc rfl).trans <| (payments_snoc rfl).trans <|
      (payments_snoc rfl).trans (List.append_nil _).symm
  | finalizeAfterDisputeWindow _ _ hpaused htrade hid hstatus _ _ hpay =>
    refine .moved (.closing .finalTranche) _ hpaused htrade hid hstatus trivial rfl hpay rfl ?_
    exact (payments_snoc rfl).trans (payments_closing .finalTranche _ _ _ rfl rfl)
  | finalizeAfterDisputeWindowWithAuthorization _ hpaused htrade hid _ hstatus _ _ hpay =>
    refine .moved (.closing .finalTranche) _ hpaused htrade hid hstatus trivial rfl hpay rfl ?_
    exact (payments_snoc rfl).trans <| (payments_snoc rfl).trans <|
      payments_closing .finalTranche _ _ _ (payments_snoc rfl) rfl
  | finalizeAfterInspectionAcceptance _ hpaused htrade hid hstatus _ hpay =>
    refine .moved (.closing .finalTranche) _ hpaused htrade hid hstatus trivial rfl hpay rfl ?_
    exact (payments_snoc rfl).trans <| (payments_snoc rfl).trans <| (payments_snoc rfl).trans <|
      payments_closing .finalTranche _ _ _ (payments_snoc rfl) rfl
  | cancelLockedTrade _ hpaused htrade hid _ hstatus _ hpay =>
    refine .moved (.closing .lockTimeout) _ hpaused htrade hid hstatus trivial rfl hpay rfl ?_
    exact (payments_snoc rfl).trans <| (payments_snoc rfl).trans <|
      payments_closing .lockTimeout _ _ _ (payments_snoc rfl) rfl
  | refundInTransit _ hpaused htrade hid _ hstatus _ _ hpay =>
    refine .moved (.closing .transitTimeout) _ hpaused htrade hid hstatus trivial rfl hpay rfl ?_
    exact (payments_snoc rfl).trans <| (payments_snoc rfl).trans <|
      payments_closing .transitTimeout _ _ _ (payments_snoc rfl) rfl
  | @executeDispute _ _ tradeId disputeStatus _ _ hpaused _ _ htrade hstatus _ _ hpay =>
    -- the source does not check that the trade exists: a frozen one does
    have hid : tradeId < s.book.tradeCounter := hblank.lt (by rw [hstatus]; decide)
    cases disputeStatus with
    | refund =>
      refine .moved (.closing .disputeRefund) _ hpaused htrade hid hstatus trivial rfl hpay rfl ?_
      exact (payments_snoc rfl).trans <| (payments_snoc rfl).trans <|
        payments_closing .disputeRefund _ _ _ (payments_snoc rfl) rfl
    | resolve =>
      refine .moved (.closing .disputeResolve) _ hpaused htrade hid hstatus trivial rfl hpay
        rfl ?_
      exact (payments_snoc rfl).trans <| (payments_snoc rfl).trans <|
        payments_closing .disputeResolve _ _ _ (payments_snoc rfl) rfl
  | executeUnpause =>
    refine .idle rfl rfl rfl rfl ?_
    exact (payments_snoc (payment_liftEvent ..)).trans (payments_snoc rfl)
  | executeAdminChange =>
    refine .idle rfl rfl rfl rfl ?_
    exact (payments_snoc rfl).trans <| (payments_snoc rfl).trans <|
      payments_snoc (payment_adminChangeEvent ..)
  | disableOracleEmergency =>
    refine .idle rfl rfl rfl rfl ((payments_snoc rfl).trans ?_)
    split_ifs with hpaused
    · rw [List.append_nil]
      rfl
    · exact payments_snoc rfl
  | replaceUnpause =>
    refine .idle rfl rfl rfl rfl ?_
    exact (payments_snoc rfl).trans <| (payments_snoc rfl).trans (payments_snoc rfl)
  | proposeUnpause | replaceDispute | proposeOracleUpdate | executeOracleUpdate
  | proposeAdminChange | proposeTreasuryPayout | executeTreasuryPayout =>
    exact .idle rfl rfl rfl rfl ((payments_snoc rfl).trans (payments_snoc rfl))
  | _ => exact .idle rfl rfl rfl rfl (payments_snoc rfl)

/-- While the contract is paused no trade is touched and no signature is consumed. -/
theorem Settlement.of_paused (h : Settlement P env s s') (hpaused : s.pausing.paused = true) :
    s'.book = s.book ∧ s'.authorizationNonces = s.authorizationNonces := by
  cases h with
  | idle hbook _ _ hnonces | swept hbook hnonces => exact ⟨hbook, hnonces⟩
  | created _ hnot | moved _ _ hnot =>
    exact absurd (hnot.symm.trans hpaused) Bool.false_ne_true

end Cotsel.Escrow
