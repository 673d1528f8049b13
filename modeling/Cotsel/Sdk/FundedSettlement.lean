import Cotsel.Escrow.Invariant.Solvency
import Cotsel.Sdk.Canonical

/-!
# Bindings and the contract

`assertFundedTradeMatchesBinding` compares a binding with the trade on chain, as
`OracleSDK.getTrade` returns it.  For a binding that passes, the amounts of its phase are compared
here with what the contract moves in that phase: what the supplier and the buyer receive, and what
is set aside for the treasury (`Disburses`).

The phases with a single outcome agree with the contract.  A `dispute_resolution` binding may
split the second tranche in any way, while `_executeDispute` pays it to one side
(`describes_executeDispute_iff`).
-/

namespace Cotsel.Sdk

open Escrow Guard Text

variable {T : Type}

/-! ### Trades -/

/-- The fields of the SDK's `Trade` that are compared with a binding. -/
structure Trade where
  tradeId : List Char
  buyer : List Char
  supplier : List Char
  totalAmountLocked : ℕ
  logisticsAmount : ℕ
  platformFeesAmount : ℕ
  supplierFirstTranche : ℕ
  supplierSecondTranche : ℕ
  ricardianHash : List Char
deriving DecidableEq

/-- An address as `ethers` returns it from a call. -/
def addressText (codec : AddressCodec) (a : Address) : List Char :=
  (codec.getAddress ('0' :: 'x' :: paddedHex 40 a.val)).getD []

/-- A `bytes32` as `ethers` returns it from a call. -/
def bytes32Text (h : Bytes32) : List Char := '0' :: 'x' :: paddedHex 64 h.toNat

/-- `OracleSDK.getTrade`. -/
def getTrade (codec : AddressCodec) (s : State T) (tradeId : ℕ) : Trade :=
  let trade := s.book.trades tradeId
  { tradeId := decimal trade.tradeId
    buyer := addressText codec trade.buyerAddress
    supplier := addressText codec trade.supplierAddress
    totalAmountLocked := trade.totalAmountLocked
    logisticsAmount := trade.logisticsAmount
    platformFeesAmount := trade.platformFeesAmount
    supplierFirstTranche := trade.supplierFirstTranche
    supplierSecondTranche := trade.supplierSecondTranche
    ricardianHash := bytes32Text trade.ricardianHash }

def assertFundedTradeMatchesBinding (codec : AddressCodec) (trade : Trade)
    (value : SettlementFundedBinding) : Except BindingError Unit := do
  let binding ← parseSettlementFundedBinding codec value.toJs
  require (trade.tradeId = binding .tradeId ∧
    toLowerCase trade.buyer = binding .buyerAddress ∧
    toLowerCase trade.supplier = binding .supplierAddress ∧
    toLowerCase trade.ricardianHash = binding .ricardianHash ∧
    decimal trade.totalAmountLocked = binding .totalAmount ∧
    decimal trade.logisticsAmount = binding .logisticsAmount ∧
    decimal trade.platformFeesAmount = binding .platformFeesAmount ∧
    decimal trade.supplierFirstTranche = binding .supplierFirstTranche ∧
    decimal trade.supplierSecondTranche = binding .supplierSecondTranche) .tradeDiffers

/-- The amounts of a binding are those of the trade on chain. -/
structure SameAmounts (b : SettlementFundedBinding) (trade : Escrow.Trade) : Prop where
  logistics : b.amount .logisticsAmount = trade.logisticsAmount
  platformFees : b.amount .platformFeesAmount = trade.platformFeesAmount
  first : b.amount .supplierFirstTranche = trade.supplierFirstTranche
  second : b.amount .supplierSecondTranche = trade.supplierSecondTranche

variable {codec : AddressCodec} {P : Platform T} {s s' : State T} {env : Env} {id : ℕ}
  {v : JsValue} {b : SettlementFundedBinding}

theorem sameAmounts
    (h : assertFundedTradeMatchesBinding codec (getTrade codec s id) b = .ok ()) :
    SameAmounts b (s.book.trades id) := by
  rw [assertFundedTradeMatchesBinding, bind_eq_ok] at h
  obtain ⟨binding, hparse, h⟩ := h
  rw [require_eq_ok] at h
  obtain ⟨-, -, -, -, -, hlogistics, hfees, hfirst, hsecond⟩ := h
  obtain ⟨_, hread, hparses⟩ := parse_eq_ok.mp hparse
  obtain ⟨rfl, -⟩ := readRow_eq_ok hread
  rw [strings_toJs] at hparses
  -- an amount is written in the same way in the binding and in its canonical form
  have hamount : ∀ (f : Field) (n : ℕ), f ∉ addressFields → f ∉ hashFields →
      decimal n = binding f → b.amount f = n := by
    intro _ _ ha hh htext
    rw [← hparses.amount_eq ha hh, SettlementFundedBinding.amount, ← htext, toNat_decimal]
  exact
    { logistics := hamount _ _ (by decide) (by decide) hlogistics
      platformFees := hamount _ _ (by decide) (by decide) hfees
      first := hamount _ _ (by decide) (by decide) hfirst
      second := hamount _ _ (by decide) (by decide) hsecond }

/-! ### What the contract moves -/

/-- Between `s` and `s'` the supplier of the trade receives `payout` and its buyer `refund`, nobody
else does, and `accrual` is set aside for the treasury. -/
structure Disburses (P : Platform T) (s s' : State T) (id payout accrual refund : ℕ) : Prop where
  receives : ∀ a, a ≠ P.self → P.balanceOf s'.usdc a = P.balanceOf s.usdc a +
    (if a = (s.book.trades id).supplierAddress then payout else 0) +
    (if a = (s.book.trades id).buyerAddress then refund else 0)
  claimable : s'.claims.claimableUsdc = Function.update s.claims.claimableUsdc
    s.roles.treasuryAddress (s.claims.claimableUsdc s.roles.treasuryAddress + accrual)
  total : s'.claims.totalClaimableUsdc = s.claims.totalClaimableUsdc + accrual

/-- The amounts a binding states. -/
def SettlementFundedBinding.Describes (b : SettlementFundedBinding) (P : Platform T)
    (s s' : State T) (id : ℕ) : Prop :=
  Disburses P s s' id (b.amount .supplierPayoutAmount) (b.amount .treasuryAccrualAmount)
    (b.amount .buyerRefundAmount)

theorem balanceOf_of_pays {t t' : T} {recipient a : Address} {amount : ℕ}
    (h : Pays P t recipient amount t') (ha : a ≠ P.self) :
    P.balanceOf t' a = P.balanceOf t a + if a = recipient then amount else 0 := by
  unfold Pays at h
  split_ifs at h with hzero
  · rw [h, hzero, ite_self, Nat.add_zero]
  · exact (P.safeTransfer_ok h).apply_of_ne ha

theorem claimStore_accrue_accrue (c : ClaimStore) (a : Address) (m n : ℕ) :
    (c.accrue a m).accrue a n = c.accrue a (m + n) := by
  simp only [ClaimStore.accrue, Function.update_self, Function.update_idem, Nat.add_assoc]

theorem claimStore_accrue_zero (c : ClaimStore) (a : Address) : c.accrue a 0 = c := by
  simp only [ClaimStore.accrue, Nat.add_zero, Function.update_eq_self]

/-- A payment to the supplier, and what is set aside with it. -/
theorem disburses_of_pays {payout accrual : ℕ}
    (hpay : Pays P s.usdc (s.book.trades id).supplierAddress payout s'.usdc)
    (hclaims : s'.claims = s.claims.accrue s.roles.treasuryAddress accrual) :
    Disburses P s s' id payout accrual 0 := by
  refine ⟨fun a ha => ?_, ?_, ?_⟩
  · rw [balanceOf_of_pays hpay ha, ite_self, Nat.add_zero]
  all_goals rw [hclaims]; rfl

/-! ### Phases -/

/-- The calls that carry out a phase on trade `id`. -/
inductive PhaseCall (id : ℕ) : Phase → Call → Prop
  | releaseFundsStage1 :
    PhaseCall id .initialReleaseAfterCustodyAndDocuments (.releaseFundsStage1 id)
  | inspectionStandard (windowSeconds : ℕ) :
    PhaseCall id .inspectionAvailableStandard (.confirmInspectionAvailable id windowSeconds)
  | inspectionPackagedLocal (windowSeconds : ℕ) :
    PhaseCall id .inspectionAvailablePackagedLocal (.confirmInspectionAvailable id windowSeconds)
  | finalize {p : Phase} (hp : p = .finalReleaseAfterInspectionAcceptance ∨
      p = .finalReleaseAfterNoticeDeadline) : PhaseCall id p (.finalizeAfterDisputeWindow id)
  | finalizeAuthorized {p : Phase} (auth : UserAuthorization)
      (hp : p = .finalReleaseAfterInspectionAcceptance ∨ p = .finalReleaseAfterNoticeDeadline) :
    PhaseCall id p (.finalizeAfterDisputeWindowWithAuthorization id auth)
  | finalizeAccepted {p : Phase} (auth : UserAuthorization)
      (hp : p = .finalReleaseAfterInspectionAcceptance ∨ p = .finalReleaseAfterNoticeDeadline) :
    PhaseCall id p (.finalizeAfterInspectionAcceptanceWithAuthorization id auth)

/-- A final release pays the second tranche to the supplier. -/
theorem describes_final {p : Phase} (hmatch : SameAmounts b (s.book.trades id))
    (hamounts : AmountsMatchPhase b) (hphase : b .phase = p.text)
    (hp : p = .finalReleaseAfterInspectionAcceptance ∨ p = .finalReleaseAfterNoticeDeadline)
    (hpay : Pays P s.usdc (s.book.trades id).supplierAddress
      (s.book.trades id).supplierSecondTranche s'.usdc) (hclaims : s'.claims = s.claims) :
    b.Describes P s s' id := by
  have hfinal : b .phase = Phase.finalReleaseAfterInspectionAcceptance.text ∨
      b .phase = Phase.finalReleaseAfterNoticeDeadline.text := by
    rw [hphase]
    exact hp.imp (congrArg Phase.text) (congrArg Phase.text)
  obtain ⟨hpayout, haccrual, hrefund⟩ := hamounts.2.1 hfinal
  rw [SettlementFundedBinding.Describes, hpayout, haccrual, hrefund, hmatch.second]
  exact disburses_of_pays hpay (hclaims.trans (claimStore_accrue_zero _ _).symm)

theorem describes_inspection (hamounts : AmountsMatchPhase b)
    (hphase : lit "inspection_available_" <+: b .phase) (husdc : s'.usdc = s.usdc)
    (hclaims : s'.claims = s.claims) : b.Describes P s s' id := by
  obtain ⟨hpayout, haccrual, hrefund⟩ := hamounts.2.2.1 hphase
  rw [SettlementFundedBinding.Describes, hpayout, haccrual, hrefund]
  exact disburses_of_pays husdc (hclaims.trans (claimStore_accrue_zero _ _).symm)

/-- A call that carries out the phase of a binding moves what the binding states. -/
theorem describes_of_phaseCall {p : Phase} {call : Call} {data : ReturnData}
    (hmatch : SameAmounts b (s.book.trades id)) (hamounts : AmountsMatchPhase b)
    (hphase : b .phase = p.text) (hcall : PhaseCall id p call)
    (hexec : exec P env call s = .ok (s', data)) : b.Describes P s s' id := by
  have heffect := exec_effect hexec
  cases hcall with
  | releaseFundsStage1 =>
    cases heffect with
    | releaseFundsStage1 _ _ _ _ _ _ hpay =>
      obtain ⟨hpayout, haccrual, hrefund⟩ := hamounts.1 hphase
      rw [SettlementFundedBinding.Describes, hpayout, haccrual, hrefund, hmatch.first,
        hmatch.logistics, hmatch.platformFees]
      exact disburses_of_pays hpay (claimStore_accrue_accrue _ _ _ _)
  | inspectionStandard | inspectionPackagedLocal =>
    cases heffect with
    | confirmInspectionAvailable =>
      exact describes_inspection hamounts (by rw [hphase]; decide +kernel) rfl rfl
  | finalize hp =>
    cases heffect with
    | finalizeAfterDisputeWindow _ _ _ _ _ _ _ _ hpay =>
      exact describes_final hmatch hamounts hphase hp hpay rfl
  | finalizeAuthorized _ hp =>
    cases heffect with
    | finalizeAfterDisputeWindowWithAuthorization _ _ _ _ _ _ _ _ hpay =>
      exact describes_final hmatch hamounts hphase hp hpay rfl
  | finalizeAccepted _ hp =>
    cases heffect with
    | finalizeAfterInspectionAcceptance _ _ _ _ _ _ hpay =>
      exact describes_final hmatch hamounts hphase hp hpay rfl

/-! ### Disputes -/

/-- `_executeDispute`: the approval that completes the quorum pays the second tranche to the side
that the proposal names. -/
theorem executeDispute_pays {proposalId : ℕ} {outcome : DisputeStatus} {data : ReturnData}
    (hpayload : (s.disputes.board.proposals proposalId).payload = ⟨id, outcome⟩)
    (hquorum : s.roles.requiredApprovals ≤
      (s.disputes.board.proposals proposalId).approvalCount + 1)
    (h : exec P env (.approveDisputeSolution proposalId) s = .ok (s', data)) :
    Pays P s.usdc (outcome.recipient (s.book.trades id))
      (s.book.trades id).supplierSecondTranche s'.usdc ∧ s'.claims = s.claims := by
  cases exec_effect h with
  | approveDispute _ _ _ _ _ _ hcount => exact absurd hquorum (Nat.not_le.mpr hcount)
  | executeDispute _ _ _ hterms _ _ _ _ hpay =>
    rw [hpayload] at hterms
    cases hterms
    exact ⟨hpay, rfl⟩

/-- The binding pays the whole tranche to the side that the outcome names, or the sides are one. -/
def SettlementFundedBinding.Awards (b : SettlementFundedBinding) (trade : Escrow.Trade) :
    DisputeStatus → Prop
  | .resolve => b.amount .buyerRefundAmount = 0 ∨ trade.buyerAddress = trade.supplierAddress
  | .refund => b.amount .supplierPayoutAmount = 0 ∨ trade.buyerAddress = trade.supplierAddress

/-- An executed dispute moves what a binding states iff the binding pays the side that the outcome
names. -/
theorem describes_executeDispute_iff {proposalId : ℕ} {outcome : DisputeStatus} {data : ReturnData}
    (htrade : (s.book.trades id).WellFormed P) (hmatch : SameAmounts b (s.book.trades id))
    (hamounts : AmountsMatchPhase b) (hphase : b .phase = Phase.disputeResolution.text)
    (hpayload : (s.disputes.board.proposals proposalId).payload = ⟨id, outcome⟩)
    (hquorum : s.roles.requiredApprovals ≤
      (s.disputes.board.proposals proposalId).approvalCount + 1)
    (h : exec P env (.approveDisputeSolution proposalId) s = .ok (s', data)) :
    b.Describes P s s' id ↔ b.Awards (s.book.trades id) outcome := by
  obtain ⟨hpay, hclaims⟩ := executeDispute_pays hpayload hquorum h
  obtain ⟨haccrual, hsum⟩ := hamounts.2.2.2 hphase
  rw [← hmatch.second, ← hsum] at hpay
  constructor
  · -- the balances of the two sides tell which of them was paid
    intro hdescribes
    have hsupplier := hdescribes.receives _ htrade.supplier_ne_self
    have hbuyer := hdescribes.receives _ htrade.buyer_ne_self
    rw [balanceOf_of_pays hpay htrade.supplier_ne_self] at hsupplier
    rw [balanceOf_of_pays hpay htrade.buyer_ne_self] at hbuyer
    by_cases hsame : (s.book.trades id).buyerAddress = (s.book.trades id).supplierAddress
    · cases outcome <;> exact Or.inr hsame
    · cases outcome with
      | resolve =>
        rw [DisputeStatus.recipient, if_pos rfl, if_pos rfl, if_neg (Ne.symm hsame)] at hsupplier
        exact Or.inl (by omega)
      | refund =>
        rw [DisputeStatus.recipient, if_pos rfl, if_neg hsame, if_pos rfl] at hbuyer
        exact Or.inl (by omega)
  · intro hawards
    rw [SettlementFundedBinding.Describes, haccrual]
    refine ⟨fun a ha => ?_, ?_, ?_⟩
    · rw [balanceOf_of_pays hpay ha, ite_add_zero, ← Nat.add_assoc]
      cases outcome with
      | resolve =>
        rcases hawards with hzero | hsame
        · rw [hzero, ite_self, ite_self]
          rfl
        · rw [hsame]
          rfl
      | refund =>
        rcases hawards with hzero | hsame
        · rw [hzero, ite_self, ite_self]
          rfl
        · rw [← hsame]
          rfl
    · rw [hclaims, Nat.add_zero, Function.update_eq_self]
    · rw [hclaims, Nat.add_zero]

/-! ### The main result -/

/-- For a binding that matches a trade on chain, the contract moves exactly the stated amounts in a
phase with one outcome, and in a dispute iff the binding pays the side that the outcome names.
Parsing is idempotent exactly on the values whose addresses have 20 bytes, and equality of the JSON
texts is agreement up to case exactly for the values that are no respelling of each other. -/
theorem funded_binding_exact (codec : AddressCodec) (P : Platform T) :
    (∀ v b, parseSettlementFundedBinding codec v = .ok b →
      ∀ c : Config T, Reachable P c → ∀ id < c.state.book.tradeCounter,
        assertFundedTradeMatchesBinding codec (getTrade codec c.state id) b = .ok () →
        (∀ p call, b .phase = p.text → PhaseCall id p call →
          ∀ env s' data, exec P env call c.state = .ok (s', data) → b.Describes P c.state s' id) ∧
        (b .phase = Phase.disputeResolution.text →
          ∀ env proposalId outcome s' data,
            (c.state.disputes.board.proposals proposalId).payload = ⟨id, outcome⟩ →
            c.state.roles.requiredApprovals ≤
              (c.state.disputes.board.proposals proposalId).approvalCount + 1 →
            exec P env (.approveDisputeSolution proposalId) c.state = .ok (s', data) →
            (b.Describes P c.state s' id ↔ b.Awards (c.state.book.trades id) outcome))) ∧
    (∀ v b, parseSettlementFundedBinding codec v = .ok b →
      (parseSettlementFundedBinding codec b.toJs = .ok b ↔ TwentyBytes codec v.strings)) ∧
    (∀ v v' b b', parseSettlementFundedBinding codec v = .ok b →
      parseSettlementFundedBinding codec v' = .ok b' →
      ((b.stringify = b'.stringify ↔ AgreeUpToCase v.strings v'.strings) ↔
        ¬ Respelled codec v.strings v'.strings)) := by
  refine ⟨fun v b hparse c hreach id hid hassert => ?_, fun v b => parse_toJs_iff,
    fun v v' b b' => stringify_canonical_iff⟩
  obtain ⟨_, -, hparses⟩ := parse_eq_ok.mp hparse
  have hmatch := sameAmounts hassert
  refine ⟨fun p call hphase hcall env s' data => ?_,
    fun hphase env proposalId outcome s' data => ?_⟩
  · exact describes_of_phaseCall hmatch hparses.amounts hphase hcall
  · exact describes_executeDispute_iff (hreach.solvent.book.trade id hid) hmatch hparses.amounts
      hphase

/-! ### Samples -/

/-- `width` hexadecimal digits with the given last one. -/
def sampleDigits (width : ℕ) (last : Char) : List Char :=
  List.replicate (width - 1) '0' ++ [last]

def sampleAddress (last : Char) : List Char := '0' :: 'x' :: sampleDigits 40 last

def sampleHash (last : Char) : List Char := '0' :: 'x' :: sampleDigits 64 last

/-- A binding for the sample trade, with the buyer's address as given. -/
def sampleBinding (phase : Phase) (payout accrual refund buyer : List Char) :
    SettlementFundedBinding
  | .scopeVersion => scopeVersionText
  | .ownerServiceId => lit "platform"
  | .sourceOperationId => lit "operation-1"
  | .phase => phase.text
  | .chainId => lit "31337"
  | .escrowAddress => sampleAddress 'e'
  | .tokenAddress => sampleAddress '1'
  | .tradeId => lit "0"
  | .buyerAddress => buyer
  | .supplierAddress => sampleAddress '9'
  | .ricardianHash => sampleHash '1'
  | .totalAmount => lit "1009000000"
  | .logisticsAmount => lit "0"
  | .platformFeesAmount => lit "14000000"
  | .supplierFirstTranche => lit "595000000"
  | .supplierSecondTranche => lit "400000000"
  | .supplierPayoutAmount => payout
  | .treasuryAccrualAmount => accrual
  | .buyerRefundAmount => refund
  | .fundingTransactionHash => sampleHash '2'
  | .fundingBlockNumber => lit "7"
  | .fundingBlockHash => sampleHash '3'
  | .originalFundingFingerprint => sampleDigits 64 '4'

def HasSampleTrade (s : State MockUsdc) : Prop :=
  0 < s.book.tradeCounter ∧ (s.book.trades 0).tradeId = 0 ∧ (s.book.trades 0).buyerAddress = 8 ∧
    (s.book.trades 0).supplierAddress = 9 ∧ (s.book.trades 0).ricardianHash = 1 ∧
    (s.book.trades 0).totalAmountLocked = 1009000000 ∧
    (s.book.trades 0).logisticsAmount = 0 ∧ (s.book.trades 0).platformFeesAmount = 14000000 ∧
    (s.book.trades 0).supplierFirstTranche = 595000000 ∧
    (s.book.trades 0).supplierSecondTranche = 400000000

instance (s : State MockUsdc) : Decidable (HasSampleTrade s) :=
  inferInstanceAs (Decidable (_ ∧ _))

theorem assert_sampleBinding {s : State MockUsdc} {phase : Phase}
    {payout accrual refund : List Char} (h : HasSampleTrade s)
    (hparse : parseSettlementFundedBinding plainCodec
      (sampleBinding phase payout accrual refund (sampleAddress '8')).toJs =
        .ok (sampleBinding phase payout accrual refund (sampleAddress '8'))) :
    assertFundedTradeMatchesBinding plainCodec (getTrade plainCodec s 0)
      (sampleBinding phase payout accrual refund (sampleAddress '8')) = .ok () := by
  obtain ⟨-, hid, hbuyer, hsupplier, hhash, htotal, hlogistics, hfees, hfirst, hsecond⟩ := h
  rw [assertFundedTradeMatchesBinding, bind_eq_ok]
  refine ⟨_, hparse, ?_⟩
  simp only [getTrade, hid, hbuyer, hsupplier, hhash, htotal, hlogistics, hfees, hfirst, hsecond,
    sampleBinding]
  decide +kernel

/-- The binding of the stage-1 release of the sample trade. -/
def stage1Binding : SettlementFundedBinding :=
  sampleBinding .initialReleaseAfterCustodyAndDocuments (lit "595000000") (lit "14000000")
    (lit "0") (sampleAddress '8')

/-- The stage-1 release of the sample trade moves what its binding states. -/
theorem funded_binding_exact_sample : ∃ c s', Reachable (mockPlatform 100) c ∧
    Step (mockPlatform 100) c (.call ⟨2, 30⟩ (.releaseFundsStage1 0)) ⟨s', 30⟩ ∧
    stage1Binding.Describes (mockPlatform 100) c.state s' 0 := by
  have hrun : sampleStep [(⟨4, 20⟩, .createTradeWithAuthorization sampleTrade)] ⟨2, 30⟩
      (.releaseFundsStage1 0) (fun c _ => decide (HasSampleTrade c.state)) = true := by
    decide +kernel
  obtain ⟨c, s', hreach, hstep, hc⟩ := exists_step_sampleRun hrun
  have htrade := of_decide_eq_true hc
  have hparse : parseSettlementFundedBinding plainCodec stage1Binding.toJs = .ok stage1Binding := by
    decide +kernel
  cases hstep with
  | call htime hexec =>
    refine ⟨c, s', hreach, .call htime hexec, ?_⟩
    exact ((funded_binding_exact plainCodec (mockPlatform 100)).1 _ _ hparse c hreach 0
      htrade.1 (assert_sampleBinding htrade hparse)).1 _ _ rfl .releaseFundsStage1
        _ _ _ hexec

/-- The calls that freeze the sample trade, and a proposal to end the dispute that lacks one
approval. -/
def frozenCalls (outcome : DisputeStatus) : List (Env × Call) :=
  [(⟨4, 20⟩, .createTradeWithAuthorization sampleTrade), (⟨2, 30⟩, .releaseFundsStage1 0),
    (⟨2, 30⟩, .confirmInspectionAvailable 0 172800),
    (⟨4, 40⟩, .openDisputeWithAuthorization 0 ⟨1, 1000, List.replicate 8 0⟩),
    (⟨5, 50⟩, .proposeDisputeSolution 0 outcome)]

/-- A dispute binding that gives 150,000,000 to the supplier and 250,000,000 to the buyer. -/
def splitBinding (buyer : List Char) : SettlementFundedBinding :=
  sampleBinding .disputeResolution (lit "150000000") (lit "0") (lit "250000000") buyer

/-- A binding that splits the second tranche between the two sides is accepted and matches the
trade, but neither outcome of the dispute pays what it states; and the same binding with the
buyer's address without `0x` has the same canonical form. -/
theorem split_binding :
    parseSettlementFundedBinding plainCodec (splitBinding (sampleAddress '8')).toJs =
      .ok (splitBinding (sampleAddress '8')) ∧
    (∀ outcome : DisputeStatus, ∃ c s', Reachable (mockPlatform 100) c ∧
      0 < c.state.book.tradeCounter ∧
      assertFundedTradeMatchesBinding plainCodec (getTrade plainCodec c.state 0)
        (splitBinding (sampleAddress '8')) = .ok () ∧
      (c.state.disputes.board.proposals 0).payload = ⟨0, outcome⟩ ∧
      Step (mockPlatform 100) c (.call ⟨6, 60⟩ (.approveDisputeSolution 0)) ⟨s', 60⟩ ∧
      (s'.book.trades 0).status = .closed ∧
      ¬ (splitBinding (sampleAddress '8')).Describes (mockPlatform 100) c.state s' 0) ∧
    (∃ v : JsValue, parseSettlementFundedBinding plainCodec v =
        .ok (splitBinding (sampleAddress '8')) ∧
      ¬ AgreeUpToCase v.strings (splitBinding (sampleAddress '8')).toJs.strings) := by
  have hparse : parseSettlementFundedBinding plainCodec (splitBinding (sampleAddress '8')).toJs =
      .ok (splitBinding (sampleAddress '8')) := by
    decide +kernel
  refine ⟨hparse, fun outcome => ?_, (splitBinding (sampleDigits 40 '8')).toJs,
    by decide +kernel, fun hagree => ?_⟩
  · have hrun : sampleStep (frozenCalls outcome) ⟨6, 60⟩ (.approveDisputeSolution 0)
        (fun c s' => decide (HasSampleTrade c.state ∧
          (c.state.disputes.board.proposals 0).payload = ⟨0, outcome⟩ ∧
          (s'.book.trades 0).status = .closed ∧
          s'.usdc.balances 9 ≠ c.state.usdc.balances 9 + 150000000)) = true := by
      cases outcome <;> decide +kernel
    obtain ⟨c, s', hreach, hstep, hc⟩ := exists_step_sampleRun hrun
    obtain ⟨htrade, hpayload, hclosed, hbalance⟩ := of_decide_eq_true hc
    refine ⟨c, s', hreach, htrade.1, assert_sampleBinding htrade hparse, hpayload,
      hstep, hclosed, fun hdescribes => hbalance ?_⟩
    obtain ⟨-, -, hbuyer, hsupplier, -⟩ := htrade
    have hpaid := hdescribes.receives 9 (by decide +kernel)
    have hamount : (splitBinding (sampleAddress '8')).amount .supplierPayoutAmount =
        150000000 := by decide +kernel
    rwa [hsupplier, hbuyer, hamount, if_pos rfl, if_neg (by decide +kernel), Nat.add_zero] at hpaid
  · rw [strings_toJs, strings_toJs] at hagree
    have hbuyer : toLowerCase (sampleDigits 40 '8') =
        toLowerCase (sampleAddress '8') := hagree .buyerAddress
    exact absurd hbuyer (by decide +kernel)

end Cotsel.Sdk
