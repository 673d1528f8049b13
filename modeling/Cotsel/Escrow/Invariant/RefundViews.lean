import Cotsel.Escrow.Invariant.Conservation

/-!
# What the refund views report

`buyerRefundableAmount` and `nonRefundableFeeAmount` look at the status of a trade, while what was
paid depends on how the trade came to it.  The refundable amount is what every refund path pays.
The fees are those that the treasury accrued on every walk but one: a trade that its lock timeout
closed accrued none, and the view reports them all the same.
-/

namespace Cotsel.Escrow

open Guard

variable {T : Type} {P : Platform T} {env : Env} {s s' : State T} {id : ℕ}

/-! ### The sum of the fees fits a word -/

def Trade.FeesFit (t : Trade) : Prop := t.logisticsAmount + t.platformFeesAmount < uint256Bound

theorem newTrade_feesFit {args : CreateTradeArgs}
    (hamounts : validateTradeAmounts P args = .ok ()) : (newTrade env args id).FeesFit := by
  simp only [validateTradeAmounts, LaunchSettlementSchedule.addU256, bind_eq_ok, require_eq_ok,
    exists_const, checkedAdd_eq_ok] at hamounts
  obtain ⟨-, -, -, _, ⟨hfit, -⟩, -⟩ := hamounts
  exact hfit

theorem Reachable.feesFit {c : Config T} (h : Reachable P c)
    (hid : id < c.state.book.tradeCounter) : (c.state.book.trades id).FeesFit := by
  refine h.trade_invariant (Q := fun _ => Trade.FeesFit) (fun _ _ _ => newTrade_feesFit) ?_ id hid
  intro m _ _ _ ht
  cases m <;> exact ht

/-! ### The fees -/

/-- A trade whose lock timeout did not close it has accrued its fees once it is past `LOCKED`. -/
theorem Lifecycle.totalTo_treasury {ms : List Milestone} {status : TradeStatus}
    (h : Lifecycle ms status) (hne : ms ≠ [.closing .lockTimeout]) (t : Trade) (x : Address) :
    totalTo .treasury (walkPayments ms id t x) =
      if status = .locked then 0 else t.logisticsAmount + t.platformFeesAmount := by
  cases h.shape with
  | lockTimeout => exact absurd rfl hne
  | locked | inTransit | arrivalConfirmed | frozen | transitTimeout | finalTranche
  | disputeRefund | disputeResolve =>
    simp [walkPayments, Milestone.scheduled, totalTo, Outcome.payee]

/-- Its lock timeout closed the trade: the refund of the whole amount was reported. -/
def State.LockTimedOut (s : State T) (id : ℕ) : Prop :=
  ∃ p ∈ s.paymentsFor id, p.claimType = .lockTimeoutBuyerRefund

theorem nonRefundableFeeAmount_eq {c : Config T} (h : Reachable P c)
    (hid : id < c.state.book.tradeCounter) :
    nonRefundableFeeAmount id c.state = .ok (if (c.state.book.trades id).status = .locked then 0
      else (c.state.book.trades id).logisticsAmount +
        (c.state.book.trades id).platformFeesAmount) := by
  refine require_bind_eq_ok.mpr ⟨hid, ?_⟩
  unfold nonRefundableFeeAmountOf
  split_ifs with hlocked
  · rfl
  · exact checkedAdd_eq_ok.mpr ⟨h.feesFit hid, rfl⟩

/-- The fees that the view reports are those that the treasury accrued, and with the refundable
amount and the principal paid they make up what was locked. -/
theorem Reachable.fees_accrued {c : Config T} (h : Reachable P c)
    (hid : id < c.state.book.tradeCounter) (hopen : ¬ c.state.LockTimedOut id) :
    nonRefundableFeeAmount id c.state = .ok (c.state.paidTo .treasury id) ∧
      (c.state.book.trades id).reserved + c.state.paidTo .treasury id +
          (c.state.paidTo .supplier id + c.state.paidTo .buyer id) =
        (c.state.book.trades id).totalAmountLocked := by
  obtain ⟨ms, hlife, hpaid⟩ := h.accounts.walked id hid
  have ht := h.solvent.book.trade id hid
  have hne : ms ≠ [.closing .lockTimeout] := by
    rintro rfl
    have hpos : 0 < (c.state.book.trades id).totalAmountLocked := by
      rw [ht.total_eq]
      exact Nat.add_pos_right _ ht.second_pos
    apply hopen
    unfold State.LockTimedOut
    rw [hpaid]
    exact ⟨_, List.mem_filter.mpr ⟨List.mem_singleton.mpr rfl, decide_eq_true hpos⟩, rfl⟩
  simp only [State.paidTo, hpaid, totalTo_positivePayments]
  refine ⟨?_, ?_⟩
  · rw [nonRefundableFeeAmount_eq h hid, hlife.totalTo_treasury hne]
  · have hsum := (hlife.split id _ c.state.roles.treasuryAddress).conservation ht
    omega

/-! ### The refunds -/

/-- The call asks for a refund of the trade. -/
def Call.IsRefund (call : Call) (s : State T) (id : ℕ) : Prop :=
  match call with
  | .cancelLockedTradeAfterTimeoutWithAuthorization t _
  | .refundInTransitAfterTimeoutWithAuthorization t _ => t = id
  | .approveDisputeSolution p => (s.disputes.board.proposals p).payload = ⟨id, .refund⟩
  | _ => False

/-- A call that asks for a refund pays the refundable amount and closes the trade, or it is an
approval before the quorum. -/
theorem Effect.refund {call : Call} (h : Effect P env call s s') (hcall : call.IsRefund s id) :
    (Pays P s.usdc (s.book.trades id).buyerAddress
        (buyerRefundablePrincipalAmount (s.book.trades id)) s'.usdc ∧
      (s'.book.trades id).status = .closed) ∨
    ∃ p, call = .approveDisputeSolution p ∧
      (s.disputes.board.proposals p).approvalCount + 1 < s.roles.requiredApprovals := by
  cases h with
  | cancelLockedTrade _ _ _ _ _ hstatus _ hpay | refundInTransit _ _ _ _ _ hstatus _ _ hpay =>
    cases hcall
    left
    unfold buyerRefundablePrincipalAmount
    rw [hstatus]
    exact ⟨hpay, by simp [TradeStore.setStatus, TradeStore.setInTransitSince]⟩
  | approveDispute _ _ _ _ _ _ hfew => exact Or.inr ⟨_, rfl, hfew⟩
  | executeDispute _ _ _ hpayload _ hstatus _ _ hpay =>
    obtain ⟨rfl, rfl⟩ := DisputeTerms.mk.inj (hpayload.symm.trans hcall)
    left
    unfold buyerRefundablePrincipalAmount
    rw [hstatus]
    exact ⟨hpay, by simp [TradeStore.setStatus, TradeStore.setInTransitSince]⟩
  | _ => exact hcall.elim

theorem Effect.refundable_openDispute {auth : UserAuthorization}
    (h : Effect P env (.openDisputeWithAuthorization id auth) s s') :
    buyerRefundableAmount id s' = .ok (buyerRefundablePrincipalAmount (s.book.trades id)) := by
  cases h with
  | openDispute _ _ _ hid _ hstatus =>
    refine require_bind_eq_ok.mpr ⟨hid, ?_⟩
    simp [buyerRefundablePrincipalAmount, TradeStore.setStatus, hstatus, pure, Except.pure]

/-- In every reachable state both views return for every trade.  Unless its lock timeout closed the
trade, the one reports the fees that the treasury accrued for it, and both together are at most
what was locked less the principal paid.  The other reports what a refund pays to the buyer: a call
that asks for one transfers just that amount, and an arrived trade keeps it when its dispute
opens. -/
theorem refund_views {c : Config T} (h : Reachable P c) {id : ℕ}
    (hid : id < c.state.book.tradeCounter) :
    let s := c.state
    let t := s.book.trades id
    ∃ fees refundable, nonRefundableFeeAmount id s = .ok fees ∧
      buyerRefundableAmount id s = .ok refundable ∧
      (¬ s.LockTimedOut id → fees = s.paidTo .treasury id ∧
        refundable + fees + (s.paidTo .supplier id + s.paidTo .buyer id) ≤
          t.totalAmountLocked) ∧
      (∀ env call s' r, call.IsRefund s id → exec P env call s = .ok (s', r) →
        (Pays P s.usdc t.buyerAddress refundable s'.usdc ∧
          (s'.book.trades id).status = .closed) ∨
        ∃ p, call = .approveDisputeSolution p ∧
          (s.disputes.board.proposals p).approvalCount + 1 < s.roles.requiredApprovals) ∧
      ∀ env auth s' r, exec P env (.openDisputeWithAuthorization id auth) s = .ok (s', r) →
        buyerRefundableAmount id s' = .ok refundable := by
  refine ⟨_, _, nonRefundableFeeAmount_eq h hid, require_bind_eq_ok.mpr ⟨hid, rfl⟩, ?_, ?_, ?_⟩
  · intro hopen
    obtain ⟨hfees, hsum⟩ := h.fees_accrued hid hopen
    rw [nonRefundableFeeAmount_eq h hid] at hfees
    have heq := Except.ok.inj hfees
    exact ⟨heq, by rw [heq]; exact hsum.le⟩
  · exact fun env call s' r hcall hexec => (exec_effect hexec).refund hcall
  · exact fun env auth s' r hexec => (exec_effect hexec).refundable_openDispute

/-- The sample trade after its first stage: the view reports the fee that was accrued. -/
theorem refund_views_inTransit : ∃ c, Reachable (mockPlatform 100) c ∧
    (0 < c.state.book.tradeCounter ∧ c.state.paidTo .treasury 0 = 14000000 ∧
      ¬ ∃ p ∈ c.state.paymentsFor 0, p.claimType = .lockTimeoutBuyerRefund) ∧
    nonRefundableFeeAmount 0 c.state = .ok 14000000 := by
  have hrun : (sampleRun [(⟨4, 20⟩, .createTradeWithAuthorization sampleTrade),
      (⟨2, 30⟩, .releaseFundsStage1 0)]).any (fun c => decide (0 < c.state.book.tradeCounter ∧
        c.state.paidTo .treasury 0 = 14000000 ∧
        ¬ ∃ p ∈ c.state.paymentsFor 0, p.claimType = .lockTimeoutBuyerRefund)) = true := by
    decide +kernel
  obtain ⟨c, hreach, hc⟩ := exists_reachable_sampleRun hrun
  have hfacts := of_decide_eq_true hc
  obtain ⟨_, _, hfees, -, htrue, -⟩ := refund_views hreach hfacts.1
  refine ⟨c, hreach, hfacts, ?_⟩
  rw [hfees, (htrue hfacts.2.2).1, hfacts.2.1]

/-- The sample trade cancelled after its lock timeout: the buyer has everything back and the
treasury accrued nothing, but the view reports the fees. -/
theorem fees_of_cancelled_trade : ∃ c, Reachable (mockPlatform 100) c ∧
    0 < c.state.book.tradeCounter ∧ nonRefundableFeeAmount 0 c.state = .ok 14000000 ∧
    c.state.paidTo .treasury 0 = 0 ∧
    c.state.paidTo .buyer 0 = (c.state.book.trades 0).totalAmountLocked := by
  have hrun : (sampleRun [(⟨4, 20⟩, .createTradeWithAuthorization sampleTrade),
      (⟨4, 700000⟩, .cancelLockedTradeAfterTimeoutWithAuthorization 0
        ⟨1, 1000000, List.replicate 8 0⟩)]).any (fun c => decide (0 < c.state.book.tradeCounter ∧
        nonRefundableFeeAmount 0 c.state = .ok 14000000 ∧ c.state.paidTo .treasury 0 = 0 ∧
        c.state.paidTo .buyer 0 = (c.state.book.trades 0).totalAmountLocked)) = true := by
    decide +kernel
  obtain ⟨c, hreach, hc⟩ := exists_reachable_sampleRun hrun
  exact ⟨c, hreach, of_decide_eq_true hc⟩

end Cotsel.Escrow
