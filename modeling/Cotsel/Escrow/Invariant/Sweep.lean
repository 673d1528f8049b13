import Cotsel.Escrow.Invariant.Solvency

/-!
# Treasury sweeps

`claimTreasury` pays the fees to `treasuryPayoutAddress`.  Nothing keeps that receiver from being
the escrow itself: the constructor and `proposeTreasuryPayoutAddressUpdate` compare it with the
other roles only, while the supplier of a trade is checked against `address(this)`.  A sweep to the
escrow clears the claim and moves no money, so that the amount stays in the escrow and nobody can
claim it (`sweep_to_escrow`).

As long as the receiver is somebody else, a sweep is exact, and without donations the balance is
what is reserved and set aside.
-/

namespace Cotsel.Escrow

open Runs

variable {T : Type} {P : Platform T} {env : Env} {call : Call} {s s' : State T}

/-! ### Conditions on the steps of a run -/

/-- No executed proposal makes the escrow the receiver of the treasury's fees. -/
def PayoutElsewhere (P : Platform T) (t : ChainStep T) : Prop :=
  ∀ env id, t.label = .call env (.executeTreasuryPayoutAddressUpdate id) →
    (t.source.state.treasuryPayouts.proposals id).payload.newPayoutReceiver ≠ P.self

/-- Others do not send USDC to the escrow. -/
def NoDonation (P : Platform T) (t : ChainStep T) : Prop :=
  ∀ usdc, t.label = .external usdc →
    P.escrowBalance usdc = P.escrowBalance t.source.state.usdc

/-! ### The receiver -/

theorem Effect.treasuryPayoutAddress_cases (h : Effect P env call s s') :
    s'.roles.treasuryPayoutAddress = s.roles.treasuryPayoutAddress ∨
      ∃ id, call = .executeTreasuryPayoutAddressUpdate id ∧ s'.roles.treasuryPayoutAddress =
        (s.treasuryPayouts.proposals id).payload.newPayoutReceiver := by
  cases h with
  | executeAdminChange _ _ _ _ _ hchange =>
    left
    cases hchange <;> rfl
  | executeTreasuryPayout => exact Or.inr ⟨_, rfl, rfl⟩
  | _ => exact Or.inl rfl

theorem Step.payout_ne_self {c c' : Config T} {l : Label T} (hstep : Step P c l c')
    (helsewhere : PayoutElsewhere P ⟨c, l, c'⟩)
    (hc : c.state.roles.treasuryPayoutAddress ≠ P.self) :
    c'.state.roles.treasuryPayoutAddress ≠ P.self := by
  cases hstep with
  | external => exact hc
  | @call _ _ s' _ _ hexec =>
    show s'.roles.treasuryPayoutAddress ≠ P.self
    rcases (exec_effect hexec).treasuryPayoutAddress_cases with hsame | ⟨id, rfl, hnew⟩
    · rw [hsame]
      exact hc
    · rw [hnew]
      exact helsewhere _ _ rfl

theorem payout_ne_self_of_run {c₀ c : Config T} {tr : List (ChainStep T)}
    (hrun : Run (Step P) c₀ tr c) (helsewhere : ∀ t ∈ tr, PayoutElsewhere P t)
    (h₀ : c₀.state.roles.treasuryPayoutAddress ≠ P.self) :
    c.state.roles.treasuryPayoutAddress ≠ P.self :=
  hrun.invariant_of (I := fun c => c.state.roles.treasuryPayoutAddress ≠ P.self)
    (fun _ _ _ ht hc hstep => hstep.payout_ne_self ht hc) helsewhere h₀

/-! ### The balance -/

/-- A sweep to somebody else pays out exactly what it takes off the claims. -/
theorem Effect.sweep_exact (h : Effect P env .claimTreasury s s')
    (hself : s.roles.treasuryPayoutAddress ≠ P.self) :
    ∃ amount, P.escrowBalance s.usdc = P.escrowBalance s'.usdc + amount ∧
      s.claims.totalClaimableUsdc = s'.claims.totalClaimableUsdc + amount := by
  cases h with
  | claimTreasury _ _ _ _ hle hpay =>
    refine ⟨s.claims.claimableUsdc s.roles.treasuryAddress, ?_, ?_⟩
    · exact ((P.safeTransfer_ok hpay).payer hself.symm).symm
    · exact (Nat.sub_add_cancel hle).symm

theorem Step.balance_eq {c c' : Config T} {l : Label T} (hreach : Reachable P c)
    (hstep : Step P c l c') (hdonation : NoDonation P ⟨c, l, c'⟩)
    (hself : c.state.roles.treasuryPayoutAddress ≠ P.self)
    (hc : P.escrowBalance c.state.usdc = c.state.obligations) :
    P.escrowBalance c'.state.usdc = c'.state.obligations := by
  have hbook := hreach.solvent.book
  cases hstep with
  | external =>
    have hsame := hdonation _ rfl
    exact hsame.trans hc
  | @call _ _ s' _ _ hexec =>
    have hset := (exec_effect hexec).settlement hbook.blank
    rcases hset.account hbook with haccount | ⟨hpayout, -⟩
    · show P.escrowBalance s'.usdc = s'.obligations
      omega
    · exact absurd hpayout hself

theorem balance_eq_of_run {c₀ c : Config T} {tr : List (ChainStep T)} (hdep : Deployed P c₀)
    (hrun : Run (Step P) c₀ tr c) (helsewhere : ∀ t ∈ tr, PayoutElsewhere P t)
    (hdonation : ∀ t ∈ tr, NoDonation P t)
    (hself : c₀.state.roles.treasuryPayoutAddress ≠ P.self)
    (hzero : P.escrowBalance c₀.state.usdc = 0) :
    P.escrowBalance c.state.usdc = c.state.obligations := by
  refine (hrun.invariant_of (I := fun c => Reachable P c ∧
    c.state.roles.treasuryPayoutAddress ≠ P.self ∧
      P.escrowBalance c.state.usdc = c.state.obligations)
    (C := fun t => PayoutElsewhere P t ∧ NoDonation P t) ?_
    (fun t ht => ⟨helsewhere t ht, hdonation t ht⟩) ⟨⟨c₀, [], hdep, .nil _⟩, hself, ?_⟩).2.2
  · rintro c l c' ⟨ht, hd⟩ ⟨hreach, hself, hbalance⟩ hstep
    exact ⟨hreach.step hstep, hstep.payout_ne_self ht hself,
      hstep.balance_eq hreach hd hself hbalance⟩
  · -- a new escrow owes nothing
    obtain ⟨env, args, usdc, hdeploy, -⟩ := hdep
    have hnone : c₀.state.obligations = 0 := by
      obtain ⟨s, clock⟩ := c₀
      obtain ⟨haccepted, hpush⟩ := deploy_constructed hdeploy
      rfl
    rw [hzero, hnone]

/-! ### The theorem -/

/-- The calls up to a sweep after the payout receiver was rotated to `receiver`. -/
def rotateAndSweep (receiver : Address) : List (Env × Call) :=
  [(⟨4, 20⟩, .createTradeWithAuthorization sampleTrade), (⟨2, 30⟩, .releaseFundsStage1 0),
    (⟨5, 40⟩, .proposeTreasuryPayoutAddressUpdate receiver),
    (⟨6, 50⟩, .approveTreasuryPayoutAddressUpdate 0),
    (⟨5, 86500⟩, .executeTreasuryPayoutAddressUpdate 0), (⟨5, 86600⟩, .claimTreasury)]

theorem SampleDeployed.payout_ne_self {c₀ : Config MockUsdc} (h : SampleDeployed c₀) :
    (mockPlatform 100).escrowBalance c₀.state.usdc = 0 ∧
      c₀.state.roles.treasuryPayoutAddress ≠ (mockPlatform 100).self := by
  obtain ⟨hdeploy, -⟩ := h
  have hcheck : (deploy (mockPlatform 100) ⟨1, 10⟩ sampleArgs sampleUsdc).toOption.any
      (fun s => decide ((mockPlatform 100).escrowBalance s.usdc = 0 ∧
        s.roles.treasuryPayoutAddress ≠ (mockPlatform 100).self)) = true := by
    decide +kernel
  rw [hdeploy] at hcheck
  exact of_decide_eq_true hcheck

theorem Admitted.noDonation {p : Config T → Env → Call → Bool} {t : ChainStep T}
    (h : Admitted p t) : NoDonation P t := by
  intro usdc hlabel
  obtain ⟨env, call, hlabel', -⟩ := h
  cases hlabel.symm.trans hlabel'

/-- Two admins rotate the payout receiver to the escrow itself, and the next sweep strands the
fee: without any donation the escrow holds 14,000,000 more than it owes. -/
theorem sweep_to_escrow : ∃ (c₀ c : Config MockUsdc) (tr : List (ChainStep MockUsdc)),
    Deployed (mockPlatform 100) c₀ ∧ Run (Step (mockPlatform 100)) c₀ tr c ∧
      (mockPlatform 100).escrowBalance c₀.state.usdc = 0 ∧
      (∀ t ∈ tr, NoDonation (mockPlatform 100) t) ∧
      c.state.roles.treasuryPayoutAddress = (mockPlatform 100).self ∧
      (mockPlatform 100).escrowBalance c.state.usdc = c.state.obligations + 14000000 := by
  have hsim : (sampleRun (rotateAndSweep 100)).any (fun c => decide
      (c.state.roles.treasuryPayoutAddress = (mockPlatform 100).self ∧
        (mockPlatform 100).escrowBalance c.state.usdc = c.state.obligations + 14000000)) =
      true := by
    decide +kernel
  obtain ⟨c₀, tr, c, hdep, hrun, -, hall, hc⟩ := exists_run_sampleRun hsim
  exact ⟨c₀, c, tr, hdep.deployed, hrun, hdep.payout_ne_self.1, fun t ht => (hall t ht).noDonation,
    of_decide_eq_true hc⟩

/-- In every run in which neither the construction nor an executed proposal makes the escrow the
receiver of the treasury's fees: the receiver is somebody else, a sweep lowers the escrow's balance
by exactly what it takes off the claims, and without donations the balance is what is reserved for
the trades and set aside for the treasury. -/
theorem treasury_sweep_exact {c₀ c : Config T} {tr : List (ChainStep T)} (hdep : Deployed P c₀)
    (hrun : Run (Step P) c₀ tr c) (hpayout : c₀.state.roles.treasuryPayoutAddress ≠ P.self)
    (helsewhere : ∀ t ∈ tr, PayoutElsewhere P t) :
    c.state.roles.treasuryPayoutAddress ≠ P.self ∧
      (∀ env s' r, exec P env .claimTreasury c.state = .ok (s', r) →
        ∃ amount, P.escrowBalance c.state.usdc = P.escrowBalance s'.usdc + amount ∧
          c.state.claims.totalClaimableUsdc = s'.claims.totalClaimableUsdc + amount) ∧
      (P.escrowBalance c₀.state.usdc = 0 → (∀ t ∈ tr, NoDonation P t) →
        P.escrowBalance c.state.usdc =
          ∑ id ∈ Finset.range c.state.book.tradeCounter, (c.state.book.trades id).reserved +
            c.state.claims.totalClaimableUsdc) := by
  have hself := payout_ne_self_of_run hrun helsewhere hpayout
  refine ⟨hself, fun env s' r hexec => ?_, fun hzero hdonation => ?_⟩
  · exact (exec_effect hexec).sweep_exact hself
  · exact balance_eq_of_run hdep hrun helsewhere hdonation hpayout hzero

/-- With account 12 as the new receiver the fee leaves the escrow. -/
theorem treasury_sweep_exact_sample : ∃ (c₀ c : Config MockUsdc)
    (tr : List (ChainStep MockUsdc)),
    Deployed (mockPlatform 100) c₀ ∧ Run (Step (mockPlatform 100)) c₀ tr c ∧
      c₀.state.roles.treasuryPayoutAddress ≠ (mockPlatform 100).self ∧
      (∀ t ∈ tr, PayoutElsewhere (mockPlatform 100) t) ∧
      c.state.roles.treasuryPayoutAddress = 12 ∧
      (mockPlatform 100).escrowBalance c.state.usdc =
        ∑ id ∈ Finset.range c.state.book.tradeCounter, (c.state.book.trades id).reserved +
          c.state.claims.totalClaimableUsdc := by
  have hsim : (sampleRunWhere (fun c _ call => match call with
      | .executeTreasuryPayoutAddressUpdate id => decide
        ((c.state.treasuryPayouts.proposals id).payload.newPayoutReceiver ≠ 100)
      | _ => true) (rotateAndSweep 12)).any
      (fun c => decide (c.state.roles.treasuryPayoutAddress = 12)) = true := by
    decide +kernel
  obtain ⟨c₀, tr, c, hdep, hrun, -, hall, hc⟩ := exists_run_sampleRun hsim
  have helsewhere : ∀ t ∈ tr, PayoutElsewhere (mockPlatform 100) t := by
    intro t ht env id hlabel
    obtain ⟨env', call, hlabel', hreceiver⟩ := hall t ht
    cases hlabel.symm.trans hlabel'
    exact of_decide_eq_true hreceiver
  obtain ⟨hzero, hself⟩ := hdep.payout_ne_self
  have hexact := treasury_sweep_exact hdep.deployed hrun hself helsewhere
  exact ⟨c₀, c, tr, hdep.deployed, hrun, hself, helsewhere, of_decide_eq_true hc,
    hexact.2.2 hzero fun t ht => (hall t ht).noDonation⟩

end Cotsel.Escrow
