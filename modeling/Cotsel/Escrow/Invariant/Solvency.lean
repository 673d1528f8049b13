import Cotsel.Escrow.MockUsdc
import Cotsel.Escrow.Spec.Deployment
import Cotsel.Escrow.Spec.Errors

/-!
# Solvency

The escrow holds, at any time, at least what it owes: what is reserved for the open trades and
what is set aside for the treasury.  The argument is an account of one step: a call changes the
balance and the obligations by the same amount, except for a sweep to the escrow itself, which
only lowers the obligations.
-/

namespace Cotsel.Escrow

open Guard Ledger

variable {T : Type} {P : Platform T} {env : Env} {s s' : State T}

/-! ### The obligations -/

/-- What the escrow still holds for a trade. -/
def Trade.reserved (t : Trade) : ℕ :=
  match t.status with
  | .locked => t.totalAmountLocked
  | .inTransit | .arrivalConfirmed | .frozen => t.supplierSecondTranche
  | .closed => 0

def TradeStore.reserved (b : TradeStore) : ℕ :=
  ∑ id ∈ Finset.range b.tradeCounter, (b.trades id).reserved

def State.obligations (s : State T) : ℕ := s.book.reserved + s.claims.totalClaimableUsdc

/-- What holds of every trade that was accepted. -/
structure Trade.WellFormed (P : Platform T) (t : Trade) : Prop where
  total_eq : t.totalAmountLocked = t.logisticsAmount + t.platformFeesAmount +
    t.supplierFirstTranche + t.supplierSecondTranche
  first_pos : 0 < t.supplierFirstTranche
  second_pos : 0 < t.supplierSecondTranche
  supplier_ne_zero : t.supplierAddress ≠ 0
  supplier_ne_self : t.supplierAddress ≠ P.self
  buyer_ne_zero : t.buyerAddress ≠ 0
  buyer_signs : ∃ digest signature, P.recover digest signature = some t.buyerAddress

/-- The escrow has no private key, so it is no buyer. -/
theorem Trade.WellFormed.buyer_ne_self {t : Trade} (h : t.WellFormed P) :
    t.buyerAddress ≠ P.self := by
  obtain ⟨digest, signature, hsigned⟩ := h.buyer_signs
  intro hself
  rw [hself] at hsigned
  exact P.recover_ne_self digest signature hsigned

theorem newTrade_wellFormed {args : CreateTradeArgs} {id : ℕ}
    (hamounts : validateTradeAmounts P args = .ok ())
    (hauth : Authorized P env args.buyer args.message args.authorizationNonce
      args.authorizationDeadline args.authorizationSignature s) :
    (newTrade env args id).WellFormed P := by
  simp only [validateTradeAmounts, LaunchSettlementSchedule.addU256, bind_eq_ok, require_eq_ok,
    exists_const, checkedAdd_eq_ok] at hamounts
  obtain ⟨-, hzero, hself, _, ⟨-, rfl⟩, _, ⟨-, rfl⟩, _, ⟨-, rfl⟩, htotal, -, hfirst, hsecond⟩ :=
    hamounts
  exact ⟨htotal, hfirst, hsecond, hzero, hself, hauth.user_ne_zero, _, _, hauth.signed⟩

theorem Trade.WellFormed.advance {t : Trade} (h : t.WellFormed P) (m : Milestone) (now : ℕ) :
    (m.advance now t).WellFormed P := by
  cases m <;> exact ⟨h.1, h.2, h.3, h.4, h.5, h.6, h.7⟩

/-- What holds of the stored trades. -/
structure TradeStore.WellFormed (P : Platform T) (b : TradeStore) : Prop where
  blank : b.Blank
  trade : ∀ id < b.tradeCounter, (b.trades id).WellFormed P

/-- What a new trade has and every milestone keeps holds of all trades. -/
theorem Settlement.trade_invariant {Q : ℕ → Trade → Prop} (h : Settlement P env s s')
    (hnew : ∀ args id, validateTradeAmounts P args = .ok () →
      Authorized P env args.buyer args.message args.authorizationNonce args.authorizationDeadline
        args.authorizationSignature s → Q id (newTrade env args id))
    (hadvance : ∀ (m : Milestone) id t, Q id t → Q id (m.advance env.timestamp t))
    (hs : ∀ id < s.book.tradeCounter, Q id (s.book.trades id)) :
    ∀ id < s'.book.tradeCounter, Q id (s'.book.trades id) := by
  intro id hid
  cases h with
  | idle hbook | swept hbook =>
    rw [hbook] at hid ⊢
    exact hs id hid
  | created args _ hamounts hauth hbook =>
    rw [hbook] at hid ⊢
    have hlt : id < s.book.tradeCounter + 1 := hid
    by_cases hlast : id = s.book.tradeCounter
    · subst hlast
      simpa [TradeStore.push] using hnew args _ hamounts hauth
    · simpa [TradeStore.push, hlast] using hs id (by omega)
  | moved m tradeId _ _ _ _ _ hbook =>
    rw [hbook, Milestone.record_tradeCounter] at hid
    rw [hbook, Milestone.record_trades]
    by_cases hsame : id = tradeId
    · subst hsame
      rw [Function.update_self]
      exact hadvance m id _ (hs id hid)
    · rw [Function.update_of_ne hsame]
      exact hs id hid

theorem Settlement.book_wellFormed (h : Settlement P env s s') (hb : s.book.WellFormed P) :
    s'.book.WellFormed P := by
  refine ⟨?_, h.trade_invariant (Q := fun _ => Trade.WellFormed P)
    (fun _ _ => newTrade_wellFormed) (fun m _ _ ht => ht.advance m _) hb.trade⟩
  cases h with
  | idle hbook | swept hbook =>
    rw [hbook]
    exact hb.blank
  | created _ _ _ _ hbook =>
    rw [hbook]
    intro id hid
    have hlt : s.book.tradeCounter + 1 ≤ id := hid
    have hne : id ≠ s.book.tradeCounter := by omega
    simpa [TradeStore.push, hne] using hb.blank id (by omega)
  | moved m tradeId _ _ hlt _ _ hbook =>
    rw [hbook]
    intro id hge
    rw [Milestone.record_tradeCounter] at hge
    have hne : id ≠ tradeId := by omega
    rw [Milestone.record_trades, Function.update_of_ne hne,
      Milestone.record_inTransitSince_of_ne _ _ _ _ hne,
      Milestone.record_inspectionWindowSeconds_of_ne _ _ _ _ hne]
    exact hb.blank id hge

/-! ### One step -/

theorem Pays.balance {t t' : T} {recipient : Address} {amount : ℕ}
    (h : Pays P t recipient amount t') (hne : recipient ≠ P.self) :
    P.escrowBalance t' + amount = P.escrowBalance t := by
  unfold Pays at h
  split_ifs at h with hzero
  · rw [h, hzero, Nat.add_zero]
  · exact (P.safeTransfer_ok h).payer hne.symm

/-- What is transferred and set aside at a milestone was reserved before it. -/
theorem Milestone.reserved_advance {t : Trade} (ht : t.WellFormed P) (m : Milestone) (now : ℕ)
    (hsource : t.status = m.source) :
    (m.advance now t).reserved + m.amount t + m.fees t = t.reserved := by
  have htotal := ht.total_eq
  rcases m with _ | _ | _ | (_ | _ | _ | _ | _) <;>
    simp only [Milestone.source, Outcome.source] at hsource <;>
    simp only [Trade.reserved, Milestone.advance, Trade.arrive, Milestone.target,
      Milestone.amount, Milestone.fees, Outcome.amount, hsource] <;>
    omega

theorem Milestone.accrued_total (m : Milestone) (t : Trade) (treasury : Address)
    (c : ClaimStore) :
    (m.accrued t treasury c).totalClaimableUsdc = c.totalClaimableUsdc + m.fees t := by
  cases m <;> simp [Milestone.accrued, Milestone.fees, ClaimStore.accrue, Nat.add_assoc]

theorem Milestone.payee_ne_self {t : Trade} (ht : t.WellFormed P) (m : Milestone)
    (treasury : Address) : m.payee.address t treasury ≠ P.self := by
  rcases m with _ | _ | _ | (_ | _ | _ | _ | _)
  all_goals first
    | exact ht.supplier_ne_self
    | exact ht.buyer_ne_self

theorem Milestone.reserved_record (m : Milestone) (now : ℕ) {id : ℕ} {b : TradeStore}
    (hid : id < b.tradeCounter) :
    (m.record now id b).reserved + (b.trades id).reserved =
      b.reserved + (m.advance now (b.trades id)).reserved := by
  have hoff : ∀ i, i ≠ id →
      ((m.record now id b).trades i).reserved = (b.trades i).reserved := by
    intro i hi
    rw [Milestone.record_trades, Function.update_of_ne hi]
  have hsum := sum_range_of_eq_off hid hoff
  rw [Milestone.record_trades, Function.update_self] at hsum
  unfold TradeStore.reserved
  rw [Milestone.record_tradeCounter, Milestone.record_trades]
  exact hsum

theorem TradeStore.reserved_push (b : TradeStore) (t : Trade) :
    (b.push t).reserved = b.reserved + t.reserved := by
  have hlast : ((b.push t).trades b.tradeCounter).reserved = t.reserved := by
    simp [TradeStore.push]
  have hrest : ∀ id ∈ Finset.range b.tradeCounter,
      ((b.push t).trades id).reserved = (b.trades id).reserved := by
    intro id hid
    have hne : id ≠ b.tradeCounter := (Finset.mem_range.mp hid).ne
    simp [TradeStore.push, hne]
  show ∑ id ∈ Finset.range (b.tradeCounter + 1), ((b.push t).trades id).reserved = _
  rw [Finset.sum_range_succ, hlast, Finset.sum_congr rfl hrest]
  rfl

/-- The account of one call: balance and obligations change by the same amount, or fees are swept
to the escrow itself, which forgets what it owes and pays nothing. -/
theorem Settlement.account (h : Settlement P env s s') (hb : s.book.WellFormed P) :
    P.escrowBalance s.usdc + s'.obligations = P.escrowBalance s'.usdc + s.obligations ∨
      (s.roles.treasuryPayoutAddress = P.self ∧
        P.escrowBalance s'.usdc = P.escrowBalance s.usdc ∧ s'.obligations ≤ s.obligations) := by
  unfold State.obligations
  cases h with
  | idle hbook hclaims husdc => exact Or.inl (by rw [hbook, hclaims, husdc])
  | created args _ hamounts hauth hbook hpay hclaims =>
    left
    have hnew : (newTrade env args s.book.tradeCounter).WellFormed P :=
      newTrade_wellFormed hamounts hauth
    have hreceived : P.escrowBalance s'.usdc = P.escrowBalance s.usdc + args.totalAmount :=
      (P.receiveWithAuthorization_ok hpay).payee hnew.buyer_ne_self
    rw [hbook, hclaims, TradeStore.reserved_push, hreceived]
    show _ + (_ + args.totalAmount + _) = _
    omega
  | moved m tradeId _ htrade hid hsource _ hbook hpay hclaims =>
    have htrade := hb.trade tradeId hid
    have hpaid := hpay.balance (m.payee_ne_self htrade _)
    have hsum := m.reserved_record env.timestamp hid
    have hone := m.reserved_advance htrade env.timestamp hsource
    rw [hbook, hclaims, Milestone.accrued_total]
    omega
  | swept hbook _ _ _ hpay hclaims =>
    rw [hbook, hclaims]
    have hmoved := P.safeTransfer_ok hpay
    by_cases hself : s.roles.treasuryPayoutAddress = P.self
    · right
      rw [hself] at hmoved
      exact ⟨hself, hmoved.self, by simp⟩
    · left
      have hpaid : P.escrowBalance s'.usdc + s.claims.claimableUsdc s.roles.treasuryAddress =
          P.escrowBalance s.usdc := hmoved.payer (Ne.symm hself)
      show _ + (_ + (_ - _)) = _
      omega

/-! ### Every run -/

structure Solvent (P : Platform T) (s : State T) : Prop where
  book : s.book.WellFormed P
  covered : s.obligations ≤ P.escrowBalance s.usdc
  treasury_only : ∀ a, a ≠ s.roles.treasuryAddress → s.claims.claimableUsdc a = 0
  total_eq : s.claims.totalClaimableUsdc = s.claims.claimableUsdc s.roles.treasuryAddress

theorem Constructed.solvent {args : DeployArgs} {usdc : T}
    (h : Constructed P env args usdc s) : Solvent P s := by
  cases h with
  | intro =>
    refine ⟨⟨fun _ _ => ⟨rfl, rfl, rfl⟩, fun id hid => absurd hid (Nat.not_lt_zero id)⟩, ?_,
      fun _ _ => rfl, rfl⟩
    exact Nat.zero_le _

theorem Settlement.claims_treasury (h : Settlement P env s s')
    (hrest : ∀ a, a ≠ s.roles.treasuryAddress → s.claims.claimableUsdc a = 0)
    (htotal : s.claims.totalClaimableUsdc = s.claims.claimableUsdc s.roles.treasuryAddress) :
    (∀ a, a ≠ s.roles.treasuryAddress → s'.claims.claimableUsdc a = 0) ∧
      s'.claims.totalClaimableUsdc = s'.claims.claimableUsdc s.roles.treasuryAddress := by
  cases h with
  | idle _ hclaims | created _ _ _ _ _ _ hclaims =>
    exact hclaims ▸ ⟨hrest, htotal⟩
  | moved m _ _ _ _ _ _ _ _ hclaims =>
    rw [hclaims]
    cases m with
    | stage1 =>
      refine ⟨fun a ha => ?_, ?_⟩
      · simpa [Milestone.accrued, ClaimStore.accrue, ha] using hrest a ha
      · simp [Milestone.accrued, ClaimStore.accrue, htotal]
    | arrival | dispute | closing => exact ⟨hrest, htotal⟩
  | swept _ _ _ _ _ hclaims =>
    rw [hclaims]
    refine ⟨fun a ha => ?_, ?_⟩
    · simpa [ha] using hrest a ha
    · simp [htotal]

theorem Effect.solvent {call : Call} (h : Effect P env call s s') (hs : Solvent P s) :
    Solvent P s' := by
  have hset := h.settlement hs.book.blank
  have hclaims := hset.claims_treasury hs.treasury_only hs.total_eq
  have hcovered := hs.covered
  refine ⟨hset.book_wellFormed hs.book, ?_, ?_, ?_⟩
  · rcases hset.account hs.book with hsame | ⟨-, hbal, hle⟩ <;> omega
  · rw [h.treasuryAddress_eq]
    exact hclaims.1
  · rw [h.treasuryAddress_eq]
    exact hclaims.2

theorem Reachable.solvent {c : Config T} (h : Reachable P c) : Solvent P c.state := by
  refine h.state_invariant (fun _ _ _ _ hdep => hdep.solvent)
    (fun _ _ _ _ _ he hs => he.solvent hs) ?_
  intro s usdc hspend hs
  exact ⟨hs.book, le_trans hs.covered hspend, hs.treasury_only, hs.total_eq⟩

theorem Reachable.trade_invariant {Q : ℕ → Trade → Prop}
    (hnew : ∀ env args id, validateTradeAmounts P args = .ok () → Q id (newTrade env args id))
    (hadvance : ∀ (m : Milestone) now id t, Q id t → Q id (m.advance now t))
    {c : Config T} (h : Reachable P c) :
    ∀ id < c.state.book.tradeCounter, Q id (c.state.book.trades id) := by
  refine h.state_invariant (I := fun s => ∀ id < s.book.tradeCounter, Q id (s.book.trades id))
    ?_ ?_ (fun _ _ _ hs => hs)
  · rintro env args usdc s ⟨haccepted, hpush⟩ id hid
    exact absurd hid (Nat.not_lt_zero id)
  · intro c env call s' hreach he hs
    exact (he.settlement hreach.solvent.book.blank).trade_invariant
      (fun args id hamounts _ => hnew env args id hamounts) (fun m => hadvance m _) hs

/-! ### No transfer lacks funds -/

theorem Solvent.milestone_covered (h : Solvent P s) {m : Milestone} {id : ℕ}
    (hsource : (s.book.trades id).status = m.source) :
    m.amount (s.book.trades id) ≤ P.escrowBalance s.usdc := by
  by_cases hid : id < s.book.tradeCounter
  · have hadvance := m.reserved_advance (h.book.trade id hid) 0 hsource
    have hone : (s.book.trades id).reserved ≤ s.book.reserved :=
      le_sum_range (fun i => (s.book.trades i).reserved) hid
    have hall := h.covered
    unfold State.obligations at hall
    omega
  · -- no money is due for a number that was not given out
    rw [(h.book.blank id (Nat.le_of_not_lt hid)).1]
    rcases m with _ | _ | _ | (_ | _ | _ | _ | _) <;> exact Nat.zero_le _

theorem Solvent.not_insufficient (h : Solvent P s) :
    ¬ Diagnosis P s (.safeTransfer .insufficientBalance) := by
  rintro (⟨m, id, hsource, hlt⟩ | hlt)
  · exact absurd (h.milestone_covered hsource) (Nat.not_le_of_lt hlt)
  · have hall := h.covered
    have htotal := h.total_eq
    unfold State.obligations at hall
    omega

/-- In every reachable state the escrow's balance covers what is reserved for the trades and what
is set aside; the latter is the total of the claimable amounts, which are all the treasury's; and
no call fails because the escrow lacks funds. -/
theorem escrow_solvent {c : Config T} (h : Reachable P c) :
    ∑ id ∈ Finset.range c.state.book.tradeCounter, (c.state.book.trades id).reserved +
        c.state.claims.totalClaimableUsdc ≤ P.escrowBalance c.state.usdc ∧
      c.state.claims.totalClaimableUsdc = ∑ a : Address, c.state.claims.claimableUsdc a ∧
      (∀ a, a ≠ c.state.roles.treasuryAddress → c.state.claims.claimableUsdc a = 0) ∧
      ∀ env call, exec P env call c.state ≠ .error (.safeTransfer .insufficientBalance) := by
  have hs := h.solvent
  refine ⟨hs.covered, ?_, hs.treasury_only, fun env call herr => ?_⟩
  · rw [hs.total_eq]
    exact (Finset.sum_eq_single_of_mem _ (Finset.mem_univ _)
      fun a _ ha => hs.treasury_only a ha).symm
  · exact hs.not_insufficient (exec_diagnosis call _ herr)

/-- After the first stage of the sample trade the second tranche and the fee are covered. -/
theorem escrow_solvent_sample : ∃ c, Reachable (mockPlatform 100) c ∧
    (c.state.book.tradeCounter = 1 ∧ c.state.claims.totalClaimableUsdc = 14000000) ∧
    ∑ id ∈ Finset.range c.state.book.tradeCounter, (c.state.book.trades id).reserved +
      c.state.claims.totalClaimableUsdc ≤ (mockPlatform 100).escrowBalance c.state.usdc := by
  have hrun : (sampleRun [(⟨4, 20⟩, .createTradeWithAuthorization sampleTrade),
      (⟨2, 30⟩, .releaseFundsStage1 0)]).any (fun c => decide (c.state.book.tradeCounter = 1 ∧
        c.state.claims.totalClaimableUsdc = 14000000)) = true := by
    decide +kernel
  obtain ⟨c, hreach, hc⟩ := exists_reachable_sampleRun hrun
  exact ⟨c, hreach, of_decide_eq_true hc, (escrow_solvent hreach).1⟩

end Cotsel.Escrow
