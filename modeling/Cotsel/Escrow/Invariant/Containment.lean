import Cotsel.Escrow.Invariant.Disputes
import Cotsel.Escrow.Spec.Isolation

/-!
# What a pause holds still

While the contract is paused, no run without a global unpause touches a trade or consumes a
signature, and the only call that moves USDC is `claimTreasury`.  While a single trade is paused,
no run without an unpause of this trade touches it, its timers or its dispute proposals, and the
other trades do not notice (`exec_resume`).
-/

namespace Cotsel.Escrow

open Ballot Guard Runs

variable {T : Type} {P : Platform T} {env : Env} {call : Call} {s s' : State T} {t : ℕ}

/-! ### Pauses that are not lifted -/

/-- The unpause proposal for this scope is carried out in the step. -/
def Lifts (scope : PauseScope) (tradeId : ℕ) (x : ChainStep T) : Prop :=
  ProposalKind.unpause.Executes 0 x.source.state x.target.state ∧
    x.source.state.unpausing.unpauseProposal.payload.scope = scope ∧
    (scope = .trade → x.source.state.unpausing.unpauseProposal.payload.tradeId = tradeId)

/-- A pause ends only by its unpause. -/
theorem Step.holds_of_not_lifts {c c' : Config T} {l : Label T} {scope : PauseScope}
    (hstep : Step P c l c') (hreach : Reachable P c) (hno : ¬ Lifts scope t ⟨c, l, c'⟩)
    (hholds : c.state.pausing.holds scope t = true) : c'.state.pausing.holds scope t = true := by
  by_contra hlifted
  have hoff := (Bool.not_eq_true _).mp hlifted
  obtain ⟨hscope, htrade, hexec⟩ := (hstep.attributed hreach).unpause scope t hholds hoff
  exact hno ⟨hexec, hscope, htrade⟩

/-! ### The whole contract -/

/-- The only call that moves USDC while the contract is paused. -/
theorem Effect.usdc_or_unpaused (h : Effect P env call s s') :
    s'.usdc = s.usdc ∨ call = .claimTreasury ∨ s.pausing.paused = false := by
  cases h with
  | claimTreasury => exact Or.inr (Or.inl rfl)
  | createTrade _ hpaused | releaseFundsStage1 _ _ hpaused
  | finalizeAfterDisputeWindow _ _ hpaused | finalizeAfterDisputeWindowWithAuthorization _ hpaused
  | finalizeAfterInspectionAcceptance _ hpaused | cancelLockedTrade _ hpaused
  | refundInTransit _ hpaused | executeDispute _ hpaused => exact Or.inr (Or.inr hpaused)
  | _ => exact Or.inl rfl

/-- The contract is paused, and its trades and nonces are those of `s`. -/
structure Halted (s s' : State T) : Prop where
  paused : s'.pausing.paused = true
  book : s'.book = s.book
  nonces : s'.authorizationNonces = s.authorizationNonces

theorem Step.halted {c c' : Config T} {l : Label T} (hstep : Step P c l c')
    (hreach : Reachable P c) (hno : ¬ Lifts .global 0 ⟨c, l, c'⟩) (h : Halted s c.state) :
    Halted s c'.state := by
  have hpaused : c'.state.pausing.holds .global 0 = true :=
    hstep.holds_of_not_lifts hreach hno h.paused
  cases hstep with
  | call _ hexec =>
    have hsettled := (exec_effect hexec).settlement hreach.solvent.book.blank
    obtain ⟨hbook, hnonces⟩ := hsettled.of_paused h.paused
    exact ⟨hpaused, hbook.trans h.book, hnonces.trans h.nonces⟩
  | external => exact ⟨hpaused, h.book, h.nonces⟩

theorem halted_of_run {c c' : Config T} {tr : List (ChainStep T)} (hreach : Reachable P c)
    (hrun : Run (Step P) c tr c') (hno : ∀ x ∈ tr, ¬ Lifts .global 0 x)
    (hpaused : c.state.pausing.paused = true) : Halted c.state c'.state := by
  refine (hrun.invariant_of (I := fun c' => Reachable P c' ∧ Halted c.state c'.state)
    (C := fun x => ¬ Lifts .global 0 x) ?_ hno ⟨hreach, hpaused, rfl, rfl⟩).2
  rintro d l d' hx ⟨hd, hhalted⟩ hstep
  exact ⟨hd.step hstep, hstep.halted hd hx hhalted⟩

/-! ### A single trade -/

def PausedNumbered (s : State T) : Prop :=
  ∀ t, s.pausing.tradePaused t = true → t < s.book.tradeCounter

theorem Settlement.tradeCounter_le (h : Settlement P env s s') :
    s.book.tradeCounter ≤ s'.book.tradeCounter := by
  cases h with
  | idle hbook | swept hbook => rw [hbook]
  | created _ _ _ _ hbook =>
    rw [hbook]
    exact Nat.le_succ _
  | moved _ _ _ _ _ _ _ hbook =>
    rw [hbook, Milestone.record_tradeCounter]

theorem PauseStore.tradePaused_of_lift {p : PauseStore} {terms : UnpauseTerms}
    (h : (p.lift terms).tradePaused t = true) : p.tradePaused t = true := by
  unfold PauseStore.lift at h
  split at h
  · exact h
  · exact h
  · have h' : Function.update p.tradePaused terms.tradeId false t = true := h
    by_cases ht : t = terms.tradeId
    · rw [ht, Function.update_self] at h'
      exact absurd h' Bool.false_ne_true
    · rwa [Function.update_of_ne ht] at h'

theorem Effect.pausedNumbered (h : Effect P env call s s') (hblank : s.book.Blank)
    (hs : PausedNumbered s) : PausedNumbered s' := by
  have hle := (h.settlement hblank).tradeCounter_le
  intro t ht
  have hold : s.pausing.tradePaused t = true → t < s'.book.tradeCounter :=
    fun hpaused => lt_of_lt_of_le (hs t hpaused) hle
  cases h with
  | @pauseTrade _ u =>
    have ht' : Function.update s.pausing.tradePaused u true t = true := ht
    by_cases htu : t = u
    · rwa [htu]
    · rw [Function.update_of_ne htu] at ht'
      exact hold ht'
  | executeUnpause => exact hold (PauseStore.tradePaused_of_lift ht)
  | _ => exact hold ht

theorem Reachable.pausedNumbered {c : Config T} (h : Reachable P c) : PausedNumbered c.state := by
  refine h.state_invariant ?_
    (fun c _ _ _ hreach he hs => he.pausedNumbered hreach.solvent.book.blank hs)
    (fun _ _ _ hs => hs)
  rintro env args usdc s ⟨haccepted, hpush⟩ t ht
  exact absurd ht Bool.false_ne_true

/-- What the contract stores on the disputes of trade `t`: its proposals, whether one of them is
active, and which. -/
def DisputeStore.ofTrade (d : DisputeStore) (t : ℕ) :
    (ℕ → Option (Board.Entry Address DisputeTerms)) × Bool × ℕ :=
  (d.board.entries fun terms => terms.tradeId = t, d.tradeHasActiveDisputeProposal t,
    d.tradeActiveDisputeProposalId t)

/-- No call touches the disputes of a paused trade. -/
theorem Effect.ofTrade_of_paused (h : Effect P env call s s') (hcoherent : s.disputes.Coherent)
    (hpaused : s.pausing.tradePaused t = true) :
    s'.disputes.ofTrade t = s.disputes.ofTrade t := by
  have hother : ∀ {u : ℕ}, s.pausing.tradePaused u = false → u ≠ t := by
    rintro u hu rfl
    exact absurd (hu.symm.trans hpaused) Bool.false_ne_true
  cases h with
  | proposeDispute _ _ htrade =>
    have hne := hother htrade
    simp [DisputeStore.ofTrade, Board.entries_propose, hne, Ne.symm hne]
  | @replaceDispute _ u _ _ _ htrade _ _ hsome =>
    -- the proposal that is cancelled is one of the other trade
    have hne := hother htrade
    have hold : (s.disputes.board.proposals
        (s.disputes.tradeActiveDisputeProposalId u)).payload.tradeId ≠ t := by
      have hown : (s.disputes.board.proposals
          (s.disputes.tradeActiveDisputeProposalId u)).payload.tradeId = u :=
        (hcoherent.active u hsome).2
      rwa [hown]
    simp [DisputeStore.ofTrade, Board.entries_propose, Board.entries_markCancelled, hne, hold,
      Ne.symm hne]
  | approveDispute _ _ _ htrade =>
    simp [DisputeStore.ofTrade, Board.entries_approve, hother htrade]
  | executeDispute _ _ _ hpayload htrade =>
    have hne := hother htrade
    simp [DisputeStore.ofTrade, DisputeStore.clearActive, Board.entries_markExecuted,
      Board.entries_approve, hpayload, hne, Ne.symm hne]
  | cancelActiveDispute _ _ _ _ hpayload htrade =>
    have hne := hother htrade
    simp [DisputeStore.ofTrade, DisputeStore.clearActive, Board.entries_markCancelled, hpayload,
      hne, Ne.symm hne]
  | cancelInactiveDispute _ _ _ _ hpayload htrade =>
    have hne := hother htrade
    simp [DisputeStore.ofTrade, Board.entries_markCancelled, hpayload, hne]
  | _ => rfl

/-- Trade `t` is paused, and all that is stored on it is as in `s`. -/
structure TradeHalted (t : ℕ) (s s' : State T) : Prop where
  paused : s'.pausing.tradePaused t = true
  trade : s'.book.trades t = s.book.trades t
  inTransitSince : s'.book.inTransitSince t = s.book.inTransitSince t
  inspectionWindowSeconds : s'.book.inspectionWindowSeconds t = s.book.inspectionWindowSeconds t
  disputes : s'.disputes.ofTrade t = s.disputes.ofTrade t

theorem Settlement.trade_of_paused (h : Settlement P env s s')
    (hpaused : s.pausing.tradePaused t = true) (ht : t < s.book.tradeCounter) :
    s'.book.trades t = s.book.trades t ∧ s'.book.inTransitSince t = s.book.inTransitSince t ∧
      s'.book.inspectionWindowSeconds t = s.book.inspectionWindowSeconds t := by
  cases h with
  | idle hbook | swept hbook => simp [hbook]
  | created _ _ _ _ hbook =>
    rw [hbook]
    exact ⟨Function.update_of_ne ht.ne .., rfl, rfl⟩
  | moved m tradeId _ htrade _ _ _ hbook =>
    have hne : t ≠ tradeId := by
      rintro rfl
      exact absurd (htrade.symm.trans hpaused) Bool.false_ne_true
    rw [hbook, Milestone.record_trades]
    exact ⟨Function.update_of_ne hne .., m.record_inTransitSince_of_ne _ _ _ hne,
      m.record_inspectionWindowSeconds_of_ne _ _ _ hne⟩

theorem Step.tradeHalted {c c' : Config T} {l : Label T} (hstep : Step P c l c')
    (hreach : Reachable P c) (hno : ¬ Lifts .trade t ⟨c, l, c'⟩) (h : TradeHalted t s c.state) :
    TradeHalted t s c'.state := by
  have hpaused : c'.state.pausing.holds .trade t = true :=
    hstep.holds_of_not_lifts hreach hno h.paused
  cases hstep with
  | call _ hexec =>
    have heffect := exec_effect hexec
    obtain ⟨htrade, hsince, hwindow⟩ := (heffect.settlement
      hreach.solvent.book.blank).trade_of_paused h.paused (hreach.pausedNumbered t h.paused)
    have hdisputes := heffect.ofTrade_of_paused hreach.coherent h.paused
    exact ⟨hpaused, htrade.trans h.trade, hsince.trans h.inTransitSince,
      hwindow.trans h.inspectionWindowSeconds, hdisputes.trans h.disputes⟩
  | external =>
    exact ⟨hpaused, h.trade, h.inTransitSince, h.inspectionWindowSeconds, h.disputes⟩

theorem tradeHalted_of_run {c c' : Config T} {tr : List (ChainStep T)} (hreach : Reachable P c)
    (hrun : Run (Step P) c tr c') (hno : ∀ x ∈ tr, ¬ Lifts .trade t x)
    (hpaused : c.state.pausing.tradePaused t = true) : TradeHalted t c.state c'.state := by
  refine (hrun.invariant_of (I := fun c' => Reachable P c' ∧ TradeHalted t c.state c'.state)
    (C := fun x => ¬ Lifts .trade t x) ?_ hno ⟨hreach, hpaused, rfl, rfl, rfl, rfl⟩).2
  rintro d l d' hx ⟨hd, hhalted⟩ hstep
  exact ⟨hd.step hstep, hstep.tradeHalted hd hx hhalted⟩

/-! ### Containment -/

/-- While the contract is paused and no global unpause is carried out, the trades and the nonces
stay as they are, and no call but `claimTreasury` moves USDC.  While trade `t` is paused and no
unpause of it is carried out, all that is stored on it stays as it is.  And a call that does not
act on `t`, such as any call that acts on another trade, does exactly what it would do were `t`
not paused. -/
theorem pause_containment {c c' : Config T} {tr : List (ChainStep T)} (hreach : Reachable P c)
    (hrun : Run (Step P) c tr c') :
    (c.state.pausing.paused = true → (∀ x ∈ tr, ¬ Lifts .global 0 x) →
      Halted c.state c'.state ∧
        ∀ x ∈ tr, ∀ env call, x.label = .call env call → call ≠ .claimTreasury →
          x.target.state.usdc = x.source.state.usdc) ∧
      (∀ t, c.state.pausing.tradePaused t = true → (∀ x ∈ tr, ¬ Lifts .trade t x) →
        TradeHalted t c.state c'.state) ∧
      (∀ t u (call : Call), u ≠ t → call.Concerns u c.state → ¬ call.Concerns t c.state) ∧
      (∀ t env (call : Call), ¬ call.Concerns t c.state →
        exec P env call (c.state.resume t) =
          (fun r => (r.1.resume t, r.2)) <$> exec P env call c.state) := by
  refine ⟨fun hpaused hno => ⟨halted_of_run hreach hrun hno hpaused, ?_⟩,
    fun t hpaused hno => tradeHalted_of_run hreach hrun hno hpaused,
    fun t u call hne hu ht => hne (hu.eq ht), fun t env call h => exec_resume h⟩
  rintro x hx env call hlabel hcall
  -- the contract is still paused when the call is made
  obtain ⟨pre, post, rfl, hpre, hstep, -⟩ := hrun.split hx
  have hpaused' : x.source.state.pausing.paused = true :=
    (halted_of_run hreach hpre (fun y hy => hno y (List.mem_append_left _ hy)) hpaused).paused
  rw [hlabel] at hstep
  obtain ⟨source, label, target⟩ := x
  cases hstep with
  | call _ hexec =>
    rcases (exec_effect hexec).usdc_or_unpaused with hsame | hclaim | hrunning
    · exact hsame
    · exact absurd hclaim hcall
    · exact absurd (hrunning.symm.trans hpaused') Bool.false_ne_true

/-- Trade 0 and the contract are paused when the treasury takes its fees. -/
theorem pause_containment_sample : ∃ (c c' : Config MockUsdc) (tr : List (ChainStep MockUsdc)),
    Reachable (mockPlatform 100) c ∧ Run (Step (mockPlatform 100)) c tr c' ∧
      (c.state.pausing.paused = true ∧ c.state.pausing.tradePaused 0 = true) ∧
      c'.state.usdc.balances 3 = 14000000 ∧ Halted c.state c'.state ∧
      TradeHalted 0 c.state c'.state := by
  have hrun : sampleStep [(⟨4, 20⟩, .createTradeWithAuthorization sampleTrade),
      (⟨2, 30⟩, .releaseFundsStage1 0), (⟨5, 40⟩, .pauseTrade 0), (⟨5, 40⟩, .pause)] ⟨3, 50⟩
      .claimTreasury (fun c s => decide ((c.state.pausing.paused = true ∧
        c.state.pausing.tradePaused 0 = true) ∧ s.usdc.balances 3 = 14000000 ∧
        s.unpausing.unpauseProposal.executed = false)) = true := by
    decide +kernel
  obtain ⟨c, s, hreach, hstep, hp⟩ := exists_step_sampleRun hrun
  obtain ⟨⟨hpaused, htrade⟩, hbalance, hopen⟩ := of_decide_eq_true hp
  have hno : ∀ (scope : PauseScope) (t : ℕ), ∀ x ∈ [(⟨c, .call ⟨3, 50⟩ .claimTreasury, ⟨s, 50⟩⟩ :
      ChainStep MockUsdc)], ¬ Lifts scope t x := by
    intro scope t x hx hlifts
    rw [List.mem_singleton.mp hx] at hlifts
    exact absurd (hopen.symm.trans hlifts.1.2) Bool.false_ne_true
  obtain ⟨hglobal, hsingle, -, -⟩ := pause_containment hreach (.single hstep)
  exact ⟨c, _, _, hreach, .single hstep, ⟨hpaused, htrade⟩, hbalance,
    (hglobal hpaused (hno _ _)).1, hsingle 0 htrade (hno _ _)⟩

end Cotsel.Escrow
