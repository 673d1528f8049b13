import Cotsel.Escrow.Invariant.Quorum
import Cotsel.Escrow.Spec.Enabled

/-!
# One live dispute proposal

For each trade the contract keeps a flag and a number for its active dispute proposal, next to the
flags of the proposals themselves.  They agree: the active proposal is the one proposal of the
trade that is neither executed nor cancelled (`DisputeStore.Coherent`), and there is one only while
the trade is frozen.  So the branch of `proposeDisputeSolution` that refuses to replace a cancelled
active proposal, and the branch of `cancelExpiredDisputeProposal` for a proposal that is not the
active one, are never taken.
-/

namespace Cotsel.Escrow

open Ballot Guard

variable {T : Type} {P : Platform T} {env : Env} {call : Call} {s s' : State T}

/-! ### The dispute store -/

/-- Proposal `id` exists and is neither executed nor cancelled. -/
def DisputeStore.IsLive (d : DisputeStore) (id : ℕ) : Prop :=
  id < d.board.counter ∧ (d.board.proposals id).executed = false ∧ d.board.cancelled id = false

def DisputeStore.tradeOf (d : DisputeStore) (id : ℕ) : ℕ := (d.board.proposals id).payload.tradeId

/-- Flags and numbers of the active proposals agree with the proposals. -/
structure DisputeStore.Coherent (d : DisputeStore) : Prop where
  active : ∀ t, d.tradeHasActiveDisputeProposal t = true →
    d.IsLive (d.tradeActiveDisputeProposalId t) ∧
      d.tradeOf (d.tradeActiveDisputeProposalId t) = t
  live : ∀ id, d.IsLive id → d.tradeHasActiveDisputeProposal (d.tradeOf id) = true ∧
    d.tradeActiveDisputeProposalId (d.tradeOf id) = id

namespace DisputeStore.Coherent

variable {d : DisputeStore} {b : Board Address DisputeTerms} {t id ttl : ℕ}

/-- A first proposal for the trade `t`. -/
theorem start (h : d.Coherent) (hwf : d.board.WellFormed ttl)
    (hnone : d.tradeHasActiveDisputeProposal t = false) (now e : ℕ) (x : Address)
    (outcome : DisputeStatus) :
    DisputeStore.Coherent
      { board := d.board.propose ttl now e x { tradeId := t, disputeStatus := outcome }
        tradeHasActiveDisputeProposal :=
          Function.update d.tradeHasActiveDisputeProposal t true
        tradeActiveDisputeProposalId :=
          Function.update d.tradeActiveDisputeProposalId t d.board.counter } := by
  refine ⟨fun u hu => ?_, fun i hi => ?_⟩
  · by_cases hut : u = t
    · subst hut
      have hfresh := (hwf.fresh d.board.counter le_rfl).2.1
      simp [IsLive, tradeOf, Board.propose, hfresh]
    · have hu' : d.tradeHasActiveDisputeProposal u = true := by simpa [hut] using hu
      obtain ⟨⟨hlt, hopen⟩, htrade⟩ := h.active u hu'
      have hne := hlt.ne
      have hlt' : d.tradeActiveDisputeProposalId u < d.board.counter + 1 := by omega
      simpa [IsLive, tradeOf, Board.propose, hut, hne, hlt'] using ⟨hopen, htrade⟩
  · obtain ⟨hlt, hopen⟩ := hi
    by_cases hnew : i = d.board.counter
    · subst hnew
      simp [tradeOf, Board.propose]
    · -- an old live proposal is about another trade, since `t` has none
      have hlt' : i < d.board.counter := by
        have : i < d.board.counter + 1 := hlt
        omega
      have hlive : d.IsLive i := ⟨hlt', by simpa [Board.propose, hnew] using hopen⟩
      obtain ⟨hflag, hid⟩ := h.live i hlive
      have hut : d.tradeOf i ≠ t := by
        intro heq
        rw [heq, hnone] at hflag
        exact absurd hflag Bool.false_ne_true
      have hsame : (d.board.proposals i).payload.tradeId ≠ t := hut
      simpa [tradeOf, Board.propose, hnew, hsame] using ⟨hflag, hid⟩

/-- The live proposal `id` of the trade `t` ends: it is marked as executed or cancelled, and the
trade has no active proposal any more. -/
theorem finish (h : d.Coherent) (hlive : d.IsLive id) (htrade : d.tradeOf id = t)
    (hpayload : ∀ i, (b.proposals i).payload = (d.board.proposals i).payload)
    (hiff : ∀ i, DisputeStore.IsLive { d with board := b } i ↔ d.IsLive i ∧ i ≠ id) :
    DisputeStore.Coherent ({ d with board := b }.clearActive t) := by
  have htradeOf : ∀ i, ({ d with board := b } : DisputeStore).tradeOf i = d.tradeOf i := by
    intro i
    unfold tradeOf
    rw [hpayload i]
  -- `id` is the active proposal of `t`
  have hactive := (h.live id hlive).2
  rw [htrade] at hactive
  refine ⟨fun u hu => ?_, fun i hi => ?_⟩
  · by_cases hut : u = t
    · simp [DisputeStore.clearActive, hut] at hu
    · have hu' : d.tradeHasActiveDisputeProposal u = true := by
        simpa [DisputeStore.clearActive, hut] using hu
      obtain ⟨hl, htr⟩ := h.active u hu'
      have hid : ({ d with board := b }.clearActive t).tradeActiveDisputeProposalId u =
          d.tradeActiveDisputeProposalId u := by
        simp [DisputeStore.clearActive, hut]
      rw [hid]
      refine ⟨(hiff _).mpr ⟨hl, ?_⟩, (htradeOf _).trans htr⟩
      intro heq
      rw [heq, htrade] at htr
      exact hut htr.symm
  · obtain ⟨hl, hne⟩ := (hiff i).mp hi
    obtain ⟨hflag, hid⟩ := h.live i hl
    have hut : d.tradeOf i ≠ t := by
      intro heq
      rw [heq, hactive] at hid
      exact hne hid.symm
    have htr : ({ d with board := b }.clearActive t).tradeOf i = d.tradeOf i := htradeOf i
    rw [htr]
    simpa [DisputeStore.clearActive, hut] using ⟨hflag, hid⟩

theorem approve (h : d.Coherent) (id : ℕ) (x : Address) :
    DisputeStore.Coherent { d with board := d.board.approve id x } := by
  have hexecuted : ∀ i, ((d.board.approve id x).proposals i).executed =
      (d.board.proposals i).executed := by
    intro i
    by_cases hi : i = id
    · simp [Board.approve, hi]
    · simp [Board.approve, hi]
  have hlive : ∀ i, DisputeStore.IsLive { d with board := d.board.approve id x } i ↔
      d.IsLive i := by
    intro i
    simp [IsLive, hexecuted i]
  have htrade : ∀ i, DisputeStore.tradeOf { d with board := d.board.approve id x } i =
      d.tradeOf i := by
    intro i
    simp [tradeOf]
  refine ⟨fun u hu => ?_, fun i hi => ?_⟩
  · obtain ⟨hl, htr⟩ := h.active u hu
    exact ⟨(hlive _).mpr hl, (htrade _).trans htr⟩
  · rw [htrade]
    exact h.live i ((hlive i).mp hi)

theorem cancel (h : d.Coherent) (hlive : d.IsLive id) (htrade : d.tradeOf id = t) :
    DisputeStore.Coherent ({ d with board := d.board.markCancelled id }.clearActive t) := by
  refine h.finish hlive htrade (fun i => rfl) (fun i => ?_)
  by_cases hi : i = id
  · simp [IsLive, Board.markCancelled, hi]
  · simp [IsLive, Board.markCancelled, hi]

theorem execute (h : d.Coherent) (hlive : d.IsLive id) (htrade : d.tradeOf id = t) :
    DisputeStore.Coherent ({ d with board := d.board.markExecuted id }.clearActive t) := by
  refine h.finish hlive htrade (fun i => ?_) (fun i => ?_)
  · by_cases hi : i = id
    · simp [Board.markExecuted, hi]
    · simp [Board.markExecuted, hi]
  · by_cases hi : i = id
    · simp [IsLive, Board.markExecuted, hi]
    · simp [IsLive, Board.markExecuted, hi]

/-- There is an active proposal of `t` exactly when one proposal of `t` is live. -/
theorem active_iff (h : d.Coherent) (t : ℕ) :
    d.tradeHasActiveDisputeProposal t = true ↔ ∃! id, d.IsLive id ∧ d.tradeOf id = t := by
  constructor
  · intro hactive
    refine ⟨d.tradeActiveDisputeProposalId t, h.active t hactive, ?_⟩
    rintro id ⟨hlive, rfl⟩
    exact (h.live id hlive).2.symm
  · rintro ⟨id, ⟨hlive, rfl⟩, -⟩
    exact (h.live id hlive).1

end DisputeStore.Coherent

/-! ### Every run -/

theorem Effect.coherent (h : Effect P env call s s') (hboards : BoardsOk s)
    (hs : s.disputes.Coherent) : s'.disputes.Coherent := by
  have hwf := hboards.disputes.wellFormed
  cases h with
  | proposeDispute _ _ _ _ _ hnone => exact hs.start hwf hnone _ _ _ _
  | @replaceDispute _ tradeId _ _ _ _ _ _ hsome =>
    -- the old proposal is cancelled, and then the new one is the first
    obtain ⟨hlive, htr⟩ := hs.active tradeId hsome
    have hnone : Function.update s.disputes.tradeHasActiveDisputeProposal tradeId false tradeId =
        false := Function.update_self ..
    exact (hs.cancel hlive htr).start (hwf.markCancelled hlive.1) hnone _ _ _ _
  | approveDispute => exact hs.approve _ _
  | @executeDispute _ id tradeId _ _ _ _ hactive hpayload =>
    have hlive : DisputeStore.IsLive
        { s.disputes with board := s.disputes.board.approve id env.sender } id := by
      refine ⟨hactive.numbered, ?_, hactive.notCancelled⟩
      simpa [Board.approve] using hactive.notExecuted
    have htr : DisputeStore.tradeOf
        { s.disputes with board := s.disputes.board.approve id env.sender } id = tradeId := by
      simp [DisputeStore.tradeOf, Board.approve, hpayload]
    exact (hs.approve id env.sender).execute hlive htr
  | cancelActiveDispute _ _ hid hexpired hpayload =>
    exact hs.cancel ⟨hid, hexpired.notExecuted, hexpired.notCancelled⟩ hpayload
  | @cancelInactiveDispute _ id tradeId _ _ hid hexpired hpayload _ hinactive =>
    -- a live proposal is the active one
    have hlive := hs.live id ⟨hid, hexpired.notExecuted, hexpired.notCancelled⟩
    have htr : s.disputes.tradeOf id = tradeId := hpayload
    rw [htr] at hlive
    exact absurd hlive hinactive
  | _ => exact hs

theorem Reachable.coherent {c : Config T} (h : Reachable P c) : c.state.disputes.Coherent := by
  refine h.state_invariant (I := fun s => s.disputes.Coherent) ?_
    (fun c _ _ _ hreach he hs => he.coherent hreach.boardsOk hs) (fun _ _ _ hs => hs)
  rintro env args usdc s ⟨haccepted, hpush⟩
  exact ⟨fun t ht => absurd ht Bool.false_ne_true, fun id hid => absurd hid.1 (Nat.not_lt_zero id)⟩

/-- Only a frozen trade has an active proposal. -/
def ActiveFrozen (s : State T) : Prop :=
  ∀ t, s.disputes.tradeHasActiveDisputeProposal t = true → (s.book.trades t).status = .frozen

theorem Effect.frozen_kept (h : Effect P env call s s') (hblank : s.book.Blank)
    (hboard : s'.disputes.board = s.disputes.board) {t : ℕ}
    (hfrozen : (s.book.trades t).status = .frozen) : (s'.book.trades t).status = .frozen := by
  by_contra hleft
  obtain ⟨id, d, -, ⟨hbefore, hafter⟩, -⟩ := h.attributed_frozen hblank t hfrozen hleft
  have hafter' : (s'.disputes.board.proposals id).executed = true := hafter
  rw [hboard] at hafter'
  exact absurd (hbefore.symm.trans hafter') Bool.false_ne_true

theorem Effect.activeFrozen (h : Effect P env call s s') (hblank : s.book.Blank)
    (hs : ActiveFrozen s) : ActiveFrozen s' := by
  have hset : ∀ {i t : ℕ}, (s.book.trades i).status = .frozen →
      Function.update s.disputes.tradeHasActiveDisputeProposal i true t = true →
      (s.book.trades t).status = .frozen := by
    intro i t hi ht
    by_cases hti : t = i
    · rwa [hti]
    · rw [Function.update_of_ne hti] at ht
      exact hs t ht
  have hclear : ∀ {i t : ℕ},
      Function.update s.disputes.tradeHasActiveDisputeProposal i false t = true →
      t ≠ i ∧ (s.book.trades t).status = .frozen := by
    intro i t ht
    by_cases hti : t = i
    · rw [hti, Function.update_self] at ht
      exact absurd ht Bool.false_ne_true
    · rw [Function.update_of_ne hti] at ht
      exact ⟨hti, hs t ht⟩
  intro t ht
  have hkept := h.frozen_kept hblank (t := t)
  cases h with
  | proposeDispute _ _ _ _ hstatus => exact hset hstatus ht
  | replaceDispute _ _ _ _ hstatus =>
    rw [Function.update_idem] at ht
    exact hset hstatus ht
  | approveDispute | cancelInactiveDispute => exact hs t ht
  | executeDispute =>
    obtain ⟨hne, hfrozen⟩ := hclear ht
    simpa [TradeStore.setStatus, TradeStore.setInTransitSince, hne] using hfrozen
  | cancelActiveDispute => exact (hclear ht).2
  | _ => exact hkept rfl (hs t ht)

theorem Reachable.activeFrozen {c : Config T} (h : Reachable P c) : ActiveFrozen c.state := by
  refine h.state_invariant ?_
    (fun c _ _ _ hreach he hs => he.activeFrozen hreach.solvent.book.blank hs)
    (fun _ _ _ hs => hs)
  rintro env args usdc s ⟨haccepted, hpush⟩ t ht
  exact absurd ht Bool.false_ne_true

/-! ### The next proposal -/

/-- The active proposal of the trade can be replaced. -/
def DisputeStore.Replaceable (d : DisputeStore) (epoch now t : ℕ) : Prop :=
  d.board.expiresAt (d.tradeActiveDisputeProposalId t) < now ∨
    (d.board.proposals (d.tradeActiveDisputeProposalId t)).epoch < epoch

/-- For a frozen trade that is not paused, an admin's proposal is accepted unless the one that is
active could still be carried. -/
theorem Reachable.succeeds_propose_iff {c : Config T} (hreach : Reachable P c) {t : ℕ}
    (hfrozen : (c.state.book.trades t).status = .frozen) (hpaused : c.state.pausing.paused = false)
    (htrade : c.state.pausing.tradePaused t = false) {env : Env}
    (hadmin : c.state.roles.isAdmin env.sender = true) (outcome : DisputeStatus) :
    Succeeds (exec P env (.proposeDisputeSolution t outcome) c.state) ↔
      c.state.disputes.tradeHasActiveDisputeProposal t = false ∨
        c.state.disputes.Replaceable c.state.roles.governanceEpoch env.timestamp t := by
  have hid : t < c.state.book.tradeCounter := hreach.solvent.book.blank.lt (by rw [hfrozen]; nofun)
  rw [succeeds_proposeDisputeSolution]
  constructor
  · rintro ⟨-, -, -, -, -, hreplace⟩
    cases hactive : c.state.disputes.tradeHasActiveDisputeProposal t with
    | false => exact Or.inl rfl
    | true =>
      have hnumbered := (hreach.coherent.active t hactive).1.1
      have hle := (hreach.boardsOk.disputes.votedBy _ hnumbered).1
      rcases (hreplace hactive).1 with hexpired | hepoch
      · exact Or.inr (Or.inl hexpired)
      · exact Or.inr (Or.inr (lt_of_le_of_ne hle hepoch))
  · intro hor
    refine ⟨hadmin, hpaused, htrade, hid, hfrozen, fun hactive => ⟨?_, ?_⟩⟩
    · rcases hor with hnone | hexpired | hepoch
      · exact absurd (hnone.symm.trans hactive) Bool.false_ne_true
      · exact Or.inl hexpired
      · exact Or.inr hepoch.ne
    · -- the active proposal is not cancelled
      exact (hreach.coherent.active t hactive).1.2.2

/-- In every reachable state the flag of a trade says that one of its proposals is live, which is
then the one with the stored number; no two are live, and none is when the trade is closed.  A new
proposal for a frozen trade that is not paused is refused only while the active one can still be
carried, so at the latest when that one expires it is accepted. -/
theorem single_live_dispute {c : Config T} (hreach : Reachable P c) (t : ℕ) :
    (c.state.disputes.tradeHasActiveDisputeProposal t = true ↔
        ∃! id, c.state.disputes.IsLive id ∧ c.state.disputes.tradeOf id = t) ∧
      (c.state.disputes.tradeHasActiveDisputeProposal t = true →
        c.state.disputes.IsLive (c.state.disputes.tradeActiveDisputeProposalId t) ∧
          c.state.disputes.tradeOf (c.state.disputes.tradeActiveDisputeProposalId t) = t) ∧
      (∀ i j, c.state.disputes.IsLive i → c.state.disputes.IsLive j →
        c.state.disputes.tradeOf i = t → c.state.disputes.tradeOf j = t → i = j) ∧
      ((c.state.book.trades t).status = .closed →
        c.state.disputes.tradeHasActiveDisputeProposal t = false) ∧
      ((c.state.book.trades t).status = .frozen → c.state.pausing.paused = false →
        c.state.pausing.tradePaused t = false →
        (∀ (env : Env) (outcome : DisputeStatus), c.state.roles.isAdmin env.sender = true →
          (Succeeds (exec P env (.proposeDisputeSolution t outcome) c.state) ↔
            c.state.disputes.tradeHasActiveDisputeProposal t = false ∨
              c.state.disputes.Replaceable c.state.roles.governanceEpoch env.timestamp t)) ∧
        ∃ deadline, ∀ (env : Env) (outcome : DisputeStatus),
          c.state.roles.isAdmin env.sender = true → deadline < env.timestamp →
          Succeeds (exec P env (.proposeDisputeSolution t outcome) c.state)) := by
  have hcoherent := hreach.coherent
  refine ⟨hcoherent.active_iff t, hcoherent.active t, ?_, ?_, ?_⟩
  · intro i j hi hj hti htj
    have hfirst := (hcoherent.live i hi).2
    have hsecond := (hcoherent.live j hj).2
    rw [hti] at hfirst
    rw [htj] at hsecond
    exact hfirst.symm.trans hsecond
  · intro hclosed
    by_contra hactive
    have hfrozen := hreach.activeFrozen t (Bool.eq_true_of_not_eq_false hactive)
    rw [hclosed] at hfrozen
    exact absurd hfrozen (by nofun)
  · intro hfrozen hpaused htrade
    have hiff := fun (env : Env) outcome (hadmin : c.state.roles.isAdmin env.sender = true) =>
      hreach.succeeds_propose_iff hfrozen hpaused htrade hadmin outcome
    refine ⟨hiff,
      c.state.disputes.board.expiresAt (c.state.disputes.tradeActiveDisputeProposalId t),
      fun env outcome hadmin hlate => (hiff env outcome hadmin).mpr ?_⟩
    exact Or.inr (Or.inl hlate)

/-- The first proposal of a run has number 0; while it is active a second is refused, and a week
later one is accepted. -/
theorem single_live_dispute_sample : ∃ c : Config MockUsdc, Reachable (mockPlatform 100) c ∧
    c.state.disputes.IsLive 0 ∧
    ¬ Succeeds (exec (mockPlatform 100) ⟨6, 60⟩ (.proposeDisputeSolution 0 .refund) c.state) ∧
    Succeeds (exec (mockPlatform 100) ⟨6, 604851⟩ (.proposeDisputeSolution 0 .refund)
      c.state) := by
  have hrun : (sampleRun [(⟨4, 20⟩, .createTradeWithAuthorization sampleTrade),
      (⟨2, 30⟩, .releaseFundsStage1 0), (⟨2, 30⟩, .confirmInspectionAvailable 0 172800),
      (⟨4, 40⟩, .openDisputeWithAuthorization 0 ⟨1, 1000, List.replicate 8 0⟩),
      (⟨5, 50⟩, .proposeDisputeSolution 0 .resolve)]).any (fun c => decide
        (((c.state.book.trades 0).status = .frozen ∧ c.state.pausing.paused = false ∧
          c.state.pausing.tradePaused 0 = false ∧ c.state.roles.isAdmin 6 = true) ∧
          (c.state.disputes.tradeHasActiveDisputeProposal 0 = true ∧
            c.state.disputes.tradeActiveDisputeProposalId 0 = 0) ∧
          c.state.disputes.board.expiresAt 0 = 604850 ∧
          (c.state.disputes.board.proposals 0).epoch = c.state.roles.governanceEpoch)) = true := by
    decide +kernel
  obtain ⟨c, hreach, hc⟩ := exists_reachable_sampleRun hrun
  obtain ⟨⟨hfrozen, hpaused, htrade, hadmin⟩, ⟨hactive, hzero⟩, hexpires, hepoch⟩ :=
    of_decide_eq_true hc
  obtain ⟨-, hlive, -, -, hnext⟩ := single_live_dispute hreach 0
  obtain ⟨hiff, -⟩ := hnext hfrozen hpaused htrade
  refine ⟨c, hreach, hzero ▸ (hlive hactive).1, fun hearly => ?_, ?_⟩
  · rcases (hiff ⟨6, 60⟩ .refund hadmin).mp hearly with hnone | hexpired | hstale
    · exact absurd (hnone.symm.trans hactive) Bool.false_ne_true
    · rw [hzero, hexpires] at hexpired
      exact absurd hexpired (by decide)
    · rw [hzero, hepoch] at hstale
      exact absurd hstale (lt_irrefl _)
  · refine (hiff ⟨6, 604851⟩ .refund hadmin).mpr (Or.inr (Or.inl ?_))
    rw [hzero, hexpires]
    decide

end Cotsel.Escrow
