import Cotsel.Escrow.Invariant.Quorum

/-!
# Lifetime of proposals

A proposal is alive for seven days and while its epoch runs.  The numbered proposals are approved
and carried out only while they are alive.

The unpause proposal is not: `proposeUnpause` and `cancelUnpauseProposal` treat it as expired after
seven days, but `approveUnpause` looks at its epoch only, so an expired proposal still collects
approvals and lifts the pause (`late_unpause`).  Where no unpause approval comes late, all five
kinds keep the rule.
-/

namespace Cotsel.Escrow

open Ballot Runs

variable {T : Type} {P : Platform T} {env : Env} {call : Call} {s s' : State T}

/-! ### The rule -/

/-- The proposal is at most seven days old and of the epoch `e`. -/
def Standing.Alive (p : Standing) (now e : ℕ) : Prop :=
  now ≤ p.createdAt + 7 * 86400 ∧ p.epoch = e

/-- The same proposal, with no vote more. -/
def Standing.Inherits (p' p : Standing) : Prop :=
  p' = { p with hasApproved := p'.hasApproved } ∧
    ∀ x, p'.hasApproved x = true → p.hasApproved x = true

/-- There is such a proposal: its number was given out, or the unpause slot is taken. -/
def ProposalKind.Pending (kind : ProposalKind) (id : ℕ) (s : State T) : Prop :=
  id < kind.counter s ∨
    kind = .unpause ∧ id = 0 ∧ s.unpausing.hasActiveUnpauseProposal = true

/-- What a step at time `now` in epoch `e` may do to a proposal: it is approved, and carried out,
only while it is alive. -/
structure Standing.Respects (now e : ℕ) (p p' : Standing) : Prop where
  approval : (∃ x, p.hasApproved x = false ∧ p'.hasApproved x = true) ∨
    p.approvalCount < p'.approvalCount → p'.Alive now e
  execution : p.executed = false → p'.executed = true → p.Alive now e

/-- The unpause proposal gives way: it is replaced by a new one or cancelled, unexecuted. -/
def UnpauseStore.Displaced (u' : UnpauseStore) (now e : ℕ) : Prop :=
  (u'.hasActiveUnpauseProposal = true ∧ u'.unpauseProposal.createdAt = now ∧
      u'.unpauseProposal.epoch = e ∧ u'.unpauseProposal.approvalCount = 1) ∨
    (u'.hasActiveUnpauseProposal = false ∧ u'.unpauseProposal = default)

/-- A step keeps the lifetimes of all proposals: only living ones are approved and carried out,
and a lapsed one stays as it is, or, if it is the unpause proposal, is replaced or cancelled. -/
structure KeepsLifetimes (now : ℕ) (s s' : State T) : Prop where
  respects : ∀ (kind : ProposalKind) id,
    (kind.standing s id).Respects now s.roles.governanceEpoch (kind.standing s' id)
  lapsed : ∀ (kind : ProposalKind) id, kind.Pending id s →
    ¬ (kind.standing s id).Alive now s.roles.governanceEpoch →
      (kind.standing s' id).Inherits (kind.standing s id) ∨
        kind = .unpause ∧ s'.unpausing.Displaced now s.roles.governanceEpoch

/-! ### Numbered proposals -/

theorem Standing.Inherits.refl (p : Standing) : p.Inherits p := ⟨rfl, fun _ hx => hx⟩

/-- Nothing is approved or carried out by losing votes. -/
theorem Standing.Inherits.respects {p p' : Standing} (h : p'.Inherits p) (now e : ℕ) :
    p.Respects now e p' := by
  obtain ⟨heq, hsub⟩ := h
  refine ⟨?_, fun hbefore hafter => ?_⟩
  · rintro (⟨x, hbefore, hafter⟩ | hlt)
    · exact absurd (hbefore.symm.trans (hsub x hafter)) Bool.false_ne_true
    · rw [heq] at hlt
      exact absurd hlt (lt_irrefl _)
  · rw [heq] at hafter
    exact absurd (hbefore.symm.trans hafter) Bool.false_ne_true

section

variable {α : Type} {b b' : Board Address α} {a : Action} {ttl : ℕ}

/-- What an action on a board leaves of one proposal. -/
theorem standing_cases (hwf : b.WellFormed ttl) (httl : ttl = 7 * 86400)
    (hu : Board.Update (ballotContext env s ttl) a b b') (id : ℕ) :
    Standing.ofBoard b' id = Standing.ofBoard b id ∨
      (b.counter ≤ id ∧ (Standing.ofBoard b' id).executed = false ∧
        (Standing.ofBoard b' id).Alive env.timestamp s.roles.governanceEpoch) ∨
      ((Standing.ofBoard b id).Alive env.timestamp s.roles.governanceEpoch ∧
        (Standing.ofBoard b' id).Alive env.timestamp s.roles.governanceEpoch) := by
  rcases hu.row_cases id with ⟨hsame, hvotes⟩ | ⟨rfl, hcreated, hepoch, hnot⟩ |
    ⟨hopen, hcreated, hepoch⟩
  · left
    unfold Standing.ofBoard
    rw [hsame, hvotes]
  · right; left
    refine ⟨le_rfl, hnot, ?_, hepoch⟩
    show env.timestamp ≤ (b'.proposals b.counter).createdAt + 7 * 86400
    rw [hcreated]
    exact Nat.le_add_right _ _
  · right; right
    have htime : env.timestamp ≤ (b.proposals id).createdAt + 7 * 86400 := by
      rw [← httl, ← hwf.expires id hopen.numbered]
      exact hopen.timely
    refine ⟨⟨htime, hopen.current⟩, ?_, hepoch.trans hopen.current⟩
    show env.timestamp ≤ (b'.proposals id).createdAt + 7 * 86400
    rw [hcreated]
    exact htime

theorem standing_respects (hwf : b.WellFormed ttl) (httl : ttl = 7 * 86400)
    (hu : Board.Update (ballotContext env s ttl) a b b') (id : ℕ) :
    (Standing.ofBoard b id).Respects env.timestamp s.roles.governanceEpoch
      (Standing.ofBoard b' id) := by
  rcases standing_cases hwf httl hu id with hsame | ⟨-, hnot, halive⟩ | ⟨halive, halive'⟩
  · rw [hsame]
    exact (Standing.Inherits.refl _).respects _ _
  · refine ⟨fun _ => halive, fun _ hafter => ?_⟩
    exact absurd (hnot.symm.trans hafter) Bool.false_ne_true
  · exact ⟨fun _ => halive', fun _ _ => halive⟩

theorem standing_lapsed (hwf : b.WellFormed ttl) (httl : ttl = 7 * 86400)
    (hu : Board.Update (ballotContext env s ttl) a b b') {id : ℕ} (hid : id < b.counter)
    (hlapsed : ¬ (Standing.ofBoard b id).Alive env.timestamp s.roles.governanceEpoch) :
    (Standing.ofBoard b' id).Inherits (Standing.ofBoard b id) := by
  rcases standing_cases hwf httl hu id with hsame | ⟨hge, -⟩ | ⟨halive, -⟩
  · rw [hsame]
    exact .refl _
  · exact absurd hge (Nat.not_le_of_lt hid)
  · exact absurd halive hlapsed

end

/-! ### The unpause proposal -/

/-- What a call does to the unpause slot: it stays, gives way, or is approved. -/
theorem Effect.unpause_cases (h : Effect P env call s s')
    (hlist : AdminList s.roles.admins s.roles.isAdmin) (hs : UnpauseOk s.roles s.unpausing) :
    s'.unpausing.standing.Inherits s.unpausing.standing ∨
      (s'.unpausing.Displaced env.timestamp s.roles.governanceEpoch ∧
        s'.unpausing.standing.executed = false ∧
        (s'.unpausing.hasActiveUnpauseProposal = false →
          ∀ x, s'.unpausing.standing.hasApproved x = false)) ∨
      (call = .approveUnpause ∧ s.unpausing.standing.epoch = s.roles.governanceEpoch ∧
        s'.unpausing.standing.createdAt = s.unpausing.standing.createdAt ∧
        s'.unpausing.standing.epoch = s.unpausing.standing.epoch) := by
  cases h with
  | proposeUnpause | replaceUnpause =>
    exact Or.inr (Or.inl ⟨Or.inl ⟨rfl, rfl, rfl, rfl⟩, rfl, nofun⟩)
  | cancelUnpauseProposal =>
    refine Or.inr (Or.inl ⟨Or.inr ⟨rfl, rfl⟩, rfl, fun _ => ?_⟩)
    exact clearApprovals_eq_false hlist hs.admin
  | approveUnpause _ _ _ hepoch | executeUnpause _ _ _ hepoch =>
    exact Or.inr (Or.inr ⟨rfl, hepoch, rfl, rfl⟩)
  | executeAdminChange _ _ _ _ _ hchange =>
    exact Or.inl ⟨rfl, fun x hx => (hchange.approved hs.admin x hx).2⟩
  | _ => exact Or.inl (.refl _)

/-- The condition under which the unpause proposal keeps the rule as well: approvals come within
seven days. -/
def UnpauseInTime (t : ChainStep T) : Prop :=
  ∀ env, t.label = .call env .approveUnpause →
    env.timestamp ≤ t.source.state.unpausing.unpauseProposal.createdAt + governanceProposalTtl

theorem Effect.unpause_respects (h : Effect P env call s s')
    (hlist : AdminList s.roles.admins s.roles.isAdmin) (hs : UnpauseOk s.roles s.unpausing)
    (hintime : call = .approveUnpause →
      env.timestamp ≤ s.unpausing.unpauseProposal.createdAt + governanceProposalTtl) :
    s.unpausing.standing.Respects env.timestamp s.roles.governanceEpoch
        s'.unpausing.standing ∧
      (¬ s.unpausing.standing.Alive env.timestamp s.roles.governanceEpoch →
        s'.unpausing.standing.Inherits s.unpausing.standing ∨
          s'.unpausing.Displaced env.timestamp s.roles.governanceEpoch) := by
  rcases h.unpause_cases hlist hs with hinherits | ⟨hdisplaced, hnot, hempty⟩ |
    ⟨hcall, hepoch, hcreated, hepoch'⟩
  · exact ⟨hinherits.respects _ _, fun _ => Or.inl hinherits⟩
  · refine ⟨⟨?_, fun _ hafter => absurd (hnot.symm.trans hafter) Bool.false_ne_true⟩,
      fun _ => Or.inr hdisplaced⟩
    -- a new proposal is alive, and a cancelled one has no votes
    intro hvote
    rcases hdisplaced with ⟨-, hcreated, hepoch, -⟩ | ⟨hinactive, hdefault⟩
    · refine ⟨?_, hepoch⟩
      show env.timestamp ≤ s'.unpausing.unpauseProposal.createdAt + 7 * 86400
      rw [hcreated]
      exact Nat.le_add_right _ _
    · rcases hvote with ⟨x, -, hx⟩ | hlt
      · exact absurd ((hempty hinactive x).symm.trans hx) Bool.false_ne_true
      · have hzero : s'.unpausing.standing.approvalCount = 0 := by
          show s'.unpausing.unpauseProposal.approvalCount = 0
          rw [hdefault]
          rfl
        rw [hzero] at hlt
        exact absurd hlt (Nat.not_lt_zero _)
  · have halive : s.unpausing.standing.Alive env.timestamp s.roles.governanceEpoch :=
      ⟨hintime hcall, hepoch⟩
    refine ⟨⟨fun _ => ⟨?_, hepoch'.trans hepoch⟩, fun _ _ => halive⟩,
      fun hlapsed => absurd halive hlapsed⟩
    rw [hcreated]
    exact halive.1

/-! ### Every run -/

theorem keepsLifetimes_external (now : ℕ) (s : State T) (usdc : T) :
    KeepsLifetimes now s { s with usdc := usdc } := by
  have hsame : ∀ (kind : ProposalKind) id,
      kind.standing { s with usdc := usdc } id = kind.standing s id := by
    intro kind id
    cases kind <;> rfl
  refine ⟨fun kind id => ?_, fun kind id _ _ => Or.inl ?_⟩
  · exact (Standing.Inherits.refl _).respects _ _
  · exact .refl _

theorem Effect.keepsLifetimes (h : Effect P env call s s') (hboards : BoardsOk s)
    (hlist : AdminList s.roles.admins s.roles.isAdmin) (hunpause : UnpauseOk s.roles s.unpausing)
    (hintime : call = .approveUnpause →
      env.timestamp ≤ s.unpausing.unpauseProposal.createdAt + governanceProposalTtl) :
    KeepsLifetimes env.timestamp s s' := by
  have hdispute := h.disputes_update hboards.active
  have hadmin := h.adminChanges_update hboards.adminChanges.wellFormed
  have hslot := h.unpause_respects hlist hunpause hintime
  refine ⟨fun kind id => ?_, fun kind id hpending hlapsed => ?_⟩
  · cases kind with
    | dispute => exact standing_respects hboards.disputes.wellFormed rfl hdispute id
    | oracleUpdate =>
      exact standing_respects hboards.oracleUpdates.wellFormed rfl h.oracleUpdates_update id
    | adminChange => exact standing_respects hboards.adminChanges.wellFormed rfl hadmin id
    | treasuryPayout =>
      exact standing_respects hboards.treasuryPayouts.wellFormed rfl h.treasuryPayouts_update id
    | unpause =>
      unfold ProposalKind.standing
      split_ifs with hid
      · exact hslot.1
      · exact (Standing.Inherits.refl _).respects _ _
  · rcases hpending with hid | ⟨rfl, rfl, -⟩
    · left
      cases kind with
      | dispute => exact standing_lapsed hboards.disputes.wellFormed rfl hdispute hid hlapsed
      | oracleUpdate =>
        exact standing_lapsed hboards.oracleUpdates.wellFormed rfl h.oracleUpdates_update hid
          hlapsed
      | adminChange => exact standing_lapsed hboards.adminChanges.wellFormed rfl hadmin hid hlapsed
      | treasuryPayout =>
        exact standing_lapsed hboards.treasuryPayouts.wellFormed rfl h.treasuryPayouts_update hid
          hlapsed
      | unpause => exact absurd hid (Nat.not_lt_zero id)
    · rcases hslot.2 hlapsed with hinherits | hdisplaced
      · exact Or.inl hinherits
      · exact Or.inr ⟨rfl, hdisplaced⟩

theorem Step.keepsLifetimes {c c' : Config T} {l : Label T} (hreach : Reachable P c)
    (hstep : Step P c l c') (hintime : UnpauseInTime ⟨c, l, c'⟩) :
    KeepsLifetimes c'.clock c.state c'.state := by
  cases hstep with
  | call _ hexec =>
    refine (exec_effect hexec).keepsLifetimes hreach.boardsOk hreach.rolesInv.roles.list
      hreach.unpauseOk ?_
    rintro rfl
    exact hintime _ rfl
  | external => exact keepsLifetimes_external _ _ _

/-- Admin 6 approves an unpause proposal one second after its seven days, and the pause is
lifted. -/
theorem late_unpause : ∃ (c₀ c c' : Config MockUsdc) (tr : List (ChainStep MockUsdc)),
    Deployed (mockPlatform 100) c₀ ∧ Run (Step (mockPlatform 100)) c₀ tr c ∧
      Step (mockPlatform 100) c (.call ⟨6, 20 + 7 * 86400 + 1⟩ .approveUnpause) c' ∧
      (c.state.unpausing.unpauseProposal.createdAt = 20 ∧ c.state.pausing.paused = true ∧
        c'.state.pausing.paused = false) ∧
      ¬ KeepsLifetimes c'.clock c.state c'.state := by
  have hrun : sampleStep [(⟨5, 20⟩, .pause), (⟨5, 20⟩, .proposeUnpause .global 0 1)]
      ⟨6, 20 + 7 * 86400 + 1⟩ .approveUnpause (fun c s => decide
        ((c.state.unpausing.unpauseProposal.createdAt = 20 ∧ c.state.pausing.paused = true ∧
          s.pausing.paused = false) ∧ c.state.unpausing.unpauseProposal.executed = false ∧
          s.unpausing.unpauseProposal.executed = true)) = true := by
    decide +kernel
  obtain ⟨c, _, ⟨c₀, tr, hdep, htr⟩, hstep, hp⟩ := exists_step_sampleRun hrun
  obtain ⟨hfacts, hbefore, hafter⟩ := of_decide_eq_true hp
  refine ⟨c₀, c, _, tr, hdep, htr, hstep, hfacts, fun hkeeps => ?_⟩
  have halive := ((hkeeps.respects .unpause 0).execution hbefore hafter).1
  have hlate : 20 + 7 * 86400 + 1 ≤ c.state.unpausing.unpauseProposal.createdAt + 7 * 86400 :=
    halive
  omega

/-- In every run in which each unpause approval comes within seven days of the proposal, every
step keeps the lifetimes of all five kinds of proposals, and what takes a quorum happens by the
execution of a proposal. -/
theorem proposal_lifetime {c₀ c : Config T} {tr : List (ChainStep T)} (hdep : Deployed P c₀)
    (hrun : Run (Step P) c₀ tr c) (hintime : ∀ t ∈ tr, UnpauseInTime t) :
    ∀ t ∈ tr, KeepsLifetimes t.target.clock t.source.state t.target.state ∧
      Attributed P t.source.state t.target.state := by
  intro t ht
  obtain ⟨pre, _, -, hpre, hstep, -⟩ := hrun.split ht
  have hreach : Reachable P t.source := ⟨c₀, pre, hdep, hpre⟩
  exact ⟨hstep.keepsLifetimes hreach (hintime t ht), hstep.attributed hreach⟩

/-- A pause that is lifted after ten seconds. -/
theorem proposal_lifetime_sample : ∃ (c₀ c : Config MockUsdc) (tr : List (ChainStep MockUsdc)),
    Deployed (mockPlatform 100) c₀ ∧ Run (Step (mockPlatform 100)) c₀ tr c ∧ tr.length = 3 ∧
      c.state.unpausing.unpauseProposal.executed = true ∧ (∀ t ∈ tr, UnpauseInTime t) ∧
      ∀ t ∈ tr, KeepsLifetimes t.target.clock t.source.state t.target.state := by
  -- all calls are made in the first week
  have hsim : (sampleRunWhere (fun _ env _ => decide (env.timestamp ≤ governanceProposalTtl))
      [(⟨5, 20⟩, .pause), (⟨5, 20⟩, .proposeUnpause .global 0 1), (⟨6, 30⟩, .approveUnpause)]).any
      (fun c => c.state.unpausing.unpauseProposal.executed) = true := by
    decide +kernel
  obtain ⟨c₀, tr, c, hdep, hrun, hlength, hall, hexecuted⟩ := exists_run_sampleRun hsim
  have hintime : ∀ t ∈ tr, UnpauseInTime t := by
    intro t ht _ hlabel
    obtain ⟨_, _, hlabel', htime⟩ := hall t ht
    cases hlabel.symm.trans hlabel'
    exact le_trans (of_decide_eq_true htime) (Nat.le_add_left _ _)
  exact ⟨c₀, c, tr, hdep.deployed, hrun, hlength, hexecuted, hintime,
    fun t ht => (proposal_lifetime hdep.deployed hrun hintime t ht).1⟩

end Cotsel.Escrow
