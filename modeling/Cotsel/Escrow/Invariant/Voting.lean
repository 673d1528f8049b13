import Cotsel.Escrow.Invariant.Roles

/-!
# Votes

The four boards of numbered proposals follow the rules of `Ballot.Board.Update`: disputes, oracle
updates, admin changes and treasury payouts differ in what their proposals say, not in how they
are voted on.  So their counts are right, and the approvals of the running epoch are those of
present admins (`BoardsOk`).

The unpause proposal has one slot instead of a board, and one table of approvals for whatever
proposal is in the slot.  The table is cleared by loops over the present admins.  That this leaves
nothing behind is an invariant of its own (`UnpauseOk`).
-/

namespace Cotsel.Escrow

open Ballot

variable {T : Type} {P : Platform T} {env : Env} {call : Call} {s s' : State T}

/-! ### The four boards -/

/-- The circumstances of a vote by `msg.sender`. -/
def ballotContext (env : Env) (s : State T) (ttl : ℕ) : Context Address where
  sender := env.sender
  now := env.timestamp
  epoch := s.roles.governanceEpoch
  voters := s.roles.isAdmin
  quorum := s.roles.requiredApprovals
  ttl := ttl

/-- What a call does to the dispute proposals. -/
def Call.disputeAction : Call → Action
  | .proposeDisputeSolution _ _ => .propose
  | .approveDisputeSolution proposalId => .approve proposalId
  | _ => .other

def Call.oracleUpdateAction : Call → Action
  | .proposeOracleUpdate _ => .propose
  | .approveOracleUpdate proposalId => .approve proposalId
  | _ => .other

def Call.adminChangeAction : Call → Action
  | .proposeAdminChange _ _ _ _ => .propose
  | .approveAdminChange proposalId => .approve proposalId
  | _ => .other

def Call.treasuryPayoutAction : Call → Action
  | .proposeTreasuryPayoutAddressUpdate _ => .propose
  | .approveTreasuryPayoutAddressUpdate proposalId => .approve proposalId
  | _ => .other

variable {α : Type}

theorem IsActive.isOpen {b : Board Address α} {id : ℕ}
    (h : IsActive env s.roles.governanceEpoch b id) (ttl : ℕ) :
    b.IsOpen (ballotContext env s ttl) id :=
  ⟨h.numbered, h.notExecuted, h.notCancelled, h.timely, h.current⟩

theorem Effect.disputes_update (h : Effect P env call s s')
    (hactive : ∀ t, s.disputes.tradeHasActiveDisputeProposal t = true →
      s.disputes.tradeActiveDisputeProposalId t < s.disputes.board.counter) :
    Board.Update (ballotContext env s disputeProposalTtl) call.disputeAction s.disputes.board
      s'.disputes.board := by
  cases h with
  | proposeDispute hadmin => exact .propose _ hadmin
  | replaceDispute hadmin _ _ _ _ hsome hexpired hcancelled =>
    exact .replace _ _ hadmin (hactive _ hsome) hcancelled hexpired
  | approveDispute hadmin _ hactive _ _ hnew =>
    exact .approve _ hadmin (hactive.isOpen _) hnew
  | executeDispute hadmin _ hactive _ _ _ hnew hquorum =>
    exact .carry _ hadmin (hactive.isOpen _) hnew hquorum
  | cancelActiveDispute _ _ hid hexpired | cancelInactiveDispute _ _ hid hexpired =>
    exact .cancel _ hid hexpired.expired
  | _ => exact .idle

theorem Effect.oracleUpdates_update (h : Effect P env call s s') :
    Board.Update (ballotContext env s governanceProposalTtl) call.oracleUpdateAction
      s.oracleUpdates s'.oracleUpdates := by
  cases h with
  | proposeOracleUpdate hadmin => exact .propose _ hadmin
  | approveOracleUpdate hadmin hactive hnew => exact .approve _ hadmin (hactive.isOpen _) hnew
  | executeOracleUpdate _ hactive hquorum =>
    exact .execute _ (hactive.isOpen _) hquorum
  | cancelExpiredOracleUpdate _ hid hexpired => exact .cancel _ hid hexpired.expired
  | _ => exact .idle

/-- `cancelAdminChangeProposal` does not look at the counter, but an unused number is not
initialized. -/
theorem Effect.adminChanges_update (h : Effect P env call s s')
    (hwf : s.adminChanges.WellFormed governanceProposalTtl) :
    Board.Update (ballotContext env s governanceProposalTtl) call.adminChangeAction
      s.adminChanges s'.adminChanges := by
  cases h with
  | proposeAdminChange hadmin => exact .propose _ hadmin
  | approveAdminChange hadmin hactive hnew => exact .approve _ hadmin (hactive.isOpen _) hnew
  | executeAdminChange _ hactive _ hquorum =>
    exact .execute _ (hactive.isOpen _) hquorum
  | @cancelAdminChangeProposal _ proposalId _ hexpired =>
    have hid : proposalId < s.adminChanges.counter := by
      by_contra hge
      have hblank := (hwf.fresh proposalId (Nat.le_of_not_lt hge)).2.2
      exact absurd hblank (Nat.ne_of_gt hexpired.initialized)
    exact .cancel _ hid hexpired.expired
  | _ => exact .idle

theorem Effect.treasuryPayouts_update (h : Effect P env call s s') :
    Board.Update (ballotContext env s governanceProposalTtl) call.treasuryPayoutAction
      s.treasuryPayouts s'.treasuryPayouts := by
  cases h with
  | proposeTreasuryPayout hadmin => exact .propose _ hadmin
  | approveTreasuryPayout hadmin hactive hnew => exact .approve _ hadmin (hactive.isOpen _) hnew
  | executeTreasuryPayout _ hactive hquorum =>
    exact .execute _ (hactive.isOpen _) hquorum
  | cancelExpiredTreasuryPayout _ hid hexpired => exact .cancel _ hid hexpired.expired
  | _ => exact .idle

/-! ### The invariant of the boards -/

/-- The stored counts and deadlines of a board are right, and its approvals of the running epoch
are those of present admins. -/
structure BoardOk {α : Type} (r : RoleStore) (ttl : ℕ) (b : Board Address α) : Prop where
  wellFormed : b.WellFormed ttl
  votedBy : b.VotedBy r.isAdmin r.governanceEpoch

structure BoardsOk (s : State T) : Prop where
  disputes : BoardOk s.roles disputeProposalTtl s.disputes.board
  active : ∀ t, s.disputes.tradeHasActiveDisputeProposal t = true →
    s.disputes.tradeActiveDisputeProposalId t < s.disputes.board.counter
  oracleUpdates : BoardOk s.roles governanceProposalTtl s.oracleUpdates
  adminChanges : BoardOk s.roles governanceProposalTtl s.adminChanges
  treasuryPayouts : BoardOk s.roles governanceProposalTtl s.treasuryPayouts

/-- Whatever changes the admins ends the epoch. -/
theorem Effect.admins_or_epoch (h : Effect P env call s s') :
    s'.roles.governanceEpoch = s.roles.governanceEpoch + 1 ∨
      s'.roles = s.roles ∨ s'.roles = { s.roles with oracleActive := false } := by
  cases h with
  | disableOracleEmergency => exact Or.inr (Or.inr rfl)
  | executeOracleUpdate | executeTreasuryPayout => exact Or.inl rfl
  | executeAdminChange _ _ _ _ _ hchange =>
    left
    show _ + 1 = _
    rw [hchange.governanceEpoch_eq]
  | _ => exact Or.inr (Or.inl rfl)

theorem BoardOk.empty [Inhabited α] (r : RoleStore) (ttl : ℕ) :
    BoardOk r ttl (Board.empty : Board Address α) :=
  ⟨Board.wellFormed_empty ttl, Board.Current.empty⟩

/-- A board that is voted on stays as it should, also when the call ends the epoch. -/
theorem BoardOk.update {ttl : ℕ} {a : Action} {b b' : Board Address α}
    (hb : BoardOk s.roles ttl b) (h : Effect P env call s s')
    (hu : Board.Update (ballotContext env s ttl) a b b') : BoardOk s'.roles ttl b' := by
  have hvoted : b'.VotedBy s.roles.isAdmin s.roles.governanceEpoch :=
    hu.votedBy hb.wellFormed hb.votedBy
  refine ⟨hu.wellFormed hb.wellFormed, ?_⟩
  rcases h.admins_or_epoch with hnext | hsame | hsame
  · rw [hnext]
    exact hvoted.advance
  · rw [hsame]
    exact hvoted
  · rw [hsame]
    exact hvoted

/-- The number of a trade's active proposal was given out. -/
theorem Effect.active_numbered (h : Effect P env call s s')
    (hs : ∀ t, s.disputes.tradeHasActiveDisputeProposal t = true →
      s.disputes.tradeActiveDisputeProposalId t < s.disputes.board.counter) :
    ∀ t, s'.disputes.tradeHasActiveDisputeProposal t = true →
      s'.disputes.tradeActiveDisputeProposalId t < s'.disputes.board.counter := by
  -- a new proposal becomes the active one of its trade
  have hpropose : ∀ (f : ℕ → Bool) (g : ℕ → ℕ) (i : ℕ),
      (∀ t, t ≠ i → f t = true → g t < s.disputes.board.counter) →
      ∀ t, Function.update f i true t = true →
        Function.update g i s.disputes.board.counter t < s.disputes.board.counter + 1 := by
    intro f g i hrest t ht
    by_cases hti : t = i
    · rw [hti, Function.update_self]
      exact Nat.lt_succ_self _
    · rw [Function.update_of_ne hti] at ht ⊢
      exact Nat.lt_succ_of_lt (hrest t hti ht)
  have hclear : ∀ (i t : ℕ),
      Function.update s.disputes.tradeHasActiveDisputeProposal i false t = true →
      Function.update s.disputes.tradeActiveDisputeProposalId i 0 t <
        s.disputes.board.counter := by
    intro i t ht
    obtain ⟨hti, ht⟩ := of_update_false ht
    rw [Function.update_of_ne hti]
    exact hs t ht
  cases h with
  | proposeDispute => exact hpropose _ _ _ fun t _ ht => hs t ht
  | replaceDispute => exact hpropose _ _ _ fun t hti ht => hclear _ t ht
  | executeDispute | cancelActiveDispute => exact hclear _
  | _ => exact hs

theorem Effect.boardsOk (h : Effect P env call s s') (hs : BoardsOk s) : BoardsOk s' where
  disputes := hs.disputes.update h (h.disputes_update hs.active)
  active := h.active_numbered hs.active
  oracleUpdates := hs.oracleUpdates.update h h.oracleUpdates_update
  adminChanges := hs.adminChanges.update h (h.adminChanges_update hs.adminChanges.wellFormed)
  treasuryPayouts := hs.treasuryPayouts.update h h.treasuryPayouts_update

theorem Reachable.boardsOk {c : Config T} (h : Reachable P c) : BoardsOk c.state := by
  refine h.state_invariant ?_ (fun _ _ _ _ _ he hs => he.boardsOk hs)
    (fun s usdc _ hs => ⟨hs.disputes, hs.active, hs.oracleUpdates, hs.adminChanges,
      hs.treasuryPayouts⟩)
  rintro env args usdc s ⟨haccepted, hpush⟩
  exact ⟨.empty _ _, fun t ht => absurd ht (by simp [initialState]), .empty _ _, .empty _ _,
    .empty _ _⟩

/-! ### The unpause slot -/

/-- Approvals stand only while there is an active proposal, and are those of present admins.  A
proposal of the running epoch has as many as it counts. -/
structure UnpauseOk (r : RoleStore) (u : UnpauseStore) : Prop where
  admin : ∀ x, u.unpauseHasApproved x = true → r.isAdmin x = true
  active : ∀ x, u.unpauseHasApproved x = true → u.hasActiveUnpauseProposal = true
  epoch_le : u.hasActiveUnpauseProposal = true → u.unpauseProposal.epoch ≤ r.governanceEpoch
  tally : u.hasActiveUnpauseProposal = true → u.unpauseProposal.epoch = r.governanceEpoch →
    Tally u.unpauseHasApproved u.unpauseProposal.approvalCount

variable {r : RoleStore}

theorem UnpauseOk.empty_of_inactive {u : UnpauseStore} (hu : UnpauseOk r u)
    (hnone : u.hasActiveUnpauseProposal = false) (x : Address) :
    u.unpauseHasApproved x = false := by
  by_contra hx
  exact absurd (hnone.symm.trans (hu.active x (Bool.eq_true_of_not_eq_false hx))) (by decide)

theorem clearApprovals_apply (admins : List Address) (f : Address → Bool) (x : Address) :
    clearApprovals admins f x = if x ∈ admins then false else f x := by
  unfold clearApprovals
  induction admins generalizing f with
  | nil => simp
  | cons admin rest ih =>
    rw [List.foldl_cons, ih]
    by_cases hrest : x ∈ rest
    · simp [hrest]
    · by_cases hx : x = admin
      · simp [hx]
      · simp [hrest, hx]

variable {f : Address → Bool}

/-- The loop over the present admins clears the whole table. -/
theorem clearApprovals_eq_false (hlist : AdminList r.admins r.isAdmin)
    (hf : ∀ x, f x = true → r.isAdmin x = true) (x : Address) :
    clearApprovals r.admins f x = false := by
  rw [clearApprovals_apply]
  split_ifs with hx
  · rfl
  · by_contra hfx
    exact hx ((hlist.isAdmin_iff x).mp (hf x (Bool.eq_true_of_not_eq_false hfx)))

theorem UnpauseOk.cleared (hf : ∀ x, f x = false)
    (p : Proposal Address UnpauseTerms) : UnpauseOk r ⟨p, f, false⟩ := by
  refine ⟨fun x hx => ?_, fun x hx => ?_, fun h => ?_, fun h => ?_⟩
  · exact absurd ((hf x).symm.trans hx) (by decide)
  · exact absurd ((hf x).symm.trans hx) (by decide)
  · exact absurd h Bool.false_ne_true
  · exact absurd h Bool.false_ne_true

theorem update_admin {a : Address}
    (hf : ∀ x, f x = true → r.isAdmin x = true) (ha : r.isAdmin a = true) :
    ∀ x, Function.update f a true x = true → r.isAdmin x = true := by
  intro x hx
  by_cases hxa : x = a
  · rwa [hxa]
  · rw [Function.update_of_ne hxa] at hx
    exact hf x hx

theorem UnpauseOk.propose (hf : ∀ x, f x = false)
    (hadmin : r.isAdmin env.sender = true) {scope : PauseScope} {tradeId : ℕ}
    {incidentRef : Bytes32} :
    UnpauseOk r ⟨newUnpauseProposal env scope tradeId incidentRef r.governanceEpoch,
      Function.update f env.sender true, true⟩ := by
  have hnone : ∀ x, f x = true → r.isAdmin x = true :=
    fun x hx => absurd ((hf x).symm.trans hx) (by decide)
  exact ⟨update_admin hnone hadmin, fun _ _ => rfl, fun _ => le_rfl,
    fun _ _ => (tally_zero hf).update (hf env.sender)⟩

theorem AdminChanged.approved {terms : AdminChangeTerms} {r' : RoleStore}
    {f' : Address → Bool} (h : AdminChanged terms r f r' f')
    (hf : ∀ x, f x = true → r.isAdmin x = true) :
    ∀ x, f' x = true → r'.isAdmin x = true ∧ f x = true := by
  intro x hx
  cases h with
  | add =>
    refine ⟨?_, hx⟩
    show Function.update r.isAdmin terms.newAdmin true x = true
    by_cases hnew : x = terms.newAdmin
    · rw [hnew, Function.update_self]
    · rw [Function.update_of_ne hnew]
      exact hf x hx
  | remove =>
    obtain ⟨hold, hx⟩ := of_update_false hx
    refine ⟨?_, hx⟩
    show Function.update r.isAdmin terms.currentAdmin false x = true
    rw [Function.update_of_ne hold]
    exact hf x hx
  | replace =>
    obtain ⟨hnew, hx⟩ := of_update_false hx
    obtain ⟨hold, hx⟩ := of_update_false hx
    refine ⟨?_, hx⟩
    show Function.update (Function.update r.isAdmin terms.currentAdmin false)
      terms.newAdmin true x = true
    rw [Function.update_of_ne hnew, Function.update_of_ne hold]
    exact hf x hx
  | threshold | relayerAdd | relayerRemove => exact ⟨hf x hx, hx⟩

theorem Effect.unpauseOk (h : Effect P env call s s')
    (hlist : AdminList s.roles.admins s.roles.isAdmin) (hs : UnpauseOk s.roles s.unpausing) :
    UnpauseOk s'.roles s'.unpausing := by
  have hlater : ∀ {u : UnpauseStore}, u.unpauseProposal = s.unpausing.unpauseProposal →
      u.hasActiveUnpauseProposal = s.unpausing.hasActiveUnpauseProposal →
      u.hasActiveUnpauseProposal = true →
      u.unpauseProposal.epoch < s.roles.governanceEpoch + 1 := by
    intro u hp ha hactive
    have hle := hs.epoch_le (ha ▸ hactive)
    rw [hp]
    omega
  cases h with
  | proposeUnpause hadmin _ _ hnone =>
    exact .propose (hs.empty_of_inactive hnone) hadmin
  | replaceUnpause hadmin =>
    exact .propose (clearApprovals_eq_false hlist hs.admin) hadmin
  | approveUnpause hadmin hactive _ hepoch _ hnew =>
    exact ⟨update_admin hs.admin hadmin, fun _ _ => hactive, hs.epoch_le,
      fun _ _ => (hs.tally hactive hepoch).update hnew⟩
  | executeUnpause hadmin =>
    exact .cleared (clearApprovals_eq_false hlist (update_admin hs.admin hadmin)) _
  | cancelUnpauseProposal =>
    exact .cleared (clearApprovals_eq_false hlist hs.admin) _
  | executeOracleUpdate | executeTreasuryPayout =>
    exact ⟨hs.admin, hs.active, fun ha => (hlater rfl rfl ha).le,
      fun ha he => absurd he (hlater rfl rfl ha).ne⟩
  | @executeAdminChange _ _ _ roles _ _ _ _ _ _ hchange =>
    have hepoch : roles.advance.governanceEpoch = s.roles.governanceEpoch + 1 := by
      show _ + 1 = _
      rw [hchange.governanceEpoch_eq]
    refine ⟨fun x hx => (hchange.approved hs.admin x hx).1,
      fun x hx => hs.active x (hchange.approved hs.admin x hx).2, fun ha => ?_, fun ha he => ?_⟩
    · show _ ≤ roles.advance.governanceEpoch
      rw [hepoch]
      exact (hlater rfl rfl ha).le
    · have he' : _ = roles.advance.governanceEpoch := he
      rw [hepoch] at he'
      exact absurd he' (hlater rfl rfl ha).ne
  | disableOracleEmergency => exact ⟨hs.admin, hs.active, hs.epoch_le, hs.tally⟩
  | _ => exact hs

theorem Reachable.unpauseOk {c : Config T} (h : Reachable P c) :
    UnpauseOk c.state.roles c.state.unpausing := by
  refine h.state_invariant (I := fun s => UnpauseOk s.roles s.unpausing) ?_
    (fun c _ _ _ hreach he hs => he.unpauseOk hreach.rolesInv.roles.list hs)
    (fun s usdc _ hs => hs)
  rintro env args usdc s ⟨haccepted, hpush⟩
  exact .cleared (fun _ => rfl) _

end Cotsel.Escrow
