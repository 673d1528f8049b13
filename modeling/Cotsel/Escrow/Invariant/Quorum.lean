import Cotsel.Escrow.Invariant.Solvency
import Cotsel.Escrow.Invariant.Voting

/-!
# Quorum

Whatever takes a quorum happens by the execution of a proposal that asks for it (`Attributed`), and
a proposal is executed only when enough present admins made or approved it, all in the running
epoch (`ProposalKind.HasQuorum`).

The votes are looked up in the history of the run, not in the contract's tables: that the tables
record nothing but votes is the invariant `HistoryOk`.
-/

namespace Cotsel.Escrow

open Ballot Runs

variable {T : Type} {P : Platform T} {env : Env} {call : Call} {s s' : State T}

/-! ### The five kinds of proposals -/

inductive ProposalKind
  | dispute
  | oracleUpdate
  | adminChange
  | treasuryPayout
  | unpause
deriving DecidableEq

/-- What a call does to the unpause proposal, which has the number zero. -/
def Call.unpauseAction : Call → Action
  | .proposeUnpause _ _ _ => .propose
  | .approveUnpause => .approve 0
  | _ => .other

def Label.sender : Label T → Address
  | .call env _ => env.sender
  | .external _ => 0

/-- How a proposal stands: its votes, its age and whether it was carried out. -/
structure Standing where
  approvalCount : ℕ
  hasApproved : Address → Bool
  createdAt : ℕ
  epoch : ℕ
  executed : Bool
deriving Inhabited

def Standing.ofBoard {α : Type} (b : Board Address α) (id : ℕ) : Standing where
  approvalCount := (b.proposals id).approvalCount
  hasApproved := b.hasApproved id
  createdAt := (b.proposals id).createdAt
  epoch := (b.proposals id).epoch
  executed := (b.proposals id).executed

def UnpauseStore.standing (u : UnpauseStore) : Standing where
  approvalCount := u.unpauseProposal.approvalCount
  hasApproved := u.unpauseHasApproved
  createdAt := u.unpauseProposal.createdAt
  epoch := u.unpauseProposal.epoch
  executed := u.unpauseProposal.executed

namespace ProposalKind

def action : ProposalKind → Call → Action
  | .dispute => Call.disputeAction
  | .oracleUpdate => Call.oracleUpdateAction
  | .adminChange => Call.adminChangeAction
  | .treasuryPayout => Call.treasuryPayoutAction
  | .unpause => Call.unpauseAction

def counter (s : State T) : ProposalKind → ℕ
  | .dispute => s.disputes.board.counter
  | .oracleUpdate => s.oracleUpdates.counter
  | .adminChange => s.adminChanges.counter
  | .treasuryPayout => s.treasuryPayouts.counter
  | .unpause => 0

/-- How proposal `id` of the kind stands; the only number of an unpause proposal is zero. -/
def standing (s : State T) (id : ℕ) : ProposalKind → Standing
  | .dispute => .ofBoard s.disputes.board id
  | .oracleUpdate => .ofBoard s.oracleUpdates id
  | .adminChange => .ofBoard s.adminChanges id
  | .treasuryPayout => .ofBoard s.treasuryPayouts id
  | .unpause => if id = 0 then s.unpausing.standing else default

/-- How the votes on proposals of the kind are read off a run: who called `propose` or `approve`,
and in which epoch. -/
def reading (kind : ProposalKind) : Reading (ChainStep T) Address where
  creates id t := ∃ env call, t.label = .call env call ∧ kind.action call = .propose ∧
    kind.counter t.source.state = id
  approves id t := ∃ env call, t.label = .call env call ∧ kind.action call = .approve id
  voter t := t.label.sender
  epoch t := t.source.state.roles.governanceEpoch
  time t := t.target.clock

/-- Proposal `id` is carried out in the step from `s` to `s'`. -/
def Executes (kind : ProposalKind) (id : ℕ) (s s' : State T) : Prop :=
  (kind.standing s id).executed = false ∧ (kind.standing s' id).executed = true

/-- Enough admins made proposal `id` or approved it later, all in the running epoch. -/
def HasQuorum (kind : ProposalKind) (id : ℕ) (h : List (ChainStep T)) (s : State T) : Prop :=
  ∃ Q : Finset Address, s.roles.requiredApprovals ≤ Q.card ∧
    ∀ x ∈ Q, s.roles.isAdmin x = true ∧
      kind.reading.Supports id s.roles.governanceEpoch h x

end ProposalKind

/-! ### The tables record votes -/

/-- Every approval in the contract's tables is a vote of the history. -/
structure HistoryOk (h : List (ChainStep T)) (s : State T) : Prop where
  disputes : s.disputes.board.Traced ProposalKind.dispute.reading h
  oracleUpdates : s.oracleUpdates.Traced ProposalKind.oracleUpdate.reading h
  adminChanges : s.adminChanges.Traced ProposalKind.adminChange.reading h
  treasuryPayouts : s.treasuryPayouts.Traced ProposalKind.treasuryPayout.reading h
  unpause : s.unpausing.hasActiveUnpauseProposal = true →
    ProposalKind.unpause.reading.Voted 0 s.unpausing.unpauseProposal.epoch
      s.unpausing.unpauseProposal.createdAt h s.unpausing.unpauseHasApproved

section

variable {c c' : Config T} {h : List (ChainStep T)}

theorem traced_call {α : Type} {kind : ProposalKind} {b b' : Board Address α} {ttl : ℕ}
    (hb : b.Traced kind.reading h) (hcounter : kind.counter c.state = b.counter)
    (hwf : b.WellFormed ttl)
    (hu : Board.Update (ballotContext env c.state ttl) (kind.action call) b b') :
    b'.Traced kind.reading (h ++ [⟨c, .call env call, ⟨s', env.timestamp⟩⟩]) := by
  refine hb.update hu hwf rfl rfl rfl ?_ ?_ ?_
  · rintro id hid ⟨-, -, -, -, hnumber⟩
    rw [hcounter] at hnumber
    exact absurd hnumber (Nat.ne_of_gt hid)
  · exact fun ha => ⟨env, call, rfl, ha, hcounter⟩
  · exact fun id ha => ⟨env, call, rfl, ha⟩

theorem not_creates {kind : ProposalKind} (hcall : kind.action call ≠ .propose) (id : ℕ) :
    ¬ kind.reading.creates id (⟨c, .call env call, c'⟩ : ChainStep T) := by
  rintro ⟨_, _, hlabel, hpropose, -⟩
  cases hlabel
  exact hcall hpropose

theorem unpause_voted_call (he : Effect P env call c.state s')
    (hlist : AdminList c.state.roles.admins c.state.roles.isAdmin)
    (hu : UnpauseOk c.state.roles c.state.unpausing)
    (hv : c.state.unpausing.hasActiveUnpauseProposal = true →
      ProposalKind.unpause.reading.Voted 0 c.state.unpausing.unpauseProposal.epoch
        c.state.unpausing.unpauseProposal.createdAt h c.state.unpausing.unpauseHasApproved)
    (hactive : s'.unpausing.hasActiveUnpauseProposal = true) :
    ProposalKind.unpause.reading.Voted 0 s'.unpausing.unpauseProposal.epoch
      s'.unpausing.unpauseProposal.createdAt
      (h ++ [⟨c, .call env call, ⟨s', env.timestamp⟩⟩]) s'.unpausing.unpauseHasApproved := by
  cases he with
  | proposeUnpause _ _ _ hnone =>
    exact Reading.Voted.create (R := ProposalKind.unpause.reading)
      (t := (⟨_, .call env _, ⟨_, env.timestamp⟩⟩ : ChainStep T)) ⟨env, _, rfl, rfl, rfl⟩
      (hu.empty_of_inactive hnone)
  | replaceUnpause =>
    exact Reading.Voted.create (R := ProposalKind.unpause.reading)
      (t := (⟨_, .call env _, ⟨_, env.timestamp⟩⟩ : ChainStep T)) ⟨env, _, rfl, rfl, rfl⟩
      (clearApprovals_eq_false hlist hu.admin)
  | approveUnpause _ hact _ hepoch =>
    exact (hv hact).approve (not_creates (by nofun) 0) ⟨env, _, rfl, rfl⟩ hepoch.symm
  | executeUnpause | cancelUnpauseProposal => exact absurd hactive Bool.false_ne_true
  | executeAdminChange _ _ _ _ _ hchange =>
    refine Reading.Voted.mono ((hv hactive).snoc (not_creates (by nofun) 0)) ?_
    exact fun x hx => (hchange.approved hu.admin x hx).2
  | _ => exact (hv hactive).snoc (not_creates (by nofun) 0)

/-- What holds of a history holds of it with one more transition of others. -/
theorem HistoryOk.external {usdc : T} (hh : HistoryOk h c.state) :
    HistoryOk (h ++ [⟨c, .external usdc, c'⟩]) { c.state with usdc := usdc } := by
  have hnone : ∀ (kind : ProposalKind) (id : ℕ),
      ¬ kind.reading.creates id (⟨c, .external usdc, c'⟩ : ChainStep T) := by
    rintro _ id ⟨_, _, hlabel, -⟩
    cases hlabel
  exact ⟨hh.disputes.snoc fun id _ => hnone _ id, hh.oracleUpdates.snoc fun id _ => hnone _ id,
    hh.adminChanges.snoc fun id _ => hnone _ id, hh.treasuryPayouts.snoc fun id _ => hnone _ id,
    fun hactive => (hh.unpause hactive).snoc (hnone _ 0)⟩

theorem HistoryOk.step {l : Label T} (hreach : Reachable P c) (hh : HistoryOk h c.state)
    (hstep : Step P c l c') : HistoryOk (h ++ [⟨c, l, c'⟩]) c'.state := by
  have hboards := hreach.boardsOk
  cases hstep with
  | call _ hexec =>
    have he := exec_effect hexec
    exact
      { disputes := traced_call hh.disputes rfl hboards.disputes.wellFormed
          (he.disputes_update hboards.active)
        oracleUpdates := traced_call hh.oracleUpdates rfl hboards.oracleUpdates.wellFormed
          he.oracleUpdates_update
        adminChanges := traced_call hh.adminChanges rfl hboards.adminChanges.wellFormed
          (he.adminChanges_update hboards.adminChanges.wellFormed)
        treasuryPayouts := traced_call hh.treasuryPayouts rfl hboards.treasuryPayouts.wellFormed
          he.treasuryPayouts_update
        unpause := unpause_voted_call he hreach.rolesInv.roles.list hreach.unpauseOk hh.unpause }
  | external => exact hh.external

theorem Deployed.historyOk {c₀ : Config T} (hdep : Deployed P c₀)
    (hrun : Run (Step P) c₀ h c) : HistoryOk h c.state := by
  refine hrun.history (I := fun h c => HistoryOk h c.state) ?_ ?_
  · obtain ⟨_, _, _, hdeploy, -⟩ := hdep
    obtain ⟨_, _⟩ := c₀
    obtain ⟨haccepted, hpush⟩ := deploy_constructed hdeploy
    exact ⟨.empty, .empty, .empty, .empty, fun hactive => absurd hactive Bool.false_ne_true⟩
  · exact fun tr c l c' hrun hh hstep => hh.step ⟨c₀, tr, hdep, hrun⟩ hstep

/-! ### Executions -/

theorem hasQuorum_of_executed {α : Type} {kind : ProposalKind} {a : Action}
    {b b' : Board Address α} {ttl id : ℕ} (hb : BoardOk s.roles ttl b)
    (htraced : b'.Traced kind.reading h)
    (hu : Board.Update (ballotContext env s ttl) a b b')
    (hbefore : (b.proposals id).executed = false) (hafter : (b'.proposals id).executed = true) :
    kind.HasQuorum id h s := by
  obtain ⟨hopen, hquorum, hepoch⟩ := hu.of_executed hbefore hafter
  have hid : id < b'.counter := lt_of_lt_of_le hopen.numbered hu.counter_le
  have hcurrent : (b'.proposals id).epoch = s.roles.governanceEpoch :=
    hepoch.trans hopen.current
  obtain ⟨Q, hQ, hcard⟩ := (hu.wellFormed hb.wellFormed).tally id hid
  refine ⟨Q, hcard ▸ hquorum, fun x hx => ?_⟩
  have hx' : b'.hasApproved id x = true := (hQ x).mp hx
  refine ⟨?_, ?_⟩
  · exact ((hu.votedBy hb.wellFormed hb.votedBy) id hid).2 hcurrent x hx'
  · rw [← hcurrent]
    exact (htraced id hid).supports hx'

theorem hasQuorum_of_unpause (he : Effect P env call c.state s')
    (hu : UnpauseOk c.state.roles c.state.unpausing) (hh : HistoryOk h c.state)
    (hbefore : c.state.unpausing.unpauseProposal.executed = false)
    (hafter : s'.unpausing.unpauseProposal.executed = true) :
    ProposalKind.unpause.HasQuorum 0 (h ++ [⟨c, .call env call, ⟨s', env.timestamp⟩⟩])
      c.state := by
  cases he with
  | executeUnpause hadmin hactive _ hepoch _ hnew hquorum =>
    -- the last vote is the call itself
    obtain ⟨Q, hQ, hcard⟩ := (hu.tally hactive hepoch).update hnew
    refine ⟨Q, hcard ▸ hquorum, fun x hx => ⟨?_, ?_⟩⟩
    · exact update_admin hu.admin hadmin x ((hQ x).mp hx)
    · rw [← hepoch]
      exact Reading.Voted.supports ((hh.unpause hactive).approve (not_creates (by nofun) 0)
        ⟨env, _, rfl, rfl⟩ hepoch.symm) ((hQ x).mp hx)
  | proposeUnpause | replaceUnpause | cancelUnpauseProposal =>
    exact absurd hafter Bool.false_ne_true
  | _ => exact absurd (hbefore.symm.trans hafter) Bool.false_ne_true

theorem hasQuorum_of_step {l : Label T} (hreach : Reachable P c) (hh : HistoryOk h c.state)
    (hstep : Step P c l c') (kind : ProposalKind) (id : ℕ)
    (hexec : kind.Executes id c.state c'.state) :
    kind.HasQuorum id (h ++ [⟨c, l, c'⟩]) c.state := by
  have hboards := hreach.boardsOk
  have hh' := hh.step hreach hstep
  obtain ⟨hbefore, hafter⟩ := hexec
  cases hstep with
  | @external usdc =>
    have hsame : kind.standing { c.state with usdc := usdc } id = kind.standing c.state id := by
      cases kind <;> rfl
    exact absurd (hbefore.symm.trans (hsame ▸ hafter)) Bool.false_ne_true
  | call _ hexec =>
    have he := exec_effect hexec
    cases kind with
    | dispute =>
      exact hasQuorum_of_executed hboards.disputes hh'.disputes
        (he.disputes_update hboards.active) hbefore hafter
    | oracleUpdate =>
      exact hasQuorum_of_executed hboards.oracleUpdates hh'.oracleUpdates
        he.oracleUpdates_update hbefore hafter
    | adminChange =>
      exact hasQuorum_of_executed hboards.adminChanges hh'.adminChanges
        (he.adminChanges_update hboards.adminChanges.wellFormed) hbefore hafter
    | treasuryPayout =>
      exact hasQuorum_of_executed hboards.treasuryPayouts hh'.treasuryPayouts
        he.treasuryPayouts_update hbefore hafter
    | unpause =>
      obtain rfl : id = 0 := by
        by_contra hid
        simp only [ProposalKind.standing, if_neg hid] at hafter
        exact Bool.false_ne_true hafter
      exact hasQuorum_of_unpause he hreach.unpauseOk hh hbefore hafter

end

/-! ### Effects -/

def PauseStore.holds (p : PauseStore) (scope : PauseScope) (tradeId : ℕ) : Bool :=
  match scope with
  | .global => p.paused
  | .claims => p.claimsPaused
  | .trade => p.tradePaused tradeId

/-- Every effect that takes a quorum is the execution of a proposal that asks for it. -/
structure Attributed (P : Platform T) (s s' : State T) : Prop where
  /-- A dispute ends as the proposal says. -/
  frozen : ∀ t, (s.book.trades t).status = .frozen → (s'.book.trades t).status ≠ .frozen →
    ∃ id d, (s.disputes.board.proposals id).payload = ⟨t, d⟩ ∧
      ProposalKind.dispute.Executes id s s' ∧
      Pays P s.usdc (d.recipient (s.book.trades t)) (s.book.trades t).supplierSecondTranche
        s'.usdc
  /-- Each dispute payout in the log. -/
  payout : ∀ new, s'.payments = s.payments ++ new → ∀ p ∈ new,
    p.claimType = .disputeRefundBuyer ∨ p.claimType = .disputeResolveSupplier →
      ∃ id, (s.disputes.board.proposals id).payload.tradeId = p.tradeId ∧
        ProposalKind.dispute.Executes id s s'
  /-- Another oracle, or an oracle that is active again. -/
  oracle : s'.roles.oracleAddress ≠ s.roles.oracleAddress ∨
      (s.roles.oracleActive = false ∧ s'.roles.oracleActive = true) →
    ∃ id, (s.oracleUpdates.proposals id).payload.newOracle = s'.roles.oracleAddress ∧
      ProposalKind.oracleUpdate.Executes id s s'
  /-- Other admins or relayers, or another threshold. -/
  admin : ¬ (s'.roles.admins = s.roles.admins ∧ s'.roles.isAdmin = s.roles.isAdmin ∧
      s'.roles.isRelayer = s.roles.isRelayer ∧
      s'.roles.requiredApprovals = s.roles.requiredApprovals) →
    ∃ id r f, AdminChanged (s.adminChanges.proposals id).payload s.roles
        s.unpausing.unpauseHasApproved r f ∧ s'.roles = r.advance ∧
      ProposalKind.adminChange.Executes id s s'
  /-- Another receiver of the treasury's fees. -/
  treasury : s'.roles.treasuryPayoutAddress ≠ s.roles.treasuryPayoutAddress →
    ∃ id, (s.treasuryPayouts.proposals id).payload.newPayoutReceiver =
        s'.roles.treasuryPayoutAddress ∧
      ProposalKind.treasuryPayout.Executes id s s'
  /-- A pause that is lifted. -/
  unpause : ∀ scope t, s.pausing.holds scope t = true → s'.pausing.holds scope t = false →
    s.unpausing.unpauseProposal.payload.scope = scope ∧
      (scope = .trade → s.unpausing.unpauseProposal.payload.tradeId = t) ∧
      ProposalKind.unpause.Executes 0 s s'

theorem executes_markExecuted {α : Type} {b : Board Address α} {id : ℕ} :
    ((b.markExecuted id).proposals id).executed = true := by
  simp [Board.markExecuted]

theorem setStatus_of_frozen {b : TradeStore} {t i : ℕ} {status : TradeStatus}
    (hfrozen : (b.trades t).status = .frozen) (hi : (b.trades i).status ≠ .frozen) :
    ((b.setStatus i status).trades t).status = .frozen := by
  have hne : t ≠ i := by
    rintro rfl
    exact hi hfrozen
  simp [TradeStore.setStatus, hne, hfrozen]

theorem Effect.attributed_frozen (h : Effect P env call s s') (hblank : s.book.Blank) (t : ℕ)
    (hfrozen : (s.book.trades t).status = .frozen)
    (hleft : (s'.book.trades t).status ≠ .frozen) :
    ∃ id d, (s.disputes.board.proposals id).payload = ⟨t, d⟩ ∧
      ProposalKind.dispute.Executes id s s' ∧
      Pays P s.usdc (d.recipient (s.book.trades t)) (s.book.trades t).supplierSecondTranche
        s'.usdc := by
  have hlt : t < s.book.tradeCounter := hblank.lt (by rw [hfrozen]; decide)
  cases h with
  | @executeDispute _ id tradeId d _ _ _ hactive hpayload _ _ _ _ hpay =>
    by_cases ht : t = tradeId
    · subst ht
      exact ⟨id, d, hpayload, ⟨hactive.notExecuted, executes_markExecuted⟩, hpay⟩
    · refine absurd ?_ hleft
      simpa [TradeStore.setStatus, TradeStore.setInTransitSince, ht] using hfrozen
  | createTrade =>
    refine absurd ?_ hleft
    simpa [TradeStore.push, hlt.ne] using hfrozen
  | @confirmInspectionAvailable _ tradeId _ _ _ _ _ _ hstatus =>
    have hne : t ≠ tradeId := fun ht => by rw [← ht, hfrozen] at hstatus; cases hstatus
    refine absurd ?_ hleft
    simpa [TradeStore.arrive, hne] using hfrozen
  | openDispute _ _ _ _ _ hstatus | finalizeAfterDisputeWindow _ _ _ _ _ hstatus
  | finalizeAfterDisputeWindowWithAuthorization _ _ _ _ _ hstatus
  | finalizeAfterInspectionAcceptance _ _ _ _ hstatus | cancelLockedTrade _ _ _ _ _ hstatus
  | refundInTransit _ _ _ _ _ hstatus | releaseFundsStage1 _ _ _ _ _ hstatus =>
    exact absurd (setStatus_of_frozen hfrozen (by rw [hstatus]; decide)) hleft
  | _ => exact absurd hfrozen hleft

/-- A dispute payout closes a frozen trade. -/
theorem Settlement.frozen_of_payout (h : Settlement P env s s') {new : List Payment}
    (hnew : s'.payments = s.payments ++ new) {p : Payment} (hp : p ∈ new)
    (htype : p.claimType = .disputeRefundBuyer ∨ p.claimType = .disputeResolveSupplier) :
    (s.book.trades p.tradeId).status = .frozen ∧
      (s'.book.trades p.tradeId).status ≠ .frozen := by
  have hnone : s'.payments = s.payments → False := by
    intro hsame
    rw [hsame, List.self_eq_append_right] at hnew
    rw [hnew] at hp
    exact absurd hp List.not_mem_nil
  cases h with
  | idle _ _ _ _ hpayments | swept _ _ _ _ _ _ hpayments => exact (hnone hpayments).elim
  | created _ _ _ _ _ _ _ hpayments =>
    exact (hnone hpayments).elim
  | moved m tradeId _ htrade _ hsource _ hbook _ _ hpayments =>
    rw [hpayments, List.append_cancel_left_eq] at hnew
    have hscheduled := List.mem_of_mem_filter (hnew.symm ▸ hp)
    -- the claim type tells the milestone
    obtain ⟨o, rfl, ho, htrade⟩ : ∃ o, m = .closing o ∧ o.source = .frozen ∧
        p.tradeId = tradeId := by
      rcases m with _ | _ | _ | (_ | _ | _ | _ | _) <;>
        simp only [Milestone.scheduled, Outcome.claimType, List.mem_cons, List.not_mem_nil,
          or_false] at hscheduled
      case stage1 => rcases hscheduled with rfl | rfl | rfl <;> simp at htype
      case closing.disputeRefund => exact ⟨_, rfl, rfl, by rw [hscheduled]⟩
      case closing.disputeResolve => exact ⟨_, rfl, rfl, by rw [hscheduled]⟩
      all_goals simp [hscheduled] at htype
    subst htrade
    refine ⟨hsource.trans ho, ?_⟩
    rw [hbook, Milestone.record_trades, Function.update_self, Milestone.advance_status]
    exact nofun

theorem Effect.attributed (h : Effect P env call s s') (hblank : s.book.Blank) :
    Attributed P s s' where
  frozen := h.attributed_frozen hblank
  payout new hnew p hp htype := by
    obtain ⟨hfrozen, hleft⟩ := (h.settlement hblank).frozen_of_payout hnew hp htype
    obtain ⟨id, _, hpayload, hexec, -⟩ := h.attributed_frozen hblank _ hfrozen hleft
    exact ⟨id, by rw [hpayload], hexec⟩
  oracle hchange := by
    cases h with
    | @executeOracleUpdate _ id _ hactive =>
      exact ⟨id, rfl, hactive.notExecuted, executes_markExecuted⟩
    | executeAdminChange _ _ _ _ _ hroles =>
      cases hroles <;> exact absurd hchange (by simp [RoleStore.advance])
    | _ => exact absurd hchange (by simp [RoleStore.advance])
  admin hchange := by
    cases h with
    | @executeAdminChange _ id _ r f _ hactive hpayload _ _ hroles =>
      exact ⟨id, r, f, hpayload.symm ▸ hroles, rfl, hactive.notExecuted, executes_markExecuted⟩
    | _ => exact absurd ⟨rfl, rfl, rfl, rfl⟩ hchange
  treasury hchange := by
    cases h with
    | @executeTreasuryPayout _ id _ hactive =>
      exact ⟨id, rfl, hactive.notExecuted, executes_markExecuted⟩
    | executeAdminChange _ _ _ _ _ hroles =>
      cases hroles <;> exact absurd rfl hchange
    | _ => exact absurd rfl hchange
  unpause scope t hbefore hafter := by
    cases h with
    | executeUnpause _ _ hopen =>
      refine and_assoc.mp ⟨?_, hopen, rfl⟩
      cases hp : s.unpausing.unpauseProposal.payload.scope <;> cases scope <;>
        simp only [PauseStore.holds, PauseStore.lift, hp] at hbefore hafter
      case global.global => exact ⟨rfl, fun h => by cases h⟩
      case claims.claims => exact ⟨rfl, fun h => by cases h⟩
      case trade.trade =>
        refine ⟨rfl, fun _ => ?_⟩
        by_contra hne
        rw [Function.update_of_ne (Ne.symm hne)] at hafter
        exact absurd (hafter.symm.trans hbefore) Bool.false_ne_true
      all_goals exact absurd (hafter.symm.trans hbefore) Bool.false_ne_true
    | pause | disableOracleEmergency =>
      cases scope
      case global => exact absurd hafter (by simp [PauseStore.holds])
      all_goals exact absurd (hafter.symm.trans hbefore) Bool.false_ne_true
    | pauseClaims =>
      cases scope
      case claims => exact absurd hafter (by simp [PauseStore.holds])
      all_goals exact absurd (hafter.symm.trans hbefore) Bool.false_ne_true
    | @pauseTrade _ tradeId =>
      cases scope
      case trade =>
        simp only [PauseStore.holds] at hbefore hafter
        by_cases ht : t = tradeId
        · rw [ht, Function.update_self] at hafter
          exact absurd hafter (by decide)
        · rw [Function.update_of_ne ht] at hafter
          exact absurd (hafter.symm.trans hbefore) Bool.false_ne_true
      all_goals exact absurd (hafter.symm.trans hbefore) Bool.false_ne_true
    | _ => exact absurd (hafter.symm.trans hbefore) Bool.false_ne_true

theorem attributed_external (s : State T) (usdc : T) : Attributed P s { s with usdc := usdc } where
  frozen _ hfrozen hleft := absurd hfrozen hleft
  payout new hnew p hp _ := by
    have hnil : new = [] := List.self_eq_append_right.mp hnew
    rw [hnil] at hp
    exact absurd hp List.not_mem_nil
  oracle hchange := by simp at hchange
  admin hchange := absurd ⟨rfl, rfl, rfl, rfl⟩ hchange
  treasury hchange := absurd rfl hchange
  unpause _ _ hbefore hafter := absurd (hafter.symm.trans hbefore) Bool.false_ne_true

theorem Step.attributed {c c' : Config T} {l : Label T} (hreach : Reachable P c)
    (hstep : Step P c l c') : Attributed P c.state c'.state := by
  cases hstep with
  | call _ hexec => exact (exec_effect hexec).attributed hreach.solvent.book.blank
  | external => exact attributed_external _ _

/-! ### The theorem -/

/-- In every step of every run: what takes a quorum happens by the execution of a proposal that
asks for it; an executed proposal was made or approved, in the running epoch, by at least
`requiredApprovals ≥ 2` accounts that are admins now; and the approvals in the unpause table are
those of present admins for the active proposal, as many as it counts if it is of the running
epoch. -/
theorem quorum_sound {c₀ c c' : Config T} {tr : List (ChainStep T)} {l : Label T}
    (hdep : Deployed P c₀) (hrun : Run (Step P) c₀ tr c) (hstep : Step P c l c') :
    Attributed P c.state c'.state ∧ 2 ≤ c.state.roles.requiredApprovals ∧
      (∀ (kind : ProposalKind) id, kind.Executes id c.state c'.state →
        kind.HasQuorum id (tr ++ [⟨c, l, c'⟩]) c.state) ∧
      (∀ x, c.state.unpausing.unpauseHasApproved x = true →
        c.state.roles.isAdmin x = true ∧ c.state.unpausing.hasActiveUnpauseProposal = true) ∧
      (c.state.unpausing.hasActiveUnpauseProposal = true →
        c.state.unpausing.unpauseProposal.epoch = c.state.roles.governanceEpoch →
          c.state.unpausing.unpauseProposal.approvalCount =
            (Finset.univ.filter fun x => c.state.unpausing.unpauseHasApproved x = true).card) := by
  have hreach : Reachable P c := ⟨c₀, tr, hdep, hrun⟩
  have hunpause := hreach.unpauseOk
  exact ⟨hstep.attributed hreach, hreach.rolesInv.roles.two_le,
    fun kind id => hasQuorum_of_step hreach (hdep.historyOk hrun) hstep kind id,
    fun x hx => ⟨hunpause.admin x hx, hunpause.active x hx⟩,
    fun hactive hepoch => (hunpause.tally hactive hepoch).card_filter.symm⟩

/-- Admin 5 pauses and proposes to unpause, and the approval of admin 6 lifts the pause. -/
theorem quorum_sound_sample : ∃ (c₀ c c' : Config MockUsdc) (tr : List (ChainStep MockUsdc)),
    Deployed (mockPlatform 100) c₀ ∧ Run (Step (mockPlatform 100)) c₀ tr c ∧
      Step (mockPlatform 100) c (.call ⟨6, 30⟩ .approveUnpause) c' ∧
      (c.state.pausing.paused = true ∧ c'.state.pausing.paused = false) ∧
      ProposalKind.unpause.HasQuorum 0 (tr ++ [⟨c, .call ⟨6, 30⟩ .approveUnpause, c'⟩])
        c.state := by
  have hrun : sampleStep [(⟨5, 20⟩, .pause), (⟨5, 20⟩, .proposeUnpause .global 0 1)] ⟨6, 30⟩
      .approveUnpause (fun c s => decide (c.state.pausing.paused = true ∧
        s.pausing.paused = false)) = true := by
    decide +kernel
  obtain ⟨c, _, ⟨c₀, tr, hdep, htr⟩, hstep, hp⟩ := exists_step_sampleRun hrun
  obtain ⟨hbefore, hafter⟩ := of_decide_eq_true hp
  have hsound := quorum_sound hdep htr hstep
  have hexec := (hsound.1.unpause .global 0 hbefore hafter).2.2
  exact ⟨c₀, c, _, tr, hdep, htr, hstep, ⟨hbefore, hafter⟩, hsound.2.2.1 .unpause 0 hexec⟩

end Cotsel.Escrow
