import Cotsel.Escrow.Invariant.Quorum

/-!
# Timelocks and the disabled oracle

A proposal that was made while the oracle was disabled may be executed at once.  It stays in the
storage with that permission, but it belongs to the epoch in which it was made, and the oracle is
enabled again only by executing an oracle update, which ends the epoch.  So among the proposals of
the running epoch, those without a timelock exist only while the oracle is disabled.

While the oracle is disabled the contract is paused, and stays so: the global pause can be lifted
with an active oracle only.
-/

namespace Cotsel.Escrow

open Ballot Runs

variable {T : Type} {P : Platform T} {env : Env} {call : Call} {s s' : State T}

/-! ### The invariant -/

/-- The timelock is 24 hours; proposals of the running epoch wait for it, unless they were made
while the oracle was disabled, which it still is; and a disabled oracle means a paused contract. -/
structure TimelockOk (s : State T) : Prop where
  timelock : s.roles.governanceTimelock = 24 * 3600
  oracleUpdates : s.oracleUpdates.Current
    (fun p _ => (p.payload.emergencyFastTrack = true → s.roles.oracleActive = false) ∧
      (p.payload.emergencyFastTrack = false → p.payload.eta = p.createdAt + 24 * 3600))
    s.roles.governanceEpoch
  adminChanges : s.adminChanges.Current
    (fun p _ => p.payload.eta = p.createdAt + 24 * 3600) s.roles.governanceEpoch
  treasuryPayouts : s.treasuryPayouts.Current
    (fun p _ => p.payload.eta = p.createdAt + 24 * 3600) s.roles.governanceEpoch
  paused : s.roles.oracleActive = false → s.pausing.paused = true

theorem AdminChanged.roles_eq {terms : AdminChangeTerms} {r r' : RoleStore}
    {f f' : Address → Bool} (h : AdminChanged terms r f r' f') :
    r'.governanceTimelock = r.governanceTimelock ∧ r'.oracleActive = r.oracleActive := by
  cases h <;> exact ⟨rfl, rfl⟩

/-- Lifting a pause leaves the global one alone unless the oracle is active. -/
theorem lift_paused (hscope : ScopePaused s.unpausing.unpauseProposal.payload.scope
      s.unpausing.unpauseProposal.payload.tradeId s)
    (hs : s.roles.oracleActive = false → s.pausing.paused = true)
    (hactive : s.roles.oracleActive = false) :
    (s.pausing.lift s.unpausing.unpauseProposal.payload).paused = true := by
  unfold PauseStore.lift
  cases hp : s.unpausing.unpauseProposal.payload.scope with
  | global =>
    rw [hp] at hscope
    exact absurd (hactive.symm.trans hscope.2) Bool.false_ne_true
  | claims | trade => exact hs hactive

theorem Effect.timelockOk (h : Effect P env call s s') (hs : TimelockOk s) : TimelockOk s' := by
  cases h with
  | pause =>
    exact ⟨hs.timelock, hs.oracleUpdates, hs.adminChanges, hs.treasuryPayouts, fun _ => rfl⟩
  | executeUnpause _ _ _ _ hscope =>
    exact ⟨hs.timelock, hs.oracleUpdates, hs.adminChanges, hs.treasuryPayouts,
      lift_paused hscope hs.paused⟩
  | disableOracleEmergency =>
    exact ⟨hs.timelock, hs.oracleUpdates.imp fun p _ hp => ⟨fun _ => rfl, hp.2⟩, hs.adminChanges,
      hs.treasuryPayouts, fun _ => rfl⟩
  | @proposeOracleUpdate _ _ eta _ _ _ heta =>
    refine ⟨hs.timelock, hs.oracleUpdates.propose ?_, hs.adminChanges, hs.treasuryPayouts,
      hs.paused⟩
    refine ⟨fun hfast => ?_, fun hslow => ?_⟩
    · exact (Bool.not_eq_true_eq_eq_false _).mp hfast
    · have hactive : s.roles.oracleActive = true := (Bool.not_eq_false_eq_eq_true _).mp hslow
      show eta = env.timestamp + 24 * 3600
      rw [heta, if_pos hactive, hs.timelock]
  | approveOracleUpdate =>
    exact ⟨hs.timelock, hs.oracleUpdates.approve fun _ hp => hp, hs.adminChanges,
      hs.treasuryPayouts, hs.paused⟩
  | executeOracleUpdate =>
    exact ⟨hs.timelock, (hs.oracleUpdates.markExecuted fun hp => hp).advance,
      hs.adminChanges.advance, hs.treasuryPayouts.advance, nofun⟩
  | cancelExpiredOracleUpdate =>
    exact ⟨hs.timelock, hs.oracleUpdates.markCancelled _, hs.adminChanges, hs.treasuryPayouts,
      hs.paused⟩
  | proposeAdminChange =>
    refine ⟨hs.timelock, hs.oracleUpdates, hs.adminChanges.propose ?_, hs.treasuryPayouts,
      hs.paused⟩
    show env.timestamp + s.roles.governanceTimelock = _
    rw [hs.timelock]
  | approveAdminChange =>
    exact ⟨hs.timelock, hs.oracleUpdates, hs.adminChanges.approve fun _ hp => hp,
      hs.treasuryPayouts, hs.paused⟩
  | @executeAdminChange _ _ _ roles _ _ _ _ _ _ hchange =>
    obtain ⟨htimelock, horacle⟩ := hchange.roles_eq
    have hepoch : roles.advance.governanceEpoch = s.roles.governanceEpoch + 1 := by
      show _ + 1 = _
      rw [hchange.governanceEpoch_eq]
    refine ⟨htimelock.trans hs.timelock, ?_, ?_, ?_, fun hnot => hs.paused ?_⟩
    · show Board.Current _ roles.advance.governanceEpoch _
      rw [hepoch]
      exact hs.oracleUpdates.advance
    · show Board.Current _ roles.advance.governanceEpoch _
      rw [hepoch]
      exact (hs.adminChanges.markExecuted fun hp => hp).advance
    · show Board.Current _ roles.advance.governanceEpoch _
      rw [hepoch]
      exact hs.treasuryPayouts.advance
    · exact horacle.symm.trans hnot
  | cancelAdminChangeProposal =>
    exact ⟨hs.timelock, hs.oracleUpdates, hs.adminChanges.markCancelled _, hs.treasuryPayouts,
      hs.paused⟩
  | proposeTreasuryPayout =>
    refine ⟨hs.timelock, hs.oracleUpdates, hs.adminChanges, hs.treasuryPayouts.propose ?_,
      hs.paused⟩
    show env.timestamp + s.roles.governanceTimelock = _
    rw [hs.timelock]
  | approveTreasuryPayout =>
    exact ⟨hs.timelock, hs.oracleUpdates, hs.adminChanges,
      hs.treasuryPayouts.approve fun _ hp => hp, hs.paused⟩
  | executeTreasuryPayout =>
    exact ⟨hs.timelock, hs.oracleUpdates.advance, hs.adminChanges.advance,
      (hs.treasuryPayouts.markExecuted fun hp => hp).advance, hs.paused⟩
  | cancelExpiredTreasuryPayout =>
    exact ⟨hs.timelock, hs.oracleUpdates, hs.adminChanges, hs.treasuryPayouts.markCancelled _,
      hs.paused⟩
  | _ => exact ⟨hs.timelock, hs.oracleUpdates, hs.adminChanges, hs.treasuryPayouts, hs.paused⟩

theorem Reachable.timelockOk {c : Config T} (h : Reachable P c) : TimelockOk c.state := by
  refine h.state_invariant ?_ (fun _ _ _ _ _ he hs => he.timelockOk hs)
    (fun s usdc _ hs =>
      ⟨hs.timelock, hs.oracleUpdates, hs.adminChanges, hs.treasuryPayouts, hs.paused⟩)
  rintro _ args _ _ ⟨-, hpush⟩
  have hothers := (pushAdmins_pushed hpush (initialRoles_pushed args)).1.others
  refine ⟨?_, .empty, .empty, .empty, fun hactive => ?_⟩
  · show RoleStore.governanceTimelock _ = 24 * 3600
    rw [hothers]
    rfl
  · have htrue : RoleStore.oracleActive _ = false := hactive
    rw [hothers] at htrue
    exact absurd htrue.symm Bool.false_ne_true

/-! ### Executions wait -/

theorem TimelockOk.oracleUpdate_waits (hs : TimelockOk s) {id : ℕ}
    (h : Effect P env (.executeOracleUpdate id) s s') (hactive : s.roles.oracleActive = true) :
    (s.oracleUpdates.proposals id).createdAt + 24 * 3600 ≤ env.timestamp ∧
      (s.oracleUpdates.proposals id).payload.emergencyFastTrack = false := by
  cases h with
  | executeOracleUpdate _ hact _ heta =>
    obtain ⟨hfast, hslow⟩ := (hs.oracleUpdates id hact.numbered).2 hact.current
    have hnot : (s.oracleUpdates.proposals id).payload.emergencyFastTrack = false := by
      by_contra htrack
      have hoff := hfast (Bool.eq_true_of_not_eq_false htrack)
      exact absurd (hoff.symm.trans hactive) Bool.false_ne_true
    rw [hslow hnot] at heta
    exact ⟨heta, hnot⟩

theorem TimelockOk.adminChange_waits (hs : TimelockOk s) {id : ℕ}
    (h : Effect P env (.executeAdminChange id) s s') :
    (s.adminChanges.proposals id).createdAt + 24 * 3600 ≤ env.timestamp := by
  cases h with
  | executeAdminChange _ hact hpayload _ heta =>
    have hterms := (hs.adminChanges id hact.numbered).2 hact.current
    rw [← hpayload, hterms] at heta
    exact heta

theorem TimelockOk.treasuryPayout_waits (hs : TimelockOk s) {id : ℕ}
    (h : Effect P env (.executeTreasuryPayoutAddressUpdate id) s s') :
    (s.treasuryPayouts.proposals id).createdAt + 24 * 3600 ≤ env.timestamp := by
  cases h with
  | executeTreasuryPayout _ hact _ heta =>
    have hterms := (hs.treasuryPayouts id hact.numbered).2 hact.current
    rw [hterms] at heta
    exact heta

/-! ### Epochs only grow -/

theorem Effect.epoch_le (h : Effect P env call s s') :
    s.roles.governanceEpoch ≤ s'.roles.governanceEpoch := by
  rcases h.admins_or_epoch with hnext | hsame | hsame
  · rw [hnext]
    exact Nat.le_succ _
  · rw [hsame]
  · rw [hsame]

/-- An oracle that becomes active ends the epoch. -/
theorem Effect.epoch_lt_of_activated (h : Effect P env call s s')
    (hbefore : s.roles.oracleActive = false) (hafter : s'.roles.oracleActive = true) :
    s.roles.governanceEpoch < s'.roles.governanceEpoch := by
  rcases h.admins_or_epoch with hnext | hsame | hsame
  · rw [hnext]
    exact Nat.lt_succ_self _
  · rw [hsame] at hafter
    exact absurd (hbefore.symm.trans hafter) Bool.false_ne_true
  · rw [hsame] at hafter
    exact absurd hafter Bool.false_ne_true

/-- The transition installs a new oracle after the old one was disabled. -/
def Activates (t : ChainStep T) : Prop :=
  t.source.state.roles.oracleActive = false ∧ t.target.state.roles.oracleActive = true

/-- Oracle update `id` exists and is of an epoch that is over. -/
def Outdated (id : ℕ) (s : State T) : Prop :=
  id < s.oracleUpdates.counter ∧
    (s.oracleUpdates.proposals id).epoch < s.roles.governanceEpoch

theorem Effect.oracleUpdate_kept (h : Effect P env call s s') {id : ℕ}
    (hid : id < s.oracleUpdates.counter) :
    id < s'.oracleUpdates.counter ∧
      (s'.oracleUpdates.proposals id).epoch = (s.oracleUpdates.proposals id).epoch := by
  have hu := h.oracleUpdates_update
  refine ⟨lt_of_lt_of_le hid hu.counter_le, ?_⟩
  rcases hu.row_cases id with ⟨hsame, -⟩ | ⟨hnew, -⟩ | ⟨-, -, hepoch⟩
  · rw [hsame]
  · exact absurd hnew hid.ne
  · exact hepoch

/-- What is made before an activation is out of date after it. -/
theorem outdated_of_run {c c' : Config T} {tr : List (ChainStep T)} (hreach : Reachable P c)
    (hrun : Run (Step P) c tr c') {id : ℕ} (hid : id < c.state.oracleUpdates.counter) :
    id < c'.state.oracleUpdates.counter ∧
      ((∃ t ∈ tr, Activates t) → Outdated id c'.state) := by
  refine hrun.history (I := fun tr c' => id < c'.state.oracleUpdates.counter ∧
    ((∃ t ∈ tr, Activates t) → Outdated id c'.state)) ⟨hid, ?_⟩ ?_
  · rintro ⟨t, ht, -⟩
    exact absurd ht List.not_mem_nil
  · intro tr c₁ l c₂ hrun ⟨hid, hold⟩ hstep
    have hle := ((hreach.run hrun).timelockOk.oracleUpdates id hid).1
    cases hstep with
    | @external =>
      refine ⟨hid, fun ⟨t, ht, hact⟩ => ?_⟩
      rcases List.mem_append.mp ht with hmem | hlast
      · exact hold ⟨t, hmem, hact⟩
      · rw [List.mem_singleton.mp hlast] at hact
        exact absurd (hact.1.symm.trans hact.2) Bool.false_ne_true
    | @call _ _ s' _ _ hexec =>
      have he := exec_effect hexec
      obtain ⟨hid', hepoch⟩ := he.oracleUpdate_kept hid
      have hmono := he.epoch_le
      refine ⟨hid', fun ⟨t, ht, hact⟩ => ⟨hid', ?_⟩⟩
      show (s'.oracleUpdates.proposals id).epoch < s'.roles.governanceEpoch
      rw [hepoch]
      rcases List.mem_append.mp ht with hmem | hlast
      · exact lt_of_lt_of_le (hold ⟨t, hmem, hact⟩).2 hmono
      · rw [List.mem_singleton.mp hlast] at hact
        exact lt_of_le_of_lt hle (he.epoch_lt_of_activated hact.1 hact.2)

theorem Outdated.not_executable {id : ℕ} (h : Outdated id s) :
    ¬ ∃ r, exec P env (.executeOracleUpdate id) s = .ok r := by
  rintro ⟨⟨_, _⟩, hexec⟩
  have he := exec_effect hexec
  cases he with
  | executeOracleUpdate _ hactive =>
    exact absurd hactive.current h.2.ne

/-! ### While the oracle is disabled -/

/-- The oracle is disabled, the contract is paused, and the trades are those of `s`. -/
def StillDisabled (s s' : State T) : Prop :=
  s'.roles.oracleActive = false ∧ s'.pausing.paused = true ∧ s'.book = s.book

/-- The contract stays paused and no trade moves, until a quorum installs a new oracle. -/
theorem stillDisabled_or_quorum {c₀ c c' : Config T} {tr₀ tr : List (ChainStep T)}
    (hdep : Deployed P c₀) (hrun₀ : Run (Step P) c₀ tr₀ c)
    (hdisabled : c.state.roles.oracleActive = false) (hrun : Run (Step P) c tr c') :
    StillDisabled c.state c'.state ∨
      ∃ pre t post id, tr = pre ++ t :: post ∧
        ProposalKind.oracleUpdate.Executes id t.source.state t.target.state ∧
        ProposalKind.oracleUpdate.HasQuorum id (tr₀ ++ pre ++ [t]) t.source.state := by
  have hreach : Reachable P c := ⟨c₀, tr₀, hdep, hrun₀⟩
  refine hrun.history (I := fun tr c' => StillDisabled c.state c'.state ∨
    ∃ pre t post id, tr = pre ++ t :: post ∧
      ProposalKind.oracleUpdate.Executes id t.source.state t.target.state ∧
      ProposalKind.oracleUpdate.HasQuorum id (tr₀ ++ pre ++ [t]) t.source.state) ?_ ?_
  · exact Or.inl ⟨hdisabled, hreach.timelockOk.paused hdisabled, rfl⟩
  · rintro tr c₁ l c₂ hrun (⟨hoff, hpaused, hbook⟩ | ⟨pre, t, post, id, rfl, hexec, hquorum⟩) hstep
    · have hreach₁ := hreach.run hrun
      have hreach₂ := hreach₁.step hstep
      cases hon : c₂.state.roles.oracleActive with
      | true =>
        -- the step that ends the emergency
        right
        obtain ⟨id, -, hexec⟩ := (hstep.attributed hreach₁).oracle (Or.inr ⟨hoff, hon⟩)
        refine ⟨tr, ⟨c₁, l, c₂⟩, [], id, rfl, hexec, ?_⟩
        exact hasQuorum_of_step hreach₁ (hdep.historyOk (hrun₀.trans hrun)) hstep _ id hexec
      | false =>
        left
        refine ⟨hon, hreach₂.timelockOk.paused hon, ?_⟩
        cases hstep with
        | external => exact hbook
        | call _ hexec =>
          have hset := (exec_effect hexec).settlement hreach₁.solvent.book.blank
          exact (hset.of_paused hpaused).1.trans hbook
    · right
      refine ⟨pre, t, post ++ [⟨c₁, l, c₂⟩], id, ?_, hexec, hquorum⟩
      rw [List.append_assoc, List.cons_append]

/-! ### The theorem -/

/-- In every state of every run: an oracle update that is executed with an active oracle, an admin
change and a treasury-payout update are at least 24 hours old; once the oracle is enabled again,
no older oracle update can be executed; a disabled oracle means a paused contract; and from such a
state on the contract stays paused and no trade moves, until a quorum installs a new oracle. -/
theorem oracle_timelock {c₀ c : Config T} {tr₀ : List (ChainStep T)} (hdep : Deployed P c₀)
    (hrun₀ : Run (Step P) c₀ tr₀ c) :
    c.state.roles.governanceTimelock = 24 * 3600 ∧
      (∀ env id r, exec P env (.executeOracleUpdate id) c.state = .ok r →
        c.state.roles.oracleActive = true →
          (c.state.oracleUpdates.proposals id).createdAt + c.state.roles.governanceTimelock ≤
              env.timestamp ∧
            (c.state.oracleUpdates.proposals id).payload.emergencyFastTrack = false) ∧
      (∀ env id r, exec P env (.executeAdminChange id) c.state = .ok r →
        (c.state.adminChanges.proposals id).createdAt + c.state.roles.governanceTimelock ≤
          env.timestamp) ∧
      (∀ env id r, exec P env (.executeTreasuryPayoutAddressUpdate id) c.state = .ok r →
        (c.state.treasuryPayouts.proposals id).createdAt + c.state.roles.governanceTimelock ≤
          env.timestamp) ∧
      (∀ id < c.state.oracleUpdates.counter, ∀ tr c', Run (Step P) c tr c' →
        (∃ t ∈ tr, Activates t) →
          ∀ env, ¬ ∃ r, exec P env (.executeOracleUpdate id) c'.state = .ok r) ∧
      (c.state.roles.oracleActive = false → c.state.pausing.paused = true ∧
        ∀ tr c', Run (Step P) c tr c' → StillDisabled c.state c'.state ∨
          ∃ pre t post id, tr = pre ++ t :: post ∧
            ProposalKind.oracleUpdate.Executes id t.source.state t.target.state ∧
            ProposalKind.oracleUpdate.HasQuorum id (tr₀ ++ pre ++ [t]) t.source.state) := by
  have hreach : Reachable P c := ⟨c₀, tr₀, hdep, hrun₀⟩
  have hs := hreach.timelockOk
  refine ⟨hs.timelock, fun env id r hexec hactive => ?_, fun env id r hexec => ?_,
    fun env id r hexec => ?_, fun id hid tr c' hrun hact env => ?_, fun hoff => ⟨hs.paused hoff,
      fun tr c' hrun => stillDisabled_or_quorum hdep hrun₀ hoff hrun⟩⟩
  · rw [hs.timelock]
    exact hs.oracleUpdate_waits (exec_effect hexec) hactive
  · rw [hs.timelock]
    exact hs.adminChange_waits (exec_effect hexec)
  · rw [hs.timelock]
    exact hs.treasuryPayout_waits (exec_effect hexec)
  · exact ((outdated_of_run hreach hrun hid).2 hact).not_executable

/-- With the oracle disabled, admins 5 and 6 install account 11 without a delay; the second
emergency proposal, for account 12, is dead from then on. -/
theorem oracle_timelock_sample : ∃ (c₀ c c' : Config MockUsdc) (tr₀ tr : List (ChainStep MockUsdc)),
    Deployed (mockPlatform 100) c₀ ∧ Run (Step (mockPlatform 100)) c₀ tr₀ c ∧
      Run (Step (mockPlatform 100)) c tr c' ∧ (∃ t ∈ tr, Activates t) ∧
      (c.state.oracleUpdates.proposals 1).payload = ⟨12, 20, true⟩ ∧
      ∀ env, ¬ ∃ r, exec (mockPlatform 100) env (.executeOracleUpdate 1) c'.state = .ok r := by
  have hrun : sampleStep [(⟨5, 20⟩, .disableOracleEmergency), (⟨5, 20⟩, .proposeOracleUpdate 11),
      (⟨5, 20⟩, .proposeOracleUpdate 12), (⟨6, 30⟩, .approveOracleUpdate 0),
      (⟨6, 30⟩, .approveOracleUpdate 1)] ⟨6, 30⟩ (.executeOracleUpdate 0) (fun c s => decide
        (c.state.roles.oracleActive = false ∧ s.roles.oracleActive = true ∧
          1 < c.state.oracleUpdates.counter ∧
          (c.state.oracleUpdates.proposals 1).payload = ⟨12, 20, true⟩)) = true := by
    decide +kernel
  obtain ⟨c, s, ⟨c₀, tr, hdep, htr⟩, hstep, hp⟩ := exists_step_sampleRun hrun
  obtain ⟨hoff, hon, hid, hpayload⟩ := of_decide_eq_true hp
  have hact : ∃ t ∈ [(⟨c, .call ⟨6, 30⟩ (.executeOracleUpdate 0), ⟨s, 30⟩⟩ : ChainStep MockUsdc)],
      Activates t := ⟨_, List.mem_singleton.mpr rfl, hoff, hon⟩
  have hlock := oracle_timelock hdep htr
  exact ⟨c₀, c, _, tr, _, hdep, htr, .single hstep, hact, hpayload,
    hlock.2.2.2.2.1 1 hid _ _ (.single hstep) hact⟩

end Cotsel.Escrow
