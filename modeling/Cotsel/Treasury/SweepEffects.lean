import Cotsel.Treasury.SweepService

/-!
# What the operations do to the tables

Each transaction is read backwards once: what it has checked and which rows it has written
(`Moves`, `Allocates`, `WritesClaim`, `Delivers`, `Realizes` and the lemmas `…_eq_ok`).  `Write`
collects them for the operations of the service, and `write_of_perform` says that an operation does
nothing else.

From it follows, once for all, that the tables stay `Sound`: the unique indexes hold, and what a row
refers to is there.
-/

namespace Cotsel.Treasury.Sweep

open Guard Transaction Interaction

/-! ### What the transactions do -/

section Inversion

variable {s s' : Database} {id now : ℕ}

structure OpensPeriod (s : Database) (row : Period) (s' : Database) : Prop where
  status : row.status = .opened
  insert : Table.insert periodTable row s.periods = .ok s'.periods
  store : s' = { s with periods := s.periods ++ [row] }

theorem createAccountingPeriod_eq_ok {data : PeriodInput} {row : Period}
    (h : createAccountingPeriod data id s = .ok (row, s')) : OpensPeriod s row s' := by
  unfold createAccountingPeriod at h
  rw [bind_eq_ok] at h
  obtain ⟨_, hins, h⟩ := h
  rw [pure_eq_ok] at h
  obtain ⟨rfl, rfl⟩ := Prod.mk.inj h
  refine ⟨rfl, insertRow_eq_ok hins, ?_⟩
  rw [eq_append_of_insertRow hins]

structure MovesPeriod (data : PeriodStatusUpdate) (s : Database) (existing row : Period)
    (s' : Database) : Prop where
  found : s.period data.periodId = some existing
  transition : data.status ∈ accountingPeriodTransitions existing.status
  id : row.id = existing.id
  key : row.periodKey = existing.periodKey
  status : row.status = data.status
  store : s' = { s with
    periods := Table.replace periodTable row s.periods
    actors := s.actors ++ actorRecords .accountingPeriod data.periodId data.actor
      (accountingPeriodActorRole data.status) }

theorem updateAccountingPeriodStatus_eq_ok {data : PeriodStatusUpdate} {row : Period}
    (h : updateAccountingPeriodStatus data s = .ok (row, s')) :
    ∃ existing, MovesPeriod data s existing row s' := by
  unfold updateAccountingPeriodStatus at h
  split at h
  · cases h
  · next existing hex =>
    rw [bind_eq_ok] at h
    obtain ⟨_, htrans, h⟩ := h
    rw [bind_eq_ok] at h
    obtain ⟨_, -, h⟩ := h
    rw [pure_eq_ok] at h
    obtain ⟨rfl, rfl⟩ := Prod.mk.inj h
    exact ⟨existing, hex, require_eq_ok.mp htrans, rfl, rfl, rfl, rfl⟩

/-- A batch before it has been approved or matched. -/
structure Batch.IsNew (row : Batch) : Prop where
  status : row.status = .draft
  approvedBy : row.approvedBy = none
  executedBy : row.executedBy = none
  unmatched : row.matchedSweepTxHash = none

structure OpensBatch (data : BatchInput) (s : Database) (row : Batch) (s' : Database) : Prop where
  isNew : row.IsNew
  createdBy : row.createdBy = data.createdBy
  period : ∃ period, s.period row.accountingPeriodId = some period ∧ period.status = .opened
  insert : Table.insert batchTable row s.batches = .ok s'.batches
  store : s' = { s with batches := s.batches ++ [row] }

theorem createSweepBatch_eq_ok {data : BatchInput} {row : Batch}
    (h : createSweepBatch data id s = .ok (row, s')) : OpensBatch data s row s' := by
  unfold createSweepBatch at h
  rw [bind_eq_ok] at h
  obtain ⟨_, -, h⟩ := h
  split at h
  · cases h
  · next period hperiod =>
    rw [require_bind_eq_ok, bind_eq_ok] at h
    obtain ⟨hopen, _, hins, h⟩ := h
    rw [pure_eq_ok] at h
    obtain ⟨rfl, rfl⟩ := Prod.mk.inj h
    refine ⟨⟨rfl, rfl, rfl, rfl⟩, rfl, ⟨period, hperiod, hopen⟩, insertRow_eq_ok hins, ?_⟩
    rw [eq_append_of_insertRow hins]

theorem assertAllocationBound_eq_ok {ledgerEntryId amount : ℕ} {u : Unit}
    (h : assertAllocationBound ledgerEntryId amount s = .ok u) :
    ∃ entry, s.entry ledgerEntryId = some entry ∧ 0 < amount ∧ amount ≤ entry.amountRaw := by
  unfold assertAllocationBound at h
  split at h
  · cases h
  · next entry hentry =>
    rw [require_bind_eq_ok, require_eq_ok] at h
    exact ⟨entry, hentry, Nat.pos_of_ne_zero h.1, h.2⟩

/-- An allocation is added to a draft of an open period, within the amount of its entry. -/
structure Allocates (s : Database) (row : Allocation) (s' : Database) : Prop where
  active : row.allocationStatus = .allocated
  draft : ∃ batch period, s.batch row.sweepBatchId = some batch ∧ batch.status = .draft ∧
    s.period batch.accountingPeriodId = some period ∧ period.status = .opened
  bound : ∃ entry, s.entry row.ledgerEntryId = some entry ∧ 0 < row.entryAmountRaw ∧
    row.entryAmountRaw ≤ entry.amountRaw
  insert : Table.insert allocationTable row s.allocations = .ok s'.allocations
  store : s' = { s with allocations := s.allocations ++ [row] }

theorem addSweepBatchEntry_eq_ok {data : AllocationInput} {ledgerEntry : Option LedgerEntry}
    {active : Option Allocation} {row : Allocation}
    (h : addSweepBatchEntry data ledgerEntry active id s = .ok (row, s')) :
    Allocates s row s' := by
  unfold addSweepBatchEntry at h
  split at h
  · cases h
  · next batch hbatch =>
    split at h
    · cases h
    · next period hperiod =>
      rw [bind_eq_ok] at h
      obtain ⟨_, hallowed, h⟩ := h
      unfold assertBatchAllocationAllowed at hallowed
      rw [require_bind_eq_ok, require_eq_ok] at hallowed
      split at h
      · cases h
      · rw [bind_eq_ok] at h
        obtain ⟨_, -, h⟩ := h
        rw [require_bind_eq_ok, bind_eq_ok] at h
        obtain ⟨-, _, -, h⟩ := h
        rw [bind_eq_ok] at h
        obtain ⟨_, hbound, h⟩ := h
        rw [bind_eq_ok] at h
        obtain ⟨_, hins, h⟩ := h
        rw [pure_eq_ok] at h
        obtain ⟨rfl, rfl⟩ := Prod.mk.inj h
        refine ⟨rfl, ⟨batch, period, hbatch, hallowed.2, hperiod, hallowed.1⟩,
          assertAllocationBound_eq_ok hbound, insertRow_eq_ok hins, ?_⟩
        rw [eq_append_of_insertRow hins]

/-- What `assertSweepBatchRoleSeparation` has found out. -/
structure Separated (data : StatusUpdate) (existing : Batch)
    (chain : List TransitionActorRecord) : Prop where
  approval : data.status = .approved → existing.createdBy ≠ data.actor ∧
    (⟨data.actor, .maker⟩ : TransitionActorRecord) ∉ chain
  execution : data.status = .executed →
    (⟨data.actor, .checker⟩ : TransitionActorRecord) ∉ chain
  close : data.status = .closed →
    (⟨data.actor, .checker⟩ : TransitionActorRecord) ∉ chain ∧
      (⟨data.actor, .executor⟩ : TransitionActorRecord) ∉ chain

/-- A batch moves on; nothing else changes but the claims. -/
structure Moves (data : StatusUpdate) (s : Database) (existing : Batch) (s' : Database) : Prop where
  found : s.batch data.batchId = some existing
  transition : data.status ∈ sweepBatchTransitions existing.status
  roles : Separated data existing (s.chain .sweepBatch data.batchId)
  evidence : keepsFinalizedEvidence existing (data.row existing) = true
  store : s' = { s with
    claims := s'.claims
    batches := Table.replace batchTable (data.row existing) s.batches
    actors := s.actors ++ actorRecords .sweepBatch data.batchId data.actor
      (sweepBatchActorRole data.status) }

theorem separated_of_eq_ok {data : StatusUpdate} {existing : Batch}
    {chain : List TransitionActorRecord} {u : Unit}
    (h : assertSweepBatchRoleSeparation
      { nextStatus := data.status
        actor := data.actor
        createdBy := existing.createdBy
        approvalRequestedBy := existing.approvalRequestedBy
        approvedBy := existing.approvedBy
        executedBy := existing.executedBy
        transitionChain := chain } = .ok u) : Separated data existing chain := by
  unfold assertSweepBatchRoleSeparation at h
  rw [require_bind_eq_ok, require_bind_eq_ok, require_eq_ok] at h
  simp only [mem_heldRoles, not_and, not_or] at h
  obtain ⟨happ, hexec, hclose⟩ := h
  refine ⟨fun hst => ?_, fun hst => (hexec hst).2, fun hst => ?_⟩
  · exact ⟨(happ hst).1, (happ hst).2.2⟩
  · exact (hclose hst).2.2

theorem applySweepBatchStatusUpdate_eq_ok {data : StatusUpdate} {row : Batch}
    (h : applySweepBatchStatusUpdate data now s = .ok (row, s')) :
    ∃ existing, Moves data s existing s' ∧ s'.claims = s.claims := by
  unfold applySweepBatchStatusUpdate at h
  split at h
  · cases h
  · next existing hex =>
    rw [bind_eq_ok] at h
    obtain ⟨_, htrans, h⟩ := h
    rw [bind_eq_ok] at h
    obtain ⟨_, hroles, h⟩ := h
    rw [bind_eq_ok] at h
    obtain ⟨_, -, h⟩ := h
    rw [bind_eq_ok] at h
    obtain ⟨_, -, h⟩ := h
    rw [require_bind_eq_ok, pure_eq_ok] at h
    obtain ⟨hevidence, h⟩ := h
    obtain ⟨rfl, rfl⟩ := Prod.mk.inj h
    exact ⟨existing,
      ⟨hex, require_eq_ok.mp htrans, separated_of_eq_ok hroles, hevidence, rfl⟩, rfl⟩

/-- A claim is written: the row that was found is updated, or a new row is inserted. -/
inductive WritesClaim (data : ClaimInput) (found : Option Claim) (s : Database) (row : Claim)
    (s' : Database) : Prop
  | update (existing old : Claim) (hfound : found = some existing)
      (hunbound : ∀ b ∈ existing.matchedSweepBatchId, ∀ b' ∈ data.matchedSweepBatchId, b = b')
      (hid : old.id = existing.id)
      (hold : Table.lookup claimTable old.id s.claims = some old)
      (hrow : row = data.row old.id (data.matchedSweepBatchId.or old.matchedSweepBatchId))
      (hclash : ∀ r ∈ s.claims, r.id ≠ old.id → claimTable.clash row r = none)
      (hstore : s' = { s with claims := Table.replace claimTable row s.claims })
  | insert (hnew : ∃ id, row = data.row id data.matchedSweepBatchId)
      (hins : Table.insert claimTable row s.claims = .ok s'.claims)
      (hstore : s' = { s with claims := s.claims ++ [row] })

theorem upsertTreasuryClaimEventWith_eq_ok {data : ClaimInput} {found : Option Claim} {row : Claim}
    (h : upsertTreasuryClaimEventWith data found id s = .ok (row, s')) :
    WritesClaim data found s row s' := by
  unfold upsertTreasuryClaimEventWith at h
  split at h
  · next existing =>
    rw [require_bind_eq_ok] at h
    obtain ⟨hguard, h⟩ := h
    have hunbound : ∀ b ∈ existing.matchedSweepBatchId, ∀ b' ∈ data.matchedSweepBatchId,
        b = b' := by
      intro b hb b' hb'
      rw [Option.mem_def] at hb hb'
      simpa [hb, hb'] using hguard
    split at h
    · next row' claims hup =>
      rw [pure_eq_ok] at h
      obtain ⟨rfl, rfl⟩ := Prod.mk.inj h
      rcases Table.updateWhere_eq_ok.mp hup with ⟨hnone, -⟩ | ⟨old, hold, -, -, hclash, hout, hrows⟩
      · cases hnone
      · have hid : old.id = existing.id := (Table.lookup_eq_some_mem hold).2
        rw [Option.some.injEq] at hout
        rw [← hid] at hold hclash
        rw [← hout] at hclash hrows
        exact .update existing old rfl hunbound hid hold hout hclash (by rw [hrows])
    · cases h
    · cases h
  · rw [bind_eq_ok] at h
    obtain ⟨_, hins, h⟩ := h
    rw [pure_eq_ok] at h
    obtain ⟨rfl, rfl⟩ := Prod.mk.inj h
    refine .insert ⟨id, rfl⟩ (insertRow_eq_ok hins) ?_
    rw [eq_append_of_insertRow hins]

/-- The update of the batch that a match makes. -/
def ExecutionInput.update (data : ExecutionInput) (batch : Batch) (claim : Claim) :
    StatusUpdate where
  batchId := data.batchId
  status := .executed
  actor := data.actor
  finalizedSweepEvidence := none
  matched := some ⟨claim.txHash, claim.blockNumber, claim.observedAt⟩
  metadata := some (batch.settlementFinalizedEvidence.getD data.finalizedEvidence)

theorem recordSweepBatchExecution_eq_ok {data : ExecutionInput} {found : Option Claim}
    {row : Batch} (h : recordSweepBatchExecution data found id now s = .ok (row, s')) :
    ∃ batch claim s₁, WritesClaim data.boundClaim found s claim s₁ ∧
      Moves (data.update batch claim) s batch s' ∧ s'.claims = s₁.claims := by
  unfold recordSweepBatchExecution at h
  split at h
  · cases h
  · next batch hbatch =>
    rw [bind_eq_ok] at h
    obtain ⟨_, -, h⟩ := h
    rw [require_bind_eq_ok, bind_eq_ok] at h
    obtain ⟨-, ⟨claim, s₁⟩, hclaim, h⟩ := h
    obtain ⟨existing, hmoves, hclaims⟩ := applySweepBatchStatusUpdate_eq_ok h
    have hwrites := upsertTreasuryClaimEventWith_eq_ok hclaim
    -- the claim is written in another table, so the batch is still the one that was locked
    obtain ⟨claims, rfl⟩ : ∃ claims, s₁ = { s with claims := claims } := by
      cases hwrites with
      | update _ _ _ _ _ _ _ _ hstore | insert _ _ hstore =>
        exact ⟨_, hstore⟩
    have heq : existing = batch := Option.some.inj (hmoves.found.symm.trans hbatch)
    subst heq
    exact ⟨existing, claim, _, hwrites,
      ⟨hbatch, hmoves.transition, hmoves.roles, hmoves.evidence, hmoves.store⟩, hclaims⟩

/-- What a delivery makes of the handoff of its batch. -/
inductive Delivers (data : HandoffInput) (s : Database) (r : Except Thrown Handoff)
    (s' : Database) : Prop
  | refuse (hr : ∀ h, r ≠ .ok h) (hstore : s' = s)
  | freeze (current : Handoff) (time : ℕ) (reason : List Char)
      (hcurrent : s.handoff data.sweepBatchId = some current) (hfrozen : current.frozenAt = none)
      (hclass : classifyProviderHandoffTransition (some current.handoffStatus) data.handoffStatus =
        .contradiction)
      (hr : ∀ h, r ≠ .ok h)
      (hstore : s' = { s with
        handoffs := Table.replace handoffTable
          { current with
            frozenAt := some time
            frozenReason := current.frozenReason.or (some reason) } s.handoffs })
  | keep (current : Handoff) (hcurrent : s.handoff data.sweepBatchId = some current)
      (hfrozen : current.frozenAt = none)
      (hclass : classifyProviderHandoffTransition (some current.handoffStatus)
          data.handoffStatus = .stale ∨
        classifyProviderHandoffTransition (some current.handoffStatus)
          data.handoffStatus = .replay)
      (hstore : s' = s)
  | advance (current row : Handoff) (hcurrent : s.handoff data.sweepBatchId = some current)
      (hfrozen : current.frozenAt = none)
      (hclass : classifyProviderHandoffTransition (some current.handoffStatus) data.handoffStatus =
        .advance)
      (hrow : row = data.row current.id (data.evidenceReference.or current.evidenceReference))
      (hclash : ∀ h ∈ s.handoffs, h.sweepBatchId ≠ data.sweepBatchId →
        handoffTable.clash row h = none)
      (hstore : s' = { s with handoffs := Table.replace handoffTable row s.handoffs })
  | create (row : Handoff) (hnone : s.handoff data.sweepBatchId = none)
      (hrow : ∃ id, row = data.row id data.evidenceReference)
      (hins : Table.insert handoffTable row s.handoffs = .ok s'.handoffs)
      (hstore : s' = { s with handoffs := s.handoffs ++ [row] })

theorem transition_none (data : HandoffInput) : data.transition none = .rejected ∨
    data.transition none = .advance := by
  unfold HandoffInput.transition
  rw [Option.bind_none, Option.isSome_none, if_neg Bool.false_ne_true]
  split_ifs
  · exact Or.inl rfl
  · exact Or.inr rfl

/-- A delivery that is neither frozen nor rejected is classified. -/
theorem transition_some {data : HandoffInput} {current : Handoff}
    (hfrozen : data.transition (some current) ≠ .frozen)
    (hrejected : data.transition (some current) ≠ .rejected) :
    current.frozenAt = none ∧ classifyProviderHandoffTransition (some current.handoffStatus)
      data.handoffStatus = data.transition (some current) := by
  unfold HandoffInput.transition at *
  split_ifs at * with h₁ h₂
  · exact absurd rfl hfrozen
  · exact absurd rfl hrejected
  · exact ⟨Option.not_isSome_iff_eq_none.mp h₁, rfl⟩

theorem upsertPartnerHandoff_eq_ok {data : HandoffInput} {r : Except Thrown Handoff}
    (h : upsertPartnerHandoff data id now s = .ok (r, s')) :
    (∃ batch, s.batch data.sweepBatchId = some batch ∧ batch.matchedSweepTxHash.isSome = true) ∧
      Delivers data s r s' := by
  unfold upsertPartnerHandoff at h
  split at h
  · cases h
  · next batch hbatch =>
    rw [require_bind_eq_ok] at h
    obtain ⟨⟨htx, -⟩, h⟩ := h
    refine ⟨⟨batch, hbatch, ?_⟩, ?_⟩
    · cases hmatched : batch.matchedSweepTxHash with
      | none =>
        rw [hmatched] at htx
        cases htx
      | some => rfl
    · dsimp only at h
      cases hcurrent : s.handoff data.sweepBatchId with
      | none =>
        rw [hcurrent] at h
        rcases transition_none data with htr | htr
        · rw [htr] at h
          obtain ⟨rfl, rfl⟩ := Prod.mk.inj (pure_eq_ok.mp h)
          exact .refuse nofun rfl
        · rw [htr] at h
          obtain ⟨handoffs, hins, h⟩ := bind_eq_ok.mp h
          obtain ⟨rfl, rfl⟩ := Prod.mk.inj (pure_eq_ok.mp h)
          refine .create _ hcurrent ⟨id, rfl⟩ (insertRow_eq_ok hins) ?_
          rw [eq_append_of_insertRow hins]
      | some current =>
        rw [hcurrent] at h
        have hclassified := @transition_some data current
        cases htr : data.transition (some current) with
        | frozen | rejected =>
          rw [htr] at h
          obtain ⟨rfl, rfl⟩ := Prod.mk.inj (pure_eq_ok.mp h)
          exact .refuse nofun rfl
        | contradiction =>
          rw [htr] at h hclassified
          obtain ⟨hfrozen, hclass⟩ := hclassified nofun nofun
          obtain ⟨rfl, rfl⟩ := Prod.mk.inj (pure_eq_ok.mp h)
          refine .freeze current now (data.contradiction current) hcurrent hfrozen hclass nofun ?_
          rw [hfrozen, Option.none_or]
        | stale =>
          rw [htr] at h hclassified
          obtain ⟨hfrozen, hclass⟩ := hclassified nofun nofun
          obtain ⟨rfl, rfl⟩ := Prod.mk.inj (pure_eq_ok.mp h)
          exact .keep current hcurrent hfrozen (Or.inl hclass) rfl
        | replay =>
          rw [htr] at h hclassified
          obtain ⟨hfrozen, hclass⟩ := hclassified nofun nofun
          obtain ⟨rfl, rfl⟩ := Prod.mk.inj (pure_eq_ok.mp h)
          exact .keep current hcurrent hfrozen (Or.inr hclass) rfl
        | advance =>
          rw [htr] at h hclassified
          obtain ⟨hfrozen, hclass⟩ := hclassified nofun nofun
          dsimp only at h
          split at h
          · next handoffs hup =>
            obtain ⟨rfl, rfl⟩ := Prod.mk.inj (pure_eq_ok.mp h)
            rcases Table.updateWhere_eq_ok.mp hup with
              ⟨-, -, hnone⟩ | ⟨old, hold, -, -, hclash, -, hrows⟩
            · cases hnone current hcurrent
            · unfold Database.handoff at hcurrent
              rw [hcurrent, Option.some.injEq] at hold
              subst hold
              refine .advance current _ hcurrent hfrozen hclass rfl hclash ?_
              rw [hrows]
          · cases h

/-- The handoff in the facts of an entry is that of the batch it is allocated to. -/
theorem handoff_of_factsOf {entry : LedgerEntry} {status : ProviderHandoffStatus}
    (h : (s.factsOf entry).partnerHandoffStatus = some status) :
    ∃ alloc batch handoff, s.activeAllocation entry.id = some alloc ∧
      s.batch alloc.sweepBatchId = some batch ∧ s.handoff batch.id = some handoff ∧
      handoff.handoffStatus = status := by
  obtain ⟨handoff, hhandoff, hstatus⟩ := Option.map_eq_some_iff.mp h
  obtain ⟨batch, hbatch, hhandoff⟩ := Option.bind_eq_some_iff.mp hhandoff
  obtain ⟨alloc, halloc, hbatch⟩ := Option.bind_eq_some_iff.mp hbatch
  exact ⟨alloc, batch, handoff, halloc, hbatch, hhandoff, hstatus⟩

structure Realizes (s : Database) (row : Realization) (s' : Database) : Prop where
  completed : ∃ alloc batch handoff, s.activeAllocation row.ledgerEntryId = some alloc ∧
    s.batch alloc.sweepBatchId = some batch ∧ s.handoff batch.id = some handoff ∧
    handoff.handoffStatus = .completed
  insert : Table.insert realizationTable row s.realizations = .ok s'.realizations
  store : s' = { s with realizations := s.realizations ++ [row] }

theorem createRevenueRealization_eq_ok {data : RealizationInput}
    {discovered : Option AccountingFacts} {row : Realization}
    (h : createRevenueRealization data discovered id now s = .ok (row, s')) :
    Realizes s row s' := by
  unfold createRevenueRealization at h
  split at h
  · cases h
  · split at h
    · cases h
    · rw [bind_eq_ok] at h
      obtain ⟨_, -, h⟩ := h
      split at h
      · cases h
      · next entry hentry =>
        rw [require_bind_eq_ok, bind_eq_ok] at h
        obtain ⟨-, _, hallowed, h⟩ := h
        rw [require_bind_eq_ok, require_bind_eq_ok, require_bind_eq_ok, bind_eq_ok] at h
        obtain ⟨-, -, -, _, hins, h⟩ := h
        obtain ⟨rfl, rfl⟩ := Prod.mk.inj (pure_eq_ok.mp h)
        unfold assertRealizationAllowed at hallowed
        rw [require_bind_eq_ok, require_bind_eq_ok] at hallowed
        have hcompleted := handoff_of_factsOf hallowed.2.1
        rw [Database.entry_id hentry] at hcompleted
        refine ⟨hcompleted, insertRow_eq_ok hins, ?_⟩
        rw [eq_append_of_insertRow hins]

end Inversion

/-! ### What the operations do -/

inductive Write (s : Database) : Op → Database → Prop
  | openPeriod {data : PeriodInput} {row : Period} {s' : Database} (h : OpensPeriod s row s') :
      Write s (.createAccountingPeriod data) s'
  | movePeriod {data : PeriodStatusUpdate} {existing row : Period} {s' : Database}
      (h : MovesPeriod data s existing row s') : Write s (.updateAccountingPeriodStatus data) s'
  | openBatch {data : BatchInput} {row : Batch} {s' : Database} (h : OpensBatch data s row s') :
      Write s (.createSweepBatch data) s'
  | allocate {data : AllocationInput} {ledgerEntry : Option LedgerEntry}
      {active : Option Allocation} {row : Allocation} {s' : Database} (h : Allocates s row s') :
      Write s (.addSweepBatchEntry data ledgerEntry active) s'
  | move {data : StatusUpdate} {existing : Batch} {s' : Database} (h : Moves data s existing s')
      (hclaims : s'.claims = s.claims) : Write s (.updateSweepBatchStatus data) s'
  | execute {data : ExecutionInput} {found : Option Claim} {batch : Batch} {claim : Claim}
      {s₁ s' : Database} (hclaim : WritesClaim data.boundClaim found s claim s₁)
      (hmoves : Moves (data.update batch claim) s batch s') (hclaims : s'.claims = s₁.claims) :
      Write s (.recordSweepBatchExecution data found) s'
  | claim {data : ClaimInput} {found : Option Claim} {row : Claim} {s' : Database}
      (h : WritesClaim data found s row s') : Write s (.upsertTreasuryClaimEvent data found) s'
  | deliver {data : HandoffInput} {r : Except Thrown Handoff} {s' : Database}
      (hbatch : ∃ batch, s.batch data.sweepBatchId = some batch ∧
        batch.matchedSweepTxHash.isSome = true)
      (h : Delivers data s r s') : Write s (.upsertPartnerHandoff data) s'
  | realize {data : RealizationInput} {discovered : Option AccountingFacts} {row : Realization}
      {s' : Database} (h : Realizes s row s') :
      Write s (.createRevenueRealization data discovered) s'
  | ingest {input : LedgerEntryInput} {result : LedgerEntry} {entries : List LedgerEntry}
      (h : Upserts input s.entries result entries) :
      Write s (.upsertLedgerEntry input) { s with entries := entries }
  | mark {mark : CanonicalMark} {old : LedgerEntry} (hold : s.entry mark.ledgerEntryId = some old) :
      Write s (.markLedgerEntryCanonical mark)
        { s with entries := Table.replace ledgerTable (mark.apply old) s.entries }
  | orphan {id : ℕ} {old : LedgerEntry} (hold : s.entry id = some old) :
      Write s (.recordLedgerEntryOrphaned id)
        { s with entries :=
            Table.replace ledgerTable { old with canonicalityState := .orphaned } s.entries }
  | evidence {deposits : List Deposit} {confirmations : List BankConfirmation} :
      Write s (.writeEvidence deposits confirmations)
        { s with deposits := deposits, confirmations := confirmations }

section Perform

variable {s s' : Database} {o : Op} {luck : Luck}

/-- An operation does nothing, or what `Write` says. -/
theorem write_of_perform {r : Except Thrown (Ans o)} (h : perform o luck s = (r, s')) :
    s' = s ∨ Write s o s' := by
  cases o with
  | createAccountingPeriod =>
    exact (transact_cases h).imp_right fun ⟨_, htx⟩ =>
      .openPeriod (createAccountingPeriod_eq_ok htx)
  | updateAccountingPeriodStatus =>
    refine (transact_cases h).imp_right fun ⟨_, htx⟩ => ?_
    obtain ⟨existing, hmoves⟩ := updateAccountingPeriodStatus_eq_ok htx
    exact .movePeriod hmoves
  | createSweepBatch =>
    exact (transact_cases h).imp_right fun ⟨_, htx⟩ => .openBatch (createSweepBatch_eq_ok htx)
  | addSweepBatchEntry =>
    exact (transact_cases h).imp_right fun ⟨_, htx⟩ => .allocate (addSweepBatchEntry_eq_ok htx)
  | updateSweepBatchStatus =>
    refine (transact_cases h).imp_right fun ⟨_, htx⟩ => ?_
    obtain ⟨_, hmoves, hclaims⟩ := applySweepBatchStatusUpdate_eq_ok htx
    exact .move hmoves hclaims
  | recordSweepBatchExecution =>
    refine (transact_cases h).imp_right fun ⟨_, htx⟩ => ?_
    obtain ⟨_, claim, _, hclaim, hmoves, hclaims⟩ := recordSweepBatchExecution_eq_ok htx
    exact .execute hclaim hmoves hclaims
  | upsertTreasuryClaimEvent =>
    exact (transact_cases h).imp_right fun ⟨_, htx⟩ =>
      .claim (upsertTreasuryClaimEventWith_eq_ok htx)
  | upsertPartnerHandoff =>
    rcases transactResult_cases h with ⟨hs, -⟩ | ⟨_, -, htx⟩
    · exact Or.inl hs
    · obtain ⟨hbatch, hdelivers⟩ := upsertPartnerHandoff_eq_ok htx
      exact Or.inr (.deliver hbatch hdelivers)
  | createRevenueRealization =>
    exact (transact_cases h).imp_right fun ⟨_, htx⟩ =>
      .realize (createRevenueRealization_eq_ok htx)
  | upsertLedgerEntry =>
    unfold perform at h
    refine (transact_cases h).imp_right fun ⟨_, htx⟩ => ?_
    obtain ⟨⟨_, _⟩, hup, hstore⟩ := bind_eq_ok.mp htx
    obtain ⟨-, rfl⟩ := Prod.mk.inj (pure_eq_ok.mp hstore)
    exact .ingest (upsertLedgerEntry_eq_ok hup)
  | markLedgerEntryCanonical mark =>
    unfold perform at h
    rcases transact_cases h with hs | ⟨row, htx⟩
    · exact Or.inl hs
    · obtain ⟨-, rfl⟩ := Prod.mk.inj (pure_eq_ok.mp htx)
      rcases markLedgerEntryCanonical_cases rfl with hsame | ⟨old, hold, -, hentries⟩
      · rw [hsame]
        exact Or.inl rfl
      · rw [hentries]
        exact Or.inr (.mark hold)
  | recordLedgerEntryOrphaned =>
    unfold perform at h
    rcases transact_cases h with hs | ⟨_, htx⟩
    · exact Or.inl hs
    · obtain ⟨-, rfl⟩ := Prod.mk.inj (pure_eq_ok.mp htx)
      rcases markLedgerEntryOrphaned_cases with hsame | ⟨_, hold, hentries⟩
      · rw [hsame]
        exact Or.inl rfl
      · rw [hentries]
        exact Or.inr (.orphan hold)
  | writeEvidence =>
    unfold perform at h
    refine (transact_cases h).imp_right fun ⟨_, htx⟩ => ?_
    obtain ⟨-, rfl⟩ := Prod.mk.inj (pure_eq_ok.mp htx)
    exact .evidence
  | assertEntries | fetchTreasuryClaimEventByTxHash | verify | assessTrades | summarizeTrades =>
    exact Or.inl (Prod.mk.inj h).2.symm
  | _ =>
    unfold perform at h
    exact Or.inl (query_store h)

end Perform

/-- Who asks for what in a step. -/
def asked (e : Event) : Option (ℕ × Op) :=
  match e.label with
  | .act p o _ => some (p, o)
  | .call _ _ | .done _ _ | .crash _ => none

/-- The tables after a step: as they were, or written by the operation of the label. -/
def StepsTo (s : Database) (l : Action) (s' : Database) : Prop :=
  s' = s ∨ ∃ p o r, l = .act p o r ∧ Write s o s'

theorem stepsTo_of_step {c c' : State} {l : Action} (h : Step world c l c') :
    StepsTo c.store l c'.store := by
  cases h with
  | call | done | crash => exact Or.inl rfl
  | @act p o r _ _ _ _ hs =>
    rcases write_of_perform (Option.some.inj hs) with hsame | hwrite
    · exact Or.inl hsame
    · exact Or.inr ⟨p, o, r, rfl, hwrite⟩

/-! ### What becomes of the batches -/

/-- The transition that an operation asks for: which batch, to which status, and who. -/
def Op.transition : Op → Option (ℕ × SweepBatchStatus × List Char)
  | .updateSweepBatchStatus data => some (data.batchId, data.status, data.actor)
  | .recordSweepBatchExecution data _ => some (data.batchId, .executed, data.actor)
  | _ => none

/-- What an operation does to the batches and to the record of who has moved them. -/
inductive BatchEffect (s : Database) (o : Op) (s' : Database) : Prop
  | same (h : s'.batches = s.batches)
      (hchain : ∀ id, s'.chain .sweepBatch id = s.chain .sweepBatch id)
  | opens {data : BatchInput} {row : Batch} (ho : o = .createSweepBatch data)
      (h : OpensBatch data s row s')
  | moves {data : StatusUpdate} {existing : Batch}
      (ho : o.transition = some (data.batchId, data.status, data.actor))
      (h : Moves data s existing s')

section Batches

variable {s s' : Database} {o : Op}

theorem chain_append {actors : List TransitionActor} {subject : SubjectType} {id : ℕ}
    (h : s'.actors = s.actors ++ actors) :
    s'.chain subject id = s.chain subject id ++
      (actors.filter fun a => a.subjectType = subject && a.subjectId = id).map
        TransitionActor.toTransitionActorRecord := by
  unfold Database.chain
  rw [h, List.filter_append, List.map_append]

theorem MovesPeriod.chain_eq {data : PeriodStatusUpdate} {existing row : Period}
    (h : MovesPeriod data s existing row s') (id : ℕ) :
    s'.chain .sweepBatch id = s.chain .sweepBatch id := by
  rw [chain_append (s := s) (by rw [h.store])]
  cases accountingPeriodActorRole data.status with
  | none | some => exact List.append_nil _

theorem WritesClaim.store_eq {data : ClaimInput} {found : Option Claim} {row : Claim}
    (h : WritesClaim data found s row s') : s' = { s with claims := s'.claims } := by
  cases h with
  | update _ _ _ _ _ _ _ _ hstore | insert _ _ hstore =>
    rw [hstore]

theorem Delivers.store_eq {data : HandoffInput} {r : Except Thrown Handoff}
    (h : Delivers data s r s') : s' = { s with handoffs := s'.handoffs } := by
  cases h with
  | refuse _ hstore | freeze _ _ _ _ _ _ _ hstore | keep _ _ _ _ hstore
  | advance _ _ _ _ _ _ _ hstore | create _ _ _ _ hstore => rw [hstore]

theorem Write.batchEffect (h : Write s o s') : BatchEffect s o s' := by
  cases h with
  | openPeriod h | allocate h | realize h =>
    exact .same (by rw [h.store]) fun _ => by rw [h.store]; rfl
  | movePeriod h => exact .same (by rw [h.store]) h.chain_eq
  | openBatch h => exact .opens rfl h
  | move h => exact .moves rfl h
  | execute _ hmoves => exact .moves rfl hmoves
  | claim h | deliver _ h => exact .same (by rw [h.store_eq]) fun _ => by rw [h.store_eq]; rfl
  | ingest | mark | orphan | evidence => exact .same rfl fun _ => rfl

namespace OpensBatch

variable {data : BatchInput} {row : Batch}

theorem batch_self (h : OpensBatch data s row s') : s'.batch row.id = some row := by
  obtain ⟨-, hclash, hbatches⟩ := Table.insert_eq_ok.mp h.insert
  unfold Database.batch
  rw [hbatches]
  exact Table.lookup_append_self hclash

theorem batch_of_ne (h : OpensBatch data s row s') {id : ℕ} (hne : row.id ≠ id) :
    s'.batch id = s.batch id := by
  rw [h.store]
  exact Table.lookup_append_of_ne hne

theorem batch_none (h : OpensBatch data s row s') : s.batch row.id = none := by
  obtain ⟨-, hclash, -⟩ := Table.insert_eq_ok.mp h.insert
  unfold Database.batch Table.lookup
  rw [List.find?_eq_none]
  intro r hr
  rw [decide_eq_true_eq]
  exact (batchTable.key_ne _ _ (hclash r hr)).symm

end OpensBatch

namespace Moves

variable {data : StatusUpdate} {existing : Batch}

theorem row_id (h : Moves data s existing s') : (data.row existing).id = data.batchId := by
  show existing.id = data.batchId
  exact Database.batch_id h.found

theorem batch_self (h : Moves data s existing s') :
    s'.batch data.batchId = some (data.row existing) := by
  have hfound := h.found
  rw [← h.row_id] at hfound ⊢
  rw [h.store]
  show Table.lookup batchTable (batchTable.key (data.row existing)) _ = _
  exact Table.lookup_replace_self hfound

theorem batch_of_ne (h : Moves data s existing s') {id : ℕ} (hne : data.batchId ≠ id) :
    s'.batch id = s.batch id := by
  rw [← h.row_id] at hne
  rw [h.store]
  exact Table.lookup_replace_of_ne hne

theorem chain_eq (h : Moves data s existing s') (id : ℕ) :
    s'.chain .sweepBatch id = s.chain .sweepBatch id ++
      ((actorRecords .sweepBatch data.batchId data.actor (sweepBatchActorRole data.status)).filter
        fun a => a.subjectType = .sweepBatch && a.subjectId = id).map
          TransitionActor.toTransitionActorRecord :=
  chain_append (by rw [h.store])

/-- Who moves a batch is on record afterwards, with the role of the new status. -/
theorem mem_chain (h : Moves data s existing s') {role : TransitionActorRole}
    (hrole : sweepBatchActorRole data.status = some role) :
    (⟨data.actor, role⟩ : TransitionActorRecord) ∈ s'.chain .sweepBatch data.batchId := by
  rw [h.chain_eq, hrole]
  simp [actorRecords]

end Moves

/-- The row of a batch was there, or it is new, or it is the row of a transition. -/
inductive BatchOrigin (s : Database) (o : Op) (s' : Database) (id : ℕ) (b : Batch) : Prop
  | kept (h : s.batch id = some b)
  | opened {data : BatchInput} (h : OpensBatch data s b s')
  | moved {data : StatusUpdate} {existing : Batch} (ho : o = .updateSweepBatchStatus data)
      (h : Moves data s existing s') (hid : data.batchId = id) (hb : b = data.row existing)
  | executed {data : ExecutionInput} {found : Option Claim} {batch : Batch} {claim : Claim}
      {s₁ : Database} (ho : o = .recordSweepBatchExecution data found)
      (hclaim : WritesClaim data.boundClaim found s claim s₁)
      (h : Moves (data.update batch claim) s batch s') (hclaims : s'.claims = s₁.claims)
      (hid : data.batchId = id) (hb : b = (data.update batch claim).row batch)

theorem Write.batchOrigin (h : Write s o s') {id : ℕ} {b : Batch} (hb : s'.batch id = some b) :
    BatchOrigin s o s' id b := by
  have hkept : s'.batches = s.batches → BatchOrigin s o s' id b := by
    intro hsame
    unfold Database.batch at hb
    rw [hsame] at hb
    exact .kept hb
  cases h with
  | openPeriod h | movePeriod h | allocate h | realize h => exact hkept (by rw [h.store])
  | @openBatch _ row _ h =>
    rcases eq_or_ne row.id id with rfl | hne
    · rw [h.batch_self, Option.some.injEq] at hb
      exact .opened (hb ▸ h)
    · exact .kept ((h.batch_of_ne hne).symm.trans hb)
  | @move data _ _ h =>
    rcases eq_or_ne data.batchId id with rfl | hne
    · rw [h.batch_self, Option.some.injEq] at hb
      exact .moved rfl h rfl hb.symm
    · exact .kept ((h.batch_of_ne hne).symm.trans hb)
  | @execute data _ batch _ _ s' hclaim h hclaims =>
    rcases eq_or_ne data.batchId id with rfl | hne
    · have hself : s'.batch data.batchId = _ := h.batch_self
      rw [hself, Option.some.injEq] at hb
      exact .executed rfl hclaim h hclaims rfl hb.symm
    · exact .kept ((h.batch_of_ne hne).symm.trans hb)
  | claim h | deliver _ h => exact hkept (by rw [h.store_eq])
  | ingest | mark | orphan | evidence => exact hkept rfl

/-- The later row of the same batch: one transition further, or the same. -/
structure Batch.Succeeds (row row' : Batch) : Prop where
  createdBy : row'.createdBy = row.createdBy
  accountingPeriodId : row'.accountingPeriodId = row.accountingPeriodId
  expectedTotalRaw : row'.expectedTotalRaw = row.expectedTotalRaw
  status : row'.status = row.status ∨ row'.status ∈ sweepBatchTransitions row.status

theorem Batch.Succeeds.level_le {row row' : Batch} (h : row.Succeeds row') :
    row.status.level ≤ row'.status.level := by
  rcases h.status with hsame | htransition
  · rw [hsame]
  · exact level_le_of_transition htransition

theorem Batch.Succeeds.isSettled {row row' : Batch} (h : row.Succeeds row')
    (hsettled : Sweep.isSettled row.status = true) : Sweep.isSettled row'.status = true := by
  rcases h.status with hsame | htransition
  · rwa [hsame]
  · revert hsettled htransition
    cases row.status <;> simp [sweepBatchTransitions, Sweep.isSettled]

theorem Write.batch_succeeds (h : Write s o s') {id : ℕ} {row : Batch}
    (hrow : s.batch id = some row) : ∃ row', s'.batch id = some row' ∧ row.Succeeds row' := by
  have hkept : s'.batch id = some row → ∃ row', s'.batch id = some row' ∧ row.Succeeds row' :=
    fun hrow' => ⟨row, hrow', rfl, rfl, rfl, Or.inl rfl⟩
  cases h.batchEffect with
  | same hsame =>
    refine hkept ?_
    unfold Database.batch
    rw [hsame]
    exact hrow
  | @opens _ new _ hopens =>
    rcases eq_or_ne new.id id with rfl | hne
    · rw [hopens.batch_none] at hrow
      cases hrow
    · exact hkept ((hopens.batch_of_ne hne).trans hrow)
  | @moves data _ _ hmoves =>
    rcases eq_or_ne data.batchId id with rfl | hne
    · rw [hmoves.found, Option.some.injEq] at hrow
      subst hrow
      exact ⟨_, hmoves.batch_self, rfl, rfl, rfl, Or.inr hmoves.transition⟩
    · exact hkept ((hmoves.batch_of_ne hne).trans hrow)

theorem Write.chain_mono (h : Write s o s') {id : ℕ} {record : TransitionActorRecord}
    (hmem : record ∈ s.chain .sweepBatch id) : record ∈ s'.chain .sweepBatch id := by
  cases h.batchEffect with
  | same _ hchain => rwa [hchain]
  | opens _ hopens =>
    rw [hopens.store]
    exact hmem
  | moves _ hmoves =>
    rw [hmoves.chain_eq]
    exact List.mem_append_left _ hmem

/-- The allocations are as they were, or there is one more. -/
theorem Write.allocations (h : Write s o s') :
    s'.allocations = s.allocations ∨ ∃ row, Allocates s row s' := by
  cases h with
  | openPeriod h | movePeriod h | openBatch h | move h | realize h => exact Or.inl (by rw [h.store])
  | allocate h => exact Or.inr ⟨_, h⟩
  | execute _ hmoves => exact Or.inl (by rw [hmoves.store])
  | claim h | deliver _ h => exact Or.inl (by rw [h.store_eq])
  | ingest | mark | orphan | evidence => exact Or.inl rfl

/-- From the approval on a batch keeps its allocations. -/
theorem Write.allocationsOf_eq (h : Write s o s') {id : ℕ} {batch : Batch}
    (hbatch : s.batch id = some batch) (hlevel : batch.status.level ≠ 0) :
    s'.allocationsOf id = s.allocationsOf id := by
  unfold Database.allocationsOf
  rcases h.allocations with hsame | ⟨row, hallocates⟩
  · rw [hsame]
  · obtain ⟨draft, _, hdraft, hstatus, -⟩ := hallocates.draft
    have hne : row.sweepBatchId ≠ id := by
      rintro rfl
      rw [hbatch, Option.some.injEq] at hdraft
      rw [hdraft, hstatus] at hlevel
      exact hlevel rfl
    rw [hallocates.store, List.filter_append, List.filter_cons_of_neg (by simpa using hne),
      List.filter_nil, List.append_nil]

/-- What an operation does to the periods. -/
inductive PeriodEffect (s : Database) (o : Op) (s' : Database) : Prop
  | same (h : s'.periods = s.periods)
  | opens {row : Period} (h : OpensPeriod s row s')
  | moves {data : PeriodStatusUpdate} {existing row : Period}
      (ho : o = .updateAccountingPeriodStatus data) (h : MovesPeriod data s existing row s')

theorem Write.periodEffect (h : Write s o s') : PeriodEffect s o s' := by
  cases h with
  | openPeriod h => exact .opens h
  | movePeriod h => exact .moves rfl h
  | openBatch h | allocate h | move h | realize h => exact .same (by rw [h.store])
  | execute _ hmoves => exact .same (by rw [hmoves.store])
  | claim h | deliver _ h => exact .same (by rw [h.store_eq])
  | ingest | mark | orphan | evidence => exact .same rfl

/-- A period never goes away, and only its own transition changes it. -/
theorem Write.period_succeeds (h : Write s o s') {id : ℕ} {row : Period}
    (hrow : s.period id = some row) : ∃ row', s'.period id = some row' ∧ (row' = row ∨
      ∃ data, o = .updateAccountingPeriodStatus data ∧ data.periodId = id ∧
        row'.status = data.status ∧ data.status ∈ accountingPeriodTransitions row.status) := by
  cases h.periodEffect with
  | same hsame =>
    refine ⟨row, ?_, Or.inl rfl⟩
    unfold Database.period
    rwa [hsame]
  | opens hopens =>
    refine ⟨row, ?_, Or.inl rfl⟩
    rw [hopens.store]
    exact Table.lookup_append_of_some hrow
  | @moves data _ new ho hmoves =>
    have hid : new.id = data.periodId := hmoves.id.trans (Database.period_id hmoves.found)
    rcases eq_or_ne data.periodId id with rfl | hne
    · have hfound := hmoves.found
      rw [hrow, Option.some.injEq] at hfound
      refine ⟨new, ?_, Or.inr ⟨data, ho, rfl, hmoves.status, ?_⟩⟩
      · rw [hmoves.store, ← hid]
        rw [← hid] at hrow
        show Table.lookup periodTable (periodTable.key new) _ = some new
        exact Table.lookup_replace_self hrow
      · rw [hfound]
        exact hmoves.transition
    · refine ⟨row, ?_, Or.inl rfl⟩
      rw [← hid] at hne
      rw [hmoves.store]
      exact (Table.lookup_replace_of_ne hne).trans hrow

end Batches

/-! ### Sound tables -/

/-- The unique indexes hold, and the entries that are allocated are there. -/
structure Sound (s : Database) : Prop where
  periods : Table.Valid periodTable s.periods
  batches : Table.Valid batchTable s.batches
  allocations : Table.Valid allocationTable s.allocations
  claims : Table.Valid claimTable s.claims
  handoffs : Table.Valid handoffTable s.handoffs
  entries : Table.Valid ledgerTable s.entries
  allocated : ∀ a ∈ s.allocations, (s.entry a.ledgerEntryId).isSome = true

theorem sound_empty : Sound .empty :=
  ⟨.nil, .nil, .nil, .nil, .nil, .nil, fun _ ha => by cases ha⟩

section Sound

variable {s s' : Database} {o : Op}

theorem WritesClaim.valid {data : ClaimInput} {found : Option Claim} {row : Claim}
    (h : WritesClaim data found s row s') (hclaims : Table.Valid claimTable s.claims) :
    Table.Valid claimTable s'.claims := by
  cases h with
  | update _ _ _ _ _ _ hrow hclash hstore =>
    rw [hstore]
    refine Table.replace_valid hclaims fun r hr hne => hclash r hr ?_
    rwa [hrow] at hne
  | insert _ hins => exact Table.insert_valid hclaims hins

theorem Delivers.valid {data : HandoffInput} {r : Except Thrown Handoff} (h : Delivers data s r s')
    (hhandoffs : Table.Valid handoffTable s.handoffs) : Table.Valid handoffTable s'.handoffs := by
  cases h with
  | refuse _ hstore | keep _ _ _ _ hstore => rwa [hstore]
  | freeze _ _ _ hcurrent _ _ _ hstore =>
    rw [hstore]
    exact Table.replace_valid_of_clash hhandoffs (Table.lookup_eq_some_mem hcurrent).1 rfl
      fun _ => rfl
  | advance _ _ _ _ _ hrow hclash hstore =>
    rw [hstore]
    refine Table.replace_valid hhandoffs fun h hh hne => hclash h hh ?_
    rwa [hrow] at hne
  | create _ _ _ hins => exact Table.insert_valid hhandoffs hins

theorem Sound.of_entries {entries : List LedgerEntry} (hs : Sound s)
    (h : KeepsEntries s.entries entries) : Sound { s with entries := entries } :=
  { hs with
    entries := h.valid
    allocated := fun a ha => h.found _ (hs.allocated a ha) }

theorem Moves.valid {data : StatusUpdate} {existing : Batch} (h : Moves data s existing s')
    (hbatches : Table.Valid batchTable s.batches) : Table.Valid batchTable s'.batches := by
  rw [h.store]
  exact Table.replace_valid_of_clash hbatches (Table.lookup_eq_some_mem h.found).1 rfl fun _ => rfl

theorem Write.sound (h : Write s o s') (hs : Sound s) : Sound s' := by
  cases h with
  | openPeriod h =>
    have hvalid := Table.insert_valid hs.periods h.insert
    rw [h.store] at hvalid ⊢
    exact { hs with periods := hvalid }
  | movePeriod h =>
    have hvalid : Table.Valid periodTable s'.periods := by
      rw [h.store]
      refine Table.replace_valid_of_clash hs.periods (Table.lookup_eq_some_mem h.found).1 h.id
        fun r => ?_
      simp only [periodTable, Table.Schema.unique, h.id, h.key]
    rw [h.store] at hvalid ⊢
    exact { hs with periods := hvalid }
  | openBatch h =>
    have hvalid := Table.insert_valid hs.batches h.insert
    rw [h.store] at hvalid ⊢
    exact { hs with batches := hvalid }
  | @allocate _ _ _ _ _ h =>
    have hvalid := Table.insert_valid hs.allocations h.insert
    obtain ⟨entry, hentry, -⟩ := h.bound
    rw [h.store] at hvalid ⊢
    refine { hs with allocations := hvalid, allocated := fun a ha => ?_ }
    rcases List.mem_append.mp ha with ha | ha
    · exact hs.allocated a ha
    · rw [List.mem_singleton.mp ha]
      exact Option.isSome_iff_exists.mpr ⟨entry, hentry⟩
  | move h hclaims =>
    have hvalid := h.valid hs.batches
    rw [h.store, hclaims] at hvalid ⊢
    exact { hs with batches := hvalid }
  | execute hclaim hmoves hclaims =>
    have hvalid := hmoves.valid hs.batches
    have hvalid' := hclaim.valid hs.claims
    rw [hmoves.store, hclaims] at hvalid ⊢
    exact { hs with batches := hvalid, claims := hvalid' }
  | claim h =>
    have hvalid := h.valid hs.claims
    rw [h.store_eq] at hvalid ⊢
    exact { hs with claims := hvalid }
  | deliver _ h =>
    have hvalid := h.valid hs.handoffs
    rw [h.store_eq] at hvalid ⊢
    exact { hs with handoffs := hvalid }
  | realize h =>
    rw [h.store]
    exact { hs with }
  | ingest h => exact hs.of_entries (h.keepsEntries hs.entries)
  | mark hold => exact hs.of_entries (.replace hs.entries (Table.lookup_eq_some_mem hold).1 rfl rfl)
  | orphan hold =>
    exact hs.of_entries (.replace hs.entries (Table.lookup_eq_some_mem hold).1 rfl rfl)
  | evidence => exact { hs with }

/-- What an operation does to the ledger entries. -/
inductive EntryEffect (s : Database) (o : Op) (s' : Database) : Prop
  | same (h : s'.entries = s.entries)
  | ingest {input : LedgerEntryInput} {result : LedgerEntry} (ho : o = .upsertLedgerEntry input)
      (h : Upserts input s.entries result s'.entries)
  | verdict {old row : LedgerEntry} (hold : s.entry row.id = some old)
      (hamount : row.amountRaw = old.amountRaw)
      (h : s'.entries = Table.replace ledgerTable row s.entries)

theorem Write.entryEffect (h : Write s o s') : EntryEffect s o s' := by
  cases h with
  | openPeriod h | movePeriod h | openBatch h | allocate h | move h | realize h =>
    exact .same (by rw [h.store])
  | execute _ hmoves => exact .same (by rw [hmoves.store])
  | claim h | deliver _ h => exact .same (by rw [h.store_eq])
  | ingest h => exact .ingest rfl h
  | @mark mark old hold =>
    refine @EntryEffect.verdict _ _ _ old (mark.apply old) ?_ rfl rfl
    rw [← Database.entry_id hold] at hold
    exact hold
  | @orphan _ old hold =>
    refine @EntryEffect.verdict _ _ _ old { old with canonicalityState := .orphaned } ?_ rfl rfl
    rw [← Database.entry_id hold] at hold
    exact hold
  | evidence => exact .same rfl

/-- An entry stays, and only ingestion changes its amount. -/
theorem Write.entry_amount (h : Write s o s') (hs : Sound s) {id : ℕ} {entry : LedgerEntry}
    (hentry : s.entry id = some entry) : ∃ entry', s'.entry id = some entry' ∧
      (entry'.amountRaw = entry.amountRaw ∨ ∃ input, o = .upsertLedgerEntry input ∧
        entry.entryKey = input.entryKey ∧ entry'.amountRaw = input.amountRaw) := by
  have hkept : s'.entry id = some entry → ∃ entry', s'.entry id = some entry' ∧
      (entry'.amountRaw = entry.amountRaw ∨ ∃ input, o = .upsertLedgerEntry input ∧
        entry.entryKey = input.entryKey ∧ entry'.amountRaw = input.amountRaw) :=
    fun h => ⟨entry, h, Or.inl rfl⟩
  cases h.entryEffect with
  | same hsame =>
    refine hkept ?_
    unfold Database.entry
    rwa [hsame]
  | @ingest input result ho hup =>
    cases hup with
    | insert _ _ _ hins =>
      refine hkept ?_
      unfold Database.entry
      rw [(Table.insert_eq_ok.mp hins).2.2]
      exact Table.lookup_append_of_some hentry
    | update old hold hkey _ hid _ _ hamount hreplace =>
      unfold Database.entry
      rw [hreplace]
      rcases eq_or_ne result.id id with rfl | hne
      · -- the entry with this id is the one with the key of the input
        obtain ⟨hmem, hmemId⟩ := Table.lookup_eq_some_mem hentry
        have hsame : entry = old := hs.entries.eq_of_key hmem hold (hmemId.trans hid)
        refine ⟨result, Table.lookup_replace_self hentry, Or.inr ⟨input, ho, ?_, hamount⟩⟩
        rw [hsame, hkey]
      · rw [Table.lookup_replace_of_ne hne]
        exact ⟨entry, hentry, Or.inl rfl⟩
    | orphaned _ _ _ hsame =>
      refine hkept ?_
      unfold Database.entry
      rwa [hsame]
  | @verdict _ row hold hamount hreplace =>
    unfold Database.entry
    rw [hreplace]
    rcases eq_or_ne row.id id with rfl | hne
    · rw [hold, Option.some.injEq] at hentry
      rw [← hentry]
      exact ⟨row, Table.lookup_replace_self hold, Or.inl hamount⟩
    · rw [Table.lookup_replace_of_ne hne]
      exact ⟨entry, hentry, Or.inl rfl⟩

theorem Write.entry_isSome (h : Write s o s') (hs : Sound s) {id : ℕ}
    (hfound : (s.entry id).isSome = true) : (s'.entry id).isSome = true := by
  obtain ⟨_, hentry⟩ := Option.isSome_iff_exists.mp hfound
  obtain ⟨entry', hentry', -⟩ := h.entry_amount hs hentry
  exact Option.isSome_iff_exists.mpr ⟨entry', hentry'⟩

end Sound

end Cotsel.Treasury.Sweep
