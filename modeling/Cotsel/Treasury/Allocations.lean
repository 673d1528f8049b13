import Cotsel.Treasury.SweepKnowledge

/-!
# Allocations stay within the ledger

An entry of the ledger is allocated to one batch at a time, with no more than its amount, and a
batch that has been approved has allocations that add up to its expected total.

Two writes can break that.  Ingestion writes an entry again with the amount that the indexer reports
now, and nothing compares it with an allocation that exists (`allocations_leave_ledger`).
And the total is compared before the transition to `PENDING_APPROVAL` and before that to `APPROVED`,
both times with allocations that are read without a lock; an entry that is allocated after both
reads, while the batch is still a draft, is not counted.  If neither happens, allocations stay
within the ledger in every reachable state (`allocations_within_ledger`).  In any case an approved
batch keeps its allocations (`approved_batch_kept`).
-/

namespace Cotsel.Treasury.Sweep

open Interaction Runs Knowledge

/-! ### What is to hold -/

def Database.activeAllocations (s : Database) (ledgerEntryId : ℕ) : List Allocation :=
  s.allocations.filter fun a => a.ledgerEntryId = ledgerEntryId && a.allocationStatus = .allocated

structure WithinLedger (s : Database) : Prop where
  one : ∀ id, (s.activeAllocations id).length ≤ 1
  bounded : ∀ a ∈ s.allocations, a.allocationStatus = .allocated → 0 < a.entryAmountRaw ∧
    ∃ entry, s.entry a.ledgerEntryId = some entry ∧ a.entryAmountRaw ≤ entry.amountRaw
  total : ∀ b ∈ s.batches, b.status.isApproved = true →
    Knowledge.total (s.allocationsOf b.id) = b.expectedTotalRaw

/-- An allocation that is new belongs to a draft of an open period. -/
def AddsToDrafts (e : Event) : Prop :=
  ∀ a ∈ e.target.allocations, a ∉ e.source.allocations →
    ∃ batch period, e.source.batch a.sweepBatchId = some batch ∧ batch.status = .draft ∧
      e.source.period batch.accountingPeriodId = some period ∧ period.status = .opened

def Op.ingests : Op → Option LedgerEntryInput
  | .upsertLedgerEntry input => some input
  | _ => none

def Op.approves : Op → Option ℕ
  | .updateSweepBatchStatus data => if data.status = .approved then some data.batchId else none
  | _ => none

/-- A step that changes the tables: ingestion leaves an allocated entry at least what is allocated,
and a batch is approved with the allocations that the request has read. -/
structure KeepsAllocations (roles : ℕ → Knowledge) (e : Event) : Prop where
  ingest : e.target ≠ e.source → ∀ q ∈ asked e, ∀ input ∈ q.2.ingests,
    ∀ a ∈ e.source.allocations, ∀ entry ∈ e.source.entry a.ledgerEntryId,
      entry.entryKey = input.entryKey → a.entryAmountRaw ≤ input.amountRaw
  approve : e.target ≠ e.source → ∀ q ∈ asked e, ∀ b ∈ q.2.approves,
    ∀ links ∈ (roles q.1).links, links.1 = b → e.source.allocationsOf b = links.2

instance (roles : ℕ → Knowledge) (e : Event) : Decidable (KeepsAllocations roles e) :=
  decidable_of_iff (_ ∧ _) ⟨fun h => ⟨h.1, h.2⟩, fun h => ⟨h.1, h.2⟩⟩

/-! ### One allocation for an entry -/

section One

variable {s : Database}

theorem length_activeAllocations_le (hs : Sound s) (id : ℕ) :
    (s.activeAllocations id).length ≤ 1 := by
  have hactive : ∀ a ∈ s.activeAllocations id,
      a.ledgerEntryId = id ∧ a.allocationStatus = .allocated := by
    intro a ha
    simpa using (List.mem_filter.mp ha).2
  have hpairwise : (s.activeAllocations id).Pairwise fun a a' =>
      allocationTable.clash a a' = none := hs.allocations.filter _
  match hlist : s.activeAllocations id with
  | [] => exact Nat.zero_le _
  | [a] => exact le_rfl
  | a :: a' :: rest =>
    -- two active allocations of the same entry violate the index
    rw [hlist] at hactive hpairwise
    have hclash := (List.pairwise_cons.mp hpairwise).1 a' List.mem_cons_self
    have ha := hactive a List.mem_cons_self
    have ha' := hactive a' (List.mem_cons_of_mem _ List.mem_cons_self)
    unfold allocationTable at hclash
    rw [Table.Schema.unique_clash] at hclash
    simp [ha.1, ha.2, ha'.1, ha'.2] at hclash

end One

/-! ### Steps -/

section Step

variable {s s' : Database} {o : Op}

/-- The active allocations are within their entries. -/
def Bounded (s : Database) : Prop :=
  ∀ a ∈ s.allocations, 0 < a.entryAmountRaw ∧
    ∃ entry, s.entry a.ledgerEntryId = some entry ∧ a.entryAmountRaw ≤ entry.amountRaw

/-- The batches that have been approved have their totals. -/
def Totalled (s : Database) : Prop :=
  ∀ id b, s.batch id = some b → b.status.isApproved = true →
    Knowledge.total (s.allocationsOf id) = b.expectedTotalRaw

theorem Bounded.of_write (h : Bounded s) (hs : Sound s) (hwrite : Write s o s')
    (hingest : ∀ input, o = .upsertLedgerEntry input → ∀ a ∈ s.allocations, ∀ entry,
      s.entry a.ledgerEntryId = some entry → entry.entryKey = input.entryKey →
      a.entryAmountRaw ≤ input.amountRaw) : Bounded s' := by
  -- what was allocated before stays within its entry
  have hold : ∀ a ∈ s.allocations, 0 < a.entryAmountRaw ∧ ∃ entry,
      s'.entry a.ledgerEntryId = some entry ∧ a.entryAmountRaw ≤ entry.amountRaw := by
    intro a ha
    obtain ⟨hpos, entry, hentry, hle⟩ := h a ha
    obtain ⟨entry', hentry', hsame | ⟨input, ho, hkey, hamount⟩⟩ := hwrite.entry_amount hs hentry
    · exact ⟨hpos, entry', hentry', by rwa [hsame]⟩
    · refine ⟨hpos, entry', hentry', ?_⟩
      rw [hamount]
      exact hingest input ho a ha entry hentry hkey
  intro a ha
  rcases hwrite.allocations with hsame | ⟨row, hallocates⟩
  · rw [hsame] at ha
    exact hold a ha
  · rw [hallocates.store] at ha
    rcases List.mem_append.mp ha with ha | ha
    · exact hold a ha
    · rw [List.mem_singleton.mp ha]
      obtain ⟨entry, hentry, hpos, hle⟩ := hallocates.bound
      refine ⟨hpos, entry, ?_, hle⟩
      rw [hallocates.store]
      exact hentry

theorem level_ne_zero_of_isApproved {status : SweepBatchStatus} (h : status.isApproved = true) :
    status.level ≠ 0 := by
  revert h
  cases status <;> decide

/-- Only the approval leads to the approved states from before. -/
theorem eq_approved_of_transition {status status' : SweepBatchStatus}
    (h : status' ∈ sweepBatchTransitions status) (hstatus : status.isApproved = false)
    (hstatus' : status'.isApproved = true) : status' = .approved := by
  revert h hstatus hstatus'
  cases status <;> cases status' <;> decide

theorem allocationsOf_of_moves {data : StatusUpdate} {existing : Batch}
    (h : Moves data s existing s') (id : ℕ) : s'.allocationsOf id = s.allocationsOf id := by
  rw [h.store]
  rfl

theorem Totalled.of_write (h : Totalled s) (hwrite : Write s o s')
    (happrove : ∀ data, o = .updateSweepBatchStatus data → data.status = .approved →
      ∀ row, s.batch data.batchId = some row →
        Knowledge.total (s.allocationsOf data.batchId) = row.expectedTotalRaw) : Totalled s' := by
  intro id b hb happroved
  have hkept : s.batch id = some b →
      Knowledge.total (s'.allocationsOf id) = b.expectedTotalRaw := by
    intro hb
    rw [hwrite.allocationsOf_eq hb (level_ne_zero_of_isApproved happroved)]
    exact h id b hb happroved
  cases hwrite.batchOrigin hb with
  | kept hb => exact hkept hb
  | opened hopens =>
    rw [hopens.isNew.status] at happroved
    cases happroved
  | @moved data existing ho hmoves hid hrow =>
    subst hid
    rw [hrow] at happroved ⊢
    rw [allocationsOf_of_moves hmoves]
    show Knowledge.total (s.allocationsOf data.batchId) = existing.expectedTotalRaw
    cases hbefore : existing.status.isApproved with
    | true => exact h _ existing hmoves.found hbefore
    | false =>
      have hstatus := eq_approved_of_transition hmoves.transition hbefore happroved
      exact happrove data ho hstatus existing hmoves.found
  | @executed data found batch _ _ _ _ hmoves _ hid hrow =>
    subst hid
    rw [hrow, allocationsOf_of_moves hmoves]
    show Knowledge.total (s.allocationsOf data.batchId) = batch.expectedTotalRaw
    refine h _ batch hmoves.found ?_
    have htransition : .executed ∈ sweepBatchTransitions batch.status := hmoves.transition
    revert htransition
    cases batch.status <;> decide

end Step

/-! ### Every run -/

structure Allocated (x : RoleConfig Database ℕ Knowledge) : Prop where
  sound : Sound x.store
  holds : ∀ p, (x.roles p).Holds x.store
  bounded : Bounded x.store
  totalled : Totalled x.store

theorem addsToDrafts_of_stepsTo {s s' : Database} {l : Action} (h : StepsTo s l s') :
    AddsToDrafts ⟨s, l, s'⟩ := by
  intro a ha hnew
  rcases h with rfl | ⟨p, o, r, rfl, hwrite⟩
  · exact absurd ha hnew
  · rcases hwrite.allocations with hsame | ⟨row, hallocates⟩
    · rw [hsame] at ha
      exact absurd ha hnew
    · rw [hallocates.store] at ha
      rcases List.mem_append.mp ha with ha | ha
      · exact absurd ha hnew
      · rw [List.mem_singleton.mp ha]
        exact hallocates.draft

theorem Allocated.step {x x' : RoleConfig Database ℕ Knowledge} {l : Action}
    (hC : KeepsAllocations x.roles ⟨x.store, l, x'.store⟩) (h : Allocated x)
    (hstep : KnownStep x l x') : Allocated x' ∧ AddsToDrafts ⟨x.store, l, x'.store⟩ := by
  obtain ⟨hsound, hholds⟩ := holds_of_knownStep hstep h.sound h.holds
  have hidle : x'.store = x.store → Allocated x' ∧ AddsToDrafts ⟨x.store, l, x'.store⟩ := by
    intro hsame
    refine ⟨⟨hsound, hholds, ?_, ?_⟩, addsToDrafts_of_stepsTo (Or.inl hsame)⟩
    · rw [hsame]
      exact h.bounded
    · rw [hsame]
      exact h.totalled
  cases knownCases hstep with
  | idle hstore => exact hidle hstore
  | act p o r _ hl hallowed hperform =>
    by_cases hne : x'.store = x.store
    · exact hidle hne
    · have hwrite := (write_of_perform hperform).resolve_left hne
      subst hl
      refine ⟨⟨hsound, hholds, ?_, ?_⟩, addsToDrafts_of_stepsTo (Or.inr ⟨p, o, r, rfl, hwrite⟩)⟩
      · refine h.bounded.of_write h.sound hwrite ?_
        rintro input rfl
        exact hC.ingest hne _ rfl input rfl
      · refine h.totalled.of_write hwrite ?_
        rintro data rfl hstatus row hrow
        -- the request has read this batch and these allocations
        have hmay : (x.roles p).MayMove data := hallowed
        unfold MayMove at hmay
        rw [hstatus] at hmay
        obtain ⟨-, batch, links, hbatch, hid, hlinks, htotal⟩ := hmay
        obtain ⟨row', hrow', hexpected, -⟩ := (h.holds p).batch batch hbatch
        rw [hid, hrow, Option.some.injEq] at hrow'
        rw [hC.approve hne _ rfl data.batchId (if_pos hstatus) _ hlinks rfl,
          htotal (h.holds p).missing, hrow', hexpected]

/-- If ingestion does not undercut an allocation, and every approval commits on the allocations that
it has read, then allocations stay within the ledger, and they are added to drafts of open periods
only. -/
theorem allocations_within_ledger {tr : List (Transition State Action)} {c : State}
    (hrun : Run (Step world) initial tr c)
    (hkeeps : Meets knowledge.next .nothing KeepsAllocations (tr.map view)) :
    WithinLedger c.store ∧ ∀ e ∈ tr.map view, AddsToDrafts e := by
  have h0 : Allocated ⟨initial.store, fun _ => .nothing⟩ := by
    refine ⟨sound_empty, fun _ => nothing_holds, ?_, ?_⟩
    · intro a ha
      cases ha
    · intro id b hb
      cases hb
  obtain ⟨hend, hdrafts⟩ := Run.tracked (A := fun _ => True) truthful (fun q _ => follows q)
    (fun _ _ _ _ _ => trivial) initial_quiet h0
    (fun _ _ _ hC h hstep => Allocated.step hC h hstep) hrun hkeeps
  refine ⟨⟨?_, ?_, ?_⟩, hdrafts⟩
  · exact length_activeAllocations_le hend.sound
  · exact fun a ha _ => hend.bounded a ha
  · intro b hb happroved
    exact hend.totalled b.id b (hend.sound.batches.lookup_eq_some.mpr ⟨hb, rfl⟩) happroved

section Sample

open Sample

/-- A batch is approved, and its entry is ingested again with more. -/
def approvedAndCorrected : List (Choice ℕ Luck Request) :=
  openPeriod ++ approved 1 5 ++ serve (.ingestEntry (entry 1 6)) (adds 1)

theorem allocations_within_ledger_sample : ∃ tr c, Run (Step world) initial tr c ∧
    Meets knowledge.next .nothing KeepsAllocations (tr.map view) ∧
    (c.store.batch 1).map Batch.status = some .approved ∧
    WithinLedger c.store ∧ ∀ e ∈ tr.map view, AddsToDrafts e := by
  obtain ⟨tr, c, hrun, hkeeps, hstatus⟩ := exists_run_of_simulate (W := world) (c := initial)
    approvedAndCorrected (P := fun events c =>
      Meets knowledge.next .nothing KeepsAllocations events ∧
        (c.store.batch 1).map Batch.status = some .approved) (by decide +kernel)
  exact ⟨tr, c, hrun, hkeeps, hstatus, allocations_within_ledger hrun hkeeps⟩

/-- The entry of a batch is ingested again with less. -/
def undercut : List (Choice ℕ Luck Request) :=
  openPeriod ++ approved 1 5 ++ serve (.ingestEntry (entry 1 3)) (adds 1)

/-- The request for approval and the approval read the batch; then another entry is allocated to it,
and both go on. -/
def allocatedLate : List (Choice ℕ Luck Request) :=
  openPeriod ++ draft 1 5 ++
  serve (.ingestEntry (entry 2 3)) (adds 2) ++ serve (.markCanonical (mark 2)) (adds 2) ++
  [.call 1 (.requestSweepBatchApproval 1 (Text.lit "maker") none), .acts 1 (adds 1) 5,
    .call 2 (.approveSweepBatch 1 (Text.lit "checker") none), .acts 2 (adds 1) 5] ++
  serve (.addSweepBatchEntry ⟨1, 2, Text.lit "maker", none⟩) (adds 2) ++
  [.acts 1 (adds 1) 1, .done 1, .acts 2 (adds 1) 1, .done 2]

def exceedsEntry (s : Database) : Bool :=
  s.allocations.any fun a => a.allocationStatus = .allocated &&
    (s.entry a.ledgerEntryId).any fun entry => entry.amountRaw < a.entryAmountRaw

/-- An approved batch has other allocations than its expected total. -/
def missesTotal (s : Database) : Bool :=
  s.batches.any fun b => b.status = .approved &&
    Knowledge.total (s.allocationsOf b.id) ≠ b.expectedTotalRaw

theorem not_withinLedger_of_exceedsEntry {s : Database} (h : exceedsEntry s = true) :
    ¬ WithinLedger s := by
  intro hwithin
  obtain ⟨a, ha, htest⟩ := List.any_eq_true.mp h
  rw [Bool.and_eq_true, decide_eq_true_eq] at htest
  obtain ⟨-, entry, hentry, hle⟩ := hwithin.bounded a ha htest.1
  rw [hentry, Option.any_some, decide_eq_true_eq] at htest
  omega

theorem not_withinLedger_of_missesTotal {s : Database} (h : missesTotal s = true) :
    ¬ WithinLedger s := by
  intro hwithin
  obtain ⟨b, hb, htest⟩ := List.any_eq_true.mp h
  rw [Bool.and_eq_true, decide_eq_true_eq, decide_eq_true_eq] at htest
  refine htest.2 (hwithin.total b hb ?_)
  rw [htest.1]
  rfl

/-- Re-ingestion leaves an entry with less than is allocated; and a batch is approved with
allocations that do not add up to its expected total. -/
theorem allocations_leave_ledger :
    (∃ tr c, Run (Step world) initial tr c ∧ exceedsEntry c.store = true ∧
      ¬ WithinLedger c.store) ∧
    ∃ tr c, Run (Step world) initial tr c ∧ missesTotal c.store = true ∧
      ¬ WithinLedger c.store := by
  obtain ⟨tr, c, hrun, hexceeds⟩ := exists_end_of_simulate (W := world) (c := initial) undercut
    (P := fun c => exceedsEntry c.store = true) (by decide +kernel)
  obtain ⟨tr', c', hrun', hmisses⟩ := exists_end_of_simulate (W := world) (c := initial)
    allocatedLate (P := fun c => missesTotal c.store = true) (by decide +kernel)
  exact ⟨⟨tr, c, hrun, hexceeds, not_withinLedger_of_exceedsEntry hexceeds⟩,
    tr', c', hrun', hmisses, not_withinLedger_of_missesTotal hmisses⟩

/-- **An approved batch is kept**: from its approval on (and once it is void), whatever else the
service does, a batch keeps its allocations, its expected total and its creator, and never goes
back. -/
theorem approved_batch_kept {tr : List (Transition State Action)} {c c' : State}
    (hrun : Run (Step world) c tr c') {id : ℕ} {row : Batch} (hrow : c.store.batch id = some row)
    (happroved : row.status.level ≠ 0) :
    c'.store.allocationsOf id = c.store.allocationsOf id ∧
      ∃ row', c'.store.batch id = some row' ∧ row'.expectedTotalRaw = row.expectedTotalRaw ∧
        row'.createdBy = row.createdBy ∧ row.status.level ≤ row'.status.level := by
  induction hrun with
  | nil => exact ⟨rfl, row, hrow, rfl, rfl, le_rfl⟩
  | snoc _ hstep ih =>
    obtain ⟨hallocations, row₁, hrow₁, htotal, hby, hlevel⟩ := ih
    rcases stepsTo_of_step hstep with hsame | ⟨_, _, _, -, hwrite⟩
    · rw [hsame]
      exact ⟨hallocations, row₁, hrow₁, htotal, hby, hlevel⟩
    · obtain ⟨row₂, hrow₂, hsucc⟩ := hwrite.batch_succeeds hrow₁
      have hkept := hwrite.allocationsOf_eq hrow₁ (by omega)
      exact ⟨hkept.trans hallocations, row₂, hrow₂, hsucc.expectedTotalRaw.trans htotal,
        hsucc.createdBy.trans hby, hlevel.trans hsucc.level_le⟩

theorem approved_batch_kept_sample : ∃ tr c c' row, Run (Step world) c tr c' ∧
    c.store.batch 1 = some row ∧ row.status = .approved ∧
    c'.store.allocationsOf 1 = c.store.allocationsOf 1 := by
  obtain ⟨_, c', hrun, e, he, hany⟩ := exists_run_of_simulate (W := world) (c := initial)
    approvedAndCorrected (P := fun events _ => ∃ e ∈ events,
      (e.target.batch 1).any fun row => row.status = .approved) (by decide +kernel)
  obtain ⟨row, hrow, hstatus⟩ := (Option.any_eq_true _ _).mp hany
  obtain ⟨t, ht, rfl⟩ := List.mem_map.mp he
  obtain ⟨_, _, -, -, -, hpost⟩ := hrun.split ht
  have happroved := of_decide_eq_true hstatus
  have hkept := approved_batch_kept hpost hrow (by rw [happroved]; decide)
  exact ⟨_, t.target, c', row, hpost, hrow, happroved, hkept.1⟩

end Sample

end Cotsel.Treasury.Sweep
