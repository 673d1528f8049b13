import Cotsel.Treasury.SweepKnowledge

/-!
# The provider's word and the batch

A batch is handed off when the provider has taken its handoff over, and a dispute about the handoff,
which is recorded by freezing it, is to stop realizations and the close of the batch.

Two things stand against that.  A batch moves to `HANDED_OFF` on what a request has reported, and a
late report is accepted without effect: `SUBMITTED` on a handoff that is recorded as `FAILED` hands
the batch off.  And a realization and a close look at the recorded status and not at the freeze: a
handoff that was `COMPLETED` when the provider reported its failure goes on as if nothing had
happened.  Both are runs in `batch_passes_gate`.

If neither happens, and nobody reports a failure while the report of a success is being acted on,
then the record gates the batch (`provider_gates_batch`): only a failed handoff is ever frozen.
-/

namespace Cotsel.Treasury.Sweep

open Interaction Runs Knowledge

/-! ### What is to hold -/

/-- The provider has taken the handoff of a batch over, and there is no dispute about it. -/
def HandedOver (s : Database) (id : ℕ) : Prop :=
  ∃ handoff, s.handoff id = some handoff ∧ isHandedOff handoff.handoffStatus = true ∧
    handoff.frozenAt = none

/-- There is a dispute about the handoff of a batch. -/
def Frozen (s : Database) (id : ℕ) : Prop :=
  ∃ handoff, s.handoff id = some handoff ∧ handoff.frozenAt ≠ none

structure ProviderGates (e : Event) : Prop where
  handedOff : ∀ id row, e.target.batch id = some row → row.status = .handedOff →
    (∀ old, e.source.batch id = some old → old.status ≠ .handedOff) → HandedOver e.source id
  closed : ∀ id row, e.target.batch id = some row → row.status = .closed →
    (∀ old, e.source.batch id = some old → old.status ≠ .closed) → ¬ Frozen e.source id
  realized : ∀ row ∈ e.target.realizations, row ∉ e.source.realizations →
    ∀ a, e.source.activeAllocation row.ledgerEntryId = some a → ¬ Frozen e.source a.sweepBatchId

def Op.delivers : Op → Option HandoffInput
  | .upsertPartnerHandoff data => some data
  | _ => none

/-- A report is in order: a completed handoff does not fail, one that has failed is not taken over,
and none fails while a request that has reported otherwise is still at work. -/
structure InOrder (roles : ℕ → Knowledge) (current : Handoff) (data : HandoffInput) : Prop where
  completed : current.handoffStatus = .completed →
    resolveProviderHandoffAuthority data.handoffStatus ≠ .terminalFailed
  failed : resolveProviderHandoffAuthority current.handoffStatus = .terminalFailed →
    resolveProviderHandoffAuthority data.handoffStatus ≠ .inFlight
  awaited : resolveProviderHandoffAuthority data.handoffStatus = .terminalFailed →
    ∀ p status, (roles p).delivered = some (data.sweepBatchId, status) → isHandedOff status = false

/-- The reports on the handoffs that are not frozen are in order. -/
def ReportsInOrder (roles : ℕ → Knowledge) (e : Event) : Prop :=
  ∀ q ∈ asked e, ∀ data ∈ q.2.delivers, ∀ current ∈ e.source.handoff data.sweepBatchId,
    current.frozenAt = none → InOrder roles current data

/-! ### The record -/

/-- What a delivery makes of the record of its batch, and what is answered. -/
inductive Records (data : HandoffInput) (before : Option Handoff) (r : Except Thrown Handoff)
    (after : Option Handoff) : Prop
  | refuse (hr : ∀ h, r ≠ .ok h) (hafter : after = before)
  | freeze (current frozen : Handoff) (hbefore : before = some current)
      (hunfrozen : current.frozenAt = none)
      (hclass : classifyProviderHandoffTransition (some current.handoffStatus) data.handoffStatus =
        .contradiction)
      (hr : ∀ h, r ≠ .ok h) (hafter : after = some frozen)
      (hstatus : frozen.handoffStatus = current.handoffStatus)
  | keep (current : Handoff) (hbefore : before = some current)
      (hunfrozen : current.frozenAt = none)
      (hclass : classifyProviderHandoffTransition (some current.handoffStatus)
          data.handoffStatus = .stale ∨
        classifyProviderHandoffTransition (some current.handoffStatus)
          data.handoffStatus = .replay)
      (hafter : after = before)
  | write (row : Handoff)
      (hbefore : ∀ current, before = some current → current.frozenAt = none ∧
        classifyProviderHandoffTransition (some current.handoffStatus) data.handoffStatus =
          .advance)
      (hafter : after = some row) (hstatus : row.handoffStatus = data.handoffStatus)
      (hunfrozen : row.frozenAt = none)

section Record

variable {s s' : Database} {o : Op} {data : HandoffInput} {r : Except Thrown Handoff} {id : ℕ}

theorem handoff_replace_self {row old : Handoff} (h : s.handoff row.sweepBatchId = some old) :
    Database.handoff { s with handoffs := Table.replace handoffTable row s.handoffs }
      row.sweepBatchId = some row :=
  Table.lookup_replace_self h

theorem Delivers.records (h : Delivers data s r s') :
    Records data (s.handoff data.sweepBatchId) r (s'.handoff data.sweepBatchId) := by
  cases h with
  | refuse hr hstore =>
    rw [hstore]
    exact .refuse hr rfl
  | freeze current time reason hcurrent hfrozen hclass hr hstore =>
    let frozen : Handoff :=
      { current with
        frozenAt := some time
        frozenReason := current.frozenReason.or (some reason) }
    have hkey : frozen.sweepBatchId = data.sweepBatchId := by
      rw [← Database.handoff_sweepBatchId hcurrent]
    have hafter : s'.handoff data.sweepBatchId = some frozen := by
      rw [← hkey] at hcurrent ⊢
      rw [hstore]
      exact handoff_replace_self hcurrent
    exact .freeze current frozen hcurrent hfrozen hclass hr hafter rfl
  | keep current hcurrent hfrozen hclass hstore =>
    rw [hstore]
    exact .keep current hcurrent hfrozen hclass rfl
  | advance _ row hcurrent hfrozen hclass hrow _ hstore =>
    refine .write row ?_ ?_ (by rw [hrow]; rfl) (by rw [hrow]; rfl)
    · intro h hh
      rw [hcurrent, Option.some.injEq] at hh
      rw [← hh]
      exact ⟨hfrozen, hclass⟩
    · have hkey : row.sweepBatchId = data.sweepBatchId := by
        rw [hrow]
        rfl
      rw [← hkey] at hcurrent ⊢
      rw [hstore]
      exact handoff_replace_self hcurrent
  | create row hnone hrow hins hstore =>
    obtain ⟨newId, rfl⟩ := hrow
    refine .write (data.row newId data.evidenceReference) ?_ ?_ rfl rfl
    · intro h hh
      rw [hnone] at hh
      cases hh
    · rw [hstore]
      exact Table.lookup_append_self (Table.insert_eq_ok.mp hins).2.1

theorem Delivers.handoff_of_ne (h : Delivers data s r s') (hne : data.sweepBatchId ≠ id) :
    s'.handoff id = s.handoff id := by
  cases h with
  | refuse _ hstore | keep _ _ _ _ hstore => rw [hstore]
  | freeze _ _ _ hcurrent _ _ _ hstore =>
    rw [← Database.handoff_sweepBatchId hcurrent] at hne
    rw [hstore]
    exact Table.lookup_replace_of_ne hne
  | advance _ _ _ _ _ hrow _ hstore =>
    rw [hstore, hrow]
    exact Table.lookup_replace_of_ne hne
  | create _ _ hrow _ hstore =>
    obtain ⟨newId, rfl⟩ := hrow
    rw [hstore]
    exact Table.lookup_append_of_ne hne

theorem Write.handoffs (h : Write s o s') : s'.handoffs = s.handoffs ∨
    ∃ data r, o = .upsertPartnerHandoff data ∧ Delivers data s r s' := by
  cases h with
  | deliver _ h => exact Or.inr ⟨_, _, rfl, h⟩
  | openPeriod h | movePeriod h | openBatch h | allocate h | move h | execute _ h | realize h =>
    exact Or.inl (by rw [h.store])
  | claim h => exact Or.inl (by rw [h.store_eq])
  | ingest | mark | orphan | evidence => exact Or.inl rfl

theorem Write.records (h : Write s o s') (id : ℕ) : s'.handoff id = s.handoff id ∨
    ∃ data r, o = .upsertPartnerHandoff data ∧ data.sweepBatchId = id ∧
      Records data (s.handoff id) r (s'.handoff id) := by
  rcases h.handoffs with hsame | ⟨data, r, ho, hdelivers⟩
  · unfold Database.handoff
    rw [hsame]
    exact Or.inl rfl
  · rcases eq_or_ne data.sweepBatchId id with rfl | hne
    · exact Or.inr ⟨data, r, ho, rfl, hdelivers.records⟩
    · exact Or.inl (hdelivers.handoff_of_ne hne)

theorem delivers_of_perform {luck : Luck} {handoff : Handoff}
    (h : perform (.upsertPartnerHandoff data) luck s = (.ok handoff, s')) :
    Delivers data s (.ok handoff) s' := by
  rcases Transaction.transactResult_cases h with ⟨-, hr⟩ | ⟨r', hr, htx⟩
  · exact absurd rfl (hr handoff)
  · rw [hr handoff rfl] at htx
    exact (upsertPartnerHandoff_eq_ok htx).2

end Record

/-! ### Statuses -/

section Statuses

variable {current reported : ProviderHandoffStatus}

theorem terminalFailed_of_contradiction
    (h : classifyProviderHandoffTransition (some current) reported = .contradiction)
    (hcompleted : current = .completed →
      resolveProviderHandoffAuthority reported ≠ .terminalFailed) :
    resolveProviderHandoffAuthority current = .terminalFailed := by
  revert h hcompleted
  cases current <;> cases reported <;> decide

theorem isHandedOff_eq_false :
    isHandedOff current = false ↔ resolveProviderHandoffAuthority current = .terminalFailed ∨
      resolveProviderHandoffAuthority current = .notHandedOff := by
  cases current <;> decide

/-- What has been taken over stays so, unless it fails. -/
theorem isHandedOff_of_advance
    (h : classifyProviderHandoffTransition (some current) reported = .advance)
    (hcurrent : isHandedOff current = true)
    (hfailed : resolveProviderHandoffAuthority reported ≠ .terminalFailed) :
    isHandedOff reported = true := by
  revert h hcurrent hfailed
  cases current <;> cases reported <;> decide

/-- A report that comes too late says nothing new, unless the handoff has failed. -/
theorem isHandedOff_of_stale
    (h : classifyProviderHandoffTransition (some current) reported = .stale ∨
      classifyProviderHandoffTransition (some current) reported = .replay)
    (hreported : isHandedOff reported = true)
    (hfailed : resolveProviderHandoffAuthority current = .terminalFailed →
      resolveProviderHandoffAuthority reported ≠ .inFlight) :
    isHandedOff current = true := by
  revert h hreported hfailed
  cases current <;> cases reported <;> decide

end Statuses

/-! ### What is known of a handoff -/

/-- Only handoffs that have failed are frozen. -/
def FrozenFailed (s : Database) : Prop :=
  ∀ id handoff, s.handoff id = some handoff → handoff.frozenAt ≠ none →
    resolveProviderHandoffAuthority handoff.handoffStatus = .terminalFailed

/-- The handoff of a batch is completed, and will stay so. -/
def Completed (s : Database) (id : ℕ) : Prop :=
  ∃ handoff, s.handoff id = some handoff ∧ handoff.handoffStatus = .completed ∧
    handoff.frozenAt = none

/-- What a request has reported or read holds of the record. -/
structure Knowledge.Backed (t : Knowledge) (s : Database) : Prop where
  delivered : ∀ id status, t.delivered = some (id, status) → isHandedOff status = true →
    HandedOver s id
  completed : ∀ id ∈ t.completed, Completed s id

section Backed

variable {s s' : Database} {o : Op} {data : HandoffInput} {r : Except Thrown Handoff} {id : ℕ}
  {roles : ℕ → Knowledge} {t : Knowledge}

theorem Completed.not_frozen (h : Completed s id) : ¬ Frozen s id := by
  rintro ⟨frozen, hfrozen, hne⟩
  obtain ⟨handoff, hhandoff, -, hnone⟩ := h
  rw [hhandoff, Option.some.injEq] at hfrozen
  rw [← hfrozen] at hne
  exact hne hnone

/-- What an operation may deliver. -/
def Allows (roles : ℕ → Knowledge) (s : Database) (o : Op) : Prop :=
  ∀ data, o = .upsertPartnerHandoff data → ∀ current, s.handoff data.sweepBatchId = some current →
    current.frozenAt = none → InOrder roles current data

theorem FrozenFailed.of_write (h : FrozenFailed s) (hwrite : Write s o s')
    (hallows : Allows roles s o) : FrozenFailed s' := by
  intro id handoff hhandoff hfrozen
  rcases hwrite.records id with hsame | ⟨data, r, ho, rfl, hrecords⟩
  · rw [hsame] at hhandoff
    exact h id handoff hhandoff hfrozen
  · cases hrecords with
    | refuse _ hafter | keep _ _ _ _ hafter =>
      rw [hafter] at hhandoff
      exact h _ handoff hhandoff hfrozen
    | freeze current _ hbefore hunfrozen hclass _ hafter hstatus =>
      rw [hafter, Option.some.injEq] at hhandoff
      rw [← hhandoff, hstatus]
      exact terminalFailed_of_contradiction hclass
        (hallows data ho current hbefore hunfrozen).completed
    | write _ _ hafter _ hunfrozen =>
      rw [hafter, Option.some.injEq] at hhandoff
      rw [← hhandoff] at hfrozen
      exact absurd hunfrozen hfrozen

/-- A handoff that has been taken over stays so, as long as nobody reports its failure. -/
theorem HandedOver.of_write (h : HandedOver s id) (hwrite : Write s o s')
    (hallows : Allows roles s o)
    (hfailed : ∀ data, o = .upsertPartnerHandoff data → data.sweepBatchId = id →
      resolveProviderHandoffAuthority data.handoffStatus ≠ .terminalFailed) :
    HandedOver s' id := by
  obtain ⟨handoff, hhandoff, hover, hnone⟩ := h
  rcases hwrite.records id with hsame | ⟨data, r, ho, rfl, hrecords⟩
  · exact ⟨handoff, hsame.trans hhandoff, hover, hnone⟩
  · cases hrecords with
    | refuse _ hafter => exact ⟨handoff, hafter.trans hhandoff, hover, hnone⟩
    | freeze _ _ hbefore hunfrozen hclass =>
      -- only a completed handoff could be frozen here, by a failure
      rw [hhandoff, Option.some.injEq] at hbefore
      rw [← hbefore] at hclass hunfrozen
      have hfail := terminalFailed_of_contradiction hclass
        (hallows data ho handoff hhandoff hunfrozen).completed
      rw [isHandedOff_eq_false.mpr (Or.inl hfail)] at hover
      cases hover
    | keep _ _ _ _ hafter =>
      exact ⟨handoff, hafter.trans hhandoff, hover, hnone⟩
    | write row hbefore hafter hstatus hunfrozen =>
      refine ⟨row, hafter, ?_, hunfrozen⟩
      rw [hstatus]
      exact isHandedOff_of_advance (hbefore handoff hhandoff).2 hover (hfailed data ho rfl)

theorem Completed.of_write (h : Completed s id) (hwrite : Write s o s')
    (hallows : Allows roles s o) : Completed s' id := by
  obtain ⟨handoff, hhandoff, hcompleted, hnone⟩ := h
  rcases hwrite.records id with hsame | ⟨data, r, ho, rfl, hrecords⟩
  · exact ⟨handoff, hsame.trans hhandoff, hcompleted, hnone⟩
  · cases hrecords with
    | refuse _ hafter => exact ⟨handoff, hafter.trans hhandoff, hcompleted, hnone⟩
    | freeze _ _ hbefore hunfrozen hclass =>
      rw [hhandoff, Option.some.injEq] at hbefore
      rw [← hbefore] at hclass hunfrozen
      have hfail := terminalFailed_of_contradiction hclass
        (hallows data ho handoff hhandoff hunfrozen).completed
      rw [hcompleted] at hfail
      cases hfail
    | keep _ _ _ _ hafter =>
      exact ⟨handoff, hafter.trans hhandoff, hcompleted, hnone⟩
    | write _ hbefore =>
      have hadvance := (hbefore handoff hhandoff).2
      rw [hcompleted] at hadvance
      exact absurd hadvance (not_advance_of_terminal rfl)

/-- A report that is accepted, and that is in order, is on record. -/
theorem Records.handedOver (h : Records data (s.handoff data.sweepBatchId) r
      (s'.handoff data.sweepBatchId)) (hr : ∃ handoff, r = .ok handoff)
    (hover : isHandedOff data.handoffStatus = true)
    (hallows : ∀ current, s.handoff data.sweepBatchId = some current → current.frozenAt = none →
      InOrder roles current data) : HandedOver s' data.sweepBatchId := by
  obtain ⟨handoff, rfl⟩ := hr
  cases h with
  | refuse hr => exact absurd rfl (hr handoff)
  | freeze _ _ _ _ _ hr =>
    exact absurd rfl (hr handoff)
  | keep current hbefore hunfrozen hclass hafter =>
    refine ⟨current, hafter.trans hbefore, ?_, hunfrozen⟩
    exact isHandedOff_of_stale hclass hover (hallows current hbefore hunfrozen).failed
  | write row _ hafter hstatus hunfrozen =>
    refine ⟨row, hafter, ?_, hunfrozen⟩
    rwa [hstatus]

theorem nothing_backed : nothing.Backed s where
  delivered := fun _ _ h => by cases h
  completed := fun _ h => by cases h

theorem Knowledge.Backed.congr {t' : Knowledge} (h : t.Backed s)
    (hdelivered : t'.delivered = t.delivered) (hcompleted : t'.completed = t.completed) :
    t'.Backed s := by
  constructor
  · rw [hdelivered]
    exact h.delivered
  · rw [hcompleted]
    exact h.completed

theorem Knowledge.Backed.of_write {p : ℕ} (h : (roles p).Backed s) (hwrite : Write s o s')
    (hallows : Allows roles s o) : (roles p).Backed s' := by
  refine ⟨fun id status hdelivered hover => ?_, fun id hid => ?_⟩
  · have hbefore := h.delivered id status hdelivered hover
    refine hbefore.of_write hwrite hallows ?_
    rintro data rfl rfl hfail
    obtain ⟨current, hcurrent, -, hunfrozen⟩ := hbefore
    have hawaited := (hallows data rfl current hcurrent hunfrozen).awaited hfail p status hdelivered
    rw [hover] at hawaited
    cases hawaited
  · exact (h.completed id hid).of_write hwrite hallows

theorem Knowledge.Backed.readHandoff (h : t.Backed s) (hfrozen : FrozenFailed s) {id : ℕ}
    {handoff : Option Handoff} (hread : handoff = s.handoff id) :
    (t.readHandoff id handoff).Backed s := by
  cases handoff with
  | none => exact h
  | some handoff =>
    refine ⟨h.delivered, fun id' hid => ?_⟩
    have hcases : id' ∈ if handoff.handoffStatus = .completed then id :: t.completed else
      t.completed := hid
    split_ifs at hcases with hcompleted
    · rcases List.mem_cons.mp hcases with rfl | hold
      · refine ⟨handoff, hread.symm, hcompleted, ?_⟩
        by_contra hne
        have hfail := hfrozen id' handoff hread.symm hne
        rw [hcompleted] at hfail
        cases hfail
      · exact h.completed id' hold
    · exact h.completed id' hcases

theorem Knowledge.Backed.of_answer (h : t.Backed s') (hfrozen : FrozenFailed s) {luck : Luck}
    {r : Except Thrown (Ans o)} (hallows : Allows roles s o)
    (hread : perform o luck s = (r, s')) : (t.next o r).Backed s' := by
  cases r with
  | error => exact h
  | ok a =>
    cases o with
    | getSweepBatch =>
      cases a with
      | none => exact h
      | some => exact h.congr rfl rfl
    | listSweepBatchEntries | listSweepBatches => exact h.congr rfl rfl
    | getLedgerEntryAccountingFacts =>
      cases a with
      | none => exact h.congr rfl rfl
      | some => exact h
    | getPartnerHandoffByBatchId =>
      unfold perform at hread
      have hok := Transaction.query_ok hread
      rw [Transaction.query_store hread] at h ⊢
      exact h.readHandoff hfrozen hok
    | upsertPartnerHandoff data =>
      refine ⟨fun id status hdelivered hover => ?_, h.completed⟩
      obtain ⟨rfl, rfl⟩ := Prod.mk.inj (Option.some.inj hdelivered)
      exact (delivers_of_perform hread).records.handedOver ⟨a, rfl⟩ hover (hallows data rfl)
    | getAccountingPeriodById =>
      cases a with
      | none => exact h
      | some => exact h.congr rfl rfl
    | _ => exact h

end Backed

/-! ### Every run -/

structure GatesKept (x : RoleConfig Database ℕ Knowledge) : Prop where
  frozen : FrozenFailed x.store
  backed : ∀ p, (x.roles p).Backed x.store

section Step

variable {s s' : Database} {o : Op} {t : Knowledge}

theorem providerGates_refl {l : Action} : ProviderGates ⟨s, l, s⟩ where
  handedOff := fun _ row hrow hstatus hold => absurd hstatus (hold row hrow)
  closed := fun _ row hrow hstatus hold => absurd hstatus (hold row hrow)
  realized := fun _ hrow hnew => absurd hrow hnew

/-- The transition that has brought a batch to `HANDED_OFF` or `CLOSED`. -/
theorem Write.moved_to (h : Write s o s') {id : ℕ} {row : Batch} (hrow : s'.batch id = some row)
    (hstatus : row.status = .handedOff ∨ row.status = .closed)
    (hold : ∀ old, s.batch id = some old → old.status ≠ row.status) :
    ∃ data, o = .updateSweepBatchStatus data ∧ data.batchId = id ∧ data.status = row.status := by
  cases h.batchOrigin hrow with
  | kept hkept => exact absurd rfl (hold row hkept)
  | opened hopens =>
    rw [hopens.isNew.status] at hstatus
    rcases hstatus with hstatus | hstatus <;> cases hstatus
  | @moved data _ ho _ hid hb =>
    refine ⟨data, ho, hid, ?_⟩
    rw [hb]
    rfl
  | @executed _ _ _ _ _ _ _ _ _ _ hb =>
    have hexecuted : row.status = .executed := by
      rw [hb]
      rfl
    rw [hexecuted] at hstatus
    rcases hstatus with hstatus | hstatus <;> cases hstatus

theorem Write.realizations (h : Write s o s') : s'.realizations = s.realizations ∨
    ∃ row, Realizes s row s' := by
  cases h with
  | realize h => exact Or.inr ⟨_, h⟩
  | openPeriod h | movePeriod h | openBatch h | allocate h | move h | execute _ h =>
    exact Or.inl (by rw [h.store])
  | claim h | deliver _ h => exact Or.inl (by rw [h.store_eq])
  | ingest | mark | orphan | evidence => exact Or.inl rfl

/-- A realization rests on a handoff that is completed. -/
theorem Realizes.not_frozen {row : Realization} (h : Realizes s row s') (hfrozen : FrozenFailed s)
    {a : Allocation} (ha : s.activeAllocation row.ledgerEntryId = some a) :
    ¬ Frozen s a.sweepBatchId := by
  obtain ⟨alloc, batch, handoff, halloc, hbatch, hhandoff, hcompleted⟩ := h.completed
  rw [ha, Option.some.injEq] at halloc
  rw [Database.batch_id hbatch, ← halloc] at hhandoff
  rintro ⟨handoff', hhandoff', hne⟩
  have hfail := hfrozen _ handoff' hhandoff' hne
  rw [hhandoff, Option.some.injEq] at hhandoff'
  rw [← hhandoff', hcompleted] at hfail
  cases hfail

theorem Write.providerGates (h : Write s o s') (hfrozen : FrozenFailed s) (hbacked : t.Backed s)
    (hallowed : knowledge.allowed t o) {l : Action} : ProviderGates ⟨s, l, s'⟩ := by
  refine ⟨fun id row hrow hstatus hold => ?_, fun id row hrow hstatus hold => ?_,
    fun row hrow hnew a ha => ?_⟩
  · rw [← hstatus] at hold
    obtain ⟨data, rfl, rfl, hdata⟩ := h.moved_to hrow (Or.inl hstatus) hold
    have hmay : t.MayMove data := hallowed
    unfold MayMove at hmay
    rw [hdata, hstatus] at hmay
    obtain ⟨-, status, hdelivered, hover⟩ := hmay
    exact hbacked.delivered _ status hdelivered hover
  · rw [← hstatus] at hold
    obtain ⟨data, rfl, rfl, hdata⟩ := h.moved_to hrow (Or.inr hstatus) hold
    have hmay : t.MayMove data := hallowed
    unfold MayMove at hmay
    rw [hdata, hstatus] at hmay
    exact (hbacked.completed _ hmay.2).not_frozen
  · rcases h.realizations with hsame | ⟨row', hrealizes⟩
    · rw [hsame] at hrow
      exact absurd hrow hnew
    · rw [hrealizes.store] at hrow
      rcases List.mem_append.mp hrow with hrow | hrow
      · exact absurd hrow hnew
      · rw [List.mem_singleton.mp hrow] at ha
        exact hrealizes.not_frozen hfrozen ha

end Step

theorem GatesKept.step {x x' : RoleConfig Database ℕ Knowledge} {l : Action}
    (hC : ReportsInOrder x.roles ⟨x.store, l, x'.store⟩) (h : GatesKept x)
    (hstep : KnownStep x l x') : GatesKept x' ∧ ProviderGates ⟨x.store, l, x'.store⟩ := by
  have hallows : ∀ p o r, l = .act p o r → Allows x.roles x.store o := by
    rintro p o r rfl data rfl
    exact hC _ rfl data rfl
  have hbacked : ∀ p, (x'.roles p).Backed x'.store := by
    refine forall_roles_of_knownStep (K := fun s t => t.Backed s) hstep nothing_backed h.backed
      ?_ ?_
    · intro p o r luck hl hallowed hperform q
      rcases write_of_perform hperform with hsame | hwrite
      · rw [hsame]
        exact h.backed q
      · exact (h.backed q).of_write hwrite (hallows p o r hl)
    · exact fun p o r luck hl hallowed hperform hkept =>
        hkept.of_answer h.frozen (hallows p o r hl) hperform
  have hidle : x'.store = x.store → GatesKept x' ∧ ProviderGates ⟨x.store, l, x'.store⟩ := by
    intro hsame
    refine ⟨⟨?_, hbacked⟩, ?_⟩
    · rw [hsame]
      exact h.frozen
    · rw [hsame]
      exact providerGates_refl
  cases knownCases hstep with
  | idle hstore => exact hidle hstore
  | act p o r _ hl hallowed hperform =>
    rcases write_of_perform hperform with hsame | hwrite
    · exact hidle hsame
    · exact ⟨⟨h.frozen.of_write hwrite (hallows p o r hl), hbacked⟩,
        hwrite.providerGates h.frozen (h.backed p) hallowed⟩

/-- If the reports of the provider are in order, then a batch is handed off only when its handoff is
on record as taken over and is not frozen, and while it is frozen no revenue of the batch is
realized and the batch is not closed. -/
theorem provider_gates_batch {tr : List (Transition State Action)} {c : State}
    (hrun : Run (Step world) initial tr c)
    (horder : Meets knowledge.next .nothing ReportsInOrder (tr.map view)) :
    ∀ e ∈ tr.map view, ProviderGates e := by
  have h0 : GatesKept ⟨initial.store, fun _ => .nothing⟩ := by
    refine ⟨?_, fun _ => nothing_backed⟩
    intro id handoff hhandoff
    cases hhandoff
  exact (Run.tracked (A := fun _ => True) truthful (fun q _ => follows q)
    (fun _ _ _ _ _ => trivial) initial_quiet h0
    (fun _ _ _ hC h hstep => GatesKept.step hC h hstep) hrun horder).2

section Sample

open Sample

def reports (status : ProviderHandoffStatus) : List (Choice ℕ Luck Request) :=
  serve (.recordPartnerHandoff (delivery status) (Text.lit "courier")) (sees 5)

/-- The bank confirms the payout of entry `1`, its revenue is realized, and its batch is closed. -/
def realizedAndClosed : List (Choice ℕ Luck Request) :=
  serve (.writeEvidence [] [⟨1, 1, .confirmed, 10⟩]) (adds 1) ++
  serve (.createEntryRealization 1 ⟨1, some 1, none⟩ (Text.lit "accountant"))
    { sees 5 with trades := .ok [⟨(entry 1 5).tradeId, .clear, none, some 3⟩] } ++
  serve (.closeSweepBatch 1 (Text.lit "closer") none) (sees 5)

/-- Nobody has reported a failure. -/
def WithoutFailure (e : Event) : Prop :=
  ∀ q ∈ asked e, ∀ data ∈ q.2.delivers,
    resolveProviderHandoffAuthority data.handoffStatus ≠ .terminalFailed ∧
      ∀ current ∈ e.source.handoff data.sweepBatchId,
        resolveProviderHandoffAuthority current.handoffStatus ≠ .terminalFailed

instance (e : Event) : Decidable (WithoutFailure e) :=
  inferInstanceAs (Decidable (∀ q ∈ asked e, ∀ data ∈ q.2.delivers, _))

theorem WithoutFailure.reportsInOrder {e : Event} (h : WithoutFailure e) (roles : ℕ → Knowledge) :
    ReportsInOrder roles e := by
  intro q hq data hdata current hcurrent _
  obtain ⟨hreported, hrecorded⟩ := h q hq data hdata
  exact ⟨fun _ => hreported, fun hfail => absurd hfail (hrecorded current hcurrent),
    fun hfail => absurd hfail hreported⟩

theorem provider_gates_batch_sample : ∃ tr c, Run (Step world) initial tr c ∧
    Meets knowledge.next .nothing ReportsInOrder (tr.map view) ∧
    (c.store.batch 1).map Batch.status = some .closed ∧ c.store.realizations.length = 1 ∧
    ∀ e ∈ tr.map view, ProviderGates e := by
  obtain ⟨tr, c, hrun, hreports, hclosed, hrealized⟩ := exists_run_of_simulate (W := world)
    (c := initial) (executed ++ reports .submitted ++ reports .completed ++ realizedAndClosed)
    (P := fun events c => (∀ e ∈ events, WithoutFailure e) ∧
      (c.store.batch 1).map Batch.status = some .closed ∧ c.store.realizations.length = 1)
    (by decide +kernel)
  have horder : Meets knowledge.next .nothing ReportsInOrder (tr.map view) := fun i e hi =>
    (hreports e (List.mem_of_getElem? hi)).reportsInOrder _
  exact ⟨tr, c, hrun, horder, hclosed, hrealized, provider_gates_batch hrun horder⟩

/-- A step moves batch `1` from one status to another. -/
def movesFirst (e : Event) (old new : SweepBatchStatus) : Bool :=
  (e.source.batch 1).any (fun b => b.status = old) &&
    (e.target.batch 1).any fun b => b.status = new

theorem of_movesFirst {e : Event} {old new : SweepBatchStatus} (h : movesFirst e old new = true) :
    ∃ b b', e.source.batch 1 = some b ∧ e.target.batch 1 = some b' ∧ b.status = old ∧
      b'.status = new := by
  obtain ⟨hold, hnew⟩ := Bool.and_eq_true_iff.mp h
  obtain ⟨b, hb, hstatus⟩ := (Option.any_eq_true _ _).mp hold
  obtain ⟨b', hb', hstatus'⟩ := (Option.any_eq_true _ _).mp hnew
  exact ⟨b, b', hb, hb', of_decide_eq_true hstatus, of_decide_eq_true hstatus'⟩

def frozenFirst (s : Database) : Bool := (s.handoff 1).any fun h => h.frozenAt.isSome

theorem frozen_of_frozenFirst {s : Database} (h : frozenFirst s = true) : Frozen s 1 := by
  obtain ⟨handoff, hhandoff, hfrozen⟩ := (Option.any_eq_true _ _).mp h
  refine ⟨handoff, hhandoff, fun hnone => ?_⟩
  rw [hnone] at hfrozen
  cases hfrozen

/-- A batch is handed off although its handoff has failed; and the revenue of a batch is realized
and the batch is closed while its handoff is frozen. -/
theorem batch_passes_gate :
    (∃ tr c e, Run (Step world) initial tr c ∧ e ∈ tr.map view ∧
      movesFirst e .executed .handedOff = true ∧
      (e.source.handoff 1).map Handoff.handoffStatus = some .failed ∧ ¬ ProviderGates e) ∧
    ∃ tr c e e', Run (Step world) initial tr c ∧ e ∈ tr.map view ∧ e' ∈ tr.map view ∧
      frozenFirst e.source = true ∧ e.source.realizations = [] ∧
      e.target.realizations.map Realization.sweepBatchId = [some 1] ∧ ¬ ProviderGates e ∧
      frozenFirst e'.source = true ∧ movesFirst e' .handedOff .closed = true ∧
      ¬ ProviderGates e' := by
  constructor
  · obtain ⟨tr, c, hrun, e, he, hmoves, hfailed⟩ := exists_run_of_simulate (W := world)
      (c := initial) (executed ++ reports .failed ++ reports .submitted)
      (P := fun events _ => ∃ e ∈ events, movesFirst e .executed .handedOff = true ∧
        (e.source.handoff 1).map Handoff.handoffStatus = some .failed) (by decide +kernel)
    refine ⟨tr, c, e, hrun, he, hmoves, hfailed, fun h => ?_⟩
    obtain ⟨old, row, hold, hrow, holdStatus, hstatus⟩ := of_movesFirst hmoves
    obtain ⟨handoff, hhandoff, hover, -⟩ := h.handedOff 1 row hrow hstatus (by
      intro old' hold'
      rw [hold, Option.some.injEq] at hold'
      rw [← hold', holdStatus]
      decide)
    rw [hhandoff, Option.map_some, Option.some.injEq] at hfailed
    rw [hfailed] at hover
    cases hover
  · obtain ⟨tr, c, hrun, ⟨e, he, hfrozen₁, hnone, hone, hall⟩, e', he', hfrozen₂, hmoves⟩ :=
      exists_run_of_simulate (W := world) (c := initial) (executed ++ reports .submitted ++
        reports .completed ++ reports .failed ++ realizedAndClosed)
        (P := fun events _ => (∃ e ∈ events, frozenFirst e.source = true ∧
            e.source.realizations = [] ∧
            e.target.realizations.map Realization.sweepBatchId = [some 1] ∧
            ∀ row ∈ e.target.realizations,
              ∃ a ∈ e.source.activeAllocation row.ledgerEntryId, a.sweepBatchId = 1) ∧
          ∃ e ∈ events, frozenFirst e.source = true ∧ movesFirst e .handedOff .closed = true)
        (by decide +kernel)
    refine ⟨tr, c, e, e', hrun, he, he', hfrozen₁, hnone, hone, fun h => ?_, hfrozen₂, hmoves,
      fun h => ?_⟩
    · obtain ⟨row, hrow⟩ : ∃ row, row ∈ e.target.realizations := by
        refine List.exists_mem_of_ne_nil _ fun hnil => ?_
        rw [hnil] at hone
        cases hone
      obtain ⟨a, ha, hbatch⟩ := hall row hrow
      have hnew : row ∉ e.source.realizations := by
        rw [hnone]
        exact List.not_mem_nil
      have hopen := h.realized row hrow hnew a ha
      rw [hbatch] at hopen
      exact hopen (frozen_of_frozenFirst hfrozen₁)
    · obtain ⟨old, row, hold, hrow, holdStatus, hstatus⟩ := of_movesFirst hmoves
      refine h.closed 1 row hrow hstatus ?_ (frozen_of_frozenFirst hfrozen₂)
      intro old' hold'
      rw [hold, Option.some.injEq] at hold'
      rw [← hold', holdStatus]
      decide

end Sample

end Cotsel.Treasury.Sweep
