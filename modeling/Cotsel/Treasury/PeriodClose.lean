import Cotsel.Treasury.SweepKnowledge

/-!
# A closed period is closed

The close of a period asks first for a packet, which reads the period, lists its batches page by
page and reads each of them, and is ready if all of them are `CLOSED` or `VOID`.  No lock is held
meanwhile.  From `PENDING_CLOSE` on no batch is added to the period, so a packet that was begun then
is still right when the close commits (`closed_periods_stay_closed`).  But the packet does not look
at the status of the period: one that is begun while the period is still open does not cover the
batches that are created before somebody requests the close (`open_batch_in_closed_period`).
-/

namespace Cotsel.Treasury.Sweep

open Interaction Runs Knowledge

def Database.batchesOf (s : Database) (periodId : ℕ) : List Batch :=
  s.batches.filter fun b => b.accountingPeriodId = periodId

/-! ### What is to hold -/

/-- The batches of the closed periods are all `CLOSED` or `VOID`. -/
def ClosedSettled (s : Database) : Prop :=
  ∀ id period, s.period id = some period → period.status = .closed →
    ∀ b ∈ s.batchesOf id, isSettled b.status = true

/-- A period that is closed stays closed, and gets no batch and no allocation. -/
structure LeavesClosed (e : Event) (id : ℕ) : Prop where
  status : ∃ period, e.target.period id = some period ∧ period.status = .closed
  batches : ∀ b ∈ e.target.batchesOf id, b.id ∈ (e.source.batchesOf id).map Batch.id
  allocations : ∀ a ∈ e.target.allocations, a ∉ e.source.allocations →
    ∀ batch, e.source.batch a.sweepBatchId = some batch → batch.accountingPeriodId ≠ id

def ClosedForGood (e : Event) : Prop :=
  ∀ id period, e.source.period id = some period → period.status = .closed → LeavesClosed e id

def Op.closesPeriod : Op → Option ℕ
  | .updateAccountingPeriodStatus data => if data.status = .closed then some data.periodId else none
  | _ => none

/-- Who closes a period has begun to read it when it was not open any more. -/
def ReadsPending (roles : ℕ → Knowledge) (e : Event) : Prop :=
  ∀ q ∈ asked e, ∀ _id ∈ q.2.closesPeriod, ∀ period ∈ (roles q.1).period, period.status ≠ .opened

instance (roles : ℕ → Knowledge) (e : Event) : Decidable (ReadsPending roles e) :=
  inferInstanceAs (Decidable (∀ q ∈ asked e, ∀ _id ∈ q.2.closesPeriod, _))

/-! ### The batches of a period that is not open -/

section Batches

variable {s s' : Database} {o : Op} {id : ℕ} {period : Period}

/-- A transition of a batch leaves the list of batches in place. -/
theorem map_id_batchesOf_of_moves {data : StatusUpdate} {existing : Batch} (hs : Sound s)
    (h : Moves data s existing s') :
    (s'.batchesOf id).map Batch.id = (s.batchesOf id).map Batch.id := by
  have hsame : ∀ b ∈ s.batches, b.id = (data.row existing).id → b = existing := fun b hb hid =>
    hs.batches.eq_of_key hb (Table.lookup_eq_some_mem h.found).1 hid
  unfold Database.batchesOf
  rw [h.store]
  unfold Table.replace
  rw [List.filter_map, List.map_map]
  have hfilter : s.batches.filter ((fun b => decide (b.accountingPeriodId = id)) ∘ fun r' =>
      if batchTable.key r' = batchTable.key (data.row existing) then data.row existing else r') =
      s.batches.filter fun b => decide (b.accountingPeriodId = id) := by
    refine List.filter_congr fun b hb => ?_
    show decide (Batch.accountingPeriodId (if _ then _ else _) = id) = _
    split_ifs with hid
    · rw [hsame b hb hid]
      rfl
    · rfl
  rw [hfilter]
  refine List.map_congr_left fun b hb => ?_
  show Batch.id (if _ then _ else _) = b.id
  split_ifs with hid
  · exact hid.symm
  · rfl

/-- A period that is not open gets no batch. -/
theorem Write.map_id_batchesOf (h : Write s o s') (hs : Sound s)
    (hperiod : s.period id = some period) (hopen : period.status ≠ .opened) :
    (s'.batchesOf id).map Batch.id = (s.batchesOf id).map Batch.id := by
  cases h.batchEffect with
  | same hsame =>
    unfold Database.batchesOf
    rw [hsame]
  | @opens _ row _ hopens =>
    obtain ⟨period', hperiod', hopen'⟩ := hopens.period
    have hne : row.accountingPeriodId ≠ id := by
      rintro rfl
      rw [hperiod, Option.some.injEq] at hperiod'
      rw [hperiod'] at hopen
      exact hopen hopen'
    unfold Database.batchesOf
    rw [hopens.store, List.filter_append, List.filter_cons_of_neg (by simpa using hne),
      List.filter_nil, List.append_nil]
  | moves _ hmoves => exact map_id_batchesOf_of_moves hs hmoves

/-- A period that is not open gets no allocation. -/
theorem Write.not_allocates (h : Write s o s') (hperiod : s.period id = some period)
    (hopen : period.status ≠ .opened) {a : Allocation} (ha : a ∈ s'.allocations)
    (hnew : a ∉ s.allocations) {batch : Batch} (hbatch : s.batch a.sweepBatchId = some batch) :
    batch.accountingPeriodId ≠ id := by
  rintro rfl
  rcases h.allocations with hsame | ⟨row, hallocates⟩
  · rw [hsame] at ha
    exact hnew ha
  · rw [hallocates.store] at ha
    rcases List.mem_append.mp ha with ha | ha
    · exact hnew ha
    · rw [List.mem_singleton.mp ha] at hbatch
      obtain ⟨draft, period', hdraft, -, hperiod', hopened⟩ := hallocates.draft
      rw [hbatch, Option.some.injEq] at hdraft
      rw [← hdraft, hperiod, Option.some.injEq] at hperiod'
      rw [hperiod'] at hopen
      exact hopen hopened

theorem Write.settled (h : Write s o s') (hs : Sound s) (hs' : Sound s')
    (hids : (s'.batchesOf id).map Batch.id = (s.batchesOf id).map Batch.id)
    (hsettled : ∀ b ∈ s.batchesOf id, isSettled b.status = true) :
    ∀ b ∈ s'.batchesOf id, isSettled b.status = true := by
  intro b hb
  have hmem : b.id ∈ (s.batchesOf id).map Batch.id := by
    rw [← hids]
    exact List.mem_map_of_mem hb
  obtain ⟨old, hold, hid⟩ := List.mem_map.mp hmem
  have hfound : s.batch b.id = some old :=
    hs.batches.lookup_eq_some.mpr ⟨(List.mem_filter.mp hold).1, hid⟩
  obtain ⟨row, hrow, hsucc⟩ := h.batch_succeeds hfound
  have hrow' : s'.batch b.id = some b :=
    hs'.batches.lookup_eq_some.mpr ⟨(List.mem_filter.mp hb).1, rfl⟩
  rw [hrow, Option.some.injEq] at hrow'
  rw [← hrow']
  exact hsucc.isSettled (hsettled old hold)

/-- Nobody opens a period again, so one that is not open stays so. -/
theorem Write.period_not_open (h : Write s o s') (hperiod : s.period id = some period)
    (hopen : period.status ≠ .opened)
    (hreopen : ∀ data, o = .updateAccountingPeriodStatus data → data.status ≠ .opened) :
    ∃ period', s'.period id = some period' ∧ period'.status ≠ .opened := by
  obtain ⟨period', hperiod', rfl | ⟨data, ho, -, hstatus, -⟩⟩ := h.period_succeeds hperiod
  · exact ⟨period', hperiod', hopen⟩
  · refine ⟨period', hperiod', ?_⟩
    rw [hstatus]
    exact hreopen data ho

end Batches

/-! ### What the packet covers -/

/-- The ids of the batches of a period, in the order of the pages. -/
def Database.pageIds (s : Database) (periodId : ℕ) : List ℕ :=
  ((s.batchesOf periodId).map Batch.id).reverse

/-- The pages that were read of a period that was not open. -/
def Knowledge.Covers (t : Knowledge) (s : Database) : Prop :=
  ∀ period, t.period = some period → period.status ≠ .opened →
    (∃ row, s.period period.id = some row ∧ row.status ≠ .opened) ∧
    t.listed.map Batch.id = (s.pageIds period.id).take t.listed.length ∧
    (t.covered = true → (s.pageIds period.id).length ≤ t.listed.length)

section Covers

variable {t : Knowledge} {s s' : Database} {o : Op}

theorem nothing_covers : nothing.Covers s := fun _ h => by cases h

theorem Knowledge.Covers.of_write (h : t.Covers s) (hs : Sound s) (hwrite : Write s o s')
    (hreopen : ∀ data, o = .updateAccountingPeriodStatus data → data.status ≠ .opened) :
    t.Covers s' := by
  intro period hperiod hopen
  obtain ⟨⟨row, hrow, hrowOpen⟩, hlisted, hcovered⟩ := h period hperiod hopen
  have hids : s'.pageIds period.id = s.pageIds period.id := by
    unfold Database.pageIds
    rw [hwrite.map_id_batchesOf hs hrow hrowOpen]
  rw [hids]
  exact ⟨hwrite.period_not_open hrow hrowOpen hreopen, hlisted, hcovered⟩

theorem Knowledge.Covers.congr {t' : Knowledge} (h : t.Covers s) (hperiod : t'.period = t.period)
    (hlisted : t'.listed = t.listed) (hcovered : t'.covered = t.covered) : t'.Covers s := by
  unfold Covers
  rw [hperiod, hlisted, hcovered]
  exact h

theorem Knowledge.Covers.readPeriod (h : t.Covers s) {id : ℕ} {period : Option Period}
    (hread : period = s.period id) : (t.readPeriod period).Covers s := by
  cases period with
  | none => exact h
  | some period =>
    intro p hp hopen
    cases hp
    refine ⟨⟨period, ?_, hopen⟩, rfl, nofun⟩
    rw [Database.period_id hread.symm, ← hread]

/-- Each page goes on where the last one has ended. -/
theorem Knowledge.Covers.list (h : t.Covers s) {periodId limit offset : ℕ}
    (hmay : t.MayList periodId limit offset) :
    (t.list limit (s.batchPage periodId limit offset)).Covers s := by
  intro period hperiod hopen
  obtain ⟨⟨p, hp, rfl⟩, rfl, -⟩ := hmay
  have hsame : p = period := Option.some.inj (hp.symm.trans hperiod)
  subst hsame
  obtain ⟨hrow, hlisted, -⟩ := h p hp hopen
  have hpage : (s.batchPage p.id limit t.listed.length).map Batch.id =
      ((s.pageIds p.id).drop t.listed.length).take limit := by
    unfold Database.batchPage Database.pageIds Database.batchesOf
    rw [List.map_take, List.map_drop, List.map_reverse]
  have hlength := congrArg List.length hpage
  rw [List.length_map, List.length_take, List.length_drop] at hlength
  refine ⟨hrow, ?_, fun hlast => ?_⟩
  · show (t.listed ++ _).map Batch.id = (s.pageIds p.id).take (t.listed ++ _).length
    rw [List.map_append, List.length_append, hlisted, hpage, List.take_add, hlength]
    congr 1
    rw [← List.length_drop, List.take_eq_take_min, Nat.min_comm]
  · have hshort : (s.batchPage p.id limit t.listed.length).length < limit := of_decide_eq_true hlast
    show _ ≤ (t.listed ++ _).length
    rw [List.length_append]
    omega

theorem Knowledge.Covers.of_answer (h : t.Covers s') {luck : Luck} {r : Except Thrown (Ans o)}
    (hallowed : knowledge.allowed t o) (hread : perform o luck s = (r, s')) :
    (t.next o r).Covers s' := by
  cases r with
  | error => exact h
  | ok a =>
    cases o with
    | getSweepBatch =>
      cases a with
      | none => exact h
      | some => exact h.congr rfl rfl rfl
    | listSweepBatchEntries | upsertPartnerHandoff => exact h.congr rfl rfl rfl
    | getLedgerEntryAccountingFacts =>
      cases a with
      | none => exact h.congr rfl rfl rfl
      | some => exact h
    | getPartnerHandoffByBatchId =>
      cases a with
      | none => exact h
      | some => exact h.congr rfl rfl rfl
    | getAccountingPeriodById =>
      unfold perform at hread
      have hok := Transaction.query_ok hread
      rw [Transaction.query_store hread] at h ⊢
      exact h.readPeriod hok
    | listSweepBatches =>
      unfold perform at hread
      have hok := Transaction.query_ok hread
      rw [Transaction.query_store hread] at h ⊢
      rw [hok]
      exact h.list hallowed
    | _ => exact h

end Covers

/-! ### Every run -/

structure PeriodsKept (x : RoleConfig Database ℕ Knowledge) : Prop where
  sound : Sound x.store
  holds : ∀ p, (x.roles p).Holds x.store
  covers : ∀ p, (x.roles p).Covers x.store
  closed : ClosedSettled x.store

section Step

variable {s s' : Database} {o : Op}

theorem leavesClosed_refl {l : Action} : ClosedForGood ⟨s, l, s⟩ := by
  intro id period hperiod hclosed
  refine ⟨⟨period, hperiod, hclosed⟩, ?_, ?_⟩
  · exact fun b hb => List.mem_map_of_mem hb
  · exact fun a ha hnew => absurd ha hnew

theorem Write.closedForGood (h : Write s o s') (hs : Sound s) {l : Action} :
    ClosedForGood ⟨s, l, s'⟩ := by
  intro id period hperiod hclosed
  have hopen : period.status ≠ .opened := by
    rw [hclosed]
    decide
  refine ⟨?_, fun b hb => ?_, fun a ha hnew batch hbatch => ?_⟩
  · obtain ⟨period', hperiod', rfl | ⟨data, -, -, -, htransition⟩⟩ := h.period_succeeds hperiod
    · exact ⟨period', hperiod', hclosed⟩
    · rw [hclosed] at htransition
      cases htransition
  · rw [← h.map_id_batchesOf hs hperiod hopen]
    exact List.mem_map_of_mem hb
  · exact h.not_allocates hperiod hopen ha hnew hbatch

/-- A request that knows enough closes a period whose batches are all settled. -/
theorem settled_of_covers {t : Knowledge} (hholds : t.Holds s) (hcovers : t.Covers s)
    (hs : Sound s) {period : Period} (hperiod : t.period = some period)
    (hopen : period.status ≠ .opened) (hcovered : t.covered = true)
    (hsettled : ∀ b ∈ t.listed, b.id ∈ t.settled) :
    ∀ b ∈ s.batchesOf period.id, isSettled b.status = true := by
  intro b hb
  obtain ⟨-, hlisted, hall⟩ := hcovers period hperiod hopen
  rw [List.take_of_length_le (hall hcovered)] at hlisted
  have hmem : b.id ∈ t.listed.map Batch.id := by
    rw [hlisted, Database.pageIds, List.mem_reverse]
    exact List.mem_map_of_mem hb
  obtain ⟨b', hb', hid⟩ := List.mem_map.mp hmem
  obtain ⟨row, hrow, hrowSettled⟩ := hholds.settled b'.id (hsettled b' hb')
  have hfound : s.batch b'.id = some b :=
    hs.batches.lookup_eq_some.mpr ⟨(List.mem_filter.mp hb).1, hid.symm⟩
  rw [hrow, Option.some.injEq] at hfound
  rwa [← hfound]

theorem ClosedSettled.of_write (h : ClosedSettled s) (hs : Sound s) (hwrite : Write s o s')
    (hclose : ∀ data, o = .updateAccountingPeriodStatus data → data.status = .closed →
      ∀ b ∈ s.batchesOf data.periodId, isSettled b.status = true) : ClosedSettled s' := by
  intro id period' hperiod' hclosed'
  cases hperiod : s.period id with
  | none =>
    -- a period that is new is open
    cases hwrite.periodEffect with
    | same hsame =>
      unfold Database.period at hperiod' hperiod
      rw [hsame, hperiod] at hperiod'
      cases hperiod'
    | @opens _ hopens =>
      rw [hopens.store] at hperiod'
      unfold Database.period at hperiod' hperiod
      rw [Table.lookup_append, hperiod, Option.none_or] at hperiod'
      split_ifs at hperiod' with hid
      cases hperiod'
      rw [hopens.status] at hclosed'
      cases hclosed'
    | @moves data _ row _ hmoves =>
      have hid : row.id = data.periodId := hmoves.id.trans (Database.period_id hmoves.found)
      rcases eq_or_ne data.periodId id with rfl | hne
      · rw [hmoves.found] at hperiod
        cases hperiod
      · rw [← hid] at hne
        rw [hmoves.store] at hperiod'
        unfold Database.period at hperiod' hperiod
        rw [Table.lookup_replace_of_ne hne, hperiod] at hperiod'
        cases hperiod'
  | some period =>
    have hsettle : period.status ≠ .opened →
        (∀ b ∈ s.batchesOf id, isSettled b.status = true) →
        ∀ b ∈ s'.batchesOf id, isSettled b.status = true := fun hopen =>
      hwrite.settled hs (hwrite.sound hs) (hwrite.map_id_batchesOf hs hperiod hopen)
    obtain ⟨row, hrow, hcases⟩ := hwrite.period_succeeds hperiod
    rw [hperiod', Option.some.injEq] at hrow
    subst hrow
    rcases hcases with rfl | ⟨data, ho, rfl, hstatus, htransition⟩
    · exact hsettle (by rw [hclosed']; decide) (h id period' hperiod hclosed')
    · rw [hclosed'] at hstatus
      refine hsettle ?_ (hclose data ho hstatus.symm)
      intro hopen
      rw [hopen, ← hstatus] at htransition
      revert htransition
      decide

end Step

/-- Nobody knows enough to open a period again. -/
theorem not_reopens {t : Knowledge} {o : Op} (hallowed : knowledge.allowed t o) :
    ∀ data, o = .updateAccountingPeriodStatus data → data.status ≠ .opened := by
  rintro data rfl hopened
  have hmay : t.MayMovePeriod data := hallowed
  unfold MayMovePeriod at hmay
  rw [hopened] at hmay
  exact hmay

theorem covers_of_knownStep {x x' : RoleConfig Database ℕ Knowledge} {l : Action}
    (hstep : KnownStep x l x') (hs : Sound x.store) (h : ∀ p, (x.roles p).Covers x.store) :
    ∀ p, (x'.roles p).Covers x'.store := by
  refine forall_roles_of_knownStep (K := fun s t => t.Covers s) hstep nothing_covers h ?_ ?_
  · intro p o r luck hl hallowed hperform q
    rcases write_of_perform hperform with hsame | hwrite
    · rw [hsame]
      exact h q
    · exact (h q).of_write hs hwrite (not_reopens hallowed)
  · exact fun p o r luck hl hallowed hperform hkept => hkept.of_answer hallowed hperform

theorem PeriodsKept.step {x x' : RoleConfig Database ℕ Knowledge} {l : Action}
    (hC : ReadsPending x.roles ⟨x.store, l, x'.store⟩) (h : PeriodsKept x)
    (hstep : KnownStep x l x') : PeriodsKept x' ∧ ClosedForGood ⟨x.store, l, x'.store⟩ := by
  obtain ⟨hsound, hholds⟩ := holds_of_knownStep hstep h.sound h.holds
  have hcovers := covers_of_knownStep hstep h.sound h.covers
  have hidle : x'.store = x.store → PeriodsKept x' ∧ ClosedForGood ⟨x.store, l, x'.store⟩ := by
    intro hsame
    rw [hsame]
    refine ⟨⟨hsound, hholds, hcovers, ?_⟩, leavesClosed_refl⟩
    rw [hsame]
    exact h.closed
  cases knownCases hstep with
  | idle hstore => exact hidle hstore
  | act p _ _ _ hl hallowed hperform =>
    rcases write_of_perform hperform with hsame | hwrite
    · exact hidle hsame
    · refine ⟨⟨hsound, hholds, hcovers, h.closed.of_write h.sound hwrite ?_⟩,
        hwrite.closedForGood h.sound⟩
      rintro data rfl hclosed
      have hmay : (x.roles p).MayMovePeriod data := hallowed
      unfold MayMovePeriod at hmay
      rw [hclosed] at hmay
      obtain ⟨⟨period, hperiod, hid⟩, hcovered, hsettled⟩ := hmay
      subst hl
      have hopen := hC _ rfl data.periodId (if_pos hclosed) period hperiod
      rw [← hid]
      exact settled_of_covers (h.holds p) (h.covers p) h.sound hperiod hopen hcovered hsettled

/-- If every close of a period rests on a packet that was begun when the period was not open any
more, then the batches of the closed periods are all closed or void, and a closed period stays
closed and gets no batch and no allocation. -/
theorem closed_periods_stay_closed {tr : List (Transition State Action)} {c : State}
    (hrun : Run (Step world) initial tr c)
    (hpending : Meets knowledge.next .nothing ReadsPending (tr.map view)) :
    ClosedSettled c.store ∧ ∀ e ∈ tr.map view, ClosedForGood e := by
  have h0 : PeriodsKept ⟨initial.store, fun _ => .nothing⟩ := by
    refine ⟨sound_empty, fun _ => nothing_holds, fun _ => nothing_covers, ?_⟩
    intro id period hperiod
    cases hperiod
  obtain ⟨hend, hgood⟩ := Run.tracked (A := fun _ => True) truthful (fun q _ => follows q)
    (fun _ _ _ _ _ => trivial) initial_quiet h0
    (fun _ _ _ hC h hstep => PeriodsKept.step hC h hstep) hrun hpending
  exact ⟨hend.closed, hgood⟩

section Sample

open Sample

/-- The period is closed by two people, after its only batch is void. -/
def closedPeriod : List (Choice ℕ Luck Request) :=
  openPeriod ++ draft 1 5 ++ serve (.voidBatch 1 (Text.lit "maker")) (adds 1) ++
  serve (.requestAccountingPeriodClose 1 (Text.lit "accountant")) (adds 1) ++
  serve (.closeAccountingPeriod 1 (Text.lit "auditor") 1) { trades := .ok [] }

theorem closed_periods_stay_closed_sample : ∃ tr c, Run (Step world) initial tr c ∧
    Meets knowledge.next .nothing ReadsPending (tr.map view) ∧
    (c.store.period 1).map Period.status = some .closed ∧
    ClosedSettled c.store ∧ ∀ e ∈ tr.map view, ClosedForGood e := by
  obtain ⟨tr, c, hrun, hreads, hclosed⟩ := exists_run_of_simulate (W := world) (c := initial)
    closedPeriod (P := fun events c => Meets knowledge.next .nothing ReadsPending events ∧
      (c.store.period 1).map Period.status = some .closed) (by decide +kernel)
  exact ⟨tr, c, hrun, hreads, hclosed, closed_periods_stay_closed hrun hreads⟩

/-- The packet is read while the period is open and empty; then a batch is created and the close
requested, and the close commits. -/
def closedTooLate : List (Choice ℕ Luck Request) :=
  openPeriod ++
  [.call 1 (.closeAccountingPeriod 1 (Text.lit "auditor") 1), .acts 1 (adds 1) 3] ++
  draft 1 5 ++ serve (.requestAccountingPeriodClose 1 (Text.lit "accountant")) (adds 1) ++
  [.acts 1 (adds 1) 1, .done 1]

theorem open_batch_in_closed_period : ∃ tr c, Run (Step world) initial tr c ∧
    (c.store.period 1).map Period.status = some .closed ∧
    (c.store.batch 1).map Batch.status = some .draft ∧ ¬ ClosedSettled c.store := by
  obtain ⟨tr, c, hrun, hclosed, hdraft, b, hb, hstatus⟩ := exists_end_of_simulate (W := world)
    (c := initial) closedTooLate
    (P := fun c => (c.store.period 1).map Period.status = some .closed ∧
      (c.store.batch 1).map Batch.status = some .draft ∧
      ∃ b ∈ c.store.batchesOf 1, b.status = .draft) (by decide +kernel)
  refine ⟨tr, c, hrun, hclosed, hdraft, fun h => ?_⟩
  obtain ⟨period, hperiod, hperiodClosed⟩ := Option.map_eq_some_iff.mp hclosed
  have hsettled := h 1 period hperiod hperiodClosed b hb
  rw [hstatus] at hsettled
  cases hsettled

end Sample

end Cotsel.Treasury.Sweep
