import Cotsel.Gateway.OutcomeProjection
import Cotsel.Gateway.CreateTradeFailure

/-!
# Losing canonicality

A transaction that was final may turn out to be in a block that is no longer canonical.  The
reconciler then marks the row (`markOrphaned`), records a `chain_evidence_orphaned` event with
reconciliation status `drift`, and marks the projection.

The callback of an event with status `drift` has to carry observed amounts, unless the handoff is a
gasless sponsorship.  The event of the reconciler has none, so for every other handoff its
transaction is rolled back, after the row was marked (`orphan_not_projected`).  When a pass projects
the loss is said by `orphan_projected`.
-/

namespace Cotsel.Gateway.Gasless

open Interaction Settlement Runs

variable {d : Deployment} {p : ℕ} {s : Store} {r : Outcome} {h : Handoff}

/-- The database works, and the recorded block is found orphaned. -/
def FindsOrphaned : (o : Op) → Luck → Prop
  | .revalidateBlock number hash, luck =>
    luck.fate = .works ∧ luck.reply (.revalidateBlock number hash) = .ok .orphaned
  | _, luck => luck.fate = .works

theorem works_findsOrphaned : Works FindsOrphaned := by
  intro o luck hluck
  cases o with
  | revalidateBlock => exact hluck.1
  | _ => exact hluck

/-- The row was marked before, or it is final in a recorded block. -/
def FoundOrphaned (r : Outcome) : Prop :=
  r.failureCode = some finalizedBlockOrphaned ∨
    r.isTerminal = true ∧ r.blockNumber.isSome = true ∧ r.blockHash.isSome = true

/-- The loss is known on both sides by an event that was not there before, with a callback on its
way. -/
structure OrphanProjected (before : State) (r : Outcome) (h : Handoff) (s : Store) : Prop where
  event : ∃ e delivery, s.settlement.events = before.events ++ [e] ∧
    s.settlement.deliveries = before.deliveries ++ [delivery] ∧
    e.handoffId = h.handoffId ∧ e.eventType = .chainEvidenceOrphaned ∧
    delivery.eventId = e.eventId ∧ delivery.handoffId = h.handoffId ∧ delivery.stage = .pending ∧
    ∃ h' ∈ s.settlement.handoffs, h'.handoffId = h.handoffId ∧
      h'.executionStatus = .confirmationPending ∧ h'.latestEventId = some e.eventId
  row : ∃ r' ∈ s.outcomes, r'.identity = r.identity ∧
    r'.outcomeStatus = .confirmationPending ∧ r'.failureCode = some finalizedBlockOrphaned ∧
    r'.projectedOutcomeStatus = some .confirmationPending

/-- The handoff is not final any more. -/
def Withdrawn (h : Handoff) (s : Store) : Prop :=
  ∀ h' ∈ s.settlement.handoffs, h'.handoffId = h.handoffId →
    h'.executionStatus = .confirmationPending

/-- The event of the loss is new, and its callback needs no amounts. -/
structure Reportable (d : Deployment) (s : Store) (r : Outcome) (h : Handoff) : Prop where
  gasless : gaslessSponsorshipHandoffPrefix.isPrefixOf h.terms.platformHandoffId = true
  fresh : s.Fresh d (orphanedEvent r h.handoffId)

section Final

variable (hpair : Pair s r h)
  (hstatus : h.executionStatus = .confirmed ∨ h.executionStatus = .reverted)

include hpair hstatus

/-- As long as the settlement tables are not touched, the handoff is final. -/
theorem Pair.not_projected {s' : Store} (hsame : s'.settlement = s.settlement) :
    ¬ OrphanProjected s.settlement r h s' ∧ ¬ Withdrawn h s' := by
  refine ⟨fun hprojected => ?_, fun hwithdrawn => ?_⟩
  · obtain ⟨_, _, hevents, -⟩ := hprojected.event
    rw [hsame] at hevents
    simp at hevents
  · have hpending := hwithdrawn h (hsame ▸ hpair.handoff) rfl
    rw [hpending] at hstatus
    rcases hstatus with hstatus | hstatus <;> cases hstatus

omit hpair in
theorem orphan_move : validateExecutionTransition h.executionStatus .confirmationPending
    .chainEvidenceOrphaned = .ok () := by
  rcases hstatus with heq | heq <;> rw [heq] <;> rfl

/-- An event that is not new, or whose callback needs amounts, is not recorded. -/
theorem Pair.ensures_unrecorded (hno : ¬ Reportable d s r h) :
    Ensures (perform d p) FindsOrphaned (ask (.recordEvent (orphanedEvent r h.handoffId)))
      (fun _ s' => s' = s) s := by
  by_cases hnew : s.Fresh d (orphanedEvent r h.handoffId)
  · have hother : ¬ gaslessSponsorshipHandoffPrefix.isPrefixOf h.terms.platformHandoffId = true :=
      fun hgasless => hno ⟨hgasless, hnew⟩
    have hrequired : ∀ e : Event, e.reconciliationStatus = .drift →
        requiresObservedAmounts (h.record e) e = true := by
      intro e hdrift
      show (!(gaslessSponsorshipHandoffPrefix.isPrefixOf h.terms.platformHandoffId) &&
        (e.reconciliationStatus = .matched || e.reconciliationStatus = .drift ||
          e.eventType = .reconciled || e.eventType = .driftDetected)) = true
      simp [hother, hdrift]
    refine ensures_recordEvent works_findsOrphaned (fun now a s' heq => ?_) fun _ _ _ => rfl
    have hmove : validateExecutionTransition h.executionStatus
        (orphanedEvent r h.handoffId).executionStatus (orphanedEvent r h.handoffId).eventType =
          .ok () := orphan_move hstatus
    rw [hpair.recordEvent_of_fresh rfl hnew, hmove] at heq
    dsimp only at heq
    rw [Settlement.buildCallbackPayload, hrequired _ rfl] at heq
    cases heq
  · exact (hpair.ensures_repeat rfl works_findsOrphaned hnew).mono fun _ _ hend => hend.2

/-- The mark does not touch the settlement tables either. -/
theorem Pair.ensures_unprojected (hno : ¬ Reportable d s r h) :
    Ensures (perform d p) FindsOrphaned (do
        let _ ← (do
          let _ ← ask (.recordEvent (orphanedEvent r h.handoffId))
          pure () : Code Unit)
        markProjectionApplied r.transactionHash .confirmationPending)
      (fun _ s' => s'.settlement = s.settlement) s := by
  refine Ensures.bind (Ensures.bind (hpair.ensures_unrecorded hstatus hno)
    (R := fun _ s' => s' = s) (fun _ _ hs => hs) fun _ _ hs => hs) ?_ ?_
  · rintro _ s' rfl
    exact (hpair.ensures_markProjectionApplied_settlement works_findsOrphaned _).mono
      fun _ _ hend => hend.1
  · rintro _ s' rfl
    rfl

/-- What `onOrphaned` and the mark make of a row that is marked. -/
theorem Pair.ensures_onOrphaned (hmarked : r.failureCode = some finalizedBlockOrphaned) :
    Ensures (perform d p) FindsOrphaned (do
        onOrphaned r
        markProjectionApplied r.transactionHash .confirmationPending)
      (fun x s' => (x = .ok () ∧ OrphanProjected s.settlement r h s' ↔
          Reportable d s r h ∧ d.callbacks.shouldQueueCallback = true ∧
            r.outcomeStatus = .confirmationPending) ∧
        (Withdrawn h s' ↔ Reportable d s r h)) s := by
  unfold onOrphaned
  rw [hpair.resource]
  by_cases hreportable : Reportable d s r h
  · refine ensures_andThen (a := ()) (I := fun s' => ∃ now body,
      s' = s.noted d (orphanedEvent r h.handoffId) now body ∧
        Pair s' r (noted d s (orphanedEvent r h.handoffId) now h)) ?_ ?_
    · refine Ensures.bind (hpair.ensures_record rfl works_findsOrphaned hreportable.fresh
        ⟨rfl, Or.inl hreportable.gasless⟩ (orphan_move hstatus)) ?_ ?_
      · rintro a s' ⟨-, hnoted⟩
        exact ⟨rfl, hnoted⟩
      · rintro e s' ⟨⟨a, ha⟩, -⟩
        cases ha
    · rintro s₁ ⟨now, body, rfl, hpair'⟩
      have hwithdrawn : ∀ s' : Store, s'.settlement =
          (s.noted d (orphanedEvent r h.handoffId) now body).settlement → Withdrawn h s' := by
        intro s' hsettlement h' hmem hid
        rw [hsettlement] at hmem
        rw [hpair'.sound.handoffs.eq_of_key hmem hpair'.handoff (hid.trans noted_handoffId.symm)]
        exact noted_executionStatus
      by_cases hpending : r.outcomeStatus = .confirmationPending
      · refine (hpair'.ensures_markProjectionApplied works_findsOrphaned hpending).mono ?_
        rintro x s' ⟨hx, hpair'', hsettlement⟩
        refine ⟨⟨fun hend => ⟨hreportable, ?_, hpending⟩, fun hall => ⟨hx, ?_, ?_⟩⟩,
          iff_of_true (hwithdrawn s' hsettlement) hreportable⟩
        · -- the callback that is on its way is the one of the event
          obtain ⟨_, delivery, -, hdeliveries, -, -, -, -, hstage, -⟩ := hend.2.event
          rw [hsettlement] at hdeliveries
          obtain rfl := List.singleton_inj.mp (List.append_cancel_left hdeliveries)
          by_contra hoff
          rw [CallbackPlan.delivery, CallbackConfig.plan, if_neg hoff] at hstage
          cases hstage
        · refine ⟨_, _, congrArg State.events hsettlement, congrArg State.deliveries hsettlement,
            rfl, rfl, rfl, rfl, ?_, _, hpair''.handoff, noted_handoffId, noted_executionStatus,
            CallbackPlan.written_latestEventId ..⟩
          rw [CallbackPlan.delivery, CallbackConfig.plan, if_pos hall.2.1]
          rfl
        · exact ⟨_, hpair''.row, rfl, hpending, hmarked, rfl⟩
      · refine (hpair'.ensures_markProjectionApplied_settlement works_findsOrphaned _).mono ?_
        rintro x s' ⟨hsettlement, hx⟩
        exact ⟨iff_of_false (fun hend => hpending (hx hend.1)) fun hall => hpending hall.2.2,
          iff_of_true (hwithdrawn s' hsettlement) hreportable⟩
  · refine (hpair.ensures_unprojected hstatus hreportable).mono fun x s' hsame => ?_
    obtain ⟨hno, hno'⟩ := hpair.not_projected hstatus hsame
    exact ⟨iff_of_false (fun hx => hno hx.2) fun hall => hreportable hall.1,
      iff_of_false hno' hreportable⟩

end Final

/-- **When losing canonicality is projected**: a pass over a row that is found orphaned projects the
loss iff the event is new, its callback needs no amounts and is switched on, and a row that was
marked before is pending and not projected; and the handoff is withdrawn iff the event is new, its
callback needs no amounts, and the row is not projected. -/
theorem orphan_projected (hpair : Pair s r h)
    (hstatus : h.executionStatus = .confirmed ∨ h.executionStatus = .reverted)
    (hrow : FoundOrphaned r) :
    Ensures (perform d p) FindsOrphaned (reconcile r)
      (fun x s' => (x = .ok () ∧ OrphanProjected s.settlement r h s' ↔
          Reportable d s r h ∧ d.callbacks.shouldQueueCallback = true ∧
            (r.failureCode = some finalizedBlockOrphaned →
              r.outcomeStatus = .confirmationPending ∧
                r.projectedOutcomeStatus ≠ some .confirmationPending)) ∧
        (Withdrawn h s' ↔ Reportable d s r h ∧
          (r.failureCode = some finalizedBlockOrphaned →
            r.projectedOutcomeStatus ≠ some .confirmationPending))) s := by
  unfold reconcile
  by_cases hcode : r.failureCode = some finalizedBlockOrphaned
  · rw [if_pos hcode, onlyIf]
    split_ifs with hunprojected
    · have hprojected : r.projectedOutcomeStatus ≠ some .confirmationPending :=
        of_decide_eq_true hunprojected
      refine (hpair.ensures_onOrphaned hstatus hcode).mono fun x s' hend => ?_
      simpa [hcode, hprojected] using hend
    · -- the loss is taken for projected
      have hprojected : ¬ r.projectedOutcomeStatus ≠ some .confirmationPending :=
        fun hne => hunprojected (decide_eq_true hne)
      obtain ⟨hno, hno'⟩ := hpair.not_projected hstatus rfl
      exact ⟨iff_of_false (fun hx => hno hx.2) fun hall => hprojected (hall.2.2 hcode).2,
        iff_of_false hno' fun hall => hprojected (hall.2 hcode)⟩
  · obtain ⟨hterminal, hnumber, hhash⟩ := hrow.resolve_left hcode
    obtain ⟨number, hnumber⟩ := Option.isSome_iff_exists.mp hnumber
    obtain ⟨hash, hhash⟩ := Option.isSome_iff_exists.mp hhash
    rw [if_neg hcode, if_pos hterminal, hnumber, hhash]
    refine ensures_andThen (a := .orphaned) (I := fun s' => s' = s) ?_ ?_
    · refine ensures_answer (fun _ => rfl) fun luck hluck => ⟨?_, rfl⟩
      unfold Luck.answer
      rw [hluck.2]
      rfl
    · rintro s' rfl
      obtain ⟨htrue, hpair', hsettlement⟩ := hpair.update _ Outcome.orphan hterminal fun _ => rfl
      refine ensures_andThen (a := ()) (I := fun s₁ => Pair s₁ r.orphan h ∧
        s₁.settlement = s'.settlement) ?_ ?_
      · refine ensures_andThen (a := true) ?_ fun s₁ hs₁ => ⟨rfl, hs₁⟩
        exact ensures_ok works_findsOrphaned (fun _ => rfl)
          ⟨congrArg _ htrue, hpair', hsettlement⟩
      · rintro s₁ ⟨hpair₁, hsettlement₁⟩
        -- the event does not tell the marked row from the one that was read
        have hreportable : Reportable d s₁ r.orphan h ↔ Reportable d s' r h := by
          refine ⟨fun hr => ⟨hr.gasless, ?_⟩, fun hr => ⟨hr.gasless, ?_⟩⟩
          · have hnew := hr.fresh
            unfold Store.Fresh at hnew
            rwa [hsettlement₁] at hnew
          · unfold Store.Fresh
            rw [hsettlement₁]
            exact hr.fresh
        have hprojected : ∀ s₂, OrphanProjected s₁.settlement r.orphan h s₂ ↔
            OrphanProjected s'.settlement r h s₂ := fun s₂ => by
          rw [hsettlement₁]
          exact ⟨fun hend => ⟨hend.event, hend.row⟩, fun hend => ⟨hend.event, hend.row⟩⟩
        refine (hpair₁.ensures_onOrphaned hstatus rfl).mono fun x s₂ hend => ?_
        rw [hprojected, hreportable] at hend
        simpa [hcode, Outcome.orphan] using hend

/-! ### Samples -/

/-- The row of a transaction that was final in block 100. -/
def confirmedRow : Outcome :=
  { Outcome.prepare sampleTransaction 10 with
    outcomeStatus := .confirmed
    projectedOutcomeStatus := some .confirmed
    blockNumber := some 100
    blockHash := some (hashOf '1')
    gasUsed := some 21000
    effectiveGasPriceWei := some 20
    finalityEvidence := some (Text.lit "finalized") }

/-- The calls that lead to a confirmed handoff of a gasless sponsorship. -/
def sponsoredCalls : List Call :=
  [.createHandoff
      { gaslessTerms with platformHandoffId := Text.lit "gasless-sponsorship:7" },
    sampleEvent .accepted .accepted .pending, sampleEvent .submitted .submitted .pending,
    sampleEvent .confirmed .confirmed .pending]

def sponsoredStore : Store := ⟨sponsoredCalls.foldl next State.empty, [confirmedRow], none⟩

def sponsoredHandoff : Handoff :=
  sponsoredStore.settlement.handoffs.headD (.create 0 gaslessTerms)

def notifyingDeployment : Deployment :=
  { sampleDeployment with
    callbacks := ⟨true, some (Text.lit "https://platform/callback"), some (Text.lit "key"),
      some (Text.lit "secret")⟩ }

theorem sponsored_pair : Pair sponsoredStore confirmedRow sponsoredHandoff where
  valid := List.pairwise_singleton _ _
  row := List.mem_singleton_self _
  sound := sound_of_run (run_trace _ sponsoredCalls State.empty) Sound.empty
  handoff := by decide +kernel
  resource := by decide +kernel

theorem orphan_projected_sponsored :
    sponsoredHandoff.executionStatus = .confirmed ∧
    Ensures (perform notifyingDeployment 0) FindsOrphaned (reconcile confirmedRow)
      (fun x s' => x = .ok () ∧
        OrphanProjected sponsoredStore.settlement confirmedRow sponsoredHandoff s' ∧
        Withdrawn sponsoredHandoff s') sponsoredStore := by
  have hstatus : sponsoredHandoff.executionStatus = .confirmed := by decide +kernel
  have hreportable : Reportable notifyingDeployment sponsoredStore confirmedRow
      sponsoredHandoff := by
    refine ⟨by decide +kernel, ?_⟩
    unfold Store.Fresh
    decide +kernel
  have hunmarked : confirmedRow.failureCode ≠ some finalizedBlockOrphaned := by decide
  refine ⟨hstatus, (orphan_projected sponsored_pair (Or.inl hstatus)
    (Or.inr (by decide))).mono fun x s' hend => ?_⟩
  obtain ⟨hx, hprojected⟩ := hend.1.mpr
    ⟨hreportable, by decide, fun hmarked => absurd hmarked hunmarked⟩
  exact ⟨hx, hprojected, hend.2.mpr ⟨hreportable, fun hmarked => absurd hmarked hunmarked⟩⟩

/-- The same luck as in the request, but the recorded block is orphaned. -/
def orphaningLuck : Luck :=
  { sampleLuck 5000 with
    reply
      | .revalidateBlock _ _ => .ok .orphaned
      | o => (sampleLuck 5000).reply o }

/-- **The loss is not projected**: after a request that went well its block is orphaned, and the
reconciler passes over the row twice.  The row is marked, but the handoff stays confirmed, with no
event about the loss. -/
theorem orphan_not_projected :
    ∃ tr c', Run (Interaction.Step (world notifyingDeployment)) sampleConfig tr c' ∧
      statuses c' = [.confirmed] ∧
      c'.store.outcomes.map Outcome.failureCode = [some finalizedBlockOrphaned] ∧
      c'.store.outcomes.map Outcome.projectedOutcomeStatus = [none] ∧
      c'.store.settlement.events.all (·.eventType ≠ .chainEvidenceOrphaned) = true := by
  exact exists_end_of_simulate (sampleSchedule 100 5000 ++
    [.call 0 (.processUnresolved 25), .acts 0 orphaningLuck 100, .done 0,
      .call 0 (.processUnresolved 25), .acts 0 orphaningLuck 100, .done 0]) (by decide +kernel)

end Cotsel.Gateway.Gasless
