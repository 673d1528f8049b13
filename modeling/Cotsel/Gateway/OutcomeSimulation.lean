import Cotsel.Gateway.OutcomeProjection
import Cotsel.Gateway.CreateTradeFailure

/-!
# The handoff follows the ledger

Two state machines are written independently: the ledger's (`allowedCurrentStatuses`) and the
handoff's (`executionTransitions`).  A round of the reconciler on a row moves the ledger and then
projects the new status onto the handoff, or the other way round; events are recorded once for each
type, so a projection that was made before is passed over.

`Agree` is what holds of a row and its handoff between two rounds, as long as a transaction whose
pending state was projected is not reported missing later.  When it is, the ledger goes back to
`broadcast_unknown` while the handoff cannot (`pending_then_missing`).
-/

namespace Cotsel.Gateway.Gasless

open Interaction Settlement Runs

variable {d : Deployment} {p : ℕ} {C : (o : Op) → Luck → Prop} {s s' : Store} {r r' : Outcome}
  {h h' : Handoff}

/-! ### The handoff -/

/-- The statuses of a handoff before anything was said about a transaction. -/
def early : List ExecutionStatus := [.pending, .accepted, .queued]

/-- What the status of a handoff says when this projection was made. -/
def Reached : Projection → ExecutionStatus → Bool
  | .broadcastUnknown, status => !early.contains status
  | .confirmationPending, status => [.confirmationPending, .confirmed, .reverted].contains status
  | .confirmed, status => status = .confirmed
  | .reverted, status => status = .reverted

/-- An event of this type was recorded for the request of the row. -/
def HasEvent (d : Deployment) (s : Store) (r : Outcome) (h : Handoff) (type : EventType) : Prop :=
  ∃ e ∈ s.settlement.events, e.handoffId = h.handoffId ∧
    e.dedupeKey = dedupeKey d.sha256 h.handoffId type r.identity.applicationRequestId

/-- The events of the request have different keys. -/
def DistinctKeys (d : Deployment) (r : Outcome) (h : Handoff) : Prop :=
  ∀ type type', dedupeKey d.sha256 h.handoffId type r.identity.applicationRequestId =
    dedupeKey d.sha256 h.handoffId type' r.identity.applicationRequestId → type = type'

/-- A handoff that received no events but those of the reconciler since the row was prepared. -/
structure Followed (d : Deployment) (s : Store) (r : Outcome) (h : Handoff) : Prop
    extends Pair s r h where
  keys : DistinctKeys d r h
  unreconciled : h.reconciliationStatus ≠ .matched ∧ h.reconciliationStatus ≠ .drift
  status : h.executionStatus ∈ early ++
    [.broadcastUnknown, .confirmationPending, .confirmed, .reverted]
  seen : ∀ projection : Projection, HasEvent d s r h projection.eventType →
    Reached projection h.executionStatus = true

/-- The state machine accepts the projection. -/
def Accepts (status : ExecutionStatus) (projection : Projection) : Bool :=
  (validateExecutionTransition status projection.execution projection.eventType).isOk

variable {projection : Projection}

theorem accepts_iff {status : ExecutionStatus} :
    Accepts status projection = true ↔
      validateExecutionTransition status projection.execution projection.eventType = .ok () := by
  unfold Accepts
  cases validateExecutionTransition status projection.execution projection.eventType <;>
    simp [Except.isOk, Except.toBool]

variable {projection' : Projection}

/-- What was reached stays reached. -/
theorem reached_of_accepts {status : ExecutionStatus}
    (hstatus : status ∈ early ++ [.broadcastUnknown, .confirmationPending, .confirmed, .reverted])
    (haccepts : Accepts status projection = true) (hreached : Reached projection' status = true) :
    Reached projection' projection.execution = true := by
  revert status
  cases projection <;> cases projection' <;> decide

theorem reached_execution (projection : Projection) :
    Reached projection projection.execution = true := by
  cases projection <;> rfl

theorem execution_mem (projection : Projection) : projection.execution ∈
    early ++ [.broadcastUnknown, .confirmationPending, .confirmed, .reverted] := by
  cases projection <;> decide

theorem eventType_injective
    (heq : projection.eventType = projection'.eventType) : projection = projection' := by
  cases projection <;> cases projection' <;> first | rfl | cases heq

theorem HasEvent.congr (hevents : s'.settlement = s.settlement) (hid : r'.identity = r.identity)
    {type : EventType} (hevent : HasEvent d s' r' h type) : HasEvent d s r h type := by
  unfold HasEvent at *
  rwa [hevents, hid] at hevent

theorem Followed.of_pair (hf : Followed d s r h) (hpair : Pair s' r' h)
    (hsettlement : s'.settlement = s.settlement) (hid : r'.identity = r.identity) :
    Followed d s' r' h where
  toPair := hpair
  keys := by
    unfold DistinctKeys
    rw [hid]
    exact hf.keys
  unreconciled := hf.unreconciled
  status := hf.status
  seen := fun projection hevent => hf.seen projection (hevent.congr hsettlement hid)

theorem recordHandoffOutcome_congr (hid : r'.identity = r.identity) (projection : Projection) :
    recordHandoffOutcome r' projection = recordHandoffOutcome r projection := by
  unfold recordHandoffOutcome requireHandoff projectionEvent recoveryEvent
  unfold Outcome.resource Outcome.transactionHash
  rw [hid]

theorem Pair.ensures_requireHandoff (hpair : Pair s r h) (hC : Works C) :
    Ensures (perform d p) C (requireHandoff r h.handoffId) (fun x s' => x = .ok h ∧ s' = s) s := by
  refine ensures_andThen (a := some h) (I := fun s' => s' = s) ?_ fun s' hs' => ⟨rfl, hs'⟩
  exact ensures_ok hC (fun _ => rfl) ⟨congrArg Except.ok hpair.getHandoff, rfl⟩

/-- The recording of a projection is the recording of its event. -/
theorem Pair.ensures_recordHandoffOutcome (hpair : Pair s r h) (hC : Works C)
    {Q : Except Thrown Recorded → Store → Prop} {R : Except Thrown Unit → Store → Prop}
    (hrecord : Ensures (perform d p) C (ask (.recordEvent
      (projectionEvent r h.handoffId h.reconciliationStatus projection))) Q s)
    (hok : ∀ a s', Q (.ok a) s' → R (.ok ()) s')
    (herror : ∀ e s', Q (.error e) s' → R (.error e) s') :
    Ensures (perform d p) C (recordHandoffOutcome r projection) R s := by
  unfold recordHandoffOutcome
  rw [hpair.resource]
  refine ensures_andThen (hpair.ensures_requireHandoff hC) ?_
  rintro s' rfl
  exact Ensures.bind hrecord hok herror

theorem Followed.plain (hf : Followed d s r h) (projection : Projection) :
    Plain h (projectionEvent r h.handoffId h.reconciliationStatus projection) := by
  refine ⟨rfl, Or.inr ⟨hf.unreconciled.1, hf.unreconciled.2, ?_, ?_⟩⟩
  · cases projection <;> exact fun heq => by cases heq
  · cases projection <;> exact fun heq => by cases heq

theorem fresh_projectionEvent :
    s.Fresh d (projectionEvent r h.handoffId h.reconciliationStatus projection) ↔
      ¬ HasEvent d s r h projection.eventType := by
  unfold Store.Fresh HasEvent
  push Not
  exact Iff.rfl

/-- An accepted projection, made for the first time or made before without effect since. -/
theorem Followed.ensures_project (hf : Followed d s r h) (hC : Works C)
    (haccepts : Accepts h.executionStatus projection = true)
    (hseen : HasEvent d s r h projection.eventType → h.executionStatus = projection.execution) :
    Ensures (perform d p) C (recordHandoffOutcome r projection)
      (fun x s' => x = .ok () ∧ s'.outcomes = s.outcomes ∧ ∃ h', Followed d s' r h' ∧
        h'.handoffId = h.handoffId ∧ h'.executionStatus = projection.execution) s := by
  by_cases hevent : HasEvent d s r h projection.eventType
  · refine hf.ensures_recordHandoffOutcome hC
      (hf.toPair.ensures_repeat rfl hC fun hfresh => fresh_projectionEvent.mp hfresh hevent) ?_ ?_
    · rintro a s' ⟨-, rfl⟩
      exact ⟨rfl, rfl, h, hf, rfl, hseen hevent⟩
    · rintro e s' ⟨⟨a, ha⟩, -⟩
      cases ha
  · refine hf.ensures_recordHandoffOutcome hC (hf.toPair.ensures_record rfl hC
      (fresh_projectionEvent.mpr hevent) (hf.plain projection) (accepts_iff.mp haccepts)) ?_ ?_
    · rintro a s' ⟨-, now, body, rfl, hpair⟩
      refine ⟨rfl, rfl, noted d s
        (projectionEvent r h.handoffId h.reconciliationStatus projection) now h, ?_,
        noted_handoffId, noted_executionStatus⟩
      constructor
      case toPair => exact hpair
      case keys =>
        unfold DistinctKeys
        rw [noted_handoffId]
        exact hf.keys
      case unreconciled =>
        rw [noted_reconciliationStatus]
        exact hf.unreconciled
      case status =>
        rw [noted_executionStatus]
        exact execution_mem projection
      case seen =>
        rintro projection' ⟨e, he, hid, hkey⟩
        rw [noted_executionStatus]
        rw [noted_handoffId] at hid hkey
        rcases List.mem_append.mp he with hold | hnew
        · exact reached_of_accepts hf.status haccepts (hf.seen projection' ⟨e, hold, hid, hkey⟩)
        · rw [List.mem_singleton.mp hnew] at hkey
          have heq : projection = projection' := eventType_injective (hf.keys _ _ hkey)
          rw [← heq]
          exact reached_execution projection
    · rintro e s' ⟨⟨a, ha⟩, -⟩
      cases ha

/-- A projection that the state machine refuses. -/
theorem Followed.ensures_not_project (hf : Followed d s r h) (hC : Works C)
    (haccepts : Accepts h.executionStatus projection = false)
    (hevent : ¬ HasEvent d s r h projection.eventType) :
    Ensures (perform d p) C (recordHandoffOutcome r projection)
      (fun x s' => (∃ e, x = .error e) ∧ s' = s) s := by
  have hmove : validateExecutionTransition h.executionStatus projection.execution
      projection.eventType ≠ .ok () := by
    rw [Ne, ← accepts_iff, haccepts]
    exact Bool.false_ne_true
  refine hf.ensures_recordHandoffOutcome hC (hf.toPair.ensures_refuse rfl hC
    (fresh_projectionEvent.mpr hevent) hmove) ?_ ?_
  · rintro a s' ⟨⟨e, he⟩, -⟩
    cases he
  · rintro e s' ⟨-, rfl⟩
    exact ⟨⟨e, rfl⟩, rfl⟩

/-! ### Between two rounds -/

/-- What holds of a row and its handoff between two rounds. -/
structure Agree (d : Deployment) (s : Store) (r : Outcome) (h : Handoff) : Prop
    extends Followed d s r h where
  unorphaned : r.failureCode ≠ some finalizedBlockOrphaned
  known : r.outcomeStatus ≠ .replaced ∧ r.outcomeStatus ≠ .failed
  /-- What was projected is what the ledger says, and the handoff says it, too. -/
  projected : ∀ status, r.projectedOutcomeStatus = some status → r.outcomeStatus = status ∧
    ∃ projection : Projection, projection.outcome = status ∧
      h.executionStatus = projection.execution
  /-- A row that is not final and was not projected has not touched its handoff. -/
  untouched : r.isTerminal = false → r.projectedOutcomeStatus = none → h.executionStatus ∈ early

/-- The end of a round: row and handoff agree, and a new status was projected. -/
def After (d : Deployment) (r : Outcome) (h : Handoff) (x : Except Thrown Unit) (s : Store) :
    Prop :=
  ∃ r' h', Agree d s r' h' ∧ r'.identity = r.identity ∧ h'.handoffId = h.handoffId ∧
    (r'.outcomeStatus ≠ r.outcomeStatus →
      x = .ok () ∧ r'.projectedOutcomeStatus = some r'.outcomeStatus)

theorem Agree.after (hagree : Agree d s r h) (x : Except Thrown Unit) : After d r h x s :=
  ⟨r, h, hagree, rfl, rfl, fun hne => absurd rfl hne⟩

theorem projection_of_outcome
    (heq : projection.outcome = projection'.outcome) : projection = projection' := by
  cases projection <;> cases projection' <;> first | rfl | cases heq

theorem isTerminal_iff : r.isTerminal = true ↔
    r.outcomeStatus = .confirmed ∨ r.outcomeStatus = .reverted := by
  simp [Outcome.isTerminal]

theorem Agree.executionStatus (hagree : Agree d s r h) (projection : Projection)
    (hprojected : r.projectedOutcomeStatus = some projection.outcome) :
    h.executionStatus = projection.execution := by
  obtain ⟨-, projection', heq, hstatus⟩ := hagree.projected _ hprojected
  rwa [projection_of_outcome heq] at hstatus

/-- A row that is not final has projected its status, or nothing. -/
theorem Agree.projected_cases (hagree : Agree d s r h) (hopen : r.isTerminal = false) :
    r.projectedOutcomeStatus = none ∧ h.executionStatus ∈ early ∨
      (r.projectedOutcomeStatus = some .broadcastUnknown ∧ r.outcomeStatus = .broadcastUnknown ∧
        h.executionStatus = .broadcastUnknown) ∨
      (r.projectedOutcomeStatus = some .confirmationPending ∧
        r.outcomeStatus = .confirmationPending ∧ h.executionStatus = .confirmationPending) := by
  cases hprojected : r.projectedOutcomeStatus with
  | none => exact Or.inl ⟨rfl, hagree.untouched hopen hprojected⟩
  | some =>
    obtain ⟨hstatus, projection, rfl, hexecution⟩ := hagree.projected _ hprojected
    have hterminal := (isTerminal_iff (r := r)).not.mp (by rw [hopen]; exact Bool.false_ne_true)
    rw [hstatus] at hterminal ⊢
    cases projection with
    | broadcastUnknown => exact Or.inr (Or.inl ⟨rfl, rfl, hexecution⟩)
    | confirmationPending => exact Or.inr (Or.inr ⟨rfl, rfl, hexecution⟩)
    | confirmed => exact absurd (Or.inl rfl) hterminal
    | reverted => exact absurd (Or.inr rfl) hterminal

/-- The row as it is after its new status was projected and marked. -/
theorem Followed.agree (hf : Followed d s r h) (hcode : r.failureCode ≠ some finalizedBlockOrphaned)
    (projection : Projection) (hstatus : r.outcomeStatus = projection.outcome)
    (hprojected : r.projectedOutcomeStatus = some projection.outcome)
    (hexecution : h.executionStatus = projection.execution) : Agree d s r h where
  toFollowed := hf
  unorphaned := hcode
  known := by
    rw [hstatus]
    cases projection <;> decide
  projected := by
    intro status heq
    rw [hprojected, Option.some.injEq] at heq
    exact ⟨hstatus.trans heq, projection, heq, hexecution⟩
  untouched := by
    intro _ hnone
    rw [hprojected] at hnone
    cases hnone

/-- The mark is the last statement of a round. -/
theorem Followed.ensures_mark (hf : Followed d s r h) (hC : Works C)
    (hcode : r.failureCode ≠ some finalizedBlockOrphaned) (projection : Projection)
    (hstatus : r.outcomeStatus = projection.outcome)
    (hexecution : h.executionStatus = projection.execution) {r₀ : Outcome} {h₀ : Handoff}
    (hid : r.identity = r₀.identity) (hhandoff : h.handoffId = h₀.handoffId) :
    Ensures (perform d p) C (markProjectionApplied r₀.transactionHash projection.outcome)
      (After d r₀ h₀) s := by
  have hhash : r₀.transactionHash = r.transactionHash := by
    rw [Outcome.transactionHash, ← hid]
  rw [hhash]
  refine (hf.toPair.ensures_markProjectionApplied hC hstatus).mono ?_
  rintro x s' ⟨rfl, hpair, hsettlement⟩
  refine ⟨_, h, (hf.of_pair hpair hsettlement rfl).agree hcode projection hstatus rfl hexecution,
    hid, hhandoff, fun _ => ⟨rfl, ?_⟩⟩
  exact congrArg some hstatus.symm

theorem moves_of_ne {status : OutcomeStatus} (details : Details) (hne : r.outcomeStatus ≠ status)
    (hallowed : r.outcomeStatus ∈ allowedCurrentStatuses status) :
    r.moves status details = true := by
  simp [Outcome.moves, hne, hallowed]

theorem allowed_of_open (hagree : Agree d s r h) (hopen : r.isTerminal = false)
    (projection : Projection) : r.outcomeStatus ∈ allowedCurrentStatuses projection.outcome := by
  have hterminal := (isTerminal_iff (r := r)).not.mp (by rw [hopen]; exact Bool.false_ne_true)
  have hknown := hagree.known
  cases hstatus : r.outcomeStatus with
  | confirmed => exact absurd (Or.inl hstatus) hterminal
  | reverted => exact absurd (Or.inr hstatus) hterminal
  | replaced => exact absurd hstatus hknown.1
  | failed => exact absurd hstatus hknown.2
  | broadcastPending | broadcastUnknown | confirmationPending => cases projection <;> decide

/-! ### A round -/

/-- The ledger has the row at this status, the handoff is as it was, and nothing was projected. -/
def MovedTo (d : Deployment) (s₀ : Store) (r : Outcome) (h : Handoff) (status : OutcomeStatus)
    (s : Store) : Prop :=
  s.settlement = s₀.settlement ∧ ∃ r', Followed d s r' h ∧ r'.identity = r.identity ∧
    r'.outcomeStatus = status ∧ r'.projectedOutcomeStatus = r.projectedOutcomeStatus ∧
    r'.failureCode ≠ some finalizedBlockOrphaned

/-- A row that is not final moves to another status. -/
theorem Agree.ensures_open (hagree : Agree d s r h) (hC : Works C) (hopen : r.isTerminal = false)
    (projection : Projection) {details : Details} (hcode : projection = .broadcastUnknown →
      details.failureCode ≠ some finalizedBlockOrphaned)
    (hne : r.outcomeStatus ≠ projection.outcome) :
    Ensures (perform d p) C (transition r.transactionHash projection.outcome details)
      (fun x s' => x = .ok () ∧ MovedTo d s r h projection.outcome s') s := by
  have hmoves := moves_of_ne details hne (allowed_of_open hagree hopen projection)
  refine (hagree.toPair.ensures_move hC hmoves).mono ?_
  rintro x s' ⟨rfl, hpair, hsettlement⟩
  refine ⟨rfl, hsettlement, _, hagree.toFollowed.of_pair hpair hsettlement rfl, rfl, rfl, rfl, ?_⟩
  show (if projection.outcome = .broadcastUnknown then details.failureCode else r.failureCode) ≠ _
  split_ifs with heq
  · cases projection with
    | broadcastUnknown => exact hcode rfl
    | confirmationPending | confirmed | reverted => cases heq
  · exact hagree.unorphaned

variable {s₁ : Store}

/-- The status of a row is projected for the first time, with a mark. -/
theorem Followed.ensures_projectAndMark {r₁ : Outcome} (hf : Followed d s₁ r₁ h)
    (hC : Works C) (hid : r₁.identity = r.identity)
    (hcode : r₁.failureCode ≠ some finalizedBlockOrphaned) (projection : Projection)
    (hstatus : r₁.outcomeStatus = projection.outcome)
    (haccepts : Accepts h.executionStatus projection = true)
    (hnew : ¬ HasEvent d s₁ r₁ h projection.eventType) :
    Ensures (perform d p) C (do
        recordHandoffOutcome r projection
        markProjectionApplied r.transactionHash projection.outcome) (After d r h) s₁ := by
  rw [← recordHandoffOutcome_congr hid]
  refine ensures_andThen (hf.ensures_project hC haccepts fun hevent => absurd hevent hnew) ?_
  rintro s₂ ⟨-, h₂, hf₂, hhandoff, hexecution⟩
  exact hf₂.ensures_mark hC hcode projection hstatus hexecution hid hhandoff

/-- What the handoff does not show was not recorded. -/
theorem Followed.not_hasEvent (hf : Followed d s r h)
    (hreached : Reached projection h.executionStatus = false) {r₁ : Outcome}
    (hsettlement : s₁.settlement = s.settlement) (hid : r₁.identity = r.identity) :
    ¬ HasEvent d s₁ r₁ h projection.eventType := by
  intro hevent
  have hshown := hf.seen projection (hevent.congr hsettlement hid)
  rw [hreached] at hshown
  cases hshown

/-- The ledger is told that the transaction was not found. -/
theorem Agree.ensures_unknown (hagree : Agree d s r h) (hC : Works C) (hopen : r.isTerminal = false)
    {failureCode : List Char} {observed : Option (List Char)}
    (hcode : failureCode ≠ finalizedBlockOrphaned) :
    Ensures (perform d p) C
      (onlyIf (r.outcomeStatus ≠ .broadcastUnknown ∨ r.failureCode ≠ some failureCode)
        (markBroadcastUnknown r.transactionHash failureCode observed))
      (fun x s' => (x = .ok () ∧ MovedTo d s r h .broadcastUnknown s') ∨
        (∃ e, x = .error e) ∧ s' = s) s := by
  have hcode' : some failureCode ≠ some finalizedBlockOrphaned := fun heq =>
    hcode (Option.some.inj heq)
  unfold onlyIf markBroadcastUnknown
  by_cases hstatus : r.outcomeStatus = .broadcastUnknown
  · split_ifs with hchanged
    · have hdiffers : r.failureCode ≠ some failureCode :=
        hchanged.resolve_left fun hne => hne hstatus
      set details : Details :=
        { failureCode := some failureCode, observedTransactionHash := observed } with hdetails
      cases hmoves : r.moves .broadcastUnknown details with
      | true =>
        refine (hagree.toPair.ensures_move hC hmoves).mono ?_
        rintro x s' ⟨rfl, hpair, hsettlement⟩
        exact Or.inl ⟨rfl, hsettlement, _, hagree.toFollowed.of_pair hpair hsettlement rfl, rfl,
          rfl, rfl, hcode'⟩
      | false =>
        refine (hagree.toPair.ensures_not_move hC hmoves).mono ?_
        rintro x s' ⟨hsame, hok⟩
        have hunsettled : ¬ r.settledAs .broadcastUnknown details = true := by
          simp [Outcome.settledAs, hdetails, hdiffers]
        cases x with
        | error e => exact Or.inr ⟨⟨e, rfl⟩, hsame⟩
        | ok => exact absurd (hok.mp rfl) hunsettled
    · exact Or.inl ⟨rfl, rfl, r, hagree.toFollowed, rfl, hstatus, rfl, hagree.unorphaned⟩
  · rw [if_pos (Or.inl hstatus)]
    exact (hagree.ensures_open hC hopen .broadcastUnknown (fun _ => hcode')
      hstatus).mono fun _ _ hend => Or.inl hend

theorem Agree.ensures_projectBroadcastUnknown (hagree : Agree d s r h) (hC : Works C)
    (hopen : r.isTerminal = false)
    (hpending : r.projectedOutcomeStatus ≠ some .confirmationPending) {failureCode : List Char}
    (hcode : failureCode ≠ finalizedBlockOrphaned) :
    Ensures (perform d p) C (projectBroadcastUnknown r failureCode) (After d r h) s := by
  refine Ensures.bind (hagree.ensures_unknown hC hopen hcode) ?_ ?_
  · rintro _ s₁ (⟨-, hsettlement, r₁, hf, hid, hstatus, hprojected, hcode₁⟩ | ⟨⟨e, he⟩, -⟩)
    · unfold onlyIf
      rcases hagree.projected_cases hopen with ⟨hnone, hearly⟩ | ⟨hbu, -, hexecution⟩ | ⟨hcp, -⟩
      · have hunprojected : r.unprojected .broadcastUnknown = true := by
          simp [Outcome.unprojected, hnone]
        have haccepts : ∀ status ∈ early, Accepts status .broadcastUnknown = true ∧
            Reached .broadcastUnknown status = false := by decide
        rw [if_pos hunprojected]
        exact hf.ensures_projectAndMark hC hid hcode₁ .broadcastUnknown hstatus
          (haccepts _ hearly).1 (hagree.not_hasEvent (haccepts _ hearly).2 hsettlement hid)
      · have hunprojected : ¬ r.unprojected .broadcastUnknown = true := by
          simp [Outcome.unprojected, hbu, Projection.outcome]
        rw [if_neg hunprojected]
        rw [hbu] at hprojected
        have hagree₁ : Agree d s₁ r₁ h :=
          hf.agree hcode₁ .broadcastUnknown hstatus hprojected hexecution
        exact ⟨r₁, h, hagree₁, hid, rfl, fun _ => ⟨rfl, by rw [hprojected, hstatus]⟩⟩
      · exact absurd hcp hpending
    · cases he
  · rintro e s₁ (⟨heq, -⟩ | ⟨-, rfl⟩)
    · cases heq
    · exact hagree.after _

/-- The status `confirmation_pending` can be projected for the first time. -/
theorem Agree.pending_new (hagree : Agree d s r h) (hopen : r.isTerminal = false)
    (hprojected : r.projectedOutcomeStatus ≠ some .confirmationPending) :
    Accepts h.executionStatus .confirmationPending = true ∧
      Reached .confirmationPending h.executionStatus = false := by
  rcases hagree.projected_cases hopen with ⟨-, hearly⟩ | ⟨-, -, hbu⟩ | ⟨hcp, -⟩
  · have hall : ∀ status ∈ early, Accepts status .confirmationPending = true ∧
        Reached .confirmationPending status = false := by decide
    exact hall _ hearly
  · rw [hbu]
    decide
  · exact absurd hcp hprojected

theorem unprojected_iff : r.unprojected projection = true ↔
    r.projectedOutcomeStatus ≠ some projection.outcome := by
  simp [Outcome.unprojected]

theorem Agree.ensures_reconcilePending (hagree : Agree d s r h) (hC : Works C)
    (hopen : r.isTerminal = false) :
    Ensures (perform d p) C (reconcilePending r) (After d r h) s := by
  unfold reconcilePending
  by_cases hprojected : r.projectedOutcomeStatus = some .confirmationPending
  · have hskip : ¬ r.unprojected .confirmationPending = true := fun htrue =>
      unprojected_iff.mp htrue hprojected
    have hstatus : ¬ r.outcomeStatus ≠ .confirmationPending := fun hne =>
      hne (hagree.projected _ hprojected).1
    simp only [onlyIf, if_neg hskip, if_neg hstatus]
    exact hagree.after _
  · obtain ⟨haccepts, hreached⟩ := hagree.pending_new hopen hprojected
    have hunprojected : r.unprojected .confirmationPending = true := unprojected_iff.mpr hprojected
    simp only [onlyIf, if_pos hunprojected]
    refine ensures_andThen (hagree.ensures_project hC haccepts fun hevent =>
      absurd hevent (hagree.not_hasEvent hreached rfl rfl)) ?_
    rintro s₁ ⟨-, h₁, hf, hhandoff, hexecution⟩
    by_cases hstatus : r.outcomeStatus = .confirmationPending
    · rw [if_neg (not_not.mpr hstatus)]
      exact hf.ensures_mark hC hagree.unorphaned .confirmationPending hstatus
        hexecution rfl hhandoff
    · rw [if_pos hstatus]
      have hmoves : r.moves .confirmationPending {} = true :=
        moves_of_ne _ hstatus (allowed_of_open hagree hopen .confirmationPending)
      refine ensures_andThen (hf.toPair.ensures_move hC hmoves) ?_
      rintro s₂ ⟨hpair, hsettlement⟩
      exact (hf.of_pair hpair hsettlement rfl).ensures_mark hC hagree.unorphaned
        .confirmationPending rfl hexecution rfl hhandoff

theorem Agree.ensures_reconcileUnfinal (hagree : Agree d s r h) (hC : Works C) :
    Ensures (perform d p) C (reconcileUnfinal r) (After d r h) s := by
  unfold reconcileUnfinal
  cases hopen : r.isTerminal with
  | true =>
    exact hagree.after _
  | false =>
    refine ensures_andThen (a := ()) (I := MovedTo d s r h .confirmationPending) ?_ ?_
    · by_cases hstatus : r.outcomeStatus = .confirmationPending
      · have hmoves : r.moves .confirmationPending {} = false := by
          simp [Outcome.moves, hstatus]
        refine (hagree.toPair.ensures_not_move hC hmoves).mono ?_
        rintro x s' ⟨rfl, hok⟩
        have hsettled : r.settledAs .confirmationPending {} = true := by
          simp [Outcome.settledAs, hstatus]
        exact ⟨hok.mpr hsettled, rfl, r, hagree.toFollowed, rfl, hstatus, rfl, hagree.unorphaned⟩
      · exact hagree.ensures_open hC hopen .confirmationPending (fun heq => by cases heq) hstatus
    · rintro s₁ ⟨hsettlement, r₁, hf, hid, hstatus, hprojected₁, hcode⟩
      by_cases hprojected : r.projectedOutcomeStatus = some .confirmationPending
      · rw [onlyIf, if_neg fun htrue => unprojected_iff.mp htrue hprojected]
        rw [hprojected] at hprojected₁
        have hagree₁ : Agree d s₁ r₁ h := hf.agree hcode .confirmationPending hstatus hprojected₁
          (hagree.executionStatus .confirmationPending hprojected)
        exact ⟨r₁, h, hagree₁, hid, rfl, fun _ => ⟨rfl, by rw [hprojected₁, hstatus]⟩⟩
      · obtain ⟨haccepts, hreached⟩ := hagree.pending_new hopen hprojected
        rw [onlyIf, if_pos (unprojected_iff.mpr hprojected)]
        exact hf.ensures_projectAndMark hC hid hcode .confirmationPending hstatus haccepts
          (hagree.not_hasEvent hreached hsettlement hid)

/-- The projections of a final receipt. -/
def Projection.isFinal (projection : Projection) : Prop :=
  projection = .confirmed ∨ projection = .reverted

/-- A final status is projected, by way of `confirmation_pending` if nothing was projected before,
or refused. -/
theorem Followed.ensures_onTerminal (hf : Followed d s r h) (hC : Works C)
    (hfinal : projection.isFinal) :
    Ensures (perform d p) C (onTerminal r projection)
      (fun x s' => (x = .ok () ∧ s'.outcomes = s.outcomes ∧
          (h.executionStatus ∈ [.confirmed, .reverted] →
            h.executionStatus = projection.execution) ∧
          ∃ h', Followed d s' r h' ∧ h'.handoffId = h.handoffId ∧
            h'.executionStatus = projection.execution) ∨
        (∃ e, x = .error e) ∧ s' = s) s := by
  have hproject : ∀ status ∈ [ExecutionStatus.broadcastUnknown, .confirmationPending],
      Accepts status projection = true ∧ Reached projection status = false := by
    rcases hfinal with rfl | rfl <;> decide
  refine ensures_andThen (a := ()) (I := fun s₁ => (h.executionStatus ∈ early ∧
      s₁.outcomes = s.outcomes ∧ ∃ h₁, Followed d s₁ r h₁ ∧ h₁.handoffId = h.handoffId ∧
        h₁.executionStatus = .confirmationPending) ∨
      (h.executionStatus ∉ early ∧ s₁ = s)) ?_ ?_
  · unfold prepareTerminalProjection
    rw [hf.resource]
    refine ensures_andThen (hf.toPair.ensures_requireHandoff hC) ?_
    rintro s₁ rfl
    show Ensures _ _ (if h.executionStatus ∈ early then _ else _) _ _
    split_ifs with hearly
    · have hall : ∀ status ∈ early, Accepts status .confirmationPending = true ∧
          Reached .confirmationPending status = false := by decide
      refine (hf.ensures_project hC (hall _ hearly).1
        fun hevent => absurd hevent (hf.not_hasEvent (hall _ hearly).2 rfl rfl)).mono ?_
      rintro x s₂ ⟨rfl, houtcomes, hrest⟩
      exact ⟨rfl, Or.inl ⟨hearly, houtcomes, hrest⟩⟩
    · exact ⟨rfl, Or.inr ⟨hearly, rfl⟩⟩
  · rintro s₁ (⟨hearly, houtcomes, h₁, hf₁, hhandoff, hexecution⟩ | ⟨hearly, rfl⟩)
    · obtain ⟨haccepts, hreached⟩ := hproject .confirmationPending (by decide)
      rw [← hexecution] at haccepts hreached
      refine (hf₁.ensures_project hC haccepts
        fun hevent => absurd hevent (hf₁.not_hasEvent hreached rfl rfl)).mono ?_
      rintro x s₂ ⟨rfl, houtcomes₂, h₂, hf₂, hhandoff₂, hexecution₂⟩
      refine Or.inl ⟨rfl, houtcomes₂.trans houtcomes, fun hmem => ?_, h₂, hf₂,
        hhandoff₂.trans hhandoff, hexecution₂⟩
      have hdisjoint : ∀ status ∈ early, status ∉ [ExecutionStatus.confirmed, .reverted] := by
        decide
      exact absurd hmem (hdisjoint _ hearly)
    · -- the handoff shows a transaction already
      have hcases : ∀ status ∈ early ++ [ExecutionStatus.broadcastUnknown, .confirmationPending,
          .confirmed, .reverted], status ∉ early →
          (Accepts status projection = true ∧
            (Reached projection status = true → status = projection.execution) ∧
            (status ∈ [ExecutionStatus.confirmed, .reverted] →
              status = projection.execution)) ∨
          (Accepts status projection = false ∧ Reached projection status = false) := by
        rcases hfinal with rfl | rfl <;> decide
      rcases hcases _ hf.status hearly with ⟨haccepts, hreached, hsame⟩ | ⟨haccepts, hreached⟩
      · refine (hf.ensures_project hC haccepts fun hevent =>
          hreached (hf.seen projection hevent)).mono ?_
        rintro x s₂ ⟨rfl, houtcomes, hrest⟩
        exact Or.inl ⟨rfl, houtcomes, hsame, hrest⟩
      · exact (hf.ensures_not_project hC haccepts (hf.not_hasEvent hreached rfl rfl)).mono
          fun _ _ => Or.inr

/-- The ledger takes over a final status that the handoff has; a row that is final already may be
left as it is. -/
theorem Followed.ensures_settle {h₁ : Handoff} (hf : Followed d s₁ r h₁)
    (hC : Works C) (hcode : r.failureCode ≠ some finalizedBlockOrphaned)
    (hfinal : projection.isFinal) (hexecution : h₁.executionStatus = projection.execution)
    (hhandoff : h₁.handoffId = h.handoffId) {outcome : Details}
    (hopen : r.isTerminal = false → r.moves projection.outcome outcome = true) :
    Ensures (perform d p) C (do
        onlyIf (r.outcomeStatus ≠ projection.outcome ∨ r.finalityEvidence = none)
          (transition r.transactionHash projection.outcome outcome)
        markProjectionApplied r.transactionHash projection.outcome)
      (fun x s' => After d r h x s' ∨
        (∃ e, x = .error e) ∧ s' = s₁ ∧ r.isTerminal = true) s₁ := by
  have hmark : ∀ s₂ r₂, Followed d s₂ r₂ h₁ → r₂.identity = r.identity →
      r₂.failureCode ≠ some finalizedBlockOrphaned → r₂.outcomeStatus = projection.outcome →
      Ensures (perform d p) C (markProjectionApplied r.transactionHash projection.outcome)
        (fun x s' => After d r h x s' ∨
          (∃ e, x = .error e) ∧ s' = s₁ ∧ r.isTerminal = true) s₂ := by
    intro s₂ r₂ hf₂ hid hcode₂ hstatus
    exact (hf₂.ensures_mark hC hcode₂ projection hstatus hexecution hid hhandoff).mono
      fun _ _ => Or.inl
  unfold onlyIf
  split_ifs with hcond
  · by_cases hmoves : r.moves projection.outcome outcome = true
    · refine ensures_andThen (hf.toPair.ensures_move hC hmoves) ?_
      rintro s₂ ⟨hpair, hsettlement⟩
      refine hmark s₂ _ (hf.of_pair hpair hsettlement rfl) rfl ?_ rfl
      have hknown : projection.outcome ≠ .broadcastUnknown := by
        rcases hfinal with rfl | rfl <;> decide
      show (if projection.outcome = .broadcastUnknown then _ else r.failureCode) ≠ _
      rwa [if_neg hknown]
    · have hterminal : r.isTerminal = true := by
        cases hr : r.isTerminal with
        | true => rfl
        | false => exact absurd (hopen hr) hmoves
      refine Ensures.bind (hf.toPair.ensures_not_move hC (Bool.eq_false_iff.mpr hmoves)) ?_ ?_
      · rintro _ s₂ ⟨rfl, hok⟩
        have hsettled := hok.mp rfl
        have hstatus : r.outcomeStatus = projection.outcome := by
          simp only [Outcome.settledAs, Bool.and_eq_true, decide_eq_true_eq] at hsettled
          exact hsettled.1.1.1
        exact hmark s₂ r hf rfl hcode hstatus
      · rintro e s₂ ⟨rfl, -⟩
        exact Or.inr ⟨⟨e, rfl⟩, rfl, hterminal⟩
  · have hstatus : r.outcomeStatus = projection.outcome := by
      by_contra hne
      exact hcond (Or.inl hne)
    exact hmark s₁ r hf rfl hcode hstatus

theorem Agree.ensures_reconcileFinal (hagree : Agree d s r h) (hC : Works C)
    (hfinal : projection.isFinal) (outcome : Details) :
    Ensures (perform d p) C (reconcileFinal r projection outcome) (After d r h) s := by
  have hopen : r.isTerminal = false → r.moves projection.outcome outcome = true := by
    intro hr
    refine moves_of_ne _ ?_ (allowed_of_open hagree hr projection)
    intro hstatus
    have hterminal : r.isTerminal = true := by
      rw [isTerminal_iff, hstatus]
      rcases hfinal with rfl | rfl
      · exact Or.inl rfl
      · exact Or.inr rfl
    rw [hr] at hterminal
    cases hterminal
  unfold reconcileFinal
  by_cases hprojected : r.projectedOutcomeStatus = some projection.outcome
  · rw [onlyIf, if_neg fun htrue => unprojected_iff.mp htrue hprojected]
    refine (hagree.ensures_settle hC hagree.unorphaned hfinal
      (hagree.executionStatus projection hprojected) rfl hopen).mono ?_
    rintro x s' (hafter | ⟨-, rfl, -⟩)
    · exact hafter
    · exact hagree.after x
  · rw [onlyIf, if_pos (unprojected_iff.mpr hprojected)]
    refine Ensures.bind (hagree.ensures_onTerminal hC hfinal) ?_ ?_
    · rintro _ s₁ (⟨-, -, hsame, h₁, hf, hhandoff, hexecution⟩ | ⟨⟨e, he⟩, -⟩)
      · refine (hf.ensures_settle hC hagree.unorphaned hfinal hexecution hhandoff hopen).mono ?_
        rintro x s' (hafter | ⟨⟨e, rfl⟩, rfl, hterminal⟩)
        · exact hafter
        · -- the row is final otherwise, and nothing was ever projected from it
          have hnone : r.projectedOutcomeStatus = none := by
            cases hr : r.projectedOutcomeStatus with
            | none => rfl
            | some =>
              obtain ⟨hstatus, projection', rfl, hexecution'⟩ := hagree.projected _ hr
              rw [isTerminal_iff, hstatus] at hterminal
              have hmem : h.executionStatus ∈ [.confirmed, .reverted] := by
                rw [hexecution']
                cases projection' with
                | confirmed | reverted => decide
                | broadcastUnknown | confirmationPending =>
                  rcases hterminal with heq | heq <;> cases heq
              have heq := hexecution'.symm.trans (hsame hmem)
              have hprojection : projection' = projection := by
                cases projection' <;> cases projection <;> first | rfl | cases heq
              rw [hr, hprojection] at hprojected
              exact absurd rfl hprojected
          refine ⟨r, h₁, ⟨hf, hagree.unorphaned, hagree.known, fun status heq => ?_,
            fun hr => ?_⟩, rfl, hhandoff, fun hne => absurd rfl hne⟩
          · rw [hnone] at heq
            cases heq
          · rw [hterminal] at hr
            cases hr
      · cases he
    · rintro e s₁ (⟨heq, -⟩ | ⟨-, rfl⟩)
      · cases heq
      · exact hagree.after _

/-- The database works; no recorded block is orphaned; and a transaction whose pending state was
projected is not reported missing. -/
def Steady (r : Outcome) : (o : Op) → Luck → Prop
  | .revalidateBlock number hash, luck =>
    luck.fate = .works ∧ luck.reply (.revalidateBlock number hash) ≠ .ok .orphaned
  | .getTransaction hash, luck =>
    luck.fate = .works ∧ (hash = r.transactionHash →
      r.projectedOutcomeStatus = some .confirmationPending →
      luck.reply (.getTransaction hash) ≠ .ok false)
  | _, luck => luck.fate = .works

theorem works_steady : Works (Steady r) := by
  intro o luck hluck
  cases o with
  | revalidateBlock | getTransaction => exact hluck.1
  | _ => exact hluck

/-- An error from outside ends the round before anything was written. -/
theorem Agree.ensures_ask (hagree : Agree d s r h) {o : Op} {f : Ans o → Code Unit}
    {C : (o : Op) → Luck → Prop}
    (hperform : ∀ luck, perform d p o luck s = some (luck.answer o, s))
    (hf : ∀ luck a, C o luck → luck.reply o = .ok a →
      Ensures (perform d p) C (f a) (After d r h) s) :
    Ensures (perform d p) C (ask o >>= f) (After d r h) s := by
  refine Ensures.bind (Q := fun x s' => s' = s ∧ ∀ a, x = .ok a →
    ∃ luck, C o luck ∧ luck.reply o = .ok a) ?_ ?_ ?_
  · refine ensures_answer hperform fun luck hluck => ⟨rfl, fun a ha => ⟨luck, hluck, ?_⟩⟩
    unfold Luck.answer at ha
    cases hreply : luck.reply o with
    | error =>
      rw [hreply] at ha
      cases ha
    | ok =>
      rw [hreply] at ha
      cases ha
      rfl
  · rintro a s' ⟨rfl, ha⟩
    obtain ⟨luck, hluck, hreply⟩ := ha a rfl
    exact hf luck a hluck hreply
  · rintro e s' ⟨rfl, -⟩
    exact hagree.after _

/-- The failure codes of a transaction that was not found. -/
def recoveryCodes : List (List Char) :=
  [Text.lit "RECOVERY_OBSERVED_HASH_HAS_RECEIPT", Text.lit "RECOVERY_OBSERVED_HASH_IS_PENDING",
    Text.lit "RECOVERY_SIGNER_NONCE_CONFIRMED_PAST_TRANSACTION",
    Text.lit "RECOVERY_SIGNER_NONCE_PENDING_PAST_TRANSACTION",
    Text.lit "RECOVERY_TRANSACTION_NOT_FOUND"]

theorem recoveryCodes_ne : ∀ failureCode ∈ recoveryCodes, failureCode ≠ finalizedBlockOrphaned := by
  decide +kernel

/-- Nothing is written while the provider is asked about the other hash. -/
theorem ensures_observedFailure :
    Ensures (perform d p) C (observedFailure r) (fun x s' => s' = s ∧
      ∀ failureCode, x = .ok (some failureCode) → failureCode ∈ recoveryCodes) s := by
  have hsame : ∀ s' : Store, s' = s → ∀ e, s' = s ∧ ∀ failureCode,
      (Except.error e : Except Thrown (Option (List Char))) = .ok (some failureCode) →
        failureCode ∈ recoveryCodes := fun s' hs' e => ⟨hs', fun _ heq => by cases heq⟩
  have hnone : s = s ∧ ∀ failureCode, (Except.ok none : Except Thrown (Option (List Char))) =
      .ok (some failureCode) → failureCode ∈ recoveryCodes := ⟨rfl, fun _ heq => by cases heq⟩
  unfold observedFailure
  split
  · exact hnone
  · split_ifs
    · exact hnone
    · refine Ensures.bind (ensures_answer (Q := fun _ s' => s' = s) (fun _ => rfl) fun _ _ => rfl)
        ?_ fun e s' hs' => hsame s' hs' e
      rintro receipt s' rfl
      split_ifs
      · refine ⟨rfl, fun failureCode heq => ?_⟩
        cases heq
        exact List.mem_of_elem_eq_true (by decide +kernel)
      · refine Ensures.bind (ensures_answer (Q := fun _ s₁ => s₁ = s') (fun _ => rfl)
          fun _ _ => rfl) ?_ fun e s₁ hs₁ => hsame s₁ hs₁ e
        rintro pending s₁ rfl
        cases pending with
        | false => exact hnone
        | true =>
          refine ⟨rfl, fun failureCode heq => ?_⟩
          cases heq
          exact List.mem_of_elem_eq_true (by decide +kernel)

theorem ensures_missingFailure :
    Ensures (perform d p) C (missingFailure r) (fun x s' => s' = s ∧
      ∀ failureCode, x = .ok failureCode → failureCode ∈ recoveryCodes) s := by
  have hcode : ∀ failureCode ∈ recoveryCodes, s = s ∧ ∀ failureCode',
      (Except.ok failureCode : Except Thrown (List Char)) = .ok failureCode' →
        failureCode' ∈ recoveryCodes := by
    intro failureCode hmem
    refine ⟨rfl, fun failureCode' heq => ?_⟩
    cases heq
    exact hmem
  refine Ensures.bind (ensures_answer (Q := fun _ s' => s' = s) (fun _ => rfl) fun _ _ => rfl)
    ?_ fun e s' hs' => ⟨hs', fun _ heq => by cases heq⟩
  rintro confirmedNonce s' rfl
  refine Ensures.bind (ensures_answer (Q := fun _ s₁ => s₁ = s') (fun _ => rfl) fun _ _ => rfl)
    ?_ fun e s₁ hs₁ => ⟨hs₁, fun _ heq => by cases heq⟩
  rintro pendingNonce s₁ rfl
  split_ifs
  · exact hcode _ (List.mem_of_elem_eq_true (by decide +kernel))
  · exact hcode _ (List.mem_of_elem_eq_true (by decide +kernel))
  · exact hcode _ (List.mem_of_elem_eq_true (by decide +kernel))

theorem Agree.ensures_reconcileMissing (hagree : Agree d s r h) (hC : Works C)
    (hopen : r.isTerminal = false)
    (hpending : r.projectedOutcomeStatus ≠ some .confirmationPending) :
    Ensures (perform d p) C (reconcileMissing r) (After d r h) s := by
  have hunknown : ∀ failureCode ∈ recoveryCodes,
      Ensures (perform d p) C (projectBroadcastUnknown r failureCode) (After d r h) s :=
    fun failureCode hmem => hagree.ensures_projectBroadcastUnknown hC hopen hpending
      (recoveryCodes_ne failureCode hmem)
  refine Ensures.bind ensures_observedFailure ?_ ?_
  · rintro failure s' ⟨rfl, hcodes⟩
    cases failure with
    | some failureCode => exact hunknown failureCode (hcodes failureCode rfl)
    | none =>
      refine Ensures.bind ensures_missingFailure ?_ ?_
      · rintro failureCode s₁ ⟨rfl, hcodes⟩
        exact hunknown failureCode (hcodes failureCode rfl)
      · rintro e s₁ ⟨rfl, -⟩
        exact hagree.after _
  · rintro e s' ⟨rfl, -⟩
    exact hagree.after _

theorem Agree.ensures_reconcileObserved (hagree : Agree d s r h) :
    Ensures (perform d p) (Steady r) (reconcileObserved r) (After d r h) s := by
  refine hagree.ensures_ask (fun _ => rfl) fun _ receipt _ _ => ?_
  cases receipt with
  | some =>
    refine hagree.ensures_ask (fun _ => rfl) fun _ evidence _ _ => ?_
    cases evidence with
    | none => exact hagree.ensures_reconcileUnfinal works_steady
    | some =>
      refine hagree.ensures_reconcileFinal works_steady ?_ _
      split_ifs
      · exact Or.inl rfl
      · exact Or.inr rfl
  | none =>
    split_ifs with hterminal
    · exact hagree.after _
    · have hopen : r.isTerminal = false := Bool.eq_false_iff.mpr hterminal
      refine hagree.ensures_ask (fun _ => rfl) fun luck found hluck hreply => ?_
      cases found with
      | true => exact hagree.ensures_reconcilePending works_steady hopen
      | false =>
        exact hagree.ensures_reconcileMissing works_steady hopen fun hprojected =>
          hluck.2 rfl hprojected hreply

/-- One round keeps the agreement. -/
theorem Agree.ensures_reconcile (hagree : Agree d s r h) :
    Ensures (perform d p) (Steady r) (reconcile r) (After d r h) s := by
  unfold reconcile
  rw [if_neg hagree.unorphaned]
  split_ifs with hterminal
  · split
    · refine hagree.ensures_ask (fun _ => rfl) fun luck canonicality hluck hreply => ?_
      cases canonicality with
      | orphaned => exact absurd hreply hluck.2
      | unavailable => exact hagree.after _
      | canonical => exact hagree.ensures_reconcileObserved
    · exact hagree.ensures_reconcileObserved
  · exact hagree.ensures_reconcileObserved

/-! ### Runs of the reconciler -/

/-- One round on the row with this hash, with this result. -/
def Round (d : Deployment) (p : ℕ) (hash : List Char) (s : Store) (x : Except Thrown Unit)
    (s' : Store) : Prop :=
  ∃ r, Table.lookup Gasless.outcomes hash s.outcomes = some r ∧
    RunsTo (perform d p) (Steady r) s (reconcile r) x s'

/-- A row whose transaction was prepared for the handoff, before the reconciler has seen it and
without events about it. -/
structure Unseen (d : Deployment) (s : Store) (r : Outcome) (h : Handoff) : Prop
    extends Pair s r h where
  keys : DistinctKeys d r h
  unreconciled : h.reconciliationStatus ≠ .matched ∧ h.reconciliationStatus ≠ .drift
  status : h.executionStatus ∈ early
  new : ∀ projection : Projection, ¬ HasEvent d s r h projection.eventType
  unorphaned : r.failureCode ≠ some finalizedBlockOrphaned
  known : r.outcomeStatus ≠ .replaced ∧ r.outcomeStatus ≠ .failed
  unprojected : r.projectedOutcomeStatus = none

theorem Unseen.agree (hunseen : Unseen d s r h) : Agree d s r h where
  toPair := hunseen.toPair
  keys := hunseen.keys
  unreconciled := hunseen.unreconciled
  status := List.mem_append_left _ hunseen.status
  seen := fun projection hevent => absurd hevent (hunseen.new projection)
  unorphaned := hunseen.unorphaned
  known := hunseen.known
  projected := by
    intro status heq
    rw [hunseen.unprojected] at heq
    cases heq
  untouched := fun _ _ => hunseen.status

/-- In a round, what the ledger accepts is projected and accepted by the handoff, and what is marked
as projected is what the handoff says. -/
structure Simulated (hash : List Char) (handoffId : ℕ)
    (t : Transition Store (Except Thrown Unit)) : Prop where
  rows : ∃ r r' h', Table.lookup Gasless.outcomes hash t.source.outcomes = some r ∧
    Table.lookup Gasless.outcomes hash t.target.outcomes = some r' ∧
    getHandoff handoffId t.target.settlement = some h' ∧
    (r'.outcomeStatus ≠ r.outcomeStatus →
      t.label = .ok () ∧ r'.projectedOutcomeStatus = some r'.outcomeStatus) ∧
    ∀ status, r'.projectedOutcomeStatus = some status → r'.outcomeStatus = status ∧
      ∃ projection : Projection, projection.outcome = status ∧
        h'.executionStatus = projection.execution

theorem Agree.round (hagree : Agree d s r h) {x : Except Thrown Unit}
    (hround : Round d p r.transactionHash s x s') :
    After d r h x s' ∧ Simulated r.transactionHash h.handoffId ⟨s, x, s'⟩ := by
  obtain ⟨r₀, hlookup, hrun⟩ := hround
  rw [hagree.lookup, Option.some.injEq] at hlookup
  subst hlookup
  have hafter := hagree.ensures_reconcile.result hrun
  refine ⟨hafter, ?_⟩
  obtain ⟨r', h', hagree', hid, hhandoff, hmoved⟩ := hafter
  have hlookup' := hagree'.lookup
  have hget := hagree'.getHandoff
  rw [hhandoff] at hget
  rw [Outcome.transactionHash, hid] at hlookup'
  exact ⟨r, r', h', hagree.lookup, hlookup', hget, hmoved, hagree'.projected⟩

/-- **The handoff follows the ledger**, as long as no recorded block is orphaned and a transaction
whose pending state was projected is not reported missing. -/
theorem outcomes_simulated (hunseen : Unseen d s r h)
    {tr : List (Transition Store (Except Thrown Unit))}
    (hrun : Run (Round d p r.transactionHash) s tr s') :
    ∀ t ∈ tr, Simulated r.transactionHash h.handoffId t := by
  have hinv : (∀ t ∈ tr, Simulated r.transactionHash h.handoffId t) ∧
      ∃ r' h', Agree d s' r' h' ∧ r'.identity = r.identity ∧ h'.handoffId = h.handoffId := by
    refine hrun.history (I := fun tr s => (∀ t ∈ tr, Simulated r.transactionHash h.handoffId t) ∧
      ∃ r' h', Agree d s r' h' ∧ r'.identity = r.identity ∧ h'.handoffId = h.handoffId)
      ⟨fun _ hmem => absurd hmem List.not_mem_nil, r, h, hunseen.agree, rfl, rfl⟩ ?_
    rintro tr s₁ x s₂ - ⟨hall, r₁, h₁, hagree, hid, hhandoff⟩ hround
    have hhash : r.transactionHash = r₁.transactionHash := by
      rw [Outcome.transactionHash, ← hid]
    rw [hhash] at hround
    obtain ⟨⟨r₂, h₂, hagree₂, hid₂, hhandoff₂, -⟩, hsimulated⟩ := hagree.round hround
    rw [← hhash, hhandoff] at hsimulated
    refine ⟨fun t ht => ?_, r₂, h₂, hagree₂, hid₂.trans hid, hhandoff₂.trans hhandoff⟩
    rcases List.mem_append.mp ht with hold | hnew
    · exact hall t hold
    · rw [List.mem_singleton.mp hnew]
      exact hsimulated
  exact hinv.1

/-! ### Samples -/

/-- A request that died right after its transaction was prepared. -/
def preparedStore : Store :=
  ⟨[.createHandoff gaslessTerms, sampleEvent .accepted .accepted .pending].foldl next State.empty,
    [.prepare sampleTransaction 10], none⟩

def preparedHandoff : Handoff :=
  preparedStore.settlement.handoffs.headD (.create 0 gaslessTerms)

/-- What the provider finds of the transaction. -/
def observingLuck (receipt : Option Receipt) (found : Bool) : Luck :=
  { sampleLuck 5000 with
    reply
      | .getTransactionReceipt _ => .ok receipt
      | .getTransaction _ => .ok found
      | o => (sampleLuck 5000).reply o }

theorem preparedStore_unseen :
    Unseen sampleDeployment preparedStore (.prepare sampleTransaction 10) preparedHandoff where
  valid := List.pairwise_singleton _ _
  row := List.mem_singleton_self _
  sound := sound_of_run (run_trace _ _ State.empty) Sound.empty
  handoff := by decide +kernel
  resource := by decide +kernel
  keys := by
    intro type type' heq
    cases type <;> cases type' <;> first | rfl | exact absurd heq (by decide +kernel)
  unreconciled := by decide +kernel
  status := by decide +kernel
  new := by
    intro projection
    unfold HasEvent
    cases projection <;> decide +kernel
  unorphaned := by decide
  known := by decide
  unprojected := rfl

/-- A final receipt is found for the prepared transaction. -/
theorem outcomes_simulated_confirmed :
    ∃ x s', Run (Round sampleDeployment 0 sampleTransaction.transactionHash) preparedStore
      [⟨preparedStore, x, s'⟩] s' ∧
      s'.outcomes.map Outcome.projectedOutcomeStatus = [some .confirmed] ∧
      Simulated sampleTransaction.transactionHash preparedHandoff.handoffId
        ⟨preparedStore, x, s'⟩ := by
  set luck := observingLuck (some ⟨1, 100, hashOf '1', 21000, 20⟩) true with hluck
  have hround : (performs (world sampleDeployment) 0 luck 50
      (reconcile (.prepare sampleTransaction 10)) preparedStore).any (fun x =>
        x.2.1.result.isSome && (x.2.2.outcomes.map Outcome.projectedOutcomeStatus =
          [some OutcomeStatus.confirmed] : Bool)) = true := by
    decide +kernel
  have hsteady : ∀ o, Steady (.prepare sampleTransaction 10) o luck := by
    intro o
    cases o with
    | revalidateBlock | getTransaction => exact ⟨rfl, by simp [hluck, observingLuck, sampleLuck]⟩
    | _ => rfl
  cases hperforms : performs (world sampleDeployment) 0 luck 50
      (reconcile (.prepare sampleTransaction 10)) preparedStore with
  | none =>
    rw [hperforms] at hround
    cases hround
  | some y =>
    obtain ⟨events, prog, s'⟩ := y
    rw [hperforms, Option.any_some, Bool.and_eq_true, decide_eq_true_eq] at hround
    obtain ⟨x, hx⟩ := Option.isSome_iff_exists.mp hround.1
    have hrun : Run (Round sampleDeployment 0 sampleTransaction.transactionHash) preparedStore
        [⟨preparedStore, x, s'⟩] s' :=
      .single ⟨_, rfl, RunsTo.of_performs hsteady hperforms hx⟩
    exact ⟨x, s', hrun, hround.2, outcomes_simulated preparedStore_unseen hrun _
      (List.mem_singleton_self _)⟩

def preparedConfig : Config Op Ans Thrown Unit Store ℕ := ⟨preparedStore, fun _ => none⟩

/-- The reconciler passes over the table with this luck. -/
def pass (luck : Luck) : List (Choice ℕ Luck Request) :=
  [.call 0 (.processUnresolved 25), .acts 0 luck 100, .done 0]

/-- What the ledger says of its rows, and what was marked as projected. -/
def ledger (c : Config Op Ans Thrown Unit Store ℕ) : List (OutcomeStatus × Option OutcomeStatus) :=
  c.store.outcomes.map fun r => (r.outcomeStatus, r.projectedOutcomeStatus)

/-- **A transaction that was seen pending and is then not found**: the ledger goes back to
`broadcast_unknown`, the handoff does not.  If it was unknown before it was pending, the way back is
even marked as projected. -/
theorem pending_then_missing :
    (∃ tr c', Run (Interaction.Step (world sampleDeployment)) preparedConfig tr c' ∧
      ledger c' = [(.broadcastUnknown, some .confirmationPending)] ∧
      statuses c' = [.confirmationPending]) ∧
    ∃ tr c', Run (Interaction.Step (world sampleDeployment)) preparedConfig tr c' ∧
      ledger c' = [(.broadcastUnknown, some .broadcastUnknown)] ∧
      statuses c' = [.confirmationPending] := by
  constructor
  · exact exists_end_of_simulate (pass (observingLuck none true) ++
      pass (observingLuck none false)) (by decide +kernel)
  · exact exists_end_of_simulate (pass (observingLuck none false) ++
      pass (observingLuck none true) ++ pass (observingLuck none false)) (by decide +kernel)

end Cotsel.Gateway.Gasless
