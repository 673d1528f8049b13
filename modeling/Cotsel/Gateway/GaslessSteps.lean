import Cotsel.Gateway.Gasless

/-!
# What the gasless programs ask for, and what it does

The reconciler only observes the chain and writes down what it saw (`Projects`, `Recovers`); a
request does nothing that outlasts it before it signs (`Prepares`).  `Change` lists what one
operation can do to the store.
-/

namespace Cotsel.Gateway.Gasless

open Interaction Settlement

variable (d : Deployment)

/-! ### The reconciler -/

/-- The operations by which the reconciler follows a transaction; it records only events with a
handoff and a status that satisfy `P`. -/
def Projects (P : ℕ → ExecutionStatus → Prop) : Op → Prop
  | .recordEvent input => P input.handoffId input.executionStatus
  | .getHandoff _ | .transitionOutcome _ _ _ | .readOutcome _ | .markOrphaned _
  | .applyProjection _ _ | .markRecoveryAttempted _ | .getTransactionReceipt _
  | .getTransaction _ | .getTransactionCount _ _ | .revalidateBlock _ _ => True
  | _ => False

/-- The operations of the reconciler. -/
def Recovers : Op → Prop
  | .verifyReceipt _ _ | .listRecoveryCandidates _ => True
  | o => Projects (fun _ _ => True) o

variable {α : Type}

theorem Asks.recovers {p : Code α} (h : Asks (Projects fun _ _ => True) p) :
    Asks Recovers p := by
  refine h.mono fun o ho => ?_
  cases o <;> first | exact trivial | exact ho

variable {C : Op → Prop} {hash : List Char} {status : OutcomeStatus} {projection : Projection}

section Reconciler

variable {record : Outcome} {P : ℕ → ExecutionStatus → Prop}

/-- The handoff of the row may get this status. -/
def Outcome.May (record : Outcome) (P : ℕ → ExecutionStatus → Prop) (status : ExecutionStatus) :
    Prop :=
  ∀ handoffId, record.resource = .settlementHandoff handoffId → P handoffId status

theorem asks_transition
    {details : Details} (htransition : C (.transitionOutcome hash status details))
    (hread : C (.readOutcome hash)) : Asks C (transition hash status details) := by
  refine (Asks.call htransition).bind fun changed => Asks.ite .pure ?_
  exact (Asks.call hread).bind fun existing => Asks.ite .pure .throw

theorem asks_onlyIf {condition : Prop} [Decidable condition] {p : Code Unit}
    (h : Asks C p) : Asks C (onlyIf condition p) :=
  Asks.ite h .pure

theorem asks_logged {p : Code Unit} (h : Asks C p) : Asks C (logged p) :=
  h.tryCatch fun _ => .pure

theorem asks_markProjectionApplied :
    Asks (Projects P) (markProjectionApplied hash status) :=
  (Asks.call trivial).bind fun _ => Asks.ite .pure .throw

theorem asks_requireHandoff {handoffId : ℕ} :
    Asks (Projects P) (requireHandoff record handoffId) := by
  refine (Asks.call trivial).bind fun handoff => ?_
  cases handoff with
  | none => exact .throw
  | some => exact .pure

theorem asks_recordHandoffOutcome
    (h : record.May P projection.execution) :
    Asks (Projects P) (recordHandoffOutcome record projection) := by
  unfold recordHandoffOutcome
  split
  · exact .pure
  · next handoffId hresource =>
    exact asks_requireHandoff.bind fun handoff =>
      (Asks.call (o := Op.recordEvent _) (h handoffId hresource)).bind fun _ => .pure

theorem asks_onOrphaned (h : record.May P .confirmationPending) :
    Asks (Projects P) (onOrphaned record) := by
  unfold onOrphaned
  split
  · exact .pure
  · next handoffId hresource =>
    exact (Asks.call (o := Op.recordEvent _) (h handoffId hresource)).bind fun _ => .pure

theorem asks_onTerminal (hpending : record.May P .confirmationPending)
    (h : record.May P projection.execution) : Asks (Projects P) (onTerminal record projection) := by
  refine Asks.bind ?_ fun _ => asks_recordHandoffOutcome h
  unfold prepareTerminalProjection
  split
  · exact .pure
  · exact asks_requireHandoff.bind fun handoff =>
      Asks.ite (asks_recordHandoffOutcome hpending) .pure

theorem asks_project
    (h : record.May P projection.execution) : Asks (Projects P) (do
      recordHandoffOutcome record projection
      markProjectionApplied record.transactionHash status) :=
  (asks_recordHandoffOutcome h).bind fun _ => asks_markProjectionApplied

theorem asks_ledger {details : Details} :
    Asks (Projects P) (transition hash status details) := by
  refine asks_transition ?_ ?_
  · trivial
  · trivial

theorem asks_projectBroadcastUnknown {failureCode : List Char}
    (h : record.May P .broadcastUnknown) :
    Asks (Projects P) (projectBroadcastUnknown record failureCode) :=
  (asks_onlyIf asks_ledger).bind fun _ => asks_onlyIf (asks_project h)

theorem asks_reconcileFinal {outcome : Details}
    (hpending : record.May P .confirmationPending) (h : record.May P projection.execution) :
    Asks (Projects P) (reconcileFinal record projection outcome) :=
  (asks_onlyIf (asks_onTerminal hpending h)).bind fun _ =>
    (asks_onlyIf asks_ledger).bind fun _ => asks_markProjectionApplied

theorem asks_reconcileUnfinal (h : record.May P .confirmationPending) :
    Asks (Projects P) (reconcileUnfinal record) :=
  asks_onlyIf (asks_ledger.bind fun _ => asks_onlyIf (asks_project h))

theorem asks_reconcilePending (h : record.May P .confirmationPending) :
    Asks (Projects P) (reconcilePending record) :=
  (asks_onlyIf (asks_recordHandoffOutcome h)).bind fun _ =>
    (asks_onlyIf asks_ledger).bind fun _ => asks_onlyIf asks_markProjectionApplied

theorem asks_observedFailure : Asks (Projects P) (observedFailure record) := by
  unfold observedFailure
  split
  · exact .pure
  · refine Asks.ite .pure ((Asks.call trivial).bind fun receipt => Asks.ite .pure ?_)
    exact (Asks.call trivial).bind fun pending => Asks.ite .pure .pure

theorem asks_reconcileMissing (h : record.May P .broadcastUnknown) :
    Asks (Projects P) (reconcileMissing record) := by
  refine asks_observedFailure.bind fun failure => ?_
  cases failure with
  | some => exact asks_projectBroadcastUnknown h
  | none =>
    refine Asks.bind ?_ fun failureCode => asks_projectBroadcastUnknown h
    refine (Asks.call trivial).bind fun confirmedNonce => (Asks.call trivial).bind fun pending => ?_
    exact Asks.ite .pure (Asks.ite .pure .pure)

theorem asks_unreceipted (hpending : record.May P .confirmationPending)
    (hunknown : record.May P .broadcastUnknown) :
    Asks (Projects P) (if record.isTerminal then pure ()
      else do
        if ← ask (.getTransaction record.transactionHash) then reconcilePending record
        else reconcileMissing record) := by
  refine Asks.ite .pure ((Asks.call trivial).bind fun pending => ?_)
  exact Asks.ite (asks_reconcilePending hpending) (asks_reconcileMissing hunknown)

theorem asks_orphaned (h : record.May P .confirmationPending) : Asks (Projects P) (do
    onOrphaned record
    markProjectionApplied record.transactionHash .confirmationPending) :=
  (asks_onOrphaned h).bind fun _ => asks_markProjectionApplied

theorem asks_reconcileOrphaned (h : record.May P .confirmationPending) :
    Asks (Projects P) (reconcileOrphaned record) := by
  refine Asks.bind ?_ fun _ => asks_orphaned h
  exact (Asks.call trivial).bind fun _ => Asks.ite .pure .throw

theorem asks_reconcileObserved : Asks Recovers (reconcileObserved record) := by
  refine (Asks.call trivial).bind fun receipt => ?_
  cases receipt with
  | some =>
    refine (Asks.call trivial).bind fun evidence => ?_
    cases evidence with
    | none => exact Asks.recovers (asks_reconcileUnfinal fun _ _ => trivial)
    | some =>
      exact Asks.recovers (asks_reconcileFinal (fun _ _ => trivial) fun _ _ => trivial)
  | none => exact Asks.recovers (asks_unreceipted (fun _ _ => trivial) fun _ _ => trivial)

theorem asks_reconcile : Asks Recovers (reconcile record) := by
  refine Asks.ite (Asks.recovers (asks_onlyIf (asks_orphaned fun _ _ => trivial)))
    (Asks.ite ?_ asks_reconcileObserved)
  split
  · refine (Asks.call trivial).bind fun canonicality => ?_
    cases canonicality with
    | orphaned => exact Asks.recovers (asks_reconcileOrphaned fun _ _ => trivial)
    | unavailable => exact .pure
    | canonical => exact asks_reconcileObserved
  · exact asks_reconcileObserved

theorem asks_processUnresolved {limit : ℕ} : Asks Recovers (processUnresolved limit) := by
  refine (Asks.call trivial).bind fun records => ?_
  induction records with
  | nil => exact .pure
  | cons record records ih =>
    refine (asks_logged asks_reconcile).bind fun _ => ?_
    exact (asks_logged (Asks.call trivial)).bind fun _ => ih

end Reconciler

/-! ### A request before it signs -/

/-- The operations of a request that do not touch the ledger. -/
def Prepares : Op → Prop
  | .executorAddress | .getBalance _ | .simulateCall _ | .estimateGas _ | .getFeeData
  | .getTransactionCount _ _ | .reserveNonce _ _ | .beginSigning _ _ | .signTransaction _ _
  | .recordSigned _ => True
  | _ => False

section Request

variable {d} {request : CreateTrade}

theorem asks_assertBalance {address : List Char} : Asks Prepares (assertBalance d address) :=
  (Asks.call trivial).bind fun _ => Asks.ite .throw .pure

theorem asks_assertSignerBalance : Asks Prepares (assertSignerBalance d) :=
  (Asks.call trivial).bind fun _ => asks_assertBalance.bind fun _ => .pure

theorem asks_simulateTransaction : Asks Prepares (simulateTransaction d request) :=
  (Asks.call trivial).bind fun _ => (Asks.call trivial).bind fun _ => Asks.ite .throw .pure

theorem asks_simulateCreateTrade : Asks Prepares (simulateCreateTrade d request) :=
  asks_assertSignerBalance.bind fun _ => asks_simulateTransaction

theorem asks_assertGasSpendCap {gasEstimate : ℕ} :
    Asks Prepares (assertGasSpendCap d gasEstimate) := by
  refine (Asks.call trivial).bind fun feeData => ?_
  split
  · exact .throw
  · exact Asks.ite .throw (Asks.ite .throw (Asks.ite .throw .pure))

end Request

/-! ### What an operation does -/

inductive Change (s : Store) : Op → Store → Prop
  | none {o : Op} : Change s o s
  | record {input : EventInput} {now : ℕ} {recorded : Recorded} {s' : Store}
      (h : s.recordEvent d input now = .ok (recorded, s')) : Change s (.recordEvent input) s'
  | lock {lock : Option ℕ} : Change s .lock { s with lock := lock }
  | unlock {lock : Option ℕ} : Change s .unlock { s with lock := lock }
  | prepare {identity : Identity} {now : ℕ} {s' : Store}
      (h : s.recordPrepared identity now = .ok ((), s')) : Change s (.recordPrepared identity) s'
  | move {hash : List Char} {status : OutcomeStatus} {details : Details} :
      Change s (.transitionOutcome hash status details)
        (s.updateOutcome hash (Outcome.moves status details) (Outcome.move status details)).2
  | orphan {hash : List Char} :
      Change s (.markOrphaned hash) (s.updateOutcome hash Outcome.isTerminal Outcome.orphan).2
  | project {hash : List Char} {status : OutcomeStatus} :
      Change s (.applyProjection hash status)
        (s.updateOutcome hash (fun r => r.outcomeStatus = status)
          fun r => { r with projectedOutcomeStatus := some status }).2
  | attempt {hash : List Char} {now : ℕ} :
      Change s (.markRecoveryAttempted hash)
        (s.updateOutcome hash (fun _ => true) fun r => { r with attemptedAt := now }).2

/-- The errors of a program are only logged. -/
theorem wp_logged {τ : Type} {P : Protocol Op Ans Thrown τ} {p : Code Unit} {t : τ}
    {Q : τ → Unit → Prop} {X : τ → Thrown → Prop} (h : wp P p Q (fun t _ => Q t ()) t) :
    wp P (logged p) Q X t := by
  unfold logged
  rw [wp_tryCatch]
  exact h

variable {d} {p : ℕ} {o : Op} {luck : Luck} {s s' : Store} {r : Except Thrown (Ans o)}

theorem statement_cases {effect : Except Thrown (α × Store)} {fate : Fate}
    {x : Except Thrown α} (h : statement s effect fate = (x, s')) :
    s' = s ∨ ∃ a, effect = .ok (a, s') := by
  cases fate with
  | lost =>
    cases h
    exact Or.inl rfl
  | works | unacknowledged =>
    rcases effect with _ | ⟨a, _⟩
    · cases h
      exact Or.inl rfl
    · cases h
      exact Or.inr ⟨a, rfl⟩

theorem statement_eq_ok {effect : Except Thrown (α × Store)} {fate : Fate} {a : α}
    (h : statement s effect fate = (.ok a, s')) : effect = .ok (a, s') := by
  cases fate with
  | lost => cases h
  | works =>
    rcases effect with e | ⟨a', s₁⟩
    · cases h
    · cases h
      rfl
  | unacknowledged => rcases effect with _ | ⟨_, _⟩ <;> cases h

theorem change_statement {effect : Except Thrown (α × Store)} {fate : Fate}
    {x : Except Thrown α} (h : statement s effect fate = (x, s'))
    (heffect : ∀ a s₁, effect = .ok (a, s₁) → Change d s o s₁) : Change d s o s' := by
  rcases statement_cases h with rfl | ⟨a, ha⟩
  · exact .none
  · exact heffect a s' ha

theorem change_of_perform (h : perform d p o luck s = some (r, s')) : Change d s o s' := by
  cases o with
  | lock =>
    simp only [perform] at h
    split at h
    all_goals cases h
    · exact .lock
    · exact .none
    · exact .none
  | unlock =>
    have hchange : ∀ r', some (r', if s.lock = some p then { s with lock := none } else s) =
        some (r, s') → Change d s .unlock s' := by
      intro _ heq
      split_ifs at heq
      · cases heq
        exact .unlock
      · cases heq
        exact .none
    simp only [perform] at h
    split at h
    all_goals exact hchange _ h
  | recordEvent =>
    exact change_statement (Option.some.inj h) fun _ _ heq => .record heq
  | recordPrepared =>
    exact change_statement (Option.some.inj h) fun _ _ heq => .prepare heq
  | transitionOutcome =>
    refine change_statement (Option.some.inj h) fun a s₁ heq => ?_
    cases heq
    exact .move
  | markOrphaned =>
    refine change_statement (Option.some.inj h) fun a s₁ heq => ?_
    cases heq
    exact .orphan
  | applyProjection =>
    refine change_statement (Option.some.inj h) fun a s₁ heq => ?_
    cases heq
    exact .project
  | markRecoveryAttempted =>
    refine change_statement (Option.some.inj h) fun a s₁ heq => ?_
    cases heq
    exact .attempt
  | getHandoff | readOutcome | listRecoveryCandidates =>
    refine change_statement (Option.some.inj h) fun a s₁ heq => ?_
    cases heq
    exact .none
  | _ =>
    cases h
    exact .none

theorem Change.settlement (h : Change d s o s') :
    s'.settlement = s.settlement ∨ ∃ input now recorded, o = .recordEvent input ∧
      Settlement.recordEvent d.sha256 d.callbacks { input with observedAt := some now } now
        s.settlement = .ok (recorded, s'.settlement) := by
  cases h with
  | @record input now recorded _ h =>
    unfold Store.recordEvent at h
    split at h
    · next recorded' settlement heq =>
      cases h
      exact Or.inr ⟨input, now, recorded, rfl, heq⟩
    · cases h
  | @prepare _ _ _ h =>
    unfold Store.recordPrepared at h
    split at h
    · cases h
      exact Or.inl rfl
    all_goals cases h
  | _ => exact Or.inl rfl

theorem effect_recordEvent {input : EventInput} {now : ℕ} {settlement : State}
    {recorded : Recorded} (hs : Sound s.settlement)
    (h : Settlement.recordEvent d.sha256 d.callbacks { input with observedAt := some now } now
      s.settlement = .ok (recorded, settlement)) :
    Effect s.settlement (.recordExecutionEvent (input.persist d.sha256 now)
      (d.callbacks.plan input.requestId now)) settlement :=
  effect_recordExecutionEvent hs h

/-- No event was recorded with the key of this one. -/
def Store.Fresh (d : Deployment) (s : Store) (input : EventInput) : Prop :=
  ∀ e ∈ s.settlement.events, ¬ (e.handoffId = input.handoffId ∧
    e.dedupeKey = dedupeKey d.sha256 input.handoffId input.eventType input.requestId)

/-- The handoff of a new event is in the status of the event. -/
theorem recordEvent_eq_ok {input : EventInput} {now : ℕ} {recorded : Recorded}
    (hs : Sound s.settlement) (h : s.recordEvent d input now = .ok (recorded, s')) :
    ¬ s.Fresh d input ∧ s'.settlement = s.settlement ∨
      s.Fresh d input ∧ ∃ h ∈ s'.settlement.handoffs, h.handoffId = input.handoffId ∧
        h.executionStatus = input.executionStatus := by
  unfold Store.recordEvent at h
  split at h
  · next hrun =>
    cases h
    rcases recordExecutionEvent_eq_ok hs hrun with
      hseen | ⟨hnew, h₀, hmem, body, hid, -, -, rfl⟩
    · exact Or.inl hseen
    · refine Or.inr ⟨hnew, _, Table.mem_modify_self hmem hid rfl, ?_, ?_⟩
      · rw [CallbackPlan.written_handoffId, hid]
        rfl
      · rw [CallbackPlan.written_executionStatus]
        rfl
  · cases h

theorem Change.sound (h : Change d s o s') (hs : Sound s.settlement) : Sound s'.settlement := by
  rcases h.settlement with heq | ⟨_, _, _, -, hrecord⟩
  · rwa [heq]
  · exact hs.effect (effect_recordEvent hs hrecord)

end Cotsel.Gateway.Gasless
