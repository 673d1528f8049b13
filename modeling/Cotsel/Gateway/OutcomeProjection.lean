import Cotsel.Gateway.GaslessSteps

/-!
# Projecting the ledger onto settlement handoffs

What the reconciler does to one row of the ledger and to its handoff, when it runs alone on a
database that works.  `Pair` holds a row and its handoff; the lemmas here say what one statement
makes of them.
-/

namespace Cotsel.Gateway.Gasless

open Interaction Settlement

variable {d : Deployment} {p : ℕ} {C : (o : Op) → Luck → Prop} {s s' : Store} {r r' : Outcome}
  {h h' : Handoff}

/-! ### A working database -/

def Works (C : (o : Op) → Luck → Prop) : Prop := ∀ o luck, C o luck → luck.fate = .works

theorem ensures_statement {o : Op} (effect : ℕ → Except Thrown (Ans o × Store))
    {Q : Except Thrown (Ans o) → Store → Prop} (hC : Works C)
    (hperform : ∀ luck, perform d p o luck s = some (statement s (effect luck.time) luck.fate))
    (hok : ∀ now a s', effect now = .ok (a, s') → Q (.ok a) s')
    (herror : ∀ now e, effect now = .error e → Q (.error e) s) :
    Ensures (perform d p) C (ask o) Q s := by
  refine Ensures.call fun luck hluck => ?_
  rw [hperform, hC o luck hluck]
  rcases heffect : effect luck.time with e | ⟨a, s'⟩
  · exact ⟨_, _, rfl, herror _ e heffect⟩
  · exact ⟨_, _, rfl, hok _ a s' heffect⟩

theorem ensures_ok {o : Op} {x : Ans o × Store} {Q : Except Thrown (Ans o) → Store → Prop}
    (hC : Works C) (hperform : ∀ luck, perform d p o luck s = some (statement s (.ok x) luck.fate))
    (hQ : Q (.ok x.1) x.2) : Ensures (perform d p) C (ask o) Q s := by
  refine ensures_statement (fun _ => .ok x) hC hperform (fun _ a s' heq => ?_)
    fun _ _ heq => ?_
  · cases heq
    exact hQ
  · cases heq

theorem ensures_recordEvent {input : EventInput} {Q : Except Thrown Recorded → Store → Prop}
    (hC : Works C) (hok : ∀ now a s', s.recordEvent d input now = .ok (a, s') → Q (.ok a) s')
    (herror : ∀ now e, s.recordEvent d input now = .error e → Q (.error e) s) :
    Ensures (perform d p) C (ask (.recordEvent input)) Q s :=
  ensures_statement (o := .recordEvent input) (fun now => s.recordEvent d input now) hC
    (fun _ => rfl) hok herror

theorem ensures_answer {o : Op} {Q : Except Thrown (Ans o) → Store → Prop}
    (hperform : ∀ luck, perform d p o luck s = some (luck.answer o, s))
    (hQ : ∀ luck, C o luck → Q (luck.answer o) s) : Ensures (perform d p) C (ask o) Q s :=
  Ensures.call fun luck hluck => ⟨_, _, hperform luck, hQ luck hluck⟩

/-! ### A row and its handoff -/

/-- What follows a program that returns `a`. -/
theorem ensures_andThen {α β : Type} {prog : Code α} {f : α → Code β} {a : α} {I : Store → Prop}
    {R : Except Thrown β → Store → Prop}
    (hprog : Ensures (perform d p) C prog (fun x s' => x = .ok a ∧ I s') s)
    (hf : ∀ s', I s' → Ensures (perform d p) C (f a) R s') :
    Ensures (perform d p) C (prog >>= f) R s := by
  refine Ensures.bind hprog ?_ ?_
  · rintro _ s' ⟨heq, hs'⟩
    cases heq
    exact hf s' hs'
  · rintro _ _ ⟨heq, -⟩
    cases heq

/-- The row is in the ledger, and the handoff it was prepared for is in the settlement tables. -/
structure Pair (s : Store) (r : Outcome) (h : Handoff) : Prop where
  valid : Table.Valid Gasless.outcomes s.outcomes
  row : r ∈ s.outcomes
  sound : Sound s.settlement
  handoff : h ∈ s.settlement.handoffs
  resource : r.resource = .settlementHandoff h.handoffId

namespace Pair

variable (hpair : Pair s r h)

include hpair

theorem lookup : Table.lookup Gasless.outcomes r.transactionHash s.outcomes = some r :=
  hpair.valid.lookup_eq_some.mpr ⟨hpair.row, rfl⟩

theorem getHandoff : Settlement.getHandoff h.handoffId s.settlement = some h :=
  hpair.sound.getHandoff hpair.handoff

/-- An update of the row that keeps its identity. -/
theorem update (cond : Outcome → Bool) (change : Outcome → Outcome) (hcond : cond r = true)
    (hidentity : ∀ r, (change r).identity = r.identity) :
    (s.updateOutcome r.transactionHash cond change).1 = true ∧
      Pair (s.updateOutcome r.transactionHash cond change).2 (change r) h ∧
      (s.updateOutcome r.transactionHash cond change).2.settlement = s.settlement := by
  unfold Store.updateOutcome
  refine ⟨?_, ⟨Table.modify_valid hpair.valid fun r r' => ?_,
    Table.mem_modify_self hpair.row rfl hcond, hpair.sound, hpair.handoff, ?_⟩, rfl⟩
  · rw [hpair.lookup]
    exact hcond
  · show outcomeClash (change r) r' = outcomeClash r r'
    unfold outcomeClash Outcome.transactionHash Outcome.resource
    rw [hidentity]
  · show (change r).identity.resource = _
    rw [hidentity]
    exact hpair.resource

theorem not_update (cond : Outcome → Bool) (change : Outcome → Outcome) (hcond : cond r = false) :
    s.updateOutcome r.transactionHash cond change = (false, s) := by
  have hlookup := hpair.lookup
  have hsame : Table.modify Gasless.outcomes r.transactionHash cond change s.outcomes =
      s.outcomes := by
    conv_rhs => rw [← List.map_id s.outcomes]
    refine List.map_congr_left fun r' hr' => if_neg ?_
    rintro ⟨hkey, htrue⟩
    rw [hpair.valid.eq_of_key hr' hpair.row hkey, hcond] at htrue
    cases htrue
  unfold Store.updateOutcome
  rw [hsame, hlookup, Option.any_some, hcond]

end Pair

/-- The statement moves the row. -/
theorem Pair.ensures_move {status : OutcomeStatus} {details : Details} (hpair : Pair s r h)
    (hC : Works C) (hmoves : r.moves status details = true) :
    Ensures (perform d p) C (transition r.transactionHash status details)
      (fun x s' => x = .ok () ∧ Pair s' (r.move status details) h ∧
        s'.settlement = s.settlement) s := by
  obtain ⟨htrue, hpair', hsame⟩ := hpair.update _ (Outcome.move status details) hmoves fun _ => rfl
  refine ensures_andThen (a := true) (I := fun s' => Pair s' (r.move status details) h ∧
    s'.settlement = s.settlement) ?_ fun s' hs' => ⟨rfl, hs'⟩
  exact ensures_ok hC (fun _ => rfl) ⟨congrArg _ htrue, hpair', hsame⟩

theorem Pair.ensures_not_move {status : OutcomeStatus} {details : Details} (hpair : Pair s r h)
    (hC : Works C) (hmoves : r.moves status details = false) :
    Ensures (perform d p) C (transition r.transactionHash status details)
      (fun x s' => s' = s ∧ (x = .ok () ↔ r.settledAs status details = true)) s := by
  refine ensures_andThen (a := false) (I := fun s' => s' = s) ?_ ?_
  · have hsame := hpair.not_update _ (Outcome.move status details) hmoves
    exact ensures_ok hC (fun _ => rfl) ⟨congrArg (Except.ok ·.1) hsame, congrArg Prod.snd hsame⟩
  · rintro s' rfl
    refine ensures_andThen (a := some r) (I := fun s₁ => s₁ = s') ?_ ?_
    · exact ensures_ok hC (fun _ => rfl) ⟨congrArg Except.ok hpair.lookup, rfl⟩
    · rintro _ rfl
      show Ensures _ _ (if r.settledAs status details = true then _ else _) _ _
      split_ifs with hsettled
      · exact ⟨rfl, iff_of_true rfl hsettled⟩
      · exact ⟨rfl, iff_of_false (fun h => by cases h) hsettled⟩

/-- The projection is marked if the row has the status. -/
theorem Pair.ensures_markProjectionApplied {status : OutcomeStatus} (hpair : Pair s r h)
    (hC : Works C) (hstatus : r.outcomeStatus = status) :
    Ensures (perform d p) C (markProjectionApplied r.transactionHash status)
      (fun x s' => x = .ok () ∧ Pair s' { r with projectedOutcomeStatus := some status } h ∧
        s'.settlement = s.settlement) s := by
  obtain ⟨htrue, hpair', hsame⟩ := hpair.update
    (fun r => r.outcomeStatus = status)
    (fun r => { r with projectedOutcomeStatus := some status })
    (decide_eq_true hstatus) fun _ => rfl
  refine ensures_andThen (a := true) (I := fun s' =>
    Pair s' { r with projectedOutcomeStatus := some status } h ∧
      s'.settlement = s.settlement) ?_ fun s' hs' => ⟨rfl, hs'⟩
  exact ensures_ok hC (fun _ => rfl) ⟨congrArg _ htrue, hpair', hsame⟩

/-- The settlement tables are not touched, and the mark fails if the row has another status. -/
theorem Pair.ensures_markProjectionApplied_settlement (hpair : Pair s r h) (hC : Works C)
    (status : OutcomeStatus) :
    Ensures (perform d p) C (markProjectionApplied r.transactionHash status)
      (fun x s' => s'.settlement = s.settlement ∧ (x = .ok () → r.outcomeStatus = status)) s := by
  by_cases hstatus : r.outcomeStatus = status
  · exact (hpair.ensures_markProjectionApplied hC hstatus).mono
      fun _ _ hend => ⟨hend.2.2, fun _ => hstatus⟩
  · refine ensures_andThen (a := false) (I := fun s' => s' = s) ?_ ?_
    · have hsame := hpair.not_update (fun r => r.outcomeStatus = status)
        (fun r => { r with projectedOutcomeStatus := some status }) (decide_eq_false hstatus)
      exact ensures_ok hC (fun _ => rfl) ⟨congrArg (Except.ok ·.1) hsame, congrArg Prod.snd hsame⟩
    · rintro s' rfl
      exact ⟨rfl, fun hok => by cases hok⟩

/-! ### Events -/

/-- The store after a new event was recorded. -/
def Store.noted (d : Deployment) (s : Store) (input : EventInput) (now : ℕ)
    (body : CallbackPayload) : Store :=
  { s with
    settlement := s.settlement.recorded (input.persist d.sha256 now)
      (d.callbacks.plan input.requestId now) body }

/-- The handoff after a new event was recorded. -/
def noted (d : Deployment) (s : Store) (input : EventInput) (now : ℕ) (h : Handoff) : Handoff :=
  (d.callbacks.plan input.requestId now).written
    ((input.persist d.sha256 now).event s.settlement.drawn) h

theorem noted_executionStatus {input : EventInput} {now : ℕ} :
    (noted d s input now h).executionStatus = input.executionStatus :=
  CallbackPlan.written_executionStatus ..

theorem noted_handoffId {input : EventInput} {now : ℕ} :
    (noted d s input now h).handoffId = h.handoffId :=
  CallbackPlan.written_handoffId ..

theorem noted_reconciliationStatus {input : EventInput} {now : ℕ} :
    (noted d s input now h).reconciliationStatus = input.reconciliationStatus := by
  unfold noted CallbackPlan.written
  split_ifs <;> rfl

/-- The callback of the event needs no amounts that it does not have. -/
def Plain (h : Handoff) (input : EventInput) : Prop :=
  input.reconciliationEvidence = .undefined ∧
    (gaslessSponsorshipHandoffPrefix.isPrefixOf h.terms.platformHandoffId = true ∨
      input.reconciliationStatus ≠ .matched ∧ input.reconciliationStatus ≠ .drift ∧
        input.eventType ≠ .reconciled ∧ input.eventType ≠ .driftDetected)

theorem Plain.buildCallbackPayload {input : EventInput} (hplain : Plain h input) (now eventId : ℕ) :
    ∃ body, Settlement.buildCallbackPayload
      (h.record ((input.persist d.sha256 now).event eventId))
      ((input.persist d.sha256 now).event eventId) = .ok body := by
  obtain ⟨hevidence, hstatus⟩ := hplain
  have hrequired : requiresObservedAmounts (h.record ((input.persist d.sha256 now).event eventId))
      ((input.persist d.sha256 now).event eventId) = false := by
    show (!(gaslessSponsorshipHandoffPrefix.isPrefixOf h.terms.platformHandoffId) &&
      (input.reconciliationStatus = .matched || input.reconciliationStatus = .drift ||
        input.eventType = .reconciled || input.eventType = .driftDetected)) = false
    rcases hstatus with hgasless | ⟨hmatched, hdrift, hreconciled, hdetected⟩
    · simp [hgasless]
    · simp [hmatched, hdrift, hreconciled, hdetected]
  have hparse : parseReconciliationEvidence
      ((input.persist d.sha256 now).event eventId).reconciliationEvidence false = .ok none := by
    show parseReconciliationEvidence input.reconciliationEvidence false = _
    rw [hevidence]
    rfl
  unfold Settlement.buildCallbackPayload
  dsimp only
  rw [hrequired, hparse]
  exact ⟨_, rfl⟩

/-- An event of the gateway is observed when it is recorded. -/
theorem recordEvent_observed (d : Deployment) (input : EventInput) (now : ℕ) (s : State) :
    Settlement.recordEvent d.sha256 d.callbacks { input with observedAt := some now } now s =
      recordExecutionEvent (input.persist d.sha256 now) (d.callbacks.plan input.requestId now) s :=
  rfl

section Record

variable {input : EventInput} (hpair : Pair s r h) (hid : input.handoffId = h.handoffId)

include hpair hid

/-- What the recording of a new event comes to. -/
theorem Pair.recordEvent_of_fresh (hfresh : s.Fresh d input) (now : ℕ) :
    s.recordEvent d input now =
      match validateExecutionTransition h.executionStatus input.executionStatus
        input.eventType with
      | .error failure => .error (.other (refusal failure))
      | .ok _ =>
        match Settlement.buildCallbackPayload
          (h.record ((input.persist d.sha256 now).event s.settlement.drawn))
          ((input.persist d.sha256 now).event s.settlement.drawn) with
        | .error failure => .error (.other (refusal failure))
        | .ok body => .ok (⟨noted d s input now h,
            (input.persist d.sha256 now).event s.settlement.drawn,
            (d.callbacks.plan input.requestId now).delivery (s.settlement.drawn + 1)
              input.handoffId s.settlement.drawn body⟩, s.noted d input now body) := by
  have hrecord : recordExecutionEvent (input.persist d.sha256 now)
      (d.callbacks.plan input.requestId now) s.settlement = _ :=
    recordExecutionEvent_eq hpair.sound hpair.handoff hid.symm hfresh
  rw [Store.recordEvent, recordEvent_observed, hrecord]
  cases hmove : validateExecutionTransition h.executionStatus input.executionStatus
      input.eventType with
  | error failure =>
    have hmove' : validateExecutionTransition h.executionStatus
        (input.persist d.sha256 now).executionStatus (input.persist d.sha256 now).eventType =
        .error failure := hmove
    rw [hmove']
    rfl
  | ok u =>
    have hmove' : validateExecutionTransition h.executionStatus
        (input.persist d.sha256 now).executionStatus (input.persist d.sha256 now).eventType =
        .ok u := hmove
    rw [hmove']
    cases hbody : Settlement.buildCallbackPayload
        (h.record ((input.persist d.sha256 now).event s.settlement.drawn))
        ((input.persist d.sha256 now).event s.settlement.drawn) with
    | error failure =>
      have hbody' : (d.callbacks.plan input.requestId now).buildRequestBody
          (h.record ((input.persist d.sha256 now).event s.settlement.drawn))
          ((input.persist d.sha256 now).event s.settlement.drawn) = .error failure := hbody
      rw [hbody']
      rfl
    | ok body =>
      have hbody' : (d.callbacks.plan input.requestId now).buildRequestBody
          (h.record ((input.persist d.sha256 now).event s.settlement.drawn))
          ((input.persist d.sha256 now).event s.settlement.drawn) = .ok body := hbody
      rw [hbody']
      rfl

variable (hC : Works C)

include hC

/-- A new event that the state machine allows is recorded. -/
theorem Pair.ensures_record (hfresh : s.Fresh d input) (hplain : Plain h input)
    (hmove : validateExecutionTransition h.executionStatus input.executionStatus
      input.eventType = .ok ()) :
    Ensures (perform d p) C (ask (.recordEvent input))
      (fun x s' => (∃ a, x = .ok a) ∧ ∃ now body, s' = s.noted d input now body ∧
        Pair s' r (noted d s input now h)) s := by
  refine ensures_recordEvent hC (fun now a s' heq => ?_) (fun now e heq => ?_)
  all_goals
    obtain ⟨body, hbody⟩ := hplain.buildCallbackPayload (d := d) now s.settlement.drawn
    rw [hpair.recordEvent_of_fresh hid hfresh, hmove] at heq
    rw [hbody] at heq
    cases heq
  refine ⟨⟨_, rfl⟩, now, body, rfl, hpair.valid, hpair.row, hpair.sound.recorded hfresh,
    Table.mem_modify_self hpair.handoff hid.symm rfl, ?_⟩
  rw [noted_handoffId]
  exact hpair.resource

/-- A new event that the state machine does not allow is refused. -/
theorem Pair.ensures_refuse (hfresh : s.Fresh d input)
    (hmove : validateExecutionTransition h.executionStatus input.executionStatus
      input.eventType ≠ .ok ()) :
    Ensures (perform d p) C (ask (.recordEvent input))
      (fun x s' => (∃ e, x = .error e) ∧ s' = s) s := by
  refine ensures_recordEvent hC (fun now a s' heq => ?_) fun now e _ => ⟨⟨e, rfl⟩, rfl⟩
  rw [hpair.recordEvent_of_fresh hid hfresh] at heq
  cases hvalidate : validateExecutionTransition h.executionStatus input.executionStatus
      input.eventType with
  | ok u => exact absurd hvalidate hmove
  | error failure =>
    rw [hvalidate] at heq
    cases heq

/-- An event that was recorded before is not recorded again. -/
theorem Pair.ensures_repeat (hseen : ¬ s.Fresh d input) :
    Ensures (perform d p) C (ask (.recordEvent input))
      (fun x s' => (∃ a, x = .ok a) ∧ s' = s) s := by
  have hrecord : ∀ now, ∃ a, s.recordEvent d input now = .ok (a, s) := by
    intro now
    have hseen' : ¬ s.settlement.Fresh (input.persist d.sha256 now) := hseen
    obtain ⟨e, -, -, -, delivery, -, -, hsame⟩ := recordExecutionEvent_of_seen
      (d.callbacks.plan input.requestId now) hpair.sound hpair.handoff hid.symm hseen'
    refine ⟨⟨h, e, delivery⟩, ?_⟩
    rw [Store.recordEvent, recordEvent_observed, hsame]
  refine ensures_recordEvent hC (fun now a s' heq => ?_) (fun now e heq => ?_)
  all_goals
    obtain ⟨_, ha'⟩ := hrecord now
    rw [ha'] at heq
    cases heq
  exact ⟨⟨_, rfl⟩, rfl⟩

end Record

end Cotsel.Gateway.Gasless
