import Cotsel.Treasury.SweepEffects

/-!
# Separation of duties

Who creates a batch or asks for its approval, who approves it, who executes it and hands it off, and
who closes it.  Each transition is remembered with the role of its actor in
`treasury_transition_actors`, and the next transitions are tested against that record.  What the
record says is connected with what has happened by `Recorded`; the order of the transitions is read
off the `level` of the batch, which never goes down.

The test is not made for `HANDED_OFF`, although it is recorded with the role of the executor:
whoever has approved a batch may hand it off (`approver_hands_off`).  If that does not happen,
duties are separated over every history (`duties_separated`).
-/

namespace Cotsel.Treasury.Sweep

open Interaction Runs

/-! ### Duties -/

/-- The transition of a batch that is committed here: which batch, to which status, and by whom. -/
def committed (e : Event) : Option (ℕ × SweepBatchStatus × List Char) :=
  match e.label with
  | .act _ o _ => o.transition.filter fun t =>
      (e.source.batch t.1).map Batch.status ≠ (e.target.batch t.1).map Batch.status
  | .call _ _ | .done _ _ | .crash _ => none

/-- `actor` moves the batch to this status. -/
def Acts (batchId : ℕ) (status : SweepBatchStatus) (actor : List Char) (e : Event) : Prop :=
  committed e = some (batchId, status, actor)

instance (batchId : ℕ) (status : SweepBatchStatus) (actor : List Char) (e : Event) :
    Decidable (Acts batchId status actor e) :=
  inferInstanceAs (Decidable (_ = _))

def Creates (batchId : ℕ) (actor : List Char) (e : Event) : Prop :=
  e.source.batch batchId = none ∧ (e.target.batch batchId).isSome = true ∧
    ∃ p data r, e.label = .act p (.createSweepBatch data) r ∧ data.createdBy = actor

/-- If one of the events is such, none is the other. -/
def Excludes (X Y : Event → Prop) (events : List Event) : Prop :=
  (∃ e ∈ events, X e) → ¬ ∃ e ∈ events, Y e

/-- Nobody who has created a batch or asked for its approval approves it; nobody who has approved it
executes it or hands it off; and who closes it has done none of these three. -/
structure DutiesSeparated (events : List Event) : Prop where
  approval : ∀ b a, Excludes (fun e => Creates b a e ∨ Acts b .pendingApproval a e)
    (Acts b .approved a) events
  execution : ∀ b a, Excludes (Acts b .approved a)
    (fun e => Acts b .executed a e ∨ Acts b .handedOff a e) events
  close : ∀ b a, Excludes (Acts b .closed a)
    (fun e => Acts b .approved a e ∨ Acts b .executed a e ∨ Acts b .handedOff a e) events

/-- Who hands off a batch holds no record of having approved it. -/
def HandsOffApart (e : Event) : Prop :=
  ∀ t ∈ committed e, t.2.1 = .handedOff →
    (⟨t.2.2, .checker⟩ : TransitionActorRecord) ∉ e.source.chain .sweepBatch t.1

instance (e : Event) : Decidable (HandsOffApart e) :=
  inferInstanceAs (Decidable (∀ t ∈ committed e, _))

theorem Excludes.snoc {X Y : Event → Prop} {events : List Event} {e : Event}
    (h : Excludes X Y events) (hnew : X e → ¬ Y e) (hold : (∃ e ∈ events, X e) → ¬ Y e)
    (hold' : (∃ e ∈ events, Y e) → ¬ X e) : Excludes X Y (events ++ [e]) := by
  rintro ⟨e₁, h₁, hX⟩ ⟨e₂, h₂, hY⟩
  rw [List.mem_append, List.mem_singleton] at h₁ h₂
  rcases h₁ with h₁ | rfl
  · rcases h₂ with h₂ | rfl
    · exact h ⟨e₁, h₁, hX⟩ ⟨e₂, h₂, hY⟩
    · exact hold ⟨e₁, h₁, hX⟩ hY
  · rcases h₂ with h₂ | rfl
    · exact hold' ⟨e₂, h₂, hY⟩ hX
    · exact hnew hX hY

/-! ### What is on record -/

section Step

variable {s s' : Database} {l : Action} {b : ℕ} {status : SweepBatchStatus} {a : List Char}

theorem StepsTo.moves_of_acts (h : StepsTo s l s') (hacts : Acts b status a ⟨s, l, s'⟩) :
    ∃ data existing, data.batchId = b ∧ data.status = status ∧ data.actor = a ∧
      Moves data s existing s' := by
  unfold Acts committed at hacts
  rcases h with rfl | ⟨p, o, r, rfl, hwrite⟩
  · -- nothing has been committed
    cases l with
    | act =>
      simp at hacts
    | call | done | crash => cases hacts
  · rw [Option.filter_eq_some_iff, decide_eq_true_eq] at hacts
    obtain ⟨htransition, hchanged⟩ := hacts
    cases hwrite.batchEffect with
    | same hsame =>
      exfalso
      unfold Database.batch at hchanged
      rw [hsame] at hchanged
      exact hchanged rfl
    | opens ho =>
      rw [ho] at htransition
      cases htransition
    | @moves data existing ho hmoves =>
      rw [ho, Option.some.injEq, Prod.mk.injEq, Prod.mk.injEq] at htransition
      exact ⟨data, existing, htransition.1, htransition.2.1, htransition.2.2, hmoves⟩

theorem StepsTo.created (h : StepsTo s l s') (hcreates : Creates b a ⟨s, l, s'⟩) :
    s.batch b = none ∧ ∃ row, s'.batch b = some row ∧ row.createdBy = a := by
  obtain ⟨hnone, hsome, p, data, r, hl, ha⟩ := hcreates
  rw [Option.isSome_iff_exists] at hsome
  obtain ⟨row, hrow⟩ := hsome
  refine ⟨hnone, row, hrow, ?_⟩
  rcases h with rfl | ⟨p', o, r', rfl, hwrite⟩
  · rw [hnone] at hrow
    cases hrow
  · cases hl
    cases hwrite with
    | @openBatch _ new _ hopens =>
      rcases eq_or_ne new.id b with rfl | hne
      · rw [hopens.batch_self, Option.some.injEq] at hrow
        rw [← hrow, hopens.createdBy, ha]
      · rw [hopens.batch_of_ne hne, hnone] at hrow
        cases hrow

end Step

/-- The tables still tell what has happened. -/
structure Recorded (events : List Event) (s : Database) : Prop where
  created : ∀ e ∈ events, ∀ b a, Creates b a e → ∃ row, s.batch b = some row ∧ row.createdBy = a
  level : ∀ e ∈ events, ∀ b status a, Acts b status a e → ∃ row, s.batch b = some row ∧
    status.level ≤ row.status.level
  chain : ∀ e ∈ events, ∀ b status a role, Acts b status a e →
    sweepBatchActorRole status = some role →
    (⟨a, role⟩ : TransitionActorRecord) ∈ s.chain .sweepBatch b

section Recorded

variable {s s' : Database} {l : Action} {events : List Event}

theorem Recorded.of_step (h : Recorded events s) (hstep : StepsTo s l s') :
    Recorded events s' := by
  rcases hstep with rfl | ⟨p, o, r, rfl, hwrite⟩
  · exact h
  · constructor
    · intro e he b a hcreates
      obtain ⟨row, hrow, ha⟩ := h.created e he b a hcreates
      obtain ⟨row', hrow', hsucc⟩ := hwrite.batch_succeeds hrow
      exact ⟨row', hrow', hsucc.createdBy.trans ha⟩
    · intro e he b status a hacts
      obtain ⟨row, hrow, hle⟩ := h.level e he b status a hacts
      obtain ⟨row', hrow', hsucc⟩ := hwrite.batch_succeeds hrow
      exact ⟨row', hrow', hle.trans hsucc.level_le⟩
    · intro e he b status a role hacts hrole
      exact hwrite.chain_mono (h.chain e he b status a role hacts hrole)

theorem Recorded.snoc (h : Recorded events s) (hstep : StepsTo s l s') :
    Recorded (events ++ [⟨s, l, s'⟩]) s' := by
  have hold := h.of_step hstep
  have hcases : ∀ e ∈ events ++ [⟨s, l, s'⟩], e ∈ events ∨ e = ⟨s, l, s'⟩ := by
    intro e he
    rwa [List.mem_append, List.mem_singleton] at he
  constructor
  · intro e he b a hcreates
    rcases hcases e he with he | rfl
    · exact hold.created e he b a hcreates
    · exact (hstep.created hcreates).2
  · intro e he b status a hacts
    rcases hcases e he with he | rfl
    · exact hold.level e he b status a hacts
    · obtain ⟨data, existing, rfl, rfl, rfl, hmoves⟩ := hstep.moves_of_acts hacts
      exact ⟨_, hmoves.batch_self, le_rfl⟩
  · intro e he b status a role hacts hrole
    rcases hcases e he with he | rfl
    · exact hold.chain e he b status a role hacts hrole
    · obtain ⟨data, existing, rfl, rfl, rfl, hmoves⟩ := hstep.moves_of_acts hacts
      exact hmoves.mem_chain hrole

/-- A transition from the approval on is not made twice, nor after a later one. -/
theorem Recorded.level_le (h : Recorded events s) {e : Event} (he : e ∈ events) {b : ℕ}
    {status : SweepBatchStatus} {a : List Char} (hacts : Acts b status a e) {data : StatusUpdate}
    {existing : Batch} (hb : data.batchId = b) (hmoves : Moves data s existing s') :
    status.level ≤ existing.status.level := by
  obtain ⟨row, hrow, hle⟩ := h.level e he b status a hacts
  rw [← hb, hmoves.found, Option.some.injEq] at hrow
  rwa [hrow]

end Recorded

/-! ### The duties, step by step -/

section Duties

variable {s s' : Database} {l : Action} {events : List Event} {b : ℕ} {a : List Char}

theorem acts_unique {e : Event} {status status' : SweepBatchStatus} (h : Acts b status a e)
    (h' : Acts b status' a e) : status = status' := by
  unfold Acts at h h'
  rw [h, Option.some.injEq, Prod.mk.injEq, Prod.mk.injEq] at h'
  exact h'.2.1

theorem approval_snoc (hrec : Recorded events s) (hstep : StepsTo s l s')
    (h : Excludes (fun e => Creates b a e ∨ Acts b .pendingApproval a e) (Acts b .approved a)
      events) :
    Excludes (fun e => Creates b a e ∨ Acts b .pendingApproval a e) (Acts b .approved a)
      (events ++ [⟨s, l, s'⟩]) := by
  refine h.snoc ?_ ?_ ?_
  · rintro (hcreates | hpending) happroved
    · obtain ⟨data, existing, rfl, -, -, hmoves⟩ := hstep.moves_of_acts happroved
      have hfound := hmoves.found
      rw [(hstep.created hcreates).1] at hfound
      cases hfound
    · cases acts_unique hpending happroved
  · rintro ⟨e, he, hprepared⟩ happroved
    obtain ⟨data, existing, rfl, hstatus, rfl, hmoves⟩ := hstep.moves_of_acts happroved
    obtain ⟨hcreator, hmaker⟩ := hmoves.roles.approval hstatus
    rcases hprepared with hcreates | hpending
    · obtain ⟨row, hrow, hby⟩ := hrec.created e he _ _ hcreates
      rw [hmoves.found, Option.some.injEq] at hrow
      rw [hrow] at hcreator
      exact hcreator hby
    · exact hmaker (hrec.chain e he _ _ _ _ hpending rfl)
  · rintro ⟨e, he, happroved⟩ (hcreates | hpending)
    · obtain ⟨row, hrow, -⟩ := hrec.level e he _ _ _ happroved
      rw [(hstep.created hcreates).1] at hrow
      cases hrow
    · -- an approved batch does not return to where approval is asked for
      obtain ⟨data, existing, hb, hstatus, -, hmoves⟩ := hstep.moves_of_acts hpending
      have hle := hrec.level_le he happroved hb hmoves
      have htransition := level_le_of_transition hmoves.transition
      rw [hstatus] at htransition
      exact absurd (hle.trans htransition) (by decide)

theorem execution_snoc (hrec : Recorded events s) (hstep : StepsTo s l s')
    (hapart : HandsOffApart ⟨s, l, s'⟩)
    (h : Excludes (Acts b .approved a) (fun e => Acts b .executed a e ∨ Acts b .handedOff a e)
      events) :
    Excludes (Acts b .approved a) (fun e => Acts b .executed a e ∨ Acts b .handedOff a e)
      (events ++ [⟨s, l, s'⟩]) := by
  refine h.snoc ?_ ?_ ?_
  · rintro happroved (hexecuted | hhandedOff)
    · cases acts_unique happroved hexecuted
    · cases acts_unique happroved hhandedOff
  · rintro ⟨e, he, happroved⟩ hacts
    have hchecker := hrec.chain e he _ _ _ .checker happroved rfl
    rcases hacts with hexecuted | hhandedOff
    · obtain ⟨data, existing, rfl, hstatus, rfl, hmoves⟩ := hstep.moves_of_acts hexecuted
      exact hmoves.roles.execution hstatus hchecker
    · exact hapart _ hhandedOff rfl hchecker
  · rintro ⟨e, he, hacts⟩ happroved
    obtain ⟨data, existing, hb, hstatus, -, hmoves⟩ := hstep.moves_of_acts happroved
    have hlt := level_lt_of_transition hmoves.transition (by rw [hstatus]; decide)
    rw [hstatus] at hlt
    rcases hacts with hexecuted | hhandedOff
    · exact absurd ((hrec.level_le he hexecuted hb hmoves).trans_lt hlt) (by decide)
    · exact absurd ((hrec.level_le he hhandedOff hb hmoves).trans_lt hlt) (by decide)

theorem close_snoc (hrec : Recorded events s) (hstep : StepsTo s l s')
    (h : Excludes (Acts b .closed a)
      (fun e => Acts b .approved a e ∨ Acts b .executed a e ∨ Acts b .handedOff a e) events) :
    Excludes (Acts b .closed a)
      (fun e => Acts b .approved a e ∨ Acts b .executed a e ∨ Acts b .handedOff a e)
      (events ++ [⟨s, l, s'⟩]) := by
  refine h.snoc ?_ ?_ ?_
  · rintro hclosed (happroved | hexecuted | hhandedOff)
    · cases acts_unique hclosed happroved
    · cases acts_unique hclosed hexecuted
    · cases acts_unique hclosed hhandedOff
  · -- nothing comes after the close
    rintro ⟨e, he, hclosed⟩ hacts
    have hlast : ∀ status, Acts b status a ⟨s, l, s'⟩ → status.level < 5 →
        status.level ≠ 0 → False := by
      intro status hacts hmax hpos
      obtain ⟨data, existing, hb, hstatus, -, hmoves⟩ := hstep.moves_of_acts hacts
      have hle : 4 ≤ existing.status.level := hrec.level_le he hclosed hb hmoves
      have hlt := level_lt_of_transition hmoves.transition (by rwa [hstatus])
      rw [hstatus] at hlt
      omega
    rcases hacts with happroved | hexecuted | hhandedOff
    · exact hlast _ happroved (by decide) (by decide)
    · exact hlast _ hexecuted (by decide) (by decide)
    · exact hlast _ hhandedOff (by decide) (by decide)
  · rintro ⟨e, he, hacts⟩ hclosed
    obtain ⟨data, existing, rfl, hstatus, rfl, hmoves⟩ := hstep.moves_of_acts hclosed
    obtain ⟨hchecker, hexecutor⟩ := hmoves.roles.close hstatus
    rcases hacts with happroved | hexecuted | hhandedOff
    · exact hchecker (hrec.chain e he _ _ _ _ happroved rfl)
    · exact hexecutor (hrec.chain e he _ _ _ _ hexecuted rfl)
    · exact hexecutor (hrec.chain e he _ _ _ _ hhandedOff rfl)

end Duties

/-! ### Every history -/

/-- As long as nobody hands off a batch after having approved it, duties are separated. -/
theorem duties_separated {tr : List (Transition State Action)} {c : State}
    (hrun : Run (Step world) initial tr c) (hapart : ∀ t ∈ tr, HandsOffApart (view t)) :
    DutiesSeparated (tr.map view) := by
  let I : List (Transition State Action) → State → Prop := fun tr c =>
    Recorded (tr.map view) c.store ∧
      ((∀ t ∈ tr, HandsOffApart (view t)) → DutiesSeparated (tr.map view))
  have h0 : I [] initial :=
    ⟨by constructor <;> simp, fun _ => by constructor <;> simp [Excludes]⟩
  refine (Run.history (I := I) h0 ?_ hrun).2 hapart
  rintro tr c l c' - ⟨hrec, hduties⟩ hs
  have hstep : StepsTo c.store l c'.store := stepsTo_of_step hs
  show Recorded ((tr ++ [_]).map view) _ ∧ (_ → DutiesSeparated ((tr ++ [_]).map view))
  rw [List.map_append]
  refine ⟨hrec.snoc hstep, fun hall => ?_⟩
  have hd := hduties fun t ht => hall t (List.mem_append_left _ ht)
  have hlast : HandsOffApart ⟨c.store, l, c'.store⟩ :=
    hall ⟨c, l, c'⟩ (List.mem_append_right _ (List.mem_singleton_self _))
  exact ⟨fun b a => approval_snoc hrec hstep (hd.approval b a),
    fun b a => execution_snoc hrec hstep hlast (hd.execution b a),
    fun b a => close_snoc hrec hstep (hd.close b a)⟩

section Sample

open Sample

/-- A batch that its executor hands off. -/
def handedOffByExecutor : List (Choice ℕ Luck Request) :=
  executed ++ serve (.recordPartnerHandoff (delivery .submitted) (Text.lit "executor")) (sees 5)

theorem duties_separated_sample : ∃ tr c, Run (Step world) initial tr c ∧
    (∀ t ∈ tr, HandsOffApart (view t)) ∧ (c.store.batch 1).map Batch.status = some .handedOff ∧
    DutiesSeparated (tr.map view) := by
  obtain ⟨tr, c, hrun, hall, hstatus⟩ := exists_run_of_simulate (W := world) (c := initial)
    handedOffByExecutor (P := fun events c => (∀ e ∈ events, HandsOffApart e) ∧
      (c.store.batch 1).map Batch.status = some .handedOff) (by decide +kernel)
  have hapart : ∀ t ∈ tr, HandsOffApart (view t) := fun t ht => hall _ (List.mem_map_of_mem ht)
  exact ⟨tr, c, hrun, hapart, hstatus, duties_separated hrun hapart⟩

/-- The one who has approved the batch hands it off. -/
def handedOffByApprover : List (Choice ℕ Luck Request) :=
  executed ++ serve (.recordPartnerHandoff (delivery .submitted) (Text.lit "checker")) (sees 5)

theorem approver_hands_off : ∃ tr c, Run (Step world) initial tr c ∧
    ¬ DutiesSeparated (tr.map view) := by
  obtain ⟨tr, c, hrun, happroved, e, he, hhandedOff⟩ := exists_run_of_simulate (W := world)
    (c := initial) handedOffByApprover (P := fun events _ =>
      (∃ e ∈ events, Acts 1 .approved (Text.lit "checker") e) ∧
        ∃ e ∈ events, Acts 1 .handedOff (Text.lit "checker") e) (by decide +kernel)
  exact ⟨tr, c, hrun, fun h => h.execution 1 (Text.lit "checker") happroved
    ⟨e, he, Or.inr hhandedOff⟩⟩

end Sample

end Cotsel.Treasury.Sweep
