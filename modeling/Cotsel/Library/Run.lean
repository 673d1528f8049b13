import Mathlib

/-!
# Runs of a transition system

A transition system is a relation `step s l s'` between a state, a label and the next state.  A
`Run` from `s` records the transitions it made, oldest first, with the states between them, so
that a statement about the past of a state is a statement about the run that reached it.

* `Run.invariant`: what holds at the start and is kept by every step holds at the end;
* `Run.invariant_of`: the same when only the steps that satisfy a side condition keep it;
* `Run.history`: the same for a relation between the transitions made so far and the state;
* `Run.split`, `Run.cut`: a run can be cut at any of its transitions; `Run.after` and
  `Run.between` are the parts that are left;
* `trace`: the run of a system in which a label leads to one state; `replay`: the same where a label
  may be impossible;
* `Counts`: a counter that certain transitions advance by one; such a counter tells those
  transitions apart (`Counts.index_eq`);
* `Attains`: some run leads to a goal; `Attains.of_measure` is the rule for a goal that comes
  nearer with every step.
-/

namespace Runs

variable {S L : Type*}

/-- One step of a run: the state it starts in, its label and the state it ends in. -/
structure Transition (S L : Type*) where
  source : S
  label : L
  target : S

variable (step : S → L → S → Prop)

/-- `Run step s tr s'`: the transitions `tr`, in this order, lead from `s` to `s'`. -/
inductive Run : S → List (Transition S L) → S → Prop
  | nil (s : S) : Run s [] s
  | snoc {s s' s'' : S} {l : L} {tr : List (Transition S L)} :
      Run s tr s' → step s' l s'' → Run s (tr ++ [⟨s', l, s''⟩]) s''

namespace Run

variable {step} {s s' s'' : S} {tr tr' : List (Transition S L)}

theorem single {l : L} (h : step s l s') : Run step s [⟨s, l, s'⟩] s' :=
  .snoc (.nil s) h

theorem trans (h : Run step s tr s') (h' : Run step s' tr' s'') :
    Run step s (tr ++ tr') s'' := by
  induction h' with
  | nil => rwa [List.append_nil]
  | snoc _ hstep ih =>
    rw [← List.append_assoc]
    exact .snoc ih hstep

/-- What holds at the start and is kept by every step whose transition satisfies `C` holds at the
end of a run all of whose transitions satisfy `C`. -/
theorem invariant_of {I : S → Prop} {C : Transition S L → Prop}
    (hstep : ∀ s l s', C ⟨s, l, s'⟩ → I s → step s l s' → I s') (h : Run step s tr s')
    (hC : ∀ t ∈ tr, C t) (h0 : I s) : I s' := by
  induction h with
  | nil => exact h0
  | snoc _ hs ih =>
    refine hstep _ _ _ (hC _ (by simp)) (ih ?_) hs
    intro t ht
    exact hC t (List.mem_append_left _ ht)

theorem invariant {I : S → Prop} (hstep : ∀ s l s', I s → step s l s' → I s')
    (h : Run step s tr s') (h0 : I s) : I s' :=
  invariant_of (C := fun _ => True) (fun s l s' _ => hstep s l s') h (fun _ _ => trivial) h0

/-- The induction rule for a relation between the transitions made so far and the state reached. -/
theorem history {I : List (Transition S L) → S → Prop} (h0 : I [] s)
    (hstep : ∀ tr s' l s'', Run step s tr s' → I tr s' → step s' l s'' →
      I (tr ++ [⟨s', l, s''⟩]) s'')
    (h : Run step s tr s') : I tr s' := by
  induction h with
  | nil => exact h0
  | snoc hr hs ih => exact hstep _ _ _ _ hr ih hs

/-- A run is cut at one of its transitions into the run before it, the step, and the run after. -/
theorem split (h : Run step s tr s') {t : Transition S L} (ht : t ∈ tr) :
    ∃ pre post, tr = pre ++ t :: post ∧ Run step s pre t.source ∧
      step t.source t.label t.target ∧ Run step t.target post s' := by
  induction h with
  | nil => simp at ht
  | @snoc s' s'' l tr hr hs ih =>
    rcases List.mem_append.mp ht with hmem | hlast
    · obtain ⟨pre, post, htr, hpre, hst, hpost⟩ := ih hmem
      refine ⟨pre, post ++ [⟨s', l, s''⟩], ?_, hpre, hst, .snoc hpost hs⟩
      rw [htr, List.append_assoc, List.cons_append]
    · rw [List.mem_singleton] at hlast
      subst hlast
      exact ⟨tr, [], rfl, hr, hs, .nil _⟩

/-- The same, at a given place of the run. -/
theorem cut (h : Run step s tr s') {i : ℕ} {t : Transition S L} (ht : tr[i]? = some t) :
    Run step s (tr.take i) t.source ∧ step t.source t.label t.target ∧
      Run step t.target (tr.drop (i + 1)) s' := by
  induction h with
  | nil => simp at ht
  | @snoc _ _ _ tr hr hs ih =>
    rcases Nat.lt_trichotomy i tr.length with hlt | rfl | hgt
    · rw [List.getElem?_append_left hlt] at ht
      obtain ⟨hpre, hst, hpost⟩ := ih ht
      rw [List.take_append_of_le_length (Nat.le_of_lt hlt),
        List.drop_append_of_le_length (Nat.succ_le_of_lt hlt)]
      exact ⟨hpre, hst, .snoc hpost hs⟩
    · rw [List.getElem?_concat_length, Option.some.injEq] at ht
      subst ht
      rw [List.take_left', List.drop_of_length_le]
      · exact ⟨hr, hs, .nil _⟩
      · simp
      · rfl
    · rw [List.getElem?_eq_none] at ht
      · cases ht
      · simpa using hgt

theorem after (h : Run step s tr s') {t : Transition S L} (ht : t ∈ tr) :
    ∃ post, Run step t.source post s' ∧ ∀ u ∈ post, u ∈ tr := by
  obtain ⟨pre, post, rfl, -, hstep, hpost⟩ := h.split ht
  exact ⟨_, (Run.single hstep).trans hpost, fun u hu => List.mem_append_right _ hu⟩

/-- What a run does between two of its transitions. -/
theorem between (h : Run step s tr s') {i j : ℕ} {t t' : Transition S L} (hi : tr[i]? = some t)
    (hj : tr[j]? = some t') (hij : i < j) :
    ∃ mid, Run step t.target mid t'.source ∧ ∀ u ∈ mid, u ∈ tr := by
  obtain ⟨-, -, hpost⟩ := h.cut hi
  have hlater : (tr.drop (i + 1))[j - (i + 1)]? = some t' := by
    rw [List.getElem?_drop, Nat.add_sub_cancel' hij, hj]
  refine ⟨_, (hpost.cut hlater).1, fun u hu => ?_⟩
  exact List.mem_of_mem_drop (List.mem_of_mem_take hu)

/-- The same from before the first of them, which may be the second. -/
theorem between_sources (h : Run step s tr s') {i j : ℕ} {t t' : Transition S L}
    (hi : tr[i]? = some t) (hj : tr[j]? = some t') (hij : i ≤ j) :
    ∃ mid, Run step t.source mid t'.source ∧ ∀ u ∈ mid, u ∈ tr := by
  rcases Nat.lt_or_eq_of_le hij with hlt | rfl
  · obtain ⟨mid, hmid, hsub⟩ := h.between hi hj hlt
    refine ⟨_, (Run.single (h.cut hi).2.1).trans hmid, fun u hu => ?_⟩
    rcases List.mem_cons.mp hu with rfl | hu
    · exact List.mem_of_getElem? hi
    · exact hsub u hu
  · rw [hi, Option.some.injEq] at hj
    subst hj
    exact ⟨[], .nil _, fun u hu => absurd hu List.not_mem_nil⟩

end Run

/-! ### Runs of a function -/

section Trace

variable (next : S → L → S)

/-- The transitions that the labels make from `s`, if each of them leads to one state. -/
def trace (s : S) : List L → List (Transition S L)
  | [] => []
  | l :: ls => ⟨s, l, next s l⟩ :: trace (next s l) ls

theorem run_trace (ls : List L) (s : S) :
    Run (fun s l s' => next s l = s') s (trace next s ls) (ls.foldl next s) := by
  induction ls generalizing s with
  | nil => exact .nil s
  | cons l ls ih => exact (Run.single rfl).trans (ih _)

theorem map_label_trace (ls : List L) (s : S) : (trace next s ls).map Transition.label = ls := by
  induction ls generalizing s with
  | nil => rfl
  | cons l ls ih => rw [trace, List.map_cons, ih]

end Trace

/-! ### Replaying -/

section Replay

variable (next : S → L → Option S)

/-- The transitions that the labels make from `s` and where they lead; `none` if one of them cannot
be made. -/
def replay (s : S) : List L → Option (List (Transition S L) × S)
  | [] => some ([], s)
  | l :: ls =>
    match next s l with
    | some s' => (replay s' ls).map fun x => (⟨s, l, s'⟩ :: x.1, x.2)
    | none => none

variable {next} {s s' : S} {ls : List L} {tr : List (Transition S L)}

theorem run_of_replay (h : replay next s ls = some (tr, s')) :
    Run (fun s l s' => next s l = some s') s tr s' := by
  induction ls generalizing s tr with
  | nil =>
    cases h
    exact .nil _
  | cons l ls ih =>
    rw [replay] at h
    split at h
    · next s₁ hs =>
      rw [Option.map_eq_some_iff] at h
      obtain ⟨⟨tr', s₂⟩, hrest, heq⟩ := h
      cases heq
      exact (Run.single hs).trans (ih hrest)
    · cases h

theorem exists_run_of_replay (ls : List L) {P : List (Transition S L) → S → Prop}
    [∀ tr s', Decidable (P tr s')]
    (h : (replay next s ls).any (fun x => decide (P x.1 x.2)) = true) :
    ∃ tr s', Run (fun s l s' => next s l = some s') s tr s' ∧ P tr s' := by
  obtain ⟨⟨tr, s'⟩, hreplay, hP⟩ := (Option.any_eq_true _ _).mp h
  exact ⟨tr, s', run_of_replay hreplay, of_decide_eq_true hP⟩

end Replay

/-! ### Counters -/

/-- `n` goes up by one with every transition that satisfies `U`, and stays with the others. -/
def Counts (n : S → ℕ) (U : Transition S L → Prop) : Prop :=
  ∀ s l s', step s l s' →
    (U ⟨s, l, s'⟩ → n s' = n s + 1) ∧ (¬ U ⟨s, l, s'⟩ → n s' = n s)

namespace Counts

variable {step} {n : S → ℕ} {U : Transition S L → Prop} {s s' : S}
  {tr : List (Transition S L)}

/-- The counter has gone up by the number of transitions that advance it. -/
theorem eq_add_countP [DecidablePred U] (hc : Counts step n U) (h : Run step s tr s') :
    n s' = n s + tr.countP (fun t => decide (U t)) := by
  induction h with
  | nil => rfl
  | @snoc s' s'' l _ _ hs ih =>
    rw [List.countP_append, List.countP_singleton, ← Nat.add_assoc, ← ih]
    by_cases hU : U ⟨s', l, s''⟩
    · rw [(hc _ _ _ hs).1 hU, decide_eq_true hU]
      rfl
    · rw [(hc _ _ _ hs).2 hU, decide_eq_false hU]
      rfl

theorem le (hc : Counts step n U) (h : Run step s tr s') : n s ≤ n s' := by
  classical
  rw [hc.eq_add_countP h]
  exact Nat.le_add_right _ _

/-- A transition that advances the counter finds it lower than every later one. -/
theorem lt_of_lt (hc : Counts step n U) (h : Run step s tr s') {i j : ℕ}
    {t t' : Transition S L} (hi : tr[i]? = some t) (hj : tr[j]? = some t') (hU : U t)
    (hij : i < j) : n t.source < n t'.source := by
  obtain ⟨-, hstep, -⟩ := h.cut hi
  obtain ⟨mid, hmid, -⟩ := h.between hi hj hij
  have hle := hc.le hmid
  rw [(hc _ _ _ hstep).1 hU] at hle
  exact hle

/-- Two transitions that advance the counter from the same value are the same. -/
theorem index_eq (hc : Counts step n U) (h : Run step s tr s') {i j : ℕ}
    {t t' : Transition S L} (hi : tr[i]? = some t) (hj : tr[j]? = some t') (hU : U t)
    (hU' : U t') (heq : n t.source = n t'.source) : i = j := by
  rcases Nat.lt_trichotomy i j with hlt | hij | hgt
  · exact absurd heq (Nat.ne_of_lt (hc.lt_of_lt h hi hj hU hlt))
  · exact hij
  · exact absurd heq.symm (Nat.ne_of_lt (hc.lt_of_lt h hj hi hU' hgt))

end Counts

/-! ### Reaching a goal -/

/-- Some run from `s`, all of whose transitions satisfy `C`, ends in a state that satisfies
`Q`. -/
def Attains (C : Transition S L → Prop) (Q : S → Prop) (s : S) : Prop :=
  ∃ tr s', Run step s tr s' ∧ (∀ t ∈ tr, C t) ∧ Q s'

namespace Attains

variable {step} {C : Transition S L → Prop} {Q R : S → Prop} {s s' : S}

theorem now (h : Q s) : Attains step C Q s :=
  ⟨[], s, .nil s, fun _ ht => absurd ht List.not_mem_nil, h⟩

theorem trans (h : Attains step C Q s) (hQ : ∀ s', Q s' → Attains step C R s') :
    Attains step C R s := by
  obtain ⟨tr, s', hrun, hall, hs'⟩ := h
  obtain ⟨tr', s'', hrun', hall', hs''⟩ := hQ s' hs'
  refine ⟨tr ++ tr', s'', hrun.trans hrun', fun t ht => ?_, hs''⟩
  rcases List.mem_append.mp ht with hfirst | hlater
  · exact hall t hfirst
  · exact hall' t hlater

theorem of_step {l : L} (hstep : step s l s') (hC : C ⟨s, l, s'⟩) (h : Q s') :
    Attains step C Q s := by
  refine ⟨_, s', .single hstep, fun t ht => ?_, h⟩
  rwa [List.mem_singleton.mp ht]

/-- The goal is attained if in every state on the way some step leads to it, or to a state on the
way with a smaller measure. -/
theorem of_measure {I : S → Prop} (m : S → ℕ)
    (hstep : ∀ s, I s → ∃ l s', step s l s' ∧ C ⟨s, l, s'⟩ ∧ (Q s' ∨ (I s' ∧ m s' < m s)))
    (h : I s) : Attains step C Q s := by
  -- induction on a bound of the measure
  have hbound : ∀ n s, m s < n → I s → Attains step C Q s := by
    intro n
    induction n with
    | zero => exact fun s hlt => absurd hlt (Nat.not_lt_zero _)
    | succ n ih =>
      intro s hlt hs
      obtain ⟨l, s', hs', hC, hgoal | ⟨hI, hless⟩⟩ := hstep s hs
      · exact of_step hs' hC hgoal
      · have hthere : Attains step C (fun x => x = s') s := of_step hs' hC rfl
        refine hthere.trans fun x hx => ?_
        subst hx
        exact ih x (by omega) hI
  exact hbound (m s + 1) s (Nat.lt_succ_self _) h

end Attains

end Runs
