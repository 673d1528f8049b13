import Cotsel.Library.Run

/-!
# Keys that can be used once

A service lets a request pass if its key has not been used yet.  The used keys are the rows of a
table.  A row has an expiry time, and every use of the table deletes the rows that have expired, so
a key is remembered for its lifetime and can then be used again.

A request is first checked, at one time, and then waits for its turn at the table; what else happens
in between is arbitrary.  A party outside of the service signs messages; the table knows nothing of
them, but a check may depend on them through what it accepts.

* `State.Admitted`, `Run.admitted`: what the check established of a request is true of it when it
  waits and after it has passed;
* `Run.passed_nodup`: no request passes twice, if the lifetime of its key exceeds the time between
  two checks that it can pass, together with the time a request may wait.
-/

namespace SingleUse

open Runs

variable {K : Type} [DecidableEq K]

/-! ### The table of used keys -/

structure Entry (K : Type) where
  key : K
  expiresAt : ℕ
  deriving DecidableEq

/-- `DELETE … WHERE expires_at <= now`. -/
def prune (now : ℕ) (entries : List (Entry K)) : List (Entry K) :=
  entries.filter fun e => decide (now < e.expiresAt)

/-- What an insertion finds that runs before the deletion, or after it. -/
def visible (insertFirst : Bool) (now : ℕ) (entries : List (Entry K)) : List (Entry K) :=
  if insertFirst then entries else prune now entries

/-- One statement deletes what has expired and inserts the key unless it is there, and tells whether
it was inserted.  Its two parts run in either order. -/
def consume (insertFirst : Bool) (now lifetime : ℕ) (key : K) (entries : List (Entry K)) :
    Bool × List (Entry K) :=
  if (visible insertFirst now entries).any fun e => decide (e.key = key) then
    (false, prune now entries)
  else (true, prune now entries ++ [⟨key, now + lifetime⟩])

section Consume

variable {insertFirst : Bool} {now lifetime : ℕ} {key : K} {entries : List (Entry K)} {e : Entry K}

omit [DecidableEq K] in
theorem mem_prune : e ∈ prune now entries ↔ e ∈ entries ∧ now < e.expiresAt := by
  simp [prune]

theorem mem_consume (he : e ∈ entries) (hlt : now < e.expiresAt) :
    e ∈ (consume insertFirst now lifetime key entries).2 := by
  have hkept : e ∈ prune now entries := mem_prune.mpr ⟨he, hlt⟩
  unfold consume
  split
  · exact hkept
  · exact List.mem_append_left _ hkept

theorem expired_of_consume (h : (consume insertFirst now lifetime key entries).1 = true)
    (he : e ∈ entries) (hkey : e.key = key) : e.expiresAt ≤ now := by
  by_contra hlt
  have hseen : e ∈ visible insertFirst now entries := by
    unfold visible
    split_ifs
    · exact he
    · exact mem_prune.mpr ⟨he, Nat.lt_of_not_le hlt⟩
  unfold consume at h
  rw [if_pos (List.any_eq_true.mpr ⟨e, hseen, decide_eq_true hkey⟩)] at h
  cases h

theorem mem_consume_self (h : (consume insertFirst now lifetime key entries).1 = true) :
    ⟨key, now + lifetime⟩ ∈ (consume insertFirst now lifetime key entries).2 := by
  unfold consume at h ⊢
  split at h
  · cases h
  · next hnone =>
    rw [if_neg hnone]
    exact List.mem_append_right _ List.mem_cons_self

end Consume

/-! ### The service -/

variable {R A E M : Type}

/-- How requests `R` are checked, and which key an accepted one needs. -/
structure Service (R A K E : Type) where
  check : ℕ → R → Except E A
  key : A → K
  lifetime : ℕ

structure State (A K M : Type) where
  clock : ℕ
  entries : List (Entry K)
  /-- What has been signed so far. -/
  signed : List M
  /-- What has been checked, with the time of the check, and waits for the table. -/
  waiting : List (ℕ × A)
  /-- What was let through, with the time of its check, oldest first. -/
  passed : List (ℕ × A)
  deriving DecidableEq

inductive Event (R M : Type)
  | sign (m : M)
  | wait (d : ℕ)
  | arrive (r : R)
  /-- The statement of a waiting request, begun at `now`.  Its answer may get lost. -/
  | consume (i : ℕ) (now : ℕ) (insertFirst answered : Bool)
  /-- A waiting request is given up. -/
  | drop (i : ℕ)
  deriving DecidableEq

variable (S : Service R A K E)

/-- One step of the service and its surroundings; `none` if things cannot go this way. -/
def next (s : State A K M) : Event R M → Option (State A K M)
  | .sign m => some { s with signed := s.signed ++ [m] }
  | .wait d => some { s with clock := s.clock + d }
  | .arrive r =>
    match S.check s.clock r with
    | .ok a => some { s with waiting := s.waiting ++ [(s.clock, a)] }
    | .error _ => some s
  | .consume i now insertFirst answered =>
    match s.waiting[i]? with
    | some x =>
      if x.1 ≤ now ∧ now ≤ s.clock then
        let (fresh, entries) := consume insertFirst now S.lifetime (S.key x.2) s.entries
        some { s with
          entries
          waiting := s.waiting.eraseIdx i
          passed := if fresh && answered then s.passed ++ [x] else s.passed }
      else none
    | none => none
  | .drop i =>
    if i < s.waiting.length then some { s with waiting := s.waiting.eraseIdx i } else none

abbrev Step (s : State A K M) (l : Event R M) (s' : State A K M) : Prop := next S s l = some s'

/-- Nothing has been signed and no request is known; the table may hold anything. -/
def Start (s : State A K M) : Prop := s.signed = [] ∧ s.waiting = [] ∧ s.passed = []

instance (s : State A K M) [DecidableEq M] [DecidableEq A] : Decidable (Start s) :=
  inferInstanceAs (Decidable (_ ∧ _))

variable {S} {s s' : State A K M} {tr : List (Transition (State A K M) (Event R M))}

/-- What the statement of a waiting request does. -/
theorem consume_cases {i now : ℕ} {insertFirst answered : Bool}
    (h : Step S s (.consume i now insertFirst answered) s') :
    ∃ x, s.waiting[i]? = some x ∧ x.1 ≤ now ∧ now ≤ s.clock ∧ s'.clock = s.clock ∧
      s'.signed = s.signed ∧ s'.waiting = s.waiting.eraseIdx i ∧
      s'.entries = (consume insertFirst now S.lifetime (S.key x.2) s.entries).2 ∧
      (s'.passed = s.passed ∨ (s'.passed = s.passed ++ [x] ∧
        (consume insertFirst now S.lifetime (S.key x.2) s.entries).1 = true)) := by
  unfold Step next at h
  dsimp only at h
  split at h
  · next x hx =>
    split_ifs at h with htime hpass
    · cases h
      exact ⟨x, hx, htime.1, htime.2, rfl, rfl, rfl, rfl,
        Or.inr ⟨rfl, (Bool.and_eq_true_iff.mp hpass).1⟩⟩
    · cases h
      exact ⟨x, hx, htime.1, htime.2, rfl, rfl, rfl, rfl, Or.inl rfl⟩
  · cases h

/-! ### What the check established -/

/-- Of every request that waits or has passed, `P` holds: of the time of its check, of what was
accepted, and of what has been signed. -/
def State.Admitted (P : ℕ → A → List M → Prop) (s : State A K M) : Prop :=
  ∀ x ∈ s.waiting ++ s.passed, P x.1 x.2 s.signed

/-- `P` holds of every request that arrives and of the state in which it arrives. -/
def Arrives (P : R → State A K M → Prop) (t : Transition (State A K M) (Event R M)) : Prop :=
  ∀ r, t.label = .arrive r → P r t.source

instance decidableArrives (P : R → State A K M → Prop) [∀ r s, Decidable (P r s)]
    (t : Transition (State A K M) (Event R M)) : Decidable (Arrives P t) :=
  match hl : t.label with
  | .arrive r => decidable_of_iff (P r t.source) <| by
      refine ⟨fun h r' hr => ?_, fun h => h r hl⟩
      rw [hl] at hr
      cases hr
      exact h
  | .sign _ | .wait _ | .consume .. | .drop _ => isTrue fun r hr => by
      rw [hl] at hr
      cases hr

/-- The check accepts only what satisfies `P`. -/
def Checks (S : Service R A K E) (P : ℕ → A → List M → Prop) :
    Transition (State A K M) (Event R M) → Prop :=
  Arrives fun r s => ∀ a, S.check s.clock r = .ok a → P s.clock a s.signed

instance decidableForallOk (x : Except E A) (P : A → Prop) [DecidablePred P] :
    Decidable (∀ a, x = .ok a → P a) :=
  match x with
  | .ok a => decidable_of_iff (P a) ⟨fun h _ ha => Except.ok.inj ha ▸ h, fun h => h a rfl⟩
  | .error _ => isTrue fun _ ha => by cases ha

instance decidableChecks (S : Service R A K E) (P : ℕ → A → List M → Prop)
    [∀ t a l, Decidable (P t a l)] (t : Transition (State A K M) (Event R M)) :
    Decidable (Checks S P t) :=
  inferInstanceAs (Decidable (Arrives _ t))

/-- What has been signed stays signed. -/
def Lasting (P : ℕ → A → List M → Prop) : Prop := ∀ t a l m, P t a l → P t a (l ++ [m])

variable {P : ℕ → A → List M → Prop}

theorem Step.admitted {l : Event R M} (hP : Lasting P) (hcheck : Checks S P ⟨s, l, s'⟩)
    (h : s.Admitted P) (hstep : Step S s l s') : s'.Admitted P := by
  intro x hx
  cases l with
  | sign =>
    cases hstep
    exact hP _ _ _ _ (h x hx)
  | wait =>
    cases hstep
    exact h x hx
  | arrive r =>
    unfold Step next at hstep
    dsimp only at hstep
    split at hstep
    · next a ha =>
      cases hstep
      simp only [List.append_assoc, List.mem_append, List.mem_singleton] at hx
      rcases hx with hx | rfl | hx
      · exact h x (List.mem_append_left _ hx)
      · exact hcheck r rfl a ha
      · exact h x (List.mem_append_right _ hx)
    · cases hstep
      exact h x hx
  | consume =>
    obtain ⟨y, hy, -, -, -, hsigned, hwaiting, -, hpassed⟩ := consume_cases hstep
    rw [hsigned]
    rw [hwaiting] at hx
    rcases List.mem_append.mp hx with hx | hx
    · exact h x (List.mem_append_left _ (List.mem_of_mem_eraseIdx hx))
    · rcases hpassed with hpassed | ⟨hpassed, -⟩
      · rw [hpassed] at hx
        exact h x (List.mem_append_right _ hx)
      · rw [hpassed] at hx
        rcases List.mem_append.mp hx with hx | hx
        · exact h x (List.mem_append_right _ hx)
        · rw [List.mem_singleton.mp hx]
          exact h y (List.mem_append_left _ (List.mem_of_getElem? hy))
  | drop =>
    unfold Step next at hstep
    dsimp only at hstep
    split_ifs at hstep
    cases hstep
    rcases List.mem_append.mp hx with hx | hx
    · exact h x (List.mem_append_left _ (List.mem_of_mem_eraseIdx hx))
    · exact h x (List.mem_append_right _ hx)

omit [DecidableEq K] in
theorem Start.admitted (h : Start s) : s.Admitted P := by
  intro x hx
  rw [h.2.1, h.2.2] at hx
  cases hx

/-- What the check established is true of all that waits or has passed. -/
theorem Run.admitted (hP : Lasting P) (h0 : Start s) (hrun : Run (Step S) s tr s')
    (hcheck : ∀ t ∈ tr, Checks S P t) : s'.Admitted P :=
  hrun.invariant_of (fun _ _ _ hC hI hstep => hstep.admitted hP hC hI) hcheck h0.admitted

/-! ### No request passes twice -/

/-- A key that has passed is in the table until its lifetime from the check has run out. -/
def Remembered (S : Service R A K E) (s : State A K M) : Prop :=
  ∀ x ∈ s.passed, x.1 + S.lifetime ≤ s.clock ∨
    ∃ e ∈ s.entries, e.key = S.key x.2 ∧ x.1 + S.lifetime ≤ e.expiresAt

theorem Step.remembered {l : Event R M} (h : Remembered S s) (hstep : Step S s l s') :
    Remembered S s' := by
  intro x hx
  cases l with
  | sign =>
    cases hstep
    exact h x hx
  | wait =>
    cases hstep
    rcases h x hx with hold | hentry
    · exact Or.inl (Nat.le_add_right_of_le hold)
    · exact Or.inr hentry
  | arrive =>
    unfold Step next at hstep
    dsimp only at hstep
    split at hstep <;>
    · cases hstep
      exact h x hx
  | consume _ now insertFirst =>
    obtain ⟨y, hy, hle, hnow, hclock, -, -, hentries, hpassed⟩ := consume_cases hstep
    rw [hclock, hentries]
    have hold : ∀ x ∈ s.passed, x.1 + S.lifetime ≤ s.clock ∨
        ∃ e ∈ (consume insertFirst now S.lifetime (S.key y.2) s.entries).2,
          e.key = S.key x.2 ∧ x.1 + S.lifetime ≤ e.expiresAt := by
      intro x hx
      rcases h x hx with hpast | ⟨e, he, hkey, hexp⟩
      · exact Or.inl hpast
      · rcases Nat.lt_or_ge now e.expiresAt with hlt | hge
        · exact Or.inr ⟨e, mem_consume he hlt, hkey, hexp⟩
        · exact Or.inl (by omega)
    rcases hpassed with hpassed | ⟨hpassed, hfresh⟩
    · rw [hpassed] at hx
      exact hold x hx
    · rw [hpassed] at hx
      rcases List.mem_append.mp hx with hx | hx
      · exact hold x hx
      · rw [List.mem_singleton.mp hx]
        exact Or.inr ⟨_, mem_consume_self hfresh, rfl, Nat.add_le_add_right hle _⟩
  | drop =>
    unfold Step next at hstep
    dsimp only at hstep
    split_ifs at hstep
    cases hstep
    exact h x hx

/-- No request waits longer than `delay` between its check and its statement. -/
def Prompt (delay : ℕ) (t : Transition (State A K M) (Event R M)) : Prop :=
  ∀ i now insertFirst answered, t.label = .consume i now insertFirst answered →
    ∀ x, t.source.waiting[i]? = some x → t.source.clock ≤ x.1 + delay

instance (delay : ℕ) (t : Transition (State A K M) (Event R M)) : Decidable (Prompt delay t) :=
  match hl : t.label with
  | .consume i now insertFirst answered =>
    decidable_of_iff (∀ x ∈ t.source.waiting[i]?, t.source.clock ≤ x.1 + delay) <| by
      unfold Prompt
      rw [hl]
      refine ⟨fun h i' _ _ _ hi x hx => ?_, fun h x hx => h i now insertFirst answered rfl x hx⟩
      cases hi
      exact h x hx
  | .sign _ | .wait _ | .arrive _ | .drop _ => isTrue fun i now f g hr => by
      rw [hl] at hr
      cases hr

/-- What `ident` takes for the same request needs one key, and is accepted by checks that are at
most `window` apart. -/
def Window {I : Type} (S : Service R A K E) (P : ℕ → A → List M → Prop) (ident : A → I)
    (window : ℕ) : Prop :=
  ∀ t t' a a' l, P t a l → P t' a' l → ident a = ident a' →
    S.key a = S.key a' ∧ t' ≤ t + window

variable {I : Type} {ident : A → I} {delay window : ℕ}

theorem Step.passed_nodup {l : Event R M} (hwindow : Window S P ident window)
    (hlife : window + delay < S.lifetime) (hprompt : Prompt delay ⟨s, l, s'⟩)
    (hadmitted : s.Admitted P) (hremembered : Remembered S s)
    (h : (s.passed.map fun x => ident x.2).Nodup) (hstep : Step S s l s') :
    (s'.passed.map fun x => ident x.2).Nodup := by
  cases l with
  | sign | wait =>
    cases hstep
    exact h
  | arrive =>
    unfold Step next at hstep
    dsimp only at hstep
    split at hstep <;>
    · cases hstep
      exact h
  | consume i now insertFirst answered =>
    obtain ⟨y, hy, hle, hnow, -, -, -, -, hpassed⟩ := consume_cases hstep
    rcases hpassed with hpassed | ⟨hpassed, hfresh⟩
    · rwa [hpassed]
    · rw [hpassed, List.map_append]
      refine List.Nodup.append h (List.nodup_singleton _) ?_
      intro k hk hk'
      obtain ⟨x, hx, rfl⟩ := List.mem_map.mp hk
      have hsame : ident x.2 = ident y.2 := List.mem_singleton.mp hk'
      obtain ⟨hkeys, hnear⟩ := hwindow x.1 y.1 x.2 y.2 s.signed
        (hadmitted x (List.mem_append_right _ hx))
        (hadmitted y (List.mem_append_left _ (List.mem_of_getElem? hy))) hsame
      -- the earlier use has expired by now, but then the check of this one came too late
      have hexpired : x.1 + S.lifetime ≤ s.clock := by
        rcases hremembered x hx with hpast | ⟨e, he, hkey, hexp⟩
        · exact hpast
        · have := expired_of_consume hfresh he (hkey.trans hkeys)
          omega
      have hsoon := hprompt i now insertFirst answered rfl y hy
      dsimp only at hsoon
      omega
  | drop =>
    unfold Step next at hstep
    dsimp only at hstep
    split_ifs at hstep
    cases hstep
    exact h

/-- No request passes twice, if keys live longer than its checks can be apart. -/
theorem Run.passed_nodup (hP : Lasting P) (hwindow : Window S P ident window)
    (hlife : window + delay < S.lifetime) (h0 : Start s) (hrun : Run (Step S) s tr s')
    (hcheck : ∀ t ∈ tr, Checks S P t) (hprompt : ∀ t ∈ tr, Prompt delay t) :
    (s'.passed.map fun x => ident x.2).Nodup := by
  have hinv : s'.Admitted P ∧ Remembered S s' ∧ (s'.passed.map fun x => ident x.2).Nodup := by
    refine hrun.invariant_of (I := fun s => s.Admitted P ∧ Remembered S s ∧
      (s.passed.map fun x => ident x.2).Nodup) (C := fun t => Checks S P t ∧ Prompt delay t)
      ?_ (fun t ht => ⟨hcheck t ht, hprompt t ht⟩) ⟨h0.admitted, ?_, ?_⟩
    · rintro s l s' ⟨hchecks, hprompts⟩ ⟨hadm, hrem, hnodup⟩ hstep
      exact ⟨hstep.admitted hP hchecks hadm, hstep.remembered hrem,
        hstep.passed_nodup hwindow hlife hprompts hadm hrem hnodup⟩
    · intro x hx
      rw [h0.2.2] at hx
      cases hx
    · rw [h0.2.2]
      exact List.nodup_nil
  exact hinv.2.2

end SingleUse
