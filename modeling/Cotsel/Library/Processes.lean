import Cotsel.Library.Interaction
import Cotsel.Library.Run

/-!
# Processes over a shared store

Any number of processes run programs over one store.  A step is a new call, one operation of one
process, the end of a call, or the death of a process at any point.  What an operation does to the
store and how it may be answered is given by `World.perform`; the answers that the store does not
determine are drawn from a `Luck`, so that a run can be replayed from a list of choices
(`simulate`).

* `Run.roles`: when the programs of all calls follow a protocol, every run of the processes is, with
  the same stores and labels, a run of the roles.  What the protocol guarantees is then proved about
  roles, one operation at a time, without looking at the programs.
* `track`, `Run.obeys`: what is known about one process follows from its own steps;
* `Meets`, `Run.tracked`: invariants of the runs whose steps meet a condition on what is known.
* `RunsTo`, `Ensures`: what a program does when it runs alone.
-/

namespace Interaction

open Runs

variable {Op : Type} {Ans : Op → Type} {ε α S Pid Luck Req τ : Type}

/-- What the programs run on. -/
structure World (Op : Type) (Ans : Op → Type) (ε α S Pid Luck Req : Type) where
  /-- The answer to an operation and the store after it, for this luck; `none` if the operation has
  to wait, or if things cannot go this way. -/
  perform : Pid → (o : Op) → Luck → S → Option (Except ε (Ans o) × S)
  /-- What the death of a process does to the store. -/
  abandon : Pid → S → S
  /-- The program of a call. -/
  program : Req → Prog Op Ans ε α

/-- The store, and what is left to do of each call in flight. -/
structure Config (Op : Type) (Ans : Op → Type) (ε α S Pid : Type) where
  store : S
  procs : Pid → Option (Prog Op Ans ε α)

inductive Label (Op : Type) (Ans : Op → Type) (ε α Pid Req : Type)
  | call (p : Pid) (q : Req)
  | act (p : Pid) (o : Op) (r : Except ε (Ans o))
  | done (p : Pid) (r : Except ε α)
  | crash (p : Pid)

def Config.Quiet (c : Config Op Ans ε α S Pid) : Prop := ∀ p, c.procs p = none

variable [DecidableEq Pid] (W : World Op Ans ε α S Pid Luck Req)

inductive Step : Config Op Ans ε α S Pid → Label Op Ans ε α Pid Req →
    Config Op Ans ε α S Pid → Prop
  | call {c : Config Op Ans ε α S Pid} {p : Pid} {q : Req} (hp : c.procs p = none) :
      Step c (.call p q) ⟨c.store, Function.update c.procs p (some (W.program q))⟩
  | act {c : Config Op Ans ε α S Pid} {p : Pid} {o : Op} {r : Except ε (Ans o)} {s : S}
      {k : Except ε (Ans o) → Prog Op Ans ε α} {luck : Luck} (hp : c.procs p = some (.op o k))
      (hs : W.perform p o luck c.store = some (r, s)) :
      Step c (.act p o r) ⟨s, Function.update c.procs p (some (k r))⟩
  | done {c : Config Op Ans ε α S Pid} {p : Pid} {r : Except ε α} {prog : Prog Op Ans ε α}
      (hp : c.procs p = some prog) (hr : prog.result = some r) :
      Step c (.done p r) ⟨c.store, Function.update c.procs p none⟩
  | crash {c : Config Op Ans ε α S Pid} {p : Pid} {prog : Prog Op Ans ε α}
      (hp : c.procs p = some prog) :
      Step c (.crash p) ⟨W.abandon p c.store, Function.update c.procs p none⟩

/-! ### Replaying -/

/-- One choice of a schedule: which process goes on, and with what luck. -/
inductive Choice (Pid Luck Req : Type)
  | call (p : Pid) (q : Req)
  /-- The next `n` operations of a process. -/
  | acts (p : Pid) (luck : Luck) (n : ℕ)
  | done (p : Pid)
  | crash (p : Pid)

/-- Perform up to `n` operations of a program, in order. -/
def performs (p : Pid) (luck : Luck) : ℕ → Prog Op Ans ε α → S →
    Option (List (Transition S (Label Op Ans ε α Pid Req)) × Prog Op Ans ε α × S)
  | 0, prog, s => some ([], prog, s)
  | n + 1, .op o k, s =>
    match W.perform p o luck s with
    | some (r, s') =>
      (performs p luck n (k r) s').map fun x => (⟨s, .act p o r, s'⟩ :: x.1, x.2)
    | none => none
  | _ + 1, prog, s => some ([], prog, s)

def advance (c : Config Op Ans ε α S Pid) : Choice Pid Luck Req →
    Option (List (Transition S (Label Op Ans ε α Pid Req)) × Config Op Ans ε α S Pid)
  | .call p q =>
    match c.procs p with
    | none => some ([⟨c.store, .call p q, c.store⟩],
        ⟨c.store, Function.update c.procs p (some (W.program q))⟩)
    | some _ => none
  | .acts p luck n =>
    match c.procs p with
    | some prog =>
      (performs W p luck n prog c.store).map fun x =>
        (x.1, ⟨x.2.2, Function.update c.procs p (some x.2.1)⟩)
    | none => none
  | .done p =>
    match c.procs p with
    | some prog => prog.result.map fun r =>
        ([⟨c.store, .done p r, c.store⟩], ⟨c.store, Function.update c.procs p none⟩)
    | none => none
  | .crash p =>
    match c.procs p with
    | some _ => some ([⟨c.store, .crash p, W.abandon p c.store⟩],
        ⟨W.abandon p c.store, Function.update c.procs p none⟩)
    | none => none

/-- What happens in a schedule and where it ends; `none` if one of its choices cannot be made. -/
def simulate : List (Choice Pid Luck Req) → Config Op Ans ε α S Pid →
    Option (List (Transition S (Label Op Ans ε α Pid Req)) × Config Op Ans ε α S Pid)
  | [], c => some ([], c)
  | x :: xs, c =>
    match advance W c x with
    | some (events, c') => (simulate xs c').map fun y => (events ++ y.1, y.2)
    | none => none

/-- What of a transition does not depend on the programs. -/
def view (t : Transition (Config Op Ans ε α S Pid) (Label Op Ans ε α Pid Req)) :
    Transition S (Label Op Ans ε α Pid Req) :=
  ⟨t.source.store, t.label, t.target.store⟩

variable {W} {c c' c'' : Config Op Ans ε α S Pid}
  {events : List (Transition S (Label Op Ans ε α Pid Req))}

variable {p : Pid}

theorem performs_run {luck : Luck} {n : ℕ} {prog prog' : Prog Op Ans ε α} {s s' : S}
    {procs : Pid → Option (Prog Op Ans ε α)}
    (h : performs W p luck n prog s = some (events, prog', s')) :
    ∃ tr, Run (Step W) ⟨s, Function.update procs p (some prog)⟩ tr
      ⟨s', Function.update procs p (some prog')⟩ ∧ tr.map view = events := by
  induction n generalizing prog s events with
  | zero =>
    cases h
    exact ⟨[], .nil _, rfl⟩
  | succ n ih =>
    cases prog with
    | ret | fail =>
      cases h
      exact ⟨[], .nil _, rfl⟩
    | op o k =>
      rw [performs] at h
      split at h
      · next r s₁ hs =>
        rw [Option.map_eq_some_iff] at h
        obtain ⟨⟨events', rest⟩, hrest, heq⟩ := h
        cases heq
        obtain ⟨tr, hrun, hevents⟩ := ih hrest
        have hstep : Step W ⟨s, Function.update procs p (some (.op o k))⟩ (.act p o r) _ :=
          .act (Function.update_self ..) hs
        rw [Function.update_idem] at hstep
        refine ⟨_, (Run.single hstep).trans hrun, ?_⟩
        rw [List.map_append, hevents]
        rfl
      · cases h

theorem advance_run {x : Choice Pid Luck Req} (h : advance W c x = some (events, c')) :
    ∃ tr, Run (Step W) c tr c' ∧ tr.map view = events := by
  cases x with
  | call =>
    rw [advance] at h
    split at h
    · next hp =>
      cases h
      exact ⟨_, .single (.call hp), rfl⟩
    · cases h
  | acts p =>
    rw [advance] at h
    split at h
    · next prog hp =>
      rw [Option.map_eq_some_iff] at h
      obtain ⟨⟨events', prog', s'⟩, hperf, heq⟩ := h
      cases heq
      obtain ⟨tr, hrun, hevents⟩ := performs_run hperf
      have hself : Function.update c.procs p (some prog) = c.procs := by
        rw [← hp, Function.update_eq_self]
      rw [hself] at hrun
      exact ⟨tr, hrun, hevents⟩
    · cases h
  | done =>
    rw [advance] at h
    split at h
    · next prog hp =>
      rw [Option.map_eq_some_iff] at h
      obtain ⟨r, hr, heq⟩ := h
      cases heq
      exact ⟨_, .single (.done hp hr), rfl⟩
    · cases h
  | crash =>
    rw [advance] at h
    split at h
    · next prog hp =>
      cases h
      exact ⟨_, .single (.crash hp), rfl⟩
    · cases h

/-- A schedule that can be replayed is a run. -/
theorem simulate_run {xs : List (Choice Pid Luck Req)}
    (h : simulate W xs c = some (events, c')) :
    ∃ tr, Run (Step W) c tr c' ∧ tr.map view = events := by
  induction xs generalizing c events with
  | nil =>
    cases h
    exact ⟨[], .nil _, rfl⟩
  | cons x xs ih =>
    rw [simulate] at h
    split at h
    · next events₁ c₁ hx =>
      rw [Option.map_eq_some_iff] at h
      obtain ⟨⟨events₂, c₂⟩, hrest, heq⟩ := h
      cases heq
      obtain ⟨tr₁, hrun₁, hevents₁⟩ := advance_run hx
      obtain ⟨tr₂, hrun₂, hevents₂⟩ := ih hrest
      exact ⟨_, hrun₁.trans hrun₂, by rw [List.map_append, hevents₁, hevents₂]⟩
    · cases h

/-- The same, for what can be decided of the events of the schedule and its end. -/
theorem exists_run_of_simulate (xs : List (Choice Pid Luck Req))
    {P : List (Transition S (Label Op Ans ε α Pid Req)) → Config Op Ans ε α S Pid → Prop}
    [∀ events c', Decidable (P events c')]
    (h : (simulate W xs c).any (fun x => decide (P x.1 x.2)) = true) :
    ∃ tr c', Run (Step W) c tr c' ∧ P (tr.map view) c' := by
  obtain ⟨⟨events, c'⟩, hsim, hP⟩ := (Option.any_eq_true _ _).mp h
  obtain ⟨tr, hrun, rfl⟩ := simulate_run hsim
  exact ⟨tr, c', hrun, of_decide_eq_true hP⟩

theorem exists_end_of_simulate (xs : List (Choice Pid Luck Req))
    {P : Config Op Ans ε α S Pid → Prop} [DecidablePred P]
    (h : (simulate W xs c).any (fun x => decide (P x.2)) = true) :
    ∃ tr c', Run (Step W) c tr c' ∧ P c' :=
  exists_run_of_simulate xs (P := fun _ c' => P c') h

/-! ### Roles -/

/-- The store, and the role of each process. -/
structure RoleConfig (S Pid τ : Type) where
  store : S
  roles : Pid → τ

variable (W) (P : Protocol Op Ans ε τ) (start : τ) (final : τ → Prop)

/-- The steps of processes of which only the roles are known: they start in `start`, ask for what is
allowed, and end in a role that satisfies `final`. -/
inductive RoleStep : RoleConfig S Pid τ → Label Op Ans ε α Pid Req → RoleConfig S Pid τ → Prop
  | call {x : RoleConfig S Pid τ} {p : Pid} {q : Req} (hp : x.roles p = start) :
      RoleStep x (.call p q) x
  | act {x : RoleConfig S Pid τ} {p : Pid} {o : Op} {r : Except ε (Ans o)} {s : S} {luck : Luck}
      (hallowed : P.allowed (x.roles p) o) (hs : W.perform p o luck x.store = some (r, s)) :
      RoleStep x (.act p o r) ⟨s, Function.update x.roles p (P.next (x.roles p) o r)⟩
  | done {x : RoleConfig S Pid τ} {p : Pid} {r : Except ε α} (hp : final (x.roles p)) :
      RoleStep x (.done p r) ⟨x.store, Function.update x.roles p start⟩
  | crash {x : RoleConfig S Pid τ} {p : Pid} :
      RoleStep x (.crash p) ⟨W.abandon p x.store, Function.update x.roles p start⟩

/-- The answers are those that the protocol expects. -/
def Truthful : Prop :=
  ∀ p o luck s r s', W.perform p o luck s = some (r, s') → P.answers o r

/-- The program keeps to the protocol from this role on. -/
def Follows (prog : Prog Op Ans ε α) (t : τ) : Prop :=
  wp P prog (fun t _ => final t) (fun t _ => final t) t

/-- Each process keeps to the protocol from its role on. -/
def Plays (c : Config Op Ans ε α S Pid) (roles : Pid → τ) : Prop :=
  ∀ p, match c.procs p with
    | none => roles p = start
    | some prog => Follows P final prog (roles p)

variable {W P start final}

variable {r : Except ε α}

theorem Follows.of_result {prog : Prog Op Ans ε α} {t : τ}
    (h : Follows P final prog t) (hr : prog.result = some r) : final t := by
  cases prog with
  | ret | fail => exact h
  | op => cases hr

omit [DecidableEq Pid] in
theorem Plays.of_some {roles : Pid → τ} {prog : Prog Op Ans ε α}
    (h : Plays P start final c roles) (hp : c.procs p = some prog) :
    Follows P final prog (roles p) := by
  have := h p
  rwa [hp] at this

/-- One process goes on; the others stay as they are. -/
theorem Plays.update {roles : Pid → τ} {s : S} {prog : Option (Prog Op Ans ε α)} {t : τ}
    (h : Plays P start final c roles)
    (hp : match prog with
      | none => t = start
      | some prog => Follows P final prog t) :
    Plays P start final ⟨s, Function.update c.procs p prog⟩ (Function.update roles p t) := by
  intro p'
  by_cases hne : p' = p
  · subst hne
    simpa only [Function.update_self] using hp
  · simpa only [Function.update_of_ne hne] using h p'

/-- The same view, of roles. -/
def roleView (t : Transition (RoleConfig S Pid τ) (Label Op Ans ε α Pid Req)) :
    Transition S (Label Op Ans ε α Pid Req) :=
  ⟨t.source.store, t.label, t.target.store⟩

variable {A : Req → Prop}

/-- A step of programs that keep to the protocol is a step of their roles. -/
theorem Step.roles {l : Label Op Ans ε α Pid Req} {roles : Pid → τ}
    (htrue : Truthful W P) (hprog : ∀ q, A q → Follows P final (W.program q) start)
    (hcall : ∀ p q, l = .call p q → A q) (h : Plays P start final c roles) (hstep : Step W c l c') :
    ∃ roles', RoleStep W P start final ⟨c.store, roles⟩ l ⟨c'.store, roles'⟩ ∧
      Plays P start final c' roles' := by
  cases hstep with
  | @call p q hp =>
    have hrole : roles p = start := by
      have := h p
      rwa [hp] at this
    refine ⟨roles, .call hrole, ?_⟩
    have hself : Function.update roles p start = roles := by
      rw [← hrole, Function.update_eq_self]
    rw [← hself]
    exact h.update (hprog q (hcall p q rfl))
  | act hp hs =>
    obtain ⟨hallowed, hnext⟩ := h.of_some hp
    exact ⟨_, .act hallowed hs, h.update (hnext _ (htrue _ _ _ _ _ _ hs))⟩
  | done hp hr => exact ⟨_, .done ((h.of_some hp).of_result hr), h.update rfl⟩
  | crash => exact ⟨_, .crash, h.update rfl⟩

variable {tr : List (Transition (Config Op Ans ε α S Pid) (Label Op Ans ε α Pid Req))}

/-- Every run of programs that keep to the protocol is a run of their roles, with the same stores
and labels. -/
theorem Run.roles
    {roles : Pid → τ} (htrue : Truthful W P)
    (hprog : ∀ q, A q → Follows P final (W.program q) start)
    (hcalls : ∀ t ∈ tr, ∀ p q, t.label = .call p q → A q)
    (h : Plays P start final c roles) (hrun : Run (Step W) c tr c') :
    ∃ tr' roles', Run (RoleStep W P start final) ⟨c.store, roles⟩ tr' ⟨c'.store, roles'⟩ ∧
      tr.map view = tr'.map roleView ∧ Plays P start final c' roles' := by
  induction hrun with
  | nil => exact ⟨[], roles, .nil _, rfl, h⟩
  | @snoc c₁ c₂ l _ _ hstep ih =>
    obtain ⟨tr', roles', hrun', hview, hplays⟩ :=
      ih fun t ht => hcalls t (List.mem_append_left _ ht)
    have hcall : ∀ p q, l = .call p q → A q := hcalls ⟨c₁, l, c₂⟩ (by simp)
    obtain ⟨roles'', hrole, hplays'⟩ := Step.roles htrue hprog hcall hplays hstep
    refine ⟨_, roles'', .snoc hrun' hrole, ?_, hplays'⟩
    rw [List.map_append, List.map_append, hview]
    rfl

omit [DecidableEq Pid] in
theorem Config.Quiet.plays (h : c.Quiet) : Plays P start final c (fun _ => start) := by
  intro p
  rw [h p]

/-- A relation between what has happened so far and the roles, kept by every step of the roles,
holds at the end of every run. -/
theorem Run.role_history
    {I : List (Transition S (Label Op Ans ε α Pid Req)) → RoleConfig S Pid τ → Prop}
    (htrue : Truthful W P) (hprog : ∀ q, A q → Follows P final (W.program q) start)
    (hcalls : ∀ t ∈ tr, ∀ p q, t.label = .call p q → A q) {roles : Pid → τ}
    (h : Plays P start final c roles) (h0 : I [] ⟨c.store, roles⟩)
    (hstep : ∀ events x l x', I events x → RoleStep W P start final x l x' →
      I (events ++ [⟨x.store, l, x'.store⟩]) x')
    (hrun : Run (Step W) c tr c') :
    ∃ roles', I (tr.map view) ⟨c'.store, roles'⟩ ∧ Plays P start final c' roles' := by
  obtain ⟨tr', roles', hrun', hview, hplays⟩ := Run.roles htrue hprog hcalls h hrun
  refine ⟨roles', ?_, hplays⟩
  rw [hview]
  refine Runs.Run.history (I := fun tr x => I (tr.map roleView) x) h0 ?_ hrun'
  intro tr x l x' _ hI hx
  rw [List.map_append]
  exact hstep _ _ _ _ hI hx

/-- The same for an invariant that is kept by the steps that satisfy `C`. -/
theorem Run.role_invariant {C : Transition S (Label Op Ans ε α Pid Req) → Prop}
    {I : RoleConfig S Pid τ → Prop}
    (htrue : Truthful W P) (hprog : ∀ q, A q → Follows P final (W.program q) start)
    (hcalls : ∀ t ∈ tr, ∀ p q, t.label = .call p q → A q) (hC : ∀ t ∈ tr, C (view t))
    {roles : Pid → τ} (h : Plays P start final c roles) (h0 : I ⟨c.store, roles⟩)
    (hstep : ∀ x l x', C ⟨x.store, l, x'.store⟩ → I x → RoleStep W P start final x l x' → I x')
    (hrun : Run (Step W) c tr c') :
    ∃ roles', I ⟨c'.store, roles'⟩ ∧ Plays P start final c' roles' := by
  obtain ⟨roles', hI, hplays⟩ := Run.role_history (I := fun events x => (∀ t ∈ events, C t) → I x)
    htrue hprog hcalls h (fun _ => h0) (fun events x l x' hx hs hevents => by
      refine hstep x l x' ?_ (hx fun t ht => hevents t (List.mem_append_left _ ht)) hs
      exact hevents _ (List.mem_append_right _ (List.mem_singleton_self _))) hrun
  refine ⟨roles', hI fun t ht => ?_, hplays⟩
  obtain ⟨t', ht', rfl⟩ := List.mem_map.mp ht
  exact hC t' ht'

/-! ### Following one process -/

/-- What one step makes of what is kept about the call of `p`: its answers are counted in with
`next`, and a call starts anew. -/
def follow (next : τ → (o : Op) → Except ε (Ans o) → τ) (start : τ) (p : Pid) (t : τ) :
    Label Op Ans ε α Pid Req → τ
  | .act p' o r => if p' = p then next t o r else t
  | .call p' _ | .done p' _ | .crash p' => if p' = p then start else t

/-- What is kept about the call of `p` after these events. -/
def track (next : τ → (o : Op) → Except ε (Ans o) → τ) (start : τ) (p : Pid)
    (events : List (Transition S (Label Op Ans ε α Pid Req))) : τ :=
  events.foldl (fun t e => follow next start p t e.label) start

theorem track_snoc (next : τ → (o : Op) → Except ε (Ans o) → τ) (p : Pid)
    (e : Transition S (Label Op Ans ε α Pid Req)) :
    track next start p (events ++ [e]) =
      follow next start p (track next start p events) e.label := by
  rw [track, List.foldl_append]
  rfl

/-- A step changes the role of a process as its own steps do. -/
theorem RoleStep.roles_eq {x x' : RoleConfig S Pid τ} {l : Label Op Ans ε α Pid Req}
    (h : RoleStep W P start final x l x') (p : Pid) :
    x'.roles p = follow P.next start p (x.roles p) l := by
  cases h with
  | @call p' q hp =>
    rcases eq_or_ne p' p with rfl | hne
    · simp only [follow, if_true, hp]
    · simp only [follow, if_neg hne]
  | @act p' | @done p' | @crash p' =>
    rcases eq_or_ne p' p with rfl | hne
    · simp only [follow, if_true, Function.update_self]
    · simp only [follow, if_neg hne, Function.update_of_ne hne.symm]

variable (P start final) in
/-- Each process asks for what is allowed to it, and ends when it may. -/
structure Obeys (events : List (Transition S (Label Op Ans ε α Pid Req))) : Prop where
  act : ∀ i e p o r, events[i]? = some e → e.label = .act p o r →
    P.allowed (track P.next start p (events.take i)) o
  done : ∀ i e p r, events[i]? = some e → e.label = .done p r →
    final (track P.next start p (events.take i))

/-- The last of some events, or one of those before. -/
theorem getElem?_snoc {β : Type} {l : List β} {i : ℕ} {b e : β} (h : (l ++ [b])[i]? = some e) :
    (l[i]? = some e ∧ (l ++ [b]).take i = l.take i) ∨ (e = b ∧ (l ++ [b]).take i = l) := by
  rcases Nat.lt_trichotomy i l.length with hlt | rfl | hgt
  · rw [List.getElem?_append_left hlt] at h
    exact Or.inl ⟨h, List.take_append_of_le_length hlt.le⟩
  · rw [List.getElem?_concat_length, Option.some.injEq] at h
    exact Or.inr ⟨h.symm, List.take_left⟩
  · rw [List.getElem?_eq_none (by simp; omega)] at h
    cases h

/-- Processes whose programs keep to the protocol obey it along every run. -/
theorem Run.obeys
    (htrue : Truthful W P) (hprog : ∀ q, A q → Follows P final (W.program q) start)
    (hcalls : ∀ t ∈ tr, ∀ p q, t.label = .call p q → A q) (hquiet : c.Quiet)
    (hrun : Run (Step W) c tr c') : Obeys P start final (tr.map view) := by
  let I : List (Transition S (Label Op Ans ε α Pid Req)) → RoleConfig S Pid τ → Prop :=
    fun events x => (∀ p, x.roles p = track P.next start p events) ∧ Obeys P start final events
  have h0 : I [] ⟨c.store, fun _ => start⟩ :=
    ⟨fun _ => rfl, by constructor <;> simp⟩
  refine (Run.role_history (I := I) htrue hprog hcalls hquiet.plays h0 ?_ hrun).elim
    fun _ h => h.1.2
  rintro events x l x' ⟨hroles, hobeys⟩ hstep
  refine ⟨fun p => ?_, ⟨fun i e p o r hi hl => ?_, fun i e p r hi hl => ?_⟩⟩
  · rw [track_snoc, ← hroles p]
    exact hstep.roles_eq p
  · rcases getElem?_snoc hi with ⟨hi, htake⟩ | ⟨rfl, htake⟩
    · rw [htake]
      exact hobeys.act i e p o r hi hl
    · rw [htake, ← hroles p]
      subst hl
      cases hstep with
      | act hallowed => exact hallowed
  · rcases getElem?_snoc hi with ⟨hi, htake⟩ | ⟨rfl, htake⟩
    · rw [htake]
      exact hobeys.done i e p r hi hl
    · rw [htake, ← hroles p]
      subst hl
      cases hstep with
      | done hp => exact hp

/-- Every event meets `C`, which sees what is kept about each process at that time. -/
def Meets (next : τ → (o : Op) → Except ε (Ans o) → τ) (start : τ)
    (C : (Pid → τ) → Transition S (Label Op Ans ε α Pid Req) → Prop)
    (events : List (Transition S (Label Op Ans ε α Pid Req))) : Prop :=
  ∀ i e, events[i]? = some e → C (fun p => track next start p (events.take i)) e

instance (next : τ → (o : Op) → Except ε (Ans o) → τ)
    (C : (Pid → τ) → Transition S (Label Op Ans ε α Pid Req) → Prop)
    [∀ roles e, Decidable (C roles e)] :
    Decidable (Meets next start C events) :=
  decidable_of_iff (∀ i ∈ List.range events.length, ∀ e ∈ events[i]?,
      C (fun p => track next start p (events.take i)) e) <| by
    refine ⟨fun h i e hi => h i ?_ e hi, fun h i _ e hi => h i e hi⟩
    exact List.mem_range.mpr (List.getElem?_eq_some_iff.mp hi).1

/-- An invariant of the store and of what is kept about the processes, kept by the steps that meet
`C`, holds at the end of every run that meets `C`; and what those steps guarantee holds of each of
its events. -/
theorem Run.tracked
    {C : (Pid → τ) → Transition S (Label Op Ans ε α Pid Req) → Prop}
    {I : RoleConfig S Pid τ → Prop} {G : Transition S (Label Op Ans ε α Pid Req) → Prop}
    (htrue : Truthful W P) (hprog : ∀ q, A q → Follows P final (W.program q) start)
    (hcalls : ∀ t ∈ tr, ∀ p q, t.label = .call p q → A q) (hquiet : c.Quiet)
    (h0 : I ⟨c.store, fun _ => start⟩)
    (hstep : ∀ x l x', C x.roles ⟨x.store, l, x'.store⟩ → I x → RoleStep W P start final x l x' →
      I x' ∧ G ⟨x.store, l, x'.store⟩)
    (hrun : Run (Step W) c tr c') (hC : Meets P.next start C (tr.map view)) :
    I ⟨c'.store, fun p => track P.next start p (tr.map view)⟩ ∧ ∀ e ∈ tr.map view, G e := by
  let J : List (Transition S (Label Op Ans ε α Pid Req)) → RoleConfig S Pid τ → Prop :=
    fun events x => x.roles = (fun p => track P.next start p events) ∧
      (Meets P.next start C events → I x ∧ ∀ e ∈ events, G e)
  have hJ0 : J [] ⟨c.store, fun _ => start⟩ := ⟨rfl, fun _ => ⟨h0, by simp⟩⟩
  have hJstep : ∀ events x l x', J events x → RoleStep W P start final x l x' →
      J (events ++ [⟨x.store, l, x'.store⟩]) x' := by
    rintro events x l x' ⟨hroles, hJ⟩ hx
    refine ⟨funext fun p => ?_, fun hmeets => ?_⟩
    · rw [track_snoc, hx.roles_eq p, hroles]
    · have hbefore : Meets P.next start C events := by
        intro i e hi
        have hlt := (List.getElem?_eq_some_iff.mp hi).1
        have := hmeets i e (by rw [List.getElem?_append_left hlt, hi])
        rwa [List.take_append_of_le_length hlt.le] at this
      have hlast := hmeets events.length _ (by rw [List.getElem?_concat_length])
      rw [List.take_left, ← hroles] at hlast
      obtain ⟨hI, hG⟩ := hJ hbefore
      obtain ⟨hI', hG'⟩ := hstep x l x' hlast hI hx
      refine ⟨hI', fun e he => ?_⟩
      rcases List.mem_append.mp he with he | he
      · exact hG e he
      · rw [List.mem_singleton.mp he]
        exact hG'
  obtain ⟨roles, ⟨hroles, hJ⟩, -⟩ :=
    Run.role_history (I := J) htrue hprog hcalls hquiet.plays hJ0 hJstep hrun
  rw [← show roles = _ from hroles]
  exact hJ hC

/-! ### A program that runs alone -/

section Alone

variable (perform : (o : Op) → Luck → S → Option (Except ε (Ans o) × S))
  (C : (o : Op) → Luck → Prop)

/-- With luck as in `C` the program runs to its end, in this way. -/
inductive RunsTo : S → Prog Op Ans ε α → Except ε α → S → Prop
  | ret {s : S} {a : α} : RunsTo s (.ret a) (.ok a) s
  | fail {s : S} {e : ε} : RunsTo s (.fail e) (.error e) s
  | op {s s₁ s' : S} {o : Op} {k : Except ε (Ans o) → Prog Op Ans ε α} {luck : Luck}
      {r : Except ε (Ans o)} {x : Except ε α} (hluck : C o luck)
      (hs : perform o luck s = some (r, s₁)) (hk : RunsTo s₁ (k r) x s') :
      RunsTo s (.op o k) x s'

/-- With any luck as in `C` the program comes to an end, where `Q` holds. -/
def Ensures : Prog Op Ans ε α → (Except ε α → S → Prop) → S → Prop
  | .ret a, Q, s => Q (.ok a) s
  | .fail e, Q, s => Q (.error e) s
  | .op o k, Q, s => ∀ luck, C o luck →
    ∃ r s', perform o luck s = some (r, s') ∧ Ensures (k r) Q s'

variable {perform C} {prog : Prog Op Ans ε α} {Q Q' : Except ε α → S → Prop} {s s' : S}

namespace Ensures

theorem mono (h : Ensures perform C prog Q s) (hQ : ∀ r s, Q r s → Q' r s) :
    Ensures perform C prog Q' s := by
  induction prog generalizing s with
  | ret | fail => exact hQ _ _ h
  | op o k ih =>
    intro luck hluck
    obtain ⟨r, s', hs, hk⟩ := h luck hluck
    exact ⟨r, s', hs, ih r hk⟩

theorem bind {β : Type} {f : α → Prog Op Ans ε β} {R : Except ε β → S → Prop}
    (h : Ensures perform C prog Q s) (hok : ∀ a s, Q (.ok a) s → Ensures perform C (f a) R s)
    (herror : ∀ e s, Q (.error e) s → R (.error e) s) : Ensures perform C (prog >>= f) R s := by
  induction prog generalizing s with
  | ret => exact hok _ _ h
  | fail => exact herror _ _ h
  | op o k ih =>
    intro luck hluck
    obtain ⟨r, s', hs, hk⟩ := h luck hluck
    exact ⟨r, s', hs, ih r hk⟩

theorem call {o : Op} {Q : Except ε (Ans o) → S → Prop}
    (h : ∀ luck, C o luck → ∃ r s', perform o luck s = some (r, s') ∧ Q r s') :
    Ensures perform C (.call o : Prog Op Ans ε (Ans o)) Q s := by
  intro luck hluck
  obtain ⟨r, s', hs, hQ⟩ := h luck hluck
  refine ⟨r, s', hs, ?_⟩
  cases r <;> exact hQ

/-- Every run of the program ends where `Q` holds. -/
theorem result (h : Ensures perform C prog Q s)
    (hrun : RunsTo perform C s prog r s') : Q r s' := by
  induction hrun with
  | ret | fail => exact h
  | op hluck hs _ ih =>
    obtain ⟨r', s'', hs', hk⟩ := h _ hluck
    rw [hs, Option.some.injEq, Prod.mk.injEq] at hs'
    obtain ⟨rfl, rfl⟩ := hs'
    exact ih hk

end Ensures

omit [DecidableEq Pid] in
/-- A program that is performed to its end with the same luck throughout. -/
theorem RunsTo.of_performs {W : World Op Ans ε α S Pid Luck Req}
    {luck : Luck} {n : ℕ} {prog' : Prog Op Ans ε α}
    {events : List (Transition S (Label Op Ans ε α Pid Req))} (hluck : ∀ o, C o luck)
    (h : performs W p luck n prog s = some (events, prog', s')) (hr : prog'.result = some r) :
    RunsTo (W.perform p) C s prog r s' := by
  have hend : ∀ (prog : Prog Op Ans ε α) s, prog.result = some r →
      RunsTo (W.perform p) C s prog r s := by
    intro prog s hr
    cases prog with
    | ret =>
      cases hr
      exact .ret
    | fail =>
      cases hr
      exact .fail
    | op => cases hr
  induction n generalizing prog s events with
  | zero =>
    cases h
    exact hend _ _ hr
  | succ n ih =>
    cases prog with
    | ret | fail =>
      cases h
      exact hend _ _ hr
    | op o =>
      rw [performs] at h
      split at h
      · next x s₁ hs =>
        rw [Option.map_eq_some_iff] at h
        obtain ⟨⟨events', rest⟩, hrest, heq⟩ := h
        cases heq
        exact .op (hluck o) hs (ih hrest)
      · cases h

end Alone

end Interaction
