import Cotsel.Gateway.Idempotency

/-!
# Isolation of idempotent replays

What a scope is answered must not depend on the gasless transactions that executions of other
scopes produced.  `nextWithout A` is the gateway in which executions of scopes other than `A` record
no outcome; `view A` is what the scope `A` has to do with: its row, and its requests with what they
were answered.

* `view_exec`: if requests of different scopes carry different request ids, the scope sees the same
  in both gateways;
* `replay_leaks`: the request id is chosen by the caller and not part of the scope, so two scopes
  may share one, and then a pending key of one actor is answered and completed with the transaction
  of another.
-/

namespace Cotsel.Gateway.Idempotency

open Runs

variable (sha256 : List Char → List Char) (leaseDurationMs : ℕ)

/-- The event as if executions of scopes other than `A` recorded no outcome. -/
def nextWithout (A : Scope) (s : State) (e : Event) : State :=
  match e with
  | .prepare p _ _ _ _ _ =>
    if (s.requests p).any fun h => decide (h.request.scope ≠ A) then s
    else next sha256 leaseDurationMs s e
  | e => next sha256 leaseDurationMs s e

/-- The state after the events, as if executions of scopes other than `A` recorded no outcome. -/
def execWithout (A : Scope) (s : State) (events : List Event) : State :=
  events.foldl (nextWithout sha256 leaseDurationMs A) s

/-- The row of the scope, and its requests with their phases and answers. -/
def view (A : Scope) (s : State) : Option Record × (ℕ → Option Handler) :=
  (s.rows A, fun p => (s.requests p).filter fun h => h.request.scope = A)

/-- The scope of the request that arrives. -/
def Event.scope : Event → Option Scope
  | arrive _ q => some q.scope
  | _ => none

/-- Requests of different scopes carry different request ids. -/
def SeparateIds (events : List Event) : Prop :=
  ∀ e ∈ events, ∀ e' ∈ events, e.sharesId e' = true → e.scope = e'.scope

instance (events : List Event) : Decidable (SeparateIds events) :=
  inferInstanceAs (Decidable (∀ e ∈ events, _))

variable {sha256 leaseDurationMs} {A : Scope} {s t s' t' : State} {e : Event} {p : ℕ} {h : Handler}
  {x : Statement} {outcomes : List Produced} {r : Record} {row : Option Record} {id : List Char}

/-! ### Who an id belongs to -/

/-- The id is the request id of a request of the scope. -/
def State.Knows (s : State) (A : Scope) (id : List Char) : Prop :=
  ∃ p h, s.requests p = some h ∧ h.request.scope = A ∧ h.request.requestId = id

/-- Every request id in the state is that of a request of the scope it is used in. -/
structure Rooted (s : State) : Prop where
  outcomes : ∀ o ∈ s.outcomes, s.Knows o.producer o.outcome.requestId
  rows : ∀ A r, s.rows A = some r → s.Knows A r.requestId
  owners : ∀ p h id, s.requests p = some h → h.phase.owner = some id → s.Knows h.request.scope id

/-- Requests that share an id are of the same scope. -/
def SeparateScopes (s : State) : Prop :=
  ∀ A B id, s.Knows A id → s.Knows B id → A = B

theorem State.Knows.step (hk : s.Knows A id) (hstep : Step sha256 leaseDurationMs s e s') :
    s'.Knows A id := by
  obtain ⟨p, h, hp, hscope, hid⟩ := hk
  obtain ⟨phase, hp', -⟩ := hstep.request_kept hp
  exact ⟨p, _, hp', hscope, hid⟩

theorem Step.rooted_rows (hstep : Step sha256 leaseDurationMs s e s') (hroot : Rooted s) :
    ∀ A r, s'.rows A = some r → s'.Knows A r.requestId := by
  intro A r hr
  rcases hstep.row_cases A with hsame | ⟨x, row, ha, rfl, hrow⟩
  · exact (hroot.rows A r (hsame ▸ hr)).step hstep
  · rw [hr] at hrow
    subst hrow
    rcases ha.requestId with ⟨r', hr', hid⟩ | ⟨p, h, hp, -, hscope, hid⟩
    · rw [← hid]
      exact (hroot.rows _ r' hr').step hstep
    · exact State.Knows.step ⟨p, h, hp, hscope, hid⟩ hstep

theorem settle_producer (hash : List Char) (status : OutcomeStatus) (o : Produced) :
    (o.settle hash status).producer = o.producer := by
  unfold Produced.settle
  split_ifs <;> rfl

theorem act_outcomes : (s.act sha256 leaseDurationMs p h e).outcomes = s.outcomes ∨
    ∃ o, o.producer = h.request.scope ∧ o.outcome.requestId = h.request.requestId ∧
      (s.act sha256 leaseDurationMs p h e).outcomes = s.outcomes ++ [o] := by
  unfold State.act
  split
  · split <;> exact Or.inl rfl
  · split
    · exact Or.inl rfl
    · split_ifs
      · exact Or.inr ⟨_, rfl, rfl, rfl⟩
      · exact Or.inl rfl
    · exact Or.inl rfl

theorem Step.rooted_outcomes (hstep : Step sha256 leaseDurationMs s e s') (hroot : Rooted s) :
    ∀ o ∈ s'.outcomes, s'.Knows o.producer o.outcome.requestId := by
  have hold : ∀ o ∈ s.outcomes, s'.Knows o.producer o.outcome.requestId :=
    fun o ho => (hroot.outcomes o ho).step hstep
  rcases hstep.cases with ⟨p, q, -, -, hs'⟩ | ⟨hash, status, -, hs'⟩ | ⟨p, h, -, hp, hs'⟩ | hs'
  · rw [hs'] at hold ⊢
    exact hold
  · intro o ho
    rw [hs'] at ho
    obtain ⟨o', ho', rfl⟩ := List.mem_map.mp ho
    rw [settle_producer, settle_requestId]
    exact hold o' ho'
  · intro o ho
    rw [hs'] at ho
    rcases act_outcomes with hsame | ⟨new, hproducer, hid, happend⟩
    · rw [hsame] at ho
      exact hold o ho
    · rw [happend, List.mem_append, List.mem_singleton] at ho
      rcases ho with hmem | rfl
      · exact hold o hmem
      · rw [hproducer, hid]
        exact State.Knows.step ⟨p, h, hp, rfl, rfl⟩ hstep
  · rw [hs'] at hold ⊢
    exact hold

theorem Step.rooted_owners (hstep : Step sha256 leaseDurationMs s e s') (hroot : Rooted s) :
    ∀ p h id, s'.requests p = some h → h.phase.owner = some id → s'.Knows h.request.scope id := by
  intro p h id hp hid
  have hold : ∀ h', s.requests p = some h' → h'.request = h.request → h'.phase.owner = some id →
      s'.Knows h.request.scope id := by
    intro h' hp' hrequest hid'
    rw [← hrequest]
    exact (hroot.owners p h' id hp' hid').step hstep
  rcases hstep.cases with ⟨p', q, -, hnone, hs'⟩ | ⟨hash, status, -, hs'⟩ |
      ⟨p', h', -, hp', hs'⟩ | hs'
  · rw [hs'] at hp
    dsimp only at hp
    rw [Function.update_apply] at hp
    split_ifs at hp with hpp
    · subst hpp
      cases hp
      cases hid
    · exact hold h hp rfl hid
  · rw [hs'] at hp
    exact hold h hp rfl hid
  · obtain ⟨phase, hrequests, -, howner⟩ := act_requests sha256 leaseDurationMs e hp'
    rw [hs', hrequests] at hp
    rw [Function.update_apply] at hp
    split_ifs at hp with hpp
    · subst hpp
      cases hp
      rcases howner id hid with hbefore | ⟨r, hr, rfl⟩
      · exact hold h' hp' rfl hbefore
      · exact (hroot.rows _ r hr).step hstep
    · exact hold h hp rfl hid
  · rw [hs'] at hp
    exact hold h hp rfl hid

theorem Rooted.step (hroot : Rooted s) (hstep : Step sha256 leaseDurationMs s e s') : Rooted s' :=
  ⟨hstep.rooted_outcomes hroot, hstep.rooted_rows hroot, hstep.rooted_owners hroot⟩

theorem rooted_empty : Rooted State.empty where
  outcomes := fun _ ho => absurd ho List.not_mem_nil
  rows := nofun
  owners := nofun

/-! ### The outcomes a scope can see -/

/-- The outcomes that executions of the scope recorded. -/
def own (A : Scope) (outcomes : List Produced) : List Produced :=
  outcomes.filter fun o => o.producer = A

theorem own_append (outcomes' : List Produced) :
    own A (outcomes ++ outcomes') = own A outcomes ++ own A outcomes' := List.filter_append ..

theorem own_settle (hash : List Char) (status : OutcomeStatus) :
    own A (outcomes.map (Produced.settle hash status)) =
      (own A outcomes).map (Produced.settle hash status) := by
  unfold own
  rw [List.filter_map]
  congr 1
  refine List.filter_congr fun o _ => ?_
  exact congrArg (fun B => decide (B = A)) (settle_producer hash status o)

/-- Under an id of the scope only outcomes of the scope are recorded. -/
theorem Rooted.filter_own (hroot : Rooted s) (hsep : SeparateScopes s) (hk : s.Knows A id) :
    (s.outcomes.filter fun o => o.outcome.requestId = id) =
      (own A s.outcomes).filter fun o => o.outcome.requestId = id := by
  unfold own
  rw [List.filter_filter]
  refine List.filter_congr fun o ho => ?_
  by_cases hid : o.outcome.requestId = id
  · have hA : o.producer = A := hsep _ _ id (hid ▸ hroot.outcomes o ho) hk
    rw [decide_eq_true hid, decide_eq_true hA, Bool.true_and]
  · rw [decide_eq_false hid, Bool.false_and]

theorem hasOutcome_eq_filter (outcomes : List Produced) (id : List Char) :
    hasOutcome outcomes id = !(outcomes.filter fun o => o.outcome.requestId = id).isEmpty := by
  rw [Bool.eq_iff_iff]
  simp [hasOutcome, List.filter_eq_nil_iff]

/-! ### The two gateways -/

/-- The scope cannot tell the two states apart. -/
structure Alike (A : Scope) (s t : State) : Prop where
  rows : s.rows A = t.rows A
  outcomes : own A s.outcomes = own A t.outcomes
  request : ∀ p, (s.requests p).map Handler.request = (t.requests p).map Handler.request
  handler : ∀ p h, h.request.scope = A → (s.requests p = some h ↔ t.requests p = some h)

theorem Alike.knows (ha : Alike A s t) {B : Scope} (hk : s.Knows B id) : t.Knows B id := by
  obtain ⟨p, h, hp, hscope, hid⟩ := hk
  have hreq := ha.request p
  rw [hp, Option.map_some, eq_comm, Option.map_eq_some_iff] at hreq
  obtain ⟨h', hp', hsame⟩ := hreq
  exact ⟨p, h', hp', by rw [hsame, hscope], by rw [hsame, hid]⟩

theorem Alike.symm (ha : Alike A s t) : Alike A t s :=
  ⟨ha.rows.symm, ha.outcomes.symm, fun p => (ha.request p).symm,
    fun p h hA => (ha.handler p h hA).symm⟩

/-- The scope finds the same outcomes under its ids. -/
theorem Alike.filter_eq (ha : Alike A s t) (hs : Rooted s) (ht : Rooted t)
    (hsep : SeparateScopes s) (hk : s.Knows A id) :
    (s.outcomes.filter fun o => o.outcome.requestId = id) =
      t.outcomes.filter fun o => o.outcome.requestId = id := by
  have hsep' : SeparateScopes t :=
    fun B C id hB hC => hsep B C id (ha.symm.knows hB) (ha.symm.knows hC)
  rw [hs.filter_own hsep hk, ht.filter_own hsep' (ha.knows hk), ha.outcomes]

theorem Alike.hasOutcome (ha : Alike A s t) (hs : Rooted s) (ht : Rooted t)
    (hsep : SeparateScopes s) (hk : s.Knows A id) :
    hasOutcome s.outcomes id = Idempotency.hasOutcome t.outcomes id := by
  rw [hasOutcome_eq_filter, hasOutcome_eq_filter, ha.filter_eq hs ht hsep hk]

/-- A statement asks only for the outcomes recorded under the id in its row. -/
theorem apply_congr {outcomes' : List Produced}
    (h : ∀ r, row = some r → hasOutcome outcomes r.requestId = hasOutcome outcomes' r.requestId) :
    x.apply sha256 outcomes row = x.apply sha256 outcomes' row := by
  cases row with
  | none => cases x <;> rfl
  | some r =>
    have hr := h r rfl
    cases x with
    | reclaim q now =>
      have hsame : r.reclaimable sha256 q now outcomes = r.reclaimable sha256 q now outcomes' := by
        rw [Record.reclaimable, Record.reclaimable, hr]
      simp only [Statement.apply, hsame]
    | releasePending => simp only [Statement.apply, hr]
    | insert | renewLease | complete => rfl

/-- What the scope's requests do is the same in both states. -/
theorem Alike.act (ha : Alike A s t) (hs : Rooted s) (ht : Rooted t) (hsep : SeparateScopes s)
    (hp : s.requests p = some h) (hA : h.request.scope = A) :
    Alike A (s.act sha256 leaseDurationMs p h e) (t.act sha256 leaseDurationMs p h e) := by
  have hp' : t.requests p = some h := (ha.handler p h hA).mp hp
  have hset : ∀ {u v : State} phase, u.requests = s.requests → v.requests = t.requests →
      u.rows A = v.rows A → own A u.outcomes = own A v.outcomes →
      Alike A (u.setPhase p phase) (v.setPhase p phase) := by
    intro u v phase hu hv hrows hout
    refine ⟨hrows, hout, fun p' => ?_, fun p' h' hA' => ?_⟩
    · simp only [State.setPhase, hu, hv, hp, hp']
      by_cases hpp : p' = p
      · subst hpp
        simp only [Function.update_self]
      · simp only [Function.update_of_ne hpp, ha.request p']
    · simp only [State.setPhase, hu, hv, hp, hp']
      by_cases hpp : p' = p
      · subst hpp
        simp only [Function.update_self]
      · simp only [Function.update_of_ne hpp, ha.handler p' h' hA']
  have hconsult : s.consult sha256 h = t.consult sha256 h := by
    unfold State.consult
    split
    · rw [hA, ha.rows]
    · next owner howner =>
      have hk : s.Knows A owner := hA ▸ hs.owners p h owner hp (by rw [howner]; rfl)
      have hfound : getFinancialOutcome s.outcomes owner =
          getFinancialOutcome t.outcomes owner := by
        unfold getFinancialOutcome
        rw [ha.filter_eq hs ht hsep hk]
      rw [hfound]
    · rfl
  unfold State.act
  cases hx : h.statement leaseDurationMs e with
  | some y =>
    obtain ⟨x, done, otherwise⟩ := y
    dsimp only
    have hscope : x.scope = A := (statement_scope hx).1.trans hA
    have happly : x.apply sha256 s.outcomes (s.rows x.scope) =
        x.apply sha256 t.outcomes (t.rows x.scope) := by
      rw [hscope, ← ha.rows]
      exact apply_congr fun r hr => ha.hasOutcome hs ht hsep (hs.rows A r hr)
    rw [← happly]
    cases x.apply sha256 s.outcomes (s.rows x.scope) with
    | none => exact hset otherwise rfl rfl ha.rows ha.outcomes
    | some row =>
      refine hset done rfl rfl ?_ ha.outcomes
      show Function.update s.rows x.scope row A = Function.update t.rows x.scope row A
      rw [hscope, Function.update_self, Function.update_self]
  | none =>
    dsimp only
    split
    · rw [hconsult]
      exact hset _ rfl rfl ha.rows ha.outcomes
    · split_ifs
      · refine ⟨ha.rows, ?_, ha.request, ha.handler⟩
        rw [own_append, own_append, ha.outcomes]
      · exact ha
    · exact ha

/-- What requests of other scopes do, the scope does not see. -/
theorem alike_act (hp : s.requests p = some h) (hactor : e.actor = some p)
    (hA : h.request.scope ≠ A) : Alike A (s.act sha256 leaseDurationMs p h e) s := by
  obtain ⟨phase, hrequests, -, -⟩ := act_requests sha256 leaseDurationMs e hp
  refine ⟨?_, ?_, fun p' => ?_, fun p' h' hA' => ?_⟩
  · rcases act_rows hp hactor A with hsame | ⟨x, row, ⟨p', h', _, _, hactor', hp', hx, -⟩, hxA, -⟩
    · exact hsame
    · rw [hactor] at hactor'
      cases hactor'
      rw [hp] at hp'
      cases hp'
      exact absurd ((statement_scope hx).1.symm.trans hxA) hA
  · rcases act_outcomes with hsame | ⟨o, hproducer, -, happend⟩
    · rw [hsame]
    · rw [happend, own_append]
      have hnone : own A [o] = [] := by
        rw [own, List.filter_cons_of_neg, List.filter_nil]
        simpa [hproducer] using hA
      rw [hnone, List.append_nil]
  · rw [hrequests]
    by_cases hpp : p' = p
    · subst hpp
      rw [Function.update_self, hp]
      rfl
    · rw [Function.update_of_ne hpp]
  · rw [hrequests]
    by_cases hpp : p' = p
    · subst hpp
      rw [Function.update_self, hp, Option.some.injEq, Option.some.injEq]
      refine ⟨?_, ?_⟩
      · rintro rfl
        exact absurd hA' hA
      · rintro rfl
        exact absurd hA' hA
    · rw [Function.update_of_ne hpp]

theorem Alike.trans {u : State} (h : Alike A s t) (h' : Alike A t u) : Alike A s u :=
  ⟨h.rows.trans h'.rows, h.outcomes.trans h'.outcomes,
    fun p => (h.request p).trans (h'.request p),
    fun p q hA => (h.handler p q hA).trans (h'.handler p q hA)⟩

theorem next_of_none (hactor : e.actor = some p) (harrive : ∀ p q, e ≠ .arrive p q)
    (hp : s.requests p = none) : next sha256 leaseDurationMs s e = s := by
  cases e with
  | arrive p q => exact absurd rfl (harrive p q)
  | settle => cases hactor
  | step | renew | complete | release | prepare =>
    cases hactor
    simp [next, Event.actor, hp]

/-- The second gateway does the same, or passes over an event of a request of another scope. -/
theorem nextWithout_cases : nextWithout sha256 leaseDurationMs A s e =
      next sha256 leaseDurationMs s e ∨
    ∃ p h, e.actor = some p ∧ s.requests p = some h ∧ h.request.scope ≠ A ∧
      nextWithout sha256 leaseDurationMs A s e = s := by
  cases e with
  | prepare p =>
    by_cases hother : ((s.requests p).any fun h => decide (h.request.scope ≠ A)) = true
    · obtain ⟨h, hp, hA⟩ := (Option.any_eq_true _ _).mp hother
      exact Or.inr ⟨p, h, rfl, hp, of_decide_eq_true hA, if_pos hother⟩
    · exact Or.inl (if_neg hother)
  | arrive | step | renew | complete | release | settle => exact Or.inl rfl

theorem Alike.next_actor (ha : Alike A s t) (hs : Rooted s) (ht : Rooted t)
    (hsep : SeparateScopes s) (hactor : e.actor = some p) (harrive : ∀ p q, e ≠ .arrive p q) :
    Alike A (next sha256 leaseDurationMs s e) (nextWithout sha256 leaseDurationMs A t e) := by
  have hreq := ha.request p
  cases hp : s.requests p with
  | none =>
    rw [hp, Option.map_none, eq_comm, Option.map_eq_none_iff] at hreq
    have hnext : nextWithout sha256 leaseDurationMs A t e = t := by
      rcases nextWithout_cases with hsame | ⟨p', h', hactor', hp', -, -⟩
      · rw [hsame, next_of_none hactor harrive hreq]
      · rw [hactor] at hactor'
        cases hactor'
        rw [hreq] at hp'
        cases hp'
    rwa [next_of_none hactor harrive hp, hnext]
  | some h =>
    rw [hp, Option.map_some, eq_comm, Option.map_eq_some_iff] at hreq
    obtain ⟨h', hp', hrequest⟩ := hreq
    rw [next_of_some hactor hp]
    by_cases hA : h.request.scope = A
    · have hhandler := (ha.handler p h hA).mp hp
      rw [hp'] at hhandler
      cases hhandler
      have hnext : nextWithout sha256 leaseDurationMs A t e =
          t.act sha256 leaseDurationMs p h e := by
        rcases nextWithout_cases with hsame | ⟨p', h'', hactor', hp'', hother, -⟩
        · rw [hsame, next_of_some hactor hp']
        · rw [hactor] at hactor'
          cases hactor'
          rw [hp'] at hp''
          cases hp''
          exact absurd hA hother
      rw [hnext]
      exact ha.act hs ht hsep hp hA
    · -- the scope sees neither what the request does here nor what it does there
      have hthere : Alike A t (nextWithout sha256 leaseDurationMs A t e) := by
        rcases nextWithout_cases with hsame | ⟨-, -, -, -, -, hsame⟩
        · rw [hsame, next_of_some hactor hp']
          exact (alike_act hp' hactor (by rwa [hrequest])).symm
        · rw [hsame]
          exact ⟨rfl, rfl, fun _ => rfl, fun _ _ _ => Iff.rfl⟩
      exact ((alike_act hp hactor hA).trans ha).trans hthere

theorem Alike.next (ha : Alike A s t) (hs : Rooted s) (ht : Rooted t) (hsep : SeparateScopes s) :
    Alike A (next sha256 leaseDurationMs s e) (nextWithout sha256 leaseDurationMs A t e) := by
  cases e with
  | arrive p =>
    have hnone : s.requests p = none ↔ t.requests p = none := by
      rw [← Option.map_eq_none_iff, ha.request p, Option.map_eq_none_iff]
    simp only [Idempotency.next, nextWithout]
    by_cases hp : s.requests p = none
    · rw [if_pos hp, if_pos (hnone.mp hp)]
      refine ⟨ha.rows, ha.outcomes, fun p' => ?_, fun p' h' hA => ?_⟩
      · by_cases hpp : p' = p
        · subst hpp
          simp only [Function.update_self]
        · simp only [Function.update_of_ne hpp, ha.request p']
      · by_cases hpp : p' = p
        · subst hpp
          simp only [Function.update_self]
        · simp only [Function.update_of_ne hpp, ha.handler p' h' hA]
    · rw [if_neg hp, if_neg (fun h => hp (hnone.mpr h))]
      exact ha
  | settle =>
    refine ⟨ha.rows, ?_, ha.request, ha.handler⟩
    show own A (s.outcomes.map _) = own A (t.outcomes.map _)
    rw [own_settle, own_settle, ha.outcomes]
  | step | renew | complete | release | prepare =>
    exact ha.next_actor hs ht hsep rfl fun _ _ h => by cases h

theorem Rooted.nextWithout (hs : Rooted s) :
    Rooted (nextWithout sha256 leaseDurationMs A s e) := by
  rcases nextWithout_cases with hsame | ⟨-, -, -, -, -, hsame⟩
  · rw [hsame]
    exact hs.step rfl
  · rwa [hsame]

/-! ### Isolation -/

/-- Requests that share an id are of one scope, if the arrivals are so. -/
theorem separateScopes_exec {events : List Event} (hsep : SeparateIds events) :
    SeparateScopes (exec sha256 leaseDurationMs State.empty events) := by
  have harrived : Arrived (trace (next sha256 leaseDurationMs) State.empty events)
      (exec sha256 leaseDurationMs State.empty events) :=
    Run.history (I := Arrived) arrived_empty (fun tr s' l s'' _ ha hstep => Step.arrived hstep ha)
      (run_trace (next sha256 leaseDurationMs) events State.empty)
  have hknown : ∀ A id, (exec sha256 leaseDurationMs State.empty events).Knows A id →
      ∃ p q, Event.arrive p q ∈ events ∧ q.scope = A ∧ q.requestId = id := by
    rintro A id ⟨p, h, hp, hscope, hid⟩
    obtain ⟨u, hu, hlabel⟩ := harrived p h hp
    refine ⟨p, h.request, ?_, hscope, hid⟩
    rw [← hlabel, ← map_label_trace (next sha256 leaseDurationMs) events State.empty]
    exact List.mem_map_of_mem hu
  intro A B id hA hB
  obtain ⟨p, q, hq, rfl, rfl⟩ := hknown A id hA
  obtain ⟨p', q', hq', rfl, hid⟩ := hknown B _ hB
  have hscope := hsep _ hq _ hq' (decide_eq_true hid.symm)
  exact Option.some.inj hscope

variable (sha256 leaseDurationMs) in
theorem alike_exec (A : Scope) {events : List Event} (hsep : SeparateIds events) :
    Rooted (exec sha256 leaseDurationMs State.empty events) ∧
      Rooted (execWithout sha256 leaseDurationMs A State.empty events) ∧
      Alike A (exec sha256 leaseDurationMs State.empty events)
        (execWithout sha256 leaseDurationMs A State.empty events) := by
  induction events using List.reverseRecOn with
  | nil => exact ⟨rooted_empty, rooted_empty, rfl, rfl, fun _ => rfl, fun _ _ _ => Iff.rfl⟩
  | append_singleton events e ih =>
    have hsep' : SeparateIds events := fun e he e' he' =>
      hsep e (List.mem_append_left _ he) e' (List.mem_append_left _ he')
    obtain ⟨hs, ht, ha⟩ := ih hsep'
    simp only [exec, execWithout, List.foldl_append, List.foldl_cons, List.foldl_nil] at hs ht ha ⊢
    exact ⟨hs.step rfl, ht.nextWithout, ha.next hs ht (separateScopes_exec hsep')⟩

/-- **Replays are isolated** as long as requests of different scopes carry different request ids:
the row of a scope and what its requests are answered are the same if the executions of all other
scopes record no outcome. -/
theorem view_exec (A : Scope) (events : List Event) (hsep : SeparateIds events) :
    view A (exec sha256 leaseDurationMs State.empty events) =
      view A (execWithout sha256 leaseDurationMs A State.empty events) := by
  obtain ⟨-, -, ha⟩ := alike_exec sha256 leaseDurationMs A hsep
  refine Prod.ext ha.rows (funext fun p => ?_)
  refine Option.ext fun h => ?_
  simp only [view, Option.filter_eq_some_iff, decide_eq_true_eq]
  constructor
  · rintro ⟨hp, hA⟩
    exact ⟨(ha.handler p h hA).mp hp, hA⟩
  · rintro ⟨hp, hA⟩
    exact ⟨(ha.handler p h hA).mpr hp, hA⟩

/-! ### Two scopes with one request id -/

def theirScope : Scope := { sampleScope with actorId := Text.lit "service:key-2" }

def theirRequest : Request := { sampleRequest "shared-id" with scope := theirScope }

/-- Their handler prepares a transaction, which is confirmed; our handler dies; our next request
with the same key, which carries an id of its own, asks for the outcome. -/
def sharedId : List Event :=
  [.arrive 0 theirRequest, .step 0 0,
    .prepare 0 (Text.lit "0x7e") .settlementHandoff (Text.lit "their-handoff")
      (Text.lit "create_trade") 8453,
    .settle (Text.lit "0x7e") .confirmed,
    .arrive 1 (sampleRequest "shared-id"), .step 1 1, .arrive 2 (sampleRequest "our-retry"),
    .step 2 2, .step 2 2, .step 2 2, .step 2 2, .step 2 2]

/-- The same, but our first request carries an id of its own. -/
def separateIds : List Event :=
  sharedId.map fun e =>
    match e with
    | .arrive 1 _ => .arrive 1 (sampleRequest "our-own-id")
    | e => e

theorem view_exec_separateIds : SeparateIds separateIds ∧
    view sampleScope (exec sampleHash 1000 State.empty separateIds) =
      view sampleScope (execWithout sampleHash 1000 sampleScope State.empty separateIds) := by
  have hsep : SeparateIds separateIds := by decide +kernel
  exact ⟨hsep, view_exec sampleScope separateIds hsep⟩

/-- **Replays leak.**  Under a shared request id our key is completed with their transaction, and
our request is answered with it; if their execution records no outcome, our request is told that
the first one is still in progress. -/
theorem replay_leaks :
    ((exec sampleHash 1000 State.empty sharedId).requests 2).map Handler.phase =
      some (.answered (.recovered
        { status := 202
          contentType := some (Text.lit "application/json; charset=utf-8")
          body := .success (Text.lit "shared-id")
            { transactionHash := Text.lit "0x7e"
              outcome := .confirmed
              resourceType := .settlementHandoff
              resourceId := Text.lit "their-handoff"
              operation := Text.lit "create_trade"
              chainId := 8453
              recovered := true
              rebroadcastAllowed := false } })) ∧
    ((execWithout sampleHash 1000 sampleScope State.empty sharedId).requests 2).map Handler.phase =
      some (.answered .inProgress) ∧
    (exec sampleHash 1000 State.empty sharedId).rows sampleScope ≠
      (execWithout sampleHash 1000 sampleScope State.empty sharedId).rows sampleScope := by
  decide +kernel

end Cotsel.Gateway.Idempotency
