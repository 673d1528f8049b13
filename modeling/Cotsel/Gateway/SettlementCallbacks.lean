import Cotsel.Gateway.Settlement

/-!
# Callback statuses

What the six calls of the settlement store do to its tables, and what `callback_status` of a handoff
says about the delivery of its latest event.

* `recordExecutionEvent_eq`, `recordExecutionEvent_of_seen`: what recording an event does;
* `Step.effect`: what a call did;
* `Sound`: what holds of the tables between the calls;
* `callbacks_mirror`: events and deliveries correspond, delivered rows stay, and the handoff shows
  the status of the delivery as long as no dead letter is requeued and callbacks are not switched
  on again;
* `requeued_still_deadLetter`: a dead letter that is requeued, and a handoff whose callbacks were
  once disabled, are shown with the wrong status;
* `handoff_replays_events`: a handoff is the replay of its events.
-/

namespace Cotsel.Gateway.Settlement

open Runs Guard

variable {s s' : State} {c : Call} {h h' : Handoff} {e : Event} {d d' : Delivery}
  {input : PersistInput} {callback : CallbackPlan} {m : Mark}

/-! ### Recording an event -/

/-- What holds of the tables between the calls. -/
structure Sound (s : State) : Prop where
  handoffs : Table.Valid Settlement.handoffs s.handoffs
  events : Table.Valid Settlement.events s.events
  deliveries : Table.Valid Settlement.deliveries s.deliveries
  handoff_lt : ∀ h ∈ s.handoffs, h.handoffId < s.drawn
  event_lt : ∀ e ∈ s.events, e.eventId < s.drawn
  delivery_lt : ∀ d ∈ s.deliveries, d.deliveryId < s.drawn
  /-- Events and deliveries are inserted together. -/
  aligned : s.deliveries.map (fun d => (d.eventId, d.handoffId)) =
    s.events.map fun e => (e.eventId, e.handoffId)
  latest : ∀ h ∈ s.handoffs, ∀ id, h.latestEventId = some id →
    ∃ e ∈ s.events, e.eventId = id ∧ e.handoffId = h.handoffId

theorem Sound.empty : Sound State.empty where
  handoffs := List.Pairwise.nil
  events := List.Pairwise.nil
  deliveries := List.Pairwise.nil
  handoff_lt := fun _ hmem => absurd hmem List.not_mem_nil
  event_lt := fun _ hmem => absurd hmem List.not_mem_nil
  delivery_lt := fun _ hmem => absurd hmem List.not_mem_nil
  aligned := rfl
  latest := fun _ hmem => absurd hmem List.not_mem_nil

/-- Every event has a delivery, which names its handoff. -/
theorem Sound.exists_delivery (hs : Sound s) (he : e ∈ s.events) :
    ∃ d ∈ s.deliveries, d.eventId = e.eventId ∧ d.handoffId = e.handoffId := by
  have hmem : (e.eventId, e.handoffId) ∈ s.events.map fun e => (e.eventId, e.handoffId) :=
    List.mem_map_of_mem he
  rw [← hs.aligned] at hmem
  obtain ⟨d, hd, heq⟩ := List.mem_map.mp hmem
  exact ⟨d, hd, congrArg Prod.fst heq, congrArg Prod.snd heq⟩

theorem Sound.nodup_eventId (hs : Sound s) : (s.deliveries.map Delivery.eventId).Nodup := by
  have heq : s.deliveries.map Delivery.eventId = s.events.map Event.eventId := by
    have h := congrArg (List.map Prod.fst) hs.aligned
    rwa [List.map_map, List.map_map] at h
  rw [heq, List.Nodup, List.pairwise_map]
  exact hs.events.imp fun {e e'} hclash => (eventClash_eq_none.mp hclash).1

theorem Sound.delivery_eq (hs : Sound s) (hd : d ∈ s.deliveries) (hd' : d' ∈ s.deliveries)
    (heq : d.eventId = d'.eventId) : d = d' :=
  List.inj_on_of_nodup_map hs.nodup_eventId hd hd' heq

theorem Sound.getHandoff (hs : Sound s) (hmem : h ∈ s.handoffs) :
    getHandoff h.handoffId s = some h :=
  hs.handoffs.lookup_eq_some.mpr ⟨hmem, rfl⟩

/-- The handoff after an event was recorded and its callback planned. -/
def CallbackPlan.written (plan : CallbackPlan) (event : Event) (h : Handoff) : Handoff :=
  if plan.status = .disabled then { h.record event with callbackStatus := .disabled }
  else h.record event

@[simp] theorem CallbackPlan.written_handoffId (plan : CallbackPlan) (event : Event)
    (h : Handoff) : (plan.written event h).handoffId = h.handoffId := by
  unfold CallbackPlan.written
  split_ifs <;> rfl

@[simp] theorem CallbackPlan.written_terms (plan : CallbackPlan) (event : Event) (h : Handoff) :
    (plan.written event h).terms = h.terms := by
  unfold CallbackPlan.written
  split_ifs <;> rfl

@[simp] theorem CallbackPlan.written_latestEventId (plan : CallbackPlan) (event : Event)
    (h : Handoff) : (plan.written event h).latestEventId = some event.eventId := by
  unfold CallbackPlan.written
  split_ifs <;> rfl

@[simp] theorem CallbackPlan.written_executionStatus (plan : CallbackPlan) (event : Event)
    (h : Handoff) : (plan.written event h).executionStatus = event.executionStatus := by
  unfold CallbackPlan.written
  split_ifs <;> rfl

/-- The tables after a new event was recorded. -/
def State.recorded (s : State) (input : PersistInput) (callback : CallbackPlan)
    (body : CallbackPayload) : State where
  handoffs := Table.modify Settlement.handoffs input.handoffId (fun _ => true)
    (callback.written (input.event s.drawn)) s.handoffs
  events := s.events ++ [input.event s.drawn]
  deliveries := s.deliveries ++ [callback.delivery (s.drawn + 1) input.handoffId s.drawn body]
  drawn := s.drawn + 2

theorem insertRow_eq_ok {Row : Type} {schema : Table.Schema Row ℕ Constraint} {row : Row}
    {rows rows' : List Row} : insertRow schema row rows = .ok rows' ↔
      (schema.insertGuard row = none ∧ ∀ r ∈ rows, schema.clash row r = none) ∧
        rows' = rows ++ [row] := by
  rw [and_assoc, ← Table.insert_eq_ok]
  unfold insertRow
  cases Table.insert schema row rows <;> simp [Except.mapError]

/-- No event was recorded under this de-duplication key. -/
def State.Fresh (s : State) (input : PersistInput) : Prop :=
  ∀ e ∈ s.events, ¬ (e.handoffId = input.handoffId ∧ e.dedupeKey = input.dedupeKey)

theorem createEventWithClient_eq (hs : Sound s) (hnew : s.Fresh input) :
    createEventWithClient input s = .ok (input.event s.drawn,
      { s with
        events := s.events ++ [input.event s.drawn]
        handoffs := Table.modify handoffs input.handoffId (fun _ => true)
          (·.record (input.event s.drawn)) s.handoffs
        drawn := s.drawn + 1 }) := by
  have hins : insertRow events (input.event s.drawn) s.events =
      .ok (s.events ++ [input.event s.drawn]) := by
    refine insertRow_eq_ok.mpr ⟨⟨rfl, fun e he => eventClash_eq_none.mpr ⟨?_, fun heq => ?_⟩⟩, rfl⟩
    · exact (Nat.ne_of_lt (hs.event_lt e he)).symm
    · exact hnew e he ⟨heq.1.symm, heq.2.symm⟩
  unfold createEventWithClient
  dsimp only
  rw [hins]
  rfl

/-- The second insertion of a transaction that has drawn the id of the event. -/
theorem createCallbackDeliveryWithClient_eq {handoffId eventId : ℕ} {body : CallbackPayload}
    (hid : ∀ d ∈ s.deliveries, d.deliveryId ≠ s.drawn) :
    createCallbackDeliveryWithClient callback handoffId eventId body s =
      .ok (callback.delivery s.drawn handoffId eventId body,
        { s with
          deliveries := s.deliveries ++ [callback.delivery s.drawn handoffId eventId body]
          handoffs :=
            if callback.status = .disabled then
              Table.modify handoffs handoffId (fun _ => true)
                (fun h => { h with callbackStatus := .disabled }) s.handoffs
            else s.handoffs
          drawn := s.drawn + 1 }) := by
  have hins : insertRow deliveries (callback.delivery s.drawn handoffId eventId body)
      s.deliveries =
        .ok (s.deliveries ++ [callback.delivery s.drawn handoffId eventId body]) :=
    insertRow_eq_ok.mpr ⟨⟨rfl, fun d hd => deliveryClash_eq_none.mpr (hid d hd).symm⟩, rfl⟩
  unfold createCallbackDeliveryWithClient
  dsimp only
  rw [hins]
  rfl

theorem getHandoff_of_modify {change : Handoff → Handoff} (hs : Sound s) (hmem : h ∈ s.handoffs)
    (hkey : ∀ h, (change h).handoffId = h.handoffId)
    (hrows : s'.handoffs =
      Table.modify handoffs h.handoffId (fun _ => true) change s.handoffs) :
    getHandoff h.handoffId s' = some (change h) := by
  have hget := hs.getHandoff hmem
  unfold getHandoff at *
  rw [hrows, Table.lookup_modify hkey, hget, Option.map_some, if_pos ⟨rfl, rfl⟩]

theorem modify_written (event : Event) (id : ℕ) (rows : List Handoff) :
    (if callback.status = .disabled then
        Table.modify handoffs id (fun _ => true) (fun h => { h with callbackStatus := .disabled })
          (Table.modify handoffs id (fun _ => true) (fun h => h.record event) rows)
      else Table.modify handoffs id (fun _ => true) (fun h => h.record event) rows) =
      Table.modify handoffs id (fun _ => true) (callback.written event) rows := by
  have hkey : ∀ h : Handoff, handoffs.key (h.record event) = handoffs.key h := fun _ => rfl
  split_ifs with hstatus
  · rw [Table.modify_modify hkey]
    congr 1
    funext h
    rw [CallbackPlan.written, if_pos hstatus]
  · congr 1
    funext h
    rw [CallbackPlan.written, if_neg hstatus]

/-- A new event is recorded if the state machine allows it and the callback can be built. -/
theorem recordExecutionEvent_eq (hs : Sound s) (hmem : h ∈ s.handoffs)
    (hid : h.handoffId = input.handoffId) (hnew : s.Fresh input) :
    recordExecutionEvent input callback s =
      ((validateExecutionTransition h.executionStatus input.executionStatus input.eventType)
        >>= fun _ =>
      (callback.buildRequestBody (h.record (input.event s.drawn)) (input.event s.drawn))
        >>= fun body =>
      .ok (⟨callback.written (input.event s.drawn) h, input.event s.drawn,
          callback.delivery (s.drawn + 1) input.handoffId s.drawn body⟩,
        s.recorded input callback body)) := by
  have hget : getHandoff input.handoffId s = some h := hid ▸ hs.getHandoff hmem
  have hnone : (s.events.find? fun e =>
      e.handoffId = input.handoffId ∧ e.dedupeKey = input.dedupeKey) = none := by
    rw [List.find?_eq_none]
    intro e he
    rw [decide_eq_true_eq]
    exact hnew e he
  unfold recordExecutionEvent
  rw [hget]
  rw [hnone]
  dsimp only
  unfold appendEvent
  rw [createEventWithClient_eq hs hnew]
  congr 1
  funext _
  have hrecord : ∀ h : Handoff, (h.record (input.event s.drawn)).handoffId = h.handoffId :=
    fun _ => rfl
  refine (pure_bind (m := Except Failure) _ _).trans ?_
  dsimp only
  rw [← hid, getHandoff_of_modify hs hmem hrecord rfl]
  dsimp only
  congr 1
  funext body
  have hids : ∀ d ∈ s.deliveries, d.deliveryId ≠ s.drawn + 1 := by
    intro d hd
    have hlt := hs.delivery_lt d hd
    omega
  rw [createCallbackDeliveryWithClient_eq hids]
  -- both updates of the handoff are in the state that the transaction leaves
  have hstate : State.mk
      (if callback.status = .disabled then
        Table.modify handoffs h.handoffId (fun _ => true)
          (fun h => { h with callbackStatus := .disabled })
          (Table.modify handoffs h.handoffId (fun _ => true)
            (fun h => h.record (input.event s.drawn)) s.handoffs)
      else Table.modify handoffs h.handoffId (fun _ => true)
        (fun h => h.record (input.event s.drawn)) s.handoffs)
      (s.events ++ [input.event s.drawn])
      (s.deliveries ++ [callback.delivery (s.drawn + 1) h.handoffId s.drawn body])
      (s.drawn + 1 + 1) = s.recorded input callback body := by
    rw [modify_written, State.recorded, hid]
  have hfinal : (if callback.status = .disabled then
        (getHandoff h.handoffId (s.recorded input callback body)).getD
          (h.record (input.event s.drawn))
      else h.record (input.event s.drawn)) = callback.written (input.event s.drawn) h := by
    rw [getHandoff_of_modify hs hmem (CallbackPlan.written_handoffId callback _) (by rw [hid]; rfl),
      Option.getD_some, CallbackPlan.written]
    split_ifs <;> rfl
  show Except.ok (Recorded.mk (if _ then (getHandoff _ _).getD _ else _) _ _, _) = _
  rw [← hfinal, ← hstate]
  rfl

variable (callback) in
/-- An event that was recorded before is returned with its delivery. -/
theorem recordExecutionEvent_of_seen (hs : Sound s) (hmem : h ∈ s.handoffs)
    (hid : h.handoffId = input.handoffId) (hseen : ¬ s.Fresh input) :
    ∃ e ∈ s.events, e.handoffId = input.handoffId ∧ e.dedupeKey = input.dedupeKey ∧
      ∃ d ∈ s.deliveries, d.eventId = e.eventId ∧
        recordExecutionEvent input callback s = .ok (⟨h, e, d⟩, s) := by
  have hget : getHandoff input.handoffId s = some h := hid ▸ hs.getHandoff hmem
  have hfind : ∃ e, (s.events.find? fun e =>
      e.handoffId = input.handoffId ∧ e.dedupeKey = input.dedupeKey) = some e := by
    rw [← Option.isSome_iff_exists, List.find?_isSome]
    unfold State.Fresh at hseen
    push Not at hseen
    obtain ⟨e, he, heq⟩ := hseen
    exact ⟨e, he, decide_eq_true heq⟩
  obtain ⟨e, he⟩ := hfind
  have hkeys : e.handoffId = input.handoffId ∧ e.dedupeKey = input.dedupeKey := by
    simpa using List.find?_some he
  have hmem_e := List.mem_of_find?_eq_some he
  obtain ⟨d', hd', hevent', -⟩ := hs.exists_delivery hmem_e
  have hdelivery : ∃ d, (s.deliveries.find? fun d => d.eventId = e.eventId) = some d := by
    rw [← Option.isSome_iff_exists, List.find?_isSome]
    exact ⟨d', hd', decide_eq_true hevent'⟩
  obtain ⟨d, hd⟩ := hdelivery
  have hevent : d.eventId = e.eventId := by
    simpa using List.find?_some hd
  refine ⟨e, hmem_e, hkeys.1, hkeys.2, d, List.mem_of_find?_eq_some hd, hevent, ?_⟩
  unfold recordExecutionEvent
  rw [hget]
  rw [he]
  dsimp only
  unfold replayEvent
  rw [hd]
  rw [hs.getHandoff hmem, Option.getD_some]

/-! ### What a call did -/

/-- The tables after a statement about the delivery `d`. -/
def Mark.applied (m : Mark) (d : Delivery) (s : State) : State :=
  { s with
    deliveries :=
      Table.modify Settlement.deliveries m.deliveryId (fun _ => true) m.change s.deliveries
    handoffs :=
      match m.handoff with
      | none => s.handoffs
      | some write => Table.modify Settlement.handoffs d.handoffId
          (fun h => h.latestEventId = some d.eventId) write s.handoffs }

inductive Effect (s : State) : Call → State → Prop
  | none {c : Call} : Effect s c s
  | create {input : Terms}
      (hfree : ∀ h ∈ s.handoffs, handoffClash (.create s.drawn input) h = none) :
      Effect s (.createHandoff input)
        { s with handoffs := s.handoffs ++ [.create s.drawn input], drawn := s.drawn + 1 }
  | record {input : PersistInput} {callback : CallbackPlan} {h : Handoff} {body : CallbackPayload}
      (hmem : h ∈ s.handoffs) (hid : h.handoffId = input.handoffId) (hnew : s.Fresh input)
      (hmove : validateExecutionTransition h.executionStatus input.executionStatus
        input.eventType = .ok ())
      (hbody : callback.buildRequestBody (h.record (input.event s.drawn))
        (input.event s.drawn) = .ok body) :
      Effect s (.recordExecutionEvent input callback) (s.recorded input callback body)
  | mark {c : Call} {m : Mark} {d : Delivery} (hm : c.mark = some m) (hmem : d ∈ s.deliveries)
      (hid : d.deliveryId = m.deliveryId) (happlies : m.applies d = true) :
      Effect s c (m.applied d s)

theorem Mark.run_cases (m : Mark) (s : State) :
    (m.run s).2 = s ∨ ∃ d ∈ s.deliveries, d.deliveryId = m.deliveryId ∧ m.applies d = true ∧
      (m.run s).2 = m.applied d s := by
  unfold Mark.run
  split
  · exact Or.inl rfl
  · next d hd =>
    obtain ⟨hmem, hid⟩ := Table.lookup_eq_some_mem hd
    split_ifs with happlies
    · exact Or.inr ⟨d, hmem, hid, happlies, rfl⟩
    · exact Or.inl rfl

theorem effect_mark (hm : c.mark = some m) : Effect s c (m.run s).2 := by
  rcases m.run_cases s with hsame | ⟨_, hmem, hid, happlies, heq⟩
  · rw [hsame]
    exact .none
  · rw [heq]
    exact .mark hm hmem hid happlies

theorem effect_createHandoff {terms : Terms} {result : Handoff}
    (hrun : createHandoff terms s = .ok (result, s')) : Effect s (.createHandoff terms) s' := by
  unfold createHandoff at hrun
  split at hrun
  · simp only [require_bind_eq_ok, pure_eq_ok, Prod.mk.injEq] at hrun
    rw [← hrun.2.2.2.2]
    exact .none
  · obtain ⟨_, hins, hrun⟩ := bind_eq_ok.mp hrun
    rw [pure_eq_ok, Prod.mk.injEq] at hrun
    obtain ⟨hclash, rfl⟩ := insertRow_eq_ok.mp hins
    rw [← hrun.2]
    exact .create hclash.2

/-- An event that is recorded is written, unless one with its key was there. -/
theorem recordExecutionEvent_eq_ok {result : Recorded} (hs : Sound s)
    (hrun : recordExecutionEvent input callback s = .ok (result, s')) :
    ¬ s.Fresh input ∧ s' = s ∨ s.Fresh input ∧ ∃ h ∈ s.handoffs, ∃ body,
      h.handoffId = input.handoffId ∧
      validateExecutionTransition h.executionStatus input.executionStatus input.eventType =
        .ok () ∧
      callback.buildRequestBody (h.record (input.event s.drawn)) (input.event s.drawn) =
        .ok body ∧
      s' = s.recorded input callback body := by
  cases hget : getHandoff input.handoffId s with
  | none =>
    unfold recordExecutionEvent at hrun
    rw [hget] at hrun
    cases hrun
  | some h =>
    obtain ⟨hmem, hid⟩ := Table.lookup_eq_some_mem hget
    by_cases hnew : s.Fresh input
    · rw [recordExecutionEvent_eq hs hmem hid hnew] at hrun
      obtain ⟨_, hmove, hrun⟩ := bind_eq_ok.mp hrun
      obtain ⟨body, hbody, hrun⟩ := bind_eq_ok.mp hrun
      cases hrun
      exact Or.inr ⟨hnew, h, hmem, body, hid, hmove, hbody, rfl⟩
    · obtain ⟨_, -, -, -, _, -, -, hsame⟩ :=
        recordExecutionEvent_of_seen callback hs hmem hid hnew
      rw [hsame] at hrun
      cases hrun
      exact Or.inl ⟨hnew, rfl⟩

theorem effect_recordExecutionEvent {result : Recorded} (hs : Sound s)
    (hrun : recordExecutionEvent input callback s = .ok (result, s')) :
    Effect s (.recordExecutionEvent input callback) s' := by
  rcases recordExecutionEvent_eq_ok hs hrun with
    ⟨-, rfl⟩ | ⟨hnew, _, hmem, _, hid, hmove, hbody, rfl⟩
  · exact .none
  · exact .record hmem hid hnew hmove hbody

theorem Step.effect (hs : Sound s) (hstep : Step s c s') : Effect s c s' := by
  subst hstep
  cases c with
  | createHandoff =>
    simp only [next]
    split
    · next result s' hrun => exact effect_createHandoff hrun
    · exact .none
  | recordExecutionEvent =>
    simp only [next]
    split
    · next result s' hrun => exact effect_recordExecutionEvent hs hrun
    · exact .none
  | markCallbackDelivering | markCallbackDelivered | markCallbackFailed
  | requeueCallbackDelivery => exact effect_mark rfl

/-- The rows agree but for what is known about the callbacks. -/
def Handoff.Like (h h' : Handoff) : Prop :=
  h = { h' with
    callbackStatus := h.callbackStatus
    callbackDeliveredAt := h.callbackDeliveredAt }

namespace Handoff.Like

variable (hlike : h.Like h')

include hlike

theorem handoffId : h.handoffId = h'.handoffId := by rw [hlike]

theorem terms : h.terms = h'.terms := by rw [hlike]

theorem executionStatus : h.executionStatus = h'.executionStatus := by rw [hlike]

theorem txHash : h.txHash = h'.txHash := by rw [hlike]

theorem latestEventId : h.latestEventId = h'.latestEventId := by rw [hlike]

end Handoff.Like

/-- What the statements about deliveries leave alone. -/
structure Mark.Keeps (m : Mark) : Prop where
  deliveryId : ∀ d, (m.change d).deliveryId = d.deliveryId
  eventId : ∀ d, (m.change d).eventId = d.eventId
  handoffId : ∀ d, (m.change d).handoffId = d.handoffId
  delivered : ∀ d, m.applies d = true → d.stage ≠ .delivered
  handoff : ∀ write, m.handoff = some write → ∀ h, (write h).Like h

theorem not_leasedBy_delivered {leaseOwner : List Char}
    (hleased : d.leasedBy leaseOwner = true) : d.stage ≠ .delivered := by
  intro hstage
  rw [Delivery.leasedBy, hstage] at hleased
  cases hleased

theorem mark_keeps (hm : c.mark = some m) : m.Keeps := by
  cases c with
  | createHandoff | recordExecutionEvent => cases hm
  | markCallbackDelivering _ _ attemptedAt =>
    cases hm
    refine ⟨fun _ => rfl, fun _ => rfl, fun _ => rfl, fun d hdue hstage => ?_, nofun⟩
    have hfalse : d.due attemptedAt = true := hdue
    rw [Delivery.due, hstage] at hfalse
    cases hfalse
  | markCallbackDelivered | markCallbackFailed =>
    cases hm
    refine ⟨fun _ => rfl, fun _ => rfl, fun _ => rfl, fun d => not_leasedBy_delivered, ?_⟩
    rintro _ ⟨⟩ -
    rfl
  | requeueCallbackDelivery =>
    cases hm
    refine ⟨fun _ => rfl, fun _ => rfl, fun _ => rfl, fun d hdead hstage => ?_, nofun⟩
    have hdead' : d.stage = .deadLetter := of_decide_eq_true hdead
    rw [hstage] at hdead'
    cases hdead'

/-- A handoff after a statement about a delivery: the same one, or the same one written to. -/
theorem Mark.Keeps.mem_handoffs (hm : m.Keeps) (hmem : h ∈ (m.applied d s).handoffs) :
    ∃ h' ∈ s.handoffs, h.Like h' ∧
      ((h'.latestEventId = some d.eventId ∧ h'.handoffId = d.handoffId ∧
          ∃ write, m.handoff = some write ∧ h = write h') ∨
        (h = h' ∧ (m.handoff = none ∨ h'.latestEventId ≠ some d.eventId ∨
          h'.handoffId ≠ d.handoffId))) := by
  cases hwrite : m.handoff with
  | none =>
    simp only [Mark.applied, hwrite] at hmem
    exact ⟨h, hmem, rfl, Or.inr ⟨rfl, Or.inl rfl⟩⟩
  | some write =>
    simp only [Mark.applied, hwrite] at hmem
    obtain ⟨h', hmem', heq⟩ := Table.mem_modify.mp hmem
    refine ⟨h', hmem', ?_⟩
    split_ifs at heq with hcond
    · subst heq
      exact ⟨hm.handoff write hwrite h',
        Or.inl ⟨of_decide_eq_true hcond.2, hcond.1, write, rfl, rfl⟩⟩
    · subst heq
      refine ⟨rfl, Or.inr ⟨rfl, Or.inr ?_⟩⟩
      by_cases hl : h.latestEventId = some d.eventId
      · exact Or.inr fun hid' => hcond ⟨hid', decide_eq_true hl⟩
      · exact Or.inl hl

/-- The handoff after a call: the same one but for its callbacks, or the event was recorded. -/
theorem Effect.handoff (heffect : Effect s c s') (hs : Sound s) (hmem : h ∈ s.handoffs) :
    (∃ h' ∈ s'.handoffs, h'.Like h) ∨
      ∃ input callback, c = .recordExecutionEvent input callback ∧
        input.handoffId = h.handoffId ∧ s.Fresh input ∧
        validateExecutionTransition h.executionStatus input.executionStatus
          input.eventType = .ok () ∧
        callback.written (input.event s.drawn) h ∈ s'.handoffs := by
  cases heffect with
  | none => exact Or.inl ⟨h, hmem, rfl⟩
  | create => exact Or.inl ⟨h, List.mem_append_left _ hmem, rfl⟩
  | @record input callback h₀ _ hmem₀ hid hnew hmove =>
    by_cases heq : h.handoffId = input.handoffId
    · have hsame : h₀ = h := hs.handoffs.eq_of_key hmem₀ hmem (hid.trans heq.symm)
      subst hsame
      exact Or.inr ⟨input, callback, rfl, hid.symm, hnew, hmove,
        Table.mem_modify_self hmem hid rfl⟩
    · exact Or.inl ⟨h, Table.mem_modify_of_not hmem fun hcond => heq hcond.1, rfl⟩
  | @mark _ m d hm =>
    refine Or.inl ?_
    cases hwrite : m.handoff with
    | none =>
      refine ⟨h, ?_, rfl⟩
      simp only [Mark.applied, hwrite]
      exact hmem
    | some write =>
      have hlike := (mark_keeps hm).handoff write hwrite h
      simp only [Mark.applied, hwrite]
      by_cases hcond : h.handoffId = d.handoffId ∧ h.latestEventId = some d.eventId
      · exact ⟨_, Table.mem_modify_self hmem hcond.1 (decide_eq_true hcond.2), hlike⟩
      · refine ⟨h, Table.mem_modify_of_not hmem fun hc => hcond ⟨hc.1, ?_⟩, rfl⟩
        exact of_decide_eq_true hc.2

/-! ### The tables stay sound -/

theorem handoffClash_congr {h₁ h₂ : Handoff} (hid : h₁.handoffId = h₂.handoffId)
    (hterms : h₁.terms = h₂.terms) (h : Handoff) : handoffClash h₁ h = handoffClash h₂ h := by
  unfold handoffClash
  rw [hid, hterms]

theorem Sound.create {terms : Terms} (hs : Sound s)
    (hfree : ∀ h ∈ s.handoffs, handoffClash (.create s.drawn terms) h = none) :
    Sound { s with handoffs := s.handoffs ++ [.create s.drawn terms], drawn := s.drawn + 1 } where
  handoffs := Table.insert_valid hs.handoffs (Table.insert_eq_ok.mpr ⟨rfl, hfree, rfl⟩)
  events := hs.events
  deliveries := hs.deliveries
  handoff_lt := by
    intro h hmem
    rcases List.mem_append.mp hmem with hold | hnew
    · exact Nat.lt_succ_of_lt (hs.handoff_lt h hold)
    · rw [List.mem_singleton.mp hnew]
      exact Nat.lt_succ_self _
  event_lt := fun e he => Nat.lt_succ_of_lt (hs.event_lt e he)
  delivery_lt := fun d hd => Nat.lt_succ_of_lt (hs.delivery_lt d hd)
  aligned := hs.aligned
  latest := by
    intro h hmem id hid
    rcases List.mem_append.mp hmem with hold | hnew
    · exact hs.latest h hold id hid
    · rw [List.mem_singleton.mp hnew] at hid
      cases hid

theorem Sound.recorded {body : CallbackPayload} (hs : Sound s) (hnew : s.Fresh input) :
    Sound (s.recorded input callback body) where
  handoffs := Table.modify_valid hs.handoffs fun h h' =>
    handoffClash_congr (CallbackPlan.written_handoffId _ _ _) (CallbackPlan.written_terms _ _ _) h'
  events := by
    refine Table.insert_valid hs.events (Table.insert_eq_ok.mpr ⟨rfl, fun e he => ?_, rfl⟩)
    refine eventClash_eq_none.mpr ⟨(Nat.ne_of_lt (hs.event_lt e he)).symm, fun heq => ?_⟩
    exact hnew e he ⟨heq.1.symm, heq.2.symm⟩
  deliveries := by
    refine Table.insert_valid hs.deliveries (Table.insert_eq_ok.mpr ⟨rfl, fun d hd => ?_, rfl⟩)
    refine deliveryClash_eq_none.mpr ?_
    have hlt := hs.delivery_lt d hd
    show s.drawn + 1 ≠ d.deliveryId
    omega
  handoff_lt := by
    intro h hmem
    obtain ⟨h', hmem', heq⟩ := Table.mem_modify.mp hmem
    have hlt := hs.handoff_lt h' hmem'
    have hid : h.handoffId = h'.handoffId := by
      rw [heq]
      split_ifs
      · exact CallbackPlan.written_handoffId _ _ _
      · rfl
    show h.handoffId < s.drawn + 2
    omega
  event_lt := by
    intro e hmem
    show e.eventId < s.drawn + 2
    rcases List.mem_append.mp hmem with hold | hlast
    · have hlt := hs.event_lt e hold
      omega
    · rw [List.mem_singleton.mp hlast]
      exact Nat.lt_succ_of_lt (Nat.lt_succ_self _)
  delivery_lt := by
    intro d hmem
    show d.deliveryId < s.drawn + 2
    rcases List.mem_append.mp hmem with hold | hlast
    · have hlt := hs.delivery_lt d hold
      omega
    · rw [List.mem_singleton.mp hlast]
      exact Nat.lt_succ_self _
  aligned := by
    show (s.deliveries ++ [_]).map _ = (s.events ++ [_]).map _
    rw [List.map_append, List.map_append, hs.aligned]
    rfl
  latest := by
    intro _ hmem id hid
    obtain ⟨h', hmem', heq⟩ := Table.mem_modify.mp hmem
    split_ifs at heq with hcond
    · -- the handoff that was written points to the new event
      rw [heq, CallbackPlan.written_latestEventId] at hid
      cases hid
      refine ⟨_, List.mem_append_right _ (List.mem_singleton_self _), rfl, ?_⟩
      rw [heq, CallbackPlan.written_handoffId]
      exact hcond.1.symm
    · obtain ⟨e, he, heid, hhandoff⟩ := hs.latest h' hmem' id (heq ▸ hid)
      exact ⟨e, List.mem_append_left _ he, heid, hhandoff.trans (by rw [heq])⟩

theorem Sound.applied (hs : Sound s) (hm : m.Keeps) : Sound (m.applied d s) where
  handoffs := by
    unfold Mark.applied
    cases hwrite : m.handoff with
    | none => exact hs.handoffs
    | some write =>
      exact Table.modify_valid hs.handoffs fun h h' =>
        handoffClash_congr (hm.handoff write hwrite h).handoffId
          (hm.handoff write hwrite h).terms h'
  events := hs.events
  deliveries := by
    refine Table.modify_valid hs.deliveries fun d d' => ?_
    show deliveryClash (m.change d) d' = deliveryClash d d'
    rw [deliveryClash, deliveryClash, hm.deliveryId]
  handoff_lt := by
    intro h hmem
    obtain ⟨h', hmem', hlike, -⟩ := hm.mem_handoffs hmem
    rw [hlike.handoffId]
    exact hs.handoff_lt h' hmem'
  event_lt := hs.event_lt
  delivery_lt := by
    intro d hmem
    obtain ⟨d', hmem', heq⟩ := Table.mem_modify.mp hmem
    have hid : d.deliveryId = d'.deliveryId := by
      rw [heq]
      split_ifs
      · exact hm.deliveryId d'
      · rfl
    rw [hid]
    exact hs.delivery_lt d' hmem'
  aligned := by
    refine (Table.map_modify fun d => ?_).trans hs.aligned
    rw [hm.eventId, hm.handoffId]
  latest := by
    intro _ hmem id hid
    obtain ⟨h', hmem', hlike, -⟩ := hm.mem_handoffs hmem
    obtain ⟨e, he, heid, hof⟩ := hs.latest h' hmem' id (hlike.latestEventId.symm.trans hid)
    exact ⟨e, he, heid, hof.trans hlike.handoffId.symm⟩

theorem Sound.effect (hs : Sound s) (heffect : Effect s c s') : Sound s' := by
  cases heffect with
  | none => exact hs
  | create hfree => exact hs.create hfree
  | record _ _ hnew => exact hs.recorded hnew
  | mark hm => exact hs.applied (mark_keeps hm)

theorem Sound.step (hs : Sound s) (hstep : Step s c s') : Sound s' :=
  hs.effect (hstep.effect hs)

variable {tr : List (Transition State Call)}

theorem sound_of_run (hrun : Run Step s tr s') (hs : Sound s) : Sound s' :=
  hrun.invariant (fun _ _ _ hs hstep => hs.step hstep) hs

/-! ### Deliveries -/

theorem Sound.one_delivery (hs : Sound s) (he : e ∈ s.events) :
    (s.deliveries.map Delivery.eventId).count e.eventId = 1 := by
  obtain ⟨_, hd, heq, -⟩ := hs.exists_delivery he
  refine List.count_eq_one_of_mem hs.nodup_eventId ?_
  rw [← heq]
  exact List.mem_map_of_mem hd

theorem Effect.delivered (heffect : Effect s c s') (hs : Sound s) (hd : d ∈ s.deliveries)
    (hstage : d.stage = .delivered) : d ∈ s'.deliveries := by
  cases heffect with
  | none | create => exact hd
  | record => exact List.mem_append_left _ hd
  | @mark c m d' hm hmem hid happlies =>
    refine Table.mem_modify_of_not hd ?_
    rintro ⟨hkey, -⟩
    have heq : d = d' := hs.deliveries.eq_of_key hd hmem (hkey.trans hid.symm)
    subst heq
    exact (mark_keeps hm).delivered d happlies hstage

theorem delivered_of_run (hrun : Run Step s tr s') (hs : Sound s) (hd : d ∈ s.deliveries)
    (hstage : d.stage = .delivered) : d ∈ s'.deliveries := by
  have hboth : Sound s' ∧ d ∈ s'.deliveries := by
    refine hrun.invariant (I := fun s => Sound s ∧ d ∈ s.deliveries) ?_ ⟨hs, hd⟩
    rintro _ _ _ ⟨hs, hd⟩ hstep
    exact ⟨hs.step hstep, (hstep.effect hs).delivered hs hd hstage⟩
  exact hboth.2

/-! ### What the handoff shows -/

/-- The callback status that stands for the status of a delivery. -/
def DeliveryStage.Shows : DeliveryStage → CallbackStatus → Prop
  | .pending, status => status = .pending
  | .delivering _ _, status => status = .pending ∨ status = .failed
  | .delivered, status => status = .delivered
  | .failed, status => status = .failed
  | .deadLetter, status => status = .deadLetter
  | .disabled, status => status = .disabled

/-- The handoff shows the status of the delivery of its latest event. -/
def State.Shown (s : State) : Prop :=
  ∀ h ∈ s.handoffs, ∀ id, h.latestEventId = some id →
    ∃ d ∈ s.deliveries, d.eventId = id ∧ d.handoffId = h.handoffId ∧
      d.stage.Shows h.callbackStatus

/-- The call does not requeue the dead letter of a handoff's latest event, and does not queue a
callback for a handoff whose callbacks are disabled. -/
def Quiet (t : Transition State Call) : Prop :=
  match t.label with
  | .requeueCallbackDelivery id _ =>
    ∀ d ∈ t.source.deliveries, d.deliveryId = id → d.stage = .deadLetter →
      ∀ h ∈ t.source.handoffs, h.latestEventId ≠ some d.eventId
  | .recordExecutionEvent input callback =>
    callback.status = .pending → t.source.Fresh input →
      ∀ h ∈ t.source.handoffs, h.handoffId = input.handoffId → h.callbackStatus ≠ .disabled
  | _ => True

instance (s : State) (input : PersistInput) : Decidable (s.Fresh input) :=
  inferInstanceAs (Decidable (∀ e ∈ s.events, ¬ _))

instance : DecidablePred Quiet
  | ⟨s, .requeueCallbackDelivery id _, _⟩ =>
    inferInstanceAs (Decidable (∀ d ∈ s.deliveries, d.deliveryId = id → d.stage = .deadLetter →
      ∀ h ∈ s.handoffs, h.latestEventId ≠ some d.eventId))
  | ⟨s, .recordExecutionEvent input callback, _⟩ =>
    inferInstanceAs (Decidable (callback.status = .pending → s.Fresh input →
      ∀ h ∈ s.handoffs, h.handoffId = input.handoffId → h.callbackStatus ≠ .disabled))
  | ⟨_, .createHandoff _, _⟩ | ⟨_, .markCallbackDelivering _ _ _ _, _⟩
  | ⟨_, .markCallbackDelivered _ _ _ _, _⟩ | ⟨_, .markCallbackFailed _ _ _, _⟩ => isTrue trivial

/-- The new delivery and the handoff that was written agree. -/
theorem shows_written {deliveryId eventId : ℕ} {body : CallbackPayload} {event : Event}
    (hquiet : callback.status = .pending → h.callbackStatus ≠ .disabled) :
    (callback.delivery deliveryId h.handoffId eventId body).stage.Shows
      (callback.written event h).callbackStatus := by
  show callback.status.stage.Shows _
  rw [CallbackPlan.written]
  cases hstatus : callback.status with
  | disabled => rfl
  | pending => exact if_neg (hquiet hstatus)

/-- A statement about the delivery of the latest event, other than requeueing it, leaves the
handoff with the status of the delivery. -/
theorem shows_mark (hm : c.mark = some m) (happlies : m.applies d = true)
    (hshows : d.stage.Shows h.callbackStatus)
    (hrequeue : ∀ id at', c = .requeueCallbackDelivery id at' → d.stage ≠ .deadLetter) :
    match m.handoff with
    | none => (m.change d).stage.Shows h.callbackStatus
    | some write => (m.change d).stage.Shows (write h).callbackStatus := by
  cases c with
  | createHandoff | recordExecutionEvent => cases hm
  | markCallbackDelivering _ _ attemptedAt =>
    cases hm
    have hdue : d.due attemptedAt = true := happlies
    show h.callbackStatus = .pending ∨ h.callbackStatus = .failed
    cases hstage : d.stage with
    | pending =>
      rw [hstage] at hshows
      exact Or.inl hshows
    | failed =>
      rw [hstage] at hshows
      exact Or.inr hshows
    | delivering =>
      rw [hstage] at hshows
      exact hshows
    | delivered | deadLetter | disabled =>
      rw [Delivery.due, hstage] at hdue
      cases hdue
  | markCallbackDelivered =>
    cases hm
    rfl
  | markCallbackFailed _ _ update =>
    cases hm
    cases hdead : update.deadLetter <;> simp [markCallbackFailed, hdead, DeliveryStage.Shows]
  | requeueCallbackDelivery id nextAttemptAt =>
    cases hm
    exact absurd (of_decide_eq_true happlies) (hrequeue id nextAttemptAt rfl)

theorem Effect.shown (heffect : Effect s c s') (hs : Sound s) (hquiet : Quiet ⟨s, c, s'⟩)
    (hshown : s.Shown) : s'.Shown := by
  cases heffect with
  | none => exact hshown
  | create =>
    intro h hmem id hid
    rcases List.mem_append.mp hmem with hold | hnew
    · exact hshown h hold id hid
    · rw [List.mem_singleton.mp hnew] at hid
      cases hid
  | @record _ _ _ _ _ _ hnew =>
    intro h hmem id hid
    obtain ⟨h', hmem', heq⟩ := Table.mem_modify.mp hmem
    split_ifs at heq with hcond
    · rw [heq, CallbackPlan.written_latestEventId] at hid
      cases hid
      refine ⟨_, List.mem_append_right _ (List.mem_singleton_self _), rfl, ?_, ?_⟩
      · rw [heq, CallbackPlan.written_handoffId]
        exact hcond.1.symm
      · rw [heq, ← hcond.1]
        exact shows_written fun hpending => hquiet hpending hnew h' hmem' hcond.1
    · subst heq
      obtain ⟨d, hd, hevent, hhandoff, hshows⟩ := hshown h hmem' id hid
      exact ⟨d, List.mem_append_left _ hd, hevent, hhandoff, hshows⟩
  | @mark c m d hm hmem hid happlies =>
    have hkeeps := mark_keeps hm
    intro h hmem_h id hlatest
    obtain ⟨h', hmem', hlike, hcase⟩ := hkeeps.mem_handoffs hmem_h
    rw [hlike.latestEventId] at hlatest
    obtain ⟨d', hd', hevent, hof, hshows⟩ := hshown h' hmem' id hlatest
    by_cases hd_eq : d' = d
    · -- the delivery of the latest event is the one that is updated
      subst hd_eq
      have hrequeue : ∀ id at', c = .requeueCallbackDelivery id at' →
          d'.stage ≠ .deadLetter := by
        rintro _ _ rfl hdead
        cases hm
        exact hquiet d' hmem hid hdead h' hmem' (hlatest.trans (congrArg some hevent.symm))
      have hafter := shows_mark hm happlies hshows hrequeue
      refine ⟨m.change d', Table.mem_modify_self hmem hid rfl, ?_, ?_, ?_⟩
      · rw [hkeeps.eventId, hevent]
      · rw [hkeeps.handoffId, hof, hlike.handoffId]
      · rcases hcase with ⟨-, -, _, hwrite, rfl⟩ | ⟨rfl, hnone | hother | hother⟩
        · rwa [hwrite] at hafter
        · rwa [hnone] at hafter
        · rw [hlatest, hevent] at hother
          exact absurd rfl hother
        · exact absurd hof.symm hother
    · -- another delivery: neither it nor the handoff changes
      have hne : d'.deliveryId ≠ m.deliveryId := fun hkey =>
        hd_eq (hs.deliveries.eq_of_key hd' hmem (hkey.trans hid.symm))
      have hsame : h = h' := by
        rcases hcase with ⟨hl, -, -⟩ | ⟨heq, -⟩
        · rw [hlatest, Option.some.injEq] at hl
          exact absurd (hs.delivery_eq hd' hmem (hevent.trans hl)) hd_eq
        · exact heq
      subst hsame
      exact ⟨d', Table.mem_modify_of_not hd' fun hcond => hne hcond.1, hevent, hof, hshows⟩

/-- What the callback statuses say over a run of the store. -/
structure CallbacksMirror (tr : List (Transition State Call)) (s : State) : Prop where
  one_delivery : ∀ e ∈ s.events, (s.deliveries.map Delivery.eventId).count e.eventId = 1
  delivered_stays : ∀ t ∈ tr, ∀ d ∈ t.source.deliveries, d.stage = .delivered →
    d ∈ s.deliveries
  shown : s.Shown

/-- **Callback status mirrors the latest event.** -/
theorem callbacks_mirror (hrun : Run Step State.empty tr s)
    (hquiet : ∀ t ∈ tr, t.target ≠ t.source → Quiet t) : CallbacksMirror tr s := by
  have hs := sound_of_run hrun Sound.empty
  refine ⟨fun e he => hs.one_delivery he, fun t ht d hd hstage => ?_, ?_⟩
  · obtain ⟨_, _, -, hpre, hstep, hpost⟩ := hrun.split ht
    have hsource := sound_of_run hpre Sound.empty
    have hmem := (hstep.effect hsource).delivered hsource hd hstage
    exact delivered_of_run hpost (hsource.step hstep) hmem hstage
  · have hboth : Sound s ∧ s.Shown := by
      refine hrun.invariant_of (I := fun s => Sound s ∧ s.Shown) ?_ hquiet
        ⟨Sound.empty, fun _ hmem => absurd hmem List.not_mem_nil⟩
      rintro s _ s' hq ⟨hs, hshown⟩ hstep
      by_cases hsame : s' = s
      · exact hsame ▸ ⟨hs, hshown⟩
      · exact ⟨hs.step hstep, (hstep.effect hs).shown hs (hq hsame) hshown⟩
    exact hboth.2

/-! ### Runs -/

def sampleTerms : Terms where
  platformId := Text.lit "platform"
  platformHandoffId := Text.lit "order-7"
  tradeId := Text.lit "7"
  phase := Text.lit "release"
  settlementChannel := Text.lit "cotsel_escrow"
  displayCurrency := Text.lit "USD"
  displayAmount := Text.lit "10.00"
  assetSymbol := none
  assetAmount := none
  ricardianHash := none
  externalReference := none
  executionBinding := none
  requestId := Text.lit "create"
  sourceApiKeyId := none

def sampleEvent (eventType : EventType) (executionStatus : ExecutionStatus) (status : PlanStatus) :
    Call :=
  .recordExecutionEvent
    { handoffId := 0
      eventType := eventType
      executionStatus := executionStatus
      reconciliationStatus := .pending
      providerStatus := none
      txHash := none
      detail := none
      reconciliationEvidence := .undefined
      observedAt := 10
      requestId := Text.lit "request"
      sourceApiKeyId := none
      dedupeKey := Text.lit eventType.name }
    { targetUrl := Text.lit "https://platform/callback"
      requestId := Text.lit "request"
      status := status
      nextAttemptAt := 10
      buildRequestBody := buildCallbackPayload }

def worker : List Char := Text.lit "worker"

/-- The attempt at the delivery `id` that is given up. -/
def giveUp (id : ℕ) : List Call :=
  [.markCallbackDelivering id worker 20 50,
    .markCallbackFailed id worker ⟨30, some 500, Text.lit "HTTP 500", 40, true⟩]

/-- The first delivery is given up and requeued when there is a second event, which is
delivered. -/
def olderRequeued : List Call :=
  [.createHandoff sampleTerms, sampleEvent .accepted .accepted .pending] ++ giveUp 2 ++
    [sampleEvent .queued .queued .pending, .requeueCallbackDelivery 2 60,
      .markCallbackDelivering 4 worker 60 90, .markCallbackDelivered 4 worker 70 200]

theorem callbacks_mirror_olderRequeued :
    CallbacksMirror (trace next State.empty olderRequeued)
      (olderRequeued.foldl next State.empty) ∧
    (olderRequeued.foldl next State.empty).handoffs.map Handoff.callbackStatus = [.delivered] ∧
    (olderRequeued.foldl next State.empty).deliveries.map Delivery.stage =
      [.pending, .delivered] :=
  ⟨callbacks_mirror (run_trace _ _ _) fun t ht _ =>
      (by decide +kernel : ∀ t ∈ trace next State.empty olderRequeued, Quiet t) t ht,
    by decide +kernel, by decide +kernel⟩

/-- The delivery of the latest event is given up and requeued. -/
def latestRequeued : List Call :=
  [.createHandoff sampleTerms, sampleEvent .accepted .accepted .pending] ++ giveUp 2 ++
    [.requeueCallbackDelivery 2 60]

/-- The second event is recorded when callbacks are switched on again. -/
def switchedOn : List Call :=
  [.createHandoff sampleTerms, sampleEvent .accepted .accepted .disabled,
    sampleEvent .queued .queued .pending]

/-- **A requeued dead letter is still reported as one**, and a handoff whose callbacks were once
disabled is reported as disabled while the callback of its latest event is pending. -/
theorem requeued_still_deadLetter :
    Run Step State.empty (trace next State.empty latestRequeued)
      (latestRequeued.foldl next State.empty) ∧
    (latestRequeued.foldl next State.empty).handoffs.map
      (fun h => (h.latestEventId, h.callbackStatus)) = [(some 1, .deadLetter)] ∧
    (latestRequeued.foldl next State.empty).deliveries.map (fun d => (d.eventId, d.stage)) =
      [(1, .pending)] ∧
    Run Step State.empty (trace next State.empty switchedOn) (switchedOn.foldl next State.empty) ∧
    (switchedOn.foldl next State.empty).handoffs.map
      (fun h => (h.latestEventId, h.callbackStatus)) = [(some 3, .disabled)] ∧
    (switchedOn.foldl next State.empty).deliveries.map (fun d => (d.eventId, d.stage)) =
      [(1, .disabled), (3, .pending)] := by
  refine ⟨run_trace _ _ _, ?_, ?_, run_trace _ _ _, ?_, ?_⟩ <;> decide +kernel

/-! ### Handoffs and their events -/

def State.eventsOf (s : State) (handoffId : ℕ) : List Event :=
  s.events.filter (·.handoffId = handoffId)

/-- The execution status of a handoff with these events. -/
def statusAfter (es : List Event) : ExecutionStatus :=
  (es.getLast?.map (·.executionStatus)).getD .pending

/-- The row of a handoff with the events `es`: the columns about the latest event and the two
statuses are those of the last event, the hash and the provider's status those of the last event
that has one. -/
structure Handoff.Reflects (h : Handoff) (es : List Event) : Prop where
  /-- The state machine accepted every event after those before it. -/
  accepted : ∀ earlier e, earlier ++ [e] <+: es →
    validateExecutionTransition (statusAfter earlier) e.executionStatus e.eventType = .ok ()
  executionStatus : h.executionStatus = statusAfter es
  reconciliationStatus : h.reconciliationStatus =
    (es.getLast?.map (·.reconciliationStatus)).getD .pending
  latestEventId : h.latestEventId = es.getLast?.map Event.eventId
  latestEventType : h.latestEventType = es.getLast?.map (·.eventType)
  latestEventDetail : h.latestEventDetail = es.getLast?.bind (·.detail)
  latestEventAt : h.latestEventAt = es.getLast?.map (·.observedAt)
  providerStatus : h.providerStatus = (es.filterMap (·.providerStatus)).getLast?
  txHash : h.txHash = (es.filterMap (·.txHash)).getLast?

theorem Handoff.reflects_create (id : ℕ) (terms : Terms) : (Handoff.create id terms).Reflects [] :=
  ⟨fun _ _ hprefix => absurd (List.prefix_nil.mp hprefix) (by simp),
    rfl, rfl, rfl, rfl, rfl, rfl, rfl, rfl⟩

namespace Handoff.Reflects

variable {es : List Event}

/-- The columns about callbacks are not looked at. -/
theorem like (hr : h'.Reflects es) (hlike : h.Like h') : h.Reflects es := by
  rw [hlike]
  exact ⟨hr.1, hr.2, hr.3, hr.4, hr.5, hr.6, hr.7, hr.8, hr.9⟩

theorem getLast?_filterMap {f : Event → Option (List Char)} :
    ((es ++ [e]).filterMap f).getLast? = (f e).or (es.filterMap f).getLast? := by
  rw [List.filterMap_append, List.getLast?_append]
  cases hf : f e <;> simp [hf]

theorem record (hr : h.Reflects es)
    (hmove : validateExecutionTransition h.executionStatus e.executionStatus e.eventType =
      .ok ()) : (h.record e).Reflects (es ++ [e]) where
  accepted earlier e' hprefix := by
    rcases List.prefix_concat_iff.mp hprefix with heq | hbefore
    · obtain ⟨rfl, hlast⟩ := List.append_inj' heq rfl
      cases hlast
      rw [← hr.executionStatus]
      exact hmove
    · exact hr.accepted _ _ hbefore
  executionStatus := by simp [statusAfter, Handoff.record]
  reconciliationStatus := by simp [Handoff.record]
  latestEventId := by simp [Handoff.record]
  latestEventType := by simp [Handoff.record]
  latestEventDetail := by simp [Handoff.record]
  latestEventAt := by simp [Handoff.record]
  providerStatus := by rw [getLast?_filterMap, ← hr.providerStatus, Handoff.record]
  txHash := by rw [getLast?_filterMap, ← hr.txHash, Handoff.record]

end Handoff.Reflects

theorem CallbackPlan.written_like (plan : CallbackPlan) (e : Event) (h : Handoff) :
    (plan.written e h).Like (h.record e) := by
  unfold CallbackPlan.written Handoff.Like
  split_ifs <;> rfl

/-- Every row reflects its events, and no event is of a handoff that is still to be created. -/
structure Reflected (s : State) : Prop where
  handoff_lt : ∀ e ∈ s.events, e.handoffId < s.drawn
  reflects : ∀ h ∈ s.handoffs, h.Reflects (s.eventsOf h.handoffId)

theorem Reflected.effect (hr : Reflected s) (hs : Sound s) (heffect : Effect s c s') :
    Reflected s' := by
  cases heffect with
  | none => exact hr
  | create =>
    refine ⟨fun e he => Nat.lt_succ_of_lt (hr.handoff_lt e he), fun h hmem => ?_⟩
    rcases List.mem_append.mp hmem with hold | hnew
    · exact hr.reflects h hold
    · have hnone : s.events.filter (·.handoffId = s.drawn) = [] :=
        List.filter_eq_nil_iff.mpr fun e he => by simpa using (hr.handoff_lt e he).ne
      rw [List.mem_singleton.mp hnew]
      show Handoff.Reflects _ (s.events.filter (·.handoffId = s.drawn))
      rw [hnone]
      exact Handoff.reflects_create _ _
  | @record input _ h₀ _ hmem₀ hid _ hmove =>
    refine ⟨fun e he => ?_, fun h hmem => ?_⟩
    · show e.handoffId < s.drawn + 2
      rcases List.mem_append.mp he with hold | hnew
      · exact (hr.handoff_lt e hold).trans (by omega)
      · have hlt := hs.handoff_lt h₀ hmem₀
        rw [List.mem_singleton.mp hnew]
        show input.handoffId < _
        omega
    · obtain ⟨h', hmem', heq⟩ := Table.mem_modify.mp hmem
      split_ifs at heq with hcond
      · obtain rfl := hs.handoffs.eq_of_key hmem₀ hmem' (hid.trans hcond.1.symm)
        have hown : [input.event s.drawn].filter (·.handoffId = h₀.handoffId) =
            [input.event s.drawn] :=
          List.filter_eq_self.mpr (by simpa [PersistInput.event] using hid.symm)
        rw [heq, CallbackPlan.written_handoffId, State.eventsOf]
        show Handoff.Reflects _ ((s.events ++ [_]).filter _)
        rw [List.filter_append, hown]
        exact ((hr.reflects h₀ hmem').record hmove).like (CallbackPlan.written_like _ _ _)
      · subst heq
        have hother : [input.event s.drawn].filter (·.handoffId = h.handoffId) = [] :=
          List.filter_eq_nil_iff.mpr <| by
            simpa [PersistInput.event] using fun heq => hcond ⟨heq.symm, rfl⟩
        show Handoff.Reflects _ ((s.events ++ [_]).filter _)
        rw [List.filter_append, hother, List.append_nil]
        exact hr.reflects h hmem'
  | mark hm =>
    refine ⟨hr.handoff_lt, fun h hmem => ?_⟩
    obtain ⟨h', hmem', hlike, -⟩ := (mark_keeps hm).mem_handoffs hmem
    rw [hlike.handoffId]
    exact (hr.reflects h' hmem').like hlike

theorem reflected_of_run (hrun : Run Step s tr s') (h0 : Sound s ∧ Reflected s) :
    Sound s' ∧ Reflected s' :=
  hrun.invariant (I := fun s => Sound s ∧ Reflected s)
    (fun _ _ _ hi hstep => ⟨hi.1.step hstep, hi.2.effect hi.1 (hstep.effect hi.1)⟩) h0

theorem Effect.events_prefix (heffect : Effect s c s') : s.events <+: s'.events := by
  cases heffect with
  | none | create | mark => exact List.prefix_rfl
  | record => exact List.prefix_append _ _

theorem Effect.terms (heffect : Effect s c s') (hs : Sound s) (hmem : h ∈ s.handoffs) :
    ∃ h' ∈ s'.handoffs, h'.handoffId = h.handoffId ∧ h'.terms = h.terms := by
  rcases heffect.handoff hs hmem with ⟨h', hmem', hlike⟩ | ⟨_, _, -, -, -, -, hmem'⟩
  · exact ⟨h', hmem', hlike.handoffId, hlike.terms⟩
  · exact ⟨_, hmem', CallbackPlan.written_handoffId _ _ _, CallbackPlan.written_terms _ _ _⟩

/-- **A handoff reflects its events**: over every run, the events recorded for a handoff were
accepted by the state machine one after the other, its row shows the last of them, and no event and
no handoff with its terms is changed or lost. -/
theorem handoff_reflects_events {tr₀ : List (Transition State Call)}
    (hreached : Run Step State.empty tr₀ s) (hrun : Run Step s tr s') :
    s.events <+: s'.events ∧
    (∀ h ∈ s.handoffs, ∃ h' ∈ s'.handoffs, h'.handoffId = h.handoffId ∧ h'.terms = h.terms) ∧
    ∀ h ∈ s'.handoffs, h.Reflects (s'.eventsOf h.handoffId) := by
  have hreflected := reflected_of_run hreached
    ⟨Sound.empty, fun _ he => absurd he List.not_mem_nil,
      fun _ hmem => absurd hmem List.not_mem_nil⟩
  have hkept : Sound s' ∧ s.events <+: s'.events ∧
      ∀ h ∈ s.handoffs, ∃ h' ∈ s'.handoffs, h'.handoffId = h.handoffId ∧ h'.terms = h.terms := by
    refine hrun.invariant (I := fun s' => Sound s' ∧ s.events <+: s'.events ∧ ∀ h ∈ s.handoffs,
      ∃ h' ∈ s'.handoffs, h'.handoffId = h.handoffId ∧ h'.terms = h.terms) ?_
      ⟨hreflected.1, List.prefix_rfl, fun h hmem => ⟨h, hmem, rfl, rfl⟩⟩
    rintro _ _ _ ⟨hs, hevents, hrows⟩ hstep
    have heffect := hstep.effect hs
    refine ⟨hs.step hstep, hevents.trans heffect.events_prefix, fun h hmem => ?_⟩
    obtain ⟨h₁, hmem₁, hid₁, hterms₁⟩ := hrows h hmem
    obtain ⟨h₂, hmem₂, hid₂, hterms₂⟩ := heffect.terms hs hmem₁
    exact ⟨h₂, hmem₂, hid₂.trans hid₁, hterms₂.trans hterms₁⟩
  exact ⟨hkept.2.1, hkept.2.2, (reflected_of_run hrun hreflected).2.reflects⟩

theorem handoff_reflects_olderRequeued :
    ∃ h, (olderRequeued.foldl next State.empty).handoffs = [h] ∧
      h.Reflects ((olderRequeued.foldl next State.empty).eventsOf h.handoffId) := by
  obtain ⟨h, hrows⟩ := List.length_eq_one_iff.mp
    (by decide +kernel : (olderRequeued.foldl next State.empty).handoffs.length = 1)
  have hmem : h ∈ (olderRequeued.foldl next State.empty).handoffs := by
    rw [hrows]
    exact List.mem_singleton_self h
  exact ⟨h, hrows, (handoff_reflects_events (run_trace next [] State.empty)
    (run_trace next olderRequeued _)).2.2 h hmem⟩

end Cotsel.Gateway.Settlement
