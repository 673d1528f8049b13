import Cotsel.Library.Run
import Cotsel.Library.Text

/-!
# Idempotency reservations

The table `idempotency_keys` and the middleware that guards every mutation route with it
(`core/idempotencyStore.ts`, `middleware/idempotency.ts`, `middleware/requestContext.ts`).

A request reserves its scope (actor, endpoint, `Idempotency-Key`) before its handler runs.  The
reservation carries the request's id and a lease; the id fences the three statements of a handler
(`complete`, `releasePending`, `renewLease`), and the lease lets a later request take over a
reservation whose handler died.  A request that finds the scope taken replays the stored response,
or recovers one from the gasless transaction outcome recorded under the owner's request id.

* `Statement.apply` is what one SQL statement does to the row of its scope;
* `next` lets one request make its next statement, in any interleaving with the others; the time of
  every statement is arbitrary, so leases may run out between any two of them;
* `ReservationSafe` says what the fence is for, and `reservation_safe` that the code keeps it.

A handler that dies makes no further statement; a handler that lives may call its statements in any
order and as often as it likes.
-/

namespace Cotsel.Gateway.Idempotency

open Runs

/-! ### Requests -/

structure Scope where
  actorId : List Char
  endpoint : List Char
  idempotencyKey : List Char
deriving DecidableEq

/-- A request as the middleware sees it.  `uuid` is the random id that stands in for a missing or
malformed `x-request-id` header. -/
structure Request where
  scope : Scope
  method : List Char
  path : List Char
  rawBody : List Char
  header : Option (List Char)
  uuid : List Char
deriving DecidableEq

/-- `[A-Za-z0-9._:-]`. -/
def isRequestIdChar (c : Char) : Bool :=
  c.isAlphanum || ['.', '_', ':', '-'].contains c

/-- The header, if it matches `/^[A-Za-z0-9._:-]{8,128}$/` after trimming. -/
def headerValue (value : Option (List Char)) : Option (List Char) :=
  (value.map Text.trim).filter fun candidate =>
    decide (8 ≤ candidate.length) && decide (candidate.length ≤ 128) &&
      candidate.all isRequestIdChar

def Request.requestId (q : Request) : List Char := (headerValue q.header).getD q.uuid

variable (sha256 : List Char → List Char)

def buildRequestFingerprint (method path rawBody : List Char) : List Char :=
  sha256 (method.map Text.capitalLetter ++ ['\n'] ++ path ++ ['\n'] ++ rawBody)

def Request.fingerprint (q : Request) : List Char :=
  buildRequestFingerprint sha256 q.method q.path q.rawBody

/-! ### Responses -/

inductive ResourceType
  | settlementHandoff
  | platformTransfer
deriving DecidableEq

inductive OutcomeStatus
  | broadcastPending
  | broadcastUnknown
  | confirmationPending
  | confirmed
  | reverted
deriving DecidableEq

/-- A row of `gasless_transaction_outcomes`, as `getFinancialOutcome` reads it. -/
structure FinancialOutcome where
  requestId : List Char
  transactionHash : List Char
  resourceType : ResourceType
  resourceId : List Char
  operation : List Char
  chainId : ℕ
  outcomeStatus : OutcomeStatus
deriving DecidableEq

/-- What a response recovered from an outcome tells about it. -/
structure RecoveryDetails where
  transactionHash : List Char
  outcome : OutcomeStatus
  resourceType : ResourceType
  resourceId : List Char
  operation : List Char
  chainId : ℕ
  recovered : Bool
  rebroadcastAllowed : Bool
deriving DecidableEq

inductive Body
  /-- What the route's handler sent. -/
  | json (text : List Char)
  /-- `successResponse` with the request id of the outcome. -/
  | success (requestId : List Char) (details : RecoveryDetails)
  /-- `errorResponse` in the context of the replaying request. -/
  | failure (code message requestId : List Char) (details : RecoveryDetails)
deriving DecidableEq

structure Response where
  status : ℕ
  contentType : Option (List Char)
  body : Body
deriving DecidableEq

def FinancialOutcome.details (o : FinancialOutcome) : RecoveryDetails where
  transactionHash := o.transactionHash
  outcome := o.outcomeStatus
  resourceType := o.resourceType
  resourceId := o.resourceId
  operation := o.operation
  chainId := o.chainId
  recovered := true
  rebroadcastAllowed := false

/-- `financialOutcomeResponse`, with the content type under which it is stored. -/
def financialOutcomeResponse (q : Request) (o : FinancialOutcome) : Response where
  status := if o.outcomeStatus = .reverted then 502 else 202
  contentType := some (Text.lit "application/json; charset=utf-8")
  body :=
    if o.outcomeStatus = .reverted then
      .failure (Text.lit "UPSTREAM_UNAVAILABLE") (Text.lit "Gasless transaction reverted on-chain")
        q.requestId o.details
    else .success o.requestId o.details

def isTerminalFinancialOutcome (o : FinancialOutcome) : Bool :=
  o.outcomeStatus = .confirmed || o.outcomeStatus = .reverted

/-! ### The table -/

/-- A row of `idempotency_keys`.  `completed_at` and the response are written together. -/
structure Record where
  requestMethod : List Char
  requestPath : List Char
  requestFingerprint : List Char
  requestId : List Char
  completed : Option (ℕ × Response)
  leaseExpiresAt : Option ℕ
deriving DecidableEq

/-- The scope is the primary key. -/
abbrev Rows := Scope → Option Record

/-- An outcome row, with the scope whose execution recorded it. -/
structure Produced where
  producer : Scope
  outcome : FinancialOutcome
deriving DecidableEq

/-- `EXISTS (SELECT 1 FROM gasless_transaction_outcomes WHERE application_request_id = id)`. -/
def hasOutcome (outcomes : List Produced) (id : List Char) : Bool :=
  outcomes.any fun o => o.outcome.requestId = id

/-- `getFinancialOutcome`, which throws on more than one row. -/
def getFinancialOutcome (outcomes : List Produced) (id : List Char) :
    Except Unit (Option FinancialOutcome) :=
  match (outcomes.filter fun o => o.outcome.requestId = id).map Produced.outcome with
  | [] => .ok none
  | [o] => .ok (some o)
  | _ => .error ()

/-- The statements of the store that write `idempotency_keys`. -/
inductive Statement
  /-- The first statement of `createPending`. -/
  | insert (q : Request) (leaseExpiresAt : ℕ)
  /-- The second statement of `createPending`, at the time `now`. -/
  | reclaim (q : Request) (now leaseExpiresAt : ℕ)
  | renewLease (scope : Scope) (leaseOwnerRequestId : List Char) (leaseExpiresAt : ℕ)
  | complete (scope : Scope) (response : Response) (leaseOwnerRequestId : List Char) (now : ℕ)
  | releasePending (scope : Scope) (leaseOwnerRequestId : List Char)

def Statement.scope : Statement → Scope
  | insert q _ => q.scope
  | reclaim q _ _ => q.scope
  | renewLease scope _ _ => scope
  | complete scope _ _ _ => scope
  | releasePending scope _ => scope

/-- The row is the same request's. -/
def Record.sameRequest (r : Record) (q : Request) : Bool :=
  r.requestMethod = q.method && r.requestPath = q.path &&
    r.requestFingerprint = q.fingerprint sha256

/-- `request_id = owner AND completed_at IS NULL`. -/
def Record.ownedBy (r : Record) (owner : List Char) : Bool :=
  r.requestId = owner && r.completed.isNone

/-- The condition under which `createPending` takes over a reservation. -/
def Record.reclaimable (r : Record) (q : Request) (now : ℕ) (outcomes : List Produced) : Bool :=
  r.sameRequest sha256 q && r.completed.isNone && r.leaseExpiresAt.any (· ≤ now) &&
    !hasOutcome outcomes r.requestId

/-- What the statement does to the row of its scope; `none` if it affects no row. -/
def Statement.apply (outcomes : List Produced) : Statement → Option Record → Option (Option Record)
  | insert q expires, none => some (some
      { requestMethod := q.method
        requestPath := q.path
        requestFingerprint := q.fingerprint sha256
        requestId := q.requestId
        completed := none
        leaseExpiresAt := some expires })
  | reclaim q now expires, some r =>
    if r.reclaimable sha256 q now outcomes then
      some (some { r with requestId := q.requestId, leaseExpiresAt := some expires })
    else none
  | renewLease _ owner expires, some r =>
    if r.ownedBy owner then some (some { r with leaseExpiresAt := some expires }) else none
  | complete _ response owner now, some r =>
    if r.ownedBy owner then
      some (some { r with completed := some (now, response), leaseExpiresAt := none })
    else none
  | releasePending _ owner, some r =>
    if r.ownedBy owner && !hasOutcome outcomes r.requestId then some none else none
  | _, _ => none

/-! ### The middleware -/

inductive Answer
  /-- The scope is in use for a different request. -/
  | different
  | inProgress
  | replayed (response : Response)
  | recovered (response : Response)
  /-- The middleware threw. -/
  | failed
deriving DecidableEq

inductive Phase
  /-- About to insert, take over, or read the row of the scope. -/
  | inserting
  | reclaiming
  | reading
  /-- Found the reservation of `owner`. -/
  | consulting (owner : List Char)
  | recovering (owner : List Char) (outcome : FinancialOutcome)
  /-- Was given the reservation: its handler runs. -/
  | handling
  | answered (answer : Answer)
deriving DecidableEq

/-- The owner whose reservation a request found. -/
def Phase.owner : Phase → Option (List Char)
  | consulting owner => some owner
  | recovering owner _ => some owner
  | _ => none

structure Handler where
  request : Request
  phase : Phase
deriving DecidableEq

structure State where
  rows : Rows
  outcomes : List Produced
  requests : ℕ → Option Handler

def State.empty : State where
  rows := fun _ => none
  outcomes := []
  requests := fun _ => none

/-- An event is something one request does, numbered by `p`, or a move of the outcome ledger. -/
inductive Event
  | arrive (p : ℕ) (q : Request)
  /-- The next statement of the middleware. -/
  | step (p : ℕ) (now : ℕ)
  /-- Statements of a running handler: its timer, its finalizer. -/
  | renew (p : ℕ) (now : ℕ)
  | complete (p : ℕ) (now : ℕ) (response : Response)
  | release (p : ℕ)
  /-- The handler's execution records a prepared transaction under its request id. -/
  | prepare (p : ℕ) (transactionHash : List Char) (resourceType : ResourceType)
      (resourceId operation : List Char) (chainId : ℕ)
  /-- The ledger moves the outcome of a transaction. -/
  | settle (transactionHash : List Char) (status : OutcomeStatus)
deriving DecidableEq

variable (leaseDurationMs : ℕ)

/-- The request whose event it is. -/
def Event.actor : Event → Option ℕ
  | arrive p _ => some p
  | step p _ => some p
  | renew p _ => some p
  | complete p _ _ => some p
  | release p => some p
  | prepare p _ _ _ _ _ => some p
  | settle _ _ => none

/-- The statement that the event makes of a request, with the request's phase after it affected a
row and after it did not. -/
def Handler.statement (h : Handler) : Event → Option (Statement × Phase × Phase)
  | .step _ now =>
    match h.phase with
    | .inserting => some (.insert h.request (now + leaseDurationMs), .handling, .reclaiming)
    | .reclaiming => some (.reclaim h.request now (now + leaseDurationMs), .handling, .reading)
    | .recovering owner o =>
      let response := financialOutcomeResponse h.request o
      some (.complete h.request.scope response owner now, .answered (.recovered response),
        .answered .failed)
    | _ => none
  | .renew _ now =>
    if h.phase = .handling then
      some (.renewLease h.request.scope h.request.requestId (now + leaseDurationMs), .handling,
        .handling)
    else none
  | .complete _ now response =>
    if h.phase = .handling then
      some (.complete h.request.scope response h.request.requestId now, .handling, .handling)
    else none
  | .release _ =>
    if h.phase = .handling then
      some (.releasePending h.request.scope h.request.requestId, .handling, .handling)
    else none
  | _ => none

/-- What a request that only reads does next. -/
def State.consult (s : State) (h : Handler) : Phase :=
  match h.phase with
  | .reading =>
    match s.rows h.request.scope with
    | none => .answered .failed
    | some r =>
      if r.sameRequest sha256 h.request then
        match r.completed with
        | some (_, response) => .answered (.replayed response)
        | none => .consulting r.requestId
      else .answered .different
  | .consulting owner =>
    match getFinancialOutcome s.outcomes owner with
    | .error () => .answered .failed
    | .ok none => .answered .inProgress
    | .ok (some o) =>
      if isTerminalFinancialOutcome o then .recovering owner o
      else .answered (.recovered (financialOutcomeResponse h.request o))
  | phase => phase

def State.setPhase (s : State) (p : ℕ) (phase : Phase) : State :=
  { s with
    requests := Function.update s.requests p
      ((s.requests p).map fun h => { h with phase := phase }) }

def Produced.settle (transactionHash : List Char) (status : OutcomeStatus) (o : Produced) :
    Produced :=
  if o.outcome.transactionHash = transactionHash then
    { o with outcome := { o.outcome with outcomeStatus := status } }
  else o

/-- The row that a prepared transaction of the request is recorded as. -/
def Request.prepared (q : Request) (transactionHash : List Char) (resourceType : ResourceType)
    (resourceId operation : List Char) (chainId : ℕ) : Produced where
  producer := q.scope
  outcome :=
    { requestId := q.requestId
      transactionHash := transactionHash
      resourceType := resourceType
      resourceId := resourceId
      operation := operation
      chainId := chainId
      outcomeStatus := .broadcastPending }

/-- The event of the request `p`, which is `h`. -/
def State.act (s : State) (p : ℕ) (h : Handler) (e : Event) : State :=
  match h.statement leaseDurationMs e with
  | some (x, done, otherwise) =>
    match x.apply sha256 s.outcomes (s.rows x.scope) with
    | some row => { s with rows := Function.update s.rows x.scope row }.setPhase p done
    | none => s.setPhase p otherwise
  | none =>
    match e with
    | .step _ _ => s.setPhase p (s.consult sha256 h)
    | .prepare _ hash resourceType resourceId operation chainId =>
      if h.phase = .handling then
        { s with
          outcomes := s.outcomes ++
            [h.request.prepared hash resourceType resourceId operation chainId] }
      else s
    | _ => s

def next (s : State) (e : Event) : State :=
  match e with
  | .arrive p q =>
    if s.requests p = none then
      { s with requests := Function.update s.requests p (some ⟨q, .inserting⟩) }
    else s
  | .settle hash status => { s with outcomes := s.outcomes.map (Produced.settle hash status) }
  | e =>
    match e.actor with
    | some p =>
      match s.requests p with
      | some h => s.act sha256 leaseDurationMs p h e
      | none => s
    | none => s

def Step (s : State) (e : Event) (s' : State) : Prop := next sha256 leaseDurationMs s e = s'

def exec (s : State) (events : List Event) : State := events.foldl (next sha256 leaseDurationMs) s

/-! ### What an event does -/

variable {sha256 leaseDurationMs} {s s' : State} {e : Event} {p : ℕ} {h : Handler} {σ : Scope}

@[simp] theorem setPhase_rows (s : State) (p : ℕ) (phase : Phase) :
    (s.setPhase p phase).rows = s.rows := rfl

/-- An event is an arrival, a move of the ledger, an event of a request, or does nothing. -/
theorem Step.cases (hstep : Step sha256 leaseDurationMs s e s') :
    (∃ p q, e = .arrive p q ∧ s.requests p = none ∧
      s' = { s with requests := Function.update s.requests p (some ⟨q, .inserting⟩) }) ∨
    (∃ hash status, e = .settle hash status ∧
      s' = { s with outcomes := s.outcomes.map (Produced.settle hash status) }) ∨
    (∃ p h, e.actor = some p ∧ s.requests p = some h ∧ s' = s.act sha256 leaseDurationMs p h e) ∨
    s' = s := by
  subst hstep
  cases e with
  | arrive p q =>
    by_cases hnone : s.requests p = none
    · exact Or.inl ⟨p, q, rfl, hnone, if_pos hnone⟩
    · exact Or.inr (Or.inr (Or.inr (if_neg hnone)))
  | settle hash status => exact Or.inr (Or.inl ⟨hash, status, rfl, rfl⟩)
  | step p | renew p | complete p | release p | prepare p =>
    right
    right
    cases hp : s.requests p with
    | none =>
      simp [next, Event.actor, hp]
    | some h =>
      left
      refine ⟨p, h, rfl, hp, ?_⟩
      simp [next, Event.actor, hp]

theorem next_of_some (hactor : e.actor = some p) (hp : s.requests p = some h) :
    next sha256 leaseDurationMs s e = s.act sha256 leaseDurationMs p h e := by
  cases e with
  | arrive =>
    cases hactor
    simp [next, State.act, Handler.statement, hp]
  | settle => cases hactor
  | step | renew | complete | release | prepare =>
    cases hactor
    simp [next, Event.actor, hp]

variable (sha256 leaseDurationMs) in
/-- The event makes the statement `x`, which affects the row of its scope and leaves it as `row`. -/
def Affects (s : State) (e : Event) (x : Statement) (row : Option Record) : Prop :=
  ∃ p h done otherwise, e.actor = some p ∧ s.requests p = some h ∧
    h.statement leaseDurationMs e = some (x, done, otherwise) ∧
    x.apply sha256 s.outcomes (s.rows x.scope) = some row

theorem act_rows (hp : s.requests p = some h) (hactor : e.actor = some p) (σ : Scope) :
    (s.act sha256 leaseDurationMs p h e).rows σ = s.rows σ ∨
      ∃ x row, Affects sha256 leaseDurationMs s e x row ∧ x.scope = σ ∧
        (s.act sha256 leaseDurationMs p h e).rows σ = row := by
  unfold State.act
  split
  · next x done otherwise hx =>
    split
    · next row hrow =>
      by_cases hσ : x.scope = σ
      · right
        refine ⟨x, row, ⟨p, h, done, otherwise, hactor, hp, hx, hrow⟩, hσ, ?_⟩
        rw [setPhase_rows, ← hσ]
        exact Function.update_self ..
      · left
        exact Function.update_of_ne (Ne.symm hσ) ..
    · exact Or.inl rfl
  · left
    split
    · rfl
    · split_ifs <;> rfl
    · rfl

/-- An event changes the row of a scope only by a statement on that scope. -/
theorem Step.row_cases (hstep : Step sha256 leaseDurationMs s e s') (σ : Scope) :
    s'.rows σ = s.rows σ ∨
      ∃ x row, Affects sha256 leaseDurationMs s e x row ∧ x.scope = σ ∧ s'.rows σ = row := by
  rcases hstep.cases with ⟨p, q, -, -, rfl⟩ | ⟨hash, status, -, rfl⟩ | ⟨p, h, hactor, hp, rfl⟩ | rfl
  · exact Or.inl rfl
  · exact Or.inl rfl
  · exact act_rows hp hactor σ
  · exact Or.inl rfl

/-- Outcome rows are appended, and only their status changes. -/
theorem Step.outcomes_cases (hstep : Step sha256 leaseDurationMs s e s') :
    (∃ new, s'.outcomes = s.outcomes ++ new) ∨
      ∃ hash status, s'.outcomes = s.outcomes.map (Produced.settle hash status) := by
  have hsame : ∃ new, s.outcomes = s.outcomes ++ new := ⟨[], (List.append_nil _).symm⟩
  rcases hstep.cases with ⟨p, q, -, -, rfl⟩ | ⟨hash, status, -, rfl⟩ | ⟨p, h, -, -, rfl⟩ | rfl
  · exact Or.inl hsame
  · exact Or.inr ⟨hash, status, rfl⟩
  · left
    unfold State.act
    split
    · split <;> exact hsame
    · split
      · exact hsame
      · split_ifs
        · exact ⟨_, rfl⟩
        · exact hsame
      · exact hsame
  · exact Or.inl hsame

theorem settle_requestId (hash : List Char) (status : OutcomeStatus) (o : Produced) :
    (o.settle hash status).outcome.requestId = o.outcome.requestId := by
  unfold Produced.settle
  split_ifs <;> rfl

theorem Step.hasOutcome (hstep : Step sha256 leaseDurationMs s e s') {id : List Char}
    (hout : hasOutcome s.outcomes id = true) : hasOutcome s'.outcomes id = true := by
  unfold Idempotency.hasOutcome at *
  rcases hstep.outcomes_cases with ⟨new, hnew⟩ | ⟨hash, status, hsettled⟩
  · rw [hnew, List.any_append, hout, Bool.true_or]
  · rw [hsettled, List.any_map, ← hout]
    congr 1
    funext o
    exact congrArg (fun i => decide (i = id)) (settle_requestId hash status o)

theorem statement_scope {x : Statement} {done otherwise : Phase}
    (hx : h.statement leaseDurationMs e = some (x, done, otherwise)) :
    x.scope = h.request.scope ∧ done.owner = none ∧ otherwise.owner = none := by
  unfold Handler.statement at hx
  split at hx
  · split at hx <;> cases hx <;> exact ⟨rfl, rfl, rfl⟩
  all_goals
    first
    | split_ifs at hx
      cases hx
      exact ⟨rfl, rfl, rfl⟩
    | cases hx

/-- A running handler only makes statements that leave it running. -/
theorem statement_handling {x : Statement} {done otherwise : Phase} (hh : h.phase = .handling)
    (hx : h.statement leaseDurationMs e = some (x, done, otherwise)) :
    done = .handling ∧ otherwise = .handling := by
  unfold Handler.statement at hx
  split at hx
  · rw [hh] at hx
    cases hx
  · rw [if_pos hh] at hx
    cases hx
    exact ⟨rfl, rfl⟩
  · rw [if_pos hh] at hx
    cases hx
    exact ⟨rfl, rfl⟩
  · rw [if_pos hh] at hx
    cases hx
    exact ⟨rfl, rfl⟩
  · cases hx

/-- A reading request goes on with the owner that it found, or that is in its row. -/
theorem consult_owner {owner : List Char} (hc : (s.consult sha256 h).owner = some owner) :
    h.phase.owner = some owner ∨
      ∃ r, s.rows h.request.scope = some r ∧ r.requestId = owner := by
  unfold State.consult at hc
  split at hc
  · split at hc
    · cases hc
    · next r hr =>
      split_ifs at hc
      · split at hc
        · cases hc
        · cases hc
          exact Or.inr ⟨r, hr, rfl⟩
      · cases hc
  · next found hphase =>
    rw [hphase]
    split at hc
    · cases hc
    · cases hc
    · split_ifs at hc
      · exact Or.inl hc
      · cases hc
  · exact Or.inl hc

variable (sha256 leaseDurationMs e) in
/-- An event of a request changes its phase only: a running handler keeps running, and a reading
request knows the owner in its row. -/
theorem act_requests (hp : s.requests p = some h) :
    ∃ phase, (s.act sha256 leaseDurationMs p h e).requests =
        Function.update s.requests p (some ⟨h.request, phase⟩) ∧
      (h.phase = .handling → phase = .handling) ∧
      ∀ owner, phase.owner = some owner → h.phase.owner = some owner ∨
        ∃ r, s.rows h.request.scope = some r ∧ r.requestId = owner := by
  have hset : ∀ (t : State) phase, t.requests = s.requests →
      (t.setPhase p phase).requests = Function.update s.requests p (some ⟨h.request, phase⟩) := by
    intro t phase ht
    simp only [State.setPhase, ht, hp, Option.map_some]
  have hsame : s.requests = Function.update s.requests p (some h) := by
    rw [← hp, Function.update_eq_self]
  unfold State.act
  split
  · next x done otherwise hx =>
    obtain ⟨-, hdone, hotherwise⟩ := statement_scope hx
    split
    · refine ⟨done, hset _ done rfl, fun hh => (statement_handling hh hx).1, fun owner ho => ?_⟩
      rw [hdone] at ho
      cases ho
    · refine ⟨otherwise, hset s otherwise rfl, fun hh => (statement_handling hh hx).2,
        fun owner ho => ?_⟩
      rw [hotherwise] at ho
      cases ho
  · split
    · refine ⟨_, hset s _ rfl, fun hh => ?_, fun owner => consult_owner⟩
      rw [State.consult, hh]
    · split_ifs <;> exact ⟨h.phase, hsame, id, fun owner => Or.inl⟩
    · exact ⟨h.phase, hsame, id, fun owner => Or.inl⟩

theorem Step.request_kept (hstep : Step sha256 leaseDurationMs s e s')
    (hp : s.requests p = some h) : ∃ phase, s'.requests p = some ⟨h.request, phase⟩ ∧
      (h.phase = .handling → phase = .handling) := by
  rcases hstep.cases with ⟨p', q, -, hnone, rfl⟩ | ⟨hash, status, -, rfl⟩ |
      ⟨p', h', -, hp', rfl⟩ | rfl
  · have hne : p ≠ p' := by
      rintro rfl
      rw [hp] at hnone
      cases hnone
    exact ⟨h.phase, (Function.update_of_ne hne ..).trans hp, id⟩
  · exact ⟨h.phase, hp, id⟩
  · obtain ⟨phase, hrequests, hphase, -⟩ := act_requests sha256 leaseDurationMs e hp'
    rw [hrequests]
    by_cases hpp : p = p'
    · subst hpp
      rw [hp] at hp'
      cases hp'
      exact ⟨phase, Function.update_self .., hphase⟩
    · exact ⟨h.phase, (Function.update_of_ne hpp ..).trans hp, id⟩
  · exact ⟨h.phase, hp, id⟩

/-- The requests that are served are those that arrived. -/
def Arrived (tr : List (Transition State Event)) (s : State) : Prop :=
  ∀ p h, s.requests p = some h → ∃ t ∈ tr, t.label = .arrive p h.request

theorem arrived_empty : Arrived [] State.empty := by
  intro p h hp
  cases hp

theorem Step.arrived {tr : List (Transition State Event)}
    (hstep : Step sha256 leaseDurationMs s e s') (ht : Arrived tr s) :
    Arrived (tr ++ [⟨s, e, s'⟩]) s' := by
  have hold : ∀ p (h h' : Handler), s.requests p = some h → h'.request = h.request →
      ∃ t ∈ tr ++ [⟨s, e, s'⟩], t.label = .arrive p h'.request := by
    intro p h h' hp heq
    obtain ⟨t, hmem, hlabel⟩ := ht p h hp
    exact ⟨t, List.mem_append_left _ hmem, by rw [hlabel, heq]⟩
  intro p h hp
  rcases hstep.cases with ⟨p', q, rfl, hnone, rfl⟩ | ⟨hash, status, -, rfl⟩ |
      ⟨p', h', -, hp', rfl⟩ | rfl
  · dsimp only at hp
    rw [Function.update_apply] at hp
    split_ifs at hp with hpp
    · subst hpp
      cases hp
      exact ⟨_, List.mem_append_right _ (List.mem_singleton_self _), rfl⟩
    · exact hold p h h hp rfl
  · exact hold p h h hp rfl
  · obtain ⟨phase, hrequests, -, -⟩ := act_requests sha256 leaseDurationMs e hp'
    rw [hrequests] at hp
    rw [Function.update_apply] at hp
    split_ifs at hp with hpp
    · subst hpp
      cases hp
      exact hold p h' _ hp' rfl
    · exact hold p h h hp rfl
  · exact hold p h h hp rfl

/-! ### What a statement does to the row -/

variable {outcomes : List Produced} {r : Record} {row : Option Record} {x : Statement}

variable (sha256 outcomes) in
/-- What the statements do to a row that exists. -/
inductive Changes (r : Record) : Statement → Option Record → Prop
  | reclaim {q : Request} {now expires : ℕ} (h : r.reclaimable sha256 q now outcomes = true) :
      Changes r (.reclaim q now expires)
        (some { r with requestId := q.requestId, leaseExpiresAt := some expires })
  | renewLease {σ : Scope} {owner : List Char} {expires : ℕ} (h : r.ownedBy owner = true) :
      Changes r (.renewLease σ owner expires) (some { r with leaseExpiresAt := some expires })
  | complete {σ : Scope} {response : Response} {owner : List Char} {now : ℕ}
      (h : r.ownedBy owner = true) :
      Changes r (.complete σ response owner now)
        (some { r with completed := some (now, response), leaseExpiresAt := none })
  | releasePending {σ : Scope} {owner : List Char} (h : r.ownedBy owner = true)
      (hout : hasOutcome outcomes r.requestId = false) : Changes r (.releasePending σ owner) none

theorem changes_of_apply (h : x.apply sha256 outcomes (some r) = some row) :
    Changes sha256 outcomes r x row := by
  cases x with
  | insert => cases h
  | reclaim =>
    simp only [Statement.apply] at h
    split_ifs at h with hcond
    cases h
    exact .reclaim hcond
  | renewLease =>
    simp only [Statement.apply] at h
    split_ifs at h with hcond
    cases h
    exact .renewLease hcond
  | complete =>
    simp only [Statement.apply] at h
    split_ifs at h with hcond
    cases h
    exact .complete hcond
  | releasePending =>
    simp only [Statement.apply] at h
    split_ifs at h with hcond
    cases h
    rw [Bool.and_eq_true, Bool.not_eq_true'] at hcond
    exact .releasePending hcond.1 hcond.2

theorem reclaimable_iff {q : Request} {now : ℕ} :
    r.reclaimable sha256 q now outcomes = true ↔
      (r.sameRequest sha256 q = true ∧ r.completed = none ∧ r.leaseExpiresAt.any (· ≤ now) = true ∧
        hasOutcome outcomes r.requestId = false) := by
  rw [Record.reclaimable, Bool.and_eq_true, Bool.and_eq_true, Bool.and_eq_true,
    Option.isNone_iff_eq_none, Bool.not_eq_true', and_assoc, and_assoc]

theorem ownedBy_iff {owner : List Char} :
    r.ownedBy owner = true ↔ (r.requestId = owner ∧ r.completed = none) := by
  rw [Record.ownedBy, Bool.and_eq_true, decide_eq_true_eq, Option.isNone_iff_eq_none]

/-- No statement touches a completed row. -/
theorem Changes.pending (h : Changes sha256 outcomes r x row) : r.completed = none := by
  cases h with
  | reclaim h => exact (reclaimable_iff.mp h).2.1
  | renewLease h | complete h | releasePending h => exact (ownedBy_iff.mp h).2

/-- A row whose owner has recorded an outcome is neither taken over nor deleted. -/
theorem Changes.recorded (h : Changes sha256 outcomes r x row)
    (hout : hasOutcome outcomes r.requestId = true) :
    ∃ r', row = some r' ∧ r'.requestId = r.requestId := by
  cases h with
  | reclaim h =>
    have hnot := (reclaimable_iff.mp h).2.2.2
    rw [hout] at hnot
    cases hnot
  | renewLease | complete => exact ⟨_, rfl, rfl⟩
  | releasePending _ hnot =>
    rw [hout] at hnot
    cases hnot

/-- What the event leaves in the row is what its statement leaves there. -/
theorem Affects.row_eq (ha : Affects sha256 leaseDurationMs s e x row)
    (hstep : Step sha256 leaseDurationMs s e s') : s'.rows x.scope = row := by
  obtain ⟨p, h, done, otherwise, hactor, hp, hx, hrow⟩ := ha
  rw [← hstep, next_of_some hactor hp]
  simp only [State.act, hx, hrow, setPhase_rows, Function.update_self]

/-! ### The reservation is safe -/

/-- Arrivals of requests with the same request id. -/
def Event.sharesId : Event → Event → Bool
  | arrive _ q, arrive _ q' => q.requestId = q'.requestId
  | _, _ => false

/-- Different requests carry different request ids. -/
def DistinctIds (events : List Event) : Prop :=
  ∀ e ∈ events, ∀ e' ∈ events, e.sharesId e' = true → e.actor = e'.actor

instance (events : List Event) : Decidable (DistinctIds events) :=
  inferInstanceAs (Decidable (∀ e ∈ events, _))

variable (sha256 leaseDurationMs)

/-- The transition completes the reservation of `σ`. -/
def Completes (t : Transition State Event) (σ : Scope) : Prop :=
  ∃ response owner now row,
    Affects sha256 leaseDurationMs t.source t.label (.complete σ response owner now) row

/-- The transition takes over the reservation of `σ`. -/
def Reclaims (t : Transition State Event) (σ : Scope) : Prop :=
  ∃ q now expires row, q.scope = σ ∧
    Affects sha256 leaseDurationMs t.source t.label (.reclaim q now expires) row

/-- The transition gives the request `q` the reservation of its scope. -/
def Grants (t : Transition State Event) (q : Request) : Prop :=
  ∃ x row, Affects sha256 leaseDurationMs t.source t.label x row ∧
    ((∃ expires, x = .insert q expires) ∨ ∃ now expires, x = .reclaim q now expires)

/-- The handler of the request `p` runs and its request id is in the row of `σ`. -/
def Owns (s : State) (p : ℕ) (σ : Scope) : Prop :=
  ∃ h r, s.requests p = some h ∧ h.phase = .handling ∧ h.request.scope = σ ∧
    s.rows σ = some r ∧ r.requestId = h.request.requestId

/-- A call of the handler `p` of its reservation. -/
def Event.IsCallOf (e : Event) (p : ℕ) : Prop :=
  (∃ now, e = .renew p now) ∨ (∃ now response, e = .complete p now response) ∨ e = .release p

/-- What the reservation of the scope `σ` guarantees over the transitions `tr`, which lead to
`s`. -/
structure ReservationSafe (σ : Scope) (tr : List (Transition State Event)) (s : State) : Prop where
  /-- At most one completion succeeds: a completed row is never deleted either. -/
  completes_once : ∀ (i j : ℕ) t t', tr[i]? = some t → tr[j]? = some t' →
    Completes sha256 leaseDurationMs t σ → Completes sha256 leaseDurationMs t' σ → i = j
  /-- A completed row stays what it is. -/
  completed_kept : ∀ t ∈ tr, ∀ r, t.source.rows σ = some r → r.completed ≠ none →
    s.rows σ = some r
  /-- A handler whose row was taken over can neither renew, complete nor release it. -/
  fenced : ∀ (i j : ℕ) t t' p, tr[i]? = some t → tr[j]? = some t' → i < j → Owns t.source p σ →
    Reclaims sha256 leaseDurationMs t σ → t'.label.IsCallOf p → t'.target.rows = t'.source.rows
  /-- The reservation goes to no other request while there is a row. -/
  granted : ∀ t ∈ tr, ∀ q r, Grants sha256 leaseDurationMs t q → q.scope = σ →
    t.source.rows σ = some r → r.requestMethod = q.method ∧ r.requestPath = q.path ∧
      r.requestFingerprint = q.fingerprint sha256
  /-- An outcome of the owner keeps the row with its owner. -/
  recorded : ∀ t ∈ tr, ∀ r, t.source.rows σ = some r →
    hasOutcome t.source.outcomes r.requestId = true →
    ∃ r', s.rows σ = some r' ∧ r'.requestId = r.requestId

variable {sha256 leaseDurationMs}

theorem Step.completed_kept (hstep : Step sha256 leaseDurationMs s e s')
    (hr : s.rows σ = some r) (hcompleted : r.completed ≠ none) : s'.rows σ = some r := by
  rcases hstep.row_cases σ with hsame | ⟨x, row, ⟨p, h, done, otherwise, -, -, -, hrow⟩, rfl, -⟩
  · rw [hsame, hr]
  · rw [hr] at hrow
    exact absurd (changes_of_apply hrow).pending hcompleted

theorem Step.recorded (hstep : Step sha256 leaseDurationMs s e s') (hr : s.rows σ = some r)
    (hout : Idempotency.hasOutcome s.outcomes r.requestId = true) :
    ∃ r', s'.rows σ = some r' ∧ r'.requestId = r.requestId := by
  rcases hstep.row_cases σ with hsame | ⟨x, row, ⟨p, h, done, otherwise, -, -, -, hrow⟩, rfl, hs'⟩
  · exact ⟨r, hsame.trans hr, rfl⟩
  · rw [hr] at hrow
    rw [hs']
    exact (changes_of_apply hrow).recorded hout

/-- Only a request that does not run yet is given a reservation. -/
theorem statement_grants {done otherwise : Phase} {q : Request}
    (hx : h.statement leaseDurationMs e = some (x, done, otherwise))
    (hq : (∃ expires, x = .insert q expires) ∨ ∃ now expires, x = .reclaim q now expires) :
    q = h.request ∧ h.phase ≠ .handling := by
  have hphase : h.phase ≠ .handling := by
    intro hh
    unfold Handler.statement at hx
    split at hx
    · rw [hh] at hx
      cases hx
    all_goals
      first
      | rw [if_pos hh] at hx
        cases hx
        rcases hq with ⟨_, hq⟩ | ⟨_, _, hq⟩ <;> cases hq
      | cases hx
  refine ⟨?_, hphase⟩
  unfold Handler.statement at hx
  split at hx
  · split at hx
    · cases hx
      rcases hq with ⟨_, hq⟩ | ⟨_, _, hq⟩ <;> cases hq
      rfl
    · cases hx
      rcases hq with ⟨_, hq⟩ | ⟨_, _, hq⟩ <;> cases hq
      rfl
    · cases hx
      rcases hq with ⟨_, hq⟩ | ⟨_, _, hq⟩ <;> cases hq
    · cases hx
  all_goals
    first
    | rw [if_neg hphase] at hx
      cases hx
    | cases hx

/-- The requests that are served carry different request ids. -/
def UniqueIds (s : State) : Prop :=
  ∀ p h p' h', s.requests p = some h → s.requests p' = some h' →
    h.request.requestId = h'.request.requestId → p = p'

theorem DistinctIds.uniqueIds {tr : List (Transition State Event)} {events : List Event}
    (hids : DistinctIds events) (ha : Arrived tr s) (hsub : ∀ t ∈ tr, t.label ∈ events) :
    UniqueIds s := by
  intro p h p' h' hp hp' heq
  obtain ⟨t, ht, hlabel⟩ := ha p h hp
  obtain ⟨t', ht', hlabel'⟩ := ha p' h' hp'
  have hactor := hids t.label (hsub t ht) t'.label (hsub t' ht')
  rw [hlabel, hlabel'] at hactor
  exact Option.some.inj (hactor (decide_eq_true heq))

/-- The handler `p` runs, but the reservation of `σ` is not its own. -/
def Lost (p : ℕ) (h : Handler) (s : State) : Prop :=
  s.requests p = some h ∧ h.phase = .handling ∧
    ∀ r, s.rows h.request.scope = some r → r.requestId ≠ h.request.requestId

/-- A statement brings a request id into a row only for the request that makes it. -/
theorem Affects.requestId (ha : Affects sha256 leaseDurationMs s e x (some r)) :
    (∃ r', s.rows x.scope = some r' ∧ r'.requestId = r.requestId) ∨
      ∃ p h, s.requests p = some h ∧ h.phase ≠ .handling ∧ h.request.scope = x.scope ∧
        h.request.requestId = r.requestId := by
  obtain ⟨p, h, done, otherwise, -, hp, hx, hrow⟩ := ha
  cases hold : s.rows x.scope with
  | none =>
    rw [hold] at hrow
    cases x with
    | insert q expires =>
      right
      obtain ⟨rfl, hphase⟩ := statement_grants hx (Or.inl ⟨expires, rfl⟩)
      refine ⟨p, h, hp, hphase, rfl, ?_⟩
      cases hrow
      rfl
    | reclaim | renewLease | complete | releasePending => cases hrow
  | some r' =>
    rw [hold] at hrow
    cases changes_of_apply hrow with
    | @reclaim _ now expires =>
      right
      obtain ⟨rfl, hphase⟩ := statement_grants hx (Or.inr ⟨now, expires, rfl⟩)
      exact ⟨p, h, hp, hphase, rfl, rfl⟩
    | renewLease | complete => exact Or.inl ⟨r', rfl, rfl⟩

/-- A handler that lost its reservation does not get it back. -/
theorem Lost.step (hids : UniqueIds s) (hlost : Lost p h s)
    (hstep : Step sha256 leaseDurationMs s e s') : Lost p h s' := by
  obtain ⟨hp, hphase, hrow⟩ := hlost
  obtain ⟨phase, hp', hkeeps⟩ := hstep.request_kept hp
  have hsame : (⟨h.request, phase⟩ : Handler) = h := by
    rw [hkeeps hphase, ← hphase]
  rw [hsame] at hp'
  refine ⟨hp', hphase, fun r hr => ?_⟩
  rcases hstep.row_cases h.request.scope with hrows | ⟨x, row, ha, hscope, hrows⟩
  · exact hrow r (hrows ▸ hr)
  · rw [hr] at hrows
    subst hrows
    rcases ha.requestId with ⟨r', hr', heq⟩ | ⟨p', h', hp'', hother, -, heq⟩
    · rw [← heq]
      exact hrow r' (hscope ▸ hr')
    · -- the request that brought its id in is not the handler, which already runs
      intro hid
      have hpp : p' = p := hids p' h' p h hp'' hp (heq.trans hid)
      subst hpp
      rw [hp] at hp''
      cases hp''
      exact hother hphase

variable (sha256 outcomes) in
/-- A call of a handler is on the scope of its request, and affects only a row with its id. -/
theorem statement_call {done otherwise : Phase} (hcall : e.IsCallOf p)
    (hphase : h.phase = .handling)
    (hx : h.statement leaseDurationMs e = some (x, done, otherwise)) :
    x.scope = h.request.scope ∧ ∀ row row', x.apply sha256 outcomes row = some row' →
      ∃ r, row = some r ∧ r.requestId = h.request.requestId := by
  rcases hcall with ⟨now, rfl⟩ | ⟨now, response, rfl⟩ | rfl
  all_goals
    simp only [Handler.statement, if_pos hphase, Option.some.injEq, Prod.mk.injEq] at hx
    obtain ⟨rfl, -, -⟩ := hx
    refine ⟨rfl, fun row row' hrow => ?_⟩
    cases row with
    | none => cases hrow
    | some r =>
      cases changes_of_apply hrow
      next hcond => exact ⟨r, rfl, (ownedBy_iff.mp hcond).1⟩

/-- The calls of a handler that lost its reservation affect no row. -/
theorem Lost.call (hlost : Lost p h s) (hcall : e.IsCallOf p)
    (hstep : Step sha256 leaseDurationMs s e s') : s'.rows = s.rows := by
  obtain ⟨hp, hphase, hrow⟩ := hlost
  have hactor : e.actor = some p := by
    rcases hcall with ⟨_, rfl⟩ | ⟨_, _, rfl⟩ | rfl <;> rfl
  funext σ
  rcases hstep.row_cases σ with hsame |
      ⟨x, row, ⟨p', h', done, otherwise, hactor', hp', hx, hr⟩, rfl, -⟩
  · exact hsame
  · rw [hactor] at hactor'
    cases hactor'
    rw [hp] at hp'
    cases hp'
    obtain ⟨hscope, howned⟩ := statement_call sha256 s.outcomes hcall hphase hx
    obtain ⟨r, hr', hid⟩ := howned _ _ hr
    exact absurd hid (hrow r (hscope ▸ hr'))

theorem Owns.lost_of_reclaims {t : Transition State Event} (hids : UniqueIds t.source)
    (hown : Owns t.source p σ) (hstep : Step sha256 leaseDurationMs t.source t.label t.target)
    (hreclaims : Reclaims sha256 leaseDurationMs t σ) :
    ∃ h, h.request.scope = σ ∧ Lost p h t.target := by
  obtain ⟨h, r, hp, hphase, hscope, hr, hid⟩ := hown
  obtain ⟨q, now, expires, row, hq, ha⟩ := hreclaims
  have hrow := ha.row_eq hstep
  obtain ⟨p', h', done, otherwise, -, hp', hx, happly⟩ := ha
  obtain ⟨rfl, hother⟩ := statement_grants hx (Or.inr ⟨now, expires, rfl⟩)
  obtain ⟨phase, hkept, hkeeps⟩ := hstep.request_kept hp
  have hsame : (⟨h.request, phase⟩ : Handler) = h := by
    rw [hkeeps hphase, ← hphase]
  rw [hsame] at hkept
  refine ⟨h, hscope, hkept, hphase, fun r' hr' heq => ?_⟩
  rw [Statement.scope, hq, hr] at happly
  rw [hscope, ← hq] at hr'
  rw [Statement.scope, hr'] at hrow
  cases changes_of_apply happly
  cases hrow
  -- the row now carries the id of the request that took it over
  have hpp : p' = p := hids p' h' p h hp' hp heq
  subst hpp
  rw [hp] at hp'
  cases hp'
  exact hother hphase

variable {tr : List (Transition State Event)}

theorem uniqueIds_of_run (hrun : Run (Step sha256 leaseDurationMs) State.empty tr s)
    (hids : DistinctIds (tr.map Transition.label)) : ∀ t ∈ tr, UniqueIds t.source := by
  intro t ht
  obtain ⟨pre, post, rfl, hpre, -, -⟩ := hrun.split ht
  refine hids.uniqueIds ?_ fun u hu => List.mem_map_of_mem (List.mem_append_left _ hu)
  exact Run.history (I := Arrived) arrived_empty (fun tr s' l s'' _ ha hstep => hstep.arrived ha)
    hpre

theorem completed_of_completes {t : Transition State Event}
    (hstep : Step sha256 leaseDurationMs t.source t.label t.target)
    (hc : Completes sha256 leaseDurationMs t σ) :
    (∃ r, t.source.rows σ = some r ∧ r.completed = none) ∧
      ∃ r, t.target.rows σ = some r ∧ r.completed ≠ none := by
  obtain ⟨response, owner, now, row, ha⟩ := hc
  have hrow := ha.row_eq hstep
  obtain ⟨p, h, done, otherwise, -, -, -, happly⟩ := ha
  rw [Statement.scope] at happly hrow
  cases hold : t.source.rows σ with
  | none =>
    rw [hold] at happly
    cases happly
  | some r =>
    rw [hold] at happly
    have hchanges := changes_of_apply happly
    refine ⟨⟨r, rfl, hchanges.pending⟩, ?_⟩
    cases hchanges
    exact ⟨_, hrow, nofun⟩

theorem completes_once_of_lt (hrun : Run (Step sha256 leaseDurationMs) State.empty tr s)
    {i j : ℕ} {t t' : Transition State Event} (hi : tr[i]? = some t) (hj : tr[j]? = some t')
    (hc : Completes sha256 leaseDurationMs t σ) (hc' : Completes sha256 leaseDurationMs t' σ) :
    ¬ i < j := by
  intro hij
  obtain ⟨-, r, hr, hcompleted⟩ := completed_of_completes (hrun.cut hi).2.1 hc
  obtain ⟨⟨r', hr', hpending⟩, -⟩ := completed_of_completes (hrun.cut hj).2.1 hc'
  obtain ⟨mid, hmid, -⟩ := hrun.between hi hj hij
  have hkept := Run.invariant (I := fun s => s.rows σ = some r)
    (fun _ _ _ hr hstep => hstep.completed_kept hr hcompleted) hmid hr
  rw [hr'] at hkept
  cases hkept
  exact hcompleted hpending

/-- **Idempotency reservations are safe.**  In every interleaving of any number of handlers with
pairwise different request ids, with leases running out at any time: at most one completion of a
scope succeeds, a completed row stays, a handler whose row was taken over is fenced off, the
reservation goes to no different request while a row exists, and an outcome recorded for the owner
keeps the row with its owner. -/
theorem reservation_safe (hrun : Run (Step sha256 leaseDurationMs) State.empty tr s)
    (hids : DistinctIds (tr.map Transition.label)) (σ : Scope) :
    ReservationSafe sha256 leaseDurationMs σ tr s where
  completes_once := by
    intro i j t t' hi hj hc hc'
    have hle := completes_once_of_lt hrun hi hj hc hc'
    have hge := completes_once_of_lt hrun hj hi hc' hc
    omega
  completed_kept := by
    intro t ht r hr hcompleted
    obtain ⟨post, hpost, -⟩ := hrun.after ht
    exact Run.invariant (I := fun s => s.rows σ = some r)
      (fun _ _ _ hr hstep => hstep.completed_kept hr hcompleted) hpost hr
  fenced := by
    intro i j t t' p hi hj hij hown hreclaims hcall
    have hunique := uniqueIds_of_run hrun hids
    obtain ⟨h, -, hlost⟩ := hown.lost_of_reclaims (hunique t (List.mem_of_getElem? hi))
      (hrun.cut hi).2.1 hreclaims
    obtain ⟨mid, hmid, hsub⟩ := hrun.between hi hj hij
    have hstill := Run.invariant_of (I := Lost p h) (C := fun t => UniqueIds t.source)
      (fun _ _ _ hu hl hstep => hl.step hu hstep) hmid (fun u hu => hunique u (hsub u hu)) hlost
    exact hstill.call hcall (hrun.cut hj).2.1
  granted := by
    intro t ht q r hgrants hq hr
    obtain ⟨x, row, ⟨p, h, done, otherwise, -, -, -, happly⟩, hx⟩ := hgrants
    rcases hx with ⟨expires, rfl⟩ | ⟨now, expires, rfl⟩
    · rw [Statement.scope, hq, hr] at happly
      cases happly
    · rw [Statement.scope, hq, hr] at happly
      cases changes_of_apply happly with
      | reclaim hcond =>
        have hsame := (reclaimable_iff.mp hcond).1
        rw [Record.sameRequest, Bool.and_eq_true, Bool.and_eq_true] at hsame
        exact ⟨of_decide_eq_true hsame.1.1, of_decide_eq_true hsame.1.2, of_decide_eq_true hsame.2⟩
  recorded := by
    intro t ht r hr hout
    obtain ⟨post, hpost, -⟩ := hrun.after ht
    have hinv := Run.invariant
      (I := fun s => (∃ r', s.rows σ = some r' ∧ r'.requestId = r.requestId) ∧
        hasOutcome s.outcomes r.requestId = true) ?_ hpost ⟨⟨r, hr, rfl⟩, hout⟩
    · exact hinv.1
    · rintro s e s' ⟨⟨r', hr', hid⟩, hout⟩ hstep
      refine ⟨?_, hstep.hasOutcome hout⟩
      obtain ⟨r'', hr'', hid'⟩ := hstep.recorded hr' (by rwa [hid])
      exact ⟨r'', hr'', hid'.trans hid⟩

/-! ### A reservation that is taken over -/

def sampleHash (text : List Char) : List Char := text

def sampleScope : Scope :=
  ⟨Text.lit "service:key-1", Text.lit "/settlement/handoffs", Text.lit "order-7"⟩

/-- A request of the sample scope with the `x-request-id` header `id`. -/
def sampleRequest (id : String) : Request where
  scope := sampleScope
  method := Text.lit "POST"
  path := Text.lit "/settlement/handoffs"
  rawBody := Text.lit "[]"
  header := some (Text.lit id)
  uuid := []

def sampleResponse : Response where
  status := 201
  contentType := some (Text.lit "application/json")
  body := .json (Text.lit "[]")

/-- The second request takes over the reservation of the first, whose lease ran out; the first
then tries to complete. -/
def takeover : List Event :=
  [.arrive 0 (sampleRequest "request-1"), .step 0 0, .arrive 1 (sampleRequest "request-2"),
    .step 1 2000, .step 1 2000, .complete 0 2001 sampleResponse, .complete 1 2002 sampleResponse]

theorem reservation_safe_takeover :
    ReservationSafe sampleHash 1000 sampleScope (trace (next sampleHash 1000) State.empty takeover)
      (exec sampleHash 1000 State.empty takeover) ∧
    ((exec sampleHash 1000 State.empty takeover).rows sampleScope).map Record.completed =
      some (some (2002, sampleResponse)) := by
  refine ⟨reservation_safe (run_trace _ _ _) ?_ _, by decide +kernel⟩
  decide +kernel

end Cotsel.Gateway.Idempotency
