import Cotsel.Gateway.CreateTradeFailure

/-!
# One handoff, one transaction

Two requests for one handoff walk through `accepted` and `queued` together, because the state
machine takes every event that restates the status.  The broadcast lock only orders what they do
next: each of them prepares and sends a transaction of its own.  Which of the two decides the status
of the handoff is then a matter of timing (`two_transactions`).

The ledger has one row for a request, an operation and a resource.  So as long as the handoff is
accepted for one request id only, it has at most one transaction, and its status is that of the
transaction: a process that records `reverted` has seen a row of the handoff and a final receipt of
its transaction that shows the failure (`Knowledge.Proves`).
-/

namespace Cotsel.Gateway.Gasless

open Interaction Settlement Runs

variable (d : Deployment) (handoffId : ℕ)

/-! ### What a process knows of the handoff -/

/-- What the call of a process has been told about the handoff. -/
structure Knowledge where
  /-- The request ids for which the handoff was accepted. -/
  accepted : List (List Char)
  /-- The hashes of its rows in the ledger. -/
  rows : List (List Char)
  /-- The transactions, of any handoff, with a final receipt that shows a failure. -/
  reverted : List (List Char)

def Knowledge.next (k : Knowledge) : (o : Op) → Except Thrown (Ans o) → Knowledge
  | .recordEvent input, .ok _ =>
    if input.handoffId = handoffId ∧ input.executionStatus = .accepted then
      { k with accepted := input.requestId :: k.accepted }
    else k
  | .recordPrepared identity, .ok _ =>
    if identity.resource = .settlementHandoff handoffId then
      { k with rows := identity.transactionHash :: k.rows }
    else k
  | .listRecoveryCandidates _, .ok records =>
    { k with
      rows := (records.filter fun r => r.resource = .settlementHandoff handoffId).map
        Outcome.transactionHash ++ k.rows }
  | .verifyReceipt hash receipt, .ok (some _) =>
    if receipt.status = 1 then k
    else { k with reverted := Text.toLowerCase hash :: k.reverted }
  | _, _ => k

/-- A transaction of the handoff has failed. -/
def Knowledge.Proves (k : Knowledge) : Prop :=
  ∃ hash ∈ k.rows, Text.toLowerCase hash ∈ k.reverted

/-- An error of no particular class. -/
def Thrown.IsOther : Thrown → Prop
  | .other _ => True
  | _ => False

/-- A transaction is prepared for a request that was accepted, and `reverted` is recorded with a
proof. -/
def truthProtocol : Protocol Op Ans Thrown Knowledge where
  allowed
    | k, .recordPrepared identity => identity.resource = .settlementHandoff handoffId →
      identity.applicationRequestId ∈ k.accepted ∧ identity.operation = Text.lit "create_trade"
    | k, .recordEvent input =>
      input.handoffId = handoffId → input.executionStatus = .reverted → k.Proves
    | _, _ => True
  answers := fun _ r => ∀ e, r = .error e → e.IsOther
  next := Knowledge.next handoffId

variable {d handoffId} {k : Knowledge} {q : CreateTrade}

theorem keeps_of_prepares {o : Op} (h : Prepares o) :
    (truthProtocol handoffId).allowed k o ∧ ∀ r, (truthProtocol handoffId).next k o r = k := by
  cases o with
  | recordEvent | recordPrepared | listRecoveryCandidates | verifyReceipt =>
    exact absurd h not_false
  | _ => exact ⟨trivial, fun _ => rfl⟩

/-- What the reconciler may record of the handoff. -/
def Recordable (handoffId : ℕ) (k : Knowledge) (id : ℕ) (status : ExecutionStatus) : Prop :=
  status ≠ .accepted ∧ (id = handoffId → status = .reverted → k.Proves)

theorem next_recordEvent {input : EventInput} (h : input.executionStatus ≠ .accepted)
    (r : Except Thrown (Ans (.recordEvent input))) :
    (truthProtocol handoffId).next k (.recordEvent input) r = k := by
  cases r with
  | error => rfl
  | ok => exact if_neg fun hand => h hand.2

theorem keeps_of_projects {o : Op} (h : Projects (Recordable handoffId k) o) :
    (truthProtocol handoffId).allowed k o ∧ ∀ r, (truthProtocol handoffId).next k o r = k := by
  cases o with
  | recordEvent => exact ⟨h.2, next_recordEvent h.1⟩
  | recordPrepared | listRecoveryCandidates | verifyReceipt => exact absurd h not_false
  | _ => exact ⟨trivial, fun _ => rfl⟩

variable {hash : List Char}

/-- The ledger may be written at any time. -/
theorem wp_ledger {status : OutcomeStatus} {details : Details} :
    wp (truthProtocol handoffId) (transition hash status details) (fun k' _ => k' = k)
      (fun k' _ => k' = k) k :=
  asks_ledger.wp _ fun _ => keeps_of_projects

/-! ### The errors of a request -/

/-- The error says that the transaction has reverted only if this is proved. -/
def Reports (handoffId : ℕ) (q : CreateTrade) (k : Knowledge) : Thrown → Prop
  | .transactionReverted _ _ => q.handoffId = handoffId → k.Proves
  | _ => True

variable {e : Thrown}

theorem reports_of_isOther (h : e.IsOther) : Reports handoffId q k e := by
  cases e with
  | other => exact trivial
  | _ => exact absurd h not_false

variable {address : List Char}

theorem throws_assertBalance :
    Throws Thrown.IsOther (assertBalance d address) :=
  Throws.call.bind fun _ => Throws.ite (.throw trivial) .pure

theorem throws_assertSignerBalance : Throws Thrown.IsOther (assertSignerBalance d) :=
  Throws.call.bind fun _ => throws_assertBalance.bind fun _ => .pure

theorem throws_simulateTransaction : Throws Thrown.IsOther (simulateTransaction d q) :=
  Throws.call.bind fun _ => Throws.call.bind fun _ => Throws.ite (.throw trivial) .pure

theorem throws_assertGasSpendCap {gasEstimate : ℕ} :
    Throws Thrown.IsOther (assertGasSpendCap d gasEstimate) := by
  refine Throws.call.bind fun feeData => ?_
  split
  · exact .throw trivial
  · exact Throws.ite (.throw trivial) (Throws.ite (.throw trivial)
      (Throws.ite (.throw trivial) .pure))

variable {α : Type}

/-- A part of a request that leaves the ledger alone, before something else. -/
theorem wp_prepares {β : Type} {p : Code α} {f : α → Code β} {Q : Knowledge → β → Prop}
    (hthrows : Throws Thrown.IsOther p) (hasks : Asks Prepares p)
    (hf : ∀ a, wp (truthProtocol handoffId) (f a) Q (Reports handoffId q) k) :
    wp (truthProtocol handoffId) (p >>= f) Q (Reports handoffId q) k :=
  hthrows.wp_bind _ hasks (fun _ => keeps_of_prepares) (fun _ _ he => he _ rfl) hf
    fun _ => reports_of_isOther

/-! ### Sending -/

/-- The ledger has a row for the transaction with this hash, if the request is for the handoff. -/
def Knows (handoffId : ℕ) (q : CreateTrade) (hash : List Char) (k : Knowledge) : Prop :=
  q.handoffId = handoffId → ∃ row ∈ k.rows, Text.toLowerCase row = Text.toLowerCase hash

theorem knows_broadcastPersistedGaslessTransaction {signed : Identity}
    (hresource : signed.resource = .settlementHandoff q.handoffId)
    (haccepted : q.handoffId = handoffId → signed.applicationRequestId ∈ k.accepted)
    (hoperation : signed.operation = Text.lit "create_trade") :
    wp (truthProtocol handoffId) (broadcastPersistedGaslessTransaction signed)
      (fun k' hash => Knows handoffId q hash k') (Reports handoffId q) k := by
  unfold broadcastPersistedGaslessTransaction
  rw [wp_bind, wp_call]
  refine ⟨?_, fun _ _ => ?_, fun e he => reports_of_isOther (he e rfl)⟩
  · intro heq
    rw [hresource, Resource.settlementHandoff.injEq] at heq
    exact ⟨haccepted heq, hoperation⟩
  · have hrow : q.handoffId = handoffId → signed.transactionHash ∈
        ((truthProtocol handoffId).next k (.recordPrepared signed) (.ok ())).rows := by
      intro heq
      have hmatch : signed.resource = .settlementHandoff handoffId := by rw [hresource, heq]
      show _ ∈ (if _ then _ else _ : Knowledge).rows
      rw [if_pos hmatch]
      exact List.mem_cons_self
    generalize (truthProtocol handoffId).next k (.recordPrepared signed) (.ok ()) = k' at hrow ⊢
    rw [wp_bind, wp_attempt, wp_call]
    refine ⟨trivial, fun hash _ => ?_, fun e _ => ?_⟩
    · show wp _ (if _ then _ else _) _ _ k'
      split_ifs with hhash
      · rw [wp_bind]
        refine wp_mono _ ?_ (fun _ _ he => he) (wp_logged wp_ledger)
        rintro _ _ rfl
        exact trivial
      · rw [wp_bind, wp_tryCatch]
        refine wp_mono _ ?_ ?_ wp_ledger
        · rintro _ _ rfl heq
          exact ⟨_, hrow heq, (not_not.mp hhash).symm⟩
        · rintro _ _ rfl
          exact trivial
    · show wp _ (logged _ >>= _) _ _ k'
      rw [wp_bind]
      refine wp_mono _ ?_ (fun _ _ he => he) (wp_logged wp_ledger)
      rintro _ _ rfl
      exact trivial

theorem knows_broadcastManagedTransaction
    (haccepted : q.handoffId = handoffId → q.requestId ∈ k.accepted) :
    wp (truthProtocol handoffId) (broadcastManagedTransaction q address)
      (fun k' hash => Knows handoffId q hash k') (Reports handoffId q) k := by
  refine wp_prepares Throws.call (Asks.call trivial) fun nonce => ?_
  refine wp_prepares Throws.call (Asks.call trivial) fun _ => ?_
  refine wp_prepares Throws.call (Asks.call trivial) fun _ => ?_
  refine wp_prepares Throws.call (Asks.call trivial) fun signed => ?_
  refine wp_prepares Throws.call (Asks.call trivial) fun _ => ?_
  exact knows_broadcastPersistedGaslessTransaction rfl haccepted rfl

/-! ### Waiting for the receipt -/

theorem reports_persistGaslessTerminalOutcome {hash' : List Char} {status : OutcomeStatus}
    {details : Details} :
    wp (truthProtocol handoffId)
      (persistGaslessTerminalOutcome hash (transition hash' status details))
      (fun k' _ => k' = k) (Reports handoffId q) k := by
  unfold persistGaslessTerminalOutcome
  rw [wp_tryCatch]
  refine wp_mono _ (fun _ _ ha => ha) ?_ wp_ledger
  rintro _ _ rfl
  exact trivial

theorem reports_confirmReceipt {evidence : List Char} {receipt : Receipt}
    (hknows : Knows handoffId q hash k)
    (hreverted : receipt.status ≠ 1 → Text.toLowerCase hash ∈ k.reverted) :
    wp (truthProtocol handoffId) (confirmReceipt d address hash receipt evidence)
      (fun _ _ => True) (Reports handoffId q) k := by
  unfold confirmReceipt
  split_ifs with hstatus
  · rw [wp_bind]
    refine wp_mono _ ?_ (fun _ _ he => he) reports_persistGaslessTerminalOutcome
    rintro _ _ rfl heq
    obtain ⟨row, hrow, hlower⟩ := hknows heq
    exact ⟨row, hrow, by rw [hlower]; exact hreverted hstatus⟩
  · refine wp_prepares throws_assertBalance asks_assertBalance fun _ => ?_
    refine wp_prepares Throws.call (Asks.call trivial) fun _ => ?_
    exact wp_mono _ (fun _ _ _ => trivial) (fun _ _ he => he) reports_persistGaslessTerminalOutcome

theorem reports_waitForConfirmedReceipt
    (hknows : Knows handoffId q hash k) :
    wp (truthProtocol handoffId) (waitForConfirmedReceipt d address hash)
      (fun _ _ => True) (Reports handoffId q) k := by
  have hcaught : wp (truthProtocol handoffId)
      (tryCatchThe Thrown (ask (.waitReceipt hash)) fun _ => pure none) (fun k' _ => k' = k)
      (fun _ _ => False) k := by
    rw [wp_tryCatch, wp_call]
    exact ⟨trivial, fun _ _ => rfl, fun _ _ => rfl⟩
  unfold waitForConfirmedReceipt
  rw [wp_bind]
  refine wp_mono _ ?_ (fun _ _ => False.elim) hcaught
  rintro _ receipt rfl
  cases receipt with
  | none => exact trivial
  | some receipt =>
    rw [wp_bind, wp_tryCatch, wp_call]
    refine ⟨trivial, fun evidence _ => ?_, fun e _ => trivial⟩
    cases evidence with
    | none => exact trivial
    | some =>
      show wp _ _ _ _ (if receipt.status = 1 then _ else _)
      split_ifs with hstatus
      · exact reports_confirmReceipt hknows fun hne => absurd hstatus hne
      · exact reports_confirmReceipt hknows fun _ => List.mem_cons_self

theorem reports_executeCreateTrade
    (haccepted : q.handoffId = handoffId → q.requestId ∈ k.accepted) :
    wp (truthProtocol handoffId) (executeCreateTrade d q) (fun _ _ => True) (Reports handoffId q)
      k := by
  refine wp_prepares throws_assertSignerBalance asks_assertSignerBalance fun address => ?_
  refine wp_prepares throws_simulateTransaction asks_simulateTransaction fun gasEstimate => ?_
  refine wp_prepares throws_assertGasSpendCap asks_assertGasSpendCap fun _ => ?_
  rw [wp_bind]
  refine wp_mono _ ?_ (fun _ _ he => he) (knows_broadcastManagedTransaction haccepted)
  intro _ _ hknows
  rw [wp_bind]
  exact wp_mono _ (fun _ _ _ => trivial) (fun _ _ he => he)
    (reports_waitForConfirmedReceipt hknows)

theorem reports_runExclusive (haccepted : q.handoffId = handoffId → q.requestId ∈ k.accepted) :
    wp (truthProtocol handoffId) (runExclusive (executeCreateTrade d q)) (fun _ _ => True)
      (Reports handoffId q) k := by
  -- an error of the release is of no particular class
  have hunlock : ∀ k' {X : Prop}, X → wp (truthProtocol handoffId) (ask .unlock)
      (fun _ _ => X) (Reports handoffId q) k' := by
    intro k' _ hX
    rw [wp_call]
    exact ⟨trivial, fun _ _ => hX, fun e he => reports_of_isOther (he e rfl)⟩
  unfold runExclusive
  rw [wp_bind, wp_call]
  refine ⟨trivial, fun _ _ => ?_, fun e he => reports_of_isOther (he e rfl)⟩
  rw [wp_tryFinally, wp_bind, wp_call]
  refine ⟨trivial, fun _ _ => ?_, fun e he => ?_⟩
  · show wp _ _ _ _ k
    refine wp_mono _ (fun k' _ _ => hunlock k' trivial) ?_ (reports_executeCreateTrade haccepted)
    intro _ e he
    rw [wp_call]
    exact ⟨trivial, fun _ _ => he, fun e' he' => reports_of_isOther (he' e' rfl)⟩
  · rw [wp_call]
    exact ⟨trivial, fun _ _ => reports_of_isOther (he e rfl),
      fun e' he' => reports_of_isOther (he' e' rfl)⟩

/-! ### Recording -/

/-- Recording an event that neither accepts the handoff nor reverts it without a proof. -/
theorem wp_recordable {input : EventInput} {Q : Knowledge → Recorded → Prop}
    {X : Knowledge → Thrown → Prop}
    (h : Recordable handoffId k input.handoffId input.executionStatus) (hQ : ∀ a, Q k a)
    (hX : ∀ e, e.IsOther → X k e) :
    wp (truthProtocol handoffId) (ask (.recordEvent input)) Q X k := by
  rw [wp_call]
  refine ⟨h.2, fun a _ => ?_, fun e he => hX e (he e rfl)⟩
  rw [next_recordEvent h.1]
  exact hQ a

theorem reports_executeAccepted {accepted : Recorded}
    (haccepted : q.handoffId = handoffId → q.requestId ∈ k.accepted) :
    wp (truthProtocol handoffId) (executeAccepted d q accepted) (fun _ _ => True)
      (Reports handoffId q) k := by
  have hstatus : ∀ k' id status, status ≠ .accepted → status ≠ .reverted →
      Recordable handoffId k' id status :=
    fun _ _ _ hne hne' => ⟨hne, fun _ heq => absurd heq hne'⟩
  unfold executeAccepted
  rw [wp_bind]
  refine wp_recordable (hstatus _ _ _ nofun nofun) (fun queued => ?_)
    fun _ => reports_of_isOther
  refine wp_prepares
    (throws_assertSignerBalance.bind fun _ => throws_simulateTransaction)
    asks_simulateCreateTrade fun _ => ?_
  rw [wp_bind]
  refine wp_recordable (hstatus _ _ _ nofun nofun)
    (fun simulation => ?_) fun _ => reports_of_isOther
  rw [wp_bind]
  refine wp_mono _ ?_ (fun _ _ he => he) (reports_runExclusive haccepted)
  intro _ _ _
  unfold projectPersistedGaslessTransaction projectConfirmed
  rw [wp_tryCatch, wp_bind]
  refine wp_recordable (hstatus _ _ _ nofun nofun)
    (fun submitted => ?_) fun _ _ => trivial
  rw [wp_bind]
  exact wp_recordable (hstatus _ _ _ nofun nofun)
    (fun _ => trivial) fun _ _ => trivial

theorem recordable_failureEvent (he : Reports handoffId q k e)
    (reconciliationStatus : ReconciliationStatus) :
    Recordable handoffId k (failureEvent q reconciliationStatus e).handoffId
      (failureEvent q reconciliationStatus e).executionStatus := by
  cases e with
  | outcomePending _ outcome =>
    cases outcome <;> exact ⟨nofun, nofun⟩
  | transactionReverted => exact ⟨nofun, fun heq _ => he heq⟩
  | other => exact ⟨nofun, nofun⟩

theorem follows_createTrade : Follows (truthProtocol handoffId) (fun _ => True)
    (executeCreateTradeWorkflow d q) k := by
  show wp _ (executeCreateTradeWorkflow d q) _ _ _
  unfold executeCreateTradeWorkflow
  rw [wp_bind, wp_call]
  refine ⟨trivial, fun _ _ => ?_, fun _ _ => trivial⟩
  rw [wp_bind, wp_call]
  refine ⟨trivial, fun handoff _ => ?_, fun _ _ => trivial⟩
  cases handoff with
  | none => exact trivial
  | some =>
    rw [wp_bind, wp_call]
    refine ⟨trivial, fun _ _ => ?_, fun _ _ => trivial⟩
    rw [wp_bind, wp_call]
    refine ⟨nofun, fun accepted _ => ?_, fun _ _ => trivial⟩
    rw [wp_tryCatch]
    refine wp_mono _ (fun _ _ ha => ha) ?_ (reports_executeAccepted ?_)
    · intro _ e he
      unfold recordGaslessExecutionFailure
      rw [wp_bind]
      refine wp_recordable (recordable_failureEvent he _) (fun _ => ?_) fun _ _ => trivial
      cases e <;> exact trivial
    · intro heq
      show _ ∈ (if _ then _ else _ : Knowledge).accepted
      rw [if_pos ⟨heq, rfl⟩]
      exact List.mem_cons_self

/-! ### The reconciler -/

/-- A part of the reconciler that keeps what is known. -/
theorem grows_of_asks {p : Code Unit} (h : Asks (Projects (Recordable handoffId k)) p) :
    wp (truthProtocol handoffId) p (fun k' _ => k.rows ⊆ k'.rows) (fun k' _ => k.rows ⊆ k'.rows)
      k := by
  refine wp_mono _ ?_ ?_ (h.wp _ fun _ => keeps_of_projects)
  · rintro _ _ rfl
    exact List.Subset.refl _
  · rintro _ _ rfl
    exact List.Subset.refl _

variable {record : Outcome}

/-- A status other than `accepted` and `reverted` may be recorded. -/
theorem may_of_ne {status : ExecutionStatus} (haccepted : status ≠ .accepted)
    (hreverted : status ≠ .reverted) : record.May (Recordable handoffId k) status :=
  fun _ _ => ⟨haccepted, fun _ h => absurd h hreverted⟩

theorem grows_reconcileObserved
    (hrow : record.resource = .settlementHandoff handoffId → record.transactionHash ∈ k.rows) :
    wp (truthProtocol handoffId) (reconcileObserved record) (fun k' _ => k.rows ⊆ k'.rows)
      (fun k' _ => k.rows ⊆ k'.rows) k := by
  have hpending : ∀ k', record.May (Recordable handoffId k') .confirmationPending :=
    fun _ => may_of_ne nofun nofun
  unfold reconcileObserved
  rw [wp_bind, wp_call]
  refine ⟨trivial, fun receipt _ => ?_, fun _ _ => List.Subset.refl _⟩
  cases receipt with
  | none =>
    exact grows_of_asks (asks_unreceipted (hpending k)
      (may_of_ne nofun nofun))
  | some receipt =>
    rw [wp_bind, wp_call]
    refine ⟨trivial, fun evidence _ => ?_, fun _ _ => List.Subset.refl _⟩
    cases evidence with
    | none => exact grows_of_asks (asks_reconcileUnfinal (hpending k))
    | some =>
      show wp _ _ _ _ (if receipt.status = 1 then k
        else { k with reverted := Text.toLowerCase record.transactionHash :: k.reverted })
      split_ifs with hstatus
      · exact grows_of_asks (asks_reconcileFinal (hpending k)
          (may_of_ne nofun nofun))
      · refine grows_of_asks (k := { k with
          reverted := Text.toLowerCase record.transactionHash :: k.reverted })
          (asks_reconcileFinal (hpending _) fun id hresource => ⟨nofun, ?_⟩)
        rintro rfl _
        exact ⟨_, hrow hresource, List.mem_cons_self⟩

theorem grows_reconcile
    (hrow : record.resource = .settlementHandoff handoffId → record.transactionHash ∈ k.rows) :
    wp (truthProtocol handoffId) (reconcile record) (fun k' _ => k.rows ⊆ k'.rows)
      (fun k' _ => k.rows ⊆ k'.rows) k := by
  have hpending : record.May (Recordable handoffId k) .confirmationPending :=
    may_of_ne nofun nofun
  unfold reconcile
  split_ifs
  · exact grows_of_asks (asks_onlyIf (asks_orphaned hpending))
  · split
    · rw [wp_bind, wp_call]
      refine ⟨trivial, fun canonicality _ => ?_, fun _ _ => List.Subset.refl _⟩
      cases canonicality with
      | orphaned => exact grows_of_asks (asks_reconcileOrphaned hpending)
      | unavailable => exact List.Subset.refl _
      | canonical => exact grows_reconcileObserved hrow
    · exact grows_reconcileObserved hrow
  · exact grows_reconcileObserved hrow

theorem follows_reconcileAll {records : List Outcome}
    (hrows : ∀ record ∈ records, record.resource = .settlementHandoff handoffId →
      record.transactionHash ∈ k.rows) :
    Follows (truthProtocol handoffId) (fun _ => True) (reconcileAll records) k := by
  induction records generalizing k with
  | nil => exact trivial
  | cons record records ih =>
    show wp _ (logged (reconcile record) >>= _) _ _ _
    rw [wp_bind]
    refine wp_mono _ ?_ (fun _ _ _ => trivial)
      (wp_logged (X := fun _ _ => True) (grows_reconcile (hrows record List.mem_cons_self)))
    intro k' _ hgrows
    rw [wp_bind]
    refine wp_logged ?_
    rw [wp_call]
    have hrest : Follows (truthProtocol handoffId) (fun _ => True) (reconcileAll records) k' :=
      ih fun r hr hresource => hgrows (hrows r (List.mem_cons_of_mem _ hr) hresource)
    exact ⟨trivial, fun _ _ => hrest, fun _ _ => hrest⟩

def Knowledge.start : Knowledge := ⟨[], [], []⟩

theorem follows_truthProtocol (q : Request) :
    Follows (truthProtocol handoffId) (fun _ => True) (serve d q) Knowledge.start := by
  cases q with
  | createTrade => exact follows_createTrade
  | processUnresolved limit =>
    show wp _ (processUnresolved limit) _ _ _
    unfold processUnresolved
    rw [wp_bind, wp_call]
    refine ⟨trivial, fun records _ => follows_reconcileAll fun r hr hresource => ?_,
      fun _ _ => trivial⟩
    refine List.mem_append_left _ (List.mem_map.mpr ⟨r, List.mem_filter.mpr ⟨hr, ?_⟩, rfl⟩)
    exact decide_eq_true hresource

/-! ### The ledger -/

def Store.identities (s : Store) : List Identity := s.outcomes.map Outcome.identity

variable {p : ℕ} {o : Op} {luck : Luck} {s s' : Store} {r : Except Thrown (Ans o)}

theorem Store.recordPrepared_eq_ok {identity : Identity} {now : ℕ}
    (h : s.recordPrepared identity now = .ok ((), s')) :
    Table.insert Gasless.outcomes (.prepare identity now) s.outcomes = .ok s'.outcomes ∧
      s'.identities = s.identities ++ [identity] := by
  unfold Store.recordPrepared at h
  split at h
  · next rows hrows =>
    cases h
    refine ⟨hrows, ?_⟩
    obtain ⟨-, -, rfl⟩ := Table.insert_eq_ok.mp hrows
    unfold Store.identities
    rw [List.map_append]
    rfl
  all_goals cases h

theorem identities_updateOutcome {cond : Outcome → Bool}
    {change : Outcome → Outcome} (hchange : ∀ r, (change r).identity = r.identity)
    (hv : Table.Valid Gasless.outcomes s.outcomes) :
    Table.Valid Gasless.outcomes (s.updateOutcome hash cond change).2.outcomes ∧
      (s.updateOutcome hash cond change).2.identities = s.identities := by
  refine ⟨Table.modify_valid hv fun r r' => ?_, Table.map_modify hchange⟩
  show outcomeClash (change r) r' = outcomeClash r r'
  unfold outcomeClash Outcome.transactionHash Outcome.resource
  rw [hchange]

/-- Rows are only added, by `recordPrepared`. -/
theorem Change.identities (h : Change d s o s') (hv : Table.Valid Gasless.outcomes s.outcomes) :
    Table.Valid Gasless.outcomes s'.outcomes ∧
      (s'.identities = s.identities ∨
        ∃ identity, o = .recordPrepared identity ∧ s'.identities = s.identities ++ [identity]) := by
  have hupdate : ∀ {hash : List Char} {cond : Outcome → Bool} {change : Outcome → Outcome}
      (_ : ∀ r, (change r).identity = r.identity),
      Table.Valid Gasless.outcomes (s.updateOutcome hash cond change).2.outcomes ∧
        ((s.updateOutcome hash cond change).2.identities = s.identities ∨
          ∃ identity, o = .recordPrepared identity ∧
            (s.updateOutcome hash cond change).2.identities = s.identities ++ [identity]) :=
    fun hchange => (identities_updateOutcome hchange hv).imp_right Or.inl
  cases h with
  | @record _ _ _ _ h =>
    unfold Store.recordEvent at h
    split at h
    · cases h
      exact ⟨hv, Or.inl rfl⟩
    · cases h
  | @prepare identity _ _ h =>
    obtain ⟨hinsert, hidentities⟩ := Store.recordPrepared_eq_ok h
    exact ⟨Table.insert_valid hv hinsert, Or.inr ⟨identity, rfl, hidentities⟩⟩
  | move | orphan | project | attempt => exact hupdate fun _ => rfl
  | none | lock | unlock => exact ⟨hv, Or.inl rfl⟩

theorem Change.handoff_before (h : Change d s o s') (hs : Sound s.settlement) {h' : Handoff}
    (hmem : h' ∈ s'.settlement.handoffs) :
    ∃ h ∈ s.settlement.handoffs, h'.handoffId = h.handoffId := by
  rcases h.settlement with heq | ⟨_, _, _, -, hrecord⟩
  · rw [heq] at hmem
    exact ⟨h', hmem, rfl⟩
  · have heffect := effect_recordEvent hs hrecord
    generalize s'.settlement = s₁ at heffect hmem
    cases heffect with
    | none => exact ⟨h', hmem, rfl⟩
    | @record =>
      obtain ⟨h₁, hmem₁, heq⟩ := Table.mem_modify.mp hmem
      refine ⟨h₁, hmem₁, ?_⟩
      rw [heq]
      split_ifs
      · exact CallbackPlan.written_handoffId ..
      · rfl
    | mark hm => cases hm

/-- An error of a statement is of no particular class if its effect has only such errors. -/
theorem isOther_of_statement {effect : Except Thrown (α × Store)} {fate : Fate}
    (heffect : ∀ e', effect = .error e' → e'.IsOther)
    (h : (statement s effect fate).1 = .error e) : e.IsOther := by
  cases fate with
  | lost =>
    cases h
    exact trivial
  | works =>
    rcases effect with e' | ⟨a, s₁⟩
    · cases h
      exact heffect _ rfl
    · cases h
  | unacknowledged =>
    rcases effect with _ | ⟨_, _⟩ <;> cases h <;> exact trivial

theorem isOther_of_answer (h : luck.answer o = .error e) : e.IsOther := by
  unfold Luck.answer at h
  cases hreply : luck.reply o with
  | error =>
    rw [hreply] at h
    cases h
    exact trivial
  | ok =>
    rw [hreply] at h
    cases h

/-- The surroundings raise errors of no particular class only. -/
theorem isOther_of_perform (h : perform d p o luck s = some (.error e, s')) :
    e.IsOther := by
  have hstatement : ∀ {α : Type} {effect : Except Thrown (α × Store)},
      (∀ e', effect = .error e' → e'.IsOther) →
      some (statement s effect luck.fate) = some (.error e, s') → e.IsOther := by
    intro _ _ heffect heq
    exact isOther_of_statement heffect (congrArg Prod.fst (Option.some.inj heq))
  cases o with
  | lock | unlock =>
    simp only [perform] at h
    split at h <;> cases h <;> exact trivial
  | recordEvent =>
    refine hstatement (fun e' he' => ?_) h
    unfold Store.recordEvent at he'
    split at he'
    · cases he'
    · cases he'
      exact trivial
  | recordPrepared =>
    refine hstatement (fun e' he' => ?_) h
    unfold Store.recordPrepared at he'
    split at he' <;> cases he' <;> exact trivial
  | getHandoff | transitionOutcome | readOutcome | markOrphaned | applyProjection
  | markRecoveryAttempted | listRecoveryCandidates =>
    exact hstatement (fun e' he' => by cases he') h
  | _ => exact isOther_of_answer (congrArg Prod.fst (Option.some.inj h))

theorem truthful_world : Truthful (world d) (truthProtocol handoffId) := by
  rintro _ _ _ _ _ _ h _ rfl
  exact isOther_of_perform h

/-! ### Runs -/

section Truth

variable (handoffId) (request : List Char) (confirmed : List Char → Bool)

/-- The handoff is accepted for this request only. -/
def OneRequest (t : StoreStep) : Bool :=
  match t.label with
  | .act _ (.recordEvent input) (.ok _) =>
    input.handoffId ≠ handoffId || input.executionStatus ≠ .accepted || input.requestId = request
  | _ => true

/-- A transaction that is confirmed on chain has no final receipt that shows a failure. -/
def Honest (t : StoreStep) : Bool :=
  match t.label with
  | .act _ (.verifyReceipt hash receipt) (.ok (some _)) =>
    receipt.status = 1 || !confirmed (Text.toLowerCase hash)
  | _ => true

structure Knowledge.Holds (s : Store) (k : Knowledge) : Prop where
  accepted : ∀ requestId ∈ k.accepted, requestId = request
  rows : ∀ hash ∈ k.rows, ∃ i ∈ s.identities, i.resource = .settlementHandoff handoffId ∧
    i.transactionHash = hash
  reverted : ∀ hash ∈ k.reverted, confirmed hash = false

/-- The ledger has transactions of the handoff for this request only, and if the handoff is
reverted, one of them is not confirmed. -/
structure Truth (s : Store) : Prop where
  sound : Sound s.settlement
  valid : Table.Valid Gasless.outcomes s.outcomes
  prepared : ∀ i ∈ s.identities, i.resource = .settlementHandoff handoffId →
    i.applicationRequestId = request ∧ i.operation = Text.lit "create_trade"
  status : ∀ h ∈ s.settlement.handoffs, h.handoffId = handoffId →
    h.executionStatus = .reverted → ∃ i ∈ s.identities,
      i.resource = .settlementHandoff handoffId ∧
      confirmed (Text.toLowerCase i.transactionHash) = false

/-- **One handoff, one chain truth.** -/
structure OneTruth (s : Store) : Prop where
  /-- At most one transaction was prepared for the handoff. -/
  single : ∀ r ∈ s.outcomes, ∀ r' ∈ s.outcomes, r.resource = .settlementHandoff handoffId →
    r'.resource = .settlementHandoff handoffId → r = r'
  /-- The handoff is not reverted while a transaction that was prepared for it is confirmed. -/
  truth : ∀ h ∈ s.settlement.handoffs, h.handoffId = handoffId → h.executionStatus = .reverted →
    ∀ r ∈ s.outcomes, r.resource = .settlementHandoff handoffId →
      confirmed (Text.toLowerCase r.transactionHash) = false

variable {handoffId request confirmed}

/-- The unique index on request, operation and resource leaves room for one transaction. -/
theorem Truth.oneTruth (h : Truth handoffId request confirmed s) :
    OneTruth handoffId confirmed s := by
  have hsingle : ∀ r ∈ s.outcomes, ∀ r' ∈ s.outcomes,
      r.resource = .settlementHandoff handoffId → r'.resource = .settlementHandoff handoffId →
      r = r' := by
    intro r hr r' hr' hresource hresource'
    refine h.valid.eq_of_clash hr hr' fun hclash => ?_
    obtain ⟨hrequest, hoperation⟩ := h.prepared _ (List.mem_map_of_mem hr) hresource
    obtain ⟨hrequest', hoperation'⟩ := h.prepared _ (List.mem_map_of_mem hr') hresource'
    exact (outcomeClash_eq_none.mp hclash).2 ⟨hrequest.trans hrequest'.symm,
      hoperation.trans hoperation'.symm, hresource.trans hresource'.symm⟩
  refine ⟨hsingle, fun g hg hid hreverted r hr hresource => ?_⟩
  obtain ⟨_, hi, hresource', hconfirmed⟩ := h.status g hg hid hreverted
  obtain ⟨r', hr', rfl⟩ := List.mem_map.mp hi
  rw [hsingle r hr r' hr' hresource hresource']
  exact hconfirmed

theorem Knowledge.Holds.mono (h : k.Holds handoffId request confirmed s)
    (hsub : s.identities ⊆ s'.identities) : k.Holds handoffId request confirmed s' where
  accepted := h.accepted
  rows := fun hash hmem => (h.rows hash hmem).imp fun _ hi => ⟨hsub hi.1, hi.2⟩
  reverted := h.reverted

theorem Change.identities_subset (h : Change d s o s')
    (hv : Table.Valid Gasless.outcomes s.outcomes) : s.identities ⊆ s'.identities := by
  rcases (h.identities hv).2 with heq | ⟨_, -, heq⟩
  · rw [heq]
    exact List.Subset.refl _
  · rw [heq]
    exact List.subset_append_left _ _

/-- What a process is told is true. -/
theorem Knowledge.Holds.next (h : k.Holds handoffId request confirmed s)
    (hv : Table.Valid Gasless.outcomes s.outcomes)
    (hone : OneRequest handoffId request ⟨s, .act p o r, s'⟩ = true)
    (hhonest : Honest confirmed ⟨s, .act p o r, s'⟩ = true)
    (hperform : perform d p o luck s = some (r, s')) :
    (Knowledge.next handoffId k o r).Holds handoffId request confirmed s' := by
  have hstays : k.Holds handoffId request confirmed s' :=
    h.mono ((change_of_perform hperform).identities_subset hv)
  unfold Knowledge.next
  split
  · next input recorded =>
    split_ifs with heq
    · refine ⟨fun requestId hmem => ?_, hstays.rows, hstays.reverted⟩
      rcases List.mem_cons.mp hmem with rfl | hmem
      · simpa [OneRequest, heq.1, heq.2] using hone
      · exact hstays.accepted _ hmem
    · exact hstays
  · next identity _ =>
    split_ifs with heq
    · refine ⟨hstays.accepted, fun hash hmem => ?_, hstays.reverted⟩
      rcases List.mem_cons.mp hmem with rfl | hmem
      · have heffect := statement_eq_ok (Option.some.inj hperform)
        refine ⟨identity, ?_, heq, rfl⟩
        rw [(Store.recordPrepared_eq_ok heffect).2]
        exact List.mem_append_right _ (List.mem_singleton_self _)
      · exact hstays.rows _ hmem
    · exact hstays
  · next limit records =>
    refine ⟨hstays.accepted, fun hash hmem => ?_, hstays.reverted⟩
    rcases List.mem_append.mp hmem with hmem | hmem
    · obtain ⟨record, hrecord, rfl⟩ := List.mem_map.mp hmem
      obtain ⟨hrecord, hresource⟩ := List.mem_filter.mp hrecord
      have heffect := statement_eq_ok (Option.some.inj hperform)
      cases heffect
      have hrow : record ∈ s.outcomes := by
        have hsorted := List.mem_of_mem_take hrecord
        rw [List.mem_insertionSort] at hsorted
        exact List.mem_of_mem_filter hsorted
      exact ⟨_, List.mem_map_of_mem hrow, of_decide_eq_true hresource, rfl⟩
    · exact hstays.rows _ hmem
  · next hash receipt evidence =>
    split_ifs with heq
    · exact hstays
    · refine ⟨hstays.accepted, hstays.rows, fun hash' hmem => ?_⟩
      rcases List.mem_cons.mp hmem with rfl | hmem
      · simpa [Honest, heq] using hhonest
      · exact hstays.reverted _ hmem
  · exact hstays

/-- An operation that is allowed keeps the ledger true. -/
theorem Truth.act (h : Truth handoffId request confirmed s)
    (hk : k.Holds handoffId request confirmed s) (hallowed : (truthProtocol handoffId).allowed k o)
    (hchange : Change d s o s') : Truth handoffId request confirmed s' := by
  obtain ⟨hvalid, hidentities⟩ := hchange.identities h.valid
  have hsub := hchange.identities_subset h.valid
  refine ⟨hchange.sound h.sound, hvalid, ?_, fun g' hg' hid hreverted => ?_⟩
  · rcases hidentities with heq | ⟨_, rfl, heq⟩
    · rw [heq]
      exact h.prepared
    · rw [heq]
      intro i hi hresource
      rcases List.mem_append.mp hi with hi | hi
      · exact h.prepared i hi hresource
      · rw [List.mem_singleton] at hi
        subst hi
        obtain ⟨haccepted, hoperation⟩ := hallowed hresource
        exact ⟨hk.accepted _ haccepted, hoperation⟩
  · obtain ⟨g, hg, heq⟩ := hchange.handoff_before h.sound hg'
    by_cases hsame : g'.executionStatus = g.executionStatus
    · obtain ⟨i, hi, hrest⟩ := h.status g hg (heq.symm.trans hid) (hsame.symm.trans hreverted)
      exact ⟨i, hsub hi, hrest⟩
    · -- the handoff was reverted just now, by a process that can prove it
      obtain ⟨_, rfl, hid', hstatus⟩ := hchange.moved h.sound hg hg' heq hsame
      obtain ⟨hash, hrow, hproof⟩ := hallowed (hid'.symm.trans hid) (hstatus.symm.trans hreverted)
      obtain ⟨i, hi, hresource, rfl⟩ := hk.rows hash hrow
      exact ⟨i, hsub hi, hresource, hk.reverted _ hproof⟩

theorem Truth.of_same (h : Truth handoffId request confirmed s)
    (hsettlement : s'.settlement = s.settlement) (houtcomes : s'.outcomes = s.outcomes) :
    Truth handoffId request confirmed s' := by
  have hidentities : s'.identities = s.identities := congrArg (List.map _) houtcomes
  refine ⟨?_, ?_, ?_, ?_⟩
  · rw [hsettlement]
    exact h.sound
  · rw [houtcomes]
    exact h.valid
  · rw [hidentities]
    exact h.prepared
  · rw [hsettlement, hidentities]
    exact h.status

/-- A step of processes that keep to the protocol keeps everything true. -/
theorem truth_step {x x' : RoleConfig Store ℕ Knowledge}
    {l : Label Op Ans Thrown Unit ℕ Request}
    (hone : OneRequest handoffId request ⟨x.store, l, x'.store⟩ = true)
    (hhonest : Honest confirmed ⟨x.store, l, x'.store⟩ = true)
    (h : Truth handoffId request confirmed x.store ∧
      ∀ p, (x.roles p).Holds handoffId request confirmed x.store)
    (hstep : RoleStep (world d) (truthProtocol handoffId) Knowledge.start (fun _ => True) x l x') :
    Truth handoffId request confirmed x'.store ∧
      ∀ p, (x'.roles p).Holds handoffId request confirmed x'.store := by
  have hstart : ∀ s, Knowledge.start.Holds handoffId request confirmed s :=
    fun s => ⟨nofun, nofun, nofun⟩
  obtain ⟨htruth, hroles⟩ := h
  cases hstep with
  | call => exact ⟨htruth, hroles⟩
  | @act p _ _ _ _ hallowed hs =>
    have hchange := change_of_perform hs
    have hvalid := htruth.valid
    refine ⟨htruth.act (hroles p) hallowed hchange, fun p' => ?_⟩
    rcases eq_or_ne p' p with rfl | hne
    · simp only [Function.update_self]
      exact (hroles p').next hvalid hone hhonest hs
    · simp only [Function.update_of_ne hne]
      exact (hroles p').mono (hchange.identities_subset hvalid)
  | @done p =>
    refine ⟨htruth, fun p' => ?_⟩
    rcases eq_or_ne p' p with rfl | hne
    · simp only [Function.update_self]
      exact hstart _
    · simp only [Function.update_of_ne hne]
      exact hroles p'
  | @crash p =>
    have hsame : (abandon p x.store).settlement = x.store.settlement ∧
        (abandon p x.store).outcomes = x.store.outcomes := by
      unfold abandon
      split_ifs <;> exact ⟨rfl, rfl⟩
    refine ⟨htruth.of_same hsame.1 hsame.2, fun p' => ?_⟩
    rcases eq_or_ne p' p with rfl | hne
    · simp only [Function.update_self]
      exact hstart _
    · simp only [Function.update_of_ne hne]
      refine (hroles p').mono ?_
      show _ ⊆ (abandon p x.store).outcomes.map _
      rw [hsame.2]
      exact List.Subset.refl _

/-- **One handoff, one chain truth**, for a handoff that is accepted for one request id only:
whatever the requests and the reconciler are told, in any interleaving, at most one transaction is
prepared for it, and it is not reverted while that transaction is confirmed. -/
theorem one_handoff_one_truth {c c' : Config Op Ans Thrown Unit Store ℕ}
    {tr : List (Transition (Config Op Ans Thrown Unit Store ℕ)
      (Label Op Ans Thrown Unit ℕ Request))}
    (hquiet : c.Quiet) (hstart : Truth handoffId request confirmed c.store)
    (hrun : Run (Interaction.Step (world d)) c tr c')
    (hone : ∀ t ∈ tr, OneRequest handoffId request (view t) = true)
    (hhonest : ∀ t ∈ tr, Honest confirmed (view t) = true) :
    OneTruth handoffId confirmed c'.store := by
  obtain ⟨roles, htruth, -⟩ := Run.role_invariant (A := fun _ => True)
    (C := fun t => OneRequest handoffId request t = true ∧ Honest confirmed t = true)
    (I := fun x => Truth handoffId request confirmed x.store ∧
      ∀ p, (x.roles p).Holds handoffId request confirmed x.store)
    truthful_world (fun q _ => follows_truthProtocol q) (fun _ _ _ _ _ => trivial)
    (fun t ht => ⟨hone t ht, hhonest t ht⟩) hquiet.plays
    ⟨hstart, fun _ => ⟨nofun, nofun, nofun⟩⟩ (fun _ _ _ hC => truth_step hC.1 hC.2) hrun
  exact htruth.1.oneTruth

end Truth

/-! ### Samples -/

/-- The signer signs this transaction, and the wait for its receipt ends like this. -/
def transactionLuck (digit : Char) (nonce : ℕ) (receipt : Except PlainError (Option Receipt)) :
    Luck :=
  { sampleLuck 5000 with
    reply
      | .signTransaction _ _ =>
        .ok { sampleTransaction with transactionHash := hashOf digit, nonce := nonce }
      | .waitReceipt _ => receipt
      | o => (sampleLuck 5000).reply o }

def failedReceipt : Receipt := ⟨0, 101, hashOf '2', 21000, 20⟩

/-- The reconciler finds this final receipt of every transaction. -/
def recoveryLuck (receipt : Receipt) : Luck :=
  { sampleLuck 5000 with
    reply
      | .getTransactionReceipt _ => .ok (some receipt)
      | .revalidateBlock _ _ => .ok .canonical
      | o => (sampleLuck 5000).reply o }

theorem sampleConfig_truth (request : List Char) (confirmed : List Char → Bool) :
    Truth 0 request confirmed sampleConfig.store where
  sound := sampleConfig_sound
  valid := List.Pairwise.nil
  prepared := nofun
  status := by
    intro h hmem _ hreverted
    have hpending : ∀ h ∈ sampleConfig.store.settlement.handoffs,
        h.executionStatus = .pending := by decide +kernel
    rw [hpending h hmem] at hreverted
    cases hreverted

/-- A request whose transaction fails on the chain, as the reconciler finds; another transaction is
confirmed. -/
theorem one_handoff_one_truth_reverted :
    ∃ tr c', Run (Interaction.Step (world sampleDeployment)) sampleConfig tr c' ∧
      statuses c' = [.reverted] ∧ OneTruth 0 (· = hashOf 'b') c'.store := by
  obtain ⟨tr, c', hrun, hstatus, hone, hhonest⟩ := exists_run_of_simulate
    (W := world sampleDeployment) (c := sampleConfig) [.call 0 (.createTrade sampleRequest),
      .acts 0 (transactionLuck 'a' 7 (.ok (some failedReceipt))) 100, .done 0,
      .call 0 (.processUnresolved 25), .acts 0 (recoveryLuck failedReceipt) 100, .done 0]
    (P := fun events c' => statuses c' = [.reverted] ∧
      (∀ t ∈ events, OneRequest 0 (Text.lit "request") t = true) ∧
      ∀ t ∈ events, Honest (· = hashOf 'b') t = true) (by decide +kernel)
  exact ⟨tr, c', hrun, hstatus, one_handoff_one_truth (fun _ => rfl) (sampleConfig_truth _ _) hrun
    (fun t ht => hone _ (List.mem_map_of_mem ht)) fun t ht => hhonest _ (List.mem_map_of_mem ht)⟩

/-- A final receipt shows that the transaction has succeeded. -/
def confirms (hash : List Char) (t : StoreStep) : Bool :=
  match t.label with
  | .act _ (.verifyReceipt hash' receipt) (.ok (some _)) => hash' = hash && receipt.status = 1
  | _ => false

/-- Two requests for one handoff.  Both are accepted and queued before the first of them sends its
transaction; its wait for the receipt runs into a timeout.  Then the second one sends another
transaction, which fails.  The reconciler comes last. -/
def twoRequests : List (Choice ℕ Luck Request) :=
  let first := transactionLuck 'a' 7 (.error ⟨Text.lit "TIMEOUT", Text.lit "timeout"⟩)
  let second := transactionLuck 'b' 8 (.ok (some failedReceipt))
  [.call 0 (.createTrade sampleRequest),
    .call 1 (.createTrade { sampleRequest with requestId := Text.lit "another" }),
    .acts 0 first 4, .acts 1 second 4, .acts 0 first 1, .acts 1 second 1,
    .acts 0 first 5, .acts 1 second 5,
    .acts 0 first 100, .done 0, .acts 1 second 100, .done 1,
    .call 2 (.processUnresolved 25),
    .acts 2 (recoveryLuck ⟨1, 100, hashOf '1', 21000, 20⟩) 100, .done 2]

/-- **Two transactions for one handoff**: it ends as reverted, while the first of its transactions
has succeeded on the chain. -/
theorem two_transactions :
    ∃ tr c', Run (Interaction.Step (world sampleDeployment)) sampleConfig tr c' ∧
      statuses c' = [.reverted] ∧
      c'.store.outcomes.map (fun r => (r.transactionHash, r.resource)) =
        [(hashOf 'a', .settlementHandoff 0), (hashOf 'b', .settlementHandoff 0)] ∧
      ∃ t ∈ tr, confirms (hashOf 'a') (view t) = true := by
  obtain ⟨tr, c', hrun, hstatus, hrows, _, ht, hconfirms⟩ := exists_run_of_simulate
    (W := world sampleDeployment) (c := sampleConfig) twoRequests
    (P := fun events c' => statuses c' = [.reverted] ∧
      c'.store.outcomes.map (fun r => (r.transactionHash, r.resource)) =
        [(hashOf 'a', .settlementHandoff 0), (hashOf 'b', .settlementHandoff 0)] ∧
      ∃ t ∈ events, confirms (hashOf 'a') t = true) (by decide +kernel)
  obtain ⟨t', ht', rfl⟩ := List.mem_map.mp ht
  exact ⟨tr, c', hrun, hstatus, hrows, t', ht', hconfirms⟩

end Cotsel.Gateway.Gasless
