import Cotsel.Gateway.GaslessSteps

/-!
# What a failed create-trade request means

A request that ends in an error records the error as an event of its handoff, and `failed` is to
mean that no transaction was sent.  The recorder tells errors apart by their class only.  An error
of a class that stands for a transaction is recorded as such; every other error is recorded as
`failed`.

After the broadcast two things can raise an error of no particular class: the balance of the
executor, which is read again once the receipt is final (`confirmReceipt`), and the release of the
broadcast lock (`runExclusive`).  As long as neither goes wrong, `failed` is never recorded once a
transaction was sent, and the last event that a request records about its handoff stands for the
transaction.
-/

namespace Cotsel.Gateway.Gasless

open Interaction Settlement Runs

variable (d : Deployment)

/-! ### The progress of a request -/

/-- The last event that a request has recorded since the broadcast. -/
inductive LastEvent
  | nothing
  /-- The database did not acknowledge it. -/
  | lost
  | acknowledged (status : ExecutionStatus)
deriving DecidableEq

/-- The handoff of the request, whether it has handed a transaction to the provider, and since then,
whether the balance was read and which event was the last. -/
inductive Progress
  | unsent (handoff : Option ℕ)
  | sent (handoff : Option ℕ) (balanceRead : Bool) (last : LastEvent)
deriving DecidableEq

def Progress.next : Progress → (o : Op) → Except Thrown (Ans o) → Progress
  | .unsent _, .validateRequest request, _ => .unsent (some request.handoffId)
  | .unsent handoff, .broadcastTransaction _, _ => .sent handoff false .nothing
  | .sent handoff _ last, .getBalance _, .ok _ => .sent handoff true last
  | .sent handoff read _, .recordEvent input, .ok _ =>
    .sent handoff read (.acknowledged input.executionStatus)
  | .sent handoff read _, .recordEvent _, .error _ => .sent handoff read .lost
  | progress, _, _ => progress

/-- After the broadcast the balance can be read, and is high enough the first time; the lock can be
released. -/
def favourable : Progress → (o : Op) → Except Thrown (Ans o) → Bool
  | .sent _ read _, .getBalance _, .ok balance =>
    read || d.gaslessMinExecutorBalanceWei ≤ balance
  | .sent _ _ _, .getBalance _, .error _ => false
  | .sent _ _ _, .unlock, .error _ => false
  | _, _, _ => true

/-- The statuses in which a request may leave its handoff after the broadcast. -/
def afterBroadcast : List ExecutionStatus :=
  [.broadcastUnknown, .confirmationPending, .reverted, .confirmed]

/-- An event was recorded, and it stands for the transaction if it was acknowledged. -/
def LastEvent.Final : LastEvent → Prop
  | .nothing => False
  | .lost => True
  | .acknowledged status => status ∈ afterBroadcast

/-- Requests that are in progress, or were met by something unfavourable after the broadcast. -/
def failureProtocol : Protocol Op Ans Thrown (Option Progress) where
  allowed
    | some (.sent handoff _ _), .recordEvent input => handoff = some input.handoffId ∧
      input.executionStatus ≠ .failed ∧ input.executionStatus ≠ .rejected
    | _, _ => True
  answers := fun _ _ => True
  next
    | none, _, _ => none
    | some t, o, r => if favourable d t o r then some (t.next o r) else none

/-- A request may end in this role. -/
def Finished : Option Progress → Prop
  | some (.sent _ _ last) => last.Final
  | _ => True

/-- The roles of a request about the handoff `n` before the broadcast, and after it. -/
abbrev before (n : ℕ) : Option Progress := some (.unsent (some n))

abbrev after (n : ℕ) (read : Bool) (last : LastEvent) : Option Progress :=
  some (.sent (some n) read last)

variable {d}

variable {n : ℕ} {read : Bool} {last : LastEvent} {o : Op}

/-- Before the broadcast only the broadcast itself changes the role. -/
theorem before_of_prepares (h : Prepares o) :
    (failureProtocol d).allowed (before n) o ∧
      ∀ r, (failureProtocol d).next (before n) o r = before n := by
  cases o with
  | broadcastTransaction | validateRequest => exact absurd h id
  | _ => exact ⟨trivial, fun _ => rfl⟩

theorem unsent_of_recovers (h : Recovers o) :
    (failureProtocol d).allowed (some (.unsent none)) o ∧
      ∀ r, (failureProtocol d).next (some (.unsent none)) o r = some (.unsent none) := by
  cases o with
  | broadcastTransaction | validateRequest => exact absurd h id
  | _ => exact ⟨trivial, fun _ => rfl⟩

/-- The two statements of a transition in the ledger. -/
def Transits : Op → Prop
  | .transitionOutcome _ _ _ | .readOutcome _ => True
  | _ => False

theorem after_of_transits (h : Transits o) :
    (failureProtocol d).allowed (after n read last) o ∧
      ∀ r, (failureProtocol d).next (after n read last) o r = after n read last := by
  cases o with
  | transitionOutcome | readOutcome => exact ⟨trivial, fun _ => rfl⟩
  | _ => exact absurd h id

variable {hash : List Char}

theorem wp_transition {status : OutcomeStatus} {details : Details} :
    wp (failureProtocol d) (transition hash status details)
      (fun t _ => t = after n read last) (fun t _ => t = after n read last)
      (after n read last) := by
  have hasks : Asks Transits (transition hash status details) := by
    refine asks_transition ?_ ?_
    · trivial
    · trivial
  exact hasks.wp _ fun _ => after_of_transits

/-! ### The errors of a request -/

/-- The error stands for a transaction. -/
def Thrown.Recoverable : Thrown → Prop
  | .outcomePending _ _ _ | .transactionReverted _ _ => True
  | .other _ => False

/-- After the broadcast the recorder can tell what the error stands for. -/
def Fits (n : ℕ) : Option Progress → Thrown → Prop
  | some (.sent handoff _ _), e => handoff = some n ∧ e.Recoverable
  | _, _ => True

/-- Sending the transaction: it is not sent, or every error stands for it. -/
theorem wp_broadcastPersistedGaslessTransaction {signed : Identity} :
    wp (failureProtocol d) (broadcastPersistedGaslessTransaction signed)
      (fun t _ => t = after n false .nothing) (Fits n) (before n) := by
  unfold broadcastPersistedGaslessTransaction
  rw [wp_bind, wp_call]
  refine ⟨trivial, fun _ _ => ?_, fun _ _ => trivial⟩
  rw [wp_bind, wp_attempt, wp_call]
  refine ⟨trivial, fun hash _ => ?_, fun e _ => ?_⟩
  · show wp _ (if _ then _ else _) _ _ (after n false .nothing)
    split_ifs
    · rw [wp_bind]
      refine wp_mono _ ?_ (fun _ _ he => he) (wp_logged wp_transition)
      rintro _ _ rfl
      exact ⟨rfl, trivial⟩
    · rw [wp_bind, wp_tryCatch]
      refine wp_mono _ (fun _ _ ha => ha) ?_ wp_transition
      rintro _ _ rfl
      exact ⟨rfl, trivial⟩
  · show wp _ (logged _ >>= _) _ _ (after n false .nothing)
    rw [wp_bind]
    refine wp_mono _ ?_ (fun _ _ he => he) (wp_logged wp_transition)
    rintro _ _ rfl
    exact ⟨rfl, trivial⟩

theorem wp_persistGaslessTerminalOutcome {hash' : List Char} {status : OutcomeStatus}
    {details : Details} :
    wp (failureProtocol d) (persistGaslessTerminalOutcome hash (transition hash' status details))
      (fun t _ => t = after n read last) (Fits n) (after n read last) := by
  unfold persistGaslessTerminalOutcome
  rw [wp_tryCatch]
  refine wp_mono _ (fun _ _ ha => ha) ?_ wp_transition
  rintro _ _ rfl
  exact ⟨rfl, trivial⟩

variable {address : List Char}

/-- After the broadcast a balance can be read, and is high enough the first time, or nothing is
claimed. -/
theorem wp_getBalance :
    wp (failureProtocol d) (ask (.getBalance address))
      (fun t balance => t = none ∨ t = after n true last ∧
        (read = false → d.gaslessMinExecutorBalanceWei ≤ balance))
      (fun t _ => t = none) (after n read last) := by
  rw [wp_call]
  refine ⟨trivial, fun balance _ => ?_, fun e _ => rfl⟩
  have hnext : (failureProtocol d).next (after n read last) (.getBalance address) (.ok balance) =
      if (read || decide (d.gaslessMinExecutorBalanceWei ≤ balance)) = true then
        after n true last else none := rfl
  rw [hnext]
  split_ifs with hfav
  · refine Or.inr ⟨rfl, fun hread => ?_⟩
    rw [hread, Bool.false_or] at hfav
    exact of_decide_eq_true hfav
  · exact Or.inl rfl

variable {X : Option Progress → Thrown → Prop}

/-- Where nothing is claimed, nothing has to be shown. -/
theorem wp_none {α : Type} {p : Code α} {Q : Option Progress → α → Prop} (hQ : ∀ a, Q none a)
    (hX : ∀ e, X none e) : wp (failureProtocol d) p Q X none := by
  induction p with
  | ret a => exact hQ a
  | fail e => exact hX e
  | op o k ih => exact ⟨trivial, fun r _ => ih r⟩

/-- The role after the broadcast, unless nothing is claimed. -/
def Sent (n : ℕ) (t : Option Progress) : Prop := t = none ∨ ∃ read, t = after n read .nothing

theorem wp_of_sent {α : Type} {p : Code α} {Q : Option Progress → α → Prop}
    {t : Option Progress} (ht : Sent n t) (hQ : ∀ a, Q none a) (hX : ∀ e, X none e)
    (h : ∀ read, wp (failureProtocol d) p Q X (after n read .nothing)) :
    wp (failureProtocol d) p Q X t := by
  rcases ht with rfl | ⟨read, rfl⟩
  · exact wp_none hQ hX
  · exact h read

theorem wp_confirmReceipt {evidence : List Char} {receipt : Receipt} :
    wp (failureProtocol d) (confirmReceipt d address hash receipt evidence)
      (fun t _ => Sent n t) (Fits n) (after n false .nothing) := by
  unfold confirmReceipt
  split_ifs
  · rw [wp_bind]
    refine wp_mono _ ?_ (fun _ _ he => he) wp_persistGaslessTerminalOutcome
    rintro _ _ rfl
    exact ⟨rfl, trivial⟩
  · have hpersist : wp (failureProtocol d) (persistGaslessTerminalOutcome hash
        (markConfirmed hash (receiptOutcome receipt evidence)))
        (fun t _ => Sent n t) (Fits n) (after n true .nothing) :=
      wp_mono _ (fun _ _ ha => Or.inr ⟨_, ha⟩) (fun _ _ he => he)
        wp_persistGaslessTerminalOutcome
    have hnone : ∀ e, Fits n none e := fun _ => trivial
    unfold assertBalance
    rw [wp_bind, wp_bind]
    refine wp_mono _ ?_ ?_ wp_getBalance
    · rintro _ _ (rfl | ⟨rfl, hfloor⟩)
      · exact wp_none (fun _ => wp_none (fun _ => Or.inl rfl) hnone) hnone
      · rw [if_neg (Nat.not_lt.mpr (hfloor rfl)), wp_pure, wp_bind]
        refine wp_mono _ ?_ ?_ wp_getBalance
        · rintro _ _ (rfl | ⟨rfl, -⟩)
          · exact wp_none (fun _ => Or.inl rfl) hnone
          · exact hpersist
        · rintro _ e rfl
          exact trivial
    · rintro _ _ rfl
      exact trivial

/-- An operation after the broadcast that does not change the role. -/
theorem wp_ask_caught {a : Ans o} (hallowed : (failureProtocol d).allowed (after n read last) o)
    (hnext : ∀ r, (failureProtocol d).next (after n read last) o r = after n read last) :
    wp (failureProtocol d) (tryCatchThe Thrown (ask o) fun _ => pure a)
      (fun t _ => t = after n read last) (fun _ _ => False) (after n read last) := by
  rw [wp_tryCatch, wp_call]
  exact ⟨hallowed, fun _ _ => hnext _, fun _ _ => hnext _⟩

theorem wp_waitForConfirmedReceipt :
    wp (failureProtocol d) (waitForConfirmedReceipt d address hash)
      (fun t _ => Sent n t) (Fits n) (after n false .nothing) := by
  unfold waitForConfirmedReceipt
  rw [wp_bind]
  refine wp_mono _ ?_ (fun _ _ => False.elim) (wp_ask_caught trivial fun _ => rfl)
  rintro _ receipt rfl
  cases receipt with
  | none => exact ⟨rfl, trivial⟩
  | some =>
    rw [wp_bind]
    refine wp_mono _ ?_ (fun _ _ => False.elim) (wp_ask_caught trivial fun _ => rfl)
    rintro _ evidence rfl
    cases evidence with
    | none => exact ⟨rfl, trivial⟩
    | some => exact wp_confirmReceipt

variable {request : CreateTrade}

theorem wp_broadcastManagedTransaction :
    wp (failureProtocol d) (broadcastManagedTransaction request address)
      (fun t _ => t = after n false .nothing) (Fits n) (before n) := by
  have hfits : ∀ e, (Fits n) (before n) e := fun _ => trivial
  have hbefore := @before_of_prepares d n
  refine Asks.wp_bind _ (Asks.call trivial) (fun _ => hbefore) (fun nonce => ?_) hfits
  refine Asks.wp_bind _ (Asks.call trivial) (fun _ => hbefore) (fun _ => ?_) hfits
  refine Asks.wp_bind _ (Asks.call trivial) (fun _ => hbefore) (fun _ => ?_) hfits
  refine Asks.wp_bind _ (Asks.call trivial) (fun _ => hbefore) (fun signed => ?_) hfits
  refine Asks.wp_bind _ (Asks.call trivial) (fun _ => hbefore) (fun _ => ?_) hfits
  exact wp_broadcastPersistedGaslessTransaction

theorem wp_executeCreateTrade :
    wp (failureProtocol d) (executeCreateTrade d request) (fun t _ => Sent n t) (Fits n)
      (before n) := by
  have hfits : ∀ e, (Fits n) (before n) e := fun _ => trivial
  have hbefore := @before_of_prepares d n
  refine Asks.wp_bind _ asks_assertSignerBalance (fun _ => hbefore) (fun address => ?_) hfits
  refine Asks.wp_bind _ asks_simulateTransaction (fun _ => hbefore) (fun gasEstimate => ?_) hfits
  refine Asks.wp_bind _ asks_assertGasSpendCap (fun _ => hbefore) (fun _ => ?_) hfits
  rw [wp_bind]
  refine wp_mono _ ?_ (fun _ _ he => he) wp_broadcastManagedTransaction
  rintro _ - rfl
  rw [wp_bind]
  exact wp_mono _ (fun _ _ ha => ha) (fun _ _ he => he) wp_waitForConfirmedReceipt

/-- The release of the lock succeeds, or nothing is claimed. -/
theorem wp_unlock {Q : Option Progress → Unit → Prop} {t : Progress} (hQ : Q (some t) ())
    (hX : ∀ e, X none e) (ht : ∃ handoff read last, t = .sent handoff read last) :
    wp (failureProtocol d) (ask .unlock) Q X (some t) := by
  obtain ⟨_, _, _, rfl⟩ := ht
  rw [wp_call]
  exact ⟨trivial, fun _ _ => hQ, fun e _ => hX e⟩

theorem wp_runExclusive :
    wp (failureProtocol d) (runExclusive (executeCreateTrade d request)) (fun t _ => Sent n t)
      (Fits n) (before n) := by
  unfold runExclusive
  rw [wp_bind, wp_call]
  refine ⟨trivial, fun _ _ => ?_, fun _ _ => trivial⟩
  rw [wp_tryFinally, wp_bind, wp_call]
  refine ⟨trivial, fun _ _ => ?_, fun e _ => ?_⟩
  · show wp _ _ _ _ (before n)
    refine wp_mono _ ?_ ?_ wp_executeCreateTrade
    · intro _ _ ht
      refine wp_of_sent ht (fun _ => Or.inl rfl) (fun _ => trivial) fun read => ?_
      exact wp_unlock (Or.inr ⟨read, rfl⟩) (fun _ => trivial) ⟨_, _, _, rfl⟩
    · rintro (_ | _ | _) _ he
      · exact wp_none (fun _ => trivial) fun _ => trivial
      · rw [wp_call]
        exact ⟨trivial, fun _ _ => trivial, fun _ _ => trivial⟩
      · exact wp_unlock he (fun _ => trivial) ⟨_, _, _, rfl⟩
  · rw [wp_call]
    exact ⟨trivial, fun _ _ => trivial, fun _ _ => trivial⟩

/-! ### Recording -/

/-- An event of the handoff may be recorded after the broadcast unless it says that nothing was
sent. -/
theorem wp_recordEvent {input : EventInput} (hhandoff : input.handoffId = n)
    (hfailed : input.executionStatus ≠ .failed) (hrejected : input.executionStatus ≠ .rejected) :
    wp (failureProtocol d) (ask (.recordEvent input))
      (fun t _ => t = after n read (.acknowledged input.executionStatus))
      (fun t _ => t = after n read .lost) (after n read last) := by
  rw [wp_call]
  exact ⟨⟨congrArg some hhandoff.symm, hfailed, hrejected⟩, fun _ _ => rfl, fun _ _ => rfl⟩

theorem wp_projectConfirmed {reconciliationStatus : ReconciliationStatus} :
    wp (failureProtocol d) (projectPersistedGaslessTransaction hash
        (projectConfirmed request reconciliationStatus hash))
      (fun t _ => Finished t) (Fits request.handoffId) (after request.handoffId read .nothing) := by
  unfold projectPersistedGaslessTransaction projectConfirmed
  rw [wp_tryCatch, wp_bind]
  refine wp_mono _ ?_ ?_ (wp_recordEvent rfl (fun h => nomatch h) fun h => nomatch h)
  · rintro _ _ rfl
    rw [wp_bind]
    refine wp_mono _ ?_ ?_ (wp_recordEvent rfl (fun h => nomatch h) fun h => nomatch h)
    · rintro _ confirmed rfl
      show ExecutionStatus.confirmed ∈ afterBroadcast
      decide
    · rintro _ e rfl
      exact ⟨rfl, trivial⟩
  · rintro _ _ rfl
    exact ⟨rfl, trivial⟩

theorem wp_executeAccepted {accepted : Recorded} :
    wp (failureProtocol d) (executeAccepted d request accepted) (fun t _ => Finished t)
      (Fits request.handoffId) (before request.handoffId) := by
  unfold executeAccepted
  rw [wp_bind, wp_call]
  refine ⟨trivial, fun queued _ => ?_, fun _ _ => trivial⟩
  refine Asks.wp_bind _ asks_simulateCreateTrade (fun _ => before_of_prepares) (fun _ => ?_)
    fun _ => trivial
  rw [wp_bind, wp_call]
  refine ⟨trivial, fun simulation _ => ?_, fun _ _ => trivial⟩
  rw [wp_bind]
  refine wp_mono _ ?_ (fun _ _ he => he) wp_runExclusive
  intro _ _ ht
  exact wp_of_sent ht (fun _ => trivial) (fun _ => trivial) fun _ => wp_projectConfirmed

theorem failureEvent_executionStatus {e : Thrown} (he : e.Recoverable)
    (reconciliationStatus : ReconciliationStatus) :
    (failureEvent request reconciliationStatus e).executionStatus ∈ afterBroadcast := by
  cases e with
  | outcomePending _ outcome =>
    cases outcome <;> exact List.mem_of_elem_eq_true rfl
  | transactionReverted => exact List.mem_of_elem_eq_true rfl
  | other => exact absurd he id

/-- What the recorder makes of an error. -/
theorem wp_recordGaslessExecutionFailure {reconciliationStatus : ReconciliationStatus} {e : Thrown}
    {t : Option Progress} (he : Fits request.handoffId t e) :
    wp (failureProtocol d)
      (recordGaslessExecutionFailure (α := Unit) request reconciliationStatus e)
      (fun t _ => Finished t) (fun t _ => Finished t) t := by
  match t, he with
  | none, _ => exact wp_none (fun _ => trivial) fun _ => trivial
  | some (.unsent _), _ =>
    unfold recordGaslessExecutionFailure
    rw [wp_bind, wp_call]
    refine ⟨trivial, fun _ _ => ?_, fun _ _ => trivial⟩
    cases e <;> exact trivial
  | some (.sent _ _ _), ⟨rfl, he⟩ =>
    have hmem : (failureEvent request reconciliationStatus e).executionStatus ∈ afterBroadcast :=
      failureEvent_executionStatus he reconciliationStatus
    have hne : ∀ status ∈ afterBroadcast, status ≠ .failed ∧ status ≠ .rejected := by decide
    have hhandoff : (failureEvent request reconciliationStatus e).handoffId =
        request.handoffId := by
      cases e <;> rfl
    unfold recordGaslessExecutionFailure
    rw [wp_bind]
    refine wp_mono _ ?_ ?_ (wp_recordEvent hhandoff (hne _ hmem).1 (hne _ hmem).2)
    · rintro _ _ rfl
      cases e <;> exact hmem
    · rintro _ _ rfl
      exact trivial

theorem follows_serve (q : Request) :
    Follows (failureProtocol d) Finished (serve d q) (some (.unsent none)) := by
  cases q with
  | processUnresolved limit =>
    have hasks : Asks Recovers (processUnresolved limit) := asks_processUnresolved
    refine wp_mono _ ?_ ?_ (hasks.wp (failureProtocol d) fun _ => unsent_of_recovers)
    · rintro _ _ rfl
      exact trivial
    · rintro _ _ rfl
      exact trivial
  | createTrade request =>
    show wp _ (executeCreateTradeWorkflow d request) _ _ _
    unfold executeCreateTradeWorkflow
    rw [wp_bind, wp_call]
    refine ⟨trivial, fun _ _ => ?_, fun _ _ => trivial⟩
    rw [wp_bind, wp_call]
    refine ⟨trivial, fun handoff _ => ?_, fun _ _ => trivial⟩
    cases handoff with
    | none => exact trivial
    | some =>
      rw [wp_bind, wp_call]
      refine ⟨trivial, fun _ _ => ?_, fun _ _ => trivial⟩
      rw [wp_bind, wp_call]
      refine ⟨trivial, fun accepted _ => ?_, fun _ _ => trivial⟩
      rw [wp_tryCatch]
      exact wp_mono _ (fun _ _ ha => ha) (fun _ _ he => wp_recordGaslessExecutionFailure he)
        wp_executeAccepted

/-! ### Runs -/

/-- What happens to the store in one step. -/
abbrev StoreStep := Transition Store (Label Op Ans Thrown Unit ℕ Request)

abbrev Events := List StoreStep

/-- How far the request of the process `p` has come. -/
def progress (p : ℕ) (events : Events) : Progress := track Progress.next (.unsent none) p events

variable {p : ℕ} {events : Events}

variable (d p) in
/-- If this is a step of the request of `p`, it is favourable. -/
def favourableAt (before : Events) (e : StoreStep) : Bool :=
  match e.label with
  | .act p' o r => p' ≠ p || favourable d (progress p before) o r
  | _ => true

variable (d p) in
/-- After the broadcast the request of `p` finds enough balance, and can release the lock. -/
def FavourableAfterBroadcast (events : Events) : Prop :=
  ∀ (i : ℕ) e, events[i]? = some e → favourableAt d p (events.take i) e = true

instance (events : Events) : Decidable (FavourableAfterBroadcast d p events) :=
  decidable_of_iff (∀ i < events.length, events[i]?.all (favourableAt d p (events.take i)) = true)
    ⟨fun h i e hi => by simpa [hi] using h i (List.getElem?_eq_some_iff.mp hi).1, fun h i hi => by
      have hget := List.getElem?_eq_getElem hi
      simpa [hget] using h i _ hget⟩

theorem FavourableAfterBroadcast.of_append {events' : Events}
    (h : FavourableAfterBroadcast d p (events ++ events')) :
    FavourableAfterBroadcast d p events := by
  intro i e hi
  have hlt : i < events.length := (List.getElem?_eq_some_iff.mp hi).1
  have hfav := h i e (by rwa [List.getElem?_append_left hlt])
  rwa [List.take_append_of_le_length hlt.le] at hfav

/-- Under favourable conditions the role of a request is its progress. -/
theorem track_failureProtocol (h : FavourableAfterBroadcast d p events) :
    track (failureProtocol d).next (some (.unsent none)) p events = some (progress p events) := by
  induction events using List.reverseRecOn with
  | nil => rfl
  | append_singleton events e ih =>
    have hprefix := ih h.of_append
    have hlast := h events.length e List.getElem?_concat_length
    rw [List.take_left, favourableAt] at hlast
    unfold progress at *
    rw [track_snoc, track_snoc, hprefix]
    cases hl : e.label with
    | act p' o r =>
      rcases eq_or_ne p' p with rfl | hne
      · rw [hl] at hlast
        simp only [follow, if_true]
        exact if_pos (by simpa using hlast)
      · simp only [follow, if_neg hne]
    | call | done | crash =>
      simp only [follow]
      split_ifs <;> rfl

variable (d p) in
/-- A request that has sent a transaction does not declare it failed. -/
structure FailedNeverBroadcast (events : Events) : Prop where
  /-- After the broadcast the request moves no handoff to `failed` or `rejected`. -/
  unmoved : ∀ i e o r handoff read last, events[i]? = some e → e.label = .act p o r →
    progress p (events.take i) = .sent handoff read last →
    ∀ h ∈ e.source.settlement.handoffs, ∀ h' ∈ e.target.settlement.handoffs,
      h'.handoffId = h.handoffId → h'.executionStatus ≠ h.executionStatus →
      h'.executionStatus ≠ .failed ∧ h'.executionStatus ≠ .rejected
  /-- The events it records then are about its own handoff. -/
  own : ∀ i e input r handoff read last, events[i]? = some e →
    e.label = .act p (.recordEvent input) r →
    progress p (events.take i) = .sent handoff read last → handoff = some input.handoffId
  /-- It moves a handoff by recording an event, to the status of the event. -/
  moves : ∀ (i : ℕ) (e : StoreStep) o r, events[i]? = some e → e.label = .act p o r →
    e.target.settlement = e.source.settlement ∨
      ∃ input, o = .recordEvent input ∧ ∃ h ∈ e.target.settlement.handoffs,
        h.handoffId = input.handoffId ∧ h.executionStatus = input.executionStatus
  /-- A new event that is acknowledged has moved its handoff. -/
  recorded : ∀ (i : ℕ) (e : StoreStep) input a, events[i]? = some e →
    e.label = .act p (.recordEvent input) (.ok a) → e.source.Fresh d input →
      ∃ h ∈ e.target.settlement.handoffs, h.handoffId = input.handoffId ∧
        h.executionStatus = input.executionStatus
  /-- When it ends, with an error or not, it has recorded an event since the broadcast, and the last
  one, if it was acknowledged, has one of the four statuses that stand for a transaction. -/
  ends : ∀ i e r handoff read last, events[i]? = some e → e.label = .done p r →
    progress p (events.take i) = .sent handoff read last → last.Final

theorem Change.moved {s s' : Store} {h h' : Handoff} (hchange : Change d s o s')
    (hs : Sound s.settlement) (hmem : h ∈ s.settlement.handoffs)
    (hmem' : h' ∈ s'.settlement.handoffs) (hid : h'.handoffId = h.handoffId)
    (hne : h'.executionStatus ≠ h.executionStatus) :
    ∃ input, o = .recordEvent input ∧ h'.handoffId = input.handoffId ∧
      h'.executionStatus = input.executionStatus := by
  have hs' := hchange.sound hs
  rcases hchange.settlement with heq | ⟨input, _, _, ho, hrecord⟩
  · rw [heq] at hmem'
    rw [hs.handoffs.eq_of_key hmem' hmem hid] at hne
    exact absurd rfl hne
  · refine ⟨input, ho, ?_⟩
    -- the handoff is as it was, or it is the one that the event is about
    rcases (effect_recordEvent hs hrecord).handoff hs hmem with
      ⟨h₁, hmem₁, hlike⟩ | ⟨input', callback, hcall, hhandoff, -, -, hwritten⟩
    · have hsame : h' = h₁ :=
        hs'.handoffs.eq_of_key hmem' hmem₁ (hid.trans hlike.handoffId.symm)
      rw [hsame, hlike.executionStatus] at hne
      exact absurd rfl hne
    · cases hcall
      have hsame := hs'.handoffs.eq_of_key hmem' hwritten
        (hid.trans (CallbackPlan.written_handoffId ..).symm)
      refine ⟨hid.trans hhandoff.symm, ?_⟩
      rw [hsame, CallbackPlan.written_executionStatus]
      rfl

theorem Change.moves_to {s s' : Store} (hchange : Change d s o s')
    (hs : Sound s.settlement) : s'.settlement = s.settlement ∨
      ∃ input, o = .recordEvent input ∧ ∃ h ∈ s'.settlement.handoffs,
        h.handoffId = input.handoffId ∧ h.executionStatus = input.executionStatus := by
  rcases hchange.settlement with heq | ⟨input, _, _, rfl, -⟩
  · exact Or.inl heq
  · cases hchange with
    | none => exact Or.inl rfl
    | record h =>
      exact (recordEvent_eq_ok hs h).imp (fun hseen => hseen.2) fun hnew => ⟨input, rfl, hnew.2⟩

theorem perform_of_step {c c' : Config Op Ans Thrown Unit Store ℕ}
    {r : Except Thrown (Ans o)} (h : Interaction.Step (world d) c (.act p o r) c') :
    ∃ luck, perform d p o luck c.store = some (r, c'.store) := by
  cases h with
  | act _ hperform => exact ⟨_, hperform⟩

theorem sound_of_step {c c' : Config Op Ans Thrown Unit Store ℕ}
    {l : Label Op Ans Thrown Unit ℕ Request} (hs : Sound c.store.settlement)
    (h : Interaction.Step (world d) c l c') : Sound c'.store.settlement := by
  cases h with
  | act _ hperform => exact (change_of_perform hperform).sound hs
  | call | done => exact hs
  | @crash p =>
    have hsame : (abandon p c.store).settlement = c.store.settlement := by
      unfold abandon
      split_ifs <;> rfl
    show Sound (abandon p c.store).settlement
    rwa [hsame]

/-- **Failed means never broadcast**, for a request that finds enough balance after the broadcast
and can release the lock, whatever the chain, the signer and the database answer, and whatever
other requests and the reconciler do meanwhile. -/
theorem failed_never_broadcast {c c' : Config Op Ans Thrown Unit Store ℕ}
    {tr : List (Transition (Config Op Ans Thrown Unit Store ℕ)
      (Label Op Ans Thrown Unit ℕ Request))}
    (hquiet : c.Quiet) (hsound : Sound c.store.settlement)
    (hrun : Run (Interaction.Step (world d)) c tr c')
    (hfav : FavourableAfterBroadcast d p (tr.map view)) :
    FailedNeverBroadcast d p (tr.map view) := by
  have hobeys : Obeys (failureProtocol d) (some (.unsent none)) Finished (tr.map view) :=
    Run.obeys (A := fun _ => True) (fun _ _ _ _ _ _ _ => trivial) (fun q _ => follows_serve q)
      (fun _ _ _ _ _ => trivial) hquiet hrun
  have hrole : ∀ i, track (failureProtocol d).next (some (.unsent none)) p
      ((tr.map view).take i) = some (progress p ((tr.map view).take i)) := by
    intro i
    have hwhole : FavourableAfterBroadcast d p
        ((tr.map view).take i ++ (tr.map view).drop i) := by
      rwa [List.take_append_drop]
    exact track_failureProtocol hwhole.of_append
  have hstep : ∀ (i : ℕ) (e : StoreStep) o r, (tr.map view)[i]? = some e → e.label = .act p o r →
      Sound e.source.settlement ∧ ∃ luck, perform d p o luck e.source = some (r, e.target) := by
    intro i e o r hi hl
    rw [List.getElem?_map, Option.map_eq_some_iff] at hi
    obtain ⟨t, ht, rfl⟩ := hi
    obtain ⟨hbefore, hstep, -⟩ := hrun.cut ht
    have hs := hbefore.invariant (I := fun c => Sound c.store.settlement)
      (fun _ _ _ => sound_of_step) hsound
    have hlabel : t.label = .act p o r := hl
    rw [hlabel] at hstep
    exact ⟨hs, perform_of_step hstep⟩
  have hallowed : ∀ i e input r handoff read last, (tr.map view)[i]? = some e →
      e.label = .act p (.recordEvent input) r →
      progress p ((tr.map view).take i) = .sent handoff read last →
      handoff = some input.handoffId ∧
        input.executionStatus ≠ .failed ∧ input.executionStatus ≠ .rejected := by
    intro i e input r handoff read last hi hl hsent
    have hact := hobeys.act i e p _ r hi hl
    rw [hrole i, hsent] at hact
    exact hact
  refine ⟨fun i e o r handoff read last hi hl hsent h hmem h' hmem' hid hne => ?_,
    fun i e input r handoff read last hi hl hsent => ?_, fun i e o r hi hl => ?_,
    fun i e input a hi hl hnew => ?_, fun i e r handoff read last hi hl hsent => ?_⟩
  · obtain ⟨hs, _, hperform⟩ := hstep i e o r hi hl
    obtain ⟨input, rfl, -, hstatus⟩ := (change_of_perform hperform).moved hs hmem hmem' hid hne
    rw [hstatus]
    exact (hallowed i e input r handoff read last hi hl hsent).2
  · exact (hallowed i e input r handoff read last hi hl hsent).1
  · obtain ⟨hs, _, hperform⟩ := hstep i e o r hi hl
    exact (change_of_perform hperform).moves_to hs
  · obtain ⟨hs, _, hperform⟩ := hstep i e _ _ hi hl
    rcases recordEvent_eq_ok hs (statement_eq_ok (Option.some.inj hperform)) with hseen | hmoved
    · exact absurd hnew hseen.1
    · exact hmoved.2
  · have hfinished := hobeys.done i e p r hi hl
    rw [hrole i, hsent] at hfinished
    exact hfinished

/-! ### Samples -/

def sampleDeployment : Deployment where
  sha256 := id
  callbacks := ⟨false, none, none, none⟩
  gaslessMaxGasLimit := 1500000
  gaslessMaxFeePerGasWei := 50
  gaslessMaxNativeCostWei := 100000000
  gaslessMinExecutorBalanceWei := 1000

def sampleRequest : CreateTrade := ⟨0, Text.lit "request", some (Text.lit "platform")⟩

def hashOf (digit : Char) : List Char := Text.lit "0x" ++ List.replicate 64 digit

def executor : List Char := Text.lit "0x" ++ List.replicate 40 '1'

def sampleTransaction : Identity where
  transactionHash := hashOf 'a'
  applicationRequestId := Text.lit "request"
  resource := .settlementHandoff 0
  operation := Text.lit "create_trade"
  chainId := 1
  signerAddress := executor
  nonce := 7

/-- The chain and the signer answer; the executor has this balance. -/
def sampleLuck (balance : ℕ) : Luck where
  fate := .works
  time := 10
  reply
    | .executorAddress => .ok executor
    | .getBalance _ => .ok balance
    | .estimateGas _ => .ok 21000
    | .getFeeData => .ok ⟨some 20, none⟩
    | .getTransactionCount _ _ => .ok 7
    | .signTransaction _ _ => .ok sampleTransaction
    | .broadcastTransaction signed => .ok signed.transactionHash
    | .waitReceipt _ => .ok (some ⟨1, 100, hashOf '1', 21000, 20⟩)
    | .verifyReceipt _ _ => .ok (some (Text.lit "finalized"))
    | .connect | .validateRequest _ | .validateHandoff _ _ | .simulateCall _ | .reserveNonce _ _
    | .beginSigning _ _ | .recordSigned _ => .ok ()
    | _ => .error ⟨[], []⟩

/-- What a platform asks for when it wants a trade to be created. -/
def gaslessTerms : Terms :=
  { sampleTerms with
    phase := Text.lit "gasless_create_trade"
    ricardianHash := some (Text.lit "0x01")
    executionBinding := some (Text.lit "binding")
    sourceApiKeyId := some (Text.lit "platform") }

/-- A handoff was created, and nothing else has happened. -/
def sampleConfig : Config Op Ans Thrown Unit Store ℕ where
  store := ⟨Settlement.next State.empty (.createHandoff gaslessTerms), [], none⟩
  procs := fun _ => none

/-- The request runs alone; its executor has this balance after `n` operations. -/
def sampleSchedule (n balance : ℕ) : List (Choice ℕ Luck Request) :=
  [.call 0 (.createTrade sampleRequest), .acts 0 (sampleLuck 5000) n,
    .acts 0 (sampleLuck balance) 100, .done 0]

theorem sampleConfig_sound : Sound sampleConfig.store.settlement :=
  Sound.step (c := .createHandoff gaslessTerms) Sound.empty rfl

def statuses (c : Config Op Ans Thrown Unit Store ℕ) : List ExecutionStatus :=
  c.store.settlement.handoffs.map Handoff.executionStatus

/-- A request that goes well ends in `confirmed`. -/
theorem failed_never_broadcast_confirmed :
    ∃ tr c', Run (Interaction.Step (world sampleDeployment)) sampleConfig tr c' ∧
      statuses c' = [.confirmed] ∧ FailedNeverBroadcast sampleDeployment 0 (tr.map view) := by
  obtain ⟨tr, c', hrun, hstatus, hfav⟩ := exists_run_of_simulate (W := world sampleDeployment)
    (c := sampleConfig) (sampleSchedule 100 5000) (P := fun events c' =>
      statuses c' = [.confirmed] ∧ FavourableAfterBroadcast sampleDeployment 0 events)
    (by decide +kernel)
  exact ⟨tr, c', hrun, hstatus,
    failed_never_broadcast (fun _ => rfl) sampleConfig_sound hrun hfav⟩

/-- **A sent transaction is declared failed**: the transaction was sent and has succeeded on the
chain, but the executor's balance is then found below its floor. -/
theorem failed_after_broadcast :
    ∃ tr c', Run (Interaction.Step (world sampleDeployment)) sampleConfig tr c' ∧
      (∃ i, progress 0 ((tr.map view).take i) = .sent (some 0) false .nothing) ∧
      statuses c' = [.failed] := by
  obtain ⟨tr, c', hrun, hstatus, hsent⟩ := exists_run_of_simulate (W := world sampleDeployment)
    (c := sampleConfig) (sampleSchedule 27 500) (P := fun events c' =>
      statuses c' = [.failed] ∧ progress 0 (events.take 26) = .sent (some 0) false .nothing)
    (by decide +kernel)
  exact ⟨tr, c', hrun, ⟨26, hsent⟩, hstatus⟩

end Cotsel.Gateway.Gasless
