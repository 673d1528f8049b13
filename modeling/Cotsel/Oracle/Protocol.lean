import Cotsel.Oracle.TriggerManager

/-!
# The roles of an oracle process

What a process may do to the database depends on what it has seen and on whether it holds the lock
of an action.  `Role` is that knowledge, and `protocol` says what is allowed in each role:

* a row is inserted only by a process that holds the lock of its action and has read the latest row
  of the action since (`chosen`), under the conditions `Insertable`;
* the status of a row is written by its driver, who holds the lock, and after the claim by the
  process that claimed it; a row is confirmed by an observer that read it as claimed;
* an escrow call is started only in the role `claimed`, which one claim gives for one call.

`serve_follows` states that the programs of all requests keep to the protocol.  Everything that is
proved about interleavings below is proved about roles.
-/

namespace Cotsel.Oracle

open Text Sdk Interaction

/-! ### Roles -/

/-- What the driver of a row knows of its status. -/
inductive Written
  /-- It has not written yet. -/
  | nothing
  /-- Its last write failed. -/
  | unknown
  | status (s : TriggerStatus)

/-- There is no further attempt to come. -/
def Written.Settled (w : Written) : Prop := w ≠ .status .executing ∧ w ≠ .status .failed

/-- The roles of a process: `a` is the action whose lock it holds, `k` the row it deals with. -/
inductive Role
  | idle
  /-- It has read these rows to confirm them. -/
  | observing (rows : List Trigger)
  /-- It has approved the row, and has yet to get the lock. -/
  | approved (k a : List Char)
  | resuming (k a : List Char)
  | locked (a : List Char)
  /-- It has read the latest row. -/
  | chosen (a : List Char) (latest : Option Trigger)
  /-- Its insertion met an existing row. -/
  | conflicted (a : List Char) (latest : Option Trigger) (data : CreateTriggerData)
  /-- It has a row for its request. -/
  | holding (a k : List Char)
  | driving (a k : List Char) (w : Written)
  | claimed (a k : List Char)
  /-- It has started the escrow call. -/
  | sent (a k : List Char)
  /-- It will not write any more. -/
  | leaving (a : List Char)

variable (d : Deployment)

/-- When a process that has read `latest` may insert a row. -/
structure Insertable (latest : Option Trigger) (data : CreateTriggerData) : Prop where
  vacant : ∀ l, latest = some l → ¬ l.Completed ∧ ¬ l.Claimed
  status : data.status = .pending

def DriverUpdate (u : UpdateTriggerData) : Prop :=
  ∃ s, u.status = some s ∧ (s = .executing ∨ s = .failed ∨ s = .exhaustedNeedsRedrive ∨
    s = .terminalFailure)

structure ObserverUpdate (u : UpdateTriggerData) : Prop where
  status : u.status = some .confirmed
  stage : u.confirmationStage = some .finalized

/-- The update that hands a row over for approval. -/
def approvalUpdate : UpdateTriggerData := { status := some .pendingApproval }

/-- The process may execute the row `k`. -/
def Drives (t : Role) (a k : List Char) : Prop :=
  (∃ w, t = .driving a k w) ∨ t = .holding a k

/-- Which updates of the row `k` are allowed. -/
inductive MayUpdate (t : Role) (k : List Char) (u : UpdateTriggerData) : Prop
  | drive {a : List Char} (ht : Drives t a k) (hmax : 0 < d.maxAttempts) (hu : DriverUpdate u)
  | submit {a : List Char} (ht : t = .claimed a k ∨ t = .sent a k)
  | submitForApproval {a : List Char} (ht : t = .holding a k) (hu : u = approvalUpdate)
  | confirm {rows : List Trigger} {r : Trigger} (ht : t = .observing rows) (hr : r ∈ rows)
    (hk : r.idempotencyKey = k) (hclaimed : r.Claimed) (hu : ObserverUpdate u)

/-- The process holds the lock of `a` and may release it: it does not leave a row of its own
behind. -/
def Releases (a : List Char) : Role → Prop
  | .locked a' | .resuming _ a' | .leaving a' | .claimed a' _ | .sent a' _ => a' = a
  | .chosen a' _ | .conflicted a' _ _ => a' = a
  | .holding a' _ => a' = a ∧ d.maxAttempts = 0
  | .driving a' _ w => a' = a ∧ w.Settled
  | _ => False

/-! ### The protocol -/

def allowed (t : Role) : Op → Prop
  | .lock a => t = .idle ∨ ∃ k, t = .approved k a
  | .unlock a => Releases d a t
  | .insertTrigger data =>
    ∃ latest, t = .chosen data.actionKey latest ∧ Insertable latest data
  | .getTriggerByIdempotencyKey k =>
    match t with
    | .resuming k' _ => k' = k
    | .driving _ k' _ => k' = k
    | _ => True
  | .getLatestTriggerByActionKey a =>
    t = .locked a ∨ ∃ latest data, t = .conflicted a latest data
  | .getTriggersByStatus _ _ => t = .idle
  | .updateTrigger k u => MayUpdate d t k u
  | .approveTrigger _ _ => t = .idle
  | .rejectTrigger _ _ _ => t = .idle
  | .claimTriggerDispatch k _ => 0 < d.maxAttempts ∧ ∃ a w, t = .driving a k w
  | .escrowCall k _ => ∃ a, t = .claimed a k
  | _ => True

namespace Role

def afterLock : Role → List Char → Except Thrown Unit → Role
  | .approved k _, a, .ok _ => .resuming k a
  | _, a, .ok _ => .locked a
  | _, _, .error _ => .idle

def afterInsert : Role → CreateTriggerData → Except Thrown Trigger → Role
  | .chosen a _, data, .ok row =>
    if row.requestId = data.requestId then .holding a row.idempotencyKey
    else .leaving a
  | .chosen a latest, data, .error e =>
    if e.IsUniqueViolation then .conflicted a latest data else .leaving a
  | t, _, _ => t

def afterLookup : Role → List Char → Except Thrown (Option Trigger) → Role
  | .resuming k a, _, .ok row =>
    if (row.filter fun r => r.Completed).isSome then .leaving a else .driving a k .nothing
  | .resuming _ a, _, .error _ => .leaving a
  | .driving a k w, _, .ok (some row) => if row.Claimed then .leaving a else .driving a k w
  | t, _, _ => t

def afterLatest : Role → Except Thrown (Option Trigger) → Role
  | .locked a, .ok latest => .chosen a latest
  | .locked a, .error _ => .leaving a
  | .conflicted a _ data, .ok (some row) =>
    if row.requestId = data.requestId then .holding a row.idempotencyKey
    else .leaving a
  | .conflicted a _ _, _ => .leaving a
  | t, _ => t

def written (u : UpdateTriggerData) : Except Thrown Unit → Written
  | .ok _ =>
    match u.status with
    | some s => .status s
    | none => .unknown
  | .error _ => .unknown

def afterUpdate : Role → UpdateTriggerData → Except Thrown Unit → Role
  | .holding a k, u, r =>
    if u.status = some .pendingApproval then .leaving a else .driving a k (written u r)
  | .driving a k _, u, r => .driving a k (written u r)
  | t, _, _ => t

def afterClaim : Role → Except Thrown Bool → Role
  | .driving a k _, .ok true => .claimed a k
  | t, _ => t

def afterApprove : Role → Except Thrown (Option Trigger) → Role
  | _, .ok (some row) => .approved row.idempotencyKey row.actionKey
  | t, _ => t

def afterPoll : Role → Except Thrown (List Trigger) → Role
  | _, .ok rows => .observing rows
  | t, _ => t

def afterSend : Role → Role
  | .claimed a k => .sent a k
  | t => t

def next (t : Role) : (o : Op) → Except Thrown (Ans o) → Role
  | .lock a, r => t.afterLock a r
  | .unlock _, _ => .idle
  | .insertTrigger data, r => t.afterInsert data r
  | .getTriggerByIdempotencyKey k, r => t.afterLookup k r
  | .getLatestTriggerByActionKey _, r => t.afterLatest r
  | .getTriggersByStatus _ _, r => t.afterPoll r
  | .updateTrigger _ u, r => t.afterUpdate u r
  | .approveTrigger _ _, r => t.afterApprove r
  | .claimTriggerDispatch _ _, r => t.afterClaim r
  | .escrowCall _ _, _ => t.afterSend
  | _, _ => t

end Role

/-- What the database answers truthfully. -/
def answers : (o : Op) → Except Thrown (Ans o) → Prop
  | .getLatestTriggerByActionKey a, r => ∀ row, r = .ok (some row) → row.actionKey = a
  | _, _ => True

def protocol : Protocol Op Ans Thrown Role where
  allowed := allowed d
  answers := answers
  next := Role.next

/-- The roles in which a call ends. -/
def Ended (t : Role) : Prop := t = .idle ∨ ∃ rows, t = .observing rows

/-! ### Code that keeps its role -/

variable {tradeId hash : List Char} {b : SettlementFundedBinding} {triggerType : TriggerType}
  {scope : SignerScope}

section Neutral

variable {d}

/-- The operations that matter to no role. -/
def isNeutral : Op → Bool
  | .getUnresolvedSignerDispatch _ => true
  | .storeFinality _ _ => true
  | .retainedFinality _ _ _ => true
  | .getTrade _ => true
  | .isTradePaused _ => true
  | .containment _ => true
  | .witnessFunding _ => true
  | .signerAddress => true
  | .witnessDispatch _ _ => true
  | .witnessProgression _ _ => true
  | .findConfirmationEvent _ _ _ => true
  | .waitReceipt _ => true
  | .randomId => true
  | .now => true
  | .notify _ _ => true
  | _ => false

theorem neutral {o : Op} (h : isNeutral o = true) : (protocol d).Neutral o := by
  intro t
  cases o <;> first | exact ⟨trivial, fun _ => rfl⟩ | cases h

theorem keeps_ask {o : Op} (h : isNeutral o = true) :
    Keeps (protocol d) (ask o) fun _ => True :=
  (Keeps.call (neutral h)).mono fun _ _ => trivial

theorem keeps_getTrade :
    Keeps (protocol d) (getTrade tradeId) fun _ => True := by
  refine Keeps.bind (keeps_ask (by rfl)) fun trade _ => ?_
  split_ifs
  · exact Keeps.throw
  · exact Keeps.pure trivial

theorem keeps_verifyFundedSettlementBinding :
    Keeps (protocol d) (verifyFundedSettlementBinding d b) fun _ => True :=
  Keeps.ofExcept.bind fun _ _ => Keeps.ofExcept.bind fun _ _ => keeps_ask (by rfl)

theorem keeps_assertFundedBinding :
    Keeps (protocol d) (assertFundedBinding d b) fun _ => True :=
  Keeps.ofExcept.bind fun _ _ => keeps_verifyFundedSettlementBinding.bind fun _ _ =>
    keeps_getTrade.bind fun _ _ => Keeps.ofExcept.mono fun _ _ => trivial

theorem keeps_assertMayProgress :
    Keeps (protocol d) (assertMayProgress tradeId) fun _ => True := by
  refine Keeps.bind (Keeps.tryCatch (keeps_ask (by rfl)) fun _ => Keeps.throw)
    fun row _ => ?_
  cases row
  · exact Keeps.pure trivial
  · exact Keeps.throw

theorem keeps_assertTradeMayProgress :
    Keeps (protocol d) (assertTradeMayProgress tradeId) fun _ => True := by
  refine Keeps.bind (keeps_ask (by rfl)) fun paused _ => ?_
  split_ifs
  · exact Keeps.throw
  · exact keeps_assertMayProgress

theorem keeps_getDispatchSignerScope :
    Keeps (protocol d) (getDispatchSignerScope d) fun _ => True :=
  Keeps.bind (keeps_ask (by rfl)) fun _ _ => Keeps.pure trivial

theorem keeps_verifyDispatchFinality :
    Keeps (protocol d) (verifyDispatchFinality d scope hash) fun _ => True := by
  refine Keeps.ofExcept.bind fun address _ => ?_
  split
  · split_ifs
    · refine Keeps.bind (keeps_ask (by rfl)) fun seen _ => ?_
      exact Keeps.bind (keeps_ask (by rfl)) fun _ _ => Keeps.pure trivial
    · exact Keeps.throw
  · exact Keeps.throw

theorem keeps_resolveSignerDispatch {k : List Char} {e : OracleDispatchFinality} :
    Keeps (protocol d) (resolveSignerDispatch k e) fun _ => True := by
  refine Keeps.bind (keeps_ask (by rfl)) fun present _ => ?_
  refine Keeps.bind (keeps_ask (by rfl)) fun later _ => ?_
  split_ifs
  · refine Keeps.bind (keeps_ask (by rfl)) fun stored _ => ?_
    split_ifs
    · exact Keeps.pure trivial
    · refine Keeps.bind (keeps_ask (by rfl)) fun retained _ => ?_
      cases retained with
      | none => exact Keeps.throw
      | some =>
        simp only
        split_ifs
        · exact Keeps.pure trivial
        · exact Keeps.throw
  · exact Keeps.throw

theorem keeps_settleSigner {trigger : Trigger} :
    Keeps (protocol d) (settleSigner d trigger scope) fun _ => True := by
  refine Keeps.bind (keeps_ask (by rfl)) fun unresolved _ => ?_
  cases unresolved with
  | none => exact Keeps.pure trivial
  | some =>
    dsimp only
    split
    · exact Keeps.pure trivial
    · split
      · split
        · exact keeps_verifyDispatchFinality.bind fun _ _ => keeps_resolveSignerDispatch
        · exact Keeps.throw
      · exact Keeps.throw

theorem keeps_notifyTerminalStatus {status : TriggerStatus} {message : List Char} :
    Keeps (protocol d) (notifyTerminalStatus status message) fun _ => True :=
  keeps_ask (by rfl)

end Neutral

/-! ### Execution -/

variable {u : UpdateTriggerData}

section Execution

variable {d} {t : Role} {a k : List Char} {trigger : Trigger} {actionKey : List Char}
  {attempt : ℕ}

theorem Drives.of_driving {w : Written} : Drives (.driving a k w) a k := Or.inl ⟨w, rfl⟩

theorem DriverUpdate.ne_pendingApproval (h : DriverUpdate u) :
    u.status ≠ some .pendingApproval := by
  obtain ⟨s, hs, h⟩ := h
  rw [hs]
  rcases h with rfl | rfl | rfl | rfl <;> simp

/-- A driver goes on driving after its update, and knows what it wrote. -/
theorem Drives.afterUpdate {r : Except Thrown Unit}
    (h : Drives t a k) (hu : DriverUpdate u) :
    t.afterUpdate u r = .driving a k (Role.written u r) := by
  rcases h with ⟨w, rfl⟩ | rfl
  · rfl
  · exact if_neg hu.ne_pendingApproval

/-- The update of a driver: if it works, the driver knows the status. -/
theorem Drives.wp_update {β : Type} {s : TriggerStatus}
    {f : Unit → Code β} {Q : Role → β → Prop} {X : Role → Thrown → Prop}
    (h : Drives t a k) (hmax : 0 < d.maxAttempts) (hu : DriverUpdate u)
    (hs : u.status = some s)
    (hok : wp (protocol d) (f ()) Q X (.driving a k (.status s)))
    (herror : ∀ e, X (.driving a k .unknown) e) :
    wp (protocol d) (ask (.updateTrigger k u) >>= f) Q X t := by
  rw [wp_bind, wp_call]
  refine ⟨.drive h hmax hu, fun _ _ => ?_, fun e _ => ?_⟩
  · have hnext : (protocol d).next t (.updateTrigger k u) (.ok ()) =
        .driving a k (.status s) := by
      show t.afterUpdate u (.ok ()) = _
      rw [h.afterUpdate hu, Role.written, hs]
    rw [hnext]
    exact hok
  · have hnext : (protocol d).next t (.updateTrigger k u) (.error e) =
        .driving a k .unknown := h.afterUpdate hu
    rw [hnext]
    exact herror e

/-- Up to the claim the process goes on driving. -/
theorem claimDispatch_wp (hmax : 0 < d.maxAttempts)
    (ht : Drives t a trigger.idempotencyKey) :
    wp (protocol d) (claimDispatch d trigger actionKey attempt)
      (fun t' r => match r with
        | none => t' = .claimed a trigger.idempotencyKey
        | some _ => t' = .leaving a)
      (fun t' _ => Drives t' a trigger.idempotencyKey) t := by
  refine keeps_getTrade.wp_bind (fun trade _ => ?_) fun _ => ht
  refine Keeps.ofExcept.wp_bind (fun _ _ => ?_) fun _ => ht
  refine ht.wp_update hmax ⟨_, rfl, Or.inl rfl⟩ rfl ?_ fun _ => .of_driving
  split_ifs
  · exact .of_driving
  refine Keeps.ofExcept.wp_bind (fun binding _ => ?_) fun _ => .of_driving
  refine keeps_assertFundedBinding.wp_bind (fun _ _ => ?_) fun _ => .of_driving
  refine keeps_assertMayProgress.wp_bind (fun _ _ => ?_) fun _ => .of_driving
  refine keeps_getDispatchSignerScope.wp_bind (fun scope _ => ?_) fun _ => .of_driving
  refine keeps_settleSigner.wp_bind (fun _ _ => ?_) fun _ => .of_driving
  rw [wp_bind, claimTriggerDispatch]
  split_ifs
  · rw [wp_call]
    refine ⟨⟨hmax, a, _, rfl⟩, fun claimed _ => ?_, fun _ _ => .of_driving⟩
    cases claimed with
    | true => exact rfl
    | false =>
      -- the claim was refused: the row tells whether it was claimed before
      show wp (protocol d) (_ >>= _) _ _ (.driving a trigger.idempotencyKey _)
      rw [wp_bind, wp_call]
      refine ⟨rfl, fun original _ => ?_, fun _ _ => .of_driving⟩
      cases original with
      | none => exact .of_driving
      | some row =>
        by_cases hclaimed : row.Claimed
        · have hnext : (protocol d).next (.driving a trigger.idempotencyKey
              (.status .executing)) (.getTriggerByIdempotencyKey trigger.idempotencyKey)
              (.ok (some row)) = .leaving a := if_pos hclaimed
          rw [hnext]
          dsimp only
          rw [if_pos hclaimed]
          exact rfl
        · have hnext : (protocol d).next (.driving a trigger.idempotencyKey
              (.status .executing)) (.getTriggerByIdempotencyKey trigger.idempotencyKey)
              (.ok (some row)) = .driving a trigger.idempotencyKey (.status .executing) :=
            if_neg hclaimed
          rw [hnext]
          dsimp only
          rw [if_neg hclaimed]
          exact .of_driving
  · exact .of_driving

/-- After its claim a process only sends and reports. -/
theorem reportUnresolved_wp {observedHash : Option (List Char)}
    (ht : t = .claimed a trigger.idempotencyKey ∨ t = .sent a trigger.idempotencyKey) :
    wp (protocol d) (reportUnresolved trigger actionKey observedHash)
      (fun t' _ => Releases d a t') (fun t' _ => Releases d a t') t := by
  have hstays : ∀ r u, t.afterUpdate u r = t := by
    intro r u
    rcases ht with rfl | rfl <;> rfl
  have hreleases : Releases d a t := by rcases ht with rfl | rfl <;> exact rfl
  unfold reportUnresolved
  rw [wp_bind, wp_call]
  refine ⟨.submit ht, fun _ _ => ?_, fun e _ => ?_⟩
  · show Releases d a (t.afterUpdate _ _)
    rw [hstays]
    exact hreleases
  · show Releases d a (t.afterUpdate _ _)
    rw [hstays]
    exact hreleases

theorem followTransaction_wp {observedHash : List Char} :
    wp (protocol d) (followTransaction trigger observedHash)
      (fun t' _ => t' = .sent a trigger.idempotencyKey)
      (fun t' _ => t' = .sent a trigger.idempotencyKey) (.sent a trigger.idempotencyKey) := by
  refine Keeps.wp_bind (keeps_ask (by rfl)) (fun submittedAt _ => ?_) fun _ => rfl
  rw [wp_bind, wp_call]
  refine ⟨.submit (Or.inr rfl), fun _ _ => ?_, fun _ _ => rfl⟩
  refine Keeps.wp_bind (keeps_ask (by rfl)) (fun result _ => ?_) fun _ => rfl
  refine Keeps.wp_bind (keeps_ask (by rfl)) (fun receivedAt _ => ?_) fun _ => rfl
  rw [wp_bind, wp_call]
  exact ⟨.submit (Or.inr rfl), fun _ _ => rfl, fun _ _ => rfl⟩

/-- The escrow call is started at most once. -/
theorem startEscrowCall_wp :
    wp (protocol d) (startEscrowCall trigger)
      (fun t' _ => t' = .sent a trigger.idempotencyKey)
      (fun t' _ => t' = .claimed a trigger.idempotencyKey ∨ t' = .sent a trigger.idempotencyKey)
      (.claimed a trigger.idempotencyKey) := by
  have hcall : ∀ call, wp (protocol d) (ask (.escrowCall trigger.idempotencyKey call))
      (fun t' hash => wp (protocol d)
        (if IsHex 64 hash then pure (toLowerCase hash)
          else throwThe Thrown (validationError
            (lit "Oracle broadcast returned an invalid transaction identity")))
        (fun t' _ => t' = .sent a trigger.idempotencyKey)
        (fun t' _ => t' = .claimed a trigger.idempotencyKey ∨
          t' = .sent a trigger.idempotencyKey) t')
      (fun t' _ => t' = .claimed a trigger.idempotencyKey ∨ t' = .sent a trigger.idempotencyKey)
      (.claimed a trigger.idempotencyKey) := by
    intro call
    rw [wp_call]
    refine ⟨⟨a, rfl⟩, fun hash _ => ?_, fun _ _ => Or.inr rfl⟩
    split_ifs
    · exact rfl
    · exact Or.inr rfl
  unfold startEscrowCall
  rw [wp_bind]
  unfold submitTriggerAction
  cases trigger.triggerType
  case finalizeAfterInspectionAcceptance => exact Or.inl rfl
  all_goals exact hcall _

theorem sendClaimed_wp :
    wp (protocol d) (sendClaimed trigger actionKey) (fun t' _ => Releases d a t')
      (fun t' _ => Releases d a t') (.claimed a trigger.idempotencyKey) := by
  unfold sendClaimed
  rw [wp_bind, wp_attempt]
  refine wp_mono _ ?_ (fun t' e ht' => reportUnresolved_wp ht') startEscrowCall_wp
  rintro _ observedHash rfl
  show wp (protocol d) (_ >>= _) _ _ _
  rw [wp_bind, wp_attempt]
  refine wp_mono _ ?_ ?_ followTransaction_wp
  · rintro _ result rfl
    exact rfl
  · rintro _ e rfl
    exact reportUnresolved_wp (Or.inr rfl)

/-- A recorded failure is either settled, or there is another attempt. -/
theorem recordFailure_wp {error : Thrown} (hmax : attempt ≤ d.maxAttempts) (hpos : 0 < attempt)
    (ht : Drives t a trigger.idempotencyKey) :
    wp (protocol d) (recordFailure d trigger actionKey attempt error)
      (fun t' r => match r with
        | some _ => Releases d a t'
        | none => Drives t' a trigger.idempotencyKey ∧ attempt < d.maxAttempts)
      (fun t' _ => Releases d a t') t := by
  unfold recordFailure
  dsimp only
  set next := determineNextStatus (classifyError error) attempt d.maxAttempts with hnext
  have hcases : next = .terminalFailure ∨ next = .exhaustedNeedsRedrive ∨
      next = .failed ∧ attempt < d.maxAttempts ∧ (classifyError error).isTerminal = false := by
    rw [hnext, determineNextStatus]
    split_ifs with hterminal hattempts
    · exact Or.inl rfl
    · exact Or.inr (Or.inl rfl)
    · exact Or.inr (Or.inr ⟨rfl, Nat.lt_of_not_le hattempts, by simpa using hterminal⟩)
  have hu : ∀ u : UpdateTriggerData, u.status = some next → DriverUpdate u := by
    intro u hs
    refine ⟨next, hs, ?_⟩
    rcases hcases with h | h | ⟨h, -⟩ <;> simp [h]
  have hunknown : Releases d a (.driving a trigger.idempotencyKey .unknown) :=
    ⟨rfl, by simp [Written.Settled]⟩
  refine ht.wp_update (by omega) (hu _ rfl) rfl ?_ fun _ => hunknown
  rcases hcases with h | h | ⟨h, hlt, hterminal⟩
  · have hsettled : Releases d a (.driving a trigger.idempotencyKey (.status next)) :=
      ⟨rfl, by simp [Written.Settled, h]⟩
    rw [if_pos h]
    exact keeps_notifyTerminalStatus.wp_bind (fun _ _ => hsettled) fun _ => hsettled
  · have hsettled : Releases d a (.driving a trigger.idempotencyKey (.status next)) :=
      ⟨rfl, by simp [Written.Settled, h]⟩
    rw [if_neg (by simp [h]), if_pos h]
    exact keeps_notifyTerminalStatus.wp_bind (fun _ _ => hsettled) fun _ => hsettled
  · rw [if_neg (by simp [h]), if_neg (by simp [h]), if_pos ⟨hlt, hterminal⟩]
    exact ⟨.of_driving, hlt⟩

/-- The loop ends with the row settled, or with a claim.  Without attempts it leaves the row
alone. -/
theorem attemptFrom_wp {left : ℕ} (hpos : 0 < attempt) (hsum : attempt + left = d.maxAttempts + 1)
    (hleft : left = 0 → Releases d a t) (ht : Drives t a trigger.idempotencyKey) :
    wp (protocol d) (attemptFrom d trigger actionKey left attempt)
      (fun t' _ => Releases d a t') (fun t' _ => Releases d a t') t := by
  induction left generalizing attempt t with
  | zero => exact hleft rfl
  | succ left ih =>
    have hmax : attempt ≤ d.maxAttempts := by omega
    rw [attemptFrom, wp_bind, wp_attempt]
    refine wp_mono _ ?_ ?_ (claimDispatch_wp (by omega) ht)
    · rintro t' (_ | response) ht'
      · rw [ht']
        exact sendClaimed_wp
      · rw [ht']
        exact rfl
    · intro t' error ht'
      show wp (protocol d) (_ >>= _) _ _ _
      rw [wp_bind]
      refine wp_mono _ ?_ (fun _ _ h => h) (recordFailure_wp hmax hpos ht')
      rintro t'' (_ | response) h
      · obtain ⟨hdrives, hlt⟩ := h
        exact ih (by omega) (by omega) (fun h => by omega) hdrives
      · exact h

theorem executeTriggerWithRetry_wp (hzero : d.maxAttempts = 0 → Releases d a t)
    (ht : Drives t a trigger.idempotencyKey) :
    wp (protocol d) (executeTriggerWithRetry d trigger actionKey)
      (fun t' _ => Releases d a t') (fun t' _ => Releases d a t') t :=
  attemptFrom_wp Nat.one_pos (Nat.add_comm _ _) hzero ht

end Execution

/-! ### Requests -/

variable {rows : List Trigger}

section Requests

variable {d} {a : List Char} {latest : Option Trigger}
  {data : CreateTriggerData} {request : TriggerRequest}

/-- A process that created a row holds one for its request, or leaves. -/
theorem createTrigger_wp (hdata : Insertable latest data)
    (ha : data.actionKey = a) :
    wp (protocol d) (createTrigger data)
      (fun t' row => t' = if row.requestId = data.requestId then
        .holding a row.idempotencyKey else .leaving a)
      (fun t' _ => Releases d a t') (.chosen a latest) := by
  subst ha
  unfold createTrigger
  rw [wp_tryCatch, wp_call]
  refine ⟨⟨latest, rfl, hdata⟩, fun row _ => rfl, fun error _ => ?_⟩
  by_cases hunique : error.IsUniqueViolation
  · have hnext : (protocol d).next (.chosen data.actionKey latest) (.insertTrigger data)
        (.error error) = .conflicted data.actionKey latest data := if_pos hunique
    rw [hnext, if_pos hunique, wp_bind, wp_call]
    refine ⟨Or.inr ⟨_, _, rfl⟩, fun existing _ => ?_, fun _ _ => rfl⟩
    cases existing with
    | none | some => exact rfl
  · have hnext : (protocol d).next (.chosen data.actionKey latest) (.insertTrigger data)
        (.error error) = .leaving data.actionKey := if_neg hunique
    rw [hnext, if_neg hunique]
    exact rfl

theorem handleRedrive_wp {l : Trigger} (hvacant : ¬ l.Completed ∧ ¬ l.Claimed)
    (ha : l.actionKey = a) :
    wp (protocol d) (handleRedrive d l) (fun t' _ => Releases d a t')
      (fun t' _ => Releases d a t') (.chosen a (some l)) := by
  refine Keeps.ofExcept.wp_bind (fun binding _ => ?_) fun _ => rfl
  refine keeps_assertFundedBinding.wp_bind (fun _ _ => ?_) fun _ => rfl
  refine keeps_assertTradeMayProgress.wp_bind (fun _ _ => ?_) fun _ => rfl
  split_ifs
  · exact rfl
  refine keeps_getTrade.wp_bind (fun trade _ => ?_) fun _ => rfl
  refine Keeps.ofExcept.wp_bind (fun _ _ => ?_) fun _ => rfl
  refine Keeps.wp_bind (keeps_ask (by rfl)) (fun newRequestId _ => ?_) fun _ => rfl
  refine Keeps.wp_bind (keeps_ask (by rfl)) (fun suffix _ => ?_) fun _ => rfl
  refine Keeps.ofExcept.wp_bind (fun fundedBinding _ => ?_) fun _ => rfl
  have hnone : ∀ l', some l = some l' → ¬ l'.Completed ∧ ¬ l'.Claimed := by
    rintro l' hl'
    cases hl'
    exact hvacant
  rw [wp_bind]
  refine wp_mono _ ?_ (fun _ _ h => h) (createTrigger_wp ⟨hnone, rfl⟩ ha)
  intro t' row ht'
  split_ifs with hrequest
  · rw [ht', if_neg hrequest]
    exact rfl
  · rw [not_not] at hrequest
    rw [ht', if_pos hrequest]
    exact executeTriggerWithRetry_wp (fun hzero => ⟨rfl, hzero⟩) (Or.inr rfl)

theorem admitRequest_wp (hvacant : ∀ l, latest = some l → ¬ l.Completed ∧ ¬ l.Claimed) :
    wp (protocol d) (admitRequest d request a) (fun t' _ => Releases d a t')
      (fun t' _ => Releases d a t') (.chosen a latest) := by
  refine keeps_getTrade.wp_bind (fun trade _ => ?_) fun _ => rfl
  refine Keeps.ofExcept.wp_bind (fun _ _ => ?_) fun _ => rfl
  refine keeps_assertTradeMayProgress.wp_bind (fun _ _ => ?_) fun _ => rfl
  rw [wp_bind]
  refine Keeps.ofExcept.wp_bind (fun fundedBinding _ => ?_) fun _ => rfl
  refine wp_mono _ ?_ (fun _ _ h => h) (createTrigger_wp ⟨hvacant, rfl⟩ rfl)
  intro t' row ht'
  split_ifs with hrequest
  · rw [ht', if_neg hrequest]
    exact rfl
  · rw [not_not] at hrequest
    rw [ht', if_pos hrequest, wp_bind, wp_call]
    exact ⟨.submitForApproval rfl rfl, fun _ _ => rfl, fun _ _ => rfl⟩
  · rw [not_not] at hrequest
    rw [ht', if_pos hrequest]
    exact executeTriggerWithRetry_wp (fun hzero => ⟨rfl, hzero⟩) (Or.inr rfl)

theorem processRequest_wp (hvacant : ∀ l, latest = some l → ¬ l.Completed ∧ ¬ l.Claimed) :
    wp (protocol d) (processRequest d request a) (fun t' _ => Releases d a t')
      (fun t' _ => Releases d a t') (.chosen a latest) := by
  unfold processRequest
  rw [wp_bind, wp_call]
  refine ⟨trivial, fun existing _ => ?_, fun _ _ => rfl⟩
  cases existing with
  | some => exact rfl
  | none =>
    show wp (protocol d) (_ >>= _) _ _ (.chosen a latest)
    refine Keeps.ofExcept.wp_bind (fun binding _ => ?_) fun _ => rfl
    refine keeps_assertFundedBinding.wp_bind (fun _ _ => ?_) fun _ => rfl
    rw [wp_tryCatch]
    exact wp_mono _ (fun _ _ h => h) (fun _ _ h => h) (admitRequest_wp hvacant)

theorem executeTriggerWithActionLock_wp :
    wp (protocol d) (executeTriggerWithActionLock d request a)
      (fun t' _ => Releases d a t') (fun t' _ => Releases d a t') (.locked a) := by
  unfold executeTriggerWithActionLock
  rw [wp_bind, wp_call]
  refine ⟨Or.inl rfl, fun latest hlatest => ?_, fun _ _ => rfl⟩
  cases latest with
  | none => exact processRequest_wp fun l hl => by cases hl
  | some l =>
    show wp (protocol d) (_ >>= _) _ _ (.chosen a (some l))
    refine Keeps.ofExcept.wp_bind (fun _ _ => ?_) fun _ => rfl
    split_ifs with hclaimed hcompleted hredrive
    · exact rfl
    · exact rfl
    · have hvacant : ¬ l.Completed ∧ ¬ l.Claimed :=
        ⟨hcompleted, fun h => hclaimed ⟨h, hcompleted⟩⟩
      exact handleRedrive_wp hvacant (hlatest l rfl)
    · refine processRequest_wp fun l' hl' => ?_
      cases hl'
      exact ⟨hcompleted, fun h => hclaimed ⟨h, hcompleted⟩⟩

/-- A process that works under a lock ends without it. -/
theorem withLock_wp {α : Type} {work : Code α} {t : Role}
    (ht : t = .idle ∨ ∃ k, t = .approved k a)
    (hwork : wp (protocol d) work (fun t' _ => Releases d a t') (fun t' _ => Releases d a t')
      (t.afterLock a (.ok ()))) :
    wp (protocol d) (withLock a work) (fun t' _ => t' = .idle) (fun t' _ => t' = .idle) t := by
  have hunlock : ∀ (t' : Role) (Q : Unit → Prop), (∀ u, Q u) → Releases d a t' →
      wp (protocol d) (ask (.unlock a)) (fun t'' u => t'' = .idle ∧ Q u)
        (fun t'' _ => t'' = .idle) t' := by
    intro t' Q hQ hr
    rw [wp_call]
    exact ⟨hr, fun u _ => ⟨rfl, hQ u⟩, fun _ _ => rfl⟩
  unfold withLock
  rw [wp_bind, wp_call]
  refine ⟨ht, fun _ _ => ?_, fun e _ => ?_⟩
  · rw [wp_tryFinally]
    refine wp_mono _ ?_ ?_ hwork
    · intro t' x hr
      exact wp_mono _ (fun _ _ h => h.1) (fun _ _ h => h) (hunlock t' _ (fun _ => trivial) hr)
    · intro t' x hr
      exact wp_mono _ (fun _ _ h => h.1) (fun _ _ h => h) (hunlock t' _ (fun _ => trivial) hr)
  · rcases ht with rfl | ⟨k, rfl⟩ <;> exact rfl

theorem executeTrigger_wp :
    wp (protocol d) (executeTrigger d request) (fun t' _ => t' = .idle)
      (fun t' _ => t' = .idle) .idle := by
  refine Keeps.ofExcept.wp_bind (fun _ _ => ?_) fun _ => rfl
  exact withLock_wp (Or.inl rfl) executeTriggerWithActionLock_wp

theorem alreadyProcessed_wp {k : List Char} :
    wp (protocol d) (alreadyProcessed k) (fun t' _ => t' = .idle) (fun t' _ => t' = .idle)
      .idle := by
  unfold alreadyProcessed
  rw [wp_bind, wp_call]
  refine ⟨trivial, fun existing _ => ?_, fun _ _ => rfl⟩
  cases existing <;> exact rfl

theorem resumeApproved_wp {updated : Trigger} :
    wp (protocol d) (resumeApproved d updated) (fun t' _ => Releases d a t')
      (fun t' _ => Releases d a t') (.resuming updated.idempotencyKey a) := by
  unfold resumeApproved
  rw [wp_bind, wp_call]
  refine ⟨rfl, fun current _ => ?_, fun _ _ => rfl⟩
  cases hfilter : current.filter fun row => row.Completed with
  | some =>
    have hnext : (protocol d).next (.resuming updated.idempotencyKey a)
        (.getTriggerByIdempotencyKey updated.idempotencyKey) (.ok current) = .leaving a := by
      show (if _ then _ else _) = _
      rw [hfilter]
      rfl
    rw [hnext]
    exact rfl
  | none =>
    have hnext : (protocol d).next (.resuming updated.idempotencyKey a)
        (.getTriggerByIdempotencyKey updated.idempotencyKey) (.ok current) =
          .driving a updated.idempotencyKey .nothing := by
      show (if _ then _ else _) = _
      rw [hfilter]
      rfl
    have hreleases : Releases d a (.driving a updated.idempotencyKey .nothing) :=
      ⟨rfl, by simp [Written.Settled]⟩
    rw [hnext]
    refine keeps_assertTradeMayProgress.wp_bind (fun _ _ => ?_) fun _ => hreleases
    exact executeTriggerWithRetry_wp (fun _ => hreleases) .of_driving

theorem resumeAfterApproval_wp {k actor : List Char} :
    wp (protocol d) (resumeAfterApproval d k actor) (fun t' _ => t' = .idle)
      (fun t' _ => t' = .idle) .idle := by
  unfold resumeAfterApproval
  rw [wp_bind, wp_call]
  refine ⟨rfl, fun updated _ => ?_, fun _ _ => rfl⟩
  cases updated with
  | none => exact alreadyProcessed_wp
  | some => exact withLock_wp (Or.inr ⟨_, rfl⟩) resumeApproved_wp

theorem rejectPendingTrigger_wp {k actor : List Char} {reason : Option (List Char)} :
    wp (protocol d) (rejectPendingTrigger k actor reason) (fun t' _ => t' = .idle)
      (fun t' _ => t' = .idle) .idle := by
  unfold rejectPendingTrigger
  rw [wp_bind, wp_call]
  refine ⟨rfl, fun updated _ => ?_, fun _ _ => rfl⟩
  cases updated with
  | none => exact alreadyProcessed_wp
  | some => exact rfl

/-! ### The worker -/

theorem keeps_verifyProgressionReceipt :
    Keeps (protocol d) (verifyProgressionReceipt d scope hash b) fun _ => True := by
  refine keeps_assertFundedBinding.bind fun _ _ => Keeps.ofExcept.bind fun binding _ => ?_
  refine keeps_verifyDispatchFinality.bind fun evidence _ => ?_
  split_ifs
  · exact Keeps.throw
  · exact Keeps.bind (keeps_ask (by rfl)) fun _ _ => Keeps.pure trivial
  · exact Keeps.throw

theorem confirmDispatch_wp {trigger : Trigger} (hmem : trigger ∈ rows)
    (hclaimed : trigger.Claimed) :
    wp (protocol d) (confirmDispatch d trigger scope hash) (fun t' _ => t' = .observing rows)
      (fun t' _ => t' = .observing rows) (.observing rows) := by
  refine Keeps.ofExcept.wp_bind (fun binding hbinding => ?_) fun _ => rfl
  refine keeps_verifyProgressionReceipt.wp_bind (fun evidence _ => ?_) fun _ => rfl
  refine Keeps.wp_bind (keeps_ask (by rfl)) (fun event _ => ?_) fun _ => rfl
  cases event with
  | none => exact rfl
  | some =>
    dsimp only
    split_ifs
    · refine keeps_resolveSignerDispatch.wp_bind (fun _ _ => ?_) fun _ => rfl
      rw [wp_call]
      exact ⟨.confirm rfl hmem rfl hclaimed ⟨rfl, rfl⟩, fun _ _ => rfl, fun _ _ => rfl⟩
    · exact rfl

theorem keeps_reportOverdue {trigger : Trigger} :
    Keeps (protocol d) (reportOverdue trigger) fun _ => True := by
  unfold reportOverdue
  split
  · exact Keeps.pure trivial
  · refine Keeps.bind (keeps_ask (by rfl)) fun present _ => ?_
    split_ifs
    · exact Keeps.bind (Keeps.attempt (keeps_ask (by rfl))) fun _ _ => Keeps.pure trivial
    · exact Keeps.pure trivial

theorem checkConfirmation_wp {trigger : Trigger} (hmem : trigger ∈ rows) :
    wp (protocol d) (checkConfirmation d trigger) (fun t' _ => t' = .observing rows)
      (fun t' _ => t' = .observing rows) (.observing rows) := by
  unfold checkConfirmation
  split
  · split_ifs with hclaimed
    · rw [wp_tryCatch]
      refine wp_mono _ (fun _ _ h => h) ?_ (confirmDispatch_wp hmem hclaimed.2.2)
      rintro _ e rfl
      exact wp_mono _ (fun _ _ h => h.1) (fun _ _ h => h) (keeps_reportOverdue _)
    · exact rfl
  · exact rfl

theorem checkAll_wp {batch : List Trigger} (hsub : batch ⊆ rows) :
    wp (protocol d) (checkAll d batch) (fun t' _ => t' = .observing rows)
      (fun t' _ => t' = .observing rows) (.observing rows) := by
  induction batch with
  | nil => exact rfl
  | cons trigger rest ih =>
    rw [List.cons_subset] at hsub
    rw [checkAll, wp_bind]
    refine wp_mono _ ?_ (fun _ _ h => h) (checkConfirmation_wp hsub.1)
    rintro _ _ rfl
    exact ih hsub.2

theorem pollConfirmations_wp :
    wp (protocol d) (pollConfirmations d) (fun t' _ => Ended t') (fun t' _ => Ended t')
      .idle := by
  unfold pollConfirmations
  rw [wp_tryCatch, wp_bind, wp_call]
  refine ⟨rfl, fun rows _ => ?_, fun _ _ => Or.inl rfl⟩
  refine wp_mono _ ?_ ?_ (checkAll_wp (List.Subset.refl rows))
  · rintro _ _ rfl
    exact Or.inr ⟨rows, rfl⟩
  · rintro _ _ rfl
    exact Or.inr ⟨rows, rfl⟩

end Requests

theorem serve_follows (q : Request) :
    Follows (protocol d) Ended (serve d q) .idle := by
  have hend : ∀ {α : Type} {p : Code α} {f : α → Option TriggerResponse},
      wp (protocol d) p (fun t' _ => Ended t') (fun t' _ => Ended t') .idle →
      wp (protocol d) (p >>= fun x => pure (f x)) (fun t' _ => Ended t') (fun t' _ => Ended t')
        .idle := by
    intro α p f h
    rw [wp_bind]
    exact wp_mono _ (fun _ _ ht => ht) (fun _ _ ht => ht) h
  cases q with
  | executeTrigger =>
    exact hend (wp_mono _ (fun _ _ => Or.inl) (fun _ _ => Or.inl) (executeTrigger_wp))
  | resumeAfterApproval =>
    exact hend (wp_mono _ (fun _ _ => Or.inl) (fun _ _ => Or.inl) resumeAfterApproval_wp)
  | rejectPendingTrigger =>
    exact hend (wp_mono _ (fun _ _ => Or.inl) (fun _ _ => Or.inl) rejectPendingTrigger_wp)
  | pollConfirmations => exact hend pollConfirmations_wp

end Cotsel.Oracle
