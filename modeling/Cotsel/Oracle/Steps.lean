import Cotsel.Oracle.Statements

/-!
# The steps of the oracle

What one operation of a process does, in its role, to the store and to its role: `Act` has a
constructor for each case, and `OracleStep.act_cases` is the inversion.  On it rests what holds of
all processes at all times (`Core`): a role that holds a lock owns it in the database, the rows that
a process deals with are there and belong to the action it has locked, and while it holds the lock
the latest row of the action stays the latest.
-/

namespace Cotsel.Oracle

open Text Sdk Interaction Runs

abbrev OracleLabel := Label Op Ans Thrown (Option TriggerResponse) ℕ Request

abbrev OracleConfig := Interaction.Config Op Ans Thrown (Option TriggerResponse) Store ℕ

/-- What happened to the store: the store before, the label, the store after. -/
abbrev Event := Transition Store OracleLabel

abbrev OracleRoles := RoleConfig Store ℕ Role

abbrev OracleStep (d : Deployment) : OracleRoles → OracleLabel → OracleRoles → Prop :=
  RoleStep (world d) (protocol d) .idle Ended

theorem truthful {d : Deployment} : Truthful (world d) (protocol d) := by
  intro _ o _ _ _ _ h
  cases o
  case getLatestTriggerByActionKey a =>
    rintro _ rfl
    rcases (query_eq (Option.some.inj h)).2 with hok | ⟨_, he⟩
    · have hmem := Table.latest_mem (Except.ok.inj hok).symm
      exact of_decide_eq_true hmem.2
    · cases he
  all_goals exact trivial

/-! ### Acts -/

/-- The store after `p` released the lock of `a`. -/
def Store.unlock (d : Deployment) (p : ℕ) (a : List Char) (s : Store) : Store :=
  if s.locks (d.hashtext a) = some p then
    { s with locks := Function.update s.locks (d.hashtext a) none } else s

/-- An update of the row `k` took effect. -/
structure Updates (k : List Char) (u : UpdateTriggerData) (s s' : Store) (old : Trigger) :
    Prop where
  key : old.idempotencyKey = k
  replaces : ∃ time, Replaces time (.updateTrigger k u) s s' old (u.apply old)
  locks : s'.locks = s.locks

/-- The answer of a statement that took effect. -/
def Acknowledged {α : Type} (a : α) (r : Except Thrown α) : Prop :=
  r = .ok a ∨ ∃ m, r = .error (.database (.unavailable m))

variable (d : Deployment) (p : ℕ) (s s' : Store)

/-- An operation of the process `p`, its answer, and the role before and after. -/
inductive Act : (o : Op) → Except Thrown (Ans o) → Role → Role → Prop
  | quiet {o : Op} {r : Except Thrown (Ans o)} {t : Role} (hs : s' = s)
      (ho : ∀ k call, o ≠ .escrowCall k call) : Act o r t t
  | resolve {k : List Char} {e : OracleDispatchFinality} {r : Except Thrown Bool} {t : Role}
      {old : Trigger} {time : ℕ} (hresolve : MayResolve e old)
      (hrep : Replaces time (.storeFinality k e) s s' old
        { old with dispatchFinalityEvidence := some e })
      (hlocks : s'.locks = s.locks) : Act (.storeFinality k e) r t t
  | lock {a : List Char} (hfree : s.locks (d.hashtext a) = none)
      (hs : s' = { s with locks := Function.update s.locks (d.hashtext a) (some p) }) :
      Act (.lock a) (.ok ()) .idle (.locked a)
  | lockApproved {a k : List Char} (hfree : s.locks (d.hashtext a) = none)
      (hs : s' = { s with locks := Function.update s.locks (d.hashtext a) (some p) }) :
      Act (.lock a) (.ok ()) (.approved k a) (.resuming k a)
  | lockFailed {a k : List Char} {e : Thrown} (hs : s' = s) :
      Act (.lock a) (.error e) (.approved k a) .idle
  | unlock {a : List Char} {r : Except Thrown Unit} {t : Role} (ht : Releases d a t)
      (hs : s' = s.unlock d p a) : Act (.unlock a) r t .idle
  | latest {a : List Char} (hs : s' = s) :
      Act (.getLatestTriggerByActionKey a) (.ok (s.latest a)) (.locked a)
        (.chosen a (s.latest a))
  | latestFailed {a : List Char} {e : Thrown} (hs : s' = s) :
      Act (.getLatestTriggerByActionKey a) (.error e) (.locked a) (.leaving a)
  | insert {data : CreateTriggerData} {latest : Option Trigger}
      (hinsertable : Insertable latest data) (happ : Appends data s s')
      (hlocks : s'.locks = s.locks) :
      Act (.insertTrigger data) (.ok data.row) (.chosen data.actionKey latest)
        (.holding data.actionKey data.idempotencyKey)
  | insertUnacknowledged {data : CreateTriggerData} {latest : Option Trigger} {m : List Char}
      (hinsertable : Insertable latest data) (happ : Appends data s s')
      (hlocks : s'.locks = s.locks) :
      Act (.insertTrigger data) (.error (.database (.unavailable m)))
        (.chosen data.actionKey latest) (.leaving data.actionKey)
  | conflict {data : CreateTriggerData} {latest : Option Trigger}
      {e : Thrown} (hs : s' = s) (hinsertable : Insertable latest data) :
      Act (.insertTrigger data) (.error e) (.chosen data.actionKey latest)
        (.conflicted data.actionKey latest data)
  | insertFailed {data : CreateTriggerData} {latest : Option Trigger}
      {e : Thrown} (hs : s' = s) :
      Act (.insertTrigger data) (.error e) (.chosen data.actionKey latest)
        (.leaving data.actionKey)
  | found {a : List Char} {latest : Option Trigger}
      {data : CreateTriggerData} {row : Trigger} (hs : s' = s) (hlatest : s.latest a = some row)
      (hrequest : row.requestId = data.requestId) :
      Act (.getLatestTriggerByActionKey a) (.ok (some row)) (.conflicted a latest data)
        (.holding a row.idempotencyKey)
  | notFound {a : List Char} {latest : Option Trigger}
      {data : CreateTriggerData} {r : Except Thrown (Option Trigger)} (hs : s' = s) :
      Act (.getLatestTriggerByActionKey a) r (.conflicted a latest data) (.leaving a)
  | approve {k actor : List Char} {old : Trigger} {time : ℕ}
      (hstatus : old.status = .pendingApproval)
      (hrep : Replaces time (.approveTrigger k actor) s s' old
        { old with status := .pending, approvedBy := some actor })
      (hlocks : s'.locks = s.locks) :
      Act (.approveTrigger k actor)
        (.ok (some { old with status := .pending, approvedBy := some actor })) .idle
        (.approved old.idempotencyKey old.actionKey)
  | approveUnacknowledged {k actor m : List Char} {old : Trigger} {time : ℕ}
      (hstatus : old.status = .pendingApproval)
      (hrep : Replaces time (.approveTrigger k actor) s s' old
        { old with status := .pending, approvedBy := some actor })
      (hlocks : s'.locks = s.locks) :
      Act (.approveTrigger k actor) (.error (.database (.unavailable m))) .idle .idle
  | reject {k actor : List Char} {reason : Option (List Char)} {r : Except Thrown (Option Trigger)}
      {old : Trigger} {time : ℕ} (hstatus : old.status = .pendingApproval)
      (hrep : Replaces time (.rejectTrigger k actor reason) s s' old
        { old with status := .rejected, rejectedBy := some actor, rejectionReason := reason })
      (hlocks : s'.locks = s.locks) : Act (.rejectTrigger k actor reason) r .idle .idle
  | resume {k a : List Char} {r : Except Thrown (Option Trigger)} (hs : s' = s)
      (hopen : ∀ row, s.lookup k = some row → ¬ row.Completed) :
      Act (.getTriggerByIdempotencyKey k) r (.resuming k a) (.driving a k .nothing)
  | resumeOver {k a : List Char} {r : Except Thrown (Option Trigger)} (hs : s' = s) :
      Act (.getTriggerByIdempotencyKey k) r (.resuming k a) (.leaving a)
  | drive {a k : List Char} {u : UpdateTriggerData} {r : Except Thrown Unit} {t : Role}
      {old : Trigger} (ht : Drives t a k) (hu : DriverUpdate u) (hup : Updates k u s s' old)
      (hr : Acknowledged () r) :
      Act (.updateTrigger k u) r t (.driving a k (Role.written u r))
  | driveFailed {a k : List Char} {u : UpdateTriggerData} {r : Except Thrown Unit} {t : Role}
      (ht : Drives t a k) (hu : DriverUpdate u) (hs : s' = s) :
      Act (.updateTrigger k u) r t (.driving a k (Role.written u r))
  | submitForApproval {a k : List Char} {r : Except Thrown Unit} {old : Trigger}
      (hup : Updates k approvalUpdate s s' old) (hr : Acknowledged () r) :
      Act (.updateTrigger k approvalUpdate) r (.holding a k) (.leaving a)
  | submitFailed {a k : List Char} {r : Except Thrown Unit} (hs : s' = s) :
      Act (.updateTrigger k approvalUpdate) r (.holding a k) (.leaving a)
  | claim {a k : List Char} {scope : SignerScope} {w : Written} {old : Trigger} {time : ℕ}
      (hmax : 0 < d.maxAttempts) (hclaim : MayClaim s.rows scope old)
      (hrep : Replaces time (.claimTriggerDispatch k scope) s s' old (claimChange time scope old))
      (hlocks : s'.locks = s.locks) :
      Act (.claimTriggerDispatch k scope) (.ok true) (.driving a k w) (.claimed a k)
  | claimUnacknowledged {a k m : List Char} {scope : SignerScope} {w : Written} {old : Trigger}
      {time : ℕ} (hmax : 0 < d.maxAttempts) (hclaim : MayClaim s.rows scope old)
      (hrep : Replaces time (.claimTriggerDispatch k scope) s s' old (claimChange time scope old))
      (hlocks : s'.locks = s.locks) :
      Act (.claimTriggerDispatch k scope) (.error (.database (.unavailable m))) (.driving a k w)
        (.driving a k w)
  | claimedBefore {a k : List Char} {w : Written} {row : Trigger} (hs : s' = s)
      (hrow : s.lookup k = some row) (hclaimed : row.Claimed) :
      Act (.getTriggerByIdempotencyKey k) (.ok (some row)) (.driving a k w) (.leaving a)
  | send {a k : List Char} {call : EscrowCall} {r : Except Thrown (List Char)} (hs : s' = s) :
      Act (.escrowCall k call) r (.claimed a k) (.sent a k)
  | follow {a k : List Char} {u : UpdateTriggerData} {r : Except Thrown Unit} {t : Role}
      {old : Trigger} (ht : t = .claimed a k ∨ t = .sent a k) (hup : Updates k u s s' old) :
      Act (.updateTrigger k u) r t t
  | poll {status : TriggerStatus} {limit : ℕ} {rows : List Trigger} (hs : s' = s)
      (hsub : ∀ row ∈ rows, row ∈ s.rows) :
      Act (.getTriggersByStatus status limit) (.ok rows) .idle (.observing rows)
  | confirm {k : List Char} {u : UpdateTriggerData} {r : Except Thrown Unit} {rows : List Trigger}
      {row old : Trigger} (hmem : row ∈ rows) (hk : row.idempotencyKey = k)
      (hclaimed : row.Claimed) (hu : ObserverUpdate u) (hup : Updates k u s s' old) :
      Act (.updateTrigger k u) r (.observing rows) (.observing rows)

variable {d p s s'}

theorem act_of_lock {a : List Char} {luck : Luck} {t : Role} {r : Except Thrown Unit}
    (hallowed : t = .idle ∨ ∃ k, t = .approved k a)
    (h : perform d p (.lock a) luck s = some (r, s')) :
    Act d p s s' (.lock a) r t (t.afterLock a r) := by
  rcases perform_lock h with ⟨rfl, _, rfl⟩ | ⟨rfl, hfree, rfl⟩
  · rcases hallowed with rfl | ⟨k, rfl⟩
    · exact .quiet rfl (by simp)
    · exact .lockFailed rfl
  · rcases hallowed with rfl | ⟨_, rfl⟩
    · exact .lock hfree rfl
    · exact .lockApproved hfree rfl

theorem act_of_insert {data : CreateTriggerData} {luck : Luck} {latest : Option Trigger}
    {r : Except Thrown Trigger} (hinsertable : Insertable latest data)
    (h : perform d p (.insertTrigger data) luck s = some (r, s')) :
    Act d p s s' (.insertTrigger data) r (.chosen data.actionKey latest)
      ((Role.chosen data.actionKey latest).afterInsert data r) := by
  rcases perform_insert h with ⟨rfl, _, rfl⟩ | ⟨happ, hlocks, rfl | ⟨_, rfl⟩⟩
  · unfold Role.afterInsert
    dsimp only
    split_ifs
    · exact .conflict rfl hinsertable
    · exact .insertFailed rfl
  · have hnext : (Role.chosen data.actionKey latest).afterInsert data (.ok data.row) =
        .holding data.actionKey data.idempotencyKey := if_pos rfl
    rw [hnext]
    exact .insert hinsertable happ hlocks
  · exact .insertUnacknowledged hinsertable happ hlocks

theorem act_of_lookup {k : List Char} {luck : Luck} {t : Role}
    {r : Except Thrown (Option Trigger)} (hallowed : allowed d t (.getTriggerByIdempotencyKey k))
    (h : perform d p (.getTriggerByIdempotencyKey k) luck s = some (r, s')) :
    Act d p s s' (.getTriggerByIdempotencyKey k) r t (t.afterLookup k r) := by
  obtain ⟨rfl, hr⟩ := query_eq (Option.some.inj h)
  have hquiet : t.afterLookup k r = t → Act d p s' s' (.getTriggerByIdempotencyKey k) r t
      (t.afterLookup k r) := by
    intro heq
    rw [heq]
    exact .quiet rfl (by simp)
  cases t
  case resuming k' a =>
    obtain rfl : k' = k := hallowed
    rcases hr with rfl | ⟨e, rfl⟩
    · have hnext : (Role.resuming k' a).afterLookup k' (.ok (s'.lookup k')) =
          if ((s'.lookup k').filter fun r => r.Completed).isSome then .leaving a
          else .driving a k' .nothing := rfl
      rw [hnext]
      split_ifs with hcompleted
      · exact .resumeOver rfl
      · refine .resume rfl fun row hrow hrowCompleted => hcompleted ?_
        rw [hrow]
        simp [Option.filter, hrowCompleted]
    · exact .resumeOver rfl
  case driving a k' w =>
    obtain rfl : k' = k := hallowed
    rcases hr with rfl | ⟨_, rfl⟩
    · cases hlookup : s'.lookup k' with
      | none => exact .quiet rfl (by simp)
      | some row =>
        have hnext : (Role.driving a k' w).afterLookup k' (.ok (some row)) =
            if row.Claimed then .leaving a else .driving a k' w := rfl
        rw [hnext]
        split_ifs with hclaimed
        · exact .claimedBefore rfl hlookup hclaimed
        · exact .quiet rfl (by simp)
    · exact hquiet rfl
  all_goals exact hquiet rfl

theorem act_of_latest {a : List Char} {luck : Luck} {t : Role} {r : Except Thrown (Option Trigger)}
    (hallowed : t = .locked a ∨ ∃ latest data, t = .conflicted a latest data)
    (h : perform d p (.getLatestTriggerByActionKey a) luck s = some (r, s')) :
    Act d p s s' (.getLatestTriggerByActionKey a) r t (t.afterLatest r) := by
  obtain ⟨rfl, hr⟩ := query_eq (Option.some.inj h)
  rcases hallowed with rfl | ⟨latest, data, rfl⟩
  · rcases hr with rfl | ⟨e, rfl⟩
    · exact .latest rfl
    · exact .latestFailed rfl
  · rcases hr with rfl | ⟨_, rfl⟩
    · cases hlatest : s'.latest a with
      | none => exact .notFound rfl
      | some row =>
        have hnext : (Role.conflicted a latest data).afterLatest (.ok (some row)) =
            if row.requestId = data.requestId then .holding a row.idempotencyKey
            else .leaving a := rfl
        rw [hnext]
        split_ifs with hrequest
        · exact .found rfl hlatest hrequest
        · exact .notFound rfl
    · exact .notFound rfl

theorem act_of_update {k : List Char} {u : UpdateTriggerData} {luck : Luck} {t : Role}
    {r : Except Thrown Unit} (hallowed : MayUpdate d t k u)
    (h : perform d p (.updateTrigger k u) luck s = some (r, s')) :
    Act d p s s' (.updateTrigger k u) r t (t.afterUpdate u r) := by
  have heffect : s' = s ∨ ∃ old, Updates k u s s' old ∧ Acknowledged () r := by
    rcases perform_update h with ⟨hs, -⟩ | ⟨old, hk, hrep, hlocks, hr⟩
    · exact Or.inl hs
    · exact Or.inr ⟨old, ⟨hk, ⟨_, hrep⟩, hlocks⟩, hr⟩
  cases hallowed with
  | drive ht _ hu =>
    rw [ht.afterUpdate hu]
    rcases heffect with hs | ⟨old, hup, hr⟩
    · exact .driveFailed ht hu hs
    · exact .drive ht hu hup hr
  | submit ht =>
    have hnext : t.afterUpdate u r = t := by rcases ht with rfl | rfl <;> rfl
    rw [hnext]
    rcases heffect with hs | ⟨old, hup, hr⟩
    · exact .quiet hs (by simp)
    · exact .follow ht hup
  | submitForApproval ht hu =>
    subst ht hu
    rcases heffect with hs | ⟨old, hup, hr⟩
    · exact .submitFailed hs
    · exact .submitForApproval hup hr
  | confirm ht hmem hk hclaimed hu =>
    subst ht
    rcases heffect with hs | ⟨_, hup, -⟩
    · exact .quiet hs (by simp)
    · exact .confirm hmem hk hclaimed hu hup

theorem act_of_claim {a k : List Char} {scope : SignerScope} {w : Written} {luck : Luck}
    {r : Except Thrown Bool} (hmax : 0 < d.maxAttempts)
    (h : perform d p (.claimTriggerDispatch k scope) luck s = some (r, s')) :
    Act d p s s' (.claimTriggerDispatch k scope) r (.driving a k w)
      ((Role.driving a k w).afterClaim r) := by
  rcases perform_claim h with ⟨rfl, hr⟩ | ⟨_, -, hclaim, hrep, hlocks, rfl | ⟨_, rfl⟩⟩
  · have hnext : (Role.driving a k w).afterClaim r = .driving a k w := by
      rcases r with _ | _ | _
      · rfl
      · rfl
      · exact absurd rfl hr
    rw [hnext]
    exact .quiet rfl (by simp)
  · exact .claim hmax hclaim hrep hlocks
  · exact .claimUnacknowledged hmax hclaim hrep hlocks

/-- The inversion: an operation that is allowed and performed is one of the acts. -/
theorem act_of_perform {o : Op} {luck : Luck} {t : Role} {r : Except Thrown (Ans o)}
    (hallowed : allowed d t o) (h : perform d p o luck s = some (r, s')) :
    Act d p s s' o r t (t.next o r) := by
  cases o
  case lock a => exact act_of_lock hallowed h
  case unlock a => exact .unlock hallowed (perform_unlock h)
  case insertTrigger data =>
    obtain ⟨_, rfl, hinsertable⟩ := hallowed
    exact act_of_insert hinsertable h
  case getTriggerByIdempotencyKey k => exact act_of_lookup hallowed h
  case getLatestTriggerByActionKey a => exact act_of_latest hallowed h
  case getTriggersByStatus status limit =>
    obtain rfl : t = .idle := hallowed
    obtain ⟨rfl, rfl | ⟨e, rfl⟩⟩ := query_eq (Option.some.inj h)
    · refine .poll rfl fun row hrow => ?_
      exact List.mem_of_mem_filter (List.mem_of_mem_take hrow)
    · exact .quiet rfl (by simp)
  case updateTrigger k u => exact act_of_update hallowed h
  case approveTrigger k actor =>
    obtain rfl : t = .idle := hallowed
    rcases perform_approve h with
      ⟨rfl, ⟨e, rfl⟩ | rfl⟩ | ⟨old, -, hstatus, hrep, hlocks, rfl | ⟨_, rfl⟩⟩
    · exact .quiet rfl (by simp)
    · exact .quiet rfl (by simp)
    · exact .approve hstatus hrep hlocks
    · exact .approveUnacknowledged hstatus hrep hlocks
  case rejectTrigger k actor reason =>
    obtain rfl : t = .idle := hallowed
    rcases perform_reject h with rfl | ⟨old, -, hstatus, hrep, hlocks⟩
    · exact .quiet rfl (by simp)
    · exact .reject hstatus hrep hlocks
  case claimTriggerDispatch k scope =>
    obtain ⟨hmax, a, _, rfl⟩ := hallowed
    exact act_of_claim hmax h
  case storeFinality k e =>
    rcases perform_resolve h with rfl | ⟨_, -, hresolve, hrep, hlocks⟩
    · exact .quiet rfl (by simp)
    · exact .resolve hresolve hrep hlocks
  case escrowCall k call =>
    obtain ⟨_, rfl⟩ := hallowed
    cases h
    exact .send rfl
  case getUnresolvedSignerDispatch => exact .quiet (query_eq (Option.some.inj h)).1 (by simp)
  case retainedFinality => exact .quiet (query_eq (Option.some.inj h)).1 (by simp)
  all_goals
    cases h
    exact .quiet rfl (by simp)

/-! ### What an act does to a row -/

/-- How a process in the role `t` may change a row. -/
inductive Touches (t : Role) : Trigger → Trigger → Prop
  | resolve {old : Trigger} {e : OracleDispatchFinality} (hresolve : MayResolve e old) :
      Touches t old { old with dispatchFinalityEvidence := some e }
  | approve {old : Trigger} {actor : List Char} (ht : t = .idle)
      (hstatus : old.status = .pendingApproval) :
      Touches t old { old with status := .pending, approvedBy := some actor }
  | reject {old : Trigger} {actor : List Char} {reason : Option (List Char)} (ht : t = .idle)
      (hstatus : old.status = .pendingApproval) :
      Touches t old
        { old with status := .rejected, rejectedBy := some actor, rejectionReason := reason }
  | drive {old : Trigger} {a : List Char} {u : UpdateTriggerData}
      (ht : Drives t a old.idempotencyKey) (hu : DriverUpdate u) :
      Touches t old (u.apply old)
  | submitForApproval {old : Trigger} {a : List Char} (ht : t = .holding a old.idempotencyKey) :
      Touches t old (approvalUpdate.apply old)
  | claim {old : Trigger} {a : List Char} {w : Written} {scope : SignerScope} {time : ℕ}
      (ht : t = .driving a old.idempotencyKey w) (hclaimed : ¬ old.Claimed) :
      Touches t old (claimChange time scope old)
  | follow {old : Trigger} {a : List Char} {u : UpdateTriggerData}
      (ht : t = .claimed a old.idempotencyKey ∨ t = .sent a old.idempotencyKey) :
      Touches t old (u.apply old)
  | confirm {old : Trigger} {u : UpdateTriggerData} {rows : List Trigger} {row : Trigger}
      (ht : t = .observing rows) (hmem : row ∈ rows)
      (hk : row.idempotencyKey = old.idempotencyKey) (hclaimed : row.Claimed)
      (hu : ObserverUpdate u) : Touches t old (u.apply old)

section Effect

variable {o : Op} {r : Except Thrown (Ans o)} {t t' : Role} {k : List Char} {old row : Trigger}

theorem Act.effect (h : Act d p s s' o r t t') :
    s'.rows = s.rows ∨
    (∃ time old new, Replaces time o s s' old new ∧ Touches t old new) ∨
    ∃ data latest, t = .chosen data.actionKey latest ∧
      Insertable latest data ∧ Appends data s s' := by
  cases h with
  | quiet hs | lock _ hs | lockApproved _ hs | lockFailed hs | latest hs | latestFailed hs
  | conflict hs | insertFailed hs | found hs | notFound hs | resume hs | resumeOver hs
  | claimedBefore hs | send hs | poll hs | driveFailed _ _ hs | submitFailed hs =>
    exact Or.inl (by rw [hs])
  | resolve hresolve hrep => exact Or.inr (Or.inl ⟨_, _, _, hrep, .resolve hresolve⟩)
  | unlock _ hs =>
    left
    rw [hs, Store.unlock]
    split_ifs <;> rfl
  | insert hins happ | insertUnacknowledged hins happ =>
    exact Or.inr (Or.inr ⟨_, _, rfl, hins, happ⟩)
  | approve hstatus hrep => exact Or.inr (Or.inl ⟨_, _, _, hrep, .approve rfl hstatus⟩)
  | approveUnacknowledged hstatus hrep =>
    exact Or.inr (Or.inl ⟨_, _, _, hrep, .approve rfl hstatus⟩)
  | reject hstatus hrep => exact Or.inr (Or.inl ⟨_, _, _, hrep, .reject rfl hstatus⟩)
  | drive ht hu hup =>
    obtain ⟨rfl, ⟨time, hrep⟩, -⟩ := hup
    exact Or.inr (Or.inl ⟨_, _, _, hrep, .drive ht hu⟩)
  | submitForApproval hup =>
    obtain ⟨rfl, ⟨time, hrep⟩, -⟩ := hup
    exact Or.inr (Or.inl ⟨_, _, _, hrep, .submitForApproval rfl⟩)
  | claim _ hclaim hrep | claimUnacknowledged _ hclaim hrep =>
    cases Option.some.inj hrep.rewrites.target
    exact Or.inr (Or.inl ⟨_, _, _, hrep, .claim rfl hclaim.1⟩)
  | follow ht hup =>
    obtain ⟨rfl, ⟨time, hrep⟩, -⟩ := hup
    exact Or.inr (Or.inl ⟨_, _, _, hrep, .follow ht⟩)
  | confirm hmem hk hclaimed hu hup =>
    obtain ⟨rfl, ⟨_, hrep⟩, -⟩ := hup
    exact Or.inr (Or.inl ⟨_, _, _, hrep, .confirm rfl hmem hk hclaimed hu⟩)

theorem Act.lookup (h : Act d p s s' o r t t') (hk : s.lookup k = some old) :
    s'.lookup k = some old ∨ ∃ new, s'.lookup k = some new ∧ Touches t old new := by
  rcases h.effect with hrows | ⟨_, old', new, hrep, htouch⟩ | ⟨_, _, -, -, happ⟩
  · left
    rwa [Store.lookup, hrows]
  · by_cases hkey : old'.idempotencyKey = k
    · subst hkey
      rw [hrep.lookup, Option.some.injEq] at hk
      subst hk
      exact Or.inr ⟨new, hrep.lookup_self, htouch⟩
    · left
      rw [hrep.lookup_of_ne hkey, hk]
  · left
    rw [happ.lookup_of_ne, hk]
    rintro rfl
    rw [happ.lookup_none] at hk
    cases hk

end Effect

/-! ### Steps -/

variable (d) in
/-- What a step may be: an act of one process, or a call that begins or ends. -/
inductive Moves (x x' : OracleRoles) : OracleLabel → Prop
  | act {p : ℕ} {o : Op} {r : Except Thrown (Ans o)} {t' : Role}
      (hact : Act d p x.store x'.store o r (x.roles p) t')
      (hroles : x'.roles = Function.update x.roles p t') : Moves x x' (.act p o r)
  | rest {l : OracleLabel} (p : ℕ)
      (hs : x'.store = x.store ∨ l = .crash p ∧ x'.store = abandon p x.store)
      (hroles : x'.roles = Function.update x.roles p .idle) (hl : ∀ q o r, l ≠ .act q o r) :
      Moves x x' l

theorem Moves.rest_rows {x x' : OracleRoles} {l : OracleLabel}
    (hs : x'.store = x.store ∨ l = .crash p ∧ x'.store = abandon p x.store) :
    x'.store.rows = x.store.rows := by
  rcases hs with hs | ⟨-, hs⟩ <;> rw [hs]
  rfl

namespace OracleStep

variable {x x' : OracleRoles} {l : OracleLabel} {q : ℕ} {k : List Char}

theorem moves (h : OracleStep d x l x') : Moves d x x' l := by
  cases h with
  | @call p q hp =>
    refine .rest p (Or.inl rfl) ?_ fun _ _ _ h => by cases h
    rw [← hp, Function.update_eq_self]
  | act hallowed hs => exact .act (act_of_perform hallowed hs) rfl
  | @done p => exact .rest p (Or.inl rfl) rfl fun _ _ _ h => by cases h
  | @crash p => exact .rest p (Or.inr ⟨rfl, rfl⟩) rfl fun _ _ _ h => by cases h

theorem act {o : Op} {r : Except Thrown (Ans o)} (h : OracleStep d x (.act p o r) x') :
    ∃ t', Act d p x.store x'.store o r (x.roles p) t' ∧
      x'.roles = Function.update x.roles p t' := by
  cases h with
  | act hallowed hs => exact ⟨_, act_of_perform hallowed hs, rfl⟩

/-- A process that does not act keeps its role, or its call ends. -/
theorem role_eq (h : OracleStep d x l x') (hl : ¬ ∃ o r, l = .act p o r) :
    x'.roles p = x.roles p ∨ x'.roles p = .idle := by
  cases h.moves with
  | @act _ _ _ _ _ hroles =>
    left
    rw [hroles, Function.update_of_ne]
    rintro rfl
    exact hl ⟨_, _, rfl⟩
  | rest q _ hroles =>
    rw [hroles]
    by_cases hq : p = q
    · subst hq
      exact Or.inr (Function.update_self ..)
    · exact Or.inl (Function.update_of_ne hq ..)

theorem rows (h : OracleStep d x l x') :
    x'.store.rows = x.store.rows ∨ ∃ p o r luck, l = .act p o r ∧
      perform d p o luck x.store = some (r, x'.store) := by
  cases h with
  | call | done | crash => exact Or.inl rfl
  | act _ hs => exact Or.inr ⟨_, _, _, _, rfl, hs⟩

theorem valid (h : OracleStep d x l x') (hs : x.store.Valid) : x'.store.Valid := by
  rcases h.rows with hrows | ⟨_, _, _, _, -, hperform⟩
  · rwa [Store.Valid, hrows]
  · exact perform_valid hperform hs

theorem retains {row : Trigger} (h : OracleStep d x l x') (hk : x.store.lookup k = some row) :
    ∃ row', x'.store.lookup k = some row' ∧ Retains row row' ∧ Attributes row row' := by
  rcases h.rows with hrows | ⟨_, _, _, _, -, hperform⟩
  · rw [Store.lookup, hrows]
    exact ⟨row, hk, .refl row, .refl row⟩
  · exact perform_retains hperform hk

end OracleStep

end Cotsel.Oracle
