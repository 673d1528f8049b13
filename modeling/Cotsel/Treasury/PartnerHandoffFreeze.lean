import Cotsel.Library.Run
import Cotsel.Library.Table
import Cotsel.Treasury.ProviderHandoff

/-!
# Freezing and correcting a partner handoff

`database/queries/treasuryPartnerHandoffs.ts`, `partnerHandoffConflicts.ts` and
`partnerHandoffCorrections.ts`: the handoff of a ledger entry to a payout partner.  Callbacks of the
partner advance its status; two different terminal statuses are recorded as a conflict and freeze
the handoff until a correction decides between them.

Each call works under the lock of the handoff (or, to create it, of the ledger entry), so it is one
step.  A callback looks for its event id before it takes the lock; if two callbacks with one id
race, the unique index refuses the second event, and the retry finds the first.  So it is decided
by the events that are there when the call commits.  Of a handoff the references to the partner's
records are left out, which nothing here reads.

A correction names a conflict of the handoff, but any of them will do: also one that an earlier
correction has decided, while the conflict that froze the handoff stays open
(`old_conflict_lifts_the_freeze`).  A frozen handoff records no further conflict, so a correction
that names the latest one decides what froze the handoff (`latest_conflict_lifts_the_freeze`).
-/

namespace Cotsel.Treasury.PartnerHandoff

open Runs Guard

/-! ### Tables -/

/-- A row of `treasury_partner_handoffs`. -/
structure Handoff where
  ledgerEntryId : ℕ
  partnerCode : List Char
  partnerStatus : ProviderHandoffStatus
  latestEventPayloadHash : List Char
  frozenAt : Option ℕ
  frozenReason : Option (List Char)
deriving DecidableEq

/-- A row of `treasury_partner_handoff_events`. -/
structure Event where
  providerEventId : List Char
  ledgerEntryId : ℕ
  partnerStatus : ProviderHandoffStatus
  payloadHash : List Char
deriving DecidableEq

inductive Scope
  | ledgerEntry
  | sweepBatch
deriving DecidableEq

/-- `resolves_conflict_id` and `approval_reference`, which a correction has and a conflict has
not. -/
inductive RecordType
  | conflict
  | correction (resolvesConflictId : ℕ) (approvalReference : List Char)
deriving DecidableEq

/-- A row of `treasury_partner_handoff_conflicts`. -/
structure ConflictRecord where
  id : ℕ
  recordType : RecordType
  scope : Scope
  subjectId : ℕ
  partnerCode : List Char
  providerEventId : Option (List Char)
  retainedStatus : ProviderHandoffStatus
  conflictingStatus : ProviderHandoffStatus
  detail : List Char
  actor : List Char
deriving DecidableEq

structure Store where
  ledgerEntries : List ℕ
  handoffs : List Handoff
  events : List Event
  conflicts : List ConflictRecord
deriving DecidableEq

/-- There is one handoff for a ledger entry. -/
def handoffTable : Table.Schema Handoff ℕ Unit where
  key := Handoff.ledgerEntryId
  clash := fun h h' => if h.ledgerEntryId = h'.ledgerEntryId then some () else none
  insertGuard := fun _ => none
  updateGuard := fun _ _ => none
  clash_symm := by
    intro h h' hne
    rw [ite_eq_right_iff] at *
    exact fun heq => hne heq.symm
  key_ne := by
    intro h h' hne heq
    rw [if_pos heq] at hne
    cases hne

def Store.handoff (s : Store) (ledgerEntryId : ℕ) : Option Handoff :=
  Table.lookup handoffTable ledgerEntryId s.handoffs

/-- `UPDATE treasury_partner_handoffs … WHERE id = $1`. -/
def Store.setHandoff (s : Store) (h : Handoff) : Store :=
  { s with handoffs := Table.replace handoffTable h s.handoffs }

/-- A new row of the append-only table of conflicts; its id is the next one. -/
def Store.addRecord (s : Store) (record : ℕ → ConflictRecord) : Store :=
  { s with conflicts := s.conflicts ++ [record (s.conflicts.length + 1)] }

/-! ### Requests -/

/-- `TreasuryPartnerHandoffInput`; `payload` is the serialization of the whole normalized input. -/
structure HandoffInput where
  ledgerEntryId : ℕ
  partnerCode : List Char
  partnerStatus : ProviderHandoffStatus
  payload : List Char
deriving DecidableEq

/-- `TreasuryPartnerHandoffEvidenceInput`; `payload` is as above. -/
structure EvidenceInput where
  ledgerEntryId : ℕ
  partnerCode : List Char
  providerEventId : List Char
  partnerStatus : ProviderHandoffStatus
  bankReference : Option (List Char)
  evidenceReference : Option (List Char)
  payload : List Char
deriving DecidableEq

/-- The argument of `correctFrozenTreasuryPartnerHandoff`. -/
structure CorrectionInput where
  ledgerEntryId : ℕ
  resolvesConflictId : ℕ
  approvalReference : List Char
  resolvedStatus : ProviderHandoffStatus
  actor : List Char
  detail : List Char
deriving DecidableEq

inductive Request
  /-- A ledger entry is ingested. -/
  | ingest (ledgerEntryId : ℕ)
  | upsert (input : HandoffInput)
  | evidence (input : EvidenceInput) (now : ℕ)
  | correct (input : CorrectionInput)
  /-- A conflict of the handoff of a sweep batch, which is kept in the same table. -/
  | sweepBatchConflict (record : ConflictRecord)
deriving DecidableEq

/-- What a request answers that is not refused. -/
inductive Answer
  | accepted
  /-- `TreasuryPartnerHandoffUpsertResult`. -/
  | upserted (handoff : Handoff) (created idempotentReplay : Bool)
deriving DecidableEq

variable (sha256 : List Char → List Char)

def upsertTreasuryPartnerHandoff (input : HandoffInput) (s : Store) :
    Except Thrown (Answer × Store) := do
  require (¬ isHandoffComplete input.partnerStatus)
    (.handoffAuthority (Text.lit "External handoff cannot be created as COMPLETED; completion " ++
      Text.lit "requires provider-signed evidence through the handoff evidence route"))
  require (input.ledgerEntryId ∈ s.ledgerEntries) (callerSafe "Ledger entry not found")
  match s.handoff input.ledgerEntryId with
  | some existing =>
    require (existing.latestEventPayloadHash = sha256 input.payload)
      (.handoffConflict
        (Text.lit "Treasury partner handoff already exists with conflicting payload"))
    pure (.upserted existing false true, s)
  | none =>
    let handoff : Handoff :=
      { ledgerEntryId := input.ledgerEntryId
        partnerCode := input.partnerCode
        partnerStatus := input.partnerStatus
        latestEventPayloadHash := sha256 input.payload
        frozenAt := none
        frozenReason := none }
    pure (.upserted handoff true false, { s with handoffs := s.handoffs ++ [handoff] })

def EvidenceInput.transition (input : EvidenceInput) (handoff : Handoff) :
    ProviderHandoffDisposition :=
  if handoff.frozenAt.isSome then .frozen
  else if completionLacksEvidence input.partnerStatus input.evidenceReference
      input.bankReference then .rejected
  else classifyProviderHandoffTransition (some handoff.partnerStatus) input.partnerStatus

def EvidenceInput.contradiction (input : EvidenceInput) (handoff : Handoff) : List Char :=
  Text.lit "Provider reported " ++ input.partnerStatus.text ++
    Text.lit " for a handoff already terminal at " ++ handoff.partnerStatus.text

/-- The conflict that a contradiction records. -/
def EvidenceInput.conflict (input : EvidenceInput) (handoff : Handoff) (id : ℕ) :
    ConflictRecord where
  id := id
  recordType := .conflict
  scope := .ledgerEntry
  subjectId := input.ledgerEntryId
  partnerCode := input.partnerCode
  providerEventId := some (Text.trim input.providerEventId)
  retainedStatus := handoff.partnerStatus
  conflictingStatus := input.partnerStatus
  detail := input.contradiction handoff
  actor := Text.lit "provider:" ++ input.partnerCode

/-- The part of `appendTreasuryPartnerHandoffEvidence` after the event is recorded.  What it writes
is committed, also when it throws. -/
def applyEvidence (input : EvidenceInput) (now : ℕ) (handoff : Handoff) (s : Store) :
    Except Thrown Answer × Store :=
  match input.transition handoff with
  | .rejected =>
    (.error (.handoffAuthority (Text.lit "Completed external handoff requires an authoritative " ++
      Text.lit "provider or bank evidence reference")), s)
  | .contradiction =>
    let detail := input.contradiction handoff
    (.error (.handoffConflict detail),
      (s.addRecord (input.conflict handoff)).setHandoff
        { handoff with
          frozenAt := handoff.frozenAt.or (some now)
          frozenReason := handoff.frozenReason.or (some detail) })
  | .advance =>
    (.ok .accepted, s.setHandoff
      { handoff with
        partnerStatus := input.partnerStatus
        latestEventPayloadHash := sha256 input.payload })
  | .replay | .stale | .frozen => (.ok .accepted, s)

def appendTreasuryPartnerHandoffEvidence (input : EvidenceInput) (now : ℕ) (s : Store) :
    Except Thrown Answer × Store :=
  let eventId := Text.trim input.providerEventId
  match s.events.find? fun event => event.providerEventId = eventId with
  | some event =>
    if event.payloadHash = sha256 input.payload then (.ok .accepted, s)
    else
      (.error (.handoffConflict
        (Text.lit "Duplicate treasury partner evidence event with conflicting payload")), s)
  | none =>
    match s.handoff input.ledgerEntryId with
    | none => (.error (callerSafe "Treasury partner handoff not found"), s)
    | some handoff =>
      let event : Event :=
        { providerEventId := eventId
          ledgerEntryId := input.ledgerEntryId
          partnerStatus := input.partnerStatus
          payloadHash := sha256 input.payload }
      applyEvidence sha256 input now handoff { s with events := s.events ++ [event] }

/-- The record is a conflict of the handoff of this ledger entry. -/
def ConflictRecord.isConflictOf (ledgerEntryId : ℕ) (record : ConflictRecord) : Bool :=
  record.scope = .ledgerEntry && record.subjectId = ledgerEntryId &&
    record.recordType = .conflict

def Store.conflict (s : Store) (ledgerEntryId id : ℕ) : Option ConflictRecord :=
  s.conflicts.find? fun record => record.isConflictOf ledgerEntryId && record.id = id

def correctFrozenTreasuryPartnerHandoff (input : CorrectionInput) (s : Store) :
    Except Thrown (Answer × Store) :=
  match s.handoff input.ledgerEntryId with
  | none => throw (callerSafe "Treasury partner handoff not found")
  | some handoff => do
    require (handoff.frozenAt.isSome = true)
      (.handoffConflict
        (Text.lit "Treasury partner handoff is not frozen and does not need a correction"))
    match s.conflict input.ledgerEntryId input.resolvesConflictId with
    | none =>
      throw (.handoffConflict
        (Text.lit "Correction must name a recorded conflict for this handoff"))
    | some conflict =>
      require (input.resolvedStatus = conflict.retainedStatus ∨
          input.resolvedStatus = conflict.conflictingStatus)
        (.handoffConflict (Text.lit "Correction must resolve to one of the claimed states (" ++
          conflict.retainedStatus.text ++ Text.lit " or " ++ conflict.conflictingStatus.text ++
          Text.lit ")"))
      let correction (id : ℕ) : ConflictRecord :=
        { id := id
          recordType := .correction conflict.id (Text.trim input.approvalReference)
          scope := .ledgerEntry
          subjectId := input.ledgerEntryId
          partnerCode := handoff.partnerCode
          providerEventId := none
          retainedStatus := input.resolvedStatus
          conflictingStatus := conflict.conflictingStatus
          detail := input.detail
          actor := Text.trim input.actor }
      pure (.accepted, (s.addRecord correction).setHandoff
        { handoff with
          partnerStatus := input.resolvedStatus
          frozenAt := none
          frozenReason := none })

/-- A call that throws leaves the store as it was. -/
def rollback (result : Except Thrown (Answer × Store)) (s : Store) :
    Except Thrown Answer × Store :=
  match result with
  | .ok (answer, s') => (.ok answer, s')
  | .error e => (.error e, s)

def handle (s : Store) : Request → Except Thrown Answer × Store
  | .ingest ledgerEntryId =>
    (.ok .accepted, { s with ledgerEntries := ledgerEntryId :: s.ledgerEntries })
  | .upsert input => rollback (upsertTreasuryPartnerHandoff sha256 input s) s
  | .evidence input now => appendTreasuryPartnerHandoffEvidence sha256 input now s
  | .correct input => rollback (correctFrozenTreasuryPartnerHandoff input s) s
  | .sweepBatchConflict record =>
    (.ok .accepted, s.addRecord fun id =>
      { record with id := id, recordType := .conflict, scope := .sweepBatch })

def Step (s : Store) (q : Request) (s' : Store) : Prop := (handle sha256 s q).2 = s'

def Store.empty : Store := ⟨[], [], [], []⟩

/-! ### What a request does -/

/-- `frozen_at` of the handoff of a ledger entry. -/
def Store.frozenAt (s : Store) (ledgerEntryId : ℕ) : Option ℕ :=
  (s.handoff ledgerEntryId).bind Handoff.frozenAt

def Store.latestConflict (s : Store) (ledgerEntryId : ℕ) : Option ConflictRecord :=
  Table.latest (ConflictRecord.isConflictOf ledgerEntryId) s.conflicts

/-- The record is a correction that decides the conflict `id`. -/
def ConflictRecord.Resolves (record : ConflictRecord) (id : ℕ) : Prop :=
  ∃ approval, record.recordType = .correction id approval

variable {sha256} {s s' : Store} {q : Request} {n : ℕ}

variable {h : Handoff}

theorem handoff_ledgerEntryId (hh : s.handoff n = some h) : h.ledgerEntryId = n :=
  (Table.lookup_eq_some_mem hh).2

theorem handoff_setHandoff {old : Handoff} (hh : s.handoff h.ledgerEntryId = some old) :
    (s.setHandoff h).handoff h.ledgerEntryId = some h :=
  Table.lookup_replace_self hh

theorem handoff_setHandoff_of_ne (hne : n ≠ h.ledgerEntryId) :
    (s.setHandoff h).handoff n = s.handoff n :=
  Table.lookup_replace_of_ne hne.symm

theorem frozenAt_setHandoff_of_ne (hne : n ≠ h.ledgerEntryId) :
    (s.setHandoff h).frozenAt n = s.frozenAt n := by
  unfold Store.frozenAt
  rw [handoff_setHandoff_of_ne hne]

/-- A handoff that is written without a change of `frozen_at`. -/
theorem frozenAt_setHandoff_of_eq {old : Handoff} (hh : s.handoff h.ledgerEntryId = some old)
    (hfrozen : h.frozenAt = old.frozenAt) : (s.setHandoff h).frozenAt n = s.frozenAt n := by
  rcases eq_or_ne n h.ledgerEntryId with rfl | hne
  · unfold Store.frozenAt
    rw [handoff_setHandoff hh, hh]
    exact hfrozen
  · exact frozenAt_setHandoff_of_ne hne

/-- A correction that decides the conflict `c` and is recorded as `r`. -/
structure Corrected (s : Store) (input : CorrectionInput) (c r : ConflictRecord) (s' : Store) :
    Prop where
  conflict : s.conflict input.ledgerEntryId input.resolvesConflictId = some c
  resolves : r.Resolves c.id
  id : r.id = s.conflicts.length + 1
  conflicts : s'.conflicts = s.conflicts ++ [r]
  frozen : s.frozenAt input.ledgerEntryId ≠ none
  status : input.resolvedStatus = c.retainedStatus ∨ input.resolvedStatus = c.conflictingStatus
  settled : ∃ h, s'.handoff input.ledgerEntryId = some h ∧ h.frozenAt = none ∧
    h.partnerStatus = input.resolvedStatus
  other : ∀ n, n ≠ input.ledgerEntryId → s'.frozenAt n = s.frozenAt n

/-- What a request makes of the freezes and of the table of conflicts. -/
inductive Change (s : Store) (q : Request) (s' : Store) : Prop
  | keep (hconflicts : s'.conflicts = s.conflicts) (hfrozen : ∀ n, s'.frozenAt n = s.frozenAt n)
  /-- A conflict of a sweep batch. -/
  | other (c : ConflictRecord) (hscope : c.scope = .sweepBatch) (htype : c.recordType = .conflict)
      (hid : c.id = s.conflicts.length + 1) (hconflicts : s'.conflicts = s.conflicts ++ [c])
      (hfrozen : ∀ n, s'.frozenAt n = s.frozenAt n)
  /-- A contradiction. -/
  | freeze (n time : ℕ) (c : ConflictRecord) (hc : c.isConflictOf n = true)
      (hid : c.id = s.conflicts.length + 1) (hconflicts : s'.conflicts = s.conflicts ++ [c])
      (hbefore : s.frozenAt n = none) (hafter : s'.frozenAt n = some time)
      (hother : ∀ n', n' ≠ n → s'.frozenAt n' = s.frozenAt n')
  | correct (input : CorrectionInput) (c r : ConflictRecord) (h : Corrected s input c r s')

theorem change_upsert {input : HandoffInput} {answer : Answer}
    (h : upsertTreasuryPartnerHandoff sha256 input s = .ok (answer, s')) : Change s q s' := by
  unfold upsertTreasuryPartnerHandoff at h
  rw [require_bind_eq_ok, require_bind_eq_ok] at h
  obtain ⟨-, -, h⟩ := h
  split at h
  · rw [require_bind_eq_ok, pure_eq_ok] at h
    cases h.2
    exact .keep rfl fun _ => rfl
  · next hnone =>
    rw [pure_eq_ok] at h
    cases h
    refine .keep rfl fun n => ?_
    unfold Store.frozenAt Store.handoff
    rcases eq_or_ne input.ledgerEntryId n with rfl | hne
    · -- the new handoff is not frozen
      unfold Store.handoff at hnone
      rw [Table.lookup_append, hnone, Option.none_or]
      split_ifs <;> rfl
    · rw [Table.lookup_append_of_ne hne]

theorem change_applyEvidence {input : EvidenceInput} {now : ℕ} {handoff : Handoff}
    (hh : s.handoff input.ledgerEntryId = some handoff) :
    Change s q (applyEvidence sha256 input now handoff s).2 := by
  have hkey : handoff.ledgerEntryId = input.ledgerEntryId := handoff_ledgerEntryId hh
  rw [← hkey] at hh
  unfold applyEvidence
  split
  · exact .keep rfl fun _ => rfl
  · next hcontra =>
    have hnone : handoff.frozenAt = none := by
      unfold EvidenceInput.transition at hcontra
      split_ifs at hcontra with hfrozen
      · exact Option.not_isSome_iff_eq_none.mp hfrozen
    refine .freeze input.ledgerEntryId now (input.conflict handoff (s.conflicts.length + 1)) ?_
      rfl rfl ?_ ?_ fun n' hne => ?_
    · simp [ConflictRecord.isConflictOf, EvidenceInput.conflict]
    · unfold Store.frozenAt
      rw [← hkey, hh]
      exact hnone
    · have hset := handoff_setHandoff (s := s.addRecord (input.conflict handoff))
        (h := { handoff with
          frozenAt := handoff.frozenAt.or (some now)
          frozenReason := handoff.frozenReason.or (some (input.contradiction handoff)) }) hh
      rw [← hkey]
      refine (congrArg (Option.bind · Handoff.frozenAt) hset).trans ?_
      show handoff.frozenAt.or _ = _
      rw [hnone, Option.none_or]
    · refine frozenAt_setHandoff_of_ne ?_
      rw [← hkey] at hne
      exact hne
  · exact .keep rfl fun _ => frozenAt_setHandoff_of_eq hh rfl
  · exact .keep rfl fun _ => rfl
  · exact .keep rfl fun _ => rfl
  · exact .keep rfl fun _ => rfl

theorem corrected_of_eq_ok {input : CorrectionInput} {answer : Answer}
    (h : correctFrozenTreasuryPartnerHandoff input s = .ok (answer, s')) :
    ∃ c r, Corrected s input c r s' := by
  unfold correctFrozenTreasuryPartnerHandoff at h
  split at h
  · cases h
  · next handoff hh =>
    rw [require_bind_eq_ok] at h
    obtain ⟨hfrozen, h⟩ := h
    split at h
    · cases h
    · next conflict hconflict =>
      rw [require_bind_eq_ok, pure_eq_ok] at h
      obtain ⟨hstatus, h⟩ := h
      cases h
      have hkey : handoff.ledgerEntryId = input.ledgerEntryId := handoff_ledgerEntryId hh
      refine ⟨conflict, _, hconflict, ⟨_, rfl⟩, rfl, rfl, ?_, hstatus, ?_, fun n hne => ?_⟩
      · unfold Store.frozenAt
        rw [hh]
        exact Option.isSome_iff_ne_none.mp hfrozen
      · rw [← hkey] at hh ⊢
        exact ⟨_, handoff_setHandoff hh, rfl, rfl⟩
      · refine frozenAt_setHandoff_of_ne ?_
        rw [← hkey] at hne
        exact hne

/-- The events are in a table of their own. -/
theorem Change.of_events {events : List Event} (h : Change { s with events := events } q s') :
    Change s q s' := by
  cases h with
  | keep hconflicts hfrozen => exact .keep hconflicts hfrozen
  | other c hscope htype hid hconflicts hfrozen =>
    exact .other c hscope htype hid hconflicts hfrozen
  | freeze n time c hc hid hconflicts hbefore hafter hother =>
    exact .freeze n time c hc hid hconflicts hbefore hafter hother
  | correct input c r h =>
    exact .correct input c r
      ⟨h.conflict, h.resolves, h.id, h.conflicts, h.frozen, h.status, h.settled, h.other⟩

theorem rollback_accepted {result : Except Thrown (Answer × Store)} {answer : Answer}
    (h : (rollback result s).1 = .ok answer) : result = .ok (answer, (rollback result s).2) := by
  cases result with
  | error => cases h
  | ok =>
    cases h
    rfl

theorem change_rollback {result : Except Thrown (Answer × Store)}
    (h : ∀ answer s', result = .ok (answer, s') → Change s q s') :
    Change s q (rollback result s).2 := by
  cases result with
  | ok result => exact h _ _ rfl
  | error => exact .keep rfl fun _ => rfl

/-- Everything a request can do to a freeze. -/
theorem change_of_step (h : Step sha256 s q s') : Change s q s' := by
  subst h
  cases q with
  | ingest => exact .keep rfl fun _ => rfl
  | upsert => exact change_rollback fun _ _ => change_upsert
  | evidence input now =>
    show Change s _ (appendTreasuryPartnerHandoffEvidence sha256 input now s).2
    unfold appendTreasuryPartnerHandoffEvidence
    dsimp only
    split
    · split_ifs <;> exact .keep rfl fun _ => rfl
    · split
      · exact .keep rfl fun _ => rfl
      · next handoff hh =>
        exact .of_events (change_applyEvidence (s := { s with events := s.events ++ [_] }) hh)
  | correct input =>
    refine change_rollback fun _ s' h => ?_
    obtain ⟨c, r, h⟩ := corrected_of_eq_ok h
    exact .correct input c r h
  | sweepBatchConflict =>
    exact .other _ rfl rfl rfl rfl fun _ => rfl

/-! ### Whole histories -/

variable {before tr : List (Transition Store Request)} {time : ℕ} {c : ConflictRecord}

/-- The handoff was frozen at `time` by the contradiction `c`, and has been frozen since. -/
def FrozenBy (before : List (Transition Store Request)) (n time : ℕ) (c : ConflictRecord) : Prop :=
  ∃ pre freeze since, before = pre ++ freeze :: since ∧ freeze.source.frozenAt n = none ∧
    freeze.target.frozenAt n = some time ∧
    freeze.target.conflicts = freeze.source.conflicts ++ [c] ∧
    ∀ t ∈ since, t.target.frozenAt n = some time

theorem FrozenBy.snoc (h : FrozenBy before n time c) {t : Transition Store Request}
    (ht : t.target.frozenAt n = some time) : FrozenBy (before ++ [t]) n time c := by
  obtain ⟨pre, freeze, since, rfl, hsource, htarget, hc, hsince⟩ := h
  refine ⟨pre, freeze, since ++ [t], by simp, hsource, htarget, hc, fun u hu => ?_⟩
  rcases List.mem_append.mp hu with hu | hu
  · exact hsince u hu
  · rw [List.mem_singleton.mp hu]
    exact ht

/-- Records are numbered in order, and every freeze has an open conflict, the latest of the
handoff. -/
structure Explained (before : List (Transition Store Request)) (s : Store) : Prop where
  ids : ∀ i r, s.conflicts[i]? = some r → r.id = i + 1
  resolved : ∀ r ∈ s.conflicts, ∀ id, r.Resolves id → id ≤ s.conflicts.length
  frozen : ∀ n time, s.frozenAt n = some time → ∃ c, s.latestConflict n = some c ∧
    FrozenBy before n time c ∧ ∀ r ∈ s.conflicts, ¬ r.Resolves c.id

variable {r : ConflictRecord}

theorem Explained.eq_of_id (h : Explained before s) {r' : ConflictRecord} (hr : r ∈ s.conflicts)
    (hr' : r' ∈ s.conflicts) (hid : r.id = r'.id) : r = r' := by
  obtain ⟨i, hi⟩ := List.mem_iff_getElem?.mp hr
  obtain ⟨j, hj⟩ := List.mem_iff_getElem?.mp hr'
  have hij : i = j := by
    have := h.ids i r hi
    have := h.ids j r' hj
    omega
  subst hij
  rw [hi] at hj
  exact Option.some.inj hj

theorem Explained.id_le (h : Explained before s) (hr : r ∈ s.conflicts) :
    r.id ≤ s.conflicts.length := by
  obtain ⟨i, hi⟩ := List.mem_iff_getElem?.mp hr
  rw [h.ids i r hi]
  exact (List.getElem?_eq_some_iff.mp hi).1

/-- The numbering goes on with a record that gets the next number. -/
theorem Explained.ids_append (h : Explained before s)
    (hid : r.id = s.conflicts.length + 1) (hconflicts : s'.conflicts = s.conflicts ++ [r]) (i : ℕ)
    (r' : ConflictRecord) (hi : s'.conflicts[i]? = some r') : r'.id = i + 1 := by
  rw [hconflicts, List.getElem?_append] at hi
  split_ifs at hi with hlt
  · exact h.ids i r' hi
  · obtain ⟨hle, heq⟩ := List.getElem?_eq_some_iff.mp hi
    rw [List.length_singleton] at hle
    have hzero : i - s.conflicts.length = 0 := by omega
    simp only [hzero, List.getElem_cons_zero] at heq
    rw [← heq, hid]
    omega

theorem Explained.resolved_append (h : Explained before s)
    (hconflicts : s'.conflicts = s.conflicts ++ [r])
    (hr : ∀ id, r.Resolves id → id ≤ s.conflicts.length) :
    ∀ r' ∈ s'.conflicts, ∀ id, r'.Resolves id → id ≤ s'.conflicts.length := by
  intro r' hr' id hres
  rw [hconflicts, List.mem_append, List.mem_singleton] at hr'
  rw [hconflicts, List.length_append]
  rcases hr' with hr' | rfl
  · exact Nat.le_add_right_of_le (h.resolved r' hr' id hres)
  · exact Nat.le_add_right_of_le (hr id hres)

theorem isConflictOf_iff : r.isConflictOf n = true ↔
    r.scope = .ledgerEntry ∧ r.subjectId = n ∧ r.recordType = .conflict := by
  simp [ConflictRecord.isConflictOf, and_assoc]

theorem not_resolves (h : r.recordType = .conflict) (id : ℕ) :
    ¬ r.Resolves id := by
  rintro ⟨approval, htype⟩
  rw [h] at htype
  cases htype

theorem conflict_spec {id : ℕ} (h : s.conflict n id = some c) :
    c ∈ s.conflicts ∧ c.isConflictOf n = true ∧ c.id = id := by
  refine ⟨List.mem_of_find?_eq_some h, ?_⟩
  have := List.find?_some h
  rwa [Bool.and_eq_true, decide_eq_true_eq] at this

/-- A freeze that a request leaves alone stays explained. -/
theorem Explained.still_frozen (h : Explained before s)
    (hconflicts : s'.conflicts = s.conflicts ++ [r]) (hframe : s'.frozenAt n = s.frozenAt n)
    (hnot : r.isConflictOf n ≠ true)
    (hopen : ∀ c, s.latestConflict n = some c → ¬ r.Resolves c.id)
    (hfrozen : s'.frozenAt n = some time) :
    ∃ c, s'.latestConflict n = some c ∧ FrozenBy (before ++ [⟨s, q, s'⟩]) n time c ∧
      ∀ r ∈ s'.conflicts, ¬ r.Resolves c.id := by
  obtain ⟨c, hlatest, hby, hunresolved⟩ := h.frozen n time (by rw [← hframe, hfrozen])
  refine ⟨c, ?_, hby.snoc hfrozen, fun r' hr' => ?_⟩
  · unfold Store.latestConflict
    rw [hconflicts, Table.latest_append, if_neg hnot]
    exact hlatest
  · rw [hconflicts, List.mem_append, List.mem_singleton] at hr'
    rcases hr' with hr' | rfl
    · exact hunresolved r' hr'
    · exact hopen c hlatest

theorem Explained.step (h : Explained before s) (hchange : Change s q s') :
    Explained (before ++ [⟨s, q, s'⟩]) s' := by
  cases hchange with
  | keep hconflicts hfrozen =>
    refine ⟨by rw [hconflicts]; exact h.ids, by rw [hconflicts]; exact h.resolved, ?_⟩
    intro n time hn
    obtain ⟨c, hlatest, hby, hopen⟩ := h.frozen n time (by rw [← hfrozen, hn])
    refine ⟨c, ?_, hby.snoc hn, by rwa [hconflicts]⟩
    unfold Store.latestConflict
    rw [hconflicts]
    exact hlatest
  | other r hscope htype hid hconflicts hfrozen =>
    refine ⟨h.ids_append hid hconflicts, h.resolved_append hconflicts fun id hres =>
      absurd hres (not_resolves htype id), fun n time => ?_⟩
    · refine h.still_frozen hconflicts (hfrozen n) ?_ fun c _ => not_resolves htype c.id
      rw [ne_eq, isConflictOf_iff, hscope]
      rintro ⟨hscope', -⟩
      cases hscope'
  | freeze n₀ _ r hr hid hconflicts hbefore hafter hother =>
    obtain ⟨hscope, hsubject, htype⟩ := isConflictOf_iff.mp hr
    refine ⟨h.ids_append hid hconflicts, h.resolved_append hconflicts fun id hres =>
      absurd hres (not_resolves htype id), fun n time hn => ?_⟩
    · rcases eq_or_ne n n₀ with rfl | hne
      · -- the freeze of this request: its conflict is new
        rw [hafter, Option.some.injEq] at hn
        subst hn
        refine ⟨r, ?_, ⟨before, _, [], rfl, hbefore, hafter, hconflicts, by simp⟩, ?_⟩
        · unfold Store.latestConflict
          rw [hconflicts, Table.latest_append, if_pos hr]
        · intro r' hr' hres
          rw [hconflicts, List.mem_append, List.mem_singleton] at hr'
          rcases hr' with hr' | rfl
          · have := h.resolved r' hr' _ hres
            omega
          · exact not_resolves htype _ hres
      · refine h.still_frozen hconflicts (hother n hne) ?_ (fun c _ => not_resolves htype c.id) hn
        rw [ne_eq, isConflictOf_iff, hsubject]
        exact fun hcontra => hne hcontra.2.1.symm
  | correct input c r hcor =>
    obtain ⟨hmem, hcof, -⟩ := conflict_spec hcor.conflict
    obtain ⟨approval, htype⟩ := hcor.resolves
    have hresolves : ∀ id, r.Resolves id → id = c.id := by
      rintro id ⟨approval', htype'⟩
      rw [htype'] at htype
      cases htype
      rfl
    refine ⟨h.ids_append hcor.id hcor.conflicts, h.resolved_append hcor.conflicts ?_,
      fun n time hn => ?_⟩
    · intro id hres
      rw [hresolves id hres]
      exact h.id_le hmem
    · have hne : n ≠ input.ledgerEntryId := by
        rintro rfl
        obtain ⟨handoff, hh, hnone, -⟩ := hcor.settled
        unfold Store.frozenAt at hn
        rw [hh, Option.bind_some, hnone] at hn
        cases hn
      refine h.still_frozen hcor.conflicts (hcor.other n hne) ?_ ?_ hn
      · rw [ne_eq, isConflictOf_iff, htype]
        rintro ⟨-, -, htype'⟩
        cases htype'
      · -- the conflict that is decided is one of another handoff
        intro c' hlatest hres
        obtain ⟨hmem', hcof'⟩ := Table.latest_mem hlatest
        have heq : c' = c := h.eq_of_id hmem' hmem (hresolves _ hres)
        subst heq
        exact hne ((isConflictOf_iff.mp hcof').2.1.symm.trans (isConflictOf_iff.mp hcof).2.1)

theorem explained (h : Run (Step sha256) Store.empty tr s) : Explained tr s := by
  refine h.history ⟨by simp [Store.empty], by simp [Store.empty], ?_⟩ ?_
  · intro n time hn
    cases hn
  · intro tr s q s' _ hs hstep
    exact hs.step (change_of_step hstep)

/-! ### Corrections -/

/-- The correction of `t`, after what happened `before`, decides the conflict `c`: it was recorded
for this handoff and decided by no correction, it froze the handoff, and the handoff is left in one
of its two statuses. -/
structure Decides (before : List (Transition Store Request)) (t : Transition Store Request)
    (input : CorrectionInput) (c : ConflictRecord) : Prop where
  recorded : c ∈ t.source.conflicts ∧ c.isConflictOf input.ledgerEntryId = true ∧
    c.id = input.resolvesConflictId
  undecided : ∀ r ∈ t.source.conflicts, ¬ r.Resolves c.id
  cause : ∃ time, t.source.frozenAt input.ledgerEntryId = some time ∧
    FrozenBy before input.ledgerEntryId time c
  settled : ∃ h, t.target.handoff input.ledgerEntryId = some h ∧ h.frozenAt = none ∧
    (h.partnerStatus = c.retainedStatus ∨ h.partnerStatus = c.conflictingStatus)

variable (sha256) in
/-- A correction that is accepted decides what froze the handoff. -/
def LiftsFreezes (tr : List (Transition Store Request)) : Prop :=
  ∀ before t after input, tr = before ++ t :: after → t.label = .correct input →
    (handle sha256 t.source t.label).1 = .ok .accepted → ∃ c, Decides before t input c

/-- A correction of a frozen handoff to a status that the conflict it names is about names the
latest conflict of the handoff. -/
def NamesLatest (t : Transition Store Request) : Prop :=
  ∀ input c, t.label = .correct input → t.source.frozenAt input.ledgerEntryId ≠ none →
    t.source.conflict input.ledgerEntryId input.resolvesConflictId = some c →
    (input.resolvedStatus = c.retainedStatus ∨ input.resolvedStatus = c.conflictingStatus) →
      t.source.latestConflict input.ledgerEntryId = some c

/-- If every such correction names the latest conflict of its handoff, each of them decides the
contradiction that froze it. -/
theorem latest_conflict_lifts_the_freeze (hrun : Run (Step sha256) Store.empty tr s)
    (hlatest : ∀ t ∈ tr, NamesLatest t) : LiftsFreezes sha256 tr := by
  rintro before t after input rfl hlabel hok
  obtain ⟨hbefore, hstep, -⟩ := hrun.cut (i := before.length) (t := t) (by simp)
  rw [List.take_left] at hbefore
  have hex := explained hbefore
  -- the request was accepted, so it is a correction of some conflict
  obtain ⟨c, r, hcor⟩ : ∃ c r, Corrected t.source input c r t.target := by
    rw [hlabel] at hok hstep
    have htarget := rollback_accepted hok
    rw [show (rollback _ t.source).2 = t.target from hstep] at htarget
    exact corrected_of_eq_ok htarget
  obtain ⟨hmem, hcof, hid⟩ := conflict_spec hcor.conflict
  -- it is the latest one, which froze the handoff
  have hc := hlatest t (by simp) input c hlabel hcor.frozen hcor.conflict hcor.status
  obtain ⟨time, htime⟩ := Option.ne_none_iff_exists'.mp hcor.frozen
  obtain ⟨c', hc', hby, hopen⟩ := hex.frozen _ _ htime
  rw [hc, Option.some.injEq] at hc'
  subst hc'
  obtain ⟨h, hh, hfree, hstatus⟩ := hcor.settled
  have hsettled := hcor.status
  rw [← hstatus] at hsettled
  exact ⟨c, ⟨hmem, hcof, hid⟩, hopen, ⟨time, htime, hby⟩, h, hh, hfree, hsettled⟩

/-! ### Samples -/

def sampleHandoff : HandoffInput where
  ledgerEntryId := 7
  partnerCode := Text.lit "BRIDGE"
  partnerStatus := .submitted
  payload := Text.lit "7:SUBMITTED"

/-- A callback of the partner; the last argument is its evidence. -/
def sampleEvidence (eventId : String) (status : ProviderHandoffStatus)
    (reference : Option (List Char)) : EvidenceInput where
  ledgerEntryId := 7
  partnerCode := Text.lit "BRIDGE"
  providerEventId := Text.lit eventId
  partnerStatus := status
  bankReference := none
  evidenceReference := reference
  payload := Text.lit eventId ++ status.text

def sampleCorrection (conflictId : ℕ) (status : ProviderHandoffStatus) : CorrectionInput where
  ledgerEntryId := 7
  resolvesConflictId := conflictId
  approvalReference := Text.lit "APPROVAL-1"
  resolvedStatus := status
  actor := Text.lit "operator"
  detail := Text.lit "checked with the bank"

/-- A payout fails, is then reported as completed, and the contradiction is decided. -/
def disputedRequests : List Request :=
  [.ingest 7, .upsert sampleHandoff,
    .evidence (sampleEvidence "evt-1" .failed none) 100,
    .evidence (sampleEvidence "evt-2" .completed (some (Text.lit "proof"))) 200,
    .correct (sampleCorrection 1 .completed)]

/-- After that the payout is returned, which contradicts the completion; the correction names the
first conflict again. -/
def secondDispute : List Request :=
  [.evidence (sampleEvidence "evt-3" .returned none) 300, .correct (sampleCorrection 1 .failed)]

/-- What the request `q` does after the requests `before`. -/
def sampleTransition (before : List Request) (q : Request) : Transition Store Request :=
  let s := before.foldl (fun s q => (handle id s q).2) Store.empty
  ⟨s, q, (handle id s q).2⟩

def sampleTrace (requests : List Request) : List (Transition Store Request) :=
  trace (fun s q => (handle id s q).2) Store.empty requests

theorem latest_conflict_lifts_the_freeze_sample :
    LiftsFreezes id (sampleTrace disputedRequests) ∧
      ((sampleTrace disputedRequests).map fun t => t.target.frozenAt 7) =
        [none, none, none, some 200, none] := by
  refine ⟨latest_conflict_lifts_the_freeze (run_trace _ disputedRequests Store.empty) ?_,
    by decide +kernel⟩
  intro t ht input c hlabel _ hconflict _
  fin_cases ht <;> cases hlabel
  exact hconflict

/-- A correction that names a conflict decided before lifts the freeze of a later one: the handoff
goes back to a status that the open contradiction is not about, and nothing decides that one. -/
theorem old_conflict_lifts_the_freeze :
    (∃ s, Run (Step id) Store.empty (sampleTrace (disputedRequests ++ secondDispute)) s ∧
      s.frozenAt 7 = none ∧ (s.handoff 7).map Handoff.partnerStatus = some .failed ∧
      (s.latestConflict 7).map (fun c => (c.id, c.retainedStatus, c.conflictingStatus)) =
        some (3, .completed, .returned)) ∧
      ¬ LiftsFreezes id (sampleTrace (disputedRequests ++ secondDispute)) := by
  refine ⟨⟨_, run_trace _ _ Store.empty, ?_⟩, fun hlifts => ?_⟩
  · decide +kernel
  · obtain ⟨c, hc⟩ := hlifts ((sampleTrace (disputedRequests ++ secondDispute)).take 6)
      (sampleTransition (disputedRequests ++ secondDispute.take 1)
        (.correct (sampleCorrection 1 .failed))) [] (sampleCorrection 1 .failed) rfl rfl
      (by decide +kernel)
    -- the second record is the correction of conflict 1
    have hdecided : RecordType.correction 1 (Text.lit "APPROVAL-1") ∈
        (sampleTransition (disputedRequests ++ secondDispute.take 1)
          (.correct (sampleCorrection 1 .failed))).source.conflicts.map
            ConflictRecord.recordType := by
      decide +kernel
    obtain ⟨r, hr, htype⟩ := List.mem_map.mp hdecided
    refine hc.undecided r hr ⟨Text.lit "APPROVAL-1", ?_⟩
    rw [htype, hc.recorded.2.2]
    rfl

end Cotsel.Treasury.PartnerHandoff
