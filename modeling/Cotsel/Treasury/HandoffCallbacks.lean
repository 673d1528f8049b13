import Cotsel.Treasury.PartnerHandoffFreeze

/-!
# Callbacks in any order, and a creation that is repeated

A partner's callbacks may arrive in any order.  What they leave of a handoff depends on the statuses
that are reported, not on their order (`callbacks_commute`): it is frozen if two of them are
terminal and differ, and otherwise has the highest of them.

The creation of a handoff is recognized by `latest_event_payload_hash`, which a callback that is
applied overwrites.  Up to then the request may be repeated (`creation_repeated`); after that it is
refused (`creation_refused_after_callback`).
-/

namespace Cotsel.Treasury.PartnerHandoff

open Runs Guard

variable {sha256 : List Char → List Char} {s s' : Store} {h h' : Handoff} {n m now : ℕ}
  {input : EvidenceInput}

/-! ### One callback -/

/-- The id of the callback is not recorded yet. -/
def EvidenceInput.Fresh (input : EvidenceInput) (s : Store) : Prop :=
  ∀ e ∈ s.events, e.providerEventId ≠ Text.trim input.providerEventId

variable (sha256) in
def EvidenceInput.event (input : EvidenceInput) : Event where
  providerEventId := Text.trim input.providerEventId
  ledgerEntryId := input.ledgerEntryId
  partnerStatus := input.partnerStatus
  payloadHash := sha256 input.payload

variable (sha256) in
/-- What a callback that is not recorded yet makes of the handoff. -/
def EvidenceInput.applied (input : EvidenceInput) (now : ℕ) (h : Handoff) : Handoff :=
  match input.transition h with
  | .contradiction =>
    { h with
      frozenAt := h.frozenAt.or (some now)
      frozenReason := h.frozenReason.or (some (input.contradiction h)) }
  | .advance =>
    { h with
      partnerStatus := input.partnerStatus
      latestEventPayloadHash := sha256 input.payload }
  | _ => h

theorem handoff_write (hh : s.handoff m = some h) (hkey : h'.ledgerEntryId = m) (n : ℕ) :
    (s.setHandoff h').handoff n = if n = m then some h' else s.handoff n := by
  subst hkey
  split_ifs with hn
  · rw [hn]
    exact handoff_setHandoff hh
  · exact handoff_setHandoff_of_ne hn

theorem handoff_applyEvidence (hh : s.handoff input.ledgerEntryId = some h) (n : ℕ) :
    (applyEvidence sha256 input now h s).2.handoff n =
        (if n = input.ledgerEntryId then some (input.applied sha256 now h) else s.handoff n) ∧
      (applyEvidence sha256 input now h s).2.events = s.events ∧
      (applyEvidence sha256 input now h s).2.ledgerEntries = s.ledgerEntries := by
  have hkey : h.ledgerEntryId = input.ledgerEntryId := handoff_ledgerEntryId hh
  have hsame : s.handoff n = if n = input.ledgerEntryId then some h else s.handoff n := by
    split_ifs with hn
    · rw [hn, hh]
    · rfl
  unfold applyEvidence EvidenceInput.applied
  cases input.transition h with
  | contradiction =>
    exact ⟨handoff_write (s := s.addRecord (input.conflict h)) hh (by exact hkey) n, rfl, rfl⟩
  | advance => exact ⟨handoff_write hh (by exact hkey) n, rfl, rfl⟩
  | replay | stale | frozen | rejected => exact ⟨hsame, rfl, rfl⟩

variable (sha256 now)

theorem append_of_fresh (hfresh : input.Fresh s) (hh : s.handoff input.ledgerEntryId = some h)
    (n : ℕ) :
    let s' := (appendTreasuryPartnerHandoffEvidence sha256 input now s).2
    s'.handoff n =
        (if n = input.ledgerEntryId then some (input.applied sha256 now h) else s.handoff n) ∧
      s'.events = s.events ++ [input.event sha256] ∧ s'.ledgerEntries = s.ledgerEntries := by
  unfold appendTreasuryPartnerHandoffEvidence
  dsimp only
  rw [List.find?_eq_none.mpr fun e he => by simpa using hfresh e he, hh]
  exact handoff_applyEvidence (s := { s with events := s.events ++ [input.event sha256] }) hh n

/-- A callback that is recorded, or has no handoff, changes nothing. -/
theorem append_of_ignored (hignored : input.Fresh s → s.handoff input.ledgerEntryId = none) :
    (appendTreasuryPartnerHandoffEvidence sha256 input now s).2 = s := by
  unfold appendTreasuryPartnerHandoffEvidence
  dsimp only
  split
  · split_ifs <;> rfl
  · next hnone =>
    rw [List.find?_eq_none] at hnone
    rw [hignored fun e he => of_decide_eq_false (eq_false_of_ne_true (hnone e he))]

variable {sha256 now}

/-! ### Reports in any order -/

/-- The callback is not a completion without evidence. -/
def EvidenceInput.accepted (input : EvidenceInput) : Bool :=
  !completionLacksEvidence input.partnerStatus input.evidenceReference input.bankReference

def reports (inputs : List EvidenceInput) : List ProviderHandoffStatus :=
  (inputs.filter EvidenceInput.accepted).map EvidenceInput.partnerStatus

/-- The status of a handoff, unless it is frozen. -/
def Handoff.standing (h : Handoff) : Option ProviderHandoffStatus :=
  if h.frozenAt.isSome then none else some h.partnerStatus

/-- What an accepted report makes of the standing of a handoff. -/
def absorb : Option ProviderHandoffStatus → ProviderHandoffStatus → Option ProviderHandoffStatus
  | none, _ => none
  | some current, reported =>
    match classifyProviderHandoffTransition (some current) reported with
    | .contradiction => none
    | .advance => some reported
    | _ => some current

variable {a b c : ProviderHandoffStatus} {l l' : List ProviderHandoffStatus}

theorem foldl_absorb_none : l.foldl absorb none = none := by
  induction l with
  | nil => rfl
  | cons _ _ ih => exact ih

theorem standing_applied : (input.applied sha256 now h).standing =
    (reports [input]).foldl absorb h.standing := by
  unfold EvidenceInput.applied EvidenceInput.transition Handoff.standing reports
  rw [List.filter_singleton]
  unfold EvidenceInput.accepted
  cases hfrozen : h.frozenAt with
  | some => simp [hfrozen, foldl_absorb_none]
  | none =>
    cases completionLacksEvidence input.partnerStatus input.evidenceReference input.bankReference
    · cases hc : classifyProviderHandoffTransition (some h.partnerStatus) input.partnerStatus <;>
        simp [hfrozen, hc, absorb]
    · simp [hfrozen]

/-- Two different terminal statuses. -/
def Contradictory (statuses : List ProviderHandoffStatus) : Prop :=
  ∃ a ∈ statuses, ∃ b ∈ statuses, a.isTerminal = true ∧ b.isTerminal = true ∧ a ≠ b

theorem absorb_eq_none (h : absorb (some a) b = none) :
    a.isTerminal = true ∧ b.isTerminal = true ∧ a ≠ b := by
  revert h
  cases a <;> cases b <;> decide

/-- No terminal status is lost as long as the handoff is not frozen. -/
theorem absorb_eq_some (h : absorb (some a) b = some c) {x : ProviderHandoffStatus}
    (hx : x.isTerminal = true) : x = a ∨ x = b ↔ x = c := by
  cases a <;> cases b <;> cases h <;> revert hx <;> cases x <;> decide

theorem foldl_absorb_eq_none : l.foldl absorb (some a) = none ↔ Contradictory (a :: l) := by
  induction l generalizing a with
  | nil => simp [Contradictory]
  | cons b l ih =>
    rw [List.foldl_cons]
    cases habsorb : absorb (some a) b with
    | none =>
      obtain ⟨ha, hb, hne⟩ := absorb_eq_none habsorb
      exact iff_of_true foldl_absorb_none ⟨a, by simp, b, by simp, ha, hb, hne⟩
    | some c =>
      -- the same terminal statuses are reported
      have hmem : ∀ x, x.isTerminal = true → (x ∈ c :: l ↔ x ∈ a :: b :: l) := by
        intro x hx
        rw [List.mem_cons, List.mem_cons, List.mem_cons, ← absorb_eq_some habsorb hx, or_assoc]
      rw [ih]
      constructor
      · rintro ⟨x, hx, y, hy, htx, hty, hne⟩
        exact ⟨x, (hmem x htx).mp hx, y, (hmem y hty).mp hy, htx, hty, hne⟩
      · rintro ⟨x, hx, y, hy, htx, hty, hne⟩
        exact ⟨x, (hmem x htx).mpr hx, y, (hmem y hty).mpr hy, htx, hty, hne⟩

/-- The reports of a payout in flight are not told apart: of two with the same rank the later one
stays. -/
def level : ProviderHandoffStatus → ProviderHandoffStatus
  | .submitted | .acknowledged => .processing
  | status => status

theorem absorb_level (x : Option ProviderHandoffStatus) :
    absorb (x.map level) (level b) = (absorb x b).map level := by
  rcases x with - | a
  · rfl
  · cases a <;> cases b <;> rfl

theorem absorb_right_comm (x : Option ProviderHandoffStatus) :
    absorb (absorb x (level a)) (level b) = absorb (absorb x (level b)) (level a) := by
  rcases x with - | x
  · rfl
  · cases x <;> cases a <;> cases b <;> rfl

/-- Up to the level, the order of the reports does not matter. -/
theorem foldl_absorb_perm (hperm : l.Perm l') (x : Option ProviderHandoffStatus) :
    (l.foldl absorb x).map level = (l'.foldl absorb x).map level := by
  have hlevel : ∀ l : List ProviderHandoffStatus, (l.foldl absorb x).map level =
      l.foldl (fun x b => absorb x (level b)) (x.map level) :=
    fun l => (List.foldl_hom (Option.map level) fun x _ => absorb_level x).symm
  rw [hlevel, hlevel]
  exact hperm.foldl_eq' (fun _ _ _ _ x => absorb_right_comm x) _

/-! ### Deliveries -/

/-- The authority that a handoff gives, unless it is frozen. -/
def Store.authority (s : Store) (n : ℕ) : Option ProviderHandoffAuthority :=
  (s.handoff n).bind fun h => h.standing.map resolveProviderHandoffAuthority

theorem authority_eq (hh : s.handoff n = some h) :
    s.authority n = (h.standing.map level).map resolveProviderHandoffAuthority := by
  unfold Store.authority
  rw [hh, Option.bind_some, Option.map_map]
  congr 1
  funext a
  cases a <;> rfl

variable {calls : List (EvidenceInput × ℕ)}

variable (sha256) in
/-- The callbacks are delivered one after the other, each at its time. -/
def deliver (calls : List (EvidenceInput × ℕ)) (s : Store) : Store :=
  calls.foldl (fun s call => (appendTreasuryPartnerHandoffEvidence sha256 call.1 call.2 s).2) s

/-- Callbacks for one handoff with different event ids, none of which is recorded. -/
structure Undelivered (s : Store) (n : ℕ) (inputs : List EvidenceInput) : Prop where
  subject : ∀ input ∈ inputs, input.ledgerEntryId = n
  fresh : ∀ input ∈ inputs, input.Fresh s
  distinct : (inputs.map fun input => Text.trim input.providerEventId).Nodup

variable (sha256) in
theorem deliver_spec (hcalls : Undelivered s n (calls.map Prod.fst)) (hh : s.handoff n = some h) :
    ∃ h', (deliver sha256 calls s).handoff n = some h' ∧
      h'.standing = (reports (calls.map Prod.fst)).foldl absorb h.standing ∧
      (deliver sha256 calls s).events =
        s.events ++ (calls.map Prod.fst).map (EvidenceInput.event sha256) := by
  induction calls generalizing s h with
  | nil => exact ⟨h, hh, rfl, (List.append_nil _).symm⟩
  | cons call calls ih =>
    obtain ⟨input, now⟩ := call
    have hn : input.ledgerEntryId = n := hcalls.subject input (by simp)
    rw [← hn] at hh
    obtain ⟨hhandoff, hevents, -⟩ :=
      append_of_fresh sha256 now (hcalls.fresh input (by simp)) hh n
    rw [if_pos hn.symm] at hhandoff
    have hrest : Undelivered (appendTreasuryPartnerHandoffEvidence sha256 input now s).2 n
        (calls.map Prod.fst) := by
      have hnodup := List.nodup_cons.mp hcalls.distinct
      refine ⟨fun i hi => hcalls.subject i (List.mem_cons_of_mem _ hi), fun i hi e he => ?_,
        hnodup.2⟩
      rw [hevents, List.mem_append, List.mem_singleton] at he
      rcases he with he | rfl
      · exact hcalls.fresh i (List.mem_cons_of_mem _ hi) e he
      · intro heq
        exact hnodup.1 (List.mem_map.mpr ⟨i, hi, heq.symm⟩)
    obtain ⟨h', hh', hstanding, hevents'⟩ := ih hrest hhandoff
    refine ⟨h', hh', ?_, ?_⟩
    · rw [hstanding, standing_applied, ← List.foldl_append]
      unfold reports
      rw [← List.map_append, ← List.filter_append]
      rfl
    · refine hevents'.trans ?_
      rw [hevents, List.append_assoc]
      rfl

/-- Different callbacks for a handoff that is not frozen: two different terminal statuses freeze it,
each callback is recorded once, the order does not matter, and a callback that is delivered again
changes nothing. -/
theorem callbacks_commute (hh : s.handoff n = some h) (hopen : h.frozenAt = none)
    (hcalls : Undelivered s n (calls.map Prod.fst)) :
    let s' := deliver sha256 calls s
    (s'.frozenAt n ≠ none ↔ Contradictory (h.partnerStatus :: reports (calls.map Prod.fst))) ∧
      s'.events = s.events ++ (calls.map Prod.fst).map (EvidenceInput.event sha256) ∧
      (∀ calls', (calls'.map Prod.fst).Perm (calls.map Prod.fst) →
        (deliver sha256 calls' s).authority n = s'.authority n) ∧
      ∀ input ∈ calls.map Prod.fst, ∀ now,
        handle sha256 s' (.evidence input now) = (.ok .accepted, s') := by
  intro s'
  have hstart : h.standing = some h.partnerStatus := by
    unfold Handoff.standing
    rw [hopen]
    rfl
  obtain ⟨h', hh', hstanding, hevents⟩ := deliver_spec sha256 hcalls hh
  refine ⟨?_, hevents, fun calls' hperm => ?_, fun input hinput now => ?_⟩
  · rw [← foldl_absorb_eq_none, ← hstart, ← hstanding]
    unfold Store.frozenAt Handoff.standing
    rw [hh']
    cases hfrozen : h'.frozenAt <;> simp [hfrozen]
  · have hcalls' : Undelivered s n (calls'.map Prod.fst) :=
      ⟨fun i hi => hcalls.subject i (hperm.mem_iff.mp hi),
        fun i hi => hcalls.fresh i (hperm.mem_iff.mp hi),
        (hperm.map _).nodup_iff.mpr hcalls.distinct⟩
    obtain ⟨h'', hh'', hstanding', -⟩ := deliver_spec sha256 hcalls' hh
    rw [authority_eq hh', authority_eq hh'', hstanding, hstanding']
    exact congrArg _ (foldl_absorb_perm ((hperm.filter _).map _) h.standing)
  · -- the event that is found is the one of this callback
    have hevent : input.event sha256 ∈ s'.events := by
      rw [hevents]
      exact List.mem_append_right _ (List.mem_map_of_mem hinput)
    show appendTreasuryPartnerHandoffEvidence sha256 input now s' = _
    unfold appendTreasuryPartnerHandoffEvidence
    dsimp only
    split
    · next e he =>
      rw [hevents] at he
      have hid := List.find?_some he
      rw [decide_eq_true_eq] at hid
      rcases List.mem_append.mp (List.mem_of_find?_eq_some he) with hold | hnew
      · exact absurd hid (hcalls.fresh input hinput e hold)
      · obtain ⟨i, hi, rfl⟩ := List.mem_map.mp hnew
        rw [List.inj_on_of_nodup_map hcalls.distinct hi hinput hid]
        exact if_pos rfl
    · next hnone =>
      rw [List.find?_eq_none] at hnone
      exact absurd (decide_eq_true rfl) (hnone _ hevent)

/-- The handoff of `sampleHandoff` was created. -/
def sampleStore : Store := (handle id ⟨[7], [], [], []⟩ (.upsert sampleHandoff)).2

theorem callbacks_commute_sample :
    (deliver id [(sampleEvidence "evt-1" .failed none, 100),
      (sampleEvidence "evt-2" .acknowledged none, 200),
      (sampleEvidence "evt-3" .completed (some (Text.lit "proof")), 300)] sampleStore).frozenAt 7 ≠
        none := by
  refine (callbacks_commute (h := ⟨7, Text.lit "BRIDGE", .submitted, Text.lit "7:SUBMITTED", none,
    none⟩) rfl rfl ⟨by decide, fun _ _ _ he => ?_, by decide +kernel⟩).1.mpr ?_
  · cases he
  · exact ⟨.failed, by decide, .completed, by decide +kernel, rfl, rfl, by decide⟩

/-! ### The creation, repeated -/

variable {q : Request} {hash : List Char} {tr : List (Transition Store Request)}

/-- The step is a callback that is applied to the handoff of `n`. -/
def Applies (n : ℕ) (t : Transition Store Request) : Prop :=
  ∃ input now h, t.label = .evidence input now ∧ input.ledgerEntryId = n ∧ input.Fresh t.source ∧
    t.source.handoff n = some h ∧ input.transition h = .advance

/-- There is a handoff for `n`, and its payload hash is `hash`. -/
structure Created (n : ℕ) (hash : List Char) (s : Store) : Prop where
  entry : n ∈ s.ledgerEntries
  handoff : ∃ h, s.handoff n = some h ∧ h.latestEventPayloadHash = hash

/-- A handoff is written, for `n` with the payload hash it has. -/
theorem Created.write (hs : Created n hash s) (hh : s.handoff m = some h)
    (hentries : s'.ledgerEntries = s.ledgerEntries)
    (hhandoff : s'.handoff n = if n = m then some h' else s.handoff n)
    (hhash : n = m → h'.latestEventPayloadHash = h.latestEventPayloadHash) :
    Created n hash s' := by
  obtain ⟨h₀, hh₀, rfl⟩ := hs.handoff
  refine ⟨by rw [hentries]; exact hs.entry, ?_⟩
  rw [hhandoff]
  split_ifs with hn
  · rw [hn, hh, Option.some.injEq] at hh₀
    rw [← hh₀]
    exact ⟨h', rfl, hhash hn⟩
  · exact ⟨h₀, hh₀, rfl⟩

theorem Created.upsert (hs : Created n hash s) {data : HandoffInput} {answer : Answer}
    (hok : upsertTreasuryPartnerHandoff sha256 data s = .ok (answer, s')) :
    Created n hash s' := by
  unfold upsertTreasuryPartnerHandoff at hok
  rw [require_bind_eq_ok, require_bind_eq_ok] at hok
  obtain ⟨-, -, hok⟩ := hok
  split at hok
  · rw [require_bind_eq_ok, pure_eq_ok] at hok
    cases hok.2
    exact hs
  · rw [pure_eq_ok] at hok
    cases hok
    obtain ⟨h, hh, hhash⟩ := hs.handoff
    exact ⟨hs.entry, h, Table.lookup_append_of_some hh, hhash⟩

theorem Created.correct (hs : Created n hash s) {data : CorrectionInput} {answer : Answer}
    (hok : correctFrozenTreasuryPartnerHandoff data s = .ok (answer, s')) :
    Created n hash s' := by
  unfold correctFrozenTreasuryPartnerHandoff at hok
  split at hok
  · cases hok
  · next h hh =>
    rw [require_bind_eq_ok] at hok
    obtain ⟨-, hok⟩ := hok
    split at hok
    · cases hok
    · rw [require_bind_eq_ok, pure_eq_ok] at hok
      cases hok.2
      have hkey : h.ledgerEntryId = data.ledgerEntryId := handoff_ledgerEntryId hh
      exact hs.write hh rfl (handoff_write (s := s.addRecord _) hh (by exact hkey) n) fun _ => rfl

theorem Created.evidence (hs : Created n hash s)
    (hquiet : ¬ Applies n ⟨s, .evidence input now, s'⟩) :
    Created n hash (appendTreasuryPartnerHandoffEvidence sha256 input now s).2 := by
  by_cases hignored : input.Fresh s → s.handoff input.ledgerEntryId = none
  · rw [append_of_ignored sha256 now hignored]
    exact hs
  · obtain ⟨hfresh, hsome⟩ := Classical.not_imp.mp hignored
    obtain ⟨h, hh⟩ := Option.ne_none_iff_exists'.mp hsome
    obtain ⟨hhandoff, -, hentries⟩ := append_of_fresh sha256 now hfresh hh n
    refine hs.write hh hentries hhandoff fun hn => ?_
    subst hn
    unfold EvidenceInput.applied
    split
    · rfl
    · next hadvance => exact absurd ⟨input, now, h, rfl, rfl, hfresh, hh, hadvance⟩ hquiet
    · rfl

theorem Created.step (hs : Created n hash s) (hstep : Step sha256 s q s')
    (hquiet : ¬ Applies n ⟨s, q, s'⟩) : Created n hash s' := by
  have hrollback : ∀ result : Except Thrown (Answer × Store),
      (∀ answer s', result = .ok (answer, s') → Created n hash s') →
      Created n hash (rollback result s).2 := by
    intro result hresult
    cases result with
    | ok => exact hresult _ _ rfl
    | error => exact hs
  subst hstep
  cases q with
  | ingest => exact ⟨List.mem_cons_of_mem _ hs.entry, hs.handoff⟩
  | upsert => exact hrollback _ fun _ _ => hs.upsert
  | evidence => exact hs.evidence hquiet
  | correct => exact hrollback _ fun _ _ => hs.correct
  | sweepBatchConflict => exact ⟨hs.entry, hs.handoff⟩

/-- How a creation is answered when there is a handoff. -/
theorem Created.answer {data : HandoffInput} (hs : Created data.ledgerEntryId hash s)
    (hstatus : ¬ isHandoffComplete data.partnerStatus) :
    ∃ h, s.handoff data.ledgerEntryId = some h ∧ handle sha256 s (.upsert data) =
      (if hash = sha256 data.payload then .ok (.upserted h false true)
        else .error (.handoffConflict
          (Text.lit "Treasury partner handoff already exists with conflicting payload")), s) := by
  obtain ⟨h, hh, rfl⟩ := hs.handoff
  refine ⟨h, hh, ?_⟩
  show rollback (upsertTreasuryPartnerHandoff sha256 data s) s = _
  unfold upsertTreasuryPartnerHandoff
  rw [require_bind_of_pos hstatus, require_bind_of_pos hs.entry, hh]
  dsimp only [require]
  split_ifs <;> rfl

/-- As long as no callback is applied to a handoff that was created, its creation may be repeated:
it is answered with the handoff.  Another creation, whose payload has another hash, is refused. -/
theorem creation_repeated {data : HandoffInput} {s₁ : Store} {answer : Answer}
    (hnew : s.handoff data.ledgerEntryId = none)
    (hok : handle sha256 s (.upsert data) = (.ok answer, s₁)) (hrun : Run (Step sha256) s₁ tr s')
    (hquiet : ∀ t ∈ tr, ¬ Applies data.ledgerEntryId t) :
    (∃ h, s'.handoff data.ledgerEntryId = some h ∧
      handle sha256 s' (.upsert data) = (.ok (.upserted h false true), s')) ∧
      ∀ other : HandoffInput, other.ledgerEntryId = data.ledgerEntryId →
        sha256 other.payload ≠ sha256 data.payload → ¬ isHandoffComplete other.partnerStatus →
        handle sha256 s' (.upsert other) = (.error (.handoffConflict
          (Text.lit "Treasury partner handoff already exists with conflicting payload")), s') := by
  have hcreate := rollback_accepted (congrArg Prod.fst hok)
  rw [show (rollback _ s).2 = s₁ from congrArg Prod.snd hok] at hcreate
  unfold upsertTreasuryPartnerHandoff at hcreate
  rw [require_bind_eq_ok, require_bind_eq_ok, hnew, pure_eq_ok] at hcreate
  obtain ⟨hstatus, hentry, hcreate⟩ := hcreate
  cases hcreate
  unfold Store.handoff at hnew
  have hend : Created data.ledgerEntryId (sha256 data.payload) s' := by
    refine hrun.invariant_of (fun _ _ _ hquiet hs hstep => hs.step hstep hquiet) hquiet
      ⟨hentry, ?_⟩
    unfold Store.handoff
    rw [Table.lookup_append, hnew, Option.none_or]
    exact ⟨_, if_pos rfl, rfl⟩
  refine ⟨?_, fun other hn hpayload hother => ?_⟩
  · obtain ⟨h, hh, hanswer⟩ := hend.answer hstatus
    rw [if_pos rfl] at hanswer
    exact ⟨h, hh, hanswer⟩
  · rw [← hn] at hend
    obtain ⟨_, -, hanswer⟩ := hend.answer hother
    rw [if_neg hpayload.symm] at hanswer
    exact hanswer

/-- A late report leaves the creation repeatable. -/
theorem creation_repeated_sample :
    ∃ s, Step id sampleStore (.evidence (sampleEvidence "evt-1" .created none) 100) s ∧
      ∃ h, s.handoff 7 = some h ∧
        handle id s (.upsert sampleHandoff) = (.ok (.upserted h false true), s) := by
  have hok : handle id ⟨[7], [], [], []⟩ (.upsert sampleHandoff) =
      (.ok (.upserted _ true false), sampleStore) := rfl
  refine ⟨_, rfl, (creation_repeated rfl hok (.single rfl) ?_).1⟩
  rintro t ht ⟨input, now, h, hlabel, -, -, hh, hadvance⟩
  rw [List.mem_singleton.mp ht] at hlabel hh
  cases hlabel
  cases hh
  revert hadvance
  decide

/-- A callback that is applied overwrites the hash by which the creation is recognized, so the
same request is a conflict. -/
theorem creation_refused_after_callback :
    (sampleStore.handoff 7).any (fun h =>
      handle id sampleStore (.upsert sampleHandoff) =
        (.ok (.upserted h false true), sampleStore)) = true ∧
      (handle id (deliver id [(sampleEvidence "evt-1" .acknowledged none, 100)] sampleStore)
        (.upsert sampleHandoff)).1 = .error (.handoffConflict
          (Text.lit "Treasury partner handoff already exists with conflicting payload")) := by
  decide +kernel

end Cotsel.Treasury.PartnerHandoff
