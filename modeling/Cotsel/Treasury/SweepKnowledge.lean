import Cotsel.Treasury.SweepEffects

/-!
# What a request knows

A request decides on what it has read before, and that may be out of date when its transaction
commits.  `Knowledge` is what a request keeps of its reads, and `knowledge` is the protocol that
says what it must have read before it asks for a transition:

* an approval, the batch and allocations that add up to its expected total;
* a match with a claim, an approved batch whose expected total and allocations are the amount of the
  claim;
* `HANDED_OFF`, a delivery of its own that the provider's record has accepted;
* `CLOSED`, a handoff that was completed;
* the close of a period, all of its batches, each of them `CLOSED` or `VOID`.

Every request keeps to the protocol (`follows`).  What is true of the tables then is proved in the
modules about approvals, matches, handoffs and periods, each of which relates some of the knowledge
to the tables.
-/

namespace Cotsel.Treasury.Sweep

open Interaction

/-! ### Knowledge -/

structure Knowledge where
  /-- The batch that was read last. -/
  batch : Option Batch
  /-- The allocations that were read since, and of which batch. -/
  links : Option (ℕ × List Allocation)
  /-- The entry of one of these allocations was not found. -/
  missing : Bool
  /-- The batches whose handoff was completed. -/
  completed : List ℕ
  /-- The delivery that was accepted last. -/
  delivered : Option (ℕ × ProviderHandoffStatus)
  /-- The period that was read last. -/
  period : Option Period
  /-- The batches of the period that were listed since. -/
  listed : List Batch
  /-- The last page has been read. -/
  covered : Bool
  /-- The batches that were `CLOSED` or `VOID`. -/
  settled : List ℕ

namespace Knowledge

def nothing : Knowledge := ⟨none, none, false, [], none, none, [], false, []⟩

def total (links : List Allocation) : ℕ := (links.map Allocation.entryAmountRaw).sum

/-- What has to be known for a transition of a batch. -/
def MayMove (t : Knowledge) (data : StatusUpdate) : Prop :=
  data.matched = none ∧
    match data.status with
    | .approved => ∃ batch links, t.batch = some batch ∧ batch.id = data.batchId ∧
        t.links = some (data.batchId, links) ∧
        (t.missing = false → total links = batch.expectedTotalRaw)
    | .executed => False
    | .handedOff => ∃ status, t.delivered = some (data.batchId, status) ∧ isHandedOff status = true
    | .closed => data.batchId ∈ t.completed
    | .draft | .pendingApproval | .void => True

def MayExecute (t : Knowledge) (data : ExecutionInput) : Prop :=
  ∃ batch links, t.batch = some batch ∧ batch.id = data.batchId ∧ batch.status = .approved ∧
    t.links = some (data.batchId, links) ∧ data.claim.amountRaw = batch.expectedTotalRaw ∧
    (t.missing = false → data.claim.amountRaw = total links)

/-- What has to be known for a transition of a period; nobody opens one again. -/
def MayMovePeriod (t : Knowledge) (data : PeriodStatusUpdate) : Prop :=
  match data.status with
  | .opened => False
  | .pendingClose => True
  | .closed => (∃ period, t.period = some period ∧ period.id = data.periodId) ∧
      t.covered = true ∧ ∀ b ∈ t.listed, b.id ∈ t.settled

def MayList (t : Knowledge) (periodId limit offset : ℕ) : Prop :=
  (∃ period, t.period = some period ∧ period.id = periodId) ∧ offset = t.listed.length ∧
    limit = pageSize

/-- An entry whose allocation was read. -/
def linksEntry (t : Knowledge) (ledgerEntryId : ℕ) : Bool :=
  t.links.any fun l => l.2.any fun a => a.ledgerEntryId = ledgerEntryId

/-- A batch is read, and nothing of its allocations yet. -/
def readBatch (t : Knowledge) : Option Batch → Knowledge
  | some batch =>
    { t with
      batch := some batch
      links := none
      missing := false
      settled := if isSettled batch.status then batch.id :: t.settled else t.settled }
  | none => t

def readLinks (t : Knowledge) (id : ℕ) (links : List Allocation) : Knowledge :=
  { t with links := some (id, links) }

def readFacts (t : Knowledge) (ledgerEntryId : ℕ) : Option AccountingFacts → Knowledge
  | some _ => t
  | none => { t with missing := t.missing || t.linksEntry ledgerEntryId }

def readHandoff (t : Knowledge) (id : ℕ) : Option Handoff → Knowledge
  | some handoff =>
    { t with
      completed := if handoff.handoffStatus = .completed then id :: t.completed else t.completed }
  | none => t

def deliver (t : Knowledge) (data : HandoffInput) : Knowledge :=
  { t with delivered := some (data.sweepBatchId, data.handoffStatus) }

def readPeriod (t : Knowledge) : Option Period → Knowledge
  | some period => { t with period := some period, listed := [], covered := false }
  | none => t

/-- A page of the batches of the period is read. -/
def list (t : Knowledge) (limit : ℕ) (page : List Batch) : Knowledge :=
  { t with listed := t.listed ++ page, covered := page.length < limit }

def learn (t : Knowledge) : (o : Op) → Ans o → Knowledge
  | .getSweepBatch _, batch => t.readBatch batch
  | .listSweepBatchEntries id, links => t.readLinks id links
  | .getLedgerEntryAccountingFacts id, facts => t.readFacts id facts
  | .getPartnerHandoffByBatchId id, handoff => t.readHandoff id handoff
  | .upsertPartnerHandoff data, _ => t.deliver data
  | .getAccountingPeriodById _, period => t.readPeriod period
  | .listSweepBatches _ limit _, page => t.list limit page
  | _, _ => t

/-- An error teaches nothing. -/
def next (t : Knowledge) (o : Op) : Except Thrown (Ans o) → Knowledge
  | .ok a => t.learn o a
  | .error _ => t

end Knowledge

/-- What a request must know before it asks. -/
def knowledge : Protocol Op Ans Thrown Knowledge where
  allowed := fun t o =>
    match o with
    | .updateSweepBatchStatus data => t.MayMove data
    | .recordSweepBatchExecution data _ => t.MayExecute data
    | .updateAccountingPeriodStatus data => t.MayMovePeriod data
    | .listSweepBatches periodId limit offset => t.MayList periodId limit offset
    -- ingestion binds no claim
    | .upsertTreasuryClaimEvent data _ => data.matchedSweepBatchId = none
    | _ => True
  answers := fun o r =>
    match o, r with
    | .getSweepBatch id, .ok (some batch) => batch.id = id
    | .getAccountingPeriodById id, .ok (some period) => period.id = id
    | .listSweepBatches _ limit _, .ok page => List.length (α := Batch) page ≤ limit
    | _, _ => True
  next := Knowledge.next

theorem truthful : Truthful world knowledge := by
  intro p o luck s r s' h
  have hs : perform o luck s = (r, s') := Option.some.inj h
  cases o with
  | getSweepBatch =>
    cases r with
    | error => trivial
    | ok batch =>
      cases batch with
      | none => trivial
      | some =>
        unfold perform at hs
        have hread := (Transaction.query_ok hs).symm
        exact Database.batch_id (Option.filter_eq_some_iff.mp hread).1
  | getAccountingPeriodById =>
    cases r with
    | error => trivial
    | ok period =>
      cases period with
      | none => trivial
      | some =>
        unfold perform at hs
        exact Database.period_id (Transaction.query_ok hs).symm
  | listSweepBatches periodId limit offset =>
    cases r with
    | error => trivial
    | ok page =>
      unfold perform at hs
      have hread := Transaction.query_ok hs
      show List.length (α := Batch) page ≤ limit
      rw [show page = s.batchPage periodId limit offset from hread]
      exact List.length_take_le _ _
  | _ => trivial

/-! ### Rules -/

/-- From `t` on the program asks for what is allowed, and if it returns a value then `Q` holds. -/
def Learns {α : Type} (t : Knowledge) (prog : Code α) (Q : Knowledge → α → Prop) : Prop :=
  wp knowledge prog Q (fun _ _ => True) t

variable {e : Thrown}

namespace Learns

variable {α β : Type} {t : Knowledge} {prog : Code α} {Q : Knowledge → α → Prop}

theorem pure {a : α} (h : Q t a) : Learns t (pure a) Q := h

theorem raise : Learns t (Sweep.raise e) Q := trivial

theorem mono {Q' : Knowledge → α → Prop} (h : Learns t prog Q) (hQ : ∀ t a, Q t a → Q' t a) :
    Learns t prog Q' :=
  wp_mono prog hQ (fun _ _ _ => trivial) h

theorem bind {f : α → Code β} {R : Knowledge → β → Prop} (h : Learns t prog Q)
    (hf : ∀ t' a, Q t' a → Learns t' (f a) R) : Learns t (prog >>= f) R := by
  unfold Learns
  rw [wp_bind]
  exact wp_mono prog hf (fun _ _ _ => trivial) h

theorem ask {o : Op} {Q : Knowledge → Ans o → Prop} (hallowed : knowledge.allowed t o)
    (h : ∀ a, knowledge.answers o (.ok a) → Q (t.learn o a) a) :
    Learns t (Sweep.ask o) Q := by
  unfold Learns Sweep.ask
  rw [wp_call]
  exact ⟨hallowed, h, fun _ _ => trivial⟩

/-- What comes before teaches nothing. -/
theorem keep_bind {R : α → Prop} {f : α → Code β} {Q : Knowledge → β → Prop}
    (h : Keeps knowledge prog R) (hf : ∀ a, R a → Learns t (f a) Q) : Learns t (prog >>= f) Q :=
  h.wp_bind hf fun _ => trivial

end Learns

/-- An operation that is always allowed and teaches nothing. -/
def Op.isIdle : Op → Bool
  | .listLedgerEntryAccountingProjections _ _ | .getTreasuryClaimEventByBatchId _
  | .getTreasuryClaimEventByTxHash _ | .listSweepBatchEntryLogAddresses _ | .getLedgerEntryById _
  | .getActiveAllocation _ | .findClaim _ _ | .assertEntries _ _
  | .fetchTreasuryClaimEventByTxHash _ | .verify _ _ | .assessTrades _ | .summarizeTrades _ => true
  | _ => false

theorem keeps_ask {o : Op} (h : o.isIdle = true) : Keeps knowledge (ask o) fun _ => True := by
  refine (Keeps.call fun t => ?_).mono fun _ _ => trivial
  refine ⟨?_, fun r => ?_⟩
  · cases o <;> first | exact trivial | cases h
  · cases r with
    | error => rfl
    | ok => cases o <;> first | rfl | cases h

theorem keeps_raise {α : Type} {R : α → Prop} :
    Keeps knowledge (raise e : Code α) R := fun _ => rfl

theorem keeps_check {condition : Prop} [Decidable condition] :
    Keeps knowledge (check condition e) fun _ => condition := by
  unfold check
  split_ifs with h
  · exact Keeps.pure h
  · exact keeps_raise

/-! ### The detail of a batch -/

variable {id : ℕ}

namespace Knowledge

theorem subset_read {c : Prop} [Decidable c] {ids : List ℕ} :
    ids ⊆ if c then id :: ids else ids := by
  split_ifs
  · exact List.subset_cons_self _ _
  · exact List.Subset.refl _

theorem mem_read {c : Prop} [Decidable c] {ids : List ℕ} (h : c) :
    id ∈ if c then id :: ids else ids := by
  rw [if_pos h]
  exact List.mem_cons_self

/-- What a read of a batch leaves of what was known. -/
structure Grows (t t' : Knowledge) : Prop where
  completed : t.completed ⊆ t'.completed
  delivered : t'.delivered = t.delivered
  period : t'.period = t.period
  listed : t'.listed = t.listed
  covered : t'.covered = t.covered
  settled : t.settled ⊆ t'.settled

theorem Grows.refl (t : Knowledge) : t.Grows t :=
  ⟨List.Subset.refl _, rfl, rfl, rfl, rfl, List.Subset.refl _⟩

theorem Grows.trans {t t' t'' : Knowledge} (h : t.Grows t') (h' : t'.Grows t'') : t.Grows t'' :=
  ⟨List.Subset.trans h.completed h'.completed, h'.delivered.trans h.delivered,
    h'.period.trans h.period, h'.listed.trans h.listed, h'.covered.trans h.covered,
    List.Subset.trans h.settled h'.settled⟩

/-- What is known once the detail of a batch has been read. -/
structure Sees (t : Knowledge) (id : ℕ) (detail : BatchDetail) : Prop where
  batch : t.batch = some detail.batch
  batch_id : detail.batch.id = id
  links : ∃ links, t.links = some (id, links) ∧
    (t.missing = false → detail.allocatedAmountRaw = total links)
  settled : isSettled detail.batch.status = true → id ∈ t.settled
  completed : detail.partnerHandoff.any (fun h => h.handoffStatus = .completed) = true →
    id ∈ t.completed

end Knowledge

open Knowledge

/-- The total of the projections is that of the allocations, unless an entry is missing. -/
theorem learns_projectAllocations {links : List Allocation} {t : Knowledge}
    (hlinks : ∀ a ∈ links, t.linksEntry a.ledgerEntryId = true) :
    Learns t (projectAllocations links) fun t' entries =>
      (t' = { t with missing := t'.missing } ∧ (t.missing = true → t'.missing = true)) ∧
        (t'.missing = false → sumAllocatedEntryAmountRaw entries = total links) := by
  induction links generalizing t with
  | nil => exact .pure ⟨⟨rfl, id⟩, fun _ => rfl⟩
  | cons link links ih =>
    have hrest : ∀ a ∈ links, t.linksEntry a.ledgerEntryId = true :=
      fun a ha => hlinks a (List.mem_cons_of_mem _ ha)
    refine Learns.bind (Q := fun t' facts => t' = { t with missing := t'.missing } ∧
      (t.missing = true → t'.missing = true) ∧ (facts = none → t'.missing = true)) ?_ ?_
    · refine .ask trivial fun facts _ => ?_
      cases facts with
      | none =>
        have hlink := hlinks link List.mem_cons_self
        refine ⟨rfl, fun h => ?_, fun _ => ?_⟩
        · show (t.missing || t.linksEntry link.ledgerEntryId) = true
          rw [h, Bool.true_or]
        · show (t.missing || t.linksEntry link.ledgerEntryId) = true
          rw [hlink, Bool.or_true]
      | some => exact ⟨rfl, id, nofun⟩
    · rintro t₁ facts ⟨ht₁, hmissing₁, hnone⟩
      have hrest₁ : ∀ a ∈ links, t₁.linksEntry a.ledgerEntryId = true := by
        rw [ht₁]
        exact hrest
      refine (ih hrest₁).bind ?_
      rintro t₂ rest ⟨⟨ht₂, hmissing₂⟩, hsum⟩
      have ht : t₂ = { t with missing := t₂.missing } := by
        rw [ht₂, ht₁]
      refine Learns.mono (Q := fun t' entries => t' = t₂ ∧ (t₂.missing = false →
        sumAllocatedEntryAmountRaw entries = total (link :: links))) ?_ ?_
      · cases facts with
        | none =>
          refine .pure ⟨rfl, fun h => ?_⟩
          rw [hmissing₂ (hnone rfl)] at h
          cases h
        | some =>
          refine .pure ⟨rfl, fun h => ?_⟩
          have hrest := hsum h
          unfold sumAllocatedEntryAmountRaw total at hrest ⊢
          rw [List.map_cons, List.map_cons, List.sum_cons, List.sum_cons, hrest]
          rfl
      · rintro _ entries ⟨rfl, hsum⟩
        exact ⟨⟨ht, fun h => hmissing₂ (hmissing₁ h)⟩, hsum⟩

theorem learns_getSweepBatchDetail {t : Knowledge} :
    Learns t (getSweepBatchDetail id) fun t' detail =>
      t.Grows t' ∧ ∀ d, detail = some d → t'.Sees id d := by
  refine Learns.bind (Q := fun t' batch => (batch = none ∧ t' = t) ∨ ∃ b, batch = some b ∧
    b.id = id ∧ t' = { t with
      batch := some b
      links := none
      missing := false
      settled := if isSettled b.status then b.id :: t.settled else t.settled }) ?_ ?_
  · refine .ask trivial fun batch hanswer => ?_
    cases batch with
    | none => exact Or.inl ⟨rfl, rfl⟩
    | some b => exact Or.inr ⟨b, rfl, hanswer, rfl⟩
  · rintro t₁ batch (⟨rfl, rfl⟩ | ⟨b, rfl, hid, ht₁⟩)
    · exact .pure ⟨.refl _, fun d hd => by cases hd⟩
    · have hgrows : t.Grows t₁ := by
        rw [ht₁]
        exact ⟨List.Subset.refl _, rfl, rfl, rfl, rfl, subset_read⟩
      have hsettled : isSettled b.status = true → id ∈ t₁.settled := by
        intro h
        rw [ht₁, ← hid]
        exact mem_read h
      have hbatch : t₁.batch = some b := by rw [ht₁]
      refine Learns.bind (Q := fun t' links => t' = { t₁ with links := some (id, links) }) ?_ ?_
      · exact .ask trivial fun links _ => rfl
      · rintro t₂ links rfl
        refine (learns_projectAllocations fun a ha => ?_).bind ?_
        · show (links.any fun a' => a'.ledgerEntryId = a.ledgerEntryId) = true
          exact List.any_eq_true.mpr ⟨a, ha, decide_eq_true rfl⟩
        · rintro t₃ entries ⟨⟨ht₃, -⟩, hsum⟩
          refine Learns.bind (Q := fun t' handoff => t' = { t₃ with completed := t'.completed } ∧
            t₃.completed ⊆ t'.completed ∧ (handoff.any (fun h : Handoff =>
              h.handoffStatus = .completed) = true → id ∈ t'.completed)) ?_ ?_
          · refine .ask trivial fun handoff _ => ?_
            cases handoff with
            | none => exact ⟨rfl, List.Subset.refl _, nofun⟩
            | some =>
              exact ⟨rfl, subset_read, fun h => mem_read (of_decide_eq_true h)⟩
          · rintro t₄ handoff ⟨ht₄, hmono, hcompleted⟩
            have hgrows' : t₁.Grows t₄ := by
              rw [ht₃] at ht₄ hmono
              rw [ht₄]
              exact ⟨hmono, rfl, rfl, rfl, rfl, List.Subset.refl _⟩
            refine .pure ⟨hgrows.trans hgrows', fun d hd => ?_⟩
            cases hd
            refine ⟨?_, hid, ⟨links, ?_, fun h => ?_⟩, fun h => ?_, hcompleted⟩
            · rw [ht₄, ht₃]
              exact hbatch
            · rw [ht₄, ht₃]
            · refine hsum ?_
              rw [ht₄] at h
              exact h
            · exact hgrows'.settled (hsettled h)

theorem learns_requireDetail {t : Knowledge} :
    Learns t (requireDetail id e) fun t' detail => t.Grows t' ∧ t'.Sees id detail := by
  refine learns_getSweepBatchDetail.bind ?_
  rintro t' detail ⟨hgrows, hsees⟩
  cases detail with
  | none => exact .raise
  | some detail => exact .pure ⟨hgrows, hsees detail rfl⟩

theorem keeps_assertBatch {detail : BatchDetail} {requirement : EligibilityRequirement} :
    Keeps knowledge (assertBatch detail requirement) fun _ => True :=
  keeps_ask rfl

/-! ### Matches -/

theorem assertBatchExecutionMatchable_eq_ok {params : ExecutionMatch} {u : Unit}
    (h : assertBatchExecutionMatchable params = .ok u) :
    (params.batchStatus = .approved ∨
      params.verificationOnly = true ∧ params.batchStatus.isExecuted = true) ∧
    params.expectedTotalRaw = params.allocatedTotalRaw ∧
    params.observedAmountRaw = params.allocatedTotalRaw := by
  unfold assertBatchExecutionMatchable at h
  rw [Guard.require_bind_eq_ok, Guard.require_bind_eq_ok, Guard.require_bind_eq_ok,
    Guard.require_bind_eq_ok, Guard.require_bind_eq_ok] at h
  exact ⟨h.1, h.2.2.2.1, h.2.2.2.2.1⟩

variable {txHash : List Char}

theorem keeps_checkBound {status : SweepBatchStatus} {existing : Option Claim} :
    Keeps knowledge (checkBound status existing txHash) fun _ => True := by
  cases existing with
  | none => exact Keeps.pure trivial
  | some =>
    refine keeps_check.bind fun _ _ => ?_
    exact keeps_check.mono fun _ _ => trivial

theorem keeps_observeClaim {existing : Option Claim} :
    Keeps knowledge (observeClaim existing txHash) fun _ => True := by
  refine Keeps.bind (R := fun _ => True) ?_ fun persisted _ => ?_
  · cases existing with
    | none => exact keeps_ask rfl
    | some => exact Keeps.pure trivial
  refine Keeps.bind (R := fun _ => True) ?_ fun observed _ => ?_
  · cases persisted with
    | none => exact keeps_ask rfl
    | some => exact Keeps.pure trivial
  cases observed with
  | none => exact keeps_raise
  | some => exact keeps_check.bind fun _ _ => Keeps.pure trivial

variable {batchId : ℕ}

theorem keeps_proveClaim {observed : ObservedClaim} :
    Keeps knowledge (proveClaim batchId txHash observed) fun _ => True := by
  refine (keeps_ask rfl).bind fun emitters _ => ?_
  split
  · refine (keeps_ask rfl).bind fun verdict _ => ?_
    split
    · exact keeps_raise
    · refine keeps_check.bind fun _ _ => ?_
      exact Keeps.ofExcept.bind fun _ _ => Keeps.pure trivial
  · exact keeps_raise

theorem learns_recordExecution {data : ExecutionInput} {t : Knowledge} (h : t.MayExecute data) :
    Learns t (recordExecution data) fun t' _ => t' = t := by
  refine .keep_bind (keeps_ask rfl) fun existing _ => ?_
  exact .ask h fun _ _ => rfl

theorem learns_verifyAndMatch {params : MatchParams} {t : Knowledge} :
    Learns t (verifyAndMatch params) fun t' _ => t.Grows t' := by
  refine learns_requireDetail.bind ?_
  rintro t' detail ⟨hgrows, hsees⟩
  refine .keep_bind (keeps_ask rfl) fun existing _ => ?_
  refine .keep_bind keeps_checkBound fun _ _ => ?_
  refine .keep_bind keeps_observeClaim fun observed _ => ?_
  refine .keep_bind Keeps.ofExcept fun _ hmatch => ?_
  obtain ⟨hstatus, hexpected, hamount⟩ := assertBatchExecutionMatchable_eq_ok hmatch
  refine .keep_bind keeps_proveClaim fun proved _ => ?_
  refine .keep_bind keeps_check fun _ _ => ?_
  split_ifs with hexecuted
  · exact .pure hgrows
  · -- a batch that was not executed before was approved when it was read
    have happroved : detail.batch.status = .approved := by
      rcases hstatus with happroved | ⟨hverify, -⟩
      · exact happroved
      · exact absurd hverify hexecuted
    obtain ⟨links, hlinks, htotal⟩ := hsees.links
    refine (learns_recordExecution ?_).bind ?_
    · refine ⟨detail.batch, links, hsees.batch, hsees.batch_id, happroved, hlinks, ?_, ?_⟩
      · exact hamount.trans hexpected.symm
      · exact fun hmissing => hamount.trans (htotal hmissing)
    · rintro _ batch rfl
      exact .pure hgrows

theorem learns_revalidateMatchedBatch {t : Knowledge} :
    Learns t (revalidateMatchedBatch batchId) fun t' _ => t.Grows t' := by
  refine learns_requireDetail.bind ?_
  rintro t' detail ⟨hgrows, -⟩
  refine .keep_bind keeps_check fun _ _ => ?_
  split
  · exact .raise
  · refine .keep_bind keeps_check fun _ _ => ?_
    exact learns_verifyAndMatch.mono fun t'' _ h => hgrows.trans h

/-! ### The close packet -/

theorem mem_dedupeIssues {issue : CloseIssue} {issues : List CloseIssue} :
    issue ∈ dedupeIssues issues ↔ issue ∈ issues := by
  induction issues with
  | nil => exact Iff.rfl
  | cons first rest ih =>
    unfold dedupeIssues
    rw [List.mem_cons, List.mem_cons, List.mem_filter, ih, decide_eq_true_eq]
    by_cases h : issue = first
    · exact iff_of_true (Or.inl h) (Or.inl h)
    · rw [and_iff_left h]

theorem settled_of_readyForClose {entries : List AccountingFacts} {assessments : List TradeGate}
    {summary : GateStatus} {reports : List BatchReport}
    (h : readyForClose entries assessments summary reports = true) :
    ∀ r ∈ reports, isSettled r.detail.batch.status = true := by
  intro r hr
  by_contra hopen
  unfold readyForClose at h
  rw [List.isEmpty_iff] at h
  refine List.eq_nil_iff_forall_not_mem.mp h
    ⟨.batchNotClosed, none, some r.detail.batch.id, none⟩ ?_
  rw [mem_dedupeIssues]
  refine List.mem_append_left _ (List.mem_filter.mpr ⟨?_, rfl⟩)
  unfold rollforwardIssues
  rw [mem_dedupeIssues]
  refine List.mem_append_left _ (List.mem_append_right _ ?_)
  refine List.mem_map.mpr ⟨r, List.mem_filter.mpr ⟨hr, ?_⟩, rfl⟩
  rw [Bool.not_eq_true] at hopen
  rw [hopen]
  rfl

variable {fuel : ℕ}

theorem keeps_loadAllAccountingEntriesUpTo {endsAt offset : ℕ} :
    Keeps knowledge (loadAllAccountingEntriesUpTo endsAt fuel offset) fun _ => True := by
  induction fuel generalizing offset with
  | zero => exact keeps_raise
  | succ fuel ih =>
    refine (keeps_ask rfl).bind fun page _ => ?_
    split_ifs
    · exact Keeps.pure trivial
    · exact ih.bind fun _ _ => Keeps.pure trivial

variable {periodId : ℕ}

/-- The pages make up all that is listed, up to the last one. -/
theorem learns_loadAllSweepBatchesForPeriod {offset : ℕ} {t : Knowledge}
    (hperiod : ∃ period, t.period = some period ∧ period.id = periodId)
    (hoffset : offset = t.listed.length) :
    Learns t (loadAllSweepBatchesForPeriod periodId fuel offset) fun t' batches =>
      t' = { t with listed := t.listed ++ batches, covered := true } := by
  induction fuel generalizing offset t with
  | zero => exact .raise
  | succ fuel ih =>
    refine Learns.bind (Q := fun t' page => t' = t.list pageSize page ∧
      List.length (α := Batch) page ≤ pageSize) ?_ ?_
    · exact .ask ⟨hperiod, hoffset, rfl⟩ fun page hpage => ⟨rfl, hpage⟩
    · rintro _ page ⟨rfl, hpage⟩
      split_ifs with hlast
      · refine .pure ?_
        unfold Knowledge.list
        rw [decide_eq_true hlast]
      · refine (ih (t := t.list pageSize page) hperiod ?_).bind ?_
        · show _ = List.length (t.listed ++ page)
          rw [List.length_append, hoffset]
          omega
        · rintro _ rest rfl
          refine .pure ?_
          show ({ t with listed := (t.listed ++ page) ++ rest, covered := true } : Knowledge) = _
          rw [List.append_assoc]

theorem learns_loadReports {batches : List Batch} {t : Knowledge} :
    Learns t (loadReports batches) fun t' reports => t.Grows t' ∧
      reports.map (fun r => r.detail.batch.id) = batches.map Batch.id ∧
      ∀ r ∈ reports, isSettled r.detail.batch.status = true → r.detail.batch.id ∈ t'.settled := by
  induction batches generalizing t with
  | nil => exact .pure ⟨.refl t, rfl, by simp⟩
  | cons batch batches ih =>
    refine Learns.bind (Q := fun t' report => t.Grows t' ∧ t'.Sees batch.id report.detail) ?_ ?_
    · refine learns_requireDetail.bind ?_
      rintro t' detail h
      exact .keep_bind (keeps_ask rfl) fun _ _ => .pure h
    · rintro t₁ report ⟨hgrows₁, hsees⟩
      refine ih.bind ?_
      rintro t₂ reports ⟨hgrows₂, hids, hsettled⟩
      refine .pure ⟨hgrows₁.trans hgrows₂, ?_, fun r hr h => ?_⟩
      · rw [List.map_cons, List.map_cons, hids, hsees.batch_id]
      · rcases List.mem_cons.mp hr with rfl | hr
        · rw [hsees.batch_id]
          exact hgrows₂.settled (hsees.settled h)
        · exact hsettled r hr h

/-- A packet that is ready covers the period, and all of its batches are settled. -/
theorem learns_loadClosePacket {t : Knowledge} :
    Learns t (loadClosePacket periodId fuel) fun t' ready => ready = true →
      (∃ period, t'.period = some period ∧ period.id = periodId) ∧ t'.covered = true ∧
        ∀ b ∈ t'.listed, b.id ∈ t'.settled := by
  refine Learns.bind (Q := fun t' period => ∀ p, period = some p → t'.period = some p ∧
    p.id = periodId ∧ t'.listed = []) ?_ ?_
  · refine .ask trivial fun period hanswer => ?_
    cases period with
    | none => exact fun p hp => by cases hp
    | some =>
      intro p hp
      cases hp
      exact ⟨rfl, hanswer, rfl⟩
  · rintro t₁ (_ | period) hperiod
    · exact .raise
    · obtain ⟨hread, hid, hlisted⟩ := hperiod period rfl
      refine .keep_bind keeps_loadAllAccountingEntriesUpTo fun entries _ => ?_
      refine (learns_loadAllSweepBatchesForPeriod ⟨period, hread, hid⟩
        (by rw [hlisted]; rfl)).bind ?_
      rintro t₂ batches ht₂
      rw [hlisted, List.nil_append] at ht₂
      refine learns_loadReports.bind ?_
      rintro t₃ reports ⟨hgrows, hids, hsettled⟩
      have hready : ∀ assessments summary,
          readyForClose entries assessments summary reports = true →
          (∃ period, t₃.period = some period ∧ period.id = periodId) ∧ t₃.covered = true ∧
            ∀ b ∈ t₃.listed, b.id ∈ t₃.settled := by
        intro assessments summary hready
        rw [hgrows.period, hgrows.covered, hgrows.listed, ht₂]
        refine ⟨⟨period, hread, hid⟩, rfl, fun b hb => ?_⟩
        have hmem : b.id ∈ reports.map fun r => r.detail.batch.id := by
          rw [hids]
          exact List.mem_map_of_mem hb
        obtain ⟨r, hr, hrid⟩ := List.mem_map.mp hmem
        rw [← hrid]
        exact hsettled r hr (settled_of_readyForClose hready r hr)
      dsimp only
      split_ifs
      · exact .pure (hready _ _)
      · refine .keep_bind (keeps_ask rfl) fun assessments _ => ?_
        refine .keep_bind (keeps_ask rfl) fun summary _ => ?_
        exact .pure (hready _ _)

/-! ### Every request -/

variable {actor : List Char} {metadata : Option Evidence}

theorem learns_moveBatch {status : SweepBatchStatus}
    {evidence : Option Evidence} {t : Knowledge}
    (h : t.MayMove ⟨batchId, status, actor, evidence, none, metadata⟩) :
    Learns t (moveBatch batchId status actor metadata evidence) fun _ _ => True := by
  refine Learns.bind (Q := fun _ _ => True) (.ask h fun _ _ => trivial) fun _ _ _ => ?_
  exact .pure trivial

theorem learns_closeAccountingPeriod {t : Knowledge} :
    Learns t (closeAccountingPeriod periodId actor fuel) fun _ _ => True := by
  refine learns_loadClosePacket.bind ?_
  rintro t' ready hready
  refine .keep_bind keeps_check fun _ hcheck => ?_
  refine Learns.bind (Q := fun _ _ => True) (.ask (hready hcheck) fun _ _ => trivial) ?_
  exact fun _ _ _ => .pure trivial

theorem learns_requestSweepBatchApproval {t : Knowledge} :
    Learns t (requestSweepBatchApproval batchId actor metadata) fun _ _ => True := by
  refine learns_requireDetail.bind ?_
  rintro t' detail -
  refine .keep_bind keeps_check fun _ _ => ?_
  refine .keep_bind keeps_check fun _ _ => ?_
  refine .keep_bind keeps_check fun _ _ => ?_
  refine .keep_bind keeps_assertBatch fun _ _ => ?_
  exact learns_moveBatch ⟨rfl, trivial⟩

theorem learns_approveSweepBatch
    {t : Knowledge} : Learns t (approveSweepBatch batchId actor metadata) fun _ _ => True := by
  refine learns_requireDetail.bind ?_
  rintro t' detail ⟨-, hsees⟩
  refine .keep_bind keeps_check fun _ htotal => ?_
  refine .keep_bind keeps_assertBatch fun _ _ => ?_
  obtain ⟨links, hlinks, hsum⟩ := hsees.links
  refine learns_moveBatch ⟨rfl, detail.batch, links, hsees.batch, hsees.batch_id, hlinks, ?_⟩
  exact fun hmissing => (hsum hmissing).symm.trans htotal

theorem learns_markSweepBatchExecuted {txHash : Option (List Char)} {t : Knowledge} :
    Learns t (markSweepBatchExecuted batchId txHash actor) fun _ _ => True := by
  cases txHash with
  | none => exact .raise
  | some =>
    refine Learns.bind (Q := fun _ _ => True) ?_ fun _ _ _ => .pure trivial
    unfold Learns
    rw [wp_tryCatch]
    refine wp_mono _ (fun _ _ _ => trivial) (fun t' e _ => ?_) learns_verifyAndMatch
    cases e <;> exact trivial

theorem learns_recordPartnerHandoff {data : HandoffInput} {t : Knowledge} :
    Learns t (recordPartnerHandoff data actor) fun _ _ => True := by
  refine Learns.bind (Q := fun t' _ => t'.delivered =
    some (data.sweepBatchId, data.handoffStatus)) (.ask trivial fun _ _ => rfl) ?_
  intro t₁ _ hdelivered
  refine learns_getSweepBatchDetail.bind ?_
  rintro t₂ detail ⟨hgrows₂, -⟩
  split_ifs with hmove
  · refine learns_revalidateMatchedBatch.bind ?_
    intro t₃ evidence hgrows₃
    refine learns_moveBatch ⟨rfl, data.handoffStatus, ?_, hmove.2⟩
    rw [hgrows₃.delivered, hgrows₂.delivered, hdelivered]
  · exact .pure trivial

theorem learns_closeSweepBatch
    {t : Knowledge} : Learns t (closeSweepBatch batchId actor metadata) fun _ _ => True := by
  refine learns_requireDetail.bind ?_
  rintro t₁ detail ⟨-, hsees⟩
  refine .keep_bind keeps_check fun _ hcompleted => ?_
  refine .keep_bind keeps_check fun _ _ => ?_
  refine .keep_bind keeps_assertBatch fun _ _ => ?_
  refine learns_revalidateMatchedBatch.bind ?_
  intro t₂ evidence hgrows
  exact learns_moveBatch ⟨rfl, hgrows.completed (hsees.completed hcompleted)⟩

theorem keeps_resolveRealizationBinding {entryId : ℕ} :
    Keeps knowledge (resolveRealizationBinding entryId) fun _ => True := by
  refine (keeps_ask rfl).bind fun entry _ => ?_
  split
  · exact Keeps.pure trivial
  · exact (keeps_ask rfl).bind fun _ _ => Keeps.pure trivial

theorem learns_createEntryRealization {entryId : ℕ} {body : RealizationBody}
    {t : Knowledge} :
    Learns t (createEntryRealization entryId body actor) fun _ _ => True := by
  refine Learns.bind (Q := fun _ _ => True) (.ask trivial fun _ _ => trivial) fun t₁ facts _ => ?_
  split
  · exact .raise
  · refine .keep_bind keeps_check fun _ _ => ?_
    refine learns_revalidateMatchedBatch.bind fun t₂ evidence _ => ?_
    refine .keep_bind keeps_resolveRealizationBinding fun binding _ => ?_
    refine Learns.bind (Q := fun _ _ => True) (.ask trivial fun _ _ => trivial) fun t₃ _ _ => ?_
    refine Learns.bind (Q := fun _ _ => True) (.ask trivial fun _ _ => trivial) fun t₄ _ _ => ?_
    exact .pure trivial

theorem learns_ask {o : Op} {t : Knowledge} (h : knowledge.allowed t o) :
    Learns t (do let _ ← ask o; pure ()) fun _ _ => True :=
  Learns.bind (Q := fun _ _ => True) (.ask h fun _ _ => trivial) fun _ _ _ => .pure trivial

theorem follows (q : Request) : Follows knowledge (fun _ => True) (world.program q) .nothing := by
  show Learns .nothing (program q) fun _ _ => True
  cases q with
  | createAccountingPeriod | requestAccountingPeriodClose | createSweepBatch | ingestEntry
  | markCanonical => exact learns_ask trivial
  | closeAccountingPeriod => exact learns_closeAccountingPeriod
  | addSweepBatchEntry =>
    refine .keep_bind (keeps_ask rfl) fun _ _ => ?_
    refine .keep_bind (keeps_ask rfl) fun ledgerEntry _ => ?_
    refine .keep_bind (keeps_ask rfl) fun active _ => ?_
    exact learns_ask trivial
  | requestSweepBatchApproval => exact learns_requestSweepBatchApproval
  | approveSweepBatch => exact learns_approveSweepBatch
  | markSweepBatchExecuted => exact learns_markSweepBatchExecuted
  | recordPartnerHandoff => exact learns_recordPartnerHandoff
  | closeSweepBatch => exact learns_closeSweepBatch
  | createEntryRealization => exact learns_createEntryRealization
  | returnToDraft | voidBatch => exact learns_moveBatch ⟨rfl, trivial⟩
  | ingestClaim => exact .keep_bind (keeps_ask rfl) fun existing _ => learns_ask rfl
  | orphanEntry | writeEvidence =>
    exact .ask trivial fun _ _ => trivial

/-! ### What was read and stays true -/

/-- The steps of requests of which only the knowledge is known. -/
abbrev KnownStep :
    RoleConfig Database ℕ Knowledge → Action → RoleConfig Database ℕ Knowledge → Prop :=
  RoleStep world knowledge .nothing fun _ => True

/-- A batch keeps its expected total and never goes back behind its approval; from then on it keeps
its allocations.  An entry that was found is still there. -/
structure Knowledge.Holds (t : Knowledge) (s : Database) : Prop where
  batch : ∀ batch, t.batch = some batch → ∃ row, s.batch batch.id = some row ∧
    row.expectedTotalRaw = batch.expectedTotalRaw ∧ batch.status.level ≤ row.status.level
  links : ∀ batch links, t.batch = some batch → batch.status.level ≠ 0 →
    t.links = some (batch.id, links) → s.allocationsOf batch.id = links
  found : ∀ id links, t.links = some (id, links) → ∀ a ∈ links,
    (s.entry a.ledgerEntryId).isSome = true
  missing : t.missing = false
  settled : ∀ id ∈ t.settled, ∃ row, s.batch id = some row ∧ isSettled row.status = true

namespace Knowledge

variable {t : Knowledge} {s s' : Database} {o : Op}

theorem nothing_holds : nothing.Holds s where
  batch := fun _ h => by cases h
  links := fun _ _ h => by cases h
  found := fun _ _ h => by cases h
  missing := rfl
  settled := fun _ h => by cases h

theorem Holds.of_write (h : t.Holds s) (hs : Sound s) (hwrite : Write s o s') : t.Holds s' := by
  refine ⟨fun batch hbatch => ?_, fun batch links hbatch hlevel hlinks => ?_,
    fun id links hlinks a ha => ?_, h.missing, fun id hid => ?_⟩
  · obtain ⟨row, hrow, hexpected, hlevel⟩ := h.batch batch hbatch
    obtain ⟨row', hrow', hsucc⟩ := hwrite.batch_succeeds hrow
    exact ⟨row', hrow', hsucc.expectedTotalRaw.trans hexpected, hlevel.trans hsucc.level_le⟩
  · obtain ⟨row, hrow, -, hle⟩ := h.batch batch hbatch
    rw [hwrite.allocationsOf_eq hrow (by omega)]
    exact h.links batch links hbatch hlevel hlinks
  · exact hwrite.entry_isSome hs (h.found id links hlinks a ha)
  · obtain ⟨row, hrow, hsettled⟩ := h.settled id hid
    obtain ⟨row', hrow', hsucc⟩ := hwrite.batch_succeeds hrow
    exact ⟨row', hrow', hsucc.isSettled hsettled⟩

theorem Holds.readBatch (h : t.Holds s) {batch : Option Batch}
    (hread : batch = s.batchWithPeriod id) : (t.readBatch batch).Holds s := by
  cases batch with
  | none => exact h
  | some batch =>
    have hbatch := (Option.filter_eq_some_iff.mp hread.symm).1
    rw [← Database.batch_id hbatch] at hbatch
    refine ⟨fun b hb => ?_, fun _ _ _ _ hlinks => ?_, fun _ _ hlinks => ?_, rfl, fun id hid => ?_⟩
    · cases hb
      exact ⟨batch, hbatch, rfl, le_rfl⟩
    · cases hlinks
    · cases hlinks
    · have hcases : id ∈ if isSettled batch.status then batch.id :: t.settled else t.settled :=
        hid
      split_ifs at hcases with hsettled
      · rcases List.mem_cons.mp hcases with rfl | hold
        · exact ⟨batch, hbatch, hsettled⟩
        · exact h.settled id hold
      · exact h.settled id hcases

theorem Holds.readLinks (h : t.Holds s) (hs : Sound s) (id : ℕ) :
    (t.readLinks id (s.allocationsOf id)).Holds s := by
  refine ⟨h.batch, fun batch links hbatch hlevel hlinks => ?_, fun b links hlinks a ha => ?_,
    h.missing, h.settled⟩
  · cases hlinks
    rfl
  · cases hlinks
    exact hs.allocated a (List.mem_filter.mp ha).1

theorem Holds.readFacts (h : t.Holds s) {facts : Option AccountingFacts}
    (hread : facts = s.facts id) : (t.readFacts id facts).Holds s := by
  cases facts with
  | some => exact h
  | none =>
    refine ⟨h.batch, h.links, h.found, ?_, h.settled⟩
    show (t.missing || t.linksEntry id) = false
    rw [h.missing, Bool.false_or, Bool.eq_false_iff]
    intro hlinked
    unfold linksEntry at hlinked
    cases hlinks : t.links with
    | none =>
      rw [hlinks] at hlinked
      cases hlinked
    | some link =>
      rw [hlinks] at hlinked
      obtain ⟨a, ha, heq⟩ := List.any_eq_true.mp hlinked
      have hfound := h.found link.1 link.2 hlinks a ha
      rw [of_decide_eq_true heq, Option.map_eq_none_iff.mp hread.symm] at hfound
      cases hfound

/-- What is learned about handoffs and periods is not concerned. -/
theorem Holds.congr {t' : Knowledge} (h : t.Holds s) (hbatch : t'.batch = t.batch)
    (hlinks : t'.links = t.links) (hmissing : t'.missing = t.missing)
    (hsettled : t'.settled = t.settled) : t'.Holds s := by
  refine ⟨?_, ?_, ?_, ?_, ?_⟩
  · rw [hbatch]
    exact h.batch
  · rw [hbatch, hlinks]
    exact h.links
  · rw [hlinks]
    exact h.found
  · rw [hmissing]
    exact h.missing
  · rw [hsettled]
    exact h.settled

theorem Holds.of_answer (h : t.Holds s') (hs : Sound s) {luck : Luck} {r : Except Thrown (Ans o)}
    (hread : perform o luck s = (r, s')) : (t.next o r).Holds s' := by
  cases r with
  | error => exact h
  | ok a =>
    cases o with
    | getSweepBatch =>
      unfold perform at hread
      have hok := Transaction.query_ok hread
      rw [Transaction.query_store hread] at h ⊢
      exact h.readBatch hok
    | listSweepBatchEntries id =>
      unfold perform at hread
      rw [Transaction.query_store hread] at h ⊢
      rw [Transaction.query_ok hread]
      exact h.readLinks hs id
    | getLedgerEntryAccountingFacts =>
      unfold perform at hread
      have hok := Transaction.query_ok hread
      rw [Transaction.query_store hread] at h ⊢
      exact h.readFacts hok
    | getPartnerHandoffByBatchId =>
      cases a with
      | none => exact h
      | some => exact h.congr rfl rfl rfl rfl
    | upsertPartnerHandoff | listSweepBatches =>
      exact h.congr rfl rfl rfl rfl
    | getAccountingPeriodById =>
      cases a with
      | none => exact h
      | some => exact h.congr rfl rfl rfl rfl
    | _ => exact h

end Knowledge

/-- A step of what is known: the tables stay as they are, or one request asks for something that it
knows enough for. -/
inductive KnownCases (x : RoleConfig Database ℕ Knowledge) (l : Action)
    (x' : RoleConfig Database ℕ Knowledge) : Prop
  | idle (hstore : x'.store = x.store)
      (hroles : ∀ p, x'.roles p = x.roles p ∨ x'.roles p = .nothing)
  | act (p : ℕ) (o : Op) (r : Except Thrown (Ans o)) (luck : Luck) (hl : l = .act p o r)
      (hallowed : knowledge.allowed (x.roles p) o)
      (hperform : perform o luck x.store = (r, x'.store))
      (hself : x'.roles p = (x.roles p).next o r) (hother : ∀ q, q ≠ p → x'.roles q = x.roles q)

variable {l : Action} {x x' : RoleConfig Database ℕ Knowledge}

theorem knownCases (h : KnownStep x l x') :
    KnownCases x l x' := by
  have hreset : ∀ p q, Function.update x.roles p .nothing q = x.roles q ∨
      Function.update x.roles p .nothing q = .nothing := by
    intro p q
    rcases eq_or_ne q p with rfl | hne
    · exact Or.inr (Function.update_self ..)
    · exact Or.inl (Function.update_of_ne hne ..)
  cases h with
  | call => exact .idle rfl fun _ => Or.inl rfl
  | @act p o r s luck hallowed hperform =>
    exact .act p o r luck rfl hallowed (Option.some.inj hperform) (Function.update_self ..)
      fun q hne => Function.update_of_ne hne ..
  | @done p | @crash p => exact .idle rfl (hreset p)

/-- What is true of the tables and of the knowledge of each request, as far as the tables and the
request that asks keep it. -/
theorem forall_roles_of_knownStep {K : Database → Knowledge → Prop} (hstep : KnownStep x l x')
    (hnothing : K x.store .nothing) (h : ∀ p, K x.store (x.roles p))
    (hwrite : ∀ p o r luck, l = .act p o r → knowledge.allowed (x.roles p) o →
      perform o luck x.store = (r, x'.store) → ∀ q, K x'.store (x.roles q))
    (hnext : ∀ p o r luck, l = .act p o r → knowledge.allowed (x.roles p) o →
      perform o luck x.store = (r, x'.store) → K x'.store (x.roles p) →
      K x'.store ((x.roles p).next o r)) : ∀ p, K x'.store (x'.roles p) := by
  intro q
  cases knownCases hstep with
  | idle hstore hroles =>
    rw [hstore]
    rcases hroles q with hsame | hreset
    · rw [hsame]
      exact h q
    · rw [hreset]
      exact hnothing
  | act p o r luck hl hallowed hperform hself hother =>
    have hkept := hwrite p o r luck hl hallowed hperform
    rcases eq_or_ne q p with rfl | hne
    · rw [hself]
      exact hnext q o r luck hl hallowed hperform (hkept q)
    · rw [hother q hne]
      exact hkept q

theorem holds_of_knownStep
    (hstep : KnownStep x l x') (hs : Sound x.store) (h : ∀ p, (x.roles p).Holds x.store) :
    Sound x'.store ∧ ∀ p, (x'.roles p).Holds x'.store := by
  constructor
  · cases knownCases hstep with
    | idle hstore => rwa [hstore]
    | act _ _ _ _ _ _ hperform =>
      rcases write_of_perform hperform with hsame | hwrite
      · rwa [hsame]
      · exact hwrite.sound hs
  · refine forall_roles_of_knownStep (K := fun s t => t.Holds s) hstep nothing_holds h ?_ ?_
    · intro p o r luck hl hallowed hperform q
      rcases write_of_perform hperform with hsame | hwrite
      · rw [hsame]
        exact h q
      · exact (h q).of_write hs hwrite
    · exact fun p o r luck hl hallowed hperform hkept => hkept.of_answer hs hperform

end Cotsel.Treasury.Sweep
