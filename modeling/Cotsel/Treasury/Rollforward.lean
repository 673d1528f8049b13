import Cotsel.Treasury.SweepService

/-!
# The rollforward of an accounting period

The totals of `buildTreasuryPeriodRollforwardReport` in `core/closeReporting.ts`.  What was held
when the period opened and what was earned in it should be what left on the chain in it and what is
held when it ends, and entry by entry that is so (`held_balance`).

The total of what left is not taken entry by entry.  For each entry swept in the period the report
adds `matched_claim_amount_raw`, the amount of the claim its batch was matched with, and a claim
takes out a whole batch.  A batch of several entries is counted once for each of them
(`batch_of_two_counted_twice`); the report balances exactly when no entry that was swept in the
period shares its batch with another amount (`rollforward_balances`).
-/

namespace Cotsel.Treasury.Sweep

/-- An accounting period, with the CHECK of its table. -/
structure PeriodWindow where
  startsAt : ℕ
  endsAt : ℕ
  starts_lt_ends : startsAt < endsAt

/-- `LedgerEntryAccountingProjection`. -/
structure AccountingProjection extends AccountingFacts where
  allocatedAt : Option ℕ
  matchedClaimAmountRaw : Option ℕ
  partnerSubmittedAt : Option ℕ
  partnerAcknowledgedAt : Option ℕ
  partnerCompletedAt : Option ℕ
  partnerFailedAt : Option ℕ

namespace AccountingProjection

def entrySourceAmount (entry : AccountingProjection) : ℕ := entry.amountRaw

def entryAllocatedAmount (entry : AccountingProjection) : ℕ :=
  entry.allocatedAmountRaw.getD entry.amountRaw

/-- What `swept_onchain_raw` adds for an entry. -/
def sweptAmount (entry : AccountingProjection) : ℕ :=
  entry.matchedClaimAmountRaw.getD entry.entryAllocatedAmount

end AccountingProjection

def isWithinWindow (timestamp : Option ℕ) (period : PeriodWindow) : Bool :=
  timestamp.any fun at' => period.startsAt ≤ at' && at' ≤ period.endsAt

/-- `sumRaw` of an amount of the entries that a filter keeps. -/
def sumRaw (kept : AccountingProjection → Bool) (amount : AccountingProjection → ℕ)
    (entries : List AccountingProjection) : ℕ :=
  ((entries.filter kept).map amount).sum

/-- `openingHeldEntries`. -/
def isOpeningHeld (period : PeriodWindow) (entry : AccountingProjection) : Bool :=
  entry.earnedAt < period.startsAt && entry.matchedSweptAt.all fun at' => period.startsAt ≤ at'

/-- `newAccrualEntries`. -/
def isNewAccrual (period : PeriodWindow) (entry : AccountingProjection) : Bool :=
  isWithinWindow (some entry.earnedAt) period

/-- `sweptEntries`. -/
def isSwept (period : PeriodWindow) (entry : AccountingProjection) : Bool :=
  isWithinWindow entry.matchedSweptAt period

/-- `endingHeldEntries`. -/
def isEndingHeld (period : PeriodWindow) (entry : AccountingProjection) : Bool :=
  entry.earnedAt ≤ period.endsAt && entry.matchedSweptAt.all fun at' => period.endsAt < at'

/-- `TreasuryPeriodRollforwardReport`, without the period and the time it was made at. -/
structure RollforwardReport where
  openingHeldRaw : ℕ
  newAccrualsRaw : ℕ
  allocatedToBatchesRaw : ℕ
  sweptOnchainRaw : ℕ
  handedOffRaw : ℕ
  realizedRaw : ℕ
  endingHeldRaw : ℕ
  unresolvedExceptionRaw : ℕ
  blockingIssues : List CloseIssue
  warningIssues : List CloseIssue

def buildTreasuryPeriodRollforwardReport (period : PeriodWindow)
    (entries : List AccountingProjection) (assessments : List TradeGate)
    (batchReports : List BatchReport) : RollforwardReport :=
  let allIssues := rollforwardIssues (entries.map (·.toAccountingFacts)) assessments batchReports
  { openingHeldRaw := sumRaw (isOpeningHeld period) (·.entrySourceAmount) entries
    newAccrualsRaw := sumRaw (isNewAccrual period) (·.entrySourceAmount) entries
    allocatedToBatchesRaw :=
      sumRaw (fun e => isWithinWindow e.allocatedAt period) (·.entryAllocatedAmount) entries
    sweptOnchainRaw := sumRaw (isSwept period) (·.sweptAmount) entries
    handedOffRaw :=
      sumRaw
        (fun e =>
          isWithinWindow
            (e.partnerSubmittedAt.or
              (e.partnerAcknowledgedAt.or (e.partnerCompletedAt.or e.partnerFailedAt)))
            period)
        (·.entryAllocatedAmount) entries
    realizedRaw :=
      sumRaw (fun e => isWithinWindow e.realizedAt period) (·.entryAllocatedAmount) entries
    endingHeldRaw := sumRaw (isEndingHeld period) (·.entrySourceAmount) entries
    unresolvedExceptionRaw :=
      sumRaw
        (fun e =>
          e.earnedAt ≤ period.endsAt &&
            projectLedgerEntryAccountingState e.toAccountingFacts = .exception &&
            e.revenueRealizationStatus ≠ some .realized)
        (·.entryAllocatedAmount) entries
    blockingIssues := allIssues.filter fun issue => issue.code.isBlocking
    warningIssues := allIssues.filter fun issue => !issue.code.isBlocking }

/-! ### What a period holds -/

theorem sumRaw_cons (kept : AccountingProjection → Bool) (amount : AccountingProjection → ℕ)
    (e : AccountingProjection) (es : List AccountingProjection) :
    sumRaw kept amount (e :: es) = (if kept e then amount e else 0) + sumRaw kept amount es := by
  by_cases h : kept e <;> simp [sumRaw, h]

/-- An entry earned by the end of the period, and before it was swept if it was, is in as many of
the two incoming totals as of the two outgoing ones. -/
theorem entry_balance (period : PeriodWindow) (e : AccountingProjection)
    (hearned : e.earnedAt ≤ period.endsAt) (hswept : ∀ at' ∈ e.matchedSweptAt, e.earnedAt ≤ at')
    (a : ℕ) :
    (if isOpeningHeld period e then a else 0) + (if isNewAccrual period e then a else 0) =
      (if isSwept period e then a else 0) + (if isEndingHeld period e then a else 0) := by
  have hwindow := period.starts_lt_ends
  unfold isOpeningHeld isNewAccrual isSwept isEndingHeld isWithinWindow
  rcases hat : e.matchedSweptAt with _ | at'
  · -- never swept: held at the end, whenever it was earned
    simp only [Option.any_some, Option.any_none, Option.all_none, Bool.and_true, Bool.and_eq_true,
      decide_eq_true_eq, Bool.false_eq_true, if_false]
    split_ifs <;> omega
  · have hle : e.earnedAt ≤ at' := hswept at' hat
    simp only [Option.any_some, Option.all_some, Bool.and_eq_true, decide_eq_true_eq]
    split_ifs <;> omega

/-- Counting for each swept entry its own amount, the period balances. -/
theorem held_balance (period : PeriodWindow) (entries : List AccountingProjection)
    (hearned : ∀ e ∈ entries, e.earnedAt ≤ period.endsAt)
    (hswept : ∀ e ∈ entries, ∀ at' ∈ e.matchedSweptAt, e.earnedAt ≤ at') :
    sumRaw (isOpeningHeld period) (·.entrySourceAmount) entries +
        sumRaw (isNewAccrual period) (·.entrySourceAmount) entries =
      sumRaw (isSwept period) (·.entrySourceAmount) entries +
        sumRaw (isEndingHeld period) (·.entrySourceAmount) entries := by
  induction entries with
  | nil => rfl
  | cons e es ih =>
    have hhead := entry_balance period e (hearned e List.mem_cons_self)
      (hswept e List.mem_cons_self) e.entrySourceAmount
    have htail := ih (fun x hx => hearned x (List.mem_cons_of_mem e hx))
      (fun x hx => hswept x (List.mem_cons_of_mem e hx))
    simp only [sumRaw_cons]
    omega

/-! ### Batches and their claims -/

def batchTotal (entries : List AccountingProjection) (batchId : ℕ) : ℕ :=
  sumRaw (fun e => e.sweepBatchId = some batchId) (·.entryAllocatedAmount) entries

/-- A swept entry is allocated in full to a batch, and the claim of the batch is the sum of the
batch's allocations. -/
structure ClaimedInFull (entries : List AccountingProjection) (entry : AccountingProjection) :
    Prop where
  allocated : entry.allocatedAmountRaw = some entry.amountRaw
  claimed : ∃ batchId, entry.sweepBatchId = some batchId ∧
    entry.matchedClaimAmountRaw = some (batchTotal entries batchId)

/-- The projections of a period that has nothing to reconcile. -/
structure Reconciled (period : PeriodWindow) (entries : List AccountingProjection) : Prop where
  earned : ∀ e ∈ entries, e.earnedAt ≤ period.endsAt
  swept : ∀ e ∈ entries, ∀ at' ∈ e.matchedSweptAt, e.earnedAt ≤ at' ∧ ClaimedInFull entries e

/-- No entry that was swept in the period shares its batch with another one that has an amount. -/
def SweptAlone (period : PeriodWindow) (entries : List AccountingProjection) : Prop :=
  entries.Pairwise fun x y => x.sweepBatchId = y.sweepBatchId →
    (isSwept period x = true → y.entryAllocatedAmount = 0) ∧
      (isSwept period y = true → x.entryAllocatedAmount = 0)

instance decidableSweptAlone (period : PeriodWindow) (entries : List AccountingProjection) :
    Decidable (SweptAlone period entries) :=
  inferInstanceAs (Decidable (List.Pairwise _ _))

theorem batchTotal_append (xs ys : List AccountingProjection) (batchId : ℕ) :
    batchTotal (xs ++ ys) batchId = batchTotal xs batchId + batchTotal ys batchId := by
  simp [batchTotal, sumRaw]

theorem batchTotal_eq_zero {entries : List AccountingProjection} {batchId : ℕ}
    (h : ∀ e ∈ entries, e.sweepBatchId = some batchId → e.entryAllocatedAmount = 0) :
    batchTotal entries batchId = 0 := by
  refine List.sum_eq_zero fun n hn => ?_
  obtain ⟨e, he, rfl⟩ := List.mem_map.mp hn
  obtain ⟨hmem, hbatch⟩ := List.mem_filter.mp he
  exact h e hmem (of_decide_eq_true hbatch)

theorem batchTotal_le_of_sublist {xs ys : List AccountingProjection} (h : xs.Sublist ys)
    (batchId : ℕ) : batchTotal xs batchId ≤ batchTotal ys batchId :=
  ((h.filter _).map _).sum_le_sum fun _ _ => Nat.zero_le _

/-- The total of the batch of a swept entry is what this entry was allocated, if and only if no
entry is swept together with another amount. -/
theorem forall_batchTotal_iff (period : PeriodWindow) (entries : List AccountingProjection)
    (hbatch : ∀ e ∈ entries, isSwept period e = true → e.sweepBatchId.isSome = true) :
    (∀ e ∈ entries, isSwept period e = true → ∀ batchId, e.sweepBatchId = some batchId →
      batchTotal entries batchId = e.entryAllocatedAmount) ↔ SweptAlone period entries := by
  constructor
  · -- two entries of a batch have at most its total, and the swept one has all of it
    intro htotal
    refine List.pairwise_iff_forall_sublist.mpr fun {x y} hsub hsame => ?_
    have hpair : ∀ batchId, x.sweepBatchId = some batchId →
        x.entryAllocatedAmount + y.entryAllocatedAmount ≤ batchTotal entries batchId := by
      intro batchId hx
      have hle := batchTotal_le_of_sublist hsub batchId
      have hy : y.sweepBatchId = some batchId := hsame ▸ hx
      simpa [batchTotal, sumRaw, hx, hy] using hle
    have hx : x ∈ entries := hsub.subset (by simp)
    have hy : y ∈ entries := hsub.subset (by simp)
    refine ⟨fun hswept => ?_, fun hswept => ?_⟩
    · obtain ⟨batchId, hid⟩ := Option.isSome_iff_exists.mp (hbatch x hx hswept)
      have := hpair batchId hid
      rw [htotal x hx hswept batchId hid] at this
      omega
    · obtain ⟨batchId, hid⟩ := Option.isSome_iff_exists.mp (hbatch y hy hswept)
      have := hpair batchId (hsame.trans hid)
      rw [htotal y hy hswept batchId hid] at this
      omega
  · intro halone e he hswept batchId hid
    obtain ⟨before, after, rfl⟩ := List.append_of_mem he
    obtain ⟨-, hafter, hbefore⟩ := List.pairwise_append.mp halone
    have hzero : batchTotal before batchId = 0 := batchTotal_eq_zero fun x hx hx' =>
      (hbefore x hx e List.mem_cons_self (hx'.trans hid.symm)).2 hswept
    have hzero' : batchTotal after batchId = 0 := batchTotal_eq_zero fun y hy hy' =>
      ((List.pairwise_cons.mp hafter).1 y hy (hid.trans hy'.symm)).1 hswept
    rw [batchTotal_append, hzero, batchTotal, sumRaw_cons, ← batchTotal, hzero']
    simp [hid]

theorem sum_eq_sum_iff_of_le {f g : AccountingProjection → ℕ} {entries : List AccountingProjection}
    (hle : ∀ e ∈ entries, f e ≤ g e) :
    (entries.map f).sum = (entries.map g).sum ↔ ∀ e ∈ entries, f e = g e := by
  induction entries with
  | nil => simp
  | cons e es ih =>
    have hrest := ih fun x hx => hle x (List.mem_cons_of_mem e hx)
    have hhead := hle e List.mem_cons_self
    have htail : (es.map f).sum ≤ (es.map g).sum :=
      List.sum_le_sum fun x hx => hle x (List.mem_cons_of_mem e hx)
    rw [List.map_cons, List.map_cons, List.sum_cons, List.sum_cons, List.forall_mem_cons, ← hrest]
    omega

/-- What the report adds for an entry that was swept in the period, and what the entry was
allocated. -/
theorem Reconciled.of_isSwept {period : PeriodWindow} {entries : List AccountingProjection}
    {e : AccountingProjection} (h : Reconciled period entries) (he : e ∈ entries)
    (hin : isSwept period e = true) :
    ∃ batchId, e.sweepBatchId = some batchId ∧ e.sweptAmount = batchTotal entries batchId ∧
      e.entrySourceAmount = e.entryAllocatedAmount := by
  obtain ⟨at', hat, -⟩ := (Option.any_eq_true _ _).mp hin
  obtain ⟨-, hallocated, batchId, hid, hclaim⟩ := h.swept e he at' hat
  refine ⟨batchId, hid, ?_, ?_⟩
  · rw [AccountingProjection.sweptAmount, hclaim, Option.getD_some]
  · rw [AccountingProjection.entryAllocatedAmount, hallocated, Option.getD_some]
    rfl

/-- The report counts the right amounts as swept, if and only if no entry is swept together with
another amount. -/
theorem Reconciled.sum_swept_iff {period : PeriodWindow} {entries : List AccountingProjection}
    (h : Reconciled period entries) :
    sumRaw (isSwept period) (·.entrySourceAmount) entries =
      sumRaw (isSwept period) (·.sweptAmount) entries ↔ SweptAlone period entries := by
  have hle : ∀ e ∈ entries.filter (isSwept period), e.entrySourceAmount ≤ e.sweptAmount := by
    intro e he
    obtain ⟨hmem, hin⟩ := List.mem_filter.mp he
    obtain ⟨batchId, hid, hamount, hsource⟩ := h.of_isSwept hmem hin
    rw [hamount, hsource]
    have hone := batchTotal_le_of_sublist (List.singleton_sublist.mpr hmem) batchId
    simpa [batchTotal, sumRaw, hid] using hone
  have hbatch : ∀ e ∈ entries, isSwept period e = true → e.sweepBatchId.isSome = true := by
    intro e he hin
    obtain ⟨_, hid, -⟩ := h.of_isSwept he hin
    exact Option.isSome_of_mem hid
  rw [← forall_batchTotal_iff period entries hbatch]
  refine (sum_eq_sum_iff_of_le hle).trans ⟨fun heq e he hin batchId hid => ?_, fun heq e he => ?_⟩
  · obtain ⟨batchId', hid', hamount, hsource⟩ := h.of_isSwept he hin
    obtain rfl : batchId' = batchId := Option.some.inj (hid'.symm.trans hid)
    rw [← hamount, ← hsource]
    exact (heq e (List.mem_filter.mpr ⟨he, hin⟩)).symm
  · obtain ⟨hmem, hin⟩ := List.mem_filter.mp he
    obtain ⟨batchId, hid, hamount, hsource⟩ := h.of_isSwept hmem hin
    rw [hamount, hsource]
    exact (heq e hmem hin batchId hid).symm

/-- **The rollforward balances exactly when no entry swept in the period shares its batch with
another amount**: what was held at the opening and what accrued is what was swept and what is held
at the end. -/
theorem rollforward_balances (period : PeriodWindow) (entries : List AccountingProjection)
    (assessments : List TradeGate) (batchReports : List BatchReport)
    (h : Reconciled period entries) :
    let report := buildTreasuryPeriodRollforwardReport period entries assessments batchReports
    report.openingHeldRaw + report.newAccrualsRaw =
      report.sweptOnchainRaw + report.endingHeldRaw ↔ SweptAlone period entries := by
  have hheld := held_balance period entries h.earned fun e he at' hat => (h.swept e he at' hat).1
  show sumRaw (isOpeningHeld period) _ entries + sumRaw (isNewAccrual period) _ entries =
    sumRaw (isSwept period) _ entries + sumRaw (isEndingHeld period) _ entries ↔ _
  rw [← h.sum_swept_iff, hheld]
  omega

/-! ### A sample period -/

def samplePeriod : PeriodWindow := ⟨10, 20, by decide⟩

/-- An entry earned at 12 and swept at 15, in a batch whose claim took out `claim`. -/
def sampleProjection (id amount batchId claim : ℕ) : AccountingProjection :=
  { ledgerEntryId := id, tradeId := ['1'], amountRaw := amount, allocatedAmountRaw := some amount
    earnedAt := 12, accountingPeriodId := some 1, sweepBatchId := some batchId
    sweepBatchStatus := some .executed, allocationStatus := some .allocated
    matchedSweepTxHash := some ['0', 'x', 'a'], matchedSweptAt := some 15
    partnerHandoffId := none, partnerReference := none, partnerHandoffStatus := none
    latestFiatDepositState := none, latestBankPayoutState := none
    revenueRealizationStatus := none, realizedAt := none, allocatedAt := some 13
    matchedClaimAmountRaw := some claim, partnerSubmittedAt := none
    partnerAcknowledgedAt := none, partnerCompletedAt := none, partnerFailedAt := none }

/-- An entry of 100 in batch 1 and one of 50 in batch `batchId`, with these claims. -/
def sampleEntries (batchId claim₁ claim₂ : ℕ) : List AccountingProjection :=
  [sampleProjection 1 100 1 claim₁, sampleProjection 2 50 batchId claim₂]

theorem sampleEntries_reconciled {batchId claim₁ claim₂ : ℕ}
    (h₁ : batchTotal (sampleEntries batchId claim₁ claim₂) 1 = claim₁)
    (h₂ : batchTotal (sampleEntries batchId claim₁ claim₂) batchId = claim₂) :
    Reconciled samplePeriod (sampleEntries batchId claim₁ claim₂) := by
  have hentry : ∀ e ∈ sampleEntries batchId claim₁ claim₂, e.earnedAt = 12 ∧
      ClaimedInFull (sampleEntries batchId claim₁ claim₂) e ∧ e.matchedSweptAt = some 15 := by
    intro e he
    rcases List.mem_cons.mp he with rfl | he
    · exact ⟨rfl, ⟨rfl, 1, rfl, congrArg some h₁.symm⟩, rfl⟩
    · rw [List.mem_singleton.mp he]
      exact ⟨rfl, ⟨rfl, batchId, rfl, congrArg some h₂.symm⟩, rfl⟩
  constructor
  · intro e he
    rw [(hentry e he).1]
    decide
  · intro e he _ hat
    obtain ⟨hearned, hfull, hswept⟩ := hentry e he
    rw [hswept] at hat
    cases hat
    exact ⟨hearned.trans_le (by decide), hfull⟩

/-- Two batches of one entry each. -/
theorem rollforward_of_two_batches :
    let report := buildTreasuryPeriodRollforwardReport samplePeriod (sampleEntries 2 100 50) [] []
    report.openingHeldRaw + report.newAccrualsRaw =
      report.sweptOnchainRaw + report.endingHeldRaw :=
  (rollforward_balances samplePeriod _ [] [] (sampleEntries_reconciled rfl rfl)).mpr (by decide)

/-- **A batch of two entries is counted twice**: the entries of 100 and 50 are in one batch, which
the claim of 150 took out, and the report says that 300 left. -/
theorem batch_of_two_counted_twice :
    let report := buildTreasuryPeriodRollforwardReport samplePeriod (sampleEntries 1 150 150) [] []
    Reconciled samplePeriod (sampleEntries 1 150 150) ∧
      report.openingHeldRaw = 0 ∧ report.newAccrualsRaw = 150 ∧
      report.sweptOnchainRaw = 300 ∧ report.endingHeldRaw = 0 :=
  ⟨sampleEntries_reconciled rfl rfl, by decide⟩

end Cotsel.Treasury.Sweep
