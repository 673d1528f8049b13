import Cotsel.Treasury.SweepKnowledge

/-!
# One claim, one batch

A batch that is executed is matched with a claim on the chain: the row of the claim is bound to the
batch, and its amount is the expected total of the batch and the total of its allocations.

The transaction that makes the match locks the batch and not the claim.  It refuses a claim that is
bound to another batch, but it decides that on a row it has read before; if two matches read the
same unbound claim, the second one binds it again, and both batches are executed with it.  Ingestion
on the other hand writes over a bound claim with whatever the indexer reports.  Both are runs in
`claim_bound_twice`; as long as a match writes the claim it has read, and ingestion leaves a bound
claim as it is, one claim is matched with one batch (`one_claim_one_batch`).
-/

namespace Cotsel.Treasury.Sweep

open Interaction Runs Knowledge

/-! ### What is to hold -/

structure Matched (s : Database) (b : Batch) (claim : Claim) : Prop where
  stored : claim ∈ s.claims
  txHash : b.matchedSweepTxHash = some claim.txHash
  bound : claim.matchedSweepBatchId = some b.id
  expected : claim.amountRaw = b.expectedTotalRaw
  allocated : claim.amountRaw = Knowledge.total (s.allocationsOf b.id)

structure OneClaimOneBatch (s : Database) : Prop where
  unique : ∀ b ∈ s.batches, ∀ b' ∈ s.batches, b.status.isExecuted = true →
    b'.status.isExecuted = true → b.matchedSweepTxHash = b'.matchedSweepTxHash → b = b'
  matched : ∀ b ∈ s.batches, b.status.isExecuted = true → ∃ claim, Matched s b claim

/-- The claim that an operation writes, and the row that it has found. -/
def Op.writesClaim : Op → Option (ClaimInput × Option Claim)
  | .recordSweepBatchExecution data found => some (data.boundClaim, found)
  | .upsertTreasuryClaimEvent data found => some (data, found)
  | _ => none

/-- The row `old` is written over: a match finds it bound as in the row it has read, and ingestion
leaves the transaction and the amount of a bound claim. -/
def KeepsBound (data : ClaimInput) (existing old : Claim) : Prop :=
  (data.matchedSweepBatchId.isSome → old.matchedSweepBatchId = existing.matchedSweepBatchId) ∧
    (data.matchedSweepBatchId = none → old.matchedSweepBatchId.isSome →
      data.txHash = old.txHash ∧ data.amountRaw = old.amountRaw)

instance decidableKeepsBound (data : ClaimInput) (existing old : Claim) :
    Decidable (KeepsBound data existing old) :=
  inferInstanceAs (Decidable (_ ∧ _))

/-- The claims that the operation writes over are kept. -/
def Op.KeepsBindings (o : Op) (s : Database) : Prop :=
  ∀ w ∈ o.writesClaim, ∀ existing ∈ w.2,
    ∀ old ∈ Table.lookup claimTable existing.id s.claims, KeepsBound w.1 existing old

instance decidableOpKeepsBindings (o : Op) (s : Database) : Decidable (o.KeepsBindings s) :=
  inferInstanceAs (Decidable (∀ w ∈ o.writesClaim, _))

/-- A step that writes a claim keeps what is bound. -/
def KeepsBindings (e : Event) : Prop :=
  e.target.claims ≠ e.source.claims → ∀ q ∈ asked e, q.2.KeepsBindings e.source

instance decidableKeepsBindings (e : Event) : Decidable (KeepsBindings e) :=
  inferInstanceAs (Decidable (_ → _))

/-! ### The claims after a write -/

section Claims

variable {s s' : Database} {o : Op} {data : ClaimInput} {found : Option Claim} {row : Claim}

theorem WritesClaim.row_mem (h : WritesClaim data found s row s') : row ∈ s'.claims := by
  cases h with
  | update _ old _ _ _ hold hrow _ hstore =>
    rw [hstore]
    refine Table.mem_replace_self ⟨old, (Table.lookup_eq_some_mem hold).1, ?_⟩
    rw [hrow]
    rfl
  | insert _ _ hstore =>
    rw [hstore]
    exact List.mem_append_right _ (List.mem_singleton_self _)

theorem WritesClaim.row_eq (h : WritesClaim data found s row s') :
    row.txHash = data.txHash ∧ row.amountRaw = data.amountRaw ∧
      ∀ b, data.matchedSweepBatchId = some b → row.matchedSweepBatchId = some b := by
  cases h with
  | update _ _ _ _ _ _ hrow =>
    rw [hrow]
    refine ⟨rfl, rfl, fun b hb => ?_⟩
    show data.matchedSweepBatchId.or _ = some b
    rw [hb, Option.some_or]
  | insert hnew =>
    obtain ⟨_, rfl⟩ := hnew
    exact ⟨rfl, rfl, fun b hb => hb⟩

/-- A bound claim is still there, with the same transaction, amount and batch, if it is so when it
is the row that was found. -/
theorem WritesClaim.keeps (h : WritesClaim data found s row s')
    (hvalid : Table.Valid claimTable s.claims) {claim : Claim} (hclaim : claim ∈ s.claims) {b : ℕ}
    (hb : claim.matchedSweepBatchId = some b)
    (hover : ∀ existing ∈ found, claim ∈ Table.lookup claimTable existing.id s.claims →
      (∀ b ∈ existing.matchedSweepBatchId, ∀ b' ∈ data.matchedSweepBatchId, b = b') →
      data.matchedSweepBatchId = none ∧ data.txHash = claim.txHash ∧
        data.amountRaw = claim.amountRaw) :
    ∃ claim' ∈ s'.claims, claim'.txHash = claim.txHash ∧ claim'.amountRaw = claim.amountRaw ∧
      claim'.matchedSweepBatchId = some b := by
  have hmem := h.row_mem
  cases h with
  | update existing old hfound hunbound hid hold hrow _ hstore =>
    rcases eq_or_ne claim.id old.id with hsame | hne
    · obtain rfl : claim = old := hvalid.eq_of_key hclaim (Table.lookup_eq_some_mem hold).1 hsame
      rw [hid] at hold
      obtain ⟨hnone, htx, hamount⟩ := hover existing hfound hold hunbound
      rw [hnone, Option.none_or, hb] at hrow
      refine ⟨row, hmem, ?_, ?_, ?_⟩
      · rw [hrow]
        exact htx
      · rw [hrow]
        exact hamount
      · rw [hrow]
        rfl
    · refine ⟨claim, ?_, rfl, rfl, hb⟩
      rw [hstore]
      refine List.mem_map.mpr ⟨claim, hclaim, if_neg ?_⟩
      rw [hrow]
      exact hne
  | insert _ _ hstore =>
    refine ⟨claim, ?_, rfl, rfl, hb⟩
    rw [hstore]
    exact List.mem_append_left _ hclaim

end Claims

/-! ### Steps -/

section Step

variable {s s' : Database} {o : Op}

def AllMatched (s : Database) : Prop :=
  ∀ id b, s.batch id = some b → b.status.isExecuted = true → ∃ claim, Matched s b claim

theorem level_ne_zero_of_isExecuted {status : SweepBatchStatus} (h : status.isExecuted = true) :
    status.level ≠ 0 := by
  revert h
  cases status <;> decide

/-- From the match on a batch is executed. -/
theorem isExecuted_of_transition {status status' : SweepBatchStatus}
    (h : status' ∈ sweepBatchTransitions status) (hstatus' : status'.isExecuted = true)
    (hne : status' ≠ .executed) : status.isExecuted = true := by
  revert h hstatus' hne
  cases status <;> cases status' <;> decide

theorem not_isExecuted_of_executed {status : SweepBatchStatus}
    (h : SweepBatchStatus.executed ∈ sweepBatchTransitions status) : status.isExecuted = false := by
  revert h
  cases status <;> decide

/-- What a write needs so that it keeps the claims of the executed batches. -/
structure Op.Keeps (o : Op) (s s' : Database) : Prop where
  bindings : s'.claims ≠ s.claims → o.KeepsBindings s
  /-- Ingestion binds no claim. -/
  ingestion : ∀ data found, o = .upsertTreasuryClaimEvent data found →
    data.matchedSweepBatchId = none

theorem Write.keepsClaim {b : Batch} {claim : Claim} (hwrite : Write s o s') (hs : Sound s)
    (hb : s.batch b.id = some b) (hexecuted : b.status.isExecuted = true) (hkeeps : o.Keeps s s')
    (hclaim : claim ∈ s.claims) (hbound : claim.matchedSweepBatchId = some b.id) :
    ∃ claim' ∈ s'.claims, claim'.txHash = claim.txHash ∧ claim'.amountRaw = claim.amountRaw ∧
      claim'.matchedSweepBatchId = some b.id := by
  by_cases hsame : s'.claims = s.claims
  · rw [hsame]
    exact ⟨claim, hclaim, rfl, rfl, hbound⟩
  have hbindings := hkeeps.bindings hsame
  cases hwrite with
  | openPeriod h | movePeriod h | openBatch h | allocate h | realize h =>
    exact absurd (by rw [h.store]) hsame
  | move _ hclaims => exact absurd hclaims hsame
  | deliver _ h => exact absurd (by rw [h.store_eq]) hsame
  | ingest | mark | orphan | evidence => exact absurd rfl hsame
  | @execute data _ batch _ _ _ hwrites hmoves hclaims =>
    rw [hclaims]
    refine hwrites.keeps hs.claims hclaim hbound fun existing hfound hlookup hunbound => ?_
    -- a match that finds the claim bound to `b` is one of `b`, which is executed already
    have hcurrent : claim.matchedSweepBatchId = existing.matchedSweepBatchId :=
      (hbindings _ rfl existing hfound claim hlookup).1 rfl
    have hid : b.id = data.batchId := hunbound b.id (hcurrent ▸ hbound) data.batchId rfl
    have hfound : s.batch data.batchId = some batch := hmoves.found
    rw [← hid, hb, Option.some.injEq] at hfound
    rw [hfound, not_isExecuted_of_executed hmoves.transition] at hexecuted
    cases hexecuted
  | claim h =>
    refine h.keeps hs.claims hclaim hbound fun existing hfound hlookup _ => ?_
    have hnone := hkeeps.ingestion _ _ rfl
    exact ⟨hnone, (hbindings _ rfl existing hfound claim hlookup).2 hnone (by rw [hbound]; rfl)⟩

theorem Matched.of_write {b b' : Batch} {claim : Claim} (h : Matched s b claim) (hs : Sound s)
    (hwrite : Write s o s') (hb : s.batch b.id = some b) (hexecuted : b.status.isExecuted = true)
    (hkeeps : o.Keeps s s') (hid : b'.id = b.id)
    (htx : b'.matchedSweepTxHash = b.matchedSweepTxHash)
    (hexpected : b'.expectedTotalRaw = b.expectedTotalRaw) : ∃ claim', Matched s' b' claim' := by
  have hallocated := hwrite.allocationsOf_eq hb (level_ne_zero_of_isExecuted hexecuted)
  obtain ⟨claim', hmem, htx', hamount, hbound⟩ :=
    hwrite.keepsClaim hs hb hexecuted hkeeps h.stored h.bound
  refine ⟨claim', hmem, ?_, ?_, ?_, ?_⟩
  · rw [htx, htx', h.txHash]
  · rw [hbound, hid]
  · rw [hamount, hexpected, h.expected]
  · rw [hamount, hid, hallocated, h.allocated]

theorem AllMatched.of_write (h : AllMatched s) (hs : Sound s) (hwrite : Write s o s')
    (hkeeps : o.Keeps s s')
    (hmove : ∀ data, o = .updateSweepBatchStatus data →
      data.matched = none ∧ data.status ≠ .executed)
    (hexecute : ∀ data found, o = .recordSweepBatchExecution data found → ∀ row,
      s.batch data.batchId = some row → data.claim.amountRaw = row.expectedTotalRaw ∧
        data.claim.amountRaw = Knowledge.total (s.allocationsOf data.batchId)) :
    AllMatched s' := by
  intro id b hb hexecuted
  have hkept : s.batch id = some b → ∃ claim, Matched s' b claim := by
    intro hb
    obtain ⟨claim, hmatched⟩ := h id b hb hexecuted
    rw [← Database.batch_id hb] at hb
    exact hmatched.of_write hs hwrite hb hexecuted hkeeps rfl rfl rfl
  cases hwrite.batchOrigin hb with
  | kept hb => exact hkept hb
  | opened hopens =>
    rw [hopens.isNew.status] at hexecuted
    cases hexecuted
  | @moved data existing ho hmoves _ hrow =>
    -- a later transition of a batch that is matched already
    obtain ⟨hnone, hne⟩ := hmove data ho
    rw [hrow] at hexecuted ⊢
    have hbefore := isExecuted_of_transition hmoves.transition hexecuted hne
    obtain ⟨claim, hmatched⟩ := h data.batchId existing hmoves.found hbefore
    have hfound := hmoves.found
    rw [← Database.batch_id hfound] at hfound
    refine hmatched.of_write hs hwrite hfound hbefore hkeeps rfl ?_ rfl
    show (data.matched.map SweepMatch.txHash).or _ = _
    rw [hnone]
    rfl
  | @executed data found batch claim _ ho hclaim hmoves hclaims _ hrow =>
    -- the claim that is written now
    obtain ⟨hexpected, hallocated⟩ := hexecute data found ho batch hmoves.found
    obtain ⟨-, hamount, hbound⟩ := hclaim.row_eq
    have hrowId : b.id = data.batchId := by
      rw [hrow]
      exact hmoves.row_id
    refine ⟨claim, ?_, ?_, ?_, ?_, ?_⟩
    · rw [hclaims]
      exact hclaim.row_mem
    · rw [hrow]
      rfl
    · rw [hrowId]
      exact hbound data.batchId rfl
    · rw [hrow]
      exact hamount.trans hexpected
    · rw [hrowId, hmoves.store]
      exact hamount.trans hallocated

end Step

/-! ### Every run -/

structure BindingsKept (x : RoleConfig Database ℕ Knowledge) : Prop where
  sound : Sound x.store
  holds : ∀ p, (x.roles p).Holds x.store
  matched : AllMatched x.store

/-- Two executed batches that are matched with the same transaction are the same. -/
theorem OneClaimOneBatch.of_allMatched {s : Database} (hs : Sound s) (h : AllMatched s) :
    OneClaimOneBatch s := by
  have hmatched : ∀ b ∈ s.batches, b.status.isExecuted = true → ∃ claim, Matched s b claim :=
    fun b hb => h b.id b (hs.batches.lookup_eq_some.mpr ⟨hb, rfl⟩)
  refine ⟨fun b hb b' hb' hexecuted hexecuted' htx => ?_, hmatched⟩
  obtain ⟨claim, hclaim⟩ := hmatched b hb hexecuted
  obtain ⟨claim', hclaim'⟩ := hmatched b' hb' hexecuted'
  -- the transaction of a claim is unique, and so is its batch
  have hsame : claim.txHash = claim'.txHash := by
    rw [hclaim.txHash, hclaim'.txHash, Option.some.injEq] at htx
    exact htx
  have heq : claim = claim' := by
    refine hs.claims.eq_of_clash hclaim.stored hclaim'.stored ?_
    unfold claimTable
    rw [ne_eq, Table.Schema.unique_clash]
    simp [hsame]
  have hid : b.id = b'.id := by
    have hbound := hclaim.bound
    rw [heq, hclaim'.bound, Option.some.injEq] at hbound
    exact hbound.symm
  exact hs.batches.eq_of_key hb hb' hid

theorem BindingsKept.step {x x' : RoleConfig Database ℕ Knowledge} {l : Action}
    (hC : KeepsBindings ⟨x.store, l, x'.store⟩) (h : BindingsKept x) (hstep : KnownStep x l x') :
    BindingsKept x' := by
  obtain ⟨hsound, hholds⟩ := holds_of_knownStep hstep h.sound h.holds
  refine ⟨hsound, hholds, ?_⟩
  cases knownCases hstep with
  | idle hstore =>
    rw [hstore]
    exact h.matched
  | act p _ _ _ hl hallowed hperform =>
    rcases write_of_perform hperform with hsame | hwrite
    · rw [hsame]
      exact h.matched
    · subst hl
      refine h.matched.of_write h.sound hwrite ⟨fun hne => hC hne _ rfl, ?_⟩ ?_ ?_
      · rintro data _ rfl
        exact hallowed
      · rintro data rfl
        have hmay : (x.roles p).MayMove data := hallowed
        refine ⟨hmay.1, fun hexecuted => ?_⟩
        unfold MayMove at hmay
        rw [hexecuted] at hmay
        exact hmay.2
      · rintro data _ rfl _ hrow
        -- what the request has read of an approved batch is still so
        obtain ⟨batch, links, hbatch, hid, happroved, hlinks, hexpected, htotal⟩ :
          (x.roles p).MayExecute data := hallowed
        obtain ⟨_, hrow', hrowExpected, -⟩ := (h.holds p).batch batch hbatch
        rw [hid, hrow, Option.some.injEq] at hrow'
        rw [← hid] at hlinks ⊢
        rw [(h.holds p).links batch links hbatch (by rw [happroved]; decide) hlinks, hrow',
          hrowExpected]
        exact ⟨hexpected, htotal (h.holds p).missing⟩

/-- If every match that writes a claim finds it bound as it has read it, and ingestion does not
change the transaction and the amount of a bound claim, then one claim is matched with one batch, of
the same amount. -/
theorem one_claim_one_batch {tr : List (Transition State Action)} {c : State}
    (hrun : Run (Step world) initial tr c) (hkeeps : ∀ t ∈ tr, KeepsBindings (view t)) :
    OneClaimOneBatch c.store := by
  have h0 : BindingsKept ⟨initial.store, fun _ => .nothing⟩ := by
    refine ⟨sound_empty, fun _ => nothing_holds, ?_⟩
    intro _ _ hb
    cases hb
  obtain ⟨_, hend, -⟩ := Run.role_invariant (A := fun _ => True) (C := KeepsBindings) truthful
    (fun q _ => follows q) (fun _ _ _ _ _ => trivial) hkeeps initial_quiet.plays h0
    (fun _ _ _ hC h hstep => BindingsKept.step hC h hstep) hrun
  exact .of_allMatched hend.sound hend.matched

section Sample

open Sample

/-- The claim of the sample, as ingestion writes it. -/
def sampleClaim (amount : ℕ) : ClaimInput where
  sourceEventId := (observed amount).id
  matchedSweepBatchId := none
  txHash := claimTx
  blockNumber := 9
  observedAt := 9
  treasuryIdentity := treasury
  payoutReceiver := receiver
  amountRaw := amount
  triggeredBy := none

/-- Two batches ask for a claim that was ingested before, one after the other, and the claim is
ingested again. -/
def matchedOnce : List (Choice ℕ Luck Request) :=
  openPeriod ++ approved 1 5 ++ approved 2 5 ++ serve (.ingestClaim (sampleClaim 5)) (adds 1) ++
  serve (.markSweepBatchExecuted 1 (some claimTx) (Text.lit "executor")) (sees 5) ++
  serve (.markSweepBatchExecuted 2 (some claimTx) (Text.lit "executor")) (sees 5) ++
  serve (.ingestClaim (sampleClaim 5)) (adds 2)

/-- The second batch is refused. -/
theorem one_claim_one_batch_sample : ∃ tr c, Run (Step world) initial tr c ∧
    (∀ t ∈ tr, KeepsBindings (view t)) ∧
    c.store.batches.map Batch.status = [.executed, .approved] ∧ OneClaimOneBatch c.store := by
  obtain ⟨tr, c, hrun, hall, hstatus⟩ := exists_run_of_simulate (W := world) (c := initial)
    matchedOnce (P := fun events c => (∀ e ∈ events, KeepsBindings e) ∧
      c.store.batches.map Batch.status = [.executed, .approved]) (by decide +kernel)
  have hkeeps : ∀ t ∈ tr, KeepsBindings (view t) := fun t ht => hall _ (List.mem_map_of_mem ht)
  exact ⟨tr, c, hrun, hkeeps, hstatus, one_claim_one_batch hrun hkeeps⟩

/-- Two approved batches of the same amount and receiver: both matches find the claim unbound, and
then both commit. -/
def matchedTwice : List (Choice ℕ Luck Request) :=
  openPeriod ++ approved 1 5 ++ approved 2 5 ++ serve (.ingestClaim (sampleClaim 5)) (adds 1) ++
  [.call 1 (.markSweepBatchExecuted 1 (some claimTx) (Text.lit "executor")), .acts 1 (sees 5) 9,
    .call 2 (.markSweepBatchExecuted 2 (some claimTx) (Text.lit "executor")), .acts 2 (sees 5) 9,
    .acts 1 (sees 5) 1, .done 1, .acts 2 (sees 5) 1, .done 2]

/-- A batch is matched with its claim, and then the indexer reports another amount of it. -/
def matchedAndCorrected : List (Choice ℕ Luck Request) :=
  openPeriod ++ approved 1 5 ++
  serve (.markSweepBatchExecuted 1 (some claimTx) (Text.lit "executor")) (sees 5) ++
  serve (.ingestClaim (sampleClaim 4)) (adds 2)

/-- No claim has the amount of an executed batch. -/
theorem not_oneClaimOneBatch_of_amount {s : Database} {b : Batch} (hb : b ∈ s.batches)
    (hexecuted : b.status.isExecuted = true)
    (hamount : ∀ claim ∈ s.claims, claim.amountRaw ≠ b.expectedTotalRaw) :
    ¬ OneClaimOneBatch s := by
  intro h
  obtain ⟨claim, hclaim⟩ := h.matched b hb hexecuted
  exact hamount claim hclaim.stored hclaim.expected

/-- Two batches are executed with the same claim; and a batch is executed with a claim of another
amount. -/
theorem claim_bound_twice :
    (∃ tr c b b', Run (Step world) initial tr c ∧ c.store.batches = [b, b'] ∧
      b.status = .executed ∧ b'.status = .executed ∧
      b.matchedSweepTxHash = some claimTx ∧ b'.matchedSweepTxHash = some claimTx ∧
      ¬ OneClaimOneBatch c.store) ∧
    ∃ tr c b claim, Run (Step world) initial tr c ∧ c.store.batches = [b] ∧
      c.store.claims = [claim] ∧ b.status = .executed ∧ b.expectedTotalRaw = 5 ∧
      claim.amountRaw = 4 ∧ ¬ OneClaimOneBatch c.store := by
  constructor
  · obtain ⟨tr, c, hrun, b, hb, b', hb', hbatches, hstatus, hstatus', htx, htx', hne⟩ :=
      exists_end_of_simulate (W := world) (c := initial) matchedTwice
        (P := fun c => ∃ b ∈ c.store.batches, ∃ b' ∈ c.store.batches,
          c.store.batches = [b, b'] ∧ b.status = .executed ∧ b'.status = .executed ∧
            b.matchedSweepTxHash = some claimTx ∧ b'.matchedSweepTxHash = some claimTx ∧ b ≠ b')
        (by decide +kernel)
    refine ⟨tr, c, b, b', hrun, hbatches, hstatus, hstatus', htx, htx', fun h => hne ?_⟩
    refine h.unique b hb b' hb' ?_ ?_ (htx.trans htx'.symm)
    · rw [hstatus]
      rfl
    · rw [hstatus']
      rfl
  · obtain ⟨tr, c, hrun, b, hb, claim, -, hbatches, hclaims, hstatus, hexpected, hamount⟩ :=
      exists_end_of_simulate (W := world) (c := initial) matchedAndCorrected
        (P := fun c => ∃ b ∈ c.store.batches, ∃ claim ∈ c.store.claims, c.store.batches = [b] ∧
          c.store.claims = [claim] ∧ b.status = .executed ∧ b.expectedTotalRaw = 5 ∧
            claim.amountRaw = 4) (by decide +kernel)
    refine ⟨tr, c, b, claim, hrun, hbatches, hclaims, hstatus, hexpected, hamount, ?_⟩
    refine not_oneClaimOneBatch_of_amount hb ?_ ?_
    · rw [hstatus]
      rfl
    · intro _ hclaim'
      rw [hclaims, List.mem_singleton] at hclaim'
      rw [hclaim', hamount, hexpected]
      decide

end Sample

end Cotsel.Treasury.Sweep
