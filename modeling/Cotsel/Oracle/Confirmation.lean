import Cotsel.Oracle.Ownership
import Cotsel.Oracle.SingleSend

/-!
# What becomes of a confirmed row

The executor of a trigger shows it as `SUBMITTED` before it waits for the receipt, and writes
`SUBMITTED` again afterwards, whatever the row says by then.  An observer that confirms the row in
between is overwritten (`confirmation_overwritten`).  When every row is confirmed only while nobody
holds the lock of its action, a confirmed row stays confirmed, and the positions read from a row
move as `canTransitionTransactionFinality` allows (`confirmation_stays`).
-/

namespace Cotsel.Oracle

open Text Sdk Interaction Runs

variable {d : Deployment} {p q : ℕ} {s s' : Store} {a k : List Char} {t t' : Role}
  {o : Op} {r : Except Thrown (Ans o)} {x x' : OracleRoles} {l : OracleLabel} {old new : Trigger}

/-! ### Positions -/

/-- How a row may go on once it is confirmed. -/
structure Advances (old new : Trigger) : Prop where
  txHash : ∀ hash, old.txHash = some hash → new.txHash = some hash
  confirmed : old.status = .confirmed → new.status = .confirmed ∧
    (new.confirmationStage = old.confirmationStage ∨ new.confirmationStage = some .finalized)

theorem Advances.refl (row : Trigger) : Advances row row :=
  ⟨fun _ h => h, fun h => ⟨h, Or.inl rfl⟩⟩

theorem Advances.trans {r₁ r₂ r₃ : Trigger} (h : Advances r₁ r₂) (h' : Advances r₂ r₃) :
    Advances r₁ r₃ where
  txHash hash hh := h'.txHash hash (h.txHash hash hh)
  confirmed hc := by
    obtain ⟨hc₂, hstage₂⟩ := h.confirmed hc
    obtain ⟨hc₃, hstage₃⟩ := h'.confirmed hc₂
    refine ⟨hc₃, ?_⟩
    rcases hstage₃ with hstage₃ | hstage₃
    · rw [hstage₃]
      exact hstage₂
    · exact Or.inr hstage₃

theorem Advances.finalized (h : Advances old new) (hc : old.status = .confirmed)
    (hstage : old.confirmationStage = some .finalized) :
    new.status = .confirmed ∧ new.confirmationStage = some .finalized := by
  obtain ⟨hc', hstage'⟩ := h.confirmed hc
  exact ⟨hc', hstage'.elim (fun heq => heq.trans hstage) id⟩

/-- No row claims to have failed, and only what is final is finalized. -/
theorem finality_sound {row : Trigger} {pos : TransactionFinalityPosition}
    (h : row.finality = some pos) :
    pos.state ≠ .failed ∧ (pos.state = .finalized → pos.final = true) := by
  have hplain : ∀ {state}, state ≠ .failed ∧ state ≠ .finalized → some ⟨state, false⟩ = some pos →
      pos.state ≠ .failed ∧ (pos.state = .finalized → pos.final = true) := by
    rintro _ ⟨hfailed, hfinalized⟩ heq
    cases heq
    exact ⟨hfailed, fun h => absurd h hfinalized⟩
  unfold Trigger.finality triggerFinality at h
  split at h
  · split at h
    · next stage _ _ =>
      cases h
      cases stage <;> exact ⟨by decide, by decide⟩
    · exact hplain (by decide) h
  · split_ifs at h
    · exact hplain (by decide) h
    · exact hplain (by decide) h
  · split_ifs at h
    exact hplain (by decide) h

/-- A row that is not confirmed has a position that may move anywhere. -/
theorem finality_open {row : Trigger} {pos : TransactionFinalityPosition}
    (hc : row.status ≠ .confirmed) (h : row.finality = some pos) :
    pos.final = false ∧ successRank pos.state = none := by
  have hplain : ∀ {state}, successRank state = none → some ⟨state, false⟩ = some pos →
      pos.final = false ∧ successRank pos.state = none := by
    rintro _ hrank heq
    cases heq
    exact ⟨rfl, hrank⟩
  unfold Trigger.finality triggerFinality at h
  split at h
  · next hstatus => exact absurd hstatus hc
  · split_ifs at h
    · exact hplain rfl h
    · exact hplain rfl h
  · split_ifs at h
    exact hplain rfl h

/-- A position that is open may move to any that is sound. -/
theorem canTransition_of_open {source : Option TransactionFinalityPosition}
    {target : TransactionFinalityPosition}
    (hsource : ∀ pos, source = some pos → pos.final = false ∧ successRank pos.state = none)
    (htarget : target.state ≠ .failed ∧ (target.state = .finalized → target.final = true)) :
    canTransitionTransactionFinality source target = true := by
  have hfinalized : ¬ (target.state = .finalized ∧ target.final = false) := by
    rintro ⟨hstate, hfinal⟩
    rw [htarget.2 hstate] at hfinal
    cases hfinal
  unfold canTransitionTransactionFinality
  rw [if_neg hfinalized, if_neg fun h => htarget.1 h.1]
  cases source with
  | none => rfl
  | some pos =>
    obtain ⟨hfinal, hrank⟩ := hsource pos rfl
    by_cases hsame : pos.state = target.state ∧ pos.final = target.final
    · exact if_pos hsame
    · refine (if_neg hsame).trans ?_
      rw [hfinal, hrank, if_neg Bool.false_ne_true, if_neg htarget.1]

/-- The position of a confirmed row: its stage, if it has a transaction. -/
theorem finality_confirmed {row : Trigger} (hc : row.status = .confirmed) :
    row.finality = some (match truthy row.txHash, row.confirmationStage with
      | true, some stage => finalityFromConfirmationStage stage
      | _, _ => ⟨.unknown, false⟩) := by
  unfold Trigger.finality triggerFinality
  rw [hc]
  cases truthy row.txHash <;> cases row.confirmationStage <;> rfl

theorem Advances.canTransition (h : Advances old new) {pos : TransactionFinalityPosition}
    (hpos : new.finality = some pos) :
    canTransitionTransactionFinality old.finality pos = true := by
  by_cases hc : old.status = .confirmed
  · obtain ⟨hc', hstage⟩ := h.confirmed hc
    have hopen : old.finality = some ⟨.unknown, false⟩ →
        canTransitionTransactionFinality old.finality pos = true := by
      intro hunknown
      refine canTransition_of_open (fun pos' hpos' => ?_) (finality_sound hpos)
      rw [hunknown] at hpos'
      cases hpos'
      exact ⟨rfl, rfl⟩
    have hold := finality_confirmed hc
    rw [finality_confirmed hc'] at hpos
    cases htx : truthy old.txHash with
    | false => exact hopen (by rw [hold, htx])
    | true =>
      cases hst : old.confirmationStage with
      | none => exact hopen (by rw [hold, hst]; cases truthy old.txHash <;> rfl)
      | some stage =>
        have htx' : truthy new.txHash = true := by
          cases hhash : old.txHash with
          | none =>
            rw [hhash] at htx
            cases htx
          | some hash => rw [h.txHash hash hhash, ← hhash, htx]
        -- the stage is the same, or final
        rw [hold, htx, hst]
        rcases hstage with hstage | hstage
        · rw [htx', hstage, hst] at hpos
          cases hpos
          cases stage <;> rfl
        · rw [htx', hstage] at hpos
          cases hpos
          cases stage <;> rfl
  · exact canTransition_of_open (fun pos' hpos' => finality_open hc hpos') (finality_sound hpos)

/-! ### Confirmations and locks -/

variable (d) in
/-- A row becomes `CONFIRMED` only while nobody holds the lock of its action. -/
def ConfirmsUnlocked (t : Event) : Prop :=
  ∀ old ∈ t.source.rows, ∀ new ∈ t.target.rows, old.idempotencyKey = new.idempotencyKey →
    old.status ≠ .confirmed → new.status = .confirmed →
    t.source.locks (d.hashtext old.actionKey) = none

instance (t : Event) : Decidable (ConfirmsUnlocked d t) :=
  inferInstanceAs (Decidable (∀ old ∈ t.source.rows, ∀ new ∈ t.target.rows, _ → _ → _ → _ = none))

/-- The row with this key, if there is one, is not confirmed. -/
def Store.Unconfirmed (s : Store) (k : List Char) : Prop :=
  ∀ row, s.lookup k = some row → row.status ≠ .confirmed

/-- The rows that a process has seen unconfirmed and may write. -/
def Role.Watches (k : List Char) : Role → Prop
  | .holding _ k' | .driving _ k' _ | .claimed _ k' | .sent _ k' => k' = k
  | .chosen _ latest => ∃ l, latest = some l ∧ l.status ≠ .confirmed ∧ l.idempotencyKey = k
  | .conflicted _ latest _ => ∃ l, latest = some l ∧ l.status ≠ .confirmed ∧ l.idempotencyKey = k
  | _ => False

theorem Store.IsLatest.has {latest : Trigger} (h : s.IsLatest a (some latest)) (hs : s.Valid) :
    s.Has latest.idempotencyKey a := by
  obtain ⟨row, hrow, hretains⟩ := h
  obtain ⟨hlookup, haction⟩ := hs.lookup_latest hrow
  rw [hretains.key] at hlookup
  exact ⟨row, hlookup, haction⟩

/-- A process that watches a row holds the lock of its action. -/
theorem Knows.watched (h : Knows s t) (hs : s.Valid) (hk : t.Watches k) :
    ∃ a, t.lockOf = some a ∧ s.Has k a := by
  cases t with
  | holding a | driving a =>
    cases hk
    exact ⟨a, rfl, h⟩
  | claimed a | sent a =>
    cases hk
    obtain ⟨row, hrow, haction, -⟩ := h
    exact ⟨a, rfl, row, hrow, haction⟩
  | chosen a =>
    obtain ⟨_, rfl, -, rfl⟩ := hk
    exact ⟨a, rfl, h.has hs⟩
  | conflicted a =>
    obtain ⟨_, rfl, -, rfl⟩ := hk
    exact ⟨a, rfl, h.1.has hs⟩
  | _ => cases hk

/-- A row is watched from the moment on when it is seen unconfirmed. -/
theorem Act.watches (h : Act d p s s' o r t t') (hs : s.Valid) (ht : Knows s t)
    (hk : t'.Watches k) : t.Watches k ∨ s'.Unconfirmed k := by
  cases h with
  | quiet | resolve | conflict | claim | claimUnacknowledged | send | follow =>
    exact Or.inl hk
  | latest hs' =>
    obtain ⟨l, hl, hstatus, rfl⟩ := hk
    right
    intro row hrow
    rw [hs', (hs.lookup_latest hl).1, Option.some.injEq] at hrow
    exact hrow ▸ hstatus
  | @insert data _ hinsertable happ =>
    cases hk
    right
    intro row hrow
    rw [happ.lookup_self, Option.some.injEq] at hrow
    subst hrow
    show data.status ≠ .confirmed
    rw [hinsertable.status]
    decide
  | @found a latest _ _ _ hlatest =>
    cases hk
    obtain ⟨hread, hinsertable⟩ := ht
    cases latest with
    | none =>
      rw [show s.latest a = none from hread] at hlatest
      cases hlatest
    | some l =>
      obtain ⟨_, hrow', hretains⟩ := hread
      rw [hlatest, Option.some.injEq] at hrow'
      subst hrow'
      refine Or.inl ⟨l, rfl, fun hc => (hinsertable.vacant l rfl).1 (Or.inl hc), ?_⟩
      exact hretains.key.symm
  | resume hs' hopen =>
    cases hk
    right
    intro row hrow hc
    rw [hs'] at hrow
    exact hopen row hrow (Or.inl hc)
  | drive ht | driveFailed ht =>
    cases hk
    rcases ht with ⟨_, rfl⟩ | rfl <;> exact Or.inl rfl
  | _ => cases hk

/-- Nobody writes a row but an observer, unless he watches it. -/
theorem Touches.advances (h : Touches t old new)
    (ht : t.Watches old.idempotencyKey → old.status ≠ .confirmed) (hhash : Retains old new) :
    Advances old new where
  txHash := hhash.txHash
  confirmed hc := by
    cases h with
    | resolve => exact ⟨hc, Or.inl rfl⟩
    | approve _ hstatus | reject _ hstatus =>
      rw [hc] at hstatus
      cases hstatus
    | drive hdrives =>
      refine absurd hc (ht ?_)
      rcases hdrives with ⟨_, rfl⟩ | rfl <;> rfl
    | submitForApproval hrole | claim hrole =>
      subst hrole
      exact absurd hc (ht rfl)
    | follow hrole =>
      refine absurd hc (ht ?_)
      rcases hrole with rfl | rfl <;> rfl
    | confirm _ _ _ _ hu =>
      refine ⟨?_, Or.inr ?_⟩
      · rw [UpdateTriggerData.apply, hu.status]
        rfl
      · rw [UpdateTriggerData.apply, hu.stage]
        rfl

/-! ### Runs -/

variable (d) in
/-- What every process watches is unconfirmed. -/
structure Unfinished (x : OracleRoles) : Prop where
  owned : Owned d x
  watched : ∀ p k, (x.roles p).Watches k → x.store.Unconfirmed k

namespace Unfinished

theorem start (hs : s.Valid) : Unfinished d ⟨s, fun _ => .idle⟩ where
  owned := .start hs
  watched p k h := by cases h

/-- While a process watches a row it is not confirmed, because its lock is held. -/
theorem stays (h : Unfinished d x)
    (hconfirm : ConfirmsUnlocked d ⟨x.store, l, x'.store⟩) (hk : (x.roles q).Watches k) :
    x'.store.Unconfirmed k := by
  intro new hnew hc
  obtain ⟨a, hlock, old, hold, haction⟩ := (h.owned.knows q).watched h.owned.valid hk
  have hfree : x.store.locks (d.hashtext old.actionKey) = none := by
    refine hconfirm old (Table.lookup_eq_some_mem hold).1 new (Table.lookup_eq_some_mem hnew).1 ?_
      (h.watched q k hk old hold) hc
    rw [Store.lookup_key hold, Store.lookup_key hnew]
  rw [haction, h.owned.locks q a hlock] at hfree
  cases hfree

theorem step (h : Unfinished d x) (hstep : OracleStep d x l x')
    (hconfirm : ConfirmsUnlocked d ⟨x.store, l, x'.store⟩) : Unfinished d x' where
  owned := h.owned.step hstep
  watched q k hk := by
    cases hstep.moves with
    | @act p _ _ _ hact hroles =>
      rw [hroles] at hk
      by_cases hqp : q = p
      · subst hqp
        rw [Function.update_self] at hk
        rcases hact.watches h.owned.valid (h.owned.knows q) hk with hk | hk
        · exact h.stays hconfirm hk
        · exact hk
      · rw [Function.update_of_ne hqp] at hk
        exact h.stays hconfirm hk
    | rest p _ hroles =>
      rw [hroles] at hk
      by_cases hqp : q = p
      · subst hqp
        rw [Function.update_self] at hk
        cases hk
      · rw [Function.update_of_ne hqp] at hk
        exact h.stays hconfirm hk

theorem advances (h : Unfinished d x) (hstep : OracleStep d x l x')
    (hk : x.store.lookup k = some old) :
    ∃ new, x'.store.lookup k = some new ∧ Advances old new := by
  obtain ⟨_, hrow', hretains, -⟩ := hstep.retains hk
  cases hstep.moves with
  | @act p _ _ _ hact =>
    rcases hact.lookup hk with hsame | ⟨new, hnew, htouch⟩
    · exact ⟨old, hsame, .refl old⟩
    · rw [hnew, Option.some.injEq] at hrow'
      subst hrow'
      refine ⟨new, hnew, htouch.advances (fun hw => ?_) hretains⟩
      rw [Store.lookup_key hk] at hw
      exact h.watched p k hw old hk
  | rest _ hs =>
    refine ⟨old, ?_, .refl old⟩
    rw [Store.lookup, Moves.rest_rows hs]
    exact hk

end Unfinished

/-- When rows are confirmed only while nobody holds the lock of their action, a row that is
confirmed and finalized stays so, and of any two positions read from a row one after the other the
second may follow the first. -/
theorem confirmation_stays {c c₁ c₂ : OracleConfig}
    {tr₁ tr₂ : List (Transition OracleConfig OracleLabel)} {row : Trigger} (hquiet : c.Quiet)
    (hvalid : c.store.Valid) (hrun₁ : Run (Step (world d)) c tr₁ c₁)
    (hrun₂ : Run (Step (world d)) c₁ tr₂ c₂)
    (hconfirm : ∀ t ∈ tr₁ ++ tr₂, ConfirmsUnlocked d (view t))
    (hk : c₁.store.lookup k = some row) :
    ∃ row', c₂.store.lookup k = some row' ∧
      (row.status = .confirmed → row.confirmationStage = some .finalized →
        row'.status = .confirmed ∧ row'.confirmationStage = some .finalized) ∧
      ∀ pos, row'.finality = some pos →
        canTransitionTransactionFinality row.finality pos = true := by
  have hfollows : ∀ q : Request, True → Follows (protocol d) Ended ((world d).program q) .idle :=
    fun q _ => serve_follows d q
  -- the invariant holds where the row is first read, and is carried on from there
  obtain ⟨_, hinv₁, hplays₁⟩ := Run.role_invariant (A := fun _ => True) truthful hfollows
    (fun _ _ _ _ _ => trivial) (fun t ht => hconfirm t (List.mem_append_left _ ht)) hquiet.plays
    (Unfinished.start hvalid) (fun _ _ _ hc h hstep => h.step hstep hc) hrun₁
  obtain ⟨_, ⟨-, row', hrow', hadvances⟩, -⟩ := Run.role_invariant (A := fun _ => True)
    (I := fun x => Unfinished d x ∧ ∃ row', x.store.lookup k = some row' ∧ Advances row row')
    truthful hfollows (fun _ _ _ _ _ => trivial)
    (fun t ht => hconfirm t (List.mem_append_right _ ht)) hplays₁ ⟨hinv₁, row, hk, .refl row⟩
    (by
      rintro _ _ _ hc ⟨hinv, _, hrow₁, hadv₁⟩ hstep
      obtain ⟨row₂, hrow₂, hadv₂⟩ := hinv.advances hstep hrow₁
      exact ⟨hinv.step hstep hc, row₂, hrow₂, hadv₁.trans hadv₂⟩) hrun₂
  exact ⟨row', hrow', hadvances.finalized, fun pos hpos => hadvances.canTransition hpos⟩

/-! ### Samples -/

/-- A row whose transaction is sent. -/
def submittedRow : Trigger where
  actionKey := lit "RELEASE_STAGE_1:1"
  requestId := lit "r1"
  idempotencyKey := lit "RELEASE_STAGE_1:1:r1"
  tradeId := lit "1"
  triggerType := .releaseStage1
  attemptCount := 1
  status := .submitted
  txHash := some (sampleHash '6')
  blockNumber := none
  confirmationStage := none
  lastError := none
  errorType := none
  submittedAt := some 1000
  approvedBy := none
  rejectedBy := none
  rejectionReason := none
  fundedBinding := some sampleBinding
  dispatchStartedAt := some 1000
  dispatchSignerScope := some ⟨lit "31337", sampleAddress 'a'⟩
  dispatchFinalityEvidence := none

def submittedConfig : OracleConfig := ⟨⟨[submittedRow], fun _ => none⟩, fun _ => none⟩

theorem submittedConfig_valid : submittedConfig.store.Valid := List.pairwise_singleton _ _

def Trigger.isFinal (row : Trigger) : Bool :=
  row.status = .confirmed ∧ row.confirmationStage = some .finalized

/-- A poll confirms the row; a later request leaves it as it is. -/
theorem confirmation_stays_sample : ∃ tr₁ c₁ tr₂ c₂ row row',
    Run (Step (world sampleDeployment)) submittedConfig tr₁ c₁ ∧
    Run (Step (world sampleDeployment)) c₁ tr₂ c₂ ∧
    c₁.store.lookup submittedRow.idempotencyKey = some row ∧ row.isFinal = true ∧
    c₂.store.lookup submittedRow.idempotencyKey = some row' ∧ row'.isFinal = true := by
  obtain ⟨tr₁, c₁, hrun₁, hconfirm₁, ⟨row, hrow, hfinal⟩, hlater⟩ := exists_run_of_simulate
    (W := world sampleDeployment) (c := submittedConfig)
    [.call 1 .pollConfirmations, .acts 1 sampleLuck 100, .done 1]
    (P := fun events c => (∀ t ∈ events, ConfirmsUnlocked sampleDeployment t) ∧
      (∃ row ∈ c.store.lookup submittedRow.idempotencyKey, row.isFinal = true) ∧
      (simulate (world sampleDeployment)
        [.call 0 (.executeTrigger sampleRequest), .acts 0 sampleLuck 100, .done 0] c).any
        (fun x => decide (∀ t ∈ x.1, ConfirmsUnlocked sampleDeployment t)) = true)
    (by decide +kernel)
  obtain ⟨tr₂, c₂, hrun₂, hconfirm₂⟩ := exists_run_of_simulate _
    (P := fun events _ => ∀ t ∈ events, ConfirmsUnlocked sampleDeployment t) hlater
  obtain ⟨row', hrow', hstays, -⟩ := confirmation_stays (fun _ => rfl) submittedConfig_valid hrun₁
    hrun₂ (fun t ht => (List.mem_append.mp ht).elim
      (fun ht => hconfirm₁ _ (List.mem_map_of_mem ht))
      fun ht => hconfirm₂ _ (List.mem_map_of_mem ht)) hrow
  have hc : row.status = .confirmed ∧ row.confirmationStage = some .finalized :=
    of_decide_eq_true hfinal
  exact ⟨tr₁, c₁, tr₂, c₂, row, row', hrun₁, hrun₂, hrow, hfinal, hrow',
    decide_eq_true (hstays hc.1 hc.2)⟩

/-- From an empty table: the executor has stored the hash of its transaction and waits for the
receipt; a poll confirms the row; then the executor writes `SUBMITTED` again. -/
theorem confirmation_overwritten : ∃ tr₁ c₁ tr₂ c₂ row row',
    Run (Step (world sampleDeployment)) emptyConfig tr₁ c₁ ∧
    Run (Step (world sampleDeployment)) c₁ tr₂ c₂ ∧
    c₁.store.lookup submittedRow.idempotencyKey = some row ∧ row.isFinal = true ∧
    c₂.store.lookup submittedRow.idempotencyKey = some row' ∧ row'.status = .submitted ∧
    ∃ pos, row'.finality = some pos ∧
      canTransitionTransactionFinality row.finality pos = false := by
  obtain ⟨tr₁, c₁, hrun₁, row, hrow, hfinal, hlater⟩ := exists_end_of_simulate
    (W := world sampleDeployment) (c := emptyConfig)
    [.call 0 (.executeTrigger sampleRequest), .acts 0 sampleLuck 20, .call 1 .pollConfirmations,
      .acts 1 sampleLuck 100, .done 1]
    (P := fun c => ∃ row ∈ c.store.lookup submittedRow.idempotencyKey, row.isFinal = true ∧
      (simulate (world sampleDeployment) [.acts 0 sampleLuck 100, .done 0] c).any (fun x =>
        decide (∃ row' ∈ x.2.store.lookup submittedRow.idempotencyKey, row'.status = .submitted ∧
          ∃ pos ∈ row'.finality, canTransitionTransactionFinality row.finality pos = false)) = true)
    (by decide +kernel)
  obtain ⟨tr₂, c₂, hrun₂, row', hrow', hstatus, pos, hpos, hblocked⟩ := exists_end_of_simulate _
    (P := fun c : OracleConfig => ∃ row' ∈ c.store.lookup submittedRow.idempotencyKey,
      row'.status = .submitted ∧
        ∃ pos ∈ row'.finality, canTransitionTransactionFinality row.finality pos = false) hlater
  exact ⟨tr₁, c₁, tr₂, c₂, row, row', hrun₁, hrun₂, hrow, hfinal, hrow', hstatus, pos, hpos,
    hblocked⟩

end Cotsel.Oracle
