import Cotsel.Oracle.Steps

/-!
# One send for each action

Over any run of any number of oracle processes, from any table that keeps to its indexes: an escrow
call is started at most once for each action, and only after the same process claimed the row it is
made for; at any time at most one dispatch of each signer is unresolved; and what a claimed row says
about its dispatch stays (`single_send`).

The argument is in `SendHistory`: whoever is in the role `claimed` has the only right to start a
call for its row, because the claim found the row unclaimed and claims are never withdrawn.
-/

namespace Cotsel.Oracle

open Text Sdk Interaction Runs

variable {d : Deployment} {s s' : Store} {k a : List Char} {p q : ℕ}

/-! ### What is claimed -/

/-- The event is the start of an escrow call for the row `k`. -/
def Starts (p : ℕ) (k : List Char) (l : OracleLabel) : Prop :=
  ∃ call r, l = .act p (.escrowCall k call) r

/-- The event is the start of an escrow call for a row of the action `a`. -/
def StartsFor (a : List Char) (t : Event) : Prop :=
  ∃ p k row, Starts p k t.label ∧ t.source.lookup k = some row ∧ row.actionKey = a

/-- The event is a successful claim of the row `k`. -/
def Claims (p : ℕ) (k : List Char) (l : OracleLabel) : Prop :=
  ∃ scope, l = .act p (.claimTriggerDispatch k scope) (.ok true)

/-- The row `k` is there and claimed. -/
def Store.IsClaimed (s : Store) (k : List Char) : Prop :=
  ∃ row, s.lookup k = some row ∧ row.Claimed

/-- At most one dispatch of each signer is unresolved. -/
def Store.Exclusive (s : Store) : Prop :=
  ∀ r ∈ s.rows, ∀ r' ∈ s.rows, r.Unresolved → r'.Unresolved →
    r.dispatchSignerScope.isSome = true → r.dispatchSignerScope = r'.dispatchSignerScope → r = r'

/-- The columns of a claimed row about its dispatch. -/
structure KeepsDispatch (r r' : Trigger) : Prop where
  key : r'.idempotencyKey = r.idempotencyKey
  startedAt : r'.dispatchStartedAt = r.dispatchStartedAt
  scope : r'.dispatchSignerScope = r.dispatchSignerScope
  txHash : ∀ hash, r.txHash = some hash → r'.txHash = some hash
  evidence : ∀ e, r.dispatchFinalityEvidence = some e → r'.dispatchFinalityEvidence = some e
  /-- The signer is released only by evidence that names the transaction of the row. -/
  released : ∀ e, r.dispatchFinalityEvidence = none → r'.dispatchFinalityEvidence = some e →
    r.txHash = some e.transactionHash ∧ r.dispatchSignerScope = some e.signerScope

structure SingleSend (events : List Event) (final : Store) : Prop where
  once : events.Pairwise fun t u => ∀ a, StartsFor a t → ¬ StartsFor a u
  claimed : ∀ pre t post p k, events = pre ++ t :: post → Starts p k t.label →
    t.source.IsClaimed k ∧ ∃ u ∈ pre, Claims p k u.label ∧ u.target.IsClaimed k
  exclusive : final.Exclusive ∧ ∀ t ∈ events, t.source.Exclusive
  retained : ∀ t ∈ events, ∀ r ∈ t.source.rows, r.Claimed →
    ∃ r' ∈ t.target.rows, KeepsDispatch r r'

theorem Store.Valid.exclusive (h : s.Valid) : s.Exclusive := by
  intro _ hr _ hr' hu hu' hscope heq
  refine Table.Valid.eq_of_clash h hr hr' fun hclash => ?_
  exact (clash_eq_none.mp hclash).2.2.2 ⟨hu, hu', hscope, heq⟩

theorem Store.Valid.claimed_eq {r r' : Trigger} (h : s.Valid) (hr : r ∈ s.rows) (hr' : r' ∈ s.rows)
    (hc : r.Claimed) (hc' : r'.Claimed) (ha : r.actionKey = r'.actionKey) : r = r' := by
  refine Table.Valid.eq_of_clash h hr hr' fun hclash => ?_
  exact (clash_eq_none.mp hclash).2.2.1 ⟨hc, hc', ha⟩

theorem Retains.keepsDispatch {r r' : Trigger} (h : Retains r r') (hevidence : Attributes r r')
    (hclaimed : r.Claimed) : KeepsDispatch r r' :=
  ⟨h.key, (h.claim hclaimed).1, (h.claim hclaimed).2, h.txHash, h.evidence, hevidence⟩

/-! ### Steps -/

section Steps

variable {x x' : OracleRoles} {l : OracleLabel}

theorem OracleStep.isClaimed (h : OracleStep d x l x') (hk : x.store.IsClaimed k) :
    x'.store.IsClaimed k := by
  obtain ⟨_, hrow, hclaimed⟩ := hk
  obtain ⟨row', hrow', hretains, -⟩ := h.retains hrow
  exact ⟨row', hrow', hretains.claimed hclaimed⟩

theorem OracleStep.keepsDispatch (h : OracleStep d x l x') (hs : x.store.Valid)
    {r : Trigger} (hr : r ∈ x.store.rows) (hclaimed : r.Claimed) :
    ∃ r' ∈ x'.store.rows, KeepsDispatch r r' := by
  obtain ⟨r', hr', hretains, hevidence⟩ := h.retains (hs.mem_iff.mp hr)
  exact ⟨r', (Table.lookup_eq_some_mem hr').1, hretains.keepsDispatch hevidence hclaimed⟩

/-- A call is started in the role `claimed`, and the role ends with it. -/
theorem OracleStep.starts (h : OracleStep d x l x') (hl : Starts p k l) :
    ∃ a, x.roles p = .claimed a k ∧ x'.store = x.store ∧ ∀ b k', x'.roles p ≠ .claimed b k' := by
  obtain ⟨call, _, rfl⟩ := hl
  obtain ⟨_, hact, hroles⟩ := h.act
  generalize ht : x.roles p = t at hact
  cases hact with
  | quiet _ ho => exact absurd rfl (ho k call)
  | send hs =>
    refine ⟨_, rfl, hs, fun b k' hrole => ?_⟩
    rw [hroles, Function.update_self] at hrole
    cases hrole

/-- Whoever is in the role `claimed` was in it before, or has just claimed a row that was not
claimed. -/
theorem OracleStep.claimed (h : OracleStep d x l x') (hp : x'.roles p = .claimed a k) :
    x.roles p = .claimed a k ∧ (∀ k', ¬ Starts p k' l) ∨
      Claims p k l ∧ ¬ x.store.IsClaimed k ∧ x'.store.IsClaimed k ∧
        ∀ q ≠ p, x'.roles q = x.roles q := by
  by_cases hact : ∃ o r, l = .act p o r
  · obtain ⟨_, r, rfl⟩ := hact
    obtain ⟨_, hact, hroles⟩ := h.act
    rw [hroles, Function.update_self] at hp
    generalize ht : x.roles p = t at hact
    cases hact with
    | quiet _ ho =>
      refine Or.inl ⟨hp, ?_⟩
      rintro k' ⟨call, r', heq⟩
      cases heq
      exact ho _ _ rfl
    | resolve | follow =>
      refine Or.inl ⟨hp, ?_⟩
      rintro k' ⟨call, _, heq⟩
      cases heq
    | @claim _ _ scope _ old time _ hclaim hrep =>
      cases hp
      have hkey : k = old.idempotencyKey := Option.some.inj hrep.rewrites.target
      refine Or.inr ⟨⟨scope, rfl⟩, ?_, ?_, fun q hq => by rw [hroles, Function.update_of_ne hq]⟩
      · rintro ⟨_, hrow, hclaimed⟩
        rw [hkey, hrep.lookup, Option.some.injEq] at hrow
        subst hrow
        exact hclaim.1 hclaimed
      · refine ⟨claimChange time scope old, ?_, rfl⟩
        rw [hkey]
        exact hrep.lookup_self
    | _ => cases hp
  · refine Or.inl ⟨?_, fun k' ⟨call, r, heq⟩ => hact ⟨_, r, heq⟩⟩
    rcases h.role_eq hact with hsame | hidle
    · rwa [hsame] at hp
    · rw [hidle] at hp
      cases hp

end Steps

/-! ### Histories -/

/-- What the events so far have to do with the roles. -/
structure SendHistory (events : List Event) (x : OracleRoles) : Prop where
  valid : x.store.Valid
  /-- The role `claimed` comes from a claim, and its call is not started. -/
  claims : ∀ p a k, x.roles p = .claimed a k → x.store.IsClaimed k ∧
    (∃ t ∈ events, Claims p k t.label ∧ t.target.IsClaimed k) ∧
    ∀ t ∈ events, ∀ q, ¬ Starts q k t.label
  alone : ∀ p q a b k, x.roles p = .claimed a k → x.roles q = .claimed b k → p = q
  /-- The row of a call stays claimed. -/
  started : ∀ t ∈ events, ∀ p k, Starts p k t.label → ∃ row row', t.source.lookup k = some row ∧
    x.store.lookup k = some row' ∧ row.Claimed ∧ Retains row row'
  once : events.Pairwise fun t u => ∀ p q k, Starts p k t.label → ¬ Starts q k u.label
  claimed : ∀ pre t post p k, events = pre ++ t :: post → Starts p k t.label →
    ∃ u ∈ pre, Claims p k u.label ∧ u.target.IsClaimed k
  exclusive : ∀ t ∈ events, t.source.Exclusive
  retained : ∀ t ∈ events, ∀ r ∈ t.source.rows, r.Claimed →
    ∃ r' ∈ t.target.rows, KeepsDispatch r r'

namespace SendHistory

variable {events : List Event} {x x' : OracleRoles} {l : OracleLabel}

theorem nil (hs : s.Valid) : SendHistory [] ⟨s, fun _ => .idle⟩ where
  valid := hs
  claims p a k h := by cases h
  alone p q a b k h := by cases h
  started t ht := by cases ht
  once := .nil
  claimed pre t post p k h := by
    cases pre <;> cases h
  exclusive t ht := by cases ht
  retained t ht := by cases ht

/-- A call is started once for a row: who starts it is in the role `claimed`. -/
theorem not_started (h : SendHistory events x) (hstep : OracleStep d x l x') {t : Event}
    (ht : t ∈ events) (hl : Starts p k l) : ¬ Starts q k t.label := by
  obtain ⟨a, hrole, -⟩ := hstep.starts hl
  exact (h.claims p a k hrole).2.2 t ht q

theorem step_claims (h : SendHistory events x) (hstep : OracleStep d x l x')
    (hp : x'.roles p = .claimed a k) :
    x'.store.IsClaimed k ∧
      (∃ t ∈ events ++ [⟨x.store, l, x'.store⟩], Claims p k t.label ∧ t.target.IsClaimed k) ∧
      ∀ t ∈ events ++ [⟨x.store, l, x'.store⟩], ∀ q, ¬ Starts q k t.label := by
  rcases hstep.claimed hp with ⟨hold, hnot⟩ | ⟨hclaims, hfree, htaken, -⟩
  · obtain ⟨hclaimed, ⟨t, ht, hevent⟩, hunstarted⟩ := h.claims p a k hold
    refine ⟨hstep.isClaimed hclaimed, ⟨t, List.mem_append_left _ ht, hevent⟩, fun u hu q hq => ?_⟩
    rcases List.mem_append.mp hu with hu | hu
    · exact hunstarted u hu q hq
    · -- another process that starts this call would be in the same role
      rw [List.mem_singleton] at hu
      subst hu
      obtain ⟨b, hrole, -⟩ := hstep.starts hq
      obtain rfl := h.alone q p b a k hrole hold
      exact hnot k hq
  · refine ⟨htaken, ⟨_, List.mem_append_right _ (List.mem_singleton_self _), hclaims, htaken⟩,
      fun u hu q hq => ?_⟩
    rcases List.mem_append.mp hu with hu | hu
    · obtain ⟨_, row', -, hrow', hclaimed, hretains⟩ := h.started u hu q k hq
      exact hfree ⟨row', hrow', hretains.claimed hclaimed⟩
    · rw [List.mem_singleton] at hu
      subst hu
      obtain ⟨_, rfl⟩ := hclaims
      obtain ⟨_, _, heq⟩ := hq
      cases heq

theorem step_alone (h : SendHistory events x) (hstep : OracleStep d x l x') {b : List Char}
    (hp : x'.roles p = .claimed a k) (hq : x'.roles q = .claimed b k) : p = q := by
  rcases hstep.claimed hp with ⟨hp', -⟩ | ⟨-, hfree, -, hothers⟩
  · rcases hstep.claimed hq with ⟨hq', -⟩ | ⟨-, hfree, -⟩
    · exact h.alone p q a b k hp' hq'
    · exact absurd (h.claims p a k hp').1 hfree
  · by_contra hne
    rw [hothers q fun heq => hne heq.symm] at hq
    exact hfree (h.claims q b k hq).1

theorem step_started (h : SendHistory events x) (hstep : OracleStep d x l x') {t : Event}
    (ht : t ∈ events ++ [⟨x.store, l, x'.store⟩]) (hl : Starts p k t.label) :
    ∃ row row', t.source.lookup k = some row ∧ x'.store.lookup k = some row' ∧ row.Claimed ∧
      Retains row row' := by
  rcases List.mem_append.mp ht with ht | ht
  · obtain ⟨row, _, hrow, hrow', hclaimed, hretains⟩ := h.started t ht p k hl
    obtain ⟨row'', hrow'', hretains', -⟩ := hstep.retains hrow'
    exact ⟨row, row'', hrow, hrow'', hclaimed, hretains.trans hretains'⟩
  · rw [List.mem_singleton] at ht
    subst ht
    obtain ⟨a, hrole, hsame, -⟩ := hstep.starts hl
    obtain ⟨row, hrow, hclaimed⟩ := (h.claims p a k hrole).1
    exact ⟨row, row, hrow, by rw [hsame]; exact hrow, hclaimed, .refl row⟩

theorem step (h : SendHistory events x) (hstep : OracleStep d x l x') :
    SendHistory (events ++ [⟨x.store, l, x'.store⟩]) x' where
  valid := hstep.valid h.valid
  claims p a k hp := h.step_claims hstep hp
  alone p q a b k hp hq := h.step_alone hstep hp hq
  started t ht p k hl := h.step_started hstep ht hl
  once := by
    rw [List.pairwise_append]
    refine ⟨h.once, List.pairwise_singleton _ _, fun t ht u hu p q k htStarts huStarts => ?_⟩
    rw [List.mem_singleton] at hu
    subst hu
    exact h.not_started hstep ht huStarts htStarts
  claimed pre t post p k heq hl := by
    rcases List.eq_nil_or_concat post with rfl | ⟨post, _, rfl⟩
    · obtain ⟨rfl, hlast⟩ := List.append_inj' heq rfl
      cases hlast
      obtain ⟨a, hrole, -⟩ := hstep.starts hl
      exact (h.claims p a k hrole).2.1
    · rw [List.concat_eq_append, ← List.cons_append, ← List.append_assoc] at heq
      obtain ⟨heq, -⟩ := List.append_inj' heq rfl
      exact h.claimed pre t post p k heq hl
  exclusive t ht := by
    rcases List.mem_append.mp ht with ht | ht
    · exact h.exclusive t ht
    · rw [List.mem_singleton] at ht
      subst ht
      exact h.valid.exclusive
  retained t ht r hr hclaimed := by
    rcases List.mem_append.mp ht with ht | ht
    · exact h.retained t ht r hr hclaimed
    · rw [List.mem_singleton] at ht
      subst ht
      exact hstep.keepsDispatch h.valid hr hclaimed

/-- Calls for one action are calls for one row. -/
theorem singleSend (h : SendHistory events x) : SingleSend events x.store where
  once := by
    refine h.once.imp_of_mem fun {t u} ht hu honce a => ?_
    rintro ⟨p, k, row, hstarts, hrow, rfl⟩ ⟨q, k', _, hstarts', hrow', haction⟩
    obtain ⟨_, r₁, hr, hr₁, hclaimed, hretains⟩ := h.started t ht p k hstarts
    obtain ⟨_, r₁', hr', hr₁', hclaimed', hretains'⟩ := h.started u hu q k' hstarts'
    rw [hr, Option.some.injEq] at hrow
    rw [hr', Option.some.injEq] at hrow'
    subst hrow hrow'
    have heq : r₁ = r₁' := by
      refine h.valid.claimed_eq (Table.lookup_eq_some_mem hr₁).1 (Table.lookup_eq_some_mem hr₁').1
        (hretains.claimed hclaimed) (hretains'.claimed hclaimed') ?_
      rw [hretains.action, hretains'.action, haction]
    have hkey : k = k' := by
      rw [← Store.lookup_key hr₁, ← Store.lookup_key hr₁', heq]
    subst hkey
    exact honce p q k hstarts hstarts'
  claimed pre t post p k heq hl := by
    have ht : t ∈ events := by
      rw [heq]
      exact List.mem_append_right _ List.mem_cons_self
    obtain ⟨row, -, hrow, -, hclaimed, -⟩ := h.started t ht p k hl
    exact ⟨⟨row, hrow, hclaimed⟩, h.claimed pre t post p k heq hl⟩
  exclusive := ⟨h.valid.exclusive, h.exclusive⟩
  retained := h.retained

end SendHistory

/-- Over every run of any number of processes, with crashes and lost connections at any point, an
escrow call is started at most once for each action and only after a claim of its row by the same
process; at most one dispatch of each signer is unresolved at any time; and a claimed row keeps what
it says about its dispatch. -/
theorem single_send {c c' : OracleConfig} {tr : List (Transition OracleConfig OracleLabel)}
    (hquiet : c.Quiet) (hvalid : c.store.Valid) (hrun : Run (Step (world d)) c tr c') :
    SingleSend (tr.map view) c'.store := by
  obtain ⟨_, hhistory, -⟩ := Run.role_history (I := SendHistory) (A := fun _ => True)
    truthful (fun q _ => serve_follows d q) (fun _ _ _ _ _ => trivial)
    hquiet.plays (SendHistory.nil hvalid) (fun _ _ _ _ h hstep => h.step hstep) hrun
  exact hhistory.singleSend

/-! ### A sample run -/

def sampleDeployment : Deployment where
  codec := plainCodec
  chainId := 31337
  escrowAddress := sampleAddress 'e'
  tokenAddress := sampleAddress '1'
  witnessIds := [sampleDigits 64 '1', sampleDigits 64 '2']
  maxAttempts := 1
  manualApprovalEnabled := false
  hashtext _ := 0

/-- The first stage of trade 1. -/
def sampleBinding : SettlementFundedBinding := Function.update stage1Binding .tradeId (lit "1")

def sampleTrade : OnChainTrade where
  tradeId := lit "1"
  buyer := sampleAddress '8'
  supplier := sampleAddress '9'
  totalAmountLocked := 1009000000
  logisticsAmount := 0
  platformFeesAmount := 14000000
  supplierFirstTranche := 595000000
  supplierSecondTranche := 400000000
  ricardianHash := sampleHash '1'
  status := .locked
  arrivalTimestamp := none

/-- Everything goes well: the trade is locked, and its transaction is final. -/
def sampleReply : (o : Op) → Except Thrown (Ans o)
  | .getTrade _ => .ok sampleTrade
  | .isTradePaused _ => .ok false
  | .containment _ => .ok none
  | .witnessFunding _ => .ok ()
  | .signerAddress => .ok (sampleAddress 'a')
  | .witnessDispatch _ _ => .ok ⟨8, sampleHash '5', 1⟩
  | .witnessProgression _ _ => .ok ()
  | .findConfirmationEvent hash tradeId name => .ok (some ⟨tradeId, name, hash, 8⟩)
  | .escrowCall _ _ => .ok (sampleHash '6')
  | .waitReceipt hash => .ok ⟨hash, 8⟩
  | .randomId => .ok (lit "ab")
  | .now => .ok 1000
  | .notify _ _ => .ok ()
  | _ => .error (plainError [])

def sampleLuck : Luck := ⟨.works, 1000, sampleReply⟩

def sampleRequest : TriggerRequest :=
  ⟨some sampleBinding, lit "1", lit "r1", .releaseStage1, false⟩

def emptyConfig : OracleConfig := ⟨⟨[], fun _ => none⟩, fun _ => none⟩

theorem emptyConfig_quiet : emptyConfig.Quiet := fun _ => rfl

theorem emptyConfig_valid : emptyConfig.store.Valid := List.Pairwise.nil

def Event.isSend (t : Event) : Bool :=
  match t.label with
  | .act _ (.escrowCall _ _) _ => true
  | _ => false

/-- In a run in which a call is started, it is started once. -/
theorem single_send_sample : ∃ tr c', Run (Step (world sampleDeployment)) emptyConfig tr c' ∧
    (tr.map view).any Event.isSend = true ∧ SingleSend (tr.map view) c'.store := by
  obtain ⟨tr, c', hrun, hsend⟩ := exists_run_of_simulate (W := world sampleDeployment)
    (c := emptyConfig) [.call 0 (.executeTrigger sampleRequest), .acts 0 sampleLuck 100, .done 0]
    (P := fun events _ => events.any Event.isSend = true) (by decide +kernel)
  exact ⟨tr, c', hrun, hsend, single_send emptyConfig_quiet emptyConfig_valid hrun⟩

end Cotsel.Oracle
