import Cotsel.Sdk.Finality
import Cotsel.Library.Text

/-!
# Classifying a transaction from provider observations

`classifyTransactionFinality` of `sdk/src/finality.ts`.  A list of observations passes through eight
early exits and a fold.  `Located` says when all of them are passed, in terms of the set of
observations and not of their order; `classify_of_located` then computes the assessment, and
`located_of_depth` says that no other input has a depth.
-/

namespace Cotsel.Sdk

/-! ### The data -/

inductive Number
  | nan
  | negInfinity
  | finite (value : ℚ)
  | infinity
deriving DecidableEq

/-- `a < b`, false when one of them is not a number. -/
def Number.lt : Number → Number → Bool
  | .finite a, .finite b => decide (a < b)
  | .negInfinity, .finite _ | .negInfinity, .infinity | .finite _, .infinity => true
  | _, _ => false

/-- `a === b`. -/
def Number.eq (a b : Number) : Bool := a ≠ .nan && a = b

/-- `Math.max(1, a)`. -/
def Number.maxOne : Number → Number
  | .nan => .nan
  | .negInfinity => .finite 1
  | .finite a => .finite (max 1 a)
  | .infinity => .infinity

/-- `isBlockNumber`: a safe integer that is not negative. -/
def isBlockNumber : Number → Bool
  | .finite a => a.den = 1 && 0 ≤ a && a ≤ 9007199254740991
  | _ => false

inductive FinalityTagObservation
  | number (blockNumber : Number)
  | null
  | unsupported
deriving DecidableEq

structure ObservedReceipt where
  blockNumber : Number
  blockHash : List Char
  status : Number
deriving DecidableEq

structure ObservedReplacement where
  transactionHash : List Char
  blockNumber : Number
  blockHash : List Char
deriving DecidableEq

structure TransactionFinalityObservation where
  providerId : List Char
  chainId : Number
  latestBlockNumber : Number
  safeBlockNumber : FinalityTagObservation
  finalizedBlockNumber : FinalityTagObservation
  receipt : Option ObservedReceipt
  canonicalBlockHash : Option (List Char)
  replacement : Option ObservedReplacement
deriving DecidableEq

inductive Submission
  | rejected
  | broadcast
  | ambiguous
deriving DecidableEq

structure TransactionFinalityInput where
  expectedChainId : Number
  submission : Submission
  observations : List TransactionFinalityObservation
  minimumProviders : Option Number

/-- `TransactionFinalityDepth`, in the order of `DEPTH_RANK`. -/
inductive TransactionFinalityDepth
  | none
  | included
  | safe
  | finalized
deriving DecidableEq

/-- `DEPTH_RANK`. -/
def TransactionFinalityDepth.rank : TransactionFinalityDepth → ℕ
  | .none => 0
  | .included => 1
  | .safe => 2
  | .finalized => 3

inductive TransactionFinalityReason
  | rejectedBeforeBroadcast
  | contradictsRejection
  | awaitingReceipt
  | ambiguousBroadcast
  | insufficientProviders
  | invalidObservation
  | wrongChain
  | providerDisagreement
  | receiptNotCanonical
  | replacementNotCanonical
  | included
  | finalityTagUnsupported
  | safeTagReached
  | finalizedTagReached
deriving DecidableEq

structure TransactionFinalityAssessment where
  state : TransactionFinalityState
  depth : TransactionFinalityDepth
  final : Bool
  reason : TransactionFinalityReason
  blockNumber : Option Number
  blockHash : Option (List Char)
  providerIds : List (List Char)
deriving DecidableEq

/-! ### The classifier -/

/-- `HASH_PATTERN`. -/
def isHash (s : List Char) : Bool :=
  s.length = 66 && s.take 2 = ['0', 'x'] && (s.drop 2).all Text.hexDigits.contains

def isTagObservation : FinalityTagObservation → Bool
  | .number n => isBlockNumber n
  | .null | .unsupported => true

def FinalityTagObservation.above (bound : Number) : FinalityTagObservation → Bool
  | .number n => bound.lt n
  | .null | .unsupported => false

def isValidObservation (o : TransactionFinalityObservation) : Bool :=
  o.providerId ≠ [] && isBlockNumber o.chainId && isBlockNumber o.latestBlockNumber &&
  isTagObservation o.safeBlockNumber && isTagObservation o.finalizedBlockNumber &&
  !o.safeBlockNumber.above o.latestBlockNumber &&
  !o.finalizedBlockNumber.above o.latestBlockNumber &&
  (match o.safeBlockNumber with
    | .number safe => !o.finalizedBlockNumber.above safe
    | .null | .unsupported => true) &&
  o.canonicalBlockHash.all isHash &&
  o.receipt.all (fun r => isBlockNumber r.blockNumber && !o.latestBlockNumber.lt r.blockNumber &&
    isHash r.blockHash && (r.status = .finite 0 || r.status = .finite 1)) &&
  o.replacement.all (fun r => o.receipt.isNone && isHash r.transactionHash && isHash r.blockHash &&
    isBlockNumber r.blockNumber && !o.latestBlockNumber.lt r.blockNumber)

def FinalityTagObservation.reaches (height : Number) : FinalityTagObservation → Bool
  | .number n => height.eq n || height.lt n
  | .null | .unsupported => false

def depthAt (o : TransactionFinalityObservation) (blockNumber : Number) :
    TransactionFinalityDepth :=
  if o.finalizedBlockNumber.reaches blockNumber then .finalized
  else if o.safeBlockNumber.reaches blockNumber then .safe
  else .included

/-- What `agreementKey` joins with colons.  The hashes in it have passed `HASH_PATTERN`, so that
equal texts have equal parts. -/
inductive AgreementKey
  | none
  | receipt (blockNumber : Number) (blockHash : List Char) (status : Number)
  | replacement (transactionHash : List Char) (blockNumber : Number) (blockHash : List Char)
deriving DecidableEq

def agreementKey (o : TransactionFinalityObservation) : AgreementKey :=
  match o.receipt, o.replacement with
  | some r, _ => .receipt r.blockNumber (Text.toLowerCase r.blockHash) r.status
  | none, some r => .replacement (Text.toLowerCase r.transactionHash) r.blockNumber
      (Text.toLowerCase r.blockHash)
  | none, none => .none

/-- `result` without the optional part. -/
def TransactionFinalityInput.result (input : TransactionFinalityInput)
    (state : TransactionFinalityState) (reason : TransactionFinalityReason) :
    TransactionFinalityAssessment :=
  ⟨state, .none, false, reason, none, none, input.observations.map (·.providerId)⟩

def TransactionFinalityInput.unobserved (input : TransactionFinalityInput) :
    TransactionFinalityAssessment :=
  if input.submission = .broadcast then input.result .submitted .awaitingReceipt
  else input.result .unknown .ambiguousBroadcast

/-- The number of distinct provider identities. -/
def TransactionFinalityInput.providers (input : TransactionFinalityInput) : ℕ :=
  (input.observations.map (·.providerId)).dedup.length

/-- The step of the fold that keeps the weakest depth. -/
def weaker (weakest next : TransactionFinalityDepth) : TransactionFinalityDepth :=
  if next.rank < weakest.rank then next else weakest

def successState : TransactionFinalityDepth → TransactionFinalityState
  | .finalized => .finalized
  | .safe => .safe
  | .included | .none => .confirmed

/-- The reason that goes with a depth. -/
def depthReason (input : TransactionFinalityInput) : TransactionFinalityDepth →
    TransactionFinalityReason
  | .finalized => .finalizedTagReached
  | .safe => .safeTagReached
  | .included | .none =>
    if input.observations.any (fun o => o.finalizedBlockNumber = .unsupported) then
      .finalityTagUnsupported
    else .included

/-- The last part of the classifier, once the observations agree. -/
def classifyAgreed (input : TransactionFinalityInput) (first : TransactionFinalityObservation)
    (rest : List TransactionFinalityObservation) : TransactionFinalityAssessment :=
  match (first.receipt.map fun r => (r.blockNumber, r.blockHash)) <|>
      first.replacement.map fun r => (r.blockNumber, r.blockHash) with
  | none => input.unobserved
  | some (height, hash) =>
    if input.observations.any (fun o =>
        o.canonicalBlockHash.map Text.toLowerCase ≠ some (Text.toLowerCase hash)) then
      input.result .unknown
        (if first.receipt.isSome then .receiptNotCanonical else .replacementNotCanonical)
    else
      let depth := (rest.map (depthAt · height)).foldl weaker (depthAt first height)
      let state := if first.replacement.isSome then .replaced
        else if first.receipt.any (fun r => r.status = .finite 0) then .reverted
        else successState depth
      ⟨state, depth, depth = .finalized, depthReason input depth, some height,
        some (Text.toLowerCase hash), input.observations.map (·.providerId)⟩

def classifyTransactionFinality (input : TransactionFinalityInput) :
    TransactionFinalityAssessment :=
  let minimumProviders := (input.minimumProviders.getD (.finite 1)).maxOne
  if input.observations.all isValidObservation = false then
    input.result .unknown .invalidObservation
  else if input.observations.any (fun o => !o.chainId.eq input.expectedChainId) then
    input.result .unknown .wrongChain
  else if input.submission = .rejected then
    if input.observations.any (fun o => o.receipt.isSome || o.replacement.isSome) then
      input.result .unknown .contradictsRejection
    else { input.result .failed .rejectedBeforeBroadcast with final := true }
  else if (Number.finite input.providers).lt minimumProviders ||
      (Number.finite input.observations.length).lt minimumProviders then
    input.result (if input.submission = .broadcast then .submitted else .unknown)
      .insufficientProviders
  else if (input.observations.map agreementKey).dedup.length ≠ 1 then
    input.result .unknown .providerDisagreement
  else
    match input.observations with
    | [] => input.result .unknown .providerDisagreement
    | first :: rest => classifyAgreed input first rest

/-! ### Fewer providers than the minimum -/

/-- At least one, and not fewer than the minimum asked for: what
`Math.max(1, minimumProviders ?? 1)` stands for. -/
def TransactionFinalityInput.Enough (input : TransactionFinalityInput) : Prop :=
  1 ≤ input.providers ∧
    (Number.finite input.providers).lt (input.minimumProviders.getD (.finite 1)) = false

theorem Number.lt_maxOne {a : ℚ} (ha : 1 ≤ a) (m : Number) :
    (Number.finite a).lt m.maxOne = (Number.finite a).lt m := by
  cases m with
  | finite => simp [Number.maxOne, Number.lt, not_lt.mpr ha]
  | negInfinity => simp [Number.maxOne, Number.lt, ha]
  | nan | infinity => rfl

theorem Number.lt_of_le {a b : ℚ} (hab : a ≤ b) {m : Number}
    (h : (Number.finite a).lt m = false) : (Number.finite b).lt m = false := by
  cases m with
  | finite =>
    simp only [Number.lt, decide_eq_false_iff_not, not_lt] at h ⊢
    exact h.trans hab
  | nan | negInfinity => rfl
  | infinity => cases h

variable {input : TransactionFinalityInput}

theorem one_le_providers (hne : input.observations ≠ []) : 1 ≤ input.providers := by
  unfold TransactionFinalityInput.providers
  rw [Nat.one_le_iff_ne_zero, ne_eq, List.length_eq_zero_iff, List.dedup_eq_nil,
    List.map_eq_nil_iff]
  exact hne

theorem providers_le_length : input.providers ≤ input.observations.length := by
  unfold TransactionFinalityInput.providers
  have h := (List.dedup_sublist (input.observations.map (·.providerId))).length_le
  rwa [List.length_map] at h

theorem enough_iff (hne : input.observations ≠ []) :
    input.Enough ↔ ¬ ((Number.finite input.providers).lt
        (input.minimumProviders.getD (.finite 1)).maxOne ||
      (Number.finite input.observations.length).lt
        (input.minimumProviders.getD (.finite 1)).maxOne) = true := by
  have hone : (1 : ℚ) ≤ input.providers := by exact_mod_cast one_le_providers hne
  have hle : (input.providers : ℚ) ≤ input.observations.length := by
    exact_mod_cast providers_le_length
  rw [Number.lt_maxOne hone, Number.lt_maxOne (hone.trans hle)]
  simp only [Bool.or_eq_true, not_or, Bool.not_eq_true, TransactionFinalityInput.Enough]
  constructor
  · rintro ⟨-, h⟩
    exact ⟨h, Number.lt_of_le hle h⟩
  · rintro ⟨h, -⟩
    exact ⟨one_le_providers hne, h⟩

/-! ### The weakest depth -/

/-- The weakest of the depths, none of which is `none`. -/
def weakest (depths : List TransactionFinalityDepth) : TransactionFinalityDepth :=
  if .included ∈ depths then .included
  else if .safe ∈ depths then .safe
  else .finalized

theorem weakest_weaker {d e : TransactionFinalityDepth} (hd : d ≠ .none) (he : e ≠ .none)
    (ds : List TransactionFinalityDepth) : weakest (weaker d e :: ds) = weakest (d :: e :: ds) := by
  cases d <;> cases e <;>
    simp_all [weakest, weaker, TransactionFinalityDepth.rank]

theorem foldl_weaker (ds : List TransactionFinalityDepth) (hds : ∀ e ∈ ds, e ≠ .none)
    {d : TransactionFinalityDepth} (hd : d ≠ .none) : ds.foldl weaker d = weakest (d :: ds) := by
  induction ds generalizing d with
  | nil => cases d <;> simp_all [weakest]
  | cons e es ih =>
    have he : e ≠ .none := hds e List.mem_cons_self
    have hne : weaker d e ≠ .none := by
      unfold weaker
      split_ifs
      · exact he
      · exact hd
    rw [List.foldl_cons, ih (fun x hx => hds x (List.mem_cons_of_mem e hx)) hne,
      weakest_weaker hd he]

theorem depthAt_ne_none (o : TransactionFinalityObservation) (height : Number) :
    depthAt o height ≠ .none := by
  unfold depthAt
  split_ifs <;> decide

variable {height : Number} {o : TransactionFinalityObservation}

theorem depthAt_eq_finalized :
    depthAt o height = .finalized ↔ o.finalizedBlockNumber.reaches height = true := by
  unfold depthAt
  split_ifs <;> simp_all

/-- Further depths never make the weakest one stronger. -/
theorem rank_weakest_le {ds es : List TransactionFinalityDepth} (h : ds ⊆ es) :
    (weakest es).rank ≤ (weakest ds).rank := by
  unfold weakest
  split_ifs with h₁ h₂ h₃ h₄ h₅ <;> first
    | decide
    | exact absurd (h ‹_›) ‹_›

theorem weakest_eq_finalized {ds : List TransactionFinalityDepth} (hds : ∀ e ∈ ds, e ≠ .none) :
    weakest ds = .finalized ↔ ∀ e ∈ ds, e = .finalized := by
  unfold weakest
  split_ifs with h₁ h₂
  · exact iff_of_false (by decide) fun h => absurd (h _ h₁) (by decide)
  · exact iff_of_false (by decide) fun h => absurd (h _ h₂) (by decide)
  · refine iff_of_true rfl ?_
    intro e he
    cases e with
    | none => exact absurd rfl (hds _ he)
    | included => exact absurd he h₁
    | safe => exact absurd he h₂
    | finalized => rfl

/-! ### What the observations report together -/

/-- The height and the hash, in lower case, that a key reports. -/
def AgreementKey.anchor : AgreementKey → Option (Number × List Char)
  | .none => .none
  | .receipt blockNumber blockHash _ => some (blockNumber, blockHash)
  | .replacement _ blockNumber blockHash => some (blockNumber, blockHash)

/-- The state of a transaction that every provider reports by this key. -/
def AgreementKey.state : AgreementKey → TransactionFinalityDepth → TransactionFinalityState
  | .replacement _ _ _, _ => .replaced
  | .receipt _ _ status, depth => if status = .finite 0 then .reverted else successState depth
  | .none, depth => successState depth

def AgreementKey.notCanonical : AgreementKey → TransactionFinalityReason
  | .receipt _ _ _ => .receiptNotCanonical
  | .none | .replacement _ _ _ => .replacementNotCanonical

/-- The assessment of observations that agree on a key. -/
def verdict (input : TransactionFinalityInput) (key : AgreementKey) :
    TransactionFinalityAssessment :=
  match key.anchor with
  | none => input.unobserved
  | some (height, hash) =>
    if input.observations.any (fun o => o.canonicalBlockHash.map Text.toLowerCase ≠ some hash) then
      input.result .unknown key.notCanonical
    else
      let depth := weakest (input.observations.map (depthAt · height))
      ⟨key.state depth, depth, depth = .finalized, depthReason input depth, some height, some hash,
        input.observations.map (·.providerId)⟩

theorem receipt_eq_none_of_replacement
    (hvalid : isValidObservation o = true) {r : ObservedReplacement} (hr : o.replacement = some r) :
    o.receipt = none := by
  simp only [isValidObservation, Bool.and_eq_true, hr, Option.all_some] at hvalid
  exact Option.isNone_iff_eq_none.mp hvalid.2.1.1.1.1

/-- What the first observation decides is decided by the key they all share. -/
theorem classifyAgreed_eq {first : TransactionFinalityObservation}
    {rest : List TransactionFinalityObservation} (hvalid : isValidObservation first = true)
    (hobs : input.observations = first :: rest) :
    classifyAgreed input first rest = verdict input (agreementKey first) := by
  have hfold : ∀ height, (rest.map (depthAt · height)).foldl weaker (depthAt first height) =
      weakest (input.observations.map (depthAt · height)) := by
    intro height
    rw [hobs, List.map_cons]
    apply foldl_weaker _ _ (depthAt_ne_none first height)
    intro e he
    obtain ⟨o, -, rfl⟩ := List.mem_map.mp he
    exact depthAt_ne_none o height
  unfold classifyAgreed verdict agreementKey
  simp only [hfold]
  cases hreceipt : first.receipt with
  | some =>
    have hnone : first.replacement = none := by
      cases hr : first.replacement with
      | none => rfl
      | some => simp [receipt_eq_none_of_replacement hvalid hr] at hreceipt
    simp only [hnone, AgreementKey.anchor, AgreementKey.state, AgreementKey.notCanonical,
      Option.map_some, Option.isSome_some, Option.isSome_none, Option.any_some]
    simp
  | none =>
    cases hr : first.replacement with
    | none => simp [AgreementKey.anchor]
    | some => simp [AgreementKey.anchor, AgreementKey.state, AgreementKey.notCanonical]

theorem keys_length_eq_one (hone : (input.observations.map agreementKey).dedup.length = 1) :
    input.observations ≠ [] ∧ ∃ key, ∀ o ∈ input.observations, agreementKey o = key := by
  obtain ⟨key, hkey⟩ := List.length_eq_one_iff.mp hone
  refine ⟨?_, key, ?_⟩
  · rintro hnil
    rw [hnil] at hone
    cases hone
  · intro o ho
    have hmem : agreementKey o ∈ (input.observations.map agreementKey).dedup :=
      List.mem_dedup.mpr (List.mem_map_of_mem ho)
    rw [hkey] at hmem
    exact List.mem_singleton.mp hmem

variable {key : AgreementKey}

theorem keys_length_of_agreed (hne : input.observations ≠ [])
    (hkey : ∀ o ∈ input.observations, agreementKey o = key) :
    (input.observations.map agreementKey).dedup.length = 1 := by
  have hrepeat : input.observations.map agreementKey =
      List.replicate input.observations.length key :=
    List.eq_replicate_iff.mpr ⟨List.length_map .., fun k hk => by
      obtain ⟨o, ho, rfl⟩ := List.mem_map.mp hk
      exact hkey o ho⟩
  have hpos : input.observations.length ≠ 0 := by simpa using hne
  rw [hrepeat, List.replicate_dedup hpos]
  rfl

/-! ### Passing every exit -/

/-- Every observation is valid and on the expected chain. -/
def TransactionFinalityInput.Sane (input : TransactionFinalityInput) : Prop :=
  ∀ o ∈ input.observations, isValidObservation o = true ∧ o.chainId.eq input.expectedChainId = true

/-- Enough providers report one receipt or one replacement, in a block that is canonical for each
of them. -/
structure Located (input : TransactionFinalityInput) (key : AgreementKey) (height : Number)
    (hash : List Char) : Prop where
  submitted : input.submission ≠ .rejected
  sane : input.Sane
  enough : input.Enough
  agreed : ∀ o ∈ input.observations, agreementKey o = key
  anchor : key.anchor = some (height, hash)
  canonical : ∀ o ∈ input.observations, o.canonicalBlockHash.map Text.toLowerCase = some hash

theorem TransactionFinalityInput.Enough.ne_nil (h : input.Enough) : input.observations ≠ [] := by
  intro hnil
  have hone := h.1.trans providers_le_length
  rw [hnil] at hone
  cases hone

theorem sane_iff : input.Sane ↔ ¬ input.observations.all isValidObservation = false ∧
    ¬ (input.observations.any fun o => !o.chainId.eq input.expectedChainId) = true := by
  simp only [TransactionFinalityInput.Sane, Bool.not_eq_false, List.all_eq_true, List.any_eq_true,
    Bool.not_eq_true', not_exists, not_and, Bool.not_eq_false]
  exact ⟨fun h => ⟨fun o ho => (h o ho).1, fun o ho => (h o ho).2⟩,
    fun h o ho => ⟨h.1 o ho, h.2 o ho⟩⟩

/-- The last exit of the classifier, where any of the agreeing observations may come first. -/
theorem classify_agreed (input : TransactionFinalityInput)
    (hne : input.observations ≠ [])
    (hvalid : ∀ o ∈ input.observations, isValidObservation o = true)
    (hkey : ∀ o ∈ input.observations, agreementKey o = key) :
    (match input.observations with
      | [] => input.result .unknown .providerDisagreement
      | first :: rest => classifyAgreed input first rest) = verdict input key := by
  cases hobs : input.observations with
  | nil => exact absurd hobs hne
  | cons first rest =>
    have hfirst : first ∈ input.observations := hobs ▸ List.mem_cons_self
    rw [← hkey first hfirst]
    exact classifyAgreed_eq (hvalid first hfirst) hobs

theorem classify_of_agreed (hsub : input.submission ≠ .rejected)
    (hsane : input.Sane) (henough : input.Enough)
    (hkey : ∀ o ∈ input.observations, agreementKey o = key) :
    classifyTransactionFinality input = verdict input key := by
  have hne := henough.ne_nil
  obtain ⟨hvalid, hchain⟩ := sane_iff.mp hsane
  unfold classifyTransactionFinality
  dsimp only
  rw [if_neg hvalid, if_neg hchain, if_neg hsub, if_neg ((enough_iff hne).mp henough),
    if_neg (not_not.mpr (keys_length_of_agreed hne hkey))]
  exact classify_agreed input hne (fun o ho => (hsane o ho).1) hkey

variable {hash : List Char}

theorem classify_of_located
    (h : Located input key height hash) :
    classifyTransactionFinality input =
      let depth := weakest (input.observations.map (depthAt · height))
      ⟨key.state depth, depth, depth = .finalized, depthReason input depth, some height, some hash,
        input.observations.map (·.providerId)⟩ := by
  rw [classify_of_agreed h.submitted h.sane h.enough h.agreed]
  unfold verdict
  rw [h.anchor]
  dsimp only
  rw [if_neg]
  simpa using h.canonical

theorem classify_of_rejected (hsub : input.submission = .rejected) (hsane : input.Sane)
    (hsilent : ∀ o ∈ input.observations, o.receipt = none ∧ o.replacement = none) :
    classifyTransactionFinality input =
      { input.result .failed .rejectedBeforeBroadcast with final := true } := by
  obtain ⟨hvalid, hchain⟩ := sane_iff.mp hsane
  unfold classifyTransactionFinality
  dsimp only
  rw [if_neg hvalid, if_neg hchain, if_pos hsub, if_neg]
  simpa using hsilent

/-- The three kinds of answer: a rejected submission that nobody has seen, a located transaction,
and everything else, which is neither final nor at any depth. -/
theorem classify_cases (input : TransactionFinalityInput) :
    (input.submission = .rejected ∧ input.Sane ∧
      ∀ o ∈ input.observations, o.receipt = none ∧ o.replacement = none) ∨
    (∃ key height hash, Located input key height hash) ∨
    ∃ state reason, classifyTransactionFinality input = input.result state reason ∧
      state ≠ .finalized := by
  by_cases hsane : input.Sane
  swap
  · refine Or.inr (Or.inr ?_)
    unfold classifyTransactionFinality
    dsimp only
    split_ifs with hvalid hchain
    · exact ⟨_, _, rfl, by decide⟩
    · exact ⟨_, _, rfl, by decide⟩
    all_goals exact absurd (sane_iff.mpr ⟨hvalid, hchain⟩) hsane
  by_cases hsub : input.submission = .rejected
  · by_cases hsilent : ∀ o ∈ input.observations, o.receipt = none ∧ o.replacement = none
    · exact Or.inl ⟨hsub, hsane, hsilent⟩
    · refine Or.inr (Or.inr ⟨.unknown, .contradictsRejection, ?_, by decide⟩)
      obtain ⟨hvalid, hchain⟩ := sane_iff.mp hsane
      unfold classifyTransactionFinality
      dsimp only
      rw [if_neg hvalid, if_neg hchain, if_pos hsub, if_pos]
      simpa [Option.isSome_iff_ne_none, imp_iff_not_or] using hsilent
  by_cases hagreed : input.Enough ∧ ∃ key, ∀ o ∈ input.observations, agreementKey o = key
  · obtain ⟨henough, key, hkey⟩ := hagreed
    rw [classify_of_agreed hsub hsane henough hkey]
    unfold verdict
    cases hanchor : key.anchor with
    | none =>
      refine Or.inr (Or.inr ?_)
      dsimp only
      unfold TransactionFinalityInput.unobserved
      split_ifs
      · exact ⟨_, _, rfl, by decide⟩
      · exact ⟨_, _, rfl, by decide⟩
    | some anchor =>
      obtain ⟨height, hash⟩ := anchor
      dsimp only
      split_ifs with hcanonical
      · exact Or.inr (Or.inr ⟨_, _, rfl, by decide⟩)
      · exact Or.inr (Or.inl ⟨key, height, hash, hsub, hsane, henough, hkey, hanchor,
          by simpa using hcanonical⟩)
  · refine Or.inr (Or.inr ?_)
    obtain ⟨hvalid, hchain⟩ := sane_iff.mp hsane
    unfold classifyTransactionFinality
    dsimp only
    rw [if_neg hvalid, if_neg hchain, if_neg hsub]
    split_ifs with hfew hbroadcast hkeys
    · exact ⟨_, _, rfl, by decide⟩
    · exact ⟨_, _, rfl, by decide⟩
    · exact ⟨_, _, rfl, by decide⟩
    · obtain ⟨hne, hkey⟩ := keys_length_eq_one (not_not.mp hkeys)
      exact absurd ⟨(enough_iff hne).mpr hfew, hkey⟩ hagreed

/-! ### The classifier is sound, order-independent and weakest-wins -/

/-- What a final answer other than a failure needs: enough providers, each valid and on the
expected chain, that report one receipt or one replacement, whose canonical hash at that height is
its block hash up to letter case, and whose finalized tag is at or above that height. -/
structure Settled (input : TransactionFinalityInput) : Prop where
  submitted : input.submission ≠ .rejected
  enough : input.Enough
  sane : input.Sane
  reported : ∃ key height hash, AgreementKey.anchor key = some (height, hash) ∧
    ∀ o ∈ input.observations, agreementKey o = key ∧
      o.canonicalBlockHash.map Text.toLowerCase = some hash ∧
      o.finalizedBlockNumber.reaches height = true

theorem weakest_map_eq_finalized :
    weakest (input.observations.map (depthAt · height)) = .finalized ↔
      ∀ o ∈ input.observations, o.finalizedBlockNumber.reaches height = true := by
  rw [weakest_eq_finalized]
  · simp only [List.mem_map, forall_exists_index, and_imp, forall_apply_eq_imp_iff₂,
      depthAt_eq_finalized]
  · intro e he
    obtain ⟨o, -, rfl⟩ := List.mem_map.mp he
    exact depthAt_ne_none o height

theorem AgreementKey.state_ne_failed (key : AgreementKey) (depth : TransactionFinalityDepth) :
    key.state depth ≠ .failed := by
  cases key with
  | none => cases depth <;> decide
  | replacement => exact TransactionFinalityState.noConfusion
  | receipt =>
    dsimp only [AgreementKey.state]
    split_ifs
    · decide
    · cases depth <;> decide

theorem final_iff_settled : (classifyTransactionFinality input).final = true ∧
    (classifyTransactionFinality input).state ≠ .failed ↔ Settled input := by
  constructor
  · rintro ⟨hfinal, hstate⟩
    rcases classify_cases input with ⟨hsub, hsane, hsilent⟩ | ⟨key, height, hash, h⟩ |
      ⟨state, reason, h, -⟩
    · rw [classify_of_rejected hsub hsane hsilent] at hstate
      exact absurd rfl hstate
    · rw [classify_of_located h] at hfinal
      have hreach := weakest_map_eq_finalized.mp (of_decide_eq_true hfinal)
      exact ⟨h.submitted, h.enough, h.sane, key, height, hash, h.anchor,
        fun o ho => ⟨h.agreed o ho, h.canonical o ho, hreach o ho⟩⟩
    · rw [h] at hfinal
      cases hfinal
  · rintro ⟨hsub, henough, hsane, key, height, hash, hanchor, hall⟩
    have h : Located input key height hash := ⟨hsub, hsane, henough, fun o ho => (hall o ho).1,
      hanchor, fun o ho => (hall o ho).2.1⟩
    have hdepth := weakest_map_eq_finalized.mpr fun o ho => (hall o ho).2.2
    rw [classify_of_located h]
    exact ⟨decide_eq_true hdepth, key.state_ne_failed _⟩

/-- With enough providers already, what is located with further observations was located
without them. -/
theorem Located.of_more {observations : List TransactionFinalityObservation}
    (h : Located { input with observations } key height hash) (henough : input.Enough)
    (hsub : input.observations ⊆ observations) : Located input key height hash :=
  ⟨h.submitted, fun o ho => h.sane o (hsub ho), henough, fun o ho => h.agreed o (hsub ho), h.anchor,
    fun o ho => h.canonical o (hsub ho)⟩

/-- Further observations turn no answer into a final one and raise no depth. -/
theorem classify_of_more {observations : List TransactionFinalityObservation}
    (henough : input.Enough) (hsub : input.observations ⊆ observations) :
    ((classifyTransactionFinality { input with observations }).final = true →
      (classifyTransactionFinality input).final = true) ∧
    (classifyTransactionFinality { input with observations }).depth.rank ≤
      (classifyTransactionFinality input).depth.rank := by
  rcases classify_cases { input with observations } with ⟨hrejected, hsane, hsilent⟩ |
    ⟨key, height, hash, h⟩ | ⟨state, reason, h, -⟩
  · have hrejected' : input.submission = .rejected := hrejected
    have hsane' : input.Sane := fun o ho => hsane o (hsub ho)
    rw [classify_of_rejected hrejected hsane hsilent,
      classify_of_rejected hrejected' hsane' fun o ho => hsilent o (hsub ho)]
    exact ⟨fun _ => rfl, Nat.le_refl _⟩
  · have hless := h.of_more henough hsub
    have hdepths := List.map_subset (depthAt · height) hsub
    rw [classify_of_located h, classify_of_located hless]
    refine ⟨?_, rank_weakest_le hdepths⟩
    intro hfinal
    rw [decide_eq_true_iff, weakest_map_eq_finalized] at hfinal ⊢
    exact fun o ho => hfinal o (hsub ho)
  · rw [h]
    exact ⟨fun hfinal => (by cases hfinal), Nat.zero_le _⟩

section Order

variable {observations : List TransactionFinalityObservation}
  (hperm : input.observations.Perm observations)
include hperm

theorem verdict_perm (key : AgreementKey) : verdict { input with observations } key =
    { verdict input key with providerIds := observations.map (·.providerId) } := by
  have hweakest : ∀ height, weakest (observations.map (depthAt · height)) =
      weakest (input.observations.map (depthAt · height)) := by
    intro height
    unfold weakest
    simp only [(hperm.map (depthAt · height)).mem_iff]
  unfold verdict
  cases key.anchor with
  | none =>
    dsimp only [TransactionFinalityInput.unobserved]
    split_ifs <;> rfl
  | some =>
    simp only [hperm.symm.any_eq, hweakest, depthReason]
    split_ifs <;> rfl

/-- The order of the observations shows in the order of `providerIds` only. -/
theorem classify_perm : classifyTransactionFinality { input with observations } =
    { classifyTransactionFinality input with
      providerIds := observations.map (·.providerId) } := by
  have hproviders : TransactionFinalityInput.providers { input with observations } =
      input.providers :=
    (hperm.map TransactionFinalityObservation.providerId).symm.dedup.length_eq
  have hkeys : (observations.map agreementKey).dedup.length =
      (input.observations.map agreementKey).dedup.length :=
    (hperm.map agreementKey).symm.dedup.length_eq
  unfold classifyTransactionFinality
  simp only [hproviders, hkeys, hperm.symm.all_eq, hperm.symm.any_eq, ← hperm.length_eq]
  split_ifs with hvalid hchain hsub hseen hfew hbroadcast hone
  all_goals try rfl
  obtain ⟨hne, key, hkey⟩ := keys_length_eq_one (not_not.mp hone)
  have hvalid' : ∀ o ∈ input.observations, isValidObservation o = true := by simpa using hvalid
  have hmem : ∀ o, o ∈ observations → o ∈ input.observations := fun o => hperm.mem_iff.mpr
  have hfirst := classify_agreed { input with observations }
    (fun hnil => hne (List.perm_nil.mp (hnil ▸ hperm))) (fun o ho => hvalid' o (hmem o ho))
    fun o ho => hkey o (hmem o ho)
  rw [classify_agreed input hne hvalid' hkey, ← verdict_perm hperm key]
  exact hfirst

end Order

theorem AgreementKey.state_eq_finalized {depth : TransactionFinalityDepth}
    (hanchor : key.anchor = some (height, hash))
    (h : key.state depth = .finalized) : ∃ status, key = .receipt height hash status ∧
      status ≠ .finite 0 := by
  cases key with
  | none => cases hanchor
  | replacement => cases h
  | receipt _ _ status =>
    cases hanchor
    refine ⟨status, rfl, ?_⟩
    rintro rfl
    cases h

theorem receipt_of_agreementKey {status : Number}
    (h : agreementKey o = .receipt height hash status) :
    ∃ r, o.receipt = some r ∧ r.status = status := by
  unfold agreementKey at h
  split at h
  · cases h
    exact ⟨_, ‹_›, rfl⟩
  · cases h
  · cases h

/-- `finalized` is a receipt of status 1 at every provider. -/
theorem status_of_finalized (h : (classifyTransactionFinality input).state = .finalized) :
    input.observations ≠ [] ∧ ∀ o ∈ input.observations, ∃ r, o.receipt = some r ∧
      r.status = .finite 1 := by
  rcases classify_cases input with ⟨hsub, hsane, hsilent⟩ | ⟨key, height, hash, hloc⟩ |
    ⟨state, reason, heq, hstate⟩
  · rw [classify_of_rejected hsub hsane hsilent] at h
    cases h
  · refine ⟨hloc.enough.ne_nil, ?_⟩
    intro o ho
    rw [classify_of_located hloc] at h
    obtain ⟨status, hkey, hstatus⟩ := AgreementKey.state_eq_finalized hloc.anchor h
    have hreceipt := (hloc.agreed o ho).trans hkey
    obtain ⟨r, hr, hrstatus⟩ := receipt_of_agreementKey hreceipt
    have hvalid := (hloc.sane o ho).1
    simp only [isValidObservation, hr, Option.all_some, Bool.and_eq_true, Bool.or_eq_true,
      decide_eq_true_eq] at hvalid
    refine ⟨r, hr, hvalid.1.2.2.resolve_left ?_⟩
    rw [hrstatus]
    exact hstatus
  · rw [heq] at h
    exact absurd h hstate

/-- For every input: the order of the observations shows in `providerIds` only; an answer is final
and not a failure exactly when the transaction is settled; with enough distinct providers a further
observation, in any place, makes no answer final and raises no depth; and `finalized` is a receipt
of status 1. -/
theorem classifyTransactionFinality_sound (input : TransactionFinalityInput) :
    (∀ observations, input.observations.Perm observations →
      classifyTransactionFinality { input with observations } =
        { classifyTransactionFinality input with
          providerIds := observations.map (·.providerId) }) ∧
    ((classifyTransactionFinality input).final = true ∧
      (classifyTransactionFinality input).state ≠ .failed ↔ Settled input) ∧
    (∀ further observations, (further :: input.observations).Perm observations → input.Enough →
      ((classifyTransactionFinality input).final = false →
        (classifyTransactionFinality { input with observations }).final = false) ∧
      (classifyTransactionFinality { input with observations }).depth.rank ≤
        (classifyTransactionFinality input).depth.rank) ∧
    ((classifyTransactionFinality input).state = .finalized →
      input.observations ≠ [] ∧ ∀ o ∈ input.observations, ∃ r, o.receipt = some r ∧
        r.status = .finite 1) := by
  refine ⟨fun observations hperm => classify_perm hperm, final_iff_settled, ?_, status_of_finalized⟩
  intro further observations hperm henough
  have hsub : input.observations ⊆ observations :=
    fun o ho => hperm.subset (List.mem_cons_of_mem further ho)
  obtain ⟨hfinal, hdepth⟩ := classify_of_more henough hsub
  refine ⟨?_, hdepth⟩
  intro hless
  rw [Bool.eq_false_iff] at hless ⊢
  exact fun h => hless (hfinal h)

/-! ### A minimum below one -/

/-- An observation of a receipt in block 5, finalized there. -/
def sampleObservation : TransactionFinalityObservation where
  providerId := ['a']
  chainId := .finite 1
  latestBlockNumber := .finite 9
  safeBlockNumber := .number (.finite 8)
  finalizedBlockNumber := .number (.finite 7)
  receipt := some ⟨.finite 5, '0' :: 'x' :: List.replicate 64 'b', .finite 1⟩
  canonicalBlockHash := some ('0' :: 'x' :: List.replicate 64 'B')
  replacement := none

/-- An accepted send on which no provider has reported. -/
def sampleInput : TransactionFinalityInput := ⟨.finite 1, .broadcast, [], some (.finite 0)⟩

/-- One observation settles the sample send. -/
theorem sampleInput_settled :
    Settled { sampleInput with observations := [sampleObservation] } :=
  (classifyTransactionFinality_sound _).2.1.mp (by decide)

/-- A minimum of no provider is raised to one by the classifier: with no observation the minimum
is met and the answer is not final, and the first observation makes it final and raises the
depth. -/
theorem minimum_below_one :
    (Number.finite sampleInput.providers).lt (sampleInput.minimumProviders.getD (.finite 1)) =
      false ∧
    (classifyTransactionFinality sampleInput).final = false ∧
    (classifyTransactionFinality sampleInput).depth = .none ∧
    (classifyTransactionFinality
      { sampleInput with observations := [sampleObservation] }).final = true ∧
    (classifyTransactionFinality
      { sampleInput with observations := [sampleObservation] }).depth = .finalized := by
  decide

end Cotsel.Sdk
