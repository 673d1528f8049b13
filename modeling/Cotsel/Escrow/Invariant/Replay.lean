import Cotsel.Escrow.Invariant.Solvency

/-!
# Replay safety of signed authorizations

Six calls act for a user who signed a typed message.  All of them take the user's next nonce, so
the nonce counts the user's relayed actions (`counts_nonce`), and two relayed actions of one user
never carry the same nonce.  A message carries its nonce, its deadline and what is to be done;
hence it takes effect once at most, in time, and does what it says.

Cryptography is idealised for the messages that occur (`IdealCryptography`): hashing them is
injective, and `ECDSA.recover` returns an account only for a digest that the account signed.
-/

namespace Cotsel.Escrow

open Guard Runs

variable {T : Type} {P : Platform T} {env : Env} {call : Call} {s s' : State T}

/-! ### What a relayed call presents -/

/-- The user a relayed call acts for, the message that user must have signed, and the signature. -/
structure Presented where
  user : Address
  action : SponsoredAction
  message : Preimage
  nonce : ℕ
  deadline : ℕ
  signature : Signature

/-- The party of the trade whose signature a user action needs. -/
def SponsoredAction.signer (action : SponsoredAction) (trade : Trade) : Address :=
  match action with
  | .finalizeAfterDisputeWindow => trade.supplierAddress
  | _ => trade.buyerAddress

/-- What a user action on trade `tradeId` presents. -/
def UserAuthorization.presented (auth : UserAuthorization) (action : SponsoredAction)
    (tradeId : ℕ) (trade : Trade) : Presented where
  user := action.signer trade
  action := action
  message := .userActionAuthorization (action.signer trade) action tradeId auth.nonce auth.deadline
  nonce := auth.nonce
  deadline := auth.deadline
  signature := auth.signature

/-- What the call presents in state `s`, if it is a relayed one. -/
def Call.presented (call : Call) (s : State T) : Option Presented :=
  match call with
  | .createTradeWithAuthorization args => some
    { user := args.buyer
      action := .createTrade
      message := args.message
      nonce := args.authorizationNonce
      deadline := args.authorizationDeadline
      signature := args.authorizationSignature }
  | .openDisputeWithAuthorization tradeId auth =>
    some (auth.presented .openDispute tradeId (s.book.trades tradeId))
  | .finalizeAfterDisputeWindowWithAuthorization tradeId auth =>
    some (auth.presented .finalizeAfterDisputeWindow tradeId (s.book.trades tradeId))
  | .finalizeAfterInspectionAcceptanceWithAuthorization tradeId auth =>
    some (auth.presented .finalizeAfterInspectionAcceptance tradeId (s.book.trades tradeId))
  | .cancelLockedTradeAfterTimeoutWithAuthorization tradeId auth =>
    some (auth.presented .cancelLockedTimeout tradeId (s.book.trades tradeId))
  | .refundInTransitAfterTimeoutWithAuthorization tradeId auth =>
    some (auth.presented .refundInTransitTimeout tradeId (s.book.trades tradeId))
  | _ => none

/-- The user, nonce and deadline a message names. -/
def Preimage.terms : Preimage → Option (Address × ℕ × ℕ)
  | .createTradeAuthorization buyer _ _ _ _ _ _ _ nonce deadline => some (buyer, nonce, deadline)
  | .userActionAuthorization user _ _ nonce deadline => some (user, nonce, deadline)
  | _ => none

/-- The user, nonce and deadline of a relayed call are those its message names. -/
theorem Call.presented_terms {p : Presented} (hp : call.presented s = some p) :
    p.message.terms = some (p.user, p.nonce, p.deadline) := by
  cases call <;> cases hp <;> rfl

/-- What a transition of the chain presents, if it is a relayed call. -/
def presentedBy (t : ChainStep T) : Option Presented :=
  match t.label with
  | .call _ call => call.presented t.source.state
  | .external _ => none

/-- The transition is a relayed action of `user`. -/
def ActsFor (user : Address) (t : ChainStep T) : Prop :=
  ∃ p, presentedBy t = some p ∧ p.user = user

instance (user : Address) : DecidablePred (ActsFor (T := T) user) := fun t =>
  decidable_of_iff ((presentedBy t).any fun p => decide (p.user = user))
    (by rw [Option.any_eq_true]; simp only [decide_eq_true_eq]; rfl)

/-! ### What a message says -/

/-- The milestone a user action brings about. -/
def SponsoredAction.milestone : SponsoredAction → Option Milestone
  | .createTrade => none
  | .openDispute => some .dispute
  | .cancelLockedTimeout => some (.closing .lockTimeout)
  | .refundInTransitTimeout => some (.closing .transitTimeout)
  | .finalizeAfterDisputeWindow => some (.closing .finalTranche)
  | .finalizeAfterInspectionAcceptance => some (.closing .finalTranche)

/-- Going from `s` to `s'` at time `now` is what the message asks for, and no more: a new trade
between the named parties with the named amounts, paid for by the buyer, or the named step of the
named trade, with its payment. -/
def Enacts (P : Platform T) (now : ℕ) (message : Preimage) (s s' : State T) : Prop :=
  match message with
  | .createTradeAuthorization buyer supplier totalAmount logisticsAmount platformFeesAmount
      supplierFirstTranche supplierSecondTranche ricardianHash _ _ =>
    s'.book = s.book.push
        { tradeId := s.book.tradeCounter
          ricardianHash := ricardianHash
          status := .locked
          buyerAddress := buyer
          supplierAddress := supplier
          totalAmountLocked := totalAmount
          logisticsAmount := logisticsAmount
          platformFeesAmount := platformFeesAmount
          supplierFirstTranche := supplierFirstTranche
          supplierSecondTranche := supplierSecondTranche
          createdAt := now
          arrivalTimestamp := 0 } ∧
      Ledger.Moved (P.balanceOf s.usdc) buyer P.self totalAmount (P.balanceOf s'.usdc) ∧
      s'.claims = s.claims
  | .userActionAuthorization user action tradeId _ _ =>
    ∃ m, action.milestone = some m ∧ tradeId < s.book.tradeCounter ∧
      user = action.signer (s.book.trades tradeId) ∧
      s'.book = m.record now tradeId s.book ∧
      Pays P s.usdc (m.payee.address (s.book.trades tradeId) s.roles.treasuryAddress)
        (m.amount (s.book.trades tradeId)) s'.usdc ∧
      s'.claims = s.claims
  | _ => False

/-! ### One call -/

/-- What a successful relayed call checked, and what it left. -/
structure Honoured (P : Platform T) (env : Env) (p : Presented) (s s' : State T) : Prop where
  authorized : Authorized P env p.user p.message p.nonce p.deadline p.signature s
  nonces : s'.authorizationNonces = Function.update s.authorizationNonces p.user (p.nonce + 1)
  carried : Enacts P env.timestamp p.message s s'

theorem Effect.honoured (h : Effect P env call s s') {p : Presented}
    (hp : call.presented s = some p) : Honoured P env p s s' := by
  cases h with
  | createTrade _ _ _ _ hauth hpay =>
    obtain rfl := Option.some.inj hp
    exact ⟨hauth, rfl, rfl, P.receiveWithAuthorization_ok hpay, rfl⟩
  | openDispute _ _ _ hid hauth =>
    obtain rfl := Option.some.inj hp
    exact ⟨hauth, rfl, _, rfl, hid, rfl, rfl, rfl, rfl⟩
  | finalizeAfterDisputeWindowWithAuthorization _ _ _ hid hauth _ _ _ hpay =>
    obtain rfl := Option.some.inj hp
    exact ⟨hauth, rfl, _, rfl, hid, rfl, rfl, hpay, rfl⟩
  | finalizeAfterInspectionAcceptance _ _ _ hid _ hauth hpay
  | cancelLockedTrade _ _ _ hid hauth _ _ hpay | refundInTransit _ _ _ hid hauth _ _ _ hpay =>
    obtain rfl := Option.some.inj hp
    exact ⟨hauth, rfl, _, rfl, hid, rfl, rfl, hpay, rfl⟩
  | _ => cases hp

theorem Effect.nonces_eq (h : Effect P env call s s') (hp : call.presented s = none) :
    s'.authorizationNonces = s.authorizationNonces := by
  cases h with
  | createTrade | openDispute | finalizeAfterDisputeWindowWithAuthorization
  | finalizeAfterInspectionAcceptance | cancelLockedTrade | refundInTransit => cases hp
  | _ => rfl

theorem Effect.domainSeparator_eq (h : Effect P env call s s') :
    s'.domainSeparator = s.domainSeparator := by
  cases h <;> rfl

/-! ### The nonce counts the relayed actions -/

section

variable {c c' : Config T} {l : Label T}

theorem Step.honoured (hstep : Step P c l c') {p : Presented}
    (hp : presentedBy ⟨c, l, c'⟩ = some p) :
    ∃ env, env.timestamp = c'.clock ∧ Honoured P env p c.state c'.state := by
  cases hstep with
  | call _ hexec => exact ⟨_, rfl, (exec_effect hexec).honoured hp⟩
  | external => cases hp

/-- The nonce of a user goes up by one with the user's relayed actions and with nothing else. -/
theorem counts_nonce (P : Platform T) (user : Address) :
    Counts (Step P) (fun c => c.state.authorizationNonces user) (ActsFor user) := by
  intro c l c' hstep
  constructor
  · rintro ⟨p, hp, rfl⟩
    obtain ⟨env, -, hhonoured⟩ := hstep.honoured hp
    have hnonce := hhonoured.authorized.nonce_eq
    show c'.state.authorizationNonces p.user = c.state.authorizationNonces p.user + 1
    rw [hhonoured.nonces, Function.update_self, hnonce]
  · intro hother
    show c'.state.authorizationNonces user = c.state.authorizationNonces user
    cases hp : presentedBy ⟨c, l, c'⟩ with
    | some p =>
      -- somebody else acts
      obtain ⟨_, -, hhonoured⟩ := hstep.honoured hp
      rw [hhonoured.nonces, Function.update_of_ne]
      rintro rfl
      exact hother ⟨p, hp, rfl⟩
    | none =>
      cases hstep with
      | call _ hexec => rw [(exec_effect hexec).nonces_eq hp]
      | external => rfl

theorem Step.domainSeparator_eq (hstep : Step P c l c') :
    c'.state.domainSeparator = c.state.domainSeparator := by
  cases hstep with
  | call _ hexec => exact (exec_effect hexec).domainSeparator_eq
  | external => rfl

theorem Constructed.domainSeparator_eq {args : DeployArgs} {usdc : T}
    (h : Constructed P env args usdc s) : s.domainSeparator = buildDomainSeparator P := by
  cases h
  rfl

theorem Constructed.nonces_eq {args : DeployArgs} {usdc : T}
    (h : Constructed P env args usdc s) (user : Address) : s.authorizationNonces user = 0 := by
  cases h
  rfl

theorem Reachable.domainSeparator_eq (h : Reachable P c) :
    c.state.domainSeparator = buildDomainSeparator P := by
  refine h.invariant (I := fun c => c.state.domainSeparator = buildDomainSeparator P) ?_ ?_
  · rintro c ⟨_, _, _, hdeploy, -⟩
    exact (deploy_constructed hdeploy).domainSeparator_eq
  · intro _ _ _ hc hstep
    exact hstep.domainSeparator_eq.trans hc

end

/-! ### Signatures -/

/-- The idealised cryptography: `hashed` are the messages and digests that occur, on which hashing
is injective, and `signed user domain message` says that `user` signed `message` for the contract
with that domain separator, which is the only way to a signature of one of these messages that
recovers to `user`. -/
structure IdealCryptography (P : Platform T) (signed : Address → Bytes32 → Preimage → Prop)
    (hashed : Set Preimage) : Prop where
  keccak256_injOn : Set.InjOn P.keccak256 hashed
  recover_signed : ∀ domain message, message ∈ hashed →
    .typedData domain (P.keccak256 message) ∈ hashed → ∀ signature user,
      P.recover (P.keccak256 (.typedData domain (P.keccak256 message))) signature = some user →
        ∃ domain' message', signed user domain' message' ∧ message' ∈ hashed ∧
          .typedData domain' (P.keccak256 message') ∈ hashed ∧
          P.keccak256 (.typedData domain (P.keccak256 message)) =
            P.keccak256 (.typedData domain' (P.keccak256 message'))

/-- The message and its digest are among those that occur. -/
def Presented.Hashed (P : Platform T) (hashed : Set Preimage) (p : Presented) : Prop :=
  p.message ∈ hashed ∧
    .typedData (buildDomainSeparator P) (P.keccak256 p.message) ∈ hashed

/-- Who is recovered from the digest of a message signed that very message. -/
theorem IdealCryptography.signed_of_authorized {signed : Address → Bytes32 → Preimage → Prop}
    {hashed : Set Preimage} (h : IdealCryptography P signed hashed) {p : Presented}
    (hashed_p : p.Hashed P hashed) (hdomain : s.domainSeparator = buildDomainSeparator P)
    (hauth : Authorized P env p.user p.message p.nonce p.deadline p.signature s) :
    signed p.user (buildDomainSeparator P) p.message := by
  have hrecover := hauth.signed
  rw [hashTypedDataV4, hdomain] at hrecover
  obtain ⟨_, _, hsigned, hmessage, hdigest, heq⟩ :=
    h.recover_signed _ _ hashed_p.1 hashed_p.2 _ _ hrecover
  -- first the digests agree, then the messages
  have htyped := h.keccak256_injOn hashed_p.2 hdigest heq
  injection htyped with hsame hhash
  have hmessages := h.keccak256_injOn hashed_p.1 hmessage hhash
  rw [hsame, hmessages]
  exact hsigned

/-! ### Reverts -/

/-- The signature check of the relayed calls passes. -/
def Presented.Verifies (P : Platform T) (env : Env) (p : Presented) (s : State T) : Prop :=
  Succeeds (verifyAuthorization P env p.user p.action p.message p.nonce p.deadline p.signature s)

theorem Presented.verifies_iff {p : Presented} : p.Verifies P env s ↔
    Authorized P env p.user p.message p.nonce p.deadline p.signature s := by
  unfold Presented.Verifies Succeeds
  simp only [verifyAuthorization_eq_ok, exists_and_left, exists_eq, and_true]

theorem transact_of_error {e : EscrowError} (h : exec P env call s = .error e) :
    transact P env call s = s := by
  rw [transact, h]

/-- A signature stays valid while the nonce and the domain stay, until its deadline. -/
theorem Authorized.of_eq {env' : Env} {user : Address} {message : Preimage} {nonce deadline : ℕ}
    {signature : Signature} (h : Authorized P env user message nonce deadline signature s)
    (hnonce : s'.authorizationNonces user = s.authorizationNonces user)
    (hdomain : s'.domainSeparator = s.domainSeparator) (htime : env'.timestamp ≤ deadline) :
    Authorized P env' user message nonce deadline signature s' := by
  refine ⟨h.user_ne_zero, htime, h.nonce_eq.trans hnonce.symm, ?_⟩
  rw [hashTypedDataV4, hdomain]
  exact h.signed

/-- The parties of the trades are those of `s`, wherever `s` has any. -/
def KeepsParties (s s' : State T) : Prop :=
  ∀ (action : SponsoredAction) id, action.signer (s.book.trades id) ≠ 0 →
    action.signer (s'.book.trades id) = action.signer (s.book.trades id)

theorem Settlement.keepsParties (h : Settlement P env s s') (hblank : s.book.Blank) :
    KeepsParties s s' := by
  intro action id hne
  cases h with
  | idle hbook | swept hbook => rw [hbook]
  | created _ _ _ _ hbook =>
    -- the new trade has a number of its own
    have hold : id ≠ s.book.tradeCounter := by
      rintro rfl
      rw [(hblank _ le_rfl).1] at hne
      cases action <;> exact hne rfl
    rw [hbook]
    show action.signer (Function.update s.book.trades s.book.tradeCounter _ id) = _
    rw [Function.update_of_ne hold]
  | moved m tradeId _ _ _ _ _ hbook =>
    rw [hbook, Milestone.record_trades]
    by_cases heq : id = tradeId
    · subst heq
      rw [Function.update_self]
      cases m <;> rfl
    · rw [Function.update_of_ne heq]

theorem Step.keepsParties {c c' : Config T} {l : Label T} (hreach : Reachable P c)
    (hstep : Step P c l c') : KeepsParties c.state c'.state := by
  have hblank := hreach.solvent.book.blank
  cases hstep with
  | call _ hexec => exact ((exec_effect hexec).settlement hblank).keepsParties hblank
  | external => exact fun _ _ _ => rfl

theorem UserAuthorization.presented_of_keepsParties (auth : UserAuthorization)
    {action : SponsoredAction} {id : ℕ} (h : KeepsParties s s')
    (hne : (auth.presented action id (s.book.trades id)).user ≠ 0) :
    auth.presented action id (s'.book.trades id) =
      auth.presented action id (s.book.trades id) := by
  unfold UserAuthorization.presented
  rw [h action id hne]

/-- A call presents the same as long as the parties of its trade stay. -/
theorem Call.presented_of_keepsParties {p : Presented} (h : KeepsParties s s')
    (hp : call.presented s = some p) (hne : p.user ≠ 0) : call.presented s' = some p := by
  cases call <;> cases hp
  case createTradeWithAuthorization => rfl
  all_goals exact congrArg some (UserAuthorization.presented_of_keepsParties _ h hne)

/-- What a call presents, and its validity, outlast everything but a relayed action of the same
user. -/
theorem Run.presented_verifies {c c' : Config T} {tr : List (ChainStep T)} {p : Presented}
    (hreach : Reachable P c) (hrun : Run (Step P) c tr c')
    (hother : ∀ t ∈ tr, ¬ ActsFor p.user t) (hp : call.presented c.state = some p)
    (hverifies : p.Verifies P env c.state) {env' : Env} (htime : env'.timestamp ≤ p.deadline) :
    call.presented c'.state = some p ∧ p.Verifies P env' c'.state := by
  have hauth := Presented.verifies_iff.mp hverifies
  have hkept : Reachable P c' ∧ call.presented c'.state = some p ∧
      c'.state.authorizationNonces p.user = c.state.authorizationNonces p.user := by
    refine hrun.invariant_of (I := fun x => Reachable P x ∧ call.presented x.state = some p ∧
      x.state.authorizationNonces p.user = c.state.authorizationNonces p.user)
      ?_ hother ⟨hreach, hp, rfl⟩
    rintro _ _ _ hx ⟨hr, hpresented, hnonce⟩ hstep
    refine ⟨hr.step hstep, ?_, ((counts_nonce P p.user _ _ _ hstep).2 hx).trans hnonce⟩
    exact Call.presented_of_keepsParties (hstep.keepsParties hr) hpresented hauth.user_ne_zero
  obtain ⟨hreach', hp', hnonce⟩ := hkept
  refine ⟨hp', Presented.verifies_iff.mpr (hauth.of_eq hnonce ?_ htime)⟩
  rw [hreach.domainSeparator_eq, hreach'.domainSeparator_eq]

/-! ### Every run -/

theorem presentedBy_terms {t : ChainStep T} {p : Presented} (hp : presentedBy t = some p) :
    p.message.terms = some (p.user, p.nonce, p.deadline) := by
  obtain ⟨_, l, _⟩ := t
  cases l with
  | call => exact Call.presented_terms hp
  | external => cases hp

/-- Two relayed actions of one user with the same nonce are one. -/
theorem index_eq_of_nonce_eq {c₀ c : Config T} {tr : List (ChainStep T)}
    (hrun : Run (Step P) c₀ tr c) {i j : ℕ} {t t' : ChainStep T} {p p' : Presented}
    (hi : tr[i]? = some t) (hj : tr[j]? = some t') (hp : presentedBy t = some p)
    (hp' : presentedBy t' = some p') (huser : p.user = p'.user) (hnonce : p.nonce = p'.nonce) :
    i = j := by
  obtain ⟨_, -, hhonoured⟩ := (hrun.cut hi).2.1.honoured hp
  obtain ⟨_, -, hhonoured'⟩ := (hrun.cut hj).2.1.honoured hp'
  refine (counts_nonce P p.user).index_eq hrun hi hj ⟨p, hp, rfl⟩ ⟨p', hp', huser.symm⟩ ?_
  show t.source.state.authorizationNonces p.user = t'.source.state.authorizationNonces p.user
  rw [← hhonoured.authorized.nonce_eq, hnonce, huser, ← hhonoured'.authorized.nonce_eq]

/-- In every run nonces start at zero and count the relayed actions of their user.  Every relayed
action was signed by its user, for this contract, if cryptography is ideal on its message; it comes
before its deadline, and does what the message says; no two of them of one user carry the same
nonce, so no message takes effect twice. A relayed call that reverts leaves the nonces, and its
signature stays valid until its deadline or the next relayed action of the same user. -/
theorem authorization_replay_safety {c₀ c : Config T} {tr : List (ChainStep T)}
    (hdep : Deployed P c₀) (hrun : Run (Step P) c₀ tr c) :
    (∀ user, c₀.state.authorizationNonces user = 0 ∧
      c.state.authorizationNonces user = tr.countP (fun t => decide (ActsFor user t)) ∧
      ∀ t ∈ tr, t.target.state.authorizationNonces user =
        t.source.state.authorizationNonces user + if ActsFor user t then 1 else 0) ∧
    (∀ t ∈ tr, ∀ p, presentedBy t = some p →
      (∀ signed hashed, IdealCryptography P signed hashed → p.Hashed P hashed →
          signed p.user (buildDomainSeparator P) p.message) ∧
        p.message.terms = some (p.user, p.nonce, p.deadline) ∧
        p.nonce = t.source.state.authorizationNonces p.user ∧ t.target.clock ≤ p.deadline ∧
        Enacts P t.target.clock p.message t.source.state t.target.state) ∧
    (∀ (i j : ℕ) t t' p p', tr[i]? = some t → tr[j]? = some t' → presentedBy t = some p →
      presentedBy t' = some p' →
        (p.message = p'.message → i = j) ∧
        (p.user = p'.user → p.nonce = p'.nonce → i = j)) ∧
    (∀ env call p e, call.presented c.state = some p → p.Verifies P env c.state →
      exec P env call c.state = .error e →
        (transact P env call c.state).authorizationNonces = c.state.authorizationNonces ∧
        ∀ tr' c', Run (Step P) ⟨transact P env call c.state, c.clock⟩ tr' c' →
          (∀ t ∈ tr', ¬ ActsFor p.user t) → ∀ env' : Env, env'.timestamp ≤ p.deadline →
            call.presented c'.state = some p ∧ p.Verifies P env' c'.state) := by
  have hreach : Reachable P c := ⟨c₀, tr, hdep, hrun⟩
  have hstart : ∀ user, c₀.state.authorizationNonces user = 0 := by
    obtain ⟨env, _, _, hdeploy, -⟩ := hdep
    exact (deploy_constructed hdeploy).nonces_eq
  refine ⟨fun user => ⟨hstart user, ?_, fun t ht => ?_⟩, fun t ht p hp => ?_, ?_, ?_⟩
  · rw [(counts_nonce P user).eq_add_countP hrun, hstart user, Nat.zero_add]
  · obtain ⟨pre, post, -, -, hstep, -⟩ := hrun.split ht
    have hcounts := counts_nonce P user _ _ _ hstep
    split_ifs with hacts
    · exact hcounts.1 hacts
    · exact hcounts.2 hacts
  · obtain ⟨pre, _, -, hpre, hstep, -⟩ := hrun.split ht
    obtain ⟨env, htime, hhonoured⟩ := hstep.honoured hp
    have hdomain := Reachable.domainSeparator_eq ⟨c₀, pre, hdep, hpre⟩
    refine ⟨fun _ _ hideal hhashed => ?_, presentedBy_terms hp, hhonoured.authorized.nonce_eq, ?_,
      ?_⟩
    · exact hideal.signed_of_authorized hhashed hdomain hhonoured.authorized
    · rw [← htime]
      exact hhonoured.authorized.timely
    · rw [← htime]
      exact hhonoured.carried
  · intro _ _ _ _ p p' hi hj hp hp'
    refine ⟨fun hmessage => ?_, index_eq_of_nonce_eq hrun hi hj hp hp'⟩
    have hterms : some (p.user, p.nonce, p.deadline) = some (p'.user, p'.nonce, p'.deadline) := by
      rw [← presentedBy_terms hp, hmessage, presentedBy_terms hp']
    injection hterms with hterms
    injection hterms with huser hrest
    injection hrest with hnonce hdeadline
    exact index_eq_of_nonce_eq hrun hi hj hp hp' huser hnonce
  · intro _ _ _ _ hp hverifies hrevert
    rw [transact_of_error hrevert]
    refine ⟨rfl, fun tr' c' hrun' hother env' htime => ?_⟩
    exact Run.presented_verifies hreach hrun' hother hp hverifies htime

/-! ### A sample run -/

/-- The sample buyer's acceptance of the goods of trade 0. -/
def sampleAcceptance : UserAuthorization where
  nonce := 1
  deadline := 1000
  signature := List.replicate 8 0

def sampleMessages : List Preimage :=
  [sampleTrade.message, .userActionAuthorization 8 .finalizeAfterInspectionAcceptance 0 1 1000]

/-- The chain of the sample deployment, with a stand-in for the cryptography that tells the two
messages of the sample buyer and their digests apart, and recovers that buyer from no other
digest. -/
def sealedPlatform : Platform MockUsdc where
  __ := mockPlatform 100
  keccak256
    | .createTradeAuthorization .. => 1
    | .userActionAuthorization .. => 2
    | .typedData _ structHash => structHash + 2
    | _ => 0
  recover digest signature :=
    if (digest = 3 ∨ digest = 4) ∧ signature = List.replicate 8 0 then some 8 else none
  recover_ne_self digest signature := by
    show (if _ then some 8 else none) ≠ some (100 : Address)
    split_ifs <;> decide

def sampleHashed : List Preimage := sampleMessages ++ [.typedData 0 1, .typedData 0 2]

theorem mem_sampleHashed : ∀ m ∈ sampleMessages,
    m ∈ sampleHashed ∧ .typedData (buildDomainSeparator sealedPlatform)
      (sealedPlatform.keccak256 m) ∈ sampleHashed := by
  decide

theorem sealedPlatform_ideal : IdealCryptography sealedPlatform
    (fun user domain message => user = 8 ∧ domain = 0 ∧ message ∈ sampleMessages)
    {m | m ∈ sampleHashed} where
  keccak256_injOn := by
    have hall : ∀ m ∈ sampleHashed, ∀ m' ∈ sampleHashed,
        sealedPlatform.keccak256 m = sealedPlatform.keccak256 m' → m = m' := by decide
    exact fun m hm m' hm' => hall m hm m' hm'
  recover_signed domain message _ _ signature user h := by
    generalize hd : sealedPlatform.keccak256 (.typedData domain _) = digest at h ⊢
    have hrecover : (if (digest = 3 ∨ digest = 4) ∧ signature = List.replicate 8 0 then
        some (8 : Address) else none) = some user := h
    split_ifs at hrecover with hdigest
    obtain rfl := Option.some.inj hrecover
    rcases hdigest.1 with rfl | rfl
    · have hmem : sampleMessages[0] ∈ sampleMessages := by decide
      exact ⟨0, _, ⟨rfl, rfl, hmem⟩, (mem_sampleHashed _ hmem).1, (mem_sampleHashed _ hmem).2, rfl⟩
    · have hmem : sampleMessages[1] ∈ sampleMessages := by decide
      exact ⟨0, _, ⟨rfl, rfl, hmem⟩, (mem_sampleHashed _ hmem).1, (mem_sampleHashed _ hmem).2, rfl⟩

/-- The call presents nothing, or one of the two messages. -/
def presentsSample (c : Config MockUsdc) (_ : Env) (call : Call) : Bool :=
  (call.presented c.state).all fun p => decide (p.message ∈ sampleMessages)

/-- A buyer signs the purchase and the acceptance of the goods; both take effect, once each. -/
theorem authorization_replay_safety_sample :
    ∃ (c₀ c : Config MockUsdc) (tr : List (ChainStep MockUsdc)),
      Deployed sealedPlatform c₀ ∧ Run (Step sealedPlatform) c₀ tr c ∧ tr.length = 4 ∧
        c.state.authorizationNonces 8 = 2 ∧
        tr.countP (fun t => decide (ActsFor 8 t)) = 2 ∧
        ∀ t ∈ tr, ∀ p, presentedBy t = some p →
          p.user = 8 ∧ buildDomainSeparator sealedPlatform = 0 ∧ p.message ∈ sampleMessages := by
  have hsim : (simulate sealedPlatform presentsSample ⟨1, 10⟩ sampleArgs sampleUsdc
      [(⟨4, 20⟩, .createTradeWithAuthorization sampleTrade), (⟨2, 30⟩, .releaseFundsStage1 0),
        (⟨2, 40⟩, .confirmInspectionAvailable 0 standardInspectionWindow),
        (⟨4, 50⟩, .finalizeAfterInspectionAcceptanceWithAuthorization 0 sampleAcceptance)]).any
      (fun c => decide (c.state.authorizationNonces 8 = 2)) = true := by
    decide +kernel
  obtain ⟨c, hc, hnonce⟩ := (Option.any_eq_true ..).mp hsim
  obtain ⟨c₀, tr, hdep, hrun, hlength, hall⟩ := simulate_run hc
  have hdeployed : Deployed sealedPlatform c₀ := ⟨_, _, _, hdep⟩
  have hmessages : ∀ t ∈ tr, ∀ p, presentedBy t = some p → p.message ∈ sampleMessages := by
    rintro ⟨_, _, _⟩ ht p hp
    obtain ⟨_, _, hlabel, hpresents⟩ := hall _ ht
    cases hlabel
    exact of_decide_eq_true ((Option.all_eq_true ..).mp hpresents p hp)
  have hsafe := authorization_replay_safety hdeployed hrun
  have hcount := (hsafe.1 8).2.1
  rw [of_decide_eq_true hnonce] at hcount
  refine ⟨c₀, c, tr, hdeployed, hrun, hlength, of_decide_eq_true hnonce, hcount.symm, ?_⟩
  intro t ht p hp
  exact (hsafe.2.1 t ht p hp).1 _ _ sealedPlatform_ideal
    (mem_sampleHashed _ (hmessages t ht p hp))

end Cotsel.Escrow
