import Cotsel.Escrow.Machine

/-!
# An executable chain

`MockUsdc` is the token of `contracts/src/MockUSDC.sol`: an ERC-20 table of balances with
`receiveWithAuthorization`.  Together with a stand-in for the cryptography it is a `Platform`, so
every statement about all platforms applies to it.

`simulate` deploys the escrow and makes a list of calls; what it returns is reachable.
-/

namespace Cotsel.Escrow

open Guard Runs

/-! ### The token -/

structure MockUsdc where
  balances : Address → ℕ
  authorizationState : Address → Bytes32 → Bool

variable {recipient : Address} {t : MockUsdc}

namespace MockUsdc

/-- `_transfer` of `ERC20`. -/
def transfer (t : MockUsdc) (sender recipient : Address) (amount : ℕ) :
    Except TokenError MockUsdc := do
  require (sender ≠ 0) .refused
  require (recipient ≠ 0) .refused
  require (amount ≤ t.balances sender) .insufficientBalance
  let debited := Function.update t.balances sender (t.balances sender - amount)
  pure { t with balances := Function.update debited recipient (debited recipient + amount) }

/-- The stand-in for `ECDSA.recover(digest, v, r, s)`: `v` is the signer's account. -/
def recoverVrs (v : ℕ) : Address := Fin.ofNat _ v

def receiveWithAuthorization (t : MockUsdc) (now : ℕ) (payer recipient : Address) (value : ℕ)
    (auth : UsdcAuthorization) : Except TokenError MockUsdc := do
  require (auth.validAfter < now) .refused
  require (now < auth.validBefore) .refused
  require (t.authorizationState payer auth.nonce = false) .refused
  require (recoverVrs auth.v = payer) .refused
  transfer
    { t with
      authorizationState := Function.update t.authorizationState payer
        (Function.update (t.authorizationState payer) auth.nonce true) }
    payer recipient value

theorem transfer_moved {t' : MockUsdc} {sender : Address} {amount : ℕ}
    (h : t.transfer sender recipient amount = .ok t') :
    Ledger.Moved t.balances sender recipient amount t'.balances := by
  simp only [transfer, bind_eq_ok, require_eq_ok, exists_const, pure_eq_ok] at h
  obtain ⟨-, -, hle, rfl⟩ := h
  exact ⟨hle, rfl⟩

theorem transfer_insufficient {sender : Address} {amount : ℕ}
    (h : t.transfer sender recipient amount = .error .insufficientBalance) :
    t.balances sender < amount := by
  simp only [transfer, require_bind_eq_error, pure_ne_error, reduceCtorEq, and_false, or_false,
    false_or, and_true] at h
  exact Nat.lt_of_not_le h.2.2

theorem receiveWithAuthorization_moved {t' : MockUsdc} {now : ℕ} {payer : Address}
    {value : ℕ} {auth : UsdcAuthorization}
    (h : t.receiveWithAuthorization now payer recipient value auth = .ok t') :
    Ledger.Moved t.balances payer recipient value t'.balances := by
  simp only [receiveWithAuthorization, bind_eq_ok, require_eq_ok, exists_const] at h
  obtain ⟨-, -, -, -, htransfer⟩ := h
  have hmoved := transfer_moved htransfer
  exact hmoved

end MockUsdc

/-! ### The platform -/

/-- The stand-in for `ECDSA.recover`: the signature of an account is its number, in unary. -/
def mockRecover (self : Address) (signature : Signature) : Option Address :=
  if (Fin.ofNat _ signature.length : Address) = 0 ∨ Fin.ofNat _ signature.length = self then none
  else some (Fin.ofNat _ signature.length)

/-- The escrow at address `self` on a chain with `MockUSDC`. -/
def mockPlatform (self : Address) : Platform MockUsdc where
  self := self
  chainId := 31337
  keccak256 _ := 0
  recover _ signature := mockRecover self signature
  balanceOf t := t.balances
  safeTransfer := MockUsdc.transfer
  receiveWithAuthorization t now _ payer recipient value auth :=
    t.receiveWithAuthorization now payer recipient value auth
  mulDiv x y d := if x * y / d < uint256Bound then .ok (x * y / d) else .error .overflow
  pause _ := true
  unpause _ := false
  recover_ne_self _ signature h := by
    unfold mockRecover at h
    split_ifs at h with hbad
    exact hbad (Or.inr (Option.some.inj h))
  safeTransfer_ok := MockUsdc.transfer_moved
  safeTransfer_insufficient := MockUsdc.transfer_insufficient
  receiveWithAuthorization_ok := MockUsdc.receiveWithAuthorization_moved
  mulDiv_eq _ := rfl
  pause_eq _ := rfl
  unpause_eq _ := rfl

theorem mockPlatform_signersCanSign (self : Address) : (mockPlatform self).SignersCanSign := by
  rintro _ ⟨_, signature, h⟩ _
  exact ⟨signature, h⟩

theorem mockPlatform_transfersCovered {self : Address} (hself : self ≠ 0) :
    (mockPlatform self).TransfersCovered := by
  intro t recipient amount hne hle
  show ∃ t', MockUsdc.transfer t self recipient amount = .ok t'
  have hbal : amount ≤ t.balances self := hle
  rw [MockUsdc.transfer, require_bind_of_pos hself, require_bind_of_pos hne,
    require_bind_of_pos hbal]
  exact ⟨_, rfl⟩

/-! ### Running a list of calls -/

variable {calls : List (Env × Call)}

section

variable {T : Type} (P : Platform T)

/-- The calls are made one after the other; `none` if one reverts, is in an older block, or is not
admitted by `p`. -/
def runCalls (p : Config T → Env → Call → Bool) : List (Env × Call) → Config T → Option (Config T)
  | [], c => some c
  | (env, call) :: rest, c =>
    if c.clock ≤ env.timestamp ∧ p c env call = true then
      match exec P env call c.state with
      | .ok (s, _) => runCalls p rest ⟨s, env.timestamp⟩
      | .error _ => none
    else none

def simulate (p : Config T → Env → Call → Bool) (env : Env) (args : DeployArgs) (usdc : T)
    (calls : List (Env × Call)) : Option (Config T) :=
  match deploy P env args usdc with
  | .ok s => runCalls P p calls ⟨s, env.timestamp⟩
  | .error _ => none

variable {P} {p : Config T → Env → Call → Bool}

/-- The transition is a call that `p` admits. -/
def Admitted (p : Config T → Env → Call → Bool) (t : ChainStep T) : Prop :=
  ∃ env call, t.label = .call env call ∧ p t.source env call = true

theorem runCalls_run {c c' : Config T}
    (h : runCalls P p calls c = some c') :
    ∃ tr, Run (Step P) c tr c' ∧ tr.length = calls.length ∧ ∀ t ∈ tr, Admitted p t := by
  induction calls generalizing c with
  | nil =>
    cases h
    exact ⟨[], .nil _, rfl, fun t ht => absurd ht List.not_mem_nil⟩
  | cons head rest ih =>
    obtain ⟨env, call⟩ := head
    unfold runCalls at h
    split_ifs at h with hadmitted
    split at h
    · rename_i s r hexec
      obtain ⟨_, hrun, hlength, hall⟩ := ih h
      refine ⟨_, (Run.single (.call hadmitted.1 hexec)).trans hrun, ?_, fun t ht => ?_⟩
      · rw [List.length_append, hlength, List.length_cons, Nat.add_comm]
        rfl
      · rcases List.mem_append.mp ht with hfirst | hlater
        · rw [List.mem_singleton.mp hfirst]
          exact ⟨env, call, rfl, hadmitted.2⟩
        · exact hall t hlater
    · cases h

theorem simulate_run {env : Env} {args : DeployArgs} {usdc : T}
    {c : Config T} (h : simulate P p env args usdc calls = some c) :
    ∃ c₀ tr, (deploy P env args usdc = .ok c₀.state ∧ c₀.clock = env.timestamp) ∧
      Run (Step P) c₀ tr c ∧ tr.length = calls.length ∧ ∀ t ∈ tr, Admitted p t := by
  unfold simulate at h
  split at h
  · rename_i s hdeploy
    obtain ⟨tr, hrun, hall⟩ := runCalls_run h
    exact ⟨⟨s, env.timestamp⟩, tr, ⟨hdeploy, rfl⟩, hrun, hall⟩
  · cases h

end

/-! ### A sample deployment -/

/-- Three admins, of whom two decide. -/
def sampleArgs : DeployArgs where
  usdcToken := 1
  oracleAddress := 2
  treasuryAddress := 3
  relayerAddress := 4
  admins := [5, 6, 7]
  requiredApprovals := 2

/-- Account 8 has enough for one trade. -/
def sampleUsdc : MockUsdc where
  balances := Function.update (fun _ => 0) 8 2000000000
  authorizationState _ _ := false

/-- Account 8 buys goods for 1,000.00 from account 9. -/
def sampleTrade : CreateTradeArgs where
  buyer := 8
  supplier := 9
  totalAmount := 1009000000
  logisticsAmount := 0
  platformFeesAmount := 14000000
  supplierFirstTranche := 595000000
  supplierSecondTranche := 400000000
  ricardianHash := 1
  authorizationNonce := 0
  authorizationDeadline := 1000
  authorizationSignature := List.replicate 8 0
  usdcAuthorization :=
    { validAfter := 0, validBefore := 1000, nonce := 0, v := 8, r := 0, s := 0 }

/-- The sample deployment at address 100 and time 10, and then some calls that `p` admits. -/
def sampleRunWhere (p : Config MockUsdc → Env → Call → Bool) (calls : List (Env × Call)) :
    Option (Config MockUsdc) :=
  simulate (mockPlatform 100) p ⟨1, 10⟩ sampleArgs sampleUsdc calls

/-- The sample deployment, and then some calls. -/
def sampleRun (calls : List (Env × Call)) : Option (Config MockUsdc) :=
  sampleRunWhere (fun _ _ _ => true) calls

def SampleDeployed (c₀ : Config MockUsdc) : Prop :=
  deploy (mockPlatform 100) ⟨1, 10⟩ sampleArgs sampleUsdc = .ok c₀.state ∧ c₀.clock = 10

theorem SampleDeployed.deployed {c₀ : Config MockUsdc} (h : SampleDeployed c₀) :
    Deployed (mockPlatform 100) c₀ :=
  ⟨_, _, _, h⟩

/-- What the simulation computes of its last state holds at the end of a run. -/
theorem exists_run_sampleRun {p : Config MockUsdc → Env → Call → Bool} {q : Config MockUsdc → Bool}
    (h : (sampleRunWhere p calls).any q = true) :
    ∃ c₀ tr c, SampleDeployed c₀ ∧ Run (Step (mockPlatform 100)) c₀ tr c ∧
      tr.length = calls.length ∧ (∀ t ∈ tr, Admitted p t) ∧ q c = true := by
  cases hsim : sampleRunWhere p calls with
  | none =>
    rw [hsim] at h
    exact absurd h Bool.false_ne_true
  | some c =>
    rw [hsim] at h
    obtain ⟨c₀, tr, hdep, hrun, hlength, hall⟩ := simulate_run hsim
    exact ⟨c₀, tr, c, hdep, hrun, hlength, hall, h⟩

theorem exists_reachable_sampleRun {q : Config MockUsdc → Bool}
    (h : (sampleRun calls).any q = true) : ∃ c, Reachable (mockPlatform 100) c ∧ q c = true := by
  obtain ⟨c₀, tr, c, hdep, hrun, -, -, hq⟩ := exists_run_sampleRun h
  exact ⟨c, ⟨c₀, tr, hdep.deployed, hrun⟩, hq⟩

/-- After some calls one more succeeds, and `q` holds of the state before it and after it. -/
def sampleStep (calls : List (Env × Call)) (env : Env) (call : Call)
    (q : Config MockUsdc → State MockUsdc → Bool) : Bool :=
  (sampleRun calls).any fun c => decide (c.clock ≤ env.timestamp) &&
    (exec (mockPlatform 100) env call c.state).toOption.any fun r => q c r.1

theorem exists_step_sampleRun {env : Env} {call : Call}
    {q : Config MockUsdc → State MockUsdc → Bool} (h : sampleStep calls env call q = true) :
    ∃ c s, Reachable (mockPlatform 100) c ∧
      Step (mockPlatform 100) c (.call env call) ⟨s, env.timestamp⟩ ∧ q c s = true := by
  obtain ⟨c, hreach, hc⟩ := exists_reachable_sampleRun h
  rw [Bool.and_eq_true, decide_eq_true_eq] at hc
  obtain ⟨htime, hc⟩ := hc
  cases hexec : exec (mockPlatform 100) env call c.state with
  | error =>
    rw [hexec] at hc
    exact absurd hc Bool.false_ne_true
  | ok r =>
    rw [hexec] at hc
    exact ⟨c, r.1, hreach, .call htime hexec, hc⟩

end Cotsel.Escrow
