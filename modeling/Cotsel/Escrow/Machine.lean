import Cotsel.Escrow.Dispute
import Cotsel.Escrow.Governance
import Cotsel.Escrow.Pause
import Cotsel.Library.Run

/-!
# The contract as a transition system

`exec` dispatches an external call.  A `Step` of the chain is a successful call in a block that is
not older than the last one (a call that reverts leaves no trace), or something that happens to
the token outside the escrow: other accounts may move their own USDC, also to the escrow, but only
the escrow can spend the escrow's balance.

`Deployed` are the states right after a successful construction and `Reachable` those that a run
leads to from there.
-/

namespace Cotsel.Escrow

open Runs

/-- The external functions that change the state, with their arguments. -/
inductive Call
  | pause
  | pauseClaims
  | pauseTrade (tradeId : ℕ)
  | proposeUnpause (scope : PauseScope) (tradeId : ℕ) (incidentRef : Bytes32)
  | approveUnpause
  | cancelUnpauseProposal
  | disableOracleEmergency
  | createTradeWithAuthorization (args : CreateTradeArgs)
  | claimTreasury
  | releaseFundsStage1 (tradeId : ℕ)
  | confirmInspectionAvailable (tradeId windowSeconds : ℕ)
  | openDisputeWithAuthorization (tradeId : ℕ) (auth : UserAuthorization)
  | finalizeAfterDisputeWindow (tradeId : ℕ)
  | finalizeAfterDisputeWindowWithAuthorization (tradeId : ℕ) (auth : UserAuthorization)
  | finalizeAfterInspectionAcceptanceWithAuthorization (tradeId : ℕ) (auth : UserAuthorization)
  | cancelLockedTradeAfterTimeoutWithAuthorization (tradeId : ℕ) (auth : UserAuthorization)
  | refundInTransitAfterTimeoutWithAuthorization (tradeId : ℕ) (auth : UserAuthorization)
  | proposeDisputeSolution (tradeId : ℕ) (disputeStatus : DisputeStatus)
  | approveDisputeSolution (proposalId : ℕ)
  | cancelExpiredDisputeProposal (proposalId : ℕ)
  | proposeOracleUpdate (newOracle : Address)
  | approveOracleUpdate (proposalId : ℕ)
  | executeOracleUpdate (proposalId : ℕ)
  | cancelExpiredOracleUpdateProposal (proposalId : ℕ)
  | proposeAdminChange (kind : AdminChangeKind) (currentAdmin newAdmin : Address)
      (newThreshold : ℕ)
  | approveAdminChange (proposalId : ℕ)
  | executeAdminChange (proposalId : ℕ)
  | cancelAdminChangeProposal (proposalId : ℕ)
  | proposeTreasuryPayoutAddressUpdate (newPayoutReceiver : Address)
  | approveTreasuryPayoutAddressUpdate (proposalId : ℕ)
  | executeTreasuryPayoutAddressUpdate (proposalId : ℕ)
  | cancelExpiredTreasuryPayoutAddressUpdateProposal (proposalId : ℕ)

inductive ReturnData
  | void
  | bool (b : Bool)
  | uint256 (n : ℕ)
deriving DecidableEq

variable {T : Type}

def returnVoid (r : Except EscrowError (State T)) : Except EscrowError (State T × ReturnData) :=
  r.map fun s => (s, .void)

def returnUint256 (r : Except EscrowError (State T × ℕ)) :
    Except EscrowError (State T × ReturnData) :=
  r.map fun (s, n) => (s, .uint256 n)

def returnBool (r : Except EscrowError (State T × Bool)) :
    Except EscrowError (State T × ReturnData) :=
  r.map fun (s, b) => (s, .bool b)

/-- The effect of an external call: the state after it and what it returns, or why it reverts. -/
def exec (P : Platform T) (env : Env) (call : Call) (s : State T) :
    Except EscrowError (State T × ReturnData) :=
  match call with
  | .pause => returnVoid (pause P env s)
  | .pauseClaims => returnVoid (pauseClaims env s)
  | .pauseTrade tradeId => returnVoid (pauseTrade env tradeId s)
  | .proposeUnpause scope tradeId incidentRef =>
    returnBool (proposeUnpause env scope tradeId incidentRef s)
  | .approveUnpause => returnVoid (approveUnpause P env s)
  | .cancelUnpauseProposal => returnVoid (cancelUnpauseProposal env s)
  | .disableOracleEmergency => returnVoid (disableOracleEmergency P env s)
  | .createTradeWithAuthorization args =>
    returnUint256 (createTradeWithAuthorization P env args s)
  | .claimTreasury => returnVoid (claimTreasury P env s)
  | .releaseFundsStage1 tradeId => returnVoid (releaseFundsStage1 P env tradeId s)
  | .confirmInspectionAvailable tradeId windowSeconds =>
    returnVoid (confirmInspectionAvailable env tradeId windowSeconds s)
  | .openDisputeWithAuthorization tradeId auth =>
    returnVoid (openDisputeWithAuthorization P env tradeId auth s)
  | .finalizeAfterDisputeWindow tradeId => returnVoid (finalizeAfterDisputeWindow P env tradeId s)
  | .finalizeAfterDisputeWindowWithAuthorization tradeId auth =>
    returnVoid (finalizeAfterDisputeWindowWithAuthorization P env tradeId auth s)
  | .finalizeAfterInspectionAcceptanceWithAuthorization tradeId auth =>
    returnVoid (finalizeAfterInspectionAcceptanceWithAuthorization P env tradeId auth s)
  | .cancelLockedTradeAfterTimeoutWithAuthorization tradeId auth =>
    returnVoid (cancelLockedTradeAfterTimeoutWithAuthorization P env tradeId auth s)
  | .refundInTransitAfterTimeoutWithAuthorization tradeId auth =>
    returnVoid (refundInTransitAfterTimeoutWithAuthorization P env tradeId auth s)
  | .proposeDisputeSolution tradeId disputeStatus =>
    returnUint256 (proposeDisputeSolution env tradeId disputeStatus s)
  | .approveDisputeSolution proposalId => returnVoid (approveDisputeSolution P env proposalId s)
  | .cancelExpiredDisputeProposal proposalId =>
    returnVoid (cancelExpiredDisputeProposal env proposalId s)
  | .proposeOracleUpdate newOracle => returnUint256 (proposeOracleUpdate env newOracle s)
  | .approveOracleUpdate proposalId => returnVoid (approveOracleUpdate env proposalId s)
  | .executeOracleUpdate proposalId => returnVoid (executeOracleUpdate env proposalId s)
  | .cancelExpiredOracleUpdateProposal proposalId =>
    returnVoid (cancelExpiredOracleUpdateProposal env proposalId s)
  | .proposeAdminChange kind currentAdmin newAdmin newThreshold =>
    returnUint256 (proposeAdminChange env kind currentAdmin newAdmin newThreshold s)
  | .approveAdminChange proposalId => returnVoid (approveAdminChange env proposalId s)
  | .executeAdminChange proposalId => returnVoid (executeAdminChange env proposalId s)
  | .cancelAdminChangeProposal proposalId =>
    returnVoid (cancelAdminChangeProposal env proposalId s)
  | .proposeTreasuryPayoutAddressUpdate newPayoutReceiver =>
    returnUint256 (proposeTreasuryPayoutAddressUpdate env newPayoutReceiver s)
  | .approveTreasuryPayoutAddressUpdate proposalId =>
    returnVoid (approveTreasuryPayoutAddressUpdate env proposalId s)
  | .executeTreasuryPayoutAddressUpdate proposalId =>
    returnVoid (executeTreasuryPayoutAddressUpdate env proposalId s)
  | .cancelExpiredTreasuryPayoutAddressUpdateProposal proposalId =>
    returnVoid (cancelExpiredTreasuryPayoutAddressUpdateProposal env proposalId s)

/-- What a transaction leaves: the state of a successful call; a revert undoes everything the call
wrote before it. -/
def transact (P : Platform T) (env : Env) (call : Call) (s : State T) : State T :=
  match exec P env call s with
  | .ok (s', _) => s'
  | .error _ => s

/-- The state and the timestamp of the latest block. -/
structure Config (T : Type) where
  state : State T
  clock : ℕ

/-- What happens in a step: a call to the escrow, or token activity of others that leaves the
token in the state `usdc`. -/
inductive Label (T : Type)
  | call (env : Env) (call : Call)
  | external (usdc : T)

inductive Step (P : Platform T) : Config T → Label T → Config T → Prop
  | call {c : Config T} {env : Env} {call : Call} {s : State T} {r : ReturnData}
      (htime : c.clock ≤ env.timestamp) (hexec : exec P env call c.state = .ok (s, r)) :
      Step P c (.call env call) ⟨s, env.timestamp⟩
  | external {c : Config T} {usdc : T}
      (hspend : P.escrowBalance c.state.usdc ≤ P.escrowBalance usdc) :
      Step P c (.external usdc) ⟨{ c.state with usdc := usdc }, c.clock⟩

abbrev ChainStep (T : Type) := Transition (Config T) (Label T)

/-- `c` is the chain right after a successful construction. -/
def Deployed (P : Platform T) (c : Config T) : Prop :=
  ∃ env args usdc, deploy P env args usdc = .ok c.state ∧ c.clock = env.timestamp

/-- `c` is reached by some run from some successful construction. -/
def Reachable (P : Platform T) (c : Config T) : Prop :=
  ∃ c₀ tr, Deployed P c₀ ∧ Run (Step P) c₀ tr c

namespace Reachable

variable {P : Platform T} {c c' : Config T}

theorem run {tr : List (ChainStep T)} (h : Reachable P c) (hr : Run (Step P) c tr c') :
    Reachable P c' := by
  obtain ⟨c₀, tr₀, hdep, hr₀⟩ := h
  exact ⟨c₀, tr₀ ++ tr, hdep, hr₀.trans hr⟩

theorem step {l : Label T} (h : Reachable P c) (hs : Step P c l c') : Reachable P c' :=
  h.run (.single hs)

/-- What every construction establishes and every step keeps holds in every reachable state. -/
theorem invariant {I : Config T → Prop} (hdep : ∀ c, Deployed P c → I c)
    (hstep : ∀ c l c', I c → Step P c l c' → I c') (h : Reachable P c) : I c := by
  obtain ⟨c₀, _, hd, hr⟩ := h
  exact hr.invariant hstep (hdep c₀ hd)

end Reachable

end Cotsel.Escrow
