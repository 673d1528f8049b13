import Cotsel.Library.Processes
import Cotsel.Oracle.Errors
import Cotsel.Sdk.FundedSettlement

/-!
# The surroundings of the oracle

The operations through which the oracle's code reaches the database, the chain and other services,
and what they do.  A statement on `oracle_triggers` is atomic; it works, is refused, or is lost with
the connection, before or after it took effect (`Fate`).  A claim (`claimTriggerDispatch`) is one
transaction.  What the chain and other services answer is open.

The action lock is the session lock `pg_advisory_lock(91308, hashtext(actionKey))`: a process waits
for it, and loses it only when it releases it or dies.
-/

namespace Cotsel.Oracle

open Text Sdk Interaction

/-! ### Operations -/

/-- A trade as `OracleSDK.getTrade` returns it. -/
structure OnChainTrade extends Sdk.Trade where
  status : Escrow.TradeStatus
  arrivalTimestamp : Option ℕ
deriving DecidableEq

/-- The row of `reconcile_trade_containments` that is not released. -/
structure Containment where
  incidentReference : List Char
  state : List Char

/-- What both witnesses saw of a transaction. -/
structure DispatchObservation where
  blockNumber : ℕ
  blockHash : List Char
  receiptStatus : ℕ

structure IndexerEvent where
  tradeId : List Char
  eventName : List Char
  txHash : List Char
  blockNumber : ℕ

structure BlockchainResult where
  txHash : List Char
  blockNumber : ℕ

/-- The calls of the escrow that the oracle makes. -/
inductive EscrowCall
  | releaseFundsStage1 (tradeId : List Char)
  | confirmInspectionAvailable (tradeId : List Char) (windowSeconds : ℕ)
  | finalizeAfterDisputeWindow (tradeId : List Char)
deriving DecidableEq

inductive Op
  -- the action lock
  | lock (actionKey : List Char)
  | unlock (actionKey : List Char)
  -- statements on `oracle_triggers`
  | insertTrigger (data : CreateTriggerData)
  | getTriggerByIdempotencyKey (idempotencyKey : List Char)
  | getLatestTriggerByActionKey (actionKey : List Char)
  | getTriggersByStatus (status : TriggerStatus) (limit : ℕ)
  | updateTrigger (idempotencyKey : List Char) (updates : UpdateTriggerData)
  | approveTrigger (idempotencyKey actor : List Char)
  | rejectTrigger (idempotencyKey actor : List Char) (reason : Option (List Char))
  | getUnresolvedSignerDispatch (signerScope : SignerScope)
  | claimTriggerDispatch (idempotencyKey : List Char) (signerScope : SignerScope)
  /-- The `UPDATE` of `resolveSignerDispatch`: whether it changed a row. -/
  | storeFinality (idempotencyKey : List Char) (evidence : OracleDispatchFinality)
  /-- The `SELECT` of `resolveSignerDispatch`. -/
  | retainedFinality (idempotencyKey : List Char) (signerScope : SignerScope)
    (transactionHash : List Char)
  -- the chain and other services
  | getTrade (tradeId : List Char)
  | isTradePaused (tradeId : List Char)
  | containment (tradeId : List Char)
  /-- The observations of `verifyFundedSettlementBinding`. -/
  | witnessFunding (binding : SettlementFundedBinding)
  | signerAddress
  /-- The observations of `verifyOracleDispatchFinality`. -/
  | witnessDispatch (signerScope : SignerScope) (transactionHash : List Char)
  /-- The observations of `verifyOracleProgressionReceipt`. -/
  | witnessProgression (evidence : OracleDispatchFinality) (binding : SettlementFundedBinding)
  | findConfirmationEvent (txHash tradeId eventName : List Char)
  /-- Start an escrow call: the hash of its transaction.  The trigger it is made for is named for
  reference; the call does not carry it. -/
  | escrowCall (trigger : List Char) (call : EscrowCall)
  | waitReceipt (txHash : List Char)
  -- the process itself
  | randomId
  | now
  | notify (eventType message : List Char)

@[reducible] def Ans : Op → Type
  | .lock _ => Unit
  | .unlock _ => Unit
  | .insertTrigger _ => Trigger
  | .getTriggerByIdempotencyKey _ => Option Trigger
  | .getLatestTriggerByActionKey _ => Option Trigger
  | .getTriggersByStatus _ _ => List Trigger
  | .updateTrigger _ _ => Unit
  | .approveTrigger _ _ => Option Trigger
  | .rejectTrigger _ _ _ => Option Trigger
  | .getUnresolvedSignerDispatch _ => Option Trigger
  | .claimTriggerDispatch _ _ => Bool
  | .storeFinality _ _ => Bool
  | .retainedFinality _ _ _ => Option OracleDispatchFinality
  | .getTrade _ => OnChainTrade
  | .isTradePaused _ => Bool
  | .containment _ => Option Containment
  | .witnessFunding _ => Unit
  | .signerAddress => List Char
  | .witnessDispatch _ _ => DispatchObservation
  | .witnessProgression _ _ => Unit
  | .findConfirmationEvent _ _ _ => Option IndexerEvent
  | .escrowCall _ _ => List Char
  | .waitReceipt _ => BlockchainResult
  | .randomId => List Char
  | .now => ℕ
  | .notify _ _ => Unit

abbrev Code := Prog Op Ans Thrown

abbrev ask (o : Op) : Code (Ans o) := Prog.call o

/-- A check that does not interact. -/
abbrev check {α : Type} (x : Except Thrown α) : Code α := Prog.ofExcept x

/-! ### The configuration -/

structure Deployment where
  codec : AddressCodec
  chainId : ℕ
  escrowAddress : List Char
  tokenAddress : List Char
  /-- The independent RPC providers, by the hash of their URL. -/
  witnessIds : List (List Char)
  maxAttempts : ℕ
  manualApprovalEnabled : Bool
  /-- The second key of the action lock. -/
  hashtext : List Char → ℤ

/-! ### The store -/

/-- The database, and which process holds which action lock. -/
structure Store where
  rows : List Trigger
  locks : ℤ → Option ℕ

namespace Store

def lookup (s : Store) (k : List Char) : Option Trigger := Table.lookup triggerSchema k s.rows

/-- `ORDER BY created_at DESC LIMIT 1`. -/
def latest (s : Store) (actionKey : List Char) : Option Trigger :=
  Table.latest (fun r => decide (r.actionKey = actionKey)) s.rows

/-- The unresolved dispatches that exclude this signer. -/
def Excludes (scope : SignerScope) (r : Trigger) : Prop :=
  r.Unresolved ∧ (r.dispatchSignerScope = some scope ∨ r.dispatchSignerScope = none)

instance (scope : SignerScope) (r : Trigger) : Decidable (Excludes scope r) :=
  inferInstanceAs (Decidable (_ ∧ _))

/-- `ORDER BY dispatch_started_at, id LIMIT 1`. -/
def earliest (rows : List Trigger) : Option Trigger :=
  rows.foldl (fun best r =>
    match best with
    | none => some r
    | some b => if r.dispatchStartedAt.getD 0 < b.dispatchStartedAt.getD 0 then some r else best)
    none

end Store

/-! ### What the operations do -/

/-- What becomes of a statement. -/
inductive Fate
  | works
  /-- The connection is lost before the statement takes effect. -/
  | lost (message : List Char)
  /-- The connection is lost after the statement took effect. -/
  | unacknowledged (message : List Char)

/-- The choices that the store leaves open. -/
structure Luck where
  fate : Fate
  /-- `NOW()` of the database. -/
  time : ℕ
  /-- What the chain, the other services and the process itself answer. -/
  reply : (o : Op) → Except Thrown (Ans o)

/-- The outcome of a statement with this effect. -/
def statement {α : Type} (s : Store) (effect : Except (Table.Violation String) (α × List Trigger)) :
    Fate → Except Thrown α × Store
  | .works =>
    match effect with
    | .ok (a, rows) => (.ok a, { s with rows })
    | .error v => (.error (.database (.violation v)), s)
  | .lost message => (.error (.database (.unavailable message)), s)
  | .unacknowledged message =>
    match effect with
    | .ok (_, rows) => (.error (.database (.unavailable message)), { s with rows })
    | .error _ => (.error (.database (.unavailable message)), s)

/-- A statement that reads. -/
def query {α : Type} (s : Store) (a : α) : Fate → Except Thrown α × Store :=
  statement s (.ok (a, s.rows))

def claimChange (time : ℕ) (scope : SignerScope) (r : Trigger) : Trigger :=
  { r with dispatchStartedAt := some time, dispatchSignerScope := some scope, status := .executing }

def MayClaim (rows : List Trigger) (scope : SignerScope) (r : Trigger) : Prop :=
  ¬ r.Claimed ∧ r.fundedBinding.map (fun b => b .chainId) = some scope.chainId ∧
    (r.status = .pending ∨ r.status = .executing ∨ r.status = .failed ∨
      r.status = .pendingApproval) ∧
    ∀ other ∈ rows, ¬ Store.Excludes scope other

instance (rows : List Trigger) (scope : SignerScope) (r : Trigger) :
    Decidable (MayClaim rows scope r) := inferInstanceAs (Decidable (_ ∧ _))

def MayResolve (e : OracleDispatchFinality) (r : Trigger) : Prop :=
  r.dispatchSignerScope = some e.signerScope ∧ r.txHash = some e.transactionHash ∧ r.Unresolved

instance (e : OracleDispatchFinality) (r : Trigger) : Decidable (MayResolve e r) :=
  inferInstanceAs (Decidable (_ ∧ _))

def update (s : Store) (k : List Char) (cond : Trigger → Bool) (change : Trigger → Trigger) :
    Except (Table.Violation String) (Option Trigger × List Trigger) :=
  Table.updateWhere triggerSchema k cond change s.rows

/-- The same update, of which only a part of the answer is used. -/
def updateTo {α : Type} (f : Option Trigger → α)
    (x : Except (Table.Violation String) (Option Trigger × List Trigger)) :
    Except (Table.Violation String) (α × List Trigger) :=
  x.map fun (row, rows) => (f row, rows)

variable (d : Deployment)

/-- The answer to an operation of the process `p`, and the store after it; `none` while the process
has to wait for a lock. -/
def perform (p : ℕ) (o : Op) (luck : Luck) (s : Store) : Option (Except Thrown (Ans o) × Store) :=
  match o with
  | .lock actionKey =>
    match luck.fate, s.locks (d.hashtext actionKey) with
    | .works, none =>
      some (.ok (), { s with locks := Function.update s.locks (d.hashtext actionKey) (some p) })
    | .works, some _ => none
    | .lost message, _ => some (.error (.database (.unavailable message)), s)
    | .unacknowledged message, _ => some (.error (.database (.unavailable message)), s)
  | .unlock actionKey =>
    -- with its connection a process loses its lock, too
    let s' := if s.locks (d.hashtext actionKey) = some p then
      { s with locks := Function.update s.locks (d.hashtext actionKey) none } else s
    match luck.fate with
    | .works => some (.ok (), s')
    | .lost message => some (.error (.database (.unavailable message)), s')
    | .unacknowledged message => some (.error (.database (.unavailable message)), s')
  | .insertTrigger data =>
    some (statement s ((Table.insert triggerSchema data.row s.rows).map (data.row, ·)) luck.fate)
  | .getTriggerByIdempotencyKey k => some (query s (s.lookup k) luck.fate)
  | .getLatestTriggerByActionKey a => some (query s (s.latest a) luck.fate)
  | .getTriggersByStatus status limit =>
    some (query s ((s.rows.filter fun r => r.status = status).take limit) luck.fate)
  | .updateTrigger k updates =>
    some (statement s (updateTo (fun _ => ()) (update s k (fun _ => true) updates.apply)) luck.fate)
  | .approveTrigger k actor =>
    some (statement s (update s k (fun r => r.status = .pendingApproval)
      fun r => { r with status := .pending, approvedBy := some actor }) luck.fate)
  | .rejectTrigger k actor reason =>
    some (statement s (update s k (fun r => r.status = .pendingApproval)
      fun r => { r with
        status := .rejected, rejectedBy := some actor, rejectionReason := reason }) luck.fate)
  | .getUnresolvedSignerDispatch scope =>
    some (query s (Store.earliest (s.rows.filter fun r => Store.Excludes scope r)) luck.fate)
  | .claimTriggerDispatch k scope =>
    some (statement s (updateTo Option.isSome
      (update s k (fun r => MayClaim s.rows scope r) (claimChange luck.time scope))) luck.fate)
  | .storeFinality k e =>
    some (statement s (updateTo Option.isSome (update s k (fun r => MayResolve e r)
      fun r => { r with dispatchFinalityEvidence := some e })) luck.fate)
  | .retainedFinality k scope hash =>
    some (query s (((s.lookup k).filter fun r =>
      r.dispatchSignerScope = some scope ∧ r.txHash = some hash).bind
        Trigger.dispatchFinalityEvidence) luck.fate)
  | .getTrade tradeId => some (luck.reply (.getTrade tradeId), s)
  | .isTradePaused tradeId => some (luck.reply (.isTradePaused tradeId), s)
  | .containment tradeId => some (luck.reply (.containment tradeId), s)
  | .witnessFunding binding => some (luck.reply (.witnessFunding binding), s)
  | .signerAddress => some (luck.reply .signerAddress, s)
  | .witnessDispatch scope hash => some (luck.reply (.witnessDispatch scope hash), s)
  | .witnessProgression evidence binding =>
    some (luck.reply (.witnessProgression evidence binding), s)
  | .findConfirmationEvent hash tradeId name =>
    some (luck.reply (.findConfirmationEvent hash tradeId name), s)
  | .escrowCall trigger call => some (luck.reply (.escrowCall trigger call), s)
  | .waitReceipt hash => some (luck.reply (.waitReceipt hash), s)
  | .randomId => some (luck.reply .randomId, s)
  | .now => some (luck.reply .now, s)
  | .notify eventType message => some (luck.reply (.notify eventType message), s)

/-- The locks of a process go with it. -/
def abandon (p : ℕ) (s : Store) : Store :=
  { s with locks := fun id => if s.locks id = some p then none else s.locks id }

end Cotsel.Oracle
