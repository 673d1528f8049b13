import Mathlib

/-!
# Finality positions

`sdk/src/finality.ts`: what is known about a transaction, and how a stored position may move.  The
classification of observations is in `TransactionFinality.lean`.
-/

namespace Cotsel.Sdk

/-- `TRANSACTION_FINALITY_STATES`. -/
inductive TransactionFinalityState
  | submitted
  | confirmed
  | safe
  | finalized
  | reverted
  | replaced
  | unknown
  | failed
deriving DecidableEq

structure TransactionFinalityPosition where
  state : TransactionFinalityState
  final : Bool
deriving DecidableEq

/-- `SUCCESS_RANK`. -/
def successRank : TransactionFinalityState → Option ℕ
  | .confirmed => some 1
  | .safe => some 2
  | .finalized => some 3
  | _ => none

/-- Whether a stored position may move to a newly classified one. -/
def canTransitionTransactionFinality (source : Option TransactionFinalityPosition)
    (target : TransactionFinalityPosition) : Bool :=
  if target.state = .finalized ∧ target.final = false then false
  else if target.state = .failed ∧ target.final = false then false
  else match source with
    | none => true
    | some p =>
      if p.state = target.state ∧ p.final = target.final then true
      else if p.final = true then false
      else if target.state = .failed then false
      else match successRank p.state, successRank target.state with
        | some fromRank, some toRank => decide (fromRank < toRank)
        | _, _ => true

inductive SettlementConfirmationStage
  | indexed
  | safe
  | finalized
deriving DecidableEq

def finalityFromConfirmationStage : SettlementConfirmationStage → TransactionFinalityPosition
  | .finalized => ⟨.finalized, true⟩
  | .safe => ⟨.safe, false⟩
  | .indexed => ⟨.confirmed, false⟩

end Cotsel.Sdk
