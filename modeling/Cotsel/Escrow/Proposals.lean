import Cotsel.Escrow.State

/-!
# Guards shared by the numbered proposals

The dispute, oracle-update, admin-change and treasury-payout functions repeat the same lists of
checks on their own mappings.  Each list is written once here, on a board; the functions of the
source apply it to their board.
-/

namespace Cotsel.Escrow

open Ballot Guard

variable {α : Type} (env : Env)

/-- The checks that open every approval and execution (in the source `_activeAdminChange`, and
inline elsewhere): the proposal exists, is open, and belongs to the epoch `epoch`. -/
def requireActive (epoch : ℕ) (b : Board Address α) (id : ℕ) :
    Except EscrowError (Proposal Address α) := do
  require (id < b.counter) .proposalNotFound
  require (0 < (b.proposals id).createdAt) .proposalNotInitialized
  require ((b.proposals id).executed = false) .alreadyExecuted
  require (b.cancelled id = false) .proposalCancelled
  require (env.timestamp ≤ b.expiresAt id) .proposalExpired
  require ((b.proposals id).epoch = epoch) .staleGovernanceProposal
  pure (b.proposals id)

/-- The approval of a timelocked governance proposal by `msg.sender`. -/
def approveProposal (epoch : ℕ) (b : Board Address α) (id : ℕ) :
    Except EscrowError (Board Address α) := do
  let _ ← requireActive env epoch b id
  require (b.hasApproved id env.sender = false) .alreadyApproved
  pure (b.approve id env.sender)

/-- The checks of a cancellation after the check that the number exists: the proposal is open and
past its deadline. -/
def requireExpired (b : Board Address α) (id : ℕ) : Except EscrowError Unit := do
  require (0 < (b.proposals id).createdAt) .proposalNotInitialized
  require ((b.proposals id).executed = false) .alreadyExecuted
  require (b.cancelled id = false) .alreadyCancelled
  require (b.expiresAt id < env.timestamp) .proposalNotExpired

/-- The cancellation of an expired proposal. -/
def cancelExpiredProposal (b : Board Address α) (id : ℕ) :
    Except EscrowError (Board Address α) := do
  require (id < b.counter) .proposalNotFound
  requireExpired env b id
  pure (b.markCancelled id)

end Cotsel.Escrow
