import Cotsel.Treasury.AccountingPolicy

/-!
# What a provider's word entitles the treasury to

`core/providerHandoffAuthority.ts`.  A provider reports the state of a handoff in callbacks that may
be repeated, late or out of order.  `classifyProviderHandoffTransition` compares a report with the
recorded status: only an `advance` is applied, and two different terminal reports are a
`contradiction`.

A terminal status is never advanced (`not_advance_of_terminal`).
-/

namespace Cotsel.Treasury

/-! ### Authority -/

/-- `PROVIDER_HANDOFF_STATUSES`. -/
def ProviderHandoffStatus.text : ProviderHandoffStatus → List Char
  | created => Text.lit "CREATED"
  | submitted => Text.lit "SUBMITTED"
  | acknowledged => Text.lit "ACKNOWLEDGED"
  | processing => Text.lit "PROCESSING"
  | completed => Text.lit "COMPLETED"
  | failed => Text.lit "FAILED"
  | returned => Text.lit "RETURNED"

inductive ProviderHandoffAuthority
  | notHandedOff
  | inFlight
  | complete
  | terminalFailed
deriving DecidableEq

/-- `AUTHORITY`. -/
def resolveProviderHandoffAuthority : ProviderHandoffStatus → ProviderHandoffAuthority
  | .created => .notHandedOff
  | .submitted => .inFlight
  | .acknowledged => .inFlight
  | .processing => .inFlight
  | .completed => .complete
  | .failed => .terminalFailed
  | .returned => .terminalFailed

def isHandoffComplete (status : ProviderHandoffStatus) : Bool :=
  resolveProviderHandoffAuthority status = .complete

def isHandedOff (status : ProviderHandoffStatus) : Bool :=
  resolveProviderHandoffAuthority status = .inFlight ||
    resolveProviderHandoffAuthority status = .complete

/-- `resolveCompletionEvidenceFailure`: there is one. -/
def completionLacksEvidence (status : ProviderHandoffStatus)
    (evidenceReference bankReference : Option (List Char)) : Bool :=
  isHandoffComplete status &&
    !((evidenceReference.any fun r => !(Text.trim r).isEmpty) ||
      (bankReference.any fun r => !(Text.trim r).isEmpty))

/-! ### Reports in any order -/

def ProviderHandoffStatus.rank : ProviderHandoffStatus → ℕ
  | created => 0
  | submitted => 1
  | acknowledged => 2
  | processing => 2
  | completed => 3
  | failed => 3
  | returned => 3

/-- `TERMINAL`. -/
def ProviderHandoffStatus.isTerminal : ProviderHandoffStatus → Bool
  | completed | failed | returned => true
  | created | submitted | acknowledged | processing => false

/-- `ProviderHandoffDisposition`; a report is classified as one of the first four. -/
inductive ProviderHandoffDisposition
  | advance
  | replay
  | stale
  | contradiction
  | frozen
  | rejected
deriving DecidableEq

def classifyProviderHandoffTransition (current : Option ProviderHandoffStatus)
    (reported : ProviderHandoffStatus) : ProviderHandoffDisposition :=
  match current with
  | none => .advance
  | some current =>
    if current = reported then .replay
    else if current.isTerminal && reported.isTerminal then .contradiction
    else if current.isTerminal then .stale
    else if reported.rank < current.rank then .stale
    else .advance

variable {current reported : ProviderHandoffStatus}

theorem not_advance_of_terminal (h : current.isTerminal = true) :
    classifyProviderHandoffTransition (some current) reported ≠ .advance := by
  revert h
  cases current <;> cases reported <;> decide

end Cotsel.Treasury
