import Cotsel.Oracle.Trigger

/-!
# Errors

`oracle/src/utils/errors.ts`: the errors the oracle throws itself, how it classifies those of the
database, the chain and other services, and the status it gives a trigger that failed.
-/

namespace Cotsel.Oracle

open Text Sdk

structure OracleError where
  message : List Char
  errorType : ErrorType
  isTerminal : Bool
  /-- Whether the oracle wrote the message itself. -/
  callerSafe : Bool
deriving DecidableEq

inductive DatabaseError
  /-- The statement is refused by an index or a row trigger. -/
  | violation (v : Table.Violation String)
  /-- The connection is lost, or there is none. -/
  | unavailable (message : List Char)
deriving DecidableEq

/-- Whatever a call may throw. -/
inductive Thrown
  | oracle (e : OracleError)
  | database (e : DatabaseError)
  /-- Any other error, with its `code`. -/
  | other (code message : List Char)
deriving DecidableEq

def validationError (message : List Char) : Thrown :=
  .oracle ⟨message, .validation, true, true⟩

def tradeContainedError (message : List Char) : Thrown :=
  .oracle ⟨message, .validation, false, true⟩

/-- `new Error(message)`. -/
def plainError (message : List Char) : Thrown := .other [] message

/-- `getErrorMessage`. -/
def Thrown.message : Thrown → List Char
  | .oracle e => e.message
  | .database (.violation (.unique name)) =>
    lit "duplicate key value violates unique constraint \"" ++ lit name ++ lit "\""
  | .database (.violation (.refused message)) => lit message
  | .database (.unavailable message) => message
  | .other _ message => message

/-- `error.code === '23505'`. -/
def Thrown.IsUniqueViolation : Thrown → Prop
  | .database (.violation (.unique _)) => True
  | _ => False

instance : DecidablePred Thrown.IsUniqueViolation
  | .oracle _ => isFalse id
  | .database (.violation (.unique _)) => isTrue trivial
  | .database (.violation (.refused _)) => isFalse id
  | .database (.unavailable _) => isFalse id
  | .other _ _ => isFalse id

/-- `error.code === 'CALL_EXCEPTION'`. -/
def Thrown.isCallException : Thrown → Bool
  | .other code _ => decide (code = lit "CALL_EXCEPTION")
  | _ => false

def ErrorType.lowerName : ErrorType → String
  | .validation => "validation"
  | .network => "network"
  | .contract => "contract"
  | .terminal => "terminal"
  | .indexerLag => "indexer_lag"

def storedFailureMessage (errorType : Option ErrorType) : List Char :=
  lit "Oracle " ++ lit ((errorType.map ErrorType.lowerName).getD "unknown") ++
    lit " failure; detail is recorded on the trigger"

def publicFailureMessage (e : OracleError) : List Char :=
  if e.callerSafe then e.message else storedFailureMessage (some e.errorType)

/-- The texts that mark a violation of the business rules. -/
def validationTexts : List String :=
  ["Cannot release stage 1", "Cannot confirm arrival", "Cannot finalize", "Invalid trade ID",
    "Dispute window", "expected LOCKED", "expected IN_TRANSIT", "expected ARRIVAL_CONFIRMED"]

def networkTexts : List String :=
  ["network", "timeout", "ECONNREFUSED", "ETIMEDOUT", "ENOTFOUND", "fetch failed", "connection"]

def contractTexts : List String := ["execution reverted", "revert", "require"]

/-- The reverts that cannot succeed later, in lower case. -/
def terminalTexts : List String :=
  ["invalid state", "not authorized", "trade does not exist", "already executed", "paused",
    "oracle disabled", "only oracle", "proposal expired", "timelock not elapsed"]

def mentions (message : List Char) (texts : List String) : Bool :=
  texts.any fun text => includes message (lit text)

def classifyError : Thrown → OracleError
  | .oracle e => e
  | error =>
    let message := error.message
    if mentions message validationTexts then ⟨message, .validation, true, false⟩
    else if mentions message networkTexts then ⟨message, .network, false, false⟩
    else if mentions message contractTexts then
      ⟨message, .contract, mentions (toLowerCase message) terminalTexts, false⟩
    else ⟨message, .network, false, false⟩

def determineNextStatus (e : OracleError) (attemptCount maxAttempts : ℕ) : TriggerStatus :=
  if e.isTerminal then .terminalFailure
  else if attemptCount ≥ maxAttempts then .exhaustedNeedsRedrive
  else .failed

end Cotsel.Oracle
