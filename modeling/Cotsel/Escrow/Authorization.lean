import Cotsel.Escrow.State

/-!
# Signed authorizations

A relayer acts for a user with an EIP-712 message the user signed.  The two kinds of messages
(`createTradeAuthorization` and `userActionAuthorization`) share one nonce per user, which every
successful relayed action consumes.
-/

namespace Cotsel.Escrow

open Guard

variable {T : Type} (P : Platform T) (env : Env)

/-- The arguments of `createTradeWithAuthorization`. -/
structure CreateTradeArgs where
  buyer : Address
  supplier : Address
  totalAmount : ℕ
  logisticsAmount : ℕ
  platformFeesAmount : ℕ
  supplierFirstTranche : ℕ
  supplierSecondTranche : ℕ
  ricardianHash : Bytes32
  authorizationNonce : ℕ
  authorizationDeadline : ℕ
  authorizationSignature : Signature
  usdcAuthorization : UsdcAuthorization

/-- The authorization arguments of the other relayed calls. -/
structure UserAuthorization where
  nonce : ℕ
  deadline : ℕ
  signature : Signature

/-- `_actionName`; the enumeration has no other value, so its last `revert` is not reached. -/
def actionName (action : SponsoredAction) : Bytes32 :=
  match action with
  | .createTrade => P.keccak256 (.text "CREATE_TRADE")
  | .openDispute => P.keccak256 (.text "OPEN_DISPUTE")
  | .cancelLockedTimeout => P.keccak256 (.text "CANCEL_LOCKED_TIMEOUT")
  | .refundInTransitTimeout => P.keccak256 (.text "REFUND_IN_TRANSIT_TIMEOUT")
  | .finalizeAfterDisputeWindow => P.keccak256 (.text "FINALIZE_AFTER_DISPUTE_WINDOW")
  | .finalizeAfterInspectionAcceptance =>
    P.keccak256 (.text "FINALIZE_AFTER_INSPECTION_ACCEPTANCE")

def hashTypedDataV4 (structHash : Bytes32) (s : State T) : Bytes32 :=
  P.keccak256 (.typedData s.domainSeparator structHash)

def requireAuthorization (user : Address) (nonce deadline : ℕ) (s : State T) :
    Except EscrowError Unit := do
  require (user ≠ 0) .invalidUser
  require (env.timestamp ≤ deadline) .authorizationExpired
  require (nonce = s.authorizationNonces user) .badAuthorizationNonce

def consumeAuthorization (user : Address) (action : SponsoredAction) (nonce deadline : ℕ)
    (s : State T) : State T :=
  { s with
    authorizationNonces := Function.update s.authorizationNonces user (nonce + 1) }.emit
    (.authorizationConsumed user (actionName P action) nonce env.sender deadline)

/-- `ECDSA.recover`, which reverts on a malformed signature. -/
def ecdsaRecover (digest : Bytes32) (signature : Signature) : Except EscrowError Address :=
  match P.recover digest signature with
  | some signer => .ok signer
  | none => .error .invalidSignature

/-- The typed message a buyer signs to create a trade. -/
def CreateTradeArgs.message (args : CreateTradeArgs) : Preimage :=
  .createTradeAuthorization args.buyer args.supplier args.totalAmount args.logisticsAmount
    args.platformFeesAmount args.supplierFirstTranche args.supplierSecondTranche
    args.ricardianHash args.authorizationNonce args.authorizationDeadline

/-- The common part of `_verifyCreateTradeAuthorization` and `_verifyUserActionAuthorization`:
the nonce and deadline are right, `user` signed `message`, and the nonce is consumed. -/
def verifyAuthorization (user : Address) (action : SponsoredAction) (message : Preimage)
    (nonce deadline : ℕ) (signature : Signature) (s : State T) :
    Except EscrowError (State T) := do
  requireAuthorization env user nonce deadline s
  let signer ← ecdsaRecover P (hashTypedDataV4 P (P.keccak256 message) s) signature
  require (signer = user) .badAuthorization
  pure (consumeAuthorization P env user action nonce deadline s)

def verifyCreateTradeAuthorization (args : CreateTradeArgs) (s : State T) :
    Except EscrowError (State T) :=
  verifyAuthorization P env args.buyer .createTrade args.message args.authorizationNonce
    args.authorizationDeadline args.authorizationSignature s

def verifyUserActionAuthorization (user : Address) (action : SponsoredAction) (tradeId : ℕ)
    (auth : UserAuthorization) (s : State T) : Except EscrowError (State T) :=
  verifyAuthorization P env user action
    (.userActionAuthorization user action tradeId auth.nonce auth.deadline)
    auth.nonce auth.deadline auth.signature s

end Cotsel.Escrow
