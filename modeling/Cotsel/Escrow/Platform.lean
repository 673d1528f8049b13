import Cotsel.Escrow.Types
import Cotsel.Library.Ledger

/-!
# What the contract is deployed on

The code `AgroasysEscrow` calls but does not contain: the USDC token, `keccak256`, and from
OpenZeppelin `ECDSA.recover`, `Math.mulDiv` and `Pausable`.  A `Platform T` is any implementation of
these (`T` is the state of the token contract) that behaves as documented:

* a token call moves exactly the stated amount or reverts (`safeTransfer_ok`,
  `receiveWithAuthorization_ok`), and reverts for lack of funds only when funds are lacking
  (`safeTransfer_insufficient`);
* `ECDSA.recover` never returns the escrow's own address, which has no private key;
* `mulDiv` is exact, with a 512-bit product (`mulDiv_eq`), and `_pause` and `_unpause` set and clear
  the flag (`pause_eq`, `unpause_eq`).

Hashing is applied to structured preimages: `abi.encode` of a fixed list of typed fields is
injective, so a preimage is its list of fields.
-/

namespace Cotsel.Escrow

/-- What is hashed: texts, the EIP-712 domain, the two typed messages, and the final digest. -/
inductive Preimage
  | text (s : String)
  | domain (name version : String) (chainId : ℕ) (verifyingContract : Address)
  | createTradeAuthorization (buyer supplier : Address)
      (totalAmount logisticsAmount platformFeesAmount supplierFirstTranche
        supplierSecondTranche : ℕ) (ricardianHash : Bytes32) (nonce deadline : ℕ)
  | userActionAuthorization (user : Address) (action : SponsoredAction)
      (tradeId nonce deadline : ℕ)
  | typedData (domainSeparator structHash : Bytes32)
deriving DecidableEq

abbrev Signature := List (BitVec 8)

/-- The token and the libraries under an escrow deployed at the address `self`. -/
structure Platform (T : Type) where
  /-- `address(this)`. -/
  self : Address
  /-- `block.chainid`. -/
  chainId : ℕ
  keccak256 : Preimage → Bytes32
  /-- `ECDSA.recover`; `none` where it reverts. -/
  recover : Bytes32 → Signature → Option Address
  /-- `usdcToken.balanceOf`. -/
  balanceOf : T → Address → ℕ
  /-- `usdcToken.safeTransfer(recipient, amount)` called by `sender`. -/
  safeTransfer : T → (sender recipient : Address) → (amount : ℕ) → Except TokenError T
  /-- `usdcToken.receiveWithAuthorization(payer, recipient, value, ..)` called by `caller` in a
  block at time `now`. -/
  receiveWithAuthorization : T → (now : ℕ) → (caller payer recipient : Address) → (value : ℕ) →
    UsdcAuthorization → Except TokenError T
  mulDiv : (x y denominator : ℕ) → Except EscrowError ℕ
  /-- What `_pause` leaves of the flag `_paused`, after `_requireNotPaused`. -/
  pause : Bool → Bool
  /-- What `_unpause` leaves of the flag `_paused`, after `_requirePaused`. -/
  unpause : Bool → Bool
  recover_ne_self : ∀ digest signature, recover digest signature ≠ some self
  safeTransfer_ok : ∀ {t t' sender recipient amount},
    safeTransfer t sender recipient amount = .ok t' →
      Ledger.Moved (balanceOf t) sender recipient amount (balanceOf t')
  safeTransfer_insufficient : ∀ {t sender recipient amount},
    safeTransfer t sender recipient amount = .error .insufficientBalance →
      balanceOf t sender < amount
  receiveWithAuthorization_ok : ∀ {t t' now caller payer recipient value auth},
    receiveWithAuthorization t now caller payer recipient value auth = .ok t' →
      Ledger.Moved (balanceOf t) payer recipient value (balanceOf t')
  mulDiv_eq : ∀ {x y d}, d ≠ 0 →
    mulDiv x y d = if x * y / d < uint256Bound then .ok (x * y / d) else .error .overflow
  pause_eq : ∀ paused, pause paused = true
  unpause_eq : ∀ paused, unpause paused = false

namespace Platform

variable {T : Type} (P : Platform T)

def escrowBalance (t : T) : ℕ := P.balanceOf t P.self

/-- The token carries out every transfer between distinct live accounts that the balance covers
(ERC-20 without an account freeze). -/
def TransfersCovered : Prop :=
  ∀ t recipient amount, recipient ≠ 0 → amount ≤ P.escrowBalance t →
    ∃ t', P.safeTransfer t P.self recipient amount = .ok t'

/-- Whoever can sign one digest can sign every digest: signing needs the private key only. -/
def SignersCanSign : Prop :=
  ∀ account, (∃ digest signature, P.recover digest signature = some account) →
    ∀ digest, ∃ signature, P.recover digest signature = some account

end Platform

end Cotsel.Escrow
