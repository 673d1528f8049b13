import Cotsel.Escrow.Platform
import Cotsel.Library.Guard

/-!
# `LaunchSettlementSchedule`

The launch economics of `contracts/src/LaunchSettlementSchedule.sol`, in cents of USDC (10,000
base units).  The supplier's two tranches determine the goods value up to rounding: the schedule
is valid when one of two neighbouring goods values reproduces both tranches and the platform fee.
All arithmetic is the checked `uint256` arithmetic of Solidity.
-/

namespace Cotsel.Escrow.LaunchSettlementSchedule

open Guard

def usdcBaseUnitsPerCent : ℕ := 10000
def buyerPlatformFeeBps : ℕ := 50
def supplierPlatformFeeBps : ℕ := 50
def firstSupplierTrancheBps : ℕ := 6000
def bpsDenominator : ℕ := 10000
def settlementSupportFee : ℕ := 4000000

def addU256 (a b : ℕ) : Except EscrowError ℕ := checkedAdd uint256Bound .overflow a b

def subU256 (a b : ℕ) : Except EscrowError ℕ := checkedSub .underflow a b

def mulU256 (a b : ℕ) : Except EscrowError ℕ := checkedMul uint256Bound .overflow a b

/-- `bps` basis points of `goodsCents`, rounded half up to a cent, in base units. -/
def roundedShare (goodsCents bps : ℕ) : Except EscrowError ℕ := do
  let product ← mulU256 goodsCents bps
  let rounded ← addU256 product 5000
  mulU256 (rounded / bpsDenominator) usdcBaseUnitsPerCent

/-- `matches` of the library: the goods value reproduces the fee and both tranches. -/
def matchesGoods (goodsCents platformFeesAmount supplierFirstTranche supplierSecondTranche : ℕ) :
    Except EscrowError Bool := do
  let buyerFee ← roundedShare goodsCents buyerPlatformFeeBps
  let supplierFee ← roundedShare goodsCents supplierPlatformFeeBps
  let firstTrancheGross ← roundedShare goodsCents firstSupplierTrancheBps
  let goodsAmount ← mulU256 goodsCents usdcBaseUnitsPerCent
  -- `&&` stops at the first conjunct that fails, before the later subtractions are evaluated
  if firstTrancheGross < supplierFee then pure false
  else if supplierFirstTranche ≠ firstTrancheGross - supplierFee then pure false
  else do
    let second ← subU256 goodsAmount firstTrancheGross
    if supplierSecondTranche ≠ second then pure false
    else do
      let fees ← addU256 buyerFee supplierFee
      let fees ← addU256 fees settlementSupportFee
      pure (decide (platformFeesAmount = fees))

/-- `isValid`: whole cents, and the goods value found from the net tranches, or the next cent,
matches. -/
def isValid {T : Type} (P : Platform T) (platformFeesAmount supplierFirstTranche
    supplierSecondTranche : ℕ) : Except EscrowError Bool :=
  if platformFeesAmount % usdcBaseUnitsPerCent ≠ 0 ∨
      supplierFirstTranche % usdcBaseUnitsPerCent ≠ 0 ∨
      supplierSecondTranche % usdcBaseUnitsPerCent ≠ 0 then pure false
  else do
    let net ← addU256 supplierFirstTranche supplierSecondTranche
    let goodsCandidate ← P.mulDiv (net / usdcBaseUnitsPerCent) bpsDenominator
      (bpsDenominator - supplierPlatformFeeBps)
    let here ← matchesGoods goodsCandidate platformFeesAmount supplierFirstTranche
      supplierSecondTranche
    if here then pure true
    else do
      let next ← addU256 goodsCandidate 1
      matchesGoods next platformFeesAmount supplierFirstTranche supplierSecondTranche

end Cotsel.Escrow.LaunchSettlementSchedule
