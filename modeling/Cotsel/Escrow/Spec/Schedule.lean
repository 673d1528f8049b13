import Mathlib.Algebra.Order.Round
import Mathlib.Data.Rat.Floor
import Cotsel.Escrow.MockUsdc

/-!
# The goods value behind a launch schedule

`isValid` never sees the goods value: it inverts the half-up rounded supplier fee by trying
`⌊net · 10000 / 9950⌋` and the next cent.  `Principal` states what a schedule is in the exact
terms of the launch economics, with Mathlib's `round` (half up) on the rationals, and
`isValid_iff_principal` says that the two candidates never miss the goods value and never accept
a schedule that has none.

The proof computes `isValid` once and for all (`isValid_eq`): every `uint256` operation of
`matchesGoods` fits as soon as the goods amount in base units does.
-/

namespace Cotsel.Escrow.LaunchSettlementSchedule

open Guard

/-- The goods value `g` in cents stands behind the three amounts: 60 % of it less the supplier's
half percent, the remaining 40 %, and both half percents with the fixed 4.00, each share rounded
half up to a cent. -/
structure Principal (platformFees first second g : ℕ) : Prop where
  fits : g * 10000 < uint256Bound
  nonneg : 0 ≤ round (3 / 5 * g : ℚ) - round (1 / 200 * g : ℚ)
  first_eq : (first : ℤ) = (round (3 / 5 * g : ℚ) - round (1 / 200 * g : ℚ)) * 10000
  second_eq : (second : ℤ) = (g - round (3 / 5 * g : ℚ)) * 10000
  fees_eq : (platformFees : ℤ) = (2 * round (1 / 200 * g : ℚ) + 400) * 10000

/-! ### Rounding -/

/-- The integer expression of the library is the rational share, rounded half up. -/
theorem round_share (g bps : ℕ) : round (bps / 10000 * g : ℚ) = ((g * bps + 5000) / 10000 : ℕ) := by
  have hshift : (bps / 10000 * g + 1 / 2 : ℚ) = ((g * bps + 5000 : ℕ) : ℚ) / (10000 : ℕ) := by
    push_cast
    ring
  rw [round_eq, hshift, Rat.floor_natCast_div_natCast]
  norm_cast

theorem round_first (g : ℕ) : round (3 / 5 * g : ℚ) = ((g * 6000 + 5000) / 10000 : ℕ) := by
  rw [← round_share]
  norm_num

theorem round_fee (g : ℕ) : round (1 / 200 * g : ℚ) = ((g * 50 + 5000) / 10000 : ℕ) := by
  rw [← round_share]
  norm_num

/-- The equations of `Principal` on natural numbers, as `matches` evaluates them. -/
def Fits (platformFees first second g : ℕ) : Prop :=
  (g * 50 + 5000) / 10000 ≤ (g * 6000 + 5000) / 10000 ∧
    first = ((g * 6000 + 5000) / 10000 - (g * 50 + 5000) / 10000) * 10000 ∧
    second = (g - (g * 6000 + 5000) / 10000) * 10000 ∧
    platformFees = (2 * ((g * 50 + 5000) / 10000) + 400) * 10000

instance (platformFees first second g : ℕ) : Decidable (Fits platformFees first second g) :=
  inferInstanceAs (Decidable (_ ∧ _))

variable {platformFees first second g : ℕ}

theorem principal_iff : Principal platformFees first second g ↔
    g * 10000 < uint256Bound ∧ Fits platformFees first second g := by
  constructor
  · rintro ⟨hfits, hnonneg, hfirst, hsecond, hfees⟩
    rw [round_first, round_fee] at *
    refine ⟨hfits, ?_, ?_, ?_, ?_⟩ <;> omega
  · rintro ⟨hfits, hle, hfirst, hsecond, hfees⟩
    refine ⟨hfits, ?_, ?_, ?_, ?_⟩ <;> simp only [round_first, round_fee] <;> omega

/-- The fee of a principal and its net tranches add up to it, so the three amounts have one
principal at most. -/
theorem Fits.unique {g' : ℕ} (h : Fits platformFees first second g)
    (h' : Fits platformFees first second g') : g = g' := by
  obtain ⟨hle, hfirst, hsecond, hfees⟩ := h
  obtain ⟨hle', hfirst', hsecond', hfees'⟩ := h'
  omega

/-! ### The two candidates -/

/-- The first goods value that `isValid` tries. -/
def candidate (first second : ℕ) : ℕ := (first + second) / 10000 * 10000 / 9950

/-- With `g = 200 q + r`, the candidate is `g` for `r < 100` and `g - 1` from there on. -/
theorem Fits.candidate_eq (h : Fits platformFees first second g) :
    candidate first second = g ∨ candidate first second + 1 = g := by
  obtain ⟨hle, hfirst, hsecond, hfees⟩ := h
  have hnet : first + second = (g - (g * 50 + 5000) / 10000) * 10000 := by omega
  unfold candidate
  omega

theorem Fits.whole_cents (h : Fits platformFees first second g) :
    ¬ (platformFees % 10000 ≠ 0 ∨ first % 10000 ≠ 0 ∨ second % 10000 ≠ 0) := by
  obtain ⟨hle, hfirst, hsecond, hfees⟩ := h
  omega

theorem Fits.net_le (h : Fits platformFees first second g) : first + second ≤ g * 10000 := by
  obtain ⟨hle, hfirst, hsecond, hfees⟩ := h
  omega

/-! ### The checked arithmetic -/

theorem roundedShare_eq {bps : ℕ} (hfits : g * bps + 5000 < uint256Bound) :
    roundedShare g bps = .ok ((g * bps + 5000) / 10000 * 10000) := by
  have hrounded : (g * bps + 5000) / 10000 * 10000 < uint256Bound := by omega
  have hproduct : g * bps < uint256Bound := by omega
  simp only [roundedShare, mulU256, addU256, checkedMul, checkedAdd, bpsDenominator,
    usdcBaseUnitsPerCent, hproduct, hfits, hrounded, if_true, bind, Except.bind]

theorem raises_roundedShare_overflow {bps : ℕ} :
    Raises (fun e => e = .overflow) (roundedShare g bps) := by
  refine Raises.bind (raises_checkedMul rfl) fun _ _ => Raises.bind ?_ fun _ _ => ?_
  · exact raises_checkedAdd.mpr fun _ => rfl
  · exact raises_checkedMul rfl

theorem addU256_eq {a b : ℕ} (h : a + b < uint256Bound) : addU256 a b = .ok (a + b) := if_pos h

/-- The sizes in `matches`, for any bound above them. -/
theorem sizes_lt {B fee gross : ℕ} (hlarge : 10000000000 ≤ B) (hfits : g * 10000 < B)
    (hfee : fee = (g * 50 + 5000) / 10000 * 10000)
    (hgross : gross = (g * 6000 + 5000) / 10000 * 10000) :
    g * 50 + 5000 < B ∧ g * 6000 + 5000 < B ∧ gross ≤ g * 10000 ∧ fee + fee < B ∧
      fee + fee + 4000000 < B := by
  omega

/-- The comparisons of `matches`, once its arithmetic is carried out. -/
theorem fits_iff {fee gross goods : ℕ} (hfee : fee = (g * 50 + 5000) / 10000 * 10000)
    (hgross : gross = (g * 6000 + 5000) / 10000 * 10000) (hgoods : goods = g * 10000) :
    Fits platformFees first second g ↔ fee ≤ gross ∧ first = gross - fee ∧
      second = goods - gross ∧ platformFees = fee + fee + 4000000 := by
  unfold Fits
  omega

/-- `matches` decides the equations as soon as the goods amount fits. -/
theorem matchesGoods_eq (hfits : g * 10000 < uint256Bound) :
    matchesGoods g platformFees first second = .ok (decide (Fits platformFees first second g)) := by
  -- the amounts get names, so that no literal is unfolded while they are compared
  obtain ⟨fee, hfee⟩ : ∃ fee, fee = (g * 50 + 5000) / 10000 * 10000 := ⟨_, rfl⟩
  obtain ⟨gross, hgross⟩ : ∃ gross, gross = (g * 6000 + 5000) / 10000 * 10000 := ⟨_, rfl⟩
  obtain ⟨goods, hgoods⟩ : ∃ goods, goods = g * 10000 := ⟨_, rfl⟩
  have hlarge : 10000000000 ≤ uint256Bound := by norm_num [uint256Bound]
  obtain ⟨hfeeFits, hgrossFits, hle, hboth, hsupport⟩ := sizes_lt hlarge hfits hfee hgross
  have hiff := @fits_iff platformFees first second g fee gross goods hfee hgross hgoods
  have hbuyer : roundedShare g buyerPlatformFeeBps = .ok fee := hfee ▸ roundedShare_eq hfeeFits
  have hsupplier : roundedShare g supplierPlatformFeeBps = .ok fee :=
    hfee ▸ roundedShare_eq hfeeFits
  have hfirst : roundedShare g firstSupplierTrancheBps = .ok gross :=
    hgross ▸ roundedShare_eq hgrossFits
  have hmul : mulU256 g usdcBaseUnitsPerCent = .ok goods := hgoods ▸ if_pos hfits
  have hsub : subU256 goods gross = .ok (goods - gross) := if_pos (hgoods ▸ hle)
  have hfees : addU256 (fee + fee) settlementSupportFee = .ok (fee + fee + 4000000) :=
    addU256_eq hsupport
  refine bind_eq_ok.mpr ⟨fee, hbuyer, bind_eq_ok.mpr ⟨fee, hsupplier, bind_eq_ok.mpr
    ⟨gross, hfirst, bind_eq_ok.mpr ⟨goods, hmul, ?_⟩⟩⟩⟩
  split_ifs with h₁ h₂
  · rw [pure_eq_ok, decide_eq_false fun h => Nat.not_le.mpr h₁ (hiff.mp h).1]
  · rw [pure_eq_ok, decide_eq_false fun h => h₂ (hiff.mp h).2.1]
  · refine bind_eq_ok.mpr ⟨goods - gross, hsub, ?_⟩
    split_ifs with h₃
    · rw [pure_eq_ok, decide_eq_false fun h => h₃ (hiff.mp h).2.2.1]
    · refine bind_eq_ok.mpr ⟨fee + fee, addU256_eq hboth, bind_eq_ok.mpr ⟨_, hfees, ?_⟩⟩
      rw [pure_eq_ok, decide_eq_decide]
      exact ⟨fun h => hiff.mpr ⟨Nat.not_lt.mp h₁, not_not.mp h₂, not_not.mp h₃, h⟩,
        fun h => (hiff.mp h).2.2.2⟩

/-- A goods amount that does not fit is the only reason for `matches` to fail. -/
theorem matchesGoods_overflow (hover : uint256Bound ≤ g * 10000) :
    matchesGoods g platformFees first second = .error .overflow := by
  have hgoods : mulU256 g usdcBaseUnitsPerCent = .error .overflow :=
    if_neg (Nat.not_lt.mpr hover)
  -- each share that is computed before the goods amount fits or overflows, too
  have hshare : ∀ bps (k : ℕ → Except EscrowError Bool), (∀ x, k x = .error .overflow) →
      (roundedShare g bps >>= k) = .error .overflow := by
    intro bps k hk
    cases hx : roundedShare g bps with
    | error e => exact congrArg _ (raises_roundedShare_overflow e hx)
    | ok x => exact hk x
  refine hshare _ _ fun buyerFee => hshare _ _ fun supplierFee => hshare _ _ fun gross => ?_
  exact bind_eq_error.mpr (Or.inl hgoods)

variable {T : Type} (P : Platform T)

theorem candidate_eq_mulDiv (h : first + second < uint256Bound) :
    P.mulDiv ((first + second) / usdcBaseUnitsPerCent) bpsDenominator
      (bpsDenominator - supplierPlatformFeeBps) = .ok (candidate first second) := by
  have hle : candidate first second ≤ first + second := by
    unfold candidate
    omega
  rw [P.mulDiv_eq (by decide)]
  exact if_pos (hle.trans_lt h)

theorem succ_lt_of_mul_lt {B c : ℕ} (hB : 2 ≤ B) (h : c * 10000 < B) : c + 1 < B := by
  omega

theorem isValid_eq (platformFees first second : ℕ) : isValid P platformFees first second =
    if platformFees % 10000 ≠ 0 ∨ first % 10000 ≠ 0 ∨ second % 10000 ≠ 0 then .ok false
    else if uint256Bound ≤ first + second then .error .overflow
    else if uint256Bound ≤ candidate first second * 10000 then .error .overflow
    else if Fits platformFees first second (candidate first second) then .ok true
    else if uint256Bound ≤ (candidate first second + 1) * 10000 then .error .overflow
    else .ok (decide (Fits platformFees first second (candidate first second + 1))) := by
  by_cases hcents : platformFees % 10000 ≠ 0 ∨ first % 10000 ≠ 0 ∨ second % 10000 ≠ 0
  · rw [if_pos hcents]
    exact if_pos hcents
  refine (if_neg hcents).trans ?_
  split_ifs with hnet hover hhere hnext
  · exact bind_eq_error.mpr (Or.inl (if_neg (Nat.not_lt.mpr hnet)))
  all_goals rw [addU256_eq (Nat.not_le.mp hnet)]
  all_goals change (P.mulDiv _ _ _ >>= _) = _
  all_goals rw [candidate_eq_mulDiv P (Nat.not_le.mp hnet)]
  all_goals change (matchesGoods _ _ _ _ >>= _) = _
  · rw [matchesGoods_overflow hover]
    rfl
  all_goals rw [matchesGoods_eq (Nat.not_le.mp hover)]
  · rw [decide_eq_true hhere]
    rfl
  all_goals
    have hsucc : candidate first second + 1 < uint256Bound :=
      succ_lt_of_mul_lt (by norm_num [uint256Bound]) (Nat.not_le.mp hover)
    rw [decide_eq_false hhere]
    rw [addU256_eq hsucc]
  · exact matchesGoods_overflow hnext
  · exact matchesGoods_eq (Nat.not_le.mp hnext)

/-! ### Completeness and soundness -/

/-- `isValid` accepts exactly the schedules that a goods value stands behind; that goods value is
unique; and the only failure is an overflow, on amounts that have none. -/
theorem isValid_iff_principal (platformFees first second : ℕ) :
    (isValid P platformFees first second = .ok true ↔
      ∃ g, Principal platformFees first second g) ∧
    (isValid P platformFees first second = .ok true →
      ∃! g, Principal platformFees first second g) ∧
    ∀ e, isValid P platformFees first second = .error e →
      e = .overflow ∧ ¬ ∃ g, Principal platformFees first second g := by
  -- a principal puts `isValid` on the branch of its candidate
  have hcomplete : (∃ g, Principal platformFees first second g) →
      isValid P platformFees first second = .ok true := by
    rintro ⟨g, hg⟩
    obtain ⟨hfits, h⟩ := principal_iff.mp hg
    rw [isValid_eq, if_neg h.whole_cents, if_neg (Nat.not_le.mpr (h.net_le.trans_lt hfits))]
    rcases h.candidate_eq with hc | hc
    · rw [hc, if_neg (Nat.not_le.mpr hfits), if_pos h]
    · have hless : candidate first second * 10000 ≤ g * 10000 :=
        Nat.mul_le_mul_right 10000 (hc ▸ Nat.le_succ _)
      rw [hc, if_neg (Nat.not_le.mpr (hless.trans_lt hfits)), if_neg (Nat.not_le.mpr hfits),
        decide_eq_true h, ite_self]
  have hsound : isValid P platformFees first second = .ok true →
      ∃ g, Principal platformFees first second g := by
    rw [isValid_eq]
    split_ifs with hcents hnet hover hhere hnext
    · simp
    · simp
    · simp
    · exact fun _ => ⟨_, principal_iff.mpr ⟨Nat.not_le.mp hover, hhere⟩⟩
    · simp
    · intro h
      exact ⟨_, principal_iff.mpr ⟨Nat.not_le.mp hnext, by simpa using h⟩⟩
  refine ⟨⟨hsound, hcomplete⟩, ?_, ?_⟩
  · intro h
    obtain ⟨g, hg⟩ := hsound h
    refine ⟨g, hg, ?_⟩
    intro g' hg'
    exact (principal_iff.mp hg').2.unique (principal_iff.mp hg).2
  · intro e he
    refine ⟨?_, ?_⟩
    · rw [isValid_eq] at he
      split_ifs at he <;> cases he <;> rfl
    · intro hg
      rw [hcomplete hg] at he
      cases he

/-- The schedule of goods of 1,000.00 has that goods value and no other. -/
theorem principal_of_thousand : ∃! g, Principal 14000000 595000000 400000000 g :=
  (isValid_iff_principal (mockPlatform 1) 14000000 595000000 400000000).2.1 (by decide)

end Cotsel.Escrow.LaunchSettlementSchedule
