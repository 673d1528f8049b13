import Mathlib

/-!
# Balances

`Moved b x y v b'` says that `b'` is the table of balances `b` after `v` units went from `x` to
`y`, with `x = y` allowed (then nothing changes).  `sum_range_of_eq_off` is the bookkeeping rule
for a table of `n` entries of which one changes.
-/

namespace Ledger

variable {α : Type*} [DecidableEq α]

/-- `v` units went from `x` to `y`, and nothing else changed. -/
def Moved (b : α → ℕ) (x y : α) (v : ℕ) (b' : α → ℕ) : Prop :=
  v ≤ b x ∧
    b' = Function.update (Function.update b x (b x - v)) y
      (Function.update b x (b x - v) y + v)

namespace Moved

variable {b b' : α → ℕ} {x y z : α} {v : ℕ}

theorem payer (h : Moved b x y v b') (hxy : x ≠ y) : b' x + v = b x := by
  rw [h.2, Function.update_of_ne hxy, Function.update_self]
  exact Nat.sub_add_cancel h.1

theorem payee (h : Moved b x y v b') (hxy : x ≠ y) : b' y = b y + v := by
  rw [h.2, Function.update_self, Function.update_of_ne hxy.symm]

theorem apply_of_ne (h : Moved b x y v b') (hzx : z ≠ x) : b' z = b z + if z = y then v else 0 := by
  rw [h.2]
  split_ifs with hzy
  · rw [hzy, Function.update_self, Function.update_of_ne (hzy ▸ hzx)]
  · rw [Function.update_of_ne hzy, Function.update_of_ne hzx, Nat.add_zero]

theorem self (h : Moved b x x v b') : b' x = b x := by
  rw [h.2, Function.update_self, Function.update_self]
  exact Nat.sub_add_cancel h.1

end Moved

/-- Of `n` entries only the `k`-th changes, so the totals differ by the change of that entry. -/
theorem sum_range_of_eq_off {n k : ℕ} {f f' : ℕ → ℕ} (hk : k < n)
    (h : ∀ i, i ≠ k → f' i = f i) :
    ∑ i ∈ Finset.range n, f' i + f k = ∑ i ∈ Finset.range n, f i + f' k := by
  have hmem : k ∈ Finset.range n := Finset.mem_range.mpr hk
  have hrest : ∑ i ∈ (Finset.range n).erase k, f' i = ∑ i ∈ (Finset.range n).erase k, f i :=
    Finset.sum_congr rfl fun i hi => h i (Finset.ne_of_mem_erase hi)
  rw [← Finset.add_sum_erase _ f' hmem, ← Finset.add_sum_erase _ f hmem, hrest]
  omega

theorem le_sum_range {n k : ℕ} (f : ℕ → ℕ) (hk : k < n) : f k ≤ ∑ i ∈ Finset.range n, f i :=
  Finset.single_le_sum (fun _ _ => Nat.zero_le _) (Finset.mem_range.mpr hk)

end Ledger
