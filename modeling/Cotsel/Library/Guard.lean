import Mathlib

/-!
# Guarded computations

A call that may revert is a computation in `Except ε`: a list of guards `require p e`, each of
which stops the computation with `e` when `p` fails, followed by the effect.  The lemmas below
read such a computation backwards, one guard at a time:

* `require_bind_eq_ok`: it succeeds iff the guard holds and the rest succeeds;
* `require_bind_eq_error`: it fails with `e'` iff the guard fails with `e'`, or the guard holds
  and the rest fails with `e'`;
* `bind_eq_ok`, `bind_eq_error`: the same for a call to another computation.

`Raises E x` is the exceptional postcondition: every error `x` stops with satisfies `E`.
`Succeeds x` says that `x` does not stop.

`checkedAdd`, `checkedSub` and `checkedMul` are the arithmetic of a machine word that reverts
instead of wrapping around.
-/

namespace Guard

universe u v

variable {ε : Type u} {α β : Type v}

/-- `require p e` passes when `p` holds and stops with `e` otherwise. -/
def require (p : Prop) [Decidable p] (e : ε) : Except ε Unit :=
  if p then .ok () else .error e

section

variable {p : Prop} [Decidable p] {e e' : ε}

@[simp] theorem require_eq_ok {u : Unit} : require p e = .ok u ↔ p := by
  unfold require
  split_ifs with h <;> simp [h]

@[simp] theorem require_eq_error : require p e = .error e' ↔ ¬ p ∧ e = e' := by
  unfold require
  split_ifs with h <;> simp [h]

@[simp] theorem require_bind_eq_ok {β : Type} {k : Unit → Except ε β} {r : β} :
    (require p e >>= k) = .ok r ↔ p ∧ k () = .ok r := by
  unfold require
  split_ifs with h <;> simp [h, bind, Except.bind]

@[simp] theorem require_bind_eq_error {β : Type} {k : Unit → Except ε β} :
    (require p e >>= k) = .error e' ↔ (¬ p ∧ e = e') ∨ (p ∧ k () = .error e') := by
  unfold require
  split_ifs with h <;> simp [h, bind, Except.bind]

theorem require_bind_of_pos {β : Type} {k : Unit → Except ε β} (h : p) :
    (require p e >>= k) = k () := by
  unfold require
  rw [if_pos h]
  rfl

end

/-- A guard that is only asked for when `p` holds. -/
def onlyIf (p : Prop) [Decidable p] (x : Except ε Unit) : Except ε Unit :=
  if p then x else .ok ()

variable {x : Except ε α}

theorem bind_eq_ok {k : α → Except ε β} {r : β} :
    (x >>= k) = .ok r ↔ ∃ a, x = .ok a ∧ k a = .ok r := by
  cases x <;> simp [bind, Except.bind]

theorem bind_eq_error {k : α → Except ε β} {e : ε} :
    (x >>= k) = .error e ↔ x = .error e ∨ ∃ a, x = .ok a ∧ k a = .error e := by
  cases x <;> simp [bind, Except.bind]

@[simp] theorem pure_eq_ok {a b : α} : (pure a : Except ε α) = .ok b ↔ a = b := by
  simp [pure, Except.pure]

@[simp] theorem pure_ne_error {a : α} {e : ε} : (pure a : Except ε α) ≠ .error e := by
  simp [pure, Except.pure]

instance decidableEqOk [DecidableEq α] : (x : Except ε α) → (a : α) → Decidable (x = .ok a)
  | .ok b, a => decidable_of_iff (b = a) (by simp)
  | .error _, _ => isFalse (by simp)

/-! ### Checked arithmetic -/

/-- `a + b` when it is below the bound `m`, and `e` otherwise. -/
def checkedAdd (m : ℕ) (e : ε) (a b : ℕ) : Except ε ℕ :=
  if a + b < m then .ok (a + b) else .error e

/-- `a - b` when it does not go below zero, and `e` otherwise. -/
def checkedSub (e : ε) (a b : ℕ) : Except ε ℕ :=
  if b ≤ a then .ok (a - b) else .error e

/-- `a * b` when it is below the bound `m`, and `e` otherwise. -/
def checkedMul (m : ℕ) (e : ε) (a b : ℕ) : Except ε ℕ :=
  if a * b < m then .ok (a * b) else .error e

variable {a b m : ℕ}

@[simp] theorem checkedAdd_eq_ok {r : ℕ} {e : ε} :
    checkedAdd m e a b = .ok r ↔ a + b < m ∧ a + b = r := by
  unfold checkedAdd
  split_ifs with h <;> simp [h]

@[simp] theorem checkedAdd_eq_error {e e' : ε} :
    checkedAdd m e a b = .error e' ↔ m ≤ a + b ∧ e = e' := by
  unfold checkedAdd
  split_ifs with h
  · simp only [false_iff, not_and]
    intro hm
    exact absurd h (Nat.not_lt.mpr hm)
  · simp [Nat.not_lt.mp h]

@[simp] theorem checkedSub_eq_ok {r : ℕ} {e : ε} :
    checkedSub e a b = .ok r ↔ b ≤ a ∧ a - b = r := by
  unfold checkedSub
  split_ifs with h <;> simp [h]

@[simp] theorem checkedSub_eq_error {e e' : ε} :
    checkedSub e a b = .error e' ↔ a < b ∧ e = e' := by
  unfold checkedSub
  split_ifs with h
  · simp only [false_iff, not_and]
    intro hlt
    exact absurd h (Nat.not_le.mpr hlt)
  · simp [Nat.not_le.mp h]

/-! ### Exceptional postconditions -/

/-- Every error the computation stops with satisfies `E`. -/
def Raises (E : ε → Prop) (x : Except ε α) : Prop := ∀ e, x = .error e → E e

section Raises

variable {E : ε → Prop} {e : ε}

@[simp] theorem raises_pure {a : α} : Raises E (pure a : Except ε α) :=
  fun _ h => absurd h pure_ne_error

@[simp] theorem raises_error : Raises E (.error e : Except ε α) ↔ E e := by
  simp [Raises]

@[simp] theorem raises_ok {a : α} : Raises E (.ok a : Except ε α) := by
  simp [Raises]

@[simp] theorem raises_require {p : Prop} [Decidable p] :
    Raises E (require p e) ↔ (¬ p → E e) := by
  simp only [Raises, require_eq_error]
  constructor
  · intro h hp
    exact h e ⟨hp, rfl⟩
  · rintro h _ ⟨hp, rfl⟩
    exact h hp

/-- The rest of a computation may use that its first part succeeded. -/
theorem raises_bind {k : α → Except ε β} :
    Raises E (x >>= k) ↔ Raises E x ∧ ∀ a, x = .ok a → Raises E (k a) := by
  simp only [Raises, bind_eq_error]
  constructor
  · intro h
    exact ⟨fun e he => h e (Or.inl he), fun a ha e he => h e (Or.inr ⟨a, ha, he⟩)⟩
  · rintro ⟨hx, hk⟩ e (he | ⟨a, ha, he⟩)
    · exact hx e he
    · exact hk a ha e he

theorem Raises.bind {k : α → Except ε β} (hx : Raises E x)
    (hk : ∀ a, x = .ok a → Raises E (k a)) : Raises E (x >>= k) :=
  raises_bind.mpr ⟨hx, hk⟩

@[simp] theorem raises_checkedAdd :
    Raises E (checkedAdd m e a b) ↔ (m ≤ a + b → E e) := by
  simp only [Raises, checkedAdd_eq_error]
  constructor
  · intro h hm
    exact h e ⟨hm, rfl⟩
  · rintro h _ ⟨hm, rfl⟩
    exact h hm

@[simp] theorem raises_checkedSub :
    Raises E (checkedSub e a b) ↔ (a < b → E e) := by
  simp only [Raises, checkedSub_eq_error]
  constructor
  · intro h hlt
    exact h e ⟨hlt, rfl⟩
  · rintro h _ ⟨hlt, rfl⟩
    exact h hlt

theorem raises_checkedMul (h : E e) : Raises E (checkedMul m e a b) := by
  unfold checkedMul
  split_ifs <;> simp [h]

end Raises

/-! ### Success -/

/-- The computation does not stop. -/
def Succeeds (x : Except ε α) : Prop := ∃ a, x = .ok a

section Succeeds

theorem succeeds_pure {a : α} : Succeeds (pure a : Except ε α) := ⟨a, rfl⟩

theorem succeeds_bind {k : α → Except ε β} :
    Succeeds (x >>= k) ↔ ∃ a, x = .ok a ∧ Succeeds (k a) := by
  unfold Succeeds
  simp only [bind_eq_ok]
  rw [exists_comm]
  simp only [exists_and_left]

/-- A computation succeeds when its guard holds and the rest succeeds. -/
theorem succeeds_require_bind {β : Type} {p : Prop} [Decidable p] {e : ε}
    {k : Unit → Except ε β} : Succeeds (require p e >>= k) ↔ p ∧ Succeeds (k ()) := by
  unfold Succeeds
  simp only [require_bind_eq_ok, exists_and_left]

/-- A last part that cannot fail does not matter. -/
theorem succeeds_bind_of_succeeds {k : α → Except ε β}
    (hk : ∀ a, Succeeds (k a)) : Succeeds (x >>= k) ↔ Succeeds x := by
  rw [succeeds_bind]
  constructor
  · rintro ⟨a, ha, -⟩
    exact ⟨a, ha⟩
  · rintro ⟨a, ha⟩
    exact ⟨a, ha, hk a⟩

end Succeeds

end Guard
