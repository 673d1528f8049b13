import Mathlib

/-!
# Transactions

A transaction takes a store to a result and the next store, or throws and leaves the store as it
was.  Whoever sends it may be cut off from the database: before the transaction gets there, or
after it has been carried out (`Fate`).

* `transact_ok`: who is told of a result can rely on the transaction;
* `transact_cases`: whatever is answered, the store is as before or as the transaction leaves it;
* `transactResult_cases`: the same for a transaction whose refusals are committed;
* `query_ok`, `query_store`: the same for a statement that only reads.
-/

namespace Transaction

variable {S ε α : Type}

/-- What becomes of a transaction that is sent to the database. -/
inductive Fate
  | done
  /-- It does not get there. -/
  | lost
  /-- It is carried out, and the answer does not come back. -/
  | unanswered
deriving DecidableEq

/-- What is answered, and the store afterwards. -/
def transact (unavailable : ε) (tx : S → Except ε (α × S)) (fate : Fate) (s : S) :
    Except ε α × S :=
  match fate with
  | .lost => (.error unavailable, s)
  | .done =>
    match tx s with
    | .ok (a, s') => (.ok a, s')
    | .error e => (.error e, s)
  | .unanswered =>
    match tx s with
    | .ok (_, s') => (.error unavailable, s')
    | .error e => (.error e, s)

/-- The same for a transaction that may commit and throw nevertheless. -/
def transactResult (unavailable : ε) (tx : S → Except ε (Except ε α × S)) (fate : Fate) (s : S) :
    Except ε α × S :=
  ((transact unavailable tx fate s).1 >>= id, (transact unavailable tx fate s).2)

/-- The same for a statement that only reads. -/
def query (unavailable : ε) (f : S → α) (fate : Fate) (s : S) : Except ε α × S :=
  match fate with
  | .done => (.ok (f s), s)
  | .lost | .unanswered => (.error unavailable, s)

variable {unavailable : ε} {tx : S → Except ε (α × S)} {f : S → α} {fate : Fate} {s s' : S}
  {a : α} {r : Except ε α}

theorem transact_ok (h : transact unavailable tx fate s = (.ok a, s')) : tx s = .ok (a, s') := by
  unfold transact at h
  split at h
  · cases h
  · split at h
    · next heq =>
      cases h
      exact heq
    · cases h
  · split at h <;> cases h

theorem transact_cases (h : transact unavailable tx fate s = (r, s')) :
    s' = s ∨ ∃ a, tx s = .ok (a, s') := by
  unfold transact at h
  split at h
  · cases h
    exact Or.inl rfl
  · split at h
    · next heq =>
      cases h
      exact Or.inr ⟨_, heq⟩
    · cases h
      exact Or.inl rfl
  · split at h
    · next heq =>
      cases h
      exact Or.inr ⟨_, heq⟩
    · cases h
      exact Or.inl rfl

theorem transactResult_cases {tx : S → Except ε (Except ε α × S)}
    (h : transactResult unavailable tx fate s = (r, s')) :
    s' = s ∧ (∀ a, r ≠ .ok a) ∨ ∃ r', (∀ a, r = .ok a → r' = .ok a) ∧ tx s = .ok (r', s') := by
  unfold transactResult at h
  rcases hx : transact unavailable tx fate s with ⟨r₀, _⟩
  rw [hx] at h
  obtain ⟨rfl, rfl⟩ := Prod.mk.inj h
  cases r₀ with
  | ok r' => exact Or.inr ⟨r', fun a ha => ha, transact_ok hx⟩
  | error =>
    rcases transact_cases hx with hs | ⟨r', htx⟩
    · exact Or.inl ⟨hs, fun a ha => by cases ha⟩
    · exact Or.inr ⟨r', fun a ha => (by cases ha), htx⟩

theorem query_ok (h : query unavailable f fate s = (.ok a, s')) : a = f s := by
  unfold query at h
  split at h
  · cases h
    rfl
  · cases h
  · cases h

theorem query_store (h : query unavailable f fate s = (r, s')) : s' = s := by
  unfold query at h
  split at h <;> cases h <;> rfl

end Transaction
