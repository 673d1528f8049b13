import Cotsel.Oracle.Steps

/-!
# Locks and what their holders know

Whatever the interleaving, a process in a role that holds a lock owns that lock in the database
(`Owned.locks`), so that no two processes hold the lock of one action (`Owned.unique`).  What a
process has learned about the table (`Knows`) stays true while the others go on: rows are never
removed and keep what they retain, and only the holder of an action's lock adds rows to the action.
-/

namespace Cotsel.Oracle

open Text Sdk Interaction Runs

variable {d : Deployment} {p q : ℕ} {s s' : Store} {a k : List Char} {t t' : Role}
  {o : Op} {r : Except Thrown (Ans o)} {x x' : OracleRoles} {l : OracleLabel}

/-- The action whose lock is held in this role. -/
def Role.lockOf : Role → Option (List Char)
  | .idle | .observing _ | .approved _ _ => none
  | .resuming _ a | .locked a | .leaving a | .driving a _ _ | .claimed a _ | .sent a _ => some a
  | .chosen a _ => some a
  | .conflicted a _ _ => some a
  | .holding a _ => some a

/-! ### Knowledge -/

namespace Store

/-- The row `k` is there and belongs to the action `a`. -/
def Has (s : Store) (k a : List Char) : Prop := ∃ row, s.lookup k = some row ∧ row.actionKey = a

/-- The row that was read is still there. -/
def Keeps (s : Store) (r : Trigger) : Prop :=
  ∃ row, s.lookup r.idempotencyKey = some row ∧ Retains r row

/-- What was read as the latest row of the action is still the latest. -/
def IsLatest (s : Store) (a : List Char) : Option Trigger → Prop
  | none => s.latest a = none
  | some l => ∃ row, s.latest a = some row ∧ Retains l row

/-- The row `k` is there, belongs to the action `a` and is claimed. -/
def HasClaimed (s : Store) (k a : List Char) : Prop :=
  ∃ row, s.lookup k = some row ∧ row.actionKey = a ∧ row.Claimed

end Store

/-- What a process knows of the table in its role. -/
def Knows (s : Store) : Role → Prop
  | .idle | .locked _ | .leaving _ => True
  | .observing rows => ∀ r ∈ rows, s.Keeps r
  | .approved k a | .resuming k a | .driving a k _ | .holding a k => s.Has k a
  | .claimed a k | .sent a k => s.HasClaimed k a
  | .chosen a latest => s.IsLatest a latest
  | .conflicted a latest data => s.IsLatest a latest ∧ Insertable latest data

/-! ### What one operation leaves true -/

/-- Every row stays. -/
def Grows (s s' : Store) : Prop :=
  ∀ k row, s.lookup k = some row → ∃ row', s'.lookup k = some row' ∧ Retains row row'

/-- The action gets no new row. -/
def Calm (a : List Char) (s s' : Store) : Prop := ∀ l, s.IsLatest a l → s'.IsLatest a l

theorem Calm.of_rows (h : s'.rows = s.rows) : Calm a s s' := by
  intro l hl
  cases l <;> simpa only [Store.IsLatest, Store.latest, h] using hl

theorem Grows.of_rows (h : s'.rows = s.rows) : Grows s s' := by
  intro _ row _
  refine ⟨row, ?_, .refl row⟩
  rwa [Store.lookup, h]

section Replaces

variable {time : ℕ} {old new : Trigger}

theorem Replaces.grows (h : Replaces time o s s' old new) : Grows s s' := by
  intro k row hrow
  by_cases hk : old.idempotencyKey = k
  · subst hk
    rw [h.lookup, Option.some.injEq] at hrow
    subst hrow
    exact ⟨new, h.lookup_self, h.retains⟩
  · exact ⟨row, by rw [h.lookup_of_ne hk, hrow], .refl row⟩

theorem Replaces.latest (h : Replaces time o s s' old new) (hs : s.Valid) :
    s'.latest a =
      (s.latest a).map fun r => if r.idempotencyKey = new.idempotencyKey then new else r := by
  rw [Store.latest, h.rows]
  refine Table.latest_replace fun r hr hkey => ?_
  obtain rfl : r = old := by
    refine Table.Valid.eq_of_key hs hr (Table.lookup_eq_some_mem h.lookup).1 ?_
    exact hkey.trans h.key
  rw [h.retains.action]

theorem Replaces.calm (h : Replaces time o s s' old new) (hs : s.Valid) : Calm a s s' := by
  intro l hl
  cases l with
  | none =>
    have hnone : s.latest a = none := hl
    show s'.latest a = none
    rw [h.latest hs, hnone]
    rfl
  | some =>
    obtain ⟨row, hrow, hretains⟩ := hl
    refine ⟨if row.idempotencyKey = new.idempotencyKey then new else row, ?_, ?_⟩
    · rw [h.latest hs, hrow]
      rfl
    · split_ifs with hkey
      · obtain rfl : row = old := by
          refine Table.Valid.eq_of_key hs (Table.latest_mem hrow).1
            (Table.lookup_eq_some_mem h.lookup).1 ?_
          exact hkey.trans h.key
        exact hretains.trans h.retains
      · exact hretains

end Replaces

section Appends

variable {data : CreateTriggerData}

theorem Appends.grows (h : Appends data s s') : Grows s s' := by
  intro _ row hrow
  refine ⟨row, ?_, .refl row⟩
  rw [h.lookup_of_ne, hrow]
  rintro rfl
  rw [h.lookup_none] at hrow
  cases hrow

theorem Appends.latest (h : Appends data s s') :
    s'.latest a = if data.actionKey = a then some data.row else s.latest a := by
  rw [Store.latest, h.rows, Table.latest_append]
  simp only [decide_eq_true_eq]
  rfl

/-- A new row matters to its own action only. -/
theorem Appends.calm (h : Appends data s s') (ha : data.actionKey ≠ a) : Calm a s s' := by
  intro l hl
  have hlatest : s'.latest a = s.latest a := by rw [h.latest, if_neg ha]
  cases l <;> simpa only [Store.IsLatest, hlatest] using hl

end Appends

theorem Store.Has.mono (hg : Grows s s') (h : s.Has k a) : s'.Has k a := by
  obtain ⟨row, hrow, rfl⟩ := h
  obtain ⟨row', hrow', hretains⟩ := hg k row hrow
  exact ⟨row', hrow', hretains.action⟩

theorem Store.HasClaimed.mono (hg : Grows s s') (h : s.HasClaimed k a) : s'.HasClaimed k a := by
  obtain ⟨row, hrow, rfl, hclaimed⟩ := h
  obtain ⟨row', hrow', hretains⟩ := hg k row hrow
  exact ⟨row', hrow', hretains.action, hretains.claimed hclaimed⟩

theorem Store.Keeps.mono {r : Trigger} (hg : Grows s s') (h : s.Keeps r) : s'.Keeps r := by
  obtain ⟨row, hrow, hretains⟩ := h
  obtain ⟨row', hrow', hretains'⟩ := hg _ row hrow
  exact ⟨row', hrow', hretains.trans hretains'⟩

/-- What a process knows stays true while every row stays and the action that it has locked gets no
new row. -/
theorem Knows.mono (hg : Grows s s') (hcalm : ∀ a, t.lockOf = some a → Calm a s s')
    (h : Knows s t) : Knows s' t := by
  cases t with
  | idle | locked | leaving => trivial
  | observing => exact fun r hr => (h r hr).mono hg
  | approved | resuming | driving | holding => exact Store.Has.mono hg h
  | claimed | sent => exact Store.HasClaimed.mono hg h
  | chosen a latest => exact hcalm a rfl _ h
  | conflicted a latest => exact ⟨hcalm a rfl _ h.1, h.2⟩

theorem Store.isLatest_latest : s.IsLatest a (s.latest a) := by
  cases h : s.latest a with
  | none => exact h
  | some l => exact ⟨l, h, .refl l⟩

theorem Store.Valid.lookup_latest {row : Trigger} (hs : s.Valid) (h : s.latest a = some row) :
    s.lookup row.idempotencyKey = some row ∧ row.actionKey = a := by
  obtain ⟨hmem, haction⟩ := Table.latest_mem h
  exact ⟨hs.mem_iff.mp hmem, of_decide_eq_true haction⟩

/-- What a process learns by its own operation is true. -/
theorem Act.knows (h : Act d p s s' o r t t') (hs : s.Valid) (ht : Knows s t) :
    Knows s' t' := by
  cases h with
  | quiet hs' | resume hs' | send hs' => exact hs' ▸ ht
  | resolve _ hrep => exact ht.mono hrep.grows fun _ _ => hrep.calm hs
  | lock | lockFailed | unlock | latestFailed | insertUnacknowledged | insertFailed | notFound
  | approveUnacknowledged | reject | resumeOver | submitForApproval | submitFailed
  | claimedBefore => trivial
  | lockApproved _ hs' => exact Store.Has.mono (.of_rows (by rw [hs'])) ht
  | latest hs' => exact hs' ▸ Store.isLatest_latest
  | insert _ happ => exact ⟨_, happ.lookup_self, rfl⟩
  | conflict hs' hinsertable => exact hs' ▸ ⟨ht, hinsertable⟩
  | found hs' hlatest => exact hs' ▸ ⟨_, hs.lookup_latest hlatest⟩
  | approve _ hrep => exact ⟨_, hrep.lookup_self, rfl⟩
  | drive htdrives _ hup =>
    obtain ⟨time, hrep⟩ := hup.replaces
    rcases htdrives with ⟨w, rfl⟩ | rfl <;> exact Store.Has.mono hrep.grows ht
  | driveFailed htdrives _ hs =>
    rw [hs]
    rcases htdrives with ⟨_, rfl⟩ | rfl <;> exact ht
  | @claim _ k _ _ old _ _ _ hrep =>
    obtain ⟨row, hrow, haction⟩ := ht
    have hkey : k = old.idempotencyKey := Option.some.inj hrep.rewrites.target
    subst hkey
    rw [hrep.lookup, Option.some.injEq] at hrow
    subst hrow
    exact ⟨_, hrep.lookup_self, haction, rfl⟩
  | claimUnacknowledged _ _ hrep => exact Store.Has.mono hrep.grows ht
  | follow _ hup | confirm _ _ _ _ hup =>
    obtain ⟨_, hrep⟩ := hup.replaces
    exact ht.mono hrep.grows fun _ _ => hrep.calm hs
  | poll hs' hsub =>
    subst hs'
    intro row hrow
    exact ⟨row, hs.mem_iff.mp (hsub row hrow), .refl row⟩

/-- Every operation keeps the rows, and adds rows only to the action that the process has locked. -/
theorem Act.calm (h : Act d p s s' o r t t') (hs : s.Valid) :
    Grows s s' ∧ (t.lockOf ≠ some a → Calm a s s') := by
  rcases h.effect with hrows | ⟨_, _, _, hrep, -⟩ | ⟨_, _, rfl, -, happ⟩
  · exact ⟨.of_rows hrows, fun _ => .of_rows hrows⟩
  · exact ⟨hrep.grows, fun _ => hrep.calm hs⟩
  · exact ⟨happ.grows, fun hne => happ.calm fun heq => hne (congrArg some heq)⟩

/-! ### Locks -/

/-- What an operation does to the locks. -/
theorem Act.locks (h : Act d p s s' o r t t') :
    (s'.locks = s.locks ∧ ∀ a, t'.lockOf = some a → t.lockOf = some a) ∨
    (∃ a, s.locks (d.hashtext a) = none ∧
      s'.locks = Function.update s.locks (d.hashtext a) (some p) ∧ t'.lockOf = some a) ∨
    ∃ a, s' = s.unlock d p a ∧ t'.lockOf = none := by
  have hsame : ∀ hs : s' = s, s'.locks = s.locks := fun hs => by rw [hs]
  cases h with
  | quiet hs | latest hs | latestFailed hs | conflict hs | insertFailed hs | found hs
  | notFound hs | resume hs | resumeOver hs | claimedBefore hs | send hs =>
    exact Or.inl ⟨hsame hs, fun _ h => h⟩
  | resolve _ _ hlocks | insert _ _ hlocks | insertUnacknowledged _ _ hlocks
  | approveUnacknowledged _ _ hlocks | reject _ _ hlocks | claim _ _ _ hlocks
  | claimUnacknowledged _ _ _ hlocks => exact Or.inl ⟨hlocks, fun _ h => h⟩
  | lock hfree hs | lockApproved hfree hs => exact Or.inr (Or.inl ⟨_, hfree, by rw [hs], rfl⟩)
  | lockFailed hs | poll hs => exact Or.inl ⟨hsame hs, fun _ h => by cases h⟩
  | unlock _ hs => exact Or.inr (Or.inr ⟨_, hs, rfl⟩)
  | approve _ _ hlocks => exact Or.inl ⟨hlocks, fun _ h => by cases h⟩
  | drive ht _ hup =>
    refine Or.inl ⟨hup.locks, fun _ h => ?_⟩
    rcases ht with ⟨w, rfl⟩ | rfl <;> exact h
  | driveFailed ht _ hs =>
    refine Or.inl ⟨hsame hs, fun _ h => ?_⟩
    rcases ht with ⟨_, rfl⟩ | rfl <;> exact h
  | submitForApproval hup | follow _ hup | confirm _ _ _ _ hup =>
    exact Or.inl ⟨hup.locks, fun _ h => h⟩
  | submitFailed hs => exact Or.inl ⟨hsame hs, fun _ h => h⟩

variable (d) in
/-- Who holds a lock owns it. -/
def LocksHeld (x : OracleRoles) : Prop :=
  ∀ p a, (x.roles p).lockOf = some a → x.store.locks (d.hashtext a) = some p

theorem Act.locks_other (h : Act d p s s' o r t t') (hq : q ≠ p)
    (hlock : s.locks (d.hashtext a) = some q) : s'.locks (d.hashtext a) = some q := by
  rcases h.locks with ⟨hlocks, -⟩ | ⟨b, hfree, hlocks, -⟩ | ⟨b, rfl, -⟩
  · rw [hlocks, hlock]
  · rw [hlocks, Function.update_of_ne, hlock]
    intro heq
    rw [heq, hfree] at hlock
    cases hlock
  · rw [Store.unlock]
    split_ifs with hown
    · show Function.update s.locks (d.hashtext b) none (d.hashtext a) = some q
      rw [Function.update_of_ne, hlock]
      intro heq
      rw [heq, hown, Option.some.injEq] at hlock
      exact hq hlock.symm
    · exact hlock

theorem Act.locks_self (h : Act d p s s' o r t t')
    (hown : ∀ a, t.lockOf = some a → s.locks (d.hashtext a) = some p) (ha : t'.lockOf = some a) :
    s'.locks (d.hashtext a) = some p := by
  rcases h.locks with ⟨hlocks, hsame⟩ | ⟨_, -, hlocks, hb⟩ | ⟨_, -, hnone⟩
  · rw [hlocks]
    exact hown a (hsame a ha)
  · rw [hb, Option.some.injEq] at ha
    subst ha
    rw [hlocks, Function.update_self]
  · rw [hnone] at ha
    cases ha

theorem LocksHeld.step (h : LocksHeld d x) (hstep : OracleStep d x l x') : LocksHeld d x' := by
  intro q a hq
  cases hstep.moves with
  | @act p _ _ _ hact hroles =>
    rw [hroles] at hq
    by_cases hqp : q = p
    · subst hqp
      rw [Function.update_self] at hq
      exact hact.locks_self (h q) hq
    · rw [Function.update_of_ne hqp] at hq
      exact hact.locks_other hqp (h q a hq)
  | rest p hs hroles =>
    rw [hroles] at hq
    by_cases hqp : q = p
    · subst hqp
      rw [Function.update_self] at hq
      cases hq
    · rw [Function.update_of_ne hqp] at hq
      rcases hs with hs | ⟨-, hs⟩
      · rw [hs]
        exact h q a hq
      · rw [hs]
        show (if x.store.locks (d.hashtext a) = some p then none
          else x.store.locks (d.hashtext a)) = some q
        rw [h q a hq, if_neg]
        exact fun heq => hqp (Option.some.inj heq)

/-! ### The invariant -/

variable (d) in
structure Owned (x : OracleRoles) : Prop where
  valid : x.store.Valid
  locks : LocksHeld d x
  knows : ∀ p, Knows x.store (x.roles p)

namespace Owned

/-- One process at a time holds the lock of an action. -/
theorem unique (h : Owned d x) (hp : (x.roles p).lockOf = some a)
    (hq : (x.roles q).lockOf = some a) : p = q := by
  have heq := h.locks p a hp
  rw [h.locks q a hq, Option.some.injEq] at heq
  exact heq.symm

theorem start (hs : s.Valid) : Owned d ⟨s, fun _ => .idle⟩ where
  valid := hs
  locks p a h := by cases h
  knows p := trivial

/-- What the others know stays true. -/
theorem others {r : Except Thrown (Ans o)} (h : Owned d x)
    (hact : Act d p x.store s' o r (x.roles p) t') (hq : q ≠ p) :
    Knows s' (x.roles q) := by
  refine (h.knows q).mono (hact.calm (a := []) h.valid).1 fun a ha => ?_
  refine (hact.calm h.valid).2 fun hp => hq ?_
  exact h.unique ha hp

theorem step (h : Owned d x) (hstep : OracleStep d x l x') : Owned d x' where
  valid := hstep.valid h.valid
  locks := h.locks.step hstep
  knows q := by
    cases hstep.moves with
    | @act p _ _ _ hact hroles =>
      rw [hroles]
      by_cases hqp : q = p
      · subst hqp
        rw [Function.update_self]
        exact hact.knows h.valid (h.knows q)
      · rw [Function.update_of_ne hqp]
        exact h.others hact hqp
    | rest p hs hroles =>
      have hrows := Moves.rest_rows hs
      rw [hroles]
      by_cases hqp : q = p
      · subst hqp
        rw [Function.update_self]
        trivial
      · rw [Function.update_of_ne hqp]
        exact (h.knows q).mono (.of_rows hrows) fun _ _ => .of_rows hrows

end Owned

end Cotsel.Oracle
