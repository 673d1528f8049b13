import Mathlib

/-!
# Tables

A table is the list of its rows in the order in which they were inserted.  Its `Schema` gives the
primary key and what the database refuses: the unique indexes (`clash`) and the row triggers
(`insertGuard`, `updateGuard`).  Statements are atomic and refused as a whole.

* `Valid`: no two rows clash; `insert_valid` and `updateWhere_valid` keep it;
* `lookup`: the row with a given key, which statements about other keys leave alone;
* `latest`: the last row of a group of rows; only an insertion into the group changes which row that
  is.
-/

namespace Table

variable {Row Key Name : Type}

/-- Why a statement is refused. -/
inductive Violation (Name : Type)
  /-- A unique index. -/
  | unique (name : Name)
  /-- A row trigger. -/
  | refused (message : Name)
deriving DecidableEq

structure Schema (Row Key Name : Type) where
  key : Row → Key
  /-- The unique index that two different rows violate together. -/
  clash : Row → Row → Option Name
  insertGuard : Row → Option Name
  updateGuard : Row → Row → Option Name
  clash_symm : ∀ r r', clash r r' = none → clash r' r = none
  /-- The primary key is a unique index. -/
  key_ne : ∀ r r', clash r r' = none → key r ≠ key r'

/-- A table without triggers; `same` says which rows violate one of its unique indexes together. -/
def Schema.unique (key : Row → Key) (same : Row → Row → Bool)
    (symm : ∀ r r', same r r' = same r' r) (key_same : ∀ r r', key r = key r' → same r r' = true) :
    Schema Row Key Unit where
  key := key
  clash := fun r r' => if same r r' then some () else none
  insertGuard := fun _ => none
  updateGuard := fun _ _ => none
  clash_symm := by
    intro r r' h
    rwa [symm r' r]
  key_ne := by
    intro r r' h heq
    rw [if_pos (key_same r r' heq)] at h
    cases h

theorem Schema.unique_clash {key : Row → Key} {same : Row → Row → Bool}
    {symm : ∀ r r', same r r' = same r' r} {key_same : ∀ r r', key r = key r' → same r r' = true}
    {r r' : Row} :
    (Schema.unique key same symm key_same).clash r r' = none ↔ same r r' = false := by
  show (if same r r' then some () else none) = none ↔ _
  cases same r r' <;> simp

variable (S : Schema Row Key Name)

def Valid (rows : List Row) : Prop := rows.Pairwise fun r r' => S.clash r r' = none

def insert (row : Row) (rows : List Row) : Except (Violation Name) (List Row) :=
  match S.insertGuard row with
  | some message => .error (.refused message)
  | none =>
    match rows.findSome? (S.clash row) with
    | some name => .error (.unique name)
    | none => .ok (rows ++ [row])

variable [DecidableEq Key]

/-- `SELECT * WHERE key = k`. -/
def lookup (k : Key) (rows : List Row) : Option Row := rows.find? fun r => S.key r = k

/-- Put the row `r` in the place of the row with the same key. -/
def replace (r : Row) (rows : List Row) : List Row :=
  rows.map fun r' => if S.key r' = S.key r then r else r'

/-- `UPDATE SET change WHERE key = k AND cond RETURNING *`: the new row, if there is one. -/
def updateWhere (k : Key) (cond : Row → Bool) (change : Row → Row) (rows : List Row) :
    Except (Violation Name) (Option Row × List Row) :=
  match lookup S k rows with
  | none => .ok (none, rows)
  | some old =>
    if cond old then
      match S.updateGuard old (change old) with
      | some message => .error (.refused message)
      | none =>
        match (rows.filter fun r => S.key r ≠ k).findSome? (S.clash (change old)) with
        | some name => .error (.unique name)
        | none => .ok (some (change old), replace S (change old) rows)
    else .ok (none, rows)

/-- `UPDATE SET change WHERE key = k AND cond`, of columns that no index or trigger is about. -/
def modify (k : Key) (cond : Row → Bool) (change : Row → Row) (rows : List Row) : List Row :=
  rows.map fun r => if S.key r = k ∧ cond r = true then change r else r

/-- The last row that was inserted among those that satisfy `p`. -/
def latest (p : Row → Bool) (rows : List Row) : Option Row := (rows.filter p).getLast?

variable {S} {k : Key} {row old : Row} {rows rows' : List Row} {cond : Row → Bool}
  {change : Row → Row} {out : Option Row}

/-! ### What the statements do -/

omit [DecidableEq Key] in
theorem insert_eq_ok : insert S row rows = .ok rows' ↔
    S.insertGuard row = none ∧ (∀ r ∈ rows, S.clash row r = none) ∧ rows' = rows ++ [row] := by
  unfold insert
  rw [← List.findSome?_eq_none_iff]
  split
  · next hg => simp [hg]
  · next hg =>
    split
    · next hc => simp [hg, hc]
    · next hc => simp [hg, hc, eq_comm]

/-- An update that changes no row, or replaces the row with this key. -/
theorem updateWhere_eq_ok : updateWhere S k cond change rows = .ok (out, rows') ↔
    (out = none ∧ rows' = rows ∧ ∀ r, lookup S k rows = some r → cond r = false) ∨
    ∃ r, lookup S k rows = some r ∧ cond r = true ∧ S.updateGuard r (change r) = none ∧
      (∀ r' ∈ rows, S.key r' ≠ k → S.clash (change r) r' = none) ∧
      out = some (change r) ∧ rows' = replace S (change r) rows := by
  unfold updateWhere
  cases hl : lookup S k rows with
  | none => simp only [reduceCtorEq, Except.ok.injEq, Prod.mk.injEq, false_and, exists_false,
      or_false, false_implies, implies_true, and_true, eq_comm]
  | some r =>
    simp only [Option.some.injEq, forall_eq', exists_eq_left']
    cases hcond : cond r with
    | false =>
      simp only [Bool.false_eq_true, if_false, Except.ok.injEq, Prod.mk.injEq, false_and, or_false,
        and_true, eq_comm]
    | true =>
      simp only [if_true, Bool.true_eq_false, and_false, false_or, true_and]
      cases hg : S.updateGuard r (change r) with
      | some => simp only [reduceCtorEq, false_and]
      | none =>
        simp only [true_and]
        have hiff : (∀ r' ∈ rows, S.key r' ≠ k → S.clash (change r) r' = none) ↔
            (rows.filter fun r => S.key r ≠ k).findSome? (S.clash (change r)) = none := by
          simp only [List.findSome?_eq_none_iff, List.mem_filter, decide_eq_true_eq, and_imp]
        rw [hiff]
        split
        · next hc => simp only [hc, reduceCtorEq, false_and]
        · next hc => simp only [hc, Except.ok.injEq, Prod.mk.injEq, true_and, eq_comm]

/-! ### Lookup -/

theorem lookup_eq_some_mem (h : lookup S k rows = some row) : row ∈ rows ∧ S.key row = k := by
  refine ⟨List.mem_of_find?_eq_some h, ?_⟩
  simpa using List.find?_some h

omit [DecidableEq Key] in
theorem Valid.eq_of_clash (h : Valid S rows) {r r' : Row} (hr : r ∈ rows) (hr' : r' ∈ rows)
    (hc : S.clash r r' ≠ none) : r = r' := by
  by_contra hne
  have : Std.Symm fun r r' => S.clash r r' = none := ⟨S.clash_symm⟩
  exact hc (h.forall hr hr' hne)

omit [DecidableEq Key] in
theorem Valid.eq_of_key (h : Valid S rows) {r r' : Row} (hr : r ∈ rows) (hr' : r' ∈ rows)
    (hk : S.key r = S.key r') : r = r' :=
  h.eq_of_clash hr hr' fun hc => S.key_ne r r' hc hk

theorem Valid.lookup_eq_some (h : Valid S rows) :
    lookup S k rows = some row ↔ row ∈ rows ∧ S.key row = k := by
  refine ⟨lookup_eq_some_mem, ?_⟩
  rintro ⟨hmem, hkey⟩
  cases hl : lookup S k rows with
  | none =>
    have := List.find?_eq_none.mp hl row hmem
    simp [hkey] at this
  | some =>
    obtain ⟨hr, hk⟩ := lookup_eq_some_mem hl
    rw [h.eq_of_key hr hmem (hk.trans hkey.symm)]

omit [DecidableEq Key] in
/-- A condition that only holds of rows with the key of `row` selects `row` alone. -/
theorem Valid.filter_eq_singleton (h : Valid S rows) (hmem : row ∈ rows) {p : Row → Bool}
    (hrow : p row = true) (hkey : ∀ r, p r = true → S.key r = S.key row) :
    rows.filter p = [row] := by
  induction rows with
  | nil => cases hmem
  | cons r rs ih =>
    obtain ⟨hr, hrs⟩ := List.pairwise_cons.mp h
    by_cases hp : p r = true
    · -- no later row has this key
      have hnone : rs.filter p = [] := by
        rw [List.filter_eq_nil_iff]
        intro r' hr' hp'
        exact S.key_ne r r' (hr r' hr') ((hkey r hp).trans (hkey r' hp').symm)
      have heq : r = row := h.eq_of_key List.mem_cons_self hmem (hkey r hp)
      rw [List.filter_cons_of_pos hp, hnone, heq]
    · rw [List.filter_cons_of_neg hp]
      refine ih hrs ((List.mem_cons.mp hmem).resolve_left ?_)
      rintro rfl
      exact hp hrow

theorem mem_replace_self (h : ∃ r ∈ rows, S.key r = S.key row) : row ∈ replace S row rows := by
  obtain ⟨r, hr, hk⟩ := h
  exact List.mem_map.mpr ⟨r, hr, if_pos hk⟩

theorem lookup_append : lookup S k (rows ++ [row]) =
    (lookup S k rows).or (if S.key row = k then some row else none) := by
  unfold lookup
  by_cases h : S.key row = k <;> simp [h]

theorem lookup_append_of_ne (h : S.key row ≠ k) :
    lookup S k (rows ++ [row]) = lookup S k rows := by
  rw [lookup_append, if_neg h, Option.or_none]

theorem lookup_append_self (h : ∀ r ∈ rows, S.clash row r = none) :
    lookup S (S.key row) (rows ++ [row]) = some row := by
  have hnone : lookup S (S.key row) rows = none := by
    rw [lookup, List.find?_eq_none]
    intro r hr
    simpa using (S.key_ne _ _ (h r hr)).symm
  rw [lookup_append, hnone, if_pos rfl, Option.none_or]

theorem lookup_append_of_some {r : Row} (h : lookup S k rows = some r) :
    lookup S k (rows ++ [row]) = some r := by
  rw [lookup_append, h, Option.some_or]

theorem lookup_replace_of_ne (h : S.key row ≠ k) :
    lookup S k (replace S row rows) = lookup S k rows := by
  unfold lookup replace
  induction rows with
  | nil => rfl
  | cons r rs ih =>
    rw [List.map_cons]
    by_cases hr : S.key r = S.key row
    · have hk : S.key r ≠ k := by rwa [hr]
      rw [if_pos hr, List.find?_cons_of_neg (by simpa using h),
        List.find?_cons_of_neg (by simpa using hk), ih]
    · rw [if_neg hr, List.find?_cons, List.find?_cons, ih]

theorem lookup_replace_self (h : lookup S (S.key row) rows = some old) :
    lookup S (S.key row) (replace S row rows) = some row := by
  unfold lookup replace at *
  induction rows with
  | nil => cases h
  | cons r rs ih =>
    rw [List.map_cons]
    by_cases hr : S.key r = S.key row
    · rw [if_pos hr, List.find?_cons_of_pos (by simp)]
    · rw [if_neg hr, List.find?_cons_of_neg (by simpa using hr)]
      rw [List.find?_cons_of_neg (by simpa using hr)] at h
      exact ih h

theorem mem_replace {r : Row} (h : r ∈ replace S row rows) : r = row ∨ r ∈ rows := by
  obtain ⟨_, hr', rfl⟩ := List.mem_map.mp h
  split_ifs
  · exact Or.inl rfl
  · exact Or.inr hr'

/-! ### Validity -/

omit [DecidableEq Key] in
theorem append_valid (h : Valid S rows) (hclash : ∀ r ∈ rows, S.clash row r = none) :
    Valid S (rows ++ [row]) := by
  unfold Valid
  rw [List.pairwise_append]
  refine ⟨h, List.pairwise_singleton _ _, ?_⟩
  intro r hr _ hr'
  rw [List.mem_singleton] at hr'
  subst hr'
  exact S.clash_symm _ _ (hclash r hr)

omit [DecidableEq Key] in
theorem insert_valid (h : Valid S rows) (hins : insert S row rows = .ok rows') :
    Valid S rows' := by
  obtain ⟨-, hclash, rfl⟩ := insert_eq_ok.mp hins
  exact append_valid h hclash

theorem replace_valid (h : Valid S rows)
    (hclash : ∀ r ∈ rows, S.key r ≠ S.key row → S.clash row r = none) :
    Valid S (replace S row rows) := by
  unfold Valid replace
  rw [List.pairwise_map]
  refine h.imp_of_mem fun {r r'} hr hr' hrr' => ?_
  have hkeys := S.key_ne _ _ hrr'
  split_ifs with h₁ h₂ h₂
  · exact absurd (h₁.trans h₂.symm) hkeys
  · exact hclash r' hr' h₂
  · exact S.clash_symm _ _ (hclash r hr h₁)
  · exact hrr'

/-- A row may be replaced by one that clashes with the same rows. -/
theorem replace_valid_of_clash (h : Valid S rows) (hold : old ∈ rows) (hkey : S.key row = S.key old)
    (hclash : ∀ r, S.clash row r = S.clash old r) : Valid S (replace S row rows) := by
  refine replace_valid h fun r hr hne => ?_
  rw [hclash]
  by_contra hc
  rw [hkey, h.eq_of_clash hold hr hc] at hne
  exact hne rfl

theorem lookup_replace_isSome (h : (lookup S k rows).isSome = true) :
    (lookup S k (replace S row rows)).isSome = true := by
  obtain ⟨_, hr⟩ := Option.isSome_iff_exists.mp h
  rcases eq_or_ne (S.key row) k with rfl | hne
  · rw [lookup_replace_self hr]
    rfl
  · rwa [lookup_replace_of_ne hne]

/-! ### Updates of columns without constraints -/

theorem mem_modify {r : Row} : r ∈ modify S k cond change rows ↔
    ∃ r' ∈ rows, r = if S.key r' = k ∧ cond r' = true then change r' else r' := by
  simp only [modify, List.mem_map, eq_comm]

theorem mem_modify_of_not {r : Row} (hr : r ∈ rows) (h : ¬ (S.key r = k ∧ cond r = true)) :
    r ∈ modify S k cond change rows :=
  mem_modify.mpr ⟨r, hr, (if_neg h).symm⟩

theorem mem_modify_self {r : Row} (hr : r ∈ rows) (hk : S.key r = k) (hcond : cond r = true) :
    change r ∈ modify S k cond change rows :=
  mem_modify.mpr ⟨r, hr, (if_pos ⟨hk, hcond⟩).symm⟩

theorem map_modify {α : Type} {f : Row → α} (hf : ∀ r, f (change r) = f r) :
    (modify S k cond change rows).map f = rows.map f := by
  unfold modify
  rw [List.map_map]
  refine List.map_congr_left fun r _ => ?_
  show f (if S.key r = k ∧ cond r = true then change r else r) = f r
  split_ifs
  · exact hf r
  · rfl

theorem modify_modify {change' : Row → Row} (hkey : ∀ r, S.key (change r) = S.key r) :
    modify S k (fun _ => true) change' (modify S k (fun _ => true) change rows) =
      modify S k (fun _ => true) (fun r => change' (change r)) rows := by
  unfold modify
  rw [List.map_map]
  refine List.map_congr_left fun r _ => ?_
  by_cases hr : S.key r = k
  · simp [hr, hkey]
  · simp [hr]

theorem modify_valid (h : Valid S rows) (hleft : ∀ r r', S.clash (change r) r' = S.clash r r') :
    Valid S (modify S k cond change rows) := by
  have hright : ∀ r r', S.clash r r' = none → S.clash r (change r') = none := by
    intro r r' hclash
    refine S.clash_symm _ _ ?_
    rw [hleft]
    exact S.clash_symm _ _ hclash
  unfold Valid modify
  rw [List.pairwise_map]
  refine h.imp fun {r r'} hclash => ?_
  split_ifs
  · exact hright _ _ (by rwa [hleft])
  · rwa [hleft]
  · exact hright _ _ hclash
  · exact hclash

theorem lookup_modify (hkey : ∀ r, S.key (change r) = S.key r) (k' : Key) :
    lookup S k' (modify S k cond change rows) =
      (lookup S k' rows).map fun r =>
        if S.key r = k ∧ cond r = true then change r else r := by
  unfold lookup modify
  rw [List.find?_map]
  congr 2
  funext r
  show decide (S.key (if S.key r = k ∧ cond r = true then change r else r) = k') = _
  split_ifs
  · rw [hkey]
  · rfl

/-! ### The latest row -/

omit [DecidableEq Key] in
theorem latest_mem {p : Row → Bool} (h : latest p rows = some row) :
    row ∈ rows ∧ p row = true := by
  have := List.mem_of_getLast? h
  rwa [List.mem_filter] at this

omit [DecidableEq Key] in
theorem latest_append {p : Row → Bool} :
    latest p (rows ++ [row]) = if p row = true then some row else latest p rows := by
  unfold latest
  rw [List.filter_append]
  by_cases h : p row = true
  · rw [if_pos h, List.filter_cons_of_pos h, List.filter_nil, List.getLast?_concat]
  · rw [if_neg h, List.filter_cons_of_neg h, List.filter_nil, List.append_nil]

/-- Replacing a row within its group leaves it where it is. -/
theorem latest_replace {p : Row → Bool} (hp : ∀ r ∈ rows, S.key r = S.key row → p r = p row) :
    latest p (replace S row rows) =
      (latest p rows).map fun r => if S.key r = S.key row then row else r := by
  unfold latest replace
  rw [List.filter_map, List.getLast?_map]
  congr 2
  refine List.filter_congr fun r hr => ?_
  show p (if S.key r = S.key row then row else r) = p r
  split_ifs with hkey
  · exact (hp r hr hkey).symm
  · rfl

end Table
