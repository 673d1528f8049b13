import Cotsel.Oracle.Protocol

/-!
# What the operations do to the table

One inversion lemma for `perform`: an operation leaves the table as it is, appends the row it
inserts, or replaces one row (`perform_rows`), and one for each answer that later proofs use.  What
a statement may do to a row is `Rewrites`; what no statement changes is stated here for all of them
(`Rewrites.retains`).
-/

namespace Cotsel.Oracle

open Text Sdk Interaction

variable {d : Deployment} {p : ℕ} {o : Op} {luck : Luck} {s s' : Store} {k a : List Char}
  {r row old new : Trigger}

def Store.Valid (s : Store) : Prop := Table.Valid triggerSchema s.rows

theorem Store.Valid.lookup_eq_some (h : s.Valid) :
    s.lookup k = some row ↔ row ∈ s.rows ∧ row.idempotencyKey = k :=
  Table.Valid.lookup_eq_some h

theorem Store.Valid.mem_iff (h : s.Valid) :
    row ∈ s.rows ↔ s.lookup row.idempotencyKey = some row := by
  rw [h.lookup_eq_some]
  exact ⟨fun hr => ⟨hr, rfl⟩, fun hr => hr.1⟩

theorem Store.lookup_key (h : s.lookup k = some row) : row.idempotencyKey = k :=
  (Table.lookup_eq_some_mem h).2

/-! ### Statements -/

/-- What a statement may do to a row. -/
inductive Rewrites (rows : List Trigger) (time : ℕ) : Op → Trigger → Trigger → Prop
  | update {old : Trigger} (u : UpdateTriggerData) :
      Rewrites rows time (.updateTrigger old.idempotencyKey u) old (u.apply old)
  | approve {old : Trigger} (actor : List Char) (hstatus : old.status = .pendingApproval) :
      Rewrites rows time (.approveTrigger old.idempotencyKey actor) old
        { old with status := .pending, approvedBy := some actor }
  | reject {old : Trigger} (actor : List Char) (reason : Option (List Char))
      (hstatus : old.status = .pendingApproval) :
      Rewrites rows time (.rejectTrigger old.idempotencyKey actor reason) old
        { old with status := .rejected, rejectedBy := some actor, rejectionReason := reason }
  | claim {old : Trigger} (scope : SignerScope) (hclaim : MayClaim rows scope old) :
      Rewrites rows time (.claimTriggerDispatch old.idempotencyKey scope) old
        (claimChange time scope old)
  | resolve {old : Trigger} (e : OracleDispatchFinality) (hresolve : MayResolve e old) :
      Rewrites rows time (.storeFinality old.idempotencyKey e) old
        { old with dispatchFinalityEvidence := some e }

theorem Rewrites.key {rows : List Trigger} {time : ℕ} (h : Rewrites rows time o old new) :
    new.idempotencyKey = old.idempotencyKey := by
  cases h <;> rfl

/-- The row that a statement is about. -/
def Op.target : Op → Option (List Char)
  | .updateTrigger k _ => some k
  | .approveTrigger k _ => some k
  | .rejectTrigger k _ _ => some k
  | .claimTriggerDispatch k _ => some k
  | .storeFinality k _ => some k
  | _ => none

theorem Rewrites.target {rows : List Trigger} {time : ℕ} (h : Rewrites rows time o old new) :
    o.target = some old.idempotencyKey := by
  cases h <;> rfl

structure Replaces (time : ℕ) (o : Op) (s s' : Store) (old new : Trigger) : Prop where
  lookup : s.lookup old.idempotencyKey = some old
  rewrites : Rewrites s.rows time o old new
  guard : updateGuard old new = none
  clash : ∀ r ∈ s.rows, r.idempotencyKey ≠ old.idempotencyKey → clash new r = none
  rows : s'.rows = Table.replace triggerSchema new s.rows

structure Appends (data : CreateTriggerData) (s s' : Store) : Prop where
  guard : insertGuard data.row = none
  clash : ∀ r ∈ s.rows, clash data.row r = none
  rows : s'.rows = s.rows ++ [data.row]

/-- A statement takes effect, or not; only if it does it is answered. -/
theorem statement_eq {α : Type} {effect : Except (Table.Violation String) (α × List Trigger)}
    {fate : Fate} {x : Except Thrown α} (h : statement s effect fate = (x, s')) :
    (s' = s ∧ ∃ e, x = .error (.database e)) ∨
    ∃ a rows, effect = .ok (a, rows) ∧ s' = { s with rows } ∧
      (x = .ok a ∨ ∃ m, x = .error (.database (.unavailable m))) := by
  cases fate with
  | works =>
    cases effect with
    | error =>
      cases h
      exact Or.inl ⟨rfl, _, rfl⟩
    | ok =>
      cases h
      exact Or.inr ⟨_, _, rfl, rfl, Or.inl rfl⟩
  | lost =>
    cases h
    exact Or.inl ⟨rfl, _, rfl⟩
  | unacknowledged m =>
    cases effect with
    | error =>
      cases h
      exact Or.inl ⟨rfl, _, rfl⟩
    | ok =>
      cases h
      exact Or.inr ⟨_, _, rfl, rfl, Or.inr ⟨m, rfl⟩⟩

theorem query_eq {α : Type} {v : α} {fate : Fate} {x : Except Thrown α}
    (h : query s v fate = (x, s')) :
    s' = s ∧ (x = .ok v ∨ ∃ e, x = .error (.database e)) := by
  rcases statement_eq h with ⟨hs, e, he⟩ | ⟨_, _, heq, hs, hx⟩
  · exact ⟨hs, Or.inr ⟨e, he⟩⟩
  · cases heq
    refine ⟨hs, ?_⟩
    rcases hx with hx | ⟨_, hm⟩
    · exact Or.inl hx
    · exact Or.inr ⟨_, hm⟩

/-- An update that took effect replaced a row or found none. -/
theorem update_eq_ok {cond : Trigger → Bool} {change : Trigger → Trigger} {out : Option Trigger}
    {rows : List Trigger} (h : update s k cond change = .ok (out, rows)) :
    (out = none ∧ rows = s.rows ∧ ∀ r, s.lookup k = some r → cond r = false) ∨
    ∃ old, s.lookup k = some old ∧ old.idempotencyKey = k ∧ cond old = true ∧
      out = some (change old) ∧ updateGuard old (change old) = none ∧
      (∀ r ∈ s.rows, r.idempotencyKey ≠ old.idempotencyKey → Oracle.clash (change old) r = none) ∧
      rows = Table.replace triggerSchema (change old) s.rows := by
  rcases Table.updateWhere_eq_ok.mp h with ⟨hout, hrows, hnone⟩ | ⟨old, hold, hcond, hguard, hclash,
    hout, hrows⟩
  · exact Or.inl ⟨hout, hrows, hnone⟩
  · have hk : old.idempotencyKey = k := (Table.lookup_eq_some_mem hold).2
    refine Or.inr ⟨old, hold, hk, hcond, hout, hguard, ?_, hrows⟩
    intro r hr hne
    rw [hk] at hne
    exact hclash r hr hne

/-! ### Operations -/

/-- What is known after a statement that may rewrite the row `k`: `f` is what it answers. -/
theorem statement_update {α : Type} {cond : Trigger → Bool} {change : Trigger → Trigger}
    {f : Option Trigger → α} {x : Except Thrown α}
    (hrewrites : ∀ r, r.idempotencyKey = k → cond r = true →
      Rewrites s.rows luck.time o r (change r))
    (h : statement s (updateTo f (update s k cond change)) luck.fate = (x, s')) :
    (s' = s ∧ ((∃ e, x = .error (.database e)) ∨ x = .ok (f none) ∧
      ∀ r, s.lookup k = some r → cond r = false)) ∨
    ∃ old, old.idempotencyKey = k ∧ cond old = true ∧ Replaces luck.time o s s' old (change old) ∧
      s'.locks = s.locks ∧
      (x = .ok (f (some (change old))) ∨ ∃ m, x = .error (.database (.unavailable m))) := by
  rcases statement_eq h with ⟨hs, e, he⟩ | ⟨_, rows, heffect, hs, hx⟩
  · exact Or.inl ⟨hs, Or.inl ⟨e, he⟩⟩
  · cases hup : update s k cond change with
    | error =>
      rw [hup] at heffect
      cases heffect
    | ok outRows =>
      obtain ⟨_, _⟩ := outRows
      rw [hup] at heffect
      cases heffect
      rcases update_eq_ok hup with ⟨rfl, rfl, hnone⟩ | ⟨old, hold, hk, hcond, rfl, hguard,
        hclash, rfl⟩
      · refine Or.inl ⟨hs, ?_⟩
        rcases hx with hx | ⟨_, hm⟩
        · exact Or.inr ⟨hx, hnone⟩
        · exact Or.inl ⟨_, hm⟩
      · refine Or.inr ⟨old, hk, hcond, ?_, by rw [hs], hx⟩
        exact
          { lookup := by rw [hk, hold]
            rewrites := hrewrites old hk hcond
            guard := hguard
            clash := hclash
            rows := by rw [hs] }

variable {x : Except Thrown (Ans o)}

section Inversion

variable {data : CreateTriggerData} {u : UpdateTriggerData} {actor : List Char}
  {reason : Option (List Char)} {scope : SignerScope} {e : OracleDispatchFinality}

theorem perform_insert {x : Except Thrown Trigger}
    (h : perform d p (.insertTrigger data) luck s = some (x, s')) :
    (s' = s ∧ ∃ e, x = .error (.database e)) ∨
    (Appends data s s' ∧ s'.locks = s.locks ∧
      (x = .ok data.row ∨ ∃ m, x = .error (.database (.unavailable m)))) := by
  rcases statement_eq (Option.some.inj h) with hs | ⟨_, rows, heffect, hs, hx⟩
  · exact Or.inl hs
  · cases hins : Table.insert triggerSchema data.row s.rows with
    | error =>
      rw [hins] at heffect
      cases heffect
    | ok =>
      rw [hins] at heffect
      cases heffect
      obtain ⟨hguard, hclash, rfl⟩ := Table.insert_eq_ok.mp hins
      exact Or.inr ⟨⟨hguard, hclash, by rw [hs]⟩, by rw [hs], hx⟩

theorem perform_update {x : Except Thrown Unit}
    (h : perform d p (.updateTrigger k u) luck s = some (x, s')) :
    (s' = s ∧ ((∃ e, x = .error (.database e)) ∨ x = .ok () ∧ s.lookup k = none)) ∨
    ∃ old, old.idempotencyKey = k ∧ Replaces luck.time (.updateTrigger k u) s s' old (u.apply old) ∧
      s'.locks = s.locks ∧ (x = .ok () ∨ ∃ m, x = .error (.database (.unavailable m))) := by
  rcases statement_update (o := .updateTrigger k u)
    (fun r hr _ => hr ▸ Rewrites.update u) (Option.some.inj h) with
    ⟨hs, hx⟩ | ⟨old, hk, -, hrep, hl, hx⟩
  · refine Or.inl ⟨hs, hx.imp_right fun hok => ⟨hok.1, ?_⟩⟩
    cases hlookup : s.lookup k with
    | none => rfl
    | some r =>
      have := hok.2 r hlookup
      cases this
  · exact Or.inr ⟨old, hk, hrep, hl, hx⟩

theorem perform_approve {x : Except Thrown (Option Trigger)}
    (h : perform d p (.approveTrigger k actor) luck s = some (x, s')) :
    (s' = s ∧ ((∃ e, x = .error (.database e)) ∨ x = .ok none)) ∨
    ∃ old, old.idempotencyKey = k ∧ old.status = .pendingApproval ∧
      Replaces luck.time (.approveTrigger k actor) s s' old
        { old with status := .pending, approvedBy := some actor } ∧ s'.locks = s.locks ∧
      (x = .ok (some { old with status := .pending, approvedBy := some actor }) ∨
        ∃ m, x = .error (.database (.unavailable m))) := by
  have h' : statement s (updateTo id (update s k (fun r => r.status = .pendingApproval)
      fun r => { r with status := .pending, approvedBy := some actor })) luck.fate = (x, s') := by
    have := Option.some.inj h
    rw [← this]
    cases update s k _ _ <;> rfl
  rcases statement_update (o := .approveTrigger k actor)
    (fun r hr hc => hr ▸ Rewrites.approve actor (by simpa using hc)) h' with
    ⟨hs, hx⟩ | ⟨old, hk, hc, hrep, hl, hx⟩
  · exact Or.inl ⟨hs, hx.imp_right fun hok => hok.1⟩
  · exact Or.inr ⟨old, hk, by simpa using hc, hrep, hl, hx⟩

theorem perform_reject {x : Except Thrown (Option Trigger)}
    (h : perform d p (.rejectTrigger k actor reason) luck s = some (x, s')) :
    s' = s ∨
    ∃ old, old.idempotencyKey = k ∧ old.status = .pendingApproval ∧
      Replaces luck.time (.rejectTrigger k actor reason) s s' old
        { old with status := .rejected, rejectedBy := some actor, rejectionReason := reason } ∧
      s'.locks = s.locks := by
  have h' : statement s (updateTo id (update s k (fun r => r.status = .pendingApproval)
      fun r => { r with
        status := .rejected, rejectedBy := some actor, rejectionReason := reason })) luck.fate =
      (x, s') := by
    have := Option.some.inj h
    rw [← this]
    cases update s k _ _ <;> rfl
  rcases statement_update (o := .rejectTrigger k actor reason)
    (fun r hr hc => hr ▸ Rewrites.reject actor reason (by simpa using hc)) h' with
    ⟨hs, -⟩ | ⟨old, hk, hc, hrep, hl, -⟩
  · exact Or.inl hs
  · exact Or.inr ⟨old, hk, by simpa using hc, hrep, hl⟩

theorem perform_claim {x : Except Thrown Bool}
    (h : perform d p (.claimTriggerDispatch k scope) luck s = some (x, s')) :
    (s' = s ∧ x ≠ .ok true) ∨
    ∃ old, old.idempotencyKey = k ∧ MayClaim s.rows scope old ∧
      Replaces luck.time (.claimTriggerDispatch k scope) s s' old
        (claimChange luck.time scope old) ∧
      s'.locks = s.locks ∧ (x = .ok true ∨ ∃ m, x = .error (.database (.unavailable m))) := by
  rcases statement_update (o := .claimTriggerDispatch k scope)
    (fun r hr hc => hr ▸ Rewrites.claim scope (by simpa using hc)) (Option.some.inj h) with
    ⟨hs, hx⟩ | ⟨old, hk, hc, hrep, hl, hx⟩
  · refine Or.inl ⟨hs, ?_⟩
    rcases hx with ⟨_, rfl⟩ | ⟨rfl, -⟩
    · intro h
      cases h
    · intro h
      cases h
  · exact Or.inr ⟨old, hk, by simpa using hc, hrep, hl, hx⟩

theorem perform_resolve {x : Except Thrown Bool}
    (h : perform d p (.storeFinality k e) luck s = some (x, s')) :
    s' = s ∨
    ∃ old, old.idempotencyKey = k ∧ MayResolve e old ∧
      Replaces luck.time (.storeFinality k e) s s' old
        { old with dispatchFinalityEvidence := some e } ∧ s'.locks = s.locks := by
  rcases statement_update (o := .storeFinality k e)
    (fun r hr hc => hr ▸ Rewrites.resolve e (by simpa using hc)) (Option.some.inj h) with
    ⟨hs, -⟩ | ⟨old, hk, hc, hrep, hl, -⟩
  · exact Or.inl hs
  · exact Or.inr ⟨old, hk, by simpa using hc, hrep, hl⟩

theorem perform_lock {x : Except Thrown Unit} (h : perform d p (.lock a) luck s = some (x, s')) :
    (s' = s ∧ ∃ e, x = .error (.database e)) ∨
    (x = .ok () ∧ s.locks (d.hashtext a) = none ∧
      s' = { s with locks := Function.update s.locks (d.hashtext a) (some p) }) := by
  rw [perform] at h
  split at h
  · next hnone =>
    cases h
    exact Or.inr ⟨rfl, hnone, rfl⟩
  · cases h
  · cases h
    exact Or.inl ⟨rfl, _, rfl⟩
  · cases h
    exact Or.inl ⟨rfl, _, rfl⟩

theorem perform_unlock {x : Except Thrown Unit}
    (h : perform d p (.unlock a) luck s = some (x, s')) :
    s' = if s.locks (d.hashtext a) = some p then
      { s with locks := Function.update s.locks (d.hashtext a) none } else s := by
  rw [perform] at h
  split at h <;> cases h <;> rfl

end Inversion

theorem perform_read (h : perform d p o luck s = some (x, s')) :
    s' = s ∨ (∃ data, o = .insertTrigger data) ∨ (∃ k u, o = .updateTrigger k u) ∨
      (∃ k actor, o = .approveTrigger k actor) ∨
      (∃ k actor reason, o = .rejectTrigger k actor reason) ∨
      (∃ k scope, o = .claimTriggerDispatch k scope) ∨ (∃ k e, o = .storeFinality k e) ∨
      (∃ a, o = .lock a) ∨ ∃ a, o = .unlock a := by
  cases o
  case insertTrigger data => exact Or.inr (Or.inl ⟨_, rfl⟩)
  case updateTrigger k u => exact Or.inr (Or.inr (Or.inl ⟨_, _, rfl⟩))
  case approveTrigger k actor => exact Or.inr (Or.inr (Or.inr (Or.inl ⟨_, _, rfl⟩)))
  case rejectTrigger k actor reason =>
    exact Or.inr (Or.inr (Or.inr (Or.inr (Or.inl ⟨_, _, _, rfl⟩))))
  case claimTriggerDispatch k scope =>
    exact Or.inr (Or.inr (Or.inr (Or.inr (Or.inr (Or.inl ⟨_, _, rfl⟩)))))
  case storeFinality k e =>
    exact Or.inr (Or.inr (Or.inr (Or.inr (Or.inr (Or.inr (Or.inl ⟨_, _, rfl⟩))))))
  case lock a =>
    exact Or.inr (Or.inr (Or.inr (Or.inr (Or.inr (Or.inr (Or.inr (Or.inl ⟨_, rfl⟩)))))))
  case unlock a =>
    exact Or.inr (Or.inr (Or.inr (Or.inr (Or.inr (Or.inr (Or.inr (Or.inr ⟨_, rfl⟩)))))))
  case getTriggerByIdempotencyKey => exact Or.inl (query_eq (Option.some.inj h)).1
  case getLatestTriggerByActionKey => exact Or.inl (query_eq (Option.some.inj h)).1
  case getTriggersByStatus => exact Or.inl (query_eq (Option.some.inj h)).1
  case getUnresolvedSignerDispatch => exact Or.inl (query_eq (Option.some.inj h)).1
  case retainedFinality => exact Or.inl (query_eq (Option.some.inj h)).1
  all_goals
    cases h
    exact Or.inl rfl

/-- What an operation does to the table. -/
theorem perform_rows (h : perform d p o luck s = some (x, s')) :
    s'.rows = s.rows ∨ (∃ data, o = .insertTrigger data ∧ Appends data s s') ∨
      ∃ old new, Replaces luck.time o s s' old new := by
  rcases perform_read h with rfl | ⟨data, rfl⟩ | ⟨k, _, rfl⟩ | ⟨k, actor, rfl⟩ |
    ⟨k, actor, reason, rfl⟩ | ⟨k, scope, rfl⟩ | ⟨k, e, rfl⟩ | ⟨a, rfl⟩ | ⟨a, rfl⟩
  · exact Or.inl rfl
  · rcases perform_insert h with ⟨rfl, -⟩ | ⟨happ, -⟩
    · exact Or.inl rfl
    · exact Or.inr (Or.inl ⟨data, rfl, happ⟩)
  · rcases perform_update h with ⟨rfl, -⟩ | ⟨old, -, hrep, -⟩
    · exact Or.inl rfl
    · exact Or.inr (Or.inr ⟨_, _, hrep⟩)
  · rcases perform_approve h with ⟨rfl, -⟩ | ⟨old, -, -, hrep, -⟩
    · exact Or.inl rfl
    · exact Or.inr (Or.inr ⟨_, _, hrep⟩)
  · rcases perform_reject h with rfl | ⟨old, -, -, hrep, -⟩
    · exact Or.inl rfl
    · exact Or.inr (Or.inr ⟨_, _, hrep⟩)
  · rcases perform_claim h with ⟨rfl, -⟩ | ⟨old, -, -, hrep, -⟩
    · exact Or.inl rfl
    · exact Or.inr (Or.inr ⟨_, _, hrep⟩)
  · rcases perform_resolve h with rfl | ⟨_, -, -, hrep, -⟩
    · exact Or.inl rfl
    · exact Or.inr (Or.inr ⟨_, _, hrep⟩)
  · rcases perform_lock h with ⟨rfl, -⟩ | ⟨-, -, rfl⟩ <;> exact Or.inl rfl
  · rw [perform_unlock h]
    split_ifs <;> exact Or.inl rfl

/-! ### Rows -/

namespace Replaces

variable {time : ℕ}

theorem key (h : Replaces time o s s' old new) : new.idempotencyKey = old.idempotencyKey :=
  h.rewrites.key

theorem lookup_self (h : Replaces time o s s' old new) :
    s'.lookup old.idempotencyKey = some new := by
  have hlookup : Table.lookup triggerSchema (triggerSchema.key new) s.rows = some old := by
    show s.lookup new.idempotencyKey = some old
    rw [h.key, h.lookup]
  rw [Store.lookup, h.rows, ← h.key]
  exact Table.lookup_replace_self hlookup

theorem lookup_of_ne (h : Replaces time o s s' old new) (hk : old.idempotencyKey ≠ k) :
    s'.lookup k = s.lookup k := by
  rw [Store.lookup, h.rows]
  refine Table.lookup_replace_of_ne ?_
  show new.idempotencyKey ≠ k
  rwa [h.key]

end Replaces

theorem Appends.lookup_self {data : CreateTriggerData} (h : Appends data s s') :
    s'.lookup data.idempotencyKey = some data.row := by
  rw [Store.lookup, h.rows]
  have hclash : ∀ r ∈ s.rows, triggerSchema.clash data.row r = none := h.clash
  exact Table.lookup_append_self hclash

theorem Appends.lookup_none {data : CreateTriggerData} (h : Appends data s s') :
    s.lookup data.idempotencyKey = none := by
  cases hl : s.lookup data.idempotencyKey with
  | none => rfl
  | some r =>
    obtain ⟨hr, hkey⟩ := Table.lookup_eq_some_mem hl
    exact absurd hkey.symm (clash_eq_none.mp (h.clash r hr)).1

theorem Appends.lookup_of_ne {data : CreateTriggerData} (h : Appends data s s')
    (hk : data.idempotencyKey ≠ k) : s'.lookup k = s.lookup k := by
  rw [Store.lookup, h.rows]
  exact Table.lookup_append_of_ne hk

theorem perform_lookup (h : perform d p o luck s = some (x, s')) (hk : s.lookup k = some r) :
    s'.lookup k = some r ∨ ∃ r', s'.lookup k = some r' ∧ Replaces luck.time o s s' r r' := by
  rcases perform_rows h with hrows | ⟨_, rfl, happ⟩ | ⟨old, new, hrep⟩
  · rw [Store.lookup, hrows]
    exact Or.inl hk
  · left
    rw [happ.lookup_of_ne, hk]
    intro heq
    rw [← heq, happ.lookup_none] at hk
    cases hk
  · by_cases hne : old.idempotencyKey = k
    · right
      subst hne
      rw [hrep.lookup, Option.some.injEq] at hk
      subst hk
      exact ⟨new, hrep.lookup_self, hrep⟩
    · left
      rw [hrep.lookup_of_ne hne, hk]

theorem perform_valid (h : perform d p o luck s = some (x, s')) (hs : s.Valid) : s'.Valid := by
  rcases perform_rows h with hrows | ⟨data, rfl, happ⟩ | ⟨_, _, hrep⟩
  · rwa [Store.Valid, hrows]
  · have hinsert : Table.insert triggerSchema data.row s.rows = .ok s'.rows :=
      Table.insert_eq_ok.mpr ⟨happ.guard, happ.clash, happ.rows⟩
    exact Table.insert_valid hs hinsert
  · rw [Store.Valid, hrep.rows]
    refine Table.replace_valid hs fun r hr hne => hrep.clash r hr ?_
    rwa [← hrep.key]

/-! ### What no statement changes -/

theorem updateGuard_eq_none : updateGuard old new = none ↔
    claimGuard old new = none ∧ resolutionGuard old new = none ∧ bindingGuard old new = none ∧
      scopeGuard new = none := by
  unfold updateGuard
  simp only [Option.or_eq_none_iff, and_assoc]

/-- What stays of a row, whatever the statement. -/
structure Retains (old new : Trigger) : Prop where
  key : new.idempotencyKey = old.idempotencyKey
  action : new.actionKey = old.actionKey
  request : new.requestId = old.requestId
  trade : new.tradeId = old.tradeId
  type : new.triggerType = old.triggerType
  binding : new.fundedBinding = old.fundedBinding
  claim : old.Claimed → new.dispatchStartedAt = old.dispatchStartedAt ∧
    new.dispatchSignerScope = old.dispatchSignerScope
  txHash : ∀ hash, old.txHash = some hash → new.txHash = some hash
  evidence : ∀ e, old.dispatchFinalityEvidence = some e → new.dispatchFinalityEvidence = some e

/-- Evidence that is new names the signer and the transaction that the row had before. -/
def Attributes (old new : Trigger) : Prop :=
  ∀ e, old.dispatchFinalityEvidence = none → new.dispatchFinalityEvidence = some e →
    old.txHash = some e.transactionHash ∧ old.dispatchSignerScope = some e.signerScope

theorem Attributes.refl (r : Trigger) : Attributes r r := by
  intro _ h h'
  rw [h] at h'
  cases h'

theorem Retains.refl (r : Trigger) : Retains r r where
  key := rfl
  action := rfl
  request := rfl
  trade := rfl
  type := rfl
  binding := rfl
  claim _ := ⟨rfl, rfl⟩
  txHash _ h := h
  evidence _ h := h

theorem Retains.claimed (h : Retains old new) (hclaimed : old.Claimed) : new.Claimed := by
  unfold Trigger.Claimed at *
  rw [(h.claim hclaimed).1]
  exact hclaimed

theorem Retains.trans {r₁ r₂ r₃ : Trigger} (h : Retains r₁ r₂) (h' : Retains r₂ r₃) :
    Retains r₁ r₃ where
  key := h'.key.trans h.key
  action := h'.action.trans h.action
  request := h'.request.trans h.request
  trade := h'.trade.trans h.trade
  type := h'.type.trans h.type
  binding := h'.binding.trans h.binding
  claim hc := ⟨(h'.claim (h.claimed hc)).1.trans (h.claim hc).1,
    (h'.claim (h.claimed hc)).2.trans (h.claim hc).2⟩
  txHash hash hh := h'.txHash hash (h.txHash hash hh)
  evidence e he := h'.evidence e (h.evidence e he)

/-- Only the statement that stores evidence changes it. -/
theorem Rewrites.evidence {rows : List Trigger} {time : ℕ} (h : Rewrites rows time o old new) :
    new.dispatchFinalityEvidence = old.dispatchFinalityEvidence ∨
      ∃ e, MayResolve e old ∧ new.dispatchFinalityEvidence = some e := by
  cases h with
  | resolve e hresolve => exact Or.inr ⟨e, hresolve, rfl⟩
  | update | approve | reject | claim => exact Or.inl rfl

theorem Replaces.retains {time : ℕ} (h : Replaces time o s s' old new) : Retains old new := by
  obtain ⟨hclaim, hresolution, -, -⟩ := updateGuard_eq_none.mp h.guard
  have hidentity : new.actionKey = old.actionKey ∧ new.requestId = old.requestId ∧
      new.tradeId = old.tradeId ∧ new.triggerType = old.triggerType ∧
      new.fundedBinding = old.fundedBinding := by
    cases h.rewrites <;> exact ⟨rfl, rfl, rfl, rfl, rfl⟩
  obtain ⟨haction, hrequest, htrade, htype, hbinding⟩ := hidentity
  refine ⟨h.key, haction, hrequest, htrade, htype, hbinding, ?_, ?_, ?_⟩
  · intro hclaimed
    unfold claimGuard at hclaim
    split_ifs at hclaim with hstarted
    unfold resolutionGuard at hresolution
    split_ifs at hresolution with _ hscope
    refine ⟨?_, ?_⟩
    · by_contra hne
      exact hstarted ⟨hclaimed, hne⟩
    · by_contra hne
      exact hscope ⟨hclaimed, hne⟩
  · intro _ hhash
    unfold claimGuard at hclaim
    split_ifs at hclaim with _ htx
    by_contra hne
    refine htx ⟨by rw [hhash]; rfl, ?_⟩
    rwa [hhash]
  · intro _ he
    rcases h.rewrites.evidence with hsame | ⟨_, hresolve, -⟩
    · rw [hsame, he]
    · rw [hresolve.2.2.2] at he
      cases he

theorem Replaces.attributes {time : ℕ} (h : Replaces time o s s' old new) : Attributes old new := by
  intro _ hnone he
  rcases h.rewrites.evidence with hsame | ⟨_, hresolve, hnew⟩
  · rw [hsame, hnone] at he
    cases he
  · rw [hnew, Option.some.injEq] at he
    subst he
    exact ⟨hresolve.2.1, hresolve.1⟩

/-- Whatever an operation does, a row stays and keeps what it retains. -/
theorem perform_retains (h : perform d p o luck s = some (x, s')) (hk : s.lookup k = some r) :
    ∃ r', s'.lookup k = some r' ∧ Retains r r' ∧ Attributes r r' := by
  rcases perform_lookup h hk with hsame | ⟨r', hr', hrep⟩
  · exact ⟨r, hsame, .refl r, .refl r⟩
  · exact ⟨r', hr', hrep.retains, hrep.attributes⟩

end Cotsel.Oracle
