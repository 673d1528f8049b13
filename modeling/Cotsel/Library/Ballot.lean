import Mathlib

/-!
# Boards of proposals

A board holds numbered proposals that voters approve one by one.  Each proposal stores how many
approvals it has, and the board stores separately who gave them, until when the proposal may be
used and whether it was cancelled.  The number of a proposal is the board's counter at the time it
was made, so numbers are never reused.

* `Tally f n`: the table `f` of approvals has exactly `n` entries;
* `Board.WellFormed`: the stored count of every proposal is the tally of its approvals, its
  deadline is its creation time plus the board's time to live, and everything about numbers not
  yet given out is blank;
* `Board.Current`: what is known of the proposals of the running epoch.  It survives anything that
  ends the epoch, since no proposal of the next epoch exists yet;
* `Board.Update`: what one action may do to a board, with the conditions under which it may;
* `Board.Traced`: every approval on the board was given by a voter in a transition of the run so
  far, by making the proposal or, after that, by approving it in the epoch of the proposal.
-/

namespace Ballot

universe u v w

variable {ν : Type u} {α : Type v}

/-! ### Tallies -/

/-- The table `f` of approvals has exactly `n` entries. -/
def Tally (f : ν → Bool) (n : ℕ) : Prop :=
  ∃ A : Finset ν, (∀ a, a ∈ A ↔ f a = true) ∧ A.card = n

theorem tally_zero {f : ν → Bool} (h : ∀ a, f a = false) : Tally f 0 :=
  ⟨∅, fun a => by simp [h a], rfl⟩

theorem Tally.update [DecidableEq ν] {f : ν → Bool} {n : ℕ} {a : ν} (h : Tally f n)
    (ha : f a = false) : Tally (Function.update f a true) (n + 1) := by
  obtain ⟨A, hA, hcard⟩ := h
  have hnot : a ∉ A := by
    rw [hA a, ha]
    decide
  refine ⟨insert a A, fun b => ?_, by rw [Finset.card_insert_of_notMem hnot, hcard]⟩
  rw [Finset.mem_insert, hA b]
  by_cases hb : b = a
  · subst hb
    simp
  · simp [hb]

theorem of_update_false [DecidableEq ν] {f : ν → Bool} {a b : ν}
    (h : Function.update f a false b = true) : b ≠ a ∧ f b = true := by
  rw [Function.update_apply] at h
  split_ifs at h with hb
  exact ⟨hb, h⟩

theorem Tally.card_filter [Fintype ν] {f : ν → Bool} {n : ℕ} (h : Tally f n) :
    (Finset.univ.filter fun a => f a = true).card = n := by
  obtain ⟨A, hA, hcard⟩ := h
  rw [← hcard]
  congr 1
  ext a
  simp [hA a]

/-- Among more voters than there are approvals one has not approved yet. -/
theorem Tally.exists_eq_false {f : ν → Bool} {n : ℕ} (h : Tally f n) {l : List ν}
    (hnodup : l.Nodup) (hlt : n < l.length) : ∃ a ∈ l, f a = false := by
  classical
  obtain ⟨A, hA, hcard⟩ := h
  by_contra hnone
  push Not at hnone
  have hsub : l.toFinset ⊆ A := by
    intro a ha
    rw [hA a]
    exact Bool.eq_true_of_not_eq_false (hnone a (List.mem_toFinset.mp ha))
  have hle := Finset.card_le_card hsub
  rw [List.toFinset_card_of_nodup hnodup] at hle
  omega

/-! ### Boards -/

/-- A proposal: what it is about, how many approvals it has, whether it was carried out, when and
by whom it was made, and in which epoch. -/
structure Proposal (ν : Type u) (α : Type v) where
  payload : α
  approvalCount : ℕ
  executed : Bool
  createdAt : ℕ
  proposer : ν
  epoch : ℕ
deriving Inhabited, DecidableEq

/-- The proposals of one kind with their approvals, deadlines and cancellations. -/
structure Board (ν : Type u) (α : Type v) where
  proposals : ℕ → Proposal ν α
  hasApproved : ℕ → ν → Bool
  expiresAt : ℕ → ℕ
  cancelled : ℕ → Bool
  counter : ℕ

namespace Board

def empty [Inhabited ν] [Inhabited α] : Board ν α where
  proposals _ := default
  hasApproved _ _ := false
  expiresAt _ := 0
  cancelled _ := false
  counter := 0

variable [DecidableEq ν]

/-- The next proposal, made and approved by `proposer` at time `now`. -/
def propose (b : Board ν α) (ttl now epoch : ℕ) (proposer : ν) (payload : α) : Board ν α where
  proposals := Function.update b.proposals b.counter
    { payload := payload, approvalCount := 1, executed := false, createdAt := now,
      proposer := proposer, epoch := epoch }
  hasApproved := Function.update b.hasApproved b.counter
    (Function.update (b.hasApproved b.counter) proposer true)
  expiresAt := Function.update b.expiresAt b.counter (now + ttl)
  cancelled := b.cancelled
  counter := b.counter + 1

def approve (b : Board ν α) (id : ℕ) (voter : ν) : Board ν α :=
  { b with
    proposals := Function.update b.proposals id
      { b.proposals id with approvalCount := (b.proposals id).approvalCount + 1 }
    hasApproved := Function.update b.hasApproved id
      (Function.update (b.hasApproved id) voter true) }

omit [DecidableEq ν] in
def markExecuted (b : Board ν α) (id : ℕ) : Board ν α :=
  { b with proposals := Function.update b.proposals id { b.proposals id with executed := true } }

omit [DecidableEq ν] in
def markCancelled (b : Board ν α) (id : ℕ) : Board ν α :=
  { b with cancelled := Function.update b.cancelled id true }

section Fields

variable (b : Board ν α) (ttl now e id : ℕ) (x : ν) (p : α)

@[simp] theorem cancelled_propose : (b.propose ttl now e x p).cancelled = b.cancelled := rfl

@[simp] theorem counter_approve : (b.approve id x).counter = b.counter := rfl

@[simp] theorem cancelled_approve : (b.approve id x).cancelled = b.cancelled := rfl

theorem approve_approvalCount :
    ((b.approve id x).proposals id).approvalCount = (b.proposals id).approvalCount + 1 := by
  simp [approve]

@[simp] theorem payload_approve (i : ℕ) :
    ((b.approve id x).proposals i).payload = (b.proposals i).payload := by
  by_cases hi : i = id
  · simp [approve, hi]
  · simp [approve, hi]

omit [DecidableEq ν] in
@[simp] theorem counter_markCancelled : (b.markCancelled id).counter = b.counter := rfl

omit [DecidableEq ν] in
@[simp] theorem proposals_markCancelled : (b.markCancelled id).proposals = b.proposals := rfl

end Fields

/-! ### The proposals on a subject -/

/-- All that a board stores of one proposal. -/
structure Entry (ν : Type u) (α : Type v) where
  proposal : Proposal ν α
  hasApproved : ν → Bool
  expiresAt : ℕ
  cancelled : Bool

omit [DecidableEq ν] in
/-- The proposals whose payload satisfies `q`, under their numbers. -/
def entries (q : α → Prop) [DecidablePred q] (b : Board ν α) (id : ℕ) : Option (Entry ν α) :=
  if id < b.counter ∧ q (b.proposals id).payload then
    some ⟨b.proposals id, b.hasApproved id, b.expiresAt id, b.cancelled id⟩
  else none

section Entries

variable {q : α → Prop} [DecidablePred q] {b : Board ν α} {id : ℕ}

/-- A new proposal on another subject is not seen. -/
theorem entries_propose {ttl now e : ℕ} {x : ν} {p : α} (hp : ¬ q p) :
    (b.propose ttl now e x p).entries q = b.entries q := by
  funext i
  by_cases hi : i = b.counter
  · subst hi
    simp [entries, propose, hp]
  · have hlt : i < b.counter + 1 ↔ i < b.counter := by omega
    simp [entries, propose, hi, hlt]

/-- Nor is an approval of one. -/
theorem entries_approve {x : ν} (hid : ¬ q (b.proposals id).payload) :
    (b.approve id x).entries q = b.entries q := by
  funext i
  by_cases hi : i = id
  · subst hi
    simp [entries, approve, hid]
  · simp [entries, approve, hi]

omit [DecidableEq ν] in
theorem entries_markExecuted (hid : ¬ q (b.proposals id).payload) :
    (b.markExecuted id).entries q = b.entries q := by
  funext i
  by_cases hi : i = id
  · subst hi
    simp [entries, markExecuted, hid]
  · simp [entries, markExecuted, hi]

omit [DecidableEq ν] in
theorem entries_markCancelled (hid : ¬ q (b.proposals id).payload) :
    (b.markCancelled id).entries q = b.entries q := by
  funext i
  by_cases hi : i = id
  · subst hi
    simp [entries, hid]
  · simp [entries, markCancelled, hi]

end Entries

/-! ### Well-formed boards -/

/-- The stored counts and deadlines are right, and unused numbers are blank. -/
structure WellFormed (ttl : ℕ) (b : Board ν α) : Prop where
  tally : ∀ id < b.counter, Tally (b.hasApproved id) (b.proposals id).approvalCount
  expires : ∀ id < b.counter, b.expiresAt id = (b.proposals id).createdAt + ttl
  fresh : ∀ id, b.counter ≤ id →
    (∀ a, b.hasApproved id a = false) ∧ b.cancelled id = false ∧ (b.proposals id).createdAt = 0

omit [DecidableEq ν] in
theorem wellFormed_empty [Inhabited ν] [Inhabited α] (ttl : ℕ) :
    (empty : Board ν α).WellFormed ttl where
  tally id hid := absurd hid (Nat.not_lt_zero id)
  expires id hid := absurd hid (Nat.not_lt_zero id)
  fresh _ _ := ⟨fun _ => rfl, rfl, rfl⟩

namespace WellFormed

variable {ttl : ℕ} {b : Board ν α}

theorem propose (h : b.WellFormed ttl) (now e : ℕ) (x : ν) (p : α) :
    (b.propose ttl now e x p).WellFormed ttl where
  tally id hid := by
    by_cases hb : id = b.counter
    · subst hb
      have hnone := (h.fresh b.counter le_rfl).1
      simpa [Board.propose] using (tally_zero hnone).update (hnone x)
    · have hlt : id < b.counter := by
        have : id < b.counter + 1 := hid
        omega
      simpa [Board.propose, hb] using h.tally id hlt
  expires id hid := by
    by_cases hb : id = b.counter
    · subst hb
      simp [Board.propose]
    · have hlt : id < b.counter := by
        have : id < b.counter + 1 := hid
        omega
      simpa [Board.propose, hb] using h.expires id hlt
  fresh id hid := by
    have hlt : b.counter + 1 ≤ id := hid
    have hb : id ≠ b.counter := by omega
    simpa [Board.propose, hb] using h.fresh id (by omega)

theorem approve (h : b.WellFormed ttl) {id : ℕ} {x : ν} (hid : id < b.counter)
    (hx : b.hasApproved id x = false) : (b.approve id x).WellFormed ttl where
  tally i hi := by
    by_cases hb : i = id
    · subst hb
      simpa [Board.approve] using (h.tally i hid).update hx
    · simpa [Board.approve, hb] using h.tally i hi
  expires i hi := by
    by_cases hb : i = id
    · subst hb
      simpa [Board.approve] using h.expires i hid
    · simpa [Board.approve, hb] using h.expires i hi
  fresh i hi := by
    have hlt : b.counter ≤ i := hi
    have hb : i ≠ id := by omega
    simpa [Board.approve, hb] using h.fresh i hlt

omit [DecidableEq ν] in
theorem markExecuted (h : b.WellFormed ttl) (id : ℕ) : (b.markExecuted id).WellFormed ttl where
  tally i hi := by
    by_cases hb : i = id
    · subst hb
      simpa [Board.markExecuted] using h.tally i hi
    · simpa [Board.markExecuted, hb] using h.tally i hi
  expires i hi := by
    by_cases hb : i = id
    · subst hb
      simpa [Board.markExecuted] using h.expires i hi
    · simpa [Board.markExecuted, hb] using h.expires i hi
  fresh i hi := by
    by_cases hb : i = id
    · subst hb
      simpa [Board.markExecuted] using h.fresh i hi
    · simpa [Board.markExecuted, hb] using h.fresh i hi

omit [DecidableEq ν] in
theorem markCancelled (h : b.WellFormed ttl) {id : ℕ} (hid : id < b.counter) :
    (b.markCancelled id).WellFormed ttl where
  tally := h.tally
  expires := h.expires
  fresh i hi := by
    have hlt : b.counter ≤ i := hi
    have hb : i ≠ id := by omega
    simpa [Board.markCancelled, hb] using h.fresh i hlt

end WellFormed

/-! ### The running epoch -/

/-- No proposal is from a later epoch than `e`, and those of epoch `e` satisfy `Q`. -/
def Current (Q : Proposal ν α → (ν → Bool) → Prop) (e : ℕ) (b : Board ν α) : Prop :=
  ∀ id < b.counter, (b.proposals id).epoch ≤ e ∧
    ((b.proposals id).epoch = e → Q (b.proposals id) (b.hasApproved id))

namespace Current

variable {Q Q' : Proposal ν α → (ν → Bool) → Prop} {e ttl : ℕ} {b : Board ν α}

omit [DecidableEq ν] in
theorem empty [Inhabited ν] [Inhabited α] : Current Q e (Board.empty : Board ν α) :=
  fun id hid => absurd hid (Nat.not_lt_zero id)

omit [DecidableEq ν] in
/-- Nothing is known yet about the next epoch, so whatever ends this one is harmless. -/
theorem advance (h : Current Q e b) : Current Q' (e + 1) b := by
  intro id hid
  have hle := (h id hid).1
  exact ⟨by omega, fun heq => by omega⟩

omit [DecidableEq ν] in
theorem imp (h : Current Q e b) (hQ : ∀ p f, Q p f → Q' p f) : Current Q' e b :=
  fun id hid => ⟨(h id hid).1, fun heq => hQ _ _ ((h id hid).2 heq)⟩

theorem propose (h : Current Q e b) {now : ℕ} {x : ν} {p : α}
    (hQ : Q { payload := p, approvalCount := 1, executed := false, createdAt := now,
              proposer := x, epoch := e } (Function.update (b.hasApproved b.counter) x true)) :
    Current Q e (b.propose ttl now e x p) := by
  intro id hid
  by_cases hb : id = b.counter
  · subst hb
    simpa [Board.propose] using hQ
  · have hlt : id < b.counter := by
      have : id < b.counter + 1 := hid
      omega
    simpa [Board.propose, hb] using h id hlt

theorem approve (h : Current Q e b) {id : ℕ} {x : ν}
    (hQ : (b.proposals id).epoch = e → Q (b.proposals id) (b.hasApproved id) →
      Q { b.proposals id with approvalCount := (b.proposals id).approvalCount + 1 }
        (Function.update (b.hasApproved id) x true)) :
    Current Q e (b.approve id x) := by
  intro i hi
  obtain ⟨hle, hcur⟩ := h i hi
  by_cases hb : i = id
  · subst hb
    simp only [Board.approve, Function.update_self]
    exact ⟨hle, fun heq => hQ heq (hcur heq)⟩
  · simpa [Board.approve, hb] using ⟨hle, hcur⟩

omit [DecidableEq ν] in
theorem markExecuted (h : Current Q e b) {id : ℕ}
    (hQ : Q (b.proposals id) (b.hasApproved id) →
      Q { b.proposals id with executed := true } (b.hasApproved id)) :
    Current Q e (b.markExecuted id) := by
  intro i hi
  obtain ⟨hle, hcur⟩ := h i hi
  by_cases hb : i = id
  · subst hb
    simp only [Board.markExecuted, Function.update_self]
    exact ⟨hle, fun heq => hQ (hcur heq)⟩
  · simpa [Board.markExecuted, hb] using ⟨hle, hcur⟩

omit [DecidableEq ν] in
theorem markCancelled (h : Current Q e b) (id : ℕ) : Current Q e (b.markCancelled id) := h

end Current

end Board

/-! ### What may happen to a board -/

/-- The circumstances of an action on a board: who acts and when, in which epoch, who may vote, how
many approvals carry a proposal, and how long a new proposal lives. -/
structure Context (ν : Type u) where
  sender : ν
  now : ℕ
  epoch : ℕ
  voters : ν → Bool
  quorum : ℕ
  ttl : ℕ

/-- The two ways to vote: making a proposal and approving it. -/
inductive Action
  | propose
  | approve (id : ℕ)
  | other
deriving DecidableEq

/-- Proposal `id` is open, alive and of the running epoch. -/
structure Board.IsOpen (ctx : Context ν) (b : Board ν α) (id : ℕ) : Prop where
  numbered : id < b.counter
  notExecuted : (b.proposals id).executed = false
  notCancelled : b.cancelled id = false
  timely : ctx.now ≤ b.expiresAt id
  current : (b.proposals id).epoch = ctx.epoch

/-- What one action may do to a board.  A vote may carry its proposal at once (`carry`), and a new
proposal may displace an old one (`replace`). -/
inductive Board.Update [DecidableEq ν] (ctx : Context ν) :
    Action → Board ν α → Board ν α → Prop
  | idle {b : Board ν α} : Update ctx .other b b
  | propose {b : Board ν α} (p : α) (hvoter : ctx.voters ctx.sender = true) :
      Update ctx .propose b (b.propose ctx.ttl ctx.now ctx.epoch ctx.sender p)
  | replace {b : Board ν α} (id : ℕ) (p : α) (hvoter : ctx.voters ctx.sender = true)
      (hid : id < b.counter) (hcancelled : b.cancelled id = false)
      (hold : b.expiresAt id < ctx.now ∨ (b.proposals id).epoch ≠ ctx.epoch) :
      Update ctx .propose b
        ((b.markCancelled id).propose ctx.ttl ctx.now ctx.epoch ctx.sender p)
  | approve {b : Board ν α} (id : ℕ) (hvoter : ctx.voters ctx.sender = true)
      (hopen : b.IsOpen ctx id) (hnew : b.hasApproved id ctx.sender = false) :
      Update ctx (.approve id) b (b.approve id ctx.sender)
  | carry {b : Board ν α} (id : ℕ) (hvoter : ctx.voters ctx.sender = true)
      (hopen : b.IsOpen ctx id) (hnew : b.hasApproved id ctx.sender = false)
      (hquorum : ctx.quorum ≤ (b.proposals id).approvalCount + 1) :
      Update ctx (.approve id) b ((b.approve id ctx.sender).markExecuted id)
  | execute {b : Board ν α} (id : ℕ) (hopen : b.IsOpen ctx id)
      (hquorum : ctx.quorum ≤ (b.proposals id).approvalCount) :
      Update ctx .other b (b.markExecuted id)
  | cancel {b : Board ν α} (id : ℕ) (hid : id < b.counter)
      (hold : b.expiresAt id < ctx.now) :
      Update ctx .other b (b.markCancelled id)

/-- The approvals of the running epoch are votes of voters. -/
def Board.VotedBy (voters : ν → Bool) (e : ℕ) (b : Board ν α) : Prop :=
  b.Current (fun _ f => ∀ a, f a = true → voters a = true) e

namespace Board.Update

variable [DecidableEq ν] {ctx : Context ν} {a : Action} {b b' : Board ν α}

theorem wellFormed (h : Update ctx a b b') (hb : b.WellFormed ctx.ttl) :
    b'.WellFormed ctx.ttl := by
  cases h with
  | idle => exact hb
  | propose p => exact hb.propose _ _ _ p
  | replace _ p _ hid => exact (hb.markCancelled hid).propose _ _ _ p
  | approve _ _ hopen hnew => exact hb.approve hopen.numbered hnew
  | carry id _ hopen hnew => exact (hb.approve hopen.numbered hnew).markExecuted id
  | execute id => exact hb.markExecuted id
  | cancel _ hid => exact hb.markCancelled hid

theorem counter_le (h : Update ctx a b b') : b.counter ≤ b'.counter := by
  cases h with
  | propose | replace => exact Nat.le_succ _
  | _ => exact le_rfl

/-- Voters add themselves only. -/
theorem votedBy (h : Update ctx a b b') (hwf : b.WellFormed ctx.ttl)
    (hb : b.VotedBy ctx.voters ctx.epoch) : b'.VotedBy ctx.voters ctx.epoch := by
  have hadd : ∀ f : ν → Bool, ctx.voters ctx.sender = true →
      (∀ x, f x = true → ctx.voters x = true) →
      ∀ x, Function.update f ctx.sender true x = true → ctx.voters x = true := by
    intro f hvoter hf x hx
    by_cases hxs : x = ctx.sender
    · rwa [hxs]
    · rw [Function.update_of_ne hxs] at hx
      exact hf x hx
  have hblank : ∀ x, b.hasApproved b.counter x = true → ctx.voters x = true := by
    intro x hx
    rw [(hwf.fresh b.counter le_rfl).1 x] at hx
    exact absurd hx (by decide)
  cases h with
  | idle | cancel => exact hb
  | propose p hvoter => exact Current.propose hb (hadd _ hvoter hblank)
  | replace id _ hvoter =>
    exact Current.propose (Current.markCancelled hb id) (hadd _ hvoter hblank)
  | approve _ hvoter => exact Current.approve hb fun _ hf => hadd _ hvoter hf
  | carry _ hvoter =>
    exact Current.markExecuted (Current.approve hb fun _ hf => hadd _ hvoter hf) fun hf => hf
  | execute => exact Current.markExecuted hb fun hf => hf

/-- A proposal is carried out while it is open and of the running epoch, with a quorum. -/
theorem of_executed (h : Update ctx a b b') {id : ℕ} (hbefore : (b.proposals id).executed = false)
    (hafter : (b'.proposals id).executed = true) :
    b.IsOpen ctx id ∧ ctx.quorum ≤ (b'.proposals id).approvalCount ∧
      (b'.proposals id).epoch = (b.proposals id).epoch := by
  -- only the two rules that execute can set the flag, and only that of their own proposal
  have hne : (b.proposals id).executed ≠ true := by rw [hbefore]; decide
  cases h with
  | idle | cancel => exact absurd hafter hne
  | propose =>
    by_cases hid : id = b.counter
    · simp [Board.propose, hid] at hafter
    · simp [Board.propose, hid, hbefore] at hafter
  | replace =>
    by_cases hid : id = b.counter
    · simp [Board.propose, Board.markCancelled, hid] at hafter
    · simp [Board.propose, Board.markCancelled, hid, hbefore] at hafter
  | approve i =>
    by_cases hid : id = i
    · subst hid
      simp [Board.approve, hbefore] at hafter
    · simp [Board.approve, hid, hbefore] at hafter
  | carry i _ hopen _ hquorum =>
    by_cases hid : id = i
    · subst hid
      simpa [Board.markExecuted, Board.approve] using ⟨hopen, hquorum⟩
    · simp [Board.markExecuted, Board.approve, hid, hbefore] at hafter
  | execute i hopen hquorum =>
    by_cases hid : id = i
    · subst hid
      simpa [Board.markExecuted] using ⟨hopen, hquorum⟩
    · simp [Board.markExecuted, hid, hbefore] at hafter

/-- What can happen to one proposal: nothing, its creation, or a vote on it or its execution while
it is open. -/
theorem row_cases (h : Update ctx a b b') (id : ℕ) :
    (b'.proposals id = b.proposals id ∧ b'.hasApproved id = b.hasApproved id) ∨
      (id = b.counter ∧ (b'.proposals id).createdAt = ctx.now ∧
        (b'.proposals id).epoch = ctx.epoch ∧ (b'.proposals id).executed = false) ∨
      (b.IsOpen ctx id ∧ (b'.proposals id).createdAt = (b.proposals id).createdAt ∧
        (b'.proposals id).epoch = (b.proposals id).epoch) := by
  cases h with
  | idle | cancel => exact Or.inl ⟨rfl, rfl⟩
  | propose =>
    by_cases hid : id = b.counter
    · subst hid
      simp [Board.propose]
    · simp [Board.propose, hid]
  | replace =>
    by_cases hid : id = b.counter
    · subst hid
      simp [Board.propose, Board.markCancelled]
    · simp [Board.propose, Board.markCancelled, hid]
  | approve i _ hopen =>
    by_cases hid : id = i
    · subst hid
      simp [Board.approve, hopen]
    · simp [Board.approve, hid]
  | carry i _ hopen =>
    by_cases hid : id = i
    · subst hid
      simp [Board.markExecuted, Board.approve, hopen]
    · simp [Board.markExecuted, Board.approve, hid]
  | execute i hopen =>
    by_cases hid : id = i
    · subst hid
      simp [Board.markExecuted, hopen]
    · simp [Board.markExecuted, hid]

end Board.Update

/-! ### Where approvals come from -/

/-- How the votes on one board are read off the transitions `τ` of a run: which transition makes
proposal `id`, which approves it, and who acted in it, in which epoch and when. -/
structure Reading (τ : Type w) (ν : Type u) where
  creates : ℕ → τ → Prop
  approves : ℕ → τ → Prop
  voter : τ → ν
  epoch : τ → ℕ
  time : τ → ℕ

/-- In the history `h` the proposal made last under the number `id` is of epoch `e` and was made at
time `now`, and every entry of `votes` is the vote of its maker or of a later transition of the
same epoch that approves it. -/
def Reading.Voted {τ : Type w} (R : Reading τ ν) (id e now : ℕ) (h : List τ)
    (votes : ν → Bool) : Prop :=
  ∃ pre c post, h = pre ++ c :: post ∧ R.creates id c ∧ (∀ t ∈ post, ¬ R.creates id t) ∧
    R.epoch c = e ∧ R.time c = now ∧
    ∀ x, votes x = true →
      R.voter c = x ∨ ∃ t ∈ post, R.approves id t ∧ R.voter t = x ∧ R.epoch t = e

/-- `x` made or approved, in epoch `e`, the proposal made last under the number `id`. -/
def Reading.Supports {τ : Type w} (R : Reading τ ν) (id e : ℕ) (h : List τ) (x : ν) : Prop :=
  ∃ pre c post, h = pre ++ c :: post ∧ R.creates id c ∧ (∀ t ∈ post, ¬ R.creates id t) ∧
    R.epoch c = e ∧ (R.voter c = x ∨ ∃ t ∈ post, R.approves id t ∧ R.voter t = x ∧ R.epoch t = e)

namespace Reading.Voted

variable {τ : Type w} {R : Reading τ ν} {id e now : ℕ} {h : List τ} {f f' : ν → Bool} {t : τ}

theorem supports (hv : R.Voted id e now h f) {x : ν} (hx : f x = true) :
    R.Supports id e h x := by
  obtain ⟨pre, c, post, hh, hc, hlast, hce, -, hvotes⟩ := hv
  exact ⟨pre, c, post, hh, hc, hlast, hce, hvotes x hx⟩

theorem snoc (hv : R.Voted id e now h f) (ht : ¬ R.creates id t) :
    R.Voted id e now (h ++ [t]) f := by
  obtain ⟨pre, c, post, rfl, hc, hlast, hce, hct, hx⟩ := hv
  refine ⟨pre, c, post ++ [t], by simp, hc, ?_, hce, hct, fun x hfx => ?_⟩
  · intro t' ht'
    rcases List.mem_append.mp ht' with hmem | hmem
    · exact hlast t' hmem
    · rwa [List.mem_singleton.mp hmem]
  · rcases hx x hfx with hl | ⟨t', ht', hr⟩
    · exact Or.inl hl
    · exact Or.inr ⟨t', List.mem_append_left _ ht', hr⟩

theorem mono (hv : R.Voted id e now h f) (hf : ∀ x, f' x = true → f x = true) :
    R.Voted id e now h f' := by
  obtain ⟨pre, c, post, hh, hc, hlast, hce, hct, hx⟩ := hv
  exact ⟨pre, c, post, hh, hc, hlast, hce, hct, fun x hfx => hx x (hf x hfx)⟩

/-- The transition that makes the proposal, with the approval of its maker. -/
theorem create [DecidableEq ν] (hc : R.creates id t) (hf : ∀ x, f x = false) :
    R.Voted id (R.epoch t) (R.time t) (h ++ [t]) (Function.update f (R.voter t) true) := by
  refine ⟨h, t, [], rfl, hc, fun _ hmem => absurd hmem List.not_mem_nil, rfl, rfl,
    fun x hx => Or.inl ?_⟩
  by_contra hne
  rw [Function.update_of_ne (Ne.symm hne), hf x] at hx
  exact absurd hx (by decide)

/-- One more approval, given in the epoch of the proposal. -/
theorem approve [DecidableEq ν] (hv : R.Voted id e now h f) (hnew : ¬ R.creates id t)
    (ht : R.approves id t) (hte : R.epoch t = e) :
    R.Voted id e now (h ++ [t]) (Function.update f (R.voter t) true) := by
  obtain ⟨pre, c, post, hh, hc, hlast, hce, hct, hx⟩ := hv.snoc hnew
  refine ⟨pre, c, post, hh, hc, hlast, hce, hct, fun x hfx => ?_⟩
  by_cases hxt : R.voter t = x
  · -- the last transition is the vote itself
    have hmem : t ∈ c :: post := by
      have hlast : (pre ++ c :: post).getLast? = some t := by rw [← hh]; simp
      rw [List.getLast?_append_cons] at hlast
      exact List.mem_of_getLast? hlast
    rcases List.mem_cons.mp hmem with rfl | hpost
    · exact Or.inl hxt
    · exact Or.inr ⟨t, hpost, ht, hxt, hte⟩
  · rw [Function.update_of_ne (Ne.symm hxt)] at hfx
    exact hx x hfx

end Reading.Voted

/-- Every approval on the board is a vote of the history. -/
def Board.Traced {τ : Type w} (R : Reading τ ν) (h : List τ) (b : Board ν α) : Prop :=
  ∀ id < b.counter,
    R.Voted id (b.proposals id).epoch (b.proposals id).createdAt h (b.hasApproved id)

namespace Board.Traced

variable {τ : Type w} {R : Reading τ ν} {h : List τ} {b : Board ν α} {t : τ}

theorem empty [Inhabited ν] [Inhabited α] : Board.Traced R h (Board.empty : Board ν α) :=
  fun id hid => absurd hid (Nat.not_lt_zero id)

/-- A transition that reuses no number. -/
theorem snoc (hb : b.Traced R h) (ht : ∀ id < b.counter, ¬ R.creates id t) :
    b.Traced R (h ++ [t]) :=
  fun id hid => (hb id hid).snoc (ht id hid)

theorem propose [DecidableEq ν] (hb : b.Traced R (h ++ [t])) {ttl : ℕ} (hwf : b.WellFormed ttl)
    (hc : R.creates b.counter t) (p : α) :
    (b.propose ttl (R.time t) (R.epoch t) (R.voter t) p).Traced R (h ++ [t]) := by
  intro id hid
  by_cases hi : id = b.counter
  · subst hi
    simpa [Board.propose] using
      Reading.Voted.create (h := h) hc (hwf.fresh b.counter le_rfl).1
  · have hlt : id < b.counter := by
      have : id < b.counter + 1 := hid
      omega
    simpa [Board.propose, hi] using hb id hlt

theorem approve [DecidableEq ν] (hb : b.Traced R h) (ht : ∀ id < b.counter, ¬ R.creates id t)
    {id : ℕ} (happ : R.approves id t) (hte : R.epoch t = (b.proposals id).epoch) :
    (b.approve id (R.voter t)).Traced R (h ++ [t]) := by
  intro i hi
  by_cases hid : i = id
  · subst hid
    simpa [Board.approve] using (hb i hi).approve (ht i hi) happ hte
  · simpa [Board.approve, hid] using (hb i hi).snoc (ht i hi)

theorem markExecuted (hb : b.Traced R h) (id : ℕ) : (b.markExecuted id).Traced R h := by
  intro i hi
  by_cases hid : i = id
  · subst hid
    simpa [Board.markExecuted] using hb i hi
  · simpa [Board.markExecuted, hid] using hb i hi

theorem markCancelled (hb : b.Traced R h) (id : ℕ) : (b.markCancelled id).Traced R h := hb

/-- A transition that acts on the board as it is read keeps the board traced. -/
theorem update [DecidableEq ν] (hb : b.Traced R h) {ctx : Context ν} {a : Action} {b' : Board ν α}
    (hu : Update ctx a b b') (hwf : b.WellFormed ctx.ttl) (hsender : R.voter t = ctx.sender)
    (hepoch : R.epoch t = ctx.epoch) (htime : R.time t = ctx.now)
    (hfresh : ∀ id < b.counter, ¬ R.creates id t)
    (hcreates : a = .propose → R.creates b.counter t)
    (happroves : ∀ id, a = .approve id → R.approves id t) :
    b'.Traced R (h ++ [t]) := by
  have hlater := hb.snoc hfresh
  cases hu with
  | idle => exact hlater
  | propose p =>
    rw [← hsender, ← hepoch, ← htime]
    exact hlater.propose hwf (hcreates rfl) p
  | replace id p _ hid =>
    rw [← hsender, ← hepoch, ← htime]
    exact Traced.propose (hlater.markCancelled id) (hwf.markCancelled hid) (hcreates rfl) p
  | approve id _ hopen =>
    rw [← hsender]
    exact hb.approve hfresh (happroves id rfl) (hepoch.trans hopen.current.symm)
  | carry id _ hopen =>
    rw [← hsender]
    exact (hb.approve hfresh (happroves id rfl) (hepoch.trans hopen.current.symm)).markExecuted id
  | execute id => exact hlater.markExecuted id
  | cancel id => exact hlater.markCancelled id

end Board.Traced

end Ballot
