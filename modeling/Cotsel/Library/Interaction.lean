import Mathlib

/-!
# Programs that interact with their surroundings

A program of a service is a tree: it returns a value, throws an error, or asks its surroundings for
an operation `o` and goes on with the answer.  Every answer is an `Except`: whatever a program asks
for may fail with an error that it can catch.  Between two operations anything may happen elsewhere,
so an operation is the unit of interleaving.

A `Protocol` says what a program may ask for in each of the roles it goes through: `allowed` is the
contract of an operation, `answers` what it may be told, `next` the role after the answer.  `wp` is
the weakest precondition of a program for it, with a postcondition for values and one for errors;
the rules `wp_bind`, `wp_call`, `wp_tryCatch` compute it along the text of a program.

`Asks` and `Throws` are about the text of a program alone: all that it may ever ask for, and what it
may throw.
-/

namespace Interaction

variable {Op : Type} {Ans : Op → Type} {ε α β : Type}

/-! ### Programs -/

/-- A program that asks for operations `o : Op`, which are answered by an `Ans o` or an error. -/
inductive Prog (Op : Type) (Ans : Op → Type) (ε α : Type) : Type
  | ret (a : α)
  | fail (e : ε)
  | op (o : Op) (k : Except ε (Ans o) → Prog Op Ans ε α)

namespace Prog

protected def bind : Prog Op Ans ε α → (α → Prog Op Ans ε β) → Prog Op Ans ε β
  | .ret a, f => f a
  | .fail e, _ => .fail e
  | .op o k, f => .op o fun r => (k r).bind f

/-- The handler takes over when the program throws. -/
protected def tryCatch : Prog Op Ans ε α → (ε → Prog Op Ans ε α) → Prog Op Ans ε α
  | .ret a, _ => .ret a
  | .fail e, h => h e
  | .op o k, h => .op o fun r => (k r).tryCatch h

instance : Monad (Prog Op Ans ε) where
  pure := .ret
  bind := .bind

instance : MonadExceptOf ε (Prog Op Ans ε) where
  throw := .fail
  tryCatch := .tryCatch

/-- Ask for one operation; an error is thrown. -/
def call (o : Op) : Prog Op Ans ε (Ans o) :=
  .op o fun
    | .ok a => .ret a
    | .error e => .fail e

def ofExcept : Except ε α → Prog Op Ans ε α
  | .ok a => .ret a
  | .error e => .fail e

/-- Run a program, and turn what it throws into a value. -/
def attempt (p : Prog Op Ans ε α) : Prog Op Ans ε (Except ε α) :=
  Prog.tryCatch (Prog.bind p fun a => .ret (.ok a)) fun e => .ret (.error e)

/-- `try { work } finally { cleanup }`: an error of the cleanup replaces the result. -/
def tryFinally (work : Prog Op Ans ε α) (cleanup : Prog Op Ans ε Unit) : Prog Op Ans ε α := do
  let result ← work.attempt
  cleanup
  ofExcept result

theorem bind_def (p : Prog Op Ans ε α) (f : α → Prog Op Ans ε β) : (p >>= f) = p.bind f := rfl

/-- The program has come to an end, with this result. -/
def result : Prog Op Ans ε α → Option (Except ε α)
  | .ret a => some (.ok a)
  | .fail e => some (.error e)
  | .op _ _ => none

end Prog

/-! ### Protocols -/

/-- What may be asked for in each role, what may be answered, and the role after the answer. -/
structure Protocol (Op : Type) (Ans : Op → Type) (ε τ : Type) where
  allowed : τ → Op → Prop
  answers : (o : Op) → Except ε (Ans o) → Prop
  next : τ → (o : Op) → Except ε (Ans o) → τ

variable {τ : Type} (P : Protocol Op Ans ε τ)

/-- From the role `t` the program asks only for what is allowed; it ends in a role and with a value
that satisfy `Q`, or in a role and with an error that satisfy `X`. -/
def wp : Prog Op Ans ε α → (Q : τ → α → Prop) → (X : τ → ε → Prop) → τ → Prop
  | .ret a, Q, _, t => Q t a
  | .fail e, _, X, t => X t e
  | .op o k, Q, X, t => P.allowed t o ∧ ∀ r, P.answers o r → wp (k r) Q X (P.next t o r)

variable {a : α} {e : ε} {o : Op}

section Rules

variable {P} {Q Q' : τ → α → Prop} {X X' : τ → ε → Prop} {t : τ}

@[simp] theorem wp_ret : wp P (.ret a) Q X t ↔ Q t a := Iff.rfl

@[simp] theorem wp_pure : wp P (pure a) Q X t ↔ Q t a := Iff.rfl

@[simp] theorem wp_fail : wp P (.fail e) Q X t ↔ X t e := Iff.rfl

theorem wp_mono (p : Prog Op Ans ε α) (hQ : ∀ t a, Q t a → Q' t a) (hX : ∀ t e, X t e → X' t e)
    (h : wp P p Q X t) : wp P p Q' X' t := by
  induction p generalizing t with
  | ret a => exact hQ t a h
  | fail e => exact hX t e h
  | op o k ih => exact ⟨h.1, fun r hr => ih r (h.2 r hr)⟩

@[simp] theorem wp_bind {p : Prog Op Ans ε β} {f : β → Prog Op Ans ε α} :
    wp P (p >>= f) Q X t ↔ wp P p (fun t b => wp P (f b) Q X t) X t := by
  induction p generalizing t with
  | ret | fail => exact Iff.rfl
  | op o k ih => exact and_congr_right fun _ => forall_congr' fun r => imp_congr_right fun _ => ih r

@[simp] theorem wp_progTryCatch {p : Prog Op Ans ε α} {h : ε → Prog Op Ans ε α} :
    wp P (p.tryCatch h) Q X t ↔ wp P p Q (fun t e => wp P (h e) Q X t) t := by
  induction p generalizing t with
  | ret | fail => exact Iff.rfl
  | op o k ih => exact and_congr_right fun _ => forall_congr' fun r => imp_congr_right fun _ => ih r

@[simp] theorem wp_tryCatch {p : Prog Op Ans ε α} {h : ε → Prog Op Ans ε α} :
    wp P (tryCatchThe ε p h) Q X t ↔ wp P p Q (fun t e => wp P (h e) Q X t) t :=
  wp_progTryCatch

@[simp] theorem wp_ofExcept {r : Except ε α} :
    wp P (.ofExcept r) Q X t ↔ (∀ a, r = .ok a → Q t a) ∧ ∀ e, r = .error e → X t e := by
  cases r <;> simp [Prog.ofExcept]

@[simp] theorem wp_call {Q : τ → Ans o → Prop} :
    wp P (.call o) Q X t ↔ P.allowed t o ∧
      (∀ a, P.answers o (.ok a) → Q (P.next t o (.ok a)) a) ∧
      ∀ e, P.answers o (.error e) → X (P.next t o (.error e)) e := by
  refine and_congr_right fun _ => ⟨fun h => ⟨fun a => h (.ok a), fun e => h (.error e)⟩, ?_⟩
  rintro ⟨hok, herror⟩ (e | a) hr
  · exact herror e hr
  · exact hok a hr

@[simp] theorem wp_attempt {p : Prog Op Ans ε α} {Q : τ → Except ε α → Prop} :
    wp P p.attempt Q X t ↔ wp P p (fun t a => Q t (.ok a)) (fun t e => Q t (.error e)) t := by
  unfold Prog.attempt
  rw [wp_progTryCatch, ← Prog.bind_def, wp_bind]
  rfl

@[simp] theorem wp_tryFinally {work : Prog Op Ans ε α} {cleanup : Prog Op Ans ε Unit} :
    wp P (work.tryFinally cleanup) Q X t ↔
      wp P work (fun t a => wp P cleanup (fun t _ => Q t a) X t)
        (fun t e => wp P cleanup (fun t _ => X t e) X t) t := by
  unfold Prog.tryFinally
  rw [wp_bind, wp_attempt]
  simp only [wp_bind]
  exact Iff.rfl

end Rules

/-! ### Programs that keep their role -/

variable {f : α → Prog Op Ans ε β}

section Keeps

/-- The operation is allowed in every role and changes none. -/
def Protocol.Neutral (o : Op) : Prop := ∀ t, P.allowed t o ∧ ∀ r, P.next t o r = t

/-- The program may run in any role, keeps it, and returns only values that satisfy `R`. -/
def Keeps (p : Prog Op Ans ε α) (R : α → Prop) : Prop :=
  ∀ t, wp P p (fun t' a => t' = t ∧ R a) (fun t' _ => t' = t) t

variable {P} {p : Prog Op Ans ε α} {R R' : α → Prop}

namespace Keeps

theorem pure (h : R a) : Keeps P (pure a) R := fun _ => ⟨rfl, h⟩

theorem throw : Keeps P (throwThe ε e) R := fun _ => rfl

theorem call (h : P.Neutral o) : Keeps P (.call o) fun a => P.answers o (.ok a) := by
  intro t
  rw [wp_call]
  refine ⟨(h t).1, fun a ha => ⟨(h t).2 _, ha⟩, fun e _ => (h t).2 _⟩

theorem ofExcept {x : Except ε α} : Keeps P (.ofExcept x) fun a => x = .ok a := by
  intro t
  rw [wp_ofExcept]
  exact ⟨fun a ha => ⟨rfl, ha⟩, fun _ _ => rfl⟩

theorem mono (h : Keeps P p R) (hR : ∀ a, R a → R' a) : Keeps P p R' := fun t =>
  wp_mono p (fun _ a ha => ⟨ha.1, hR a ha.2⟩) (fun _ _ he => he) (h t)

/-- What comes before keeps the role; what comes after may use what it returned. -/
theorem wp_bind (h : Keeps P p R) {Q : τ → β → Prop} {X : τ → ε → Prop}
    {t : τ} (hf : ∀ a, R a → wp P (f a) Q X t) (hX : ∀ e, X t e) : wp P (p >>= f) Q X t := by
  rw [Interaction.wp_bind]
  refine wp_mono p ?_ ?_ (h t)
  · rintro _ a ⟨rfl, ha⟩
    exact hf a ha
  · rintro _ e rfl
    exact hX e

theorem bind (h : Keeps P p R) {R' : β → Prop}
    (hf : ∀ a, R a → Keeps P (f a) R') : Keeps P (p >>= f) R' := fun t =>
  h.wp_bind (fun a ha => hf a ha t) fun _ => rfl

theorem tryCatch (h : Keeps P p R) {handler : ε → Prog Op Ans ε α}
    (hhandler : ∀ e, Keeps P (handler e) R) : Keeps P (tryCatchThe ε p handler) R := by
  intro t
  rw [wp_tryCatch]
  refine wp_mono p (fun _ _ ha => ha) ?_ (h t)
  rintro t' e rfl
  exact hhandler e t'

theorem attempt (h : Keeps P p R) : Keeps P p.attempt fun x => ∀ a, x = .ok a → R a := by
  intro t
  rw [wp_attempt]
  refine wp_mono p ?_ ?_ (h t)
  · rintro _ a ⟨rfl, ha⟩
    refine ⟨rfl, fun a' ha' => ?_⟩
    cases ha'
    exact ha
  · rintro _ e rfl
    exact ⟨rfl, fun _ ha => by cases ha⟩

end Keeps

end Keeps

/-! ### What a program asks for -/

/-- Whatever it is told, the program asks only for operations that satisfy `C`. -/
def Asks (C : Op → Prop) : Prog Op Ans ε α → Prop
  | .ret _ | .fail _ => True
  | .op o k => C o ∧ ∀ r, Asks C (k r)

namespace Asks

variable {C C' : Op → Prop} {p : Prog Op Ans ε α}

theorem pure : Asks C (pure a : Prog Op Ans ε α) := trivial

theorem throw : Asks C (throw e : Prog Op Ans ε α) := trivial

theorem call (h : C o) : Asks C (.call o : Prog Op Ans ε (Ans o)) := by
  refine ⟨h, ?_⟩
  rintro (e | a) <;> exact trivial

theorem bind (hp : Asks C p) (hf : ∀ a, Asks C (f a)) :
    Asks C (p >>= f) := by
  induction p with
  | ret a => exact hf a
  | fail => exact trivial
  | op o k ih => exact ⟨hp.1, fun r => ih r (hp.2 r)⟩

theorem tryCatch (hp : Asks C p) {handler : ε → Prog Op Ans ε α}
    (hhandler : ∀ e, Asks C (handler e)) : Asks C (tryCatchThe ε p handler) := by
  induction p with
  | ret => exact trivial
  | fail e => exact hhandler e
  | op o k ih => exact ⟨hp.1, fun r => ih r (hp.2 r)⟩

theorem mono (hp : Asks C p) (hC : ∀ o, C o → C' o) : Asks C' p := by
  induction p with
  | ret | fail => exact trivial
  | op o k ih => exact ⟨hC o hp.1, fun r => ih r (hp.2 r)⟩

theorem ite {c : Prop} [Decidable c] {q : Prog Op Ans ε α} (hp : Asks C p) (hq : Asks C q) :
    Asks C (if c then p else q) := by
  split_ifs
  · exact hp
  · exact hq

/-- A program that asks only for what keeps the role keeps the role. -/
theorem wp (hp : Asks C p) {t : τ} (hC : ∀ o, C o → P.allowed t o ∧ ∀ r, P.next t o r = t) :
    wp P p (fun t' _ => t' = t) (fun t' _ => t' = t) t := by
  induction p with
  | ret | fail => exact rfl
  | op o k ih =>
    refine ⟨(hC o hp.1).1, fun r _ => ?_⟩
    rw [(hC o hp.1).2 r]
    exact ih r (hp.2 r)

/-- The same, before something else. -/
theorem wp_bind (hp : Asks C p) {t : τ}
    (hC : ∀ o, C o → P.allowed t o ∧ ∀ r, P.next t o r = t) {Q : τ → β → Prop} {X : τ → ε → Prop}
    (hf : ∀ a, Interaction.wp P (f a) Q X t) (hX : ∀ e, X t e) :
    Interaction.wp P (p >>= f) Q X t := by
  rw [Interaction.wp_bind]
  refine wp_mono p ?_ ?_ (hp.wp P hC)
  · rintro _ a rfl
    exact hf a
  · rintro _ e rfl
    exact hX e

end Asks

/-! ### What a program throws -/

/-- If all errors it is told satisfy `E`, so do all errors the program throws. -/
def Throws (E : ε → Prop) : Prog Op Ans ε α → Prop
  | .ret _ => True
  | .fail e => E e
  | .op _ k => (∀ a, Throws E (k (.ok a))) ∧ ∀ e, E e → Throws E (k (.error e))

namespace Throws

variable {C : Op → Prop} {E : ε → Prop} {p : Prog Op Ans ε α}

theorem pure : Throws E (pure a : Prog Op Ans ε α) := trivial

theorem throw (h : E e) : Throws E (throw e : Prog Op Ans ε α) := h

theorem call : Throws E (.call o : Prog Op Ans ε (Ans o)) :=
  ⟨fun _ => trivial, fun _ he => he⟩

theorem bind (hp : Throws E p) (hf : ∀ a, Throws E (f a)) :
    Throws E (p >>= f) := by
  induction p with
  | ret a => exact hf a
  | fail => exact hp
  | op o k ih => exact ⟨fun a => ih _ (hp.1 a), fun e he => ih _ (hp.2 e he)⟩

theorem ite {c : Prop} [Decidable c] {q : Prog Op Ans ε α} (hp : Throws E p) (hq : Throws E q) :
    Throws E (if c then p else q) := by
  split_ifs
  · exact hp
  · exact hq

/-- A program that keeps the role, before something else. -/
theorem wp_bind (hp : Throws E p) (hasks : Asks C p) {t : τ}
    (hC : ∀ o, C o → P.allowed t o ∧ ∀ r, P.next t o r = t)
    (hE : ∀ o e, P.answers o (.error e) → E e) {Q : τ → β → Prop}
    {X : τ → ε → Prop} (hf : ∀ a, Interaction.wp P (f a) Q X t) (hX : ∀ e, E e → X t e) :
    Interaction.wp P (p >>= f) Q X t := by
  induction p with
  | ret a => exact hf a
  | fail e => exact hX e hp
  | op o k ih =>
    refine ⟨(hC o hasks.1).1, fun r hr => ?_⟩
    rw [(hC o hasks.1).2 r]
    cases r with
    | ok a => exact ih _ (hp.1 a) (hasks.2 _)
    | error e => exact ih _ (hp.2 e (hE o e hr)) (hasks.2 _)

end Throws

end Interaction
