import Mathlib

/-!
# Texts that can be read back

`SelfDelimiting enc`: from a text that starts with `enc a` both `a` and the rest of the text can be
recovered.  Such encodings can be put one after another without losing anything.

The second half is the JSON text of a flat object whose values are strings, as `JSON.stringify`
writes it: the keys in their order, no blanks, the seven short escapes and `\u00xx` for the other
control characters.  A text is a list of Unicode characters.

* `quote_selfDelimiting`: a quoted string can be read back;
* `stringify_injective`: two objects with the same text are the same.
-/

namespace Json

variable {α β γ : Type*}

/-! ### Self-delimiting encodings -/

/-- A text that starts with `enc a` determines `a` and what comes after. -/
def SelfDelimiting (enc : α → List γ) : Prop :=
  ∀ ⦃a b : α⦄ ⦃r r' : List γ⦄, enc a ++ r = enc b ++ r' → a = b ∧ r = r'

namespace SelfDelimiting

variable {enc : α → List γ}

/-- Two encodings one after the other, with a fixed text between them. -/
theorem append {enc' : β → List γ} (h : SelfDelimiting enc) (h' : SelfDelimiting enc')
    (w : List γ) : SelfDelimiting fun p : α × β => enc p.1 ++ (w ++ enc' p.2) := by
  intro p q r r' heq
  simp only [List.append_assoc] at heq
  obtain ⟨h1, hrest⟩ := h heq
  obtain ⟨h2, hr⟩ := h' (List.append_cancel_left hrest)
  exact ⟨Prod.ext h1 h2, hr⟩

/-- The encodings of the members of a list, one after the other and closed by the character `e`
that starts none of them. -/
theorem flatMap {e : γ} (h : SelfDelimiting enc) (hstart : ∀ a r r', enc a ++ r ≠ e :: r') :
    SelfDelimiting fun l : List α => l.flatMap enc ++ [e] := by
  intro l
  induction l with
  | nil =>
    intro l' r r' heq
    cases l' with
    | nil => exact ⟨rfl, List.cons_injective heq⟩
    | cons b l' =>
      simp only [List.flatMap_cons, List.append_assoc] at heq
      exact absurd heq.symm (hstart b _ _)
  | cons a l ih =>
    intro l' r r' heq
    cases l' with
    | nil =>
      simp only [List.flatMap_cons, List.append_assoc] at heq
      exact absurd heq (hstart a _ _)
    | cons b l' =>
      simp only [List.flatMap_cons, List.append_assoc] at heq
      obtain ⟨hab, hrest⟩ := h heq
      rw [← List.append_assoc, ← List.append_assoc (l'.flatMap enc)] at hrest
      obtain ⟨hl, hr⟩ := ih hrest
      exact ⟨by rw [hab, hl], hr⟩

end SelfDelimiting

/-! ### Strings -/

/-- The letter of a two-character escape. -/
def shortEscape (c : Char) : Option Char :=
  if c = '\x08' then some 'b'
  else if c = '\t' then some 't'
  else if c = '\n' then some 'n'
  else if c = '\x0c' then some 'f'
  else if c = '\r' then some 'r'
  else if c = '\"' then some '\"'
  else if c = '\\' then some '\\'
  else none

/-- The character that a two-character escape stands for. -/
def unescape (e : Char) : Char :=
  if e = 'b' then '\x08'
  else if e = 't' then '\t'
  else if e = 'n' then '\n'
  else if e = 'f' then '\x0c'
  else if e = 'r' then '\r'
  else e

theorem shortEscape_eq_some {c e : Char} (h : shortEscape c = some e) :
    unescape e = c ∧ e ≠ 'u' := by
  unfold shortEscape at h
  split_ifs at h with h1 h2 h3 h4 h5 h6 h7 <;> cases h <;> subst c <;> decide

/-- How a character stands in a quoted string. -/
def escape (c : Char) : List Char :=
  match shortEscape c with
  | some e => ['\\', e]
  | none =>
    if c.toNat < 0x20 then
      ['\\', 'u', '0', '0', Nat.digitChar (c.toNat / 16), Nat.digitChar (c.toNat % 16)]
    else [c]

/-- The three forms of an escaped character. -/
theorem escape_cases (c : Char) :
    (∃ e, escape c = ['\\', e] ∧ unescape e = c ∧ e ≠ 'u') ∨
    (escape c =
        ['\\', 'u', '0', '0', Nat.digitChar (c.toNat / 16), Nat.digitChar (c.toNat % 16)] ∧
      c.toNat < 0x20) ∨
    (escape c = [c] ∧ c ≠ '\\' ∧ c ≠ '\"') := by
  unfold escape
  cases hs : shortEscape c with
  | some e =>
    obtain ⟨hc, hu⟩ := shortEscape_eq_some hs
    exact .inl ⟨e, rfl, hc, hu⟩
  | none =>
    by_cases hlt : c.toNat < 0x20
    · exact .inr (.inl ⟨if_pos hlt, hlt⟩)
    · refine .inr (.inr ⟨if_neg hlt, ?_, ?_⟩) <;> rintro rfl <;> simp [shortEscape] at hs

theorem digitChar_injOn {m n : ℕ} (hm : m < 16) (hn : n < 16)
    (h : Nat.digitChar m = Nat.digitChar n) : m = n := by
  have hall : ∀ i j : Fin 16, Nat.digitChar i = Nat.digitChar j → i = j := by decide
  exact congrArg Fin.val (hall ⟨m, hm⟩ ⟨n, hn⟩ h)

theorem escape_selfDelimiting : SelfDelimiting escape := by
  intro c d r r' h
  rcases escape_cases c with ⟨e, hc, he, hu⟩ | ⟨hc, hlt⟩ | ⟨hc, hbs, hq⟩ <;>
    rcases escape_cases d with ⟨e', hd, he', hu'⟩ | ⟨hd, hlt'⟩ | ⟨hd, hbs', hq'⟩ <;>
    rw [hc, hd] at h <;> simp only [List.cons_append, List.nil_append, List.cons.injEq] at h
  · obtain ⟨-, rfl, hr⟩ := h
    exact ⟨he.symm.trans he', hr⟩
  · exact absurd h.2.1 hu
  · exact absurd h.1.symm hbs'
  · exact absurd h.2.1.symm hu'
  · obtain ⟨-, -, -, -, hhi, hlo, hr⟩ := h
    have h1 := digitChar_injOn (by omega) (by omega) hhi
    have h2 := digitChar_injOn (by omega) (by omega) hlo
    exact ⟨Char.toNat_inj.mp (by omega), hr⟩
  · exact absurd h.1.symm hbs'
  · exact absurd h.1 hbs
  · exact absurd h.1 hbs
  · exact h

theorem escape_append_ne_quote (c : Char) (r r' : List Char) : escape c ++ r ≠ '\"' :: r' := by
  rcases escape_cases c with ⟨e, hc, -⟩ | ⟨hc, -⟩ | ⟨hc, -, hq⟩ <;> rw [hc] <;> intro h
  · simp at h
  · simp at h
  · simp only [List.cons_append, List.cons.injEq] at h
    exact hq h.1

def quote (s : List Char) : List Char := '\"' :: (s.flatMap escape ++ ['\"'])

theorem quote_selfDelimiting : SelfDelimiting quote := by
  intro s t r r' h
  simp only [quote, List.cons_append, List.cons.injEq, true_and] at h
  exact escape_selfDelimiting.flatMap escape_append_ne_quote h

/-! ### Objects -/

def member (p : List Char × List Char) : List Char := quote p.1 ++ ([':'] ++ quote p.2)

theorem member_selfDelimiting : SelfDelimiting member :=
  quote_selfDelimiting.append quote_selfDelimiting [':']

/-- The members after the first, each with a comma before it. -/
def members (l : List (List Char × List Char)) : List Char :=
  l.flatMap (fun p => ',' :: member p) ++ ['\x7d']

theorem members_selfDelimiting : SelfDelimiting members := by
  refine SelfDelimiting.flatMap ?_ ?_
  · intro p q r r' h
    simp only [List.cons_append, List.cons.injEq, true_and] at h
    exact member_selfDelimiting h
  · intro p r r' h
    simp at h

def stringify : List (List Char × List Char) → List Char
  | [] => ['\x7b', '\x7d']
  | p :: l => '\x7b' :: (member p ++ members l)

theorem stringify_injective : Function.Injective stringify := by
  intro l l' h
  cases l with
  | nil =>
    cases l' with
    | nil => rfl
    | cons q l' => simp [stringify, member, quote] at h
  | cons p l =>
    cases l' with
    | nil => simp [stringify, member, quote] at h
    | cons q l' =>
      simp only [stringify, List.cons.injEq, true_and] at h
      obtain ⟨hpq, hrest⟩ := member_selfDelimiting h
      have happend : members l ++ [] = members l' ++ [] := by rw [hrest]
      rw [hpq, (members_selfDelimiting happend).1]

end Json
