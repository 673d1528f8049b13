import Mathlib

/-!
# Texts

A text is a list of Unicode characters.  The operations are those of a JavaScript string on the
texts that programs exchange: letter case of ASCII texts, white space, decimal and hexadecimal
numbers.

* `toNat_decimal`: a number is read back from its decimal text;
* `IsLower`, `isLower_of_mem`: what the letter case of a lower-case hexadecimal digit is;
* `joinLines_injective`: lines are read back from the text they are joined to;
* `utf8_append_inj`: so are ASCII texts of one length from the bytes they begin.
-/

namespace Text

/-- The characters of an ASCII literal (of its bytes, which evaluates faster than decoding). -/
def lit (s : String) : List Char := s.toByteArray.data.toList.map fun b => Char.ofNat b.toNat

/-! ### Letter case -/

def lowerLetter (c : Char) : Char :=
  if 65 ≤ c.toNat ∧ c.toNat ≤ 90 then Char.ofNat (c.toNat + 32) else c

def capitalLetter (c : Char) : Char :=
  if 97 ≤ c.toNat ∧ c.toNat ≤ 122 then Char.ofNat (c.toNat - 32) else c

def toLowerCase (s : List Char) : List Char := s.map lowerLetter

def toUpperCase (s : List Char) : List Char := s.map capitalLetter

/-! ### Length and white space -/

/-- `length`: the number of UTF-16 units. -/
def utf16Length (s : List Char) : ℕ := (s.map fun c => if c.toNat < 0x10000 then 1 else 2).sum

/-- The white space and line terminators that `trim` removes. -/
def isWhiteSpace (c : Char) : Bool :=
  [9, 10, 11, 12, 13, 32, 160, 5760, 8192, 8193, 8194, 8195, 8196, 8197, 8198, 8199, 8200, 8201,
    8202, 8232, 8233, 8239, 8287, 12288, 65279].contains c.toNat

def trim (s : List Char) : List Char :=
  ((s.dropWhile isWhiteSpace).reverse.dropWhile isWhiteSpace).reverse

theorem mem_trim {c : Char} {s : List Char} (h : c ∈ trim s) : c ∈ s := by
  have hdrop := (List.dropWhile_sublist _).subset (List.mem_reverse.mp h)
  exact (List.dropWhile_sublist _).subset (List.mem_reverse.mp hdrop)

def includes (s part : List Char) : Bool := decide (part <:+: s)

/-! ### Numbers -/

/-- `/^\d+$/`. -/
def IsDigits (s : List Char) : Prop := s ≠ [] ∧ s.all Char.isDigit = true

instance (s : List Char) : Decidable (IsDigits s) := inferInstanceAs (Decidable (_ ∧ _))

/-- `/^(0|[1-9]\d{0,n-1})$/`. -/
def IsDecimal (n : ℕ) (s : List Char) : Prop :=
  s = ['0'] ∨ (s.head? ≠ some '0' ∧ s ≠ [] ∧ s.length ≤ n ∧ s.all Char.isDigit = true)

instance (n : ℕ) (s : List Char) : Decidable (IsDecimal n s) :=
  inferInstanceAs (Decidable (_ ∨ _))

/-- The number with these decimal digits. -/
def toNat (s : List Char) : ℕ := Nat.ofDigitChars 10 s 0

def decimal (n : ℕ) : List Char := Nat.toDigits 10 n

@[simp] theorem toNat_decimal (n : ℕ) : toNat (decimal n) = n := Nat.ofDigitChars_ten_toDigits

/-- `[0-9a-f]`. -/
def lowerHexDigits : List Char :=
  ['0', '1', '2', '3', '4', '5', '6', '7', '8', '9', 'a', 'b', 'c', 'd', 'e', 'f']

/-- `[0-9a-fA-F]`. -/
def hexDigits : List Char := lowerHexDigits ++ ['A', 'B', 'C', 'D', 'E', 'F']

/-- `/^0x[0-9a-f]{n}$/`. -/
def IsLowerHex (n : ℕ) (s : List Char) : Prop :=
  s.take 2 = ['0', 'x'] ∧ s.length = n + 2 ∧ (s.drop 2).all lowerHexDigits.contains = true

instance (n : ℕ) (s : List Char) : Decidable (IsLowerHex n s) :=
  inferInstanceAs (Decidable (_ ∧ _))

/-- `/^0x[0-9a-fA-F]{n}$/`. -/
def IsHex (n : ℕ) (s : List Char) : Prop :=
  s.take 2 = ['0', 'x'] ∧ s.length = n + 2 ∧ (s.drop 2).all hexDigits.contains = true

instance (n : ℕ) (s : List Char) : Decidable (IsHex n s) :=
  inferInstanceAs (Decidable (_ ∧ _))

/-- `/^[0-9a-f]{n}$/`. -/
def IsLowerDigest (n : ℕ) (s : List Char) : Prop :=
  s.length = n ∧ s.all lowerHexDigits.contains = true

instance (n : ℕ) (s : List Char) : Decidable (IsLowerDigest n s) :=
  inferInstanceAs (Decidable (_ ∧ _))

/-- The hexadecimal digits of a number, at least `width` of them. -/
def paddedHex (width n : ℕ) : List Char :=
  let digits := Nat.toDigits 16 n
  List.replicate (width - digits.length) '0' ++ digits

/-! ### The case of hexadecimal digits -/

theorem lowerLetter_mem {c : Char} (h : c ∈ hexDigits) : lowerLetter c ∈ lowerHexDigits := by
  have hall : hexDigits.all (fun c => lowerHexDigits.contains (lowerLetter c)) = true := by
    decide +kernel
  exact List.contains_iff_mem.mp (List.all_eq_true.mp hall c h)

structure IsLower (c : Char) : Prop where
  lower : lowerLetter c = c
  hex : hexDigits.contains c = true

theorem isLower_of_mem {c : Char} (h : c ∈ lowerHexDigits) : IsLower c := by
  have hall : lowerHexDigits.all (fun c => decide (lowerLetter c = c) &&
      hexDigits.contains c) = true := by
    decide +kernel
  have hc := List.all_eq_true.mp hall c h
  rw [Bool.and_eq_true, decide_eq_true_eq] at hc
  exact ⟨hc.1, hc.2⟩

theorem toLowerCase_eq {l : List Char} (h : ∀ c ∈ l, c ∈ lowerHexDigits) :
    toLowerCase l = l := by
  conv_rhs => rw [← List.map_id l]
  exact List.map_congr_left fun c hc => (isLower_of_mem (h c hc)).lower

theorem mem_toLowerCase {l : List Char} (h : l.all hexDigits.contains = true) :
    ∀ c ∈ toLowerCase l, c ∈ lowerHexDigits := by
  intro c hc
  obtain ⟨d, hd, rfl⟩ := List.mem_map.mp hc
  exact lowerLetter_mem (List.contains_iff_mem.mp (List.all_eq_true.mp h d hd))

theorem all_hexDigits {l : List Char} (h : ∀ c ∈ l, c ∈ lowerHexDigits) :
    l.all hexDigits.contains = true :=
  List.all_eq_true.mpr fun c hc => (isLower_of_mem (h c hc)).hex

/-! ### Lines -/

/-- `join('\n')`. -/
def joinLines : List (List Char) → List Char
  | [] => []
  | [l] => l
  | l :: l' :: ls => l ++ '\n' :: joinLines (l' :: ls)

/-- No line feed in it. -/
def IsLine (l : List Char) : Prop := l.contains '\n' = false

instance (l : List Char) : Decidable (IsLine l) := inferInstanceAs (Decidable (_ = _))

theorem isLine_iff {l : List Char} : IsLine l ↔ '\n' ∉ l := by
  rw [IsLine, ← Bool.not_eq_true, List.contains_iff_mem]

theorem append_newline_inj {l l' r r' : List Char} (h : IsLine l) (h' : IsLine l')
    (heq : l ++ '\n' :: r = l' ++ '\n' :: r') : l = l' ∧ r = r' := by
  rw [isLine_iff] at h h'
  induction l generalizing l' with
  | nil =>
    cases l' with
    | nil => exact ⟨rfl, List.cons_inj_right _ |>.mp heq⟩
    | cons c l' =>
      rw [List.nil_append, List.cons_append, List.cons.injEq] at heq
      exact absurd (heq.1 ▸ List.mem_cons_self) h'
  | cons c l ih =>
    cases l' with
    | nil =>
      rw [List.nil_append, List.cons_append, List.cons.injEq] at heq
      exact absurd (heq.1 ▸ List.mem_cons_self) h
    | cons c' l' =>
      rw [List.cons_append, List.cons_append, List.cons.injEq] at heq
      obtain ⟨rfl, hrest⟩ := heq
      obtain ⟨rfl, rfl⟩ := ih (fun hc => h (List.mem_cons_of_mem _ hc))
        (fun hc => h' (List.mem_cons_of_mem _ hc)) hrest
      exact ⟨rfl, rfl⟩

/-- Equally many lines that are joined to the same text are the same. -/
theorem joinLines_injective {ls ls' : List (List Char)} (hlen : ls.length = ls'.length)
    (h : ∀ l ∈ ls, IsLine l) (h' : ∀ l ∈ ls', IsLine l) (heq : joinLines ls = joinLines ls') :
    ls = ls' := by
  induction ls generalizing ls' with
  | nil => exact (List.length_eq_zero_iff.mp hlen.symm).symm
  | cons l ls ih =>
    obtain _ | ⟨l', ls'⟩ := ls'
    · cases hlen
    obtain _ | ⟨k, ls⟩ := ls <;> obtain _ | ⟨k', ls'⟩ := ls'
    · rw [joinLines, joinLines] at heq
      rw [heq]
    · cases hlen
    · cases hlen
    · obtain ⟨rfl, hrest⟩ := append_newline_inj (h l List.mem_cons_self)
        (h' l' List.mem_cons_self) heq
      rw [ih (Nat.succ.inj hlen) (fun l hl => h l (List.mem_cons_of_mem _ hl))
        (fun l hl => h' l (List.mem_cons_of_mem _ hl)) hrest]

/-! ### Bytes -/

def utf8 (s : List Char) : List UInt8 := s.flatMap String.utf8EncodeChar

/-- `/^\d{n}$/`. -/
def IsDigitsOf (n : ℕ) (s : List Char) : Prop := s.length = n ∧ s.all Char.isDigit = true

instance (n : ℕ) (s : List Char) : Decidable (IsDigitsOf n s) :=
  inferInstanceAs (Decidable (_ ∧ _))

theorem utf8EncodeChar_digit {c : Char} (h : c.isDigit = true) :
    c.val.toNat ≤ 57 ∧ String.utf8EncodeChar c = [UInt8.ofNat c.val.toNat] := by
  have hle : c.val.toNat ≤ 57 := by
    simp only [Char.isDigit, Bool.and_eq_true, decide_eq_true_eq] at h
    exact h.2
  refine ⟨hle, ?_⟩
  unfold String.utf8EncodeChar
  rw [if_pos (by omega)]

/-- Equally many digits are read back from the bytes that they begin. -/
theorem utf8_append_inj {n : ℕ} {s s' : List Char} {b b' : List UInt8} (h : IsDigitsOf n s)
    (h' : IsDigitsOf n s') (heq : utf8 s ++ b = utf8 s' ++ b') : s = s' ∧ b = b' := by
  induction n generalizing s s' with
  | zero =>
    rw [List.length_eq_zero_iff.mp h.1, List.length_eq_zero_iff.mp h'.1] at heq ⊢
    exact ⟨rfl, heq⟩
  | succ n ih =>
    obtain _ | ⟨c, s⟩ := s
    · cases h.1
    obtain _ | ⟨c', s'⟩ := s'
    · cases h'.1
    obtain ⟨hlen, hall⟩ := h
    obtain ⟨hlen', hall'⟩ := h'
    rw [List.all_cons, Bool.and_eq_true] at hall hall'
    obtain ⟨hle, hc⟩ := utf8EncodeChar_digit hall.1
    obtain ⟨hle', hc'⟩ := utf8EncodeChar_digit hall'.1
    rw [utf8, utf8, List.flatMap_cons, List.flatMap_cons, hc, hc', List.append_assoc,
      List.append_assoc, List.singleton_append, List.singleton_append, List.cons.injEq] at heq
    have hbyte := congrArg UInt8.toNat heq.1
    rw [UInt8.toNat_ofNat', UInt8.toNat_ofNat', Nat.mod_eq_of_lt (by omega),
      Nat.mod_eq_of_lt (by omega)] at hbyte
    obtain ⟨rfl, rfl⟩ := ih ⟨Nat.succ.inj hlen, hall.2⟩ ⟨Nat.succ.inj hlen', hall'.2⟩ heq.2
    exact ⟨by rw [Char.toNat_inj.mp hbyte], rfl⟩

end Text
