import Cotsel.Sdk.SettlementFundedBinding

/-!
# The canonical form of a binding

What `parseSettlementFundedBinding` accepts and what it returns (`parse_eq_ok`).  The result differs
from the value it was read from only in the addresses, which become the lower-case form of what
`getAddress` returns, and in the hashes, which become lower-case.

Parsing the result again changes nothing as long as `getAddress` returned 20 bytes
(`parse_toJs_iff`).  Two results have the same JSON text iff the values agree, hashes up to the case
of the letters and addresses up to what `getAddress` makes of them (`stringify_eq_iff`).
-/

namespace Cotsel.Sdk

open Guard Text

variable {codec : AddressCodec} {v v' : JsValue} {r r' b b' : SettlementFundedBinding}

/-! ### Rows -/

theorem lookup_toJs (b : SettlementFundedBinding) {fs : List Field} {f : Field} (h : f ∈ fs) :
    (fs.map fun g => (PropertyKey.field g, some (b g))).lookup (.field f) = some (some (b f)) := by
  induction fs with
  | nil => cases h
  | cons g gs ih =>
    rw [List.map_cons, List.lookup_cons]
    by_cases hfg : f = g
    · subst hfg
      simp
    · have hkey : (PropertyKey.field f == PropertyKey.field g) = false :=
        beq_eq_false_iff_ne.mpr fun heq => hfg (PropertyKey.field.inj heq)
      rw [hkey]
      exact ih ((List.mem_cons.mp h).resolve_left hfg)

@[simp] theorem strings_toJs (b : SettlementFundedBinding) : b.toJs.strings = b := by
  funext f
  show ((List.lookup (PropertyKey.field f)
    (fields.map fun g => (PropertyKey.field g, some (b g)))).join).getD [] = b f
  rw [lookup_toJs b (mem_fields f)]
  rfl

/-- Whether the fields of a row are of the right version and phase. -/
structure Known (r : SettlementFundedBinding) : Prop where
  scopeVersion : r .scopeVersion = scopeVersionText
  phase : ∃ p ∈ fundedSettlementPhases, p.text = r .phase

theorem readRow_eq_ok (h : readRow v = .ok r) : r = v.strings ∧ Known r := by
  cases v with
  | other => cases h
  | object =>
    simp only [readRow, require_bind_eq_ok, pure_eq_ok] at h
    obtain ⟨-, hversion, hphase, rfl⟩ := h
    exact ⟨rfl, hversion, hphase⟩

theorem readRow_toJs (h : Known r) : readRow r.toJs = .ok r := by
  have hrow : r.toJs = .object _ := rfl
  have hkeys := strings_toJs r
  rw [hrow] at hkeys ⊢
  rw [readRow, require_bind_of_pos, hkeys, require_bind_of_pos h.scopeVersion,
    require_bind_of_pos h.phase]
  · rfl
  · refine ⟨?_, ?_, fun f hf => ?_⟩
    · rw [JsObject.keys, List.length_map, List.length_map]
    · intro _ hkey
      rwa [JsObject.keys, List.map_map] at hkey
    · rw [JsObject.get, lookup_toJs r hf]
      rfl

/-! ### Canonical forms -/

theorem canonicalize_eq_ok {canonical : List Char → Option (List Char)} {keys : List Field}
    (hkeys : keys.Nodup) :
    canonicalize canonical keys b = .ok b' ↔
      (∀ k ∈ keys, canonical (b k) = some (b' k)) ∧ ∀ k, k ∉ keys → b' k = b k := by
  induction keys generalizing b with
  | nil =>
    simp only [canonicalize, pure_eq_ok, List.not_mem_nil, false_implies, implies_true, true_and,
      not_false_eq_true, true_implies]
    exact ⟨fun h k => congrFun h.symm k, fun h => (funext h).symm⟩
  | cons key keys ih =>
    obtain ⟨hnotin, hnodup⟩ := List.nodup_cons.mp hkeys
    rw [canonicalize]
    cases hc : canonical (b key) with
    | none =>
      simp only [reduceCtorEq, false_iff, not_and]
      intro h
      rw [h key List.mem_cons_self] at hc
      cases hc
    | some s =>
      simp only [ih hnodup]
      constructor
      · rintro ⟨hin, hout⟩
        have hkey : b' key = s := by rw [hout key hnotin, Function.update_self]
        refine ⟨fun k hk => ?_, fun k hk => ?_⟩
        · rcases List.mem_cons.mp hk with rfl | hk
          · rw [hc, hkey]
          · have hne : k ≠ key := fun heq => hnotin (heq ▸ hk)
            rw [← hin k hk, Function.update_of_ne hne]
        · obtain ⟨hne, hk⟩ := not_or.mp (mt List.mem_cons.mpr hk)
          rw [hout k hk, Function.update_of_ne hne]
      · rintro ⟨hin, hout⟩
        have hkey : s = b' key := by
          have hs := hin key List.mem_cons_self
          rw [hc] at hs
          exact Option.some.inj hs
        refine ⟨fun k hk => ?_, fun k hk => ?_⟩
        · have hne : k ≠ key := fun heq => hnotin (heq ▸ hk)
          rw [Function.update_of_ne hne]
          exact hin k (List.mem_cons_of_mem _ hk)
        · by_cases hne : k = key
          · rw [hne, Function.update_self, hkey]
          · rw [Function.update_of_ne hne]
            exact hout k (mt List.mem_cons.mp (not_or.mpr ⟨hne, hk⟩))

/-- The row `r` is accepted, and `b` is its canonical form. -/
structure Parses (codec : AddressCodec) (r b : SettlementFundedBinding) : Prop where
  identifiers : ∀ key ∈ [Field.ownerServiceId, .sourceOperationId], IsIdentifier (r key)
  decimals : ∀ key ∈ decimalFields, IsUint256 (r key)
  chain : 0 < r.amount .chainId ∧ r.amount .chainId ≤ maxSafeInteger ∧ 0 < r.amount .totalAmount
  addresses : ∀ key ∈ addressFields, canonicalAddress codec (r key) = some (b key)
  hashes : ∀ key ∈ hashFields, canonicalHash (r key) = some (b key)
  others : ∀ key, key ∉ addressFields → key ∉ hashFields → b key = r key
  funding : IsLowerDigest 64 (b .originalFundingFingerprint) ∧
    b.amount .totalAmount = b.amount .logisticsAmount + b.amount .platformFeesAmount +
      b.amount .supplierFirstTranche + b.amount .supplierSecondTranche
  amounts : AmountsMatchPhase b

/-- The fields are addresses, hashes, or none of both. -/
theorem Field.disjoint {f : Field} (h : f ∈ addressFields) : f ∉ hashFields := by
  cases f <;> first | decide | exact absurd h (by decide)

theorem parse_eq_ok :
    parseSettlementFundedBinding codec v = .ok b ↔ ∃ r, readRow v = .ok r ∧ Parses codec r b := by
  simp only [parseSettlementFundedBinding, bind_eq_ok (x := readRow v), require_bind_eq_ok]
  constructor
  · rintro ⟨r, hread, hid, hdec, hchain, h⟩
    rw [bind_eq_ok] at h
    obtain ⟨_, haddr, h⟩ := h
    rw [bind_eq_ok] at h
    obtain ⟨_, hhash, h⟩ := h
    simp only [require_bind_eq_ok, pure_eq_ok] at h
    obtain ⟨hfund, hamounts, rfl⟩ := h
    rw [canonicalize_eq_ok (by decide)] at haddr hhash
    refine ⟨r, hread, hid, hdec, hchain, ?_, ?_, ?_, hfund, hamounts⟩
    · intro key hkey
      rw [haddr.1 key hkey, hhash.2 key (Field.disjoint hkey)]
    · intro key hkey
      rw [← hhash.1 key hkey, haddr.2 key fun h => Field.disjoint h hkey]
    · intro key ha hh
      rw [hhash.2 key hh, haddr.2 key ha]
  · rintro ⟨r, hread, h⟩
    refine ⟨r, hread, h.identifiers, h.decimals, h.chain, ?_⟩
    -- the binding between the two loops has the canonical addresses only
    let mid : SettlementFundedBinding := fun key => if key ∈ addressFields then b key else r key
    rw [bind_eq_ok]
    refine ⟨mid, ?_, ?_⟩
    · rw [canonicalize_eq_ok (by decide)]
      refine ⟨fun key hkey => ?_, fun key hkey => if_neg hkey⟩
      rw [h.addresses key hkey]
      exact congrArg some (if_pos hkey).symm
    · rw [bind_eq_ok]
      refine ⟨b, ?_, ?_⟩
      · rw [canonicalize_eq_ok (by decide)]
        refine ⟨fun key hkey => ?_, fun key hkey => ?_⟩
        · have hmid : mid key = r key := if_neg fun ha => Field.disjoint ha hkey
          rw [hmid, h.hashes key hkey]
        · by_cases ha : key ∈ addressFields
          · exact (if_pos ha).symm
          · exact (h.others key ha hkey).trans (if_neg ha).symm
      · rw [require_bind_of_pos h.funding, require_bind_of_pos h.amounts]
        rfl

/-! ### Addresses and hashes -/

theorem canonicalAddress_eq_some {s t : List Char} :
    canonicalAddress codec s = some t ↔ codec.account s = some t ∧ t ≠ zeroAddress := by
  unfold canonicalAddress AddressCodec.account
  cases codec.getAddress s with
  | none => simp
  | some a =>
    rw [Option.map_some, Option.some.injEq]
    show (if toLowerCase a = zeroAddress then none else some (toLowerCase a)) = some t ↔ _
    split_ifs with hzero
    · exact iff_of_false nofun fun h => h.2 (h.1 ▸ hzero)
    · rw [Option.some.injEq]
      exact ⟨fun h => ⟨h, h ▸ hzero⟩, And.left⟩

/-- A canonical address is accepted as it is iff it has 20 bytes. -/
theorem canonicalAddress_idem {s t : List Char} (h : canonicalAddress codec s = some t) :
    canonicalAddress codec t = some t ↔ ∀ a, codec.getAddress s = some a → a.length = 42 := by
  obtain ⟨hget, hzero⟩ := canonicalAddress_eq_some.mp h
  obtain ⟨a, ha, rfl⟩ := Option.map_eq_some_iff.mp hget
  obtain ⟨ds, hds, hhex⟩ := codec.digits ha
  have hlen : a.length = ds.length + 2 := by
    rw [← List.length_map (f := lowerLetter), ← toLowerCase, hds]
    rfl
  rw [canonicalAddress_eq_some, hds, AddressCodec.account, codec.lowerCase hhex, ite_eq_left_iff,
    ← hds, ha]
  constructor
  · rintro ⟨hshort, -⟩ _ ⟨⟩
    by_contra hlong
    exact absurd (hshort (by omega)) nofun
  · intro hfull
    have hfull := hfull a rfl
    exact ⟨fun hno => absurd (by omega) hno, hzero⟩

theorem canonicalHash_cons {digits : List Char} (hlen : digits.length = 64)
    (hlower : ∀ c ∈ digits, c ∈ lowerHexDigits) :
    canonicalHash ('0' :: 'x' :: digits) = some ('0' :: 'x' :: digits) := by
  have hlength : ('0' :: 'x' :: digits).length = 66 := by
    rw [List.length_cons, List.length_cons, hlen]
  rw [canonicalHash, if_pos ⟨Or.inl rfl, hlength, all_hexDigits hlower⟩]
  exact congrArg (fun l => some ('0' :: 'x' :: l)) (toLowerCase_eq hlower)

/-- A hash only loses its capitals, and its lower-case form is accepted as it is. -/
theorem canonicalHash_eq_some {s t : List Char} (h : canonicalHash s = some t) :
    t = toLowerCase s ∧ canonicalHash t = some t := by
  unfold canonicalHash at h
  split_ifs at h with hform
  cases h
  obtain ⟨hstart, hlen, hhex⟩ := hform
  rcases s with _ | ⟨z, _ | ⟨x, digits⟩⟩
  · simp at hlen
  · simp at hlen
  · have htext : toLowerCase (z :: x :: digits) = '0' :: 'x' :: toLowerCase digits := by
      rcases hstart with hx | hx <;> cases hx <;> rfl
    have hlength : (toLowerCase digits).length = 64 := by
      rw [List.length_cons, List.length_cons] at hlen
      rw [toLowerCase, List.length_map]
      omega
    rw [htext]
    exact ⟨rfl, canonicalHash_cons hlength (mem_toLowerCase hhex)⟩

/-! ### Parsing twice -/

/-- The addresses are of 20 bytes: `0x` and 40 digits as `getAddress` writes them. -/
def TwentyBytes (codec : AddressCodec) (r : SettlementFundedBinding) : Prop :=
  ∀ key ∈ addressFields, ∀ a, codec.getAddress (r key) = some a → a.length = 42

namespace Parses

theorem amount_eq (h : Parses codec r b) {key : Field} (ha : key ∉ addressFields)
    (hh : key ∉ hashFields) : b.amount key = r.amount key :=
  congrArg toNat (h.others key ha hh)

theorem idem (h : Parses codec r b) (hr : TwentyBytes codec r) : Parses codec b b where
  identifiers key hkey := by
    have hplain : key ∉ addressFields ∧ key ∉ hashFields := by
      have hall : ∀ k ∈ [Field.ownerServiceId, .sourceOperationId],
        k ∉ addressFields ∧ k ∉ hashFields := by decide
      exact hall key hkey
    rw [h.others key hplain.1 hplain.2]
    exact h.identifiers key hkey
  decimals key hkey := by
    have hplain : key ∉ addressFields ∧ key ∉ hashFields := by
      have hall : ∀ k ∈ decimalFields, k ∉ addressFields ∧ k ∉ hashFields := by decide
      exact hall key hkey
    rw [h.others key hplain.1 hplain.2]
    exact h.decimals key hkey
  chain := by
    rw [h.amount_eq (by decide) (by decide), h.amount_eq (by decide) (by decide)]
    exact h.chain
  addresses key hkey := (canonicalAddress_idem (h.addresses key hkey)).mpr (hr key hkey)
  hashes key hkey := (canonicalHash_eq_some (h.hashes key hkey)).2
  others _ _ _ := rfl
  funding := h.funding
  amounts := h.amounts

theorem known (h : Parses codec r b) (hr : Known r) : Known b where
  scopeVersion := by rw [h.others _ (by decide) (by decide), hr.scopeVersion]
  phase := by
    rw [h.others _ (by decide) (by decide)]
    exact hr.phase

end Parses

/-- Parsing is idempotent exactly on the values whose addresses have 20 bytes. -/
theorem parse_toJs_iff (h : parseSettlementFundedBinding codec v = .ok b) :
    parseSettlementFundedBinding codec b.toJs = .ok b ↔ TwentyBytes codec v.strings := by
  obtain ⟨_, hread, hparse⟩ := parse_eq_ok.mp h
  obtain ⟨rfl, hknown⟩ := readRow_eq_ok hread
  constructor
  · intro hagain key hkey
    obtain ⟨_, hread', hparse'⟩ := parse_eq_ok.mp hagain
    obtain ⟨rfl, -⟩ := readRow_eq_ok hread'
    rw [strings_toJs] at hparse'
    exact (canonicalAddress_idem (hparse.addresses key hkey)).mp (hparse'.addresses key hkey)
  · intro hfull
    exact parse_eq_ok.mpr ⟨b, readRow_toJs (hparse.known hknown), hparse.idem hfull⟩

/-! ### The text of a binding -/

theorem stringify_inj : b.stringify = b'.stringify ↔ b = b' := by
  constructor
  · intro h
    have hlist := Json.stringify_injective h
    funext f
    have hpair := List.map_inj_left.mp hlist f (mem_fields f)
    exact congrArg Prod.snd hpair
  · rintro rfl
    rfl

/-- The two values agree on every field: on the addresses up to `form`, on the hashes up to the case
of the letters. -/
def AgreeUpTo {α : Type} (form : List Char → α) (r r' : SettlementFundedBinding) : Prop :=
  ∀ key, if key ∈ addressFields then form (r key) = form (r' key)
    else if key ∈ hashFields then toLowerCase (r key) = toLowerCase (r' key) else r key = r' key

/-- The two values agree up to the case of the letters of addresses and hashes. -/
def AgreeUpToCase (r r' : SettlementFundedBinding) : Prop :=
  AgreeUpTo toLowerCase r r'

/-- The two values agree up to the way their addresses are written. -/
def SameAccounts (codec : AddressCodec) (r r' : SettlementFundedBinding) : Prop :=
  AgreeUpTo codec.account r r'

/-- The two values differ only in the way their addresses are written, and not only in the case of
the letters. -/
def Respelled (codec : AddressCodec) (r r' : SettlementFundedBinding) : Prop :=
  SameAccounts codec r r' ∧ ∃ key ∈ addressFields, toLowerCase (r key) ≠ toLowerCase (r' key)

/-- The JSON text of the canonical form identifies exactly the values with the same accounts. -/
theorem stringify_eq_iff (h : Parses codec r b) (h' : Parses codec r' b') :
    b.stringify = b'.stringify ↔ SameAccounts codec r r' := by
  rw [stringify_inj, funext_iff]
  refine forall_congr' fun key => ?_
  split_ifs with ha hh
  · rw [(canonicalAddress_eq_some.mp (h.addresses key ha)).1,
      (canonicalAddress_eq_some.mp (h'.addresses key ha)).1, Option.some.injEq]
  · rw [(canonicalHash_eq_some (h.hashes key hh)).1, (canonicalHash_eq_some (h'.hashes key hh)).1]
  · rw [h.others key ha hh, h'.others key ha hh]

/-- Accepted values that agree up to case have the same accounts. -/
theorem AgreeUpToCase.sameAccounts (h : Parses codec r b) (h' : Parses codec r' b')
    (hcase : AgreeUpToCase r r') : SameAccounts codec r r' := by
  intro key
  have hkey := hcase key
  split_ifs with ha hh
  · rw [if_pos ha] at hkey
    obtain ⟨a, hget, -⟩ := Option.map_eq_some_iff.mp
      (canonicalAddress_eq_some.mp (h.addresses key ha)).1
    obtain ⟨a', hget', -⟩ := Option.map_eq_some_iff.mp
      (canonicalAddress_eq_some.mp (h'.addresses key ha)).1
    rw [AddressCodec.account, AddressCodec.account, hget, hget', Option.map_some, Option.map_some,
      codec.caseless hget hget' hkey]
  · rwa [if_neg ha, if_pos hh] at hkey
  · rwa [if_neg ha, if_neg hh] at hkey

theorem SameAccounts.agreeUpToCase_iff (h : SameAccounts codec r r') :
    AgreeUpToCase r r' ↔
      ¬ ∃ key ∈ addressFields, toLowerCase (r key) ≠ toLowerCase (r' key) := by
  constructor
  · rintro hcase ⟨key, ha, hne⟩
    have hkey := hcase key
    rw [if_pos ha] at hkey
    exact hne hkey
  · intro hsame key
    have hkey := h key
    split_ifs with ha hh
    · by_contra hne
      exact hsame ⟨key, ha, hne⟩
    · rwa [if_neg ha, if_pos hh] at hkey
    · rwa [if_neg ha, if_neg hh] at hkey

/-- Equality of the JSON text is agreement up to case exactly for the values that are no respelling
of each other. -/
theorem stringify_canonical_iff (h : parseSettlementFundedBinding codec v = .ok b)
    (h' : parseSettlementFundedBinding codec v' = .ok b') :
    (b.stringify = b'.stringify ↔ AgreeUpToCase v.strings v'.strings) ↔
      ¬ Respelled codec v.strings v'.strings := by
  obtain ⟨_, hread, hparse⟩ := parse_eq_ok.mp h
  obtain ⟨_, hread', hparse'⟩ := parse_eq_ok.mp h'
  obtain ⟨rfl, -⟩ := readRow_eq_ok hread
  obtain ⟨rfl, -⟩ := readRow_eq_ok hread'
  rw [stringify_eq_iff hparse hparse', Respelled, not_and]
  constructor
  · intro hiff hsame
    exact hsame.agreeUpToCase_iff.mp (hiff.mp hsame)
  · intro hrespelled
    exact ⟨fun hsame => hsame.agreeUpToCase_iff.mpr (hrespelled hsame),
      AgreeUpToCase.sameAccounts hparse hparse'⟩

end Cotsel.Sdk
