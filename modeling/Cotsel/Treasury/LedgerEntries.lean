import Cotsel.Library.Table
import Cotsel.Treasury.AccountingPolicy

/-!
# Ledger entries

The table `treasury_ledger_entries` and the statements that write to it: `queries/ledger.ts` and
`queries/chainCanonicality.ts`.  An entry is the amount of one component of one event of the escrow.
Ingestion writes it again whenever the indexer reports the event again; the verdict of the chain on
it survives only if none of the columns that it is about has changed (`proofUnchanged`), and an
orphaned entry is not written at all.
-/

namespace Cotsel.Treasury

open Guard

inductive TreasuryComponent
  | logistics
  | platformFee
  | settlementSupportFee
deriving DecidableEq

/-- The columns that a verdict of the chain is about. -/
structure ChainProof where
  tradeId : List Char
  txHash : List Char
  blockNumber : ℕ
  blockHash : Option (List Char)
  logIndex : Option ℕ
  eventName : List Char
  componentType : TreasuryComponent
  amountRaw : ℕ
  logAddress : Option (List Char)
  logIdentityHash : Option (List Char)
deriving DecidableEq

/-- A row of `treasury_ledger_entries`. -/
structure LedgerEntry extends ChainProof where
  id : ℕ
  entryKey : List Char
  sourceTimestamp : ℕ
  canonicalityState : ChainCanonicalityState
deriving DecidableEq

/-- The ids and the entry keys are unique. -/
def ledgerTable : Table.Schema LedgerEntry ℕ Unit :=
  Table.Schema.unique LedgerEntry.id
    (fun e e' => e.id = e'.id || e.entryKey = e'.entryKey)
    (by simp [eq_comm]) (by simp +contextual)

def normalizeBlockHash (value : List Char) : Option (List Char) :=
  if Text.IsLowerHex 64 (normalized value) then some (normalized value) else none

def normalizeLogAddress (value : List Char) : Option (List Char) :=
  if Text.IsLowerHex 40 (normalized value) then some (normalized value) else none

/-! ### Ingestion -/

/-- The argument of `upsertLedgerEntryWithInitialState`. -/
structure LedgerEntryInput where
  entryKey : List Char
  tradeId : List Char
  txHash : List Char
  blockNumber : ℕ
  blockHash : List Char
  logIndex : ℕ
  logAddress : Option (List Char)
  logIdentityHash : Option (List Char)
  eventName : List Char
  componentType : TreasuryComponent
  amountRaw : ℕ
  sourceTimestamp : ℕ
deriving DecidableEq

/-- The row of an input whose block hash and log address have been normalized. -/
def LedgerEntryInput.row (input : LedgerEntryInput) (id : ℕ) (blockHash : List Char)
    (logAddress : Option (List Char)) : LedgerEntry where
  id := id
  entryKey := input.entryKey
  tradeId := input.tradeId
  txHash := input.txHash
  blockNumber := input.blockNumber
  blockHash := some blockHash
  logIndex := some input.logIndex
  logAddress := logAddress
  logIdentityHash := input.logIdentityHash
  eventName := input.eventName
  componentType := input.componentType
  amountRaw := input.amountRaw
  sourceTimestamp := input.sourceTimestamp
  canonicalityState := .unverified

/-- `PROOF_UNCHANGED`. -/
def proofUnchanged (old new : LedgerEntry) : Bool := old.toChainProof = new.toChainProof

/-- `INSERT … ON CONFLICT (entry_key) DO UPDATE … WHERE canonicality_state <> 'ORPHANED'`; the entry
with this key afterwards. -/
def writeLedgerEntry (row : LedgerEntry) (entries : List LedgerEntry) :
    Except Thrown (LedgerEntry × List LedgerEntry) :=
  match entries.find? fun e => e.entryKey = row.entryKey with
  | none =>
    match Table.insert ledgerTable row entries with
    | .ok entries' => pure (row, entries')
    | .error _ => throw .uniqueViolation
  | some old =>
    if old.canonicalityState = .orphaned then pure (old, entries)
    else
      let state := if proofUnchanged old row then old.canonicalityState else .unverified
      let new := { row with id := old.id, canonicalityState := state }
      pure (new, Table.replace ledgerTable new entries)

/-- The part of `upsertLedgerEntryWithInitialState` that writes the entry. -/
def upsertLedgerEntry (input : LedgerEntryInput) (id : ℕ) (entries : List LedgerEntry) :
    Except Thrown (LedgerEntry × List LedgerEntry) := do
  assertCanonicalRawAmount input.amountRaw
  match normalizeBlockHash input.blockHash with
  | none =>
    throw (.plain (Text.lit "blockHash is not a canonical block hash: " ++ input.blockHash))
  | some blockHash =>
    let logAddress := input.logAddress.bind normalizeLogAddress
    require (input.logAddress.isSome = true → logAddress.isSome = true)
      (.plain (Text.lit "logAddress is not a canonical contract address: " ++
        input.logAddress.getD []))
    writeLedgerEntry (input.row id blockHash logAddress) entries

/-! ### Verdicts -/

/-- The argument of `markLedgerEntryCanonical`. -/
structure CanonicalMark where
  ledgerEntryId : ℕ
  blockHash : List Char
  logIndex : ℕ
  logAddress : List Char
  logIdentityHash : List Char
deriving DecidableEq

/-- What the mark makes of an entry. -/
def CanonicalMark.apply (mark : CanonicalMark) (entry : LedgerEntry) : LedgerEntry :=
  { entry with
    canonicalityState := .canonical
    blockHash := some mark.blockHash
    logIndex := some mark.logIndex
    logAddress := some mark.logAddress
    logIdentityHash := some mark.logIdentityHash }

def markLedgerEntryCanonical (mark : CanonicalMark) (entries : List LedgerEntry) :
    ChainCanonicalityState × List LedgerEntry :=
  match Table.lookup ledgerTable mark.ledgerEntryId entries with
  | none => (.unverified, entries)
  | some entry =>
    if entry.canonicalityState = .orphaned then (.orphaned, entries)
    else (.canonical, Table.replace ledgerTable (mark.apply entry) entries)

/-- The part of `recordLedgerEntryOrphaned` that writes the entry. -/
def markLedgerEntryOrphaned (id : ℕ) (entries : List LedgerEntry) : List LedgerEntry :=
  match Table.lookup ledgerTable id entries with
  | none => entries
  | some entry =>
    Table.replace ledgerTable { entry with canonicalityState := .orphaned } entries

/-! ### What the statements do -/

section Inversion

variable {entries entries' : List LedgerEntry} {id : ℕ}

/-- What an upsert does: a new entry is not verified; an entry that is written again keeps its
verdict if the columns it is about are the same; an orphaned entry stays as it is. -/
inductive Upserts (input : LedgerEntryInput) (entries : List LedgerEntry) (result : LedgerEntry)
    (entries' : List LedgerEntry) : Prop
  | insert (hkey : result.entryKey = input.entryKey)
      (hstate : result.canonicalityState = .unverified)
      (hamount : result.amountRaw = input.amountRaw)
      (hins : Table.insert ledgerTable result entries = .ok entries')
  | update (old : LedgerEntry) (hold : old ∈ entries) (hkey : old.entryKey = input.entryKey)
      (hkey' : result.entryKey = input.entryKey) (hid : result.id = old.id)
      (hlive : old.canonicalityState ≠ .orphaned)
      (hstate : result.canonicalityState =
        if result.toChainProof = old.toChainProof then old.canonicalityState else .unverified)
      (hamount : result.amountRaw = input.amountRaw)
      (hentries : entries' = Table.replace ledgerTable result entries)
  | orphaned (hold : result ∈ entries) (hkey : result.entryKey = input.entryKey)
      (hstate : result.canonicalityState = .orphaned) (hentries : entries' = entries)

theorem writeLedgerEntry_eq_ok {input : LedgerEntryInput} {row result : LedgerEntry}
    (hkey : row.entryKey = input.entryKey) (hstate : row.canonicalityState = .unverified)
    (hamount : row.amountRaw = input.amountRaw)
    (h : writeLedgerEntry row entries = .ok (result, entries')) :
    Upserts input entries result entries' := by
  unfold writeLedgerEntry at h
  split at h
  · split at h
    · next hins =>
      obtain ⟨rfl, rfl⟩ := Prod.mk.inj (pure_eq_ok.mp h)
      exact .insert hkey hstate hamount hins
    · cases h
  · next old hfind =>
    have hold : old ∈ entries := List.mem_of_find?_eq_some hfind
    have hsame : old.entryKey = row.entryKey := by simpa using List.find?_some hfind
    rw [hkey] at hsame
    by_cases horphaned : old.canonicalityState = .orphaned
    · rw [if_pos horphaned] at h
      obtain ⟨rfl, rfl⟩ := Prod.mk.inj (pure_eq_ok.mp h)
      exact .orphaned hold hsame horphaned rfl
    · rw [if_neg horphaned] at h
      obtain ⟨rfl, rfl⟩ := Prod.mk.inj (pure_eq_ok.mp h)
      refine .update old hold hsame hkey rfl horphaned ?_ hamount rfl
      unfold proofUnchanged
      simp only [decide_eq_true_eq]
      exact if_congr eq_comm rfl rfl

theorem upsertLedgerEntry_eq_ok {input : LedgerEntryInput} {result : LedgerEntry}
    (h : upsertLedgerEntry input id entries = .ok (result, entries')) :
    Upserts input entries result entries' := by
  unfold upsertLedgerEntry at h
  rw [bind_eq_ok] at h
  obtain ⟨_, -, h⟩ := h
  split at h
  · cases h
  · rw [require_bind_eq_ok] at h
    exact writeLedgerEntry_eq_ok rfl rfl rfl h.2

theorem markLedgerEntryCanonical_cases {mark : CanonicalMark} {state : ChainCanonicalityState}
    (h : markLedgerEntryCanonical mark entries = (state, entries')) :
    entries' = entries ∨ ∃ old, Table.lookup ledgerTable mark.ledgerEntryId entries = some old ∧
      old.canonicalityState ≠ .orphaned ∧
      entries' = Table.replace ledgerTable (mark.apply old) entries := by
  unfold markLedgerEntryCanonical at h
  split at h
  · cases h
    exact Or.inl rfl
  · next old hold =>
    split_ifs at h with hstate
    · cases h
      exact Or.inl rfl
    · cases h
      exact Or.inr ⟨old, hold, hstate, rfl⟩

theorem markLedgerEntryOrphaned_cases : markLedgerEntryOrphaned id entries = entries ∨
    ∃ old, Table.lookup ledgerTable id entries = some old ∧
      markLedgerEntryOrphaned id entries =
        Table.replace ledgerTable { old with canonicalityState := .orphaned } entries := by
  unfold markLedgerEntryOrphaned
  split
  · exact Or.inl rfl
  · next old hold => exact Or.inr ⟨old, hold, rfl⟩

end Inversion

/-! ### The table stays valid -/

/-- The entries after a write: the indexes hold, and no entry has gone away. -/
structure KeepsEntries (entries entries' : List LedgerEntry) : Prop where
  valid : Table.Valid ledgerTable entries'
  found : ∀ id, (Table.lookup ledgerTable id entries).isSome = true →
    (Table.lookup ledgerTable id entries').isSome = true

theorem KeepsEntries.replace {entries : List LedgerEntry} {old row : LedgerEntry}
    (h : Table.Valid ledgerTable entries) (hold : old ∈ entries) (hid : row.id = old.id)
    (hkey : row.entryKey = old.entryKey) :
    KeepsEntries entries (Table.replace ledgerTable row entries) := by
  refine ⟨Table.replace_valid_of_clash h hold hid fun r => ?_, fun id hfound => ?_⟩
  · simp only [ledgerTable, Table.Schema.unique, hid, hkey]
  · exact Table.lookup_replace_isSome hfound

theorem Upserts.keepsEntries {input : LedgerEntryInput} {result : LedgerEntry}
    {entries entries' : List LedgerEntry} (h : Upserts input entries result entries')
    (hentries : Table.Valid ledgerTable entries) : KeepsEntries entries entries' := by
  cases h with
  | insert _ _ _ hins =>
    refine ⟨Table.insert_valid hentries hins, fun id hfound => ?_⟩
    obtain ⟨_, hrow⟩ := Option.isSome_iff_exists.mp hfound
    rw [(Table.insert_eq_ok.mp hins).2.2, Table.lookup_append_of_some hrow]
    rfl
  | update _ hold hkey hkey' hid _ _ _ hreplace =>
    rw [hreplace]
    exact .replace hentries hold hid (hkey'.trans hkey.symm)
  | orphaned _ _ _ hsame =>
    rw [hsame]
    exact ⟨hentries, fun _ h => h⟩

end Cotsel.Treasury
