import Cotsel.Library.Guard
import Cotsel.Library.Table
import Cotsel.Library.Text

/-!
# The tables of the auth service

`user_profiles`, `user_sessions` and `admin_authority_changes`, with the columns that the exchange
of a session reads or writes, and the statements of `database/queries` on profile rows.  A row
identifier is a number; instants are in microseconds.

There are two ways to be an administrator: temporary elevation of the row
(`ProfileRow.effectiveRole`) and a two-person grant to its account id (`Db.activeAdminGrant`).
-/

namespace Cotsel.Auth

open Text Guard

/-! ### Rows -/

inductive UserRole
  | buyer
  | supplier
  | admin
  | oracle
deriving DecidableEq

/-- A row of `user_profiles`. -/
structure ProfileRow where
  id : ℕ
  accountId : List Char
  walletAddress : Option (List Char)
  email : Option (List Char)
  role : UserRole
  orgId : Option (List Char)
  active : Bool
  /-- Whether `break_glass_role` is set, to `admin`. -/
  breakGlassRole : Bool
  breakGlassExpiresAt : Option ℕ
  breakGlassRevokedAt : Option ℕ
deriving DecidableEq

/-- A row of `user_sessions`. -/
structure SessionRow where
  userId : ℕ
  walletAddress : Option (List Char)
deriving DecidableEq

inductive ChangeKind
  | grant
  | revoke
deriving DecidableEq

inductive ChangeState
  | pending
  | applied
  | cancelled
deriving DecidableEq

/-- A row of `admin_authority_changes`. -/
structure AuthorityChange where
  accountId : List Char
  change : ChangeKind
  environment : List Char
  grantExpiresAt : Option ℕ
  state : ChangeState
  appliedAt : Option ℕ
deriving DecidableEq

theorem decide_eq_symm {α : Type} [DecidableEq α] (a b : α) : decide (a = b) = decide (b = a) :=
  decide_eq_decide.mpr eq_comm

theorem isSome_and_eq_symm {α : Type} [DecidableEq α] (a b : Option α) :
    (a.isSome && decide (a = b)) = (b.isSome && decide (b = a)) := by
  by_cases h : a = b
  · rw [h]
  · simp [h, Ne.symm h]

/-- The unique indexes of `user_profiles`. -/
def profileSchema : Table.Schema ProfileRow ℕ Unit :=
  .unique (·.id) (fun r r' => decide (r.id = r'.id) || decide (r.accountId = r'.accountId) ||
      (r.walletAddress.isSome && decide (r.walletAddress = r'.walletAddress)))
    (by
      intro r r'
      rw [isSome_and_eq_symm, decide_eq_symm r.id, decide_eq_symm r.accountId])
    (by
      intro r r' h
      simp [h])

/-- The tables, and the next identifier that `gen_random_uuid` draws. -/
structure Db where
  profiles : List ProfileRow
  sessions : List SessionRow
  changes : List AuthorityChange
  /-- The account ids that `operator_signer_bindings` refers to. -/
  signerAccounts : List (List Char)
  nextId : ℕ
deriving DecidableEq

/-- Refusals of the service, and of the database. -/
inductive AuthError
  | callerSafe (message : String)
  | exchangeAuthority (message : String)
  /-- A unique index. -/
  | uniqueViolation
  /-- Any other refusal of the database, or its absence. -/
  | database
deriving DecidableEq

/-! ### Administrators -/

/-- The elevation is set, neither expired nor revoked. -/
def ProfileRow.breakGlassActive (now : ℕ) (row : ProfileRow) : Bool :=
  row.breakGlassRole && row.breakGlassExpiresAt.any (fun t => decide (now < t)) &&
    row.breakGlassRevokedAt.isNone

/-- The column `role` of `USER_PROFILE_FIELDS`. -/
def ProfileRow.effectiveRole (now : ℕ) (row : ProfileRow) : UserRole :=
  if row.breakGlassActive now then .admin else row.role

/-- A profile as `USER_PROFILE_FIELDS` gives it. -/
structure UserProfile where
  id : ℕ
  accountId : List Char
  walletAddress : Option (List Char)
  email : Option (List Char)
  role : UserRole
  baseRole : UserRole
  adminProvisioned : Bool
  orgId : Option (List Char)
  active : Bool
  breakGlassRole : Bool
deriving DecidableEq

def ProfileRow.view (now : ℕ) (row : ProfileRow) : UserProfile where
  id := row.id
  accountId := row.accountId
  walletAddress := row.walletAddress
  email := row.email
  role := row.effectiveRole now
  baseRole := row.role
  adminProvisioned := false
  orgId := row.orgId
  active := row.active
  breakGlassRole := row.breakGlassRole

def laterApplied (best : Option AuthorityChange) (c : AuthorityChange) : Option AuthorityChange :=
  match best with
  | none => some c
  | some b => if b.appliedAt.getD 0 ≤ c.appliedAt.getD 0 then some c else some b

/-- A change that was applied, for this account and environment. -/
def AuthorityChange.AppliedTo (accountId environment : List Char) (c : AuthorityChange) : Prop :=
  c.accountId = accountId ∧ c.environment = environment ∧ c.state = .applied

instance (accountId environment : List Char) (c : AuthorityChange) :
    Decidable (c.AppliedTo accountId environment) := inferInstanceAs (Decidable (_ ∧ _))

/-- `ORDER BY applied_at DESC LIMIT 1`. -/
def Db.latestApplied (db : Db) (accountId environment : List Char) : Option AuthorityChange :=
  (db.changes.filter fun c => decide (c.AppliedTo accountId environment)).foldl laterApplied none

/-- An unexpired grant. -/
def AuthorityChange.grants (now : ℕ) (c : AuthorityChange) : Bool :=
  decide (c.change = .grant) && c.grantExpiresAt.any fun t => decide (now < t)

/-- `activeAdminGrantSql`: the latest applied change is a grant that has not expired. -/
def Db.activeAdminGrant (db : Db) (accountId environment : List Char) (now : ℕ) : Bool :=
  (db.latestApplied accountId environment).any (AuthorityChange.grants now)

/-! ### Statements on profiles -/

def Db.findProfileByAccountId (db : Db) (accountId : List Char) : Option ProfileRow :=
  db.profiles.find? fun r => decide (r.accountId = accountId)

def Db.findProfileByWallet (db : Db) (walletAddress : List Char) : Option ProfileRow :=
  db.profiles.find? fun r => decide (r.walletAddress = some walletAddress)

def Db.findProfileById (db : Db) (id : ℕ) : Option ProfileRow :=
  Table.lookup profileSchema id db.profiles

/-- What `updateTrustedProfileRow` and `insertTrustedProfileRow` write.  A column that is not given
stays as it is. -/
structure ProfileFields where
  accountId : List Char
  role : Option UserRole
  orgId : Option (List Char)
  email : Option (List Char)
  walletAddress : Option (List Char)
deriving DecidableEq

def ProfileFields.apply (input : ProfileFields) (row : ProfileRow) : ProfileRow :=
  { row with
    accountId := input.accountId
    walletAddress := input.walletAddress.or row.walletAddress
    email := input.email.or row.email
    role := input.role.getD row.role
    orgId := input.orgId.or row.orgId }

/-- An `UPDATE` of the profile with this id.  An account id that a signer binding refers to cannot
change. -/
def Db.updateProfile (db : Db) (id : ℕ) (change : ProfileRow → ProfileRow) :
    Except AuthError (ProfileRow × Db) :=
  match db.findProfileById id with
  | none => .error .database
  | some old =>
    if (change old).accountId ≠ old.accountId ∧ old.accountId ∈ db.signerAccounts then
      .error .database
    else
      match Table.updateWhere profileSchema id (fun _ => true) change db.profiles with
      | .ok (some row, profiles) => .ok (row, { db with profiles })
      | .ok (none, _) => .error .database
      | .error _ => .error .uniqueViolation

def Db.updateTrustedProfileRow (db : Db) (id : ℕ) (input : ProfileFields) :
    Except AuthError (ProfileRow × Db) :=
  db.updateProfile id input.apply

def Db.insertTrustedProfileRow (db : Db) (input : ProfileFields) (role : UserRole) :
    Except AuthError (ProfileRow × Db) :=
  let row : ProfileRow := ⟨db.nextId, input.accountId, input.walletAddress, input.email, role,
    input.orgId, true, false, none, none⟩
  match Table.insert profileSchema row db.profiles with
  | .ok profiles => .ok (row, { db with profiles, nextId := db.nextId + 1 })
  | .error _ => .error .uniqueViolation

/-- `DELETE FROM user_profiles`.  A row that a session or a signer binding refers to cannot go. -/
def Db.deleteProfile (db : Db) (id : ℕ) : Except AuthError Db :=
  match db.findProfileById id with
  | none => .ok db
  | some row =>
    if (∃ s ∈ db.sessions, s.userId = id) ∨ row.accountId ∈ db.signerAccounts then .error .database
    else .ok { db with profiles := db.profiles.filter fun r => decide (r.id ≠ id) }

/-! ### What the statements do -/

section

variable {db db' db'' : Db} {id : ℕ} {row row' : ProfileRow} {accountId environment : List Char}

/-- No two profiles share an id, an account id or a wallet. -/
abbrev Db.ProfilesValid (db : Db) : Prop := Table.Valid profileSchema db.profiles

theorem findProfileByAccountId_eq_some (h : db.findProfileByAccountId accountId = some row) :
    row ∈ db.profiles ∧ row.accountId = accountId := by
  refine ⟨List.mem_of_find?_eq_some h, ?_⟩
  have := List.find?_some h
  simpa using this

theorem findProfileByAccountId_eq_none (h : db.findProfileByAccountId accountId = none) :
    ∀ row ∈ db.profiles, row.accountId ≠ accountId := by
  intro row hrow heq
  have := List.find?_eq_none.mp h row hrow
  simp [heq] at this

theorem findProfileByWallet_eq_some {wallet : List Char}
    (h : db.findProfileByWallet wallet = some row) :
    row ∈ db.profiles ∧ row.walletAddress = some wallet := by
  refine ⟨List.mem_of_find?_eq_some h, ?_⟩
  have := List.find?_some h
  simpa using this

theorem findProfileById_eq_some (h : db.findProfileById id = some row) :
    row ∈ db.profiles ∧ row.id = id :=
  Table.lookup_eq_some_mem h

theorem updateProfile_eq_ok {change : ProfileRow → ProfileRow}
    (h : db.updateProfile id change = .ok (row, db')) :
    ∃ old, db.findProfileById id = some old ∧ row = change old ∧
      ((change old).accountId = old.accountId ∨ old.accountId ∉ db.signerAccounts) ∧
      (∀ r ∈ db.profiles, r.id ≠ id → profileSchema.clash (change old) r = none) ∧
      db' = { db with profiles := Table.replace profileSchema (change old) db.profiles } := by
  unfold Db.updateProfile at h
  split at h
  · cases h
  · next old hold =>
    split_ifs at h with hfk
    split at h
    · next r profiles hupdate =>
      cases h
      rcases Table.updateWhere_eq_ok.mp hupdate with
        ⟨hnone, -⟩ | ⟨r', hr', -, -, hclash, hout, hrows⟩
      · cases hnone
      · have heq : r' = old := by
          unfold Db.findProfileById at hold
          rw [hold] at hr'
          exact (Option.some.inj hr').symm
        subst heq
        cases hout
        refine ⟨r', hold, rfl, ?_, hclash, by rw [hrows]⟩
        by_contra hcon
        push Not at hcon
        exact hfk hcon
    · cases h
    · cases h

theorem insertTrustedProfileRow_eq_ok {input : ProfileFields} {role : UserRole}
    (h : db.insertTrustedProfileRow input role = .ok (row, db')) :
    row = ⟨db.nextId, input.accountId, input.walletAddress, input.email, role, input.orgId, true,
      false, none, none⟩ ∧ (∀ r ∈ db.profiles, profileSchema.clash row r = none) ∧
      db' = { db with profiles := db.profiles ++ [row], nextId := db.nextId + 1 } := by
  unfold Db.insertTrustedProfileRow at h
  dsimp only at h
  split at h
  · next profiles hinsert =>
    cases h
    obtain ⟨-, hclash, hrows⟩ := Table.insert_eq_ok.mp hinsert
    exact ⟨rfl, hclash, by rw [hrows]⟩
  · cases h

theorem deleteProfile_eq_ok (h : db.deleteProfile id = .ok db') :
    db' = { db with profiles := db.profiles.filter fun r => decide (r.id ≠ id) } := by
  unfold Db.deleteProfile at h
  split at h
  · next hnone =>
    cases h
    have hall : db.profiles.filter (fun r => decide (r.id ≠ id)) = db.profiles := by
      refine List.filter_eq_self.mpr fun r hr => ?_
      have := List.find?_eq_none.mp hnone r hr
      simpa [profileSchema, Table.Schema.unique] using this
    rw [hall]
  · split_ifs at h
    cases h
    rfl

end

end Cotsel.Auth
