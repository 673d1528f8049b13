import Cotsel.Auth.Tables

/-!
# Trusted session exchange

`core/exchangeAuthority.ts` and `upsertTrustedProfile`: an upstream service exchanges an account id
that it vouches for into a session.  The exchange creates the profile of the account, updates it,
links a profile that has the wallet of the account to it, or merges such a profile into it.  The
whole exchange is one transaction under the locks of the profile rows.

* `authorizeExchange_eq_ok`: what the policy of an exchange key lets through;
* `upsertTrustedProfile_cases`: the four things that an exchange can do;
* `exchange_keeps_administrators`: an exchange makes nobody an administrator and unmakes nobody,
  exactly if it does not link a profile that is itself an administrator to another account id.
-/

namespace Cotsel.Auth

open Text Guard

/-! ### The authority of an exchange key -/

/-- The ceiling on what a key may confer. -/
structure ExchangeAuthority where
  keyId : List Char
  roles : List UserRole
  orgId : Option (List Char)
deriving DecidableEq

def UserRole.text : UserRole → String
  | .buyer => "buyer"
  | .supplier => "supplier"
  | .admin => "admin"
  | .oracle => "oracle"

def orgRefused : AuthError :=
  .exchangeAuthority "Exchange key is not authorized for this organization"

def resolveRequestedOrgId (authority : ExchangeAuthority) (requestedOrgId : Option (List Char)) :
    Except AuthError (Option (List Char)) :=
  match authority.orgId with
  | none => .ok requestedOrgId
  | some orgId =>
    if requestedOrgId ≠ none ∧ requestedOrgId ≠ some orgId then .error orgRefused
    else .ok (some orgId)

def hasAdminAuthority (profile : UserProfile) : Bool :=
  decide (profile.role = .admin) && (decide (profile.baseRole ≠ .admin) || profile.adminProvisioned)

def assertOrganization (authority : ExchangeAuthority) (profile : UserProfile)
    (orgId : Option (List Char)) : Except AuthError Unit := do
  require (¬ (authority.orgId ≠ none ∧ profile.orgId ≠ none ∧ profile.orgId ≠ authority.orgId))
    orgRefused
  require (¬ ((profile.baseRole = .admin ∨ hasAdminAuthority profile = true) ∧ orgId ≠ none ∧
      orgId ≠ profile.orgId)) (.exchangeAuthority
    "Administrator organization can be changed only through the admin control plane")

/-- What the exchange may write; none leaves the stored value. -/
structure ExchangeProfileWrite where
  role : Option UserRole
  orgId : Option (List Char)
deriving DecidableEq

def assertAbsorbed (authority : ExchangeAuthority) (orgId : Option (List Char)) :
    Option UserProfile → Except AuthError Unit
  | none => .ok ()
  | some absorbed => do
    require (¬ (absorbed.baseRole = .admin ∨ hasAdminAuthority absorbed = true))
      (.exchangeAuthority
        "Session exchange cannot merge a profile that holds administrator authority")
    assertOrganization authority absorbed orgId

def assertTarget (authority : ExchangeAuthority) (orgId : Option (List Char)) :
    Option UserProfile → Except AuthError Unit
  | none => .ok ()
  | some target => assertOrganization authority target orgId

def authorizeExchange (authority : ExchangeAuthority) (requestedRole : UserRole)
    (requestedOrgId : Option (List Char)) (target absorbed : Option UserProfile) :
    Except AuthError ExchangeProfileWrite := do
  require (requestedRole ∈ authority.roles)
    (.exchangeAuthority ("Exchange key may not issue the " ++ requestedRole.text ++ " role"))
  let orgId ← resolveRequestedOrgId authority requestedOrgId
  assertAbsorbed authority orgId absorbed
  assertTarget authority orgId target
  if requestedRole = .admin then
    require (target.any hasAdminAuthority = true) (.exchangeAuthority
      "Administrator authority must be provisioned through the admin control plane")
    return ⟨none, none⟩
  else
    require (target.all (fun t => decide (t.baseRole ≠ .admin)) = true) (.exchangeAuthority
      "Provisioned administrator authority cannot be changed through session exchange")
    -- an elevated profile yields an administrator session, whatever role is asked for
    require (target.any hasAdminAuthority = true → .admin ∈ authority.roles)
      (.exchangeAuthority "Exchange key may not issue the admin role")
    return ⟨some requestedRole, orgId⟩

/-! ### The exchange -/

structure TrustedIdentity where
  accountId : List Char
  role : UserRole
  orgId : Option (List Char)
  email : Option (List Char)
  walletAddress : Option (List Char)
deriving DecidableEq

def isHex (c : Char) : Bool := hexDigits.contains c

def isDash (c : Char) : Bool := decide (c = '-')

/-- The characters of a UUID of versions 1 to 5, in either case. -/
def legacyPattern : List (Char → Bool) :=
  List.replicate 8 isHex ++ [isDash] ++ List.replicate 4 isHex ++ [isDash] ++
    (fun c => "12345".toList.contains c) :: List.replicate 3 isHex ++ [isDash] ++
    (fun c => "89abAB".toList.contains c) :: List.replicate 3 isHex ++ [isDash] ++
    List.replicate 12 isHex

/-- Whether the account id looks like the placeholder that `upsertProfile` draws for a profile that
has only a wallet. -/
def isLegacyAccountIdPlaceholder (accountId : List Char) : Bool :=
  decide (accountId.length = legacyPattern.length) &&
    (legacyPattern.zip accountId).all fun x => x.1 x.2

section

variable (db : Db) (environment : List Char) (now : ℕ)

/-- The profile, and whether a grant backs its administrator role. -/
def Db.withGrant (row : ProfileRow) : UserProfile :=
  { row.view now with
    adminProvisioned := decide (row.role = .admin) &&
      db.activeAdminGrant row.accountId environment now }

variable (input : TrustedIdentity) (authority : ExchangeAuthority)

/-- What is to be written, if the key may do so. -/
def Db.authorize (target absorbed : Option ProfileRow) : Except AuthError ProfileFields := do
  let write ← authorizeExchange authority input.role input.orgId
    (target.map (db.withGrant environment now)) (absorbed.map (db.withGrant environment now))
  return ⟨input.accountId, write.role, write.orgId, input.email, input.walletAddress⟩

def linkedElsewhere : AuthError :=
  .callerSafe "walletAddress is already linked to a different account"

def Db.moveSessions (db : Db) (source target : ℕ) (walletAddress : Option (List Char)) : Db :=
  { db with
    sessions := db.sessions.map fun s => if s.userId = source then
      { s with userId := target, walletAddress := walletAddress.or s.walletAddress } else s }

def Db.mergeProfile (account wallet : ProfileRow) : Except AuthError (UserProfile × Db) := do
  require (isLegacyAccountIdPlaceholder wallet.accountId = true) linkedElsewhere
  require (¬ (account.walletAddress ≠ none ∧ account.walletAddress ≠ input.walletAddress))
    (.callerSafe "trusted account already has a different linked wallet")
  let fields ← db.authorize environment now input authority (some account) (some wallet)
  let deleted ← (db.moveSessions wallet.id account.id input.walletAddress).deleteProfile wallet.id
  let (row, db') ← deleted.updateTrustedProfileRow account.id fields
  return (row.view now, db')

def Db.updateAccount (account : ProfileRow) : Except AuthError (UserProfile × Db) := do
  let fields ← db.authorize environment now input authority (some account) none
  let (row, db') ← db.updateTrustedProfileRow account.id fields
  return (row.view now, db')

def Db.relinkWallet (wallet : ProfileRow) : Except AuthError (UserProfile × Db) := do
  require (wallet.accountId = input.accountId ∨
    isLegacyAccountIdPlaceholder wallet.accountId = true) linkedElsewhere
  let fields ← db.authorize environment now input authority (some wallet) none
  let (row, db') ← db.updateTrustedProfileRow wallet.id fields
  return (row.view now, db')

def Db.createProfile : Except AuthError (UserProfile × Db) := do
  let fields ← db.authorize environment now input authority none none
  let (row, db') ← db.insertTrustedProfileRow fields (fields.role.getD input.role)
  return (row.view now, db')

def Db.upsertTrustedProfile : Except AuthError (UserProfile × Db) :=
  match db.findProfileByAccountId input.accountId,
      input.walletAddress.bind db.findProfileByWallet with
  | some account, some wallet =>
    if account.id ≠ wallet.id then db.mergeProfile environment now input authority account wallet
    else db.updateAccount environment now input authority account
  | some account, none => db.updateAccount environment now input authority account
  | none, some wallet => db.relinkWallet environment now input authority wallet
  | none, none => db.createProfile environment now input authority

end

/-! ### What an exchange does -/

section

variable {authority : ExchangeAuthority} {requestedRole : UserRole}
  {requestedOrgId : Option (List Char)} {target absorbed : Option UserProfile}
  {write : ExchangeProfileWrite}

/-- What the policy of a key lets through: a session within its roles, for a profile whose
administrator authority stays what it is. -/
structure Authorized (authority : ExchangeAuthority) (requestedRole : UserRole)
    (target absorbed : Option UserProfile) (write : ExchangeProfileWrite) : Prop where
  role_mem : requestedRole ∈ authority.roles
  absorbed : ∀ p ∈ absorbed, p.baseRole ≠ .admin ∧ hasAdminAuthority p = false
  written : (requestedRole = .admin ∧ write.role = none ∧
      ∃ p ∈ target, hasAdminAuthority p = true) ∨
    (requestedRole ≠ .admin ∧ write.role = some requestedRole ∧
      ∀ p ∈ target, p.baseRole ≠ .admin ∧ (hasAdminAuthority p = true → .admin ∈ authority.roles))

theorem authorizeExchange_eq_ok
    (h : authorizeExchange authority requestedRole requestedOrgId target absorbed = .ok write) :
    Authorized authority requestedRole target absorbed write := by
  unfold authorizeExchange at h
  rw [require_bind_eq_ok] at h
  obtain ⟨hrole, h⟩ := h
  obtain ⟨_, -, h⟩ := bind_eq_ok.mp h
  obtain ⟨_, habsorbed, h⟩ := bind_eq_ok.mp h
  obtain ⟨_, -, h⟩ := bind_eq_ok.mp h
  refine ⟨hrole, fun p hp => ?_, ?_⟩
  · rw [hp, assertAbsorbed, require_bind_eq_ok] at habsorbed
    obtain ⟨hnot, -⟩ := habsorbed
    push Not at hnot
    exact ⟨hnot.1, by simpa using hnot.2⟩
  · split_ifs at h with hadmin
    · simp only [require_bind_eq_ok, pure_eq_ok] at h
      obtain ⟨htarget, rfl⟩ := h
      obtain ⟨p, hp, hauth⟩ := (Option.any_eq_true _ _).mp htarget
      exact Or.inl ⟨hadmin, rfl, p, hp, hauth⟩
    · simp only [require_bind_eq_ok, pure_eq_ok] at h
      obtain ⟨hbase, hceiling, rfl⟩ := h
      refine Or.inr ⟨hadmin, rfl, fun p hp => ?_⟩
      rw [hp] at hbase hceiling
      simp only [Option.all_some, decide_eq_true_eq] at hbase
      exact ⟨hbase, fun hauth => hceiling (by simpa using hauth)⟩

end

section

variable {db db' : Db} {environment : List Char} {now : ℕ} {input : TrustedIdentity}
  {authority : ExchangeAuthority} {profile : UserProfile} {fields : ProfileFields}

/-- The role that is written for a row under this policy. -/
structure Granted (db : Db) (environment : List Char) (now : ℕ) (input : TrustedIdentity)
    (authority : ExchangeAuthority) (target absorbed : Option ProfileRow) (fields : ProfileFields) :
    Prop where
  accountId : fields.accountId = input.accountId
  walletAddress : fields.walletAddress = input.walletAddress
  allowed : ∃ write, fields.role = write.role ∧ Authorized authority input.role
    (target.map (db.withGrant environment now)) (absorbed.map (db.withGrant environment now)) write

theorem authorize_eq_ok {target absorbed : Option ProfileRow}
    (h : db.authorize environment now input authority target absorbed = .ok fields) :
    Granted db environment now input authority target absorbed fields := by
  obtain ⟨write, hwrite, h⟩ := bind_eq_ok.mp h
  rw [pure_eq_ok] at h
  subst h
  exact ⟨rfl, rfl, write, rfl, authorizeExchange_eq_ok hwrite⟩

inductive Exchanged (db : Db) (environment : List Char) (now : ℕ) (input : TrustedIdentity)
    (authority : ExchangeAuthority) : UserProfile → Db → Prop
  | merged {account wallet row : ProfileRow} {fields : ProfileFields} {deleted db' : Db}
      (haccount : db.findProfileByAccountId input.accountId = some account)
      (hwallet : input.walletAddress.bind db.findProfileByWallet = some wallet)
      (hne : account.id ≠ wallet.id)
      (hlegacy : isLegacyAccountIdPlaceholder wallet.accountId = true)
      (hfields : Granted db environment now input authority (some account) (some wallet) fields)
      (hdeleted : (db.moveSessions wallet.id account.id input.walletAddress).deleteProfile
        wallet.id = .ok deleted)
      (hupdate : deleted.updateTrustedProfileRow account.id fields = .ok (row, db')) :
      Exchanged db environment now input authority (row.view now) db'
  | updated {account row : ProfileRow} {fields : ProfileFields} {db' : Db}
      (haccount : db.findProfileByAccountId input.accountId = some account)
      (hfields : Granted db environment now input authority (some account) none fields)
      (hupdate : db.updateTrustedProfileRow account.id fields = .ok (row, db')) :
      Exchanged db environment now input authority (row.view now) db'
  | relinked {wallet row : ProfileRow} {fields : ProfileFields} {db' : Db}
      (haccount : db.findProfileByAccountId input.accountId = none)
      (hwallet : input.walletAddress.bind db.findProfileByWallet = some wallet)
      (hlegacy : isLegacyAccountIdPlaceholder wallet.accountId = true)
      (hfields : Granted db environment now input authority (some wallet) none fields)
      (hupdate : db.updateTrustedProfileRow wallet.id fields = .ok (row, db')) :
      Exchanged db environment now input authority (row.view now) db'
  | created {row : ProfileRow} {fields : ProfileFields} {db' : Db}
      (haccount : db.findProfileByAccountId input.accountId = none)
      (hwallet : input.walletAddress.bind db.findProfileByWallet = none)
      (hfields : Granted db environment now input authority none none fields)
      (hinsert : db.insertTrustedProfileRow fields (fields.role.getD input.role) = .ok (row, db')) :
      Exchanged db environment now input authority (row.view now) db'

theorem updateAccount_eq_ok {account : ProfileRow}
    (haccount : db.findProfileByAccountId input.accountId = some account)
    (h : db.updateAccount environment now input authority account = .ok (profile, db')) :
    Exchanged db environment now input authority profile db' := by
  obtain ⟨_, hfields, h⟩ := bind_eq_ok.mp h
  obtain ⟨⟨_, _⟩, hupdate, h⟩ := bind_eq_ok.mp h
  cases h
  exact .updated haccount (authorize_eq_ok hfields) hupdate

theorem upsertTrustedProfile_cases
    (h : db.upsertTrustedProfile environment now input authority = .ok (profile, db')) :
    Exchanged db environment now input authority profile db' := by
  unfold Db.upsertTrustedProfile at h
  split at h
  · next account wallet haccount hwallet =>
    split_ifs at h with hne
    · unfold Db.mergeProfile at h
      rw [require_bind_eq_ok, require_bind_eq_ok] at h
      obtain ⟨hlegacy, -, h⟩ := h
      obtain ⟨fields, hfields, h⟩ := bind_eq_ok.mp h
      obtain ⟨_, hdeleted, h⟩ := bind_eq_ok.mp h
      obtain ⟨⟨row, db''⟩, hupdate, h⟩ := bind_eq_ok.mp h
      cases h
      exact .merged haccount hwallet hne hlegacy (authorize_eq_ok hfields) hdeleted hupdate
    · exact updateAccount_eq_ok haccount h
  · next account haccount hwallet => exact updateAccount_eq_ok haccount h
  · next wallet haccount hwallet =>
    unfold Db.relinkWallet at h
    rw [require_bind_eq_ok] at h
    obtain ⟨hlink, h⟩ := h
    obtain ⟨fields, hfields, h⟩ := bind_eq_ok.mp h
    obtain ⟨⟨row, db''⟩, hupdate, h⟩ := bind_eq_ok.mp h
    cases h
    have hlegacy : isLegacyAccountIdPlaceholder wallet.accountId = true := by
      rcases hlink with hsame | hlegacy
      · -- the profile of the account would have been found
        obtain ⟨_, -, hw⟩ := Option.bind_eq_some_iff.mp hwallet
        exact absurd hsame
          (findProfileByAccountId_eq_none haccount _ (findProfileByWallet_eq_some hw).1)
      · exact hlegacy
    exact .relinked haccount hwallet hlegacy (authorize_eq_ok hfields) hupdate
  · next haccount hwallet =>
    obtain ⟨_, hfields, h⟩ := bind_eq_ok.mp h
    obtain ⟨⟨_, _⟩, hinsert, h⟩ := bind_eq_ok.mp h
    cases h
    exact .created haccount hwallet (authorize_eq_ok hfields) hinsert

end

/-! ### Who is an administrator -/

/-- The row is an administrator: by a durable role that a grant in this environment backs, or by an
active elevation. -/
def Db.Administers (db : Db) (environment : List Char) (now : ℕ) (row : ProfileRow) : Prop :=
  (row.role = .admin ∧ db.activeAdminGrant row.accountId environment now = true) ∨
    row.breakGlassActive now = true

instance (db : Db) (environment : List Char) (now : ℕ) (row : ProfileRow) :
    Decidable (db.Administers environment now row) := inferInstanceAs (Decidable (_ ∨ _))

/-- The profile with this account id is an administrator. -/
def Db.EffectiveAdmin (db : Db) (environment : List Char) (now : ℕ) (accountId : List Char) :
    Prop :=
  ∃ row ∈ db.profiles, row.accountId = accountId ∧ db.Administers environment now row

instance (db : Db) (environment : List Char) (now : ℕ) (accountId : List Char) :
    Decidable (db.EffectiveAdmin environment now accountId) :=
  inferInstanceAs (Decidable (∃ row ∈ db.profiles, _))

section

variable {db db' : Db} {environment : List Char} {now : ℕ} {input : TrustedIdentity}
  {authority : ExchangeAuthority} {profile : UserProfile} {fields : ProfileFields}
  {row old : ProfileRow}

theorem administers_congr (h : db'.changes = db.changes) :
    db'.Administers environment now row ↔ db.Administers environment now row := by
  unfold Db.Administers Db.activeAdminGrant Db.latestApplied
  rw [h]

theorem administers_of_hasAdminAuthority
    (h : hasAdminAuthority (db.withGrant environment now row) = true) :
    db.Administers environment now row := by
  unfold hasAdminAuthority at h
  rw [Bool.and_eq_true, Bool.or_eq_true, decide_eq_true_eq, decide_eq_true_eq] at h
  obtain ⟨hview, hbase⟩ := h
  have hrole : row.effectiveRole now = .admin := hview
  unfold ProfileRow.effectiveRole at hrole
  split_ifs at hrole with hbreak
  · exact Or.inr hbreak
  · rcases hbase with hbase | hgrant
    · exact absurd hrole hbase
    · refine Or.inl ⟨hrole, ?_⟩
      simpa [Db.withGrant, hrole] using hgrant

/-- A profile with another role is an administrator by elevation only. -/
theorem administers_iff_of_role_ne (h : row.role ≠ .admin) :
    db.Administers environment now row ↔ row.breakGlassActive now = true :=
  or_iff_right fun hdurable => h hdurable.1

theorem not_administers_of_absorbed (hbase : (db.withGrant environment now row).baseRole ≠ .admin)
    (hauth : hasAdminAuthority (db.withGrant environment now row) = false) :
    ¬ db.Administers environment now row := by
  rw [administers_iff_of_role_ne hbase]
  intro hbreak
  have hbase' : row.role ≠ .admin := hbase
  simp [hasAdminAuthority, Db.withGrant, ProfileRow.view, ProfileRow.effectiveRole, hbreak,
    hbase'] at hauth

/-- An exchange writes to a row what leaves it an administrator, or not, as long as its account id
stays. -/
theorem Granted.administers {absorbed : Option ProfileRow}
    (h : Granted db environment now input authority (some old) absorbed fields)
    (haccount : old.accountId = input.accountId) :
    db.Administers environment now (fields.apply old) ↔ db.Administers environment now old := by
  obtain ⟨_, hrole, hauth⟩ := h.allowed
  rcases hauth.written with ⟨-, hnone, -⟩ | ⟨hne, hsome, hbase⟩
  · have hkept : (fields.apply old).role = old.role := by
      show fields.role.getD old.role = old.role
      rw [hrole, hnone]
      rfl
    have hsame : (fields.apply old).accountId = old.accountId := h.accountId.trans haccount.symm
    unfold Db.Administers
    rw [hkept, hsame]
    exact Iff.rfl
  · have hwritten : (fields.apply old).role ≠ .admin := by
      show fields.role.getD old.role ≠ .admin
      rw [hrole, hsome]
      exact hne
    have hold : old.role ≠ .admin := (hbase _ rfl).1
    rw [administers_iff_of_role_ne hwritten, administers_iff_of_role_ne hold]
    exact Iff.rfl

theorem Granted.not_administers {absorbed : Option ProfileRow}
    (h : Granted db environment now input authority (some old) absorbed fields)
    (hold : ¬ db.Administers environment now old) :
    ¬ db.Administers environment now (fields.apply old) := by
  obtain ⟨_, hrole, hauth⟩ := h.allowed
  rcases hauth.written with ⟨-, -, _, hp, hadmin⟩ | ⟨hne, hsome, -⟩
  · cases hp
    exact absurd (administers_of_hasAdminAuthority hadmin) hold
  · have hwritten : (fields.apply old).role ≠ .admin := by
      show fields.role.getD old.role ≠ .admin
      rw [hrole, hsome]
      exact hne
    rw [administers_iff_of_role_ne hwritten]
    exact fun hbreak => hold (Or.inr hbreak)

/-- A row that comes back with the role of an administrator was one. -/
theorem Granted.administers_of_role {absorbed : Option ProfileRow}
    (h : Granted db environment now input authority (some old) absorbed fields)
    (hrole : (fields.apply old).effectiveRole now = .admin) :
    db.Administers environment now old := by
  obtain ⟨_, hfield, hauth⟩ := h.allowed
  rcases hauth.written with ⟨-, -, _, hp, hadmin⟩ | ⟨hne, hsome, -⟩
  · cases hp
    exact administers_of_hasAdminAuthority hadmin
  · unfold ProfileRow.effectiveRole at hrole
    split_ifs at hrole with hbreak
    · exact Or.inr hbreak
    · have hwritten : fields.role.getD old.role = .admin := hrole
      rw [hfield, hsome] at hwritten
      exact absurd hwritten hne

theorem mem_of_updateTrustedProfileRow (hvalid : db.ProfilesValid) (hold : old ∈ db.profiles)
    (hupdate : db.updateTrustedProfileRow old.id fields = .ok (row, db')) :
    row = fields.apply old ∧ db'.changes = db.changes ∧ ∀ r, r ∈ db'.profiles ↔
      r = fields.apply old ∨ (r ∈ db.profiles ∧ r.id ≠ old.id) := by
  obtain ⟨old', hold', rfl, -, -, hdb'⟩ := updateProfile_eq_ok hupdate
  obtain ⟨hmem', hid'⟩ := findProfileById_eq_some hold'
  obtain rfl : old' = old := Table.Valid.eq_of_key hvalid hmem' hold hid'
  refine ⟨rfl, by rw [hdb'], fun r => ?_⟩
  rw [hdb']
  unfold Table.replace
  rw [List.mem_map]
  show (∃ r', r' ∈ db.profiles ∧ (if r'.id = old'.id then fields.apply old' else r') = r) ↔ _
  constructor
  · rintro ⟨_, hr', rfl⟩
    split_ifs with heq
    · exact Or.inl rfl
    · exact Or.inr ⟨hr', heq⟩
  · rintro (rfl | ⟨hr, hne⟩)
    · exact ⟨old', hold, if_pos rfl⟩
    · exact ⟨r, hr, if_neg hne⟩

/-- An update of a row by one that has its account id and is an administrator iff it was, or by one
that is no administrator, as it was none. -/
theorem effectiveAdmin_update (hvalid : db.ProfilesValid) (hold : old ∈ db.profiles)
    (hupdate : db.updateTrustedProfileRow old.id fields = .ok (row, db'))
    (h : ((fields.apply old).accountId = old.accountId ∧ (db.Administers environment now
        (fields.apply old) ↔ db.Administers environment now old)) ∨
      (¬ db.Administers environment now (fields.apply old) ∧
        ¬ db.Administers environment now old)) :
    row = fields.apply old ∧ ∀ accountId, db'.EffectiveAdmin environment now accountId ↔
      db.EffectiveAdmin environment now accountId := by
  obtain ⟨rfl, hchanges, hmem⟩ := mem_of_updateTrustedProfileRow hvalid hold hupdate
  refine ⟨rfl, fun accountId => ⟨?_, ?_⟩⟩
  · rintro ⟨r, hr, haccount, hadmin⟩
    rw [administers_congr hchanges] at hadmin
    rcases (hmem r).mp hr with rfl | ⟨hr, -⟩
    · rcases h with ⟨hsame, hiff⟩ | ⟨hno, -⟩
      · exact ⟨old, hold, hsame.symm.trans haccount, hiff.mp hadmin⟩
      · exact absurd hadmin hno
    · exact ⟨r, hr, haccount, hadmin⟩
  · rintro ⟨r, hr, haccount, hadmin⟩
    by_cases heq : r.id = old.id
    · obtain rfl := Table.Valid.eq_of_key hvalid hr hold heq
      rcases h with ⟨hsame, hiff⟩ | ⟨-, hno⟩
      · exact ⟨_, (hmem _).mpr (Or.inl rfl), hsame.trans haccount,
          (administers_congr hchanges).mpr (hiff.mpr hadmin)⟩
      · exact absurd hadmin hno
    · exact ⟨r, (hmem r).mpr (Or.inr ⟨hr, heq⟩), haccount, (administers_congr hchanges).mpr hadmin⟩

theorem effectiveAdmin_delete (hvalid : db.ProfilesValid) (hold : old ∈ db.profiles)
    (hno : ¬ db.Administers environment now old) (hchanges : db'.changes = db.changes)
    (hprofiles : db'.profiles = db.profiles.filter fun r => decide (r.id ≠ old.id))
    (accountId : List Char) :
    db'.EffectiveAdmin environment now accountId ↔ db.EffectiveAdmin environment now accountId := by
  constructor
  · rintro ⟨r, hr, haccount, hadmin⟩
    rw [hprofiles] at hr
    rw [administers_congr hchanges] at hadmin
    exact ⟨r, List.mem_of_mem_filter hr, haccount, hadmin⟩
  · rintro ⟨r, hr, haccount, hadmin⟩
    refine ⟨r, ?_, haccount, (administers_congr hchanges).mpr hadmin⟩
    rw [hprofiles, List.mem_filter, decide_eq_true_eq]
    refine ⟨hr, fun heq => ?_⟩
    rw [Table.Valid.eq_of_key hvalid hr hold heq] at hadmin
    exact hno hadmin

/-! ### An exchange moves no administrator authority -/

/-- The exchange would link a profile that is an administrator to another account id. -/
def Db.RelinksAdmin (db : Db) (environment : List Char) (now : ℕ) (input : TrustedIdentity) :
    Prop :=
  db.findProfileByAccountId input.accountId = none ∧
    ∃ row ∈ input.walletAddress.bind db.findProfileByWallet, db.Administers environment now row

instance (db : Db) (environment : List Char) (now : ℕ) (input : TrustedIdentity) :
    Decidable (db.RelinksAdmin environment now input) := inferInstanceAs (Decidable (_ ∧ _))

theorem keeps_of_not_relinksAdmin (hvalid : db.ProfilesValid)
    (h : db.upsertTrustedProfile environment now input authority = .ok (profile, db'))
    (hrelink : ¬ db.RelinksAdmin environment now input) :
    (∀ accountId, db'.EffectiveAdmin environment now accountId ↔
      db.EffectiveAdmin environment now accountId) ∧
    (profile.role = .admin → db.EffectiveAdmin environment now input.accountId) := by
  cases upsertTrustedProfile_cases h with
  | @merged account wallet _ fields deleted _ haccount hwallet hne _ hfields hdeleted hupdate =>
    obtain ⟨hmem, hid⟩ := findProfileByAccountId_eq_some haccount
    obtain ⟨w, -, hw⟩ := Option.bind_eq_some_iff.mp hwallet
    have hwmem := (findProfileByWallet_eq_some hw).1
    have hd := deleteProfile_eq_ok hdeleted
    have hdp : deleted.profiles = db.profiles.filter fun r => decide (r.id ≠ wallet.id) := by
      rw [hd]
      rfl
    have hdc : deleted.changes = db.changes := by
      rw [hd]
      rfl
    have hdvalid : deleted.ProfilesValid := by
      unfold Db.ProfilesValid
      rw [hdp]
      exact List.Pairwise.filter _ hvalid
    have hleft : account ∈ deleted.profiles := by
      rw [hdp]
      exact List.mem_filter.mpr ⟨hmem, decide_eq_true hne⟩
    obtain ⟨write, -, hauth⟩ := hfields.allowed
    obtain ⟨hbase, hnone⟩ := hauth.absorbed _ rfl
    have hdelete := effectiveAdmin_delete hvalid hwmem (not_administers_of_absorbed hbase hnone) hdc
      hdp
    have hsame : deleted.Administers environment now (fields.apply account) ↔
        deleted.Administers environment now account := by
      rw [administers_congr hdc, administers_congr hdc]
      exact hfields.administers hid
    obtain ⟨rfl, hreplace⟩ := effectiveAdmin_update hdvalid hleft hupdate
      (Or.inl ⟨hfields.accountId.trans hid.symm, hsame⟩)
    refine ⟨fun a => (hreplace a).trans (hdelete a), fun hrole => ?_⟩
    exact ⟨account, hmem, hid, hfields.administers_of_role hrole⟩
  | @updated account _ _ _ haccount hfields hupdate =>
    obtain ⟨hmem, hid⟩ := findProfileByAccountId_eq_some haccount
    obtain ⟨rfl, hreplace⟩ := effectiveAdmin_update hvalid hmem hupdate
      (Or.inl ⟨hfields.accountId.trans hid.symm, hfields.administers hid⟩)
    exact ⟨hreplace, fun hrole => ⟨account, hmem, hid, hfields.administers_of_role hrole⟩⟩
  | @relinked wallet _ _ _ haccount hwallet _ hfields hupdate =>
    have hno : ¬ db.Administers environment now wallet := fun hadmin =>
      hrelink ⟨haccount, wallet, hwallet, hadmin⟩
    obtain ⟨_, -, hw⟩ := Option.bind_eq_some_iff.mp hwallet
    have hmem := (findProfileByWallet_eq_some hw).1
    obtain ⟨rfl, hreplace⟩ := effectiveAdmin_update hvalid hmem hupdate
      (Or.inr ⟨hfields.not_administers hno, hno⟩)
    exact ⟨hreplace, fun hrole => absurd (hfields.administers_of_role hrole) hno⟩
  | @created row _ _ _ _ hfields hinsert =>
    obtain ⟨hrow, -, hdb'⟩ := insertTrustedProfileRow_eq_ok hinsert
    obtain ⟨_, hrole, hauth⟩ := hfields.allowed
    have hne : row.role ≠ .admin := by
      rcases hauth.written with ⟨-, -, _, hp, -⟩ | ⟨hne, hsome, -⟩
      · cases hp
      · rw [hrow, hrole, hsome]
        exact hne
    have hbreak : row.breakGlassActive now = false := by
      rw [hrow]
      rfl
    have hno : ¬ db.Administers environment now row := by
      rw [administers_iff_of_role_ne hne, hbreak]
      exact Bool.false_ne_true
    have hchanges : db'.changes = db.changes := by rw [hdb']
    refine ⟨fun a => ⟨?_, ?_⟩, fun hadmin => ?_⟩
    · rintro ⟨r, hr, ha, hadmin⟩
      rw [administers_congr hchanges] at hadmin
      rw [hdb'] at hr
      rcases List.mem_append.mp hr with hr | hr
      · exact ⟨r, hr, ha, hadmin⟩
      · rw [List.mem_singleton.mp hr] at hadmin
        exact absurd hadmin hno
    · rintro ⟨r, hr, ha, hadmin⟩
      refine ⟨r, ?_, ha, (administers_congr hchanges).mpr hadmin⟩
      rw [hdb']
      exact List.mem_append_left _ hr
    · have hrole' : row.effectiveRole now = .admin := hadmin
      unfold ProfileRow.effectiveRole at hrole'
      rw [hbreak] at hrole'
      exact absurd hrole' hne

/-- The account id that an administrator's row had before it was linked to another one. -/
theorem moves_of_relinksAdmin (hvalid : db.ProfilesValid)
    (h : db.upsertTrustedProfile environment now input authority = .ok (profile, db'))
    (hrelink : db.RelinksAdmin environment now input) :
    ∃ accountId, db.EffectiveAdmin environment now accountId ∧
      ¬ db'.EffectiveAdmin environment now accountId := by
  obtain ⟨hnone, wallet, hwallet, hadmin⟩ := hrelink
  cases upsertTrustedProfile_cases h with
  | merged haccount | updated haccount =>
    rw [hnone] at haccount
    cases haccount
  | created _ hother =>
    rw [Option.mem_def, hother] at hwallet
    cases hwallet
  | relinked _ hwallet' _ hfields hupdate =>
    rw [Option.mem_def, hwallet', Option.some.injEq] at hwallet
    subst hwallet
    obtain ⟨_, -, hw⟩ := Option.bind_eq_some_iff.mp hwallet'
    have hold := (findProfileByWallet_eq_some hw).1
    refine ⟨_, ⟨_, hold, rfl, hadmin⟩, ?_⟩
    rintro ⟨r, hr, haccount, -⟩
    obtain ⟨-, -, hmem⟩ := mem_of_updateTrustedProfileRow hvalid hold hupdate
    rcases (hmem r).mp hr with rfl | ⟨hr, hne⟩
    · -- the row has the account id of the exchange now, which nobody had
      exact findProfileByAccountId_eq_none hnone _ hold (haccount.symm.trans hfields.accountId)
    · refine hne (congrArg ProfileRow.id (hvalid.eq_of_clash hr hold ?_))
      simp [profileSchema, Table.Schema.unique, haccount]

/-- **An exchange moves no administrator authority exactly if it links no administrator to another
account id**: then everybody is an administrator after it who was one before, and nobody else, and
the role of an administrator is given to the account only if it was one. -/
theorem exchange_keeps_administrators (hvalid : db.ProfilesValid)
    (h : db.upsertTrustedProfile environment now input authority = .ok (profile, db')) :
    ((∀ accountId, db'.EffectiveAdmin environment now accountId ↔
      db.EffectiveAdmin environment now accountId) ∧
    (profile.role = .admin → db.EffectiveAdmin environment now input.accountId)) ↔
      ¬ db.RelinksAdmin environment now input := by
  refine ⟨fun hkeeps hrelink => ?_, keeps_of_not_relinksAdmin hvalid h⟩
  obtain ⟨accountId, hbefore, hafter⟩ := moves_of_relinksAdmin hvalid h hrelink
  exact hafter ((hkeeps.1 accountId).mpr hbefore)

end

/-- A grant that two people gave to the account `acct-1`. -/
def sampleGrant : AuthorityChange where
  accountId := lit "acct-1"
  change := .grant
  environment := lit "local"
  grantExpiresAt := some 9000
  state := .applied
  appliedAt := some 500

def sampleWallet : List Char := lit "0x" ++ List.replicate 40 'a'

def sampleDb (accountId : List Char) (role : UserRole) (elevatedUntil : Option ℕ) : Db where
  profiles := [⟨1, accountId, some sampleWallet, none, role, none, true, elevatedUntil.isSome,
    elevatedUntil, none⟩]
  sessions := []
  changes := [sampleGrant]
  signerAccounts := []
  nextId := 2

theorem sampleDb_valid (accountId : List Char) (role : UserRole) (elevatedUntil : Option ℕ) :
    (sampleDb accountId role elevatedUntil).ProfilesValid := List.pairwise_singleton _ _

def sampleIdentity (accountId : List Char) (role : UserRole) : TrustedIdentity :=
  ⟨accountId, role, none, none, some sampleWallet⟩

def sampleAuthority : ExchangeAuthority := ⟨lit "dashboard", [.buyer, .admin], none⟩

theorem exists_ok_of_any {ε α : Type} {x : Except ε α} {f : α → Bool}
    (h : x.toOption.any f = true) : ∃ a, x = .ok a ∧ f a = true := by
  cases x with
  | ok a => exact ⟨a, rfl, h⟩
  | error => cases h

/-- An administrator by grant obtains a session, and stays what it was. -/
theorem exchange_keeps_administrators_sample :
    ∃ profile db', (sampleDb (lit "acct-1") .admin none).upsertTrustedProfile (lit "local") 1000
        (sampleIdentity (lit "acct-1") .admin) sampleAuthority = .ok (profile, db') ∧
      profile.role = .admin ∧
      (∀ accountId, db'.EffectiveAdmin (lit "local") 1000 accountId ↔
        (sampleDb (lit "acct-1") .admin none).EffectiveAdmin (lit "local") 1000 accountId) ∧
      (profile.role = .admin →
        (sampleDb (lit "acct-1") .admin none).EffectiveAdmin (lit "local") 1000
          (lit "acct-1")) := by
  have hok : ((sampleDb (lit "acct-1") .admin none).upsertTrustedProfile (lit "local") 1000
      (sampleIdentity (lit "acct-1") .admin) sampleAuthority).toOption.any
        (fun x => decide (x.1.role = .admin)) = true := by
    decide +kernel
  obtain ⟨⟨profile, db'⟩, hx, hrole⟩ := exists_ok_of_any hok
  exact ⟨profile, db', hx, of_decide_eq_true hrole,
    (exchange_keeps_administrators (sampleDb_valid _ _ _) hx).mpr (by decide +kernel)⟩

/-- The account id of a profile that has only a wallet. -/
def samplePlaceholder : List Char := lit "3f2504e0-4f89-41d3-9a0c-0305e82c3301"

/-- Such a profile, elevated by the control plane, is linked to an account that was no
administrator: the account is one then, and obtains a session as one, and the placeholder no longer
is. -/
theorem exchange_moves_administrator :
    (sampleDb samplePlaceholder .buyer (some 2000)).ProfilesValid ∧
    ∃ profile db', (sampleDb samplePlaceholder .buyer (some 2000)).upsertTrustedProfile
        (lit "local") 1000 (sampleIdentity (lit "acct-9") .buyer) sampleAuthority =
          .ok (profile, db') ∧
      profile.role = .admin ∧ profile.active = true ∧
      ¬ (sampleDb samplePlaceholder .buyer (some 2000)).EffectiveAdmin (lit "local") 1000
        (lit "acct-9") ∧
      db'.EffectiveAdmin (lit "local") 1000 (lit "acct-9") ∧
      (sampleDb samplePlaceholder .buyer (some 2000)).EffectiveAdmin (lit "local") 1000
        samplePlaceholder ∧
      ¬ db'.EffectiveAdmin (lit "local") 1000 samplePlaceholder := by
  refine ⟨sampleDb_valid _ _ _, ?_⟩
  have hok : ((sampleDb samplePlaceholder .buyer (some 2000)).upsertTrustedProfile (lit "local")
      1000 (sampleIdentity (lit "acct-9") .buyer) sampleAuthority).toOption.any (fun x =>
        decide (x.1.role = .admin) && decide (x.1.active = true) &&
        decide (¬ (sampleDb samplePlaceholder .buyer (some 2000)).EffectiveAdmin (lit "local") 1000
          (lit "acct-9")) &&
        decide (x.2.EffectiveAdmin (lit "local") 1000 (lit "acct-9")) &&
        decide ((sampleDb samplePlaceholder .buyer (some 2000)).EffectiveAdmin (lit "local") 1000
          samplePlaceholder) &&
        decide (¬ x.2.EffectiveAdmin (lit "local") 1000 samplePlaceholder)) = true := by
    decide +kernel
  obtain ⟨⟨profile, db'⟩, hx, htest⟩ := exists_ok_of_any hok
  simp only [Bool.and_eq_true, decide_eq_true_eq] at htest
  obtain ⟨⟨⟨⟨⟨hrole, hactive⟩, hbefore⟩, hafter⟩, hplace⟩, hgone⟩ := htest
  exact ⟨profile, db', hx, hrole, hactive, hbefore, hafter, hplace, hgone⟩

end Cotsel.Auth
