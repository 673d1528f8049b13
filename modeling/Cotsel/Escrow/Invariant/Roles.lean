import Cotsel.Escrow.MockUsdc
import Cotsel.Escrow.Spec.Deployment
import Cotsel.Escrow.Spec.Errors

/-!
# Admins and separation of roles

The admin list mirrors the admin flags and is larger than the threshold, and no account holds two
kinds of roles.

`executeOracleUpdate` and `executeTreasuryPayoutAddressUpdate` do not check again that the new
account is free.  It is, because the check was made when the proposal was: a proposal is executed
in its own epoch only, and whatever hands out a role ends the epoch.  So the invariant carries,
for the proposals of the running epoch, that their accounts are free.
-/

namespace Cotsel.Escrow

open Ballot Guard

variable {T : Type} {P : Platform T} {env : Env} {s s' : State T}

/-! ### The loops over the admin list -/

theorem findIdx?_eq_some {x : Address} {l : List Address} {i : ℕ}
    (h : l.findIdx? (· = x) = some i) : ∃ hi : i < l.length, l[i] = x := by
  obtain ⟨hi, hx, -⟩ := List.findIdx?_eq_some_iff_getElem.mp h
  exact ⟨hi, of_decide_eq_true hx⟩

/-- Overwriting an entry by the last one and cutting the list removes the entry. -/
theorem swapRemove_perm {x : Address} {l l' : List Address} (h : swapRemove x l = some l') :
    (x :: l').Perm l := by
  unfold swapRemove at h
  split at h
  · rename_i i hfind
    obtain ⟨hi, rfl⟩ := findIdx?_eq_some hfind
    cases h
    obtain ⟨init, last, rfl⟩ : ∃ init last, l = init ++ [last] := by
      rcases List.eq_nil_or_concat l with rfl | ⟨init, last, rfl⟩
      · exact absurd hi (Nat.not_lt_zero i)
      · exact ⟨init, last, List.concat_eq_append⟩
    have hlast : (init ++ [last]).getLastD 0 = last := by simp
    rw [hlast]
    by_cases hlt : i < init.length
    · rw [List.set_append_left _ _ hlt, List.dropLast_concat, List.getElem_append_left hlt]
      have hset := List.set_perm_cons_eraseIdx hlt last
      have herase := List.getElem_cons_eraseIdx_perm hlt
      calc List.Perm (init[i] :: init.set i last) (init[i] :: last :: init.eraseIdx i) :=
            hset.cons _
        List.Perm _ (last :: init[i] :: init.eraseIdx i) := List.Perm.swap _ _ _
        List.Perm _ (last :: init) := herase.cons _
        List.Perm _ (init ++ [last]) := (List.perm_append_singleton last init).symm
    · have hieq : i = init.length := by
        rw [List.length_append, List.length_singleton] at hi
        omega
      subst hieq
      simpa using (List.perm_append_singleton last init).symm
  · cases h

/-- Overwriting an entry exchanges it. -/
theorem swapReplace_perm {x y : Address} {l l' : List Address}
    (h : swapReplace x y l = some l') : ∃ rest, (x :: rest).Perm l ∧ (y :: rest).Perm l' := by
  unfold swapReplace at h
  split at h
  · rename_i i hfind
    obtain ⟨hi, rfl⟩ := findIdx?_eq_some hfind
    cases h
    exact ⟨l.eraseIdx i, List.getElem_cons_eraseIdx_perm hi,
      (List.set_perm_cons_eraseIdx hi y).symm⟩
  · cases h

/-- The loops find every account of the list. -/
theorem findIdx?_isSome_of_mem {x : Address} {l : List Address} (h : x ∈ l) :
    ∃ i, l.findIdx? (· = x) = some i := by
  rw [← Option.isSome_iff_exists, List.findIdx?_isSome, List.any_eq_true]
  exact ⟨x, h, decide_eq_true rfl⟩

/-! ### The invariant of the role store -/

/-- The admin list has no duplicates and no zero address, and mirrors the flags. -/
structure AdminList (admins : List Address) (isAdmin : Address → Bool) : Prop where
  nodup : admins.Nodup
  zero_notMem : 0 ∉ admins
  isAdmin_iff : ∀ x, isAdmin x = true ↔ x ∈ admins

/-- No account holds two kinds of roles. -/
structure Separated (r : RoleStore) : Prop where
  admins : ∀ x, r.isAdmin x = true → x ≠ r.oracleAddress ∧ x ≠ r.treasuryAddress ∧
    x ≠ r.treasuryPayoutAddress ∧ r.isRelayer x = false
  relayers : ∀ x, r.isRelayer x = true → x ≠ r.oracleAddress ∧ x ≠ r.treasuryAddress ∧
    x ≠ r.treasuryPayoutAddress
  treasury : r.treasuryAddress ≠ r.oracleAddress
  payout : r.treasuryPayoutAddress ≠ r.oracleAddress

structure RolesOk (r : RoleStore) : Prop where
  list : AdminList r.admins r.isAdmin
  two_le : 2 ≤ r.requiredApprovals
  enough : r.requiredApprovals < r.admins.length
  atMost : r.admins.length ≤ maxAdmins
  separated : Separated r

namespace AdminList

variable {l l' : List Address} {f : Address → Bool} {x y : Address}

theorem append (h : AdminList l f) (hzero : x ≠ 0) (hx : f x = false) :
    AdminList (l ++ [x]) (Function.update f x true) := by
  have hnot : x ∉ l := by
    rw [← h.isAdmin_iff, hx]
    decide
  refine ⟨?_, ?_, fun a => ?_⟩
  · rw [← List.concat_eq_append]
    exact h.nodup.concat hnot
  · rw [List.mem_append, List.mem_singleton]
    rintro (hmem | heq)
    · exact h.zero_notMem hmem
    · exact hzero heq.symm
  · by_cases ha : a = x
    · subst ha
      simp
    · rw [Function.update_of_ne ha, h.isAdmin_iff]
      simp [ha]

theorem erase (h : AdminList l f) (hperm : (x :: l').Perm l) :
    AdminList l' (Function.update f x false) := by
  have hnodup := hperm.nodup_iff.mpr h.nodup
  obtain ⟨hnot, hnodup'⟩ := List.nodup_cons.mp hnodup
  refine ⟨hnodup', fun hzero => h.zero_notMem (hperm.mem_iff.mp (List.mem_cons_of_mem x hzero)),
    fun a => ?_⟩
  by_cases ha : a = x
  · subst ha
    simp [hnot]
  · rw [Function.update_of_ne ha, h.isAdmin_iff, ← hperm.mem_iff, List.mem_cons]
    simp [ha]

/-- Exchanging an entry is removing it and adding the new one. -/
theorem replace (h : AdminList l f) {rest : List Address} (hold : (x :: rest).Perm l)
    (hnew : (y :: rest).Perm l') (hzero : y ≠ 0) (hy : f y = false) :
    AdminList l' (Function.update (Function.update f x false) y true) := by
  have hy' : Function.update f x false y = false := by
    by_cases hyx : y = x
    · rw [hyx, Function.update_self]
    · rw [Function.update_of_ne hyx, hy]
  have hadd := (h.erase hold).append hzero hy'
  have hperm : (rest ++ [y]).Perm l' := (List.perm_append_singleton y rest).trans hnew
  exact ⟨hperm.nodup_iff.mp hadd.nodup, fun hmem => hadd.zero_notMem (hperm.mem_iff.mpr hmem),
    fun a => (hadd.isAdmin_iff a).trans hperm.mem_iff⟩

end AdminList

section

variable {r : RoleStore} {a x : Address}

theorem RoleFree.ne_of_admin (h : RoleFree r a) (hx : r.isAdmin x = true) : x ≠ a := by
  rintro rfl
  exact absurd (h.admin.symm.trans hx) (by decide)

theorem RoleFree.ne_of_relayer (h : RoleFree r a) (hx : r.isRelayer x = true) : x ≠ a := by
  rintro rfl
  exact absurd (h.relayer.symm.trans hx) (by decide)

end

namespace Separated

variable {r : RoleStore}

theorem of_admins (h : Separated r) {admins : List Address} {isAdmin : Address → Bool}
    (hnew : ∀ x, isAdmin x = true → r.isAdmin x = true ∨ RoleFree r x) :
    Separated { r with admins := admins, isAdmin := isAdmin } := by
  refine ⟨fun x hx => ?_, h.relayers, h.treasury, h.payout⟩
  rcases hnew x hx with hold | hfree
  · exact h.admins x hold
  · exact ⟨hfree.oracle, hfree.treasury, hfree.payout, hfree.relayer⟩

theorem of_relayers (h : Separated r) {isRelayer : Address → Bool}
    (hnew : ∀ x, isRelayer x = true → r.isRelayer x = true ∨ RoleFree r x) :
    Separated { r with isRelayer := isRelayer } := by
  refine ⟨fun x hx => ?_, fun x hx => ?_, h.treasury, h.payout⟩
  · obtain ⟨h1, h2, h3, h4⟩ := h.admins x hx
    refine ⟨h1, h2, h3, ?_⟩
    by_contra hrelayer
    rcases hnew x (Bool.eq_true_of_not_eq_false hrelayer) with hold | hfree
    · exact absurd (h4.symm.trans hold) (by decide)
    · exact absurd (hfree.admin.symm.trans hx) (by decide)
  · rcases hnew x hx with hold | hfree
    · exact h.relayers x hold
    · exact ⟨hfree.oracle, hfree.treasury, hfree.payout⟩

theorem of_oracle (h : Separated r) {a : Address} (hfree : RoleFree r a) {active : Bool} :
    Separated { r with oracleAddress := a, oracleActive := active } := by
  refine ⟨fun x hx => ?_, fun x hx => ?_, hfree.treasury.symm, hfree.payout.symm⟩
  · obtain ⟨-, h2, h3, h4⟩ := h.admins x hx
    exact ⟨hfree.ne_of_admin hx, h2, h3, h4⟩
  · obtain ⟨-, h2, h3⟩ := h.relayers x hx
    exact ⟨hfree.ne_of_relayer hx, h2, h3⟩

theorem of_payout (h : Separated r) {a : Address} (hfree : RoleFree r a) :
    Separated { r with treasuryPayoutAddress := a } := by
  refine ⟨fun x hx => ?_, fun x hx => ?_, h.treasury, hfree.oracle⟩
  · obtain ⟨h1, h2, -, h4⟩ := h.admins x hx
    exact ⟨h1, h2, hfree.ne_of_admin hx, h4⟩
  · obtain ⟨h1, h2, -⟩ := h.relayers x hx
    exact ⟨h1, h2, hfree.ne_of_relayer hx⟩

end Separated

theorem RolesOk.advance {r : RoleStore} (h : RolesOk r) : RolesOk r.advance :=
  ⟨h.list, h.two_le, h.enough, h.atMost,
    ⟨h.separated.admins, h.separated.relayers, h.separated.treasury, h.separated.payout⟩⟩

theorem AdminChanged.rolesOk {terms : AdminChangeTerms} {r r' : RoleStore}
    {f f' : Address → Bool} (h : AdminChanged terms r f r' f') (hr : RolesOk r) :
    RolesOk r' := by
  have henough := hr.enough
  have hmost := hr.atMost
  cases h with
  | add _ hne hfree =>
    have hlength : (r.admins ++ [terms.newAdmin]).length = r.admins.length + 1 := by simp
    have hlt : r.requiredApprovals < (r.admins ++ [terms.newAdmin]).length := by omega
    have hle : (r.admins ++ [terms.newAdmin]).length ≤ maxAdmins := by omega
    refine ⟨hr.list.append hne hfree.admin, hr.two_le, hlt, hle, hr.separated.of_admins ?_⟩
    intro x hx
    by_cases hnew : x = terms.newAdmin
    · exact Or.inr (hnew ▸ hfree)
    · rw [Function.update_of_ne hnew] at hx
      exact Or.inl hx
  | @remove admins _ _ _ hswap =>
    have hperm := swapRemove_perm hswap
    have hlength := hperm.length_eq
    rw [List.length_cons] at hlength
    have hlt : r.requiredApprovals < admins.length := by omega
    have hle : admins.length ≤ maxAdmins := by omega
    refine ⟨hr.list.erase hperm, hr.two_le, hlt, hle, hr.separated.of_admins ?_⟩
    exact fun x hx => Or.inl (of_update_false hx).2
  | @replace admins _ hne hfree _ hswap =>
    obtain ⟨_, hold, hnew⟩ := swapReplace_perm hswap
    have hlength := hold.length_eq
    have hlength' := hnew.length_eq
    rw [List.length_cons] at hlength hlength'
    have hlt : r.requiredApprovals < admins.length := by omega
    have hle : admins.length ≤ maxAdmins := by omega
    refine ⟨hr.list.replace hold hnew hne hfree.admin, hr.two_le, hlt, hle,
      hr.separated.of_admins ?_⟩
    intro x hx
    by_cases hxnew : x = terms.newAdmin
    · exact Or.inr (hxnew ▸ hfree)
    · rw [Function.update_of_ne hxnew] at hx
      exact Or.inl (of_update_false hx).2
  | threshold _ htwo hlt =>
    exact ⟨hr.list, htwo, hlt, hr.atMost, hr.separated.admins, hr.separated.relayers,
      hr.separated.treasury, hr.separated.payout⟩
  | relayerAdd _ _ hfree =>
    refine ⟨hr.list, hr.two_le, hr.enough, hr.atMost, hr.separated.of_relayers ?_⟩
    intro x hx
    by_cases hnew : x = terms.newAdmin
    · exact Or.inr (hnew ▸ hfree)
    · rw [Function.update_of_ne hnew] at hx
      exact Or.inl hx
  | relayerRemove =>
    refine ⟨hr.list, hr.two_le, hr.enough, hr.atMost, hr.separated.of_relayers ?_⟩
    exact fun x hx => Or.inl (of_update_false hx).2

/-! ### The constructor -/

/-- What the constructor's loop keeps: the admins so far are a proper list, and none of them is
one of the other accounts of the construction. -/
structure Pushed (args : DeployArgs) (r : RoleStore) : Prop where
  list : AdminList r.admins r.isAdmin
  apart : ∀ x, r.isAdmin x = true → x ≠ args.oracleAddress ∧ x ≠ args.treasuryAddress ∧
    x ≠ args.relayerAddress
  others : r = { initialRoles args with admins := r.admins, isAdmin := r.isAdmin }

theorem pushAdmins_pushed {args : DeployArgs} {l : List Address} {r r' : RoleStore}
    (h : pushAdmins args l r = .ok r') (hr : Pushed args r) :
    Pushed args r' ∧ r'.admins.length = r.admins.length + l.length := by
  induction l generalizing r with
  | nil =>
    rw [pushAdmins, pure_eq_ok] at h
    subst h
    exact ⟨hr, rfl⟩
  | cons admin rest ih =>
    simp only [pushAdmins, bind_eq_ok, require_eq_ok, exists_const, not_or] at h
    obtain ⟨hzero, hnew, ⟨h1, h2, h3⟩, hrest⟩ := h
    have hstep : Pushed args { r with
        admins := r.admins ++ [admin], isAdmin := Function.update r.isAdmin admin true } := by
      refine ⟨hr.list.append hzero hnew, fun x hx => ?_, ?_⟩
      · have hx' : Function.update r.isAdmin admin true x = true := hx
        by_cases hxa : x = admin
        · exact hxa ▸ ⟨h1, h2, h3⟩
        · rw [Function.update_of_ne hxa] at hx'
          exact hr.apart x hx'
      · rw [hr.others]
    obtain ⟨hpushed, hlength⟩ := ih hrest hstep
    refine ⟨hpushed, ?_⟩
    rw [hlength, List.length_append, List.length_singleton, List.length_cons]
    omega

theorem initialRoles_pushed (args : DeployArgs) : Pushed args (initialRoles args) := by
  refine ⟨⟨List.nodup_nil, List.not_mem_nil, fun x => ?_⟩, fun x hx => ?_, rfl⟩
  · simp [initialRoles]
  · exact absurd hx (by simp [initialRoles])

theorem Constructed.rolesOk {args : DeployArgs} {usdc : T} (h : Constructed P env args usdc s) :
    RolesOk s.roles := by
  obtain ⟨haccepted, hpush⟩ := h
  rename_i roles
  obtain ⟨hpushed, hlength⟩ := pushAdmins_pushed hpush (initialRoles_pushed args)
  have hlength' : roles.admins.length = args.admins.length := by
    rw [hlength]
    simp [initialRoles]
  have hothers := hpushed.others
  have hrelayer : ∀ x, roles.isRelayer x = true ↔ x = args.relayerAddress := by
    intro x
    rw [hothers]
    by_cases hx : x = args.relayerAddress
    · simp [initialRoles, hx]
    · simp [initialRoles, hx]
  have horacle : roles.oracleAddress = args.oracleAddress := by rw [hothers]; rfl
  have htreasury : roles.treasuryAddress = args.treasuryAddress := by rw [hothers]; rfl
  have hpayout : roles.treasuryPayoutAddress = args.treasuryAddress := by rw [hothers]; rfl
  have hthreshold : roles.requiredApprovals = args.requiredApprovals := by rw [hothers]; rfl
  refine ⟨hpushed.list, ?_, ?_, ?_, ⟨fun x hx => ?_, fun x hx => ?_, ?_, ?_⟩⟩
  · show 2 ≤ roles.requiredApprovals
    rw [hthreshold]
    exact haccepted.two_le
  · show roles.requiredApprovals < roles.admins.length
    rw [hthreshold, hlength']
    exact haccepted.enough
  · show roles.admins.length ≤ maxAdmins
    rw [hlength']
    exact haccepted.atMost
  · show x ≠ roles.oracleAddress ∧ x ≠ roles.treasuryAddress ∧ x ≠ roles.treasuryPayoutAddress ∧
      roles.isRelayer x = false
    obtain ⟨h1, h2, h3⟩ := hpushed.apart x hx
    rw [horacle, htreasury, hpayout, ← Bool.not_eq_true, hrelayer]
    exact ⟨h1, h2, h2, h3⟩
  · show x ≠ roles.oracleAddress ∧ x ≠ roles.treasuryAddress ∧ x ≠ roles.treasuryPayoutAddress
    obtain rfl := (hrelayer x).mp hx
    rw [horacle, htreasury, hpayout]
    exact ⟨haccepted.oracle_ne_relayer.symm, haccepted.treasury_ne_relayer.symm,
      haccepted.treasury_ne_relayer.symm⟩
  · show roles.treasuryAddress ≠ roles.oracleAddress
    rw [htreasury, horacle]
    exact haccepted.oracle_ne_treasury.symm
  · show roles.treasuryPayoutAddress ≠ roles.oracleAddress
    rw [hpayout, horacle]
    exact haccepted.oracle_ne_treasury.symm

/-! ### Every run -/

/-- The invariant of the roles and of the proposals that hand out roles. -/
structure RolesInv (s : State T) : Prop where
  roles : RolesOk s.roles
  oracleUpdates : s.oracleUpdates.Current
    (fun p _ => RoleFree s.roles p.payload.newOracle) s.roles.governanceEpoch
  treasuryPayouts : s.treasuryPayouts.Current
    (fun p _ => RoleFree s.roles p.payload.newPayoutReceiver) s.roles.governanceEpoch

theorem AdminChanged.governanceEpoch_eq {terms : AdminChangeTerms} {r r' : RoleStore}
    {f f' : Address → Bool} (h : AdminChanged terms r f r' f') :
    r'.governanceEpoch = r.governanceEpoch := by
  cases h <;> rfl

theorem Effect.rolesInv {call : Call} (h : Effect P env call s s') (hs : RolesInv s) :
    RolesInv s' := by
  cases h with
  | disableOracleEmergency =>
    have hkeep : ∀ a, RoleFree s.roles a → RoleFree { s.roles with oracleActive := false } a :=
      fun a hfree => ⟨hfree.1, hfree.2, hfree.3, hfree.4, hfree.5⟩
    refine ⟨⟨hs.roles.list, hs.roles.two_le, hs.roles.enough, hs.roles.atMost, ?_⟩, ?_, ?_⟩
    · exact ⟨hs.roles.separated.admins, hs.roles.separated.relayers, hs.roles.separated.treasury,
        hs.roles.separated.payout⟩
    · exact hs.oracleUpdates.imp fun p _ => hkeep _
    · exact hs.treasuryPayouts.imp fun p _ => hkeep _
  | proposeOracleUpdate _ _ hfree =>
    exact ⟨hs.roles, hs.oracleUpdates.propose hfree, hs.treasuryPayouts⟩
  | approveOracleUpdate =>
    exact ⟨hs.roles, hs.oracleUpdates.approve fun _ hfree => hfree, hs.treasuryPayouts⟩
  | executeOracleUpdate _ hactive =>
    have hfree := (hs.oracleUpdates _ hactive.numbered).2 hactive.current
    have hroles : RolesOk { s.roles with
        oracleAddress := (s.oracleUpdates.proposals _).payload.newOracle
        oracleActive := true } :=
      ⟨hs.roles.list, hs.roles.two_le, hs.roles.enough, hs.roles.atMost,
        hs.roles.separated.of_oracle hfree⟩
    exact ⟨hroles.advance, (hs.oracleUpdates.markExecuted fun hfree => hfree).advance,
      hs.treasuryPayouts.advance⟩
  | cancelExpiredOracleUpdate =>
    exact ⟨hs.roles, hs.oracleUpdates.markCancelled _, hs.treasuryPayouts⟩
  | executeAdminChange _ _ _ _ _ hchange =>
    refine ⟨(hchange.rolesOk hs.roles).advance, ?_, ?_⟩
    · show Board.Current _ (_ + 1) _
      rw [hchange.governanceEpoch_eq]
      exact hs.oracleUpdates.advance
    · show Board.Current _ (_ + 1) _
      rw [hchange.governanceEpoch_eq]
      exact hs.treasuryPayouts.advance
  | proposeTreasuryPayout _ _ hfree =>
    exact ⟨hs.roles, hs.oracleUpdates, hs.treasuryPayouts.propose hfree⟩
  | approveTreasuryPayout =>
    exact ⟨hs.roles, hs.oracleUpdates, hs.treasuryPayouts.approve fun _ hfree => hfree⟩
  | executeTreasuryPayout _ hactive =>
    have hfree := (hs.treasuryPayouts _ hactive.numbered).2 hactive.current
    have hroles : RolesOk { s.roles with
        treasuryPayoutAddress :=
          (s.treasuryPayouts.proposals _).payload.newPayoutReceiver } :=
      ⟨hs.roles.list, hs.roles.two_le, hs.roles.enough, hs.roles.atMost,
        hs.roles.separated.of_payout hfree⟩
    exact ⟨hroles.advance, hs.oracleUpdates.advance,
      (hs.treasuryPayouts.markExecuted fun hfree => hfree).advance⟩
  | cancelExpiredTreasuryPayout =>
    exact ⟨hs.roles, hs.oracleUpdates, hs.treasuryPayouts.markCancelled _⟩
  | _ => exact ⟨hs.roles, hs.oracleUpdates, hs.treasuryPayouts⟩

theorem Reachable.rolesInv {c : Config T} (h : Reachable P c) : RolesInv c.state := by
  refine h.state_invariant ?_ (fun _ _ _ _ _ he hs => he.rolesInv hs)
    (fun s usdc _ hs => ⟨hs.roles, hs.oracleUpdates, hs.treasuryPayouts⟩)
  intro _ _ _ _ hdep
  have hroles := hdep.rolesOk
  obtain ⟨haccepted, hpush⟩ := hdep
  exact ⟨hroles, Board.Current.empty, Board.Current.empty⟩

/-! ### Admin changes do not fail half way -/

/-- With an admin in the list, `admins.length - 1` does not go below zero. -/
theorem validateAdminChange_ne_underflow {kind : AdminChangeKind}
    {currentAdmin newAdmin : Address} {newThreshold : ℕ} (hpos : 0 < s.roles.admins.length) :
    Raises (· ≠ .underflow)
      (validateAdminChange kind currentAdmin newAdmin newThreshold s) := by
  have hsub : ¬ s.roles.admins.length < 1 := by omega
  cases kind <;>
    simp only [validateAdminChange, requireServiceRoleAvailable, raises_bind, raises_require,
      raises_checkedSub, hsub, ne_eq, reduceCtorEq, not_false_eq_true, implies_true, and_self,
      false_implies]

/-- A change that passes its validation goes through: the loops find the account they look for. -/
theorem applyAdminChange_of_valid {terms : AdminChangeTerms} {s₁ : State T}
    (hlist : AdminList s.roles.admins s.roles.isAdmin) (hroles : s₁.roles = s.roles)
    (hvalid : validateAdminChange terms.kind terms.currentAdmin terms.newAdmin terms.newThreshold
      s = .ok ()) :
    ∃ s', applyAdminChange env terms s₁ = .ok s' := by
  have hfound : s.roles.isAdmin terms.currentAdmin = true →
      ∃ i, s₁.roles.admins.findIdx? (· = terms.currentAdmin) = some i := by
    intro hadmin
    rw [hroles]
    exact findIdx?_isSome_of_mem ((hlist.isAdmin_iff _).mp hadmin)
  unfold applyAdminChange
  cases hkind : terms.kind <;>
    simp only [hkind, validateAdminChange, bind_eq_ok, require_eq_ok, exists_const] at hvalid
  case remove =>
    obtain ⟨i, hi⟩ := hfound hvalid.1
    rw [removeAdmin, swapRemove, hi]
    exact ⟨_, rfl⟩
  case replace =>
    obtain ⟨-, -, -, -, hadmin, -⟩ := hvalid
    obtain ⟨_, hi⟩ := hfound hadmin
    rw [replaceAdmin, swapReplace, hi]
    exact ⟨_, rfl⟩
  all_goals exact ⟨_, rfl⟩

/-- An admin change never underflows, and is refused for an unknown admin by its validation
only. -/
theorem executeAdminChange_raises (env : Env) (proposalId : ℕ) (hs : RolesOk s.roles) :
    let terms := (s.adminChanges.proposals proposalId).payload
    Raises (fun e => e ≠ .underflow ∧ (e = .invalidAdmin → validateAdminChange terms.kind
      terms.currentAdmin terms.newAdmin terms.newThreshold s = .error .invalidAdmin))
      (executeAdminChange env proposalId s) := by
  intro terms
  have hpos : 0 < s.roles.admins.length := Nat.zero_lt_of_lt hs.enough
  simp only [executeAdminChange, onlyAdmin, requireActive, raises_bind, raises_require,
    raises_pure, bind_eq_ok, require_eq_ok, exists_const, pure_eq_ok, ne_eq, reduceCtorEq,
    not_false_eq_true, false_implies, implies_true, true_and, and_true]
  rintro _ _ _ ⟨-, -, -, -, -, -, rfl⟩ _ _ _ _
  refine ⟨fun e he => ⟨validateAdminChange_ne_underflow hpos e he, fun hinvalid => ?_⟩, ?_⟩
  · rw [← hinvalid]
    exact he
  · intro _ hvalid
    obtain ⟨s', hs'⟩ : ∃ s', applyAdminChange env terms
        { s with adminChanges := s.adminChanges.markExecuted proposalId } = .ok s' :=
      applyAdminChange_of_valid hs.list rfl hvalid
    rw [hs']
    exact raises_ok

theorem proposeAdminChange_ne_underflow {kind : AdminChangeKind}
    {currentAdmin newAdmin : Address} {newThreshold : ℕ} (hs : RolesOk s.roles) :
    Raises (· ≠ .underflow)
      (proposeAdminChange env kind currentAdmin newAdmin newThreshold s) := by
  have hvalidate : Raises (· ≠ .underflow)
      (validateAdminChange kind currentAdmin newAdmin newThreshold s) :=
    validateAdminChange_ne_underflow (Nat.zero_lt_of_lt hs.enough)
  simp only [proposeAdminChange, onlyAdmin, raises_bind, raises_require, raises_pure, hvalidate,
    ne_eq, reduceCtorEq, not_false_eq_true, implies_true, and_self]

/-! ### The theorem -/

/-- The four kinds of roles as sets of accounts. -/
theorem RolesOk.pairwise_disjoint {r : RoleStore} (h : RolesOk r) :
    List.Pairwise Disjoint [({r.oracleAddress} : Set Address),
      {r.treasuryAddress, r.treasuryPayoutAddress}, {x | x ∈ r.admins},
      {x | r.isRelayer x = true}] := by
  have hsep := h.separated
  have hadmin : ∀ x, x ∈ r.admins → x ≠ r.oracleAddress ∧ x ≠ r.treasuryAddress ∧
      x ≠ r.treasuryPayoutAddress ∧ r.isRelayer x = false :=
    fun x hx => hsep.admins x ((h.list.isAdmin_iff x).mpr hx)
  have h1 : Disjoint ({r.oracleAddress} : Set Address)
      {r.treasuryAddress, r.treasuryPayoutAddress} := by
    rw [Set.disjoint_singleton_left]
    rintro (heq | heq)
    · exact hsep.treasury heq.symm
    · exact hsep.payout heq.symm
  have h2 : Disjoint ({r.oracleAddress} : Set Address) {x | x ∈ r.admins} := by
    rw [Set.disjoint_singleton_left]
    exact fun hx => (hadmin _ hx).1 rfl
  have h3 : Disjoint ({r.oracleAddress} : Set Address) {x | r.isRelayer x = true} := by
    rw [Set.disjoint_singleton_left]
    exact fun hx => (hsep.relayers _ hx).1 rfl
  have h4 : Disjoint ({r.treasuryAddress, r.treasuryPayoutAddress} : Set Address)
      {x | x ∈ r.admins} := by
    rw [Set.disjoint_left]
    rintro x (rfl | rfl) hx
    · exact (hadmin _ hx).2.1 rfl
    · exact (hadmin _ hx).2.2.1 rfl
  have h5 : Disjoint ({r.treasuryAddress, r.treasuryPayoutAddress} : Set Address)
      {x | r.isRelayer x = true} := by
    rw [Set.disjoint_left]
    rintro x (rfl | rfl) hx
    · exact (hsep.relayers _ hx).2.1 rfl
    · exact (hsep.relayers _ hx).2.2 rfl
  have h6 : Disjoint {x | x ∈ r.admins} {x | r.isRelayer x = true} := by
    rw [Set.disjoint_left]
    intro x hx hrelayer
    exact absurd ((hadmin x hx).2.2.2.symm.trans hrelayer) (by decide)
  simp only [List.pairwise_cons, List.mem_cons, List.not_mem_nil, or_false, forall_eq_or_imp,
    forall_eq, h1, h2, h3, h4, h5, h6, and_self, false_implies, implies_true, List.Pairwise.nil]

/-- In every reachable state the admin list is proper and mirrors the flags, the threshold is at
least two and below the number of admins, which is at most ten, and no account holds two kinds of
roles.  So no admin change underflows or fails to find its admin. -/
theorem roles_separated {c : Config T} (h : Reachable P c) :
    let r := c.state.roles
    r.admins.Nodup ∧ 0 ∉ r.admins ∧ (∀ x, r.isAdmin x = true ↔ x ∈ r.admins) ∧
      2 ≤ r.requiredApprovals ∧ r.requiredApprovals < r.admins.length ∧ r.admins.length ≤ 10 ∧
      List.Pairwise Disjoint [({r.oracleAddress} : Set Address),
        {r.treasuryAddress, r.treasuryPayoutAddress}, {x | x ∈ r.admins},
        {x | r.isRelayer x = true}] ∧
      (∀ env kind currentAdmin newAdmin newThreshold, exec P env
        (.proposeAdminChange kind currentAdmin newAdmin newThreshold) c.state ≠
          .error .underflow) ∧
      ∀ env id, exec P env (.executeAdminChange id) c.state ≠ .error .underflow ∧
        (exec P env (.executeAdminChange id) c.state = .error .invalidAdmin →
          let terms := (c.state.adminChanges.proposals id).payload
          validateAdminChange terms.kind terms.currentAdmin terms.newAdmin terms.newThreshold
            c.state = .error .invalidAdmin) := by
  intro _
  have hr := h.rolesInv.roles
  refine ⟨hr.list.nodup, hr.list.zero_notMem, hr.list.isAdmin_iff, hr.two_le, hr.enough,
    hr.atMost, hr.pairwise_disjoint, ?_, fun env id => ?_⟩
  · intro env _ _ _ _ herr
    exact raises_returnUint256.mpr (proposeAdminChange_ne_underflow hr) _ herr rfl
  · have hraises := raises_returnVoid.mpr (executeAdminChange_raises env id hr)
    exact ⟨fun herr => (hraises _ herr).1 rfl, fun herr => (hraises _ herr).2 rfl⟩

/-- After account 11 replaced admin 7 by decision of admins 5 and 6. -/
theorem roles_separated_sample : ∃ c, Reachable (mockPlatform 100) c ∧
    c.state.roles.admins = [5, 6, 11] ∧
    (2 ≤ c.state.roles.requiredApprovals ∧
      c.state.roles.requiredApprovals < c.state.roles.admins.length) := by
  have hrun : (sampleRun [(⟨5, 20⟩, .proposeAdminChange .replace 7 11 0),
      (⟨6, 30⟩, .approveAdminChange 0), (⟨5, 86500⟩, .executeAdminChange 0)]).any
      (fun c => decide (c.state.roles.admins = [5, 6, 11])) = true := by
    decide +kernel
  obtain ⟨c, hreach, hc⟩ := exists_reachable_sampleRun hrun
  have hroles := roles_separated hreach
  exact ⟨c, hreach, of_decide_eq_true hc, hroles.2.2.2.1, hroles.2.2.2.2.1⟩

end Cotsel.Escrow
