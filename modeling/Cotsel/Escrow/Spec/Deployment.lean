import Cotsel.Escrow.Spec.Inversion

/-!
# Invariants of the contract

What a successful construction leaves, and the induction rule for reachable states: a property
that holds after every construction and is kept by every rule of `Effect`, and that does not
depend on the token activity of others, holds in every reachable state.
-/

namespace Cotsel.Escrow

open Guard Runs

variable {T : Type} {P : Platform T} {env : Env} {s s' : State T}

/-- The roles before the constructor's loop over the admins. -/
def initialRoles (args : DeployArgs) : RoleStore where
  oracleAddress := args.oracleAddress
  treasuryAddress := args.treasuryAddress
  treasuryPayoutAddress := args.treasuryAddress
  oracleActive := true
  admins := []
  isAdmin _ := false
  isRelayer := Function.update (fun _ => false) args.relayerAddress true
  requiredApprovals := args.requiredApprovals
  governanceEpoch := 1
  governanceTimelock := 24 * 3600

def initialState (P : Platform T) (env : Env) (args : DeployArgs) (roles : RoleStore) (usdc : T) :
    State T where
  book := ⟨fun _ => default, 0, fun _ => 0, fun _ => 0⟩
  claims := ⟨fun _ => 0, 0⟩
  pausing := ⟨false, false, fun _ => false⟩
  unpausing := ⟨default, fun _ => false, false⟩
  roles := roles
  disputes := ⟨.empty, fun _ => false, fun _ => 0⟩
  oracleUpdates := .empty
  adminChanges := .empty
  treasuryPayouts := .empty
  authorizationNonces _ := 0
  usdcToken := args.usdcToken
  domainSeparator := buildDomainSeparator P
  usdc := usdc
  log := [.relayerUpdated args.relayerAddress true env.sender]

/-- What the constructor checks of its arguments before it looks at the admins. -/
structure DeployArgs.Accepted (args : DeployArgs) : Prop where
  oracle_ne_zero : args.oracleAddress ≠ 0
  treasury_ne_zero : args.treasuryAddress ≠ 0
  relayer_ne_zero : args.relayerAddress ≠ 0
  oracle_ne_treasury : args.oracleAddress ≠ args.treasuryAddress
  oracle_ne_relayer : args.oracleAddress ≠ args.relayerAddress
  treasury_ne_relayer : args.treasuryAddress ≠ args.relayerAddress
  two_le : 2 ≤ args.requiredApprovals
  enough : args.requiredApprovals < args.admins.length
  atMost : args.admins.length ≤ maxAdmins

/-- What a successful construction checked and leaves. -/
inductive Constructed (P : Platform T) (env : Env) (args : DeployArgs) (usdc : T) :
    State T → Prop
  | intro {roles : RoleStore} (haccepted : args.Accepted)
      (hpush : pushAdmins args args.admins (initialRoles args) = .ok roles) :
      Constructed P env args usdc (initialState P env args roles usdc)

theorem deploy_constructed {args : DeployArgs} {usdc : T}
    (h : deploy P env args usdc = .ok s) : Constructed P env args usdc s := by
  simp only [deploy, bind_eq_ok, require_eq_ok, exists_const, pure_eq_ok, not_or] at h
  obtain ⟨-, horacle, htreasury, hrelayer, ⟨h1, h2, h3⟩, htwo, henough, hmost, _, hpush,
    rfl⟩ := h
  exact .intro ⟨horacle, htreasury, hrelayer, h1, h2, h3, htwo, henough, hmost⟩ hpush

/-- The induction rule for a property of the contract's state; what is already known of reachable
states may be used in the step. -/
theorem Reachable.state_invariant {I : State T → Prop}
    (hdep : ∀ env args usdc s, Constructed P env args usdc s → I s)
    (hcall : ∀ (c : Config T) env call s', Reachable P c → Effect P env call c.state s' →
      I c.state → I s')
    (hexternal : ∀ (s : State T) usdc, P.escrowBalance s.usdc ≤ P.escrowBalance usdc → I s →
      I { s with usdc := usdc })
    {c : Config T} (h : Reachable P c) : I c.state := by
  refine (h.invariant (I := fun c => Reachable P c ∧ I c.state) ?_ ?_).2
  · rintro c hdeployed
    obtain ⟨env, args, usdc, hdeploy, -⟩ := id hdeployed
    exact ⟨⟨c, [], hdeployed, .nil _⟩, hdep env args usdc c.state (deploy_constructed hdeploy)⟩
  · rintro _ _ _ ⟨hreach, hI⟩ hstep
    refine ⟨hreach.step hstep, ?_⟩
    cases hstep with
    | call _ hexec => exact hcall _ _ _ _ hreach (exec_effect hexec) hI
    | external hspend => exact hexternal _ _ hspend hI

/-- The treasury's identity never changes; only its payout receiver does. -/
theorem Effect.treasuryAddress_eq {call : Call} (h : Effect P env call s s') :
    s'.roles.treasuryAddress = s.roles.treasuryAddress := by
  cases h with
  | executeAdminChange _ _ _ _ _ hchange => cases hchange <;> rfl
  | _ => rfl

end Cotsel.Escrow
