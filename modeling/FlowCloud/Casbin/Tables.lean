import FlowCloud.Casbin.Enforcer

/-! # Permission tables

What roles and levels permit, and that the three requests of a decision come to the same: the
texts of users, objects, roles, levels and actions keep all policies apart.
-/

namespace FlowCloud.Casbin

open FlowCloud.Foundation FlowCloud.Entity

/-! ## The tables -/

def rolePermits : AFRole → Action → Bool
  | .owner, _ => true
  | .member, .read | .member, .write => true
  | .member, .delete => false
  | .guest, .read => true
  | .guest, .write | .guest, .delete => false

def levelPermits : AFAccessLevel → Action → Bool
  | _, .read => true
  | .readAndWrite, .write | .fullAccess, .write => true
  | .readOnly, .write | .readAndComment, .write => false
  | .fullAccess, .delete => true
  | .readOnly, .delete | .readAndComment, .delete | .readAndWrite, .delete => false

/-- The grouping rows are the tables, and no code of a role or a level is an action. -/
theorem g_roleAction {enforcer : Enforcer} (loaded : enforcer.groupings = groupPolicies) (role : AFRole)
    (action : Action) : enforcer.g (roleAction role) action.toAction = rolePermits role action := by
  rw [Bool.eq_iff_iff, g_groupPolicies loaded]
  cases role <;> cases action <;> decide

theorem g_levelAction {enforcer : Enforcer} (loaded : enforcer.groupings = groupPolicies) (level : AFAccessLevel)
    (action : Action) : enforcer.g (levelAction level) action.toAction = levelPermits level action := by
  rw [Bool.eq_iff_iff, g_groupPolicies loaded]
  cases level <;> cases action <;> decide

/-! ## Policies -/

inductive Policy where
  | role (uid : Int) (workspaceId : String) (role : AFRole)
  | level (uid : Int) (oid : String) (level : AFAccessLevel)
  deriving DecidableEq, Repr

def Policy.uid : Policy → Int
  | .role uid _ _ | .level uid _ _ => uid

def Policy.object : Policy → ObjectType
  | .role _ workspaceId _ => .workspace workspaceId
  | .level _ oid _ => .collab oid

def Policy.action : Policy → ActionVariant
  | .role _ _ given => .fromRole given
  | .level _ _ given => .fromAccessLevel given

def Policy.rule (self : Policy) : Rule := policyRule self.uid self.object self.action.toAction

theorem Policy.exists_of_valid {object : ObjectType} {action : ActionVariant}
    (valid : validateObjAction object action = .ok ()) (uid : Int) :
    ∃ policy : Policy, policy.rule = policyRule uid object action.toAction := by
  cases object with
  | workspace workspaceId =>
    cases action with
    | fromRole role => exact ⟨.role uid workspaceId role, rfl⟩
    | fromAccessLevel level => cases valid
    | fromAction action => cases valid
  | collab oid =>
    cases action with
    | fromRole role => cases valid
    | fromAccessLevel level => exact ⟨.level uid oid level, rfl⟩
    | fromAction action => cases valid

/-- A table whose rows all are policies. -/
structure PolicySet where
  table : RuleTable Rule
  made : ∀ rule ∈ table, ∃ policy : Policy, policy.rule = rule

namespace PolicySet

instance : Membership Policy PolicySet := ⟨fun policies policy => policy.rule ∈ policies.table⟩

def ofList (policies : List Policy) : PolicySet where
  table := RuleTable.empty.insertAll (policies.map Policy.rule)
  made := by
    intro rule member
    have listed := (RuleTable.mem_insertAll.mp member).resolve_left (RuleTable.not_mem_empty rule)
    obtain ⟨policy, _, same⟩ := List.mem_map.mp listed
    exact ⟨policy, same⟩

/-- `AFEnforcer::new` over the policies, with the only group lookup there is. -/
def enforcer (self : PolicySet) : AFEnforcer := AFEnforcer.new self.table noEnforceGroup

/-- `update_policy` accepts policies only, so what it leaves is again a set of them. -/
theorem updatePolicy_enforcer {self : PolicySet} {next : AFEnforcer} {uid : Int} {object : ObjectType}
    {action : ActionVariant} (updated : self.enforcer.updatePolicy uid object action = .ok next) :
    ∃ policies : PolicySet, policies.enforcer = next := by
  obtain ⟨valid, rfl⟩ := updatePolicy_eq_ok.mp updated
  refine ⟨⟨self.table.insert (policyRule uid object action.toAction), fun rule member => ?_⟩, rfl⟩
  cases RuleTable.mem_insert.mp member with
  | inl old => exact self.made rule old
  | inr same => exact same ▸ Policy.exists_of_valid valid uid

variable (policies : PolicySet) (uid : Int) (action : Action)

/-- What grants an action on an object is a policy of the user for it. -/
theorem grants_iff (object : ObjectType) :
    policies.enforcer.enforcer.Grants uid object (.fromAction action) ↔
      ∃ policy ∈ policies, policy.uid = uid ∧ policy.object = object ∧
        policies.enforcer.enforcer.g policy.action.toAction action.toAction = true := by
  constructor
  · intro granted
    obtain ⟨rule, member, subjects, objects, permits⟩ := granted
    obtain ⟨policy, rfl⟩ := policies.made rule member
    obtain ⟨users, same⟩ := isPairRule_policyRule.mp ⟨subjects, objects⟩
    exact ⟨policy, member, users, same, permits⟩
  · intro granted
    obtain ⟨policy, member, users, same, permits⟩ := granted
    obtain ⟨subjects, objects⟩ := isPairRule_policyRule.mpr ⟨users, same⟩
    exact ⟨policy.rule, member, subjects, objects, permits⟩

/-- A row about a workspace is a role policy. -/
theorem grants_workspace (workspaceId : String) :
    policies.enforcer.enforcer.Grants uid (.workspace workspaceId) (.fromAction action) ↔
      ∃ role, Policy.role uid workspaceId role ∈ policies ∧ rolePermits role action = true := by
  rw [grants_iff]
  constructor
  · intro granted
    obtain ⟨policy, member, users, same, permits⟩ := granted
    cases policy with
    | role other otherWorkspace role =>
      cases users
      cases same
      exact ⟨role, member, (g_roleAction policies.enforcer.loaded role action).symm.trans permits⟩
    | level other oid level => cases same
  · intro granted
    obtain ⟨role, member, permits⟩ := granted
    exact ⟨_, member, rfl, rfl, (g_roleAction policies.enforcer.loaded role action).trans permits⟩

/-- A row about a collab is a level policy. -/
theorem grants_collab (oid : String) :
    policies.enforcer.enforcer.Grants uid (.collab oid) (.fromAction action) ↔
      ∃ level, Policy.level uid oid level ∈ policies ∧ levelPermits level action = true := by
  rw [grants_iff]
  constructor
  · intro granted
    obtain ⟨policy, member, users, same, permits⟩ := granted
    cases policy with
    | role other workspaceId role => cases same
    | level other otherOid level =>
      cases users
      cases same
      exact ⟨level, member, (g_levelAction policies.enforcer.loaded level action).symm.trans permits⟩
  · intro granted
    obtain ⟨level, member, permits⟩ := granted
    exact ⟨_, member, rfl, rfl, (g_levelAction policies.enforcer.loaded level action).trans permits⟩

/-- A request for an action on a collab is decided by the tables. -/
theorem enforcePolicy_iff_tables (workspaceId oid : String) :
    policies.enforcer.enforcePolicy workspaceId uid (.collab oid) (.fromAction action) = .ok true ↔
      (∃ role, Policy.role uid workspaceId role ∈ policies ∧ rolePermits role action = true) ∨
        ∃ level, Policy.level uid oid level ∈ policies ∧ levelPermits level action = true := by
  rw [enforcePolicy_collab rfl, grants_workspace, grants_collab]

end PolicySet

/-- A guest of the workspace who may write one of its documents. -/
example : (PolicySet.ofList [.role 1 "home" .guest, .level 1 "doc" .readAndWrite]).enforcer.enforcePolicy "home" 1
    (.collab "doc") (.fromAction .write) = .ok true := by decide +kernel

end FlowCloud.Casbin
