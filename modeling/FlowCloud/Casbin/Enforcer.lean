import FlowCloud.Foundation.Results
import FlowCloud.Casbin.Policy

/-! # The enforcer

`AFEnforcer` wraps the policy engine: `update_policy`, `remove_policy` and the three-step
decision of `enforce_policy`.  Three results say how far each of them does its job: when a
history of updates and removals leaves the last granted level alone, when a removal really
revokes, and when a workspace role stays inside its own workspace.
-/

namespace FlowCloud.Casbin

open FlowCloud.Foundation FlowCloud.Entity

/-! ## The wrapped engine -/

/-- The engine with the group lookup.  The grouping rows are the loaded ones: they are
    added by `new` and no operation touches them. -/
structure AFEnforcer where
  enforcer : Enforcer
  enforceGroup : Int → Option String
  loaded : enforcer.groupings = groupPolicies

def noEnforceGroup : Int → Option String := fun _ => none

def AFEnforcer.new (policies : RuleTable Rule) (enforceGroup : Int → Option String) : AFEnforcer where
  enforcer := loadGroupPolicies ⟨policies, []⟩
  enforceGroup := enforceGroup
  loaded := rfl

def validateObjAction : ObjectType → ActionVariant → Except AppError Unit
  | .workspace _, .fromRole _ => .ok ()
  | .collab _, .fromAccessLevel _ => .ok ()
  | object, action => .error (.internal
      ("invalid object type and action type combination: object=" ++ object.debug ++
        ", action=" ++ action.toAction.quote))

/-- `update_policy` adds the row; rows that are there already stay. -/
def AFEnforcer.updatePolicy (self : AFEnforcer) (uid : Int) (object : ObjectType) (action : ActionVariant) :
    Except AppError AFEnforcer := do
  validateObjAction object action
  return { self with enforcer := self.enforcer.addPolicy (policyRule uid object action.toAction) }

/-- The rows of the object whose *object* field is the subject's text: the second filter
    reads `POLICY_FIELD_INDEX_OBJECT`, as the source does. -/
def policiesForSubjectWithGivenObject (subject : String) (object : ObjectType) (enforcer : Enforcer) :
    List Rule :=
  (enforcer.getFilteredPolicy POLICY_FIELD_INDEX_OBJECT [object.policyObject]).filter
    fun rule => rule.object == subject

def AFEnforcer.removeWithEnforcer (self : AFEnforcer) (uid : Int) (object : ObjectType) : AFEnforcer :=
  let policies := policiesForSubjectWithGivenObject (uidText uid) object self.enforcer
  if policies.isEmpty then self
  else { self with enforcer := self.enforcer.removePolicies policies }

def AFEnforcer.removePolicy (self : AFEnforcer) (uid : Int) (object : ObjectType) :
    Except AppError AFEnforcer :=
  .ok (self.removeWithEnforcer uid object)

/-! ## Requests and the decision -/

/-- `WorkspacePolicyRequest::into_segments`: for a collab the object is replaced by the
    workspace the caller named. -/
def workspacePolicyRequest (workspaceId : String) (uid : Int) (object : ObjectType)
    (action : ActionVariant) : Rule :=
  match object with
  | .workspace _ => #v[uidText uid, object.policyObject, action.toAction]
  | .collab _ => #v[uidText uid, (ObjectType.workspace workspaceId).policyObject, action.toAction]

def groupPolicyRequest (guid : String) (object : ObjectType) (action : ActionVariant) : Rule :=
  #v[guid, object.policyObject, action.toAction]

def policyRequest (uid : Int) (object : ObjectType) (action : ActionVariant) : Rule :=
  #v[uidText uid, object.policyObject, action.toAction]

def AFEnforcer.enforcePolicy (self : AFEnforcer) (workspaceId : String) (uid : Int) (object : ObjectType)
    (action : ActionVariant) : Except AppError Bool := do
  -- 1. First, check workspace-level permissions.
  let mut result := self.enforcer.enforce (workspacePolicyRequest workspaceId uid object action)
  -- 2. Fallback to group policy if workspace-level check fails.
  if !result then
    if let some guid := self.enforceGroup uid then
      result := self.enforcer.enforce (groupPolicyRequest guid object action)
  if !result then
    result := self.enforcer.enforce (policyRequest uid object action)
  return result

def Enforcer.Grants (enforcer : Enforcer) (uid : Int) (object : ObjectType) (action : ActionVariant) : Prop :=
  ∃ rule ∈ enforcer.policies, rule.subject = uidText uid ∧ rule.object = object.policyObject ∧
    enforcer.g rule.action action.toAction = true

theorem enforce_policyRequest {enforcer : Enforcer} {uid : Int} {object : ObjectType} {action : ActionVariant} :
    enforcer.enforce (policyRequest uid object action) = true ↔ enforcer.Grants uid object action :=
  Enforcer.enforce_iff

/-- Without enforce groups a collab request is granted by a role in the named workspace or
    by a row on the collab itself. -/
theorem enforcePolicy_collab {self : AFEnforcer} (ungrouped : self.enforceGroup = noEnforceGroup)
    (workspaceId : String) (uid : Int) (oid : String) (action : ActionVariant) :
    self.enforcePolicy workspaceId uid (.collab oid) action = .ok true ↔
      self.enforcer.Grants uid (.workspace workspaceId) action ∨
        self.enforcer.Grants uid (.collab oid) action := by
  have viaRole : self.enforcer.enforce (policyRequest uid (.workspace workspaceId) action) = true ↔
      self.enforcer.Grants uid (.workspace workspaceId) action := enforce_policyRequest
  rw [← viaRole, ← enforce_policyRequest]
  -- the request about a collab is the one about the workspace itself
  have sameRequest : workspacePolicyRequest workspaceId uid (.collab oid) action =
      policyRequest uid (.workspace workspaceId) action := rfl
  simp only [AFEnforcer.enforcePolicy, sameRequest, ungrouped, noEnforceGroup]
  cases self.enforcer.enforce (policyRequest uid (.workspace workspaceId) action) with
  | true => simp [pure, Except.pure]
  | false =>
    cases self.enforcer.enforce (policyRequest uid (.collab oid) action) <;>
      simp [pure, Except.pure]

theorem enforcePolicy_ok (self : AFEnforcer) (workspaceId : String) (uid : Int) (object : ObjectType)
    (action : ActionVariant) :
    ∃ granted, self.enforcePolicy workspaceId uid object action = .ok granted := by
  simp only [AFEnforcer.enforcePolicy]
  repeat' split
  all_goals exact ⟨_, rfl⟩

/-! ## What the row operations do -/

/-- The rows that speak about one user and one object. -/
def IsPairRule (uid : Int) (object : ObjectType) (rule : Rule) : Prop :=
  rule.subject = uidText uid ∧ rule.object = object.policyObject

instance (uid : Int) (object : ObjectType) (rule : Rule) : Decidable (IsPairRule uid object rule) :=
  inferInstanceAs (Decidable (_ ∧ _))

@[simp] theorem isPairRule_policyRule {uid otherUid : Int} {object otherObject : ObjectType} {action : String} :
    IsPairRule uid object (policyRule otherUid otherObject action) ↔ otherUid = uid ∧ otherObject = object := by
  constructor
  · rintro ⟨subjects, objects⟩
    exact ⟨uidText_injective subjects, ObjectType.policyObject_injective objects⟩
  · rintro ⟨rfl, rfl⟩
    exact ⟨rfl, rfl⟩

theorem policyRule_action_injective {uid : Int} {object : ObjectType} {first second : String}
    (same : policyRule uid object first = policyRule uid object second) : first = second :=
  congrArg Rule.action same

/-- A row is added exactly when its action is one for the object. -/
theorem updatePolicy_eq_ok {self next : AFEnforcer} {uid : Int} {object : ObjectType} {action : ActionVariant} :
    self.updatePolicy uid object action = .ok next ↔ validateObjAction object action = .ok () ∧
      { self with enforcer := self.enforcer.addPolicy (policyRule uid object action.toAction) } = next := by
  rw [AFEnforcer.updatePolicy, bind_eq_ok]
  constructor
  · intro updated
    obtain ⟨_, valid, done⟩ := updated
    exact ⟨valid, Except.ok.inj done⟩
  · intro updated
    exact ⟨(), updated.1, congrArg Except.ok updated.2⟩

theorem updatePolicy_cases {self next : AFEnforcer} {uid : Int} {object : ObjectType} {action : ActionVariant}
    (updated : self.updatePolicy uid object action = .ok next) :
    validateObjAction object action = .ok () ∧ next.enforceGroup = self.enforceGroup ∧
      ∀ rule, rule ∈ next.enforcer.policies ↔
        rule ∈ self.enforcer.policies ∨ rule = policyRule uid object action.toAction := by
  obtain ⟨valid, rfl⟩ := updatePolicy_eq_ok.mp updated
  exact ⟨valid, rfl, fun rule => RuleTable.mem_insert⟩

theorem updatePolicy_of_valid {self : AFEnforcer} {uid : Int} {object : ObjectType} {action : ActionVariant}
    (valid : validateObjAction object action = .ok ()) :
    ∃ next, self.updatePolicy uid object action = .ok next :=
  ⟨_, updatePolicy_eq_ok.mpr ⟨valid, rfl⟩⟩

/-- No row has a user id where the second filter looks for one, so nothing is selected. -/
theorem policiesForSubject_eq_nil (uid : Int) (object : ObjectType) (enforcer : Enforcer) :
    policiesForSubjectWithGivenObject (uidText uid) object enforcer = [] := by
  rw [policiesForSubjectWithGivenObject, List.filter_eq_nil_iff]
  intro rule selected named
  rw [Enforcer.getFilteredPolicy, RuleTable.mem_filtered] at selected
  -- the first filter fixes the object column, and the second wants a user id in it
  have stored : rule.object = object.policyObject := by
    have matched := selected.2
    have nonempty : object.policyObject ≠ "" := by cases object <;> simp [ObjectType.policyObject]
    simpa [fieldsMatch, nonempty, POLICY_FIELD_INDEX_OBJECT] using matched
  have asSubject : rule.object = uidText uid := by simpa using named
  exact policyObject_ne_uidText object uid (stored.symm.trans asSubject)

theorem removePolicy_eq (self : AFEnforcer) (uid : Int) (object : ObjectType) :
    self.removePolicy uid object = .ok self := by
  rw [AFEnforcer.removePolicy, AFEnforcer.removeWithEnforcer]
  simp [policiesForSubject_eq_nil]

/-- A new row changes no decision about another object. -/
theorem Enforcer.enforce_addPolicy_of_ne (enforcer : Enforcer) {rule request : Rule}
    (other : rule.object ≠ request.object) : (enforcer.addPolicy rule).enforce request = enforcer.enforce request := by
  rw [Bool.eq_iff_iff, Enforcer.enforce, Enforcer.enforce, RuleTable.allows_iff, RuleTable.allows_iff]
  constructor
  · rintro ⟨row, member, matched⟩
    cases RuleTable.mem_insert.mp member with
    | inl old => exact ⟨row, old, matched⟩
    | inr same =>
      obtain rfl := same
      -- the matcher compares the objects
      simp only [Enforcer.matcher, Bool.and_eq_true, beq_iff_eq] at matched
      exact absurd matched.1.2 other
  · rintro ⟨row, member, matched⟩
    exact ⟨row, RuleTable.mem_insert.mpr (.inl member), matched⟩

/-- A row about a collab changes no decision about a workspace. -/
theorem updatePolicy_enforcePolicy_workspace {self next : AFEnforcer} {uid : Int} {oid : String}
    {granted : ActionVariant} (updated : self.updatePolicy uid (.collab oid) granted = .ok next)
    (workspaceId : String) (otherUid : Int) (action : ActionVariant) :
    next.enforcePolicy workspaceId otherUid (.workspace workspaceId) action =
      self.enforcePolicy workspaceId otherUid (.workspace workspaceId) action := by
  have other : ObjectType.policyObject (.collab oid) ≠ (ObjectType.workspace workspaceId).policyObject :=
    fun same => by cases ObjectType.policyObject_injective same
  obtain ⟨-, rfl⟩ := updatePolicy_eq_ok.mp updated
  -- whoever asks, the request is about the workspace
  have same : ∀ subject : String,
      (self.enforcer.addPolicy (policyRule uid (.collab oid) granted.toAction)).enforce
          #v[subject, (ObjectType.workspace workspaceId).policyObject, action.toAction] =
        self.enforcer.enforce #v[subject, (ObjectType.workspace workspaceId).policyObject, action.toAction] :=
    fun subject => Enforcer.enforce_addPolicy_of_ne _ other
  simp only [AFEnforcer.enforcePolicy, workspacePolicyRequest, groupPolicyRequest, policyRequest, same]
  rfl

/-! ## Revocation -/

/-- What a removal promises: the pair has no row left and a request only such rows allowed
    is denied, and every other row is still there. -/
structure RevokesExactly (before after : AFEnforcer) (uid : Int) (object : ObjectType) : Prop where
  revoked : ∀ rule ∈ after.enforcer.policies, ¬ IsPairRule uid object rule
  denied : ∀ request, (∀ rule ∈ before.enforcer.policies,
      before.enforcer.matcher request rule = true → IsPairRule uid object rule) →
    after.enforcer.enforce request = false
  kept : ∀ rule ∈ before.enforcer.policies, ¬ IsPairRule uid object rule → rule ∈ after.enforcer.policies

/-- `remove_policy` keeps its promise exactly when there is nothing to remove. -/
theorem removePolicy_revokes_iff (policies : RuleTable Rule) (enforceGroup : Int → Option String)
    (uid : Int) (object : ObjectType) :
    (∃ after, (AFEnforcer.new policies enforceGroup).removePolicy uid object = .ok after ∧
        RevokesExactly (AFEnforcer.new policies enforceGroup) after uid object) ↔
      ∀ rule ∈ policies, ¬ IsPairRule uid object rule := by
  constructor
  · rintro ⟨after, removed, revokes⟩
    rw [removePolicy_eq] at removed
    cases removed
    exact revokes.revoked
  · intro absent
    refine ⟨_, removePolicy_eq _ uid object, absent, ?_, fun rule member _ => member⟩
    intro request onlyPair
    rw [← Bool.not_eq_true, Enforcer.enforce, RuleTable.allows_iff]
    -- a row that still allows the request would be one of the pair
    rintro ⟨rule, member, matched⟩
    exact absent rule member (onlyPair rule member matched)

/-- User 1 holds full access on `doc`; after the removal the row is still there. -/
theorem removePolicy_keeps_granted_row :
    ¬ ∀ (policies : RuleTable Rule) (enforceGroup : Int → Option String) (uid : Int) (object : ObjectType),
      ∃ after, (AFEnforcer.new policies enforceGroup).removePolicy uid object = .ok after ∧
        RevokesExactly (AFEnforcer.new policies enforceGroup) after uid object := by
  intro revokes
  obtain ⟨after, removed, promise⟩ := revokes
    (RuleTable.empty.insert (policyRule 1 (.collab "doc") (levelAction .fullAccess))) noEnforceGroup 1 (.collab "doc")
  rw [removePolicy_eq] at removed
  cases removed
  exact promise.revoked _ (RuleTable.mem_insert.mpr (.inr rfl)) (isPairRule_policyRule.mpr ⟨rfl, rfl⟩)

/-! ## Workspace roles and foreign objects -/

/-- A grant on a collab of workspace `home` is earned when it comes from a row on the collab
    or from a role in `home`. -/
def EarnedGrant (self : AFEnforcer) (home supplied : String) (uid : Int) (oid : String)
    (action : ActionVariant) : Prop :=
  self.enforcePolicy supplied uid (.collab oid) action = .ok true →
    self.enforcer.Grants uid (.collab oid) action ∨ self.enforcer.Grants uid (.workspace home) action

/-- The role the user has in the supplied workspace gives nothing that a row on the collab
    or his role in `home` does not give as well. -/
def SuppliedRoleCovered (self : AFEnforcer) (home supplied : String) (uid : Int) (oid : String)
    (action : ActionVariant) : Prop :=
  supplied = home ∨
    (self.enforcer.Grants uid (.workspace supplied) action →
      self.enforcer.Grants uid (.collab oid) action ∨ self.enforcer.Grants uid (.workspace home) action)

theorem earnedGrant_iff_covered {self : AFEnforcer} (ungrouped : self.enforceGroup = noEnforceGroup)
    (home supplied : String) (uid : Int) (oid : String) (action : ActionVariant) :
    EarnedGrant self home supplied uid oid action ↔ SuppliedRoleCovered self home supplied uid oid action := by
  rw [EarnedGrant, SuppliedRoleCovered, enforcePolicy_collab ungrouped]
  constructor
  · exact fun earned => .inr fun role => earned (.inl role)
  · rintro (rfl | covered) (role | own)
    · exact .inr role
    · exact .inl own
    · exact covered role
    · exact .inl own

def onlyRow (uid : Int) (object : ObjectType) (action : String) : AFEnforcer :=
  AFEnforcer.new (RuleTable.empty.insert (policyRule uid object action)) noEnforceGroup

theorem onlyRow_grants_object {uid : Int} {object other : ObjectType} {code : String} {action : ActionVariant}
    (grants : (onlyRow uid object code).enforcer.Grants uid other action) : other = object := by
  obtain ⟨rule, member, _, stored, _⟩ := grants
  have only : rule = policyRule uid object code :=
    (RuleTable.mem_insert.mp member).resolve_left (RuleTable.not_mem_empty rule)
  subst only
  exact (ObjectType.policyObject_injective stored).symm

theorem onlyRow_grants {uid : Int} {object : ObjectType} {code : String} {action : ActionVariant}
    (allows : (onlyRow uid object code).enforcer.g code action.toAction = true) :
    (onlyRow uid object code).enforcer.Grants uid object action :=
  ⟨policyRule uid object code, RuleTable.mem_insert.mpr (.inr rfl), rfl, rfl, allows⟩

/-- The decision is earned in a policy state exactly when the supplied role is covered
    there, and in every policy state exactly when the supplied workspace is the object's
    own. -/
theorem enforcePolicy_earned_iff (home supplied : String) (uid : Int) (oid : String) (action : ActionVariant) :
    (∀ policies : RuleTable Rule,
      EarnedGrant (AFEnforcer.new policies noEnforceGroup) home supplied uid oid action ↔
        SuppliedRoleCovered (AFEnforcer.new policies noEnforceGroup) home supplied uid oid action) ∧
      ((∀ policies : RuleTable Rule,
        EarnedGrant (AFEnforcer.new policies noEnforceGroup) home supplied uid oid action) ↔ supplied = home) := by
  constructor
  · exact fun policies => earnedGrant_iff_covered rfl home supplied uid oid action
  · constructor
    · intro earned
      by_contra foreign
      -- a single role in the supplied workspace is enough
      have role : (onlyRow uid (.workspace supplied) action.toAction).enforcer.Grants uid
          (.workspace supplied) action := onlyRow_grants (hasLink_refl _ _ _)
      have granted := (enforcePolicy_collab rfl supplied uid oid action).mpr (.inl role)
      cases earned _ granted with
      | inl own => cases onlyRow_grants_object own
      | inr homeRole => exact foreign (ObjectType.workspace.inj (onlyRow_grants_object homeRole)).symm
    · rintro rfl policies
      exact (earnedGrant_iff_covered rfl _ _ uid oid action).mpr (.inl rfl)

/-- User 1 owns workspace `mine` and has no right in `theirs`; naming `mine` lets him delete
    a document of `theirs`. -/
theorem enforcePolicy_foreign_role :
    ¬ ∀ (policies : RuleTable Rule) (home supplied : String) (uid : Int) (oid : String) (action : ActionVariant),
      EarnedGrant (AFEnforcer.new policies noEnforceGroup) home supplied uid oid action := by
  intro earned
  have role : (onlyRow 1 (.workspace "mine") (roleAction .owner)).enforcer.Grants 1 (.workspace "mine")
      (.fromAction .delete) := onlyRow_grants (by decide)
  have granted := (enforcePolicy_collab rfl "mine" 1 "doc" (.fromAction .delete)).mpr (.inl role)
  cases earned _ "theirs" "mine" 1 "doc" (.fromAction .delete) granted with
  | inl own => cases onlyRow_grants_object own
  | inr homeRole => exact absurd (onlyRow_grants_object homeRole) (by decide)

end FlowCloud.Casbin
