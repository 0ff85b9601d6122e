import Mathlib
import FlowCloud.Foundation.RuleTable
import FlowCloud.Entity.Dto

/-! # Policies, objects and actions

The vocabulary of the access control: the rows `subject, object, role/level`, the text
forms of objects, roles, levels and actions, the model configuration (request and policy
of three fields, effect "some allow", matcher with the role definition `g`), and the
grouping rows that `load_group_policies` adds when the enforcer starts.
-/

namespace FlowCloud.Casbin

open FlowCloud.Foundation FlowCloud.Entity

/-! ## Objects -/

inductive ObjectType where
  /-- Stored as `workspace::<uuid>`. -/
  | workspace (id : String)
  /-- Stored as `collab::<uuid>`. -/
  | collab (id : String)
  deriving DecidableEq, Repr

def ObjectType.policyObject : ObjectType → String
  | .collab id => "collab::" ++ id
  | .workspace id => "workspace::" ++ id

def ObjectType.objectId : ObjectType → String
  | .collab id => id
  | .workspace id => id

def ObjectType.debug : ObjectType → String
  | .collab id => "Collab(" ++ id.quote ++ ")"
  | .workspace id => "Workspace(" ++ id.quote ++ ")"

private theorem workspace_ne_collab (first second : String) :
    "workspace::" ++ first ≠ "collab::" ++ second := by
  intro same
  have heads := congrArg (fun text : String => text.toList.head?) same
  simp at heads

theorem ObjectType.policyObject_injective {first second : ObjectType}
    (same : first.policyObject = second.policyObject) : first = second := by
  cases first with
  | workspace first =>
    cases second with
    | workspace second => rw [(String.append_right_inj _).mp same]
    | collab second => exact absurd same (workspace_ne_collab first second)
  | collab first =>
    cases second with
    | workspace second => exact absurd same.symm (workspace_ne_collab second first)
    | collab second => rw [(String.append_right_inj _).mp same]

def uidText (uid : Int) : String := toString uid

theorem uidText_injective {first second : Int} (same : uidText first = uidText second) :
    first = second := by
  simp only [uidText, Int.toString_eq_repr] at same
  exact Int.repr_injective same

theorem uidText_chars (uid : Int) : ∀ char ∈ (uidText uid).toList, char.isDigit = true ∨ char = '-' := by
  have digits : ∀ (value : Nat), ∀ char ∈ value.repr.toList, char.isDigit = true := by
    intro value char member
    rw [Nat.toList_repr] at member
    exact Nat.isDigit_of_mem_toDigits (by decide) (by decide) member
  intro char member
  rw [uidText, Int.toString_eq_repr, Int.repr_eq_if] at member
  split at member
  · exact .inl (digits _ char member)
  · rw [String.toList_append, List.mem_append] at member
    cases member with
    | inl sign => exact .inr (by simpa using sign)
    | inr digit => exact .inl (digits _ char digit)

theorem policyObject_ne_uidText (object : ObjectType) (uid : Int) : object.policyObject ≠ uidText uid := by
  intro same
  -- an object starts with a letter, a user id with a digit or a sign
  have heads : ∀ char ∈ (uidText uid).toList.head?, char.isDigit = true ∨ char = '-' :=
    fun char member => uidText_chars uid char (List.mem_of_mem_head? member)
  rw [← same] at heads
  cases object with
  | workspace id => simp [ObjectType.policyObject] at heads
  | collab id => simp [ObjectType.policyObject] at heads

/-! ## Actions -/

inductive Action where
  | read
  | write
  | delete
  deriving DecidableEq, Repr

/-- `Ord for Action`: read below write below delete. -/
def Action.cmp : Action → Action → Ordering
  | .read, .read => .eq
  | .read, _ => .lt
  | _, .read => .gt
  | .write, .write => .eq
  | .write, .delete => .lt
  | .delete, .write => .gt
  | .delete, .delete => .eq

def Action.ge (left right : Action) : Bool := (left.cmp right).isGE

def Action.toAction : Action → String
  | .read => "read"
  | .write => "write"
  | .delete => "delete"

def levelAction : AFAccessLevel → String
  | .readOnly => "10"
  | .readAndComment => "20"
  | .readAndWrite => "30"
  | .fullAccess => "50"

def roleAction : AFRole → String
  | .owner => "1"
  | .member => "2"
  | .guest => "3"

inductive ActionVariant where
  | fromRole (role : AFRole)
  | fromAccessLevel (level : AFAccessLevel)
  | fromAction (action : Action)
  deriving DecidableEq, Repr

def ActionVariant.toAction : ActionVariant → String
  | .fromRole role => roleAction role
  | .fromAccessLevel level => levelAction level
  | .fromAction action => action.toAction

/-! ## The model configuration -/

/-- A row `sub, obj, act`; requests have the same three fields. -/
abbrev Rule := Vector String 3

abbrev POLICY_FIELD_INDEX_SUBJECT : Nat := 0
abbrev POLICY_FIELD_INDEX_OBJECT : Nat := 1
abbrev POLICY_FIELD_INDEX_ACTION : Nat := 2

abbrev Rule.subject (rule : Rule) : String := rule[POLICY_FIELD_INDEX_SUBJECT]
abbrev Rule.object (rule : Rule) : String := rule[POLICY_FIELD_INDEX_OBJECT]
abbrev Rule.action (rule : Rule) : String := rule[POLICY_FIELD_INDEX_ACTION]

def policyRule (uid : Int) (object : ObjectType) (action : String) : Rule :=
  #v[uidText uid, object.policyObject, action]

/-- The loaded policy engine: the rows of `p` and the rows of `g`. -/
structure Enforcer where
  policies : RuleTable Rule
  groupings : List (String × String)

/-- How far the default role manager follows inheritance. -/
def maxHierarchyLevel : Nat := 10

def Enforcer.g (enforcer : Enforcer) (child parent : String) : Bool :=
  hasLink enforcer.groupings maxHierarchyLevel child parent

/-- `m = r.sub == p.sub && p.obj == r.obj && g(p.act, r.act)` -/
def Enforcer.matcher (enforcer : Enforcer) (request policy : Rule) : Bool :=
  request.subject == policy.subject && policy.object == request.object && enforcer.g policy.action request.action

/-- `e = some(where (p.eft == allow))` -/
def Enforcer.enforce (enforcer : Enforcer) (request : Rule) : Bool :=
  enforcer.policies.allows (enforcer.matcher request)

theorem Enforcer.enforce_iff {enforcer : Enforcer} {subject object action : String} :
    enforcer.enforce #v[subject, object, action] = true ↔
      ∃ rule ∈ enforcer.policies, rule.subject = subject ∧ rule.object = object ∧
        enforcer.g rule.action action = true := by
  simp only [Enforcer.enforce, RuleTable.allows_iff, Enforcer.matcher, Bool.and_eq_true, beq_iff_eq]
  constructor
  · rintro ⟨rule, member, ⟨subjects, objects⟩, grants⟩
    exact ⟨rule, member, subjects.symm, objects, grants⟩
  · rintro ⟨rule, member, subjects, objects, grants⟩
    exact ⟨rule, member, ⟨subjects.symm, objects⟩, grants⟩

/-- Does the row have these values from the given field on?  An empty value matches any. -/
def fieldsMatch (rule : Rule) (fieldIndex : Nat) (values : List String) : Bool :=
  (values.zipIdx fieldIndex).all fun value => value.1 == "" || rule.toList[value.2]? == some value.1

def Enforcer.getFilteredPolicy (enforcer : Enforcer) (fieldIndex : Nat) (values : List String) : List Rule :=
  enforcer.policies.filtered fun rule => fieldsMatch rule fieldIndex values

def Enforcer.addPolicy (enforcer : Enforcer) (rule : Rule) : Enforcer :=
  { enforcer with policies := enforcer.policies.insert rule }

def Enforcer.removePolicies (enforcer : Enforcer) (rules : List Rule) : Enforcer :=
  { enforcer with policies := enforcer.policies.removeAll rules }

/-! ## Grouping policies -/

def levelGroupings (level : AFAccessLevel) : List (String × String) :=
  -- all levels can read
  [(levelAction level, Action.read.toAction)] ++
    (if level.canWrite then [(levelAction level, Action.write.toAction)] else []) ++
    (if level.canDelete then [(levelAction level, Action.delete.toAction)] else [])

def roleGroupings : AFRole → List (String × String)
  | .owner => [(roleAction .owner, Action.delete.toAction), (roleAction .owner, Action.write.toAction),
      (roleAction .owner, Action.read.toAction)]
  | .member => [(roleAction .member, Action.write.toAction), (roleAction .member, Action.read.toAction)]
  | .guest => [(roleAction .guest, Action.read.toAction)]

def groupPolicies : List (String × String) :=
  [AFAccessLevel.readOnly, .readAndComment, .readAndWrite, .fullAccess].flatMap levelGroupings ++
    [AFRole.owner, .member, .guest].flatMap roleGroupings

/-- Groupings lead from roles and levels to actions, never further. -/
theorem groupPolicies_flat : ∀ first ∈ groupPolicies, ∀ second ∈ groupPolicies, first.2 ≠ second.1 := by
  decide

def loadGroupPolicies (enforcer : Enforcer) : Enforcer :=
  { enforcer with groupings := enforcer.groupings ++ groupPolicies }

theorem g_groupPolicies {enforcer : Enforcer} (loaded : enforcer.groupings = groupPolicies)
    (code action : String) :
    enforcer.g code action = true ↔ code = action ∨ (code, action) ∈ groupPolicies := by
  rw [Enforcer.g, loaded]
  exact hasLink_flat groupPolicies_flat 9 code action

end FlowCloud.Casbin
