import FlowCloud.Foundation.Runs
import FlowCloud.Casbin.Enforcer

/-! # The cached access checks of the realtime server

`AccessControl` applies policy changes to the enforcer and announces them on a broadcast
channel.  `RealtimeCollabAccessControlImpl` answers read and write checks from a map that
keeps one action for each user and object; a listener task drops the entry of every change
it receives and ends at the first receive error.  The last section says which checks of a
history the map answers as the enforcer would.
-/

namespace FlowCloud.Casbin

open FlowCloud.Foundation FlowCloud.Entity

/-! ## Loading the stored policies -/

/-- `PgAdapter::load_policy`: the rows of the workspace members, then those of the collab
    members. -/
def loadPolicy (workspaceMembers : List (Int × String × AFRole))
    (collabMembers : List (Int × String × AFAccessLevel)) : RuleTable Rule :=
  let workspacePolicies := workspaceMembers.map fun member =>
    policyRule member.1 (.workspace member.2.1) (roleAction member.2.2)
  let collabPolicies := collabMembers.map fun member =>
    policyRule member.1 (.collab member.2.1) (levelAction member.2.2)
  (RuleTable.empty.insertAll workspacePolicies).insertAll collabPolicies

/-- The row carries a role on a workspace or a level on a collab. -/
def CodedRule (rule : Rule) : Prop :=
  ∃ uid object action, validateObjAction object action = .ok () ∧ rule = policyRule uid object action.toAction

theorem mem_loadPolicy {workspaceMembers : List (Int × String × AFRole)}
    {collabMembers : List (Int × String × AFAccessLevel)} {rule : Rule}
    (member : rule ∈ loadPolicy workspaceMembers collabMembers) : CodedRule rule := by
  rw [loadPolicy, RuleTable.mem_insertAll, RuleTable.mem_insertAll] at member
  rcases member with (absent | workspace) | collab
  · exact absurd absent (RuleTable.not_mem_empty rule)
  · obtain ⟨row, _, rfl⟩ := List.mem_map.mp workspace
    exact ⟨row.1, .workspace row.2.1, .fromRole row.2.2, rfl, rfl⟩
  · obtain ⟨row, _, rfl⟩ := List.mem_map.mp collab
    exact ⟨row.1, .collab row.2.1, .fromAccessLevel row.2.2, rfl, rfl⟩

/-! ## Policy changes and their announcement -/

inductive AccessControlChange where
  | updatePolicy (uid : Int) (oid : String)
  | removePolicy (uid : Int) (oid : String)
  deriving DecidableEq, Repr

/-- The enforcer and the announced changes the listener has still to receive. -/
structure AccessControl where
  enforcer : AFEnforcer
  changes : List AccessControlChange
  /-- Is there still a receiver?  Without one `change_tx.send` fails, and its result is
      thrown away. -/
  listening : Bool

def AccessControl.send (self : AccessControl) (change : AccessControlChange) : AccessControl :=
  if self.listening then { self with changes := self.changes ++ [change] } else self

/-- `update_policy`: the change is announced even when the enforcer refused it. -/
def AccessControl.updatePolicy (enableAccessControl : Bool) (self : AccessControl) (uid : Int)
    (object : ObjectType) (action : ActionVariant) : Except AppError Unit × AccessControl :=
  if enableAccessControl then
    let change := AccessControlChange.updatePolicy uid object.objectId
    match self.enforcer.updatePolicy uid object action with
    | .ok enforcer => (.ok (), { self with enforcer }.send change)
    | .error failure => (.error failure, self.send change)
  else (.ok (), self)

def AccessControl.removePolicy (enableAccessControl : Bool) (self : AccessControl) (uid : Int)
    (object : ObjectType) : Except AppError Unit × AccessControl :=
  if enableAccessControl then
    match self.enforcer.removePolicy uid object with
    | .ok enforcer => (.ok (), { self with enforcer }.send (.removePolicy uid object.objectId))
    | .error failure => (.error failure, self)
  else (.ok (), self)

def AccessControl.enforce (enableAccessControl : Bool) (self : AccessControl) (workspaceId : String)
    (uid : Int) (object : ObjectType) (action : ActionVariant) : Except AppError Bool :=
  if enableAccessControl then self.enforcer.enforcePolicy workspaceId uid object action else .ok true

def AccessControl.insertRole (enableAccessControl : Bool) (self : AccessControl) (uid : Int)
    (workspaceId : String) (role : AFRole) : Except AppError Unit × AccessControl :=
  match self.updatePolicy enableAccessControl uid (.workspace workspaceId) (.fromRole role) with
  | (.ok (), next) =>
    next.updatePolicy enableAccessControl uid (.collab workspaceId) (.fromAccessLevel (.ofRole role))
  | failed => failed

def AccessControl.removeRole (enableAccessControl : Bool) (self : AccessControl) (uid : Int)
    (workspaceId : String) : Except AppError Unit × AccessControl :=
  match self.removePolicy enableAccessControl uid (.workspace workspaceId) with
  | (.ok (), next) => next.removePolicy enableAccessControl uid (.collab workspaceId)
  | failed => failed

/-! ## Cached checks -/

def cacheKey (uid : Int) (oid : String) : String := uidText uid ++ ":" ++ oid

theorem append_separator_inj {Letter : Type} {separator : Letter} {first second firstRest secondRest : List Letter}
    (firstFree : separator ∉ first) (secondFree : separator ∉ second)
    (same : first ++ separator :: firstRest = second ++ separator :: secondRest) :
    first = second ∧ firstRest = secondRest := by
  cases List.append_eq_append_iff.mp same with
  | inl held =>
    obtain ⟨extra, rfl, rest⟩ := held
    cases extra with
    | nil => exact ⟨by simp, by simpa using rest⟩
    | cons head extra =>
      obtain ⟨rfl, _⟩ := List.cons_eq_cons.mp rest
      simp at secondFree
  | inr held =>
    obtain ⟨extra, rfl, rest⟩ := held
    cases extra with
    | nil => exact ⟨by simp, by simpa using rest.symm⟩
    | cons head extra =>
      obtain ⟨rfl, _⟩ := List.cons_eq_cons.mp rest
      simp at firstFree

/-- A user id holds no colon, so the key determines it. -/
theorem cacheKey_injective {uid otherUid : Int} {oid otherOid : String}
    (same : cacheKey uid oid = cacheKey otherUid otherOid) : uid = otherUid ∧ oid = otherOid := by
  have noColon : ∀ uid : Int, ':' ∉ (uidText uid).toList := by
    intro uid member
    cases uidText_chars uid ':' member with
    | inl digit => exact absurd digit (by decide)
    | inr minus => exact absurd minus (by decide)
  have sameText := congrArg String.toList same
  simp only [cacheKey, String.toList_append, List.append_assoc] at sameText
  obtain ⟨users, objects⟩ := append_separator_inj (noColon uid) (noColon otherUid) sameText
  exact ⟨uidText_injective (String.toList_inj.mp users), String.toList_inj.mp objects⟩

structure RealtimeCollabAccessControlImpl where
  accessControl : AccessControl
  actionByOid : String → Option Action

def RealtimeCollabAccessControlImpl.canPerformAction (enableAccessControl : Bool)
    (self : RealtimeCollabAccessControlImpl) (workspaceId : String) (uid : Int) (oid : String)
    (requiredAction : Action) : Except AppError Bool × RealtimeCollabAccessControlImpl :=
  if enableAccessControl then
    let key := cacheKey uid oid
    match self.actionByOid key with
    -- a hit is answered without the enforcer, whatever the workspace
    | some action => (.ok (action.ge requiredAction), self)
    | none =>
      match self.accessControl.enforce enableAccessControl workspaceId uid (.collab oid)
          (.fromAction requiredAction) with
      | .error failure => (.error failure, self)
      | .ok true =>
        -- the action asked for is kept, not the highest one the user has
        (.ok true, { self with actionByOid := Function.update self.actionByOid key (some requiredAction) })
      | .ok false => (.ok false, self)
  else (.ok true, self)

def RealtimeCollabAccessControlImpl.canWriteCollab (enableAccessControl : Bool)
    (self : RealtimeCollabAccessControlImpl) (workspaceId : String) (uid : Int) (oid : String) :=
  self.canPerformAction enableAccessControl workspaceId uid oid .write

def RealtimeCollabAccessControlImpl.canReadCollab (enableAccessControl : Bool)
    (self : RealtimeCollabAccessControlImpl) (workspaceId : String) (uid : Int) (oid : String) :=
  self.canPerformAction enableAccessControl workspaceId uid oid .read

/-- The listener receives the oldest change and drops its entry. -/
def RealtimeCollabAccessControlImpl.receive (self : RealtimeCollabAccessControlImpl) :
    RealtimeCollabAccessControlImpl :=
  match self.accessControl.changes with
  | [] => self
  -- both kinds of change drop the entry of the pair
  | .updatePolicy uid oid :: changes | .removePolicy uid oid :: changes =>
    { accessControl := { self.accessControl with changes }
      actionByOid := Function.update self.actionByOid (cacheKey uid oid) none }

/-- Tokio rounds the 1000 of the source up to a power of two. -/
def changeCapacity : Nat := 1024

/-- The receiver has fallen behind: `recv` returns an error and the listener task ends. -/
def RealtimeCollabAccessControlImpl.lagged (self : RealtimeCollabAccessControlImpl) :
    RealtimeCollabAccessControlImpl :=
  if changeCapacity < self.accessControl.changes.length then
    { self with accessControl := { self.accessControl with changes := [], listening := false } }
  else self

/-! ## Histories of changes and checks -/

inductive AccessEvent where
  | updatePolicy (uid : Int) (object : ObjectType) (action : ActionVariant)
  | removePolicy (uid : Int) (object : ObjectType)
  | insertRole (uid : Int) (workspaceId : String) (role : AFRole)
  | removeRole (uid : Int) (workspaceId : String)
  | check (workspaceId : String) (uid : Int) (oid : String) (requiredAction : Action)
  | receive
  | lagged

/-- The checks with a record, kept by no code, of the workspace id of the check that filled
    each entry. -/
structure CheckedAccess where
  impl : RealtimeCollabAccessControlImpl
  filledUnder : String → String

def CheckedAccess.start (workspaceMembers : List (Int × String × AFRole))
    (collabMembers : List (Int × String × AFAccessLevel)) : CheckedAccess where
  impl :=
    { accessControl := ⟨AFEnforcer.new (loadPolicy workspaceMembers collabMembers) noEnforceGroup, [], true⟩
      actionByOid := fun _ => none }
  filledUnder := fun _ => ""

def CheckedAccess.enforcer (self : CheckedAccess) : AFEnforcer := self.impl.accessControl.enforcer

def CheckedAccess.change (self : CheckedAccess) (result : Except AppError Unit × AccessControl) : CheckedAccess :=
  { self with impl := { self.impl with accessControl := result.2 } }

def CheckedAccess.check (enableAccessControl : Bool) (self : CheckedAccess) (workspaceId : String) (uid : Int)
    (oid : String) (requiredAction : Action) : CheckedAccess :=
  let key := cacheKey uid oid
  { impl := (self.impl.canPerformAction enableAccessControl workspaceId uid oid requiredAction).2
    filledUnder :=
      if (self.impl.actionByOid key).isNone then Function.update self.filledUnder key workspaceId
      else self.filledUnder }

def CheckedAccess.step (enableAccessControl : Bool) (self : CheckedAccess) : AccessEvent → CheckedAccess
  | .updatePolicy uid object action =>
    self.change (self.impl.accessControl.updatePolicy enableAccessControl uid object action)
  | .removePolicy uid object => self.change (self.impl.accessControl.removePolicy enableAccessControl uid object)
  | .insertRole uid workspaceId role =>
    self.change (self.impl.accessControl.insertRole enableAccessControl uid workspaceId role)
  | .removeRole uid workspaceId =>
    self.change (self.impl.accessControl.removeRole enableAccessControl uid workspaceId)
  | .check workspaceId uid oid requiredAction => self.check enableAccessControl workspaceId uid oid requiredAction
  | .receive => { self with impl := self.impl.receive }
  | .lagged => { self with impl := self.impl.lagged }

/-! ## What the rows say about a user and a collab -/

def AFEnforcer.RowsAllow (self : AFEnforcer) (workspaceId : String) (uid : Int) (oid : String) (action : Action) :
    Prop :=
  self.enforcer.Grants uid (.workspace workspaceId) (.fromAction action) ∨
    self.enforcer.Grants uid (.collab oid) (.fromAction action)

structure AFEnforcer.Coded (engine : AFEnforcer) : Prop where
  ungrouped : engine.enforceGroup = noEnforceGroup
  coded : ∀ rule ∈ engine.enforcer.policies, CodedRule rule

theorem enforcePolicy_rowsAllow {self : AFEnforcer} (coded : self.Coded) {workspaceId : String} {uid : Int}
    {oid : String} {action : Action} :
    self.enforcePolicy workspaceId uid (.collab oid) (.fromAction action) = .ok true ↔
      self.RowsAllow workspaceId uid oid action :=
  enforcePolicy_collab coded.ungrouped workspaceId uid oid _

theorem enforcePolicy_denied {self : AFEnforcer} (coded : self.Coded) {workspaceId : String} {uid : Int}
    {oid : String} {action : Action} (denied : ¬ self.RowsAllow workspaceId uid oid action) :
    self.enforcePolicy workspaceId uid (.collab oid) (.fromAction action) = .ok false := by
  obtain ⟨granted, decided⟩ := enforcePolicy_ok self workspaceId uid (.collab oid) (.fromAction action)
  cases granted with
  | false => exact decided
  | true => exact absurd ((enforcePolicy_rowsAllow coded).mp decided) denied

theorem groupPolicies_downward : ∀ row ∈ groupPolicies, ∀ higher lower : Action,
    higher.ge lower = true → row.2 = higher.toAction → (row.1, lower.toAction) ∈ groupPolicies := by
  intro row member higher lower
  cases higher <;> cases lower <;> revert row <;> decide

theorem coded_action_ne {rule : Rule} (coded : CodedRule rule) (action : Action) : rule.action ≠ action.toAction := by
  obtain ⟨uid, object, variant, valid, rfl⟩ := coded
  change variant.toAction ≠ action.toAction
  cases variant with
  | fromRole role => cases role <;> cases action <;> decide
  | fromAccessLevel level => cases level <;> cases action <;> decide
  | fromAction _ => cases object <;> cases valid

theorem Enforcer.Grants.lower {self : AFEnforcer} (coded : self.Coded) {uid : Int} {object : ObjectType}
    {higher lower : Action} (atLeast : higher.ge lower = true)
    (grants : self.enforcer.Grants uid object (.fromAction higher)) :
    self.enforcer.Grants uid object (.fromAction lower) := by
  obtain ⟨rule, member, subject, stored, allows⟩ := grants
  refine ⟨rule, member, subject, stored, ?_⟩
  rw [g_groupPolicies self.loaded] at allows ⊢
  cases allows with
  | inl plain => exact absurd plain (coded_action_ne (coded.coded rule member) higher)
  | inr listed => exact .inr (groupPolicies_downward _ listed higher lower atLeast rfl)

theorem Enforcer.Grants.mono {before after : AFEnforcer}
    (grown : ∀ rule ∈ before.enforcer.policies, rule ∈ after.enforcer.policies) {uid : Int} {object : ObjectType}
    {action : ActionVariant} (grants : before.enforcer.Grants uid object action) :
    after.enforcer.Grants uid object action := by
  obtain ⟨rule, member, subject, stored, allows⟩ := grants
  refine ⟨rule, grown rule member, subject, stored, ?_⟩
  rw [g_groupPolicies before.loaded] at allows
  rwa [g_groupPolicies after.loaded]

/-! ## Policy changes only add rows -/

/-- A later enforcer: no row is lost, and coded rows stay the only ones. -/
structure AFEnforcer.Grown (before after : AFEnforcer) : Prop where
  rows : ∀ rule ∈ before.enforcer.policies, rule ∈ after.enforcer.policies
  coded : before.Coded → after.Coded

theorem AFEnforcer.Grown.refl (self : AFEnforcer) : self.Grown self := ⟨fun _ member => member, id⟩

theorem AFEnforcer.Grown.trans {first second third : AFEnforcer} (left : first.Grown second)
    (right : second.Grown third) : first.Grown third :=
  ⟨fun rule member => right.rows rule (left.rows rule member), fun coded => right.coded (left.coded coded)⟩

theorem AFEnforcer.Grown.rowsAllow {before after : AFEnforcer} (grown : before.Grown after) {workspaceId : String}
    {uid : Int} {oid : String} {action : Action} (allow : before.RowsAllow workspaceId uid oid action) :
    after.RowsAllow workspaceId uid oid action :=
  allow.imp (Enforcer.Grants.mono grown.rows) (Enforcer.Grants.mono grown.rows)

theorem AFEnforcer.updatePolicy_grown {self next : AFEnforcer} {uid : Int} {object : ObjectType}
    {action : ActionVariant} (updated : self.updatePolicy uid object action = .ok next) : self.Grown next := by
  obtain ⟨valid, group, rows⟩ := updatePolicy_cases updated
  refine ⟨fun rule member => (rows rule).mpr (.inl member), fun coded => ⟨group.trans coded.ungrouped, ?_⟩⟩
  intro rule member
  cases (rows rule).mp member with
  | inl old => exact coded.coded rule old
  | inr same =>
    obtain rfl := same
    exact ⟨uid, object, action, valid, rfl⟩

@[simp] theorem AccessControl.send_enforcer (self : AccessControl) (change : AccessControlChange) :
    (self.send change).enforcer = self.enforcer := by
  rw [AccessControl.send]
  split <;> rfl

section

variable (enableAccessControl : Bool) (self : AccessControl) (uid : Int)

theorem AccessControl.updatePolicy_grown (object : ObjectType) (action : ActionVariant) :
    self.enforcer.Grown (self.updatePolicy enableAccessControl uid object action).2.enforcer := by
  cases enableAccessControl with
  | false => exact .refl _
  | true =>
    simp only [AccessControl.updatePolicy, if_pos]
    cases updated : self.enforcer.updatePolicy uid object action with
    | error failure => simpa using .refl _
    | ok enforcer => simpa using AFEnforcer.updatePolicy_grown updated

theorem AccessControl.removePolicy_grown (object : ObjectType) :
    self.enforcer.Grown (self.removePolicy enableAccessControl uid object).2.enforcer := by
  cases enableAccessControl with
  | false => exact .refl _
  | true => simpa [AccessControl.removePolicy, removePolicy_eq] using .refl _

theorem AccessControl.insertRole_grown (workspaceId : String) (role : AFRole) :
    self.enforcer.Grown (self.insertRole enableAccessControl uid workspaceId role).2.enforcer := by
  have first := AccessControl.updatePolicy_grown enableAccessControl self uid (.workspace workspaceId)
    (.fromRole role)
  rw [AccessControl.insertRole]
  split
  · rename_i next updated
    rw [updated] at first
    exact first.trans (AccessControl.updatePolicy_grown _ _ _ _ _)
  · exact first

theorem AccessControl.removeRole_grown (workspaceId : String) :
    self.enforcer.Grown (self.removeRole enableAccessControl uid workspaceId).2.enforcer := by
  have first := AccessControl.removePolicy_grown enableAccessControl self uid (.workspace workspaceId)
  rw [AccessControl.removeRole]
  split
  · rename_i next removed
    rw [removed] at first
    exact first.trans (AccessControl.removePolicy_grown _ _ _ _)
  · exact first

end

/-! ## Which checks agree with the enforcer -/

/-- Every entry stands for a decision the enforcer would still take for the workspace the
    entry was filled under. -/
structure CheckedAccess.Consistent (state : CheckedAccess) : Prop where
  coded : state.enforcer.Coded
  filled : ∀ uid oid cached, state.impl.actionByOid (cacheKey uid oid) = some cached →
    state.enforcer.RowsAllow (state.filledUnder (cacheKey uid oid)) uid oid cached

theorem CheckedAccess.start_consistent (workspaceMembers : List (Int × String × AFRole))
    (collabMembers : List (Int × String × AFAccessLevel)) :
    (CheckedAccess.start workspaceMembers collabMembers).Consistent where
  coded := ⟨rfl, fun _ member => mem_loadPolicy member⟩
  filled := fun _ _ _ absent => by cases absent

theorem CheckedAccess.change_consistent {state : CheckedAccess} (consistent : state.Consistent)
    {result : Except AppError Unit × AccessControl} (grown : state.enforcer.Grown result.2.enforcer) :
    (state.change result).Consistent where
  coded := grown.coded consistent.coded
  filled := fun uid oid cached present => grown.rowsAllow (consistent.filled uid oid cached present)

theorem RealtimeCollabAccessControlImpl.receive_enforcer (self : RealtimeCollabAccessControlImpl) :
    self.receive.accessControl.enforcer = self.accessControl.enforcer := by
  rw [RealtimeCollabAccessControlImpl.receive]
  split <;> rfl

theorem RealtimeCollabAccessControlImpl.receive_entry {self : RealtimeCollabAccessControlImpl} {key : String}
    {cached : Action} (present : self.receive.actionByOid key = some cached) :
    self.actionByOid key = some cached := by
  rw [RealtimeCollabAccessControlImpl.receive] at present
  split at present
  · exact present
  all_goals
    simp only [Function.update_apply] at present
    split at present
    · cases present
    · exact present

theorem CheckedAccess.receive_consistent {state : CheckedAccess} (consistent : state.Consistent) :
    CheckedAccess.Consistent { state with impl := state.impl.receive } where
  coded := by
    rw [CheckedAccess.enforcer, RealtimeCollabAccessControlImpl.receive_enforcer]
    exact consistent.coded
  filled := by
    intro uid oid cached present
    rw [CheckedAccess.enforcer, RealtimeCollabAccessControlImpl.receive_enforcer]
    exact consistent.filled uid oid cached (RealtimeCollabAccessControlImpl.receive_entry present)

theorem CheckedAccess.lagged_consistent {state : CheckedAccess} (consistent : state.Consistent) :
    CheckedAccess.Consistent { state with impl := state.impl.lagged } := by
  rw [RealtimeCollabAccessControlImpl.lagged]
  split
  · exact ⟨⟨consistent.coded.ungrouped, consistent.coded.coded⟩, consistent.filled⟩
  · exact consistent

/-- A miss answers as the enforcer does and remembers a granted action. -/
theorem RealtimeCollabAccessControlImpl.canPerformAction_miss {self : RealtimeCollabAccessControlImpl}
    (coded : self.accessControl.enforcer.Coded) {workspaceId : String} {uid : Int} {oid : String}
    {requiredAction : Action} (miss : self.actionByOid (cacheKey uid oid) = none) :
    (self.accessControl.enforcer.RowsAllow workspaceId uid oid requiredAction ∧
        self.canPerformAction true workspaceId uid oid requiredAction = (.ok true,
          { self with actionByOid := Function.update self.actionByOid (cacheKey uid oid) (some requiredAction) })) ∨
      (¬ self.accessControl.enforcer.RowsAllow workspaceId uid oid requiredAction ∧
        self.canPerformAction true workspaceId uid oid requiredAction = (.ok false, self)) := by
  by_cases allow : self.accessControl.enforcer.RowsAllow workspaceId uid oid requiredAction
  · refine .inl ⟨allow, ?_⟩
    simp [RealtimeCollabAccessControlImpl.canPerformAction, miss, AccessControl.enforce,
      (enforcePolicy_rowsAllow coded).mpr allow]
  · refine .inr ⟨allow, ?_⟩
    simp [RealtimeCollabAccessControlImpl.canPerformAction, miss, AccessControl.enforce,
      enforcePolicy_denied coded allow]

theorem RealtimeCollabAccessControlImpl.canPerformAction_hit {self : RealtimeCollabAccessControlImpl}
    {workspaceId : String} {uid : Int} {oid : String} {requiredAction cached : Action}
    (hit : self.actionByOid (cacheKey uid oid) = some cached) :
    self.canPerformAction true workspaceId uid oid requiredAction = (.ok (cached.ge requiredAction), self) := by
  simp [RealtimeCollabAccessControlImpl.canPerformAction, hit]

theorem CheckedAccess.check_consistent (enableAccessControl : Bool) {state : CheckedAccess}
    (consistent : state.Consistent) (workspaceId : String) (uid : Int) (oid : String) (requiredAction : Action) :
    (state.check enableAccessControl workspaceId uid oid requiredAction).Consistent := by
  cases entry : state.impl.actionByOid (cacheKey uid oid) with
  | some cached =>
    -- a hit fills nothing
    have unchanged : state.check enableAccessControl workspaceId uid oid requiredAction = state := by
      cases enableAccessControl with
      | false => simp [CheckedAccess.check, RealtimeCollabAccessControlImpl.canPerformAction, entry]
      | true => simp [CheckedAccess.check, RealtimeCollabAccessControlImpl.canPerformAction_hit entry, entry]
    rwa [unchanged]
  | none =>
    -- the entries kept from before, whatever the record says about the missing key
    have kept : CheckedAccess.Consistent
        ⟨state.impl, Function.update state.filledUnder (cacheKey uid oid) workspaceId⟩ := by
      refine ⟨consistent.coded, fun otherUid otherOid cached present => ?_⟩
      have otherKey : cacheKey otherUid otherOid ≠ cacheKey uid oid := by
        intro same
        rw [same, entry] at present
        cases present
      simp only [Function.update_of_ne otherKey]
      exact consistent.filled otherUid otherOid cached present
    simp only [CheckedAccess.check, entry, Option.isNone_none, if_true]
    cases enableAccessControl with
    | false => exact kept
    | true =>
      rcases RealtimeCollabAccessControlImpl.canPerformAction_miss consistent.coded entry with
        ⟨allow, answered⟩ | ⟨_, answered⟩
      · rw [answered]
        refine ⟨consistent.coded, fun otherUid otherOid cached present => ?_⟩
        -- the new entry stands for the decision just taken
        by_cases same : cacheKey otherUid otherOid = cacheKey uid oid
        · obtain ⟨rfl, rfl⟩ := cacheKey_injective same
          simp only [Function.update_self, Option.some.injEq] at present ⊢
          exact present ▸ allow
        · simp only [Function.update_of_ne same] at present
          exact kept.filled otherUid otherOid cached present
      · rw [answered]
        exact kept

theorem CheckedAccess.step_consistent (enableAccessControl : Bool) (state : CheckedAccess) (event : AccessEvent)
    (consistent : state.Consistent) : (state.step enableAccessControl event).Consistent := by
  cases event with
  | updatePolicy uid object action =>
    exact change_consistent consistent (AccessControl.updatePolicy_grown _ _ _ _ _)
  | removePolicy uid object => exact change_consistent consistent (AccessControl.removePolicy_grown _ _ _ _)
  | insertRole uid workspaceId role => exact change_consistent consistent (AccessControl.insertRole_grown _ _ _ _ _)
  | removeRole uid workspaceId => exact change_consistent consistent (AccessControl.removeRole_grown _ _ _ _)
  | check workspaceId uid oid requiredAction => exact check_consistent _ consistent _ _ _ _
  | receive => exact receive_consistent consistent
  | lagged => exact lagged_consistent consistent

/-- A check made when no change is waiting is answered as the enforcer decides. -/
def CheckedAccess.AnswersAsEnforcer (enableAccessControl : Bool) (state : CheckedAccess) : AccessEvent → Prop
  | .check workspaceId uid oid requiredAction =>
    state.impl.accessControl.changes = [] →
      (state.impl.canPerformAction enableAccessControl workspaceId uid oid requiredAction).1 =
        state.enforcer.enforcePolicy workspaceId uid (.collab oid) (.fromAction requiredAction)
  | _ => True

/-- The entry a check meets does not mislead it: a check above the cached action comes from
    a user whose rows do not allow it, and any other check names the workspace the entry was
    filled under, unless the rows allow it anyway. -/
def CheckedAccess.NotMisled (enableAccessControl : Bool) (state : CheckedAccess) : AccessEvent → Prop
  | .check workspaceId uid oid requiredAction =>
    state.impl.accessControl.changes = [] →
      if enableAccessControl then
        ∀ cached, state.impl.actionByOid (cacheKey uid oid) = some cached →
          if cached.ge requiredAction then
            workspaceId = state.filledUnder (cacheKey uid oid) ∨
              state.enforcer.RowsAllow workspaceId uid oid requiredAction
          else ¬ state.enforcer.RowsAllow workspaceId uid oid requiredAction
      else state.enforcer.RowsAllow workspaceId uid oid requiredAction
  | _ => True

theorem CheckedAccess.answersAsEnforcer_iff (enableAccessControl : Bool) (state : CheckedAccess)
    (event : AccessEvent) (consistent : state.Consistent) :
    state.AnswersAsEnforcer enableAccessControl event ↔ state.NotMisled enableAccessControl event := by
  cases event with
  | updatePolicy | removePolicy | insertRole | removeRole | receive | lagged => exact Iff.rfl
  | check workspaceId uid oid requiredAction =>
    refine imp_congr_right fun _ => ?_
    have coded := consistent.coded
    -- the two possible answers in terms of the rows
    have denied_iff : Except.ok false = state.enforcer.enforcePolicy workspaceId uid (.collab oid)
        (.fromAction requiredAction) ↔ ¬ state.enforcer.RowsAllow workspaceId uid oid requiredAction := by
      refine ⟨fun same allow => ?_, fun denied => (enforcePolicy_denied coded denied).symm⟩
      rw [(enforcePolicy_rowsAllow coded).mpr allow] at same
      cases same
    have granted_iff : Except.ok true = state.enforcer.enforcePolicy workspaceId uid (.collab oid)
        (.fromAction requiredAction) ↔ state.enforcer.RowsAllow workspaceId uid oid requiredAction := by
      rw [eq_comm, enforcePolicy_rowsAllow coded]
    cases enableAccessControl with
    -- with the access control off every check is granted
    | false => exact granted_iff
    | true =>
      cases entry : state.impl.actionByOid (cacheKey uid oid) with
      | none =>
        simp only [if_true, reduceCtorEq, false_imp_iff, implies_true, iff_true]
        rcases RealtimeCollabAccessControlImpl.canPerformAction_miss coded entry with
          ⟨allow, answered⟩ | ⟨denied, answered⟩
        · rw [answered]
          exact granted_iff.mpr allow
        · rw [answered]
          exact denied_iff.mpr denied
      | some cached =>
        rw [RealtimeCollabAccessControlImpl.canPerformAction_hit entry]
        simp only [if_true, Option.some.injEq, forall_eq']
        cases above : cached.ge requiredAction with
        | false => simpa using denied_iff
        | true =>
          simp only [if_true]
          rw [granted_iff]
          refine ⟨.inr, ?_⟩
          rintro (rfl | allow)
          · -- the entry's own decision still stands, and it covers the lower action
            exact (consistent.filled uid oid cached entry).imp (Enforcer.Grants.lower coded above)
              (Enforcer.Grants.lower coded above)
          · exact allow

/-- In every history the cache answers all checks as the enforcer would exactly when no
    check is misled by the entry it meets. -/
theorem realtime_checks_agree_iff (enableAccessControl : Bool)
    (workspaceMembers : List (Int × String × AFRole)) (collabMembers : List (Int × String × AFAccessLevel))
    (history : List AccessEvent) :
    Always (CheckedAccess.step enableAccessControl) (CheckedAccess.AnswersAsEnforcer enableAccessControl)
        (CheckedAccess.start workspaceMembers collabMembers) history ↔
      Always (CheckedAccess.step enableAccessControl) (CheckedAccess.NotMisled enableAccessControl)
        (CheckedAccess.start workspaceMembers collabMembers) history :=
  always_congr_of_invariant (CheckedAccess.step_consistent enableAccessControl)
    (CheckedAccess.answersAsEnforcer_iff enableAccessControl)
    (CheckedAccess.start_consistent workspaceMembers collabMembers) history

/-- The owner of a workspace reads a document and is then refused to write it. -/
theorem realtime_owner_refused_after_read :
    ¬ ∀ (workspaceMembers : List (Int × String × AFRole)) (collabMembers : List (Int × String × AFAccessLevel))
        (history : List AccessEvent),
      Always (CheckedAccess.step true) (CheckedAccess.AnswersAsEnforcer true)
        (CheckedAccess.start workspaceMembers collabMembers) history := by
  intro agree
  obtain ⟨_, write, _⟩ := agree [(1, "w", .owner)] [] [.check "w" 1 "doc" .read, .check "w" 1 "doc" .write]
  exact absurd (write rfl) (by decide)

end FlowCloud.Casbin
