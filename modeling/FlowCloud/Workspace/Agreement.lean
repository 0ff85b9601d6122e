import FlowCloud.Workspace.Members

/-! # When the running server and a restarted one agree

The policies only ever grow: a removal takes nothing out of them.  So they stay what the
tables say as long as the operations only add rows, and grant no row but those that they
store.
-/

namespace FlowCloud.Workspace

open FlowCloud.Foundation FlowCloud.Entity FlowCloud.Casbin FlowCloud.Storage

/-! ## Policies -/

def policies (accessControl : AccessControl) : RuleTable Rule := accessControl.enforcer.enforcer.policies

def workspaceRule (uid : Int) (workspaceId : Uuid) (role : AFRole) : Rule :=
  policyRule uid (.workspace workspaceId.text) (roleAction role)

def collabRule (uid : Int) (oid : String) (level : AFAccessLevel) : Rule :=
  policyRule uid (.collab oid) (levelAction level)

theorem Database.mem_policies {database : Database} {rule : Rule} :
    rule ∈ database.policies ↔
      (∃ member role, database.workspaceMembers.lookup member = some role ∧
        rule = workspaceRule member.2 member.1 role) ∨
      ∃ member level, database.collabMembers.lookup member = some level ∧ rule = collabRule member.1 member.2 level := by
  rw [Database.policies, loadPolicy, RuleTable.mem_insertAll, RuleTable.mem_insertAll]
  simp only [RuleTable.not_mem_empty, false_or, List.mem_map]
  refine or_congr ⟨?_, ?_⟩ ⟨?_, ?_⟩
  · rintro ⟨_, ⟨⟨member, role⟩, listed, rfl⟩, rfl⟩
    exact ⟨member, role, AList.mem_lookup_iff.mpr listed, rfl⟩
  · rintro ⟨member, role, found, rfl⟩
    exact ⟨_, ⟨_, AList.mem_lookup_iff.mp found, rfl⟩, rfl⟩
  · rintro ⟨_, ⟨⟨member, level⟩, listed, rfl⟩, rfl⟩
    exact ⟨member, level, AList.mem_lookup_iff.mpr listed, rfl⟩
  · rintro ⟨member, level, found, rfl⟩
    exact ⟨_, ⟨_, AList.mem_lookup_iff.mp found, rfl⟩, rfl⟩

/-- Engines with the same rows decide alike. -/
theorem enforcePolicy_congr {first second : AFEnforcer} (group : first.enforceGroup = second.enforceGroup)
    (rows : ∀ rule, rule ∈ first.enforcer.policies ↔ rule ∈ second.enforcer.policies) (workspaceId : String)
    (uid : Int) (object : ObjectType) (action : ActionVariant) :
    first.enforcePolicy workspaceId uid object action = second.enforcePolicy workspaceId uid object action := by
  have sameDecision : ∀ request, first.enforcer.enforce request = second.enforcer.enforce request := by
    intro request
    have matcher : first.enforcer.matcher request = second.enforcer.matcher request := by
      funext rule
      rw [Enforcer.matcher, Enforcer.matcher, Enforcer.g, Enforcer.g, first.loaded, second.loaded]
    rw [Bool.eq_iff_iff, Enforcer.enforce, Enforcer.enforce, RuleTable.allows_iff, RuleTable.allows_iff, matcher]
    simp only [rows]
  simp only [AFEnforcer.enforcePolicy, sameDecision, group]

/-! ## What changes add to the policies -/

theorem updatePolicy_enforceGroup (enableAccessControl : Bool) (accessControl : AccessControl) (uid : Int)
    (object : ObjectType) (action : ActionVariant) :
    (accessControl.updatePolicy enableAccessControl uid object action).2.enforcer.enforceGroup =
      accessControl.enforcer.enforceGroup := by
  cases enableAccessControl with
  | false => rfl
  | true =>
    simp only [AccessControl.updatePolicy, if_pos]
    cases updated : accessControl.enforcer.updatePolicy uid object action with
    | error failure => simp
    | ok next => simpa using (updatePolicy_cases updated).2.1

theorem mem_updatePolicy {accessControl : AccessControl} {uid : Int} {object : ObjectType} {action : ActionVariant}
    (valid : validateObjAction object action = .ok ()) {rule : Rule} :
    rule ∈ policies (accessControl.updatePolicy true uid object action).2 ↔
      rule ∈ policies accessControl ∨ rule = policyRule uid object action.toAction := by
  obtain ⟨next, updated⟩ : ∃ next, accessControl.enforcer.updatePolicy uid object action = .ok next :=
    updatePolicy_of_valid valid
  simp [AccessControl.updatePolicy, updated, policies, (updatePolicy_cases updated).2.2]

theorem mem_of_updatePolicy {accessControl : AccessControl} {uid : Int} {object : ObjectType}
    {action : ActionVariant} {rule : Rule}
    (member : rule ∈ policies (accessControl.updatePolicy true uid object action).2) :
    rule ∈ policies accessControl ∨ rule = policyRule uid object action.toAction := by
  cases valid : validateObjAction object action with
  | ok accepted => exact (mem_updatePolicy valid).mp member
  | error failure =>
    -- a refused update adds nothing
    have refused : accessControl.enforcer.updatePolicy uid object action = .error failure := by
      rw [AFEnforcer.updatePolicy, valid]
      rfl
    simp [AccessControl.updatePolicy, refused, policies] at member
    exact .inl member

theorem removePolicy_enforcer (accessControl : AccessControl) (uid : Int) (object : ObjectType) :
    (accessControl.removePolicy true uid object).2.enforcer = accessControl.enforcer := by
  simp [AccessControl.removePolicy, removePolicy_eq]

/-- The row that a listener adds when it hears of the change. -/
def WorkspaceMemberNotification.rule (change : WorkspaceMemberNotification) : Option Rule :=
  match change.actionType with
  | .insert | .update => change.new.map fun row => workspaceRule row.uid row.workspaceId row.role
  | .delete => none

def CollabMemberNotification.rule (change : CollabMemberNotification) : Option Rule :=
  match change.actionType with
  | .insert | .update => change.new.map fun row => collabRule row.uid row.oid row.accessLevel
  | .delete => none

theorem mem_applyWorkspaceChange (accessControl : AccessControl) (change : WorkspaceMemberNotification) {rule : Rule} :
    rule ∈ policies (applyWorkspaceChange true accessControl change) ↔
      rule ∈ policies accessControl ∨ change.rule = some rule := by
  obtain ⟨old, new, action⟩ := change
  cases action with
  | insert | update =>
    cases new with
    | none => simp [applyWorkspaceChange, WorkspaceMemberNotification.rule]
    | some row =>
      refine (mem_updatePolicy rfl).trans (or_congr_right ?_)
      simp only [WorkspaceMemberNotification.rule, Option.map_some, Option.some.injEq]
      exact eq_comm
  | delete =>
    cases old <;>
      simp [applyWorkspaceChange, WorkspaceMemberNotification.rule, policies, removePolicy_enforcer]

theorem mem_applyCollabChange (accessControl : AccessControl) (change : CollabMemberNotification) {rule : Rule} :
    rule ∈ policies (applyCollabChange true accessControl change) ↔
      rule ∈ policies accessControl ∨ change.rule = some rule := by
  obtain ⟨old, new, action⟩ := change
  cases action with
  | insert | update =>
    cases new with
    | none => simp [applyCollabChange, CollabMemberNotification.rule]
    | some row =>
      refine (mem_updatePolicy rfl).trans (or_congr_right ?_)
      simp only [CollabMemberNotification.rule, Option.map_some, Option.some.injEq]
      exact eq_comm
  | delete =>
    cases old <;> simp [applyCollabChange, CollabMemberNotification.rule, policies, removePolicy_enforcer]

/-- The rows that a list of announced changes stands for. -/
def announcedRules (workspaceChanges : List WorkspaceMemberNotification)
    (collabChanges : List CollabMemberNotification) : List Rule :=
  workspaceChanges.filterMap WorkspaceMemberNotification.rule ++
    collabChanges.filterMap CollabMemberNotification.rule

def Transaction.rules (txn : Transaction) : List Rule := announcedRules txn.workspaceChanges txn.collabChanges

def Effect.rules : Effect → List Rule
  | .updatePolicy uid object action => [policyRule uid object action.toAction]
  | .removePolicy _ _ => []
  | .commit txn => txn.rules

def Effect.after (database : Database) : Effect → Database
  | .commit txn => txn.database
  | _ => database

/-! ## Plans -/

/-- Each commit announces the rows that it adds. -/
def Announced : Database → List Effect → Prop
  | _, [] => True
  | database, effect :: rest =>
    (∀ rule ∈ (effect.after database).policies, rule ∈ database.policies ∨ rule ∈ effect.rules) ∧
      Announced (effect.after database) rest

/-- No row is lost on the way, and whatever is granted or announced is a row in the end. -/
structure Additive (database : Database) (effects : List Effect) : Prop where
  kept : ∀ rule ∈ database.policies, rule ∈ (run Effect.after database effects).policies
  stored : ∀ effect ∈ effects, ∀ rule ∈ effect.rules, rule ∈ (run Effect.after database effects).policies
  announced : Announced database effects

/-- The rows of the policies and those to come are rows of the tables once the operation
    under way is through; each row of the tables is a policy or about to become one. -/
structure Coherent (service : MemberService) : Prop where
  ungrouped : service.accessControl.enforcer.enforceGroup = noEnforceGroup
  sound : ∀ rule ∈ policies service.accessControl,
    rule ∈ (run Effect.after service.database service.underWay).policies
  pending : ∀ rule ∈ announcedRules service.workspaceChanges service.collabChanges,
    rule ∈ (run Effect.after service.database service.underWay).policies
  stored : ∀ effect ∈ service.underWay, ∀ rule ∈ effect.rules,
    rule ∈ (run Effect.after service.database service.underWay).policies
  announced : Announced service.database service.underWay
  complete : ∀ rule ∈ service.database.policies, rule ∈ policies service.accessControl ∨
    rule ∈ announcedRules service.workspaceChanges service.collabChanges

theorem coherent_start (database : Database) : Coherent (.start database) where
  ungrouped := rfl
  sound := fun _ member => member
  pending := List.forall_mem_nil _
  stored := List.forall_mem_nil _
  announced := trivial
  complete := fun _ member => .inl member

theorem Coherent.agrees {service : MemberService} (coherent : Coherent service) (settled : service.Settled) :
    service.Agrees true := by
  intro workspaceId uid object action
  have sound := coherent.sound
  rw [settled.idle] at sound
  refine enforcePolicy_congr coherent.ungrouped (fun rule => ⟨sound rule, fun member => ?_⟩) _ _ _ _
  have complete := coherent.complete rule member
  rw [settled.noWorkspaceChange, settled.noCollabChange] at complete
  exact complete.resolve_right List.not_mem_nil

/-! ## Steps of the server -/

variable {service : MemberService}

theorem applyWorkspaceChange_enforceGroup (accessControl : AccessControl) (change : WorkspaceMemberNotification) :
    (applyWorkspaceChange true accessControl change).enforcer.enforceGroup = accessControl.enforcer.enforceGroup := by
  obtain ⟨old, new, action⟩ := change
  cases action with
  | insert | update =>
    cases new with
    | none => rfl
    | some row => exact updatePolicy_enforceGroup _ _ _ _ _
  | delete => cases old <;> simp [applyWorkspaceChange, removePolicy_enforcer]

theorem applyCollabChange_enforceGroup (accessControl : AccessControl) (change : CollabMemberNotification) :
    (applyCollabChange true accessControl change).enforcer.enforceGroup = accessControl.enforcer.enforceGroup := by
  obtain ⟨old, new, action⟩ := change
  cases action with
  | insert | update =>
    cases new with
    | none => rfl
    | some row => exact updatePolicy_enforceGroup _ _ _ _ _
  | delete => cases old <;> simp [applyCollabChange, removePolicy_enforcer]

theorem Coherent.begin (coherent : Coherent service) (idle : service.underWay = []) {effects : List Effect}
    (additive : Additive service.database effects) : Coherent { service with underWay := effects } := by
  have sound := coherent.sound
  have pending := coherent.pending
  rw [idle] at sound pending
  exact
    { ungrouped := coherent.ungrouped
      sound := fun rule member => additive.kept rule (sound rule member)
      pending := fun rule member => additive.kept rule (pending rule member)
      stored := additive.stored
      announced := additive.announced
      complete := coherent.complete }

theorem Coherent.perform (coherent : Coherent service) {effect : Effect} {rest : List Effect}
    (next : service.underWay = effect :: rest) :
    Coherent ({ service with underWay := rest }.perform true effect) := by
  obtain ⟨ungrouped, sound, pending, stored, announced, complete⟩ := coherent
  rw [next] at sound pending stored announced
  have later : ∀ effect ∈ rest, ∀ rule ∈ effect.rules, rule ∈ (run Effect.after service.database (_ :: rest)).policies :=
    fun effect member => stored effect (.tail _ member)
  have own := stored effect (.head _)
  cases effect with
  | updatePolicy uid object action =>
    exact
      { ungrouped := (updatePolicy_enforceGroup _ _ _ _ _).trans ungrouped
        sound := fun rule member => (mem_of_updatePolicy member).elim (sound rule) fun new =>
          own rule (List.mem_singleton.mpr new)
        pending := pending
        stored := later
        announced := announced.2
        complete := fun rule member => (complete rule member).imp_left
          ((AccessControl.updatePolicy_grown true service.accessControl uid object action).rows rule) }
  | removePolicy uid object =>
    have kept : policies (service.accessControl.removePolicy true uid object).2 = policies service.accessControl :=
      congrArg (fun enforcer => enforcer.enforcer.policies) (removePolicy_enforcer _ _ _)
    refine ⟨?_, ?_, pending, later, announced.2, ?_⟩
    · exact (congrArg AFEnforcer.enforceGroup (removePolicy_enforcer _ _ _)).trans ungrouped
    · exact fun rule member => sound rule (kept ▸ member)
    · exact fun rule member => (complete rule member).imp_left fun held => kept ▸ held
  | commit txn =>
    -- the announcements go to the end of the queues
    have queued : ∀ rule, rule ∈ announcedRules (service.workspaceChanges ++ txn.workspaceChanges)
        (service.collabChanges ++ txn.collabChanges) ↔
          rule ∈ announcedRules service.workspaceChanges service.collabChanges ∨ rule ∈ txn.rules := by
      intro rule
      simp only [announcedRules, Transaction.rules, List.filterMap_append, List.mem_append]
      tauto
    exact
      { ungrouped := ungrouped
        sound := sound
        pending := fun rule member => ((queued rule).mp member).elim (pending rule) (own rule)
        stored := later
        announced := announced.2
        complete := fun rule member => (announced.1 rule member).elim
          (fun old => (complete rule old).imp_right fun waits => (queued rule).mpr (.inl waits))
          fun new => .inr ((queued rule).mpr (.inr new)) }

/-- The listener applies the announcement at the head of one of the queues. -/
theorem Coherent.applies (coherent : Coherent service) {accessControl : AccessControl} {announced : Option Rule}
    {workspaceChanges : List WorkspaceMemberNotification} {collabChanges : List CollabMemberNotification}
    (group : accessControl.enforcer.enforceGroup = service.accessControl.enforcer.enforceGroup)
    (applied : ∀ rule, rule ∈ policies accessControl ↔ rule ∈ policies service.accessControl ∨ announced = some rule)
    (head : ∀ rule, rule ∈ announcedRules service.workspaceChanges service.collabChanges ↔
      announced = some rule ∨ rule ∈ announcedRules workspaceChanges collabChanges) :
    Coherent { service with accessControl, workspaceChanges, collabChanges } := by
  refine ⟨group.trans coherent.ungrouped, ?_, ?_, coherent.stored, coherent.announced, ?_⟩
  · intro rule member
    cases (applied rule).mp member with
    | inl old => exact coherent.sound rule old
    | inr new => exact coherent.pending rule ((head rule).mpr (.inl new))
  · exact fun rule member => coherent.pending rule ((head rule).mpr (.inr member))
  · intro rule member
    rw [applied, or_assoc, ← head]
    exact coherent.complete rule member

theorem Coherent.step (coherent : Coherent service) (event : MemberEvent)
    (additive : ∀ operation effects, event = .operation operation → service.underWay = [] →
      operation.effects service.database = .ok effects → Additive service.database effects) :
    Coherent (service.step true event) := by
  cases event with
  | operation operation =>
    rw [MemberService.step]
    split
    · rename_i effects idle planned
      exact coherent.begin idle (additive operation effects rfl idle planned)
    · exact coherent
  | proceed =>
    rw [MemberService.step]
    split
    · exact coherent
    · rename_i effect rest next
      exact coherent.perform next
  | workspaceChange =>
    rw [MemberService.step]
    split
    · exact coherent
    · rename_i change rest next
      have head : ∀ rule, rule ∈ announcedRules service.workspaceChanges service.collabChanges ↔
          change.rule = some rule ∨ rule ∈ announcedRules rest service.collabChanges := by
        intro rule
        rw [next]
        cases applied : change.rule <;> simp [announcedRules, applied, eq_comm]
      exact coherent.applies (applyWorkspaceChange_enforceGroup _ _) (fun _ => mem_applyWorkspaceChange _ _) head
  | collabChange =>
    rw [MemberService.step]
    split
    · exact coherent
    · rename_i change rest next
      have head : ∀ rule, rule ∈ announcedRules service.workspaceChanges service.collabChanges ↔
          change.rule = some rule ∨ rule ∈ announcedRules service.workspaceChanges rest := by
        intro rule
        rw [next]
        cases applied : change.rule with
        | none => simp [announcedRules, applied]
        | some granted =>
          simp [announcedRules, applied, eq_comm, or_left_comm]
      exact coherent.applies (applyCollabChange_enforceGroup _ _) (fun _ => mem_applyCollabChange _ _) head

/-! ## Transactions that only add rows -/

/-- The transaction keeps every row it began with, and announces exactly what it adds. -/
structure Transaction.Adds (database : Database) (txn : Transaction) : Prop where
  users : txn.database.uidOfEmail = database.uidOfEmail
  kept : ∀ rule ∈ database.policies, rule ∈ txn.database.policies
  stored : ∀ rule ∈ txn.rules, rule ∈ txn.database.policies
  announced : ∀ rule ∈ txn.database.policies, rule ∈ database.policies ∨ rule ∈ txn.rules

theorem Transaction.adds_begin (database : Database) : (Transaction.begin database).Adds database where
  users := rfl
  kept := fun _ member => member
  stored := List.forall_mem_nil _
  announced := fun _ member => .inl member

/-- A transaction that adds one row more. -/
theorem Transaction.Adds.more {database : Database} {txn next : Transaction} {new : Rule}
    (adds : txn.Adds database) (users : next.database.uidOfEmail = txn.database.uidOfEmail)
    (rows : ∀ rule, rule ∈ next.database.policies ↔ rule ∈ txn.database.policies ∨ rule = new)
    (rules : ∀ rule, rule ∈ next.rules ↔ rule ∈ txn.rules ∨ rule = new) : next.Adds database where
  users := users.trans adds.users
  kept := fun rule member => (rows rule).mpr (.inl (adds.kept rule member))
  stored := fun rule member => (rows rule).mpr (((rules rule).mp member).imp_left (adds.stored rule))
  announced := fun rule member => by
    cases (rows rule).mp member with
    | inl old => exact (adds.announced rule old).imp_right fun announced => (rules rule).mpr (.inl announced)
    | inr same =>
      obtain rfl := same
      exact .inr ((rules rule).mpr (.inr rfl))

/-- Over a row that is not there, or is the same, an insert only adds. -/
theorem exists_lookup_insert {Key Value : Type} [DecidableEq Key] {table : AList fun _ : Key => Value} {key : Key}
    {value : Value} (fits : ∀ old, table.lookup key = some old → old = value) {Holds : Key → Value → Prop} :
    (∃ other found, (table.insert key value).lookup other = some found ∧ Holds other found) ↔
      (∃ other found, table.lookup other = some found ∧ Holds other found) ∨ Holds key value := by
  constructor
  · rintro ⟨other, found, lookup, holds⟩
    by_cases same : other = key
    · subst same
      rw [AList.lookup_insert] at lookup
      cases lookup
      exact .inr holds
    · rw [AList.lookup_insert_ne same] at lookup
      exact .inl ⟨other, found, lookup, holds⟩
  · rintro (⟨other, found, lookup, holds⟩ | holds)
    · refine ⟨other, found, ?_, holds⟩
      by_cases same : other = key
      · subst same
        rw [fits found lookup]
        exact AList.lookup_insert _
      · exact (AList.lookup_insert_ne same).trans lookup
    · exact ⟨key, value, AList.lookup_insert _, holds⟩

theorem mem_policies_setWorkspaceMember {txn : Transaction} {row : WorkspaceMemberRow} {before : Option AFRole}
    {action : MemberAction} {rule : Rule}
    (fits : ∀ old, txn.database.workspaceMembers.lookup (row.workspaceId, row.uid) = some old → old = row.role) :
    rule ∈ (txn.setWorkspaceMember row before action).database.policies ↔
      rule ∈ txn.database.policies ∨ rule = workspaceRule row.uid row.workspaceId row.role := by
  rw [Database.mem_policies, Database.mem_policies, or_right_comm]
  exact or_congr_left (exists_lookup_insert fits)

theorem mem_policies_upsertCollabMember {txn : Transaction} {uid : Int} {oid : String} {level : AFAccessLevel}
    {rule : Rule} (fits : ∀ old, txn.database.collabMembers.lookup (uid, oid) = some old → old = level) :
    rule ∈ (txn.upsertCollabMemberWithTxn uid oid level).database.policies ↔
      rule ∈ txn.database.policies ∨ rule = collabRule uid oid level := by
  rw [Database.mem_policies, Database.mem_policies, or_assoc]
  exact or_congr_right (exists_lookup_insert fits)

theorem mem_rules_setWorkspaceMember {txn : Transaction} {row : WorkspaceMemberRow} {before : Option AFRole}
    {action : MemberAction} (sets : action ≠ .delete) {rule : Rule} :
    rule ∈ (txn.setWorkspaceMember row before action).rules ↔
      rule ∈ txn.rules ∨ rule = workspaceRule row.uid row.workspaceId row.role := by
  have announces : (⟨before.map fun role => { row with role }, some row, action⟩ :
      WorkspaceMemberNotification).rule = some (workspaceRule row.uid row.workspaceId row.role) := by
    cases action with
    | insert | update => rfl
    | delete => exact absurd rfl sets
  simp only [Transaction.rules, announcedRules, Transaction.setWorkspaceMember, List.filterMap_append,
    List.mem_append, List.filterMap_cons, announces, List.filterMap_nil, List.mem_singleton]
  exact or_right_comm

theorem mem_rules_upsertCollabMember {txn : Transaction} {uid : Int} {oid : String} {level : AFAccessLevel}
    {rule : Rule} :
    rule ∈ (txn.upsertCollabMemberWithTxn uid oid level).rules ↔ rule ∈ txn.rules ∨ rule = collabRule uid oid level := by
  simp only [Transaction.rules, announcedRules, Transaction.upsertCollabMemberWithTxn, List.filterMap_append,
    List.mem_append, ← or_assoc]
  refine or_congr_right ?_
  cases txn.database.collabMembers.lookup (uid, oid) <;> simp [CollabMemberNotification.rule]

theorem Transaction.Adds.setWorkspaceMember {database : Database} {txn : Transaction} (adds : txn.Adds database)
    {row : WorkspaceMemberRow} {before : Option AFRole} {action : MemberAction} (sets : action ≠ .delete)
    (fits : ∀ old, txn.database.workspaceMembers.lookup (row.workspaceId, row.uid) = some old → old = row.role) :
    (txn.setWorkspaceMember row before action).Adds database :=
  adds.more rfl (fun _ => mem_policies_setWorkspaceMember fits) fun _ => mem_rules_setWorkspaceMember sets

theorem Transaction.Adds.upsertCollabMember {database : Database} {txn : Transaction} (adds : txn.Adds database)
    {uid : Int} {oid : String} {level : AFAccessLevel}
    (fits : ∀ old, txn.database.collabMembers.lookup (uid, oid) = some old → old = level) :
    (txn.upsertCollabMemberWithTxn uid oid level).Adds database :=
  adds.more rfl (fun _ => mem_policies_upsertCollabMember fits) fun _ => mem_rules_upsertCollabMember

/-! ## Operations that only add rows -/

/-- The rows of the user, if there are any, are those that the role calls for. -/
structure Fits (database : Database) (workspaceId : Uuid) (uid : Int) (role : AFRole) : Prop where
  workspaceMember : ∀ old, database.workspaceMembers.lookup (workspaceId, uid) = some old → old = role
  collabMember : ∀ old, database.collabMembers.lookup (uid, workspaceId.text) = some old → old = .ofRole role

/-- The operation takes no row away, changes none, and grants what its rows say. -/
def MemberOperation.OnlyAdds (database : Database) : MemberOperation → Prop
  | .addWorkspaceMembers workspaceId members _ =>
    ∀ member ∈ members, ∀ uid, database.uidOfEmail member.email = some uid →
      Fits database workspaceId uid member.role ∧
        ∀ other ∈ members, database.uidOfEmail other.email = some uid → other.role = member.role
  | .updateWorkspaceMember workspaceId changeset =>
    ∀ role, changeset.role = some role → ∀ uid, database.uidOfEmail changeset.email = some uid →
      database.workspaceMembers.lookup (workspaceId, uid) = some role ∧
        database.collabMembers.lookup (uid, workspaceId.text) = some (.ofRole role)
  | .removeWorkspaceMembers workspaceId memberEmails =>
    ∀ email ∈ memberEmails, ∀ uid, database.uidOfEmail email = some uid →
      database.workspaceMembers.lookup (workspaceId, uid) = none ∨ database.ownerUid workspaceId = none
  | .createCollabMember _ => True
  | .upsertCollabMember params =>
    ∀ old, database.collabMembers.lookup (params.uid, params.objectId) = some old → old = params.accessLevel
  | .deleteCollabMember params => database.collabMembers.lookup (params.uid, params.objectId) = none

variable {database : Database}

def Effect.ChangesPolicy : Effect → Prop
  | .commit _ => False
  | _ => True

theorem after_changesPolicy {effect : Effect} (changes : effect.ChangesPolicy) : effect.after database = database := by
  cases effect with
  | updatePolicy | removePolicy => rfl
  | commit txn => cases changes

theorem run_changesPolicy {effects : List Effect} (changes : ∀ effect ∈ effects, effect.ChangesPolicy) :
    run Effect.after database effects = database := by
  induction effects with
  | nil => rfl
  | cons effect effects inductionHypothesis =>
    rw [List.forall_mem_cons] at changes
    rw [run_cons, after_changesPolicy changes.1, inductionHypothesis changes.2]

theorem announced_changesPolicy {first later : List Effect} (changes : ∀ effect ∈ first, effect.ChangesPolicy)
    (announced : Announced database later) : Announced database (first ++ later) := by
  induction first with
  | nil => exact announced
  | cons effect first inductionHypothesis =>
    rw [List.forall_mem_cons] at changes
    have same : effect.after database = database := after_changesPolicy changes.1
    exact ⟨fun rule member => .inl (same ▸ member), same.symm ▸ inductionHypothesis changes.2⟩

/-- An operation with one commit, whose rows are all that is granted beside it. -/
theorem Transaction.Adds.additive {txn : Transaction} (adds : txn.Adds database) (first last : List Effect)
    (firstChanges : ∀ effect ∈ first, effect.ChangesPolicy) (lastChanges : ∀ effect ∈ last, effect.ChangesPolicy)
    (granted : ∀ effect ∈ first ++ last, ∀ rule ∈ effect.rules, rule ∈ txn.database.policies) :
    Additive database (first ++ .commit txn :: last) := by
  have ends : run Effect.after database (first ++ .commit txn :: last) = txn.database := by
    rw [run_append, run_changesPolicy firstChanges, run_cons]
    exact run_changesPolicy lastChanges
  constructor
  · rw [ends]
    exact adds.kept
  · rw [ends]
    intro effect member
    cases List.mem_append.mp member with
    | inl before => exact granted effect (List.mem_append_left _ before)
    | inr later =>
      cases List.mem_cons.mp later with
      | inl same =>
        obtain rfl := same
        exact adds.stored
      | inr after => exact granted effect (List.mem_append_right _ after)
  · refine announced_changesPolicy firstChanges ⟨adds.announced, ?_⟩
    have last : Announced txn.database (last ++ []) := announced_changesPolicy lastChanges trivial
    rwa [List.append_nil] at last

/-- The membership that both kinds of insert write. -/
theorem upsert_additive {params : InsertCollabMemberParams}
    (fits : ∀ old, database.collabMembers.lookup (params.uid, params.objectId) = some old →
      old = params.accessLevel) :
    Additive database
      [.updatePolicy params.uid (.collab params.objectId) (.fromAccessLevel params.accessLevel),
        .commit ((Transaction.begin database).insertCollabMember params.uid params.objectId params.accessLevel)] := by
  have adds := (Transaction.adds_begin database).upsertCollabMember fits
  refine adds.additive [_] [] (by simp [Effect.ChangesPolicy]) (List.forall_mem_nil _) ?_
  simp only [List.append_nil, List.forall_mem_singleton, Effect.rules]
  exact (mem_policies_upsertCollabMember fits).mpr (.inr rfl)

theorem createCollabMember_additive {params : InsertCollabMemberParams} {effects : List Effect}
    (planned : createCollabMember database params = .ok effects) : Additive database effects := by
  rw [createCollabMember] at planned
  obtain ⟨_, _, planned⟩ := bind_eq_ok.mp planned
  obtain ⟨collabExists, _, planned⟩ := bind_eq_ok.mp planned
  cases collabExists with
  | false => cases planned
  | true =>
    cases member : database.collabMembers.lookup (params.uid, params.objectId) with
    | some old =>
      rw [member] at planned
      cases planned
    | none =>
      rw [member] at planned
      cases planned
      refine upsert_additive fun old found => ?_
      rw [member] at found
      cases found

theorem upsertCollabMember_additive {params : UpdateCollabMemberParams} {effects : List Effect}
    (fits : ∀ old, database.collabMembers.lookup (params.uid, params.objectId) = some old →
      old = params.accessLevel)
    (planned : upsertCollabMember database params = .ok effects) : Additive database effects := by
  rw [upsertCollabMember] at planned
  obtain ⟨_, _, planned⟩ := bind_eq_ok.mp planned
  obtain ⟨collabExists, _, planned⟩ := bind_eq_ok.mp planned
  cases collabExists with
  | false => cases planned
  | true =>
    cases planned
    exact upsert_additive fits

theorem deleteCollabMember_additive {params : CollabMemberIdentify} {effects : List Effect}
    (absent : database.collabMembers.lookup (params.uid, params.objectId) = none)
    (planned : deleteCollabMember database params = .ok effects) : Additive database effects := by
  rw [deleteCollabMember] at planned
  obtain ⟨_, _, planned⟩ := bind_eq_ok.mp planned
  cases planned
  have unchanged : (Transaction.begin database).deleteCollabMember params.uid params.objectId = .begin database := by
    rw [Transaction.deleteCollabMember, Transaction.begin, absent]
  rw [unchanged]
  refine (Transaction.adds_begin database).additive [_] [] (by simp [Effect.ChangesPolicy])
    (List.forall_mem_nil _) ?_
  simp [Effect.rules]

theorem additive_nil (database : Database) : Additive database [] :=
  ⟨fun _ member => member, List.forall_mem_nil _, trivial⟩

theorem insertRole_changesPolicy (uid : Int) (workspaceId : Uuid) (role : AFRole) :
    ∀ effect ∈ insertRole uid workspaceId role, effect.ChangesPolicy := by
  simp [insertRole, Effect.ChangesPolicy]

theorem mem_insertRole_rules {uid : Int} {workspaceId : Uuid} {role : AFRole} {effect : Effect} {rule : Rule}
    (member : effect ∈ insertRole uid workspaceId role) (granted : rule ∈ effect.rules) :
    rule = workspaceRule uid workspaceId role ∨ rule = collabRule uid workspaceId.text (.ofRole role) := by
  simp only [insertRole, List.mem_cons, List.not_mem_nil, or_false] at member
  cases member with
  | inl same =>
    obtain rfl := same
    exact .inl (List.mem_singleton.mp granted)
  | inr same =>
    obtain rfl := same
    exact .inr (List.mem_singleton.mp granted)

theorem updateWorkspaceMember_additive {workspaceId : Uuid} {changeset : WorkspaceMemberChangeset}
    {effects : List Effect}
    (held : ∀ role, changeset.role = some role → ∀ uid, database.uidOfEmail changeset.email = some uid →
      database.workspaceMembers.lookup (workspaceId, uid) = some role ∧
        database.collabMembers.lookup (uid, workspaceId.text) = some (.ofRole role))
    (planned : updateWorkspaceMember database workspaceId changeset = .ok effects) : Additive database effects := by
  rw [updateWorkspaceMember] at planned
  cases named : changeset.role with
  | none =>
    rw [named] at planned
    cases planned
    exact additive_nil database
  | some role =>
    rw [named] at planned
    obtain ⟨uid, selected, planned⟩ := bind_eq_ok.mp planned
    cases planned
    rw [Database.selectUidFromEmail] at selected
    split at selected
    · cases selected
    · rename_i user known
      cases selected
      obtain ⟨member, collabMember⟩ := held role named uid known
      -- the update writes the role that is there
      have updated : (Transaction.begin database).upsertWorkspaceMember workspaceId changeset.email role =
          (Transaction.begin database).setWorkspaceMember ⟨uid, role, workspaceId⟩ (some role) .update := by
        simp [Transaction.upsertWorkspaceMember, Transaction.begin, known, member]
      have fits : ∀ old, (Transaction.begin database).database.workspaceMembers.lookup (workspaceId, uid) = some old →
          old = role := fun old found => Option.some.inj (found.symm.trans member)
      rw [updated]
      refine ((Transaction.adds_begin database).setWorkspaceMember (by decide) fits).additive [] _
        (List.forall_mem_nil _) (insertRole_changesPolicy uid workspaceId role) ?_
      intro effect effectMember rule granted
      rw [mem_policies_setWorkspaceMember fits]
      cases mem_insertRole_rules effectMember granted with
      | inl same =>
        obtain rfl := same
        exact .inr rfl
      | inr same =>
        obtain rfl := same
        exact .inl (Database.mem_policies.mpr (.inr ⟨(uid, workspaceId.text), _, collabMember, rfl⟩))

/-- What every turn of a loop that does not fail preserves holds after it. -/
theorem foldlM_invariant {State Item : Type} {turn : State → Item → Except AppError State} {items : List Item}
    {Invariant : State → Prop}
    (preserved : ∀ item ∈ items, ∀ state next, Invariant state → turn state item = .ok next → Invariant next)
    {start last : State} (initial : Invariant start) (ended : items.foldlM turn start = .ok last) :
    Invariant last := by
  induction items generalizing start with
  | nil =>
    cases ended
    exact initial
  | cons item items inductionHypothesis =>
    rw [List.foldlM_cons] at ended
    obtain ⟨next, turned, ended⟩ := bind_eq_ok.mp ended
    exact inductionHypothesis (fun other member => preserved other (.tail _ member))
      (preserved item (.head _) start next initial turned) ended

/-- The loop has deleted no row so far. -/
structure Removing (database : Database) (state : Transaction × List Effect) : Prop where
  txn : state.1 = .begin database
  changes : ∀ effect ∈ state.2, effect.ChangesPolicy
  grants : ∀ effect ∈ state.2, effect.rules = []

theorem Removing.turn {workspaceId : Uuid} {email : String} {state next : Transaction × List Effect}
    (removing : Removing database state)
    (absent : ∀ uid, database.uidOfEmail email = some uid →
      database.workspaceMembers.lookup (workspaceId, uid) = none ∨ database.ownerUid workspaceId = none)
    (turned : removeWorkspaceMember workspaceId state email = .ok next) : Removing database next := by
  rw [removeWorkspaceMember] at turned
  obtain ⟨txn, deleted, turned⟩ := bind_eq_ok.mp turned
  have unchanged : txn = .begin database := by
    rw [removing.txn, Transaction.deleteWorkspaceMembers] at deleted
    split at deleted
    · rename_i uid owner known owned
      have member := (absent uid known).resolve_right fun unowned => nomatch owned.symm.trans unowned
      split at deleted
      · cases deleted
      · rw [show (Transaction.begin database).database.workspaceMembers.lookup (workspaceId, uid) = none from member]
          at deleted
        exact (Except.ok.inj deleted).symm
    · exact (Except.ok.inj deleted).symm
  split at turned
  · rename_i uid selected
    cases turned
    have removal : ∀ effect ∈ removeRole uid workspaceId, effect.ChangesPolicy ∧ effect.rules = [] := by
      simp [removeRole, Effect.ChangesPolicy, Effect.rules]
    refine ⟨unchanged, fun effect member => ?_, fun effect member => ?_⟩
    · exact (List.mem_append.mp member).elim (removing.changes effect) fun new => (removal effect new).1
    · exact (List.mem_append.mp member).elim (removing.grants effect) fun new => (removal effect new).2
  · cases turned
    exact ⟨unchanged, removing.changes, removing.grants⟩

theorem removeWorkspaceMembers_additive {workspaceId : Uuid} {memberEmails : List String} {effects : List Effect}
    (absent : ∀ email ∈ memberEmails, ∀ uid, database.uidOfEmail email = some uid →
      database.workspaceMembers.lookup (workspaceId, uid) = none ∨ database.ownerUid workspaceId = none)
    (planned : removeWorkspaceMembers database workspaceId memberEmails = .ok effects) :
    Additive database effects := by
  rw [removeWorkspaceMembers] at planned
  obtain ⟨⟨txn, removals⟩, looped, planned⟩ := bind_eq_ok.mp planned
  cases planned
  have removing : Removing database (txn, removals) :=
    foldlM_invariant (fun email member _ _ removing turned => removing.turn (absent email member) turned)
      ⟨rfl, List.forall_mem_nil _, List.forall_mem_nil _⟩ looped
  obtain rfl : txn = .begin database := removing.txn
  refine (Transaction.adds_begin database).additive removals [] removing.changes (List.forall_mem_nil _) ?_
  intro effect member rule granted
  rw [List.append_nil] at member
  rw [removing.grants effect member] at granted
  cases granted

/-- What the insert leaves when the row that may be there has the same role. -/
theorem upsertWorkspaceMember_spec {txn : Transaction} {workspaceId : Uuid} {email : String} {uid : Int}
    {role : AFRole} (adds : txn.Adds database) (known : txn.database.uidOfEmail email = some uid)
    (fits : ∀ old, txn.database.workspaceMembers.lookup (workspaceId, uid) = some old → old = role) :
    let next := txn.upsertWorkspaceMemberWithTxn workspaceId email role
    next.Adds database ∧ (∀ rule, rule ∈ next.database.policies ↔
        rule ∈ txn.database.policies ∨ rule = workspaceRule uid workspaceId role) ∧
      next.database.collabMembers = txn.database.collabMembers ∧
      ∀ member old, next.database.workspaceMembers.lookup member = some old →
        member = (workspaceId, uid) ∧ old = role ∨ txn.database.workspaceMembers.lookup member = some old := by
  have inserts : txn.upsertWorkspaceMemberWithTxn workspaceId email role =
      if (workspaceId, uid) ∈ txn.database.workspaceMembers then txn
      else txn.setWorkspaceMember ⟨uid, role, workspaceId⟩ none .insert := by
    rw [Transaction.upsertWorkspaceMemberWithTxn, known]
  rw [inserts]
  split
  · rename_i present
    obtain ⟨old, found⟩ := Option.isSome_iff_exists.mp (AList.lookup_isSome.mpr present)
    obtain rfl := fits old found
    have held : workspaceRule uid workspaceId old ∈ txn.database.policies :=
      Database.mem_policies.mpr (.inl ⟨_, old, found, rfl⟩)
    refine ⟨adds, fun rule => ⟨.inl, ?_⟩, rfl, fun _ _ => .inr⟩
    rintro (member | rfl)
    · exact member
    · exact held
  · refine ⟨adds.setWorkspaceMember (by decide) fits, fun rule => mem_policies_setWorkspaceMember fits, rfl, ?_⟩
    intro member old found
    by_cases same : member = (workspaceId, uid)
    · subst same
      exact .inl ⟨rfl, (Option.some.inj ((AList.lookup_insert _).symm.trans found)).symm⟩
    · exact .inr ((AList.lookup_insert_ne same).symm.trans found)

/-- The loop has added rows only, and the rows of all members still fit. -/
structure Adding (database : Database) (workspaceId : Uuid) (members : List CreateWorkspaceMember)
    (state : Transaction × AList fun _ : Int => AFRole) : Prop where
  adds : state.1.Adds database
  fits : ∀ member ∈ members, ∀ uid, database.uidOfEmail member.email = some uid →
    Fits state.1.database workspaceId uid member.role
  granted : ∀ uid role, state.2.lookup uid = some role →
    workspaceRule uid workspaceId role ∈ state.1.database.policies ∧
      collabRule uid workspaceId.text (.ofRole role) ∈ state.1.database.policies

theorem Adding.turn {workspaceId : Uuid} {members : List CreateWorkspaceMember} {member : CreateWorkspaceMember}
    {state next : Transaction × AList fun _ : Int => AFRole} (adding : Adding database workspaceId members state)
    (listed : member ∈ members)
    (alike : ∀ uid, database.uidOfEmail member.email = some uid → ∀ other ∈ members,
      database.uidOfEmail other.email = some uid → other.role = member.role)
    (turned : addWorkspaceMember workspaceId state member = .ok next) : Adding database workspaceId members next := by
  obtain ⟨adds, fits, granted⟩ := adding
  rw [addWorkspaceMember] at turned
  obtain ⟨uid, selected, turned⟩ := bind_eq_ok.mp turned
  cases turned
  have known : state.1.database.uidOfEmail member.email = some uid := by
    rw [Database.selectUidFromEmail] at selected
    split at selected
    · cases selected
    · rename_i user found
      rw [found, Except.ok.inj selected]
  have user : database.uidOfEmail member.email = some uid := adds.users ▸ known
  have own := fits member listed uid user
  obtain ⟨inserted, rows, collabMembers, lookups⟩ := upsertWorkspaceMember_spec adds known own.workspaceMember
  have collabFits : ∀ old, (state.1.upsertWorkspaceMemberWithTxn workspaceId member.email
      member.role).database.collabMembers.lookup (uid, workspaceId.text) = some old → old = .ofRole member.role := by
    rw [collabMembers]
    exact own.collabMember
  have collabRows : ∀ rule, _ ↔ _ ∨ rule = _ := fun rule => mem_policies_upsertCollabMember collabFits
  refine ⟨inserted.upsertCollabMember collabFits, ?_, ?_⟩
  · intro other otherListed otherUid otherUser
    have otherOwn := fits other otherListed otherUid otherUser
    constructor
    · intro old found
      cases lookups _ old found with
      | inl held =>
        obtain ⟨same, rfl⟩ := held
        -- another entry for the same user has the same role
        cases same
        exact (alike uid user other otherListed otherUser).symm
      | inr before => exact otherOwn.workspaceMember old before
    · intro old found
      by_cases same : otherUid = uid
      · subst same
        rw [alike otherUid user other otherListed otherUser]
        exact (Option.some.inj ((AList.lookup_insert _).symm.trans found)).symm
      · have differ : (otherUid, workspaceId.text) ≠ (uid, workspaceId.text) :=
          fun pairs => same (congrArg Prod.fst pairs)
        have before := (AList.lookup_insert_ne differ).symm.trans found
        rw [collabMembers] at before
        exact otherOwn.collabMember old before
  · intro otherUid role inserted
    by_cases same : otherUid = uid
    · subst same
      obtain rfl : member.role = role := Option.some.inj ((AList.lookup_insert _).symm.trans inserted)
      exact ⟨(collabRows _).mpr (.inl ((rows _).mpr (.inr rfl))), (collabRows _).mpr (.inr rfl)⟩
    · obtain ⟨workspace, collab⟩ := granted otherUid role ((AList.lookup_insert_ne same).symm.trans inserted)
      exact ⟨(collabRows _).mpr (.inl ((rows _).mpr (.inl workspace))),
        (collabRows _).mpr (.inl ((rows _).mpr (.inl collab)))⟩

theorem addWorkspaceMembers_additive {workspaceId : Uuid} {members : List CreateWorkspaceMember} {order : List Int}
    {effects : List Effect}
    (fits : ∀ member ∈ members, ∀ uid, database.uidOfEmail member.email = some uid →
      Fits database workspaceId uid member.role ∧
        ∀ other ∈ members, database.uidOfEmail other.email = some uid → other.role = member.role)
    (planned : addWorkspaceMembers database workspaceId members order = .ok effects) : Additive database effects := by
  rw [addWorkspaceMembers] at planned
  obtain ⟨⟨txn, roleByUid⟩, looped, planned⟩ := bind_eq_ok.mp planned
  cases planned
  have initial : Adding database workspaceId members (.begin database, ∅) :=
    ⟨Transaction.adds_begin database, fun member listed uid user => (fits member listed uid user).1,
      fun _ _ absent => by simp at absent⟩
  obtain ⟨adds, _, granted⟩ : Adding database workspaceId members (txn, roleByUid) :=
    foldlM_invariant (fun member listed _ _ adding turned =>
      adding.turn listed (fun uid user => (fits member listed uid user).2) turned) initial looped
  refine adds.additive _ [] ?_ (List.forall_mem_nil _) ?_
  · intro effect member
    obtain ⟨entry, _, inserts⟩ := List.mem_flatMap.mp member
    exact insertRole_changesPolicy _ _ _ effect inserts
  · intro effect member rule grants
    rw [List.append_nil] at member
    obtain ⟨entry, listed, inserts⟩ := List.mem_flatMap.mp member
    obtain ⟨workspace, collab⟩ := granted entry.1 entry.2 (AList.mem_lookup_iff.mpr (mem_visited.mp listed))
    cases mem_insertRole_rules inserts grants with
    | inl same =>
      obtain rfl := same
      exact workspace
    | inr same =>
      obtain rfl := same
      exact collab

theorem MemberOperation.OnlyAdds.additive {operation : MemberOperation} {effects : List Effect}
    (onlyAdds : operation.OnlyAdds database) (planned : operation.effects database = .ok effects) :
    Additive database effects := by
  cases operation with
  | addWorkspaceMembers workspaceId members order => exact addWorkspaceMembers_additive onlyAdds planned
  | updateWorkspaceMember workspaceId changeset => exact updateWorkspaceMember_additive onlyAdds planned
  | removeWorkspaceMembers workspaceId memberEmails => exact removeWorkspaceMembers_additive onlyAdds planned
  | createCollabMember params => exact createCollabMember_additive planned
  | upsertCollabMember params => exact upsertCollabMember_additive onlyAdds planned
  | deleteCollabMember params => exact deleteCollabMember_additive onlyAdds planned

/-! ## Runs of the server -/

/-- An operation that begins only adds rows. -/
def BeginsOnlyAdding (service : MemberService) : MemberEvent → Prop
  | .operation operation => service.underWay = [] → operation.OnlyAdds service.database
  | _ => True

/-- In a run whose operations only add rows the server decides as a restarted one would,
    whenever no operation is under way and every announcement has been dealt with. -/
theorem settled_agrees (enableAccessControl : Bool) (database : Database) (events : List MemberEvent)
    (onlyAdds : Always (MemberService.step enableAccessControl) BeginsOnlyAdding (.start database) events)
    (settled : (run (MemberService.step enableAccessControl) (.start database) events).Settled) :
    (run (MemberService.step enableAccessControl) (.start database) events).Agrees enableAccessControl := by
  cases enableAccessControl with
  | false => exact fun _ _ _ _ => rfl
  | true =>
    have preserved : ∀ service event, Coherent service → BeginsOnlyAdding service event →
        Coherent (service.step true event) := by
      intro service event coherent adds
      refine coherent.step event fun operation effects begins idle planned => ?_
      subst begins
      exact (adds idle).additive planned
    exact Coherent.agrees (onlyAdds.invariant preserved (coherent_start database)) settled

/-- One collab, and user 1 may be a member of it. -/
def oneCollab (collabMembers : AList fun _ : Int × String => AFAccessLevel) : Database where
  uidOfEmail := fun _ => none
  ownerUid := fun _ => none
  collabs := fun objectId => if objectId = "doc" then some ⟨[1], 0, 2, 0, false⟩ else none
  workspaceMembers := ∅
  collabMembers := collabMembers

theorem settled_agrees_create :
    (run (MemberService.step true) (.start (oneCollab ∅))
      [.operation (.createCollabMember ⟨1, "w", "doc", .readOnly⟩), .proceed, .proceed, .collabChange]).Agrees true :=
  settled_agrees true (oneCollab ∅) _ ⟨fun _ => trivial, trivial, trivial, trivial, trivial⟩ ⟨rfl, rfl, rfl⟩

/-- A member who is deleted keeps the access until the next restart. -/
theorem deleted_member_disagrees :
    ¬ ∀ (database : Database) (events : List MemberEvent),
      (run (MemberService.step true) (.start database) events).Settled →
        (run (MemberService.step true) (.start database) events).Agrees true := by
  intro agrees
  have agreement := agrees (oneCollab (AList.singleton (1, "doc") .fullAccess))
    [.operation (.deleteCollabMember ⟨1, "w", "doc"⟩), .proceed, .proceed, .collabChange] ⟨rfl, rfl, rfl⟩
    "w" 1 (.collab "doc") (.fromAccessLevel .fullAccess)
  revert agreement
  decide +kernel

end FlowCloud.Workspace
