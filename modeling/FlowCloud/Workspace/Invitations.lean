import FlowCloud.Account.SignUp
import FlowCloud.Foundation.Transactions
import FlowCloud.Storage.Bucket
import FlowCloud.Workspace.Agreement

/-! # Invitations

An owner invites email addresses into a workspace, and whoever has the address accepts.  The
rows of the invitations are written in transactions; the role is inserted into the policies
beside the transaction that accepts, for whoever has the invited address by then.
-/

namespace FlowCloud.Workspace

open FlowCloud.Foundation FlowCloud.Entity FlowCloud.Casbin FlowCloud.Storage FlowCloud.Account

/-! ## Rows and calls -/

inductive AFWorkspaceInvitationStatus where
  | pending
  | accepted
  | rejected
  deriving DecidableEq, Repr

/-- A row of `af_workspace_invitation`, without its id. -/
structure AFWorkspaceInvitation where
  workspaceId : Uuid
  inviter : Int
  inviteeEmail : String
  role : AFRole
  status : AFWorkspaceInvitationStatus
  deriving DecidableEq, Repr

structure WorkspaceMemberInvitation where
  email : String
  role : AFRole
  deriving DecidableEq, Repr

inductive AcceptPhase where
  | updates
  | reads
  /-- `insert_role` inserts the role and then the access level. -/
  | insertsRole (invitedUid : Int) (invitation : AFWorkspaceInvitation)
  | insertsLevel (invitedUid : Int) (invitation : AFWorkspaceInvitation)
  | commits

/-- `invite_workspace_members` with the invitations that are left, or `accept_workspace_invite`. -/
inductive InvitationTask where
  | invite (inviter : Uuid) (workspaceId : Uuid) (left : List WorkspaceMemberInvitation)
  | accept (userUuid : Uuid) (inviteId : Uuid) (phase : AcceptPhase)

structure InvitationService where
  users : List AfUser
  invitations : TransactionalStore Uuid AFWorkspaceInvitation
  accessControl : AccessControl
  tasks : Nat → Option InvitationTask

inductive InvitationEvent where
  | signUp (user : AfUser)
  | updateUser (uuid : Uuid) (email : String)
  /-- Another operation inserts a role into the policies. -/
  | insertRole (uid : Int) (workspaceId : Uuid) (role : AFRole)
  | invite (task : Nat) (inviter : Uuid) (workspaceId : Uuid) (invitations : List WorkspaceMemberInvitation)
  | accept (task : Nat) (userUuid : Uuid) (inviteId : Uuid)
  /-- A task goes on.  The id is for a row that it may insert. -/
  | advance (task : Nat) (newId : Uuid) (outcome : Outcome)
  | drop (task : Nat)

namespace InvitationService

/-- A server that has just loaded its policies. -/
def start (policies : RuleTable Rule) (users : List AfUser) (invitations : Uuid → Option AFWorkspaceInvitation) :
    InvitationService where
  users := users
  invitations := .settled invitations
  accessControl := ⟨AFEnforcer.new policies noEnforceGroup, [], true⟩
  tasks := fun _ => none

section Operations

variable (enableAccessControl : Bool) (self : InvitationService) (task : Nat)

def uidOf (uuid : Uuid) : Option Int := (self.users.find? (·.uuid = uuid)).map (·.uid)

def emailOf (uuid : Uuid) : Option String := (self.users.find? (·.uuid = uuid)).map (·.email)

def uidOfEmail (email : String) : Option Int := (self.users.find? (·.email = email)).map (·.uid)

/-- The call returns, and its transaction is rolled back. -/
def leave : InvitationService :=
  { self with invitations := self.invitations.rollback task, tasks := Function.update self.tasks task none }

def setTask (next : InvitationTask) : InvitationService :=
  { self with tasks := Function.update self.tasks task (some next) }

def commit : Outcome → InvitationService
  | .done | .unconfirmed =>
    { self with invitations := self.invitations.commit task, tasks := Function.update self.tasks task none }
  | .failed => self.leave task

/-- The middleware lets only an owner invite. -/
def invite (inviter workspaceId : Uuid) (invitations : List WorkspaceMemberInvitation) : InvitationService :=
  match self.uidOf inviter with
  | none => self
  | some uid =>
    if self.accessControl.enforce enableAccessControl workspaceId.text uid (.workspace workspaceId.text)
        (.fromRole .owner) = .ok true then
      self.setTask task (.invite inviter workspaceId invitations)
    else self

/-- A turn of the loop, with the invitation by mail and the row, or the commit behind the loop. -/
def goOnInviting (newId : Uuid) (inviter workspaceId : Uuid) :
    List WorkspaceMemberInvitation → Outcome → InvitationService
  | [], outcome => self.commit task outcome
  | _ :: _, .failed | _ :: _, .unconfirmed => self.leave task
  | invitation :: left, .done =>
    match self.uidOf inviter with
    | none => self.leave task
    | some uid =>
      if self.invitations.committed newId = none ∧ self.invitations.uncommitted newId = none then
        { self.setTask task (.invite inviter workspaceId left) with
          invitations := self.invitations.write task newId ⟨workspaceId, uid, invitation.email, invitation.role, .pending⟩ }
      else self.leave task

/-- `update_workspace_invitation_set_status_accepted`, which waits while another transaction has
    written the row. -/
def setStatusAccepted (userUuid inviteId : Uuid) : InvitationService :=
  if self.invitations.free task inviteId then
    match self.invitations.view task inviteId with
    | none => self.leave task
    | some invitation =>
      if self.emailOf userUuid = some invitation.inviteeEmail then
        { self.setTask task (.accept userUuid inviteId .reads) with
          invitations := self.invitations.write task inviteId { invitation with status := .accepted } }
      else self.leave task
  else self

/-- `get_invitation_by_id`, with the user who has the address now. -/
def getInvitationById (userUuid inviteId : Uuid) : InvitationService :=
  match self.invitations.view task inviteId with
  | none => self.leave task
  | some invitation =>
    match self.uidOfEmail invitation.inviteeEmail with
    | none => self.leave task
    | some invitedUid => self.setTask task (.accept userUuid inviteId (.insertsRole invitedUid invitation))

/-- One of the two updates of `insert_role`. -/
def updatePolicy (uid : Int) (object : ObjectType) (action : ActionVariant) (next : InvitationTask) :
    InvitationService :=
  match self.accessControl.updatePolicy enableAccessControl uid object action with
  | (.ok (), accessControl) => { self.setTask task next with accessControl }
  | (.error _, accessControl) => { self.leave task with accessControl }

def goOnAccepting (userUuid inviteId : Uuid) : AcceptPhase → Outcome → InvitationService
  | .commits, outcome => self.commit task outcome
  | .insertsRole uid invitation, _ =>
    self.updatePolicy enableAccessControl task uid (.workspace invitation.workspaceId.text) (.fromRole invitation.role)
      (.accept userUuid inviteId (.insertsLevel uid invitation))
  | .insertsLevel uid invitation, _ =>
    self.updatePolicy enableAccessControl task uid (.collab invitation.workspaceId.text)
      (.fromAccessLevel (.ofRole invitation.role)) (.accept userUuid inviteId .commits)
  | .updates, .done => self.setStatusAccepted task userUuid inviteId
  | .reads, .done => self.getInvitationById task userUuid inviteId
  | .updates, _ | .reads, _ => self.leave task

end Operations

/-- No two users have an id or an address in common. -/
def step (enableAccessControl : Bool) (self : InvitationService) : InvitationEvent → InvitationService
  | .signUp user =>
    if self.users.any fun other => other.uuid = user.uuid || other.uid = user.uid || other.email = user.email then self
    else { self with users := self.users ++ [user] }
  | .updateUser uuid email =>
    if self.users.any (·.email = email) then self
    else { self with users := self.users.map fun user => if user.uuid = uuid then { user with email } else user }
  | .insertRole uid workspaceId role =>
    { self with accessControl := (self.accessControl.insertRole enableAccessControl uid workspaceId.text role).2 }
  | .invite task inviter workspaceId invitations =>
    if self.tasks task = none then self.invite enableAccessControl task inviter workspaceId invitations else self
  | .accept task userUuid inviteId =>
    if self.tasks task = none then self.setTask task (.accept userUuid inviteId .updates) else self
  | .advance task newId outcome =>
    match self.tasks task with
    | none => self
    | some (.invite inviter workspaceId left) => self.goOnInviting task newId inviter workspaceId left outcome
    | some (.accept userUuid inviteId phase) =>
      self.goOnAccepting enableAccessControl task userUuid inviteId phase outcome
  | .drop task => self.leave task

end InvitationService

/-! ## Where roles come from -/

/-- The user has had this row at some time. -/
def Seen (initial : InvitationService) (events : List InvitationEvent) (user : AfUser) : Prop :=
  ∃ earlier, earlier <+: events ∧ user ∈ (run (InvitationService.step true) initial earlier).users

/-- Someone with the address has accepted an invitation, and the user has had the address. -/
structure Accepted (initial : InvitationService) (events : List InvitationEvent) (email : String) (uid : Int) : Prop where
  acceptor : ∃ user task inviteId, Seen initial events user ∧ user.email = email ∧
    InvitationEvent.accept task user.uuid inviteId ∈ events
  invitee : ∃ user, Seen initial events user ∧ user.email = email ∧ user.uid = uid

/-- The role or level of a user in a workspace was there at the beginning, has been inserted by
    another operation, or comes from an accepted invitation, which an owner has sent. -/
inductive Entitled (initial : InvitationService) (events : List InvitationEvent) (workspaceId : Uuid) :
    Int → String → Prop where
  | held {uid : Int} {code : String}
      (row : policyRule uid (.workspace workspaceId.text) code ∈ policies initial.accessControl) :
      Entitled initial events workspaceId uid code
  | inserted {uid : Int} {role : AFRole} (inserted : .insertRole uid workspaceId role ∈ events) :
      Entitled initial events workspaceId uid (roleAction role)
  | invitedBefore {inviteId : Uuid} {invitation : AFWorkspaceInvitation} {uid : Int}
      (row : initial.invitations.committed inviteId = some invitation) (named : invitation.workspaceId = workspaceId)
      (accepted : Accepted initial events invitation.inviteeEmail uid) :
      Entitled initial events workspaceId uid (roleAction invitation.role)
  | invited {sender : AfUser} {task : Nat} {invitations : List WorkspaceMemberInvitation}
      {invitation : WorkspaceMemberInvitation} {uid : Int}
      (owner : Entitled initial events workspaceId sender.uid (roleAction .owner)) (seen : Seen initial events sender)
      (sent : .invite task sender.uuid workspaceId invitations ∈ events) (asked : invitation ∈ invitations)
      (accepted : Accepted initial events invitation.email uid) :
      Entitled initial events workspaceId uid (roleAction invitation.role)

section Derived

variable {initial service : InvitationService} {events : List InvitationEvent}

/-- An owner has sent the invitation, or it was there at the beginning. -/
def Offered (initial : InvitationService) (events : List InvitationEvent) (row : AFWorkspaceInvitation) : Prop :=
  (∃ inviteId old, initial.invitations.committed inviteId = some old ∧ old.workspaceId = row.workspaceId ∧
    old.inviteeEmail = row.inviteeEmail ∧ old.role = row.role) ∨
  ∃ sender task invitations, Entitled initial events row.workspaceId sender.uid (roleAction .owner) ∧
    Seen initial events sender ∧ .invite task sender.uuid row.workspaceId invitations ∈ events ∧
    ⟨row.inviteeEmail, row.role⟩ ∈ invitations

theorem Offered.entitled {row : AFWorkspaceInvitation} (offered : Offered initial events row) {uid : Int}
    (accepted : Accepted initial events row.inviteeEmail uid) :
    Entitled initial events row.workspaceId uid (roleAction row.role) := by
  rcases offered with ⟨inviteId, old, found, named, email, role⟩ | ⟨sender, task, invitations, owner, seen, sent, asked⟩
  · rw [← role]
    exact .invitedBefore found named (email ▸ accepted)
  · exact .invited owner seen sent asked accepted

/-- The rows of the policies. -/
def RolesDerived (initial : InvitationService) (events : List InvitationEvent) (accessControl : AccessControl) : Prop :=
  accessControl.enforcer.enforceGroup = noEnforceGroup ∧
    ∀ (workspaceId : Uuid) uid code, policyRule uid (.workspace workspaceId.text) code ∈ policies accessControl →
      Entitled initial events workspaceId uid code

def TaskDerived (initial : InvitationService) (events : List InvitationEvent)
    (store : TransactionalStore Uuid AFWorkspaceInvitation) (number : Nat) : InvitationTask → Prop
  | .invite inviter workspaceId left => ∃ sender task invitations, sender.uuid = inviter ∧
      Entitled initial events workspaceId sender.uid (roleAction .owner) ∧ Seen initial events sender ∧
      .invite task inviter workspaceId invitations ∈ events ∧ left ⊆ invitations
  | .accept userUuid inviteId phase => (∃ task, .accept task userUuid inviteId ∈ events) ∧
      match phase with
      | .updates | .insertsLevel _ _ | .commits => True
      | .reads => ∃ row acceptor, store.uncommitted inviteId = some ⟨number, row⟩ ∧ Seen initial events acceptor ∧
          acceptor.uuid = userUuid ∧ acceptor.email = row.inviteeEmail
      | .insertsRole uid row => Entitled initial events row.workspaceId uid (roleAction row.role)

structure Traceable (initial : InvitationService) (events : List InvitationEvent)
    (service : InvitationService) : Prop where
  roles : RolesDerived initial events service.accessControl
  rows : service.invitations.Each (Offered initial events)
  tasks : ∀ number task, service.tasks number = some task →
    TaskDerived initial events service.invitations number task

/-! ## Policies -/

theorem enforcePolicy_workspace {enforcer : AFEnforcer} (ungrouped : enforcer.enforceGroup = noEnforceGroup)
    {supplied workspaceId : String} {uid : Int} {action : ActionVariant}
    (granted : enforcer.enforcePolicy supplied uid (.workspace workspaceId) action = .ok true) :
    enforcer.enforcer.Grants uid (.workspace workspaceId) action := by
  rw [← enforce_policyRequest]
  have same : workspacePolicyRequest supplied uid (.workspace workspaceId) action =
      policyRequest uid (.workspace workspaceId) action := rfl
  simp only [AFEnforcer.enforcePolicy, same, ungrouped, noEnforceGroup] at granted
  cases decided : enforcer.enforcer.enforce (policyRequest uid (.workspace workspaceId) action) with
  | true => rfl
  | false =>
    rw [decided] at granted
    cases granted

/-- Whoever is allowed an action has a role or level that covers it. -/
theorem RolesDerived.entitled {accessControl : AccessControl} (derived : RolesDerived initial events accessControl)
    {workspaceId : Uuid} {uid : Int} {action : ActionVariant}
    (allowed : accessControl.enforce true workspaceId.text uid (.workspace workspaceId.text) action = .ok true) :
    ∃ code, Entitled initial events workspaceId uid code ∧
      (code = action.toAction ∨ (code, action.toAction) ∈ groupPolicies) := by
  obtain ⟨rule, member, subject, object, covers⟩ := enforcePolicy_workspace derived.1 allowed
  refine ⟨rule.action, derived.2 workspaceId uid rule.action ?_, (g_groupPolicies accessControl.enforcer.loaded _ _).mp covers⟩
  have same : policyRule uid (.workspace workspaceId.text) rule.action = rule := by
    apply Vector.ext
    intro index bound
    match index, bound with
    | 0, _ => exact subject.symm
    | 1, _ => exact object.symm
    | 2, _ => rfl
  rw [same]
  exact member

/-- No grouping leads to the code of an owner. -/
theorem RolesDerived.owner {accessControl : AccessControl} (derived : RolesDerived initial events accessControl)
    {workspaceId : Uuid} {uid : Int}
    (allowed : accessControl.enforce true workspaceId.text uid (.workspace workspaceId.text) (.fromRole .owner) =
      .ok true) : Entitled initial events workspaceId uid (roleAction .owner) := by
  obtain ⟨code, entitled, same | grouped⟩ := derived.entitled allowed
  · subst same
    exact entitled
  · have leaf : ∀ row ∈ groupPolicies, row.2 ≠ roleAction .owner := by decide
    exact absurd rfl (leaf _ grouped)

theorem RolesDerived.updatePolicy {accessControl : AccessControl} (derived : RolesDerived initial events accessControl)
    {uid : Int} {object : ObjectType} {action : ActionVariant}
    (entitled : ∀ workspaceId : Uuid, object = .workspace workspaceId.text →
      Entitled initial events workspaceId uid action.toAction) :
    RolesDerived initial events (accessControl.updatePolicy true uid object action).2 := by
  refine ⟨(updatePolicy_enforceGroup true accessControl uid object action).trans derived.1, ?_⟩
  intro workspaceId other code member
  cases mem_of_updatePolicy member with
  | inl before => exact derived.2 workspaceId other code before
  | inr same =>
    have pair : IsPairRule uid object (policyRule other (.workspace workspaceId.text) code) := by
      rw [same]
      exact ⟨rfl, rfl⟩
    obtain ⟨rfl, objects⟩ := isPairRule_policyRule.mp pair
    have codes : code = action.toAction := congrArg Rule.action same
    rw [codes]
    exact entitled workspaceId objects.symm

theorem RolesDerived.insertRole {accessControl : AccessControl} (derived : RolesDerived initial events accessControl)
    {uid : Int} {workspaceId : Uuid} {role : AFRole}
    (entitled : Entitled initial events workspaceId uid (roleAction role)) :
    RolesDerived initial events (accessControl.insertRole true uid workspaceId.text role).2 := by
  have workspace : RolesDerived initial events
      (accessControl.updatePolicy true uid (.workspace workspaceId.text) (.fromRole role)).2 := by
    apply derived.updatePolicy
    intro other same
    cases Uuid.text_injective (ObjectType.workspace.inj same)
    exact entitled
  rw [AccessControl.insertRole]
  split
  · rename_i next updated
    rw [updated] at workspace
    exact workspace.updatePolicy (by simp)
  · exact workspace

/-! ## Tasks -/

theorem TaskDerived.keeps {store next : TransactionalStore Uuid AFWorkspaceInvitation} {number : Nat}
    {task : InvitationTask} (derived : TaskDerived initial events store number task)
    (keeps : TransactionalStore.Keeps number store next) : TaskDerived initial events next number task := by
  cases task with
  | invite => exact derived
  | accept userUuid inviteId phase =>
    refine ⟨derived.1, ?_⟩
    cases phase with
    | reads =>
      obtain ⟨row, acceptor, written, rest⟩ := derived.2
      exact ⟨row, acceptor, keeps.own inviteId row written, rest⟩
    | updates | insertsRole | insertsLevel | commits => exact derived.2

/-- One task goes on or returns, and leaves the versions of the others alone. -/
theorem Traceable.moves (derived : Traceable initial events service) {next : InvitationService}
    {number : Nat} {task : Option InvitationTask} (roles : RolesDerived initial events next.accessControl)
    (rows : next.invitations.Each (Offered initial events))
    (tasks : next.tasks = Function.update service.tasks number task)
    (own : ∀ own, task = some own → TaskDerived initial events next.invitations number own)
    (keeps : ∀ other, other ≠ number → TransactionalStore.Keeps other service.invitations next.invitations) :
    Traceable initial events next := by
  refine ⟨roles, rows, ?_⟩
  intro other running runs
  rw [tasks] at runs
  by_cases same : other = number
  · subst same
    rw [Function.update_self] at runs
    exact own running runs
  · rw [Function.update_of_ne same] at runs
    exact (derived.tasks other running runs).keeps (keeps other same)

namespace Traceable

variable {task : Nat} {inviter workspaceId userUuid inviteId : Uuid}

theorem leave (derived : Traceable initial events service) (number : Nat) : Traceable initial events (service.leave number) :=
  derived.moves derived.roles (derived.rows.rollback number) rfl (by simp)
    fun _ other => TransactionalStore.keeps_rollback other

theorem commit (derived : Traceable initial events service) (number : Nat) (outcome : Outcome) :
    Traceable initial events (service.commit number outcome) := by
  have committed : Traceable initial events { service with
      invitations := service.invitations.commit number
      tasks := Function.update service.tasks number none } :=
    derived.moves derived.roles (derived.rows.commit number) rfl (by simp)
      fun _ other => TransactionalStore.keeps_commit other
  cases outcome with
  | done | unconfirmed => exact committed
  | failed => exact derived.leave number

theorem setTask (derived : Traceable initial events service) {next : InvitationTask}
    (own : TaskDerived initial events service.invitations task next) :
    Traceable initial events (service.setTask task next) := by
  refine derived.moves derived.roles derived.rows rfl ?_ fun _ _ => .refl _ _
  rintro _ ⟨⟩
  exact own

theorem goOnInviting (derived : Traceable initial events service) {left : List WorkspaceMemberInvitation}
    (own : TaskDerived initial events service.invitations task (.invite inviter workspaceId left)) (newId : Uuid)
    (outcome : Outcome) : Traceable initial events (service.goOnInviting task newId inviter workspaceId left outcome) := by
  cases left with
  | nil => exact derived.commit task outcome
  | cons invitation left =>
    cases outcome with
    | failed | unconfirmed => exact derived.leave task
    | done =>
      simp only [InvitationService.goOnInviting]
      split
      · exact derived.leave task
      · split
        · rename_i uid _ fresh
          obtain ⟨sender, number, invitations, rfl, owner, seen, sent, rest⟩ := own
          rw [List.cons_subset] at rest
          have offered : Offered initial events
              ⟨workspaceId, uid, invitation.email, invitation.role, .pending⟩ :=
            .inr ⟨sender, number, invitations, owner, seen, sent, rest.1⟩
          have free : service.invitations.free task newId = true := by
            rw [TransactionalStore.free, fresh.2]
            rfl
          refine derived.moves derived.roles (derived.rows.write task newId offered) rfl ?_
            fun _ other => TransactionalStore.keeps_write free other
          rintro _ ⟨⟩
          exact ⟨sender, number, invitations, rfl, owner, seen, sent, rest.2⟩
        · exact derived.leave task

/-- The acceptor has the address that the row names. -/
theorem setStatusAccepted (derived : Traceable initial events service)
    (own : TaskDerived initial events service.invitations task (.accept userUuid inviteId .updates))
    (seen : ∀ user ∈ service.users, Seen initial events user) :
    Traceable initial events (service.setStatusAccepted task userUuid inviteId) := by
  unfold InvitationService.setStatusAccepted
  split
  · rename_i free
    split
    · exact derived.leave task
    · rename_i invitation found
      split
      · rename_i named
        obtain ⟨acceptor, same, email⟩ := Option.map_eq_some_iff.mp named
        have member := seen acceptor (List.mem_of_find?_eq_some same)
        have uuid : acceptor.uuid = userUuid := by simpa using List.find?_some same
        have before : Offered initial events invitation := derived.rows.view found
        have offered : Offered initial events { invitation with status := .accepted } := before
        refine derived.moves derived.roles (derived.rows.write task inviteId offered) rfl ?_
          fun _ other => TransactionalStore.keeps_write free other
        rintro _ ⟨⟩
        refine ⟨own.1, { invitation with status := .accepted }, acceptor, ?_, member, uuid, email⟩
        exact TransactionalStore.uncommitted_write.mpr (.inl ⟨rfl, rfl⟩)
      · exact derived.leave task
  · exact derived

/-- Whoever is looked up now has the address. -/
theorem getInvitationById (derived : Traceable initial events service)
    (own : TaskDerived initial events service.invitations task (.accept userUuid inviteId .reads))
    (seen : ∀ user ∈ service.users, Seen initial events user) :
    Traceable initial events (service.getInvitationById task userUuid inviteId) := by
  obtain ⟨⟨number, sent⟩, row, acceptor, written, seenAcceptor, rfl, email⟩ := own
  have found := TransactionalStore.view_own written
  simp only [InvitationService.getInvitationById, found]
  split
  · exact derived.leave task
  · rename_i uid there
    obtain ⟨invitee, same, rfl⟩ := Option.map_eq_some_iff.mp there
    have named : invitee.email = row.inviteeEmail := by simpa using List.find?_some same
    have accepted : Accepted initial events row.inviteeEmail invitee.uid :=
      ⟨⟨acceptor, number, inviteId, seenAcceptor, email, sent⟩,
        ⟨invitee, seen invitee (List.mem_of_find?_eq_some same), named, rfl⟩⟩
    have offered : Offered initial events row := derived.rows.uncommitted inviteId _ written
    exact derived.setTask ⟨⟨number, sent⟩, offered.entitled accepted⟩

theorem updatePolicy (derived : Traceable initial events service) {uid : Int} {object : ObjectType}
    {action : ActionVariant} {next : InvitationTask}
    (entitled : ∀ workspaceId : Uuid, object = .workspace workspaceId.text →
      Entitled initial events workspaceId uid action.toAction)
    (own : TaskDerived initial events service.invitations task next) :
    Traceable initial events (service.updatePolicy true task uid object action next) := by
  have roles := derived.roles.updatePolicy entitled
  unfold InvitationService.updatePolicy
  split
  · rename_i accessControl updated
    rw [updated] at roles
    exact ⟨roles, (derived.setTask own).rows, (derived.setTask own).tasks⟩
  · rename_i accessControl updated
    rw [updated] at roles
    exact ⟨roles, (derived.leave task).rows, (derived.leave task).tasks⟩

theorem goOnAccepting (derived : Traceable initial events service) {phase : AcceptPhase}
    (own : TaskDerived initial events service.invitations task (.accept userUuid inviteId phase))
    (seen : ∀ user ∈ service.users, Seen initial events user) (outcome : Outcome) :
    Traceable initial events (service.goOnAccepting true task userUuid inviteId phase outcome) := by
  cases phase with
  | commits => exact derived.commit task outcome
  | insertsRole uid row =>
    have next : TaskDerived initial events service.invitations task
        (.accept userUuid inviteId (.insertsLevel uid row)) := ⟨own.1, trivial⟩
    simp only [InvitationService.goOnAccepting]
    refine derived.updatePolicy ?_ next
    intro workspaceId same
    cases Uuid.text_injective (ObjectType.workspace.inj same)
    exact own.2
  | insertsLevel uid row =>
    have next : TaskDerived initial events service.invitations task (.accept userUuid inviteId .commits) :=
      ⟨own.1, trivial⟩
    simp only [InvitationService.goOnAccepting]
    exact derived.updatePolicy (fun _ same => by cases same) next
  | updates =>
    cases outcome with
    | done => exact derived.setStatusAccepted own seen
    | failed | unconfirmed => exact derived.leave task
  | reads =>
    cases outcome with
    | done => exact derived.getInvitationById own seen
    | failed | unconfirmed => exact derived.leave task

theorem step (derived : Traceable initial events service) {event : InvitationEvent} (taken : event ∈ events)
    (seen : ∀ user ∈ service.users, Seen initial events user) : Traceable initial events (service.step true event) := by
  cases event with
  | signUp user =>
    simp only [InvitationService.step]
    split
    · exact derived
    · exact ⟨derived.roles, derived.rows, derived.tasks⟩
  | updateUser uuid email =>
    simp only [InvitationService.step]
    split
    · exact derived
    · exact ⟨derived.roles, derived.rows, derived.tasks⟩
  | insertRole uid workspaceId role =>
    exact ⟨derived.roles.insertRole (.inserted taken), derived.rows, derived.tasks⟩
  | invite task inviter workspaceId invitations =>
    simp only [InvitationService.step, InvitationService.invite]
    split
    · split
      · exact derived
      · rename_i uid there
        split
        · rename_i allowed
          obtain ⟨sender, same, rfl⟩ := Option.map_eq_some_iff.mp there
          have uuid : sender.uuid = inviter := by simpa using List.find?_some same
          exact derived.setTask ⟨sender, task, invitations, uuid, derived.roles.owner allowed,
            seen sender (List.mem_of_find?_eq_some same), taken, List.Subset.refl _⟩
        · exact derived
    · exact derived
  | accept task userUuid inviteId =>
    simp only [InvitationService.step]
    split
    · exact derived.setTask ⟨⟨task, taken⟩, trivial⟩
    · exact derived
  | advance task newId outcome =>
    simp only [InvitationService.step]
    split
    · exact derived
    · rename_i runs
      exact derived.goOnInviting (derived.tasks task _ runs) newId outcome
    · rename_i runs
      exact derived.goOnAccepting (derived.tasks task _ runs) seen outcome
  | drop task => exact derived.leave task

end Traceable

end Derived

end FlowCloud.Workspace
