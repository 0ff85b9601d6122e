import FlowCloud.Account.OneAccount

/-! # Whose workspaces the owners' roles are for

A call inserts the owner's role before it commits, and nothing takes the role back when the
commit fails.  As long as no id is given out twice, such a role is for an id that nobody has.
-/

namespace FlowCloud.Account

open FlowCloud.Foundation FlowCloud.Entity FlowCloud.Storage

/-! ## The invariant -/

def DifferentUids (left right : SignUp) : Prop :=
  ∀ new other, left.stage.inserted = some new → right.stage.inserted = some other → new.user.uid ≠ other.user.uid

theorem DifferentUids.symm {left right : SignUp} (different : DifferentUids left right) : DifferentUids right left :=
  fun new other inserted others => (different other new others inserted).symm

/-- What a call has inserted is its own until it is committed. -/
structure SignUp.Reserves (tables : AccountTables) (roles : List (Int × Uuid)) (call : SignUp) : Prop where
  unused : ∀ new, call.stage.inserted = some new → ∀ user ∈ tables.users, user.uid ≠ new.user.uid
  single : ∀ new, call.stage.inserted = some new → ∀ workspaceId, (new.user.uid, workspaceId) ∈ roles →
    workspaceId = new.workspaceId
  granted : ∀ new, call.stage = .granted new ∨ call.stage = .ready (some new) →
    (new.user.uid, new.workspaceId) ∈ roles

/-- The user of the call owns a workspace in every respect. -/
def OwnsWorkspace (tables : AccountTables) (roles : List (Int × Uuid)) (userUuid : Uuid) : Prop :=
  ∃ user ∈ tables.users, user.uuid = userUuid ∧ ∃ workspaceId, (workspaceId, user.uid) ∈ tables.workspaces ∧
    (user.uid, workspaceId.text) ∈ tables.collabMembers ∧ (user.uid, workspaceId) ∈ roles

structure Accounts.Owned (accounts : Accounts) : Prop where
  roles : ∀ uid workspaceId, (uid, workspaceId) ∈ accounts.roles → ∀ user ∈ accounts.tables.users, user.uid = uid →
    (workspaceId, uid) ∈ accounts.tables.workspaces
  calls : ∀ call ∈ accounts.calls, call.Reserves accounts.tables accounts.roles
  apart : Apart DifferentUids accounts.calls
  owners : ∀ call ∈ accounts.calls, call.stage = .done (.ok true) →
    OwnsWorkspace accounts.tables accounts.roles call.userUuid

/-- The id was not given to a user, a role or an open transaction before. -/
def FreshUid (self : Accounts) (uid : Int) : Prop :=
  (∀ user ∈ self.tables.users, user.uid ≠ uid) ∧ (∀ role ∈ self.roles, role.1 ≠ uid) ∧
    ∀ call ∈ self.calls, ∀ new ∈ call.stage.inserted, new.user.uid ≠ uid

instance (self : Accounts) (uid : Int) : Decidable (FreshUid self uid) :=
  inferInstanceAs (Decidable ((∀ user ∈ _, _) ∧ (∀ role ∈ _, _) ∧ ∀ call ∈ _, ∀ new ∈ _, _))

def NewUidsFresh (self : Accounts) : AccountEvent → Prop
  | .create _ newUid _ => FreshUid self newUid
  | _ => True

instance (self : Accounts) : (event : AccountEvent) → Decidable (NewUidsFresh self event)
  | .create _ newUid _ => inferInstanceAs (Decidable (FreshUid self newUid))
  | .call _ _ _ | .begin _ | .lock _ | .check _ | .insertRole _ | .initializeWorkspace _ | .commit _ _ | .fail _ _
  | .getUserUid _ _ => .isTrue trivial

variable {self : Accounts} {index : Nat} {call : SignUp} {stage : SignUpStage} {event : AccountEvent}
variable {tables : AccountTables} {roles : List (Int × Uuid)}

/-! ## Steps -/

theorem OwnsWorkspace.mono {userUuid : Uuid} (owns : OwnsWorkspace tables roles userUuid) {nextTables : AccountTables}
    {nextRoles : List (Int × Uuid)} (users : tables.users ⊆ nextTables.users)
    (workspaces : tables.workspaces ⊆ nextTables.workspaces)
    (collabMembers : tables.collabMembers ⊆ nextTables.collabMembers) (grown : roles ⊆ nextRoles) :
    OwnsWorkspace nextTables nextRoles userUuid := by
  obtain ⟨user, member, uuid, workspaceId, workspace, collabMember, role⟩ := owns
  exact ⟨user, users member, uuid, workspaceId, workspaces workspace, collabMembers collabMember, grown role⟩

/-- A call goes to a stage with nothing inserted, or keeps its row. -/
theorem Accounts.Owned.setStage (owned : self.Owned) (found : self.calls[index]? = some call)
    (reserves : SignUp.Reserves self.tables self.roles { call with stage })
    (inserted : stage.inserted = none ∨ stage.inserted = call.stage.inserted)
    (unanswered : stage ≠ .done (.ok true)) :
    ({ self with calls := self.calls.set index { call with stage } } : Accounts).Owned where
  roles := owned.roles
  calls other member := by
    rcases List.mem_or_eq_of_mem_set member with there | rfl
    · exact owned.calls other there
    · exact reserves
  apart := by
    refine owned.apart.set fun position other differs there => ?_
    have different : DifferentUids other { call with stage } := by
      intro new own others mine
      cases inserted with
      | inl none =>
        rw [none] at mine
        cases mine
      | inr same => exact owned.apart position index other call there found differs new own others (same ▸ mine)
    exact ⟨different, different.symm⟩
  owners other member answered := by
    rcases List.mem_or_eq_of_mem_set member with there | rfl
    · exact owned.owners other there answered
    · exact absurd answered unanswered

theorem SignUp.reserves_of_none {call : SignUp} (none : call.stage.inserted = none) : call.Reserves tables roles where
  unused new inserted := by
    rw [none] at inserted
    cases inserted
  single new inserted := by
    rw [none] at inserted
    cases inserted
  granted new there := by
    rcases there with there | there <;>
      · rw [there] at none
        cases none

theorem Accounts.Owned.create (owned : self.Owned) {newUid : Int}
    (fresh : FreshUid self newUid) (workspaceId : Uuid) :
    ({ self with calls := self.calls.set index { call with stage := .created (call.newUser newUid workspaceId) } } :
      Accounts).Owned where
  roles := owned.roles
  calls other member := by
    rcases List.mem_or_eq_of_mem_set member with there | rfl
    · exact owned.calls other there
    · refine ⟨?_, ?_, ?_⟩
      · rintro _ ⟨⟩
        exact fresh.1
      · rintro _ ⟨⟩ workspaceId role
        exact absurd rfl (fresh.2.1 _ role)
      · rintro _ (granted | ready)
        · cases granted
        · cases ready
  apart := by
    refine owned.apart.set fun position other differs there => ?_
    have different : DifferentUids other { call with stage := .created (call.newUser newUid workspaceId) } := by
      rintro new _ inserted ⟨⟩
      exact fresh.2.2 other (List.mem_of_getElem? there) new inserted
    exact ⟨different, different.symm⟩
  owners other member answered := by
    rcases List.mem_or_eq_of_mem_set member with there | rfl
    · exact owned.owners other there answered
    · cases answered

/-- The role of an id that no user has yet. -/
theorem Accounts.Owned.grant (owned : self.Owned) (found : self.calls[index]? = some call) {new : NewUser}
    (created : call.stage = .created new) :
    ({ self with
        roles := self.roles ++ [(new.user.uid, new.workspaceId)]
        calls := self.calls.set index { call with stage := .granted new } } : Accounts).Owned := by
  have inserted : call.stage.inserted = some new := by
    rw [created]
    rfl
  have reserves := owned.calls call (List.mem_of_getElem? found)
  have apart : Apart DifferentUids (self.calls.set index { call with stage := .granted new }) := by
    refine owned.apart.set fun position other differs there => ?_
    have different : DifferentUids other { call with stage := .granted new } := by
      rintro inside _ others ⟨⟩
      exact owned.apart position index other call there found differs inside _ others inserted
    exact ⟨different, different.symm⟩
  refine ⟨?_, ?_, apart, ?_⟩
  · intro uid workspaceId role user member same
    rcases List.mem_append.mp role with before | last
    · exact owned.roles uid workspaceId before user member same
    · obtain ⟨rfl, rfl⟩ := Prod.mk.inj (List.mem_singleton.mp last)
      exact absurd same (reserves.unused new inserted user member)
  · intro other member
    obtain ⟨position, there⟩ := List.mem_iff_getElem?.mp member
    rw [List.getElem?_set] at there
    split at there
    · split at there
      · obtain rfl := Option.some.inj there
        refine ⟨?_, ?_, ?_⟩
        · rintro _ ⟨⟩
          exact reserves.unused _ inserted
        · rintro _ ⟨⟩ workspaceId role
          rcases List.mem_append.mp role with before | last
          · exact reserves.single _ inserted workspaceId before
          · exact (Prod.mk.inj (List.mem_singleton.mp last)).2
        · rintro inside (granted | ready)
          · obtain rfl := SignUpStage.granted.inj granted
            exact List.mem_append_right _ (.head _)
          · cases ready
      · cases there
    · rename_i differs
      have others := owned.calls other (List.mem_of_getElem? there)
      refine ⟨others.unused, ?_, fun inside granted => List.mem_append_left _ (others.granted inside granted)⟩
      intro inside mine workspaceId role
      rcases List.mem_append.mp role with before | last
      · exact others.single inside mine workspaceId before
      · have same := (Prod.mk.inj (List.mem_singleton.mp last)).1
        exact absurd same (owned.apart position index other call there found (Ne.symm differs) inside new mine inserted)
  · intro other member answered
    rcases List.mem_or_eq_of_mem_set member with there | rfl
    · exact (owned.owners other there answered).mono (List.Subset.refl _) (List.Subset.refl _) (List.Subset.refl _)
        (List.subset_append_left _ _)
    · cases answered

theorem Accounts.Owned.commit (owned : self.Owned) (found : self.calls[index]? = some call) {new : NewUser}
    (ready : call.stage = .ready (some new)) (own : new.user.uuid = call.userUuid) (answer : Except AppError Bool) :
    ({ self with
        tables := self.tables.insert new
        calls := self.calls.set index { call with stage := .done answer } } : Accounts).Owned := by
  have inserted : call.stage.inserted = some new := by
    rw [ready]
    rfl
  have reserves := owned.calls call (List.mem_of_getElem? found)
  have apart : Apart DifferentUids (self.calls.set index { call with stage := .done answer }) := by
    refine owned.apart.set fun position other differs there => ?_
    have different : DifferentUids other { call with stage := .done answer } := by
      rintro inside _ others ⟨⟩
    exact ⟨different, different.symm⟩
  refine ⟨?_, ?_, apart, ?_⟩
  · intro uid workspaceId role user member same
    rcases List.mem_append.mp member with before | last
    · exact List.mem_append_left _ (owned.roles uid workspaceId role user before same)
    · obtain rfl := List.mem_singleton.mp last
      subst same
      -- the only roles of the id are for the workspace of the row
      obtain rfl := reserves.single new inserted workspaceId role
      exact List.mem_append_right _ (.head _)
  · intro other member
    obtain ⟨position, there⟩ := List.mem_iff_getElem?.mp member
    rw [List.getElem?_set] at there
    split at there
    · split at there
      · obtain rfl := Option.some.inj there
        exact SignUp.reserves_of_none rfl
      · cases there
    · rename_i differs
      have others := owned.calls other (List.mem_of_getElem? there)
      refine ⟨?_, others.single, others.granted⟩
      intro inside mine
      refine List.forall_mem_append.mpr ⟨others.unused inside mine, List.forall_mem_singleton.mpr ?_⟩
      exact (owned.apart position index other call there found (Ne.symm differs) inside new mine inserted).symm
  · intro other member answered
    rcases List.mem_or_eq_of_mem_set member with there | rfl
    · exact (owned.owners other there answered).mono (List.subset_append_left _ _) (List.subset_append_left _ _)
        (List.subset_append_left _ _) (List.Subset.refl _)
    · exact ⟨new.user, List.mem_append_right _ (.head _), own, new.workspaceId, List.mem_append_right _ (.head _),
        List.mem_append_right _ (.head _), reserves.granted new (.inr ready)⟩

theorem Accounts.Owned.advance (owned : self.Owned) {before : List AfUser} (sound : self.Sound before)
    (found : self.calls[index]? = some call) (advances : Advances self call event stage tables roles)
    (fresh : NewUidsFresh self event) :
    ({ self with tables, roles, calls := self.calls.set index { call with stage } } : Accounts).Owned := by
  have reserves := owned.calls call (List.mem_of_getElem? found)
  cases advances with
  | begin => exact owned.setStage found (SignUp.reserves_of_none rfl) (.inl rfl) (by simp)
  | lock => exact owned.setStage found (SignUp.reserves_of_none rfl) (.inl rfl) (by simp)
  | known => exact owned.setStage found (SignUp.reserves_of_none rfl) (.inl rfl) (by simp)
  | unknown => exact owned.setStage found (SignUp.reserves_of_none rfl) (.inl rfl) (by simp)
  | fail => exact owned.setStage found (SignUp.reserves_of_none rfl) (.inl rfl) (by simp)
  | create _ _ _ ids =>
    rw [ids] at fresh
    exact owned.create fresh _
  | grant created => exact owned.grant found created
  | @initializeWorkspace new granted =>
    have same : (SignUpStage.ready (some new)).inserted = call.stage.inserted := by rw [granted]; rfl
    refine owned.setStage found ⟨?_, ?_, ?_⟩ (.inr same) (by simp)
    · exact fun inside there => reserves.unused inside (same ▸ there)
    · exact fun inside there => reserves.single inside (same ▸ there)
    · rintro inside (earlier | ready)
      · cases earlier
      · obtain rfl := Option.some.inj (SignUpStage.ready.inj ready)
        exact reserves.granted _ (.inl granted)
  | @commit new ready answer honest =>
    cases new with
    | none =>
      refine owned.setStage found (SignUp.reserves_of_none rfl) (.inl rfl) ?_
      rintro ⟨⟩
      cases honest true rfl
    | some new =>
      have own := (sound.calls call (List.mem_of_getElem? found)).own new (by rw [ready]; rfl)
      exact owned.commit found ready own answer

theorem Accounts.Owned.step (owned : self.Owned) {before : List AfUser} (sound : self.Sound before)
    (event : AccountEvent) (fresh : NewUidsFresh self event) : (self.step event).Owned := by
  cases event with
  | call userUuid email userMetadata =>
    refine ⟨owned.roles, ?_, ?_, ?_⟩
    · exact List.forall_mem_append.mpr
        ⟨owned.calls, List.forall_mem_singleton.mpr (SignUp.reserves_of_none rfl)⟩
    · refine owned.apart.concat fun other _ => ?_
      have different : DifferentUids other ⟨userUuid, email, nameFromUserMetadata userMetadata, .started⟩ := by
        rintro _ _ _ ⟨⟩
      exact ⟨different, different.symm⟩
    · intro other member answered
      rcases List.mem_append.mp member with there | last
      · exact owned.owners other there answered
      · cases List.mem_singleton.mp last
        cases answered
  | getUserUid uuid outage =>
    simp only [Accounts.step, Accounts.getUserUid]
    split
    · exact ⟨owned.roles, owned.calls, owned.apart, owned.owners⟩
    · split <;> exact ⟨owned.roles, owned.calls, owned.apart, owned.owners⟩
  | begin | lock | check | create | insertRole | initializeWorkspace | commit | fail =>
    simp only [Accounts.step]
    split
    · exact owned
    · rename_i call found
      rcases self.advance_cases _ call _ with same | ⟨stage, tables, roles, advances, result⟩
      · rw [same]
        exact owned
      · rw [result]
        exact owned.advance sound found advances fresh

/-- In every run in which no id is given twice, whatever fails in it: an owner's role that
    signing up has inserted is for an id of no user, or the user with that id owns the
    workspace; and whoever was told to be new owns a workspace. -/
theorem owner_roles_belong (tables : AccountTables) (uuids : (tables.users.map (·.uuid)).Nodup)
    (emails : (tables.users.map (·.email)).Nodup) (loaded : Nat) (events : List AccountEvent)
    (fresh : Always Accounts.step NewUidsFresh (.new tables loaded) events) :
    let accounts := run Accounts.step (.new tables loaded) events
    (∀ uid workspaceId, (uid, workspaceId) ∈ accounts.roles → ∀ user ∈ accounts.tables.users, user.uid = uid →
      (workspaceId, uid) ∈ accounts.tables.workspaces) ∧
    ∀ call ∈ accounts.calls, call.stage = .done (.ok true) →
      OwnsWorkspace accounts.tables accounts.roles call.userUuid := by
  have preserved : ∀ (accounts : Accounts) event, accounts.Sound tables.users ∧ accounts.Owned →
      NewUidsFresh accounts event → (accounts.step event).Sound tables.users ∧ (accounts.step event).Owned :=
    fun _ event sounds fresh => ⟨sounds.1.step event, sounds.2.step sounds.1 event fresh⟩
  have initial : (Accounts.new tables loaded).Owned :=
    ⟨by rintro _ _ ⟨⟩, List.forall_mem_nil _, apart_nil _, List.forall_mem_nil _⟩
  have final := fresh.invariant preserved ⟨Accounts.new_sound uuids emails loaded, initial⟩
  exact ⟨final.2.roles, final.2.owners⟩

/-- The commit of the first call fails after its role was inserted, and the user tries again. -/
def signUpTwice : List AccountEvent :=
  [.call 7 "ada@example.com" [("name", some "Ada")], .begin 0, .lock 0, .check 0, .create 0 1 100, .insertRole 0,
    .initializeWorkspace 0, .commit 0 (.failed (.internal "commit")), .call 7 "ada@example.com" [], .begin 1, .lock 1,
    .check 1, .create 1 2 200, .insertRole 1, .initializeWorkspace 1, .commit 1 .committed]

theorem signUpTwice_owner_roles :
    let accounts := run Accounts.step (.new ⟨[], [], []⟩ 0) signUpTwice
    (∀ uid workspaceId, (uid, workspaceId) ∈ accounts.roles → ∀ user ∈ accounts.tables.users, user.uid = uid →
      (workspaceId, uid) ∈ accounts.tables.workspaces) ∧
    ∀ call ∈ accounts.calls, call.stage = .done (.ok true) →
      OwnsWorkspace accounts.tables accounts.roles call.userUuid :=
  owner_roles_belong ⟨[], [], []⟩ (by decide) (by decide) 0 signUpTwice (by decide)

end FlowCloud.Account
