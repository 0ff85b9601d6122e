import FlowCloud.Tasks.Steps

/-! # Subscribers

A runner that subscribes a user writes the Editing record before the subscriber, `remove_user`
takes the records before it stops the subscriptions, and the client stream goes last.  A
subscription that lands in between belongs to nobody: no record and no client stream tells
of it.
-/

namespace FlowCloud.Tasks

open FlowCloud.Foundation FlowCloud.Entity FlowCloud.Server

section Server

variable {User : Type} [DecidableEq User] [RealtimeUser User]

namespace Server

/-- A `Disconnect` of the user waits. -/
def leaving (self : Server User) (user : User) : Bool :=
  (List.range self.started).any fun number =>
    match self.futures number with
    | some (.removing _ _ _ (.removeStream other _)) => other = user
    | _ => false

/-- The user whom a step of the runner subscribes, or begins to. -/
def enters (self : Server User) (number : Nat) : Option User :=
  let absent (user : User) (first : ClientCollabMessage) :=
    if self.containsGroup first.objectId && !self.containsUser first.objectId user then some user else none
  match self.runners[number]? with
  | some ⟨_, .handleClientCollabMessage user _ (first :: _) :: _, .idle⟩ => absent user first
  | some ⟨_, _, .unsubscribing user _ first⟩ => absent user first
  | some ⟨_, _, .creating user _⟩ => some user
  | some ⟨_, _, .subscribing user _ _⟩ => some user
  | _ => none

/-- Nobody who leaves is subscribed, nobody leaves while he is subscribed, and a client stream
    that a send removes is that of a user without a subscription. -/
def Undisturbed (self : Server User) : Event User → Prop
  | .connect user _ => (self.userByDevice (.from user)).all (fun oldUser => !self.streamLocked oldUser) = true
  | .disconnect user session _ =>
    (self.sessionIdByUser user).all (fun current => current = session) = true → self.streamLocked user = false
  | .runner number received =>
    (self.enters number).all (fun user => !self.leaving user) = true ∧
      (received = true ∨ self.enters number = none ∧ ∀ user, self.serves number = some user →
        self.streamLocked user = false ∧ ∀ objectId, self.containsUser objectId user = false)
  | _ => True

/-- No handler and no runner is in the middle of a step. -/
def Quiet (self : Server User) : Prop :=
  (∀ number, self.futures number = none) ∧ (self.runners.all fun runner => runner.state matches .idle) = true

/-- The user has a record of the object. -/
def Edits (self : Server User) (user : User) (objectId : String) : Prop :=
  ∃ editing ∈ self.editingCollabByUser user, editing.objectId = objectId

/-- Every subscriber of a group has a client stream and an Editing record of its object. -/
def SubscribersKnown (self : Server User) : Prop :=
  ∀ objectId user, self.containsUser objectId user = true →
    (self.clientStreamByUser user).isSome = true ∧ self.Edits user objectId

/-! ## What keeps a subscriber known

A future number may be left out: it is the one that takes its step.
-/

variable {self : Server User} {user : User} {objectId : String}

/-- A handler that waits is going to remove the user from the object's group. -/
def Removing (self : Server User) (without : Option Nat) (user : User) (objectId : String) : Prop :=
  ∃ number other remaining after, some number ≠ without ∧ self.futures number = some (.removing user other remaining after) ∧
    ∃ editing ∈ remaining, editing.objectId = objectId

/-- The user has all that a subscriber needs, and no `Disconnect` is going to change that. -/
structure Present (without : Option Nat) (user : User) (objectId : String) (server : Server User) : Prop where
  stream : (server.clientStreamByUser user).isSome = true
  edits : server.Edits user objectId
  stays : ∀ number other object remaining session, some number ≠ without →
    server.futures number ≠ some (.removing other object remaining (.removeStream user session))

/-- A runner is in the middle of subscribing the user. -/
def Subscribing (self : Server User) (user : User) (objectId : String) : Prop :=
  ∃ (number : Nat) (runner : Runner User) (first : ClientCollabMessage) (group : Nat),
    self.runners[number]? = some runner ∧ runner.state = .subscribing user first group ∧ first.objectId = objectId

structure NoGhosts (server : Server User) : Prop where
  subscribed : ∀ objectId user, server.containsUser objectId user = true →
    server.Removing none user objectId ∨ Present none user objectId server
  subscribing : ∀ user objectId, server.Subscribing user objectId → Present none user objectId server
  wellFormed : server.WellFormed

omit [RealtimeUser User] in
theorem Subscribing.locked (subscribing : self.Subscribing user objectId) : self.streamLocked user = true := by
  obtain ⟨number, runner, first, group, found, state, _⟩ := subscribing
  refine List.any_eq_true.mpr ⟨runner, List.mem_of_getElem? found, ?_⟩
  simp [state]

theorem Present.leaving {without : Option Nat} (wellFormed : self.WellFormed)
    (stream : (self.clientStreamByUser user).isSome = true) (edits : self.Edits user objectId)
    (stays : self.leaving user = false) : Present without user objectId self := by
  refine ⟨stream, edits, fun number other object remaining session _ found => ?_⟩
  have leaves : self.leaving user = true :=
    List.any_eq_true.mpr ⟨number, List.mem_range.mpr (wellFormed.started found), by simp [found]⟩
  cases stays.symm.trans leaves

omit [DecidableEq User] [RealtimeUser User] in
theorem Present.of_eq {before after : Server User} {without : Option Nat}
    (present : Present without user objectId before) (streams : after.clientStreamByUser = before.clientStreamByUser)
    (editing : after.editingCollabByUser = before.editingCollabByUser) (futures : after.futures = before.futures) :
    Present without user objectId after := by
  refine ⟨by rw [streams]; exact present.stream, ?_, by rw [futures]; exact present.stays⟩
  rw [Edits, editing]
  exact present.edits

/-- What leaves every subscriber known. -/
structure KeepsKnown (before after : Server User) : Prop where
  subscribers : ∀ objectId user, after.containsUser objectId user = true → before.containsUser objectId user = true
  futures : ∀ number user objectId remaining last,
    after.futures number = some (.removing user objectId remaining last) ↔
      before.futures number = some (.removing user objectId remaining last)
  streams : ∀ user, (before.clientStreamByUser user).isSome = true → (after.clientStreamByUser user).isSome = true
  edits : ∀ user objectId, before.Edits user objectId → after.Edits user objectId
  subscribing : ∀ user objectId, after.Subscribing user objectId → before.Subscribing user objectId

omit [RealtimeUser User] in
theorem Present.of_keepsKnown {before after : Server User} {without : Option Nat}
    (present : Present without user objectId before) (keeps : KeepsKnown before after) :
    Present without user objectId after := by
  refine ⟨keeps.streams user present.stream, keeps.edits user objectId present.edits, ?_⟩
  intro number other object remaining session counts found
  exact present.stays number other object remaining session counts ((keeps.futures _ _ _ _ _).mp found)

theorem NoGhosts.of_keepsKnown {before after : Server User} (noGhosts : before.NoGhosts)
    (keeps : KeepsKnown before after) (wellFormed : after.WellFormed) : after.NoGhosts := by
  refine ⟨fun objectId user subscribed => ?_, fun user objectId subscribing => ?_, wellFormed⟩
  · rcases noGhosts.subscribed objectId user (keeps.subscribers objectId user subscribed) with
      ⟨number, other, remaining, last, counts, found, listed⟩ | present
    · exact .inl ⟨number, other, remaining, last, counts, (keeps.futures _ _ _ _ _).mpr found, listed⟩
    · exact .inr (present.of_keepsKnown keeps)
  · exact (noGhosts.subscribing user objectId (keeps.subscribing user objectId subscribing)).of_keepsKnown keeps

omit [DecidableEq User] [RealtimeUser User] in
theorem setFuture_removing {number other : Nat} {value : Option (Future User)} {leaver : User} {object : String}
    {remaining : List Editing} {last : After User} (different : other ≠ number) :
    (self.setFuture number value).futures other = some (.removing leaver object remaining last) ↔
      self.futures other = some (.removing leaver object remaining last) := by
  simp [setFuture, different]

omit [DecidableEq User] [RealtimeUser User] in
theorem Removing.setFuture {number : Nat} (removing : self.Removing (some number) user objectId)
    (value : Option (Future User)) : (self.setFuture number value).Removing none user objectId := by
  obtain ⟨other, object, remaining, last, counts, found, listed⟩ := removing
  exact ⟨other, object, remaining, last, nofun,
    (setFuture_removing fun same => counts (congrArg some same)).mpr found, listed⟩

omit [DecidableEq User] [RealtimeUser User] in
theorem Present.setFuture {number : Nat} (present : Present (some number) user objectId self)
    {value : Option (Future User)}
    (stays : ∀ other object remaining session,
      value ≠ some (.removing other object remaining (.removeStream user session))) :
    Present none user objectId (self.setFuture number value) := by
  refine ⟨present.stream, present.edits, fun waiting other object remaining session _ found => ?_⟩
  simp only [Server.setFuture, Function.update_apply] at found
  split at found
  · exact stays other object remaining session found
  · next different =>
    exact present.stays waiting other object remaining session (fun same => different (Option.some.inj same)) found

omit [RealtimeUser User] in
theorem Present.conclude {without : Option Nat} (present : Present without user objectId self) {after : After User}
    (stays : ∀ session, after ≠ .removeStream user session) : Present without user objectId (self.conclude after) := by
  cases after with
  | insertStream other session =>
    refine ⟨?_, present.edits, present.stays⟩
    simp only [Server.conclude, setStream, Function.update_apply]
    split
    · rfl
    · exact present.stream
  | removeStream other session =>
    refine ⟨?_, present.edits, present.stays⟩
    have different : user ≠ other := by
      rintro rfl
      exact stays session rfl
    simpa [Server.conclude, setStream, different] using present.stream

omit [RealtimeUser User] in
theorem containsUser_modifyGroup {change : Group User → Group User} {other : String}
    (subscribed : (self.modifyGroup objectId change).containsUser other user = true) :
    self.containsUser other user = true ∨
      other = objectId ∧ ∃ group, self.groupByObjectId objectId = some group ∧ (change group).containsUser user = true := by
  simp only [containsUser, modifyGroup, setGroup, Function.update_apply] at subscribed ⊢
  split_ifs at subscribed with same
  · cases found : self.groupByObjectId objectId with
    | none => simp [found] at subscribed
    | some group => exact .inr ⟨same, group, rfl, by simpa [found] using subscribed⟩
  · exact .inl subscribed

omit [RealtimeUser User] in
/-- The groups have no new subscribers. -/
theorem modifyGroup_keepsKnown (self : Server User) (objectId : String) {change : Group User → Group User}
    (fewer : ∀ group user, (change group).containsUser user = true → group.containsUser user = true) :
    KeepsKnown self (self.modifyGroup objectId change) := by
  refine ⟨fun other user subscribed => ?_, fun _ _ _ _ _ => Iff.rfl, fun _ => id, fun _ _ => id, fun _ _ => id⟩
  cases containsUser_modifyGroup subscribed with
  | inl before => exact before
  | inr held =>
    obtain ⟨rfl, group, found, remains⟩ := held
    simp [containsUser, found, fewer group user remains]

omit [RealtimeUser User] in
theorem containsUser_removeUser {group : Group User} {leaver : User} :
    (group.removeUser leaver).containsUser user = true ↔ group.containsUser user = true ∧ user ≠ leaver := by
  simp [Group.containsUser, Group.removeUser]

/-! ## Leaving -/

omit [RealtimeUser User] in
/-- A user who has been taken out of a group is not in it. -/
theorem not_containsUser_removed (self : Server User) (objectId : String) (leaver : User) :
    ¬ (self.modifyGroup objectId fun group => group.removeUser leaver).containsUser objectId leaver = true := by
  intro remains
  rw [containsUser] at remains
  simp only [modifyGroup, setGroup, Function.update_self] at remains
  cases found : self.groupByObjectId objectId with
  | none => simp [found] at remains
  | some group =>
    simp only [found, Option.map_some] at remains
    exact absurd rfl (containsUser_removeUser.mp remains).2

/-- A handler goes on: whoever it has not removed yet is still on its list. -/
theorem NoGhosts.removeUser {future : Nat} {leaver : User} {editings : List Editing} {after : After User}
    (wellFormed : (self.removeUser future leaver editings after).WellFormed)
    (subscribed : ∀ objectId user, self.containsUser objectId user = true →
      (user = leaver ∧ ∃ editing ∈ editings, editing.objectId = objectId) ∨
        self.Removing (some future) user objectId ∨
        Present (some future) user objectId self ∧ ∀ session, after ≠ .removeStream user session)
    (subscribing : ∀ user objectId, self.Subscribing user objectId →
      Present (some future) user objectId self ∧ ∀ session, after ≠ .removeStream user session) :
    (self.removeUser future leaver editings after).NoGhosts := by
  revert wellFormed
  apply removeUser_cases (motive := fun server => server.WellFormed → server.NoGhosts)
  · intro absent wellFormed
    have present {user : User} {objectId : String} (present : Present (some future) user objectId self)
        (stays : ∀ session, after ≠ .removeStream user session) :
        Present none user objectId ((self.conclude after).setFuture future none) :=
      (present.conclude stays).setFuture (by simp)
    refine ⟨fun objectId user contained => ?_, fun user objectId waits => ?_, wellFormed⟩
    · have contained : self.containsUser objectId user = true := by cases after <;> exact contained
      rcases subscribed objectId user contained with ⟨rfl, editing, listed, rfl⟩ | removing | ⟨found, stays⟩
      · cases (absent editing listed).symm.trans contained
      · have removing : (self.conclude after).Removing (some future) user objectId := by cases after <;> exact removing
        exact .inl (removing.setFuture none)
      · exact .inr (present found stays)
    · have waits : self.Subscribing user objectId := by cases after <;> exact waits
      obtain ⟨found, stays⟩ := subscribing user objectId waits
      exact present found stays
  · intro skipped editing remaining parts absent contained wellFormed
    have keeps : KeepsKnown self (self.modifyGroup editing.objectId fun group => group.removeUser leaver) :=
      modifyGroup_keepsKnown self editing.objectId fun _ _ remains => (containsUser_removeUser.mp remains).1
    have present {user : User} {objectId : String} (present : Present (some future) user objectId self)
        (stays : ∀ session, after ≠ .removeStream user session) :
        Present none user objectId ((self.modifyGroup editing.objectId fun group => group.removeUser leaver).setFuture
          future (some (.removing leaver editing.objectId remaining after))) := by
      refine (present.of_keepsKnown keeps).setFuture ?_
      rintro _ _ _ session ⟨⟩
      exact stays session rfl
    refine ⟨fun objectId user remains => ?_, fun user objectId waits => ?_, wellFormed⟩
    · have before := keeps.subscribers objectId user remains
      rcases subscribed objectId user before with ⟨rfl, listed, member, rfl⟩ | removing | ⟨found, stays⟩
      · rw [parts, List.mem_append, List.mem_cons] at member
        rcases member with passed | rfl | later
        · cases (absent listed passed).symm.trans before
        · exact absurd remains (not_containsUser_removed self listed.objectId user)
        · exact .inl ⟨future, _, remaining, after, Option.some_ne_none future, Function.update_self future _ _,
            listed, later, rfl⟩
      · obtain ⟨number, other, rest, last, counts, found, listed⟩ := removing
        have removing : (self.modifyGroup editing.objectId fun group => group.removeUser leaver).Removing
            (some future) user objectId := ⟨number, other, rest, last, counts, found, listed⟩
        exact .inl (removing.setFuture _)
      · exact .inr (present found stays)
    · obtain ⟨found, stays⟩ := subscribing user objectId waits
      exact present found stays

/-- A handler begins to remove a user whom no runner is subscribing.  His client stream may
    already be gone. -/
theorem NoGhosts.beginRemoveUser {leaver : User} (order : List Editing) {after : After User}
    (wellFormed : self.WellFormed)
    (subscribed : ∀ objectId user, self.containsUser objectId user = true →
      self.Removing none user objectId ∨ user = leaver ∧ self.Edits user objectId ∨
        user ≠ leaver ∧ Present none user objectId self)
    (subscribing : ∀ user objectId, self.Subscribing user objectId → user ≠ leaver ∧ Present none user objectId self)
    (stays : ∀ user session, after = .removeStream user session → user = leaver) :
    (self.beginRemoveUser leaver order after).NoGhosts := by
  have older {user : User} {objectId : String} (removing : self.Removing none user objectId) :
      (self.takeEditing leaver).Removing (some self.started) user objectId := by
    obtain ⟨number, other, remaining, last, _, found, listed⟩ := removing
    refine ⟨number, other, remaining, last, fun same => ?_, found, listed⟩
    cases same
    cases (wellFormed.fresh self.started le_rfl).symm.trans found
  have present {user : User} {objectId : String} (different : user ≠ leaver)
      (present : Present none user objectId self) :
      Present (some self.started) user objectId (self.takeEditing leaver) ∧ ∀ session, after ≠ .removeStream user session := by
    refine ⟨⟨present.stream, ?_, fun _ _ _ _ _ _ => present.stays _ _ _ _ _ nofun⟩, fun session last => ?_⟩
    · simpa [Edits, takeEditing, setEditing, different] using present.edits
    · exact different (stays user session last)
  refine NoGhosts.removeUser (wellFormed.beginRemoveUser leaver order after) ?_ ?_
  · intro objectId user contained
    rcases subscribed objectId user contained with removing | ⟨same, editing, listed, about⟩ | ⟨different, found⟩
    · exact .inr (.inl (older removing))
    · subst same
      exact .inl ⟨rfl, editing, mem_visit.mpr listed, about⟩
    · exact .inr (.inr (present different found))
  · intro user objectId waits
    obtain ⟨different, found⟩ := subscribing user objectId waits
    exact present different found

theorem NoGhosts.connect (noGhosts : self.NoGhosts) {user : User} {order : List Editing}
    (undisturbed : self.Undisturbed (.connect user order)) : (self.connect user order).NoGhosts := by
  have wellFormed := noGhosts.wellFormed.step (.connect user order)
  rw [Server.step] at wellFormed
  revert wellFormed
  unfold Server.connect
  split
  · intro wellFormed
    refine noGhosts.of_keepsKnown ⟨fun _ _ => id, fun _ _ _ _ _ => Iff.rfl, fun other stream => ?_, fun _ _ => id,
      fun _ _ => id⟩ wellFormed
    simp only [setStream, Function.update_apply]
    split
    · rfl
    · exact stream
  · next oldUser found =>
    intro _
    have present {other : User} {objectId : String} (different : other ≠ oldUser)
        (present : Present none other objectId self) :
        Present none other objectId ((self.register user).setStream oldUser none) := by
      refine ⟨?_, present.edits, present.stays⟩
      simpa [setStream, register, different] using present.stream
    have wellFormed : ((self.register user).setStream oldUser none).WellFormed :=
      (noGhosts.wellFormed.register user).of_frame ⟨rfl, rfl, rfl, rfl⟩
    refine NoGhosts.beginRemoveUser order wellFormed ?_ ?_ fun _ _ same => absurd same insertStream_ne_removeStream
    · intro objectId other contained
      cases noGhosts.subscribed objectId other contained with
      | inl removing => exact .inl removing
      | inr known =>
        by_cases same : other = oldUser
        · exact .inr (.inl ⟨same, known.edits⟩)
        · exact .inr (.inr ⟨same, present same known⟩)
    · intro other objectId waits
      have before : self.Subscribing other objectId := waits
      have different : other ≠ oldUser := by
        rintro rfl
        rw [Undisturbed, found, Option.all_some, before.locked] at undisturbed
        cases undisturbed
      exact ⟨different, present different (noGhosts.subscribing other objectId before)⟩

theorem NoGhosts.disconnect (noGhosts : self.NoGhosts) {user : User} {session : Nat} {order : List Editing}
    (undisturbed : self.Undisturbed (.disconnect user session order)) :
    (self.disconnect user session order).NoGhosts := by
  refine disconnect_cases (fun _ _ _ => noGhosts) fun current => ?_
  refine NoGhosts.beginRemoveUser order noGhosts.wellFormed ?_ ?_ ?_
  · intro objectId other contained
    cases noGhosts.subscribed objectId other contained with
    | inl removing => exact .inl removing
    | inr known =>
      by_cases same : other = user
      · exact .inr (.inl ⟨same, known.edits⟩)
      · exact .inr (.inr ⟨same, known⟩)
  · intro other objectId waits
    refine ⟨?_, noGhosts.subscribing other objectId waits⟩
    rintro rfl
    have unlocked := undisturbed (by
      cases known : self.sessionIdByUser other with
      | none => rfl
      | some session => simp [current session known])
    cases waits.locked.symm.trans unlocked
  · rintro _ _ ⟨⟩
    rfl

theorem NoGhosts.continueRemoveUser (noGhosts : self.NoGhosts) {future : Nat} {leaver : User} {object : String}
    {remaining : List Editing} {after : After User}
    (found : self.futures future = some (.removing leaver object remaining after)) :
    (self.removeUser future leaver remaining after).NoGhosts := by
  have present {user : User} {objectId : String} (present : Present none user objectId self) :
      Present (some future) user objectId self ∧ ∀ session, after ≠ .removeStream user session := by
    refine ⟨⟨present.stream, present.edits, fun _ _ _ _ _ _ => present.stays _ _ _ _ _ nofun⟩, ?_⟩
    rintro session rfl
    exact present.stays future leaver object remaining session nofun found
  have wellFormed := noGhosts.wellFormed
  refine NoGhosts.removeUser (wellFormed.removeUser (wellFormed.started found) leaver remaining after) ?_ ?_
  · intro objectId user contained
    cases noGhosts.subscribed objectId user contained with
    | inl held =>
      obtain ⟨number, other, rest, last, _, waits, listed⟩ := held
      by_cases same : number = future
      · subst same
        cases found.symm.trans waits
        exact .inl ⟨rfl, listed⟩
      · exact .inr (.inl ⟨number, other, rest, last, fun same' => same (Option.some.inj same'), waits, listed⟩)
    | inr known => exact .inr (.inr (present known))
  · intro user objectId waits
    exact present (noGhosts.subscribing user objectId waits)

/-! ## Subscribing -/

omit [RealtimeUser User] in
theorem KeepsKnown.refl (server : Server User) : KeepsKnown server server :=
  ⟨fun _ _ => id, fun _ _ _ _ _ => Iff.rfl, fun _ => id, fun _ _ => id, fun _ _ => id⟩

omit [RealtimeUser User] in
theorem KeepsKnown.trans {first second third : Server User} (left : KeepsKnown first second)
    (right : KeepsKnown second third) : KeepsKnown first third where
  subscribers _ _ contained := left.subscribers _ _ (right.subscribers _ _ contained)
  futures _ _ _ _ _ := (right.futures _ _ _ _ _).trans (left.futures _ _ _ _ _)
  streams _ stream := right.streams _ (left.streams _ stream)
  edits _ _ edits := right.edits _ _ (left.edits _ _ edits)
  subscribing _ _ waits := left.subscribing _ _ (right.subscribing _ _ waits)

/-- The user has no subscription and is not about to get one. -/
def Detached (self : Server User) (user : User) : Prop :=
  ∀ objectId, self.containsUser objectId user = false ∧ ¬self.Subscribing user objectId

omit [RealtimeUser User] in
theorem Detached.of_keepsKnown {before after : Server User} (detached : before.Detached user)
    (keeps : KeepsKnown before after) : after.Detached user := by
  refine fun objectId => ⟨Bool.eq_false_iff.mpr fun contained => ?_, fun waits => ?_⟩
  · exact Bool.eq_false_iff.mp (detached objectId).1 (keeps.subscribers objectId user contained)
  · exact (detached objectId).2 (keeps.subscribing user objectId waits)

omit [DecidableEq User] [RealtimeUser User] in
theorem subscribing_setState {number : Nat} {state : RunnerState User}
    (waits : (self.setState number state).Subscribing user objectId) :
    (∃ first group, state = .subscribing user first group ∧ first.objectId = objectId) ∨
      self.Subscribing user objectId := by
  obtain ⟨other, runner, first, group, found, waits, about⟩ := waits
  rw [setState_getElem?] at found
  split at found
  · obtain ⟨_, _, rfl⟩ := Option.map_eq_some_iff.mp found
    exact .inl ⟨first, group, waits, about⟩
  · exact .inr ⟨other, runner, first, group, found, waits, about⟩

theorem NoGhosts.setState (noGhosts : self.NoGhosts) (number : Nat) {state : RunnerState User}
    (present : ∀ user first group, state = .subscribing user first group → Present none user first.objectId self) :
    (self.setState number state).NoGhosts := by
  refine ⟨fun objectId user contained => ?_, fun user objectId waits => ?_,
    noGhosts.wellFormed.of_frame ⟨rfl, rfl, rfl, rfl⟩⟩
  · exact (noGhosts.subscribed objectId user contained).imp_right fun found => found.of_eq rfl rfl rfl
  · have found : Present none user objectId self := by
      cases subscribing_setState waits with
      | inl held =>
        obtain ⟨first, group, same, rfl⟩ := held
        exact present user first group same
      | inr before => exact noGhosts.subscribing user objectId before
    exact found.of_eq rfl rfl rfl

theorem NoGhosts.removeStream (noGhosts : self.NoGhosts) (detached : self.Detached user) :
    (self.setStream user none).NoGhosts := by
  have present {other : User} {objectId : String} (different : other ≠ user) (present : Present none other objectId self) :
      Present none other objectId (self.setStream user none) := by
    refine ⟨?_, present.edits, present.stays⟩
    simpa [setStream, different] using present.stream
  refine ⟨fun objectId other contained => ?_, fun other objectId waits => ?_,
    noGhosts.wellFormed.of_frame ⟨rfl, rfl, rfl, rfl⟩⟩
  · refine (noGhosts.subscribed objectId other contained).imp_right (present ?_)
    rintro rfl
    cases (detached objectId).1.symm.trans contained
  · refine present ?_ (noGhosts.subscribing other objectId waits)
    rintro rfl
    exact (detached objectId).2 waits

theorem NoGhosts.finish (noGhosts : self.NoGhosts) (number : Nat) {received : Bool}
    (kept : received = true ∨ self.Detached user) : (self.finish number user received).NoGhosts := by
  cases received with
  | true => exact noGhosts.setState number nofun
  | false => exact (noGhosts.removeStream (kept.resolve_left nofun)).setState number nofun

theorem NoGhosts.insertSubscriber (noGhosts : self.NoGhosts) (present : Present none user objectId self)
    (number : Nat) :
    (self.insertSubscriber objectId number user).NoGhosts := by
  refine ⟨fun other subscriber contained => ?_, fun _ _ waits => ?_,
    noGhosts.wellFormed.of_frame ⟨rfl, rfl, rfl, rfl⟩⟩
  · have known : self.containsUser other subscriber = true ∨ other = objectId ∧ subscriber = user := by
      cases containsUser_modifyGroup contained with
      | inl before => exact .inl before
      | inr held =>
        obtain ⟨rfl, group, found, contained⟩ := held
        split at contained
        · simp only [Group.containsUser, Group.insertUser, List.mem_insert_iff, decide_eq_true_eq] at contained
          cases contained with
          | inl same => exact .inr ⟨rfl, same⟩
          | inr before => exact .inl (by simp [containsUser, found, Group.containsUser, before])
        · exact .inl (by simp [containsUser, found, contained])
    cases known with
    | inl before => exact (noGhosts.subscribed other subscriber before).imp_right fun found => found.of_eq rfl rfl rfl
    | inr held =>
      obtain ⟨rfl, rfl⟩ := held
      exact .inr (present.of_eq rfl rfl rfl)
  · exact (noGhosts.subscribing _ _ waits).of_eq rfl rfl rfl

theorem beginSubscribe_keepsKnown (self : Server User) (user : User) (first : ClientCollabMessage) :
    KeepsKnown self (self.beginSubscribe user first) := by
  have edited : KeepsKnown self
      (self.setEditing user ((self.editingCollabByUser user).insert ⟨first.objectId, first.origin⟩)) := by
    refine ⟨fun _ _ => id, fun _ _ _ _ _ => Iff.rfl, fun _ => id, fun other objectId edits => ?_, fun _ _ => id⟩
    obtain ⟨editing, listed, about⟩ := edits
    refine ⟨editing, ?_, about⟩
    simp only [setEditing, Function.update_apply]
    split
    · next same => exact List.mem_insert_of_mem (same ▸ listed)
    · exact listed
  refine edited.trans (modifyGroup_keepsKnown _ first.objectId fun group other remains => ?_)
  unfold Group.freeDevice at remains
  split at remains
  · exact (containsUser_removeUser.mp remains).1
  · exact remains

theorem beginSubscribe_present {first : ClientCollabMessage} (wellFormed : self.WellFormed)
    (connected : (self.clientStreamByUser user).isSome = true) (stays : self.leaving user = false) :
    Present none user first.objectId (self.beginSubscribe user first) := by
  have known : (self.beginSubscribe user first).WellFormed := wellFormed.of_frame ⟨rfl, rfl, rfl, rfl⟩
  refine Present.leaving known connected ?_ stays
  refine ⟨⟨first.objectId, first.origin⟩, ?_, rfl⟩
  rw [beginSubscribe, modifyGroup, setGroup, setEditing]
  simp

theorem NoGhosts.subscribeGroup (noGhosts : self.NoGhosts) (number : Nat) {first : ClientCollabMessage}
    {received : Bool}
    (enters : self.containsGroup first.objectId = true → self.containsUser first.objectId user = false →
      self.leaving user = false ∧ received = true)
    (kept : received = true ∨ self.Detached user) : (self.subscribeGroup number user first received).NoGhosts := by
  have keeps := beginSubscribe_keepsKnown self user first
  have begun : (self.beginSubscribe user first).NoGhosts :=
    noGhosts.of_keepsKnown keeps (noGhosts.wellFormed.of_frame ⟨rfl, rfl, rfl, rfl⟩)
  have present {session : Nat} {group : Group User} (connected : self.clientStreamByUser user = some session)
      (found : self.groupByObjectId first.objectId = some group) (absent : group.containsUser user = false) :
      Present none user first.objectId (self.beginSubscribe user first) ∧ received = true := by
    have entering := enters (by simp [containsGroup, found]) (by simp [containsUser, found, absent])
    exact ⟨beginSubscribe_present noGhosts.wellFormed (by simp [connected]) entering.1, entering.2⟩
  refine subscribeGroup_cases (motive := NoGhosts) (noGhosts.finish number kept) ?_ ?_
  · intro session group connected found absent _
    refine begun.setState number ?_
    rintro _ _ _ ⟨⟩
    exact (present connected found absent).1
  · intro session group connected found absent
    obtain ⟨known, received⟩ := present connected found absent
    exact (begun.insertSubscriber known group.number).finish number (.inl received)

theorem NoGhosts.resubscribe (noGhosts : self.NoGhosts) (number : Nat) (objectId : String) {first : ClientCollabMessage}
    {received : Bool}
    (enters : self.containsGroup first.objectId = true → self.containsUser first.objectId user = false →
      self.leaving user = false ∧ received = true)
    (kept : received = true ∨ self.Detached user) :
    (self.resubscribe number user objectId first received).NoGhosts :=
  resubscribe_cases (noGhosts.finish number kept) (noGhosts.subscribeGroup number enters kept)

theorem Undisturbed.entering {number : Nat} {received : Bool} (undisturbed : self.Undisturbed (.runner number received))
    (enters : self.enters number = some user) : self.leaving user = false ∧ received = true := by
  obtain ⟨staying, received⟩ := undisturbed
  rw [enters] at staying received
  exact ⟨by simpa using staying, received.resolve_right fun nobody => nomatch nobody.1⟩

theorem Undisturbed.serving {number : Nat} {received : Bool} (undisturbed : self.Undisturbed (.runner number received))
    (serves : self.serves number = some user) : received = true ∨ self.Detached user := by
  refine undisturbed.2.imp_right fun detached objectId => ?_
  obtain ⟨unlocked, absent⟩ := detached.2 user serves
  refine ⟨absent objectId, fun waits => ?_⟩
  cases waits.locked.symm.trans unlocked

omit [RealtimeUser User] in
theorem setRunner_keepsKnown {number : Nat} {runner : Runner User} (found : self.runners[number]? = some runner)
    (queue : List (GroupCommand User)) : KeepsKnown self (self.setRunner number { runner with queue }) := by
  refine ⟨fun _ _ => id, fun _ _ _ _ _ => Iff.rfl, fun _ => id, fun _ _ => id, fun user objectId waits => ?_⟩
  obtain ⟨other, next, first, group, present, waits, about⟩ := waits
  rw [setRunner_getElem? found] at present
  split at present
  · cases present
    exact ⟨number, runner, first, group, found, waits, about⟩
  · exact ⟨other, next, first, group, present, waits, about⟩

omit [RealtimeUser User] in
theorem createGroup_keepsKnown (self : Server User) (objectId : String) :
    KeepsKnown self (self.createGroup objectId) := by
  refine ⟨fun other user contained => ?_, fun _ _ _ _ _ => Iff.rfl, fun _ => id, fun _ _ => id, fun _ _ => id⟩
  simp only [containsUser, createGroup, setGroup, Function.update_apply] at contained ⊢
  split_ifs at contained
  · simp [Group.containsUser, Group.new] at contained
  · exact contained

theorem NoGhosts.handleCollabMessage (noGhosts : self.NoGhosts) (number : Nat) (objectId : String)
    {messages : List ClientCollabMessage} {received : Bool}
    (enters : ∀ first rest, messages = first :: rest → self.containsGroup first.objectId = true →
      self.containsUser first.objectId user = false → self.leaving user = false ∧ received = true)
    (kept : received = true ∨ self.Detached user) :
    (self.handleCollabMessage number user objectId messages received).NoGhosts := by
  apply handleCollabMessage_cases (motive := NoGhosts)
  case dropped => exact noGhosts
  case unsubscribes =>
    intro first rest _ _
    have keeps : KeepsKnown self (self.modifyGroup objectId fun group => group.removeUser user) :=
      modifyGroup_keepsKnown self objectId fun _ _ remains => (containsUser_removeUser.mp remains).1
    exact (noGhosts.of_keepsKnown keeps (noGhosts.wellFormed.of_frame ⟨rfl, rfl, rfl, rfl⟩)).setState number nofun
  case resubscribes => exact fun first rest same => noGhosts.resubscribe number objectId (enters first rest same) kept
  case creates => exact fun _ _ _ _ => noGhosts.setState number nofun

theorem NoGhosts.runRunner (noGhosts : self.NoGhosts) {number : Nat} {received : Bool}
    (undisturbed : self.Undisturbed (.runner number received)) : (self.runRunner number received).NoGhosts := by
  have framed {after : Server User} (keeps : KeepsKnown self after) (frame : HandlerFrame self after) : after.NoGhosts :=
    noGhosts.of_keepsKnown keeps (noGhosts.wellFormed.of_frame frame)
  apply runRunner_cases (motive := NoGhosts)
  case rests => exact noGhosts
  case encoded => exact fun _ _ _ => noGhosts.setState number nofun
  case takes =>
    rintro ⟨object, queue, state⟩ command rest found rfl rfl
    have keeps := setRunner_keepsKnown found rest
    have taken := framed keeps ⟨rfl, rfl, rfl, rfl⟩
    cases command with
    | encodeCollab objectId => exact taken.setState number nofun
    | handleClientCollabMessage user objectId messages =>
      refine taken.handleCollabMessage number objectId ?_ ?_
      · rintro first others rfl contained absent
        have contained : self.containsGroup first.objectId = true := contained
        have absent : self.containsUser first.objectId user = false := absent
        have entering : self.enters number = some user := by simp [enters, found, contained, absent]
        exact undisturbed.entering entering
      · have serving : self.serves number = some user := by simp [serves, found]
        exact (undisturbed.serving serving).imp_right fun detached => detached.of_keepsKnown keeps
  case unsubscribed =>
    rintro ⟨object, queue, state⟩ user objectId first found rfl
    refine noGhosts.resubscribe number objectId (fun contained absent => ?_) ?_
    · exact undisturbed.entering (by simp [enters, found, contained, absent])
    · exact undisturbed.serving (by simp [serves, found])
  case created =>
    rintro ⟨object, queue, state⟩ user first found rfl
    have enters : self.enters number = some user := by simp [enters, found]
    have entering := undisturbed.entering enters
    have created := framed (createGroup_keepsKnown self first.objectId) ⟨rfl, rfl, rfl, rfl⟩
    exact created.subscribeGroup number (fun _ _ => entering) (.inl entering.2)
  case subscribed =>
    rintro ⟨object, queue, state⟩ user first group found rfl
    have enters : self.enters number = some user := by simp [enters, found]
    have entering := undisturbed.entering enters
    have present := noGhosts.subscribing user first.objectId ⟨number, _, first, group, found, rfl, rfl⟩
    exact (noGhosts.insertSubscriber present group).finish number (.inl entering.2)

/-! ## Runs -/

theorem start_keepsKnown {self : Server User} (wellFormed : self.WellFormed) (runner : Nat)
    (command : GroupCommand User) :
    KeepsKnown self (self.start (.sending runner command)) := by
  refine ⟨fun _ _ => id, fun number _ _ _ _ => ?_, fun _ => id, fun _ _ => id, fun _ _ => id⟩
  by_cases same : number = self.started
  · subst same
    simp [start, setFuture, wellFormed.fresh self.started le_rfl]
  · simp [start, setFuture, same]

omit [RealtimeUser User] in
theorem spawn_keepsKnown (self : Server User) (objectId : String) (senders : String → Option Nat) :
    KeepsKnown self { self with
      runners := self.runners ++ [⟨objectId, [], .idle⟩]
      groupSenderByObjectId := senders } := by
  refine ⟨fun _ _ => id, fun _ _ _ _ _ => Iff.rfl, fun _ => id, fun _ _ => id, fun user object waits => ?_⟩
  obtain ⟨number, runner, first, group, found, waits, about⟩ := waits
  cases List.mem_append.mp (List.mem_of_getElem? found) with
  | inl older =>
    obtain ⟨number, found⟩ := List.mem_iff_getElem?.mp older
    exact ⟨number, runner, first, group, found, waits, about⟩
  | inr new =>
    cases List.mem_singleton.mp new
    cases waits

omit [RealtimeUser User] in
theorem send_keepsKnown {future number : Nat} {command : GroupCommand User}
    (waiting : self.futures future = some (.sending number command)) :
    KeepsKnown self (self.send future number command) := by
  unfold send
  split
  · exact .refl self
  · next runner found =>
    split
    · refine (setRunner_keepsKnown found (runner.queue ++ [command])).trans ?_
      refine ⟨fun _ _ => id, fun other _ _ _ _ => ?_, fun _ => id, fun _ _ => id, fun _ _ => id⟩
      by_cases same : other = future
      · subst same
        simp [setFuture, setRunner, waiting]
      · simp [setFuture, setRunner, same]
    · exact .refl self

omit [RealtimeUser User] in
theorem tick_keepsKnown (self : Server User) (order : List String) (elapsed : String → Bool) :
    KeepsKnown self (self.tick order elapsed) := by
  have frame := tick_frame self order elapsed
  refine ⟨fun objectId user contained => ?_, ?_, ?_, ?_, ?_⟩
  · rw [containsUser, tick_groupByObjectId] at contained
    split_ifs at contained
    exact contained
  · rw [frame.futures]
    exact fun _ _ _ _ _ => Iff.rfl
  · rw [frame.clientStreamByUser]
    exact fun _ => id
  · intro user objectId edits
    rwa [Edits, frame.editingCollabByUser]
  · intro user objectId waits
    rwa [Subscribing, frame.runners] at waits

theorem NoGhosts.step (noGhosts : self.NoGhosts) {event : Event User} (undisturbed : self.Undisturbed event) :
    (self.step event).NoGhosts := by
  have wellFormed := noGhosts.wellFormed.step event
  cases event with
  | connect user order => exact noGhosts.connect undisturbed
  | disconnect user session order => exact noGhosts.disconnect undisturbed
  | message user objectId collabMessages =>
    refine noGhosts.of_keepsKnown ?_ wellFormed
    rw [Server.step, processClientCollabMessage]
    split
    · exact start_keepsKnown noGhosts.wellFormed _ _
    · refine (spawn_keepsKnown self objectId _).trans (start_keepsKnown ?_ _ _)
      exact noGhosts.wellFormed.of_frame ⟨rfl, rfl, rfl, rfl⟩
  | getEncodeCollab objectId =>
    refine noGhosts.of_keepsKnown ?_ wellFormed
    rw [Server.step, getEncodeCollab]
    split
    · exact start_keepsKnown noGhosts.wellFormed _ _
    · exact .refl self
  | poll number =>
    rw [Server.step, pollFuture] at wellFormed ⊢
    split at wellFormed
    · exact noGhosts
    · next found => exact noGhosts.continueRemoveUser found
    · next waiting => exact noGhosts.of_keepsKnown (send_keepsKnown waiting) wellFormed
  | runner number received => exact noGhosts.runRunner undisturbed
  | tick order elapsed => exact noGhosts.of_keepsKnown (tick_keepsKnown self order elapsed) wellFormed

theorem noGhosts_new : NoGhosts (new : Server User) :=
  ⟨fun _ _ contained => (nomatch contained), fun _ _ ⟨_, _, _, _, found, _⟩ => (nomatch found), wellFormed_new⟩

/-- In every undisturbed run, where no handler and no runner is in the middle of a step every
    subscriber is known. -/
theorem no_ghost_subscribers (events : List (Event User)) (undisturbed : Always step Undisturbed new events)
    (quiet : (run step new events).Quiet) : (run step new events).SubscribersKnown := by
  have noGhosts : (run step new events).NoGhosts :=
    Always.invariant (fun (self : Server User) _ (noGhosts : self.NoGhosts) undisturbed => noGhosts.step undisturbed)
      noGhosts_new undisturbed
  intro objectId user contained
  cases noGhosts.subscribed objectId user contained with
  | inl held =>
    obtain ⟨number, _, _, _, _, found, _⟩ := held
    cases (quiet.1 number).symm.trans found
  | inr present => exact ⟨present.stream, present.edits⟩

theorem run_quiet {events : List (Event User)}
    (finished : ∀ number < (run step new events).started, ((run step new events).futures number).isNone = true)
    (idle : ((run step new events).runners.all fun runner => runner.state matches .idle) = true) :
    (run step new events).Quiet := ⟨(run_wellFormed events).finished finished, idle⟩

end Server

end Server

/-! ## Two runs -/

/-- A user opens an object and leaves, and another user opens it. -/
def openedInTurn : List (Event (Int × String)) :=
  .connect (1, "device") [] :: opens 1 "doc" 0 0 ++
    [.disconnect (1, "device") 0 [], .poll 1, .connect (2, "device") [],
      .message (2, "device") "doc" [initSync 2 "doc"], .poll 2, .runner 0 true]

theorem openedInTurn_known : (run Server.step Server.new openedInTurn).SubscribersKnown := by
  refine Server.no_ghost_subscribers openedInTurn ?_ (Server.run_quiet (by decide +kernel) (by decide +kernel))
  exact ⟨rfl, trivial, trivial, ⟨rfl, .inl rfl⟩, ⟨rfl, .inl rfl⟩, fun _ => rfl, trivial, rfl, trivial, trivial,
    ⟨rfl, .inl rfl⟩, trivial⟩

/-- A user opens two objects and disconnects while the second one is loaded.  The stop of the
    subscription of `"first"` yields where the budget of the task is used up: it stands for the
    last of more than sixty-four objects that he has open. -/
def openedWhileLeaving : List (Event (Int × String)) :=
  .connect (1, "device") [] :: opens 1 "first" 0 0 ++
    [.message (1, "device") "second" [initSync 1 "second"], .poll 1, .runner 1 true,
      .disconnect (1, "device") 0 [], .runner 1 true, .poll 2]

theorem openedWhileLeaving_ghost :
    ¬ ∀ events : List (Event (Int × String)),
      Always Server.step (fun self event => self.mayRun event = true) Server.new events →
        (run Server.step Server.new events).Quiet → (run Server.step Server.new events).SubscribersKnown := by
  intro known
  have known := known openedWhileLeaving (by decide +kernel) (Server.run_quiet (by decide +kernel) (by decide +kernel))
  obtain ⟨stream, -⟩ := known "second" (1, "device") (by decide +kernel)
  revert stream
  decide +kernel

end FlowCloud.Tasks
