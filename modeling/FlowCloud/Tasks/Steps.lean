import FlowCloud.Tasks.Server

/-! # What a step can do

One case rule for each function that looks before it acts: whatever holds of every way out
holds of the step.  Then what the steps of a runner and of a removal leave alone.
-/

namespace FlowCloud.Tasks

open FlowCloud.Foundation FlowCloud.Entity FlowCloud.Server

section Server

variable {User : Type} [DecidableEq User] [RealtimeUser User]

namespace Server

variable {self : Server User} {motive : Server User → Prop}

/-! ## Removing a user -/

omit [DecidableEq User] [RealtimeUser User] in
theorem insertStream_ne_removeStream {user other : User} {session later : Nat} :
    After.insertStream user session ≠ .removeStream other later := by
  simp

omit [RealtimeUser User] in
theorem leave_cases (self : Server User) (user : User) : ∀ editings : List Editing,
    self.leave user editings = (self, none) ∧
      (∀ editing ∈ editings, self.containsUser editing.objectId user = false) ∨
    ∃ skipped editing remaining, editings = skipped ++ editing :: remaining ∧
      (∀ other ∈ skipped, self.containsUser other.objectId user = false) ∧
      self.containsUser editing.objectId user = true ∧
      self.leave user editings =
        (self.modifyGroup editing.objectId fun group => group.removeUser user, some (editing.objectId, remaining))
  | [] => .inl ⟨rfl, List.forall_mem_nil _⟩
  | editing :: remaining => by
    rw [leave]
    cases contained : self.containsUser editing.objectId user with
    | true => exact .inr ⟨[], editing, remaining, rfl, List.forall_mem_nil _, contained, rfl⟩
    | false =>
      rcases leave_cases self user remaining with
        ⟨ended, absent⟩ | ⟨skipped, found, rest, rfl, absent, contained', stopped⟩
      · exact .inl ⟨ended, List.forall_mem_cons.mpr ⟨contained, absent⟩⟩
      · exact .inr ⟨editing :: skipped, found, rest, rfl, List.forall_mem_cons.mpr ⟨contained, absent⟩, contained',
          stopped⟩

omit [RealtimeUser User] in
theorem removeUser_cases {future : Nat} {user : User} {editings : List Editing} {after : After User}
    (ends : (∀ editing ∈ editings, self.containsUser editing.objectId user = false) →
      motive ((self.conclude after).setFuture future none))
    (stops : ∀ skipped editing remaining, editings = skipped ++ editing :: remaining →
      (∀ other ∈ skipped, self.containsUser other.objectId user = false) →
      self.containsUser editing.objectId user = true →
      motive ((self.modifyGroup editing.objectId fun group => group.removeUser user).setFuture future
        (some (.removing user editing.objectId remaining after)))) :
    motive (self.removeUser future user editings after) := by
  rcases leave_cases self user editings with
    ⟨ended, absent⟩ | ⟨skipped, editing, remaining, parts, absent, contained, stopped⟩
  · rw [removeUser, ended]
    exact ends absent
  · rw [removeUser, stopped]
    exact stops skipped editing remaining parts absent contained

omit [RealtimeUser User] in
theorem disconnect_cases {user : User} {session : Nat} {order : List Editing}
    (stale : ∀ current, self.sessionIdByUser user = some current → current ≠ session → motive self)
    (leaves : (∀ current, self.sessionIdByUser user = some current → current = session) →
      motive (self.beginRemoveUser user order (.removeStream user session))) :
    motive (self.disconnect user session order) := by
  unfold disconnect
  cases known : self.sessionIdByUser user with
  | none => exact leaves fun current present => by rw [known] at present; cases present
  | some current =>
    dsimp only
    split
    · next same => exact leaves fun other present => by rw [known] at present; cases present; exact same
    · next other => exact stale current known other

/-! ## Runners -/

theorem subscribeGroup_cases {number : Nat} {user : User} {first : ClientCollabMessage} {received : Bool}
    (finished : motive (self.finish number user received))
    (waits : ∀ session group, self.clientStreamByUser user = some session →
      self.groupByObjectId first.objectId = some group → group.containsUser user = false →
      group.displaces user = true →
      motive ((self.beginSubscribe user first).setState number (.subscribing user first group.number)))
    (joins : ∀ session group, self.clientStreamByUser user = some session →
      self.groupByObjectId first.objectId = some group → group.containsUser user = false →
      motive (((self.beginSubscribe user first).insertSubscriber first.objectId group.number user).finish number user
        received)) :
    motive (self.subscribeGroup number user first received) := by
  unfold subscribeGroup
  split
  · next session group connected found =>
    split
    · exact finished
    · next absent =>
      have absent := Bool.eq_false_iff.mpr absent
      split
      · next displaces => exact waits session group connected found absent displaces
      · exact joins session group connected found absent
  · exact finished

theorem resubscribe_cases {number : Nat} {user : User} {objectId : String} {first : ClientCollabMessage}
    {received : Bool} (finished : motive (self.finish number user received))
    (subscribes : motive (self.subscribeGroup number user first received)) :
    motive (self.resubscribe number user objectId first received) := by
  unfold resubscribe
  split
  · exact finished
  · exact subscribes

theorem handleCollabMessage_cases {number : Nat} {user : User} {objectId : String}
    {messages : List ClientCollabMessage} {received : Bool} (dropped : motive self)
    (unsubscribes : ∀ first rest, messages = first :: rest → self.containsUser objectId user = true →
      motive ((self.modifyGroup objectId fun group => group.removeUser user).setState number
        (.unsubscribing user objectId first)))
    (resubscribes : ∀ first rest, messages = first :: rest →
      motive (self.resubscribe number user objectId first received))
    (creates : ∀ first rest, messages = first :: rest → self.groupByObjectId objectId = none →
      motive (self.setState number (.creating user first))) :
    motive (self.handleCollabMessage number user objectId messages received) := by
  unfold handleCollabMessage
  split
  · exact dropped
  · next first rest =>
    split
    · exact dropped
    · split
      · split
        · next again =>
          rw [Bool.and_eq_true] at again
          exact unsubscribes first rest rfl again.2
        · exact resubscribes first rest rfl
      · next missing =>
        split
        · exact creates first rest rfl (Option.not_isSome_iff_eq_none.mp missing)
        · exact dropped

theorem runRunner_cases {number : Nat} {received : Bool} (rests : motive self)
    (takes : ∀ runner command queue, self.runners[number]? = some runner → runner.state = .idle →
      runner.queue = command :: queue →
      motive ((self.setRunner number { runner with queue }).handleCommand number command received))
    (encoded : ∀ runner, self.runners[number]? = some runner → runner.state = .encoding →
      motive (self.setState number .idle))
    (unsubscribed : ∀ runner user objectId first, self.runners[number]? = some runner →
      runner.state = .unsubscribing user objectId first →
      motive (self.resubscribe number user objectId first received))
    (created : ∀ runner user first, self.runners[number]? = some runner → runner.state = .creating user first →
      motive ((self.createGroup first.objectId).subscribeGroup number user first received))
    (subscribed : ∀ runner user first group, self.runners[number]? = some runner →
      runner.state = .subscribing user first group →
      motive ((self.insertSubscriber first.objectId group user).finish number user received)) :
    motive (self.runRunner number received) := by
  unfold runRunner
  cases found : self.runners[number]? with
  | none => exact rests
  | some runner =>
    obtain ⟨objectId, queue, state⟩ := runner
    cases state with
    | idle =>
      cases queue with
      | nil => exact rests
      | cons command queue => exact takes _ command queue found rfl rfl
    | unsubscribing user objectId first => exact unsubscribed _ user objectId first found rfl
    | creating user first => exact created _ user first found rfl
    | subscribing user first group => exact subscribed _ user first group found rfl
    | encoding => exact encoded _ found rfl

omit [DecidableEq User] [RealtimeUser User] in
theorem setRunner_getElem? {self : Server User} {number : Nat} {runner : Runner User}
    (found : self.runners[number]? = some runner) (next : Runner User) (other : Nat) :
    (self.setRunner number next).runners[other]? = if other = number then some next else self.runners[other]? := by
  rw [setRunner, List.getElem?_set]
  have inside := (List.getElem?_eq_some_iff.mp found).1
  split
  · next same => rw [if_pos same.symm]
  · next different => rw [if_neg fun same => different same.symm]

omit [DecidableEq User] [RealtimeUser User] in
theorem setState_getElem? (self : Server User) (number : Nat) (state : RunnerState User) (other : Nat) :
    (self.setState number state).runners[other]? =
      if other = number then (self.runners[number]?).map fun runner => { runner with state }
      else self.runners[other]? := by
  rw [setState, List.getElem?_modify]
  split
  · next same =>
    subst same
    rw [if_pos rfl]
    rfl
  · next different =>
    rw [if_neg fun same => different same.symm]
    simp

/-- A preorder that whatever the runner writes keeps to, new groups apart. -/
structure KeptByRunner (number : Nat) (Kept : Server User → Server User → Prop) : Prop where
  refl : ∀ server, Kept server server
  trans : ∀ first second third, Kept first second → Kept second third → Kept first third
  setState : ∀ server state, Kept server (server.setState number state)
  removeStream : ∀ server user, Kept server (server.setStream user none)
  setEditing : ∀ server user editing, Kept server (server.setEditing user editing)
  modifyGroup : ∀ server objectId change, (∀ group, (change group).number = group.number) →
    Kept server (server.modifyGroup objectId change)

section Kept

variable {number : Nat} {Kept : Server User → Server User → Prop} (kept : KeptByRunner number Kept)

include kept

omit [RealtimeUser User] in
theorem KeptByRunner.finish (server : Server User) (user : User) (received : Bool) :
    Kept server (server.finish number user received) := by
  cases received with
  | true => exact kept.setState server .idle
  | false => exact kept.trans _ _ _ (kept.removeStream server user) (kept.setState _ .idle)

theorem KeptByRunner.beginSubscribe (server : Server User) (user : User) (first : ClientCollabMessage) :
    Kept server (server.beginSubscribe user first) := by
  refine kept.trans _ _ _ (kept.setEditing server user _) (kept.modifyGroup _ _ _ fun group => ?_)
  unfold Group.freeDevice
  split <;> rfl

theorem KeptByRunner.insertSubscriber (server : Server User) (objectId : String) (group : Nat) (user : User) :
    Kept server (server.insertSubscriber objectId group user) := by
  refine kept.modifyGroup server objectId _ fun group => ?_
  split <;> rfl

theorem KeptByRunner.subscribeGroup (server : Server User) (user : User) (first : ClientCollabMessage)
    (received : Bool) : Kept server (server.subscribeGroup number user first received) := by
  have begun := kept.beginSubscribe server user first
  refine subscribeGroup_cases (kept.finish server user received) ?_ ?_
  · intro _ _ _ _ _ _
    exact kept.trans _ _ _ begun (kept.setState _ _)
  · intro _ group _ _ _
    have joined := kept.trans _ _ _ begun (kept.insertSubscriber _ first.objectId group.number user)
    exact kept.trans _ _ _ joined (kept.finish _ user received)

theorem KeptByRunner.resubscribe (server : Server User) (user : User) (objectId : String)
    (first : ClientCollabMessage) (received : Bool) :
    Kept server (server.resubscribe number user objectId first received) :=
  resubscribe_cases (kept.finish server user received) (kept.subscribeGroup server user first received)

theorem KeptByRunner.handleCommand (server : Server User) (command : GroupCommand User) (received : Bool) :
    Kept server (server.handleCommand number command received) := by
  cases command with
  | encodeCollab objectId => exact kept.setState server .encoding
  | handleClientCollabMessage user objectId messages =>
    refine handleCollabMessage_cases (kept.refl server) ?_ ?_ ?_
    · intro _ _ _ _
      have removed := kept.modifyGroup server objectId (fun group => group.removeUser user) fun _ => rfl
      exact kept.trans _ _ _ removed (kept.setState _ _)
    · intro first _ _
      exact kept.resubscribe server user objectId first received
    · intro _ _ _ _
      exact kept.setState server _

theorem KeptByRunner.runRunner
    (take : ∀ server runner command queue, server.runners[number]? = some runner → runner.queue = command :: queue →
      Kept server (server.setRunner number { runner with queue }))
    (create : ∀ server objectId, Kept server (server.createGroup objectId)) (server : Server User) (received : Bool) :
    Kept server (server.runRunner number received) := by
  apply runRunner_cases
  case rests => exact kept.refl server
  case takes =>
    intro runner command queue found _ queued
    exact kept.trans _ _ _ (take server runner command queue found queued) (kept.handleCommand _ command received)
  case encoded =>
    intro _ _ _
    exact kept.setState server .idle
  case unsubscribed =>
    intro _ user objectId first _ _
    exact kept.resubscribe server user objectId first received
  case created =>
    intro _ user first _ _
    exact kept.trans _ _ _ (create server _) (kept.subscribeGroup _ user first received)
  case subscribed =>
    intro _ user first group _ _
    exact kept.trans _ _ _ (kept.insertSubscriber server first.objectId group user) (kept.finish _ user received)

end Kept

/-- What only the handlers change. -/
structure HandlerFrame (before after : Server User) : Prop where
  userByDevice : after.userByDevice = before.userByDevice
  sessionIdByUser : after.sessionIdByUser = before.sessionIdByUser
  futures : after.futures = before.futures
  started : after.started = before.started

omit [DecidableEq User] [RealtimeUser User] in
theorem HandlerFrame.refl (server : Server User) : HandlerFrame server server := ⟨rfl, rfl, rfl, rfl⟩

theorem runRunner_handlerFrame (self : Server User) (number : Nat) (received : Bool) :
    HandlerFrame self (self.runRunner number received) := by
  have kept : KeptByRunner number (@HandlerFrame User) := {
    refl := .refl
    trans := fun _ _ _ left right =>
      ⟨right.userByDevice.trans left.userByDevice, right.sessionIdByUser.trans left.sessionIdByUser,
        right.futures.trans left.futures, right.started.trans left.started⟩
    setState := fun _ _ => ⟨rfl, rfl, rfl, rfl⟩
    removeStream := fun _ _ => ⟨rfl, rfl, rfl, rfl⟩
    setEditing := fun _ _ _ => ⟨rfl, rfl, rfl, rfl⟩
    modifyGroup := fun _ _ _ _ => ⟨rfl, rfl, rfl, rfl⟩ }
  exact kept.runRunner (fun _ _ _ _ _ _ => ⟨rfl, rfl, rfl, rfl⟩) (fun _ _ => ⟨rfl, rfl, rfl, rfl⟩) self received

/-- The user whose messages a step of the runner handles. -/
def serves (self : Server User) (number : Nat) : Option User :=
  match self.runners[number]? with
  | some ⟨_, .handleClientCollabMessage user _ _ :: _, .idle⟩ => some user
  | some ⟨_, _, .unsubscribing user _ _⟩ => some user
  | some ⟨_, _, .creating user _⟩ => some user
  | some ⟨_, _, .subscribing user _ _⟩ => some user
  | _ => none

omit [RealtimeUser User] in
theorem finish_stream (self : Server User) (number : Nat) {user other : User} {received : Bool}
    (kept : received = true ∨ user ≠ other) :
    (self.finish number user received).clientStreamByUser other = self.clientStreamByUser other := by
  cases received with
  | true => rfl
  | false => exact Function.update_of_ne (kept.resolve_left nofun).symm _ _

theorem subscribeGroup_stream (self : Server User) (number : Nat) {user other : User} (first : ClientCollabMessage)
    {received : Bool} (kept : received = true ∨ user ≠ other) :
    (self.subscribeGroup number user first received).clientStreamByUser other = self.clientStreamByUser other := by
  refine subscribeGroup_cases (motive := fun after => after.clientStreamByUser other = self.clientStreamByUser other) ?_ ?_ ?_
  · exact finish_stream self number kept
  · intro _ _ _ _ _ _
    rfl
  · intro _ _ _ _ _
    exact finish_stream _ number kept

theorem resubscribe_stream (self : Server User) (number : Nat) {user other : User} (objectId : String)
    (first : ClientCollabMessage) {received : Bool} (kept : received = true ∨ user ≠ other) :
    (self.resubscribe number user objectId first received).clientStreamByUser other = self.clientStreamByUser other := by
  refine resubscribe_cases (motive := fun after => after.clientStreamByUser other = self.clientStreamByUser other) ?_ ?_
  · exact finish_stream self number kept
  · exact subscribeGroup_stream self number first kept

/-- A runner takes a client stream away from nobody but the user that it serves. -/
theorem runRunner_stream (self : Server User) (number : Nat) {other : User} {received : Bool}
    (kept : received = true ∨ self.serves number ≠ some other) :
    (self.runRunner number received).clientStreamByUser other = self.clientStreamByUser other := by
  have served {user : User} (serves : self.serves number = some user) : received = true ∨ user ≠ other :=
    kept.imp_right fun noOther same => noOther (same ▸ serves)
  apply runRunner_cases (motive := fun after => after.clientStreamByUser other = self.clientStreamByUser other)
  case rests => rfl
  case encoded => intros; rfl
  case takes =>
    rintro ⟨objectId, queue, state⟩ command rest found rfl rfl
    cases command with
    | encodeCollab objectId => rfl
    | handleClientCollabMessage user objectId messages =>
      have kept : received = true ∨ user ≠ other := served (by simp [serves, found])
      refine handleCollabMessage_cases (motive := fun after => after.clientStreamByUser other = self.clientStreamByUser other) ?_ ?_ ?_ ?_
      · rfl
      · intros; rfl
      · intro first _ _
        exact resubscribe_stream _ number objectId first kept
      · intros; rfl
  case unsubscribed =>
    rintro ⟨_, queue, state⟩ user objectId first found rfl
    exact resubscribe_stream _ number objectId first (served (by simp [serves, found]))
  case created =>
    rintro ⟨_, queue, state⟩ user first found rfl
    exact subscribeGroup_stream _ number first (served (by simp [serves, found]))
  case subscribed =>
    rintro ⟨_, queue, state⟩ user first group found rfl
    exact finish_stream _ number (served (by simp [serves, found]))

/-! ## The sweep -/

/-- What the sweep leaves to the handlers and the runners. -/
structure SweepFrame (before after : Server User) : Prop extends HandlerFrame before after where
  clientStreamByUser : after.clientStreamByUser = before.clientStreamByUser
  editingCollabByUser : after.editingCollabByUser = before.editingCollabByUser
  runners : after.runners = before.runners

omit [DecidableEq User] [RealtimeUser User] in
theorem removeGroups_frame (self : Server User) (collected : List String) :
    SweepFrame self (self.removeGroups collected) := by
  induction collected generalizing self with
  | nil => exact ⟨.refl self, rfl, rfl, rfl⟩
  | cons objectId collected ih =>
    have later := ih (self.removeGroup objectId)
    exact ⟨⟨later.userByDevice, later.sessionIdByUser, later.futures, later.started⟩,
      later.clientStreamByUser, later.editingCollabByUser, later.runners⟩

omit [DecidableEq User] [RealtimeUser User] in
theorem tick_frame (self : Server User) (order : List String) (elapsed : String → Bool) :
    SweepFrame self (self.tick order elapsed) := by
  have removed := removeGroups_frame self (self.inactiveGroupIds order elapsed)
  exact ⟨⟨removed.userByDevice, removed.sessionIdByUser, removed.futures, removed.started⟩,
    removed.clientStreamByUser, removed.editingCollabByUser, removed.runners⟩

omit [DecidableEq User] [RealtimeUser User] in
/-- The groups of the collected objects are gone, all others stay as they are. -/
theorem removeGroups_groupByObjectId (self : Server User) (collected : List String) (objectId : String) :
    (self.removeGroups collected).groupByObjectId objectId =
      if objectId ∈ collected then none else self.groupByObjectId objectId := by
  induction collected generalizing self with
  | nil => simp [removeGroups]
  | cons removed collected ih =>
    have later := ih (self.removeGroup removed)
    by_cases same : objectId = removed <;>
      simp_all [removeGroups, removeGroup, setGroup]

omit [DecidableEq User] [RealtimeUser User] in
theorem tick_groupByObjectId (self : Server User) (order : List String) (elapsed : String → Bool) (objectId : String) :
    (self.tick order elapsed).groupByObjectId objectId =
      if objectId ∈ self.inactiveGroupIds order elapsed then none else self.groupByObjectId objectId :=
  removeGroups_groupByObjectId self _ objectId

omit [DecidableEq User] [RealtimeUser User] in
theorem removeGroups_groupSenderByObjectId (self : Server User) (collected : List String) :
    (self.removeGroups collected).groupSenderByObjectId = self.groupSenderByObjectId := by
  induction collected generalizing self with
  | nil => rfl
  | cons removed collected ih => exact ih (self.removeGroup removed)

omit [RealtimeUser User] in
theorem containsUser_of_isInactive {self : Server User} {elapsed : String → Bool} {objectId : String}
    (inactive : self.isInactive elapsed objectId = true) (user : User) : self.containsUser objectId user = false := by
  unfold isInactive at inactive
  split at inactive
  · next group found =>
    have empty : group.subscribers = [] := by simpa using (Bool.and_eq_true_iff.mp inactive).2
    simp [containsUser, found, Group.containsUser, empty]
  · cases inactive

omit [DecidableEq User] [RealtimeUser User] in
theorem mem_inactiveGroupIds {self : Server User} {order : List String} {elapsed : String → Bool} {objectId : String}
    (collected : objectId ∈ self.inactiveGroupIds order elapsed) : self.isInactive elapsed objectId = true :=
  (List.mem_filter.mp (List.mem_of_mem_take collected)).2

/-! ## What holds of every server -/

structure WellFormed (server : Server User) : Prop where
  device : ∀ device user, server.userByDevice device = some user → UserDevice.from user = device
  fresh : ∀ number, server.started ≤ number → server.futures number = none

omit [DecidableEq User] in
theorem wellFormed_new : WellFormed (new : Server User) := ⟨(fun _ _ found => nomatch found), fun _ _ => rfl⟩

omit [DecidableEq User] in
theorem WellFormed.of_frame {before after : Server User} (wellFormed : before.WellFormed)
    (frame : HandlerFrame before after) : after.WellFormed := by
  refine ⟨fun device user found => wellFormed.device device user (frame.userByDevice ▸ found), fun number later => ?_⟩
  rw [frame.futures]
  exact wellFormed.fresh number (frame.started ▸ later)

omit [DecidableEq User] in
/-- A future that has started is set. -/
theorem WellFormed.setFuture {self : Server User} (wellFormed : self.WellFormed) {number : Nat}
    (started : number < self.started) (future : Option (Future User)) : (self.setFuture number future).WellFormed := by
  refine ⟨wellFormed.device, fun other later => ?_⟩
  have different : other ≠ number := (Nat.lt_of_lt_of_le started later).ne'
  simpa [Server.setFuture, different] using wellFormed.fresh other later

omit [DecidableEq User] in
theorem WellFormed.start {self : Server User} (wellFormed : self.WellFormed) (future : Future User) :
    (self.start future).WellFormed := by
  refine ⟨wellFormed.device, fun other later => ?_⟩
  have different : other ≠ self.started := (Nat.lt_of_succ_le later).ne'
  simpa [Server.start, Server.setFuture, different] using wellFormed.fresh other (Nat.le_of_succ_le later)

theorem WellFormed.removeUser {self : Server User} (wellFormed : self.WellFormed) {number : Nat}
    (started : number < self.started) (user : User) (editings : List Editing) (after : After User) :
    (self.removeUser number user editings after).WellFormed := by
  apply removeUser_cases
  · intro _
    have concluded : (self.conclude after).WellFormed := by cases after <;> exact wellFormed.of_frame ⟨rfl, rfl, rfl, rfl⟩
    refine concluded.setFuture ?_ none
    cases after <;> exact started
  · intro _ editing _ _ _ _
    have removed : (self.modifyGroup editing.objectId fun group => group.removeUser user).WellFormed :=
      wellFormed.of_frame ⟨rfl, rfl, rfl, rfl⟩
    exact removed.setFuture started _

theorem WellFormed.beginRemoveUser {self : Server User} (wellFormed : self.WellFormed) (user : User)
    (order : List Editing) (after : After User) : (self.beginRemoveUser user order after).WellFormed := by
  have taken : (self.takeEditing user).WellFormed :=
    ⟨wellFormed.device, fun number later => wellFormed.fresh number (Nat.le_of_succ_le later)⟩
  exact taken.removeUser (Nat.lt_succ_self self.started) _ _ _

theorem WellFormed.register {self : Server User} (wellFormed : self.WellFormed) (user : User) :
    (self.register user).WellFormed := by
  refine ⟨fun device other found => ?_, wellFormed.fresh⟩
  simp only [Server.register, Function.update_apply] at found
  split at found
  · next same =>
    cases found
    exact same.symm
  · exact wellFormed.device device other found

omit [DecidableEq User] in
theorem WellFormed.send {self : Server User} (wellFormed : self.WellFormed) {future : Nat}
    (started : future < self.started) (number : Nat) (command : GroupCommand User) :
    (self.send future number command).WellFormed := by
  unfold Server.send
  split
  · exact wellFormed
  · next runner _ =>
    split
    · have sent : (self.setRunner number { runner with queue := runner.queue ++ [command] }).WellFormed :=
        wellFormed.of_frame ⟨rfl, rfl, rfl, rfl⟩
      exact sent.setFuture started none
    · exact wellFormed

omit [DecidableEq User] in
theorem WellFormed.started {self : Server User} (wellFormed : self.WellFormed) {number : Nat} {future : Future User}
    (found : self.futures number = some future) : number < self.started := by
  cases Nat.lt_or_ge number self.started with
  | inl started => exact started
  | inr fresh => cases (wellFormed.fresh number fresh).symm.trans found

theorem WellFormed.step {self : Server User} (wellFormed : self.WellFormed) (event : Event User) :
    (self.step event).WellFormed := by
  cases event with
  | connect user order =>
    rw [Server.step, connect]
    cases self.userByDevice (.from user) with
    | none => exact (wellFormed.register user).of_frame ⟨rfl, rfl, rfl, rfl⟩
    | some oldUser =>
      have registered : ((self.register user).setStream oldUser none).WellFormed :=
        (wellFormed.register user).of_frame ⟨rfl, rfl, rfl, rfl⟩
      exact registered.beginRemoveUser oldUser order _
  | disconnect user session order =>
    apply disconnect_cases
    · intro _ _ _
      exact wellFormed
    · intro _
      exact wellFormed.beginRemoveUser user order _
  | message user objectId collabMessages =>
    rw [Server.step, processClientCollabMessage]
    cases self.groupSenderByObjectId objectId with
    | none =>
      refine WellFormed.start ?_ _
      exact wellFormed.of_frame ⟨rfl, rfl, rfl, rfl⟩
    | some sender => exact wellFormed.start _
  | getEncodeCollab objectId =>
    rw [Server.step, getEncodeCollab]
    cases self.groupSenderByObjectId objectId with
    | none => exact wellFormed
    | some sender => exact wellFormed.start _
  | poll number =>
    rw [Server.step, pollFuture]
    split
    · exact wellFormed
    · next found => exact wellFormed.removeUser (wellFormed.started found) _ _ _
    · next found => exact wellFormed.send (wellFormed.started found) _ _
  | runner number received => exact wellFormed.of_frame (runRunner_handlerFrame self number received)
  | tick order elapsed => exact wellFormed.of_frame (tick_frame self order elapsed).toHandlerFrame

theorem run_wellFormed (events : List (Event User)) : (run step new events).WellFormed :=
  run_invariant (fun _ event wellFormed => wellFormed.step event) wellFormed_new events

omit [DecidableEq User] in
theorem WellFormed.finished {self : Server User} (wellFormed : self.WellFormed)
    (finished : ∀ number < self.started, (self.futures number).isNone = true) (number : Nat) :
    self.futures number = none := by
  cases Nat.lt_or_ge number self.started with
  | inl started => exact Option.isNone_iff_eq_none.mp (finished number started)
  | inr fresh => exact wellFormed.fresh number fresh

end Server

end Server

end FlowCloud.Tasks
