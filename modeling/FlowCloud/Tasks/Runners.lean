import FlowCloud.Tasks.Steps

/-! # One object, one runner

A message finds the runner of its object by the sender in the map.  The sweep removes the
sender without a look at the runner, which may still have commands; the next message spawns
another runner beside it.  As long as that does not happen only one runner of an object has
anything to do, and a group is only ever created where there is none.
-/

namespace FlowCloud.Tasks

open FlowCloud.Foundation FlowCloud.Entity FlowCloud.Server

/-- A command of a client for the object: the messages are about the object of the packet. -/
def CommandFits {User : Type} (objectId : String) : GroupCommand User → Prop
  | .handleClientCollabMessage _ key collabMessages =>
    key = objectId ∧ ∀ message ∈ collabMessages, message.objectId = objectId
  | .encodeCollab _ => True

/-- The messages of a packet are about its object. -/
def WellFormedMessage {User : Type} : Event User → Prop
  | .message _ objectId collabMessages => ∀ message ∈ collabMessages, message.objectId = objectId
  | _ => True

instance {User : Type} : DecidablePred (@WellFormedMessage User)
  | .message _ objectId collabMessages =>
    inferInstanceAs (Decidable (∀ message ∈ collabMessages, message.objectId = objectId))
  | .connect .. | .disconnect .. | .getEncodeCollab _ | .poll _ | .runner .. | .tick .. => .isTrue trivial

/-- A command waits or is in progress. -/
def Runner.busy {User : Type} (self : Runner User) : Bool :=
  !self.queue.isEmpty || match self.state with
    | .idle => false
    | _ => true

section Server

variable {User : Type} [DecidableEq User] [RealtimeUser User]

namespace Server

def RunnerOf (self : Server User) (number : Nat) (objectId : String) : Prop :=
  (self.runners[number]?).map Runner.objectId = some objectId

def Busy (self : Server User) (number : Nat) : Prop := (self.runners[number]?).any Runner.busy = true

/-- The runner is busy, or a command is on its way to it. -/
def Live (self : Server User) (number : Nat) : Prop :=
  self.Busy number ∨ ∃ future command, self.futures future = some (.sending number command)

/-- At most one runner of an object has a command that waits or is in progress. -/
def OneBusyRunner (self : Server User) : Prop :=
  ∀ objectId first second, self.RunnerOf first objectId → self.RunnerOf second objectId →
    self.Busy first → self.Busy second → first = second

/-- No group with a subscriber is replaced by another one of the same object. -/
def KeepsSubscribed (self : Server User) (event : Event User) : Prop :=
  ∀ objectId group next, self.groupByObjectId objectId = some group → group.subscribers ≠ [] →
    (self.step event).groupByObjectId objectId = some next → next.number = group.number

/-- A message that finds no sender finds the older runners of its object without a command,
    in progress, waiting or on its way. -/
def SpawnsAlone (self : Server User) : Event User → Prop
  | .message _ objectId _ => self.groupSenderByObjectId objectId = none →
      ∀ number, self.RunnerOf number objectId → ¬self.Live number
  | _ => True

/-- The document of the first message's object is being loaded. -/
def Creating (self : Server User) (number : Nat) (first : ClientCollabMessage) : Prop :=
  ∃ runner user, self.runners[number]? = some runner ∧ runner.state = .creating user first

structure OneRunner (server : Server User) : Prop where
  senders : ∀ objectId sender, server.groupSenderByObjectId objectId = some sender → server.RunnerOf sender objectId
  sent : ∀ future number command, server.futures future = some (.sending number command) →
    ∃ objectId, server.RunnerOf number objectId ∧ CommandFits objectId command
  queued : ∀ (number : Nat) (runner : Runner User), server.runners[number]? = some runner →
    ∀ command ∈ runner.queue, CommandFits runner.objectId command
  sender : ∀ objectId sender number, server.groupSenderByObjectId objectId = some sender →
    server.RunnerOf number objectId → server.Live number → number = sender
  sole : ∀ objectId first second, server.RunnerOf first objectId → server.RunnerOf second objectId →
    server.Live first → server.Live second → first = second
  creating : ∀ number first, server.Creating number first →
    server.RunnerOf number first.objectId ∧ server.groupByObjectId first.objectId = none

/-! ## Steps that leave the runners alone -/

/-- Every group was there before. -/
def GroupsFrame (before after : Server User) : Prop :=
  ∀ objectId next, after.groupByObjectId objectId = some next →
    ∃ group, before.groupByObjectId objectId = some group ∧ group.number = next.number

omit [DecidableEq User] [RealtimeUser User] in
theorem GroupsFrame.refl (server : Server User) : GroupsFrame server server := fun _ next found => ⟨next, found, rfl⟩

omit [DecidableEq User] [RealtimeUser User] in
theorem GroupsFrame.trans {first second third : Server User} (left : GroupsFrame first second)
    (right : GroupsFrame second third) : GroupsFrame first third := by
  intro objectId next found
  obtain ⟨middle, found, same⟩ := right objectId next found
  obtain ⟨group, found, same'⟩ := left objectId middle found
  exact ⟨group, found, same'.trans same⟩

omit [DecidableEq User] [RealtimeUser User] in
theorem GroupsFrame.none {before after : Server User} (frame : GroupsFrame before after) {objectId : String}
    (missing : before.groupByObjectId objectId = none) : after.groupByObjectId objectId = none := by
  rw [Option.eq_none_iff_forall_ne_some]
  intro next found
  obtain ⟨group, found, _⟩ := frame objectId next found
  cases missing.symm.trans found

omit [DecidableEq User] [RealtimeUser User] in
theorem modifyGroup_groupsFrame (self : Server User) (objectId : String) (change : Group User → Group User)
    (keeps : ∀ group, (change group).number = group.number) : GroupsFrame self (self.modifyGroup objectId change) := by
  intro other next found
  simp only [modifyGroup, setGroup, Function.update_apply] at found
  split at found
  · next same =>
    subst same
    obtain ⟨group, present, rfl⟩ := Option.map_eq_some_iff.mp found
    exact ⟨group, present, (keeps group).symm⟩
  · exact ⟨next, found, rfl⟩

omit [DecidableEq User] [RealtimeUser User] in
theorem tick_groupsFrame (self : Server User) (order : List String) (elapsed : String → Bool) :
    GroupsFrame self (self.tick order elapsed) := by
  intro other next found
  rw [tick_groupByObjectId] at found
  split_ifs at found
  exact ⟨next, found, rfl⟩

omit [DecidableEq User] [RealtimeUser User] in
theorem RunnerOf.unique {self : Server User} {number : Nat} {first second : String} (left : self.RunnerOf number first)
    (right : self.RunnerOf number second) : first = second := Option.some.inj (left.symm.trans right)

omit [DecidableEq User] [RealtimeUser User] in
theorem runnerOf_of_getElem? {self : Server User} {number : Nat} {runner : Runner User}
    (found : self.runners[number]? = some runner) : self.RunnerOf number runner.objectId := by
  rw [RunnerOf, found]
  rfl

omit [DecidableEq User] [RealtimeUser User] in
theorem Creating.busy {self : Server User} {number : Nat} {first : ClientCollabMessage}
    (creating : self.Creating number first) : self.Busy number := by
  obtain ⟨runner, user, found, loads⟩ := creating
  simp [Busy, found, Runner.busy, loads]

/-- Nothing new for the runners to do, and no new sender. -/
structure Calm (before after : Server User) : Prop where
  object : ∀ number : Nat, (after.runners[number]?).map Runner.objectId = (before.runners[number]?).map Runner.objectId
  senders : ∀ objectId sender, after.groupSenderByObjectId objectId = some sender →
    before.groupSenderByObjectId objectId = some sender
  sent : ∀ future number command, after.futures future = some (.sending number command) →
    ∃ other, before.futures other = some (.sending number command)
  busy : ∀ number, after.Busy number → before.Live number

omit [DecidableEq User] [RealtimeUser User] in
theorem Calm.runnerOf {before after : Server User} (calm : Calm before after) {number : Nat} {objectId : String} :
    after.RunnerOf number objectId ↔ before.RunnerOf number objectId := by
  rw [RunnerOf, RunnerOf, calm.object]

omit [DecidableEq User] [RealtimeUser User] in
theorem Calm.live {before after : Server User} (calm : Calm before after) {number : Nat} (live : after.Live number) :
    before.Live number := by
  cases live with
  | inl busy => exact calm.busy number busy
  | inr held =>
    obtain ⟨future, command, sent⟩ := held
    obtain ⟨other, sent⟩ := calm.sent future number command sent
    exact .inr ⟨other, command, sent⟩

omit [DecidableEq User] [RealtimeUser User] in
theorem OneRunner.of_calm {before after : Server User} (one : before.OneRunner) (calm : Calm before after)
    (queued : ∀ (number : Nat) (runner : Runner User), after.runners[number]? = some runner →
      ∀ command ∈ runner.queue, CommandFits runner.objectId command)
    (creating : ∀ number first, after.Creating number first →
      after.RunnerOf number first.objectId ∧ after.groupByObjectId first.objectId = none) : after.OneRunner := by
  constructor
  case senders =>
    intro objectId sender found
    exact calm.runnerOf.mpr (one.senders objectId sender (calm.senders objectId sender found))
  case sent =>
    intro future number command found
    obtain ⟨other, found⟩ := calm.sent future number command found
    obtain ⟨objectId, of, fits⟩ := one.sent other number command found
    exact ⟨objectId, calm.runnerOf.mpr of, fits⟩
  case sender =>
    intro objectId sender number found of live
    exact one.sender objectId sender number (calm.senders objectId sender found) (calm.runnerOf.mp of) (calm.live live)
  case sole =>
    intro objectId first second firstOf secondOf firstLive secondLive
    exact one.sole objectId first second (calm.runnerOf.mp firstOf) (calm.runnerOf.mp secondOf) (calm.live firstLive)
      (calm.live secondLive)
  case queued => exact queued
  case creating => exact creating

/-- What the runners see of a step of others. -/
structure RunnersFrame (before after : Server User) : Prop where
  runners : after.runners = before.runners
  senders : ∀ objectId sender, after.groupSenderByObjectId objectId = some sender →
    before.groupSenderByObjectId objectId = some sender
  sent : ∀ future number command, after.futures future = some (.sending number command) →
    ∃ other, before.futures other = some (.sending number command)
  groups : GroupsFrame before after

omit [DecidableEq User] [RealtimeUser User] in
theorem OneRunner.of_frame {before after : Server User} (one : before.OneRunner) (frame : RunnersFrame before after) :
    after.OneRunner := by
  have calm : Calm before after := {
    object := fun number => by rw [frame.runners]
    senders := frame.senders
    sent := frame.sent
    busy := fun number busy => .inl (by rwa [Busy, frame.runners] at busy) }
  refine one.of_calm calm ?_ ?_
  · rw [frame.runners]
    exact one.queued
  · intro number first creating
    rw [Creating, frame.runners] at creating
    obtain ⟨of, missing⟩ := one.creating number first creating
    exact ⟨calm.runnerOf.mpr of, frame.groups.none missing⟩

omit [DecidableEq User] [RealtimeUser User] in
theorem sending_of_setFuture {self : Server User} {future other number : Nat} {value : Option (Future User)}
    {command : GroupCommand User} (notSending : ∀ number command, value ≠ some (.sending number command))
    (found : (self.setFuture future value).futures other = some (.sending number command)) :
    self.futures other = some (.sending number command) := by
  simp only [setFuture, Function.update_apply] at found
  split at found
  · exact absurd found (notSending number command)
  · exact found

omit [RealtimeUser User] in
theorem removeUser_runnersFrame (self : Server User) (future : Nat) (user : User) (editings : List Editing)
    (after : After User) : RunnersFrame self (self.removeUser future user editings after) := by
  apply removeUser_cases
  · intro _
    have concluded : RunnersFrame self (self.conclude after) := by
      cases after <;> exact ⟨rfl, fun _ _ => id, fun other _ _ found => ⟨other, found⟩, .refl self⟩
    refine ⟨concluded.runners, concluded.senders, fun other number command found => ?_, concluded.groups⟩
    exact concluded.sent other number command (sending_of_setFuture (by simp) found)
  · intro _ editing remaining _ _ _
    refine ⟨rfl, fun _ _ => id, fun other number command found => ⟨other, ?_⟩, ?_⟩
    · exact sending_of_setFuture (by simp) found
    · exact modifyGroup_groupsFrame self editing.objectId (fun group => group.removeUser user) fun _ => rfl

omit [RealtimeUser User] in
theorem beginRemoveUser_runnersFrame (self : Server User) (user : User) (order : List Editing) (after : After User) :
    RunnersFrame self (self.beginRemoveUser user order after) := by
  have frame := removeUser_runnersFrame (self.takeEditing user) self.started user
    (visit order (self.editingCollabByUser user)) after
  exact ⟨frame.runners, frame.senders, frame.sent, frame.groups⟩

omit [DecidableEq User] [RealtimeUser User] in
theorem RunnersFrame.refl (server : Server User) : RunnersFrame server server :=
  ⟨rfl, fun _ _ => id, fun other _ _ sent => ⟨other, sent⟩, .refl server⟩

theorem connect_runnersFrame (self : Server User) (user : User) (order : List Editing) :
    RunnersFrame self (self.connect user order) := by
  unfold connect
  split
  · exact ⟨rfl, fun _ _ => id, fun other _ _ sent => ⟨other, sent⟩, .refl self⟩
  · next oldUser _ =>
    have frame := beginRemoveUser_runnersFrame ((self.register user).setStream oldUser none) oldUser order
      (.insertStream user self.sessions)
    exact ⟨frame.runners, frame.senders, frame.sent, frame.groups⟩

omit [RealtimeUser User] in
theorem disconnect_runnersFrame (self : Server User) (user : User) (session : Nat) (order : List Editing) :
    RunnersFrame self (self.disconnect user session order) :=
  disconnect_cases (fun _ _ _ => .refl self) fun _ => beginRemoveUser_runnersFrame self user order _

omit [DecidableEq User] [RealtimeUser User] in
theorem tick_runnersFrame (self : Server User) (order : List String) (elapsed : String → Bool) :
    RunnersFrame self (self.tick order elapsed) := by
  have frame := tick_frame self order elapsed
  refine ⟨frame.runners, fun objectId sender found => ?_, fun future number command found => ?_,
    tick_groupsFrame self order elapsed⟩
  · simp only [tick, removeSenders, removeGroups_groupSenderByObjectId] at found
    split_ifs at found
    exact found
  · exact ⟨future, frame.futures ▸ found⟩

/-! ## Messages -/

omit [DecidableEq User] [RealtimeUser User] in
theorem start_sending {self : Server User} {other number : Nat} {sending : Future User}
    {command : GroupCommand User}
    (found : (self.start sending).futures other = some (.sending number command)) :
    sending = .sending number command ∨ self.futures other = some (.sending number command) := by
  simp only [start, setFuture, Function.update_apply] at found
  split at found
  · exact .inl (Option.some.inj found)
  · exact .inr found

omit [DecidableEq User] [RealtimeUser User] in
/-- Another command for the runner of a sender in the map. -/
theorem OneRunner.start {self : Server User} (one : self.OneRunner) {objectId : String} {sender : Nat}
    {command : GroupCommand User} (found : self.groupSenderByObjectId objectId = some sender)
    (fits : CommandFits objectId command) : (self.start (.sending sender command)).OneRunner := by
  have of := one.senders objectId sender found
  have live {number : Nat} (live : (self.start (.sending sender command)).Live number) :
      self.Live number ∨ number = sender := by
    cases live with
    | inl busy => exact .inl (.inl busy)
    | inr held =>
      obtain ⟨future, other, sent⟩ := held
      cases start_sending sent with
      | inl same =>
        cases same
        exact .inr rfl
      | inr sent => exact .inl (.inr ⟨future, other, sent⟩)
  constructor
  case senders => exact one.senders
  case sent =>
    intro future number other sent
    cases start_sending sent with
    | inl same =>
      cases same
      exact ⟨objectId, of, fits⟩
    | inr sent => exact one.sent future number other sent
  case queued => exact one.queued
  case creating => exact one.creating
  case sender =>
    intro other known number knownSender numberOf numberLive
    cases live numberLive with
    | inl before => exact one.sender other known number knownSender numberOf before
    | inr equal =>
      obtain rfl := equal
      obtain rfl : objectId = other := of.unique numberOf
      exact Option.some.inj (found.symm.trans knownSender)
  case sole =>
    intro other first second firstOf secondOf firstLive secondLive
    rcases live firstLive with firstBefore | rfl <;> rcases live secondLive with secondBefore | rfl
    · exact one.sole other first second firstOf secondOf firstBefore secondBefore
    · obtain rfl : objectId = other := of.unique secondOf
      exact one.sender objectId second first found firstOf firstBefore
    · obtain rfl : objectId = other := of.unique firstOf
      exact (one.sender objectId first second found secondOf secondBefore).symm
    · rfl

/-- `process_client_collab_message` spawns a runner for an object. -/
def spawn (self : Server User) (objectId : String) : Server User :=
  { self with
    runners := self.runners ++ [⟨objectId, [], .idle⟩]
    groupSenderByObjectId := Function.update self.groupSenderByObjectId objectId (some self.runners.length) }

omit [DecidableEq User] [RealtimeUser User] in
theorem spawn_getElem? (self : Server User) (objectId : String) (number : Nat) :
    (self.spawn objectId).runners[number]? =
      if number = self.runners.length then some ⟨objectId, [], .idle⟩ else self.runners[number]? := by
  rw [spawn, List.getElem?_append]
  split
  · next older => rw [if_neg older.ne]
  · next newer =>
    split
    · next same => simp [same]
    · next different => grind

omit [DecidableEq User] [RealtimeUser User] in
theorem RunnerOf.lt {self : Server User} {number : Nat} {objectId : String} (of : self.RunnerOf number objectId) :
    number < self.runners.length := by
  rw [RunnerOf, Option.map_eq_some_iff] at of
  obtain ⟨runner, found, _⟩ := of
  exact (List.getElem?_eq_some_iff.mp found).1

omit [DecidableEq User] [RealtimeUser User] in
theorem spawn_runnerOf {self : Server User} {objectId other : String} {number : Nat} :
    (self.spawn objectId).RunnerOf number other ↔
      self.RunnerOf number other ∨ number = self.runners.length ∧ objectId = other := by
  rw [RunnerOf, spawn_getElem?]
  split
  · next same =>
    subst same
    have absent : ¬self.RunnerOf self.runners.length other := fun of => of.lt.false
    simp [absent]
  · next different => simp [RunnerOf, different]

omit [DecidableEq User] [RealtimeUser User] in
theorem OneRunner.spawn {self : Server User} (one : self.OneRunner) {objectId : String}
    (alone : ∀ number, self.RunnerOf number objectId → ¬self.Live number) : (self.spawn objectId).OneRunner := by
  have older {number : Nat} (live : (self.spawn objectId).Live number) : number ≠ self.runners.length ∧ self.Live number := by
    cases live with
    | inl busy =>
      rw [Busy, spawn_getElem?] at busy
      split at busy
      · cases busy
      · next different => exact ⟨different, .inl busy⟩
    | inr held =>
      obtain ⟨future, command, sent⟩ := held
      obtain ⟨_, of, _⟩ := one.sent future number command sent
      exact ⟨of.lt.ne, .inr ⟨future, command, sent⟩⟩
  have known {number : Nat} {other : String} (live : (self.spawn objectId).Live number)
      (of : (self.spawn objectId).RunnerOf number other) : self.Live number ∧ self.RunnerOf number other := by
    obtain ⟨different, live⟩ := older live
    exact ⟨live, (spawn_runnerOf.mp of).resolve_right fun new => different new.1⟩
  constructor
  case senders =>
    intro other sender found
    simp only [Server.spawn, Function.update_apply] at found
    split at found
    · next same => exact spawn_runnerOf.mpr (.inr ⟨(Option.some.inj found).symm, same.symm⟩)
    · exact spawn_runnerOf.mpr (.inl (one.senders other sender found))
  case sent =>
    intro future number command sent
    obtain ⟨other, of, fits⟩ := one.sent future number command sent
    exact ⟨other, spawn_runnerOf.mpr (.inl of), fits⟩
  case queued =>
    intro number runner found
    rw [spawn_getElem?] at found
    split at found
    · cases found
      exact List.forall_mem_nil _
    · exact one.queued number runner found
  case sender =>
    intro other sender number found of live
    obtain ⟨live, of⟩ := known live of
    simp only [Server.spawn, Function.update_apply] at found
    split at found
    · next same => exact absurd live (alone number (same ▸ of))
    · exact one.sender other sender number found of live
  case sole =>
    intro other first second firstOf secondOf firstLive secondLive
    obtain ⟨firstLive, firstOf⟩ := known firstLive firstOf
    obtain ⟨secondLive, secondOf⟩ := known secondLive secondOf
    exact one.sole other first second firstOf secondOf firstLive secondLive
  case creating =>
    intro number first creating
    obtain ⟨runner, user, found, loads⟩ := creating
    rw [spawn_getElem?] at found
    split at found
    · cases found
      cases loads
    · obtain ⟨of, missing⟩ := one.creating number first ⟨runner, user, found, loads⟩
      exact ⟨spawn_runnerOf.mpr (.inl of), missing⟩

/-! ## Steps of a runner -/

/-- What the other runners and the senders of messages see of a step of a runner. -/
structure RunnerFrame (number : Nat) (before after : Server User) : Prop where
  object : ∀ other : Nat, (after.runners[other]?).map Runner.objectId = (before.runners[other]?).map Runner.objectId
  others : ∀ other : Nat, other ≠ number → after.runners[other]? = before.runners[other]?
  queue : ∀ next : Runner User, after.runners[number]? = some next →
    ∃ runner, before.runners[number]? = some runner ∧ next.queue ⊆ runner.queue
  senders : after.groupSenderByObjectId = before.groupSenderByObjectId

omit [DecidableEq User] [RealtimeUser User] in
theorem RunnerFrame.of_runners {number : Nat} {before after : Server User} (runners : after.runners = before.runners)
    (senders : after.groupSenderByObjectId = before.groupSenderByObjectId) : RunnerFrame number before after := by
  refine ⟨fun _ => by rw [runners], fun _ _ => by rw [runners], fun next found => ?_, senders⟩
  rw [runners] at found
  exact ⟨next, found, List.Subset.refl _⟩

omit [DecidableEq User] [RealtimeUser User] in
theorem setState_runnerFrame (self : Server User) (number : Nat) (state : RunnerState User) :
    RunnerFrame number self (self.setState number state) := by
  refine ⟨fun other => ?_, fun other different => ?_, fun next found => ?_, rfl⟩
  · rw [setState_getElem?]
    split
    · next same => simp [same, Function.comp_def]
    · rfl
  · rw [setState_getElem?, if_neg different]
  · rw [setState_getElem?, if_pos rfl, Option.map_eq_some_iff] at found
    obtain ⟨runner, found, rfl⟩ := found
    exact ⟨runner, found, List.Subset.refl _⟩

theorem runRunner_runnerFrame (self : Server User) (number : Nat) (received : Bool) :
    RunnerFrame number self (self.runRunner number received) := by
  have kept : KeptByRunner number (@RunnerFrame User number) := {
    refl := fun _ => .of_runners rfl rfl
    trans := by
      intro first second third left right
      refine ⟨fun other => (right.object other).trans (left.object other),
        fun other different => (right.others other different).trans (left.others other different), ?_,
        right.senders.trans left.senders⟩
      intro next found
      obtain ⟨middle, found, shorter⟩ := right.queue next found
      obtain ⟨runner, found, shorter'⟩ := left.queue middle found
      exact ⟨runner, found, fun _ waits => shorter' (shorter waits)⟩
    setState := fun server state => setState_runnerFrame server number state
    removeStream := fun _ _ => .of_runners rfl rfl
    setEditing := fun _ _ _ => .of_runners rfl rfl
    modifyGroup := fun _ _ _ _ => .of_runners rfl rfl }
  refine kept.runRunner ?_ (fun _ _ => .of_runners rfl rfl) self received
  intro server runner command queue found queued
  refine ⟨fun other => ?_, fun other different => ?_, fun next taken => ?_, rfl⟩
  · rw [setRunner_getElem? found]
    split
    · next same => rw [same, found]; rfl
    · rfl
  · rw [setRunner_getElem? found, if_neg different]
  · rw [setRunner_getElem? found, if_pos rfl] at taken
    cases taken
    exact ⟨runner, found, queued ▸ List.subset_cons_self command queue⟩

theorem runRunner_eq_self {self : Server User} {number : Nat} (rests : ¬self.Busy number) (received : Bool) :
    self.runRunner number received = self := by
  unfold runRunner
  cases found : self.runners[number]? with
  | none => rfl
  | some runner =>
    obtain ⟨objectId, queue, state⟩ := runner
    cases state with
    | idle =>
      cases queue with
      | nil => rfl
      | cons command queue => exact absurd (by simp [Busy, found, Runner.busy]) rests
    | unsubscribing | creating | subscribing | encoding => exact absurd (by simp [Busy, found, Runner.busy]) rests

theorem runRunner_calm (self : Server User) (number : Nat) (received : Bool) :
    Calm self (self.runRunner number received) := by
  have frame := runRunner_runnerFrame self number received
  refine ⟨frame.object, fun _ _ found => frame.senders ▸ found, fun future _ _ sent => ⟨future, ?_⟩, fun other busy => ?_⟩
  · exact (runRunner_handlerFrame self number received).futures ▸ sent
  · by_cases rests : self.Busy number
    · by_cases same : other = number
      · exact .inl (same ▸ rests)
      · rw [Busy, frame.others other same] at busy
        exact .inl busy
    · rw [runRunner_eq_self rests] at busy
      exact .inl busy

/-! ### The groups -/

omit [RealtimeUser User] in
theorem keptByRunner_groupsFrame (number : Nat) : KeptByRunner number (@GroupsFrame User) where
  refl := .refl
  trans := fun _ _ _ => .trans
  setState := fun server _ => .refl server
  removeStream := fun server _ => .refl server
  setEditing := fun server _ _ => .refl server
  modifyGroup := modifyGroup_groupsFrame

/-- A runner makes one group at most, of the object whose document it has loaded. -/
theorem runRunner_groups (self : Server User) (number : Nat) (received : Bool) :
    GroupsFrame self (self.runRunner number received) ∨
      ∃ first, self.Creating number first ∧
        ∀ objectId next, objectId ≠ first.objectId →
          (self.runRunner number received).groupByObjectId objectId = some next →
          ∃ group, self.groupByObjectId objectId = some group ∧ group.number = next.number := by
  have kept : KeptByRunner number (@GroupsFrame User) := keptByRunner_groupsFrame number
  apply runRunner_cases (motive := fun after => GroupsFrame self after ∨ ∃ first, self.Creating number first ∧
    ∀ objectId next, objectId ≠ first.objectId → after.groupByObjectId objectId = some next →
      ∃ group, self.groupByObjectId objectId = some group ∧ group.number = next.number)
  case rests => exact .inl (.refl self)
  case encoded => exact fun _ _ _ => .inl (.refl self)
  case takes =>
    intro runner command queue _ _ _
    exact .inl (kept.handleCommand (self.setRunner number { runner with queue }) command received)
  case unsubscribed => exact fun _ user objectId first _ _ => .inl (kept.resubscribe self user objectId first received)
  case subscribed =>
    intro _ user first group _ _
    exact .inl ((kept.insertSubscriber self first.objectId group user).trans (kept.finish _ user received))
  case created =>
    intro runner user first found loads
    refine .inr ⟨first, ⟨runner, user, found, loads⟩, fun objectId next other present => ?_⟩
    obtain ⟨group, created, same⟩ :=
      kept.subscribeGroup (self.createGroup first.objectId) user first received objectId next present
    simp only [createGroup, setGroup, Function.update_of_ne other] at created
    exact ⟨group, created, same⟩

/-! ### Loading a document -/

omit [DecidableEq User] [RealtimeUser User] in
theorem Creating.of_setState {self : Server User} {number : Nat} {state : RunnerState User}
    {first : ClientCollabMessage} (creating : (self.setState number state).Creating number first) :
    ∃ user, state = .creating user first := by
  obtain ⟨runner, user, found, loads⟩ := creating
  rw [setState_getElem?, if_pos rfl, Option.map_eq_some_iff] at found
  obtain ⟨_, _, rfl⟩ := found
  exact ⟨user, loads⟩

omit [RealtimeUser User] in
theorem finish_notCreating (self : Server User) (number : Nat) (user : User) (received : Bool)
    (first : ClientCollabMessage) : ¬(self.finish number user received).Creating number first := fun creating =>
  nomatch creating.of_setState

theorem subscribeGroup_notCreating (self : Server User) (number : Nat) (user : User) (first : ClientCollabMessage)
    (received : Bool) (other : ClientCollabMessage) :
    ¬(self.subscribeGroup number user first received).Creating number other := by
  apply subscribeGroup_cases (motive := fun after => ¬after.Creating number other)
  · exact finish_notCreating self number user received other
  · exact fun _ _ _ _ _ _ creating => nomatch creating.of_setState
  · exact fun _ _ _ _ _ => finish_notCreating _ number user received other

theorem resubscribe_notCreating (self : Server User) (number : Nat) (user : User) (objectId : String)
    (first : ClientCollabMessage) (received : Bool) (other : ClientCollabMessage) :
    ¬(self.resubscribe number user objectId first received).Creating number other :=
  resubscribe_cases (motive := fun after => ¬after.Creating number other)
    (finish_notCreating self number user received other) (subscribeGroup_notCreating self number user first received other)

/-- A runner that loads a document has just found no group of the object. -/
theorem OneRunner.creating_runRunner {self : Server User} (one : self.OneRunner) {number : Nat} {received : Bool}
    {first : ClientCollabMessage} (creating : (self.runRunner number received).Creating number first) :
    self.RunnerOf number first.objectId ∧ (self.runRunner number received).groupByObjectId first.objectId = none := by
  revert creating
  apply runRunner_cases (motive := fun after => after.Creating number first →
    self.RunnerOf number first.objectId ∧ after.groupByObjectId first.objectId = none)
  case rests => exact one.creating number first
  case encoded => exact fun _ _ _ creating => nomatch creating.of_setState
  case unsubscribed =>
    exact fun _ user objectId message _ _ creating =>
      absurd creating (resubscribe_notCreating self number user objectId message received first)
  case created =>
    exact fun _ user message _ _ creating => absurd creating (subscribeGroup_notCreating _ number user message received first)
  case subscribed =>
    exact fun _ user message group _ _ creating => absurd creating (finish_notCreating _ number user received first)
  case takes =>
    intro runner command queue found idle waits
    have fits := one.queued number runner found command (by simp [waits])
    have resting : ¬(self.setRunner number { runner with queue }).Creating number first := by
      rintro ⟨next, user, taken, loads⟩
      rw [setRunner_getElem? found, if_pos rfl] at taken
      cases taken
      cases idle.symm.trans loads
    cases command with
    | encodeCollab => exact fun creating => nomatch creating.of_setState
    | handleClientCollabMessage user objectId messages =>
      apply handleCollabMessage_cases (motive := fun after => after.Creating number first →
        self.RunnerOf number first.objectId ∧ after.groupByObjectId first.objectId = none)
      case dropped => exact fun creating => absurd creating resting
      case unsubscribes => exact fun _ _ _ _ creating => nomatch creating.of_setState
      case resubscribes =>
        exact fun message _ _ creating =>
          absurd creating (resubscribe_notCreating _ number user objectId message received first)
      case creates =>
        rintro message rest rfl missing creating
        obtain ⟨_, same⟩ := creating.of_setState
        cases same
        have about := fits.2 first List.mem_cons_self
        refine ⟨about ▸ runnerOf_of_getElem? found, ?_⟩
        rw [about, ← fits.1]
        exact missing

theorem OneRunner.runRunner {self : Server User} (one : self.OneRunner) (number : Nat) (received : Bool) :
    (self.runRunner number received).OneRunner := by
  have frame := runRunner_runnerFrame self number received
  have calm := runRunner_calm self number received
  refine one.of_calm calm (fun other next found command waits => ?_) fun other first creating => ?_
  · by_cases same : other = number
    · subst same
      obtain ⟨runner, before, shorter⟩ := frame.queue next found
      have object := frame.object other
      rw [found, before] at object
      rw [Option.some.inj object]
      exact one.queued other runner before command (shorter waits)
    · exact one.queued other next (frame.others other same ▸ found) command waits
  · by_cases same : other = number
    · subst same
      obtain ⟨of, missing⟩ := one.creating_runRunner creating
      exact ⟨calm.runnerOf.mpr of, missing⟩
    · have creating : self.Creating other first := by rwa [Creating, frame.others other same] at creating
      obtain ⟨of, missing⟩ := one.creating other first creating
      refine ⟨calm.runnerOf.mpr of, ?_⟩
      cases runRunner_groups self number received with
      | inl groups => exact groups.none missing
      | inr held =>
        obtain ⟨loaded, loads, groups⟩ := held
        -- two runners that load documents load those of different objects
        have different : first.objectId ≠ loaded.objectId := fun collide =>
          same (one.sole first.objectId other number of (collide ▸ (one.creating number loaded loads).1)
            (.inl creating.busy) (.inl loads.busy))
        rw [Option.eq_none_iff_forall_ne_some]
        intro next present
        obtain ⟨group, before, _⟩ := groups first.objectId next different present
        cases missing.symm.trans before

omit [DecidableEq User] [RealtimeUser User] in
theorem OneRunner.send {self : Server User} (one : self.OneRunner) {future number : Nat} {command : GroupCommand User}
    (waiting : self.futures future = some (.sending number command)) : (self.send future number command).OneRunner := by
  unfold Server.send
  split
  · exact one
  · next runner found =>
    split
    · have sent {other index : Nat} {pending : GroupCommand User}
          (waits : ((self.setRunner number { runner with queue := runner.queue ++ [command] }).setFuture future
            none).futures other = some (.sending index pending)) : self.futures other = some (.sending index pending) :=
        sending_of_setFuture (by simp) waits
      have getElem? := setRunner_getElem? found { runner with queue := runner.queue ++ [command] }
      refine one.of_calm ⟨fun other => ?_, fun _ _ => id, fun other _ _ pending => ⟨other, sent pending⟩,
        fun other busy => ?_⟩ (fun other next present pending waits => ?_) fun other first creating => ?_
      · rw [setFuture, getElem?]
        split
        · next same => rw [same, found]; rfl
        · rfl
      · rw [Busy, setFuture, getElem?] at busy
        split at busy
        · next same => exact .inr ⟨future, command, same ▸ waiting⟩
        · exact .inl busy
      · rw [setFuture, getElem?] at present
        split at present
        · cases present
          cases List.mem_append.mp waits with
          | inl before => exact one.queued number runner found pending before
          | inr last =>
            obtain ⟨objectId, of, fits⟩ := one.sent future number command waiting
            rw [List.mem_singleton.mp last, (runnerOf_of_getElem? found).unique of]
            exact fits
        · exact one.queued other next present pending waits
      · obtain ⟨next, user, present, loads⟩ := creating
        rw [setFuture, getElem?] at present
        have before : self.Creating other first := by
          split at present
          · next same =>
            cases present
            exact ⟨runner, user, same ▸ found, loads⟩
          · exact ⟨next, user, present, loads⟩
        obtain ⟨of, missing⟩ := one.creating other first before
        refine ⟨?_, missing⟩
        rw [RunnerOf, setFuture, getElem?]
        split
        · next same => rwa [RunnerOf, same, found] at of
        · exact of
    · exact one

/-! ## Runs -/

theorem OneRunner.step {self : Server User} (one : self.OneRunner) {event : Event User}
    (fits : WellFormedMessage event) (alone : self.SpawnsAlone event) : (self.step event).OneRunner := by
  cases event with
  | connect user order => exact one.of_frame (connect_runnersFrame self user order)
  | disconnect user session order => exact one.of_frame (disconnect_runnersFrame self user session order)
  | message user objectId collabMessages =>
    have fits : CommandFits objectId (.handleClientCollabMessage user objectId collabMessages) := ⟨rfl, fits⟩
    rw [Server.step, processClientCollabMessage]
    cases found : self.groupSenderByObjectId objectId with
    | some sender => exact one.start found fits
    | none =>
      have spawned := one.spawn (alone found)
      exact spawned.start (by simp [Server.spawn]) fits
  | getEncodeCollab objectId =>
    rw [Server.step, getEncodeCollab]
    cases found : self.groupSenderByObjectId objectId with
    | none => exact one
    | some sender => exact one.start found trivial
  | poll number =>
    rw [Server.step, pollFuture]
    split
    · exact one
    · exact one.of_frame (removeUser_runnersFrame self number _ _ _)
    · next waiting => exact one.send waiting
  | runner number received => exact one.runRunner number received
  | tick order elapsed => exact one.of_frame (tick_runnersFrame self order elapsed)

omit [DecidableEq User] [RealtimeUser User] in
theorem send_groups (self : Server User) (future number : Nat) (command : GroupCommand User) :
    (self.send future number command).groupByObjectId = self.groupByObjectId := by
  unfold Server.send
  split
  · rfl
  · split <;> rfl

omit [DecidableEq User] [RealtimeUser User] in
theorem processClientCollabMessage_groups (self : Server User) (user : User) (objectId : String)
    (collabMessages : List ClientCollabMessage) :
    (self.processClientCollabMessage user objectId collabMessages).groupByObjectId = self.groupByObjectId := by
  unfold processClientCollabMessage
  split <;> rfl

omit [DecidableEq User] [RealtimeUser User] in
theorem getEncodeCollab_groups (self : Server User) (objectId : String) :
    (self.getEncodeCollab objectId).groupByObjectId = self.groupByObjectId := by
  unfold getEncodeCollab
  split <;> rfl

theorem GroupsFrame.keepsSubscribed {self : Server User} {event : Event User}
    (groups : GroupsFrame self (self.step event)) : self.KeepsSubscribed event := by
  intro objectId group next found _ present
  obtain ⟨before, found', same⟩ := groups objectId next present
  cases found.symm.trans found'
  exact same.symm

theorem OneRunner.keepsSubscribed {self : Server User} (one : self.OneRunner) (event : Event User) :
    self.KeepsSubscribed event := by
  have same {after : Server User} (groups : after.groupByObjectId = self.groupByObjectId) : GroupsFrame self after :=
    fun _ next found => ⟨next, groups ▸ found, rfl⟩
  cases event with
  | connect user order => exact (connect_runnersFrame self user order).groups.keepsSubscribed
  | disconnect user session order => exact (disconnect_runnersFrame self user session order).groups.keepsSubscribed
  | message user objectId collabMessages =>
    exact (same (processClientCollabMessage_groups self user objectId collabMessages)).keepsSubscribed
  | getEncodeCollab objectId => exact (same (getEncodeCollab_groups self objectId)).keepsSubscribed
  | tick order elapsed => exact (tick_runnersFrame self order elapsed).groups.keepsSubscribed
  | poll number =>
    apply GroupsFrame.keepsSubscribed
    rw [Server.step, pollFuture]
    split
    · exact .refl self
    · exact (removeUser_runnersFrame self number _ _ _).groups
    · exact same (send_groups self number _ _)
  | runner number received =>
    cases runRunner_groups self number received with
    | inl groups => exact groups.keepsSubscribed
    | inr held =>
      obtain ⟨first, creating, groups⟩ := held
      intro objectId group next found _ present
      -- the object of the new group had none
      have different : objectId ≠ first.objectId := by
        rintro rfl
        cases found.symm.trans (one.creating number first creating).2
      obtain ⟨before, found', same⟩ := groups objectId next different present
      cases found.symm.trans found'
      exact same.symm

omit [DecidableEq User] [RealtimeUser User] in
theorem oneRunner_new : OneRunner (new : Server User) := by
  constructor
  case senders => exact fun _ _ found => nomatch found
  case sent => exact fun _ _ _ found => nomatch found
  case queued => exact fun _ _ found => nomatch found
  case sender => exact fun _ _ _ found => nomatch found
  case sole => exact fun _ _ _ of => nomatch of
  case creating => exact fun _ _ ⟨_, _, found, _⟩ => nomatch found

/-- In every run of well-formed messages in which a message never spawns a runner beside one
    that still has something to do, at most one runner of an object has a command at the end
    and no group with a subscriber has been replaced. -/
theorem one_live_group (events : List (Event User))
    (alone : Always step (fun self event => WellFormedMessage event ∧ self.SpawnsAlone event) new events) :
    (run step new events).OneBusyRunner ∧ Always step KeepsSubscribed new events := by
  constructor
  · have one : (run step new events).OneRunner :=
      Always.invariant (fun (self : Server User) _ (one : self.OneRunner) admitted => one.step admitted.1 admitted.2)
        oneRunner_new alone
    intro objectId first second firstOf secondOf firstBusy secondBusy
    exact one.sole objectId first second firstOf secondOf (.inl firstBusy) (.inl secondBusy)
  · exact Always.imp_of_invariant
      (fun (self : Server User) _ (one : self.OneRunner) admitted => one.step admitted.1 admitted.2)
      (fun _ event one _ => one.keepsSubscribed event) oneRunner_new alone

/-- Nobody spawns a runner beside one with something to do when none has. -/
theorem run_spawnsAlone {events : List (Event User)}
    (rests : (run step new events).runners.all fun runner => !runner.busy)
    (finished : ∀ number < (run step new events).started, ((run step new events).futures number).isNone = true)
    (event : Event User) : (run step new events).SpawnsAlone event := by
  cases event with
  | message user objectId collabMessages =>
    rintro _ number _ (busy | ⟨future, command, sent⟩)
    · obtain ⟨runner, found, busy⟩ := Option.any_eq_true _ _ |>.mp busy
      have idle := List.all_eq_true.mp rests runner (List.mem_of_getElem? found)
      simp [busy] at idle
    · cases ((run_wellFormed events).finished finished future).symm.trans sent
  | _ => trivial

end Server

end Server

/-! ## Two runs -/

/-- A user opens an object and leaves. -/
def visited : List (Event (Int × String)) :=
  .connect (1, "device") [] :: opens 1 "doc" 0 0 ++ [.disconnect (1, "device") 0 [], .poll 1]

/-- The group is swept, and another user opens the object in another runner. -/
theorem visited_again :
    (run Server.step Server.new (visited ++ [.tick ["doc"] fun _ => true, .connect (2, "device") []] ++
      opens 2 "doc" 2 1)).OneBusyRunner ∧
    Always Server.step Server.KeepsSubscribed Server.new
      (visited ++ [.tick ["doc"] fun _ => true, .connect (2, "device") []] ++ opens 2 "doc" 2 1) := by
  apply Server.one_live_group
  refine always_append.mpr ⟨?_, ?_⟩
  · refine Always.and (by decide +kernel) ?_
    exact ⟨trivial, (fun _ _ of => nomatch of), trivial, trivial, trivial, trivial, trivial, trivial, trivial, trivial⟩
  · refine Always.and (by decide +kernel) ?_
    exact ⟨Server.run_spawnsAlone (by decide +kernel) (by decide +kernel) _, trivial, trivial, trivial, trivial⟩

/-- Another user's messages wait for the old runner when the group and the sender are removed;
    the runner loads the document, and a third user's messages spawn a new runner meanwhile. -/
def openedWhileSwept : List (Event (Int × String)) :=
  visited ++ [.connect (2, "device") [], .connect (3, "device") [],
    .message (2, "device") "doc" [initSync 2 "doc"], .poll 2, .tick ["doc"] fun _ => true, .runner 0 true,
    .message (3, "device") "doc" [initSync 3 "doc"], .poll 3, .runner 1 true]

theorem openedWhileSwept_twoGroups :
    (¬ ∀ events : List (Event (Int × String)),
      Always Server.step (fun self event => self.mayRun event = true ∧ WellFormedMessage event) Server.new events →
        (run Server.step Server.new events).OneBusyRunner) ∧
    ¬ ∀ events : List (Event (Int × String)),
      Always Server.step (fun self event => self.mayRun event = true ∧ WellFormedMessage event) Server.new events →
        Always Server.step Server.KeepsSubscribed Server.new events := by
  constructor
  · intro oneBusy
    have same := oneBusy openedWhileSwept (by decide +kernel) "doc" 0 1 rfl rfl rfl rfl
    cases same
  · intro keepsSubscribed
    have keeps : (run Server.step Server.new (openedWhileSwept ++ [.runner 0 true])).KeepsSubscribed (.runner 1 true) :=
      Always.after (keepsSubscribed (openedWhileSwept ++ [.runner 0 true] ++ [.runner 1 true]) (by decide +kernel))
    have before : ((run Server.step Server.new (openedWhileSwept ++ [.runner 0 true])).groupByObjectId "doc").map
        (fun group => (group.number, group.subscribers)) = some (1, [(2, "device")]) := by decide +kernel
    have after : (((run Server.step Server.new (openedWhileSwept ++ [.runner 0 true])).step
        (.runner 1 true)).groupByObjectId "doc").map Group.number = some 2 := by decide +kernel
    obtain ⟨group, found, members⟩ := Option.map_eq_some_iff.mp before
    obtain ⟨next, present, other⟩ := Option.map_eq_some_iff.mp after
    rw [Prod.mk.injEq] at members
    have same := keeps "doc" group next found (by simp [members.2]) present
    rw [members.1, other] at same
    cases same

end FlowCloud.Tasks
