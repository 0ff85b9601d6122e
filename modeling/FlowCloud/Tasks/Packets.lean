import FlowCloud.Tasks.Intake

/-! # Packets reach their runners

A packet is split by object, and its handler sends what the split gives object by object.
Whatever else happens meanwhile, a send stays on its way until its command is in the channel of
a runner of the object; so what the split keeps of a packet comes there.
-/

namespace FlowCloud.Tasks

open FlowCloud.Foundation FlowCloud.Entity FlowCloud.Server FlowCloud.Api

section Packets

variable {User : Type} [DecidableEq User] [RealtimeUser User]

/-! ## Commands on their way -/

namespace Server

/-- A send of the command to a runner of the object waits for room in the channel. -/
def Sending (self : Server User) (objectId : String) (command : GroupCommand User) : Prop :=
  ∃ future number, self.futures future = some (.sending number command) ∧ self.RunnerOf number objectId

/-- The command is in the channel of a runner of the object. -/
def Queued (self : Server User) (objectId : String) (command : GroupCommand User) : Prop :=
  ∃ (number : Nat) (runner : Runner User), self.runners[number]? = some runner ∧ runner.objectId = objectId ∧
    command ∈ runner.queue

/-- The senders in the map are those of runners of their objects. -/
structure Addressed (server : Server User) : Prop where
  wellFormed : server.WellFormed
  senders : ∀ objectId sender, server.groupSenderByObjectId objectId = some sender → server.RunnerOf sender objectId

/-- Every send goes on, and every runner and sender stays what it is. -/
structure SendsFrame (before after : Server User) : Prop where
  object : ∀ number objectId, before.RunnerOf number objectId → after.RunnerOf number objectId
  sending : ∀ future number command, before.futures future = some (.sending number command) →
    after.futures future = some (.sending number command)
  senders : ∀ objectId sender, after.groupSenderByObjectId objectId = some sender →
    before.groupSenderByObjectId objectId = some sender ∨ after.RunnerOf sender objectId

variable {self before after : Server User} {objectId : String} {command : GroupCommand User}

omit [DecidableEq User] [RealtimeUser User] in
theorem SendsFrame.refl (server : Server User) : SendsFrame server server :=
  ⟨fun _ _ => id, fun _ _ _ => id, fun _ _ => .inl⟩

omit [DecidableEq User] [RealtimeUser User] in
theorem SendsFrame.carries (frame : SendsFrame before after) (sending : before.Sending objectId command) :
    after.Sending objectId command := by
  obtain ⟨future, number, found, of⟩ := sending
  exact ⟨future, number, frame.sending future number command found, frame.object number objectId of⟩

omit [DecidableEq User] in
theorem SendsFrame.addressed (frame : SendsFrame before after) (addressed : before.Addressed)
    (wellFormed : after.WellFormed) : after.Addressed := by
  refine ⟨wellFormed, fun objectId sender found => ?_⟩
  cases frame.senders objectId sender found with
  | inl known => exact frame.object sender objectId (addressed.senders objectId sender known)
  | inr of => exact of

/-! ## What each step does to them -/

omit [DecidableEq User] [RealtimeUser User] in
theorem setFuture_sending {future : Nat} {value : Option (Future User)}
    (notSending : ∀ number command, self.futures future ≠ some (.sending number command)) {other number : Nat}
    (found : self.futures other = some (.sending number command)) :
    (self.setFuture future value).futures other = some (.sending number command) := by
  have different : other ≠ future := by
    rintro rfl
    exact notSending number command found
  simpa [setFuture, different] using found

omit [RealtimeUser User] in
theorem removeUser_sendsFrame {future : Nat}
    (notSending : ∀ number command, self.futures future ≠ some (.sending number command)) (user : User)
    (editings : List Editing) (last : After User) : SendsFrame self (self.removeUser future user editings last) := by
  apply removeUser_cases (motive := fun after => SendsFrame self after)
  · intro _
    cases last <;> exact ⟨fun _ _ => id, fun _ _ _ found => setFuture_sending notSending found, fun _ _ => .inl⟩
  · intro _ editing remaining _ _ _
    exact ⟨fun _ _ => id, fun _ _ _ found => setFuture_sending notSending found, fun _ _ => .inl⟩

theorem beginRemoveUser_sendsFrame (wellFormed : self.WellFormed) (user : User) (order : List Editing)
    (last : After User) : SendsFrame self (self.beginRemoveUser user order last) := by
  -- the future takes a number that none has yet
  have fresh : ∀ number command, (self.takeEditing user).futures self.started ≠ some (.sending number command) := by
    intro number command found
    cases (wellFormed.fresh self.started le_rfl).symm.trans found
  have frame := removeUser_sendsFrame fresh user (visit order (self.editingCollabByUser user)) last
  exact ⟨frame.object, frame.sending, frame.senders⟩

theorem connect_sendsFrame (wellFormed : self.WellFormed) (user : User) (order : List Editing) :
    SendsFrame self (self.connect user order) := by
  unfold connect
  cases self.userByDevice (.from user) with
  | none => exact ⟨fun _ _ => id, fun _ _ _ => id, fun _ _ => .inl⟩
  | some oldUser =>
    have registered : ((self.register user).setStream oldUser none).WellFormed :=
      (wellFormed.register user).of_frame ⟨rfl, rfl, rfl, rfl⟩
    have frame := beginRemoveUser_sendsFrame registered oldUser order (.insertStream user self.sessions)
    exact ⟨frame.object, frame.sending, frame.senders⟩

omit [DecidableEq User] in
theorem start_sendsFrame (wellFormed : self.WellFormed) (future : Future User) :
    SendsFrame self (self.start future) := by
  refine ⟨fun _ _ => id, fun other number command found => ?_, fun _ _ => .inl⟩
  refine setFuture_sending (fun number command started => ?_) found
  cases (wellFormed.fresh self.started le_rfl).symm.trans started

omit [DecidableEq User] [RealtimeUser User] in
theorem spawn_sendsFrame (self : Server User) (objectId : String) : SendsFrame self (self.spawn objectId) := by
  refine ⟨fun number other of => spawn_runnerOf.mpr (.inl of), fun _ _ _ => id, fun other sender found => ?_⟩
  simp only [spawn, Function.update_apply] at found
  split at found
  · next same => exact .inr (spawn_runnerOf.mpr (.inr ⟨(Option.some.inj found).symm, same.symm⟩))
  · exact .inl found

omit [DecidableEq User] in
/-- What is handed on is under way to a runner of its object. -/
theorem Addressed.processClientCollabMessage (addressed : self.Addressed) (user : User) (objectId : String)
    (messages : List ClientCollabMessage) :
    SendsFrame self (self.processClientCollabMessage user objectId messages) ∧
      (self.processClientCollabMessage user objectId messages).Sending objectId
        (.handleClientCollabMessage user objectId messages) := by
  unfold Server.processClientCollabMessage
  cases found : self.groupSenderByObjectId objectId with
  | some sender =>
    refine ⟨start_sendsFrame addressed.wellFormed _, self.started, sender, ?_, addressed.senders objectId sender found⟩
    simp [start, setFuture]
  | none =>
    have spawned : (self.spawn objectId).WellFormed := addressed.wellFormed.of_frame ⟨rfl, rfl, rfl, rfl⟩
    have frame := spawn_sendsFrame self objectId
    have started := start_sendsFrame spawned
      (.sending self.runners.length (.handleClientCollabMessage user objectId messages))
    refine ⟨⟨fun number other of => started.object number other (frame.object number other of),
      fun future number command found => started.sending future number command found, frame.senders⟩, ?_⟩
    refine ⟨self.started, self.runners.length, by simp [start, setFuture], ?_⟩
    exact spawn_runnerOf.mpr (.inr ⟨rfl, rfl⟩)

omit [DecidableEq User] [RealtimeUser User] in
theorem setRunner_runnerOf {number other : Nat} {runner next : Runner User} (found : self.runners[number]? = some runner)
    (same : next.objectId = runner.objectId) (of : self.RunnerOf other objectId) :
    (self.setRunner number next).RunnerOf other objectId := by
  rw [RunnerOf, setRunner_getElem? found]
  split
  · next equal =>
    subst equal
    rw [RunnerOf, found] at of
    simpa [same] using of
  · exact of

omit [DecidableEq User] [RealtimeUser User] in
/-- A send that goes through leaves its command in the channel; the others go on. -/
theorem send_carries {future number : Nat} {sent : GroupCommand User}
    (pending : self.futures future = some (.sending number sent)) (sending : self.Sending objectId command) :
    (self.send future number sent).Sending objectId command ∨ (self.send future number sent).Queued objectId command := by
  obtain ⟨other, target, found, of⟩ := sending
  unfold send
  split
  · exact .inl ⟨other, target, found, of⟩
  · next runner present =>
    split
    · -- there is room: the send that ends may be the one we follow
      have of := setRunner_runnerOf present (rfl : Runner.objectId { runner with queue := runner.queue ++ [sent] } = _) of
      by_cases same : other = future
      · subst same
        obtain ⟨rfl, rfl⟩ : number = target ∧ sent = command := by simpa using pending.symm.trans found
        refine .inr ⟨number, { runner with queue := runner.queue ++ [sent] }, ?_, ?_, by simp⟩
        · simp [setFuture, setRunner_getElem? present]
        · rw [RunnerOf, setRunner_getElem? present, if_pos rfl] at of
          exact Option.some.inj of
      · exact .inl ⟨other, target, by simpa [setFuture, setRunner, same] using found, of⟩
    · exact .inl ⟨other, target, found, of⟩

omit [DecidableEq User] in
theorem send_addressed (addressed : self.Addressed) {future number : Nat} {sent : GroupCommand User}
    (pending : self.futures future = some (.sending number sent)) : (self.send future number sent).Addressed := by
  refine ⟨addressed.wellFormed.send (addressed.wellFormed.started pending) number sent, ?_⟩
  unfold send
  split
  · exact addressed.senders
  · next runner present =>
    split
    · exact fun objectId sender found => setRunner_runnerOf present rfl (addressed.senders objectId sender found)
    · exact addressed.senders

theorem runRunner_sendsFrame (self : Server User) (number : Nat) (received : Bool) :
    SendsFrame self (self.runRunner number received) := by
  have runners := runRunner_runnerFrame self number received
  have handlers := runRunner_handlerFrame self number received
  refine ⟨fun other objectId of => (runners.object other).trans of, fun future other command found => ?_,
    fun objectId sender found => .inl (runners.senders ▸ found)⟩
  rw [handlers.futures]
  exact found

omit [DecidableEq User] [RealtimeUser User] in
theorem tick_sendsFrame (self : Server User) (order : List String) (elapsed : String → Bool) :
    SendsFrame self (self.tick order elapsed) := by
  have frame := tick_frame self order elapsed
  refine ⟨fun number objectId of => ?_, fun future number command found => ?_,
    fun objectId sender found => .inl ((tick_runnersFrame self order elapsed).senders objectId sender found)⟩
  · rwa [RunnerOf, frame.runners]
  · rwa [frame.futures]

/-- A step is the end of a send, or every send goes on. -/
theorem step_sendsFrame (addressed : self.Addressed) (event : Event User) :
    SendsFrame self (self.step event) ∨ ∃ future number sent,
      self.futures future = some (.sending number sent) ∧ self.step event = self.send future number sent := by
  cases event with
  | connect user order => exact .inl (connect_sendsFrame addressed.wellFormed user order)
  | disconnect user session order =>
    left
    apply disconnect_cases (motive := fun after => SendsFrame self after)
    · intro _ _ _
      exact .refl self
    · intro _
      exact beginRemoveUser_sendsFrame addressed.wellFormed user order _
  | message user objectId messages => exact .inl (addressed.processClientCollabMessage user objectId messages).1
  | getEncodeCollab objectId =>
    left
    rw [Server.step, getEncodeCollab]
    split
    · exact start_sendsFrame addressed.wellFormed _
    · exact .refl self
  | poll future =>
    rw [Server.step, pollFuture]
    cases found : self.futures future with
    | none => exact .inl (.refl self)
    | some pending =>
      cases pending with
      | removing user objectId remaining last =>
        exact .inl (removeUser_sendsFrame (by simp [found]) user remaining last)
      | sending number command => exact .inr ⟨future, number, command, found, rfl⟩
  | runner number received => exact .inl (runRunner_sendsFrame self number received)
  | tick order elapsed => exact .inl (tick_sendsFrame self order elapsed)

theorem Addressed.step (addressed : self.Addressed) (event : Event User) : (self.step event).Addressed := by
  cases step_sendsFrame addressed event with
  | inl frame => exact frame.addressed addressed (addressed.wellFormed.step event)
  | inr ends =>
    obtain ⟨future, number, sent, pending, same⟩ := ends
    rw [same]
    exact send_addressed addressed pending

theorem Addressed.carries (addressed : self.Addressed) (event : Event User) (sending : self.Sending objectId command) :
    (self.step event).Sending objectId command ∨ (self.step event).Queued objectId command := by
  cases step_sendsFrame addressed event with
  | inl frame => exact .inl (frame.carries sending)
  | inr ends =>
    obtain ⟨future, number, sent, pending, same⟩ := ends
    rw [same]
    exact send_carries pending sending

omit [DecidableEq User] in
theorem addressed_new : Addressed (new : Server User) := ⟨wellFormed_new, fun _ _ found => nomatch found⟩

end Server

/-! ## Packets on their way -/

section Intake

variable (lib : PostLib) (serde : CollabSerde)

/-- In the course of the run the command came into the channel of a runner of the object, or at
    its end it waits there for room. -/
def Reaches (events : List (IntakeEvent User)) (objectId : String) (command : GroupCommand User) : Prop :=
  (∃ earlier later, events = earlier ++ later ∧
    (run (Intake.step lib serde) .new earlier).server.Queued objectId command) ∨
  (run (Intake.step lib serde) .new events).server.Sending objectId command

variable (User) in
/-- In every run in which the packet is handled to its end, for every client message of the
    packet all those about the same object reach a runner of the object, in their order. -/
def ReachesGroups (packet : RealtimeMessage) : Prop :=
  ∀ (user : User) (first later : List (IntakeEvent User)) (mailbox : List (Mail User)),
    (run (Intake.step lib serde) .new first).mailbox = .client user packet :: mailbox →
    (run (Intake.step lib serde) .new (first ++ .take :: later)).handlings[
      (run (Intake.step lib serde) .new first).handlings.length]? = some (.client user []) →
    ∀ message ∈ packet.clientMessages,
      Reaches lib serde (first ++ .take :: later) message.objectId
        (.handleClientCollabMessage user message.objectId (packet.messagesFor message.objectId))

/-- The handler has sent every entry on or has it before it. -/
def Handled (events : List (IntakeEvent User)) (number : Nat) (user : User) (entries : ObjectMessages) : Prop :=
  ∃ waiting, (run (Intake.step lib serde) .new events).handlings[number]? = some (.client user waiting) ∧
    ∀ objectId messages, entries.lookup objectId = some messages →
      waiting.lookup objectId = some messages ∨
        Reaches lib serde events objectId (.handleClientCollabMessage user objectId messages)

variable {lib serde} {intake : Intake User} {events : List (IntakeEvent User)} {objectId : String}
  {command : GroupCommand User}

/-- What a step of the intake does to the server is a step of the server, or nothing. -/
theorem Intake.step_server (lib : PostLib) (serde : CollabSerde) (intake : Intake User) (event : IntakeEvent User) :
    (intake.step lib serde event).server = intake.server ∨
      ∃ served, (intake.step lib serde event).server = intake.server.step served := by
  cases event with
  | arrive arrival => exact .inl rfl
  | take =>
    left
    simp only [Intake.step, Intake.take]
    split <;> rfl
  | forward number objectId =>
    simp only [Intake.step, Intake.forward]
    split
    · exact .inl rfl
    · next user _ _ =>
      split
      · exact .inl rfl
      · next messages _ => exact .inr ⟨.message user objectId messages, rfl⟩
    · split
      · exact .inl rfl
      · next messages _ =>
        simp only
        split
        · next user _ => exact .inr ⟨.message user objectId messages, rfl⟩
        · exact .inl rfl
  | server event =>
    cases event with
    | message => exact .inl rfl
    | connect user order => exact .inr ⟨.connect user order, rfl⟩
    | disconnect user session order => exact .inr ⟨.disconnect user session order, rfl⟩
    | getEncodeCollab objectId => exact .inr ⟨.getEncodeCollab objectId, rfl⟩
    | poll future => exact .inr ⟨.poll future, rfl⟩
    | runner number received => exact .inr ⟨.runner number received, rfl⟩
    | tick order elapsed => exact .inr ⟨.tick order elapsed, rfl⟩

def Intake.Addressed (intake : Intake User) : Prop := intake.server.Addressed

theorem Intake.Addressed.step {intake : Intake User} (addressed : intake.Addressed) (event : IntakeEvent User) :
    (intake.step lib serde event).Addressed := by
  rcases intake.step_server lib serde event with same | ⟨served, same⟩
  · rwa [Intake.Addressed, same]
  · rw [Intake.Addressed, same]
    exact Server.Addressed.step addressed served

theorem run_addressed (events : List (IntakeEvent User)) : (run (Intake.step lib serde) .new events).Addressed := by
  have initial : (Intake.new : Intake User).Addressed := Server.addressed_new
  exact run_invariant (fun _ event addressed => addressed.step event) initial events

theorem Reaches.step (reaches : Reaches lib serde events objectId command) (event : IntakeEvent User) :
    Reaches lib serde (events ++ [event]) objectId command := by
  cases reaches with
  | inl came =>
    obtain ⟨earlier, later, rfl, queued⟩ := came
    exact .inl ⟨earlier, later ++ [event], by simp, queued⟩
  | inr sending =>
    have addressed : (run (Intake.step lib serde) .new events).Addressed := run_addressed events
    have after := run_concat (Intake.step lib serde) .new events event
    rcases Intake.step_server lib serde (run (Intake.step lib serde) .new events) event with same | ⟨served, same⟩
    · refine .inr ?_
      rwa [after, same]
    · cases Server.Addressed.carries addressed served sending with
      | inl goesOn =>
        refine .inr ?_
        rwa [after, same]
      | inr queued =>
        refine .inl ⟨events ++ [event], [], by simp, ?_⟩
        rwa [after, same]

/-! ## The handler of a packet -/

omit [DecidableEq User] [RealtimeUser User] in
theorem lookup_filter_ne {waiting : ObjectMessages} {sent objectId : String} (different : objectId ≠ sent) :
    (waiting.filter (·.1 ≠ sent)).lookup objectId = waiting.lookup objectId := by
  induction waiting with
  | nil => rfl
  | cons entry waiting inductionHypothesis =>
    obtain ⟨key, messages⟩ := entry
    by_cases dropped : key = sent
    · subst dropped
      have other : (objectId == key) = false := beq_false_of_ne different
      simpa [List.lookup_cons, other] using inductionHypothesis
    · simp only [List.filter_cons, dropped, ne_eq, not_false_eq_true, decide_true, if_true, List.lookup_cons]
      rw [← inductionHypothesis]

variable {number : Nat} {user : User} {entries : ObjectMessages}

/-- The handler itself comes to an object, or anything else happens. -/
theorem Handled.step (handled : Handled lib serde events number user entries) (event : IntakeEvent User) :
    Handled lib serde (events ++ [event]) number user entries := by
  obtain ⟨waiting, found, each⟩ := handled
  have after := run_concat (Intake.step lib serde) .new events event
  have goesOn : ∀ objectId messages, entries.lookup objectId = some messages →
      waiting.lookup objectId = some messages ∨
        Reaches lib serde (events ++ [event]) objectId (.handleClientCollabMessage user objectId messages) :=
    fun objectId messages entry => (each objectId messages entry).imp_right fun reaches => reaches.step event
  have stays : ((run (Intake.step lib serde) .new events).step lib serde event).handlings[number]? =
      some (.client user waiting) → Handled lib serde (events ++ [event]) number user entries :=
    fun same => ⟨waiting, by rwa [after], goesOn⟩
  cases event with
  | arrive arrival => exact stays found
  | take =>
    refine stays ?_
    simp only [Intake.step, Intake.take]
    split
    · exact found
    · rw [List.getElem?_append_left (List.getElem?_eq_some_iff.mp found).1]
      exact found
  | server event =>
    refine stays ?_
    cases event <;> exact found
  | forward handling sent =>
    by_cases own : handling = number
    case neg =>
      refine stays ?_
      simp only [Intake.step, Intake.forward]
      split
      · exact found
      · split
        · exact found
        · rwa [List.getElem?_set_ne own]
      · split
        · exact found
        · rwa [List.getElem?_set_ne own]
    case pos =>
      subst own
      cases there : waiting.lookup sent with
      | none =>
        refine stays ?_
        simp only [Intake.step, Intake.forward, found, there]
      | some messages =>
        have forwarded : (run (Intake.step lib serde) .new events).step lib serde (.forward handling sent) =
            { run (Intake.step lib serde) .new events with
              handlings := (run (Intake.step lib serde) .new events).handlings.set handling
                (.client user (waiting.filter (·.1 ≠ sent)))
              server := (run (Intake.step lib serde) .new events).server.processClientCollabMessage user sent messages } := by
          simp only [Intake.step, Intake.forward, found, there]
        refine ⟨waiting.filter (·.1 ≠ sent), ?_, fun objectId others entry => ?_⟩
        · rw [after, forwarded]
          simp [(List.getElem?_eq_some_iff.mp found).1]
        · by_cases same : objectId = sent
          · -- its messages leave the handler and are on their way to a runner
            subst same
            refine .inr ((goesOn objectId others entry).elim (fun before => ?_) id)
            obtain rfl : messages = others := Option.some.inj (there.symm.trans before)
            refine .inr ?_
            rw [after, forwarded]
            exact (Server.Addressed.processClientCollabMessage (run_addressed events) user objectId messages).2
          · rw [lookup_filter_ne same]
            exact goesOn objectId others entry

theorem Handled.run (handled : Handled lib serde events number user entries) (later : List (IntakeEvent User)) :
    Handled lib serde (events ++ later) number user entries := by
  induction later generalizing events with
  | nil => simpa using handled
  | cons event later inductionHypothesis => simpa using inductionHypothesis (handled.step event)

/-- Each entry of the split of a packet that is handled to its end reaches a runner. -/
theorem entries_reach {first later : List (IntakeEvent User)} {packet : RealtimeMessage} {mailbox : List (Mail User)}
    (next : (run (Intake.step lib serde) .new first).mailbox = .client user packet :: mailbox)
    (ended : (run (Intake.step lib serde) .new (first ++ .take :: later)).handlings[
      (run (Intake.step lib serde) .new first).handlings.length]? = some (.client user []))
    {messages : List ClientCollabMessage}
    (entry : (RealtimeClient.messagesByObject packet).lookup objectId = some messages) :
    Reaches lib serde (first ++ .take :: later) objectId (.handleClientCollabMessage user objectId messages) := by
  have taken : Handled lib serde (first ++ [.take]) (run (Intake.step lib serde) .new first).handlings.length user
      (RealtimeClient.messagesByObject packet) := by
    refine ⟨RealtimeClient.messagesByObject packet, ?_, fun _ _ => .inl⟩
    simp [run_append, Intake.step, Intake.take, next, Mail.handling]
  obtain ⟨waiting, found, each⟩ := (taken.run later)
  rw [List.append_assoc, List.singleton_append] at found each
  cases ended.symm.trans found
  exact (each objectId messages entry).resolve_left (by simp)

/-! ## The split -/

omit [DecidableEq User] [RealtimeUser User] in
theorem pairs_lookup (map : MessageByObjectId) (objectId : String) : map.pairs.lookup objectId = map.lookup objectId := by
  obtain ⟨entries, distinct⟩ := map
  simp only [MessageByObjectId.pairs, AList.lookup]
  clear distinct
  induction entries with
  | nil => rfl
  | cons entry entries inductionHypothesis =>
    obtain ⟨key, messages⟩ := entry
    rw [List.map_cons, List.lookup_cons, inductionHypothesis]
    by_cases same : objectId = key
    · subst same
      simp
    · rw [beq_false_of_ne same, List.dlookup_cons_ne _ _ same]

/-- A packet with a client message can be split. -/
theorem splits_of_mem {packet : RealtimeMessage} {message : ClientCollabMessage} (mem : message ∈ packet.clientMessages) :
    ∃ map, packet.tryIntoMessageByObjectId = .ok map := by
  cases packet with
  | user | system | serverCollabV1 => cases mem
  | clientCollabV1 | clientCollabV2 => exact ⟨_, rfl⟩
  | collab collabMessage =>
    rw [RealtimeMessage.tryIntoMessageByObjectId]
    rw [RealtimeMessage.clientMessages] at mem
    cases converted : ClientCollabMessage.tryFrom collabMessage with
    | error failure =>
      rw [converted] at mem
      cases mem
    | ok clientMessage => exact ⟨_, rfl⟩

/-- What the split keeps exactly reaches the runners. -/
theorem reachesGroups_of_splitsExactly {packet : RealtimeMessage} (exactly : packet.SplitsExactly) :
    ReachesGroups User lib serde packet := by
  intro user first later mailbox next ended message mem
  obtain ⟨map, split⟩ := splits_of_mem mem
  have kept := exactly map split message.objectId
  have about : message ∈ packet.messagesFor message.objectId := List.mem_filter.mpr ⟨mem, beq_self_eq_true _⟩
  apply entries_reach next ended
  rw [RealtimeClient.messagesByObject, split]
  simp only [pairs_lookup]
  rw [← kept] at about ⊢
  rw [MessageByObjectId.messages] at about ⊢
  cases entry : map.lookup message.objectId with
  | none =>
    rw [entry] at about
    cases about
  | some messages => rfl

/-- Splitting a packet loses nothing, and all of its messages reach the runners, just when no
    list of messages has two about one object and no map one under another's object. -/
theorem split_loses_nothing_iff (lib : PostLib) (serde : CollabSerde) (packet : RealtimeMessage) :
    packet.SplitsExactly ∧ ReachesGroups User lib serde packet ↔ packet.ObjectsApart := by
  rw [← packet.splitsExactly_iff]
  exact ⟨And.left, fun exactly => ⟨exactly, reachesGroups_of_splitsExactly exactly⟩⟩

end Intake

end Packets

end FlowCloud.Tasks
