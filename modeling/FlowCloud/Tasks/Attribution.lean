import FlowCloud.Tasks.Intake

/-! # On whose behalf the runners work

The messages of a packet say themselves which user and device they come from, and a request
may name any device in its header.  What a runner is sent and works on is nevertheless on
behalf of a user with the id under which the connection or the request was authenticated.
-/

namespace FlowCloud.Tasks

open FlowCloud.Foundation FlowCloud.Entity FlowCloud.Server FlowCloud.Api

/-! ## Work -/

section Work

variable {User : Type}

/-- The user a runner works for, and the message that decides what it does. -/
def RunnerState.work : RunnerState User → Option (User × ClientCollabMessage)
  | .unsubscribing user _ first | .creating user first | .subscribing user first _ => some (user, first)
  | .idle | .encoding => none

/-- What the runner works on was asked for. -/
def Server.WorkAsked (Asked : User → String → List ClientCollabMessage → Prop) (server : Server User) (number : Nat) :
    Prop :=
  ∀ runner : Runner User, server.runners[number]? = some runner →
    ∀ work ∈ runner.state.work, ∃ objectId rest, Asked work.1 objectId (work.2 :: rest)

/-- What is sent to the runners, waits for them or is worked on, was asked for. -/
structure Attributed (Asked : User → String → List ClientCollabMessage → Prop) (server : Server User) : Prop where
  sent : ∀ future number user objectId messages,
    server.futures future = some (.sending number (.handleClientCollabMessage user objectId messages)) →
      Asked user objectId messages
  queued : ∀ (number : Nat) (runner : Runner User), server.runners[number]? = some runner →
    ∀ user objectId messages, .handleClientCollabMessage user objectId messages ∈ runner.queue →
      Asked user objectId messages
  working : ∀ number, server.WorkAsked Asked number

/-- The packet was sent by the user, or by a request with the id of the user. -/
def Mail.From [RealtimeUser User] (user : User) : Mail User → Prop
  | .client sender _ => sender = user
  | .stream message => message.uid = RealtimeUser.uid user

def Handling.From [RealtimeUser User] (user : User) : Handling User → Prop
  | .client sender _ => sender = user
  | .stream uid _ _ => uid = RealtimeUser.uid user

def Handling.waiting : Handling User → ObjectMessages
  | .client _ waiting | .stream _ _ waiting => waiting

def Mail.message : Mail User → RealtimeMessage
  | .client _ message => message
  | .stream message => message.message

/-- A connection of the user, or a request that the user cache knows as one with the user's id. -/
def Arrival.From [RealtimeUser User] (user : User) : Arrival User → Prop
  | .frame sender _ _ => sender = user
  | .post uid _ _ _ => uid = .ok (RealtimeUser.uid user)

end Work

section Attribution

variable {User : Type} [DecidableEq User] [RealtimeUser User]
  {Asked : User → String → List ClientCollabMessage → Prop} {self : Server User}

namespace Attributed

omit [DecidableEq User] [RealtimeUser User] in
theorem new : Attributed Asked (.new : Server User) where
  sent := by simp [Server.new]
  queued := by simp [Server.new]
  working := by simp [Server.WorkAsked, Server.new]

omit [DecidableEq User] [RealtimeUser User] in
theorem of_frame {before after : Server User} (attributed : Attributed Asked before)
    (frame : Server.RunnersFrame before after) : Attributed Asked after := by
  refine ⟨?_, frame.runners ▸ attributed.queued, fun number => ?_⟩
  rotate_left
  · rw [Server.WorkAsked, frame.runners]
    exact attributed.working number
  intro future number user objectId messages sending
  obtain ⟨other, before⟩ := frame.sent future number _ sending
  exact attributed.sent other number user objectId messages before

omit [DecidableEq User] [RealtimeUser User] in
/-- Another command is on its way. -/
theorem start (attributed : Attributed Asked self) (sender : Nat) {command : GroupCommand User}
    (asked : ∀ user objectId messages, command = .handleClientCollabMessage user objectId messages →
      Asked user objectId messages) : Attributed Asked (self.start (.sending sender command)) := by
  refine ⟨?_, attributed.queued, attributed.working⟩
  intro future number user objectId messages sending
  cases Server.start_sending sending with
  | inl same =>
    cases same
    exact asked user objectId messages rfl
  | inr before => exact attributed.sent future number user objectId messages before

omit [DecidableEq User] [RealtimeUser User] in
/-- A new runner has nothing to do. -/
theorem spawn (attributed : Attributed Asked self) (objectId : String) (senders : String → Option Nat) :
    Attributed Asked { self with
      runners := self.runners ++ [⟨objectId, [], .idle⟩]
      groupSenderByObjectId := senders } := by
  have known : ∀ (number : Nat) (runner : Runner User),
      (self.runners ++ [⟨objectId, [], .idle⟩])[number]? = some runner →
        self.runners[number]? = some runner ∨ runner = ⟨objectId, [], .idle⟩ := by
    intro number runner found
    rw [List.getElem?_append] at found
    split at found
    · exact .inl found
    · exact .inr (List.mem_singleton.mp (List.mem_of_getElem? found))
  refine ⟨attributed.sent, ?_, ?_⟩
  · intro number runner found user key messages waits
    rcases known number runner found with before | rfl
    · exact attributed.queued number runner before user key messages waits
    · cases waits
  · intro number runner found work works
    rcases known number runner found with before | rfl
    · exact attributed.working number runner before work works
    · cases works

omit [DecidableEq User] [RealtimeUser User] in
theorem processClientCollabMessage (attributed : Attributed Asked self) {user : User} {objectId : String}
    {messages : List ClientCollabMessage} (asked : Asked user objectId messages) :
    Attributed Asked (self.processClientCollabMessage user objectId messages) := by
  have only : ∀ other key others,
      GroupCommand.handleClientCollabMessage user objectId messages = .handleClientCollabMessage other key others →
        Asked other key others := by
    rintro _ _ _ ⟨⟩
    exact asked
  unfold Server.processClientCollabMessage
  cases self.groupSenderByObjectId objectId with
  | some sender => exact attributed.start sender only
  | none => exact (attributed.spawn objectId _).start _ only

omit [DecidableEq User] [RealtimeUser User] in
/-- The runner takes the command that was on its way. -/
theorem send (attributed : Attributed Asked self) {future number : Nat} {command : GroupCommand User}
    (sending : self.futures future = some (.sending number command)) :
    Attributed Asked (self.send future number command) := by
  unfold Server.send
  cases found : self.runners[number]? with
  | none => exact attributed
  | some runner =>
    simp only
    split
    · refine ⟨?_, ?_, ?_⟩
      · intro other position user objectId messages before
        exact attributed.sent other position user objectId messages (Server.sending_of_setFuture (by simp) before)
      · intro position next there user objectId messages waits
        simp only [Server.setFuture, Server.setRunner_getElem? found] at there
        split at there
        · obtain rfl := Option.some.inj there
          rcases List.mem_append.mp waits with before | last
          · exact attributed.queued number runner found user objectId messages before
          · rw [← List.mem_singleton.mp last] at sending
            exact attributed.sent future number user objectId messages sending
        · exact attributed.queued position next there user objectId messages waits
      · intro position next there work works
        simp only [Server.setFuture, Server.setRunner_getElem? found] at there
        split at there
        · obtain rfl := Option.some.inj there
          exact attributed.working number runner found work works
        · exact attributed.working position next there work works
    · exact attributed

end Attributed

/-! ## Runners -/

/-- The runner works for the user on the message, if at all. -/
def Server.WorksFor (server : Server User) (number : Nat) (user : User) (first : ClientCollabMessage) : Prop :=
  ∀ runner : Runner User, server.runners[number]? = some runner → ∀ work ∈ runner.state.work, work = (user, first)

variable {number : Nat} {user : User} {first : ClientCollabMessage} {received : Bool}

omit [DecidableEq User] [RealtimeUser User] in
theorem Server.worksFor_setState (server : Server User) {state : RunnerState User}
    (works : ∀ work ∈ state.work, work = (user, first)) : (server.setState number state).WorksFor number user first := by
  intro runner found work
  rw [Server.setState_getElem?, if_pos rfl, Option.map_eq_some_iff] at found
  obtain ⟨before, _, rfl⟩ := found
  exact works work

omit [RealtimeUser User] in
theorem Server.worksFor_finish (server : Server User) (other : User) :
    (server.finish number other received).WorksFor number user first :=
  Server.worksFor_setState _ (by simp [RunnerState.work])

theorem Server.worksFor_subscribeGroup (server : Server User) :
    (server.subscribeGroup number user first received).WorksFor number user first := by
  apply Server.subscribeGroup_cases (motive := fun server => server.WorksFor number user first)
  · exact server.worksFor_finish user
  · intro _ _ _ _ _ _
    exact Server.worksFor_setState _ (by simp [RunnerState.work])
  · intro _ _ _ _ _
    exact Server.worksFor_finish _ user

theorem Server.worksFor_resubscribe (server : Server User) (objectId : String) :
    (server.resubscribe number user objectId first received).WorksFor number user first :=
  Server.resubscribe_cases (motive := fun server => server.WorksFor number user first)
    (server.worksFor_finish user) server.worksFor_subscribeGroup

omit [DecidableEq User] [RealtimeUser User] in
theorem Server.WorksFor.asked {server : Server User} (works : server.WorksFor number user first)
    (asked : ∃ objectId rest, Asked user objectId (first :: rest)) : server.WorkAsked Asked number := by
  intro runner found work member
  rw [works runner found work member]
  exact asked

omit [DecidableEq User] [RealtimeUser User] in
theorem Server.workAsked_setState (server : Server User) {state : RunnerState User} (nothing : state.work = none) :
    (server.setState number state).WorkAsked Asked number := by
  intro runner found work member
  rw [Server.setState_getElem?, if_pos rfl, Option.map_eq_some_iff] at found
  obtain ⟨before, _, rfl⟩ := found
  rw [nothing] at member
  cases member

/-- A runner that had nothing to do handles a command that was asked for. -/
theorem Server.workAsked_handleCommand (server : Server User) (idle : server.WorkAsked Asked number)
    {command : GroupCommand User}
    (asked : ∀ user objectId messages, command = .handleClientCollabMessage user objectId messages →
      Asked user objectId messages) : (server.handleCommand number command received).WorkAsked Asked number := by
  cases command with
  | encodeCollab objectId => exact server.workAsked_setState rfl
  | handleClientCollabMessage user objectId messages =>
    have begun : ∀ {first rest}, messages = first :: rest → ∃ objectId rest, Asked user objectId (first :: rest) := by
      intro first rest same
      subst same
      exact ⟨objectId, rest, asked user objectId _ rfl⟩
    apply Server.handleCollabMessage_cases (motive := fun server => server.WorkAsked Asked number)
    · exact idle
    · intro first rest same _
      exact (Server.worksFor_setState _ (by simp [RunnerState.work])).asked (begun same)
    · intro first rest same
      exact (Server.worksFor_resubscribe _ objectId).asked (begun same)
    · intro first rest same _
      exact (Server.worksFor_setState _ (by simp [RunnerState.work])).asked (begun same)

/-- The runner goes on with what it works on, or takes a command. -/
theorem Attributed.workAsked_runRunner (attributed : Attributed Asked self) (number : Nat) (received : Bool) :
    (self.runRunner number received).WorkAsked Asked number := by
  have before := attributed.working number
  apply Server.runRunner_cases (motive := fun server => server.WorkAsked Asked number)
  case rests => exact before
  case takes =>
    intro runner command queue found idle waiting
    refine Server.workAsked_handleCommand _ ?_ ?_
    · intro next there work member
      rw [Server.setRunner_getElem? found, if_pos rfl] at there
      obtain rfl := Option.some.inj there
      exact before runner found work member
    · intro user objectId messages same
      subst same
      exact attributed.queued number runner found user objectId messages (waiting ▸ .head _)
  case encoded =>
    intro _ _ _
    exact self.workAsked_setState rfl
  case unsubscribed =>
    intro runner user objectId first found state
    exact (Server.worksFor_resubscribe self objectId).asked (before runner found (user, first) (by rw [state]; rfl))
  case created =>
    intro runner user first found state
    exact (Server.worksFor_subscribeGroup _).asked (before runner found (user, first) (by rw [state]; rfl))
  case subscribed =>
    intro runner user first group found state
    exact (Server.worksFor_finish _ user).asked (before runner found (user, first) (by rw [state]; rfl))

theorem Attributed.runRunner (attributed : Attributed Asked self) (number : Nat) (received : Bool) :
    Attributed Asked (self.runRunner number received) := by
  have frame := Server.runRunner_runnerFrame self number received
  refine ⟨?_, ?_, ?_⟩
  · intro future position user objectId messages sending
    rw [(Server.runRunner_handlerFrame self number received).futures] at sending
    exact attributed.sent future position user objectId messages sending
  · intro position runner there user objectId messages waits
    by_cases same : position = number
    · subst same
      obtain ⟨before, found, shorter⟩ := frame.queue runner there
      exact attributed.queued position before found user objectId messages (shorter waits)
    · rw [frame.others position same] at there
      exact attributed.queued position runner there user objectId messages waits
  · intro position
    by_cases same : position = number
    · subst same
      exact attributed.workAsked_runRunner position received
    · intro runner there
      rw [frame.others position same] at there
      exact attributed.working position runner there

/-- Everything but a message, which has its own lemma. -/
theorem Attributed.step (attributed : Attributed Asked self) (event : Event User)
    (asked : ∀ user objectId messages, event = .message user objectId messages → Asked user objectId messages) :
    Attributed Asked (self.step event) := by
  cases event with
  | connect user order => exact attributed.of_frame (Server.connect_runnersFrame self user order)
  | disconnect user session order => exact attributed.of_frame (Server.disconnect_runnersFrame self user session order)
  | message user objectId messages => exact attributed.processClientCollabMessage (asked user objectId messages rfl)
  | getEncodeCollab objectId =>
    simp only [Server.step, Server.getEncodeCollab]
    split
    · exact attributed.start _ (by simp)
    · exact attributed
  | poll future =>
    simp only [Server.step, Server.pollFuture]
    split
    · exact attributed
    · exact attributed.of_frame (Server.removeUser_runnersFrame self _ _ _ _)
    · rename_i sending
      exact attributed.send sending
  | runner number received => exact attributed.runRunner number received
  | tick order elapsed => exact attributed.of_frame (Server.tick_runnersFrame self order elapsed)

/-! ## The way to the runners -/

/-- Whatever is on its way was asked for by whom it is from. -/
structure Intake.Authentic (Asked : User → String → List ClientCollabMessage → Prop) (intake : Intake User) : Prop where
  mailbox : ∀ mail ∈ intake.mailbox, ∀ user, mail.From user →
    ∀ entry ∈ RealtimeClient.messagesByObject mail.message, Asked user entry.1 entry.2
  handlings : ∀ handling ∈ intake.handlings, ∀ user, handling.From user →
    ∀ entry ∈ handling.waiting, Asked user entry.1 entry.2
  server : Attributed Asked intake.server
  wellFormed : intake.server.WellFormed

variable {intake : Intake User}

theorem mem_of_lookup {waiting : ObjectMessages} {objectId : String} {messages : List ClientCollabMessage}
    (there : waiting.lookup objectId = some messages) : (objectId, messages) ∈ waiting := by
  obtain ⟨front, rest, rfl, _⟩ := List.lookup_eq_some_iff.mp there
  simp

omit [DecidableEq User] in
theorem Intake.Authentic.take (authentic : intake.Authentic Asked) : intake.take.Authentic Asked := by
  unfold Intake.take
  split
  · exact authentic
  · rename_i mail mailbox first
    have mails := authentic.mailbox
    rw [first, List.forall_mem_cons] at mails
    refine ⟨mails.2, ?_, authentic.server, authentic.wellFormed⟩
    refine List.forall_mem_append.mpr ⟨authentic.handlings, List.forall_mem_singleton.mpr ?_⟩
    cases mail with
    | client => exact mails.1
    | stream => exact mails.1

theorem Intake.Authentic.forward (authentic : intake.Authentic Asked) (number : Nat) (objectId : String) :
    (intake.forward number objectId).Authentic Asked := by
  unfold Intake.forward
  split
  · exact authentic
  · rename_i user waiting found
    have asked := authentic.handlings _ (List.mem_of_getElem? found)
    split
    · exact authentic
    · rename_i messages there
      refine ⟨authentic.mailbox, ?_, ?_, authentic.wellFormed.step (.message user objectId messages)⟩
      · refine forall_mem_set authentic.handlings number ?_
        intro other from_ entry member
        exact asked other from_ entry (List.mem_of_mem_filter member)
      · exact authentic.server.processClientCollabMessage (asked user rfl _ (mem_of_lookup there))
  · rename_i uid deviceId waiting found
    have asked := authentic.handlings _ (List.mem_of_getElem? found)
    split
    · exact authentic
    · rename_i messages there
      have rest : ∀ handling ∈ intake.handlings.set number
          (.stream uid (deviceOf deviceId messages) (waiting.filter (·.1 ≠ objectId))), ∀ user, handling.From user →
          ∀ entry ∈ handling.waiting, Asked user entry.1 entry.2 := by
        refine forall_mem_set authentic.handlings number ?_
        intro other from_ entry member
        exact asked other from_ entry (List.mem_of_mem_filter member)
      cases connected : intake.server.userByDevice ⟨uid, deviceOf deviceId messages⟩ with
      | none =>
        refine ⟨authentic.mailbox, rest, ?_, ?_⟩
        · simpa only [connected] using authentic.server
        · simpa only [connected] using authentic.wellFormed
      | some user =>
        -- the map has users under their own device only
        have own := authentic.wellFormed.device _ user connected
        have same : uid = RealtimeUser.uid user := (congrArg UserDevice.uid own).symm
        have sends := authentic.server.processClientCollabMessage
          (asked user same _ (mem_of_lookup there))
        have stays : (intake.server.processClientCollabMessage user objectId messages).WellFormed :=
          authentic.wellFormed.step (.message user objectId messages)
        refine ⟨authentic.mailbox, rest, ?_, ?_⟩
        · simpa only [connected] using sends
        · simpa only [connected] using stays

/-- What arrives is asked for by whoever it is from. -/
def Asks (lib : PostLib) (serde : CollabSerde) (Asked : User → String → List ClientCollabMessage → Prop) :
    IntakeEvent User → Prop
  | .arrive arrival => ∀ mail ∈ arrival.mail lib serde, ∀ user, mail.From user →
      ∀ entry ∈ RealtimeClient.messagesByObject mail.message, Asked user entry.1 entry.2
  | _ => True

theorem Intake.Authentic.step (authentic : intake.Authentic Asked) {lib : PostLib} {serde : CollabSerde}
    {event : IntakeEvent User} (asks : Asks lib serde Asked event) : (intake.step lib serde event).Authentic Asked := by
  cases event with
  | arrive arrival =>
    refine ⟨?_, authentic.handlings, authentic.server, authentic.wellFormed⟩
    refine List.forall_mem_append.mpr ⟨authentic.mailbox, ?_⟩
    intro mail member
    exact asks mail (Option.mem_toList.mp member)
  | take => exact authentic.take
  | forward number objectId => exact authentic.forward number objectId
  | server event =>
    have other : (∀ user objectId messages, event ≠ .message user objectId messages) →
        ({ intake with server := intake.server.step event } : Intake User).Authentic Asked := fun isOther =>
      ⟨authentic.mailbox, authentic.handlings,
        authentic.server.step event fun user objectId messages same => absurd same (isOther user objectId messages),
        authentic.wellFormed.step event⟩
    cases event with
    | message => exact authentic
    | connect | disconnect | getEncodeCollab | poll | runner | tick => exact other (by simp)

omit [DecidableEq User] in
/-- The mail is from whoever the connection or the request was. -/
theorem Arrival.from_of_mail {lib : PostLib} {serde : CollabSerde} {arrival : Arrival User} {mail : Mail User}
    {user : User} (brought : mail ∈ arrival.mail lib serde) (sender : mail.From user) : arrival.From user := by
  cases arrival with
  | frame other data trySend =>
    simp only [Arrival.mail, sendBinaryToServer] at brought
    split at brought
    · cases brought
      exact sender
    · cases brought
  | post uid headers payload trySend =>
    obtain ⟨message, entered, rfl⟩ := Option.map_eq_some_iff.mp brought
    rw [Arrival.From, PostLib.uid_of_entered entered]
    exact congrArg Except.ok sender

/-- What the runners are sent, have waiting and work on for a user are the messages of packets
    that came over a connection of this user, or in a request that was authenticated as one of
    this user's, whatever the packets and the headers of the requests say. -/
theorem runners_act_for_senders (lib : PostLib) (serde : CollabSerde) (events : List (IntakeEvent User)) :
    Attributed
      (fun user objectId messages => ∃ arrival, .arrive arrival ∈ events ∧ arrival.From user ∧
        ∃ mail ∈ arrival.mail lib serde, (objectId, messages) ∈ RealtimeClient.messagesByObject mail.message)
      (run (Intake.step lib serde) .new events).server := by
  have admitted : Always (Intake.step lib serde) (fun _ => Asks lib serde
      (fun user objectId messages => ∃ arrival, .arrive arrival ∈ events ∧ arrival.From user ∧
        ∃ mail ∈ arrival.mail lib serde, (objectId, messages) ∈ RealtimeClient.messagesByObject mail.message))
      .new events := by
    refine Always.of_forall fun event member => ?_
    cases event with
    | arrive arrival =>
      intro mail brought user sender entry asked
      exact ⟨arrival, member, Arrival.from_of_mail brought sender, mail, brought, asked⟩
    | take | forward | server => trivial
  have preserved := Always.invariant
    (fun intake event (authentic : intake.Authentic _) asks => authentic.step asks)
    ⟨by simp [Intake.new], by simp [Intake.new], .new, Server.wellFormed_new⟩ admitted
  exact preserved.server

end Attribution

end FlowCloud.Tasks
