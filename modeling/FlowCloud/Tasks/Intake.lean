import FlowCloud.Api.RealtimePost
import FlowCloud.Foundation.Threads
import FlowCloud.Protocol.Lib0
import FlowCloud.Server.FrameOrder
import FlowCloud.Tasks.Runners

/-! # What comes in

The realtime server has one mailbox.  The frames of a connection enter it with the user of
the connection, the packets of requests with a user id and the name of a device.  The handler
of either sends the messages object by object to the runners of the objects; for a request it
looks up who is connected with the device each time.
-/

namespace FlowCloud.Tasks

open FlowCloud.Foundation FlowCloud.Entity FlowCloud.Server FlowCloud.Api

/-! ## Data -/

/-- The messages of a packet by object. -/
abbrev ObjectMessages := List (String × List ClientCollabMessage)

/-- `ClientMessage` or `ClientStreamMessage`. -/
inductive Mail (User : Type) where
  | client (user : User) (message : RealtimeMessage)
  | stream (message : ClientStreamMessage)

/-- A handler and the objects it has not come to. -/
inductive Handling (User : Type) where
  | client (user : User) (waiting : ObjectMessages)
  | stream (uid : Int) (deviceId : String) (waiting : ObjectMessages)

/-- What brings a message to the mailbox.  The tries are those to put it there. -/
inductive Arrival (User : Type) where
  /-- `send_binary_to_server` for a connection of the user. -/
  | frame (user : User) (data : Bytes) (trySend : Nat → Except String Unit)
  /-- `uid`: what the user cache says about the sender of the request. -/
  | post (uid : Except AppError Int) (headers : HeaderMap) (payload : PayloadStream) (trySend : Nat → Except String Unit)

inductive IntakeEvent (User : Type) where
  | arrive (arrival : Arrival User)
  /-- The server begins to handle the next message in its mailbox. -/
  | take
  /-- A handler comes to an object. -/
  | forward (handling : Nat) (objectId : String)
  /-- Anything else of the server. -/
  | server (event : Event User)

structure Intake (User : Type) where
  mailbox : List (Mail User)
  handlings : List (Handling User)
  server : Server User

section Intake

variable {User : Type} [DecidableEq User] [RealtimeUser User] (lib : PostLib) (serde : CollabSerde)

/-- A frame that cannot be decoded or does not get into the mailbox is only logged. -/
def sendBinaryToServer (user : User) (data : Bytes) (trySend : Nat → Except String Unit) : Option (Mail User) :=
  match RealtimeMessage.decode serde data, PostLib.sendRetrying trySend 0 PostLib.maxRetries with
  | .ok message, .ok () => some (.client user message)
  | _, _ => none

def Arrival.mail : Arrival User → Option (Mail User)
  | .frame user data trySend => sendBinaryToServer serde user data trySend
  | .post uid headers payload trySend =>
    (lib.postRealtimeMessageStreamHandler serde uid headers payload trySend).2.map .stream

def Mail.handling : Mail User → Handling User
  | .client user message => .client user (RealtimeClient.messagesByObject message)
  | .stream message => .stream message.uid message.deviceId (RealtimeClient.messagesByObject message.message)

/-- Old clients do not send the header: the first message names the device. -/
def deviceOf (deviceId : String) (messages : List ClientCollabMessage) : String :=
  if deviceId = "" then (messages.head?.bind ClientCollabMessage.deviceId).getD deviceId else deviceId

namespace Intake

def new : Intake User := ⟨[], [], .new⟩

variable (self : Intake User)

/-- Both handlers at their next object: its messages go to the runner, and for a request whose
    device is not connected nowhere. -/
def forward (number : Nat) (objectId : String) : Intake User :=
  match self.handlings[number]? with
  | none => self
  | some (.client user waiting) =>
    match waiting.lookup objectId with
    | none => self
    | some messages =>
      { self with
        handlings := self.handlings.set number (.client user (waiting.filter (·.1 ≠ objectId)))
        server := self.server.processClientCollabMessage user objectId messages }
  | some (.stream uid deviceId waiting) =>
    match waiting.lookup objectId with
    | none => self
    | some messages =>
      let device := deviceOf deviceId messages
      { self with
        handlings := self.handlings.set number (.stream uid device (waiting.filter (·.1 ≠ objectId)))
        server :=
          match self.server.userByDevice ⟨uid, device⟩ with
          | some user => self.server.processClientCollabMessage user objectId messages
          | none => self.server }

def take : Intake User :=
  match self.mailbox with
  | [] => self
  | mail :: mailbox => { self with mailbox, handlings := self.handlings ++ [mail.handling] }

def step (lib : PostLib) (serde : CollabSerde) (self : Intake User) : IntakeEvent User → Intake User
  | .arrive arrival => { self with mailbox := self.mailbox ++ (arrival.mail lib serde).toList }
  | .take => self.take
  | .forward number objectId => self.forward number objectId
  -- messages come through the mailbox
  | .server (.message _ _ _) => self
  | .server event => { self with server := self.server.step event }

end Intake

/-! ## Two ways to the server -/

/-- The frame is sent, or posted by the same client: the request says how its body is compressed
    and which device it comes from, and the body arrives in any chunks. -/
inductive Reroutes : IntakeEvent User → IntakeEvent User → Prop where
  | same (event : IntakeEvent User) : Reroutes event event
  | post {user : User} {data : Bytes} {compressionBufferSize bufferSize : Nat} {headers : HeaderMap}
      {chunks : List Bytes} (trySend : Nat → Except String Unit)
      (posted : lib.postRealtimeMsg compressionBufferSize (RealtimeUser.deviceId user) data = .ok chunks.flatten)
      (compressed : compressTypeFromHeaderValue headers = .ok (.brotli bufferSize))
      (device : deviceIdFromHeaders headers = .ok (RealtimeUser.deviceId user))
      (named : RealtimeUser.deviceId user ≠ "") :
      Reroutes (.arrive (.frame user data trySend))
        (.arrive (.post (.ok (RealtimeUser.uid user)) headers (chunks.map .ok) trySend))

/-- The connection of the user is the one that its device has now. -/
def Handling.Current (server : Server User) : Handling User → Prop
  | .client user _ => server.userByDevice (.from user) = some user
  | .stream _ _ _ => True

instance (server : Server User) : DecidablePred (Handling.Current server)
  | .client user _ => inferInstanceAs (Decidable (server.userByDevice (.from user) = some user))
  | .stream _ _ _ => .isTrue trivial

/-- No handler sends on for a user whose device has connected again. -/
def Intake.Current (self : Intake User) : IntakeEvent User → Prop
  | .forward number _ => ∀ handling ∈ self.handlings[number]?, handling.Current self.server
  | _ => True

instance (self : Intake User) : DecidablePred self.Current
  | .forward number _ => inferInstanceAs (Decidable (∀ handling ∈ self.handlings[number]?, _))
  | .arrive _ | .take | .server _ => .isTrue trivial

inductive SameMail : Mail User → Mail User → Prop where
  | same (mail : Mail User) : SameMail mail mail
  | post {user : User} (message : RealtimeMessage) (named : RealtimeUser.deviceId user ≠ "") :
      SameMail (.client user message) (.stream ⟨RealtimeUser.uid user, RealtimeUser.deviceId user, message⟩)

inductive SameHandling : Handling User → Handling User → Prop where
  | same (handling : Handling User) : SameHandling handling handling
  | post {user : User} (waiting : ObjectMessages) (named : RealtimeUser.deviceId user ≠ "") :
      SameHandling (.client user waiting) (.stream (RealtimeUser.uid user) (RealtimeUser.deviceId user) waiting)

structure Intake.Agrees (framed posted : Intake User) : Prop where
  mailbox : List.Forall₂ SameMail framed.mailbox posted.mailbox
  handlings : List.Forall₂ SameHandling framed.handlings posted.handlings
  server : framed.server = posted.server

variable {lib serde} {framed posted : Intake User}

omit [DecidableEq User] in
theorem SameMail.handling {mail other : Mail User} (same : SameMail mail other) :
    SameHandling mail.handling other.handling := by
  cases same with
  | same => exact .same _
  | post message named => exact .post _ named

omit [DecidableEq User] in
/-- A frame and its post bring the same message, or both bring none. -/
theorem Reroutes.mail {arrival other : Arrival User} (reroutes : Reroutes lib (.arrive arrival) (.arrive other)) :
    List.Forall₂ SameMail (arrival.mail lib serde).toList (other.mail lib serde).toList := by
  cases reroutes with
  | same => exact List.forall₂_same.mpr fun _ _ => .same _
  | @post user data _ bufferSize headers chunks trySend sent compressed device named =>
    have parsed := PostLib.parserRealtimeMsg_postRealtimeMsg serde sent compressed
    have built : lib.clientStreamMessage serde (.ok (RealtimeUser.uid user)) headers (chunks.map .ok) =
        ((lib.parserRealtimeMsg serde chunks.flatten headers).mapError HandlerError.app).map fun message =>
          ⟨RealtimeUser.uid user, RealtimeUser.deviceId user, message⟩ := by
      simp only [PostLib.clientStreamMessage, device, PostLib.readPayload_chunks, Except.mapError, bind, Except.bind]
      cases lib.parserRealtimeMsg serde chunks.flatten headers <;> rfl
    simp only [Arrival.mail, sendBinaryToServer, PostLib.postRealtimeMessageStreamHandler, built, parsed]
    cases RealtimeMessage.decode serde data with
    | error failure => exact .nil
    | ok message =>
      simp only [Except.mapError, Except.map]
      cases PostLib.sendRetrying trySend 0 PostLib.maxRetries with
      | error failure => exact .nil
      | ok _ => exact .cons (.post message named) .nil

omit [DecidableEq User] in
theorem Intake.Agrees.take (agrees : framed.Agrees posted) : framed.take.Agrees posted.take := by
  obtain ⟨mails, handlings, server⟩ := framed
  obtain ⟨otherMails, otherHandlings, otherServer⟩ := posted
  obtain ⟨mailbox, handled, same⟩ := agrees
  cases mailbox with
  | nil => exact ⟨.nil, handled, same⟩
  | cons first rest => exact ⟨rest, List.rel_append handled (.cons first.handling .nil), same⟩

omit [DecidableEq User] in
theorem Intake.Agrees.forward (agrees : framed.Agrees posted) {number : Nat} {objectId : String}
    (current : framed.Current (.forward number objectId)) :
    (framed.forward number objectId).Agrees (posted.forward number objectId) := by
  have paired := inStep_getElem? agrees.handlings number
  unfold Intake.forward
  cases found : framed.handlings[number]? with
  | none =>
    rw [found] at paired
    cases there : posted.handlings[number]? with
    | none => exact agrees
    | some other =>
      rw [there] at paired
      cases paired
  | some handling =>
    rw [found] at paired
    cases there : posted.handlings[number]? with
    | none =>
      rw [there] at paired
      cases paired
    | some other =>
      rw [there] at paired
      cases paired with
      | some same =>
        cases same with
        | same handling =>
          cases handling with
          | client user waiting =>
            simp only
            cases waiting.lookup objectId with
            | none => exact agrees
            | some messages =>
              exact ⟨agrees.mailbox, inStep_set agrees.handlings number (.same _), by simp only [agrees.server]⟩
          | stream uid deviceId waiting =>
            simp only
            cases waiting.lookup objectId with
            | none => exact agrees
            | some messages =>
              exact ⟨agrees.mailbox, inStep_set agrees.handlings number (.same _), by simp only [agrees.server]⟩
        | @post user waiting named =>
          simp only
          cases waiting.lookup objectId with
          | none => exact agrees
          | some messages =>
            have connected : framed.server.userByDevice (.from user) = some user := current _ found
            have device : deviceOf (RealtimeUser.deviceId user) messages = RealtimeUser.deviceId user := if_neg named
            rw [agrees.server] at connected
            refine ⟨agrees.mailbox, ?_, ?_⟩
            · simp only [device]
              exact inStep_set agrees.handlings number (.post _ named)
            · show framed.server.processClientCollabMessage user objectId messages = _
              simp only [device]
              rw [show (⟨RealtimeUser.uid user, RealtimeUser.deviceId user⟩ : UserDevice) = .from user from rfl,
                connected, agrees.server]

theorem Intake.Agrees.step (agrees : framed.Agrees posted) {event other : IntakeEvent User}
    (reroutes : Reroutes lib event other) (current : framed.Current event) :
    (framed.step lib serde event).Agrees (posted.step lib serde other) := by
  cases reroutes with
  | same event =>
    cases event with
    | arrive arrival =>
      have mails : List.Forall₂ SameMail (arrival.mail lib serde).toList (arrival.mail lib serde).toList :=
        Reroutes.mail (.same _)
      exact ⟨List.rel_append agrees.mailbox mails, agrees.handlings, agrees.server⟩
    | take => exact agrees.take
    | forward number objectId => exact agrees.forward current
    | server event =>
      cases event with
      | message => exact agrees
      | _ => exact ⟨agrees.mailbox, agrees.handlings, by simp only [Intake.step, agrees.server]⟩
  | post trySend sent compressed device named =>
    exact ⟨List.rel_append agrees.mailbox (Reroutes.mail (.post trySend sent compressed device named)),
      agrees.handlings, agrees.server⟩

theorem Intake.Agrees.run {events others : List (IntakeEvent User)}
    (reroutes : List.Forall₂ (Reroutes lib) events others) (agrees : framed.Agrees posted)
    (current : Always (Intake.step lib serde) Intake.Current framed events) :
    (Foundation.run (Intake.step lib serde) framed events).Agrees
      (Foundation.run (Intake.step lib serde) posted others) := by
  induction reroutes generalizing framed posted with
  | nil => exact agrees
  | cons first _ inductionHypothesis => exact inductionHypothesis (agrees.step first current.1) current.2

/-- Whichever frames are posted instead, and however the bodies of the requests are cut, the
    realtime server does the same, unless a handler sends on for a user whose device has
    connected again. -/
theorem posts_agree_with_frames (lib : PostLib) (serde : CollabSerde) {events others : List (IntakeEvent User)}
    (reroutes : List.Forall₂ (Reroutes lib) events others)
    (current : Always (Intake.step lib serde) Intake.Current .new events) :
    (run (Intake.step lib serde) .new others).server = (run (Intake.step lib serde) .new events).server :=
  (Intake.Agrees.run reroutes ⟨.nil, .nil, rfl⟩ current).server.symm

/-! ## A sample post -/

/-- The edit as `brotli` compresses it. -/
def compressedEdit : Bytes :=
  [27, 71, 0, 0, 196, 78, 70, 247, 78, 72, 129, 206, 3, 46, 74, 108, 177, 68, 10, 149, 96, 99, 236, 186, 37, 162, 113,
    139, 63, 0, 196, 117, 148, 59, 118, 208, 251, 237, 32, 131, 56]

/-- The compressed edit in its protobuf message. -/
def postSamples : Samples HttpRealtimeMessage where
  entries := [([10, 5, 112, 104, 111, 110, 101, 18, 41] ++ compressedEdit, ⟨"phone", compressedEdit⟩)]
  mark := 255
  wire := (Protocol.Lib0.string.pair Wire.buf).convert (fun message => (message.deviceId, message.payload))
    (fun fields => .ok ⟨fields.1, fields.2⟩) (fun _ => rfl)
  unmarked := by decide

def samplePost : PostLib where
  encodeToVec := postSamples.encode
  decode data := (postSamples.decode data).mapError fun _ => "failed to decode Protobuf message"
  compress data _ _ := if data = editFrame 1 then .ok compressedEdit else .error (.internal "no sample")
  decompress compressed _ :=
    if compressed = compressedEdit then .ok (editFrame 1) else .error (.invalidRequest "no sample")
  readErrorText _ := "failed to read"
  decode_encodeToVec := by simp [Except.mapError]
  decompress_compress := by
    intro data quality bufferSize compressed packed readerSize
    split at packed
    · rename_i edit
      cases packed
      rw [if_pos rfl, edit]
    · cases packed

/-- The device connects, sends the edit and its messages go to the runner of the document. -/
def framedEdit (arrival : Arrival (Int × String)) : List (IntakeEvent (Int × String)) :=
  [.server (.connect (1, "phone") []), .arrive arrival, .take, .forward 0 "doc"]

def postHeaders : HeaderMap :=
  [("X-Compression-Type", .ok "brotli"), ("X-Compression-Buffer-Size", .ok "10240"), ("device_id", .ok "phone")]

/-- The body of the request arrives in two chunks. -/
def postedEdit : Arrival (Int × String) :=
  .post (.ok 1) postHeaders ([[10, 5, 112, 104, 111], [110, 101, 18, 41] ++ compressedEdit].map .ok) fun _ => .ok ()

theorem posts_agree_with_frames_edit :
    (run (Intake.step samplePost sampleSerde) .new (framedEdit postedEdit)).server =
      (run (Intake.step samplePost sampleSerde) .new
        (framedEdit (.frame (1, "phone") (editFrame 1) fun _ => .ok ()))).server := by
  have posted : samplePost.postRealtimeMsg 10240 "phone" (editFrame 1) =
      .ok [[10, 5, 112, 104, 111], [110, 101, 18, 41] ++ compressedEdit].flatten := by decide +kernel
  have compressed : compressTypeFromHeaderValue postHeaders = .ok (.brotli 10240) := by decide +kernel
  have reroutes : Reroutes samplePost (.arrive (.frame (1, "phone") (editFrame 1) fun _ => .ok ()))
      (.arrive postedEdit) :=
    .post _ posted compressed (by decide +kernel) (by decide)
  exact posts_agree_with_frames samplePost sampleSerde
    (.cons (.same _) (.cons reroutes (.cons (.same _) (.cons (.same _) .nil)))) (by decide +kernel)

end Intake

end FlowCloud.Tasks
