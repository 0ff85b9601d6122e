import FlowCloud.Entity.Serde
import FlowCloud.Foundation.BroadcastChannel
import FlowCloud.Foundation.Runs

/-! # From the websocket to the streams

For each connection a task reads the frames of the server and hands every collab message to
the channels of its object.  A channel is a broadcast, and for each stream that is opened on
it another task takes message after message from there.  Channels are found by object through
weak references, so one that nobody keeps any more is passed over.
-/

namespace FlowCloud.Client

open FlowCloud.Foundation FlowCloud.Entity

/-! ## Data -/

/-- `WebSocketChannel<ServerCollabMessage>`, as far as it receives. -/
structure WebSocketChannel where
  objectId : String
  /-- Somebody keeps the channel. -/
  alive : Bool
  receiver : BroadcastChannel ServerCollabMessage

/-- Tokio rounds the 1000 of the source up to a power of two. -/
def WebSocketChannel.capacity : Nat := 1024

def WebSocketChannel.new (objectId : String) : WebSocketChannel := ⟨objectId, true, ⟨capacity, []⟩⟩

/-- A stream and the task of `WebSocketChannel::stream` that feeds it. -/
structure ChannelStream where
  channel : Nat
  recv : ReceivingLoop
  /-- The stream was not dropped. -/
  listening : Bool
  delivered : List ServerCollabMessage
  /-- How much the channel had been sent when the stream was opened. -/
  joined : Nat
  /-- How much had been routed by then. -/
  opened : Nat

/-- The task of `spawn_recv_server_message` for one connection. -/
structure ServerReader where
  reading : Bool
  /-- What `handle_collab_message` has not come to. -/
  pending : List ServerCollabMessage
  /-- The collab messages of the packets so far. -/
  read : List ServerCollabMessage

structure ServerRoutes where
  channels : List WebSocketChannel
  /-- `ChannelByObjectId`: weak references, in the order of the subscriptions. -/
  channelsByObjectId : String → List Nat
  /-- The map is there as long as the client is. -/
  clientAlive : Bool
  streams : List ChannelStream
  readers : List ServerReader
  userChannel : BroadcastChannel UserMessage
  rateLimit : UInt32
  /-- The messages that were handled, each with the number of its reader. -/
  routed : List (Nat × ServerCollabMessage)

/-- `client_websocket::Message`, with what of it is looked at. -/
inductive ServerFrame where
  | text
  | binary (data : Bytes)
  | ping
  | pong
  | close

inductive RoutesEvent where
  | connect
  /-- `forwarded`: the answer to a ping or the note of a pong has found its receiver. -/
  | frame (reader : Nat) (frame : ServerFrame) (forwarded : Bool)
  /-- The websocket ends or fails. -/
  | ends (reader : Nat)
  /-- The reader comes to its next message. -/
  | handle (reader : Nat)
  | subscribeCollab (objectId : String)
  | dropChannel (channel : Nat)
  | stream (channel : Nat)
  /-- The task of the stream asks the channel for the next message. -/
  | turn (stream : Nat)
  | dropStream (stream : Nat)
  | dropClient

/-! ## Channels and streams -/

/-- `forward_to_stream`, through a weak reference. -/
def WebSocketChannel.forwardToStream (message : ServerCollabMessage) (self : WebSocketChannel) : WebSocketChannel :=
  if self.alive then { self with receiver := self.receiver.send message } else self

/-- The loop over the channels of an object. -/
def forwardTo (message : ServerCollabMessage) (channels : List WebSocketChannel) (found : List Nat) :
    List WebSocketChannel :=
  found.foldl (fun channels number => channels.modify number (·.forwardToStream message)) channels

/-- A round of the task.  A channel that nobody keeps is closed once it is read to the end. -/
def ChannelStream.turn (channel : WebSocketChannel) (self : ChannelStream) : ChannelStream :=
  match self.recv.turn channel.receiver with
  | (some message, recv) =>
    if self.listening then { self with recv, delivered := self.delivered ++ [message] }
    else { self with recv := { recv with running := false } }
  | (none, recv) => { self with recv := { recv with running := recv.running && channel.alive } }

/-- Of the handled messages, those of the object after the first `opened` ones. -/
def routedSince (routed : List (Nat × ServerCollabMessage)) (opened : Nat) (objectId : String) :
    List ServerCollabMessage :=
  ((routed.drop opened).map Prod.snd).filter (·.objectId = objectId)

namespace ServerRoutes

def new : ServerRoutes where
  channels := []
  channelsByObjectId _ := []
  clientAlive := true
  streams := []
  readers := []
  userChannel := ⟨1, []⟩
  rateLimit := 20
  routed := []

variable (self : ServerRoutes)

def isAlive (number : Nat) : Bool := self.channels[number]?.any (·.alive)

/-- The channels that were dropped go out of the list of the object. -/
def subscribeCollab (objectId : String) : ServerRoutes :=
  { self with
    channels := self.channels ++ [.new objectId]
    channelsByObjectId := Function.update self.channelsByObjectId objectId
      ((self.channelsByObjectId objectId).filter self.isAlive ++ [self.channels.length]) }

def openStream (number : Nat) : ServerRoutes :=
  match self.channels[number]? with
  | none => self
  | some channel =>
    if channel.alive then
      let joined := channel.receiver.subscribe
      { self with streams := self.streams ++ [⟨number, ⟨joined, true⟩, true, [], joined, self.routed.length⟩] }
    else self

def turn (number : Nat) : ServerRoutes :=
  match self.streams[number]? with
  | none => self
  | some stream =>
    match self.channels[stream.channel]? with
    | none => self
    | some channel => { self with streams := self.streams.set number (stream.turn channel) }

/-! ## Reading -/

def setReader (number : Nat) (reader : ServerReader) : ServerRoutes :=
  { self with readers := self.readers.set number reader }

/-- `handle_collab_message` begins; without a client there is no map. -/
def beginMessages (number : Nat) (reader : ServerReader) (messages : List ServerCollabMessage) : ServerRoutes :=
  if self.clientAlive then
    self.setReader number { reader with pending := messages, read := reader.read ++ messages }
  else self

/-- `gen_rate_limiter`: the quota is not zero. -/
def genRateLimiter (timesPerSec : UInt32) : UInt32 := if timesPerSec = 0 then 1 else timesPerSec

def receive (number : Nat) (reader : ServerReader) : RealtimeMessage → ServerRoutes
  | .collab message =>
    match ServerCollabMessage.tryFrom message with
    | .ok collabMessage => self.beginMessages number reader [collabMessage]
    | .error _ => self
  | .user message => { self with userChannel := self.userChannel.send message }
  | .system (.rateLimit limit) => { self with rateLimit := genRateLimiter limit }
  | .system .kickOff | .system .duplicateConnection => self.setReader number { reader with reading := false }
  | .serverCollabV1 messages => self.beginMessages number reader messages
  | .clientCollabV1 _ | .clientCollabV2 _ => self

def handleFrame (lib : CollabSerde) (number : Nat) (reader : ServerReader) (frame : ServerFrame) (forwarded : Bool) : ServerRoutes :=
  match frame with
  | .binary data =>
    match RealtimeMessage.decode lib data with
    | .ok message => self.receive number reader message
    | .error _ => self
  | .ping | .pong => if forwarded then self else self.setReader number { reader with reading := false }
  | .close => self.setReader number { reader with reading := false }
  | .text => self

/-- The next message goes to the channels that its object has now. -/
def handle (number : Nat) (reader : ServerReader) : ServerRoutes :=
  match reader.pending with
  | [] => self
  | message :: pending =>
    { self.setReader number { reader with pending } with
      channels := forwardTo message self.channels (self.channelsByObjectId message.objectId)
      routed := self.routed ++ [(number, message)] }

def step (lib : CollabSerde) (self : ServerRoutes) : RoutesEvent → ServerRoutes
  | .connect => { self with readers := self.readers ++ [⟨true, [], []⟩] }
  | .frame number frame forwarded =>
    match self.readers[number]? with
    | some reader =>
      if reader.reading ∧ reader.pending = [] then self.handleFrame lib number reader frame forwarded else self
    | none => self
  | .ends number =>
    match self.readers[number]? with
    | some reader => if reader.pending = [] then self.setReader number { reader with reading := false } else self
    | none => self
  | .handle number =>
    match self.readers[number]? with
    | some reader => self.handle number reader
    | none => self
  | .subscribeCollab objectId => if self.clientAlive then self.subscribeCollab objectId else self
  | .dropChannel number =>
    { self with channels := self.channels.modify number fun channel => { channel with alive := false } }
  | .stream number => self.openStream number
  | .turn number => self.turn number
  | .dropStream number =>
    { self with streams := self.streams.modify number fun stream => { stream with listening := false } }
  | .dropClient => { self with clientAlive := false }

/-! ## What a stream is owed -/

/-- The messages that the reader has handled. -/
def routedBy (number : Nat) : List ServerCollabMessage :=
  (self.routed.filter (·.1 = number)).map Prod.snd

/-- The task of a stream asks its channel before it is too far behind. -/
def StreamsKeepUp (self : ServerRoutes) : RoutesEvent → Prop
  | .turn number => ∀ stream ∈ self.streams[number]?, ∀ channel ∈ self.channels[stream.channel]?,
      KeepsUp channel.receiver stream.recv
  | _ => True

instance (self : ServerRoutes) : (event : RoutesEvent) → Decidable (self.StreamsKeepUp event)
  | .turn number => inferInstanceAs (Decidable (∀ stream ∈ self.streams[number]?, _))
  | .connect | .frame _ _ _ | .ends _ | .handle _ | .subscribeCollab _ | .dropChannel _ | .stream _ | .dropStream _
  | .dropClient => .isTrue trivial

end ServerRoutes

/-! ## The invariant -/

/-- The channel has been sent what the stream is owed, and nothing is missing while it is kept. -/
structure WebSocketChannel.Serves (routed : List (Nat × ServerCollabMessage)) (channel : WebSocketChannel)
    (stream : ChannelStream) : Prop where
  follows : Follows channel.receiver stream.joined stream.recv stream.delivered
  opened : stream.opened ≤ routed.length
  sent : channel.receiver.unread stream.joined <+: routedSince routed stream.opened channel.objectId
  current : channel.alive = true → channel.receiver.unread stream.joined = routedSince routed stream.opened channel.objectId

structure ServerRoutes.Sound (routes : ServerRoutes) : Prop where
  listed : ∀ objectId, ∀ number ∈ routes.channelsByObjectId objectId,
    ∃ channel, routes.channels[number]? = some channel ∧ channel.objectId = objectId
  nodup : ∀ objectId, (routes.channelsByObjectId objectId).Nodup
  found : ∀ number channel, routes.channels[number]? = some channel → channel.alive = true →
    number ∈ routes.channelsByObjectId channel.objectId
  readers : ∀ number reader, routes.readers[number]? = some reader →
    routes.routedBy number ++ reader.pending = reader.read
  known : ∀ entry ∈ routes.routed, entry.1 < routes.readers.length
  streams : ∀ stream ∈ routes.streams,
    ∃ channel, routes.channels[stream.channel]? = some channel ∧ channel.Serves routes.routed stream

variable {self : ServerRoutes} {number : Nat} {channel : WebSocketChannel} {stream : ChannelStream}
  {reader : ServerReader}

theorem ServerRoutes.new_sound : ServerRoutes.new.Sound where
  listed := by simp [ServerRoutes.new]
  nodup := by simp [ServerRoutes.new]
  found := by simp [ServerRoutes.new]
  readers := by simp [ServerRoutes.new]
  known := by simp [ServerRoutes.new]
  streams := by simp [ServerRoutes.new]

/-! ## Handling a message -/

/-- Each channel of the list is handed the message once, and no other one is. -/
theorem forwardTo_getElem? (message : ServerCollabMessage) {found : List Nat} (nodup : found.Nodup)
    (channels : List WebSocketChannel) (number : Nat) :
    (forwardTo message channels found)[number]? = channels[number]?.map fun channel =>
      if number ∈ found then channel.forwardToStream message else channel := by
  induction found generalizing channels with
  | nil => simp [forwardTo]
  | cons first found inductionHypothesis =>
    obtain ⟨fresh, nodup⟩ := List.nodup_cons.mp nodup
    have rest := inductionHypothesis nodup (channels.modify first (·.forwardToStream message))
    rw [forwardTo, List.foldl_cons, ← forwardTo, rest, List.getElem?_modify]
    by_cases same : first = number
    · subst same
      cases channels[first]? <;> simp [fresh]
    · cases channels[number]? <;> simp [same, Ne.symm same]

theorem routedSince_append {routed : List (Nat × ServerCollabMessage)} {opened : Nat} (before : opened ≤ routed.length)
    (objectId : String) (entry : Nat × ServerCollabMessage) :
    routedSince (routed ++ [entry]) opened objectId =
      routedSince routed opened objectId ++ if entry.2.objectId = objectId then [entry.2] else [] := by
  simp only [routedSince, List.drop_append_of_le_length before, List.map_append, List.filter_append]
  by_cases same : entry.2.objectId = objectId <;> simp [same]

/-- A stream of a channel that is handed the message if it has to be. -/
theorem WebSocketChannel.Serves.handle {routed : List (Nat × ServerCollabMessage)}
    (serves : channel.Serves routed stream) (entry : Nat × ServerCollabMessage) {handed : Prop} [Decidable handed]
    (own : handed → channel.objectId = entry.2.objectId)
    (all : channel.alive = true → channel.objectId = entry.2.objectId → handed) :
    (if handed then channel.forwardToStream entry.2 else channel).Serves (routed ++ [entry]) stream := by
  have longer : stream.opened ≤ (routed ++ [entry]).length := by
    have := serves.opened
    simp only [List.length_append]
    omega
  have owed := fun objectId => routedSince_append serves.opened objectId entry
  by_cases live : channel.alive = true
  · by_cases same : channel.objectId = entry.2.objectId
    · have forwarded : (if handed then channel.forwardToStream entry.2 else channel) =
          { channel with receiver := channel.receiver.send entry.2 } := by
        rw [if_pos (all live same), WebSocketChannel.forwardToStream, if_pos live]
      have sent : (channel.receiver.send entry.2).unread stream.joined =
          routedSince (routed ++ [entry]) stream.opened channel.objectId := by
        rw [channel.receiver.unread_send serves.follows.since, serves.current live, owed, if_pos same.symm]
      rw [forwarded]
      exact ⟨serves.follows.send entry.2, longer, sent ▸ List.prefix_refl _, fun _ => sent⟩
    · rw [if_neg fun now => same (own now)]
      have unchanged : routedSince (routed ++ [entry]) stream.opened channel.objectId =
          routedSince routed stream.opened channel.objectId := by
        simp [owed, Ne.symm same]
      exact ⟨serves.follows, longer, unchanged ▸ serves.sent, fun live => unchanged ▸ serves.current live⟩
  · have passed : (if handed then channel.forwardToStream entry.2 else channel) = channel := by
      simp [WebSocketChannel.forwardToStream, live]
    rw [passed]
    refine ⟨serves.follows, longer, ?_, fun now => absurd now live⟩
    rw [owed]
    exact serves.sent.trans (List.prefix_append _ _)

theorem ServerRoutes.Sound.handle (sound : self.Sound) (here : self.readers[number]? = some reader) :
    (self.handle number reader).Sound := by
  unfold ServerRoutes.handle
  split
  · exact sound
  · rename_i message pending waiting
    have inside : number < self.readers.length := (List.getElem?_eq_some_iff.mp here).1
    have handed := forwardTo_getElem? message (sound.nodup message.objectId) self.channels
    have kept : ∀ (position : Nat) (channel : WebSocketChannel),
        (if position ∈ self.channelsByObjectId message.objectId then channel.forwardToStream message
          else channel).objectId = channel.objectId ∧
        (if position ∈ self.channelsByObjectId message.objectId then channel.forwardToStream message
          else channel).alive = channel.alive := by
      intro position channel
      unfold WebSocketChannel.forwardToStream
      split
      · split <;> simp
      · simp
    refine ⟨?_, sound.nodup, ?_, ?_, ?_, ?_⟩
    · intro objectId position member
      obtain ⟨channel, there, own⟩ := sound.listed objectId position member
      refine ⟨_, by simp only [handed, there, Option.map_some]; rfl, ?_⟩
      rw [(kept position channel).1, own]
    · intro position channel there live
      simp only [handed, Option.map_eq_some_iff] at there
      obtain ⟨before, found, rfl⟩ := there
      rw [(kept position before).2] at live
      rw [(kept position before).1]
      exact sound.found position before found live
    · intro position other there
      simp only [ServerRoutes.setReader, List.getElem?_set] at there
      simp only [ServerRoutes.routedBy, List.filter_append, List.map_append]
      by_cases same : number = position
      · subst same
        rw [if_pos rfl, if_pos inside] at there
        obtain rfl := Option.some.inj there
        have before := sound.readers number reader here
        rw [waiting] at before
        simpa [ServerRoutes.routedBy] using before
      · rw [if_neg same] at there
        have others := sound.readers position other there
        simpa [ServerRoutes.routedBy, same] using others
    · intro entry member
      simp only [ServerRoutes.setReader, List.length_set]
      simp only [List.mem_append, List.mem_singleton] at member
      rcases member with before | rfl
      · exact sound.known entry before
      · exact inside
    · intro stream member
      obtain ⟨channel, there, serves⟩ := sound.streams stream member
      refine ⟨_, by simp only [handed, there, Option.map_some]; rfl, ?_⟩
      refine serves.handle (number, message) ?_ ?_
      · intro listed
        obtain ⟨other, found, own⟩ := sound.listed _ _ listed
        obtain rfl := Option.some.inj (there.symm.trans found)
        exact own
      · intro live same
        have listed := sound.found _ _ there live
        rwa [same] at listed

/-! ## The other steps -/

/-- A reader changes, and has handled as much of what it has read as before. -/
theorem ServerRoutes.Sound.setReader (sound : self.Sound) (here : self.readers[number]? = some reader)
    {next : ServerReader} (handled : self.routedBy number ++ reader.pending = reader.read →
      self.routedBy number ++ next.pending = next.read) : (self.setReader number next).Sound where
  listed := sound.listed
  nodup := sound.nodup
  found := sound.found
  readers position other there := by
    simp only [ServerRoutes.setReader, List.getElem?_set] at there
    split at there
    · rename_i same
      subst same
      split at there
      · obtain rfl := Option.some.inj there
        exact handled (sound.readers number reader here)
      · cases there
    · exact sound.readers position other there
  known entry member := by
    simp only [ServerRoutes.setReader, List.length_set]
    exact sound.known entry member
  streams := sound.streams

theorem ServerRoutes.Sound.beginMessages (sound : self.Sound) (here : self.readers[number]? = some reader)
    (idle : reader.pending = []) (messages : List ServerCollabMessage) :
    (self.beginMessages number reader messages).Sound := by
  unfold ServerRoutes.beginMessages
  split
  · refine sound.setReader here fun handled => ?_
    rw [idle, List.append_nil] at handled
    rw [handled]
  · exact sound

theorem ServerRoutes.Sound.receive (sound : self.Sound) (here : self.readers[number]? = some reader)
    (idle : reader.pending = []) (message : RealtimeMessage) : (self.receive number reader message).Sound := by
  unfold ServerRoutes.receive
  split
  · split
    · exact sound.beginMessages here idle _
    · exact sound
  · exact ⟨sound.listed, sound.nodup, sound.found, sound.readers, sound.known, sound.streams⟩
  · exact ⟨sound.listed, sound.nodup, sound.found, sound.readers, sound.known, sound.streams⟩
  · exact sound.setReader here id
  · exact sound.setReader here id
  · exact sound.beginMessages here idle _
  · exact sound
  · exact sound

theorem ServerRoutes.Sound.handleFrame (sound : self.Sound) (lib : CollabSerde)
    (here : self.readers[number]? = some reader) (idle : reader.pending = []) (frame : ServerFrame) (forwarded : Bool) :
    (self.handleFrame lib number reader frame forwarded).Sound := by
  cases frame with
  | text => exact sound
  | binary data =>
    simp only [ServerRoutes.handleFrame]
    split
    · exact sound.receive here idle _
    · exact sound
  | ping | pong =>
    simp only [ServerRoutes.handleFrame]
    split
    · exact sound
    · exact sound.setReader here id
  | close => exact sound.setReader here id

theorem ServerRoutes.Sound.subscribeCollab (sound : self.Sound) (objectId : String) :
    (self.subscribeCollab objectId).Sound := by
  have inside : ∀ {objectId position}, position ∈ self.channelsByObjectId objectId → position < self.channels.length := by
    intro objectId position member
    obtain ⟨channel, there, _⟩ := sound.listed objectId position member
    exact (List.getElem?_eq_some_iff.mp there).1
  have before : ∀ {position : Nat} {channel}, self.channels[position]? = some channel →
      (self.channels ++ [WebSocketChannel.new objectId])[position]? = some channel := by
    intro position channel there
    rw [List.getElem?_append_left (List.getElem?_eq_some_iff.mp there).1, there]
  have last : (self.channels ++ [WebSocketChannel.new objectId])[self.channels.length]? = some (.new objectId) := by
    simp
  refine ⟨?_, ?_, ?_, sound.readers, sound.known, ?_⟩
  · intro other position member
    simp only [ServerRoutes.subscribeCollab, Function.update_apply] at member ⊢
    split at member
    · rename_i same
      subst same
      rcases List.mem_append.mp member with kept | new
      · obtain ⟨channel, there, own⟩ := sound.listed other position (List.mem_filter.mp kept).1
        exact ⟨channel, before there, own⟩
      · obtain rfl := List.mem_singleton.mp new
        exact ⟨_, last, rfl⟩
    · obtain ⟨channel, there, own⟩ := sound.listed other position member
      exact ⟨channel, before there, own⟩
  · intro other
    simp only [ServerRoutes.subscribeCollab, Function.update_apply]
    split
    · rw [List.nodup_append]
      refine ⟨(sound.nodup objectId).filter _, by simp, ?_⟩
      intro position kept new same
      simp only [List.mem_singleton] at same
      have := inside (List.mem_filter.mp kept).1
      omega
    · exact sound.nodup other
  · intro position channel there live
    simp only [ServerRoutes.subscribeCollab, Function.update_apply] at there ⊢
    rw [List.getElem?_append] at there
    split at there
    · have listed := sound.found position channel there live
      split
      · rename_i same
        rw [same] at listed
        refine List.mem_append_left _ (List.mem_filter.mpr ⟨listed, ?_⟩)
        simp [ServerRoutes.isAlive, there, live]
      · exact listed
    · have position_eq : position = self.channels.length := by
        have := (List.getElem?_eq_some_iff.mp there).1
        simp only [List.length_singleton] at this
        omega
      subst position_eq
      simp only [Nat.sub_self, List.getElem?_cons_zero, Option.some.injEq] at there
      subst there
      simp [WebSocketChannel.new]
  · intro stream member
    obtain ⟨channel, there, serves⟩ := sound.streams stream member
    exact ⟨channel, before there, serves⟩

theorem ServerRoutes.Sound.openStream (sound : self.Sound) (number : Nat) : (self.openStream number).Sound := by
  unfold ServerRoutes.openStream
  split
  · exact sound
  · rename_i channel there
    split
    · refine ⟨sound.listed, sound.nodup, sound.found, sound.readers, sound.known, ?_⟩
      refine List.forall_mem_append.mpr ⟨sound.streams, List.forall_mem_singleton.mpr ⟨channel, there, ?_⟩⟩
      have nothing : routedSince self.routed self.routed.length channel.objectId = [] := by
        simp [routedSince]
      refine ⟨follows_subscribe channel.receiver, Nat.le_refl _, ?_, fun _ => ?_⟩
      · rw [channel.receiver.unread_subscribe]
        exact List.nil_prefix
      · rw [channel.receiver.unread_subscribe]
        exact nothing.symm
    · exact sound

/-- A round of the task takes the stream on, whatever the channel says. -/
theorem WebSocketChannel.Serves.turn {routed : List (Nat × ServerCollabMessage)} (serves : channel.Serves routed stream) :
    channel.Serves routed (stream.turn channel) := by
  have follows := serves.follows.turn
  unfold ChannelStream.turn
  split
  · rename_i message recv took
    rw [took] at follows
    split
    · exact ⟨follows, serves.opened, serves.sent, serves.current⟩
    · exact ⟨serves.follows.ends follows.position, serves.opened, serves.sent, serves.current⟩
  · rename_i recv took
    simp only [took, Option.toList_none, List.append_nil] at follows
    refine ⟨?_, serves.opened, serves.sent, serves.current⟩
    cases running : recv.running && channel.alive with
    | false => exact follows.ends follows.position
    | true =>
      have same : recv = ⟨recv.next, true⟩ := by
        rw [Bool.and_eq_true] at running
        rw [← running.1]
      rw [same] at follows
      exact follows

theorem ServerRoutes.Sound.turn (sound : self.Sound) (number : Nat) : (self.turn number).Sound := by
  unfold ServerRoutes.turn
  split
  · exact sound
  · rename_i stream there
    split
    · exact sound
    · rename_i channel found
      refine ⟨sound.listed, sound.nodup, sound.found, sound.readers, sound.known, ?_⟩
      intro other member
      rcases List.mem_or_eq_of_mem_set member with before | rfl
      · exact sound.streams other before
      · obtain ⟨own, there, serves⟩ := sound.streams stream (List.mem_of_getElem? there)
        obtain rfl := Option.some.inj (found.symm.trans there)
        have unmoved : (stream.turn channel).channel = stream.channel := by
          unfold ChannelStream.turn
          split
          · split <;> rfl
          · rfl
        exact ⟨channel, unmoved ▸ found, serves.turn⟩

theorem ServerRoutes.Sound.dropChannel (sound : self.Sound) (number : Nat) :
    ({ self with channels := self.channels.modify number fun channel => { channel with alive := false } } :
      ServerRoutes).Sound := by
  have there : ∀ {position : Nat} {channel}, self.channels[position]? = some channel → ∃ alive,
      (alive = true → channel.alive = true) ∧
      (self.channels.modify number fun channel => { channel with alive := false })[position]? =
        some { channel with alive } := by
    intro position channel found
    rw [List.getElem?_modify, found]
    by_cases same : number = position
    · exact ⟨false, by simp, by simp [same]⟩
    · exact ⟨channel.alive, id, by simp [same]⟩
  refine ⟨?_, sound.nodup, ?_, sound.readers, sound.known, ?_⟩
  · intro objectId position member
    obtain ⟨channel, found, own⟩ := sound.listed objectId position member
    obtain ⟨alive, _, result⟩ := there found
    exact ⟨_, result, own⟩
  · intro position channel found live
    simp only [List.getElem?_modify, Option.map_eq_map, Option.map_eq_some_iff] at found
    obtain ⟨before, found, rfl⟩ := found
    by_cases same : number = position
    · simp [same] at live
    · simp only [same, if_false] at live ⊢
      exact sound.found position before found live
  · intro stream member
    obtain ⟨channel, found, serves⟩ := sound.streams stream member
    obtain ⟨alive, kept, result⟩ := there found
    exact ⟨_, result, serves.follows, serves.opened, serves.sent, fun live => serves.current (kept live)⟩

theorem ServerRoutes.Sound.dropStream (sound : self.Sound) (number : Nat) :
    ({ self with streams := self.streams.modify number fun stream => { stream with listening := false } } :
      ServerRoutes).Sound := by
  refine ⟨sound.listed, sound.nodup, sound.found, sound.readers, sound.known, ?_⟩
  intro stream member
  obtain ⟨position, there⟩ := List.mem_iff_getElem?.mp member
  simp only [List.getElem?_modify, Option.map_eq_map, Option.map_eq_some_iff] at there
  obtain ⟨before, found, rfl⟩ := there
  obtain ⟨channel, there, serves⟩ := sound.streams before (List.mem_of_getElem? found)
  split
  · exact ⟨channel, there, serves.follows, serves.opened, serves.sent, serves.current⟩
  · exact ⟨channel, there, serves⟩

theorem ServerRoutes.Sound.connect (sound : self.Sound) :
    ({ self with readers := self.readers ++ [⟨true, [], []⟩] } : ServerRoutes).Sound := by
  refine ⟨sound.listed, sound.nodup, sound.found, ?_, ?_, sound.streams⟩
  · intro position other there
    rw [List.getElem?_append] at there
    split at there
    · exact sound.readers position other there
    · rename_i beyond
      have new : self.routedBy position = [] := by
        simp only [ServerRoutes.routedBy, List.map_eq_nil_iff, List.filter_eq_nil_iff]
        intro entry member
        have := sound.known entry member
        simp only [decide_eq_true_eq]
        omega
      have first := List.mem_of_getElem? there
      obtain rfl := List.mem_singleton.mp first
      show self.routedBy position ++ [] = []
      rw [new, List.append_nil]
  · intro entry member
    have := sound.known entry member
    simp only [List.length_append, List.length_singleton]
    omega

theorem ServerRoutes.Sound.step (sound : self.Sound) (lib : CollabSerde) (event : RoutesEvent) :
    (self.step lib event).Sound := by
  cases event with
  | connect => exact sound.connect
  | frame number frame forwarded =>
    simp only [ServerRoutes.step]
    split
    · rename_i reader here
      split
      · rename_i ready
        exact sound.handleFrame lib here ready.2 frame forwarded
      · exact sound
    · exact sound
  | ends number =>
    simp only [ServerRoutes.step]
    split
    · rename_i reader here
      split
      · exact sound.setReader here id
      · exact sound
    · exact sound
  | handle number =>
    simp only [ServerRoutes.step]
    split
    · rename_i reader here
      exact sound.handle here
    · exact sound
  | subscribeCollab objectId =>
    simp only [ServerRoutes.step]
    split
    · exact sound.subscribeCollab objectId
    · exact sound
  | dropChannel number => exact sound.dropChannel number
  | stream number => exact sound.openStream number
  | turn number => exact sound.turn number
  | dropStream number => exact sound.dropStream number
  | dropClient => exact ⟨sound.listed, sound.nodup, sound.found, sound.readers, sound.known, sound.streams⟩

/-! ## Streams that keep up -/

/-- The task of a stream that somebody reads, on a channel that somebody keeps, runs. -/
def ServerRoutes.Live (routes : ServerRoutes) : Prop :=
  ∀ stream ∈ routes.streams, stream.listening = true → routes.isAlive stream.channel = true →
    stream.recv.running = true

/-- The streams stay as they are, and no channel of theirs comes back. -/
theorem ServerRoutes.Live.of_channels (live : self.Live) {routes : ServerRoutes} (streams : routes.streams = self.streams)
    (gone : ∀ stream ∈ self.streams, routes.isAlive stream.channel = true → self.isAlive stream.channel = true) :
    routes.Live := by
  intro stream member listening alive
  rw [streams] at member
  exact live stream member listening (gone stream member alive)

theorem ServerRoutes.isAlive_handle (sound : self.Sound) (number position : Nat) (reader : ServerReader) :
    (self.handle number reader).isAlive position = self.isAlive position := by
  unfold ServerRoutes.handle
  split
  · rfl
  · rename_i message pending waiting
    simp only [ServerRoutes.isAlive, forwardTo_getElem? message (sound.nodup message.objectId)]
    cases self.channels[position]? with
    | none => rfl
    | some channel =>
      simp only [Option.map_some, Option.any_some, WebSocketChannel.forwardToStream]
      split
      · split <;> rfl
      · rfl

theorem ServerRoutes.streams_handle (number : Nat) (reader : ServerReader) :
    (self.handle number reader).streams = self.streams := by
  unfold ServerRoutes.handle
  split <;> rfl

theorem ServerRoutes.kept_handleFrame (lib : CollabSerde) (number : Nat) (reader : ServerReader) (frame : ServerFrame)
    (forwarded : Bool) : (self.handleFrame lib number reader frame forwarded).streams = self.streams ∧
      (self.handleFrame lib number reader frame forwarded).channels = self.channels := by
  have begun : ∀ messages, (self.beginMessages number reader messages).streams = self.streams ∧
      (self.beginMessages number reader messages).channels = self.channels := by
    intro messages
    unfold ServerRoutes.beginMessages
    split <;> simp [ServerRoutes.setReader]
  cases frame with
  | text | close => exact ⟨rfl, rfl⟩
  | ping | pong =>
    simp only [ServerRoutes.handleFrame]
    split <;> simp [ServerRoutes.setReader]
  | binary data =>
    simp only [ServerRoutes.handleFrame]
    split
    · unfold ServerRoutes.receive
      split
      · split
        · exact begun _
        · exact ⟨rfl, rfl⟩
      · exact ⟨rfl, rfl⟩
      · exact ⟨rfl, rfl⟩
      · exact ⟨rfl, rfl⟩
      · exact ⟨rfl, rfl⟩
      · exact begun _
      · exact ⟨rfl, rfl⟩
      · exact ⟨rfl, rfl⟩
    · exact ⟨rfl, rfl⟩

theorem ServerRoutes.Live.turn (live : self.Live) (number : Nat) (keepsUp : self.StreamsKeepUp (.turn number)) :
    (self.turn number).Live := by
  unfold ServerRoutes.turn
  split
  · exact live
  · rename_i stream there
    split
    · exact live
    · rename_i channel found
      intro other member listening alive
      rcases List.mem_or_eq_of_mem_set member with before | rfl
      · exact live other before listening alive
      · have near := keepsUp stream there channel found
        unfold ChannelStream.turn at listening alive ⊢
        split
        · rename_i message recv took
          simp only [took] at listening alive
          split
          · rename_i reads
            simp only [reads, if_true] at alive
            have running := live stream (List.mem_of_getElem? there) reads alive
            have goesOn := near.turn_running running
            rwa [took] at goesOn
          · rename_i dropped
            simp only [dropped] at listening
            cases listening
        · rename_i recv took
          simp only [took] at listening alive
          have running := live stream (List.mem_of_getElem? there) listening alive
          have goesOn := near.turn_running running
          have kept : channel.alive = true := by
            simpa [ServerRoutes.isAlive, found] using alive
          rw [took] at goesOn
          show (recv.running && channel.alive) = true
          rw [kept, Bool.and_true]
          exact goesOn

theorem ServerRoutes.Live.step (live : self.Live) (sound : self.Sound) (lib : CollabSerde) (event : RoutesEvent)
    (keepsUp : self.StreamsKeepUp event) : (self.step lib event).Live := by
  cases event with
  | connect => exact live
  | frame number frame forwarded =>
    simp only [ServerRoutes.step]
    split
    · rename_i reader here
      split
      · obtain ⟨streams, channels⟩ := self.kept_handleFrame lib number reader frame forwarded
        refine live.of_channels streams fun stream _ => ?_
        simp only [ServerRoutes.isAlive, channels]
        exact id
      · exact live
    · exact live
  | ends number =>
    simp only [ServerRoutes.step]
    split
    · split
      · exact live
      · exact live
    · exact live
  | handle number =>
    simp only [ServerRoutes.step]
    split
    · rename_i reader here
      refine live.of_channels (ServerRoutes.streams_handle number reader) fun stream _ => ?_
      rw [ServerRoutes.isAlive_handle sound]
      exact id
    · exact live
  | subscribeCollab objectId =>
    simp only [ServerRoutes.step]
    split
    · refine live.of_channels rfl fun stream member alive => ?_
      obtain ⟨channel, there, _⟩ := sound.streams stream member
      have inside := (List.getElem?_eq_some_iff.mp there).1
      simpa [ServerRoutes.isAlive, ServerRoutes.subscribeCollab, List.getElem?_append_left inside] using alive
    · exact live
  | dropChannel number =>
    refine live.of_channels rfl fun stream _ alive => ?_
    simp only [ServerRoutes.step, ServerRoutes.isAlive, List.getElem?_modify] at alive ⊢
    cases found : self.channels[stream.channel]? with
    | none => simp [found] at alive
    | some channel =>
      rw [found] at alive
      by_cases same : number = stream.channel
      · simp [same] at alive
      · simpa [same] using alive
  | stream number =>
    simp only [ServerRoutes.step, ServerRoutes.openStream]
    split
    · exact live
    · split
      · intro other member listening alive
        rcases List.mem_append.mp member with before | new
        · exact live other before listening alive
        · obtain rfl := List.mem_singleton.mp new
          rfl
      · exact live
  | turn number => exact live.turn number keepsUp
  | dropStream number =>
    intro other member listening alive
    obtain ⟨position, there⟩ := List.mem_iff_getElem?.mp member
    simp only [ServerRoutes.step, List.getElem?_modify, Option.map_eq_map, Option.map_eq_some_iff] at there
    obtain ⟨before, found, rfl⟩ := there
    split at listening
    · cases listening
    · rename_i others
      simp only [others, if_false] at alive ⊢
      exact live before (List.mem_of_getElem? found) listening alive
  | dropClient => exact live

/-- Whatever the connections, the channels and the streams do: a reader has handled the collab
    messages of its packets in their order, up to those it has not come to.  A stream was
    delivered the messages of its object that were handled since it was opened, in that order
    and from the first one on.  If the tasks of the streams keep up, a stream that is read, on
    a channel that is kept, has them all but those that the channel still holds for it. -/
theorem streams_get_their_messages (lib : CollabSerde) (events : List RoutesEvent) :
    let routes := run (ServerRoutes.step lib) .new events
    (∀ number reader, routes.readers[number]? = some reader → routes.routedBy number ++ reader.pending = reader.read) ∧
    ∀ stream ∈ routes.streams, ∃ channel, routes.channels[stream.channel]? = some channel ∧
      stream.delivered <+: routedSince routes.routed stream.opened channel.objectId ∧
      (Always (ServerRoutes.step lib) ServerRoutes.StreamsKeepUp .new events → stream.listening = true →
        channel.alive = true → stream.delivered ++ channel.receiver.unread stream.recv.next =
          routedSince routes.routed stream.opened channel.objectId) := by
  have sound : (run (ServerRoutes.step lib) .new events).Sound :=
    run_invariant (fun _ event sound => sound.step lib event) ServerRoutes.new_sound events
  refine ⟨sound.readers, ?_⟩
  intro stream member
  obtain ⟨channel, there, serves⟩ := sound.streams stream member
  refine ⟨channel, there, serves.follows.inOrder.trans serves.sent, ?_⟩
  intro keepsUp listening alive
  have preserved : ∀ (routes : ServerRoutes) event, routes.Sound ∧ routes.Live → routes.StreamsKeepUp event →
      (routes.step lib event).Sound ∧ (routes.step lib event).Live :=
    fun routes event sounds near => ⟨sounds.1.step lib event, sounds.2.step sounds.1 lib event near⟩
  have live := (keepsUp.invariant preserved ⟨ServerRoutes.new_sound, by simp [ServerRoutes.Live, ServerRoutes.new]⟩).2
  have running : stream.recv.running = true := by
    refine live stream member listening ?_
    simp [ServerRoutes.isAlive, there, alive]
  rw [← serves.current alive, serves.follows.complete running]

end FlowCloud.Client
