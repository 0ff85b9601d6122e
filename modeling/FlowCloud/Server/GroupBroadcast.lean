import FlowCloud.Foundation.Runs
import FlowCloud.Protocol.Collab

/-! # Client messages at the broadcast group

`access_control` sorts the messages of a connection by what the user may do, and
`handle_client_collab_message` runs the protocol messages of an accepted one against the
shared collab.  The filter looks at the kind of the outer message, the handler at what the
payload decodes to; the last section says when the two agree for a reader.
-/

namespace FlowCloud.Server

open FlowCloud.Foundation FlowCloud.Entity FlowCloud.Protocol

inductive RealtimeError where
  | decodingError (source : ReadError)
  | unexpectedData (message : String)
  | expectInitSync (received : String)
  | collabError (message : String)
  deriving DecidableEq, Repr

/-! ## The filter -/

structure RealtimeAccessControl where
  canWriteCollab : String → Int → String → Except AppError Bool
  canReadCollab : String → Int → String → Except AppError Bool

def unwrapOrFalse : Except AppError Bool → Bool
  | .ok allowed => allowed
  | .error _ => false

/-- `CollabClientStream::access_control`: the valid and the invalid messages. -/
def accessControl (workspaceId : String) (uid : Int) (objectId : String) (accessControl : RealtimeAccessControl)
    (messages : List ClientCollabMessage) : List ClientCollabMessage × List ClientCollabMessage :=
  let canWrite := unwrapOrFalse (accessControl.canWriteCollab workspaceId uid objectId)
  let canRead := unwrapOrFalse (accessControl.canReadCollab workspaceId uid objectId)
  -- an init sync needs only the read permission
  messages.partition fun message => message.isClientInitSync && canRead || canWrite

/-! ## The handler -/

variable {Op StateVector AwarenessUpdate : Type} [DecidableEq Op]

/-- What the rest of the server leaves to a message: is the collab's lock free, and which
    transactions are. -/
structure Moment where
  lockFree : Bool
  transactions : Transactions

def Moment.idle : Moment := ⟨true, .free⟩

def Moment.usable (moment : Moment) : Bool := moment.lockFree && moment.transactions.writable

def ackCodeFromError : Error → AckCode
  | .yrsTransaction _ => .retry
  | .yrsApplyUpdate _ => .cannotApplyUpdate
  | _ => .internal

structure Handling (Op AwarenessUpdate : Type) where
  collab : Collab Op AwarenessUpdate
  resps : List CollabAck

section Handler

variable (yrs : Yrs Op StateVector AwarenessUpdate)

/-- One protocol message.  A locked collab skips it without a response; a success is
    acknowledged only when nothing was before it, a failure always. -/
def handleMessage (objectId : String) (collabMsg : ClientCollabMessage) (state : Handling Op AwarenessUpdate)
    (msg : Message StateVector AwarenessUpdate × Moment) : Handling Op AwarenessUpdate :=
  if msg.2.lockFree then
    -- the id in the response is the one of the outer message
    let ack := CollabAck.new collabMsg.origin objectId collabMsg.msgId
    match handleCollabMessage yrs msg.2.transactions collabMsg.origin (ServerSyncProtocol yrs) state.collab msg.1 with
    | (.ok payload, collab) =>
      ⟨collab, if state.resps.isEmpty then state.resps ++ [ack.withPayload (payload.getD [])] else state.resps⟩
    | (.error err, collab) => ⟨collab, state.resps ++ [ack.withCode (ackCodeFromError err)]⟩
  else state

/-- The loop over the payload; it ends at the first message the reader cannot decode. -/
def handleClientCollabMessage (environment : Nat → Moment) (objectId : String) (collabMsg : ClientCollabMessage)
    (collab : Collab Op AwarenessUpdate) : Handling Op AwarenessUpdate :=
  let messages := (MessageReader.read yrs.codec collabMsg.payload).messages
  run (handleMessage yrs objectId collabMsg) ⟨collab, []⟩
    (messages.zipIdx.map fun message => (message.1, environment message.2))

def handleNext (environment : Nat → Nat → Moment) (objectId : String) (state : Handling Op AwarenessUpdate)
    (collabMsg : ClientCollabMessage × Nat) : Handling Op AwarenessUpdate :=
  let handled := handleClientCollabMessage yrs (environment collabMsg.2) objectId collabMsg.1 state.collab
  ⟨handled.collab, state.resps ++ handled.resps⟩

/-- The messages of one object, one after the other, with the responses to each. -/
def handleClientCollabMessages (environment : Nat → Nat → Moment) (objectId : String)
    (collabMessages : List ClientCollabMessage) (collab : Collab Op AwarenessUpdate) : Handling Op AwarenessUpdate :=
  run (handleNext yrs environment objectId) ⟨collab, []⟩ collabMessages.zipIdx

end Handler

/-! ## What the handler does to the content -/

section Content

variable (yrs : Yrs Op StateVector AwarenessUpdate)

theorem handleMessage_collab (objectId : String) (collabMsg : ClientCollabMessage)
    (state : Handling Op AwarenessUpdate) (msg : Message StateVector AwarenessUpdate × Moment) :
    (handleMessage yrs objectId collabMsg state msg).collab =
      if msg.2.lockFree then
        (handleCollabMessage yrs msg.2.transactions collabMsg.origin (ServerSyncProtocol yrs) state.collab msg.1).2
      else state.collab := by
  rw [handleMessage]
  split
  · split
    · rename_i handled
      rw [handled]
    · rename_i handled
      rw [handled]
  · rfl

theorem handleMessage_content (objectId : String) (collabMsg : ClientCollabMessage)
    (state : Handling Op AwarenessUpdate) (msg : Message StateVector AwarenessUpdate × Moment) :
    (handleMessage yrs objectId collabMsg state msg).collab.content =
      if msg.2.usable then state.collab.content ∪ msg.1.brings yrs state.collab.content
      else state.collab.content := by
  rw [handleMessage_collab, Moment.usable]
  cases msg.2.lockFree with
  | false => rfl
  | true => simpa using handleCollabMessage_content yrs msg.2.transactions _ _ _ _

/-- At the given content the message has nothing to add or cannot add it now. -/
def QuietMessage (content : Finset Op) (msg : Message StateVector AwarenessUpdate × Moment) : Prop :=
  msg.2.usable = true → msg.1.brings yrs content ⊆ content

def QuietPayload (environment : Nat → Moment) (content : Finset Op) (payload : Bytes) : Prop :=
  ∀ message ∈ (MessageReader.read yrs.codec payload).messages.zipIdx,
    QuietMessage yrs content (message.1, environment message.2)

def QuietNext (environment : Nat → Nat → Moment) (content : Finset Op) (collabMsg : ClientCollabMessage × Nat) :
    Prop :=
  QuietPayload yrs (environment collabMsg.2) content collabMsg.1.payload

theorem handleMessage_grows (objectId : String) (collabMsg : ClientCollabMessage)
    (state : Handling Op AwarenessUpdate) (msg : Message StateVector AwarenessUpdate × Moment) :
    state.collab.content ⊆ (handleMessage yrs objectId collabMsg state msg).collab.content := by
  rw [handleMessage_content]
  split
  · exact Finset.subset_union_left
  · exact Finset.Subset.refl _

theorem handleMessage_quiet (objectId : String) (collabMsg : ClientCollabMessage)
    (state : Handling Op AwarenessUpdate) (msg : Message StateVector AwarenessUpdate × Moment) :
    (handleMessage yrs objectId collabMsg state msg).collab.content = state.collab.content ↔
      QuietMessage yrs state.collab.content msg := by
  rw [handleMessage_content, QuietMessage]
  cases msg.2.usable with
  | false => simp
  | true => simp [Finset.union_eq_left]

theorem handleClientCollabMessage_quiet (environment : Nat → Moment) (objectId : String)
    (collabMsg : ClientCollabMessage) (collab : Collab Op AwarenessUpdate) :
    (handleClientCollabMessage yrs environment objectId collabMsg collab).collab.content = collab.content ↔
      QuietPayload yrs environment collab.content collabMsg.payload := by
  have still := run_view_eq_iff (handleMessage_grows yrs objectId collabMsg)
    (handleMessage_quiet yrs objectId collabMsg) ⟨collab, []⟩
    ((MessageReader.read yrs.codec collabMsg.payload).messages.zipIdx.map
      fun message => (message.1, environment message.2))
  rw [List.forall_mem_map] at still
  exact still

theorem handleClientCollabMessage_grows (environment : Nat → Moment) (objectId : String)
    (collabMsg : ClientCollabMessage) (collab : Collab Op AwarenessUpdate) :
    collab.content ⊆ (handleClientCollabMessage yrs environment objectId collabMsg collab).collab.content :=
  run_view_le (handleMessage_grows yrs objectId collabMsg) ⟨collab, []⟩ _

theorem handleNext_grows (environment : Nat → Nat → Moment) (objectId : String)
    (state : Handling Op AwarenessUpdate) (collabMsg : ClientCollabMessage × Nat) :
    state.collab.content ⊆ (handleNext yrs environment objectId state collabMsg).collab.content :=
  handleClientCollabMessage_grows yrs (environment collabMsg.2) objectId collabMsg.1 state.collab

theorem handleNext_quiet (environment : Nat → Nat → Moment) (objectId : String)
    (state : Handling Op AwarenessUpdate) (collabMsg : ClientCollabMessage × Nat) :
    (handleNext yrs environment objectId state collabMsg).collab.content = state.collab.content ↔
      QuietNext yrs environment state.collab.content collabMsg :=
  handleClientCollabMessage_quiet yrs (environment collabMsg.2) objectId collabMsg.1 state.collab

theorem handleClientCollabMessages_quiet (environment : Nat → Nat → Moment) (objectId : String)
    (collabMessages : List ClientCollabMessage) (collab : Collab Op AwarenessUpdate) :
    (handleClientCollabMessages yrs environment objectId collabMessages collab).collab.content = collab.content ↔
      ∀ message ∈ collabMessages.zipIdx, QuietNext yrs environment collab.content message :=
  run_view_eq_iff (handleNext_grows yrs environment objectId) (handleNext_quiet yrs environment objectId)
    ⟨collab, []⟩ collabMessages.zipIdx

def CarriesNothingNew (content : Finset Op) (payload : Bytes) : Prop :=
  ∀ msg ∈ (MessageReader.read yrs.codec payload).messages, msg.brings yrs content ⊆ content

instance (content : Finset Op) (payload : Bytes) : Decidable (CarriesNothingNew yrs content payload) :=
  inferInstanceAs (Decidable (∀ msg ∈ _, _))

theorem carriesNothingNew_quiet {content : Finset Op} {payload : Bytes}
    (nothing : CarriesNothingNew yrs content payload) (environment : Nat → Moment) :
    QuietPayload yrs environment content payload :=
  fun message member _ => nothing message.1 (List.fst_mem_of_mem_zipIdx member)

theorem carriesNothingNew_of_idle {content : Finset Op} {payload : Bytes}
    (quiet : QuietPayload yrs (fun _ => .idle) content payload) : CarriesNothingNew yrs content payload := by
  intro msg member
  obtain ⟨index, _, found⟩ := List.mem_iff_getElem.mp member
  have indexed : (msg, index) ∈ (MessageReader.read yrs.codec payload).messages.zipIdx :=
    List.mem_zipIdx_iff_getElem?.mpr (by rw [← found]; exact List.getElem?_eq_getElem _)
  exact quiet (msg, index) indexed rfl

end Content

/-! ## What a reader can do -/

/-- The content stays what it was, whatever else the server does at the same time. -/
def LeavesContent (yrs : Yrs Op StateVector AwarenessUpdate) (objectId : String)
    (collabMessages : List ClientCollabMessage) (collab : Collab Op AwarenessUpdate) : Prop :=
  ∀ environment, (handleClientCollabMessages yrs environment objectId collabMessages collab).collab.content =
    collab.content

theorem leavesContent_iff (yrs : Yrs Op StateVector AwarenessUpdate) (objectId : String)
    (collabMessages : List ClientCollabMessage) (collab : Collab Op AwarenessUpdate) :
    LeavesContent yrs objectId collabMessages collab ↔
      ∀ message ∈ collabMessages, CarriesNothingNew yrs collab.content message.payload := by
  constructor
  · intro leaves message member
    -- the idle server applies all it can, so it decides
    have quiet := (handleClientCollabMessages_quiet yrs (fun _ _ => .idle) objectId collabMessages collab).mp
      (leaves _)
    obtain ⟨index, _, found⟩ := List.mem_iff_getElem.mp member
    have indexed : (message, index) ∈ collabMessages.zipIdx :=
      List.mem_zipIdx_iff_getElem?.mpr (by rw [← found]; exact List.getElem?_eq_getElem _)
    exact carriesNothingNew_of_idle yrs (quiet (message, index) indexed)
  · intro nothing environment
    refine (handleClientCollabMessages_quiet yrs environment objectId collabMessages collab).mpr ?_
    exact fun message member =>
      carriesNothingNew_quiet yrs (nothing message.1 (List.fst_mem_of_mem_zipIdx member)) _

/-- Of a reader who cannot write exactly the init syncs pass the filter. -/
theorem accessControl_reader {access : RealtimeAccessControl} {workspaceId objectId : String} {uid : Int}
    (canRead : access.canReadCollab workspaceId uid objectId = .ok true)
    (cannotWrite : access.canWriteCollab workspaceId uid objectId ≠ .ok true) (messages : List ClientCollabMessage) :
    (accessControl workspaceId uid objectId access messages).1 =
      messages.filter ClientCollabMessage.isClientInitSync := by
  -- a failed check counts as a refusal
  have refused : unwrapOrFalse (access.canWriteCollab workspaceId uid objectId) = false := by
    cases decision : access.canWriteCollab workspaceId uid objectId with
    | error failure => rfl
    | ok allowed =>
      cases allowed with
      | false => rfl
      | true => exact absurd decision cannotWrite
  have granted : unwrapOrFalse (access.canReadCollab workspaceId uid objectId) = true := by
    rw [canRead]
    rfl
  simp [accessControl, granted, refused, List.partition_eq_filter_filter]

/-- What a reader sends leaves the document alone exactly when none of his init syncs
    carries an update with something new. -/
theorem reader_leavesContent_iff (yrs : Yrs Op StateVector AwarenessUpdate) (access : RealtimeAccessControl)
    (workspaceId : String) (uid : Int) (objectId : String)
    (canRead : access.canReadCollab workspaceId uid objectId = .ok true)
    (cannotWrite : access.canWriteCollab workspaceId uid objectId ≠ .ok true)
    (messages : List ClientCollabMessage) (collab : Collab Op AwarenessUpdate) :
    LeavesContent yrs objectId (accessControl workspaceId uid objectId access messages).1 collab ↔
      ∀ message ∈ messages, message.isClientInitSync = true →
        CarriesNothingNew yrs collab.content message.payload := by
  rw [accessControl_reader canRead cannotWrite, leavesContent_iff]
  simp only [List.mem_filter, and_imp]

def readerAccess : RealtimeAccessControl where
  canReadCollab _ _ _ := .ok true
  canWriteCollab _ _ _ := .ok false

def readerInitSync (payload : Bytes) : ClientCollabMessage :=
  .clientInitSync ⟨.client 2 "phone", "doc", .document, "w", 0, payload⟩

theorem reader_initSync_leavesContent :
    LeavesContent (UpdateTable.yrs typedUpdates) "doc"
      (accessControl "w" 2 "doc" readerAccess [readerInitSync [0, 0, 1, 0]]).1 ⟨∅, [], []⟩ :=
  (reader_leavesContent_iff _ readerAccess "w" 2 "doc" rfl (by decide) _ _).mpr (by decide)

theorem reader_writes_by_initSync :
    ¬ ∀ (access : RealtimeAccessControl) (workspaceId : String) (uid : Int) (objectId : String),
      access.canReadCollab workspaceId uid objectId = .ok true →
        access.canWriteCollab workspaceId uid objectId ≠ .ok true →
          ∀ (messages : List ClientCollabMessage) (collab : Collab (Nat × Nat) Lib0.AwarenessUpdate),
            LeavesContent (UpdateTable.yrs typedUpdates) objectId
              (accessControl workspaceId uid objectId access messages).1 collab := by
  intro leaves
  have unchanged := leaves readerAccess "w" 2 "doc" rfl (by decide)
    [readerInitSync [0, 2, 11, 1, 1, 1, 0, 4, 1, 1, 116, 1, 97, 0]] ⟨∅, [], []⟩ fun _ _ => .idle
  exact absurd unchanged (by decide)

/-! ## Broadcast payloads -/

section Broadcast

variable (codec : Codec StateVector AwarenessUpdate)

/-- The payload of a broadcast, written without a `Message`. -/
def genUpdateMessage (update : Bytes) : Bytes :=
  codec.var.write MSG_SYNC ++ codec.var.write MSG_SYNC_UPDATE ++ codec.buf.write update

theorem genUpdateMessage_eq (update : Bytes) :
    genUpdateMessage codec update = (Message.sync (.update update) : Message StateVector AwarenessUpdate).encode codec :=
  List.append_assoc _ _ _

/-- Encoded messages in a row are read as these messages, and the payload of a broadcast as
    its one update. -/
theorem encoded_messages_read_back :
    (∀ msgs : List (Message StateVector AwarenessUpdate),
      MessageReader.Yields codec (msgs.flatMap fun msg => msg.encode codec) msgs) ∧
    ∀ update : Bytes, MessageReader.Yields codec (genUpdateMessage codec update) [.sync (.update update)] := by
  refine ⟨MessageReader.yields_encode codec, fun update => ?_⟩
  have single := MessageReader.yields_encode codec [.sync (.update update)]
  rwa [List.flatMap_singleton, ← genUpdateMessage_eq] at single

end Broadcast

end FlowCloud.Server
