import FlowCloud.Server.Acks

/-! # Replies

One client message may carry several protocol messages.  What the protocol replies to them goes
out in the payload of an ack, and only the first of them has one for that.
-/

namespace FlowCloud.Server

open FlowCloud.Foundation FlowCloud.Entity FlowCloud.Protocol

variable {Op StateVector AwarenessUpdate : Type} [DecidableEq Op]

/-! ## One ack for all -/

/-- The replies stand one after the other in the payload. -/
def Contains : Bytes → List Bytes → Prop
  | _, [] => True
  | payload, reply :: replies => ∃ before after, payload = before ++ reply ++ after ∧ Contains after replies

/-- One ack, with the id of the message and all replies. -/
def AnsweredOnce (collabMsg : ClientCollabMessage) (acks : List CollabAck) (replies : List Bytes) : Prop :=
  ∃ ack, acks = [ack] ∧ ack.source.msgId = collabMsg.msgId ∧ Contains ack.payload replies

theorem contains_nil {replies : List Bytes} : Contains [] replies ↔ ∀ reply ∈ replies, reply = [] := by
  induction replies with
  | nil => simp [Contains]
  | cons reply replies inductionHypothesis =>
    rw [List.forall_mem_cons, ← inductionHypothesis, Contains]
    constructor
    · rintro ⟨before, after, parts, later⟩
      simp only [List.nil_eq, List.append_eq_nil_iff] at parts
      obtain ⟨⟨_, rfl⟩, rfl⟩ := parts
      exact ⟨rfl, later⟩
    · rintro ⟨rfl, later⟩
      exact ⟨[], [], rfl, later⟩

/-- A payload that is one reply has no room for another. -/
theorem contains_own {own : Option Bytes} {replies : List Bytes} :
    Contains (own.getD []) (own.toList ++ replies) ↔ ∀ reply ∈ replies, reply = [] := by
  cases own with
  | none => exact contains_nil
  | some payload =>
    rw [← contains_nil]
    constructor
    · rintro ⟨before, after, parts, later⟩
      have lengths := congrArg List.length parts
      simp only [Option.getD_some, List.length_append] at lengths
      have nothing : after = [] := List.eq_nil_of_length_eq_zero (by omega)
      exact nothing ▸ later
    · exact fun later => ⟨[], [], (List.append_nil payload).symm, later⟩

section Protocol

variable (yrs : Yrs Op StateVector AwarenessUpdate)

/-! ## What the protocol replies -/

def handledBy (collabMsg : ClientCollabMessage) (collab : Collab Op AwarenessUpdate)
    (msg : Message StateVector AwarenessUpdate × Moment) : Handled Op AwarenessUpdate :=
  handleCollabMessage yrs msg.2.transactions collabMsg.origin (ServerSyncProtocol yrs) collab msg.1

def handledCollab (collabMsg : ClientCollabMessage) (collab : Collab Op AwarenessUpdate)
    (msg : Message StateVector AwarenessUpdate × Moment) : Collab Op AwarenessUpdate :=
  (handledBy yrs collabMsg collab msg).2

def producedReply (collabMsg : ClientCollabMessage) (collab : Collab Op AwarenessUpdate)
    (msg : Message StateVector AwarenessUpdate × Moment) : Option Bytes :=
  match (handledBy yrs collabMsg collab msg).1 with
  | .ok payload => payload
  | .error _ => none

/-- The replies to the protocol messages, each handled after those before it. -/
def producedReplies (collabMsg : ClientCollabMessage) (collab : Collab Op AwarenessUpdate)
    (msgs : List (Message StateVector AwarenessUpdate × Moment)) : List Bytes :=
  observed (handledCollab yrs collabMsg) (producedReply yrs collabMsg) collab msgs

/-- The encoded update can be decoded and applied. -/
def Applicable (content : Finset Op) (data : Bytes) : Prop :=
  ∃ update, yrs.decodeUpdate data = .ok update ∧ (yrs.tryApplyUpdate content update).isOk = true

/-- The message asks for nothing, and nothing stands against it. -/
def Silent (collab : Collab Op AwarenessUpdate) (msg : Message StateVector AwarenessUpdate × Moment) : Prop :=
  match msg.1 with
  | .sync (.syncStep1 _) => False
  | .sync (.syncStep2 data) | .sync (.update data) =>
    msg.2.transactions.writable = true ∧ Applicable yrs collab.content data
  | .auth reason => reason = none
  | .awareness update => (yrs.applyAwareness collab.awareness update).isOk = true
  | .custom _ => True

/-- Each message after the first is silent. -/
def SilentAfterFirst (collabMsg : ClientCollabMessage) (collab : Collab Op AwarenessUpdate) :
    List (Message StateVector AwarenessUpdate × Moment) → Prop
  | [] => True
  | first :: later => Always (handledCollab yrs collabMsg) (Silent yrs) (handledCollab yrs collabMsg collab first) later

theorem var_write_ne_nil (codec : Codec StateVector AwarenessUpdate) (tag : UInt8) : codec.var.write tag ≠ [] := by
  intro nothing
  have read := codec.var.read_write tag []
  rw [nothing, List.append_nil, codec.var_nil] at read
  cases read

theorem encode_sync_ne_nil (codec : Codec StateVector AwarenessUpdate) (msg : SyncMessage StateVector) :
    (Message.sync msg : Message StateVector AwarenessUpdate).encode codec ≠ [] := by
  rw [Message.encode]
  exact List.append_ne_nil_of_left_ne_nil (var_write_ne_nil codec MSG_SYNC) _

/-- A transaction and an applicable update are all that an update needs. -/
theorem handleSyncStep2_ok_iff {transactions : Transactions} {origin : CollabOrigin}
    {collab : Collab Op AwarenessUpdate} {data : Bytes} {update : Finset Op}
    (decoded : yrs.decodeUpdate data = .ok update) :
    (handleSyncStep2 yrs transactions origin collab update).1 = .ok none ↔
      transactions.writable = true ∧ Applicable yrs collab.content data := by
  have applicable : Applicable yrs collab.content data ↔ (yrs.tryApplyUpdate collab.content update).isOk = true := by
    constructor
    · rintro ⟨other, same, applied⟩
      cases decoded.symm.trans same
      exact applied
    · exact fun applied => ⟨update, decoded, applied⟩
  rw [applicable, handleSyncStep2, Transactions.writable]
  cases transactions.write with
  | error message => simp [Except.isOk, Except.toBool]
  | ok opened => cases yrs.tryApplyUpdate collab.content update <;> simp [Except.isOk, Except.toBool]

theorem silent_iff (collabMsg : ClientCollabMessage) (collab : Collab Op AwarenessUpdate)
    (msg : Message StateVector AwarenessUpdate × Moment) :
    Silent yrs collab msg ↔ (handledBy yrs collabMsg collab msg).1 = .ok none := by
  obtain ⟨msg, moment⟩ := msg
  cases msg with
  | sync msg =>
    cases msg with
    | syncStep1 stateVector => simp [Silent, handledBy, handleCollabMessage, ServerSyncProtocol]
    | syncStep2 data | update data =>
      simp only [Silent, handledBy, handleCollabMessage]
      cases decoded : yrs.decodeUpdate data with
      | error failure =>
        simp [Applicable, decoded]
      | ok update => exact (handleSyncStep2_ok_iff yrs decoded).symm
  | auth reason => cases reason <;> simp [Silent, handledBy, handleCollabMessage, handleAuth]
  | awareness update =>
    simp only [Silent, handledBy, handleCollabMessage, handleAwarenessUpdate]
    cases yrs.applyAwareness collab.awareness update <;> simp [Except.isOk, Except.toBool]
  | custom msg => simp [Silent, handledBy, handleCollabMessage, handleCustomMessage]

theorem handleSyncStep2_no_reply (transactions : Transactions) (origin : CollabOrigin)
    (collab : Collab Op AwarenessUpdate) (update : Finset Op) (reply : Bytes) :
    (handleSyncStep2 yrs transactions origin collab update).1 ≠ .ok (some reply) := by
  rw [handleSyncStep2]
  cases transactions.write with
  | error message => simp
  | ok opened => cases yrs.tryApplyUpdate collab.content update <;> simp

/-- Only a `SyncStep1` is replied to, and its reply is not empty. -/
theorem reply_ne_nil {collabMsg : ClientCollabMessage} {collab : Collab Op AwarenessUpdate}
    {msg : Message StateVector AwarenessUpdate × Moment} {reply : Bytes}
    (replied : (handledBy yrs collabMsg collab msg).1 = .ok (some reply)) : reply ≠ [] := by
  obtain ⟨msg, moment⟩ := msg
  cases msg with
  | sync msg =>
    cases msg with
    | syncStep1 stateVector =>
      cases replied
      exact List.append_ne_nil_of_left_ne_nil (encode_sync_ne_nil yrs.codec _) _
    | syncStep2 data | update data =>
      simp only [handledBy, handleCollabMessage] at replied
      cases decoded : yrs.decodeUpdate data with
      | error failure =>
        rw [decoded] at replied
        cases replied
      | ok update =>
        rw [decoded] at replied
        exact absurd replied (handleSyncStep2_no_reply yrs _ _ _ _ _)
  | auth reason => cases reason <;> cases replied
  | awareness update =>
    simp only [handledBy, handleCollabMessage, handleAwarenessUpdate] at replied
    cases applied : yrs.applyAwareness collab.awareness update with
    | error message =>
      rw [applied] at replied
      cases replied
    | ok awareness =>
      rw [applied] at replied
      cases replied
  | custom msg => cases replied

/-! ## What the acks say of them -/

/-- A message that gets the collab. -/
theorem handleMessage_eq (objectId : String) (collabMsg : ClientCollabMessage) (state : Handling Op AwarenessUpdate)
    {msg : Message StateVector AwarenessUpdate × Moment} (lockFree : msg.2.lockFree = true) :
    handleMessage yrs objectId collabMsg state msg =
      ⟨handledCollab yrs collabMsg state.collab msg,
        let ack := CollabAck.new collabMsg.origin objectId collabMsg.msgId
        match (handledBy yrs collabMsg state.collab msg).1 with
        | .ok payload =>
          if state.resps.isEmpty then state.resps ++ [ack.withPayload (payload.getD [])] else state.resps
        | .error err => state.resps ++ [ack.withCode (ackCodeFromError err)]⟩ := by
  rw [handleMessage, if_pos lockFree, handledCollab]
  have handled : handleCollabMessage yrs msg.2.transactions collabMsg.origin (ServerSyncProtocol yrs) state.collab
      msg.1 = handledBy yrs collabMsg state.collab msg := rfl
  rw [handled]
  cases handledBy yrs collabMsg state.collab msg with
  | mk result collab => cases result <;> rfl

/-- The first message is answered with its own reply, if there is one. -/
theorem handleMessage_first (objectId : String) (collabMsg : ClientCollabMessage) (collab : Collab Op AwarenessUpdate)
    {msg : Message StateVector AwarenessUpdate × Moment} (lockFree : msg.2.lockFree = true) :
    ∃ ack, handleMessage yrs objectId collabMsg ⟨collab, []⟩ msg = ⟨handledCollab yrs collabMsg collab msg, [ack]⟩ ∧
      ack.source.msgId = collabMsg.msgId ∧ ack.payload = (producedReply yrs collabMsg collab msg).getD [] := by
  rw [handleMessage_eq yrs objectId collabMsg _ lockFree, producedReply]
  cases (handledBy yrs collabMsg collab msg).1 with
  | ok payload => exact ⟨_, rfl, rfl, rfl⟩
  | error err => exact ⟨_, rfl, rfl, rfl⟩

/-- After an ack nothing is added and nothing gets lost exactly if all is silent. -/
theorem run_answered_iff (objectId : String) (collabMsg : ClientCollabMessage) {state : Handling Op AwarenessUpdate}
    {ack : CollabAck} (answered : state.resps = [ack]) {msgs : List (Message StateVector AwarenessUpdate × Moment)}
    (lockFree : ∀ msg ∈ msgs, msg.2.lockFree = true) :
    ((run (handleMessage yrs objectId collabMsg) state msgs).resps = [ack] ∧
        ∀ reply ∈ producedReplies yrs collabMsg state.collab msgs, reply = []) ↔
      Always (handledCollab yrs collabMsg) (Silent yrs) state.collab msgs := by
  induction msgs generalizing state with
  | nil => simp [producedReplies, observed, answered]
  | cons msg msgs inductionHypothesis =>
    rw [List.forall_mem_cons] at lockFree
    rw [run_cons, always_cons, silent_iff yrs collabMsg, handleMessage_eq yrs objectId collabMsg state lockFree.1,
      answered]
    cases result : (handledBy yrs collabMsg state.collab msg).1 with
    | error err =>
      refine iff_of_false (fun both => ?_) (by simp)
      -- the ack of the error stays behind the first one
      have kept := run_handleMessage_resps_kept yrs objectId collabMsg ⟨handledCollab yrs collabMsg state.collab msg,
        [ack] ++ [(CollabAck.new collabMsg.origin objectId collabMsg.msgId).withCode (ackCodeFromError err)]⟩ msgs
      have lengths := kept.length_le.trans (Nat.le_of_eq (congrArg List.length both.1))
      simp at lengths
    | ok payload =>
      have produced : producedReplies yrs collabMsg state.collab (msg :: msgs) =
          payload.toList ++ producedReplies yrs collabMsg (handledCollab yrs collabMsg state.collab msg) msgs := by
        rw [producedReplies, observed, producedReply, result]
        rfl
      rw [produced]
      cases payload with
      | none =>
        have onwards := @inductionHypothesis ⟨handledCollab yrs collabMsg state.collab msg, [ack]⟩ rfl lockFree.2
        simpa using onwards
      | some reply =>
        refine iff_of_false (fun both => ?_) (by simp)
        exact reply_ne_nil yrs result (both.2 reply (List.mem_append_left _ (List.mem_singleton_self reply)))

/-- A client message gets one ack with all replies in it exactly if every protocol message after
    the first one is silent. -/
theorem answeredOnce_iff (environment : Nat → Moment) (objectId : String) (collabMsg : ClientCollabMessage)
    (collab : Collab Op AwarenessUpdate) (decoded : innerMessages yrs environment collabMsg.payload ≠ [])
    (lockFree : LockFreeThroughout yrs environment collabMsg.payload) :
    AnsweredOnce collabMsg (handleClientCollabMessage yrs environment objectId collabMsg collab).resps
        (producedReplies yrs collabMsg collab (innerMessages yrs environment collabMsg.payload)) ↔
      SilentAfterFirst yrs collabMsg collab (innerMessages yrs environment collabMsg.payload) := by
  show AnsweredOnce collabMsg (run (handleMessage yrs objectId collabMsg) ⟨collab, []⟩
    (innerMessages yrs environment collabMsg.payload)).resps _ ↔ _
  rw [LockFreeThroughout] at lockFree
  cases messages : innerMessages yrs environment collabMsg.payload with
  | nil => exact absurd messages decoded
  | cons first later =>
    rw [messages, List.forall_mem_cons] at lockFree
    obtain ⟨ack, handled, ackId, payload⟩ := handleMessage_first yrs objectId collabMsg collab lockFree.1
    have final := run_answered_iff yrs objectId collabMsg
      (congrArg Handling.resps handled) lockFree.2
    rw [SilentAfterFirst, producedReplies, observed, run_cons]
    rw [handled] at final ⊢
    rw [← final]
    constructor
    · rintro ⟨other, only, -, contains⟩
      have kept := run_handleMessage_resps_kept yrs objectId collabMsg
        ⟨handledCollab yrs collabMsg collab first, [ack]⟩ later
      rw [only] at kept
      obtain rfl : ack = other := List.singleton_inj.mp (kept.eq_of_length rfl)
      rw [payload] at contains
      exact ⟨only, contains_own.mp contains⟩
    · rintro ⟨only, nothing⟩
      refine ⟨ack, only, ackId, ?_⟩
      rw [payload]
      exact contains_own.mpr nothing

end Protocol

/-! ## A question and an edit -/

def question : Bytes := [0, 0, 1, 0]

def firstEdit : Bytes := [0, 2, 11, 1, 1, 1, 0, 4, 1, 1, 116, 1, 97, 0]

theorem question_first_answered :
    AnsweredOnce (updateMessage (question ++ firstEdit))
      (handleClientCollabMessage (UpdateTable.yrs typedUpdates) (fun _ => .idle) "object"
        (updateMessage (question ++ firstEdit)) ⟨∅, [], []⟩).resps
      (producedReplies (UpdateTable.yrs typedUpdates) (updateMessage (question ++ firstEdit)) ⟨∅, [], []⟩
        (innerMessages (UpdateTable.yrs typedUpdates) (fun _ => .idle)
          (updateMessage (question ++ firstEdit)).payload)) := by
  refine (answeredOnce_iff (UpdateTable.yrs typedUpdates) (fun _ => .idle) "object"
    (updateMessage (question ++ firstEdit)) ⟨∅, [], []⟩ ?_ (by decide)).mpr ?_
  · exact List.ne_nil_of_length_pos (by decide)
  · show SilentAfterFirst _ _ _ [(.sync (.syncStep1 []), .idle), (.sync (.update (firstEdit.drop 3)), .idle)]
    exact ⟨⟨rfl, {(1, 0)}, by decide, rfl⟩, trivial⟩

/-- The edit comes first: its ack is sent, and the answer to the question is not. -/
theorem question_second_unanswered :
    ¬ ∀ (environment : Nat → Moment) (collabMsg : ClientCollabMessage)
        (collab : Collab (Nat × Nat) Lib0.AwarenessUpdate),
      (MessageReader.read (UpdateTable.yrs typedUpdates).codec collabMsg.payload).failure = none →
      MessageReader.unread (UpdateTable.yrs typedUpdates).codec collabMsg.payload = [] →
      innerMessages (UpdateTable.yrs typedUpdates) environment collabMsg.payload ≠ [] →
      LockFreeThroughout (UpdateTable.yrs typedUpdates) environment collabMsg.payload →
      AnsweredOnce collabMsg
        (handleClientCollabMessage (UpdateTable.yrs typedUpdates) environment "object" collabMsg collab).resps
        (producedReplies (UpdateTable.yrs typedUpdates) collabMsg collab
          (innerMessages (UpdateTable.yrs typedUpdates) environment collabMsg.payload)) := by
  intro answered
  obtain ⟨ack, only, -, contains⟩ := answered (fun _ => .idle) (updateMessage (firstEdit ++ question)) ⟨∅, [], []⟩
    (by decide) (by decide) (List.ne_nil_of_length_pos (by decide)) (by decide)
  have acks : (handleClientCollabMessage (UpdateTable.yrs typedUpdates) (fun _ => .idle) "object"
      (updateMessage (firstEdit ++ question)) ⟨∅, [], []⟩).resps = [.new (.client 1 "device") "object" 0] := by decide
  obtain rfl := List.singleton_inj.mp (acks.symm.trans only)
  have nothing := contains_nil.mp contains
  revert nothing
  decide

end FlowCloud.Server
