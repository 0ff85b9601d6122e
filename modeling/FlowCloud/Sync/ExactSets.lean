import FlowCloud.Sync.Exchange

/-! # Documents as sets of updates

With a library that takes every update in and encodes exactly what a state vector misses,
the answers of the server can be told from its document.
-/

namespace FlowCloud.Sync

open FlowCloud.Foundation FlowCloud.Entity FlowCloud.Protocol FlowCloud.Client FlowCloud.Server

variable {Op StateVector AwarenessUpdate : Type} [DecidableEq Op]

structure ExactSets (yrs : Yrs Op StateVector AwarenessUpdate) : Prop where
  applies : ∀ content update, yrs.tryApplyUpdate content update = .ok (content ∪ update)
  presence : ∀ current update, ∃ next, yrs.applyAwareness current update = .ok next
  /-- What is encoded for a state vector is what its document misses. -/
  missing : ∀ content known,
    yrs.decodeUpdate (yrs.encodeStateAsUpdate content (yrs.stateVector known)) = .ok (content \ known)
  within : ∀ content stateVector update,
    yrs.decodeUpdate (yrs.encodeStateAsUpdate content stateVector) = .ok update → update ⊆ content

section Payloads

variable (yrs : Yrs Op StateVector AwarenessUpdate)

/-! ## The payloads of an exchange -/

/-- The client asks with its state vector and adds its awareness. -/
def openingPayload (known : Finset Op) (presence : AwarenessUpdate) : Bytes :=
  let question : Message StateVector AwarenessUpdate := .sync (.syncStep1 (yrs.stateVector known))
  let presence : Message StateVector AwarenessUpdate := .awareness presence
  question.encode yrs.codec ++ presence.encode yrs.codec

/-- The server answers with an update and asks with its own state vector. -/
def answerPayload (update : Bytes) (known : Finset Op) : Bytes :=
  let answer : Message StateVector AwarenessUpdate := .sync (.syncStep2 update)
  let question : Message StateVector AwarenessUpdate := .sync (.syncStep1 (yrs.stateVector known))
  answer.encode yrs.codec ++ question.encode yrs.codec

theorem read_pair (first second : Message StateVector AwarenessUpdate) :
    MessageReader.read yrs.codec (first.encode yrs.codec ++ second.encode yrs.codec) = ⟨[first, second], none⟩ := by
  simpa using MessageReader.read_encode yrs.codec [first, second]

theorem read_single (msg : Message StateVector AwarenessUpdate) :
    MessageReader.read yrs.codec (msg.encode yrs.codec) = ⟨[msg], none⟩ := by
  simpa using MessageReader.read_encode yrs.codec [msg]

theorem answerPayload_ne_nil (update : Bytes) (known : Finset Op) : answerPayload yrs update known ≠ [] := by
  intro nothing
  have read := read_pair yrs (.sync (.syncStep2 update)) (.sync (.syncStep1 (yrs.stateVector known)))
  rw [answerPayload] at nothing
  rw [nothing, MessageReader.read_nil] at read
  cases read

/-- How many messages of the payload ask for an update. -/
def questions (payload : Bytes) : Nat := (MessageReader.read yrs.codec payload).messages.countP isSyncStep1

@[simp] theorem questions_nil : questions yrs [] = 0 := by
  rw [questions, MessageReader.read_nil]
  rfl

@[simp] theorem questions_answerPayload (update : Bytes) (known : Finset Op) :
    questions yrs (answerPayload yrs update known) = 1 := by
  rw [questions, answerPayload, read_pair]
  rfl

theorem questions_encode {msg : Message StateVector AwarenessUpdate} (silent : isSyncStep1 msg = false) :
    questions yrs (msg.encode yrs.codec) = 0 := by
  rw [questions, read_single, List.countP_singleton, silent]
  rfl

/-- The message asks, if it is an init sync. -/
def Opens (message : ClientCollabMessage) : Prop :=
  message.isClientInitSync = true → ∃ known presence, message.payload = openingPayload yrs known presence

/-- What an ack says of the message it answers: the document has the updates of the message,
    and to a question it gives an update and asks for what some part of the document misses. -/
def Answers (copy : ClientCollabMessage) (ack : CollabAck) (content : Finset Op) : Prop :=
  carriedOps yrs (MessageReader.read yrs.codec copy.payload).messages ⊆ content ∧
    (copy.isClientInitSync = true → ∃ update ops known, yrs.decodeUpdate update = .ok ops ∧ known ⊆ content ∧
      ack.payload = answerPayload yrs update known)

theorem Answers.mono {copy : ClientCollabMessage} {ack : CollabAck} {content later : Finset Op}
    (answers : Answers yrs copy ack content) (grows : content ⊆ later) : Answers yrs copy ack later := by
  refine ⟨Finset.Subset.trans answers.1 grows, ?_⟩
  intro init
  obtain ⟨update, ops, known, decoded, before, payload⟩ := answers.2 init
  exact ⟨update, ops, known, decoded, Finset.Subset.trans before grows, payload⟩

end Payloads

/-! ## The server's side -/

section Server

variable {yrs : Yrs Op StateVector AwarenessUpdate}

theorem ExactSets.brings (sets : ExactSets yrs) (content : Finset Op) {msg : Message StateVector AwarenessUpdate}
    {data : Bytes} (carried : msg.carriedUpdate = some data) : msg.brings yrs content = updateOps yrs data := by
  rw [Message.brings, carried, updateOps]
  simp only [Yrs.brings]
  cases decoded : yrs.decodeUpdate data with
  | error failure => rfl
  | ok update => simp only [sets.applies]

/-- Where no lock and no transaction is missing, the document takes in what the messages carry. -/
theorem run_handleMessage_carries (sets : ExactSets yrs) (objectId : String) (collabMsg : ClientCollabMessage)
    (state : Handling Op AwarenessUpdate) {msgs : List (Message StateVector AwarenessUpdate × Moment)}
    (usable : ∀ msg ∈ msgs, msg.2.usable = true) :
    carriedOps yrs (msgs.map Prod.fst) ⊆ (run (handleMessage yrs objectId collabMsg) state msgs).collab.content := by
  induction msgs generalizing state with
  | nil => exact Finset.empty_subset _
  | cons msg msgs inductionHypothesis =>
    rw [List.forall_mem_cons] at usable
    have later := inductionHypothesis (handleMessage yrs objectId collabMsg state msg) usable.2
    rw [List.map_cons, carriedOps, collectOps]
    cases carried : msg.1.carriedUpdate with
    | none => exact later
    | some data =>
      have taken : updateOps yrs data ⊆ (handleMessage yrs objectId collabMsg state msg).collab.content := by
        rw [handleMessage_content, if_pos usable.1, sets.brings _ carried]
        exact Finset.subset_union_right
      have kept := run_view_le (handleMessage_grows yrs objectId collabMsg)
        (handleMessage yrs objectId collabMsg state msg) msgs
      exact Finset.union_subset (Finset.Subset.trans taken kept) later

theorem handle_carries (sets : ExactSets yrs) {environment : Nat → Moment} (idle : ∀ index, environment index = .idle)
    (objectId : String) (copy : ClientCollabMessage) (collab : Collab Op AwarenessUpdate) :
    carriedOps yrs (MessageReader.read yrs.codec copy.payload).messages ⊆
      (handleClientCollabMessage yrs environment objectId copy collab).collab.content := by
  have usable : ∀ msg ∈ innerMessages yrs environment copy.payload, msg.2.usable = true := by
    intro msg member
    obtain ⟨message, _, rfl⟩ := List.mem_map.mp member
    simp only [idle]
    rfl
  have taken := run_handleMessage_carries sets objectId copy ⟨collab, []⟩ usable
  have messages : (MessageReader.read yrs.codec copy.payload).messages.zipIdx.map
      (Prod.fst ∘ fun message => (message.1, environment message.2)) =
        (MessageReader.read yrs.codec copy.payload).messages := List.zipIdx_map_fst _ _
  rwa [innerMessages, List.map_map, messages] at taken

theorem handleMessage_ids {objectId : String} {collabMsg : ClientCollabMessage} {state : Handling Op AwarenessUpdate}
    {msg : Message StateVector AwarenessUpdate × Moment}
    (own : ∀ ack ∈ state.resps, ack.source.msgId = collabMsg.msgId) :
    ∀ ack ∈ (handleMessage yrs objectId collabMsg state msg).resps, ack.source.msgId = collabMsg.msgId := by
  rw [handleMessage]
  split
  · split
    · simp only
      split
      · exact List.forall_mem_append.mpr ⟨own, List.forall_mem_singleton.mpr rfl⟩
      · exact own
    · exact List.forall_mem_append.mpr ⟨own, List.forall_mem_singleton.mpr rfl⟩
  · exact own

theorem handle_ids (environment : Nat → Moment) (objectId : String) (copy : ClientCollabMessage)
    (collab : Collab Op AwarenessUpdate) :
    ∀ ack ∈ (handleClientCollabMessage yrs environment objectId copy collab).resps,
      ack.source.msgId = copy.msgId :=
  run_invariant (fun (state : Handling Op AwarenessUpdate) _
    (own : ∀ ack ∈ state.resps, ack.source.msgId = copy.msgId) => handleMessage_ids own) (List.forall_mem_nil _) _

theorem handleMessage_asks {objectId : String} {collabMsg : ClientCollabMessage} {state : Handling Op AwarenessUpdate}
    {msg : Message StateVector AwarenessUpdate × Moment} (once : ∀ ack ∈ state.resps, questions yrs ack.payload ≤ 1) :
    ∀ ack ∈ (handleMessage yrs objectId collabMsg state msg).resps, questions yrs ack.payload ≤ 1 := by
  have silent : questions yrs [] ≤ 1 := by simp
  rw [handleMessage]
  split
  · split
    · rename_i payload collab handled
      simp only
      split
      · refine List.forall_mem_append.mpr ⟨once, List.forall_mem_singleton.mpr ?_⟩
        cases payload with
        | none => exact silent
        | some answer =>
          -- the server's only answer is its update with one question
          obtain ⟨stateVector, _, given⟩ := handleCollabMessage_answer yrs (congrArg Prod.fst handled)
          cases given
          exact (questions_answerPayload yrs _ _).le
      · exact once
    · exact List.forall_mem_append.mpr ⟨once, List.forall_mem_singleton.mpr silent⟩
  · exact once

theorem handle_asks (environment : Nat → Moment) (objectId : String) (copy : ClientCollabMessage)
    (collab : Collab Op AwarenessUpdate) :
    ∀ ack ∈ (handleClientCollabMessage yrs environment objectId copy collab).resps,
      questions yrs ack.payload ≤ 1 :=
  run_invariant (fun (state : Handling Op AwarenessUpdate) _
    (once : ∀ ack ∈ state.resps, questions yrs ack.payload ≤ 1) => handleMessage_asks once) (List.forall_mem_nil _) _

/-- To a question the server gives one ack, with an update and its own question. -/
theorem handle_opening (sets : ExactSets yrs) {environment : Nat → Moment} (idle : ∀ index, environment index = .idle)
    (objectId : String) {copy : ClientCollabMessage} {known : Finset Op} {presence : AwarenessUpdate}
    (opening : copy.payload = openingPayload yrs known presence) (collab : Collab Op AwarenessUpdate) :
    ∀ ack ∈ (handleClientCollabMessage yrs environment objectId copy collab).resps,
      ack.payload =
        answerPayload yrs (yrs.encodeStateAsUpdate collab.content (yrs.stateVector known)) collab.content := by
  obtain ⟨next, applied⟩ := sets.presence collab.awareness presence
  rw [handleClientCollabMessage, opening, openingPayload, read_pair]
  intro ack given
  simp only [run, List.zipIdx_cons, List.zipIdx_nil, List.map_cons, List.map_nil, List.foldl_cons, List.foldl_nil,
    handleMessage, idle, Moment.idle, if_true, handleCollabMessage, ServerSyncProtocol, List.isEmpty_nil,
    CollabAck.withPayload, Option.getD_some, List.nil_append, handleAwarenessUpdate, applied, List.isEmpty_cons,
    Bool.false_eq_true, if_false, List.mem_singleton] at given
  rw [given]
  rfl

theorem handle_answers (sets : ExactSets yrs) {environment : Nat → Moment} (idle : ∀ index, environment index = .idle)
    (objectId : String) {copy : ClientCollabMessage} (opens : Opens yrs copy) (collab : Collab Op AwarenessUpdate) :
    ∀ ack ∈ (handleClientCollabMessage yrs environment objectId copy collab).resps,
      Answers yrs copy ack (handleClientCollabMessage yrs environment objectId copy collab).collab.content := by
  intro ack given
  refine ⟨handle_carries sets idle objectId copy collab, ?_⟩
  intro init
  obtain ⟨known, presence, opening⟩ := opens init
  have grows := handleClientCollabMessage_grows yrs environment objectId copy collab
  exact ⟨_, _, collab.content, sets.missing collab.content known, grows,
    handle_opening sets idle objectId opening collab ack given⟩

end Server

/-! ## A library with sets for state vectors -/

def setCodec (table : UpdateTable.Table) : Codec (Finset (Nat × Nat)) Lib0.AwarenessUpdate where
  var := lib0.var
  buf := lib0.buf
  string := lib0.string
  encodeStateVector := table.encode
  decodeStateVector := table.decode
  encodeAwareness := lib0.encodeAwareness
  decodeAwareness := lib0.decodeAwareness
  serialize := lib0.serialize
  deserialize := lib0.deserialize
  var_shorter := lib0.var_shorter
  var_nil := lib0.var_nil
  stateVector_decode := table.decode_encode
  awareness_decode := lib0.awareness_decode
  meta_deserialize := lib0.meta_deserialize

def setYrs (table : UpdateTable.Table) : Yrs (Nat × Nat) (Finset (Nat × Nat)) Lib0.AwarenessUpdate where
  codec := setCodec table
  decodeUpdate := table.decode
  tryApplyUpdate content update := .ok (content ∪ update)
  stateVector content := content
  encodeStateAsUpdate content known := table.encode (content \ known)
  mergeUpdates := UpdateTable.mergeUpdates table
  applyAwareness := (UpdateTable.yrs table).applyAwareness
  apply_union := (UpdateTable.yrs table).apply_union
  merge_union := (UpdateTable.yrs table).merge_union

theorem setYrs_exact (table : UpdateTable.Table) : ExactSets (setYrs table) where
  applies _ _ := rfl
  presence _ _ := ⟨_, rfl⟩
  missing content known := table.decode_encode (content \ known)
  within content known update decoded := by
    obtain rfl := Except.ok.inj ((table.decode_encode (content \ known)).symm.trans decoded)
    exact Finset.sdiff_subset

end FlowCloud.Sync
