import FlowCloud.Foundation.Wire
import FlowCloud.Entity.Dto

/-! # Protocol messages

A payload is a sequence of tagged messages.  The encoding of single numbers, buffers and
texts, of state vectors and awareness updates is the library's and comes as a `Codec`; the
tags and the layout of the messages are defined here.
-/

namespace FlowCloud.Protocol

open FlowCloud.Foundation FlowCloud.Entity

/-! ## Messages -/

structure SyncMeta where
  lastSyncAt : Int64
  deriving DecidableEq, Repr

inductive CustomMessage where
  | syncCheck (msg : SyncMeta)
  deriving DecidableEq, Repr

inductive SyncMessage (StateVector : Type) where
  /-- The state vector of the remote side. -/
  | syncStep1 (stateVector : StateVector)
  /-- An encoded update that answers a `syncStep1`. -/
  | syncStep2 (data : Bytes)
  | update (data : Bytes)
  deriving DecidableEq, Repr

inductive Message (StateVector AwarenessUpdate : Type) where
  | sync (msg : SyncMessage StateVector)
  | auth (reason : Option String)
  | awareness (update : AwarenessUpdate)
  | custom (msg : CustomMessage)
  deriving DecidableEq, Repr

abbrev MSG_SYNC : UInt8 := 0
abbrev MSG_AWARENESS : UInt8 := 1
abbrev MSG_AUTH : UInt8 := 2
abbrev MSG_CUSTOM : UInt8 := 3
abbrev PERMISSION_DENIED : UInt8 := 0
abbrev PERMISSION_GRANTED : UInt8 := 1
abbrev MSG_CUSTOM_START_SYNC : UInt8 := 0
abbrev MSG_SYNC_STEP_1 : UInt8 := 0
abbrev MSG_SYNC_STEP_2 : UInt8 := 1
abbrev MSG_SYNC_UPDATE : UInt8 := 2

/-! ## The library's encodings -/

/-- What the library encodes.  `encodeX` and `decodeX` work on whole buffers. -/
structure Codec (StateVector AwarenessUpdate : Type) where
  var : Wire UInt8
  buf : Wire Bytes
  string : Wire String
  encodeStateVector : StateVector → Bytes
  decodeStateVector : Bytes → Except ReadError StateVector
  encodeAwareness : AwarenessUpdate → Bytes
  decodeAwareness : Bytes → Except ReadError AwarenessUpdate
  serialize : SyncMeta → Bytes
  deserialize : Bytes → Option SyncMeta
  var_shorter : ∀ input value rest, var.read.run input = .ok (value, rest) → rest.length < input.length
  var_nil : var.read.run [] = .error .endOfBuffer
  stateVector_decode : ∀ stateVector, decodeStateVector (encodeStateVector stateVector) = .ok stateVector
  awareness_decode : ∀ update, decodeAwareness (encodeAwareness update) = .ok update
  meta_deserialize : ∀ value, deserialize (serialize value) = some value

variable {StateVector AwarenessUpdate : Type}

section Encode

variable (codec : Codec StateVector AwarenessUpdate)

def SyncMessage.encode : SyncMessage StateVector → Bytes
  | .syncStep1 stateVector => codec.var.write MSG_SYNC_STEP_1 ++ codec.buf.write (codec.encodeStateVector stateVector)
  | .syncStep2 data => codec.var.write MSG_SYNC_STEP_2 ++ codec.buf.write data
  | .update data => codec.var.write MSG_SYNC_UPDATE ++ codec.buf.write data

def CustomMessage.encode : CustomMessage → Bytes
  | .syncCheck msg => codec.var.write MSG_CUSTOM_START_SYNC ++ codec.buf.write (codec.serialize msg)

def Message.encode : Message StateVector AwarenessUpdate → Bytes
  | .sync msg => codec.var.write MSG_SYNC ++ msg.encode codec
  | .auth (some reason) =>
    codec.var.write MSG_AUTH ++ (codec.var.write PERMISSION_DENIED ++ codec.string.write reason)
  | .auth none => codec.var.write MSG_AUTH ++ codec.var.write PERMISSION_GRANTED
  | .awareness update => codec.var.write MSG_AWARENESS ++ codec.buf.write (codec.encodeAwareness update)
  | .custom msg => codec.var.write MSG_CUSTOM ++ msg.encode codec

def SyncMessage.decode : Decoder (SyncMessage StateVector) := do
  let tag ← codec.var.read
  if tag = MSG_SYNC_STEP_1 then
    let buf ← codec.buf.read
    let stateVector ← liftM (codec.decodeStateVector buf)
    return .syncStep1 stateVector
  else if tag = MSG_SYNC_STEP_2 then
    let buf ← codec.buf.read
    return .syncStep2 buf
  else if tag = MSG_SYNC_UPDATE then
    let buf ← codec.buf.read
    return .update buf
  else throw .unexpectedValue

def SyncMeta.fromVec (data : Bytes) : Except ReadError SyncMeta :=
  match codec.deserialize data with
  | some value => .ok value
  | none => .error .unexpectedValue

def CustomMessage.decode : Decoder CustomMessage := do
  let tag ← codec.var.read
  if tag = MSG_CUSTOM_START_SYNC then
    let buf ← codec.buf.read
    let value ← liftM (SyncMeta.fromVec codec buf)
    return .syncCheck value
  else throw .unexpectedValue

def Message.decodeBody (tag : UInt8) : Decoder (Message StateVector AwarenessUpdate) := do
  if tag = MSG_SYNC then
    let msg ← SyncMessage.decode codec
    return .sync msg
  else if tag = MSG_AWARENESS then
    let data ← codec.buf.read
    let update ← liftM (codec.decodeAwareness data)
    return .awareness update
  else if tag = MSG_AUTH then
    let permission ← codec.var.read
    if permission = PERMISSION_DENIED then
      let reason ← codec.string.read
      return .auth (some reason)
    else return .auth none
  else if tag = MSG_CUSTOM then
    let msg ← CustomMessage.decode codec
    return .custom msg
  else throw .unexpectedValue

def Message.decode : Decoder (Message StateVector AwarenessUpdate) := do
  let tag ← codec.var.read
  Message.decodeBody codec tag

end Encode

/-! ## Reading undoes writing -/

theorem SyncMessage.decode_encode (codec : Codec StateVector AwarenessUpdate) (msg : SyncMessage StateVector)
    (rest : Bytes) : (SyncMessage.decode codec).run (msg.encode codec ++ rest) = .ok (msg, rest) := by
  cases msg with
  | syncStep1 stateVector =>
    rw [SyncMessage.encode, List.append_assoc, SyncMessage.decode, Decoder.run_bind_ok (codec.var.read_write _ _),
      if_pos rfl, Decoder.run_bind_ok (codec.buf.read_write _ _), codec.stateVector_decode]
    rfl
  | syncStep2 data =>
    rw [SyncMessage.encode, List.append_assoc, SyncMessage.decode, Decoder.run_bind_ok (codec.var.read_write _ _),
      if_neg (by decide), if_pos rfl, Decoder.run_bind_ok (codec.buf.read_write _ _)]
    rfl
  | update data =>
    rw [SyncMessage.encode, List.append_assoc, SyncMessage.decode, Decoder.run_bind_ok (codec.var.read_write _ _),
      if_neg (by decide), if_neg (by decide), if_pos rfl, Decoder.run_bind_ok (codec.buf.read_write _ _)]
    rfl

theorem CustomMessage.decode_encode (codec : Codec StateVector AwarenessUpdate) (msg : CustomMessage) (rest : Bytes) :
    (CustomMessage.decode codec).run (msg.encode codec ++ rest) = .ok (msg, rest) := by
  cases msg with
  | syncCheck value =>
    have fromVec : SyncMeta.fromVec codec (codec.serialize value) = .ok value := by
      rw [SyncMeta.fromVec, codec.meta_deserialize]
    rw [CustomMessage.encode, List.append_assoc, CustomMessage.decode,
      Decoder.run_bind_ok (codec.var.read_write _ _), if_pos rfl, Decoder.run_bind_ok (codec.buf.read_write _ _),
      fromVec]
    rfl

theorem Message.decode_encode (codec : Codec StateVector AwarenessUpdate)
    (msg : Message StateVector AwarenessUpdate) (rest : Bytes) :
    (Message.decode codec).run (msg.encode codec ++ rest) = .ok (msg, rest) := by
  cases msg with
  | sync msg =>
    rw [Message.encode, List.append_assoc, Message.decode, Decoder.run_bind_ok (codec.var.read_write _ _),
      Message.decodeBody, if_pos rfl, Decoder.run_bind_ok (SyncMessage.decode_encode codec msg rest)]
    rfl
  | awareness update =>
    rw [Message.encode, List.append_assoc, Message.decode, Decoder.run_bind_ok (codec.var.read_write _ _),
      Message.decodeBody, if_neg (by decide), if_pos rfl, Decoder.run_bind_ok (codec.buf.read_write _ _),
      codec.awareness_decode]
    rfl
  | auth reason =>
    cases reason with
    | none =>
      rw [Message.encode, List.append_assoc, Message.decode, Decoder.run_bind_ok (codec.var.read_write _ _),
        Message.decodeBody, if_neg (by decide), if_neg (by decide), if_pos rfl,
          Decoder.run_bind_ok (codec.var.read_write _ _),
        if_neg (by decide)]
      rfl
    | some reason =>
      rw [Message.encode, List.append_assoc, List.append_assoc, Message.decode,
        Decoder.run_bind_ok (codec.var.read_write _ _), Message.decodeBody, if_neg (by decide),
        if_neg (by decide), if_pos rfl, Decoder.run_bind_ok (codec.var.read_write _ _), if_pos rfl,
          Decoder.run_bind_ok (codec.string.read_write _ _)]
      rfl
  | custom msg =>
    rw [Message.encode, List.append_assoc, Message.decode, Decoder.run_bind_ok (codec.var.read_write _ _),
      Message.decodeBody, if_neg (by decide), if_neg (by decide), if_neg (by decide), if_pos rfl,
      Decoder.run_bind_ok (CustomMessage.decode_encode codec msg rest)]
    rfl

/-! ## The reader -/

section Reader

variable (codec : Codec StateVector AwarenessUpdate)

/-- `MessageReader::next` with the bytes it leaves: the end of the buffer ends the
    iteration, whether it falls between two messages or inside one. -/
def MessageReader.next (input : Bytes) :
    Option (Except ReadError (Message StateVector AwarenessUpdate × Bytes)) :=
  match (Message.decode codec).run input with
  | .ok success => some (.ok success)
  | .error .endOfBuffer => none
  | .error failure => some (.error failure)

/-- What a loop over the reader sees: the messages in order, and the error it stopped at. -/
structure Reading (StateVector AwarenessUpdate : Type) where
  messages : List (Message StateVector AwarenessUpdate)
  failure : Option ReadError

def MessageReader.readFrom : Nat → Bytes → Reading StateVector AwarenessUpdate
  | 0, _ => ⟨[], none⟩
  | fuel + 1, input =>
    match MessageReader.next codec input with
    | none => ⟨[], none⟩
    | some (.error failure) => ⟨[], some failure⟩
    | some (.ok (msg, rest)) =>
      let later := MessageReader.readFrom fuel rest
      ⟨msg :: later.messages, later.failure⟩

/-- The loop over a payload.  Every message takes at least one byte, so the fuel suffices. -/
def MessageReader.read (payload : Bytes) : Reading StateVector AwarenessUpdate :=
  MessageReader.readFrom codec (payload.length + 1) payload

/-- The bytes that a loop over the reader has not decoded when it ends. -/
def MessageReader.unreadFrom : Nat → Bytes → Bytes
  | 0, input => input
  | fuel + 1, input =>
    match MessageReader.next codec input with
    | some (.ok (_, rest)) => MessageReader.unreadFrom fuel rest
    | _ => input

def MessageReader.unread (payload : Bytes) : Bytes :=
  MessageReader.unreadFrom codec (payload.length + 1) payload

theorem SyncMessage.decode_shrinks : (SyncMessage.decode codec).Shrinks := by
  refine codec.var.shrinks.bind fun tag => ?_
  split
  · exact codec.buf.shrinks.bind fun buf =>
      (Decoder.shrinks_lift _).bind fun stateVector => Decoder.shrinks_pure _
  · split
    · exact codec.buf.shrinks.bind fun buf => Decoder.shrinks_pure _
    · split
      · exact codec.buf.shrinks.bind fun buf => Decoder.shrinks_pure _
      · exact Decoder.shrinks_throw _

theorem CustomMessage.decode_shrinks : (CustomMessage.decode codec).Shrinks := by
  refine codec.var.shrinks.bind fun tag => ?_
  split
  · exact codec.buf.shrinks.bind fun buf => (Decoder.shrinks_lift _).bind fun value => Decoder.shrinks_pure _
  · exact Decoder.shrinks_throw _

theorem Message.decodeBody_shrinks (tag : UInt8) : (Message.decodeBody codec tag).Shrinks := by
  rw [Message.decodeBody]
  split
  · exact (SyncMessage.decode_shrinks codec).bind fun _ => Decoder.shrinks_pure _
  split
  · exact codec.buf.shrinks.bind fun _ => (Decoder.shrinks_lift _).bind fun _ => Decoder.shrinks_pure _
  split
  · refine codec.var.shrinks.bind fun _ => ?_
    split
    · exact codec.string.shrinks.bind fun _ => Decoder.shrinks_pure _
    · exact Decoder.shrinks_pure _
  split
  · exact (CustomMessage.decode_shrinks codec).bind fun _ => Decoder.shrinks_pure _
  · exact Decoder.shrinks_throw _

/-- The tag of a message takes a byte, and nothing after it gives one back. -/
theorem Message.decode_shorter {input rest : Bytes} {msg : Message StateVector AwarenessUpdate}
    (decoded : (Message.decode codec).run input = .ok (msg, rest)) : rest.length < input.length := by
  obtain ⟨tag, body, tagRead, bodyRead⟩ := Decoder.run_bind_eq_ok decoded
  exact Nat.lt_of_le_of_lt (Message.decodeBody_shrinks codec tag body msg rest bodyRead)
    (codec.var_shorter _ _ _ tagRead)

theorem MessageReader.next_shorter {input rest : Bytes} {msg : Message StateVector AwarenessUpdate}
    (next : MessageReader.next codec input = some (.ok (msg, rest))) : rest.length < input.length := by
  rw [MessageReader.next] at next
  split at next
  · rename_i success decoded
    cases next
    exact Message.decode_shorter codec decoded
  · cases next
  · cases next

theorem MessageReader.readFrom_enough {fuel otherFuel : Nat} {input : Bytes} (enough : input.length < fuel)
    (otherEnough : input.length < otherFuel) :
    MessageReader.readFrom codec fuel input = MessageReader.readFrom codec otherFuel input := by
  refine enough_fuel ?_ enough otherEnough
  intro fuel otherFuel input sameLater
  rw [MessageReader.readFrom, MessageReader.readFrom]
  split
  · rfl
  · rfl
  · rename_i msg rest next
    -- both readings go on with a shorter input
    rw [sameLater rest (MessageReader.next_shorter codec next)]

theorem MessageReader.read_unfold (payload : Bytes) :
    MessageReader.read codec payload =
      match MessageReader.next codec payload with
      | none => ⟨[], none⟩
      | some (.error failure) => ⟨[], some failure⟩
      | some (.ok (msg, rest)) =>
        ⟨msg :: (MessageReader.read codec rest).messages, (MessageReader.read codec rest).failure⟩ := by
  rw [MessageReader.read, MessageReader.readFrom]
  split
  · rfl
  · rfl
  · rename_i msg rest next
    have enough := MessageReader.next_shorter codec next
    rw [MessageReader.read, MessageReader.readFrom_enough codec enough (Nat.lt_succ_self _)]

theorem MessageReader.next_encode (msg : Message StateVector AwarenessUpdate) (rest : Bytes) :
    MessageReader.next codec (msg.encode codec ++ rest) = some (.ok (msg, rest)) := by
  rw [MessageReader.next, Message.decode_encode]

theorem MessageReader.next_nil : MessageReader.next codec [] = none := by
  rw [MessageReader.next, Message.decode, Decoder.run_bind_error codec.var_nil]

theorem MessageReader.read_nil : MessageReader.read codec [] = ⟨[], none⟩ := by
  rw [MessageReader.read_unfold, MessageReader.next_nil]

/-- Iterating over the reader gives these messages one after the other and then ends. -/
def MessageReader.Yields : Bytes → List (Message StateVector AwarenessUpdate) → Prop
  | input, [] => MessageReader.next codec input = none
  | input, msg :: msgs => ∃ rest, MessageReader.next codec input = some (.ok (msg, rest)) ∧ Yields rest msgs

theorem MessageReader.yields_encode (msgs : List (Message StateVector AwarenessUpdate)) :
    MessageReader.Yields codec (msgs.flatMap fun msg => msg.encode codec) msgs := by
  induction msgs with
  | nil => exact MessageReader.next_nil codec
  | cons msg msgs inductionHypothesis =>
    rw [List.flatMap_cons]
    exact ⟨_, MessageReader.next_encode codec msg _, inductionHypothesis⟩

variable {codec}

theorem MessageReader.Yields.read_eq {input : Bytes} {msgs : List (Message StateVector AwarenessUpdate)}
    (yields : MessageReader.Yields codec input msgs) : MessageReader.read codec input = ⟨msgs, none⟩ := by
  induction msgs generalizing input with
  | nil =>
    rw [MessageReader.Yields] at yields
    rw [MessageReader.read_unfold, yields]
  | cons msg msgs inductionHypothesis =>
    obtain ⟨rest, next, later⟩ := yields
    rw [MessageReader.read_unfold, next]
    simp only [inductionHypothesis later]

variable (codec)

/-- A payload of encoded messages is read back as these messages. -/
theorem MessageReader.read_encode (msgs : List (Message StateVector AwarenessUpdate)) :
    MessageReader.read codec (msgs.flatMap fun msg => msg.encode codec) = ⟨msgs, none⟩ :=
  (MessageReader.yields_encode codec msgs).read_eq

end Reader

end FlowCloud.Protocol
