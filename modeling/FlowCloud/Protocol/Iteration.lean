import FlowCloud.Foundation.Cursor
import FlowCloud.Protocol.Lib0

/-! # Iterating over a payload

A loop over the reader may go on after a message that cannot be decoded.  Where it goes on is
where the decoder has left its cursor, so the decoders are modelled here once more, over a
cursor.
-/

namespace FlowCloud.Protocol

open FlowCloud.Foundation FlowCloud.Entity

variable {StateVector AwarenessUpdate : Type}

/-! ## Decoding at a cursor -/

/-- The library's reads at a cursor. -/
structure Cursors where
  readVar : CursorDecoder UInt8
  readBuf : CursorDecoder Bytes
  readString : CursorDecoder String

/-- No read moves backwards, and each takes a byte unless the buffer ends. -/
structure Cursors.MoveOn (cursors : Cursors) : Prop where
  readVar : cursors.readVar.MovesOn
  readBuf : cursors.readBuf.MovesOn
  readString : cursors.readString.MovesOn

section Decode

variable (codec : Codec StateVector AwarenessUpdate) (cursors : Cursors)

def SyncMessage.decodeAt : CursorDecoder (SyncMessage StateVector) := do
  let tag ← cursors.readVar
  if tag = MSG_SYNC_STEP_1 then
    let buf ← cursors.readBuf
    let stateVector ← liftM (codec.decodeStateVector buf)
    return .syncStep1 stateVector
  else if tag = MSG_SYNC_STEP_2 then
    let buf ← cursors.readBuf
    return .syncStep2 buf
  else if tag = MSG_SYNC_UPDATE then
    let buf ← cursors.readBuf
    return .update buf
  else throw .unexpectedValue

def CustomMessage.decodeAt : CursorDecoder CustomMessage := do
  let tag ← cursors.readVar
  if tag = MSG_CUSTOM_START_SYNC then
    let buf ← cursors.readBuf
    let value ← liftM (SyncMeta.fromVec codec buf)
    return .syncCheck value
  else throw .unexpectedValue

def Message.decodeBodyAt (tag : UInt8) : CursorDecoder (Message StateVector AwarenessUpdate) := do
  if tag = MSG_SYNC then
    let msg ← SyncMessage.decodeAt codec cursors
    return .sync msg
  else if tag = MSG_AWARENESS then
    let data ← cursors.readBuf
    let update ← liftM (codec.decodeAwareness data)
    return .awareness update
  else if tag = MSG_AUTH then
    let permission ← cursors.readVar
    if permission = PERMISSION_DENIED then
      let reason ← cursors.readString
      return .auth (some reason)
    else return .auth none
  else if tag = MSG_CUSTOM then
    let msg ← CustomMessage.decodeAt codec cursors
    return .custom msg
  else throw .unexpectedValue

def Message.decodeAt : CursorDecoder (Message StateVector AwarenessUpdate) := do
  let tag ← cursors.readVar
  Message.decodeBodyAt codec cursors tag

/-- `MessageReader::next`, and where it leaves the cursor. -/
def MessageReader.nextAt (input : Bytes) :
    Option (Except ReadError (Message StateVector AwarenessUpdate)) × Bytes :=
  match (Message.decodeAt codec cursors).readAt input with
  | (.ok msg, rest) => (some (.ok msg), rest)
  | (.error .endOfBuffer, rest) => (none, rest)
  | (.error failure, rest) => (some (.error failure), rest)

end Decode

/-! ## The same messages -/

/-- The reads are those of the codec. -/
structure Cursors.Read (cursors : Cursors) (codec : Codec StateVector AwarenessUpdate) : Prop where
  readVar : cursors.readVar.Agrees codec.var.read
  readBuf : cursors.readBuf.Agrees codec.buf.read
  readString : cursors.readString.Agrees codec.string.read

section Agreement

open CursorDecoder

variable {codec : Codec StateVector AwarenessUpdate} {cursors : Cursors} (read : cursors.Read codec)

include read

theorem SyncMessage.decodeAt_agrees : (SyncMessage.decodeAt codec cursors).Agrees (SyncMessage.decode codec) := by
  refine read.readVar.bind fun tag => ?_
  split
  · exact read.readBuf.bind fun buf => (agrees_lift _).bind fun _ => agrees_pure _
  split
  · exact read.readBuf.bind fun buf => agrees_pure _
  split
  · exact read.readBuf.bind fun buf => agrees_pure _
  · exact agrees_throw _

theorem CustomMessage.decodeAt_agrees : (CustomMessage.decodeAt codec cursors).Agrees (CustomMessage.decode codec) := by
  refine read.readVar.bind fun tag => ?_
  split
  · exact read.readBuf.bind fun buf => (agrees_lift _).bind fun _ => agrees_pure _
  · exact agrees_throw _

theorem Message.decodeAt_agrees : (Message.decodeAt codec cursors).Agrees (Message.decode codec) := by
  refine read.readVar.bind fun tag => ?_
  rw [Message.decodeBodyAt, Message.decodeBody]
  split
  · exact (SyncMessage.decodeAt_agrees read).bind fun _ => agrees_pure _
  split
  · exact read.readBuf.bind fun _ => (agrees_lift _).bind fun _ => agrees_pure _
  split
  · refine read.readVar.bind fun _ => ?_
    split
    · exact read.readString.bind fun _ => agrees_pure _
    · exact agrees_pure _
  split
  · exact (CustomMessage.decodeAt_agrees read).bind fun _ => agrees_pure _
  · exact agrees_throw _

/-- The reader over a cursor gives the messages of the reader over the rest of the payload. -/
theorem MessageReader.nextAt_of_next {input rest : Bytes} {msg : Message StateVector AwarenessUpdate}
    (next : MessageReader.next codec input = some (.ok (msg, rest))) :
    MessageReader.nextAt codec cursors input = (some (.ok msg), rest) := by
  have decoded : (Message.decode codec).run input = .ok (msg, rest) := by
    rw [MessageReader.next] at next
    split at next
    · next success decoded =>
      cases next
      exact decoded
    · cases next
    · cases next
  rw [MessageReader.nextAt, (Message.decodeAt_agrees read).ok input msg rest decoded]

end Agreement

/-! ## The end of the iteration -/

section End

open CursorDecoder

variable (codec : Codec StateVector AwarenessUpdate) {cursors : Cursors} (moveOn : cursors.MoveOn)

include moveOn

theorem SyncMessage.decodeAt_neverBack : (SyncMessage.decodeAt codec cursors).NeverBack := by
  refine moveOn.readVar.neverBack.bind fun tag => ?_
  split
  · exact moveOn.readBuf.neverBack.bind fun buf => (neverBack_lift _).bind fun _ => neverBack_pure _
  split
  · exact moveOn.readBuf.neverBack.bind fun buf => neverBack_pure _
  split
  · exact moveOn.readBuf.neverBack.bind fun buf => neverBack_pure _
  · exact neverBack_throw _

theorem CustomMessage.decodeAt_neverBack : (CustomMessage.decodeAt codec cursors).NeverBack := by
  refine moveOn.readVar.neverBack.bind fun tag => ?_
  split
  · exact moveOn.readBuf.neverBack.bind fun buf => (neverBack_lift _).bind fun _ => neverBack_pure _
  · exact neverBack_throw _

theorem Message.decodeBodyAt_neverBack (tag : UInt8) : (Message.decodeBodyAt codec cursors tag).NeverBack := by
  rw [Message.decodeBodyAt]
  split
  · exact (SyncMessage.decodeAt_neverBack codec moveOn).bind fun _ => neverBack_pure _
  split
  · exact moveOn.readBuf.neverBack.bind fun _ => (neverBack_lift _).bind fun _ => neverBack_pure _
  split
  · refine moveOn.readVar.neverBack.bind fun _ => ?_
    split
    · exact moveOn.readString.neverBack.bind fun _ => neverBack_pure _
    · exact neverBack_pure _
  split
  · exact (CustomMessage.decodeAt_neverBack codec moveOn).bind fun _ => neverBack_pure _
  · exact neverBack_throw _

/-- The tag of a message takes a byte, also of a message that cannot be decoded. -/
theorem Message.decodeAt_movesOn : (Message.decodeAt codec cursors).MovesOn :=
  moveOn.readVar.bind (Message.decodeBodyAt_neverBack codec moveOn)

theorem MessageReader.nextAt_shorter (input : Bytes) (item : Except ReadError (Message StateVector AwarenessUpdate))
    (given : (MessageReader.nextAt codec cursors input).1 = some item) :
    (MessageReader.nextAt codec cursors input).2.length < input.length := by
  have advances := (Message.decodeAt_movesOn codec moveOn).advances input
  rw [MessageReader.nextAt] at given ⊢
  generalize (Message.decodeAt codec cursors).readAt input = decoded at advances given
  obtain ⟨outcome, rest⟩ := decoded
  cases outcome with
  | ok msg => exact advances.resolve_left (by simp)
  | error failure =>
    cases failure with
    | endOfBuffer => cases given
    | unexpectedValue => exact advances.resolve_left (by simp)
    | other message => exact advances.resolve_left (by simp)

/-- Iterating over a payload ends, and gives at most as many items as it has bytes, errors included. -/
theorem MessageReader.iteration_ends (payload : Bytes) :
    (∃ items, Gives (MessageReader.nextAt codec cursors) payload items) ∧
      ∀ items, Gives (MessageReader.nextAt codec cursors) payload items → items.length ≤ payload.length := by
  obtain ⟨items, short, gives⟩ :=
    exists_gives List.length (MessageReader.nextAt_shorter codec moveOn) payload
  refine ⟨⟨items, gives⟩, fun others again => ?_⟩
  rw [again.unique gives]
  exact short

end End

/-! ## The library's cursors -/

namespace Lib0

def readU8 : CursorDecoder UInt8 := do
  let value ← CursorDecoder.readNat
  liftM (if value < 256 then .ok value.toUInt8 else .error (.other "the number is too large") : Except ReadError UInt8)

def readString : CursorDecoder String := do
  let bytes ← CursorDecoder.readBuf
  liftM (match String.fromUTF8? ⟨bytes.toArray⟩ with
    | some text => .ok text
    | none => .error .unexpectedValue : Except ReadError String)

def cursors : Cursors := ⟨readU8, CursorDecoder.readBuf, readString⟩

theorem cursors_moveOn : cursors.MoveOn where
  readVar := CursorDecoder.readNat_movesOn.bind fun _ => CursorDecoder.neverBack_lift _
  readBuf := CursorDecoder.readBuf_movesOn
  readString := CursorDecoder.readBuf_movesOn.bind fun _ => CursorDecoder.neverBack_lift _

theorem cursors_read : cursors.Read lib0 where
  readVar := CursorDecoder.readNat_agrees.bind fun _ => CursorDecoder.agrees_lift _
  readBuf := CursorDecoder.readBuf_agrees
  readString := CursorDecoder.readBuf_agrees.bind fun _ => CursorDecoder.agrees_lift _

end Lib0

/-- Two unknown tags, a permission, and the tag of a message that is missing. -/
theorem iteration_ends_unknown_tags :
    (∃ items, Gives (MessageReader.nextAt lib0 Lib0.cursors) [7, 9, 2, 1, 0] items) ∧
      ∀ items, Gives (MessageReader.nextAt lib0 Lib0.cursors) [7, 9, 2, 1, 0] items → items.length ≤ 5 :=
  MessageReader.iteration_ends lib0 Lib0.cursors_moveOn [7, 9, 2, 1, 0]

end FlowCloud.Protocol
