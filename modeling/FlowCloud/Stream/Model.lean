import Mathlib.Data.List.AList
import FlowCloud.Foundation.Bincode
import FlowCloud.Foundation.Decimal
import FlowCloud.Foundation.Results
import FlowCloud.Entity.Dto

/-! # Messages in a Redis stream

A message is written as two fields, the user's id in eight bytes and the data.  Redis gives
it an id of two numbers, and a read returns the entries of a stream as nested arrays in which
the ids are texts.
-/

namespace FlowCloud.Stream

open FlowCloud.Foundation FlowCloud.Entity

inductive RedisValue where
  | nil
  | int (value : Int)
  | data (bytes : Bytes)
  | bulk (values : List RedisValue)
  | status (text : String)
  | okay

/-- An error of the kind `TypeError`. -/
structure RedisError where
  description : String
  detail : String
  deriving DecidableEq, Repr

def internal (message : String) : RedisError := ⟨"", message⟩

/-- The conversions of the `redis` crate that the decoders rest on. -/
structure RedisLib where
  string : RedisValue → Except RedisError String
  bytes : RedisValue → Except RedisError Bytes
  invalidUtf8 : RedisError
  string_data : ∀ text, string (.data (utf8 text)) = .ok text
  bytes_data : ∀ data, bytes (.data data) = .ok data

/-! ## Messages -/

structure Message where
  uid : Int64
  rawData : Bytes
  deriving DecidableEq, Repr

def toBeBytes (uid : Int64) : Bytes := (littleEndian 8 uid.toUInt64.toNat).reverse

def fromBeBytes (bytes : Bytes) : Int64 := (UInt64.ofNat (ofLittleEndian bytes.reverse)).toInt64

def Message.intoTupleArray (self : Message) : List (String × Bytes) :=
  [("uid", toBeBytes self.uid), ("data", self.rawData)]

structure MessageId where
  timestampMs : UInt64
  sequenceNumber : UInt16
  deriving DecidableEq, Repr

structure StreamMessage where
  uid : Int64
  rawData : Bytes
  messageId : MessageId
  deriving DecidableEq, Repr

/-! ## Decoding -/

inductive StreamError where
  | utf8Error
  | invalidFormat
  | parseIntError
  deriving DecidableEq, Repr

def bulkFromRedisValue : RedisValue → Except RedisError (List RedisValue)
  | .bulk values => .ok values
  | _ => .error (internal "expecting Value::Bulk")

def MessageId.tryFromText (text : String) : Except StreamError MessageId :=
  match splitFirst '-' text.toList with
  | none => .error .invalidFormat
  | some (first, second) =>
    match parseUnsigned (2 ^ 64) first, parseUnsigned (2 ^ 16) second with
    | some timestampMs, some sequenceNumber => .ok ⟨timestampMs.toUInt64, sequenceNumber.toUInt16⟩
    | _, _ => .error .parseIntError

def MessageId.tryFrom (bytes : Bytes) : Except StreamError MessageId :=
  match ofUtf8 bytes with
  | none => .error .utf8Error
  | some text => tryFromText text

/-- A list of bytes as `Debug` prints it. -/
def debugBytes (bytes : Bytes) : String := "[" ++ ", ".intercalate (bytes.map fun byte => toString byte.toNat) ++ "]"

def MessageId.fromRedisValue : RedisValue → Except RedisError MessageId
  | .data streamKey => (tryFrom streamKey).mapError fun _ => ⟨"invalid stream key", debugBytes streamKey⟩
  | _ => .error (internal "expecting Value::Data")

def userIdFromRedisValue : RedisValue → Except RedisError Int64
  | .data uidBytes =>
    if uidBytes.length = 8 then .ok (fromBeBytes uidBytes)
    else .error ⟨"Invalid UID length", "Expected 8 bytes, got " ++ toString uidBytes.length⟩
  | _ => .error ⟨"Expected Value::Data for UID", ""⟩

section Decoding

variable (lib : RedisLib)

def verifyField (field : RedisValue) (expected : String) : Except RedisError Unit := do
  let fieldStr ← lib.string field
  if fieldStr ≠ expected then
    throw ⟨"Invalid field", "Expected '" ++ expected ++ "', found '" ++ fieldStr ++ "'"⟩

def redisStringFromRedisValue : RedisValue → Except RedisError String
  | .data bytes =>
    match ofUtf8 bytes with
    | some text => .ok text
    | none => .error lib.invalidUtf8
  | _ => .error (internal "expecting Value::Data")

def StreamMessage.fromRedisValue (value : RedisValue) : Except RedisError StreamMessage := do
  let bulk ← bulkFromRedisValue value
  match bulk with
  | [id, fieldsValue] => do
    let createdTime ← MessageId.fromRedisValue id
    let fields ← bulkFromRedisValue fieldsValue
    match fields with
    | [uidField, uidValue, dataField, dataValue] => do
      verifyField lib uidField "uid"
      let uid ← userIdFromRedisValue uidValue
      verifyField lib dataField "data"
      let rawData ← lib.bytes dataValue
      return ⟨uid, rawData, createdTime⟩
    | _ => throw ⟨"Invalid length", "Expected length of 4 for the inner bulk value"⟩
  | _ => throw ⟨"Invalid length", "Expected length of 2 for the outer bulk value"⟩

abbrev StreamMessageByStreamKey := AList fun _ : String => List StreamMessage

def StreamMessageByStreamKey.messages (map : StreamMessageByStreamKey) (streamKey : String) : List StreamMessage :=
  (map.lookup streamKey).getD []

/-- `entry(stream_key).or_default().push(message)` -/
def StreamMessageByStreamKey.push (map : StreamMessageByStreamKey) (streamKey : String) (message : StreamMessage) :
    StreamMessageByStreamKey :=
  map.insert streamKey (map.messages streamKey ++ [message])

def pushValue (streamKey : String) (map : StreamMessageByStreamKey) (value : RedisValue) :
    Except RedisError StreamMessageByStreamKey := do
  let message ← StreamMessage.fromRedisValue lib value
  return map.push streamKey message

def pushStream (map : StreamMessageByStreamKey) (value : RedisValue) : Except RedisError StreamMessageByStreamKey := do
  let keyValues ← bulkFromRedisValue value
  match keyValues with
  | [key, valuesValue] => do
    let streamKey ← redisStringFromRedisValue lib key
    let values ← bulkFromRedisValue valuesValue
    values.foldlM (pushValue lib streamKey) map
  | _ => throw ⟨"Invalid length", "Expected length of 2 for the outer bulk value"⟩

def StreamMessageByStreamKey.fromRedisValue : RedisValue → Except RedisError StreamMessageByStreamKey
  | .nil => .ok ∅
  | value => do
    let valueById ← bulkFromRedisValue value
    valueById.foldlM (pushStream lib) ∅

end Decoding

/-! ## What Redis replies -/

structure EntryId where
  ms : UInt64
  seq : UInt64
  deriving DecidableEq, Repr

def EntryId.text (id : EntryId) : String :=
  String.ofList (Nat.toDigits 10 id.ms.toNat ++ '-' :: Nat.toDigits 10 id.seq.toNat)

/-- A message with the id that Redis gave it. -/
structure Entry where
  id : EntryId
  message : Message
  deriving DecidableEq, Repr

def Entry.value (self : Entry) : RedisValue :=
  .bulk [.data (utf8 self.id.text),
    .bulk (self.message.intoTupleArray.flatMap fun field => [.data (utf8 field.1), .data field.2])]

/-- The reply to a read of one stream; a read that finds nothing is answered by nil. -/
def reply (streamKey : String) (entries : List Entry) : RedisValue :=
  if entries = [] then .nil else .bulk [.bulk [.data (utf8 streamKey), .bulk (entries.map Entry.value)]]

/-- The message and the id of the entry. -/
structure StreamMessage.Shows (message : StreamMessage) (entry : Entry) : Prop where
  uid : message.uid = entry.message.uid
  rawData : message.rawData = entry.message.rawData
  timestampMs : message.messageId.timestampMs.toNat = entry.id.ms.toNat
  sequenceNumber : message.messageId.sequenceNumber.toNat = entry.id.seq.toNat

/-- The result has the entries under their stream's key, in their order, and nothing else. -/
def Yields (streamKey : String) (entries : List Entry) (result : Except RedisError StreamMessageByStreamKey) : Prop :=
  ∃ map, result = .ok map ∧ List.Forall₂ StreamMessage.Shows (map.messages streamKey) entries ∧
    ∀ other ≠ streamKey, map.messages other = []

/-! ## Entries are read -/

theorem fromBeBytes_toBeBytes (uid : Int64) : fromBeBytes (toBeBytes uid) = uid := by
  have fits : uid.toUInt64.toNat < 256 ^ 8 := uid.toUInt64.toNat_lt
  rw [fromBeBytes, toBeBytes, List.reverse_reverse, ofLittleEndian_littleEndian fits, UInt64.ofNat_toNat,
    Int64.toInt64_toUInt64]

theorem userIdFromRedisValue_toBeBytes (uid : Int64) : userIdFromRedisValue (.data (toBeBytes uid)) = .ok uid := by
  have length : (toBeBytes uid).length = 8 := by simp [toBeBytes]
  rw [userIdFromRedisValue, if_pos length, fromBeBytes_toBeBytes]

theorem tryFromText_text (id : EntryId) :
    MessageId.tryFromText id.text =
      if id.seq.toNat < 2 ^ 16 then .ok ⟨id.ms, id.seq.toNat.toUInt16⟩ else .error .parseIntError := by
  have timestamp : id.ms.toNat < 2 ^ 64 := id.ms.toNat_lt
  rw [MessageId.tryFromText, EntryId.text, String.toList_ofList, splitFirst_append (hyphen_notMem_toDigits _)]
  simp only [parseUnsigned_toDigits, if_pos timestamp]
  by_cases short : id.seq.toNat < 2 ^ 16
  · simp only [if_pos short, Nat.toUInt64, UInt64.ofNat_toNat]
  · simp only [if_neg short]

/-- The message that the entry becomes. -/
def Entry.streamMessage (self : Entry) : StreamMessage :=
  ⟨self.message.uid, self.message.rawData, self.id.ms, self.id.seq.toNat.toUInt16⟩

theorem MessageId.fromRedisValue_text (id : EntryId) :
    MessageId.fromRedisValue (.data (utf8 id.text)) =
      if id.seq.toNat < 2 ^ 16 then .ok ⟨id.ms, id.seq.toNat.toUInt16⟩
      else .error ⟨"invalid stream key", debugBytes (utf8 id.text)⟩ := by
  rw [fromRedisValue, tryFrom, ofUtf8_utf8]
  simp only [tryFromText_text]
  split
  · rfl
  · rfl

theorem verifyField_data (lib : RedisLib) (field : String) : verifyField lib (.data (utf8 field)) field = .ok () := by
  rw [verifyField, lib.string_data]
  simp [bind, Except.bind, pure, Except.pure]

theorem fromRedisValue_value (lib : RedisLib) (entry : Entry) :
    StreamMessage.fromRedisValue lib entry.value =
      if entry.id.seq.toNat < 2 ^ 16 then .ok entry.streamMessage
      else .error ⟨"invalid stream key", debugBytes (utf8 entry.id.text)⟩ := by
  have fields : entry.value = .bulk [.data (utf8 entry.id.text), .bulk [.data (utf8 "uid"),
      .data (toBeBytes entry.message.uid), .data (utf8 "data"), .data entry.message.rawData]] := rfl
  simp only [fields, StreamMessage.fromRedisValue, bulkFromRedisValue, bind, Except.bind,
    MessageId.fromRedisValue_text]
  by_cases short : entry.id.seq.toNat < 2 ^ 16
  · simp only [if_pos short, verifyField_data, userIdFromRedisValue_toBeBytes, lib.bytes_data]
    rfl
  · simp only [if_neg short]

/-! ## Replies are read -/

variable (map : StreamMessageByStreamKey) (streamKey : String)

theorem messages_push_same (message : StreamMessage) :
    (map.push streamKey message).messages streamKey = map.messages streamKey ++ [message] := by
  rw [StreamMessageByStreamKey.push, StreamMessageByStreamKey.messages, AList.lookup_insert]
  rfl

theorem messages_push_other (message : StreamMessage) {other : String} (differs : other ≠ streamKey) :
    (map.push streamKey message).messages other = map.messages other := by
  rw [StreamMessageByStreamKey.push, StreamMessageByStreamKey.messages, AList.lookup_insert_ne differs]
  rfl

def pushEntries (entries : List Entry) : StreamMessageByStreamKey :=
  entries.foldl (fun map entry => map.push streamKey entry.streamMessage) map

theorem messages_pushEntries (entries : List Entry) :
    (pushEntries map streamKey entries).messages streamKey =
      map.messages streamKey ++ entries.map Entry.streamMessage := by
  induction entries generalizing map with
  | nil => simp [pushEntries]
  | cons entry entries inductionHypothesis =>
    have later := inductionHypothesis (map.push streamKey entry.streamMessage)
    rw [messages_push_same] at later
    simpa [pushEntries] using later

theorem messages_pushEntries_other (entries : List Entry) {other : String} (differs : other ≠ streamKey) :
    (pushEntries map streamKey entries).messages other = map.messages other := by
  induction entries generalizing map with
  | nil => rfl
  | cons entry entries inductionHypothesis =>
    have later := inductionHypothesis (map.push streamKey entry.streamMessage)
    rwa [messages_push_other map streamKey _ differs] at later

/-- One entry whose id does not fit fails the whole reply. -/
theorem foldlM_pushValue_eq_ok (lib : RedisLib) (entries : List Entry) (result : StreamMessageByStreamKey) :
    (entries.map Entry.value).foldlM (pushValue lib streamKey) map = .ok result ↔
      (∀ entry ∈ entries, entry.id.seq.toNat < 2 ^ 16) ∧ pushEntries map streamKey entries = result := by
  induction entries generalizing map with
  | nil => simp [pushEntries, pure, Except.pure]
  | cons entry entries inductionHypothesis =>
    rw [List.map_cons, List.foldlM_cons, bind_eq_ok, List.forall_mem_cons]
    have first : ∀ next, pushValue lib streamKey map entry.value = .ok next ↔
        entry.id.seq.toNat < 2 ^ 16 ∧ map.push streamKey entry.streamMessage = next := by
      intro next
      have read := fromRedisValue_value lib entry
      rw [pushValue, bind_eq_ok]
      by_cases short : entry.id.seq.toNat < 2 ^ 16
      · rw [if_pos short] at read
        simp only [read, short, true_and, Except.ok.injEq, exists_eq_left', pure, Except.pure]
      · rw [if_neg short] at read
        simp only [read, short, false_and, reduceCtorEq, exists_false]
    simp only [first, inductionHypothesis]
    constructor
    · rintro ⟨next, ⟨short, rfl⟩, rest, rfl⟩
      exact ⟨⟨short, rest⟩, rfl⟩
    · rintro ⟨⟨short, rest⟩, rfl⟩
      exact ⟨_, ⟨short, rfl⟩, rest, rfl⟩

theorem fromRedisValue_reply_eq_ok (lib : RedisLib) (entries : List Entry) (result : StreamMessageByStreamKey) :
    StreamMessageByStreamKey.fromRedisValue lib (reply streamKey entries) = .ok result ↔
      (∀ entry ∈ entries, entry.id.seq.toNat < 2 ^ 16) ∧ pushEntries ∅ streamKey entries = result := by
  rw [reply]
  by_cases empty : entries = []
  · subst empty
    simp [StreamMessageByStreamKey.fromRedisValue, pushEntries]
  · rw [if_neg empty, ← foldlM_pushValue_eq_ok ∅ streamKey lib]
    have key : redisStringFromRedisValue lib (.data (utf8 streamKey)) = .ok streamKey := by
      rw [redisStringFromRedisValue, ofUtf8_utf8]
    have stream : pushStream lib ∅ (.bulk [.data (utf8 streamKey), .bulk (entries.map Entry.value)]) =
        (entries.map Entry.value).foldlM (pushValue lib streamKey) ∅ := by
      simp only [pushStream, bulkFromRedisValue, bind, Except.bind, key]
    have streams : ∀ values, StreamMessageByStreamKey.fromRedisValue lib (.bulk values) =
        values.foldlM (pushStream lib) ∅ := fun _ => rfl
    rw [streams, List.foldlM_cons, stream, bind_eq_ok]
    simp [pure, Except.pure]

theorem shows_streamMessage_iff (entry : Entry) :
    entry.streamMessage.Shows entry ↔ entry.id.seq.toNat < 2 ^ 16 := by
  constructor
  · intro shows
    have same := shows.sequenceNumber
    rw [← same]
    exact UInt16.toNat_lt _
  · intro short
    exact ⟨rfl, rfl, rfl, Nat.mod_eq_of_lt short⟩

/-- The entries of a stream are read exactly if the second number of each id fits in sixteen
    bits. -/
theorem entries_read_iff (lib : RedisLib) (streamKey : String) (entries : List Entry) :
    Yields streamKey entries (StreamMessageByStreamKey.fromRedisValue lib (reply streamKey entries)) ↔
      ∀ entry ∈ entries, entry.id.seq.toNat < 2 ^ 16 := by
  constructor
  · rintro ⟨map, read, -⟩
    exact ((fromRedisValue_reply_eq_ok streamKey lib entries map).mp read).1
  · intro short
    refine ⟨pushEntries ∅ streamKey entries, (fromRedisValue_reply_eq_ok _ _ _ _).mpr ⟨short, rfl⟩, ?_, ?_⟩
    · have nothing : (∅ : StreamMessageByStreamKey).messages streamKey = [] := rfl
      rw [messages_pushEntries, nothing, List.nil_append, List.forall₂_map_left_iff, List.forall₂_same]
      exact fun entry member => (shows_streamMessage_iff entry).mpr (short entry member)
    · intro other differs
      rw [messages_pushEntries_other _ _ _ differs]
      rfl

/-- Two messages of a busy millisecond, the second of which has the number 65536. -/
def busyEntries : List Entry := [⟨⟨1631020452097, 65535⟩, 7, [1]⟩, ⟨⟨1631020452097, 65536⟩, 7, [2]⟩]

def EntryId.lt (first second : EntryId) : Prop :=
  first.ms < second.ms ∨ first.ms = second.ms ∧ first.seq < second.seq

def stringOfData : RedisValue → Except RedisError String
  | .data bytes =>
    match ofUtf8 bytes with
    | some text => .ok text
    | none => .error ⟨"Invalid UTF-8", ""⟩
  | _ => .error ⟨"Response was of incompatible type", "Response type not string compatible."⟩

def bytesOfData : RedisValue → Except RedisError Bytes
  | .data bytes => .ok bytes
  | _ => .error ⟨"Response was of incompatible type", "Response type not vector compatible."⟩

def dataLib : RedisLib where
  string := stringOfData
  bytes := bytesOfData
  invalidUtf8 := ⟨"Invalid UTF-8", ""⟩
  string_data := by
    intro text
    rw [stringOfData, ofUtf8_utf8]
  bytes_data _ := rfl

/-- The second message of the busy millisecond takes the first one with it. -/
theorem entries_unread :
    ¬ ∀ (lib : RedisLib) (streamKey : String) (entries : List Entry), (entries.map Entry.id).Pairwise EntryId.lt →
      Yields streamKey entries (StreamMessageByStreamKey.fromRedisValue lib (reply streamKey entries)) := by
  intro read
  obtain ⟨map, yielded, -⟩ := read dataLib "af_collab-w-o" busyEntries (by simp [busyEntries, EntryId.lt])
  have short := ((fromRedisValue_reply_eq_ok _ _ _ _).mp yielded).1
  exact absurd (short ⟨⟨1631020452097, 65536⟩, 7, [2]⟩ (by simp [busyEntries])) (by decide)

end FlowCloud.Stream
