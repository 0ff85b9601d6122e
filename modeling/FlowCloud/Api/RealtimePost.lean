import FlowCloud.Entity.Serde
import FlowCloud.Foundation.Decimal
import FlowCloud.Foundation.Results

/-! # Realtime messages over HTTP

A packet that is too long for the websocket is compressed, put in a protobuf message and sent
as the body of a request.  The handler puts the chunks of the body together, undoes both
encodings and hands the packet to the realtime server, as the websocket does with a frame.
-/

namespace FlowCloud.Api

open FlowCloud.Foundation FlowCloud.Entity

/-! ## Headers -/

/-- The text of a header, or why it has none. -/
abbrev HeaderValue := Except String String

abbrev HeaderMap := List (String × HeaderValue)

def xCompressionType : String := "X-Compression-Type"

def xCompressionBufferSize : String := "X-Compression-Buffer-Size"

inductive CompressionType where
  | brotli (bufferSize : Nat)
  deriving DecidableEq, Repr

/-- The digit at which `usize::from_str` gives up decides on the text. -/
def parseIntError (bound : Nat) : Nat → List Char → String
  | _, [] => "cannot parse integer from empty string"
  | value, char :: chars =>
    if char.isDigit then
      let next := value * 10 + (char.toNat - '0'.toNat)
      if next < bound then parseIntError bound next chars else "number too large to fit in target type"
    else "invalid digit found in string"

def usizeFromStr (text : String) : Except String Nat :=
  match parseUnsigned (2 ^ 64) text.toList with
  | some value => .ok value
  | none =>
    match text.toList with
    | ['+'] => .error "invalid digit found in string"
    | '+' :: digits => .error (parseIntError (2 ^ 64) 0 digits)
    | digits => .error (parseIntError (2 ^ 64) 0 digits)

/-- The text of a header that has to be there. -/
def HeaderMap.text (headers : HeaderMap) (name : String) : Except AppError String :=
  match headers.lookup name with
  | none => .error (.invalidRequest ("Missing " ++ name ++ " header"))
  | some value => value.mapError fun err => .invalidRequest ("Failed to parse " ++ name ++ ": " ++ err)

def compressTypeFromHeaderValue (headers : HeaderMap) : Except AppError CompressionType := do
  let compressionTypeStr ← headers.text xCompressionType
  let bufferSizeStr ← headers.text xCompressionBufferSize
  let bufferSize ← (usizeFromStr bufferSizeStr).mapError fun err =>
    .invalidRequest ("X-Compression-Buffer-Size is not a valid usize: " ++ err)
  if compressionTypeStr = "brotli" then return .brotli bufferSize
  else throw (.invalidRequest ("Unknown compression type: " ++ compressionTypeStr))

def deviceIdFromHeaders (headers : HeaderMap) : Except AppError String :=
  match headers.lookup "device_id" with
  | none => .error (.invalidRequest "Missing device_id header")
  | some value => value.mapError fun err => .invalidRequest ("failed to parse device_id: " ++ err)

/-! ## Packets in requests -/

structure HttpRealtimeMessage where
  deviceId : String
  payload : Bytes
  deriving DecidableEq, Repr

/-- `prost` and `brotli`, and the texts of the errors of a packet. -/
structure PostLib where
  encodeToVec : HttpRealtimeMessage → Bytes
  decode : Bytes → Except String HttpRealtimeMessage
  /-- With the quality and the size of the buffer. -/
  compress : Bytes → Nat → Nat → Except AppError Bytes
  decompress : Bytes → Nat → Except AppError Bytes
  readErrorText : ReadError → String
  decode_encodeToVec : ∀ message, decode (encodeToVec message) = .ok message
  decompress_compress : ∀ data quality bufferSize compressed, compress data quality bufferSize = .ok compressed →
    ∀ readerSize, decompress compressed readerSize = .ok data

/-- An item of the payload of a request is a chunk or an error. -/
abbrev PayloadStream := List (Except String Bytes)

/-- An error of the handler: one of the application, or one of the payload. -/
inductive HandlerError where
  | app (error : AppError)
  | payload (text : String)

/-- What the realtime server is handed. -/
structure ClientStreamMessage where
  uid : Int
  deviceId : String
  message : RealtimeMessage

namespace PostLib

variable (lib : PostLib)

/-- The body of the request of `post_realtime_msg`. -/
def postRealtimeMsg (compressionBufferSize : Nat) (deviceId : String) (data : Bytes) : Except AppError Bytes := do
  let payload ← lib.compress data 6 compressionBufferSize
  return lib.encodeToVec ⟨deviceId, payload⟩

def parserRealtimeMsg (serde : CollabSerde) (payload : Bytes) (headers : HeaderMap) :
    Except AppError RealtimeMessage := do
  let message ← (lib.decode payload).mapError .internal
  let bytes ← match headers.lookup xCompressionType with
    | none => .ok message.payload
    | some _ => do
      let .brotli bufferSize ← compressTypeFromHeaderValue headers
      lib.decompress message.payload bufferSize
  (RealtimeMessage.decode serde bytes).mapError fun err =>
    .invalidRequest ("Failed to parse RealtimeMessage: " ++ lib.readErrorText err)

/-- The loop over the payload ends with its first error. -/
def readPayload : PayloadStream → Except HandlerError Bytes
  | [] => .ok []
  | item :: payload => do
    let chunk ← item.mapError .payload
    let bytes ← readPayload payload
    return chunk ++ bytes

def maxRetries : Nat := 3

/-- The loop that tries to put the message into the mailbox; the result of a try is known by
    its number. -/
def sendRetrying (trySend : Nat → Except String Unit) (attempts : Nat) : Nat → Except AppError Unit
  | 0 => .error (.internal "Failed to send message to websocket server")
  | remaining + 1 =>
    match trySend attempts with
    | .ok () => .ok ()
    | .error err =>
      if attempts < maxRetries - 1 then sendRetrying trySend (attempts + 1) remaining
      else .error (.internal ("Failed to send client stream message to websocket server after " ++
        toString (attempts + 1) ++ " attempts: " ++ err))

/-- The message that the handler puts into the mailbox, if it gets that far. -/
def clientStreamMessage (serde : CollabSerde) (uid : Except AppError Int) (headers : HeaderMap) (payload : PayloadStream) :
    Except HandlerError ClientStreamMessage := do
  let deviceId := (deviceIdFromHeaders headers).toOption.getD ""
  let uid ← uid.mapError .app
  let bytes ← readPayload payload
  let message ← (lib.parserRealtimeMsg serde bytes headers).mapError .app
  return ⟨uid, deviceId, message⟩

/-- `post_realtime_message_stream_handler`: its answer, and what has entered the mailbox. -/
def postRealtimeMessageStreamHandler (serde : CollabSerde) (uid : Except AppError Int) (headers : HeaderMap)
    (payload : PayloadStream) (trySend : Nat → Except String Unit) :
    Except HandlerError Unit × Option ClientStreamMessage :=
  match lib.clientStreamMessage serde uid headers payload with
  | .error error => (.error error, none)
  | .ok message =>
    match sendRetrying trySend 0 maxRetries with
    | .ok () => (.ok (), some message)
    | .error error => (.error (.app error), none)

/-! ## What was posted is read -/

variable {lib}

theorem readPayload_chunks (chunks : List Bytes) : readPayload (chunks.map .ok) = .ok chunks.flatten := by
  induction chunks with
  | nil => rfl
  | cons chunk chunks inductionHypothesis =>
    rw [List.map_cons, readPayload, inductionHypothesis]
    rfl

/-- The two encodings come off, and what is left is a frame's bytes. -/
theorem parserRealtimeMsg_postRealtimeMsg (serde : CollabSerde) {compressionBufferSize : Nat} {deviceId : String}
    {data body : Bytes} (posted : lib.postRealtimeMsg compressionBufferSize deviceId data = .ok body)
    {headers : HeaderMap} {bufferSize : Nat} (compressed : compressTypeFromHeaderValue headers = .ok (.brotli bufferSize)) :
    lib.parserRealtimeMsg serde body headers =
      (RealtimeMessage.decode serde data).mapError fun err =>
        .invalidRequest ("Failed to parse RealtimeMessage: " ++ lib.readErrorText err) := by
  obtain ⟨payload, packed, encoded⟩ := bind_eq_ok.mp posted
  cases encoded
  have decompressed := lib.decompress_compress _ _ _ _ packed bufferSize
  have named : ∃ value, headers.lookup xCompressionType = some value := by
    cases there : headers.lookup xCompressionType with
    | some value => exact ⟨value, rfl⟩
    | none =>
      rw [compressTypeFromHeaderValue, HeaderMap.text, there] at compressed
      cases compressed
  obtain ⟨value, named⟩ := named
  simp only [parserRealtimeMsg, lib.decode_encodeToVec, named, compressed, decompressed, Except.mapError, bind,
    Except.bind]

/-- An answer without an error means that the message has entered the mailbox. -/
theorem entered_iff_answered (serde : CollabSerde) (uid : Except AppError Int) (headers : HeaderMap) (payload : PayloadStream)
    (trySend : Nat → Except String Unit) :
    let (answer, entered) := lib.postRealtimeMessageStreamHandler serde uid headers payload trySend
    entered.isSome = true ↔ answer.isOk = true := by
  simp only [postRealtimeMessageStreamHandler]
  split
  · simp [Except.isOk, Except.toBool]
  · split <;> simp [Except.isOk, Except.toBool]

/-- What enters the mailbox has the id that the user cache has for the sender. -/
theorem uid_of_entered {serde : CollabSerde} {uid : Except AppError Int} {headers : HeaderMap} {payload : PayloadStream}
    {trySend : Nat → Except String Unit} {message : ClientStreamMessage}
    (entered : (lib.postRealtimeMessageStreamHandler serde uid headers payload trySend).2 = some message) :
    uid = .ok message.uid := by
  simp only [postRealtimeMessageStreamHandler] at entered
  split at entered
  · cases entered
  · rename_i built
    simp only [clientStreamMessage, bind_eq_ok] at built
    obtain ⟨known, same, _, _, _, _, built⟩ := built
    cases built
    split at entered
    · cases entered
      cases uid with
      | ok => exact congrArg Except.ok (Except.ok.inj same)
      | error => cases same
    · cases entered

end PostLib

end FlowCloud.Api
