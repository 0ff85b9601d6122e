import FlowCloud.Api.RealtimePost
import FlowCloud.Foundation.Threads
import FlowCloud.Storage.Bucket

/-! # Files over HTTP

A put reads its whole body before it calls the storage.  A get reads the row of the file, and
the bucket only later: in between the file may have been put again or deleted.  What a bucket
answers with an error goes to the client as a response like any other.
-/

namespace FlowCloud.Api

open FlowCloud.Foundation FlowCloud.Entity FlowCloud.Storage

/-! ## The body of a put -/

inductive IoError where
  | unexpectedEof
  | other (text : String)
  deriving DecidableEq, Repr

inductive PutBlobError where
  | io (error : IoError)
  | payloadTooLarge (message : String)
  | internal (text : String)
  deriving DecidableEq, Repr

/-- `read_exact` on a `StreamReader` that still has a part of a chunk.  What is left is the rest of
    the last chunk and the payload behind it. -/
def readExact (count : Nat) (chunk : Bytes) (payload : PayloadStream) :
    Except IoError (Bytes × Bytes × PayloadStream) :=
  if count ≤ chunk.length then .ok (chunk.take count, chunk.drop count, payload)
  else
    match payload with
    | [] => .error .unexpectedEof
    | .error err :: _ => .error (.other err)
    | .ok next :: payload => do
      let (bytes, rest) ← readExact (count - chunk.length) next payload
      return (chunk ++ bytes, rest)

/-- The first part of `put_blob_handler`. -/
def readContent (contentLength : Nat) (payload : PayloadStream) : Except PutBlobError Bytes :=
  match readExact contentLength [] payload with
  | .error err => .error (.io err)
  | .ok (content, chunk, payload) =>
    match readExact 1 chunk payload with
    | .ok _ => .error (.payloadTooLarge "Content length is {}, but the actual content is larger")
    | .error .unexpectedEof => .ok content
    | .error (.other err) => .error (.internal err)

structure HttpResponse where
  status : Nat
  headers : List (String × String)
  body : Bytes
  deriving DecidableEq, Repr

structure AppResponseError where
  code : Nat
  message : String
  deriving DecidableEq, Repr

/-- `ErrorCode::S3Error`. -/
def s3Error : Nat := 1014

/-- `chrono`, `serde_json`, `mime` and texts of other libraries. -/
structure FileLib where
  toRfc2822 : Int → String
  parseFromRfc2822 : String → Option Int
  json : AppResponseError → Bytes
  /-- The body of the response to a header that cannot be sent. -/
  invalidHeader : Bytes
  /-- What the bucket says about a key without an object. -/
  noSuchKey : String → String
  parseMime : String → Option String
  statusText : Nat → String
  text : Bytes → String

def isHeaderValue (text : String) : Bool :=
  text.toByteArray.data.toList.all fun byte => (32 ≤ byte && byte ≠ 127) || byte = 9

inductive GetBlobError where
  | recordNotFound (message : String)
  | unhandled (message : String)
  deriving DecidableEq, Repr

namespace FileLib

variable (lib : FileLib)

/-- An error is answered with the status of a success. -/
def errorResponse (error : AppResponseError) : HttpResponse :=
  ⟨200, [("content-type", "application/json")], lib.json error⟩

def blobResponse (file : File) (row : AFBlobMetadataRow) (modifiedAt : Int) (blob : Bytes) : HttpResponse :=
  let headers :=
    [("etag", file.fileId), ("content-type", row.fileType), ("last-modified", lib.toRfc2822 modifiedAt),
      ("content-length", toString blob.length), ("cache-control", "public, immutable, max-age=31536000")]
  if headers.all fun header => isHeaderValue header.2 then ⟨200, headers, blob⟩
  else ⟨500, [], lib.invalidHeader⟩

/-- The client's `get_blob`, with the media type of the blob. -/
def getBlob (url : String) (response : HttpResponse) : Except GetBlobError (String × Bytes) :=
  if response.status = 200 then
    .ok (((response.headers.lookup "content-type").bind lib.parseMime).getD "text/plain", response.body)
  else if response.status = 404 then .error (.recordNotFound url)
  else
    .error (.unhandled ("status code: " ++ lib.statusText response.status ++ ", message: " ++ lib.text response.body))

end FileLib

/-! ## The service -/

inductive DownloadPhase where
  | asksForRow (ifModifiedSince : Option String)
  | readsBucket (row : AFBlobMetadataRow) (modifiedAt : Int)
  | answered (response : HttpResponse)

/-- A `get_blob_handler` and how far it is. -/
structure Download where
  file : File
  phase : DownloadPhase

structure FileService where
  storage : BucketStorage
  downloads : List Download

inductive FileEvent where
  | put (task : Nat) (file : File) (contentType : String) (contentLength : Nat) (payload : PayloadStream)
  | delete (task : Nat) (file : File)
  /-- A put or a delete goes on. -/
  | advance (task : Nat) (outcome : Outcome)
  | drop (task : Nat)
  | get (file : File) (ifModifiedSince : Option String)
  /-- The query for the row fails, or the row has been modified at that time. -/
  | lookUp (download : Nat) (modifiedAt : Option Int)
  /-- The bucket is asked for the object. -/
  | fetch (download : Nat) (failure : Option String)

/-- What the handler does about the row. -/
def FileLib.afterMetadata (lib : FileLib) (row : Option AFBlobMetadataRow) (ifModifiedSince : Option String) :
    Option Int → DownloadPhase
  | none => .answered ⟨500, [], []⟩
  | some modifiedAt =>
    match row with
    | none => .answered ⟨404, [], []⟩
    | some row =>
      if (ifModifiedSince.bind lib.parseFromRfc2822).any fun since => modifiedAt ≤ since then .answered ⟨304, [], []⟩
      else .readsBucket row modifiedAt

def FileLib.getObject (lib : FileLib) (storage : BucketStorage) (file : File) : Option String → Except String Bytes
  | some failure => .error failure
  | none =>
    match storage.bucket file.objKey with
    | some blob => .ok blob
    | none => .error (lib.noSuchKey file.objKey)

namespace FileService

def start (bucket : String → Option Bytes) : FileService := ⟨.start bucket, []⟩

variable (lib : FileLib) (self : FileService)

def lookUp (number : Nat) (modifiedAt : Option Int) : FileService :=
  match self.downloads[number]? with
  | some ⟨file, .asksForRow ifModifiedSince⟩ =>
    let phase := lib.afterMetadata (self.storage.row file) ifModifiedSince modifiedAt
    { self with downloads := self.downloads.set number ⟨file, phase⟩ }
  | _ => self

def fetch (number : Nat) (failure : Option String) : FileService :=
  match self.downloads[number]? with
  | some ⟨file, .readsBucket row modifiedAt⟩ =>
    let response :=
      match lib.getObject self.storage file failure with
      | .ok blob => lib.blobResponse file row modifiedAt blob
      | .error message => lib.errorResponse ⟨s3Error, message⟩
    { self with downloads := self.downloads.set number ⟨file, .answered response⟩ }
  | _ => self

def step (lib : FileLib) (self : FileService) : FileEvent → FileService
  | .put task file contentType contentLength payload =>
    match readContent contentLength payload with
    | .ok content => { self with storage := self.storage.step (.call task file (.putBlob content contentType)) }
    | .error _ => self
  | .delete task file => { self with storage := self.storage.step (.call task file .deleteBlob) }
  | .advance task outcome => { self with storage := self.storage.step (.advance task outcome) }
  | .drop task => { self with storage := self.storage.step (.drop task) }
  | .get file ifModifiedSince => { self with downloads := self.downloads ++ [⟨file, .asksForRow ifModifiedSince⟩] }
  | .lookUp number modifiedAt => self.lookUp lib number modifiedAt
  | .fetch number failure => self.fetch lib number failure

end FileService

/-! ## What a call changes -/

/-- A call has gone on: the bucket gets its object or stays, and its row is listed at its commit at
    the earliest. -/
structure CallMoves (before after : BucketStorage) (running : RunningCall) : Prop where
  calls : ∀ other call, after.calls other = some call →
    before.calls other = some call ∨ call.file = running.file ∧ call.call = running.call
  bucket : after.bucket = before.bucket ∨
    after.bucket = Function.update before.bucket running.file.objKey running.call.object
  row : ∀ file, after.row file = before.row file ∨
    running.phase = .commits ∧ file = running.file ∧ after.row file = running.call.row

section Moves

variable {storage : BucketStorage} {task : Nat} {running : RunningCall} {exposed : File → Bool}

theorem calls_leave {other : Nat} {call : RunningCall} (runs : (storage.leave task).calls other = some call) :
    storage.calls other = some call := by
  rw [BucketStorage.leave_calls] at runs
  by_cases own : other = task
  · rw [own, Function.update_self] at runs
    cases runs
  · rwa [Function.update_of_ne own] at runs

theorem callMoves_leave : CallMoves storage (storage.leave task) running where
  calls _ _ runs := .inl (calls_leave runs)
  bucket := .inl rfl
  row _ := .inl rfl

theorem callMoves_goOn {after : BucketStorage} {phase : Phase}
    (calls : after.calls = Function.update storage.calls task (some { running with phase }))
    (bucket : after.bucket = storage.bucket ∨
      after.bucket = Function.update storage.bucket running.file.objKey running.call.object)
    (row : after.row = storage.row) : CallMoves storage after running where
  calls := by
    intro other call runs
    rw [calls] at runs
    by_cases own : other = task
    · rw [own, Function.update_self] at runs
      cases runs
      exact .inr ⟨rfl, rfl⟩
    · rw [Function.update_of_ne own] at runs
      exact .inl runs
  bucket := bucket
  row file := .inl (congrFun row file)

theorem callMoves_advance (sound : storage.Sound exposed) (runs : storage.calls task = some running)
    (outcome : Outcome) : CallMoves storage (storage.advance task running outcome) running := by
  rw [BucketStorage.advance]
  cases phase : running.phase with
  | asksForRow =>
    cases outcome with
    | done =>
      simp only [BucketStorage.isBlobMetadataExists]
      split
      · exact callMoves_leave
      · exact callMoves_goOn rfl (.inl rfl) rfl
    | failed | unconfirmed => exact callMoves_leave
  | begins =>
    cases outcome with
    | done => exact callMoves_goOn rfl (.inl rfl) rfl
    | failed | unconfirmed => exact callMoves_leave
  | executes =>
    cases outcome with
    | done =>
      simp only [BucketStorage.execute]
      split
      · exact callMoves_leave
      · split
        · exact callMoves_goOn rfl (.inl rfl) rfl
        · exact ⟨fun _ _ runs => .inl runs, .inl rfl, fun _ => .inl rfl⟩
    | failed | unconfirmed => exact callMoves_leave
  | callsBucket =>
    cases outcome with
    | done => exact callMoves_goOn rfl (.inr rfl) rfl
    | failed => exact callMoves_leave
    | unconfirmed => exact ⟨fun _ _ runs => .inl (calls_leave runs), .inr rfl, fun _ => .inl rfl⟩
  | commits =>
    have holds : running.holdsRow = true := by simp [RunningCall.holdsRow, phase]
    have committed : CallMoves storage { storage with
        table := storage.table.commit task, calls := Function.update storage.calls task none } running := by
      refine ⟨fun _ _ runs => .inl (calls_leave runs), .inl rfl, fun file => ?_⟩
      have listed := sound.locked.row_commit runs holds file
      by_cases own : file = running.file
      · rw [if_pos own] at listed
        exact .inr ⟨phase, own, listed⟩
      · rw [if_neg own] at listed
        exact .inl listed
    cases outcome with
    | failed => exact callMoves_leave
    | done | unconfirmed => exact committed

end Moves

/-! ## Where blobs come from -/

/-- The handler of the put is answered with success in this step. -/
def FileService.succeeds (self : FileService) : FileEvent → Option File
  | .advance task .done =>
    match self.storage.calls task with
    | some ⟨file, .putBlob _ _, .asksForRow⟩ => if (self.storage.row file).isSome then some file else none
    | some ⟨file, .putBlob _ _, .commits⟩ => some file
    | _ => none
  | _ => none

section Genuine

variable {Put : File → Bytes → String → Prop} {storage : BucketStorage} {lib : FileLib} {service : FileService}

/-- The bucket has nothing for the file, or what was put. -/
def Known (Put : File → Bytes → String → Prop) (storage : BucketStorage) (file : File) : Prop :=
  ∀ blob, storage.bucket file.objKey = some blob → ∃ contentType, Put file blob contentType

def Asked (Put : File → Bytes → String → Prop) (running : RunningCall) : Prop :=
  ∀ content contentType, running.call = .putBlob content contentType → Put running.file content contentType

structure Traced (Put : File → Bytes → String → Prop) (storage : BucketStorage) : Prop where
  calls : ∀ task running, storage.calls task = some running → Asked Put running
  listed : ∀ file row, storage.row file = some row → Put file row.fileData row.fileType ∧ Known Put storage file

/-- The client gets a blob and a media type that were put for the file, or an error of the bucket. -/
def FileLib.Genuine (lib : FileLib) (Put : File → Bytes → String → Prop) (file : File) (response : HttpResponse) :
    Prop :=
  ∀ url mime blob, lib.getBlob url response = .ok (mime, blob) →
    ((∃ contentType, Put file blob contentType) ∧
      ∃ content contentType, Put file content contentType ∧ mime = (lib.parseMime contentType).getD "text/plain") ∨
    ∃ message, response = lib.errorResponse ⟨s3Error, message⟩

def Download.Genuine (lib : FileLib) (Put : File → Bytes → String → Prop) (storage : BucketStorage)
    (download : Download) : Prop :=
  match download.phase with
  | .asksForRow _ => True
  | .readsBucket row _ => Put download.file row.fileData row.fileType ∧ Known Put storage download.file
  | .answered response => lib.Genuine Put download.file response

structure FileService.Genuine (lib : FileLib) (Put : File → Bytes → String → Prop) (service : FileService) : Prop where
  sound : ∃ exposed, service.storage.Sound exposed
  traced : Traced Put service.storage
  downloads : ∀ download ∈ service.downloads, download.Genuine lib Put service.storage

theorem asked_object {running : RunningCall} (asked : Asked Put running) {blob : Bytes}
    (stores : running.call.object = some blob) : ∃ contentType, Put running.file blob contentType := by
  cases call : running.call with
  | deleteBlob =>
    rw [call] at stores
    cases stores
  | putBlob content contentType =>
    rw [call] at stores
    cases stores
    exact ⟨contentType, asked _ contentType call⟩

theorem Known.moves {file : File} {after : BucketStorage} {running : RunningCall} (known : Known Put storage file)
    (asked : Asked Put running) (moves : CallMoves storage after running) : Known Put after file := by
  intro blob there
  cases moves.bucket with
  | inl same =>
    rw [same] at there
    exact known blob there
  | inr stored =>
    rw [stored] at there
    by_cases own : file = running.file
    · subst own
      rw [Function.update_self] at there
      exact asked_object asked there
    · rw [Function.update_of_ne fun same => own (File.objKey_injective same)] at there
      exact known blob there

/-- What a call has stored before its commit is known. -/
theorem known_of_commits {exposed : File → Bool} {task : Nat} {running : RunningCall}
    (sound : storage.Sound exposed) (runs : storage.calls task = some running) (phase : running.phase = .commits)
    (asked : Asked Put running) : Known Put storage running.file := by
  intro blob there
  rw [sound.stored task running runs phase] at there
  exact asked_object asked there

theorem Traced.moves {exposed : File → Bool} {task : Nat} {running : RunningCall} {after : BucketStorage}
    (traced : Traced Put storage) (sound : storage.Sound exposed) (runs : storage.calls task = some running)
    (moves : CallMoves storage after running) : Traced Put after := by
  have asked := traced.calls task running runs
  refine ⟨?_, ?_⟩
  · intro other call there
    rcases moves.calls other call there with before | ⟨file, same⟩
    · exact traced.calls other call before
    · rw [Asked, file, same]
      exact asked
  · intro file row listed
    rcases moves.row file with same | ⟨phase, rfl, same⟩
    · rw [same] at listed
      have before := traced.listed file row listed
      exact ⟨before.1, before.2.moves asked moves⟩
    · have known := known_of_commits sound runs phase asked
      refine ⟨?_, known.moves asked moves⟩
      rw [same] at listed
      cases call : running.call with
      | deleteBlob =>
        rw [call] at listed
        cases listed
      | putBlob content contentType =>
        rw [call] at listed
        cases listed
        exact asked content contentType call

/-- The storage takes a step in which a call at most moves. -/
theorem FileService.Genuine.moves {task : Nat} {running : RunningCall} {after : BucketStorage}
    (genuine : service.Genuine lib Put) (runs : service.storage.calls task = some running)
    (moves : CallMoves service.storage after running) (sound : ∃ exposed, after.Sound exposed) :
    ({ service with storage := after } : FileService).Genuine lib Put := by
  obtain ⟨exposed, before⟩ := genuine.sound
  refine ⟨sound, genuine.traced.moves before runs moves, ?_⟩
  intro download member
  have was := genuine.downloads download member
  unfold Download.Genuine at was ⊢
  cases phase : download.phase with
  | asksForRow => trivial
  | answered response =>
    rw [phase] at was
    exact was
  | readsBucket row modifiedAt =>
    rw [phase] at was
    exact ⟨was.1, was.2.moves (genuine.traced.calls task running runs) moves⟩

theorem FileService.Genuine.advance (genuine : service.Genuine lib Put) (task : Nat) (outcome : Outcome) :
    (service.step lib (.advance task outcome)).Genuine lib Put := by
  obtain ⟨exposed, sound⟩ := genuine.sound
  have stays : ∃ exposed, (service.storage.step (.advance task outcome)).Sound exposed := ⟨_, sound.step _⟩
  cases runs : service.storage.calls task with
  | none =>
    simp only [FileService.step, BucketStorage.step, runs]
    exact genuine
  | some running =>
    simp only [FileService.step, BucketStorage.step, runs] at stays ⊢
    exact genuine.moves runs (callMoves_advance sound runs outcome) stays

theorem FileService.Genuine.drop (genuine : service.Genuine lib Put) (task : Nat) :
    (service.step lib (.drop task)).Genuine lib Put := by
  obtain ⟨exposed, sound⟩ := genuine.sound
  refine ⟨⟨exposed, sound.leave task⟩, ⟨?_, genuine.traced.listed⟩, genuine.downloads⟩
  intro other running runs
  exact genuine.traced.calls other running (calls_leave runs)

/-- A new call changes neither rows nor objects. -/
theorem FileService.Genuine.call (genuine : service.Genuine lib Put) (task : Nat) (file : File) (call : BlobCall)
    (asked : ∀ content contentType, call = .putBlob content contentType → Put file content contentType) :
    ({ service with storage := service.storage.step (.call task file call) } : FileService).Genuine lib Put := by
  obtain ⟨exposed, sound⟩ := genuine.sound
  have stays := sound.step (.call task file call)
  simp only [BucketStorage.step] at stays ⊢
  split at stays
  · rename_i idle
    rw [if_pos idle]
    have calls : ∀ other running, (service.storage.call task file call).calls other = some running →
        Asked Put running := by
      intro other running runs
      cases call with
      | putBlob | deleteBlob =>
        simp only [BucketStorage.call, BucketStorage.setCall_calls] at runs
        by_cases own : other = task
        · rw [own, Function.update_self] at runs
          cases runs
          exact asked
        · rw [Function.update_of_ne own] at runs
          exact genuine.traced.calls other running runs
    cases call with
    | putBlob | deleteBlob => exact ⟨⟨_, stays⟩, ⟨calls, genuine.traced.listed⟩, genuine.downloads⟩
  · rename_i busy
    rw [if_neg busy]
    exact genuine

theorem FileService.Genuine.lookUp (genuine : service.Genuine lib Put) (number : Nat) (modifiedAt : Option Int) :
    (service.lookUp lib number modifiedAt).Genuine lib Put := by
  unfold FileService.lookUp
  split
  · refine ⟨genuine.sound, genuine.traced, forall_mem_set genuine.downloads number ?_⟩
    rename_i file ifModifiedSince found
    -- no answer of this step has a blob
    have refused : ∀ status, status ≠ 200 → lib.Genuine Put file ⟨status, [], []⟩ := by
      intro status other url mime blob got
      rw [FileLib.getBlob, if_neg other] at got
      split at got
      · cases got
      · cases got
    cases modifiedAt with
    | none => exact refused 500 (by decide)
    | some modifiedAt =>
      cases listed : service.storage.row file with
      | none => exact refused 404 (by decide)
      | some row =>
        simp only [FileLib.afterMetadata]
        split
        · exact refused 304 (by decide)
        · exact genuine.traced.listed file row listed
  · exact genuine

/-- The answer of a download that has read its row. -/
theorem genuine_blobResponse {file : File} {row : AFBlobMetadataRow} (modifiedAt : Int) {blob : Bytes}
    (put : ∃ contentType, Put file blob contentType) (listed : Put file row.fileData row.fileType) :
    lib.Genuine Put file (lib.blobResponse file row modifiedAt blob) := by
  intro url mime got there
  simp only [FileLib.blobResponse] at there
  split at there
  · cases there
    exact .inl ⟨put, row.fileData, row.fileType, listed, rfl⟩
  · cases there

theorem FileService.Genuine.fetch (genuine : service.Genuine lib Put) (number : Nat) (failure : Option String) :
    (service.fetch lib number failure).Genuine lib Put := by
  unfold FileService.fetch
  split
  · refine ⟨genuine.sound, genuine.traced, forall_mem_set genuine.downloads number ?_⟩
    rename_i file row modifiedAt found
    obtain ⟨put, known⟩ := genuine.downloads _ (List.mem_of_getElem? found)
    have failed : ∀ message, lib.Genuine Put file (lib.errorResponse ⟨s3Error, message⟩) :=
      fun message _ _ _ _ => .inr ⟨message, rfl⟩
    cases failure with
    | some message => exact failed message
    | none =>
      show lib.Genuine Put file _
      simp only [FileLib.getObject]
      cases there : service.storage.bucket file.objKey with
      | none => exact failed _
      | some blob => exact genuine_blobResponse modifiedAt (known blob there) put
  · exact genuine

theorem FileService.Genuine.step (genuine : service.Genuine lib Put) {event : FileEvent}
    (asked : ∀ task file contentType contentLength payload content,
      event = .put task file contentType contentLength payload → readContent contentLength payload = .ok content →
        Put file content contentType) : (service.step lib event).Genuine lib Put := by
  cases event with
  | put task file contentType contentLength payload =>
    simp only [FileService.step]
    split
    · rename_i content read
      refine genuine.call task file _ ?_
      intro _ _ same
      cases same
      exact asked task file contentType contentLength payload content rfl read
    · exact genuine
  | delete task file => exact genuine.call task file .deleteBlob (by simp)
  | advance task outcome => exact genuine.advance task outcome
  | drop task => exact genuine.drop task
  | get file ifModifiedSince =>
    refine ⟨genuine.sound, genuine.traced, List.forall_mem_append.mpr ⟨genuine.downloads, ?_⟩⟩
    exact List.forall_mem_singleton.mpr trivial
  | lookUp number modifiedAt => exact genuine.lookUp number modifiedAt
  | fetch number failure => exact genuine.fetch number failure

/-- A put that is answered with success finds its file listed, or lists it. -/
theorem FileService.Genuine.succeeds (genuine : service.Genuine lib Put) {event : FileEvent} {file : File}
    (success : service.succeeds event = some file) : ((service.step lib event).storage.row file).isSome = true := by
  unfold FileService.succeeds at success
  split at success
  · rename_i task
    split at success
    · rename_i other content contentType runs
      split at success
      · rename_i listed
        cases success
        simp only [FileService.step, BucketStorage.step, runs, BucketStorage.advance,
          BucketStorage.isBlobMetadataExists, listed, if_true]
        exact listed
      · cases success
    · rename_i other content contentType runs
      cases success
      obtain ⟨exposed, sound⟩ := genuine.sound
      have committed := sound.locked.row_commit runs (by simp [RunningCall.holdsRow]) file
      rw [if_pos rfl] at committed
      simp only [FileService.step, BucketStorage.step, runs, BucketStorage.advance, BucketStorage.commit]
      rw [BucketStorage.row, committed]
      rfl
    · cases success
  · cases success

end Genuine

end FlowCloud.Api
