import FlowCloud.Foundation.Frames
import FlowCloud.Storage.Grants

/-! # Batch uploads

The client serialises and compresses the collabs of a batch one by one and sends them as one
body of frames.  The handler reads the frames from the chunks in which the body arrives and
writes the collabs in one transaction.
-/

namespace FlowCloud.Api

open FlowCloud.Foundation FlowCloud.Entity FlowCloud.Protocol FlowCloud.Storage

/-- `bincode` and `brotli`.  An error of `fromBytes` is its text, the other ones are already
    those of the application. -/
structure UploadLib where
  toBytes : CollabParams → Except AppError Bytes
  fromBytes : Bytes → Except String CollabParams
  /-- With the quality and the size of the buffer. -/
  compress : Bytes → Nat → Nat → Except AppError Bytes
  decompress : Bytes → Nat → Except AppError Bytes
  fromBytes_toBytes : ∀ params data, toBytes params = .ok data → fromBytes data = .ok params
  decompress_compress : ∀ data quality bufferSize compressed, compress data quality bufferSize = .ok compressed →
    ∀ readerSize, decompress compressed readerSize = .ok data

structure ClientConfiguration where
  compressionQuality : Nat
  compressionBufferSize : Nat
  deriving DecidableEq, Repr

namespace UploadLib

variable (lib : UploadLib)

/-! ## The client -/

def compressionTask (config : ClientConfiguration) (params : CollabParams) : Except AppError Bytes := do
  let data ← lib.toBytes params
  lib.compress data config.compressionQuality config.compressionBufferSize

def framedData (compressed : List Bytes) : Bytes := compressed.flatMap frame

/-- The body of the request of `create_collab_list`. -/
def createCollabList (config : ClientConfiguration) (paramsList : List CollabParams) : Except AppError Bytes := do
  let compressed ← paramsList.mapM (lib.compressionTask config)
  return framedData compressed

/-! ## The server -/

def parseFrame (bufferSize : Nat) (compressedData : Bytes) : Except AppError CollabParams := do
  let decompressData ← lib.decompress compressedData bufferSize
  let params ← (lib.fromBytes decompressData).mapError fun err =>
    .invalidRequest ("Failed to parse CollabParams with brotli decompression data: " ++ err)
  params.validate
  return params

/-- What the handler decodes from the items of the payload.  An item that is an error is
    passed over, and so is what the last chunk leaves in the buffer. -/
def collabParamsList {PayloadError : Type} (bufferSize : Nat) (payload : List (Except PayloadError Bytes)) :
    Except AppError (List CollabParams) := do
  let reader ← FrameReader.read (lib.parseFrame bufferSize) (payload.filterMap Except.toOption)
  if reader.values.isEmpty then
    throw (.invalidRequest "Empty collab params list")
  return reader.values

section Handler

variable {Op StateVector AwarenessUpdate PayloadError : Type} [DecidableEq Op]
  {yrs : Yrs Op StateVector AwarenessUpdate} (storageLib : StorageLib yrs) (enableAccessControl : Bool)

/-- `batch_create_collab_handler`; `outages` belong to the writes in their order. -/
def batchCreateCollabHandler (storage : CollabStorageImpl) (workspaceId : String) (uid : Int) (bufferSize : Nat)
    (payload : List (Except PayloadError Bytes)) (outages : Nat → WriteOutages) (beginOutage commitOutage : Option Outage) :
    Except AppError Unit × CollabStorageImpl :=
  match lib.collabParamsList bufferSize payload with
  | .error error => (.error error, storage)
  | .ok paramsList =>
    storage.batchCreateCollab storageLib enableAccessControl workspaceId uid
      (paramsList.zipIdx.map fun entry => (entry.1, outages entry.2)) beginOutage commitOutage

end Handler

/-! ## Uploads are read back -/

variable {lib}

theorem parseFrame_compressionTask {config : ClientConfiguration} {params : CollabParams} {compressed : Bytes}
    (task : lib.compressionTask config params = .ok compressed) (valid : params.validate = .ok ())
    (bufferSize : Nat) : lib.parseFrame bufferSize compressed = .ok params := by
  obtain ⟨data, serialised, compressedFrom⟩ := bind_eq_ok.mp task
  have decompressed := lib.decompress_compress _ _ _ _ compressedFrom bufferSize
  have deserialised := lib.fromBytes_toBytes _ _ serialised
  refine bind_eq_ok.mpr ⟨data, decompressed, bind_eq_ok.mpr ⟨params, mapError_eq_ok.mpr deserialised, ?_⟩⟩
  exact bind_eq_ok.mpr ⟨(), valid, rfl⟩

theorem parsed_tasks {config : ClientConfiguration} {paramsList : List CollabParams} {compressed : List Bytes}
    (tasks : paramsList.mapM (lib.compressionTask config) = .ok compressed)
    (valid : ∀ params ∈ paramsList, params.validate = .ok ()) (bufferSize : Nat) :
    List.Forall₂ (fun data params => lib.parseFrame bufferSize data = .ok params) compressed paramsList := by
  induction paramsList generalizing compressed with
  | nil =>
    cases tasks
    exact .nil
  | cons params paramsList inductionHypothesis =>
    rw [List.mapM_cons] at tasks
    obtain ⟨first, task, rest⟩ := bind_eq_ok.mp tasks
    obtain ⟨later, laterTasks, all⟩ := bind_eq_ok.mp rest
    cases all
    rw [List.forall_mem_cons] at valid
    exact .cons (parseFrame_compressionTask task valid.1 bufferSize) (inductionHypothesis laterTasks valid.2)

theorem filterMap_toOption_ok {PayloadError : Type} (chunks : List Bytes) :
    (chunks.map .ok : List (Except PayloadError Bytes)).filterMap Except.toOption = chunks := by
  rw [List.filterMap_map]
  exact List.filterMap_some

theorem collabParamsList_framed {config : ClientConfiguration} {paramsList : List CollabParams}
    (nonempty : paramsList ≠ []) (valid : ∀ params ∈ paramsList, params.validate = .ok ()) {compressed : List Bytes}
    (tasks : paramsList.mapM (lib.compressionTask config) = .ok compressed)
    (short : (compressed.map List.length).sum < 2 ^ 32) {chunks : List Bytes}
    (cut : chunks.flatten = framedData compressed) (PayloadError : Type) (bufferSize : Nat) :
    lib.collabParamsList bufferSize (chunks.map .ok : List (Except PayloadError Bytes)) = .ok paramsList := by
  have each : ∀ data ∈ compressed, data.length < 2 ^ 32 := fun data member =>
    Nat.lt_of_le_of_lt (List.single_le_sum (fun _ _ => Nat.zero_le _) _ (List.mem_map_of_mem member)) short
  have reading := FrameReader.read_frames (parsed_tasks tasks valid bufferSize) each cut
  have listed : paramsList.isEmpty = false := List.isEmpty_eq_false_iff.mpr nonempty
  rw [collabParamsList, filterMap_toOption_ok, reading]
  refine bind_eq_ok.mpr ⟨_, rfl, ?_⟩
  simp only [listed]
  rfl

/-- The cuts do not matter for a body that is refused either. -/
theorem collabParamsList_of_flatten_eq {PayloadError : Type} {bufferSize : Nat} {chunks others : List Bytes}
    (same : chunks.flatten = others.flatten) :
    lib.collabParamsList bufferSize (chunks.map .ok : List (Except PayloadError Bytes)) =
      lib.collabParamsList bufferSize (others.map .ok : List (Except PayloadError Bytes)) := by
  rw [collabParamsList, collabParamsList, filterMap_toOption_ok, filterMap_toOption_ok, FrameReader.read_eq,
    FrameReader.read_eq, same]

theorem createCollabList_eq_ok {config : ClientConfiguration} {paramsList : List CollabParams} {body : Bytes} :
    lib.createCollabList config paramsList = .ok body ↔
      ∃ compressed, paramsList.mapM (lib.compressionTask config) = .ok compressed ∧ framedData compressed = body := by
  rw [createCollabList, bind_eq_ok]
  simp [pure, Except.pure]

section

variable {Op StateVector AwarenessUpdate : Type} [DecidableEq Op] {yrs : Yrs Op StateVector AwarenessUpdate}

/-- The handler writes the collabs of the upload. -/
theorem batchCreateCollabHandler_framed (storageLib : StorageLib yrs) (enableAccessControl : Bool)
    (storage : CollabStorageImpl) (workspaceId : String) (uid : Int) {config : ClientConfiguration}
    {paramsList : List CollabParams} (nonempty : paramsList ≠ [])
    (valid : ∀ params ∈ paramsList, params.validate = .ok ()) {compressed : List Bytes}
    (tasks : paramsList.mapM (lib.compressionTask config) = .ok compressed)
    (short : (compressed.map List.length).sum < 2 ^ 32) {chunks : List Bytes}
    (cut : chunks.flatten = framedData compressed) (PayloadError : Type) (bufferSize : Nat)
    (outages : Nat → WriteOutages) (beginOutage commitOutage : Option Outage) :
    lib.batchCreateCollabHandler storageLib enableAccessControl storage workspaceId uid bufferSize
        (chunks.map .ok : List (Except PayloadError Bytes)) outages beginOutage commitOutage =
      storage.batchCreateCollab storageLib enableAccessControl workspaceId uid
        (paramsList.zipIdx.map fun entry => (entry.1, outages entry.2)) beginOutage commitOutage := by
  rw [batchCreateCollabHandler, collabParamsList_framed nonempty valid tasks short cut PayloadError bufferSize]

end

end UploadLib

/-! ## A sample upload -/

structure UploadSample where
  params : CollabParams
  data : Bytes
  compressed : Bytes
  deriving DecidableEq

/-- Two collabs with their serialised and their compressed bytes. -/
def uploadSamples : List UploadSample :=
  [⟨⟨"o1", [1, 2, 3], .document, false⟩,
      [2, 0, 0, 0, 0, 0, 0, 0, 111, 49, 3, 0, 0, 0, 0, 0, 0, 0, 1, 2, 3, 0, 0],
      [27, 22, 0, 0, 4, 118, 192, 146, 185, 236, 37, 41, 233, 68, 149, 66, 38, 162, 175, 59, 22, 0]⟩,
    ⟨⟨"o2", [4], .folder, true⟩,
      [2, 0, 0, 0, 0, 0, 0, 0, 111, 50, 1, 0, 0, 0, 0, 0, 0, 0, 4, 3, 1],
      [27, 20, 0, 0, 4, 118, 192, 132, 185, 236, 35, 41, 209, 164, 147, 66, 38, 150, 63, 86, 3]⟩]

def sampleToBytes (params : CollabParams) : Except AppError Bytes :=
  match uploadSamples.find? (·.params = params) with
  | some sample => .ok sample.data
  | none => .error (.internal "no sample")

def sampleFromBytes (data : Bytes) : Except String CollabParams :=
  match uploadSamples.find? (·.data = data) with
  | some sample => .ok sample.params
  | none => .error "no sample"

def sampleCompress (data : Bytes) (_quality _bufferSize : Nat) : Except AppError Bytes :=
  match uploadSamples.find? (·.data = data) with
  | some sample => .ok sample.compressed
  | none => .error (.internal "no sample")

def sampleDecompress (compressed : Bytes) (_bufferSize : Nat) : Except AppError Bytes :=
  match uploadSamples.find? (·.compressed = compressed) with
  | some sample => .ok sample.data
  | none => .error (.invalidRequest "no sample")

theorem sampleFromBytes_toBytes (params : CollabParams) (data : Bytes)
    (serialised : sampleToBytes params = .ok data) : sampleFromBytes data = .ok params := by
  have back : ∀ sample ∈ uploadSamples, sampleFromBytes sample.data = .ok sample.params := by decide
  rw [sampleToBytes] at serialised
  split at serialised
  · rename_i sample found
    have same := List.find?_some found
    cases serialised
    rw [back sample (List.mem_of_find?_eq_some found), of_decide_eq_true same]
  · cases serialised

theorem sampleDecompress_compress (data : Bytes) (quality bufferSize : Nat) (compressed : Bytes)
    (compressedFrom : sampleCompress data quality bufferSize = .ok compressed) (readerSize : Nat) :
    sampleDecompress compressed readerSize = .ok data := by
  have back : ∀ sample ∈ uploadSamples, sampleDecompress sample.compressed 0 = .ok sample.data := by decide
  rw [sampleCompress] at compressedFrom
  split at compressedFrom
  · rename_i sample found
    have same := List.find?_some found
    cases compressedFrom
    rw [← of_decide_eq_true same]
    exact back sample (List.mem_of_find?_eq_some found)
  · cases compressedFrom

def sampleLib : UploadLib where
  toBytes := sampleToBytes
  fromBytes := sampleFromBytes
  compress := sampleCompress
  decompress := sampleDecompress
  fromBytes_toBytes := sampleFromBytes_toBytes
  decompress_compress := sampleDecompress_compress

def sampleConfiguration : ClientConfiguration := ⟨8, 10240⟩

/-- The two frames, cut inside the first length and inside the second frame, with an empty
    chunk in between. -/
def sampleChunks : List Bytes :=
  [[0, 0], [], [0, 22, 27, 22, 0, 0, 4, 118, 192, 146, 185, 236, 37, 41, 233, 68, 149, 66, 38, 162, 175, 59, 22, 0,
      0, 0, 0, 21, 27, 20, 0, 0, 4],
    [118, 192, 132, 185, 236, 35, 41, 209, 164, 147, 66, 38, 150, 63, 86, 3]]

/-! ## What was framed is decoded -/

/-- The server decodes the collabs that the client framed, in their order, wherever the body
    is cut. -/
theorem batch_upload_decoded {lib : UploadLib} {config : ClientConfiguration} {paramsList : List CollabParams}
    (nonempty : paramsList ≠ []) (valid : ∀ params ∈ paramsList, params.validate = .ok ()) {body : Bytes}
    (framed : lib.createCollabList config paramsList = .ok body)
    (short : ∀ compressed, paramsList.mapM (lib.compressionTask config) = .ok compressed →
      (compressed.map List.length).sum < 2 ^ 32)
    {chunks : List Bytes} (cut : chunks.flatten = body) (PayloadError : Type) (bufferSize : Nat) :
    lib.collabParamsList bufferSize (chunks.map .ok : List (Except PayloadError Bytes)) = .ok paramsList := by
  obtain ⟨compressed, tasks, rfl⟩ := UploadLib.createCollabList_eq_ok.mp framed
  exact UploadLib.collabParamsList_framed nonempty valid tasks (short compressed tasks) cut PayloadError bufferSize

theorem batch_upload_decoded_samples :
    sampleLib.collabParamsList 10240 (sampleChunks.map .ok : List (Except String Bytes)) =
      .ok (uploadSamples.map UploadSample.params) := by
  have framed : sampleLib.createCollabList sampleConfiguration (uploadSamples.map UploadSample.params) =
      .ok (UploadLib.framedData (uploadSamples.map UploadSample.compressed)) := rfl
  refine batch_upload_decoded (by decide) (by decide) framed ?_ (by decide) String 10240
  intro compressed tasks
  cases tasks
  decide

end FlowCloud.Api
