import FlowCloud.Server.GroupBroadcast
import FlowCloud.Storage.Collab

/-! # The storage plugin of a group

`CollabStoragePlugin` loads the document of a group when the group is opened and writes it
back when the group is flushed.  The writes of a flush are spawned: they run at any later
time, in any order, between other statements on the table.
-/

namespace FlowCloud.Server

open FlowCloud.Foundation FlowCloud.Entity FlowCloud.Protocol FlowCloud.Storage

variable {Op StateVector AwarenessUpdate : Type} [DecidableEq Op] {yrs : Yrs Op StateVector AwarenessUpdate}

structure CollabStoragePlugin where
  uid : Int
  workspaceId : String
  collabType : CollabType
  latestCollabMd5 : Option Bytes

def CollabStoragePlugin.new (uid : Int) (workspaceId : String) (collabType : CollabType) : CollabStoragePlugin :=
  ⟨uid, workspaceId, collabType, none⟩

/-! ## Loading -/

structure AFSnapshotMeta where
  snapshotId : Int
  objectId : String
  deriving DecidableEq, Repr

structure SnapshotData where
  objectId : String
  encodedCollabV1 : Bytes
  workspaceId : String
  deriving DecidableEq, Repr

/-- What the storage answers about snapshots. -/
structure SnapshotAnswers where
  getCollabSnapshotList : String → Except AppError (List AFSnapshotMeta)
  getCollabSnapshot : String → String → Int → Except AppError SnapshotData

def SnapshotAnswers.none : SnapshotAnswers := ⟨fun _ => .ok [], fun _ _ _ => .error (.recordNotFound "")⟩

variable (lib : StorageLib yrs)

def initCollab (yrs : Yrs Op StateVector AwarenessUpdate) (doc : Finset Op) (encoded : EncodedCollab) :
    Except RealtimeError (Finset Op) :=
  if encoded.docState.isEmpty then .error (.unexpectedData "doc state is empty")
  else do
    let update ← (yrs.decodeUpdate encoded.docState).mapError .decodingError
    (yrs.tryApplyUpdate doc update).mapError .collabError

/-- Only documents and folders can be checked. -/
def isValidSnapshot (collabType : CollabType) (collab : Finset Op) : Bool :=
  match collabType with
  | .document => (lib.checkDocumentIsValid collab).isOk
  | .folder => (lib.checkFolderIsValid collab).isOk
  | .database | .workspaceDatabase | .databaseRow | .userAwareness => false

def usableSnapshot (collabType : CollabType) (data : SnapshotData) : Option EncodedCollab :=
  match lib.decodeFromBytes data.encodedCollabV1 with
  -- one that cannot be decoded is passed over
  | .error _ => none
  | .ok encoded =>
    match lib.newWithDocState encoded.docState with
    | .error _ => none
    | .ok collab => if isValidSnapshot lib collabType collab then some encoded else none

/-- The first usable snapshot; one that cannot be read ends the search. -/
def findSnapshot (answers : SnapshotAnswers) (workspaceId : String) (collabType : CollabType) :
    List AFSnapshotMeta → Option EncodedCollab
  | [] => none
  | snapshot :: older =>
    match answers.getCollabSnapshot workspaceId snapshot.objectId snapshot.snapshotId with
    | .error _ => none
    | .ok data =>
      match usableSnapshot lib collabType data with
      | some encoded => some encoded
      -- one that can be read and not used is passed over
      | none => findSnapshot answers workspaceId collabType older

def getLatestSnapshot (answers : SnapshotAnswers) (workspaceId objectId : String) (collabType : CollabType) :
    Option EncodedCollab :=
  match answers.getCollabSnapshotList objectId with
  | .error _ => none
  | .ok snapshots => findSnapshot lib answers workspaceId collabType snapshots

structure LiveDocument (Op : Type) where
  plugin : CollabStoragePlugin
  objectId : String
  content : Finset Op
  cache : CollabCache
  pending : List CollabParams
  written : List Bytes

/-- A write of the plugin; only one that succeeds leaves a trace. -/
def LiveDocument.store (self : LiveDocument Op) (params : CollabParams) (outcomes : WriteOutcomes) :
    LiveDocument Op :=
  match insertOrUpdateCollab lib self.cache self.plugin.workspaceId self.plugin.uid params outcomes with
  | (.ok (), cache) => { self with cache, written := self.written ++ [params.encodedCollabV1] }
  | (.error _, cache) => { self with cache }

def LiveDocument.params (self : LiveDocument Op) (encodedCollabV1 : Bytes) : CollabParams :=
  ⟨self.objectId, encodedCollabV1, self.plugin.collabType, false⟩

def LiveDocument.insertNewCollab (self : LiveDocument Op) (outcomes : WriteOutcomes) : LiveDocument Op :=
  match lib.encodeToBytes (lib.getEncodedCollabV1 self.content) with
  | .ok encodedCollabV1 => self.store lib (self.params encodedCollabV1) outcomes
  | .error _ => self

/-- Take in what was loaded, or else the latest usable snapshot, or nothing. -/
def LiveDocument.restore (self : LiveDocument Op) (encoded : EncodedCollab) (answers : SnapshotAnswers) :
    LiveDocument Op :=
  match initCollab yrs self.content encoded with
  | .ok content => { self with content }
  | .error _ =>
    match getLatestSnapshot lib answers self.plugin.workspaceId self.objectId self.plugin.collabType with
    | none => self
    | some snapshot =>
      match initCollab yrs self.content snapshot with
      | .ok content => { self with content }
      | .error _ => self

/-- `CollabStoragePlugin::init`: an object that is not found is taken for a new one. -/
def LiveDocument.init (self : LiveDocument Op) (read : ReadOutcomes) (answers : SnapshotAnswers)
    (insert : WriteOutcomes) : LiveDocument Op :=
  match getCollabEncoded lib self.cache self.plugin.uid
    (.new self.objectId self.plugin.collabType self.plugin.workspaceId) true read with
  | (.ok encoded, cache) => { self with cache }.restore lib encoded answers
  | (.error (.recordNotFound _), cache) => { self with cache }.insertNewCollab lib insert
  -- any other failure leaves the document empty
  | (.error _, cache) => { self with cache }

/-! ## Later steps -/

/-- The digest is noted before the write is known to succeed. -/
def LiveDocument.flush (self : LiveDocument Op) : LiveDocument Op :=
  match lib.encodeToBytes (lib.getEncodedCollabV1 self.content) with
  | .error _ => self
  | .ok encodedCollabV1 =>
    let digest := lib.md5 encodedCollabV1
    -- nothing new since the last flush
    if self.plugin.latestCollabMd5 = some digest then self
    else { self with
      plugin := { self.plugin with latestCollabMd5 := some digest }
      pending := self.pending ++ [self.params encodedCollabV1] }

inductive DocumentEvent (Op : Type) where
  | edit (update : Finset Op)
  | flush
  | store (index : Nat) (outcomes : WriteOutcomes)
  /-- Someone else writes a collab. -/
  | otherInsert (uid : Int) (workspaceId : String) (params : CollabParams) (outages : InsertOutages)
  | otherDelete (objectId : String)

def LiveDocument.step (self : LiveDocument Op) : DocumentEvent Op → LiveDocument Op
  | .edit update =>
    match yrs.tryApplyUpdate self.content update with
    | .ok content => { self with content }
    | .error _ => self
  | .flush => self.flush lib
  | .store index outcomes =>
    match self.pending[index]? with
    | none => self
    | some params => { self with pending := self.pending.eraseIdx index }.store lib params outcomes
  | .otherInsert uid workspaceId params outages =>
    match insertIntoAfCollab lib self.cache.table uid workspaceId params outages with
    | .ok table => { self with cache := { self.cache with table } }
    | .error _ => self
  | .otherDelete objectId =>
    { self with cache := { self.cache with table := deleteCollab self.cache.table objectId } }

/-! ## Opening a group -/

/-- The first init sync of an object with everything its load meets. -/
structure Opening where
  message : InitSync
  cache : CollabCache
  read : ReadOutcomes
  answers : SnapshotAnswers
  insert : WriteOutcomes

def Opening.fresh (self : Opening) (uid : Int) (cache : CollabCache) (content : Finset Op) : LiveDocument Op where
  plugin := .new uid self.message.workspaceId self.message.collabType
  objectId := self.message.objectId
  content := content
  cache := cache
  pending := []
  written := []

/-- `create_group`: a message without a client's user id opens nothing. -/
def Opening.document (self : Opening) : Option (LiveDocument Op) :=
  match self.message.origin.clientUserId with
  | none => none
  | some uid => some ((self.fresh uid self.cache ∅).init lib self.read self.answers self.insert)

/-! ## What the stored document may lose -/

def Opening.LiveRow (self : Opening) (row : AfCollabRow) : Prop :=
  self.cache.table self.message.objectId = some row ∧ row.deleted = false

/-- Whatever happens after the opening, no write of the plugin lacks an update that the live
    row held when the group was opened. -/
def Opening.KeepsStored (self : Opening) : Prop :=
  ∀ row, self.LiveRow row → ∀ document, self.document lib = some document →
    ∀ events, ∀ data ∈ (run (LiveDocument.step lib) document events).written, lib.updates row.blob ⊆ lib.updates data

/-- The encoded document can be taken in by an empty one, which then holds the operations. -/
def Usable (yrs : Yrs Op StateVector AwarenessUpdate) (encoded : EncodedCollab) (ops : Finset Op) : Prop :=
  encoded.docState ≠ [] ∧ ∃ update, yrs.decodeUpdate encoded.docState = .ok update ∧
    yrs.tryApplyUpdate ∅ update = .ok ops

def Opening.cached (self : Opening) : Option EncodedCollab :=
  getEncodeCollab lib self.cache.memCache self.read.cacheReachable self.message.objectId

/-- The copy that the user may read: the cached one, or else the row if it has the type that
    the message names. -/
structure Opening.Finds (opening : Opening) (row : AfCollabRow) (encoded : EncodedCollab) : Prop where
  named : opening.message.objectId ≠ "" ∧ opening.message.workspaceId ≠ ""
  answered : opening.read.existsOutage = none
  readable : opening.read.enforceAction = .ok true
  found : opening.cached lib = some encoded ∨
    opening.cached lib = none ∧ row.partitionKey = lib.value opening.message.collabType ∧
      Selects opening.read.attempts ∧ lib.decodeFromBytes row.blob = .ok encoded

/-- The load ends with the operations: of the copy it finds, or of a snapshot if that copy
    cannot be used. -/
def Opening.Loads (self : Opening) (row : AfCollabRow) (ops : Finset Op) : Prop :=
  ∃ encoded, self.Finds lib row encoded ∧
    (Usable yrs encoded ops ∨ (∀ none, ¬ Usable yrs encoded none) ∧
      ∃ snapshot, getLatestSnapshot lib self.answers self.message.workspaceId self.message.objectId
        self.message.collabType = some snapshot ∧ Usable yrs snapshot ops)

/-- The live row holds nothing, no group is opened, the plugin cannot write over the row, or
    the load reaches a copy with everything in the row. -/
def Opening.Safe (self : Opening) : Prop :=
  ∀ row, self.LiveRow row →
    lib.updates row.blob = ∅ ∨ self.message.origin.clientUserId = none ∨ self.message.objectId = "" ∨
      lib.uuidFromStr self.message.workspaceId ≠ .ok row.workspaceId ∨
      ∃ ops, self.Loads lib row ops ∧ lib.updates row.blob ⊆ ops

/-! ## What the load reaches -/

theorem initCollab_eq_ok {encoded : EncodedCollab} {ops : Finset Op} :
    initCollab yrs ∅ encoded = .ok ops ↔ Usable yrs encoded ops := by
  rw [initCollab, Usable]
  by_cases empty : encoded.docState = []
  · simp [empty]
  · cases decoded : yrs.decodeUpdate encoded.docState with
    | error failure => simp [empty, Except.mapError, bind, Except.bind]
    | ok update =>
      cases applied : yrs.tryApplyUpdate ∅ update <;> simp [empty, applied, Except.mapError, bind, Except.bind]

section Load

variable {lib} {opening : Opening} {row : AfCollabRow}

def Opening.query (self : Opening) : QueryCollabParams :=
  .new self.message.objectId self.message.collabType self.message.workspaceId

/-- The read succeeds with the copy that the message's fields and the outcomes lead to. -/
theorem read_eq_ok_iff (lib : StorageLib yrs) (live : opening.LiveRow row) (uid : Int) (encoded : EncodedCollab) :
    (getCollabEncoded lib opening.cache uid opening.query true opening.read).1 = .ok encoded ↔
      opening.Finds lib row encoded := by
  -- each stage of the read has its own condition; together they are those of `Finds`
  have found : opening.cache.table opening.query.inner.objectId = some row := live.1
  rw [getCollabEncoded_eq_ok, QueryCollabParams.validate_eq_ok, enforceReadCollab_eq_ok found, getFromCache_eq_ok,
    getFromDisk_eq_ok found live.2]
  constructor
  · rintro ⟨⟨workspace, object⟩, ⟨answered, readable⟩, found⟩
    exact ⟨⟨object, workspace⟩, answered, readable, found⟩
  · rintro ⟨⟨object, workspace⟩, answered, readable, found⟩
    exact ⟨⟨workspace, object⟩, ⟨answered, readable⟩, found⟩

theorem Usable.unique {encoded : EncodedCollab} {first second : Finset Op} (one : Usable yrs encoded first)
    (other : Usable yrs encoded second) : first = second := by
  obtain ⟨_, update, decoded, applied⟩ := one
  obtain ⟨_, otherUpdate, otherDecoded, otherApplied⟩ := other
  rw [decoded] at otherDecoded
  cases otherDecoded
  rw [applied] at otherApplied
  exact Except.ok.inj otherApplied

theorem Opening.Finds.unique {first second : EncodedCollab} (one : opening.Finds lib row first)
    (other : opening.Finds lib row second) : first = second := by
  cases one.found with
  | inl cached =>
    rcases other.found with otherCached | ⟨missing, _⟩
    · exact Option.some.inj (cached.symm.trans otherCached)
    · rw [cached] at missing
      cases missing
  | inr held =>
    obtain ⟨missing, _, _, decoded⟩ := held
    rcases other.found with cached | ⟨_, _, _, otherDecoded⟩
    · rw [missing] at cached
      cases cached
    · exact Except.ok.inj (decoded.symm.trans otherDecoded)

theorem Opening.Loads.unique {first second : Finset Op} (one : opening.Loads lib row first)
    (other : opening.Loads lib row second) : first = second := by
  obtain ⟨encoded, finds, loaded⟩ := one
  obtain ⟨otherEncoded, otherFinds, otherLoaded⟩ := other
  obtain rfl := finds.unique otherFinds
  cases loaded with
  | inl usable =>
    rcases otherLoaded with otherUsable | ⟨unusable, _⟩
    · exact usable.unique otherUsable
    · exact absurd usable (unusable first)
  | inr held =>
    obtain ⟨unusable, snapshot, latest, usable⟩ := held
    rcases otherLoaded with otherUsable | ⟨_, otherSnapshot, otherLatest, otherUsable⟩
    · exact absurd otherUsable (unusable second)
    · rw [latest] at otherLatest
      cases otherLatest
      exact usable.unique otherUsable

/-- Restoring from a copy ends with what the load is said to end with, or with nothing. -/
theorem restore_cases {encoded : EncodedCollab} (finds : opening.Finds lib row encoded) (uid : Int)
    (cache : CollabCache) :
    (∃ ops, opening.Loads lib row ops ∧
        (opening.fresh uid cache ∅).restore lib encoded opening.answers = opening.fresh uid cache ops) ∨
      (∀ ops, ¬ opening.Loads lib row ops) ∧
        (opening.fresh uid cache ∅).restore lib encoded opening.answers = opening.fresh uid cache ∅ := by
  -- a load can only go through this copy
  have through : ∀ {ops}, opening.Loads lib row ops → Usable yrs encoded ops ∨
      ∃ snapshot, getLatestSnapshot lib opening.answers opening.message.workspaceId opening.message.objectId
        opening.message.collabType = some snapshot ∧ Usable yrs snapshot ops := by
    rintro ops ⟨other, otherFinds, loaded⟩
    obtain rfl := finds.unique otherFinds
    exact loaded.imp_right And.right
  simp only [LiveDocument.restore, Opening.fresh, CollabStoragePlugin.new]
  cases loaded : initCollab yrs ∅ encoded with
  | ok ops => exact .inl ⟨ops, ⟨encoded, finds, .inl (initCollab_eq_ok.mp loaded)⟩, rfl⟩
  | error failure =>
    have unusable : ∀ ops, ¬ Usable yrs encoded ops := by
      intro ops usable
      rw [initCollab_eq_ok.mpr usable] at loaded
      cases loaded
    cases latest : getLatestSnapshot lib opening.answers opening.message.workspaceId opening.message.objectId
        opening.message.collabType with
    | none =>
      refine .inr ⟨?_, rfl⟩
      intro ops loads
      cases through loads with
      | inl usable => exact unusable ops usable
      | inr held =>
        obtain ⟨snapshot, found, _⟩ := held
        rw [latest] at found
        cases found
    | some snapshot =>
      simp only
      cases restored : initCollab yrs ∅ snapshot with
      | ok ops =>
        exact .inl ⟨ops, ⟨encoded, finds, .inr ⟨unusable, snapshot, latest, initCollab_eq_ok.mp restored⟩⟩, rfl⟩
      | error failure =>
        refine .inr ⟨?_, rfl⟩
        intro ops loads
        cases through loads with
        | inl usable => exact unusable ops usable
        | inr held =>
          obtain ⟨found, same, usable⟩ := held
          rw [latest] at same
          cases same
          rw [initCollab_eq_ok.mpr usable] at restored
          cases restored

theorem init_cases (lib : StorageLib yrs) (opening : Opening) (uid : Int) :
    let document := (opening.fresh uid opening.cache ∅).init lib opening.read opening.answers opening.insert
    ∃ result cache, getCollabEncoded lib opening.cache uid opening.query true opening.read = (result, cache) ∧
      ((∃ encoded, result = .ok encoded ∧
          document = (opening.fresh uid cache ∅).restore lib encoded opening.answers) ∨
        (∀ encoded, result ≠ .ok encoded) ∧ (document = opening.fresh uid cache ∅ ∨
          document = (opening.fresh uid cache ∅).insertNewCollab lib opening.insert)) := by
  have branches : (opening.fresh uid opening.cache ∅).init lib opening.read opening.answers opening.insert =
      match getCollabEncoded lib opening.cache uid opening.query true opening.read with
      | (.ok encoded, cache) => (opening.fresh uid cache ∅).restore lib encoded opening.answers
      | (.error (.recordNotFound _), cache) => (opening.fresh uid cache ∅).insertNewCollab lib opening.insert
      | (.error _, cache) => opening.fresh uid cache ∅ := rfl
  simp only [branches]
  cases getCollabEncoded lib opening.cache uid opening.query true opening.read with
  | mk result cache =>
    refine ⟨result, cache, rfl, ?_⟩
    cases result with
    | ok encoded => exact .inl ⟨encoded, rfl, rfl⟩
    | error error =>
      refine .inr ⟨nofun, ?_⟩
      cases error with
      | recordNotFound message => exact .inr rfl
      | internal | recordAlreadyExists | invalidRequest | notEnoughPermissions | uuidError | sqlxError
      | validatorError => exact .inl rfl

/-- What a group has when it is opened over a live row: the document that was loaded, or an
    empty one, which may have been written as a new collab at once. -/
theorem document_cases (live : opening.LiveRow row) {document : LiveDocument Op}
    (opened : opening.document lib = some document) :
    ∃ uid cache, opening.message.origin.clientUserId = some uid ∧ cache.table = opening.cache.table ∧
      ((∃ ops, opening.Loads lib row ops ∧ document = opening.fresh uid cache ops) ∨
        (∀ ops, ¬ opening.Loads lib row ops) ∧ (document = opening.fresh uid cache ∅ ∨
          document = (opening.fresh uid cache ∅).insertNewCollab lib opening.insert)) := by
  rw [Opening.document] at opened
  split at opened
  · cases opened
  · rename_i uid origin
    cases opened
    obtain ⟨result, cache, read, branch⟩ := init_cases lib opening uid
    have finds := read_eq_ok_iff lib live uid
    have table := getCollabEncoded_table lib opening.cache uid opening.query true opening.read
    rw [read] at finds table
    refine ⟨uid, cache, origin, table, ?_⟩
    cases branch with
    | inl held =>
      obtain ⟨encoded, rfl, restored⟩ := held
      rw [restored]
      rcases restore_cases ((finds encoded).mp rfl) uid cache with ⟨ops, loads, same⟩ | ⟨never, same⟩
      · exact .inl ⟨ops, loads, same⟩
      · exact .inr ⟨never, .inl same⟩
    | inr held =>
      obtain ⟨failed, unloaded⟩ := held
      refine .inr ⟨?_, unloaded⟩
      rintro ops ⟨encoded, found, _⟩
      exact failed encoded ((finds encoded).mpr found)

end Load

/-! ## Single writes -/

section Writes

variable {lib}

theorem updates_encoded {content : Finset Op} {data : Bytes}
    (encoded : lib.encodeToBytes (lib.getEncodedCollabV1 content) = .ok data) : lib.updates data = content := by
  obtain ⟨written, encodes, _, decodes⟩ := lib.encode_content content
  rw [encodes] at encoded
  cases encoded
  exact lib.updates_decoded data _ content decodes (lib.decode_content content)

/-- A write replaces the row and is noted, or leaves the table alone. -/
theorem store_cases (lib : StorageLib yrs) (document : LiveDocument Op) (params : CollabParams)
    (outcomes : WriteOutcomes) :
    ∃ cache, (document.store lib params outcomes =
          { document with cache, written := document.written ++ [params.encodedCollabV1] } ∧
        params.objectId ≠ "" ∧ Stored lib document.cache.table cache.table document.plugin.workspaceId params) ∨
      (document.store lib params outcomes = { document with cache } ∧ cache.table = document.cache.table) := by
  have outcome := insertOrUpdateCollab_cases lib document.cache document.plugin.workspaceId
    document.plugin.uid params outcomes
  rw [LiveDocument.store]
  revert outcome
  cases insertOrUpdateCollab lib document.cache document.plugin.workspaceId document.plugin.uid params outcomes with
  | mk result cache =>
    intro outcome
    refine ⟨cache, ?_⟩
    cases result with
    | ok _ =>
      cases outcome with
      | inl held =>
        obtain ⟨_, named, stored⟩ := held
        exact .inl ⟨rfl, named, stored⟩
      | inr held =>
        obtain ⟨failed, _⟩ := held
        exact absurd rfl failed
    | error error =>
      cases outcome with
      | inl held =>
        obtain ⟨succeeded, _⟩ := held
        cases succeeded
      | inr held =>
        obtain ⟨_, same⟩ := held
        exact .inr ⟨rfl, same⟩

/-- A write touches the cache and the trace of writes only, and moves no row. -/
theorem store_frame (lib : StorageLib yrs) (document : LiveDocument Op) (params : CollabParams)
    (outcomes : WriteOutcomes) :
    ∃ cache written, document.store lib params outcomes = { document with cache, written } ∧
      KeepsWorkspace document.cache.table cache.table := by
  obtain ⟨cache, ⟨stored, _, spec⟩ | ⟨failed, same⟩⟩ := store_cases lib document params outcomes
  · exact ⟨cache, _, stored, spec.keepsWorkspace⟩
  · exact ⟨cache, document.written, failed, same ▸ .refl _⟩

/-! ## Single steps -/

/-- A flush writes nothing if the content was flushed last, and else starts a write of it. -/
theorem flush_cases (lib : StorageLib yrs) (document : LiveDocument Op) {data : Bytes}
    (encoded : lib.encodeToBytes (lib.getEncodedCollabV1 document.content) = .ok data) :
    (document.plugin.latestCollabMd5 = some (lib.md5 data) ∧ document.flush lib = document) ∨
      (document.plugin.latestCollabMd5 ≠ some (lib.md5 data) ∧ document.flush lib =
        { document with
          plugin := { document.plugin with latestCollabMd5 := some (lib.md5 data) }
          pending := document.pending ++ [document.params data] }) := by
  by_cases latest : document.plugin.latestCollabMd5 = some (lib.md5 data)
  · exact .inl ⟨latest, by simp only [LiveDocument.flush, encoded]; exact if_pos latest⟩
  · exact .inr ⟨latest, by simp only [LiveDocument.flush, encoded]; exact if_neg latest⟩

/-- All that one step can do to a document. -/
theorem step_preserves {Holds : LiveDocument Op → Prop} (document : LiveDocument Op) (event : DocumentEvent Op)
    (unchanged : Holds document)
    (edited : ∀ content, document.content ⊆ content → Holds { document with content })
    (flushed : Holds (document.flush lib))
    (stored : ∀ index params outcomes, document.pending[index]? = some params →
      Holds ({ document with pending := document.pending.eraseIdx index }.store lib params outcomes))
    (others : ∀ table, KeepsWorkspace document.cache.table table →
      Holds { document with cache := { document.cache with table } }) :
    Holds (document.step lib event) := by
  cases event with
  | edit update =>
    rw [LiveDocument.step]
    split
    · rename_i content applied
      apply edited
      -- an update only adds operations
      rw [yrs.apply_union _ _ _ applied]
      exact Finset.subset_union_left
    · exact unchanged
  | flush => exact flushed
  | store index outcomes =>
    rw [LiveDocument.step]
    split
    · exact unchanged
    · rename_i params found
      exact stored index params outcomes found
  | otherInsert uid workspaceId params outages =>
    rw [LiveDocument.step]
    split
    · rename_i table inserted
      exact others table (insertIntoAfCollab_stored inserted).keepsWorkspace
    · exact unchanged
  | otherDelete objectId => exact others _ (deleteCollab_keepsWorkspace _ objectId)

/-! ## A document that covers the operations keeps covering them -/

/-- The document, the writes under way and those made all contain the operations. -/
structure Covers (lib : StorageLib yrs) (ops : Finset Op) (document : LiveDocument Op) : Prop where
  content : ops ⊆ document.content
  pending : ∀ params ∈ document.pending, ops ⊆ lib.updates params.encodedCollabV1
  written : ∀ data ∈ document.written, ops ⊆ lib.updates data

variable {ops : Finset Op} {document : LiveDocument Op}

theorem Covers.store (covers : Covers lib ops document) {params : CollabParams}
    (covered : ops ⊆ lib.updates params.encodedCollabV1) (outcomes : WriteOutcomes) :
    Covers lib ops (document.store lib params outcomes) := by
  obtain ⟨cache, ⟨stored, _⟩ | ⟨failed, _⟩⟩ := store_cases lib document params outcomes
  · rw [stored]
    refine ⟨covers.content, covers.pending, ?_⟩
    intro data member
    cases List.mem_append.mp member with
    | inl before => exact covers.written data before
    | inr new =>
      rw [List.mem_singleton.mp new]
      exact covered
  · rw [failed]
    exact ⟨covers.content, covers.pending, covers.written⟩

theorem Covers.flush (covers : Covers lib ops document) : Covers lib ops (document.flush lib) := by
  obtain ⟨data, encoded, _, _⟩ := lib.encode_content document.content
  cases flush_cases lib document encoded with
  | inl held =>
    obtain ⟨_, same⟩ := held
    rw [same]
    exact covers
  | inr held =>
    obtain ⟨_, started⟩ := held
    rw [started]
    refine ⟨covers.content, ?_, covers.written⟩
    intro params member
    cases List.mem_append.mp member with
    | inl before => exact covers.pending params before
    | inr new =>
      -- the new write holds the document as it is now
      rw [List.mem_singleton.mp new, LiveDocument.params, updates_encoded encoded]
      exact covers.content

theorem Covers.step (covers : Covers lib ops document) (event : DocumentEvent Op) :
    Covers lib ops (document.step lib event) := by
  apply step_preserves document event covers
  case edited =>
    intro content grows
    exact ⟨covers.content.trans grows, covers.pending, covers.written⟩
  case flushed => exact covers.flush
  case stored =>
    intro index params outcomes found
    have taken : Covers lib ops { document with pending := document.pending.eraseIdx index } :=
      ⟨covers.content, fun params member => covers.pending params (List.mem_of_mem_eraseIdx member), covers.written⟩
    exact taken.store (covers.pending params (List.mem_of_getElem? found)) outcomes
  case others => exact fun _ _ => ⟨covers.content, covers.pending, covers.written⟩

theorem Covers.run (covers : Covers lib ops document) (events : List (DocumentEvent Op)) :
    Covers lib ops (run (LiveDocument.step lib) document events) :=
  run_invariant (fun _ event covers => covers.step event) covers events

/-! ## A plugin that may not write over the row never does -/

structure Barred (lib : StorageLib yrs) (document : LiveDocument Op) : Prop where
  own : ∀ params ∈ document.pending, params.objectId = document.objectId
  barred : document.objectId = "" ∨ ∃ row, document.cache.table document.objectId = some row ∧
    lib.uuidFromStr document.plugin.workspaceId ≠ .ok row.workspaceId
  nothing : document.written = []

theorem Barred.table (barred : Barred lib document) {cache : CollabCache}
    (keeps : KeepsWorkspace document.cache.table cache.table) : Barred lib { document with cache } := by
  refine ⟨barred.own, ?_, barred.nothing⟩
  cases barred.barred with
  | inl unnamed => exact .inl unnamed
  | inr held =>
    obtain ⟨row, found, other⟩ := held
    obtain ⟨later, laterFound, same⟩ := keeps _ row found
    refine .inr ⟨later, laterFound, ?_⟩
    rw [same]
    exact other

theorem Barred.store (barred : Barred lib document) {params : CollabParams}
    (own : params.objectId = document.objectId) (outcomes : WriteOutcomes) :
    Barred lib (document.store lib params outcomes) := by
  obtain ⟨cache, ⟨_, named, spec⟩ | ⟨failed, same⟩⟩ := store_cases lib document params outcomes
  · -- no write gets through
    exfalso
    cases barred.barred with
    | inl unnamed => exact named (own.trans unnamed)
    | inr held =>
      obtain ⟨row, found, other⟩ := held
      obtain ⟨id, parsed, admitted⟩ := spec.admitted
      rw [own] at admitted
      rw [admitted row found] at other
      exact other parsed
  · rw [failed]
    exact barred.table (same ▸ .refl _)

theorem Barred.flush (barred : Barred lib document) : Barred lib (document.flush lib) := by
  obtain ⟨data, encoded, _, _⟩ := lib.encode_content document.content
  cases flush_cases lib document encoded with
  | inl held =>
    obtain ⟨_, same⟩ := held
    rw [same]
    exact barred
  | inr held =>
    obtain ⟨_, started⟩ := held
    rw [started]
    refine ⟨?_, barred.barred, barred.nothing⟩
    intro params member
    cases List.mem_append.mp member with
    | inl before => exact barred.own params before
    | inr new => rw [List.mem_singleton.mp new, LiveDocument.params]

theorem Barred.step (barred : Barred lib document) (event : DocumentEvent Op) :
    Barred lib (document.step lib event) := by
  apply step_preserves document event barred
  case edited => exact fun _ _ => ⟨barred.own, barred.barred, barred.nothing⟩
  case flushed => exact barred.flush
  case stored =>
    intro index params outcomes found
    have taken : Barred lib { document with pending := document.pending.eraseIdx index } :=
      ⟨fun params member => barred.own params (List.mem_of_mem_eraseIdx member), barred.barred, barred.nothing⟩
    exact taken.store (barred.own params (List.mem_of_getElem? found)) outcomes
  case others => exact fun _ keeps => barred.table keeps

theorem Barred.run (barred : Barred lib document) (events : List (DocumentEvent Op)) :
    Barred lib (run (LiveDocument.step lib) document events) :=
  run_invariant (fun _ event barred => barred.step event) barred events

end Writes

/-! ## Every run after an opening -/

section Opened

variable {lib} {opening : Opening} {row : AfCollabRow} {document : LiveDocument Op}

theorem insertNewCollab_cases (lib : StorageLib yrs) (document : LiveDocument Op) (outcomes : WriteOutcomes) :
    document.insertNewCollab lib outcomes = document ∨
      ∃ params, params.objectId = document.objectId ∧
        document.insertNewCollab lib outcomes = document.store lib params outcomes := by
  rw [LiveDocument.insertNewCollab]
  split
  · exact .inr ⟨_, rfl, rfl⟩
  · exact .inl rfl

/-- What every new group has, and what its document holds: what the load ends with, if it
    ends with anything. -/
theorem document_frame (live : opening.LiveRow row) (opened : opening.document lib = some document) :
    ∃ uid cache content written, document = { opening.fresh uid cache content with written } ∧
      KeepsWorkspace opening.cache.table cache.table ∧ (opening.Loads lib row content ∨ content = ∅) := by
  obtain ⟨uid, cache, _, table, ⟨ops, loads, rfl⟩ | ⟨_, rfl | rfl⟩⟩ := document_cases live opened
  · exact ⟨uid, cache, ops, [], rfl, table ▸ .refl _, .inl loads⟩
  · exact ⟨uid, cache, ∅, [], rfl, table ▸ .refl _, .inr rfl⟩
  · have keeps : KeepsWorkspace opening.cache.table cache.table := table ▸ .refl _
    cases insertNewCollab_cases lib (opening.fresh uid cache ∅) opening.insert with
    | inl same => exact ⟨uid, cache, ∅, [], same, keeps, .inr rfl⟩
    | inr held =>
      obtain ⟨params, _, stored⟩ := held
      obtain ⟨later, written, frame, moved⟩ := store_frame lib (opening.fresh uid cache ∅) params opening.insert
      exact ⟨uid, later, ∅, written, stored.trans frame, keeps.trans moved, .inr rfl⟩

/-- A first flush whose write meets no failure stores the document as it is. -/
theorem flush_store_written (document : LiveDocument Op) (undigested : document.plugin.latestCollabMd5 = none)
    (idle : document.pending = []) (named : document.objectId ≠ "")
    (found : document.cache.table document.objectId = some row)
    (workspace : lib.uuidFromStr document.plugin.workspaceId = .ok row.workspaceId) :
    ∃ data ∈ (run (LiveDocument.step lib) document [.flush, .store 0 .good]).written,
      lib.updates data = document.content := by
  obtain ⟨data, encoded, nonempty, decoded⟩ := lib.encode_content document.content
  refine ⟨data, ?_, updates_encoded encoded⟩
  have written : (insertOrUpdateCollab lib document.cache document.plugin.workspaceId document.plugin.uid
      (document.params data) .good).1 = .ok () :=
    insertOrUpdateCollab_good document.plugin.uid named nonempty
      (checkEncodedCollabData_content decoded) found workspace
  have flushed : document.flush lib =
      { document with
        plugin := { document.plugin with latestCollabMd5 := some (lib.md5 data) }
        pending := [document.params data] } := by
    simp [LiveDocument.flush, encoded, undigested, idle]
  simp only [run_cons, run_nil, LiveDocument.step, flushed, List.getElem?_cons_zero, LiveDocument.store]
  revert written
  cases insertOrUpdateCollab lib document.cache document.plugin.workspaceId document.plugin.uid
      (document.params data) .good with
  | mk result cache =>
    rintro rfl
    exact List.mem_append_right _ (.head _)

theorem barred (live : opening.LiveRow row) (opened : opening.document lib = some document)
    (foreign : opening.message.objectId = "" ∨ lib.uuidFromStr opening.message.workspaceId ≠ .ok row.workspaceId) :
    Barred lib document := by
  have fresh : ∀ uid cache (content : Finset Op), cache.table = opening.cache.table →
      Barred lib (opening.fresh uid cache content) := by
    intro uid cache content table
    refine ⟨List.forall_mem_nil _, foreign.imp_right fun other => ⟨row, ?_, other⟩, rfl⟩
    exact (congrFun table _).trans live.1
  obtain ⟨uid, cache, _, table, ⟨ops, _, rfl⟩ | ⟨_, rfl | rfl⟩⟩ := document_cases live opened
  · exact fresh uid cache ops table
  · exact fresh uid cache ∅ table
  · cases insertNewCollab_cases lib (opening.fresh uid cache ∅) opening.insert with
    | inl same =>
      rw [same]
      exact fresh uid cache ∅ table
    | inr held =>
      obtain ⟨params, own, stored⟩ := held
      rw [stored]
      exact (fresh uid cache ∅ table).store own opening.insert

/-- No write of the plugin ever lacks an update of the document that was stored when the
    group was opened, if and only if that document holds nothing, no group is opened, the
    plugin cannot write over it, or the load reaches a copy with everything in it. -/
theorem keepsStored_iff (lib : StorageLib yrs) (opening : Opening) : opening.KeepsStored lib ↔ opening.Safe lib := by
  constructor
  · intro keeps row live
    by_contra unsafely
    simp only [not_or, not_exists, not_and, Decidable.not_not] at unsafely
    obtain ⟨nonempty, origin, named, workspace, incomplete⟩ := unsafely
    obtain ⟨uid, origin⟩ := Option.ne_none_iff_exists'.mp origin
    obtain ⟨document, opened⟩ : ∃ document, opening.document lib = some document := by
      rw [Opening.document, origin]
      exact ⟨_, rfl⟩
    -- the plugin may write the row, and what was loaded lacks something of it
    obtain ⟨uid, cache, content, before, rfl, moved, loaded⟩ := document_frame live opened
    obtain ⟨later, found, same⟩ := moved _ row live.1
    rw [← same] at workspace
    -- the first flush writes what was loaded
    obtain ⟨data, written, holds⟩ := flush_store_written { opening.fresh uid cache content with written := before }
      rfl rfl named found workspace
    have contained := keeps row live _ opened _ data written
    rw [holds] at contained
    cases loaded with
    | inl loads => exact incomplete _ loads contained
    | inr equal =>
      obtain rfl := equal
      exact nonempty (Finset.subset_empty.mp contained)
  · intro safe row live document opened events data written
    -- each way to be safe has its own reason why no write loses anything
    rcases safe row live with nothing | unopened | unnamed | foreign | ⟨ops, loads, complete⟩
    · rw [nothing]
      exact Finset.empty_subset _
    · rw [Opening.document, unopened] at opened
      cases opened
    · rw [((barred live opened (.inl unnamed)).run events).nothing] at written
      cases written
    · rw [((barred live opened (.inr foreign)).run events).nothing] at written
      cases written
    · obtain ⟨uid, cache, _, _, ⟨loaded, loadsThem, rfl⟩ | ⟨never, _⟩⟩ := document_cases live opened
      · obtain rfl := loads.unique loadsThem
        have covers : Covers lib (lib.updates row.blob) (opening.fresh uid cache ops) :=
          ⟨complete, List.forall_mem_nil _, List.forall_mem_nil _⟩
        exact (covers.run events).written data written
      · exact absurd loads (never ops)

end Opened

/-! ## A document opened as a folder -/

/-- The document with the edit `a`, stored in the workspace that the message names. -/
def storedDocument : AfCollabRow where
  blob := [3, 0, 0, 0, 0, 0, 0, 0, 1, 1, 1, 11, 0, 0, 0, 0, 0, 0, 0, 1, 1, 1, 0, 4, 1, 1, 116, 1, 97, 0, 0, 0, 0, 0]
  partitionKey := 0
  ownerUid := 1
  workspaceId := 0x5b7cbb2f4a5c4f3c9a0e1d2c3b4a5f60
  deleted := false

/-- Everything is permitted and nothing fails, but the message says that the document is a
    folder. -/
def openedAsFolder : Opening where
  message := ⟨.client 1 "device", "object", .folder, "5b7cbb2f-4a5c-4f3c-9a0e-1d2c3b4a5f60", 0, []⟩
  cache := ⟨fun objectId => if objectId = "object" then some storedDocument else none, fun _ => none⟩
  read := .good
  answers := .none
  insert := .good

/-- The row of the other type is taken for a missing one, and the empty document of the new
    group is written over it. -/
theorem openedAsFolder_overwrites : ¬ openedAsFolder.KeepsStored typedLib := by
  intro keeps
  have contained := keeps storedDocument ⟨rfl, rfl⟩ _ rfl []
    [1, 0, 0, 0, 0, 0, 0, 0, 0, 2, 0, 0, 0, 0, 0, 0, 0, 0, 0, 0, 0, 0, 0] (by decide +kernel)
  revert contained
  decide

end FlowCloud.Server
