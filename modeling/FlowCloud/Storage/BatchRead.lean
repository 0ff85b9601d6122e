import FlowCloud.Storage.Grants

/-! # Reading collabs one by one and in batches

A single read asks the access control about the user, the object and the workspace of the
query before it looks anything up.  A batch read answers every valid query from the cache,
and from the table what the cache does not hold.  The last section compares what a batch
returns with what the single reads would be allowed to return.
-/

namespace FlowCloud.Storage

open FlowCloud.Foundation FlowCloud.Entity FlowCloud.Protocol FlowCloud.Casbin

inductive QueryCollabResult where
  | success (encodeCollabV1 : Bytes)
  | failed (error : String)
  deriving DecidableEq, Repr

/-- `HashMap<String, QueryCollabResult>`. -/
abbrev QueryResults := String → Option QueryCollabResult

/-- `extend`: a later answer for an object takes the place of an earlier one. -/
def QueryResults.extend (self : QueryResults) (answers : List (String × QueryCollabResult)) : QueryResults :=
  answers.foldl (fun results answer => Function.update results answer.1 (some answer.2)) self

theorem QueryResults.extend_concat (self : QueryResults) (answers : List (String × QueryCollabResult))
    (last : String × QueryCollabResult) :
    self.extend (answers ++ [last]) = Function.update (self.extend answers) last.1 (some last.2) := by
  simp [QueryResults.extend]

theorem QueryResults.extend_append (self : QueryResults) (first second : List (String × QueryCollabResult)) :
    self.extend (first ++ second) = (self.extend first).extend second := List.foldl_append

theorem QueryResults.mem_of_extend {answers : List (String × QueryCollabResult)} {objectId : String}
    {result : QueryCollabResult} (found : QueryResults.extend (fun _ => none) answers objectId = some result) :
    (objectId, result) ∈ answers := by
  -- the answer that counts is the last one for the object
  induction answers using List.reverseRecOn with
  | nil => cases found
  | append_singleton answers last inductionHypothesis =>
    rw [extend_concat] at found
    by_cases same : objectId = last.1
    · subst same
      rw [Function.update_self] at found
      cases found
      exact List.mem_append_right _ (.head _)
    · rw [Function.update_of_ne same] at found
      exact List.mem_append_left _ (inductionHypothesis found)

/-- An object whose answers are all the same has that answer. -/
theorem QueryResults.extend_of_forall (self : QueryResults) {answers : List (String × QueryCollabResult)}
    {objectId : String} {result : QueryCollabResult} (present : (objectId, result) ∈ answers)
    (only : ∀ answer ∈ answers, answer.1 = objectId → answer.2 = result) :
    self.extend answers objectId = some result := by
  induction answers using List.reverseRecOn with
  | nil => cases present
  | append_singleton answers last inductionHypothesis =>
    rw [extend_concat]
    by_cases same : objectId = last.1
    · subst same
      rw [Function.update_self, only last (List.mem_append_right _ (.head _)) rfl]
    · rw [Function.update_of_ne same]
      refine inductionHypothesis ?_ fun answer member => only answer (List.mem_append_left _ member)
      cases List.mem_append.mp present with
      | inl before => exact before
      | inr here => exact absurd (congrArg Prod.fst (List.mem_singleton.mp here)) same

/-! ## The batch read -/

/-- What a batch read meets. -/
structure BatchOutcomes where
  /-- How validation errors are shown. -/
  displayErrors : ValidationErrors → String
  /-- Does the cache answer the lookup of the query at this place? -/
  cacheReachable : Nat → Bool
  selectOutage : CollabType → Option Outage
  /-- The order in which the types are iterated: each once. -/
  typeOrder : List CollabType
  ordered : typeOrder.Nodup ∧ ∀ collabType, collabType ∈ typeOrder

section Read

variable {Op StateVector AwarenessUpdate : Type} [DecidableEq Op] {yrs : Yrs Op StateVector AwarenessUpdate}
  (lib : StorageLib yrs)

/-- The answers to the queries of one type; a query that fails is not answered. -/
def selectCollabBlobs (table : AfCollab) (queries : List QueryCollab) (outage : Option Outage)
    (collabType : CollabType) : List (String × QueryCollabResult) :=
  match outage with
  | some _ => []
  | none =>
    (queries.filter fun query => query.collabType = collabType).map fun query =>
      match selectBlobFromAfCollab lib table collabType query.objectId none with
      | .ok blob => (query.objectId, .success blob)
      | .error _ => (query.objectId, .failed "Record not found")

def batchSelectCollabBlob (table : AfCollab) (queries : List QueryCollab) (outcomes : BatchOutcomes) : QueryResults :=
  QueryResults.extend (fun _ => none) (outcomes.typeOrder.flatMap fun collabType =>
    selectCollabBlobs lib table queries (outcomes.selectOutage collabType) collabType)

def getEncodeCollabBytes (memCache : CollabMemCache) (outcomes : BatchOutcomes) (query : QueryCollab × Nat) :
    Option Bytes :=
  if outcomes.cacheReachable query.2 then memCache query.1.objectId else none

/-- The uid is taken and not used. -/
def batchGetEncodeCollab (cache : CollabCache) (_uid : Int) (queries : List QueryCollab) (outcomes : BatchOutcomes) :
    QueryResults :=
  let cached := queries.zipIdx.filterMap fun query =>
    (getEncodeCollabBytes cache.memCache outcomes query).map fun data => (query.1.objectId, .success data)
  let diskQueries := (queries.zipIdx.filter fun query =>
    (getEncodeCollabBytes cache.memCache outcomes query).isNone).map Prod.fst
  let fromDisk := batchSelectCollabBlob lib cache.table diskQueries outcomes
  fun objectId => (fromDisk objectId).or (QueryResults.extend (fun _ => none) cached objectId)

def CollabStorageImpl.batchGetCollab (self : CollabStorageImpl) (uid : Int) (queries : List QueryCollab)
    (outcomes : BatchOutcomes) : QueryResults :=
  let validQueries := queries.filter fun query => query.validate.isEmpty
  let invalid := (queries.filter fun query => !query.validate.isEmpty).map fun query =>
    (query.objectId, QueryCollabResult.failed (outcomes.displayErrors query.validate))
  let answered := batchGetEncodeCollab lib self.cache uid validQueries outcomes
  fun objectId => (answered objectId).or (QueryResults.extend (fun _ => none) invalid objectId)

/-! ## The single read -/

/-- `get_collab_encoded` with the policies that answer its access check. -/
def CollabStorageImpl.getCollabEncoded (enableAccessControl : Bool) (self : CollabStorageImpl) (uid : Int)
    (params : QueryCollabParams) (isCollabInit : Bool) (outcomes : ReadOutcomes) :
    Except AppError EncodedCollab × CollabStorageImpl :=
  match params.validate with
  | .error error => (.error error, self)
  | .ok () =>
    match self.enforceReadCollab enableAccessControl params.workspaceId uid params.inner.objectId
        outcomes.existsOutage with
    | .error error => (.error error, self)
    | .ok false =>
      (.error (.notEnoughPermissions (toString uid) ("read collab:" ++ params.inner.objectId)), self)
    | .ok true =>
      match if isCollabInit then none else outcomes.editing with
      | some value => (.ok value, self)
      | none =>
        let read := getFromCache lib self.cache params outcomes
        (read.1, { self with cache := read.2 })

end Read

/-! ## What a batch returns -/

section Compare

variable {Op StateVector AwarenessUpdate : Type} [DecidableEq Op] {yrs : Yrs Op StateVector AwarenessUpdate}
  (lib : StorageLib yrs)

/-- The results hold encoded data for the object. -/
def QueryResults.Returns (self : QueryResults) (objectId : String) : Prop :=
  ∃ data, self objectId = some (.success data)

/-- A single read of the object, in the workspace it is stored in, passes the access check. -/
def CollabStorageImpl.MayRead (enableAccessControl : Bool) (self : CollabStorageImpl) (uid : Int) (objectId : String) :
    Prop :=
  ∃ row, self.cache.table objectId = some row ∧
    self.enforceReadCollab enableAccessControl row.workspaceId.text uid objectId none = .ok true

/-- There is data for the query: in the cache, or in a live row of the type it names. -/
def CollabStorageImpl.Holds (self : CollabStorageImpl) (query : QueryCollab) : Prop :=
  self.cache.memCache query.objectId ≠ none ∨
    ∃ row, self.cache.table query.objectId = some row ∧ row.partitionKey = lib.value query.collabType ∧
      row.deleted = false

theorem selectBlobFromAfCollab_eq_ok {table : AfCollab} {collabType : CollabType} {objectId : String} {data : Bytes} :
    selectBlobFromAfCollab lib table collabType objectId none = .ok data ↔
      ∃ row, table objectId = some row ∧ row.partitionKey = lib.value collabType ∧ row.deleted = false ∧
        row.blob = data := by
  rw [selectBlobFromAfCollab]
  cases table objectId with
  | none => simp
  | some row =>
    simp only [Option.some.injEq, exists_eq_left']
    split <;> simp_all

variable {lib}

theorem mem_selectCollabBlobs {table : AfCollab} {queries : List QueryCollab} {outage : Option Outage}
    {collabType : CollabType} {objectId : String} {result : QueryCollabResult}
    (selected : (objectId, result) ∈ selectCollabBlobs lib table queries outage collabType) :
    ∃ query ∈ queries, query.objectId = objectId ∧ query.collabType = collabType ∧
      ∀ data, result = .success data → selectBlobFromAfCollab lib table collabType objectId none = .ok data := by
  cases outage with
  | some outage => cases selected
  | none =>
    simp only [selectCollabBlobs] at selected
    obtain ⟨query, member, answer⟩ := List.mem_map.mp selected
    obtain ⟨listed, ofType⟩ := List.mem_filter.mp member
    cases read : selectBlobFromAfCollab lib table collabType query.objectId none with
    | error error =>
      rw [read] at answer
      cases answer
      exact ⟨query, listed, rfl, by simpa using ofType, nofun⟩
    | ok blob =>
      rw [read] at answer
      cases answer
      refine ⟨query, listed, rfl, by simpa using ofType, fun data same => ?_⟩
      cases same
      exact read

/-- An object that has a row of the type is answered with it, whenever it is asked for. -/
theorem selectCollabBlobs_found {table : AfCollab} {queries : List QueryCollab} {query : QueryCollab} {data : Bytes}
    (listed : query ∈ queries)
    (read : selectBlobFromAfCollab lib table query.collabType query.objectId none = .ok data) (results : QueryResults) :
    results.extend (selectCollabBlobs lib table queries none query.collabType) query.objectId =
      some (.success data) := by
  refine results.extend_of_forall ?_ fun answer member same => ?_
  · refine List.mem_map.mpr ⟨query, List.mem_filter.mpr ⟨listed, by simp⟩, ?_⟩
    rw [read]
  · obtain ⟨other, _, rfl⟩ := List.mem_map.mp member
    cases otherRead : selectBlobFromAfCollab lib table query.collabType other.objectId none with
    | error error =>
      simp only [otherRead] at same
      rw [same, read] at otherRead
      cases otherRead
    | ok blob =>
      simp only [otherRead] at same ⊢
      rw [same, read] at otherRead
      cases otherRead
      rfl

variable {storage : CollabStorageImpl} {uid : Int} {queries : List QueryCollab} {outcomes : BatchOutcomes}
  {objectId : String}

theorem mem_valid {query : QueryCollab} {place : Nat}
    (listed : (query, place) ∈ (queries.filter fun query => query.validate.isEmpty).zipIdx) :
    query ∈ queries ∧ query.validate = [] := by
  have member := List.mem_filter.mp (List.fst_mem_of_mem_zipIdx listed)
  exact ⟨member.1, List.isEmpty_iff.mp member.2⟩

/-- Whatever is returned was held for some valid query. -/
theorem returns_holds (returned : (storage.batchGetCollab lib uid queries outcomes).Returns objectId) :
    ∃ query ∈ queries, query.validate = [] ∧ query.objectId = objectId ∧ storage.Holds lib query := by
  obtain ⟨data, found⟩ := returned
  rw [CollabStorageImpl.batchGetCollab] at found
  cases Option.or_eq_some_iff.mp found with
  | inl answered =>
    rw [batchGetEncodeCollab] at answered
    rcases Option.or_eq_some_iff.mp answered with fromDisk | ⟨_, cached⟩
    · obtain ⟨collabType, _, selected⟩ := List.mem_flatMap.mp (QueryResults.mem_of_extend fromDisk)
      obtain ⟨query, listed, rfl, rfl, read⟩ := mem_selectCollabBlobs selected
      obtain ⟨⟨other, place⟩, member, rfl⟩ := List.mem_map.mp listed
      obtain ⟨asked, valid⟩ := mem_valid (List.mem_filter.mp member).1
      obtain ⟨row, stored, key, live, _⟩ := (selectBlobFromAfCollab_eq_ok lib).mp (read data rfl)
      exact ⟨other, asked, valid, rfl, .inr ⟨row, stored, key, live⟩⟩
    · obtain ⟨⟨query, place⟩, listed, hit⟩ := List.mem_filterMap.mp (QueryResults.mem_of_extend cached)
      obtain ⟨asked, valid⟩ := mem_valid listed
      obtain ⟨bytes, got, same⟩ := Option.map_eq_some_iff.mp hit
      cases same
      refine ⟨query, asked, valid, rfl, .inl ?_⟩
      rw [getEncodeCollabBytes] at got
      split at got
      · exact Option.ne_none_iff_exists'.mpr ⟨_, got⟩
      · cases got
  | inr given =>
    obtain ⟨_, invalid⟩ := given
    -- an invalid query is answered with its errors
    obtain ⟨query, _, answer⟩ := List.mem_map.mp (QueryResults.mem_of_extend invalid)
    cases answer

/-- Everything is answered, and the rows of the given type are looked up last. -/
def BatchOutcomes.answering (collabType : CollabType) : BatchOutcomes where
  displayErrors := fun _ => ""
  cacheReachable := fun _ => true
  selectOutage := fun _ => none
  typeOrder :=
    [CollabType.document, .database, .workspaceDatabase, .folder, .databaseRow, .userAwareness].erase collabType ++
      [collabType]
  ordered := by cases collabType <;> exact ⟨by decide, fun other => by cases other <;> decide⟩

theorem batchGetEncodeCollab_held (uid : Int) {query : QueryCollab} (asked : query ∈ queries)
    (holds : storage.Holds lib query) :
    ∃ data, batchGetEncodeCollab lib storage.cache uid queries (.answering query.collabType) query.objectId =
      some (.success data) := by
  have lookup : ∀ listed, getEncodeCollabBytes storage.cache.memCache (.answering query.collabType) listed =
      storage.cache.memCache listed.1.objectId := fun _ => rfl
  obtain ⟨place, here⟩ := List.mem_iff_getElem?.mp asked
  have placed : (query, place) ∈ queries.zipIdx := List.mk_mem_zipIdx_iff_getElem?.mpr here
  cases cached : storage.cache.memCache query.objectId with
  | some bytes =>
    refine ⟨bytes, Option.or_eq_some_iff.mpr (.inr ⟨?_, ?_⟩)⟩
    · -- the object is never looked up on disk
      cases fromDisk : batchSelectCollabBlob lib storage.cache.table _ (.answering query.collabType) query.objectId with
      | none => rfl
      | some result =>
        obtain ⟨collabType, _, selected⟩ := List.mem_flatMap.mp (QueryResults.mem_of_extend fromDisk)
        obtain ⟨other, listed, same, _⟩ := mem_selectCollabBlobs selected
        obtain ⟨⟨_, place⟩, missed, rfl⟩ := List.mem_map.mp listed
        have missing := (List.mem_filter.mp missed).2
        rw [lookup, same, cached] at missing
        cases missing
    · refine QueryResults.extend_of_forall _ (List.mem_filterMap.mpr ⟨_, placed, ?_⟩) ?_
      · simp [lookup, cached]
      · intro answer member same
        obtain ⟨listed, _, hit⟩ := List.mem_filterMap.mp member
        obtain ⟨data, got, rfl⟩ := Option.map_eq_some_iff.mp hit
        have sameObject : listed.1.objectId = query.objectId := same
        rw [lookup, sameObject, cached] at got
        cases got
        rfl
  | none =>
    obtain ⟨row, found, key, live⟩ := holds.resolve_left (by rw [cached]; exact fun absent => absent rfl)
    refine ⟨row.blob, Option.or_eq_some_iff.mpr (.inl ?_)⟩
    have read : selectBlobFromAfCollab lib storage.cache.table query.collabType query.objectId none = .ok row.blob :=
      (selectBlobFromAfCollab_eq_ok lib).mpr ⟨row, found, key, live, rfl⟩
    have missed : query ∈ (queries.zipIdx.filter fun listed =>
        (getEncodeCollabBytes storage.cache.memCache (.answering query.collabType) listed).isNone).map Prod.fst :=
      List.mem_map.mpr ⟨_, List.mem_filter.mpr ⟨placed, by rw [lookup, cached]; rfl⟩, rfl⟩
    -- the rows of the query's type come last
    have last : (BatchOutcomes.answering query.collabType).typeOrder =
        [CollabType.document, .database, .workspaceDatabase, .folder, .databaseRow, .userAwareness].erase
          query.collabType ++ [query.collabType] := rfl
    rw [batchSelectCollabBlob, last, List.flatMap_append, QueryResults.extend_append, List.flatMap_singleton]
    exact selectCollabBlobs_found missed read _

theorem holds_returns {query : QueryCollab} (asked : query ∈ queries) (valid : query.validate = [])
    (holds : storage.Holds lib query) :
    (storage.batchGetCollab lib uid queries (.answering query.collabType)).Returns query.objectId := by
  have listed : query ∈ queries.filter fun query => query.validate.isEmpty :=
    List.mem_filter.mpr ⟨asked, List.isEmpty_iff.mpr valid⟩
  obtain ⟨data, answered⟩ := batchGetEncodeCollab_held uid listed holds
  exact ⟨data, Option.or_eq_some_iff.mpr (.inl answered)⟩

/-- A batch read returns no more than the single reads may, whatever it meets, exactly when
    the user may read every object that a valid query finds data for. -/
theorem batch_read_no_weaker_iff (lib : StorageLib yrs) (enableAccessControl : Bool) (storage : CollabStorageImpl)
    (uid : Int) (queries : List QueryCollab) :
    (∀ outcomes objectId, (storage.batchGetCollab lib uid queries outcomes).Returns objectId →
        storage.MayRead enableAccessControl uid objectId) ↔
      ∀ query ∈ queries, query.validate = [] → storage.Holds lib query →
        storage.MayRead enableAccessControl uid query.objectId := by
  constructor
  · intro noWeaker query asked valid holds
    exact noWeaker _ _ (holds_returns asked valid holds)
  · intro mayRead outcomes objectId returned
    obtain ⟨query, asked, valid, rfl, holds⟩ := returns_holds returned
    exact mayRead query asked valid holds

/-- One stored document and no rights. -/
def stored : CollabStorageImpl :=
  { CollabStorageImpl.bare with
    cache := ⟨fun objectId => if objectId = "doc" then some ⟨[1], 0, 2, 0, false⟩ else none, fun _ => none⟩ }

/-- A user without any right reads the document of another one through a batch. -/
theorem batch_read_unchecked :
    ¬ ∀ (storage : CollabStorageImpl) (uid : Int) (queries : List QueryCollab) (outcomes : BatchOutcomes)
        (objectId : String),
      (storage.batchGetCollab typedLib uid queries outcomes).Returns objectId →
        storage.MayRead true uid objectId := by
  intro noWeaker
  have holds : stored.Holds typedLib ⟨"doc", .document⟩ :=
    .inr ⟨⟨[1], 0, 2, 0, false⟩, rfl, rfl, rfl⟩
  have asked : (⟨"doc", .document⟩ : QueryCollab) ∈ [⟨"doc", .document⟩] := .head _
  obtain ⟨row, found, allowed⟩ := noWeaker stored 1 [⟨"doc", .document⟩] _ "doc"
    (holds_returns asked (by decide) holds)
  cases found
  -- no row of the policies allows the read
  have rights : stored.accessControl.enforcer.enforcer.Grants 1 (.workspace (Uuid.text 0)) (.fromAction .read) ∨
      stored.accessControl.enforcer.enforcer.Grants 1 (.collab "doc") (.fromAction .read) :=
    (enforcePolicy_collab rfl _ 1 "doc" _).mp allowed
  cases rights with
  | inl role =>
    obtain ⟨rule, member, _⟩ := role
    exact RuleTable.not_mem_empty rule member
  | inr own =>
    obtain ⟨rule, member, _⟩ := own
    exact RuleTable.not_mem_empty rule member

end Compare

end FlowCloud.Storage
