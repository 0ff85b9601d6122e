import FlowCloud.Storage.BatchRead

/-! # The answers of a batch read

The queries of a batch are split three times: the invalid ones, those that the cache answers,
and the others by their type.  The first part says what each of these contributes for an
object, the second one when all of them give the object the answer it has in the table.
-/

namespace FlowCloud.Storage

open FlowCloud.Foundation FlowCloud.Entity FlowCloud.Protocol

theorem QueryResults.isSome_extend {answers : List (String × QueryCollabResult)} {objectId : String} :
    (QueryResults.extend (fun _ => none) answers objectId).isSome = true ↔ ∃ answer ∈ answers, answer.1 = objectId := by
  constructor
  · intro some
    obtain ⟨result, found⟩ := Option.isSome_iff_exists.mp some
    exact ⟨_, mem_of_extend found, rfl⟩
  · intro answered
    induction answers using List.reverseRecOn with
    | nil =>
      obtain ⟨_, member, _⟩ := answered
      cases member
    | append_singleton answers last inductionHypothesis =>
      rw [extend_concat]
      by_cases same : objectId = last.1
      · subst same
        rw [Function.update_self]
        rfl
      · rw [Function.update_of_ne same]
        obtain ⟨answer, member, named⟩ := answered
        cases List.mem_append.mp member with
        | inl before => exact inductionHypothesis ⟨answer, before, named⟩
        | inr here =>
          rw [List.mem_singleton.mp here] at named
          exact absurd named.symm same

section Parts

variable {Op StateVector AwarenessUpdate : Type} [DecidableEq Op] {yrs : Yrs Op StateVector AwarenessUpdate}
  {lib : StorageLib yrs} {table : AfCollab} {queries : List QueryCollab} {outcomes : BatchOutcomes} {objectId : String}

/-! ## What the table contributes -/

/-- The answer of the table to a query of a type that can be asked for. -/
def tableAnswer (lib : StorageLib yrs) (table : AfCollab) (query : QueryCollab) : QueryCollabResult :=
  match selectBlobFromAfCollab lib table query.collabType query.objectId none with
  | .ok blob => .success blob
  | .error _ => .failed "Record not found"

theorem selectCollabBlobs_eq (collabType : CollabType) :
    selectCollabBlobs lib table queries none collabType =
      (queries.filter fun query => query.collabType = collabType).map fun query =>
        (query.objectId, tableAnswer lib table query) := by
  apply List.map_congr_left
  intro query member
  have ofType : query.collabType = collabType := by simpa using (List.mem_filter.mp member).2
  subst ofType
  rw [tableAnswer]
  cases selectBlobFromAfCollab lib table query.collabType query.objectId none with
  | ok blob => rfl
  | error error => rfl

/-- Every query of a type without an outage is answered, and no other one. -/
theorem mem_selected {answer : String × QueryCollabResult} :
    answer ∈ outcomes.typeOrder.flatMap (fun collabType =>
        selectCollabBlobs lib table queries (outcomes.selectOutage collabType) collabType) ↔
      ∃ query ∈ queries, outcomes.selectOutage query.collabType = none ∧
        answer = (query.objectId, tableAnswer lib table query) := by
  rw [List.mem_flatMap]
  constructor
  · rintro ⟨collabType, _, selected⟩
    cases outage : outcomes.selectOutage collabType with
    | some failure =>
      rw [outage] at selected
      cases selected
    | none =>
      rw [outage, selectCollabBlobs_eq] at selected
      obtain ⟨query, member, rfl⟩ := List.mem_map.mp selected
      obtain ⟨listed, ofType⟩ := List.mem_filter.mp member
      simp only [decide_eq_true_eq] at ofType
      subst ofType
      exact ⟨query, listed, outage, rfl⟩
  · rintro ⟨query, listed, reached, rfl⟩
    refine ⟨query.collabType, outcomes.ordered.2 query.collabType, ?_⟩
    rw [reached, selectCollabBlobs_eq]
    exact List.mem_map.mpr ⟨query, List.mem_filter.mpr ⟨listed, decide_eq_true rfl⟩, rfl⟩

theorem isSome_batchSelectCollabBlob :
    (batchSelectCollabBlob lib table queries outcomes objectId).isSome = true ↔
      ∃ query ∈ queries, outcomes.selectOutage query.collabType = none ∧ query.objectId = objectId := by
  rw [batchSelectCollabBlob, QueryResults.isSome_extend]
  constructor
  · rintro ⟨answer, selected, named⟩
    obtain ⟨query, listed, reached, rfl⟩ := mem_selected.mp selected
    exact ⟨query, listed, reached, named⟩
  · rintro ⟨query, listed, reached, named⟩
    exact ⟨_, mem_selected.mpr ⟨query, listed, reached, rfl⟩, named⟩

/-! ## What the cache contributes -/

variable {cache : CollabCache} {uid : Int}

/-- A batch answers an object from the cache, or from the table for a query of it. -/
theorem batchGetEncodeCollab_eq_some {result : QueryCollabResult}
    (answered : batchGetEncodeCollab lib cache uid queries outcomes objectId = some result) :
    ∃ query ∈ queries, query.objectId = objectId ∧
      ((∃ data, cache.memCache objectId = some data ∧ result = .success data) ∨
        outcomes.selectOutage query.collabType = none ∧ result = tableAnswer lib cache.table query) := by
  cases Option.or_eq_some_iff.mp answered with
  | inl fromDisk =>
    obtain ⟨query, listed, reached, same⟩ := mem_selected.mp (QueryResults.mem_of_extend fromDisk)
    cases same
    obtain ⟨⟨query, place⟩, member, rfl⟩ := List.mem_map.mp listed
    exact ⟨query, List.fst_mem_of_mem_zipIdx (List.mem_filter.mp member).1, rfl, .inr ⟨reached, rfl⟩⟩
  | inr held =>
    obtain ⟨_, cached⟩ := held
    obtain ⟨⟨query, place⟩, listed, hit⟩ := List.mem_filterMap.mp (QueryResults.mem_of_extend cached)
    obtain ⟨data, got, same⟩ := Option.map_eq_some_iff.mp hit
    cases same
    refine ⟨query, List.fst_mem_of_mem_zipIdx listed, rfl, .inl ⟨data, ?_, rfl⟩⟩
    rw [getEncodeCollabBytes] at got
    by_cases reachable : outcomes.cacheReachable place = true
    · rwa [if_pos reachable] at got
    · rw [if_neg reachable] at got
      cases got

/-- A query whose type can be asked for is answered one way or the other. -/
theorem isSome_batchGetEncodeCollab {query : QueryCollab} (listed : query ∈ queries)
    (reached : outcomes.selectOutage query.collabType = none) :
    (batchGetEncodeCollab lib cache uid queries outcomes query.objectId).isSome = true := by
  obtain ⟨place, here⟩ := List.mem_iff_getElem?.mp listed
  have placed : (query, place) ∈ queries.zipIdx := List.mk_mem_zipIdx_iff_getElem?.mpr here
  rw [batchGetEncodeCollab, Option.isSome_or, Bool.or_eq_true]
  cases got : getEncodeCollabBytes cache.memCache outcomes (query, place) with
  | some data =>
    refine .inr (QueryResults.isSome_extend.mpr
      ⟨(query.objectId, .success data), List.mem_filterMap.mpr ⟨_, placed, ?_⟩, rfl⟩)
    rw [got]
    rfl
  | none =>
    refine .inl (isSome_batchSelectCollabBlob.mpr ⟨query, ?_, reached, rfl⟩)
    refine List.mem_map.mpr ⟨_, List.mem_filter.mpr ⟨placed, ?_⟩, rfl⟩
    rw [got]
    rfl

theorem batchGetEncodeCollab_hit {data : Bytes} {result : QueryCollabResult}
    (held : cache.memCache objectId = some data)
    (reachable : ∀ place, outcomes.cacheReachable place = true)
    (answered : batchGetEncodeCollab lib cache uid queries outcomes objectId = some result) :
    result = .success data := by
  cases Option.or_eq_some_iff.mp answered with
  | inl fromDisk =>
    -- a query of the object is not passed on to the table
    obtain ⟨query, listed, _, same⟩ := mem_selected.mp (QueryResults.mem_of_extend fromDisk)
    cases same
    obtain ⟨⟨query, place⟩, member, rfl⟩ := List.mem_map.mp listed
    have missed := (List.mem_filter.mp member).2
    rw [getEncodeCollabBytes, if_pos (reachable place), held] at missed
    cases missed
  | inr found =>
    obtain ⟨_, cached⟩ := found
    obtain ⟨⟨query, place⟩, _, hit⟩ := List.mem_filterMap.mp (QueryResults.mem_of_extend cached)
    obtain ⟨other, got, same⟩ := Option.map_eq_some_iff.mp hit
    cases same
    rw [getEncodeCollabBytes, if_pos (reachable place), held] at got
    cases got
    rfl

/-- Without the cache, the type that is iterated last has the last word. -/
theorem batchGetEncodeCollab_last {query : QueryCollab} (listed : query ∈ queries) (types : List CollabType)
    (order : outcomes.typeOrder = types ++ [query.collabType])
    (reached : outcomes.selectOutage query.collabType = none) :
    batchGetEncodeCollab lib ⟨table, fun _ => none⟩ uid queries outcomes query.objectId =
      some (tableAnswer lib table query) := by
  have lookup : ∀ entry, getEncodeCollabBytes (fun _ => none) outcomes entry = none := fun entry => by
    rw [getEncodeCollabBytes, ite_self]
  have disk : (queries.zipIdx.filter fun entry =>
      (getEncodeCollabBytes (fun _ => none) outcomes entry).isNone).map Prod.fst = queries := by
    simp [lookup]
  refine Option.or_eq_some_iff.mpr (.inl ?_)
  rw [batchSelectCollabBlob, order, List.flatMap_append, QueryResults.extend_append, List.flatMap_singleton, disk,
    reached, selectCollabBlobs_eq]
  apply QueryResults.extend_of_forall
  · exact List.mem_map.mpr ⟨query, List.mem_filter.mpr ⟨listed, decide_eq_true rfl⟩, rfl⟩
  · intro answer member named
    obtain ⟨other, ofType, rfl⟩ := List.mem_map.mp member
    -- a query of the same object and type is the same query
    have same : other = query := by
      obtain ⟨otherId, otherType⟩ := other
      simp only [List.mem_filter, decide_eq_true_eq] at ofType named
      rw [named, ofType.2]
    rw [same]

end Parts

/-! ## The law of a batch read -/

section Law

variable {Op StateVector AwarenessUpdate : Type} [DecidableEq Op] {yrs : Yrs Op StateVector AwarenessUpdate}
  (lib : StorageLib yrs) (storage : CollabStorageImpl) (queries : List QueryCollab)
  (selectOutage : CollabType → Option Outage)

def CollabStorageImpl.withMemCache (self : CollabStorageImpl) (memCache : CollabMemCache) : CollabStorageImpl :=
  { self with cache := { self.cache with memCache } }

/-- The cache holds nothing but the bytes of live rows. -/
def AfCollab.Caches (table : AfCollab) (memCache : CollabMemCache) : Prop :=
  ∀ objectId data, memCache objectId = some data →
    ∃ row, table objectId = some row ∧ row.deleted = false ∧ row.blob = data

/-- With these outages every object that is queried has an entry and no other one does, and the
    entries are the same whatever the cache holds of the table, can be reached or not, and
    whatever the order of the types. -/
structure AnswersAlike : Prop where
  answered : ∀ uid memCache outcomes objectId, outcomes.selectOutage = selectOutage →
    (((storage.withMemCache memCache).batchGetCollab lib uid queries outcomes objectId).isSome = true ↔
      ∃ query ∈ queries, query.objectId = objectId)
  independent : ∀ uid warm cold (outcomes others : BatchOutcomes), outcomes.selectOutage = selectOutage →
    others.selectOutage = selectOutage → outcomes.displayErrors = others.displayErrors →
    storage.cache.table.Caches warm → storage.cache.table.Caches cold →
    (storage.withMemCache warm).batchGetCollab lib uid queries outcomes =
      (storage.withMemCache cold).batchGetCollab lib uid queries others

/-- Each object can be asked for in the table under one of the types that it is queried with, and
    these types are that of its row. -/
structure Askable : Prop where
  reached : ∀ query ∈ queries, query.validate = [] →
    ∃ other ∈ queries, other.objectId = query.objectId ∧ selectOutage other.collabType = none
  typed : ∀ query ∈ queries, query.validate = [] → selectOutage query.collabType = none →
    ∀ row, storage.cache.table query.objectId = some row → row.deleted = false →
      row.partitionKey = lib.value query.collabType

variable {lib storage queries selectOutage} {uid : Int} {memCache : CollabMemCache} {outcomes : BatchOutcomes}
  {objectId : String} {query : QueryCollab}

/-- Whether a query is valid is a matter of its object. -/
theorem validate_congr {first second : QueryCollab} (same : first.objectId = second.objectId) :
    first.validate = second.validate := by
  rw [QueryCollab.validate, QueryCollab.validate, same]

theorem mem_validQueries :
    query ∈ queries.filter (fun query => query.validate.isEmpty) ↔ query ∈ queries ∧ query.validate = [] := by
  rw [List.mem_filter, List.isEmpty_iff]

/-- An invalid object is answered with its errors, a valid one as the table and the cache say. -/
theorem batchGetCollab_eq_some {result : QueryCollabResult}
    (answered : storage.batchGetCollab lib uid queries outcomes objectId = some result) :
    (∃ query ∈ queries, query.objectId = objectId ∧ query.validate ≠ [] ∧
        result = .failed (outcomes.displayErrors query.validate)) ∨
      batchGetEncodeCollab lib storage.cache uid (queries.filter fun query => query.validate.isEmpty) outcomes
        objectId = some result := by
  cases Option.or_eq_some_iff.mp answered with
  | inl valid => exact .inr valid
  | inr held =>
    obtain ⟨_, invalid⟩ := held
    obtain ⟨query, member, same⟩ := List.mem_map.mp (QueryResults.mem_of_extend invalid)
    cases same
    obtain ⟨listed, errors⟩ := List.mem_filter.mp member
    refine .inl ⟨query, listed, rfl, ?_, rfl⟩
    intro none
    simp [none] at errors

/-- A valid object is answered as the table and the cache say. -/
theorem batchGetCollab_of_valid (valid : query.validate = []) {result : QueryCollabResult}
    (answered : storage.batchGetCollab lib uid queries outcomes query.objectId = some result) :
    batchGetEncodeCollab lib storage.cache uid (queries.filter fun query => query.validate.isEmpty) outcomes
      query.objectId = some result := by
  cases batchGetCollab_eq_some answered with
  | inl held =>
    obtain ⟨_, _, named, invalid, _⟩ := held
    exact absurd ((validate_congr named).trans valid) invalid
  | inr found => exact found

theorem isSome_of_invalid (listed : query ∈ queries) (invalid : query.validate ≠ []) :
    (storage.batchGetCollab lib uid queries outcomes query.objectId).isSome = true := by
  rw [CollabStorageImpl.batchGetCollab, Option.isSome_or, Bool.or_eq_true]
  refine .inr (QueryResults.isSome_extend.mpr ⟨_, List.mem_map.mpr ⟨query, List.mem_filter.mpr ⟨listed, ?_⟩, rfl⟩, rfl⟩)
  simpa using invalid

theorem isSome_of_valid {other : QueryCollab} (listed : other ∈ queries) (valid : query.validate = [])
    (same : other.objectId = query.objectId) (reached : outcomes.selectOutage other.collabType = none) :
    (storage.batchGetCollab lib uid queries outcomes query.objectId).isSome = true := by
  rw [CollabStorageImpl.batchGetCollab, Option.isSome_or, Bool.or_eq_true, ← same]
  exact .inl (isSome_batchGetEncodeCollab (mem_validQueries.mpr ⟨listed, (validate_congr same).trans valid⟩) reached)

theorem queried_of_isSome (some : (storage.batchGetCollab lib uid queries outcomes objectId).isSome = true) :
    ∃ query ∈ queries, query.objectId = objectId := by
  obtain ⟨result, answered⟩ := Option.isSome_iff_exists.mp some
  cases batchGetCollab_eq_some answered with
  | inl held =>
    obtain ⟨query, listed, named, _⟩ := held
    exact ⟨query, listed, named⟩
  | inr valid =>
    obtain ⟨query, listed, named, _⟩ := batchGetEncodeCollab_eq_some valid
    exact ⟨query, (mem_validQueries.mp listed).1, named⟩

/-! ## What a batch should answer -/

def AfCollab.answer (table : AfCollab) (objectId : String) : QueryCollabResult :=
  match table objectId with
  | some row => if row.deleted = false then .success row.blob else .failed "Record not found"
  | none => .failed "Record not found"

/-- Of a type that an object has, or that it could have, the table answers what it holds. -/
theorem tableAnswer_eq {table : AfCollab}
    (typed : ∀ row, table query.objectId = some row → row.deleted = false →
      row.partitionKey = lib.value query.collabType) :
    tableAnswer lib table query = table.answer query.objectId := by
  rw [tableAnswer, AfCollab.answer, selectBlobFromAfCollab]
  cases stored : table query.objectId with
  | none => rfl
  | some row =>
    simp only
    by_cases live : row.deleted = false
    · rw [if_pos ⟨typed row stored live, live⟩, if_pos live]
    · rw [if_neg fun found => live found.2, if_neg live]

theorem tableAnswer_mismatch {table : AfCollab} {row : AfCollabRow} (stored : table query.objectId = some row)
    (differs : row.partitionKey ≠ lib.value query.collabType) :
    tableAnswer lib table query = .failed "Record not found" := by
  rw [tableAnswer, selectBlobFromAfCollab, stored]
  simp only
  rw [if_neg fun found => differs found.1]

theorem AfCollab.Caches.answer {table : AfCollab} (caches : table.Caches memCache) {data : Bytes}
    (held : memCache objectId = some data) : table.answer objectId = .success data := by
  obtain ⟨row, stored, live, rfl⟩ := caches objectId data held
  rw [AfCollab.answer, stored]
  exact if_pos live

/-- Where every object can be asked for, it is answered with what the table holds. -/
theorem Askable.answer (askable : Askable lib storage queries outcomes.selectOutage)
    (caches : storage.cache.table.Caches memCache) (valid : query.validate = []) {result : QueryCollabResult}
    (answered : (storage.withMemCache memCache).batchGetCollab lib uid queries outcomes query.objectId = some result) :
    result = storage.cache.table.answer query.objectId := by
  obtain ⟨other, listed, named, answer⟩ := batchGetEncodeCollab_eq_some (batchGetCollab_of_valid valid answered)
  rcases answer with ⟨data, held, rfl⟩ | ⟨reached, rfl⟩
  · exact (caches.answer held).symm
  · obtain ⟨listed, otherValid⟩ := mem_validQueries.mp listed
    rw [← named]
    exact tableAnswer_eq (askable.typed other listed otherValid reached)

theorem answer_of_invalid (invalid : query.validate ≠ []) {result : QueryCollabResult}
    (answered : storage.batchGetCollab lib uid queries outcomes query.objectId = some result) :
    result = .failed (outcomes.displayErrors query.validate) := by
  cases batchGetCollab_eq_some answered with
  | inl held =>
    obtain ⟨other, _, named, _, rfl⟩ := held
    rw [validate_congr named]
  | inr found =>
    obtain ⟨other, listed, named, _⟩ := batchGetEncodeCollab_eq_some found
    exact absurd ((validate_congr named).symm.trans (mem_validQueries.mp listed).2) invalid

theorem Askable.isSome (askable : Askable lib storage queries outcomes.selectOutage) :
    ((storage.withMemCache memCache).batchGetCollab lib uid queries outcomes objectId).isSome = true ↔
      ∃ query ∈ queries, query.objectId = objectId := by
  constructor
  · exact queried_of_isSome
  · rintro ⟨query, listed, rfl⟩
    by_cases valid : query.validate = []
    · obtain ⟨other, otherListed, same, reached⟩ := askable.reached query listed valid
      exact isSome_of_valid otherListed valid same reached
    · exact isSome_of_invalid listed valid

theorem Askable.answersAlike (askable : Askable lib storage queries selectOutage) :
    AnswersAlike lib storage queries selectOutage where
  answered := by
    rintro uid memCache outcomes objectId rfl
    exact askable.isSome
  independent := by
    rintro uid warm cold outcomes others rfl same display warmCaches coldCaches
    have askableToo : Askable lib storage queries others.selectOutage := same ▸ askable
    funext objectId
    by_cases queried : ∃ query ∈ queries, query.objectId = objectId
    · obtain ⟨first, fromWarm⟩ := Option.isSome_iff_exists.mp (askable.isSome.mpr queried)
      obtain ⟨second, fromCold⟩ := Option.isSome_iff_exists.mp (askableToo.isSome.mpr queried)
      rw [fromWarm, fromCold]
      obtain ⟨query, _, rfl⟩ := queried
      by_cases valid : query.validate = []
      · rw [askable.answer warmCaches valid fromWarm, askableToo.answer coldCaches valid fromCold]
      · rw [answer_of_invalid valid fromWarm, answer_of_invalid valid fromCold, display]
    · have none : ∀ {memCache : CollabMemCache} {outcomes : BatchOutcomes},
          (storage.withMemCache memCache).batchGetCollab lib uid queries outcomes objectId = none := by
        intro memCache outcomes
        rw [← Option.not_isSome_iff_eq_none]
        exact fun some => queried (queried_of_isSome some)
      rw [none, none]

/-- A read with these outages in which the type of the query is iterated last. -/
def BatchOutcomes.typeLast (selectOutage : CollabType → Option Outage) (collabType : CollabType) : BatchOutcomes :=
  { BatchOutcomes.answering collabType with selectOutage }

def oneCached (objectId : String) (data : Bytes) : CollabMemCache :=
  fun other => if other = objectId then some data else none

theorem caches_oneCached {table : AfCollab} {row : AfCollabRow} (stored : table objectId = some row)
    (live : row.deleted = false) : table.Caches (oneCached objectId row.blob) := by
  intro other data held
  rw [oneCached] at held
  by_cases named : other = objectId
  · rw [if_pos named] at held
    cases held
    exact ⟨row, named ▸ stored, live, rfl⟩
  · rw [if_neg named] at held
    cases held

theorem answer_empty (listed : query ∈ queries) (valid : query.validate = [])
    (reached : selectOutage query.collabType = none) :
    (storage.withMemCache fun _ => none).batchGetCollab lib uid queries (.typeLast selectOutage query.collabType)
      query.objectId = some (tableAnswer lib storage.cache.table query) := by
  apply Option.or_eq_some_iff.mpr
  exact .inl (batchGetEncodeCollab_last (mem_validQueries.mpr ⟨listed, valid⟩) _ rfl reached)

theorem answer_single {data : Bytes} {result : QueryCollabResult} (valid : query.validate = [])
    (answered : (storage.withMemCache (oneCached query.objectId data)).batchGetCollab lib uid queries
      (.typeLast selectOutage query.collabType) query.objectId = some result) :
    result = .success data := by
  have found := batchGetCollab_of_valid valid answered
  exact batchGetEncodeCollab_hit (if_pos rfl) (fun _ => rfl) found

theorem AnswersAlike.askable (alike : AnswersAlike lib storage queries selectOutage) :
    Askable lib storage queries selectOutage where
  reached := by
    intro query listed valid
    have some := (alike.answered 0 (fun _ => none) (.typeLast selectOutage query.collabType) query.objectId rfl).mpr
      ⟨query, listed, rfl⟩
    obtain ⟨result, answered⟩ := Option.isSome_iff_exists.mp some
    obtain ⟨other, otherListed, named, answer⟩ :=
      batchGetEncodeCollab_eq_some (batchGetCollab_of_valid valid answered)
    rcases answer with ⟨_, held, _⟩ | ⟨reached, _⟩
    · cases held
    · exact ⟨other, (mem_validQueries.mp otherListed).1, named, reached⟩
  typed := by
    intro query listed valid reached row stored live
    by_contra differs
    have coldCaches : storage.cache.table.Caches fun _ => none := by
      intro objectId data held
      cases held
    have same := congrFun (alike.independent 0 _ _ (.typeLast selectOutage query.collabType)
      (.typeLast selectOutage query.collabType) rfl rfl rfl (caches_oneCached stored live) coldCaches) query.objectId
    rw [answer_empty listed valid reached, tableAnswer_mismatch stored differs] at same
    have success := answer_single valid same
    cases success

end Law

/-- A batch answers every object, and the same with a warm or a cold cache, exactly if each object
    is queried under a type whose rows can be read, and under no such type that its row has not. -/
theorem batch_answers_alike_iff {Op StateVector AwarenessUpdate : Type} [DecidableEq Op]
    {yrs : Yrs Op StateVector AwarenessUpdate} (lib : StorageLib yrs) (storage : CollabStorageImpl)
    (queries : List QueryCollab) (selectOutage : CollabType → Option Outage) :
    AnswersAlike lib storage queries selectOutage ↔ Askable lib storage queries selectOutage :=
  ⟨AnswersAlike.askable, Askable.answersAlike⟩

/-- A stored document that is asked for as a folder is found as long as it is cached. -/
theorem batch_answers_depend_on_cache :
    ¬ ∀ (storage : CollabStorageImpl) (queries : List QueryCollab) (selectOutage : CollabType → Option Outage),
      AnswersAlike typedLib storage queries selectOutage := by
  intro alike
  have typed := (alike stored [⟨"doc", .folder⟩] fun _ => none).askable.typed ⟨"doc", .folder⟩ List.mem_cons_self
    (by decide) rfl ⟨[1], 0, 2, 0, false⟩ rfl rfl
  exact absurd typed (by decide)

end FlowCloud.Storage
