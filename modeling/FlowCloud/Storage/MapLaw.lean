import FlowCloud.Foundation.Runs
import FlowCloud.Storage.Collab

/-! # The table as a map

Inserts, reads and deletes of `af_collab`, each run to its end.  What a read shows of the
table is a map from object ids to a partition key and bytes.  A delete only marks a row,
and an insert over a marked row replaces its bytes and leaves the mark.
-/

namespace FlowCloud.Storage

open FlowCloud.Foundation FlowCloud.Entity FlowCloud.Protocol

inductive TableEvent where
  | insert (uid : Int) (workspaceId : String) (params : CollabParams) (outages : InsertOutages)
  | select (collabType : CollabType) (objectId : String) (outage : Option Outage)
  | delete (objectId : String) (outage : Option Outage)

section

variable {Op StateVector AwarenessUpdate : Type} [DecidableEq Op] {yrs : Yrs Op StateVector AwarenessUpdate}
  (lib : StorageLib yrs)

/-- The transaction of an insert that fails is dropped. -/
def stepTable (table : AfCollab) : TableEvent → AfCollab
  | .insert uid workspaceId params outages =>
    match insertIntoAfCollab lib table uid workspaceId params outages with
    | .ok next => next
    | .error _ => table
  | .select _ _ _ => table
  | .delete objectId none => deleteCollab table objectId
  | .delete _ (some _) => table

/-- The event is a successful insert of the object. -/
def Inserts (table : AfCollab) (event : TableEvent) (objectId : String) : Prop :=
  ∃ uid workspaceId params outages next, event = .insert uid workspaceId params outages ∧
    insertIntoAfCollab lib table uid workspaceId params outages = .ok next ∧ params.objectId = objectId

def Deletes (event : TableEvent) (objectId : String) : Prop := event = .delete objectId none

/-- What was inserted is read until the next change, and what was deleted is not found until
    the next insert, in the state that the events lead to. -/
structure ReadsBack (start : AfCollab) (events : List TableEvent) : Prop where
  inserted : ∀ before uid workspaceId params outages next later,
    events = before ++ .insert uid workspaceId params outages :: later →
    insertIntoAfCollab lib (run (stepTable lib) start before) uid workspaceId params outages = .ok next →
    Always (stepTable lib) (fun table event => ¬ Inserts lib table event params.objectId ∧
      ¬ Deletes event params.objectId) next later →
    selectBlobFromAfCollab lib (run (stepTable lib) start events) params.collabType params.objectId none =
      .ok params.encodedCollabV1
  deleted : ∀ before objectId later, events = before ++ .delete objectId none :: later →
    Always (stepTable lib) (fun table event => ¬ Inserts lib table event objectId)
      (deleteCollab (run (stepTable lib) start before) objectId) later →
    ∀ collabType, selectBlobFromAfCollab lib (run (stepTable lib) start events) collabType objectId none =
      .error .rowNotFound

/-- The event is an insert over a row that is marked as deleted, in the row's workspace and with
    nothing in its way. -/
def MeetsDeleted (table : AfCollab) : TableEvent → Prop
  | .insert _ workspaceId params outages =>
    ∃ row, table params.objectId = some row ∧ row.deleted = true ∧
      lib.uuidFromStr workspaceId = .ok row.workspaceId ∧ outages.selectWorkspace = none ∧ outages.update = none
  | _ => False

/-! ## What a read shows -/

abbrev CollabMap := String → Option (Int × Bytes)

def shown (table : AfCollab) : CollabMap := fun objectId =>
  (table objectId).bind fun row => if row.deleted then none else some (row.partitionKey, row.blob)

variable {lib} {table next : AfCollab} {uid : Int} {workspaceId : String} {params : CollabParams}
  {outages : InsertOutages} {objectId : String}

theorem select_eq_ok {collabType : CollabType} {blob : Bytes} :
    selectBlobFromAfCollab lib table collabType objectId none = .ok blob ↔
      shown table objectId = some (lib.value collabType, blob) := by
  rw [selectBlobFromAfCollab, shown]
  cases table objectId with
  | none => simp
  | some row => cases live : row.deleted <;> simp [live, ite_eq_iff]

theorem select_notFound (absent : shown table objectId = none) (collabType : CollabType) :
    selectBlobFromAfCollab lib table collabType objectId none = .error .rowNotFound := by
  rw [shown] at absent
  rw [selectBlobFromAfCollab]
  cases found : table objectId with
  | none => rfl
  | some row =>
    cases live : row.deleted with
    | true => simp [live]
    | false => simp [found, live] at absent

theorem shown_update (other : Option AfCollabRow) :
    shown (Function.update table objectId other) =
      Function.update (shown table) objectId (shown (fun _ => other) objectId) := by
  funext asked
  by_cases same : asked = objectId
  · subst same
    simp [shown]
  · simp [shown, same]

theorem shown_deleteCollab : shown (deleteCollab table objectId) = Function.update (shown table) objectId none := by
  rw [deleteCollab, shown_update]
  congr 1
  cases table objectId <;> rfl

/-! ## One event -/

theorem insert_meetsDeleted (uid : Int) (meets : MeetsDeleted lib table (.insert uid workspaceId params outages)) :
    ∃ next, insertIntoAfCollab lib table uid workspaceId params outages = .ok next ∧
      shown next params.objectId = none := by
  obtain ⟨row, found, deleted, workspace, answered, updated⟩ := meets
  refine ⟨Function.update table params.objectId (some (insertedRow lib uid row.workspaceId params (some row))), ?_, ?_⟩
  · simp [insertIntoAfCollab, insertedRow, found, workspace, answered, updated, Except.mapError, bind, Except.bind,
      pure, Except.pure]
  · simp [shown, insertedRow, deleted]

/-- An insert that meets no marked row is an insert into the map. -/
theorem shown_insertIntoAfCollab
    (inserted : insertIntoAfCollab lib table uid workspaceId params outages = .ok next)
    (unmarked : ¬ MeetsDeleted lib table (.insert uid workspaceId params outages)) :
    shown next = Function.update (shown table) params.objectId
      (some (lib.value params.collabType, params.encodedCollabV1)) := by
  obtain ⟨id, parsed, answered, admitted, rfl⟩ := insertIntoAfCollab_cases inserted
  rw [shown_update]
  congr 1
  cases found : table params.objectId with
  | none => rfl
  | some row =>
    obtain ⟨workspace, updated⟩ := admitted row found
    have live : row.deleted = false := by
      cases live : row.deleted with
      | false => rfl
      | true => exact absurd ⟨row, found, live, workspace ▸ parsed, answered, updated⟩ unmarked
    simp [shown, insertedRow, live]

/-- An event that is neither an insert nor a delete of an object leaves what is shown of it. -/
theorem shown_stepTable {event : TableEvent} (notInserted : ¬ Inserts lib table event objectId) :
    shown (stepTable lib table event) objectId = shown table objectId ∨
      Deletes event objectId ∧ shown (stepTable lib table event) objectId = none := by
  cases event with
  | insert uid workspaceId params outages =>
    rw [stepTable]
    cases inserted : insertIntoAfCollab lib table uid workspaceId params outages with
    | error error => exact .inl rfl
    | ok next =>
      obtain ⟨id, _, _, _, rfl⟩ := insertIntoAfCollab_cases inserted
      have other : objectId ≠ params.objectId := by
        intro same
        exact notInserted ⟨uid, workspaceId, params, outages, _, rfl, inserted, same.symm⟩
      left
      simp only [shown_update, Function.update_of_ne other]
  | select collabType asked outage => exact .inl rfl
  | delete deleted outage =>
    cases outage with
    | some outage => exact .inl rfl
    | none =>
      rw [stepTable, shown_deleteCollab]
      by_cases same : objectId = deleted
      · subst same
        exact .inr ⟨rfl, Function.update_self ..⟩
      · exact .inl (Function.update_of_ne same ..)

/-! ## Runs -/

theorem shown_run_of_unchanged {later : List TableEvent}
    (unchanged : Always (stepTable lib) (fun table event => ¬ Inserts lib table event objectId ∧
      ¬ Deletes event objectId) table later) :
    shown (run (stepTable lib) table later) objectId = shown table objectId := by
  have kept (state : AfCollab) (event : TableEvent) (same : shown state objectId = shown table objectId)
      (unchanged : ¬ Inserts lib state event objectId ∧ ¬ Deletes event objectId) :
      shown (stepTable lib state event) objectId = shown table objectId := by
    obtain kept | ⟨deleted, _⟩ := shown_stepTable unchanged.1
    · exact kept.trans same
    · exact absurd deleted unchanged.2
  exact Always.invariant kept rfl unchanged

theorem shown_run_of_deleted {later : List TableEvent} (absent : shown table objectId = none)
    (notInserted : Always (stepTable lib) (fun table event => ¬ Inserts lib table event objectId) table later) :
    shown (run (stepTable lib) table later) objectId = none := by
  have kept (state : AfCollab) (event : TableEvent) (absent : shown state objectId = none)
      (notInserted : ¬ Inserts lib state event objectId) : shown (stepTable lib state event) objectId = none := by
    obtain kept | ⟨_, deleted⟩ := shown_stepTable notInserted
    · exact kept.trans absent
    · exact deleted
  exact Always.invariant kept absent notInserted

theorem run_insert {start : AfCollab} {before later : List TableEvent}
    (inserted : insertIntoAfCollab lib (run (stepTable lib) start before) uid workspaceId params outages = .ok next) :
    run (stepTable lib) start (before ++ .insert uid workspaceId params outages :: later) =
      run (stepTable lib) next later := by
  rw [run_append, run_cons, stepTable, inserted]

theorem readsBack_of_unmarked {start : AfCollab} {events : List TableEvent}
    (unmarked : Always (stepTable lib) (fun table event => ¬ MeetsDeleted lib table event) start events) :
    ReadsBack lib start events := by
  constructor
  · rintro before uid workspaceId params outages next later rfl inserted unchanged
    rw [run_insert inserted, select_eq_ok, shown_run_of_unchanged unchanged,
      shown_insertIntoAfCollab inserted unmarked.after, Function.update_self]
  · rintro before objectId later rfl notInserted
    rw [run_append, run_cons]
    refine select_notFound (shown_run_of_deleted ?_ notInserted)
    rw [stepTable, shown_deleteCollab, Function.update_self]

/-- Reads answer as a map does, at every point of a run, exactly if no insert of it meets a row
    that is marked as deleted. -/
theorem readsBack_iff (lib : StorageLib yrs) (start : AfCollab) (events : List TableEvent) :
    (∀ done later, events = done ++ later → ReadsBack lib start done) ↔
      Always (stepTable lib) (fun table event => ¬ MeetsDeleted lib table event) start events := by
  constructor
  · intro readsBack
    rw [always_iff]
    intro before event later split meets
    cases event with
    | insert uid workspaceId params outages =>
      -- the read that follows the insert at once does not find the bytes
      obtain ⟨next, inserted, absent⟩ := insert_meetsDeleted uid meets
      have read := (readsBack (before ++ [.insert uid workspaceId params outages]) later
        (by rw [split, List.append_assoc]; rfl)).inserted before uid workspaceId params outages next [] rfl
        inserted trivial
      rw [run_insert inserted, select_eq_ok, run_nil, absent] at read
      cases read
    | select collabType objectId outage => exact meets
    | delete objectId outage => exact meets
  · rintro unmarked done later rfl
    exact readsBack_of_unmarked (always_append.mp unmarked).1

end

/-- The empty document. -/
def emptyDocument : CollabParams := ⟨"doc", typedCollabs.encode ⟨[0], [0, 0]⟩, .document, false⟩

/-- The document is stored, deleted and stored again in its workspace. -/
def reinserted : List TableEvent :=
  [.insert 1 "5b7cbb2f-4a5c-4f3c-9a0e-1d2c3b4a5f60" emptyDocument .none, .delete "doc" none,
    .insert 1 "5b7cbb2f-4a5c-4f3c-9a0e-1d2c3b4a5f60" emptyDocument .none]

theorem not_readsBack_reinserted :
    ¬ ∀ events done later : List TableEvent, events = done ++ later →
      ReadsBack typedLib (fun _ => none) done := by
  intro readsBack
  have law := (readsBack reinserted reinserted [] rfl).inserted (reinserted.take 2) 1 _ emptyDocument .none _ []
    rfl rfl trivial
  cases law

end FlowCloud.Storage
