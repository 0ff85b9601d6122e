import FlowCloud.Snapshot.Latest

/-! # The limit on the snapshots of an object

A new row is inserted, and then the rows of its object are deleted that a subselect does not
list.  The subselect orders them by their creation time alone, so of rows that were created at
the same time it may list one or the other.
-/

namespace FlowCloud.Snapshot

open FlowCloud.Foundation FlowCloud.Entity FlowCloud.Storage FlowCloud.Protocol FlowCloud.Server

variable {Op StateVector AwarenessUpdate : Type} [DecidableEq Op] {yrs : Yrs Op StateVector AwarenessUpdate}

namespace AfCollabSnapshot

variable (self : AfCollabSnapshot)

def ofObject (oid : String) : List AFSnapshotRow := self.rows.filter fun row => row.oid = oid

/-- What the subselect may answer. -/
def SelectsNewest (oid : String) (limit : Nat) (selected : List Int) : Prop :=
  ∃ order, NewestOrder AFSnapshotRow.createdAt (self.ofObject oid) order ∧
    selected = (order.take limit).map AFSnapshotRow.sid

def deleteExcept (oid : String) (selected : List Int) : AfCollabSnapshot :=
  ⟨self.rows.filter fun row => ¬ (row.oid = oid ∧ row.sid ∉ selected),
    self.distinct.sublist (List.filter_sublist.map _)⟩

theorem selectsNewest_newest (oid : String) (limit : Nat) : self.SelectsNewest oid limit (self.newest oid limit) :=
  ⟨_, newestOrder_mergeSort AFSnapshotRow.createdAt (self.ofObject oid), rfl⟩

end AfCollabSnapshot

/-- Answers to the subselect on every table. -/
def Subselects (oid : String) (limit : Nat) (select : AfCollabSnapshot → List Int) : Prop :=
  ∀ table : AfCollabSnapshot, table.SelectsNewest oid limit (select table)

/-- `create_snapshot_and_maintain_limit`, with the answers of the subselect. -/
def createSnapshotSelecting (lib : StorageLib yrs) (select : AfCollabSnapshot → List Int) (table : AfCollabSnapshot)
    (workspaceId oid : String) (encodedCollabV1 : Bytes) (outcome : TickOutcome) :
    AfCollabSnapshot × Except AppError AFSnapshotMeta :=
  match lib.uuidFromStr workspaceId with
  | .error error => (table, .error (.uuidError error))
  | .ok workspaceId =>
    match outcome.insertOutage with
    | some outage => (table, .error (.ofSqlx outage.toSqlx))
    | none =>
      let row : AFSnapshotRow := ⟨outcome.sid, oid, encodedCollabV1, workspaceId, false, outcome.createdAt⟩
      if fresh : row.sid ∉ table.rows.map AFSnapshotRow.sid then
        match outcome.deleteOutage with
        | some outage => (table, .error (.ofSqlx outage.toSqlx))
        | none =>
          let inserted := table.insert row fresh
          let next := inserted.deleteExcept oid (select inserted)
          let failed := AppError.internal "fail to commit the transaction to insert collab snapshot"
          match outcome.commit with
          | .committed => (next, .ok row.snapshotMeta)
          | .rolledBack _ => (table, .error failed)
          | .unconfirmed _ => (next, .error failed)
      else (table, .error (.ofSqlx (.other "duplicate key value violates unique constraint")))

section Create

variable {lib : StorageLib yrs} {table : AfCollabSnapshot} {workspaceId oid : String} {data : Bytes} {limit : Nat}
  {outcome : TickOutcome} {written : AFSnapshotMeta}

/-- The rows that the runner keeps are one answer of the subselect. -/
theorem createSnapshot_eq_selecting :
    createSnapshotAndMaintainLimit lib table workspaceId oid data limit outcome =
      createSnapshotSelecting lib (fun table => table.newest oid limit) table workspaceId oid data outcome := rfl

/-- A call that succeeds has inserted a row, whatever the subselect answers. -/
theorem createSnapshot_inserted
    (succeeds : (createSnapshotAndMaintainLimit lib table workspaceId oid data limit outcome).2 = .ok written) :
    ∃ (row : AFSnapshotRow) (fresh : row.sid ∉ table.rows.map AFSnapshotRow.sid), row.oid = oid ∧
      row.createdAt = outcome.createdAt ∧ row.snapshotMeta = written ∧
      ∀ select, createSnapshotSelecting lib select table workspaceId oid data outcome =
        ((table.insert row fresh).deleteExcept oid (select (table.insert row fresh)), .ok written) := by
  rw [createSnapshotAndMaintainLimit] at succeeds
  simp only [createSnapshotSelecting]
  cases parsed : lib.uuidFromStr workspaceId with
  | error error =>
    rw [parsed] at succeeds
    cases succeeds
  | ok id =>
    simp only [parsed] at succeeds
    cases inserted : outcome.insertOutage with
    | some outage =>
      rw [inserted] at succeeds
      cases succeeds
    | none =>
      simp only [inserted] at succeeds
      by_cases fresh : outcome.sid ∉ table.rows.map AFSnapshotRow.sid
      · simp only [dif_pos fresh] at succeeds ⊢
        cases deleted : outcome.deleteOutage with
        | some outage =>
          rw [deleted] at succeeds
          cases succeeds
        | none =>
          simp only [deleted] at succeeds
          cases committed : outcome.commit with
          | committed =>
            rw [committed] at succeeds
            cases succeeds
            exact ⟨⟨outcome.sid, oid, data, id, false, outcome.createdAt⟩, fresh, rfl, rfl, rfl, fun _ => rfl⟩
          | rolledBack outage =>
            rw [committed] at succeeds
            cases succeeds
          | unconfirmed outage =>
            rw [committed] at succeeds
            cases succeeds
      · simp only [dif_neg fresh] at succeeds
        cases succeeds

end Create

/-! ## The newest rows are kept -/

/-- The object has the newest of its rows with the one that is returned, as many as the limit
    allows, and the other objects have what they had. -/
structure KeepsNewest (table : AfCollabSnapshot) (oid : String) (limit : Nat) (next : AfCollabSnapshot)
    (written : AFSnapshotMeta) : Prop where
  count : (next.ofObject oid).length = min limit ((table.ofObject oid).length + 1)
  only : ∀ row ∈ next.ofObject oid, row ∈ table.ofObject oid ∨ row.snapshotMeta = written
  newest : ∀ kept ∈ next.ofObject oid, ∀ gone ∈ table.ofObject oid, gone ∉ next.ofObject oid →
    gone.createdAt ≤ kept.createdAt
  created : ∃ row ∈ next.ofObject oid, row.snapshotMeta = written
  others : ∀ other, other ≠ oid → next.ofObject other = table.ofObject other

section Keep

variable {table : AfCollabSnapshot} {oid other : String} {limit : Nat} {row kept : AFSnapshotRow}
  {order : List AFSnapshotRow} {fresh : row.sid ∉ table.rows.map AFSnapshotRow.sid}

theorem mem_ofObject : row ∈ table.ofObject oid ↔ row ∈ table.rows ∧ row.oid = oid := by
  rw [AfCollabSnapshot.ofObject, List.mem_filter, decide_eq_true_eq]

theorem ofObject_insert (own : row.oid = oid) :
    (table.insert row fresh).ofObject oid = row :: table.ofObject oid :=
  List.filter_cons_of_pos (decide_eq_true own)

theorem ofObject_insert_of_ne (foreign : row.oid ≠ other) :
    (table.insert row fresh).ofObject other = table.ofObject other :=
  List.filter_cons_of_neg (by simpa using foreign)

theorem ofObject_deleteExcept_of_ne (foreign : other ≠ oid) (selected : List Int) :
    (table.deleteExcept oid selected).ofObject other = table.ofObject other := by
  rw [AfCollabSnapshot.ofObject, AfCollabSnapshot.ofObject, AfCollabSnapshot.deleteExcept, List.filter_filter]
  apply List.filter_congr
  intro row _
  by_cases own : row.oid = other
  · subst own
    simp [foreign]
  · simp [own]

theorem ofObject_nodup (table : AfCollabSnapshot) (oid : String) : (table.ofObject oid).Nodup :=
  (List.Nodup.of_map _ table.distinct).filter _

/-- The rows of the object that are kept are those in front of the order. -/
theorem mem_deleteExcept (ordered : NewestOrder AFSnapshotRow.createdAt (table.ofObject oid) order) :
    kept ∈ (table.deleteExcept oid ((order.take limit).map AFSnapshotRow.sid)).ofObject oid ↔
      kept ∈ order.take limit := by
  have own : ∀ row ∈ order.take limit, row ∈ table.ofObject oid :=
    fun row front => ordered.perm.subset (List.mem_of_mem_take front)
  rw [mem_ofObject, AfCollabSnapshot.deleteExcept, List.mem_filter]
  constructor
  · rintro ⟨⟨stored, listed⟩, named⟩
    simp only [named, true_and, not_not, decide_eq_true_eq] at listed
    obtain ⟨same, front, sid⟩ := List.mem_map.mp listed
    -- the primary key tells the rows apart
    rwa [← List.inj_on_of_nodup_map table.distinct (mem_ofObject.mp (own same front)).1 stored sid]
  · intro front
    obtain ⟨stored, named⟩ := mem_ofObject.mp (own kept front)
    refine ⟨⟨stored, decide_eq_true ?_⟩, named⟩
    exact fun gone => gone.2 (List.mem_map_of_mem front)

theorem ofObject_deleteExcept_perm (ordered : NewestOrder AFSnapshotRow.createdAt (table.ofObject oid) order) :
    ((table.deleteExcept oid ((order.take limit).map AFSnapshotRow.sid)).ofObject oid).Perm (order.take limit) := by
  apply (List.perm_ext_iff_of_nodup (ofObject_nodup _ oid) _).mpr
  · exact fun kept => mem_deleteExcept ordered
  · exact (ordered.perm.nodup_iff.mpr (ofObject_nodup table oid)).sublist (List.take_sublist limit order)

/-- A pruning that keeps the new row keeps the newest ones. -/
theorem keepsNewest_of_mem_take (own : row.oid = oid)
    (ordered : NewestOrder AFSnapshotRow.createdAt ((table.insert row fresh).ofObject oid) order)
    (front : row ∈ order.take limit) :
    KeepsNewest table oid limit
      ((table.insert row fresh).deleteExcept oid ((order.take limit).map AFSnapshotRow.sid)) row.snapshotMeta where
  count := by
    rw [(ofObject_deleteExcept_perm ordered).length_eq, ordered.length_take, ofObject_insert own, List.length_cons]
  only := by
    intro kept member
    have stored := ordered.perm.subset (List.mem_of_mem_take ((mem_deleteExcept ordered).mp member))
    rw [ofObject_insert own] at stored
    cases stored with
    | head => exact .inr rfl
    | tail _ before => exact .inl before
  newest := by
    intro kept member gone before absent
    rw [mem_deleteExcept ordered] at member absent
    have somewhere : gone ∈ order := by
      apply ordered.perm.symm.subset
      rw [ofObject_insert own]
      exact List.mem_cons_of_mem row before
    rw [← List.take_append_drop limit order, List.mem_append] at somewhere
    exact ordered.kept_newer member (somewhere.resolve_left absent)
  created := ⟨row, (mem_deleteExcept ordered).mpr front, rfl⟩
  others := by
    intro other foreign
    rw [ofObject_deleteExcept_of_ne foreign, ofObject_insert_of_ne (by rw [own]; exact foreign.symm)]

/-- One that does not keep it keeps no row of its id. -/
theorem mem_take_of_created
    (ordered : NewestOrder AFSnapshotRow.createdAt ((table.insert row fresh).ofObject oid) order)
    (created : ∃ kept ∈ ((table.insert row fresh).deleteExcept oid ((order.take limit).map AFSnapshotRow.sid)).ofObject
      oid, kept.snapshotMeta = row.snapshotMeta) : row ∈ order.take limit := by
  obtain ⟨kept, member, same⟩ := created
  have front := (mem_deleteExcept ordered).mp member
  have stored := (mem_ofObject.mp (ordered.perm.subset (List.mem_of_mem_take front))).1
  have sid : kept.sid = row.sid := congrArg AFSnapshotMeta.snapshotId same
  rwa [List.inj_on_of_nodup_map (table.insert row fresh).distinct stored List.mem_cons_self sid] at front

/-! ## Rows of the same time -/

/-- An order of one table is all that a subselect has to be told. -/
theorem exists_select (ordered : NewestOrder AFSnapshotRow.createdAt (table.ofObject oid) order) (limit : Nat) :
    ∃ select, Subselects oid limit select ∧ select table = (order.take limit).map AFSnapshotRow.sid := by
  refine ⟨fun asked : AfCollabSnapshot => if asked.rows = table.rows then (order.take limit).map AFSnapshotRow.sid
    else asked.newest oid limit, ?_, if_pos rfl⟩
  intro asked
  by_cases same : asked.rows = table.rows
  · refine ⟨order, ?_, if_pos same⟩
    rwa [AfCollabSnapshot.ofObject, same]
  · simp only [same, ↓reduceIte]
    exact asked.selectsNewest_newest oid limit

/-- The new row is one of the newest by any order if fewer rows than the limit were created at its
    time. -/
theorem keepsNewest_iff (row : AFSnapshotRow) (fresh : row.sid ∉ table.rows.map AFSnapshotRow.sid)
    (own : row.oid = oid) (latest : ∀ other ∈ table.ofObject oid, other.createdAt ≤ row.createdAt) :
    (∀ select, Subselects oid limit select →
        KeepsNewest table oid limit
          ((table.insert row fresh).deleteExcept oid (select (table.insert row fresh))) row.snapshotMeta) ↔
      ((table.ofObject oid).filter fun other => other.createdAt = row.createdAt).length < limit := by
  have inserted : (table.insert row fresh).ofObject oid = row :: table.ofObject oid := ofObject_insert own
  constructor
  · intro keeps
    by_contra many
    have absent : row ∉ table.ofObject oid := fun stored => fresh (List.mem_map_of_mem (mem_ofObject.mp stored).1)
    obtain ⟨order, ordered, left⟩ := NewestOrder.exists_not_mem_take absent latest (Nat.le_of_not_lt many)
    rw [← inserted] at ordered
    obtain ⟨select, selects, answer⟩ := exists_select ordered limit
    have created := (keeps select selects).created
    rw [answer] at created
    exact left (mem_take_of_created ordered created)
  · intro few select selects
    obtain ⟨order, ordered, answer⟩ := selects (table.insert row fresh)
    rw [answer]
    apply keepsNewest_of_mem_take own ordered
    rw [inserted] at ordered
    apply ordered.mem_take List.mem_cons_self
    · exact List.forall_mem_cons.mpr ⟨Int.le_refl _, latest⟩
    · simpa using Nat.succ_le_of_lt few

end Keep

/-- After a snapshot has been created, its object has the newest rows with the new one, however
    the database orders rows of the same time, exactly if fewer rows of the object than the limit
    were created at that very time. -/
theorem snapshot_limit_keeps_newest_iff {Op StateVector AwarenessUpdate : Type} [DecidableEq Op]
    {yrs : Yrs Op StateVector AwarenessUpdate} (lib : StorageLib yrs) (table : AfCollabSnapshot)
    (workspaceId oid : String) (data : Bytes) (limit : Nat) (outcome : TickOutcome) (written : AFSnapshotMeta)
    (succeeds : (createSnapshotAndMaintainLimit lib table workspaceId oid data limit outcome).2 = .ok written)
    (latest : ∀ row ∈ table.ofObject oid, row.createdAt ≤ outcome.createdAt) :
    (∀ select, Subselects oid limit select →
        ∀ next returned, createSnapshotSelecting lib select table workspaceId oid data outcome = (next, .ok returned) →
          KeepsNewest table oid limit next returned) ↔
      ((table.ofObject oid).filter fun row => row.createdAt = outcome.createdAt).length < limit := by
  obtain ⟨row, fresh, own, time, rfl, creates⟩ := createSnapshot_inserted succeeds
  rw [← time] at latest ⊢
  rw [← keepsNewest_iff row fresh own latest]
  constructor
  · intro keeps select selects
    exact keeps select selects _ _ (creates select)
  · intro keeps select selects next returned result
    rw [creates select] at result
    cases result
    exact keeps select selects

/-! ## A second row of the same time -/

def oneSnapshot : AfCollabSnapshot :=
  ⟨[⟨1, "doc", [], 0x5b7cbb2f4a5c4f3c9a0e1d2c3b4a5f60, false, 5⟩], List.nodup_singleton _⟩

def sameTime : TickOutcome := ⟨none, true, 2, 5, none, none, .committed, none⟩

/-- With room for two, both rows stay. -/
theorem snapshot_limit_keeps_newest_two :
    KeepsNewest oneSnapshot "doc" 2
      (createSnapshotSelecting typedLib (fun table => table.newest "doc" 2) oneSnapshot
        "5b7cbb2f-4a5c-4f3c-9a0e-1d2c3b4a5f60" "doc" [] sameTime).1 ⟨2, "doc", 5⟩ :=
  (snapshot_limit_keeps_newest_iff typedLib oneSnapshot "5b7cbb2f-4a5c-4f3c-9a0e-1d2c3b4a5f60" "doc" [] 2 sameTime
    ⟨2, "doc", 5⟩ rfl (by decide)).mpr (by decide) _ (fun table => table.selectsNewest_newest "doc" 2) _ _ rfl

/-- With room for one, the new row may be the one that is deleted. -/
theorem snapshot_limit_may_drop_new :
    ¬ ∀ (table : AfCollabSnapshot) (workspaceId oid : String) (data : Bytes) (limit : Nat) (outcome : TickOutcome)
        (select : AfCollabSnapshot → List Int) (next : AfCollabSnapshot) (returned : AFSnapshotMeta),
      1 ≤ limit → (∀ row ∈ table.ofObject oid, row.createdAt ≤ outcome.createdAt) →
      Subselects oid limit select →
      createSnapshotSelecting typedLib select table workspaceId oid data outcome = (next, .ok returned) →
      KeepsNewest table oid limit next returned := by
  intro keeps
  have fresh : (2 : Int) ∉ oneSnapshot.rows.map AFSnapshotRow.sid := by decide
  have fewer := (keepsNewest_iff ⟨2, "doc", [], 0x5b7cbb2f4a5c4f3c9a0e1d2c3b4a5f60, false, 5⟩ fresh rfl (by decide)).mp
    fun select selects => keeps oneSnapshot "5b7cbb2f-4a5c-4f3c-9a0e-1d2c3b4a5f60" "doc" [] 1 sameTime select _ _
      (Nat.le_refl 1) (by decide) selects rfl
  revert fewer
  decide

end FlowCloud.Snapshot
