import FlowCloud.Foundation.Newest
import FlowCloud.Snapshot.Runner

/-! # The newest usable snapshot

A document that cannot be loaded is restored from its snapshots, which are tried one after the
other, the newest first.  One that is not a valid document of its type is passed over, but the
first one that cannot be read ends the search.
-/

namespace FlowCloud.Snapshot

open FlowCloud.Foundation FlowCloud.Entity FlowCloud.Storage FlowCloud.Protocol FlowCloud.Server

variable {Op StateVector AwarenessUpdate : Type} [DecidableEq Op] {yrs : Yrs Op StateVector AwarenessUpdate}

/-! ## The list of the snapshots -/

/-- What the search reads of an entry. -/
def AFSnapshotMeta.listed (self : AFSnapshotMeta) : Server.AFSnapshotMeta := ⟨self.snapshotId, self.objectId⟩

/-- The creation times descend. -/
def NewestFirst (snapshots : List AFSnapshotMeta) : Prop :=
  snapshots.Pairwise fun first second => second.createdAt ≤ first.createdAt

def AFSnapshotRow.snapshotMeta (self : AFSnapshotRow) : AFSnapshotMeta := ⟨self.sid, self.oid, self.createdAt⟩

def AfCollabSnapshot.getAllCollabSnapshotMeta (self : AfCollabSnapshot) (objectId : String) (outage : Option Outage) :
    Except SqlxError (List AFSnapshotMeta) :=
  match outage with
  | some outage => .error outage.toSqlx
  | none =>
    let rows := self.rows.filter fun row => row.oid = objectId ∧ row.deleted = false
    .ok ((rows.mergeSort fun first second => second.createdAt ≤ first.createdAt).map AFSnapshotRow.snapshotMeta)

namespace SnapshotControl

variable (self : SnapshotControl)

def getCollabSnapshotList (objectId : String) (outage : Option Outage) : Except AppError (List AFSnapshotMeta) :=
  (self.table.getAllCollabSnapshotMeta objectId outage).mapError .ofSqlx

/-- What a storage with these snapshots answers, while the reads fail as given. -/
def answers (listOutage : Option Outage) (cacheFailure : Int → Option AppError) (outage : Int → Option Outage) :
    SnapshotAnswers where
  getCollabSnapshotList objectId :=
    (self.getCollabSnapshotList objectId listOutage).map fun snapshots => snapshots.map AFSnapshotMeta.listed
  getCollabSnapshot workspaceId objectId snapshotId :=
    self.getSnapshot workspaceId objectId snapshotId (cacheFailure snapshotId) (outage snapshotId)

end SnapshotControl

theorem AfCollabSnapshot.newestFirst_of_list {table : AfCollabSnapshot} {objectId : String} {outage : Option Outage}
    {snapshots : List AFSnapshotMeta} (listed : table.getAllCollabSnapshotMeta objectId outage = .ok snapshots) :
    NewestFirst snapshots := by
  cases outage with
  | some outage => cases listed
  | none =>
    cases listed
    exact List.pairwise_map.mpr (newestOrder_mergeSort AFSnapshotRow.createdAt _).sorted

/-! ## The search -/

section Search

variable (lib : StorageLib yrs) (answers : SnapshotAnswers) (workspaceId : String) (collabType : CollabType)

def Loads (snapshot : AFSnapshotMeta) : Prop :=
  ∃ data, answers.getCollabSnapshot workspaceId snapshot.objectId snapshot.snapshotId = .ok data

/-- The snapshot loads, and holds a valid document or folder. -/
def Recovers (snapshot : AFSnapshotMeta) (encoded : EncodedCollab) : Prop :=
  ∃ data collab, answers.getCollabSnapshot workspaceId snapshot.objectId snapshot.snapshotId = .ok data ∧
    lib.decodeFromBytes data.encodedCollabV1 = .ok encoded ∧ lib.newWithDocState encoded.docState = .ok collab ∧
    isValidSnapshot lib collabType collab = true

def Usable (snapshot : AFSnapshotMeta) : Prop :=
  ∃ encoded, Recovers lib answers workspaceId collabType snapshot encoded

/-- What is returned is a usable snapshot of the list, and none of its usable ones is newer. -/
def RecoversNewest (snapshots : List AFSnapshotMeta) : Option EncodedCollab → Prop
  | some encoded => ∃ snapshot ∈ snapshots, Recovers lib answers workspaceId collabType snapshot encoded ∧
      ∀ other ∈ snapshots, Usable lib answers workspaceId collabType other → other.createdAt ≤ snapshot.createdAt
  | none => ∀ snapshot ∈ snapshots, ¬ Usable lib answers workspaceId collabType snapshot

/-- All the snapshots listed before the first usable one can be read. -/
def FirstReached (snapshots : List AFSnapshotMeta) : Prop :=
  ∀ before first after, snapshots = before ++ first :: after →
    Usable lib answers workspaceId collabType first →
    (∀ earlier ∈ before, ¬ Usable lib answers workspaceId collabType earlier) →
    ∀ earlier ∈ before, Loads answers workspaceId earlier

variable {lib} {answers} {workspaceId} {collabType} {snapshot : AFSnapshotMeta} {older : List AFSnapshotMeta}

theorem usableSnapshot_eq_some {data : SnapshotData} {encoded : EncodedCollab} :
    usableSnapshot lib collabType data = some encoded ↔
      ∃ collab, lib.decodeFromBytes data.encodedCollabV1 = .ok encoded ∧
        lib.newWithDocState encoded.docState = .ok collab ∧ isValidSnapshot lib collabType collab = true := by
  rw [usableSnapshot]
  constructor
  · intro used
    cases decoded : lib.decodeFromBytes data.encodedCollabV1 with
    | error failure => simp [decoded] at used
    | ok held =>
      simp only [decoded] at used
      cases created : lib.newWithDocState held.docState with
      | error failure => simp [created] at used
      | ok collab =>
        simp only [created] at used
        by_cases valid : isValidSnapshot lib collabType collab = true
        · rw [if_pos valid] at used
          cases used
          exact ⟨collab, rfl, created, valid⟩
        · rw [if_neg valid] at used
          cases used
  · rintro ⟨collab, decoded, created, valid⟩
    simp only [decoded, created, valid, ↓reduceIte]

theorem recovers_iff {data : SnapshotData} {encoded : EncodedCollab}
    (loaded : answers.getCollabSnapshot workspaceId snapshot.objectId snapshot.snapshotId = .ok data) :
    Recovers lib answers workspaceId collabType snapshot encoded ↔
      usableSnapshot lib collabType data = some encoded := by
  rw [usableSnapshot_eq_some, Recovers, loaded]
  simp

theorem Usable.loads (usable : Usable lib answers workspaceId collabType snapshot) :
    Loads answers workspaceId snapshot := by
  obtain ⟨_, data, _, loaded, _⟩ := usable
  exact ⟨data, loaded⟩

/-! ## The first entry of the list -/

theorem firstReached_of_usable (usable : Usable lib answers workspaceId collabType snapshot) :
    FirstReached lib answers workspaceId collabType (snapshot :: older) := by
  intro before first after split _ unusable earlier member
  cases before with
  | nil => cases member
  | cons head before =>
    obtain rfl : snapshot = head := (List.cons.inj split).1
    exact absurd usable (unusable snapshot List.mem_cons_self)

theorem firstReached_of_loads (loads : Loads answers workspaceId snapshot)
    (unusable : ¬ Usable lib answers workspaceId collabType snapshot) :
    FirstReached lib answers workspaceId collabType (snapshot :: older) ↔
      FirstReached lib answers workspaceId collabType older := by
  constructor
  · intro reached before first after split usable none earlier member
    apply reached (snapshot :: before) first after (by rw [split]; rfl) usable _ earlier
    · exact List.mem_cons_of_mem snapshot member
    · exact List.forall_mem_cons.mpr ⟨unusable, none⟩
  · intro reached before first after split usable none
    cases before with
    | nil => exact List.forall_mem_nil _
    | cons head before =>
      obtain ⟨rfl, rest⟩ := List.cons.inj split
      rw [List.forall_mem_cons] at none ⊢
      exact ⟨loads, reached before first after rest usable none.2⟩

open Classical in
theorem firstReached_of_not_loads (unread : ¬ Loads answers workspaceId snapshot) :
    FirstReached lib answers workspaceId collabType (snapshot :: older) ↔
      ∀ other ∈ older, ¬ Usable lib answers workspaceId collabType other := by
  constructor
  · intro reached other member usable
    -- the first usable one is behind the unreadable one
    have some : (older.find? fun other => decide (Usable lib answers workspaceId collabType other)).isSome = true :=
      List.find?_isSome.mpr ⟨other, member, decide_eq_true usable⟩
    obtain ⟨first, found⟩ := Option.isSome_iff_exists.mp some
    obtain ⟨firstUsable, before, after, split, none⟩ := List.find?_eq_some_iff_append.mp found
    have earlier : ∀ earlier ∈ snapshot :: before, ¬ Usable lib answers workspaceId collabType earlier := by
      rw [List.forall_mem_cons]
      refine ⟨fun usable => unread usable.loads, ?_⟩
      intro earlier member
      simpa using none earlier member
    exact unread (reached (snapshot :: before) first after (by rw [split]; rfl) (of_decide_eq_true firstUsable)
      earlier snapshot List.mem_cons_self)
  · intro unusable before first after split usable
    cases before with
    | nil =>
      obtain ⟨rfl, _⟩ := List.cons.inj split
      exact absurd usable.loads unread
    | cons head before =>
      obtain ⟨_, rfl⟩ := List.cons.inj split
      exact absurd usable (unusable first (List.mem_append_right before List.mem_cons_self))

/-- An entry that is not usable does not matter to what is the newest. -/
theorem recoversNewest_cons (unusable : ¬ Usable lib answers workspaceId collabType snapshot)
    (result : Option EncodedCollab) :
    RecoversNewest lib answers workspaceId collabType (snapshot :: older) result ↔
      RecoversNewest lib answers workspaceId collabType older result := by
  cases result with
  | none => simp [RecoversNewest, unusable]
  | some encoded =>
    have never : ¬ Recovers lib answers workspaceId collabType snapshot encoded :=
      fun recovers => unusable ⟨_, recovers⟩
    simp [RecoversNewest, unusable, never]

theorem findSnapshot_recovers_iff {snapshots : List AFSnapshotMeta} (newestFirst : NewestFirst snapshots) :
    RecoversNewest lib answers workspaceId collabType snapshots
        (findSnapshot lib answers workspaceId collabType (snapshots.map AFSnapshotMeta.listed)) ↔
      FirstReached lib answers workspaceId collabType snapshots := by
  induction snapshots with
  | nil =>
    have reached : FirstReached lib answers workspaceId collabType [] := by simp [FirstReached]
    simp [findSnapshot, RecoversNewest, reached]
  | cons snapshot older inductionHypothesis =>
    obtain ⟨newest, newestFirst⟩ := List.pairwise_cons.mp newestFirst
    cases loaded : answers.getCollabSnapshot workspaceId snapshot.objectId snapshot.snapshotId with
    | error failure =>
      have found : findSnapshot lib answers workspaceId collabType ((snapshot :: older).map AFSnapshotMeta.listed) =
          none := by
        simp only [List.map_cons, findSnapshot, AFSnapshotMeta.listed, loaded]
      have unread : ¬ Loads answers workspaceId snapshot := by simp [Loads, loaded]
      rw [found, firstReached_of_not_loads unread]
      exact recoversNewest_cons (fun usable => unread usable.loads) none
    | ok data =>
      cases usable : usableSnapshot lib collabType data with
      | some encoded =>
        have found : findSnapshot lib answers workspaceId collabType ((snapshot :: older).map AFSnapshotMeta.listed) =
            some encoded := by
          simp only [List.map_cons, findSnapshot, AFSnapshotMeta.listed, loaded, usable]
        have recovers := (recovers_iff loaded).mpr usable
        simp only [found, firstReached_of_usable ⟨encoded, recovers⟩, iff_true]
        refine ⟨snapshot, List.mem_cons_self, recovers, ?_⟩
        intro other member _
        cases member with
        | head => exact Int.le_refl _
        | tail _ member => exact newest other member
      | none =>
        have found : findSnapshot lib answers workspaceId collabType ((snapshot :: older).map AFSnapshotMeta.listed) =
            findSnapshot lib answers workspaceId collabType (older.map AFSnapshotMeta.listed) := by
          simp only [List.map_cons, findSnapshot, AFSnapshotMeta.listed, loaded, usable]
        have unusable : ¬ Usable lib answers workspaceId collabType snapshot := by
          rintro ⟨encoded, recovers⟩
          rw [recovers_iff loaded, usable] at recovers
          cases recovers
        rw [found, firstReached_of_loads ⟨data, loaded⟩ unusable]
        exact (recoversNewest_cons unusable _).trans (inductionHypothesis newestFirst)

end Search

/-- The storage of the server lists the snapshots as the search needs them. -/
theorem SnapshotControl.latest_newest_iff (lib : StorageLib yrs) (self : SnapshotControl) {listOutage : Option Outage}
    {cacheFailure : Int → Option AppError} {outage : Int → Option Outage} {workspaceId objectId : String}
    {collabType : CollabType} {snapshots : List AFSnapshotMeta}
    (listed : self.table.getAllCollabSnapshotMeta objectId listOutage = .ok snapshots) :
    RecoversNewest lib (self.answers listOutage cacheFailure outage) workspaceId collabType snapshots
        (getLatestSnapshot lib (self.answers listOutage cacheFailure outage) workspaceId objectId collabType) ↔
      FirstReached lib (self.answers listOutage cacheFailure outage) workspaceId collabType snapshots := by
  have answered : (self.answers listOutage cacheFailure outage).getCollabSnapshotList objectId =
      .ok (snapshots.map AFSnapshotMeta.listed) := by
    simp only [SnapshotControl.answers, SnapshotControl.getCollabSnapshotList, listed]
    rfl
  rw [getLatestSnapshot, answered]
  exact findSnapshot_recovers_iff (AfCollabSnapshot.newestFirst_of_list listed)

/-- The newest usable snapshot is found exactly if all that are listed before the first usable
    one can be read. -/
theorem getLatestSnapshot_newest_iff (lib : StorageLib yrs) (answers : SnapshotAnswers)
    (workspaceId objectId : String) (collabType : CollabType) (snapshots : List AFSnapshotMeta)
    (listed : answers.getCollabSnapshotList objectId = .ok (snapshots.map AFSnapshotMeta.listed))
    (newestFirst : NewestFirst snapshots) :
    RecoversNewest lib answers workspaceId collabType snapshots
        (getLatestSnapshot lib answers workspaceId objectId collabType) ↔
      FirstReached lib answers workspaceId collabType snapshots := by
  rw [getLatestSnapshot, listed]
  exact findSnapshot_recovers_iff newestFirst

/-! ## Two snapshots of a document -/

/-- The newer one has no bytes, and can be read or not. -/
def twoSnapshots (outage : Option Outage) : SnapshotAnswers where
  getCollabSnapshotList _ := .ok [⟨2, "doc"⟩, ⟨1, "doc"⟩]
  getCollabSnapshot workspaceId objectId snapshotId :=
    if snapshotId = 2 then
      match outage with
      | some outage => .error (.ofSqlx outage.toSqlx)
      | none => .ok ⟨objectId, [], workspaceId⟩
    else .ok ⟨objectId, storedDocument.blob, workspaceId⟩

theorem twoSnapshots_newestFirst : NewestFirst [⟨2, "doc", 20⟩, ⟨1, "doc", 10⟩] := by
  simp [NewestFirst]

/-- The older one is found behind the one without bytes. -/
theorem getLatestSnapshot_newest_second :
    RecoversNewest typedLib (twoSnapshots none) "5b7cbb2f-4a5c-4f3c-9a0e-1d2c3b4a5f60" .document
      [⟨2, "doc", 20⟩, ⟨1, "doc", 10⟩]
      (getLatestSnapshot typedLib (twoSnapshots none) "5b7cbb2f-4a5c-4f3c-9a0e-1d2c3b4a5f60" "doc" .document) := by
  apply (getLatestSnapshot_newest_iff typedLib (twoSnapshots none) "5b7cbb2f-4a5c-4f3c-9a0e-1d2c3b4a5f60" "doc"
    .document [⟨2, "doc", 20⟩, ⟨1, "doc", 10⟩] rfl twoSnapshots_newestFirst).mpr
  intro before first after _ _ _ earlier _
  by_cases newer : earlier.snapshotId = 2
  · exact ⟨_, if_pos newer⟩
  · exact ⟨_, if_neg newer⟩

/-- While the newer one cannot be read, the older one is not found. -/
theorem getLatestSnapshot_misses_second :
    ¬ ∀ (answers : SnapshotAnswers) (workspaceId objectId : String) (collabType : CollabType)
        (snapshots : List AFSnapshotMeta),
      answers.getCollabSnapshotList objectId = .ok (snapshots.map AFSnapshotMeta.listed) → NewestFirst snapshots →
      RecoversNewest typedLib answers workspaceId collabType snapshots
        (getLatestSnapshot typedLib answers workspaceId objectId collabType) := by
  intro newest
  have none := newest (twoSnapshots (some .poolTimedOut)) "5b7cbb2f-4a5c-4f3c-9a0e-1d2c3b4a5f60" "doc" .document
    [⟨2, "doc", 20⟩, ⟨1, "doc", 10⟩] rfl twoSnapshots_newestFirst
  have valid : (usableSnapshot typedLib .document
      ⟨"doc", storedDocument.blob, "5b7cbb2f-4a5c-4f3c-9a0e-1d2c3b4a5f60"⟩).isSome = true := by
    decide +kernel
  obtain ⟨encoded, used⟩ := Option.isSome_iff_exists.mp valid
  exact none ⟨1, "doc", 10⟩ (by simp) ⟨encoded, (recovers_iff rfl).mpr used⟩

end FlowCloud.Snapshot
