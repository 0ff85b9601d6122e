import FlowCloud.Storage.Operations

/-! # The memory cache and the database

An insert writes the cache before its transaction is committed, a read fills it some time
after it has fetched the row, and a delete clears it before it marks the row.  What the
cache says is right as long as no such gap is hit: the invariant compares each cached value
with the latest version of its row, and leaves out the rows whose cache write is still due.
-/

namespace FlowCloud.Storage

open FlowCloud.Foundation FlowCloud.Entity FlowCloud.Protocol

section Coherence

variable {Op StateVector AwarenessUpdate : Type} [DecidableEq Op] {yrs : Yrs Op StateVector AwarenessUpdate}
  (lib : StorageLib yrs)

/-- A row that is not deleted, and whose blob opens as the same document. -/
def AfCollabRow.Holds (row : AfCollabRow) (encoded : EncodedCollab) : Prop :=
  row.deleted = false ∧ ∃ stored, lib.decodeFromBytes row.blob = .ok stored ∧
    lib.newWithDocState encoded.docState = lib.newWithDocState stored.docState

/-- The bytes decode to the document of the row. -/
def Matches (data : Bytes) (row : AfCollabRow) : Prop :=
  ∃ encoded, lib.decodeFromBytes data = .ok encoded ∧ row.Holds lib encoded

theorem matches_checked {lib : StorageLib yrs} {data : Bytes} {row : AfCollabRow} (live : row.deleted = false)
    (same : row.blob = data) (checked : checkEncodedCollabData lib data = .ok ()) : Matches lib data row := by
  rw [checkEncodedCollabData] at checked
  cases decoded : lib.decodeFromBytes data with
  | error err =>
    rw [decoded] at checked
    cases checked
  | ok encoded => exact ⟨encoded, decoded, live, encoded, same ▸ decoded, rfl⟩

theorem checkInsert_checked {lib : StorageLib yrs} {table : AfCollab} {insert : Insert} {outcomes : WriteOutcomes}
    (passed : checkInsert lib table insert outcomes = .ok ()) :
    checkEncodedCollabData lib insert.params.encodedCollabV1 = .ok () := by
  rw [checkInsert] at passed
  obtain ⟨_, _, passed⟩ := bind_eq_ok.mp passed
  obtain ⟨isCollabExistInDb, _, passed⟩ := bind_eq_ok.mp passed
  cases isCollabExistInDb with
  | true =>
    obtain ⟨_, _, passed⟩ := bind_eq_ok.mp passed
    exact mapError_eq_ok.mp passed
  | false =>
    obtain ⟨_, _, passed⟩ := bind_eq_ok.mp passed
    obtain ⟨_, _, passed⟩ := bind_eq_ok.mp passed
    exact mapError_eq_ok.mp passed

namespace SharedStorage

/-- Whatever the cache holds decodes to the document of the committed row, which is not deleted. -/
def Agrees (self : SharedStorage) : Prop :=
  ∀ objectId data, self.memCache objectId = some data →
    ∃ row, self.database.committed objectId = some row ∧ Matches lib data row

/-- The row is written, and the cache write that goes with it comes next. -/
def CacheWriteDue (self : SharedStorage) (objectId : String) : Prop :=
  ∃ task insert, self.tasks task = some (.transaction (.inserting insert .caching)) ∧
    insert.params.objectId = objectId

/-- The step does not run into a gap between the two stores. -/
def Careful (self : SharedStorage) : Event → Prop
  -- a document is cached over a live row, and a cache write fails over nothing else than this document
  | .cache task writable => ∀ insert version,
      self.tasks task = some (.transaction (.inserting insert .caching)) →
      self.database.uncommitted insert.params.objectId = some version →
        if writable then version.row.deleted = false
        else ∀ data, self.memCache insert.params.objectId = some data → Matches lib data version.row
  -- a transaction is given up while the cache holds nothing that only it has written
  | .abandon task => ∀ objectId version, self.database.uncommitted objectId = some version → version.writer = task →
      ∀ data, self.memCache objectId = some data →
        ∃ row, self.database.committed objectId = some row ∧ Matches lib data row
  -- a read fills the cache while the row, also a version of it that is cached, still holds what it fetched
  | .fill task writable => ∀ query encoded bytes, self.tasks task = some (.read query (.filling encoded)) →
      lib.encodeToBytes encoded = .ok bytes → writable = true → ¬ self.CacheWriteDue query.inner.objectId →
        ∃ row, self.database.latest query.inner.objectId = some row ∧ row.Holds lib encoded
  -- a delete marks the row while the cache is still clear
  | .mark task outage => ∀ objectId, self.tasks task = some (.delete objectId) → outage = none →
      self.database.uncommitted objectId = none → (self.database.committed objectId).isSome →
        self.memCache objectId = none
  | _ => True

end SharedStorage

/-- What an insert relies on at each of its stages. -/
structure Insert.Sound (database : Database) (task : Nat) (insert : Insert) (stage : InsertStage) : Prop where
  checked : checkEncodedCollabData lib insert.params.encodedCollabV1 = .ok ()
  found : ∀ workspaceId, stage = .storing workspaceId true → (database.view task insert.params.objectId).isSome
  stored : stage = .caching → ∃ row, database.uncommitted insert.params.objectId = some ⟨task, row⟩ ∧
    row.blob = insert.params.encodedCollabV1

theorem Insert.Sound.keeps {lib : StorageLib yrs} {database next : Database} {task : Nat} {insert : Insert}
    {stage : InsertStage}
    (sound : insert.Sound lib database task stage) (keeps : database.Keeps task next) :
    insert.Sound lib next task stage := by
  refine ⟨sound.checked, fun workspaceId storing => keeps.view (sound.found workspaceId storing), fun caching => ?_⟩
  obtain ⟨row, written, blob⟩ := sound.stored caching
  exact ⟨row, keeps.own _ _ written, blob⟩

structure Coherent (state : SharedStorage) : Prop where
  cached : CoherentExcept (Matches lib) state.CacheWriteDue state.database state.memCache
  writers : ∀ objectId version, state.database.uncommitted objectId = some version →
    ∃ progress, state.tasks version.writer = some (.transaction progress)
  inserts : ∀ task insert stage, state.tasks task = some (.transaction (.inserting insert stage)) →
    insert.Sound lib state.database task stage

variable {lib} {state next : SharedStorage} {task : Nat}

/-! ## What a step leaves alone -/

/-- A cache write stays due while its own transaction takes no step. -/
theorem due_of_others (others : ∀ other, other ≠ task → next.tasks other = state.tasks other)
    (notDue : ∀ insert, state.tasks task ≠ some (.transaction (.inserting insert .caching))) (objectId : String)
    (due : state.CacheWriteDue objectId) : next.CacheWriteDue objectId := by
  obtain ⟨writer, insert, caching, rfl⟩ := due
  refine ⟨writer, insert, ?_, rfl⟩
  rw [others writer, caching]
  rintro rfl
  exact notDue insert caching

/-- The invariant after a step of one task, from what the step does to the stores. -/
theorem Coherent.advance (coherent : Coherent lib state)
    (others : ∀ other, other ≠ task → next.tasks other = state.tasks other)
    (keeps : ∀ other, other ≠ task → state.database.Keeps other next.database)
    (cached : CoherentExcept (Matches lib) next.CacheWriteDue next.database next.memCache)
    (writers : ∀ objectId version, next.database.uncommitted objectId = some version →
      state.database.uncommitted objectId = some version ∧ version.writer ≠ task ∨
        ∃ progress, next.tasks version.writer = some (.transaction progress))
    (own : ∀ insert stage, next.tasks task = some (.transaction (.inserting insert stage)) →
      insert.Sound lib next.database task stage) :
    Coherent lib next := by
  refine ⟨cached, fun objectId version written => ?_, fun other insert stage inserting => ?_⟩
  · cases writers objectId version written with
    | inl held =>
      obtain ⟨before, apart⟩ := held
      rw [others _ apart]
      exact coherent.writers objectId version before
    | inr progress => exact progress
  · by_cases same : other = task
    · subst same
      exact own insert stage inserting
    · rw [others other same] at inserting
      exact (coherent.inserts other insert stage inserting).keeps (keeps other same)

/-- The database is left alone, and a transaction stays one. -/
theorem Coherent.retask (coherent : Coherent lib state)
    (others : ∀ other, other ≠ task → next.tasks other = state.tasks other)
    (database : next.database = state.database)
    (cached : CoherentExcept (Matches lib) next.CacheWriteDue state.database next.memCache)
    (still : ∀ progress, state.tasks task = some (.transaction progress) →
      ∃ later, next.tasks task = some (.transaction later))
    (own : ∀ insert stage, next.tasks task = some (.transaction (.inserting insert stage)) →
      insert.Sound lib state.database task stage) :
    Coherent lib next := by
  refine coherent.advance others (fun other _ => database ▸ .refl other _) (database ▸ cached) ?_ (database ▸ own)
  intro objectId version written
  rw [database] at written
  by_cases apart : version.writer = task
  · obtain ⟨progress, open'⟩ := coherent.writers objectId version written
    rw [apart] at open' ⊢
    exact .inr (still progress open')
  · exact .inl ⟨written, apart⟩

/-- A step of a task that is no transaction, and does not become one that inserts. -/
theorem Coherent.plain (coherent : Coherent lib state)
    (others : ∀ other, other ≠ task → next.tasks other = state.tasks other)
    (database : next.database = state.database)
    (cached : CoherentExcept (Matches lib) state.CacheWriteDue state.database next.memCache)
    (before : ∀ progress, state.tasks task ≠ some (.transaction progress))
    (after : ∀ insert stage, next.tasks task ≠ some (.transaction (.inserting insert stage))) : Coherent lib next := by
  refine coherent.retask others database ?_ (fun progress open' => absurd open' (before progress))
    fun insert stage inserting => absurd inserting (after insert stage)
  exact cached.mono (due_of_others others fun insert => before _)

/-! ## The steps of a transaction -/

/-- A transaction goes on without touching the stores, and no cache write is due before or after. -/
theorem Coherent.setTransaction (coherent : Coherent lib state) {before after : TransactionState}
    (here : state.tasks task = some (.transaction before)) (notDue : ∀ insert, before ≠ .inserting insert .caching)
    (own : ∀ insert stage, after = .inserting insert stage → insert.Sound lib state.database task stage) :
    Coherent lib (state.setTransaction task after) := by
  have others : ∀ other, other ≠ task → (state.setTransaction task after).tasks other = state.tasks other :=
    fun other apart => Function.update_of_ne apart _ _
  have there : (state.setTransaction task after).tasks task = some (.transaction after) := Function.update_self ..
  refine coherent.retask others rfl ?_ (fun _ _ => ⟨after, there⟩) fun insert stage inserting => ?_
  · refine coherent.cached.mono (due_of_others others fun insert caching => ?_)
    rw [here] at caching
    cases caching
    exact notDue insert rfl
  · rw [there] at inserting
    cases inserting
    exact own insert stage rfl

theorem Coherent.setFailed (coherent : Coherent lib state) {before : TransactionState}
    (here : state.tasks task = some (.transaction before)) (notDue : ∀ insert, before ≠ .inserting insert .caching)
    (error : AppError) : Coherent lib (state.setTransaction task (.failed error)) :=
  coherent.setTransaction here notDue (by rintro _ _ ⟨⟩)

theorem Coherent.check (coherent : Coherent lib state) (task : Nat) (insert : Insert) (outcomes : WriteOutcomes) :
    Coherent lib (state.check lib task insert outcomes) := by
  rw [SharedStorage.check]
  split
  · rename_i idle
    split
    · exact coherent.setFailed idle (by simp) _
    · rename_i passed
      refine coherent.setTransaction idle (by simp) ?_
      rintro _ _ ⟨⟩
      exact ⟨checkInsert_checked passed, by simp, by simp⟩
  · exact coherent

theorem Coherent.select (coherent : Coherent lib state) (task : Nat) (outages : InsertOutages) :
    Coherent lib (state.select lib task outages) := by
  rw [SharedStorage.select]
  split
  · rename_i insert selecting
    split
    · exact coherent.setFailed selecting (by simp) _
    · rename_i workspaceId found selected
      refine coherent.setTransaction selecting (by simp) ?_
      rintro _ _ ⟨⟩
      refine ⟨(coherent.inserts task insert _ selecting).checked, ?_, by simp⟩
      rintro _ ⟨⟩
      exact selectExisting_found selected
  · exact coherent

/-- The row is written, which makes its cache write due. -/
theorem Coherent.write (coherent : Coherent lib state) {insert : Insert} {before : TransactionState}
    {row : AfCollabRow} (here : state.tasks task = some (.transaction before))
    (notDue : ∀ insert, before ≠ .inserting insert .caching)
    (unlocked : state.database.free task insert.params.objectId = true)
    (checked : checkEncodedCollabData lib insert.params.encodedCollabV1 = .ok ())
    (blob : row.blob = insert.params.encodedCollabV1)
    (others : ∀ other, other ≠ task → next.tasks other = state.tasks other)
    (there : next.tasks task = some (.transaction (.inserting insert .caching)))
    (database : next.database = state.database.write task insert.params.objectId row)
    (memCache : next.memCache = state.memCache) : Coherent lib next := by
  refine coherent.advance others ?_ ?_ ?_ ?_
  · intro other apart
    rw [database]
    exact TransactionalStore.keeps_write unlocked apart
  · rw [database, memCache]
    refine CoherentExcept.write (coherent.cached.mono (due_of_others others fun insert caching => ?_))
      ⟨task, insert, there, rfl⟩
    rw [here] at caching
    cases caching
    exact notDue insert rfl
  · intro objectId version written
    rw [database] at written
    cases TransactionalStore.uncommitted_write.mp written with
    | inl held =>
      obtain ⟨_, rfl⟩ := held
      exact .inr ⟨_, there⟩
    | inr held =>
      obtain ⟨_, written⟩ := held
      by_cases apart : version.writer = task
      · exact .inr ⟨_, apart ▸ there⟩
      · exact .inl ⟨written, apart⟩
  · intro other stage inserting
    rw [there] at inserting
    cases inserting
    refine ⟨checked, by simp, fun _ => ⟨row, ?_, blob⟩⟩
    rw [database]
    exact TransactionalStore.uncommitted_write.mpr (.inl ⟨rfl, rfl⟩)

theorem Coherent.store (coherent : Coherent lib state) (task : Nat) (outages : InsertOutages) :
    Coherent lib (state.store lib task outages) := by
  rw [SharedStorage.store]
  split
  · rename_i insert workspaceId found storing
    simp only
    split
    · exact coherent.setFailed storing (by simp) _
    · rename_i row stored
      split
      · rename_i unlocked
        have sound := coherent.inserts task insert _ storing
        obtain ⟨written, rfl, blob⟩ := storeRow_stores (fun same => sound.found workspaceId (same ▸ rfl)) stored
        exact coherent.write storing (by simp) unlocked sound.checked blob
          (fun other apart => Function.update_of_ne apart _ _) (Function.update_self ..) rfl rfl
      · exact coherent
  · exact coherent

/-- The cache write is over, with the document of the row in the cache or nothing else than it. -/
theorem Coherent.cache (coherent : Coherent lib state) {writable : Bool}
    (careful : state.Careful lib (.cache task writable)) : Coherent lib (state.cache task writable) := by
  rw [SharedStorage.cache]
  split
  · rename_i insert caching
    have sound := coherent.inserts task insert _ caching
    obtain ⟨row, written, blob⟩ := sound.stored rfl
    have latest := TransactionalStore.latest_of_written written
    have allowed := careful insert _ caching written
    have settled : ∀ objectId, state.CacheWriteDue objectId → objectId = insert.params.objectId ∨
        (state.setTransaction task .idle).CacheWriteDue objectId := by
      rintro objectId ⟨other, later, due, rfl⟩
      by_cases same : other = task
      · subst same
        rw [caching] at due
        cases due
        exact .inl rfl
      · exact .inr ⟨other, later, by rw [← due]; exact Function.update_of_ne same _ _, rfl⟩
    refine coherent.retask (fun other apart => Function.update_of_ne apart _ _) rfl ?_
      (fun _ _ => ⟨.idle, Function.update_self ..⟩) fun other stage inserting => ?_
    · cases writable with
      | true =>
        have due : state.CacheWriteDue insert.params.objectId := ⟨task, insert, caching, rfl⟩
        refine (coherent.cached.update fun free => absurd due free).settle ?_ settled
        rw [Function.update_self, latest]
        exact reflects_some (matches_checked allowed blob sound.checked)
      | false =>
        refine coherent.cached.settle ?_ settled
        rw [latest]
        rintro data cached
        exact ⟨row, rfl, allowed data cached⟩
    · simp [SharedStorage.setTransaction] at inserting
  · exact coherent

/-- A transaction that has ended has no versions left. -/
theorem Coherent.ended (coherent : Coherent lib state)
    (others : ∀ other, other ≠ task → next.tasks other = state.tasks other) (ended : next.tasks task = none)
    (keeps : ∀ other, other ≠ task → state.database.Keeps other next.database)
    (cached : CoherentExcept (Matches lib) next.CacheWriteDue next.database next.memCache)
    (writers : ∀ objectId version, next.database.uncommitted objectId = some version →
      state.database.uncommitted objectId = some version ∧ version.writer ≠ task) : Coherent lib next := by
  refine coherent.advance others keeps cached
    (fun objectId version written => .inl (writers objectId version written)) ?_
  intro insert stage inserting
  rw [ended] at inserting
  cases inserting

theorem Coherent.commit (coherent : Coherent lib state) (task : Nat) (outage : Option Outage) :
    Coherent lib (state.commit task outage) := by
  rw [SharedStorage.commit]
  split
  · rename_i idle
    split
    · exact coherent.setFailed idle (by simp) _
    · have others : ∀ other, other ≠ task → Function.update state.tasks task none other = state.tasks other :=
        fun other apart => Function.update_of_ne apart _ _
      refine coherent.ended others (Function.update_self ..) (fun other apart => TransactionalStore.keeps_commit apart)
        ?_ fun objectId version => TransactionalStore.uncommitted_commit.mp
      refine (coherent.cached.commit task).mono (due_of_others others fun insert caching => ?_)
      rw [idle] at caching
      cases caching
  · exact coherent

/-- The cache write that was due for the row is due no longer, but then the row is undone. -/
theorem Coherent.rollback (coherent : Coherent lib state) (careful : state.Careful lib (.abandon task))
    (others : ∀ other, other ≠ task → next.tasks other = state.tasks other) (ended : next.tasks task = none)
    (database : next.database = state.database.rollback task) (memCache : next.memCache = state.memCache) :
    Coherent lib next := by
  refine coherent.ended others ended ?_ ?_ ?_
  · intro other apart
    rw [database]
    exact TransactionalStore.keeps_rollback apart
  · rw [database, memCache]
    refine coherent.cached.rollback careful ?_
    rintro objectId ⟨other, insert, due, rfl⟩
    by_cases same : other = task
    · subst same
      obtain ⟨row, written, _⟩ := (coherent.inserts other insert _ due).stored rfl
      exact .inr ⟨row, written⟩
    · exact .inl ⟨other, insert, by rw [others other same]; exact due, rfl⟩
  · intro objectId version
    rw [database]
    exact TransactionalStore.uncommitted_rollback.mp

theorem Coherent.abandon (coherent : Coherent lib state) (careful : state.Careful lib (.abandon task)) :
    Coherent lib (state.abandon task) := by
  have others : ∀ other, other ≠ task → Function.update state.tasks task none other = state.tasks other :=
    fun other apart => Function.update_of_ne apart _ _
  rw [SharedStorage.abandon]
  split
  · exact coherent.rollback careful others (Function.update_self ..) rfl rfl
  · exact coherent.rollback careful others (Function.update_self ..) rfl rfl
  · rename_i notFailed notOpen
    exact coherent.plain others rfl coherent.cached (fun progress here => notOpen progress here)
      fun insert stage inserting => by simp [SharedStorage.drop] at inserting

/-! ## The steps of the other operations -/

/-- An operation that is no transaction ends; the cache may have been changed. -/
theorem Coherent.finish (coherent : Coherent lib state)
    (before : ∀ progress, state.tasks task ≠ some (.transaction progress)) {memCache : CollabMemCache}
    (cached : CoherentExcept (Matches lib) state.CacheWriteDue state.database memCache) (answer : Answer) :
    Coherent lib (({ state with memCache }).finish task answer) :=
  coherent.plain (fun _ apart => Function.update_of_ne apart _ _) rfl cached before fun insert stage inserting => by
    simp [SharedStorage.finish, SharedStorage.drop] at inserting

theorem Coherent.setTask (coherent : Coherent lib state)
    (before : ∀ progress, state.tasks task ≠ some (.transaction progress)) {memCache : CollabMemCache}
    (cached : CoherentExcept (Matches lib) state.CacheWriteDue state.database memCache) {after : Task}
    (plain : ∀ insert stage, after ≠ .transaction (.inserting insert stage)) :
    Coherent lib (({ state with memCache }).setTask task after) :=
  coherent.plain (fun _ apart => Function.update_of_ne apart _ _) rfl cached before fun insert stage inserting => by
    simp only [SharedStorage.tasks_setTask, Option.some.injEq] at inserting
    exact plain insert stage inserting

theorem Coherent.beginTransaction (coherent : Coherent lib state) (task : Nat) (outage : Option Outage) :
    Coherent lib (state.beginTransaction task outage) := by
  rw [SharedStorage.beginTransaction]
  split
  · rename_i free
    split
    · exact coherent.finish (by simp [free]) coherent.cached _
    · exact coherent.setTask (by simp [free]) coherent.cached (by simp)
  · exact coherent

theorem Coherent.lookup (coherent : Coherent lib state) (task : Nat) (query : QueryCollabParams) (reachable : Bool) :
    Coherent lib (state.lookup lib task query reachable) := by
  rw [SharedStorage.lookup]
  split
  · rename_i free
    split
    · exact coherent.finish (by simp [free]) coherent.cached _
    · exact coherent.setTask (by simp [free]) coherent.cached (by simp)
  · exact coherent

theorem Coherent.fetch (coherent : Coherent lib state) (task : Nat) (outage : Option Outage) :
    Coherent lib (state.fetch lib task outage) := by
  rw [SharedStorage.fetch]
  split
  · rename_i query attempts reading
    have ended (result : Except AppError EncodedCollab) : Coherent lib (state.finish task (.encoded result)) :=
      coherent.finish (by simp [reading]) coherent.cached _
    have goesOn (stage : ReadStage) : Coherent lib (state.setTask task (.read query stage)) :=
      coherent.setTask (by simp [reading]) coherent.cached (by simp)
    split
    · split
      · exact ended _
      · exact goesOn _
    · exact ended _
    · split
      · exact goesOn _
      · exact ended _
    · exact ended _
  · exact coherent

/-- What a read puts into the cache decodes to what it holds. -/
theorem Coherent.fill (encode_decode : ∀ encoded data, lib.encodeToBytes encoded = .ok data →
      lib.decodeFromBytes data = .ok encoded) (coherent : Coherent lib state) {writable : Bool}
    (careful : state.Careful lib (.fill task writable)) : Coherent lib (state.fill lib task writable) := by
  rw [SharedStorage.fill]
  split
  · rename_i query encoded filling
    refine coherent.finish (by simp [filling]) ?_ _
    split
    · rename_i bytes encodes
      refine coherent.cached.update fun notDue => ?_
      obtain ⟨row, latest, holds⟩ := careful query encoded bytes filling encodes rfl notDue
      rw [latest]
      exact reflects_some ⟨encoded, encode_decode encoded bytes encodes, holds⟩
    · exact coherent.cached
  · exact coherent

theorem Coherent.batch (coherent : Coherent lib state) (task : Nat) (queries : List QueryCollab) :
    Coherent lib (state.batch task queries) := by
  rw [SharedStorage.batch]
  split
  · rename_i free
    exact coherent.setTask (by simp [free]) coherent.cached (by simp)
  · exact coherent

theorem Coherent.batchLookup (coherent : Coherent lib state) (task : Nat) (reachable : Bool) :
    Coherent lib (state.batchLookup task reachable) := by
  rw [SharedStorage.batchLookup]
  split
  · rename_i reading
    split
    · exact coherent.setTask (by simp [reading]) coherent.cached (by simp)
    · exact coherent.setTask (by simp [reading]) coherent.cached (by simp)
  · exact coherent

theorem Coherent.batchSelect (coherent : Coherent lib state) (task : Nat) (collabType : CollabType)
    (outage : Option Outage) : Coherent lib (state.batchSelect lib task collabType outage) := by
  rw [SharedStorage.batchSelect]
  split
  · rename_i reading
    simp only
    split
    · exact coherent.finish (by simp [reading]) coherent.cached _
    · exact coherent.setTask (by simp [reading]) coherent.cached (by simp)
  · exact coherent

theorem Coherent.remove (coherent : Coherent lib state) (task : Nat) (objectId : String) (failure : Option String) :
    Coherent lib (state.remove task objectId failure) := by
  cases free : state.tasks task with
  | some operation => simpa [SharedStorage.remove, free] using coherent
  | none =>
    cases failure with
    | some err =>
      rw [SharedStorage.remove, free]
      exact coherent.finish (by simp [free]) coherent.cached _
    | none =>
      rw [SharedStorage.remove, free]
      exact coherent.setTask (by simp [free]) (coherent.cached.forget objectId) (by simp)

theorem Coherent.expire (coherent : Coherent lib state) (objectId : String) :
    Coherent lib (state.expire objectId) :=
  ⟨coherent.cached.forget objectId, coherent.writers, coherent.inserts⟩

theorem deleteCollab_of_none {table : AfCollab} {objectId : String} (absent : table objectId = none) :
    deleteCollab table objectId = table := by
  rw [deleteCollab, absent]
  exact Function.update_eq_self_iff.mpr absent.symm

theorem keeps_deleteCollab (task : Nat) (database : Database) (objectId : String) :
    database.Keeps task { database with committed := deleteCollab database.committed objectId } := by
  refine ⟨fun _ _ written => written, fun key found => ?_⟩
  by_cases same : key = objectId
  · subst same
    simpa [deleteCollab] using found
  · simpa [deleteCollab, same] using found

/-- A row is marked while the cache is clear, or there is no row to mark. -/
theorem CoherentExcept.deleteCollab {Due : String → Prop} {database : Database} {memCache : CollabMemCache}
    (coherent : CoherentExcept (Matches lib) Due database memCache) {objectId : String}
    (clear : (database.committed objectId).isSome → memCache objectId = none) :
    CoherentExcept (Matches lib) Due
      { database with committed := FlowCloud.Storage.deleteCollab database.committed objectId } memCache := by
  cases found : database.committed objectId with
  | none =>
    rw [deleteCollab_of_none found]
    exact coherent
  | some row => exact coherent.amend (clear (by simp [found])) _

theorem Coherent.mark (coherent : Coherent lib state) {outage : Option Outage}
    (careful : state.Careful lib (.mark task outage)) : Coherent lib (state.mark task outage) := by
  rw [SharedStorage.mark]
  split
  · rename_i objectId deleting
    split
    · exact coherent.finish (by simp [deleting]) coherent.cached _
    · rename_i answered
      split
      · exact coherent
      · rename_i free
        have served : outage = none := by
          cases outage with
          | none => rfl
          | some outage => cases answered
        have clear : (state.database.committed objectId).isSome → state.memCache objectId = none := by
          intro found
          refine careful objectId deleting served ?_ found
          simpa [found] using free
        have others : ∀ other, other ≠ task → Function.update state.tasks task none other = state.tasks other :=
          fun other apart => Function.update_of_ne apart _ _
        refine coherent.advance others (fun other _ => keeps_deleteCollab other _ _) ?_ ?_ ?_
        · refine CoherentExcept.mono ?_ (due_of_others others (by simp [deleting]))
          exact CoherentExcept.deleteCollab coherent.cached clear
        · intro other version written
          refine .inl ⟨written, ?_⟩
          rintro rfl
          obtain ⟨progress, here⟩ := coherent.writers other version written
          rw [deleting] at here
          cases here
        · simp [SharedStorage.finish, SharedStorage.drop]
  · exact coherent

theorem Coherent.step (encode_decode : ∀ encoded data, lib.encodeToBytes encoded = .ok data →
      lib.decodeFromBytes data = .ok encoded) (coherent : Coherent lib state) {event : SharedStorage.Event}
    (careful : state.Careful lib event) : Coherent lib (state.step lib event) := by
  cases event with
  | beginTransaction task outage => exact coherent.beginTransaction task outage
  | check task insert outcomes => exact coherent.check task insert outcomes
  | select task outages => exact coherent.select task outages
  | store task outages => exact coherent.store task outages
  | cache task writable => exact coherent.cache careful
  | commit task outage => exact coherent.commit task outage
  | abandon task => exact coherent.abandon careful
  | lookup task query reachable => exact coherent.lookup task query reachable
  | fetch task outage => exact coherent.fetch task outage
  | fill task writable => exact coherent.fill encode_decode careful
  | batch task queries => exact coherent.batch task queries
  | batchLookup task reachable => exact coherent.batchLookup task reachable
  | batchSelect task collabType outage => exact coherent.batchSelect task collabType outage
  | remove task objectId failure => exact coherent.remove task objectId failure
  | mark task outage => exact coherent.mark careful
  | expire objectId => exact coherent.expire objectId

/-! ## Care is needed -/

/-- Where no transaction that has written the row is about to cache it, the cache stands for it. -/
theorem Coherent.reflects (coherent : Coherent lib state) (objectId : String)
    (notDue : ∀ writer insert row, state.database.uncommitted objectId = some ⟨writer, row⟩ →
      state.tasks writer ≠ some (.transaction (.inserting insert .caching))) :
    Reflects (Matches lib) (state.memCache objectId) (state.database.latest objectId) := by
  refine coherent.cached objectId ?_
  rintro ⟨writer, insert, caching, rfl⟩
  obtain ⟨row, written, _⟩ := (coherent.inserts writer insert _ caching).stored rfl
  exact notDue writer insert row written caching

theorem careful_of_cache {writable : Bool} (coherent : Coherent lib state)
    (after : Coherent lib (state.cache task writable)) : state.Careful lib (.cache task writable) := by
  intro insert version caching written
  obtain ⟨row, here, _⟩ := (coherent.inserts task insert _ caching).stored rfl
  cases written.symm.trans here
  have taken : state.cache task writable = ({ state with
      memCache := if writable then
          Function.update state.memCache insert.params.objectId (some insert.params.encodedCollabV1)
        else state.memCache }).setTransaction task .idle := by
    rw [SharedStorage.cache, caching]
  have reflects := after.reflects insert.params.objectId
  simp only [taken, SharedStorage.setTransaction, SharedStorage.database_setTask, SharedStorage.memCache_setTask,
    TransactionalStore.latest_of_written written] at reflects
  specialize reflects (by
    intro writer other row version due
    cases written.symm.trans version
    simp at due)
  cases writable with
  | true =>
    obtain ⟨_, same, _, _, live, _⟩ := reflects insert.params.encodedCollabV1 (Function.update_self ..)
    cases same
    exact live
  | false =>
    intro data cached
    obtain ⟨_, same, reflected⟩ := reflects data cached
    cases same
    exact reflected

theorem careful_of_abandon (coherent : Coherent lib state) (after : Coherent lib (state.abandon task)) :
    state.Careful lib (.abandon task) := by
  rintro objectId ⟨writer, row⟩ written own
  obtain rfl : writer = task := own
  obtain ⟨progress, here⟩ := coherent.writers objectId _ written
  have undone : (state.abandon writer).database = state.database.rollback writer ∧
      (state.abandon writer).memCache = state.memCache := by
    rw [SharedStorage.abandon, here]
    cases progress <;> exact ⟨rfl, rfl⟩
  have reflects := after.reflects objectId
  rw [undone.1, undone.2, TransactionalStore.latest_rollback_own written] at reflects
  refine reflects ?_
  intro other insert version left
  obtain ⟨same, apart⟩ := TransactionalStore.uncommitted_rollback.mp left
  cases written.symm.trans same
  exact absurd rfl apart

theorem careful_of_fill (encode_decode : ∀ encoded data, lib.encodeToBytes encoded = .ok data →
      lib.decodeFromBytes data = .ok encoded) {writable : Bool} (after : Coherent lib (state.fill lib task writable)) :
    state.Careful lib (.fill task writable) := by
  rintro query encoded bytes filling encodes rfl notDue
  have taken : state.fill lib task true = ({ state with
      memCache := Function.update state.memCache query.inner.objectId (some bytes) }).finish task
        (.encoded (.ok encoded)) := by
    rw [SharedStorage.fill, filling]
    simp only [encodes]
  have reflects := after.cached query.inner.objectId
  rw [taken] at reflects
  obtain ⟨row, latest, other, decoded, holds⟩ := reflects (by
    rintro ⟨writer, insert, caching, same⟩
    refine notDue ⟨writer, insert, ?_, same⟩
    by_cases apart : writer = task
    · subst apart
      simp [SharedStorage.finish, SharedStorage.drop] at caching
    · rw [← caching]
      exact (Function.update_of_ne apart _ _).symm) bytes (Function.update_self ..)
  cases (encode_decode encoded bytes encodes).symm.trans decoded
  exact ⟨row, latest, holds⟩

theorem careful_of_mark {outage : Option Outage} (after : Coherent lib (state.mark task outage)) :
    state.Careful lib (.mark task outage) := by
  rintro objectId deleting rfl unwritten found
  have taken : state.mark task none = ({ state with
      database := { state.database with committed := deleteCollab state.database.committed objectId } }).finish task
        (.done (.ok ())) := by
    rw [SharedStorage.mark, deleting]
    simp [query, unwritten]
  obtain ⟨row, stored⟩ := Option.isSome_iff_exists.mp found
  have latest : (state.mark task none).database.latest objectId = some { row with deleted := true } := by
    rw [taken]
    simp [SharedStorage.finish, SharedStorage.drop, TransactionalStore.latest, unwritten, deleteCollab, stored]
  have reflects := after.reflects objectId
  rw [latest] at reflects
  cases cached : state.memCache objectId with
  | none => rfl
  | some data =>
    obtain ⟨_, same, _, _, live, _⟩ := reflects (by
      intro writer insert row written
      rw [taken] at written
      cases unwritten.symm.trans written) data (by rw [taken]; exact cached)
    cases same
    cases live

/-- A step keeps the invariant exactly when it is taken with care. -/
theorem Coherent.step_iff (encode_decode : ∀ encoded data, lib.encodeToBytes encoded = .ok data →
      lib.decodeFromBytes data = .ok encoded) (coherent : Coherent lib state) (event : SharedStorage.Event) :
    Coherent lib (state.step lib event) ↔ state.Careful lib event := by
  refine ⟨fun after => ?_, coherent.step encode_decode⟩
  cases event with
  | cache task writable => exact careful_of_cache coherent after
  | abandon task => exact careful_of_abandon coherent after
  | fill task writable => exact careful_of_fill encode_decode after
  | mark task outage => exact careful_of_mark after
  | _ => trivial

/-! ## Runs -/

theorem Coherent.of_agrees (calm : state.Quiescent) (settled : ∀ objectId, state.database.uncommitted objectId = none)
    (agrees : state.Agrees lib) : Coherent lib state := by
  refine ⟨fun objectId _ => ?_, fun objectId version written => ?_, fun task insert stage inserting => ?_⟩
  · rw [TransactionalStore.latest_of_none (settled objectId)]
    exact agrees objectId
  · rw [settled objectId] at written
    cases written
  · rw [calm task] at inserting
    cases inserting

/-- With no operation in progress there is no version and no cache write left. -/
theorem Coherent.agrees (coherent : Coherent lib state) (calm : state.Quiescent) : state.Agrees lib := by
  intro objectId
  have settled : state.database.uncommitted objectId = none := by
    cases written : state.database.uncommitted objectId with
    | none => rfl
    | some version =>
      obtain ⟨progress, open'⟩ := coherent.writers objectId version written
      rw [calm] at open'
      cases open'
  have notDue : ¬ state.CacheWriteDue objectId := by
    rintro ⟨task, insert, caching, _⟩
    rw [calm] at caching
    cases caching
  rw [← TransactionalStore.latest_of_none settled]
  exact coherent.cached objectId notDue

/-- Whatever the order of the steps, the cache agrees with the database whenever no operation
    is in progress, if each step is taken with care. -/
theorem cache_agrees (lib : StorageLib yrs)
    (encode_decode : ∀ encoded data, lib.encodeToBytes encoded = .ok data → lib.decodeFromBytes data = .ok encoded)
    (start : SharedStorage) (calm : start.Quiescent) (settled : ∀ objectId, start.database.uncommitted objectId = none)
    (agrees : start.Agrees lib) (events : List SharedStorage.Event)
    (careful : Always (SharedStorage.step lib) (SharedStorage.Careful lib) start events)
    (quiescent : (run (SharedStorage.step lib) start events).Quiescent) :
    (run (SharedStorage.step lib) start events).Agrees lib := by
  have coherent : Coherent lib (run (SharedStorage.step lib) start events) :=
    careful.invariant (fun _ _ coherent careful => coherent.step encode_decode careful)
      (Coherent.of_agrees calm settled agrees)
  exact coherent.agrees quiescent

/-! ## Runs on one object -/

/-- Nothing is stored, cached or in progress. -/
def SharedStorage.empty : SharedStorage := ⟨.settled fun _ => none, fun _ => none, fun _ => none, fun _ => none⟩

def insertOf (objectId : String) (data : Bytes) : Insert :=
  ⟨"5b7cbb2f-4a5c-4f3c-9a0e-1d2c3b4a5f60", 1, ⟨objectId, data, .document, false⟩⟩

def typedBytes : Bytes :=
  [3, 0, 0, 0, 0, 0, 0, 0, 1, 1, 1, 11, 0, 0, 0, 0, 0, 0, 0, 1, 1, 1, 0, 4, 1, 1, 116, 1, 97, 0, 0, 0, 0, 0]

/-- Two collabs are to be created in one transaction. -/
def rolledBack : List SharedStorage.Event :=
  [.beginTransaction 0 none, .check 0 (insertOf "doc" typedBytes) .good, .select 0 .none, .store 0 .none, .cache 0 true,
    .check 0 (insertOf "other" [9]) .good, .abandon 0]

/-- The first of two collabs that are created together is cached, and the second cannot be decoded. -/
theorem rolledBack_contradicts :
    ¬ ∀ (start : SharedStorage) (events : List SharedStorage.Event), start.Quiescent →
      (∀ objectId, start.database.uncommitted objectId = none) → start.Agrees typedLib →
      (run (SharedStorage.step typedLib) start events).Quiescent →
      (run (SharedStorage.step typedLib) start events).Agrees typedLib := by
  intro always
  have quiescent : (run (SharedStorage.step typedLib) .empty rolledBack).Quiescent := by
    intro task
    cases task with
    | zero => rfl
    | succ other => rfl
  have cached : (run (SharedStorage.step typedLib) .empty rolledBack).memCache "doc" = some typedBytes := by
    decide +kernel
  have absent : (run (SharedStorage.step typedLib) .empty rolledBack).database.committed "doc" = none := by
    decide +kernel
  obtain ⟨row, stored, _⟩ := always .empty rolledBack (fun _ => rfl) (fun _ => rfl) (by rintro _ _ ⟨⟩) quiescent "doc"
    typedBytes cached
  rw [absent] at stored
  cases stored

def insertedAndRead : List SharedStorage.Event :=
  [.beginTransaction 0 none, .check 0 (insertOf "doc" typedBytes) .good, .select 0 .none, .store 0 .none, .cache 0 true,
    .commit 0 none, .expire "doc", .lookup 1 ⟨"w", "doc", .document⟩ true, .fetch 1 none, .beginTransaction 2 none,
    .check 2 (insertOf "doc" typedBytes) .good, .fill 1 true, .select 2 .none, .store 2 .none,
    .cache 2 true, .commit 2 none]

theorem cache_agrees_read :
    (run (SharedStorage.step typedLib) .empty insertedAndRead).Agrees typedLib ∧
      (run (SharedStorage.step typedLib) .empty insertedAndRead).memCache "doc" = some typedBytes := by
  have quiescent : (run (SharedStorage.step typedLib) .empty insertedAndRead).Quiescent := by
    rintro (_ | _ | _ | other)
    · rfl
    · rfl
    · rfl
    · rfl
  refine ⟨?_, by decide +kernel⟩
  refine cache_agrees typedLib ?_ .empty (fun _ => rfl) (fun _ => rfl) (by rintro _ _ ⟨⟩) insertedAndRead ?_ quiescent
  · rintro encoded _ ⟨⟩
    exact TypedLib.decodeFromBytes_encode encoded
  · refine ⟨trivial, trivial, trivial, trivial, ?_, trivial, trivial, trivial, trivial, trivial, trivial, ?_, trivial,
      trivial, ?_, trivial, trivial⟩
    · intro insert version caching written
      cases caching
      cases written
      rfl
    · intro query encoded _ filling _ _ _
      cases filling
      refine ⟨_, rfl, rfl, _, rfl, rfl⟩
    · intro insert version caching written
      cases caching
      cases written
      rfl

end Coherence

end FlowCloud.Storage
