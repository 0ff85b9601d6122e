import FlowCloud.Foundation.Runs
import FlowCloud.Foundation.Transactions
import FlowCloud.Storage.Collab

/-! # Files and their bytes

A file has a row in the database and an object in the bucket.  A put stores the object
before it commits the row, and a delete removes the object before it commits that the row
is gone, so a row that is to go outlives its object until then, or for good if the commit
fails.
-/

namespace FlowCloud.Storage

open FlowCloud.Foundation FlowCloud.Entity

/-! ## Object keys -/

structure File where
  workspaceId : Uuid
  fileId : String
  deriving DecidableEq, Repr

def File.objKey (self : File) : String := self.workspaceId.text ++ "/" ++ self.fileId

/-- The digits of a UUID, the highest first. -/
def Uuid.digits (id : Uuid) : List Char :=
  (List.range 32).map fun place => Nat.digitChar (id.toNat / 16 ^ (31 - place) % 16)

theorem Uuid.length_toList_text (id : Uuid) : id.text.toList.length = 36 := by
  simp [Uuid.text]

theorem mod_pow_eq_of_digits {base first second : Nat} {places : Nat}
    (same : ∀ place < places, first / base ^ place % base = second / base ^ place % base) :
    first % base ^ places = second % base ^ places := by
  induction places with
  | zero => simp [Nat.mod_one]
  | succ places inductionHypothesis =>
    rw [Nat.mod_pow_succ, Nat.mod_pow_succ, same places (Nat.lt_succ_self places),
      inductionHypothesis fun place below => same place (Nat.lt_succ_of_lt below)]

theorem Uuid.digits_injective : Function.Injective Uuid.digits := by
  intro first second same
  have digits : ∀ place < 32, first.toNat / 16 ^ place % 16 = second.toNat / 16 ^ place % 16 := by
    intro place below
    have chars := List.map_inj_left.mp same (31 - place) (List.mem_range.mpr (by omega))
    rw [Nat.sub_sub_self (by omega)] at chars
    have injective : ∀ left < 16, ∀ right < 16, Nat.digitChar left = Nat.digitChar right → left = right := by decide
    exact injective _ (Nat.mod_lt _ (by omega)) _ (Nat.mod_lt _ (by omega)) chars
  have numbers := mod_pow_eq_of_digits digits
  have bound : (16 : Nat) ^ 32 = 2 ^ 128 := by decide
  rw [bound, Nat.mod_eq_of_lt first.isLt, Nat.mod_eq_of_lt second.isLt] at numbers
  exact BitVec.eq_of_toNat_eq numbers

theorem Uuid.hyphen_notMem_digits (id : Uuid) : '-' ∉ id.digits := by
  rw [Uuid.digits]
  intro member
  obtain ⟨place, _, digit⟩ := List.mem_map.mp member
  have noHyphen : ∀ value < 16, Nat.digitChar value ≠ '-' := by decide
  exact noHyphen _ (Nat.mod_lt _ (by omega)) digit

/-- Without the hyphens the text is the digits. -/
theorem Uuid.filter_text (id : Uuid) : id.text.toList.filter (· ≠ '-') = id.digits := by
  have parts : id.text.toList = id.digits.take 8 ++ '-' :: (id.digits.drop 8).take 4 ++
      '-' :: (id.digits.drop 12).take 4 ++ '-' :: (id.digits.drop 16).take 4 ++ '-' :: id.digits.drop 20 := by
    rw [Uuid.text, String.toList_ofList]
    rfl
  have kept : ∀ part ⊆ id.digits, part.filter (· ≠ '-') = part := by
    intro part inside
    apply List.filter_eq_self.mpr
    intro char member
    apply decide_eq_true
    rintro rfl
    exact id.hyphen_notMem_digits (inside member)
  have dropped : ∀ part : List Char, ('-' :: part).filter (· ≠ '-') = part.filter (· ≠ '-') :=
    fun part => List.filter_cons_of_neg (by simp)
  have joined : ∀ first later, first + 4 = later →
      (id.digits.drop first).take 4 ++ id.digits.drop later = id.digits.drop first := by
    rintro first later rfl
    rw [← List.drop_drop, List.take_append_drop]
  rw [parts]
  simp only [List.filter_append, List.append_assoc, List.cons_append, dropped]
  rw [kept _ (List.take_subset _ _), kept _ (List.Subset.trans (List.take_subset _ _) (List.drop_subset _ _)),
    kept _ (List.Subset.trans (List.take_subset _ _) (List.drop_subset _ _)),
    kept _ (List.Subset.trans (List.take_subset _ _) (List.drop_subset _ _)), kept _ (List.drop_subset _ _),
    joined 16 20 rfl, joined 12 16 rfl, joined 8 12 rfl, List.take_append_drop]

theorem Uuid.text_injective : Function.Injective Uuid.text := by
  intro first second same
  apply Uuid.digits_injective
  rw [← first.filter_text, ← second.filter_text, same]

theorem File.objKey_injective : Function.Injective File.objKey := by
  rintro ⟨workspaceId, fileId⟩ ⟨otherWorkspace, otherFile⟩ same
  have chars := congrArg String.toList same
  simp only [File.objKey, String.toList_append, List.append_assoc] at chars
  have lengths : workspaceId.text.toList.length = otherWorkspace.text.toList.length := by
    rw [Uuid.length_toList_text, Uuid.length_toList_text]
  obtain ⟨workspaces, files⟩ := List.append_inj chars lengths
  obtain rfl := Uuid.text_injective (String.toList_inj.mp workspaces)
  obtain rfl := String.toList_inj.mp (List.append_cancel_left files)
  rfl

/-! ## Calls and what they meet -/

/-- A row of `af_blob_metadata`, with the bytes of the call that has written it. -/
structure AFBlobMetadataRow where
  fileType : String
  fileSize : Int
  fileData : Bytes
  deriving DecidableEq, Repr

inductive BlobCall where
  | putBlob (fileData : Bytes) (fileType : String)
  | deleteBlob
  deriving DecidableEq, Repr

/-- The row once the call is committed, where there is one. -/
def BlobCall.row : BlobCall → Option AFBlobMetadataRow
  | putBlob fileData fileType => some ⟨fileType, fileData.length, fileData⟩
  | deleteBlob => none

/-- What the bucket call leaves under the key. -/
def BlobCall.object : BlobCall → Option Bytes
  | putBlob fileData _ => some fileData
  | deleteBlob => none

theorem BlobCall.object_eq (self : BlobCall) : self.object = self.row.map AFBlobMetadataRow.fileData := by
  cases self <;> rfl

/-- What a call does next. -/
inductive Phase where
  | asksForRow
  | begins
  | executes
  | callsBucket
  | commits
  deriving DecidableEq, Repr

structure RunningCall where
  file : File
  call : BlobCall
  phase : Phase
  deriving DecidableEq, Repr

inductive Outcome where
  | done
  | failed
  /-- It was done, but the answer was lost. -/
  | unconfirmed
  deriving DecidableEq, Repr

/-! ## The storage -/

/-- The database, where a row may have been deleted, the bucket and the calls that are running. -/
structure BucketStorage where
  table : TransactionalStore File (Option AFBlobMetadataRow)
  bucket : String → Option Bytes
  calls : Nat → Option RunningCall

namespace BucketStorage

def start (bucket : String → Option Bytes) : BucketStorage := ⟨.settled fun _ => none, bucket, fun _ => none⟩

section Operations

variable (self : BucketStorage) (task : Nat) (running : RunningCall)

/-- The row that everybody sees. -/
def row (file : File) : Option AFBlobMetadataRow := (self.table.committed file).join

/-- The call returns or panics, and its transaction is dropped. -/
def leave : BucketStorage :=
  { self with table := self.table.rollback task, calls := Function.update self.calls task none }

def setCall : BucketStorage := { self with calls := Function.update self.calls task (some running) }

@[simp] theorem setCall_calls :
    (self.setCall task running).calls = Function.update self.calls task (some running) := rfl

@[simp] theorem leave_calls : (self.leave task).calls = Function.update self.calls task none := rfl

def goOn (phase : Phase) : BucketStorage := self.setCall task { running with phase }

def isBlobMetadataExists : Outcome → BucketStorage
  | .done => if (self.row running.file).isSome then self.leave task else self.goOn task running .begins
  | .failed | .unconfirmed => self.leave task

def begin : Outcome → BucketStorage
  | .done => self.goOn task running .executes
  | .failed | .unconfirmed => self.leave task

/-- `insert_blob_metadata` and `delete_blob_metadata`, which wait while another transaction has
    written the row. -/
def execute : Outcome → BucketStorage
  | .done =>
    if running.call = .deleteBlob ∧ self.row running.file = none then
      -- no row is affected, and the assertion fails
      self.leave task
    else if self.table.free task running.file then
      { self.goOn task running .callsBucket with table := self.table.write task running.file running.call.row }
    else self
  | .failed | .unconfirmed => self.leave task

def callBucket : Outcome → BucketStorage
  | .done =>
    { self.goOn task running .commits with
      bucket := Function.update self.bucket running.file.objKey running.call.object }
  | .failed => self.leave task
  | .unconfirmed =>
    { self.leave task with bucket := Function.update self.bucket running.file.objKey running.call.object }

def commit : Outcome → BucketStorage
  | .done | .unconfirmed =>
    { self with table := self.table.commit task, calls := Function.update self.calls task none }
  | .failed => self.leave task

def advance (outcome : Outcome) : BucketStorage :=
  match running.phase with
  | .asksForRow => self.isBlobMetadataExists task running outcome
  | .begins => self.begin task running outcome
  | .executes => self.execute task running outcome
  | .callsBucket => self.callBucket task running outcome
  | .commits => self.commit task outcome

/-- A put asks for the row first, a delete does not. -/
def call (file : File) : BlobCall → BucketStorage
  | .putBlob fileData fileType => self.setCall task ⟨file, .putBlob fileData fileType, .asksForRow⟩
  | .deleteBlob => self.setCall task ⟨file, .deleteBlob, .begins⟩

end Operations

/-! ## Runs -/

inductive Event where
  | call (task : Nat) (file : File) (call : BlobCall)
  | advance (task : Nat) (outcome : Outcome)
  /-- The task is dropped where it is. -/
  | drop (task : Nat)

def step (self : BucketStorage) : Event → BucketStorage
  | .call task file call => if self.calls task = none then self.call task file call else self
  | .advance task outcome =>
    match self.calls task with
    | some running => self.advance task running outcome
    | none => self
  | .drop task => self.leave task

/-- If the file is listed, the bucket holds the bytes of the call that has listed it. -/
def HasBytes (self : BucketStorage) (file : File) : Prop :=
  ∀ row, self.row file = some row → self.bucket file.objKey = some row.fileData

instance (self : BucketStorage) (file : File) : Decidable (self.HasBytes file) :=
  inferInstanceAs (Decidable (∀ row, self.row file = some row → self.bucket file.objKey = some row.fileData))

/-- The file is listed with other bytes than the call leaves in the bucket. -/
def clobbers (self : BucketStorage) (running : RunningCall) : Bool :=
  (self.row running.file).any fun row => running.call.object ≠ some row.fileData

/-- The files whose object a bucket call has changed although they are listed, where no call on the
    file has been committed since. -/
def exposedAfter (self : BucketStorage) (exposed : File → Bool) : Event → File → Bool
  | .advance task outcome =>
    match self.calls task with
    | some running =>
      if outcome = .failed then exposed
      else if running.phase = .callsBucket then Function.update exposed running.file (self.clobbers running)
      else if running.phase = .commits then Function.update exposed running.file false
      else exposed
    | none => exposed
  | .call _ _ _ | .drop _ => exposed

end BucketStorage

structure BucketHistory where
  storage : BucketStorage
  exposed : File → Bool

namespace BucketHistory

def start (bucket : String → Option Bytes) : BucketHistory := ⟨.start bucket, fun _ => false⟩

def step (self : BucketHistory) (event : BucketStorage.Event) : BucketHistory :=
  ⟨self.storage.step event, self.storage.exposedAfter self.exposed event⟩

end BucketHistory

/-! ## Locks -/

/-- The call has written the row and is not committed. -/
def RunningCall.holdsRow (self : RunningCall) : Bool := self.phase = .callsBucket || self.phase = .commits

namespace BucketStorage

/-- The uncommitted versions are those of the calls that hold a row. -/
def Locked (self : BucketStorage) : Prop :=
  ∀ file version, self.table.uncommitted file = some version ↔
    ∃ running, self.calls version.writer = some running ∧ running.holdsRow = true ∧ running.file = file ∧
      running.call.row = version.row

variable {self : BucketStorage} {task other : Nat} {running otherRunning : RunningCall}

theorem Locked.written (locked : self.Locked) (runs : self.calls task = some running)
    (holds : running.holdsRow = true) : self.table.uncommitted running.file = some ⟨task, running.call.row⟩ :=
  (locked running.file ⟨task, running.call.row⟩).mpr ⟨running, runs, holds, rfl, rfl⟩

/-- No two calls hold the row of one file. -/
theorem Locked.file_ne (locked : self.Locked) (runs : self.calls task = some running)
    (holds : running.holdsRow = true) (otherRuns : self.calls other = some otherRunning)
    (otherHolds : otherRunning.holdsRow = true) (differs : other ≠ task) : otherRunning.file ≠ running.file := by
  intro same
  have version := locked.written otherRuns otherHolds
  rw [same, locked.written runs holds] at version
  exact differs (congrArg RowVersion.writer (Option.some.inj version)).symm

/-- The versions and the call of a task go together. -/
theorem Locked.forget (locked : self.Locked) {next : BucketStorage}
    (versions : ∀ file version, next.table.uncommitted file = some version ↔
      self.table.uncommitted file = some version ∧ version.writer ≠ task)
    (calls : next.calls = Function.update self.calls task none) : next.Locked := by
  intro file version
  rw [versions, locked, calls]
  by_cases own : version.writer = task
  · simp [own]
  · simp [own]

theorem Locked.leave (locked : self.Locked) (task : Nat) : (self.leave task).Locked :=
  locked.forget (fun _ _ => TransactionalStore.uncommitted_rollback) rfl

/-- A call that goes on holds the row if it has held it before. -/
theorem Locked.setCall (locked : self.Locked) {next : RunningCall}
    (same : ∀ running, self.calls task = some running → running.holdsRow = next.holdsRow ∧
      running.file = next.file ∧ running.call = next.call)
    (fresh : self.calls task = none → next.holdsRow = false) : (self.setCall task next).Locked := by
  intro file version
  rw [BucketStorage.setCall, locked]
  by_cases own : version.writer = task
  · cases runs : self.calls task with
    | none => simp [own, runs, fresh runs]
    | some running =>
      obtain ⟨holds, files, calls⟩ := same running runs
      simp [own, runs, holds, files, calls]
  · simp [own]

theorem Locked.write (locked : self.Locked) (runs : self.calls task = some running)
    (waits : running.holdsRow = false) (free : self.table.free task running.file = true) {next : BucketStorage}
    (table : next.table = self.table.write task running.file running.call.row)
    (calls : next.calls = Function.update self.calls task (some { running with phase := .callsBucket })) :
    next.Locked := by
  intro file version
  rw [table, calls, TransactionalStore.uncommitted_write]
  constructor
  · rintro (⟨rfl, rfl⟩ | ⟨differs, version⟩)
    · exact ⟨{ running with phase := .callsBucket }, Function.update_self _ _ _, rfl, rfl, rfl⟩
    · obtain ⟨holder, holderRuns, holds, named⟩ := (locked _ _).mp version
      refine ⟨holder, ?_, holds, named⟩
      rw [Function.update_of_ne _, holderRuns]
      intro own
      rw [own, runs] at holderRuns
      cases holderRuns
      rw [waits] at holds
      cases holds
  · rintro ⟨holder, holderRuns, holds, rfl, row⟩
    by_cases own : version.writer = task
    · rw [own, Function.update_self] at holderRuns
      cases holderRuns
      cases version
      subst own row
      exact .inl ⟨rfl, rfl⟩
    · rw [Function.update_of_ne own] at holderRuns
      have held := (locked holder.file version).mpr ⟨holder, holderRuns, holds, rfl, row⟩
      refine .inr ⟨?_, held⟩
      intro same
      rw [same] at held
      exact own (TransactionalStore.free_iff.mp free _ held)

/-! ## What holds in every state -/

/-- What a call has stored stays there until it is committed, and a file lacks its bytes if it is
    exposed. -/
structure Sound (storage : BucketStorage) (exposed : File → Bool) : Prop where
  locked : storage.Locked
  stored : ∀ task running, storage.calls task = some running → running.phase = .commits →
    storage.bucket running.file.objKey = running.call.object
  exposed_iff : ∀ file, storage.HasBytes file ↔ exposed file = false

variable {exposed : File → Bool}

theorem hasBytes_congr {next : BucketStorage} {file : File} (row : next.row file = self.row file)
    (object : next.bucket file.objKey = self.bucket file.objKey) : next.HasBytes file ↔ self.HasBytes file := by
  rw [HasBytes, HasBytes, row, object]

/-- A call may return wherever it is. -/
theorem Sound.leave (sound : self.Sound exposed) (task : Nat) : (self.leave task).Sound exposed where
  locked := sound.locked.leave task
  stored := by
    intro other running runs
    by_cases own : other = task
    · rw [own, leave_calls, Function.update_self] at runs
      cases runs
    · rw [leave_calls, Function.update_of_ne own] at runs
      exact sound.stored other running runs
  exposed_iff := sound.exposed_iff

theorem Sound.setCall (sound : self.Sound exposed) {next : RunningCall}
    (locked : (self.setCall task next).Locked) (commits : next.phase ≠ .commits) :
    (self.setCall task next).Sound exposed where
  locked := locked
  stored := by
    intro other running runs phase
    by_cases own : other = task
    · rw [own, setCall_calls, Function.update_self] at runs
      cases runs
      exact absurd phase commits
    · rw [setCall_calls, Function.update_of_ne own] at runs
      exact sound.stored other running runs phase
  exposed_iff := sound.exposed_iff

/-- A call that does not hold the row yet. -/
theorem Sound.goOn (sound : self.Sound exposed) (runs : self.calls task = some running)
    (waits : running.holdsRow = false) {phase : Phase} (goes : phase = .begins ∨ phase = .executes) :
    (self.goOn task running phase).Sound exposed := by
  apply sound.setCall
  · apply sound.locked.setCall
    · intro before runsBefore
      rw [runs] at runsBefore
      cases runsBefore
      rw [waits]
      rcases goes with rfl | rfl <;> exact ⟨rfl, rfl, rfl⟩
    · intro idle
      rw [runs] at idle
      cases idle
  · rcases goes with rfl | rfl <;> simp

theorem Sound.write (sound : self.Sound exposed) (runs : self.calls task = some running)
    (waits : running.holdsRow = false) (free : self.table.free task running.file = true) {next : BucketStorage}
    (table : next.table = self.table.write task running.file running.call.row) (bucket : next.bucket = self.bucket)
    (calls : next.calls = Function.update self.calls task (some { running with phase := .callsBucket })) :
    next.Sound exposed where
  locked := sound.locked.write runs waits free table calls
  stored := by
    intro other otherRunning otherRuns phase
    rw [calls] at otherRuns
    rw [bucket]
    by_cases own : other = task
    · rw [own, Function.update_self] at otherRuns
      cases otherRuns
      cases phase
    · rw [Function.update_of_ne own] at otherRuns
      exact sound.stored other otherRunning otherRuns phase
  exposed_iff := by
    intro file
    rw [← sound.exposed_iff, HasBytes, HasBytes, bucket, row, row, table]
    rfl

theorem clobbers_eq_false : self.clobbers running = false ↔
    ∀ row, self.row running.file = some row → running.call.object = some row.fileData := by
  rw [clobbers]
  cases self.row running.file <;> simp

/-- The bucket call takes effect: the file has its bytes if it is not clobbered, and the others have
    theirs as before. -/
theorem Sound.exposed_callBucket (sound : self.Sound exposed) {next : BucketStorage} (table : next.row = self.row)
    (bucket : next.bucket = Function.update self.bucket running.file.objKey running.call.object) (file : File) :
    next.HasBytes file ↔ Function.update exposed running.file (self.clobbers running) file = false := by
  by_cases own : file = running.file
  · subst own
    rw [HasBytes, table, bucket, Function.update_self, Function.update_self, clobbers_eq_false]
  · have elsewhere : file.objKey ≠ running.file.objKey := fun same => own (File.objKey_injective same)
    rw [Function.update_of_ne own, ← sound.exposed_iff]
    apply hasBytes_congr
    · rw [table]
    · rw [bucket, Function.update_of_ne elsewhere]

/-- No other call has stored something for the file of a call that holds its row. -/
theorem Sound.stored_other (sound : self.Sound exposed) (runs : self.calls task = some running)
    (holds : running.holdsRow = true) {other : Nat} {otherRunning : RunningCall} (differs : other ≠ task)
    (otherRuns : self.calls other = some otherRunning) (phase : otherRunning.phase = .commits) :
    Function.update self.bucket running.file.objKey running.call.object otherRunning.file.objKey =
      otherRunning.call.object := by
  have otherHolds : otherRunning.holdsRow = true := by simp [RunningCall.holdsRow, phase]
  have apart := sound.locked.file_ne runs holds otherRuns otherHolds differs
  rw [Function.update_of_ne fun same => apart (File.objKey_injective same)]
  exact sound.stored other otherRunning otherRuns phase

/-- After the bucket call, whether its call goes on or not, what the calls have stored is there. -/
theorem Sound.stored_callBucket (sound : self.Sound exposed) (runs : self.calls task = some running)
    (holds : running.holdsRow = true) {next : BucketStorage} {call : Option RunningCall}
    (calls : next.calls = Function.update self.calls task call)
    (bucket : next.bucket = Function.update self.bucket running.file.objKey running.call.object)
    (goesOn : ∀ own, call = some own → own.file = running.file ∧ own.call = running.call)
    (other : Nat) (otherRunning : RunningCall) (otherRuns : next.calls other = some otherRunning)
    (phase : otherRunning.phase = .commits) :
    next.bucket otherRunning.file.objKey = otherRunning.call.object := by
  rw [calls] at otherRuns
  rw [bucket]
  by_cases own : other = task
  · rw [own, Function.update_self] at otherRuns
    obtain ⟨file, same⟩ := goesOn otherRunning otherRuns
    rw [file, same, Function.update_self]
  · rw [Function.update_of_ne own] at otherRuns
    exact sound.stored_other runs holds own otherRuns phase

theorem Sound.callBucket (sound : self.Sound exposed) (runs : self.calls task = some running)
    (phase : running.phase = .callsBucket) (outcome : Outcome) :
    (self.callBucket task running outcome).Sound
      (if outcome = .failed then exposed else Function.update exposed running.file (self.clobbers running)) := by
  have holds : running.holdsRow = true := by simp [RunningCall.holdsRow, phase]
  cases outcome with
  | failed => exact sound.leave task
  | done =>
    refine ⟨?_, ?_, sound.exposed_callBucket rfl rfl⟩
    · -- the bucket plays no part in who holds a row
      show (self.goOn task running .commits).Locked
      apply sound.locked.setCall
      · intro before runsBefore
        rw [runs] at runsBefore
        cases runsBefore
        rw [holds]
        exact ⟨rfl, rfl, rfl⟩
      · intro idle
        rw [runs] at idle
        cases idle
    · apply sound.stored_callBucket runs holds rfl rfl
      intro own same
      cases same
      exact ⟨rfl, rfl⟩
  | unconfirmed =>
    refine ⟨sound.locked.leave task, ?_, sound.exposed_callBucket rfl rfl⟩
    apply sound.stored_callBucket runs holds rfl rfl
    intro own none
    cases none

/-- A commit makes the call's row the one that is listed. -/
theorem Locked.row_commit (locked : self.Locked) (runs : self.calls task = some running)
    (holds : running.holdsRow = true) (file : File) :
    ((self.table.commit task).committed file).join =
      if file = running.file then running.call.row else self.row file := by
  have view : (self.table.commit task).committed file = self.table.view task file := rfl
  rw [view]
  by_cases own : file = running.file
  · subst own
    rw [TransactionalStore.view_own (locked.written runs holds), if_pos rfl]
    rfl
  · rw [if_neg own, TransactionalStore.view_other]
    · rfl
    · rintro version written rfl
      obtain ⟨holder, holderRuns, _, named, _⟩ := (locked file version).mp written
      rw [runs] at holderRuns
      cases holderRuns
      exact own named.symm

theorem Sound.commit (sound : self.Sound exposed) (runs : self.calls task = some running)
    (phase : running.phase = .commits) (outcome : Outcome) :
    (self.commit task outcome).Sound
      (if outcome = .failed then exposed else Function.update exposed running.file false) := by
  have holds : running.holdsRow = true := by simp [RunningCall.holdsRow, phase]
  have committed : ({ self with
      table := self.table.commit task, calls := Function.update self.calls task none } : BucketStorage).Sound
      (Function.update exposed running.file false) := by
    refine ⟨sound.locked.forget (fun _ _ => TransactionalStore.uncommitted_commit) rfl, ?_, ?_⟩
    · exact (sound.leave task).stored
    · intro file
      have row := sound.locked.row_commit runs holds file
      by_cases own : file = running.file
      · rw [Function.update_apply, if_pos own]
        rw [if_pos own] at row
        refine iff_of_true ?_ rfl
        intro listed found
        have stored := sound.stored task running runs phase
        rw [BucketStorage.row, row] at found
        show self.bucket file.objKey = some listed.fileData
        rw [own, stored, running.call.object_eq, found]
        rfl
      · rw [Function.update_of_ne own, ← sound.exposed_iff]
        rw [if_neg own] at row
        exact hasBytes_congr row rfl
  cases outcome with
  | done => exact committed
  | failed => exact sound.leave task
  | unconfirmed => exact committed

theorem Sound.execute (sound : self.Sound exposed) (runs : self.calls task = some running)
    (waits : running.holdsRow = false) (outcome : Outcome) : (self.execute task running outcome).Sound exposed := by
  cases outcome with
  | done =>
    rw [BucketStorage.execute]
    split
    · exact sound.leave task
    · split
      · rename_i free
        exact sound.write runs waits free rfl rfl rfl
      · exact sound
  | failed => exact sound.leave task
  | unconfirmed => exact sound.leave task

theorem Sound.call (sound : self.Sound exposed) (idle : self.calls task = none) (file : File) (call : BlobCall) :
    (self.call task file call).Sound exposed := by
  have starts : ∀ phase, phase = .asksForRow ∨ phase = .begins →
      (self.setCall task ⟨file, call, phase⟩).Sound exposed := by
    intro phase first
    apply sound.setCall
    · apply sound.locked.setCall
      · intro running runs
        rw [idle] at runs
        cases runs
      · intro _
        rcases first with rfl | rfl <;> rfl
    · rcases first with rfl | rfl <;> simp
  cases call with
  | putBlob fileData fileType => exact starts .asksForRow (.inl rfl)
  | deleteBlob => exact starts .begins (.inr rfl)

theorem Sound.advance (sound : self.Sound exposed) (runs : self.calls task = some running) (outcome : Outcome) :
    (self.advance task running outcome).Sound (self.exposedAfter exposed (.advance task outcome)) := by
  rw [BucketStorage.advance]
  simp only [exposedAfter, runs]
  cases phase : running.phase with
  | asksForRow =>
    have waits : running.holdsRow = false := by simp [RunningCall.holdsRow, phase]
    simp only [reduceCtorEq, if_false, ite_self]
    cases outcome with
    | done =>
      rw [isBlobMetadataExists]
      split
      · exact sound.leave task
      · exact sound.goOn runs waits (.inl rfl)
    | failed => exact sound.leave task
    | unconfirmed => exact sound.leave task
  | begins =>
    have waits : running.holdsRow = false := by simp [RunningCall.holdsRow, phase]
    simp only [reduceCtorEq, if_false, ite_self]
    cases outcome with
    | done => exact sound.goOn runs waits (.inr rfl)
    | failed => exact sound.leave task
    | unconfirmed => exact sound.leave task
  | executes =>
    have waits : running.holdsRow = false := by simp [RunningCall.holdsRow, phase]
    simp only [reduceCtorEq, if_false, ite_self]
    exact sound.execute runs waits outcome
  | callsBucket =>
    simp only [if_true]
    exact sound.callBucket runs phase outcome
  | commits =>
    simp only [reduceCtorEq, if_false, if_true]
    exact sound.commit runs phase outcome

theorem Sound.step (sound : self.Sound exposed) (event : Event) :
    (self.step event).Sound (self.exposedAfter exposed event) := by
  cases event with
  | call task file call =>
    simp only [BucketStorage.step, exposedAfter]
    split
    · rename_i idle
      exact sound.call idle file call
    · exact sound
  | advance task outcome =>
    cases runs : self.calls task with
    | none =>
      simp only [BucketStorage.step, exposedAfter, runs]
      exact sound
    | some running =>
      have advanced := sound.advance runs outcome
      simp only [BucketStorage.step, runs]
      exact advanced
  | drop task => exact sound.leave task

theorem sound_start (bucket : String → Option Bytes) : (start bucket).Sound fun _ => false where
  locked := by simp [Locked, start, TransactionalStore.settled]
  stored := by simp [start]
  exposed_iff := by simp [HasBytes, row, start, TransactionalStore.settled]

end BucketStorage

/-- In every state a listed file has its bytes unless a bucket call has changed its object and no
    call on the file has been committed since. -/
theorem listed_file_has_bytes_iff (bucket : String → Option Bytes) (events : List BucketStorage.Event) (file : File) :
    (run BucketHistory.step (.start bucket) events).storage.HasBytes file ↔
      (run BucketHistory.step (.start bucket) events).exposed file = false := by
  have sound : (run BucketHistory.step (.start bucket) events).storage.Sound
      (run BucketHistory.step (.start bucket) events).exposed :=
    @run_invariant _ _ BucketHistory.step (fun history => history.storage.Sound history.exposed)
      (fun _ event sound => sound.step event) _ (BucketStorage.sound_start bucket) events
  exact sound.exposed_iff file

/-- A file is put, and a delete removes its object but cannot commit. -/
def deleteUncommitted : List BucketStorage.Event :=
  let file : File := ⟨0x5b7cbb2f4a5c4f3c9a0e1d2c3b4a5f60, "cat.png"⟩
  .call 0 file (.putBlob [137, 80, 78, 71] "image/png") :: List.replicate 5 (.advance 0 .done) ++
    .call 0 file .deleteBlob :: List.replicate 3 (.advance 0 .done) ++ [.advance 0 .failed]

/-- The row of the file is still there. -/
theorem deleteUncommitted_loses_bytes :
    ¬ ∀ (bucket : String → Option Bytes) (events : List BucketStorage.Event) (file : File),
      (run BucketHistory.step (.start bucket) events).storage.HasBytes file := by
  intro holds
  have listed := holds (fun _ => none) deleteUncommitted ⟨0x5b7cbb2f4a5c4f3c9a0e1d2c3b4a5f60, "cat.png"⟩
  revert listed
  decide +kernel

end FlowCloud.Storage
