import FlowCloud.Server.StoragePlugin

/-! # Flushes that are skipped

The plugin notes the digest of the content when it starts a write, and only the spawned write
learns whether it succeeds.  A later flush of the same content is skipped on the digest alone.
-/

namespace FlowCloud.Server

open FlowCloud.Foundation FlowCloud.Entity FlowCloud.Protocol FlowCloud.Storage

variable {Op StateVector AwarenessUpdate : Type} [DecidableEq Op] {yrs : Yrs Op StateVector AwarenessUpdate}

def LiveDocument.Holds (self : LiveDocument Op) (data : Bytes) : Prop :=
  (self.cache.table self.objectId).map AfCollabRow.blob = some data

/-- The content is stored, or a write of it is still running. -/
def LiveDocument.Kept (self : LiveDocument Op) (data : Bytes) : Prop :=
  self.Holds data ∨ ∃ params ∈ self.pending, params.encodedCollabV1 = data

instance (document : LiveDocument Op) (data : Bytes) : Decidable (document.Kept data) :=
  inferInstanceAs (Decidable (_ = _ ∨ _))

variable (lib : StorageLib yrs)

/-- A flush that starts no write leaves nothing unsaved. -/
def LiveDocument.SkipsSafely (self : LiveDocument Op) : DocumentEvent Op → Prop
  | .flush => ∀ data, lib.encodeToBytes (lib.getEncodedCollabV1 self.content) = .ok data →
      (self.flush lib).pending = self.pending → self.Kept data
  | .edit _ | .store _ _ | .otherInsert _ _ _ _ | .otherDelete _ => True

/-! ## When the latest content stays kept -/

/-- The content is the one that was flushed last. -/
def LiveDocument.Latest (self : LiveDocument Op) (data : Bytes) : Prop :=
  self.plugin.latestCollabMd5 = some (lib.md5 data)

def LiveDocument.Writes (self : LiveDocument Op) (params : CollabParams) (outcomes : WriteOutcomes) : Prop :=
  (insertOrUpdateCollab lib self.cache self.plugin.workspaceId self.plugin.uid params outcomes).1 = .ok ()

instance (document : LiveDocument Op) (params : CollabParams) (outcomes : WriteOutcomes) :
    Decidable (document.Writes lib params outcomes) :=
  inferInstanceAs (Decidable (_ = _))

/-- Another write of the latest content than the one at the index. -/
def LiveDocument.AlsoRuns (self : LiveDocument Op) (index : Nat) : Prop :=
  ∃ other ∈ self.pending.eraseIdx index, self.Latest lib other.encodedCollabV1

/-- A write of the latest content may fail, and one of an older content may succeed, only if
    the latest content is stored or written once more.  Nobody else writes the object. -/
def LiveDocument.KeepsLatest (self : LiveDocument Op) : DocumentEvent Op → Prop
  | .store index outcomes => ∀ params, self.pending[index]? = some params →
      (self.Latest lib params.encodedCollabV1 → ¬ self.Writes lib params outcomes →
        self.Holds params.encodedCollabV1 ∨ self.AlsoRuns lib index) ∧
      (¬ self.Latest lib params.encodedCollabV1 → self.Writes lib params outcomes → self.AlsoRuns lib index)
  | .otherInsert _ _ params _ => params.objectId ≠ self.objectId
  | .edit _ | .flush | .otherDelete _ => True

/-- The writes that run are of the document, and what was flushed last is kept. -/
structure KeptLatest (document : LiveDocument Op) : Prop where
  own : ∀ params ∈ document.pending, params.objectId = document.objectId
  latest : ∀ data, document.Latest lib data → document.Kept data

section Steps

variable {lib} {document : LiveDocument Op}

/-- Equal digests are of equal contents. -/
theorem latest_unique (injective : Function.Injective lib.md5) {data other : Bytes}
    (latest : document.Latest lib data) (otherLatest : document.Latest lib other) : data = other :=
  injective (Option.some.inj (latest.symm.trans otherLatest))

/-- After a write of the object the table holds what was written, or what it held before. -/
theorem store_holds (lib : StorageLib yrs) (document : LiveDocument Op) {params : CollabParams}
    (own : params.objectId = document.objectId) (outcomes : WriteOutcomes) :
    ∃ cache written, document.store lib params outcomes = { document with cache, written } ∧
      (document.Writes lib params outcomes → (document.store lib params outcomes).Holds params.encodedCollabV1) ∧
      (¬ document.Writes lib params outcomes → cache.table = document.cache.table) := by
  have outcome := insertOrUpdateCollab_cases lib document.cache document.plugin.workspaceId
    document.plugin.uid params outcomes
  rw [LiveDocument.store, LiveDocument.Writes]
  revert outcome
  cases insertOrUpdateCollab lib document.cache document.plugin.workspaceId document.plugin.uid params outcomes with
  | mk result cache =>
    intro outcome
    cases result with
    | ok _ =>
      refine ⟨cache, _, rfl, fun _ => ?_, fun failed => absurd rfl failed⟩
      cases outcome with
      | inl found =>
        obtain ⟨_, _, stored⟩ := found
        obtain ⟨row, updated, blob, _⟩ := stored.written
        show (cache.table document.objectId).map AfCollabRow.blob = some params.encodedCollabV1
        rw [updated, own, Function.update_self, Option.map_some, blob]
      | inr found =>
        obtain ⟨failed, _⟩ := found
        exact absurd rfl failed
    | error error =>
      refine ⟨cache, document.written, rfl, fun succeeded => ?_, fun _ => ?_⟩
      · cases succeeded
      · cases outcome with
        | inl found =>
          obtain ⟨succeeded, _⟩ := found
          cases succeeded
        | inr found =>
          obtain ⟨_, same⟩ := found
          exact same

theorem KeptLatest.skipsSafely (kept : KeptLatest lib document) (event : DocumentEvent Op) :
    document.SkipsSafely lib event := by
  cases event with
  | flush =>
    intro data encoded skipped
    cases flush_cases lib document encoded with
    | inl held =>
      obtain ⟨latest, _⟩ := held
      exact kept.latest data latest
    | inr held =>
      obtain ⟨_, started⟩ := held
      -- the write that was started is one more
      rw [started] at skipped
      simp at skipped
  | edit _ | store _ _ | otherInsert _ _ _ _ | otherDelete _ => trivial

theorem KeptLatest.flush (injective : Function.Injective lib.md5) (kept : KeptLatest lib document) :
    KeptLatest lib (document.flush lib) := by
  obtain ⟨data, encoded, _, _⟩ := lib.encode_content document.content
  cases flush_cases lib document encoded with
  | inl held =>
    obtain ⟨_, same⟩ := held
    rw [same]
    exact kept
  | inr held =>
    obtain ⟨_, started⟩ := held
    rw [started]
    constructor
    · intro params member
      cases List.mem_append.mp member with
      | inl before => exact kept.own params before
      | inr new => rw [List.mem_singleton.mp new, LiveDocument.params]
    · intro other latest
      obtain rfl : data = other := injective (Option.some.inj latest)
      exact .inr ⟨_, List.mem_append_right _ (.head _), rfl⟩

theorem KeptLatest.store (injective : Function.Injective lib.md5) (kept : KeptLatest lib document) {index : Nat}
    {params : CollabParams} (found : document.pending[index]? = some params) {outcomes : WriteOutcomes}
    (keeps : document.KeepsLatest lib (.store index outcomes)) :
    KeptLatest lib ({ document with pending := document.pending.eraseIdx index }.store lib params outcomes) := by
  have own : params.objectId = document.objectId := kept.own params (List.mem_of_getElem? found)
  obtain ⟨needed, overtaken⟩ := keeps params found
  obtain ⟨cache, written, stored, succeeded, failed⟩ :=
    store_holds lib { document with pending := document.pending.eraseIdx index } own outcomes
  rw [stored] at succeeded ⊢
  constructor
  · intro other member
    exact kept.own other (List.mem_of_mem_eraseIdx member)
  intro data latest
  change document.Latest lib data at latest
  have running : document.AlsoRuns lib index →
      ∃ other ∈ document.pending.eraseIdx index, other.encodedCollabV1 = data := by
    rintro ⟨other, member, otherLatest⟩
    exact ⟨other, member, latest_unique injective otherLatest latest⟩
  by_cases writes : document.Writes lib params outcomes
  · by_cases same : params.encodedCollabV1 = data
    · rw [← same]
      exact .inl (succeeded writes)
    · -- an older content is written over the latest one
      exact .inr (running (overtaken (fun otherLatest => same (latest_unique injective otherLatest latest)) writes))
  · have held : document.Holds data →
        LiveDocument.Holds { document with pending := document.pending.eraseIdx index, cache, written } data := by
      intro holds
      show (cache.table document.objectId).map AfCollabRow.blob = some data
      rw [failed writes]
      exact holds
    by_cases same : params.encodedCollabV1 = data
    · subst same
      exact (needed latest writes).imp held running
    · cases kept.latest data latest with
      | inl holds => exact .inl (held holds)
      | inr given =>
        obtain ⟨other, member, content⟩ := given
        -- the write of the latest content is not the one that failed
        refine .inr ⟨other, ?_, content⟩
        obtain ⟨position, at_position⟩ := List.mem_iff_getElem?.mp member
        refine List.mem_eraseIdx_iff_getElem?.mpr ⟨position, ?_, at_position⟩
        rintro rfl
        rw [found] at at_position
        exact same ((congrArg _ (Option.some.inj at_position)).trans content)

/-- The end of a write that the condition excludes leaves what was flushed last unsaved. -/
theorem not_kept_of_loses (injective : Function.Injective lib.md5) {index : Nat} {params : CollabParams}
    (found : document.pending[index]? = some params) (own : params.objectId = document.objectId)
    {outcomes : WriteOutcomes} (loses : ¬ document.KeepsLatest lib (.store index outcomes)) {data : Bytes}
    (latest : document.Latest lib data) : ¬ (document.step lib (.store index outcomes)).Kept data := by
  rw [LiveDocument.step, found]
  intro kept
  apply loses
  intro other same
  cases found.symm.trans same
  obtain ⟨cache, written, stored, succeeded, failed⟩ :=
    store_holds lib { document with pending := document.pending.eraseIdx index } own outcomes
  simp only [stored] at kept succeeded
  have running : (∃ other ∈ document.pending.eraseIdx index, other.encodedCollabV1 = data) →
      document.AlsoRuns lib index := by
    rintro ⟨other, member, rfl⟩
    exact ⟨other, member, latest⟩
  constructor
  · intro current fails
    rw [latest_unique injective current latest]
    refine kept.imp (fun holds => ?_) running
    show (document.cache.table document.objectId).map AfCollabRow.blob = some data
    rw [← failed fails]
    exact holds
  · intro older writes
    refine kept.elim (fun holds => ?_) running
    -- what was written is not what was flushed last
    have same : some params.encodedCollabV1 = some data := (succeeded writes).symm.trans holds
    rw [Option.some.inj same] at older
    exact absurd latest older

/-- Another step on the table keeps the object's content. -/
theorem KeptLatest.table (kept : KeptLatest lib document) {table : AfCollab}
    (same : (table document.objectId).map AfCollabRow.blob =
      (document.cache.table document.objectId).map AfCollabRow.blob) :
    KeptLatest lib { document with cache := { document.cache with table } } := by
  refine ⟨kept.own, ?_⟩
  intro data latest
  exact (kept.latest data latest).imp_left same.trans

theorem KeptLatest.step (injective : Function.Injective lib.md5) (kept : KeptLatest lib document)
    (event : DocumentEvent Op) (keeps : document.KeepsLatest lib event) :
    KeptLatest lib (document.step lib event) := by
  cases event with
  | edit update =>
    rw [LiveDocument.step]
    split
    · exact ⟨kept.own, kept.latest⟩
    · exact kept
  | flush => exact kept.flush injective
  | store index outcomes =>
    rw [LiveDocument.step]
    split
    · exact kept
    · rename_i params found
      exact kept.store injective found keeps
  | otherInsert uid workspaceId params outages =>
    rw [LiveDocument.step]
    split
    · rename_i table inserted
      obtain ⟨written, updated, _⟩ := (insertIntoAfCollab_stored inserted).written
      apply kept.table
      rw [updated, Function.update_of_ne (Ne.symm keeps)]
    · exact kept
  | otherDelete objectId =>
    apply kept.table
    rw [deleteCollab]
    by_cases same : document.objectId = objectId
    · -- the row is only marked
      rw [same, Function.update_self, Option.map_map]
      rfl
    · rw [Function.update_of_ne same]

end Steps

/-- Every flush of a new plugin that is skipped leaves nothing unsaved, as long as no write
    that ends loses the content that was flushed last. -/
theorem flushes_skip_safely (lib : StorageLib yrs) (injective : Function.Injective lib.md5) (uid : Int)
    (workspaceId objectId : String) (collabType : CollabType) (content : Finset Op) (cache : CollabCache)
    (written : List Bytes) (events : List (DocumentEvent Op))
    (keeps : Always (LiveDocument.step lib) (LiveDocument.KeepsLatest lib)
      ⟨.new uid workspaceId collabType, objectId, content, cache, [], written⟩ events) :
    Always (LiveDocument.step lib) (LiveDocument.SkipsSafely lib)
      ⟨.new uid workspaceId collabType, objectId, content, cache, [], written⟩ events := by
  -- the invariant is that what was flushed last is stored or on its way
  refine Always.imp_of_invariant (fun _ event (kept : KeptLatest lib _) keeps => kept.step injective event keeps)
    (fun _ event kept _ => kept.skipsSafely event) ⟨List.forall_mem_nil _, ?_⟩ keeps
  intro data latest
  cases latest

/-! ## A document whose write is lost -/

/-- A stored document whose plugin has flushed nothing yet. -/
def unflushedDocument : LiveDocument (Nat × Nat) where
  plugin := .new 1 "5b7cbb2f-4a5c-4f3c-9a0e-1d2c3b4a5f60" .document
  objectId := "object"
  content := {(1, 0)}
  cache := openedAsFolder.cache
  pending := []
  written := []

theorem flushes_skip_safely_stored : Always (LiveDocument.step typedLib) (LiveDocument.SkipsSafely typedLib)
    unflushedDocument [.edit {(1, 1)}, .flush, .store 0 .good, .flush] := by
  refine flushes_skip_safely typedLib Function.injective_id _ _ _ _ _ _ _ _ ⟨trivial, trivial, ?_, trivial, trivial⟩
  intro params found
  cases found
  exact ⟨fun _ failed => absurd (by decide +kernel) failed, fun older => absurd rfl older⟩

/-- The write of the edit fails, and the next flush takes the edit for saved. -/
theorem failed_write_is_not_repeated :
    ¬ Always (LiveDocument.step typedLib) (LiveDocument.SkipsSafely typedLib) unflushedDocument
        [.edit {(1, 1)}, .flush, .store 0 { WriteOutcomes.good with beginOutage := some .poolTimedOut }, .flush] := by
  intro always
  obtain ⟨_, _, _, skips, _⟩ := always
  exact absurd (skips _ rfl (by decide +kernel)) (by decide +kernel)

end FlowCloud.Server
