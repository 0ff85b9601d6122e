import FlowCloud.Server.StoragePlugin

/-! # Groups that are dropped and opened again

`AllGroup::tick` takes a group out of the map, waits for its subscriptions to stop and
flushes it; the flush hands the bytes to a spawned task.  Nothing keeps `create_group` from
loading the object's document meanwhile.  Every read and write is one step here, and the
storage answers all of them.
-/

namespace FlowCloud.Server

open FlowCloud.Foundation FlowCloud.Entity FlowCloud.Protocol FlowCloud.Storage

variable {Op StateVector AwarenessUpdate : Type} [DecidableEq Op] {yrs : Yrs Op StateVector AwarenessUpdate}

/-- How far a group of the object is. -/
inductive Stage where
  /-- The object was not found, its empty document is to be written. -/
  | missing
  /-- The document is there, the group is not in the map yet. -/
  | loaded
  | opened
  /-- Another group took its place in the map. -/
  | replaced
  /-- Out of the map, its subscriptions stop. -/
  | removed
  | flushed
  deriving DecidableEq, Repr

structure OpenedGroup (Op : Type) where
  plugin : CollabStoragePlugin
  content : Finset Op
  stage : Stage

/-- All groups that one object has had, in the order of their loads. -/
structure ObjectGroups (Op : Type) where
  objectId : String
  cache : CollabCache
  groups : List (OpenedGroup Op)
  /-- The writes that flushes have spawned. -/
  pending : List (CollabStoragePlugin × CollabParams)
  /-- Every update that was applied to a group. -/
  applied : Finset Op

def ObjectGroups.new (objectId : String) (cache : CollabCache) : ObjectGroups Op := ⟨objectId, cache, [], [], ∅⟩

inductive ObjectEvent (Op : Type) where
  | load (uid : Int) (workspaceId : String) (collabType : CollabType) (answers : SnapshotAnswers)
  | insertNewCollab (group : Nat)
  /-- `create_group` puts the group into the map. -/
  | insert (group : Nat)
  | edit (group : Nat) (update : Finset Op)
  /-- The tick takes the group out of the map. -/
  | remove
  | flush (group : Nat)
  /-- A spawned write runs. -/
  | write (index : Nat)

namespace ObjectGroups

variable (lib : StorageLib yrs) (self : ObjectGroups Op)

/-- A group's document as its plugin sees it. -/
def document (plugin : CollabStoragePlugin) (content : Finset Op) : LiveDocument Op :=
  ⟨plugin, self.objectId, content, self.cache, [], []⟩

def restage (change : Nat → Stage → Stage) : ObjectGroups Op :=
  { self with groups := self.groups.mapIdx fun number group => { group with stage := change number group.stage } }

/-- The read of `CollabStoragePlugin::init` and what follows it at once. -/
def load (uid : Int) (workspaceId : String) (collabType : CollabType) (answers : SnapshotAnswers) :
    ObjectGroups Op :=
  let plugin := CollabStoragePlugin.new uid workspaceId collabType
  match getCollabEncoded lib self.cache uid (.new self.objectId collabType workspaceId) true .good with
  | (.ok encoded, cache) =>
    let restored := ({ self with cache }.document plugin ∅).restore lib encoded answers
    { self with cache, groups := self.groups ++ [⟨plugin, restored.content, .loaded⟩] }
  | (.error (.recordNotFound _), cache) => { self with cache, groups := self.groups ++ [⟨plugin, ∅, .missing⟩] }
  | (.error _, cache) => { self with cache, groups := self.groups ++ [⟨plugin, ∅, .loaded⟩] }

def insertNewCollab (number : Nat) : ObjectGroups Op :=
  match self.groups[number]? with
  | some ⟨plugin, content, .missing⟩ =>
    let stored := (self.document plugin content).insertNewCollab lib .good
    { self with cache := stored.cache }.restage fun other stage => if other = number then .loaded else stage
  | _ => self

def insert (number : Nat) : ObjectGroups Op :=
  match self.groups[number]? with
  | some ⟨_, _, .loaded⟩ =>
    self.restage fun other stage =>
      if other = number then .opened else if stage = .opened then .replaced else stage
  | _ => self

variable (yrs) in
/-- Only a group that may have subscribers is edited. -/
def edit (number : Nat) (update : Finset Op) : ObjectGroups Op :=
  match self.groups[number]? with
  | some ⟨plugin, content, stage⟩ =>
    if stage = .opened ∨ stage = .removed then
      match yrs.tryApplyUpdate content update with
      | .ok content =>
        { self with
          groups := self.groups.set number ⟨plugin, content, stage⟩
          applied := self.applied ∪ update }
      | .error _ => self
    else self
  | none => self

def remove : ObjectGroups Op := self.restage fun _ stage => if stage = .opened then .removed else stage

/-- The last thing a removed group does. -/
def flush (number : Nat) : ObjectGroups Op :=
  match self.groups[number]? with
  | some ⟨plugin, content, .removed⟩ =>
    let flushed := (self.document plugin content).flush lib
    { self with
      groups := self.groups.set number ⟨flushed.plugin, content, .flushed⟩
      pending := self.pending ++ flushed.pending.map fun params => (flushed.plugin, params) }
  | _ => self

def write (index : Nat) : ObjectGroups Op :=
  match self.pending[index]? with
  | some (plugin, params) =>
    { self with
      cache := (insertOrUpdateCollab lib self.cache plugin.workspaceId plugin.uid params .good).2
      pending := self.pending.eraseIdx index }
  | none => self

def step : ObjectEvent Op → ObjectGroups Op
  | .load uid workspaceId collabType answers => self.load lib uid workspaceId collabType answers
  | .insertNewCollab number => self.insertNewCollab lib number
  | .insert number => self.insert number
  | .edit number update => self.edit yrs number update
  | .remove => self.remove
  | .flush number => self.flush lib number
  | .write index => self.write lib index

/-! ## What is claimed of a load -/

/-- The storage does what it is asked to.  That there is no row is an answer. -/
def Succeeds : ObjectEvent Op → Prop
  | .load uid workspaceId collabType _ =>
    (self.cache.table self.objectId).isNone = true ∨
      (getCollabEncoded lib self.cache uid (.new self.objectId collabType workspaceId) true .good).1.isOk = true
  | .insertNewCollab number => ∀ group ∈ self.groups[number]?, group.stage = .missing →
      ((self.document group.plugin group.content).insertNewCollab lib .good).written ≠ []
  | .write index => ∀ write ∈ self.pending[index]?,
      (insertOrUpdateCollab lib self.cache write.1.workspaceId write.1.uid write.2 .good).1.isOk = true
  | _ => True

instance : DecidablePred (self.Succeeds lib)
  | .load _ _ _ _ => inferInstanceAs (Decidable (_ ∨ _))
  | .insertNewCollab number => inferInstanceAs (Decidable (∀ group ∈ self.groups[number]?, _ → _ ≠ []))
  | .write index => inferInstanceAs (Decidable (∀ write ∈ self.pending[index]?, _ = true))
  | .insert _ | .edit _ _ | .remove | .flush _ => .isTrue trivial

/-- A document is loaded when every earlier group has been flushed and its write has run. -/
def LoadsSettled : ObjectEvent Op → Prop
  | .load .. => self.pending.isEmpty = true ∧ ∀ group ∈ self.groups, group.stage = .flushed
  | _ => True

instance : DecidablePred self.LoadsSettled
  | .load .. => inferInstanceAs (Decidable (_ ∧ _))
  | .insertNewCollab _ | .insert _ | .edit _ _ | .remove | .flush _ | .write _ => .isTrue trivial

/-- The document that is loaded has every update that was applied to an earlier group. -/
def LoadsApplied (event : ObjectEvent Op) : Prop :=
  match event with
  | .load .. => ∀ group ∈ (self.step lib event).groups.getLast?, self.applied ⊆ group.content
  | _ => True

instance : DecidablePred (self.LoadsApplied lib)
  | .load uid workspaceId collabType answers =>
    inferInstanceAs (Decidable (∀ group ∈ (self.load lib uid workspaceId collabType answers).groups.getLast?,
      self.applied ⊆ group.content))
  | .insertNewCollab _ | .insert _ | .edit _ _ | .remove | .flush _ | .write _ => .isTrue trivial

/-! ## What the storage holds -/

/-- A read finds a document with the operations. -/
structure Saved (lib : StorageLib yrs) (ops : Finset Op) (object : ObjectGroups Op) : Prop where
  row : (object.cache.table object.objectId).isSome = true
  cached : ∃ data content, object.cache.memCache object.objectId = some data ∧
    lib.decodeFromBytes data = .ok (lib.getEncodedCollabV1 content) ∧ ops ⊆ content

variable {lib} {object : ObjectGroups Op}

theorem decode_encoded {content : Finset Op} {data : Bytes}
    (encoded : lib.encodeToBytes (lib.getEncodedCollabV1 content) = .ok data) :
    lib.decodeFromBytes data = .ok (lib.getEncodedCollabV1 content) := by
  obtain ⟨written, encodes, _, decodes⟩ := lib.encode_content content
  cases encodes.symm.trans encoded
  exact decodes

/-- A write that succeeds leaves its bytes in the cache and a row in the table. -/
theorem insertOrUpdateCollab_saved {cache : CollabCache} {workspaceId : String} {uid : Int} {params : CollabParams}
    (succeeds : (insertOrUpdateCollab lib cache workspaceId uid params .good).1.isOk = true) :
    ((insertOrUpdateCollab lib cache workspaceId uid params .good).2.table params.objectId).isSome = true ∧
      (insertOrUpdateCollab lib cache workspaceId uid params .good).2.memCache params.objectId =
        some params.encodedCollabV1 := by
  constructor
  · cases insertOrUpdateCollab_cases lib cache workspaceId uid params .good with
    | inl held =>
      obtain ⟨_, _, stored⟩ := held
      obtain ⟨row, same, _⟩ := stored.written
      simp [same]
    | inr held =>
      obtain ⟨failed, _⟩ := held
      revert succeeds failed
      cases (insertOrUpdateCollab lib cache workspaceId uid params .good).1 with
      | error error => simp [Except.isOk, Except.toBool]
      | ok done => simp
  · revert succeeds
    rw [insertOrUpdateCollab]
    split
    · simp [Except.isOk, Except.toBool]
    · intro _
      simp [WriteOutcomes.good]

theorem Saved.load {ops : Finset Op} (saved : Saved lib ops object)
    (usable : ∀ content, Usable yrs (lib.getEncodedCollabV1 content) content) {uid : Int} {workspaceId : String}
    {collabType : CollabType} {answers : SnapshotAnswers}
    (succeeds : object.Succeeds lib (.load uid workspaceId collabType answers)) :
    ∃ cache content, ops ⊆ content ∧ object.load lib uid workspaceId collabType answers =
      { object with cache, groups := object.groups ++ [⟨.new uid workspaceId collabType, content, .loaded⟩] } := by
  obtain ⟨data, content, cached, decoded, holds⟩ := saved.cached
  have answered : (getCollabEncoded lib object.cache uid (.new object.objectId collabType workspaceId) true .good).1.isOk =
      true := by
    refine succeeds.resolve_left fun missing => ?_
    have row := saved.row
    rw [Option.isNone_iff_eq_none.mp missing] at row
    cases row
  have found : getEncodeCollab lib object.cache.memCache true object.objectId =
      some (lib.getEncodedCollabV1 content) := by
    simp [getEncodeCollab, cached, decoded, Except.toOption]
  cases read : getCollabEncoded lib object.cache uid (.new object.objectId collabType workspaceId) true .good with
  | mk result cache =>
    cases result with
    | error error =>
      rw [read] at answered
      cases answered
    | ok encoded =>
      have same : encoded = lib.getEncodedCollabV1 content := by
        have ok := congrArg Prod.fst read
        cases getFromCache_eq_ok.mp (getCollabEncoded_eq_ok.mp ok).2.2 with
        | inl cached' => exact Option.some.inj (cached'.symm.trans found)
        | inr held =>
          obtain ⟨missing, _⟩ := held
          cases missing.symm.trans found
      subst same
      refine ⟨cache, content, holds, ?_⟩
      have taken : initCollab yrs ∅ (lib.getEncodedCollabV1 content) = .ok content := initCollab_eq_ok.mpr (usable content)
      simp [ObjectGroups.load, read, document, LiveDocument.restore, taken]

/-- Whatever is read, the load adds one group. -/
theorem load_groups (lib : StorageLib yrs) (object : ObjectGroups Op) (uid : Int) (workspaceId : String)
    (collabType : CollabType) (answers : SnapshotAnswers) :
    ∃ cache content stage, stage ≠ Stage.flushed ∧ object.load lib uid workspaceId collabType answers =
      { object with cache, groups := object.groups ++ [⟨.new uid workspaceId collabType, content, stage⟩] } := by
  unfold ObjectGroups.load
  simp only
  split
  · exact ⟨_, _, .loaded, nofun, rfl⟩
  · exact ⟨_, _, .missing, nofun, rfl⟩
  · exact ⟨_, _, .loaded, nofun, rfl⟩

omit [DecidableEq Op] in
theorem getElem?_restage (object : ObjectGroups Op) (change : Nat → Stage → Stage) (number : Nat) :
    (object.restage change).groups[number]? =
      (object.groups[number]?).map fun group => { group with stage := change number group.stage } := by
  simp [restage]

theorem restore_cache (lib : StorageLib yrs) (document : LiveDocument Op) (encoded : EncodedCollab)
    (answers : SnapshotAnswers) : (document.restore lib encoded answers).cache = document.cache := by
  unfold LiveDocument.restore
  split
  · rfl
  · split
    · rfl
    · split <;> rfl

theorem insertNewCollab_content (lib : StorageLib yrs) (document : LiveDocument Op) (outcomes : WriteOutcomes) :
    (document.insertNewCollab lib outcomes).content = document.content := by
  cases insertNewCollab_cases lib document outcomes with
  | inl same => rw [same]
  | inr held =>
    obtain ⟨params, _, same⟩ := held
    obtain ⟨cache, written, stored, _⟩ := store_frame lib document params outcomes
    rw [same, stored]

/-- With nothing in between, the load and the write of a new collab are `init` of the plugin. -/
theorem load_init (lib : StorageLib yrs) (object : ObjectGroups Op) (uid : Int) (workspaceId : String)
    (collabType : CollabType) (answers : SnapshotAnswers) :
    let init := (object.document (.new uid workspaceId collabType) ∅).init lib .good answers .good
    let loaded := (object.load lib uid workspaceId collabType answers).insertNewCollab lib object.groups.length
    loaded.cache = init.cache ∧
      loaded.groups[object.groups.length]? = some ⟨.new uid workspaceId collabType, init.content, .loaded⟩ := by
  simp only [ObjectGroups.load, LiveDocument.init, document, CollabStoragePlugin.new]
  cases getCollabEncoded lib object.cache uid (.new object.objectId collabType workspaceId) true .good with
  | mk result cache =>
    cases result with
    | ok encoded => simp [ObjectGroups.insertNewCollab, restore_cache]
    | error error =>
      cases error with
      | recordNotFound message => simp [ObjectGroups.insertNewCollab, document, restage, insertNewCollab_content]
      | internal | recordAlreadyExists | invalidRequest | notEnoughPermissions | uuidError | sqlxError
      | validatorError => simp [ObjectGroups.insertNewCollab]

/-! ## One group at a time -/

/-- What holds while loads are settled: one group at most has not been flushed, and what was
    applied is with this group, with the write of the last flush, or in the storage. -/
structure Kept (lib : StorageLib yrs) (object : ObjectGroups Op) : Prop where
  alone : ∀ (first second : Nat) (one other : OpenedGroup Op), object.groups[first]? = some one →
    object.groups[second]? = some other → one.stage ≠ .flushed → other.stage ≠ .flushed → first = second
  live : ∀ (number : Nat) (group : OpenedGroup Op), object.groups[number]? = some group → group.stage ≠ .flushed →
    object.applied ⊆ group.content ∧ object.pending = [] ∧ group.plugin.latestCollabMd5 = none
  waiting : ∀ write ∈ object.pending, write.2.objectId = object.objectId ∧
    ∃ content, lib.encodeToBytes (lib.getEncodedCollabV1 content) = .ok write.2.encodedCollabV1 ∧
      object.applied ⊆ content
  single : object.pending.length ≤ 1
  saved : (∀ group ∈ object.groups, group.stage = .flushed) → object.pending = [] →
    object.applied = ∅ ∨ Saved lib object.applied object

theorem kept_new (lib : StorageLib yrs) (objectId : String) (cache : CollabCache) :
    Kept lib (.new objectId cache : ObjectGroups Op) where
  alone _ _ _ _ found := nomatch found
  live _ _ found := nomatch found
  waiting _ waits := nomatch waits
  single := Nat.zero_le 1
  saved _ _ := .inl rfl

/-- Groups may go on as long as none is flushed. -/
theorem Kept.restage (kept : Kept lib object) {cache : CollabCache} {change : Nat → Stage → Stage}
    (same : ∀ (number : Nat) (group : OpenedGroup Op), object.groups[number]? = some group →
      (change number group.stage = .flushed ↔ group.stage = .flushed))
    (stored : cache = object.cache ∨ ∃ group ∈ object.groups, group.stage ≠ .flushed) :
    Kept lib ({ object with cache }.restage change) := by
  have before {number : Nat} {group : OpenedGroup Op}
      (found : ({ object with cache }.restage change).groups[number]? = some group) :
      ∃ older, object.groups[number]? = some older ∧ older.content = group.content ∧ older.plugin = group.plugin ∧
        (group.stage = .flushed ↔ older.stage = .flushed) := by
    rw [getElem?_restage] at found
    obtain ⟨older, present, rfl⟩ := Option.map_eq_some_iff.mp found
    exact ⟨older, present, rfl, rfl, same number older present⟩
  constructor
  case alone =>
    intro first second one other foundOne foundOther oneLive otherLive
    obtain ⟨_, beforeOne, _, _, stageOne⟩ := before foundOne
    obtain ⟨_, beforeOther, _, _, stageOther⟩ := before foundOther
    exact kept.alone first second _ _ beforeOne beforeOther (mt stageOne.mpr oneLive) (mt stageOther.mpr otherLive)
  case live =>
    intro number group found unflushed
    obtain ⟨older, present, content, plugin, stage⟩ := before found
    rw [← content, ← plugin]
    exact kept.live number older present (mt stage.mpr unflushed)
  case waiting => exact kept.waiting
  case single => exact kept.single
  case saved =>
    intro flushed idle
    have allFlushed : ∀ group ∈ object.groups, group.stage = .flushed := by
      intro group member
      obtain ⟨number, present⟩ := List.mem_iff_getElem?.mp member
      have found : ({ object with cache }.restage change).groups[number]? =
          some { group with stage := change number group.stage } := by
        rw [getElem?_restage, present]
        rfl
      exact (same number group present).mp (flushed _ (List.mem_of_getElem? found))
    cases stored with
    | inl equal =>
      obtain rfl := equal
      refine (kept.saved allFlushed idle).imp_right fun saved => ⟨saved.row, saved.cached⟩
    | inr held =>
      obtain ⟨group, member, unflushed⟩ := held
      exact absurd (allFlushed group member) unflushed

omit [DecidableEq Op] in
theorem getElem?_set_cases {groups : List (OpenedGroup Op)} {number other : Nat} {next group : OpenedGroup Op}
    (found : (groups.set number next)[other]? = some group) :
    other = number ∧ group = next ∨ other ≠ number ∧ groups[other]? = some group := by
  rw [List.getElem?_set] at found
  split_ifs at found with same
  · exact .inl ⟨same.symm, (Option.some.inj found).symm⟩
  · exact .inr ⟨fun back => same back.symm, found⟩

theorem Kept.edit (kept : Kept lib object) (number : Nat) (update : Finset Op) :
    Kept lib (object.edit yrs number update) := by
  unfold ObjectGroups.edit
  split
  · next plugin content stage found =>
    split
    · next edited =>
      have unflushed : stage ≠ .flushed := by rcases edited with rfl | rfl <;> decide
      obtain ⟨covered, idle, undigested⟩ := kept.live number _ found unflushed
      split
      · next applied =>
        rename_i next
        have grown : object.applied ∪ update ⊆ next := by
          rw [yrs.apply_union _ _ _ applied]
          exact Finset.union_subset_union_left covered
        constructor
        case alone =>
          intro first second one other foundOne foundOther oneLive otherLive
          have original {place : Nat} {group : OpenedGroup Op}
              (present : (object.groups.set number ⟨plugin, next, stage⟩)[place]? = some group)
              (live : group.stage ≠ .flushed) :
              ∃ older, object.groups[place]? = some older ∧ older.stage ≠ .flushed := by
            cases getElem?_set_cases present with
            | inl held =>
              obtain ⟨rfl, rfl⟩ := held
              exact ⟨_, found, unflushed⟩
            | inr held =>
              obtain ⟨_, present⟩ := held
              exact ⟨group, present, live⟩
          obtain ⟨_, beforeOne, liveOne⟩ := original foundOne oneLive
          obtain ⟨_, beforeOther, liveOther⟩ := original foundOther otherLive
          exact kept.alone first second _ _ beforeOne beforeOther liveOne liveOther
        case live =>
          intro other group present live
          cases getElem?_set_cases present with
          | inl held =>
            obtain ⟨rfl, rfl⟩ := held
            exact ⟨grown, idle, undigested⟩
          | inr held =>
            obtain ⟨different, present⟩ := held
            exact absurd (kept.alone other number _ _ present found live unflushed) different
        case waiting => exact fun write waits => absurd waits (idle ▸ List.not_mem_nil)
        case single => exact kept.single
        case saved =>
          intro flushed _
          have inside := (List.getElem?_eq_some_iff.mp found).1
          exact absurd (flushed ⟨plugin, next, stage⟩ (List.mem_set inside _)) unflushed
      · exact kept
    · exact kept
  · exact kept

/-- A group that has never been flushed does not skip its first flush. -/
theorem flush_document (lib : StorageLib yrs) (object : ObjectGroups Op) {plugin : CollabStoragePlugin}
    {content : Finset Op} (undigested : plugin.latestCollabMd5 = none) :
    ∃ params, ((object.document plugin content).flush lib).pending = [params] ∧ params.objectId = object.objectId ∧
      lib.encodeToBytes (lib.getEncodedCollabV1 content) = .ok params.encodedCollabV1 := by
  obtain ⟨data, encoded, _, _⟩ := lib.encode_content content
  refine ⟨⟨object.objectId, data, plugin.collabType, false⟩, ?_, rfl, encoded⟩
  simp [LiveDocument.flush, document, encoded, undigested, LiveDocument.params]

theorem Kept.flush (kept : Kept lib object) (number : Nat) : Kept lib (object.flush lib number) := by
  unfold ObjectGroups.flush
  split
  · next plugin content found =>
    obtain ⟨covered, idle, undigested⟩ := kept.live number _ found nofun
    obtain ⟨params, spawned, own, encoded⟩ := flush_document lib object undigested
    -- the group was the only one that had not been flushed
    have flushed {other : Nat} {group : OpenedGroup Op}
        (present : (object.groups.set number ⟨((object.document plugin content).flush lib).plugin, content, .flushed⟩)[other]? =
          some group) : group.stage = .flushed := by
      cases getElem?_set_cases present with
      | inl held =>
        obtain ⟨_, rfl⟩ := held
        rfl
      | inr held =>
        obtain ⟨different, present⟩ := held
        by_contra live
        exact different (kept.alone other number _ _ present found live nofun)
    dsimp only
    rw [spawned, idle, List.nil_append, List.map_singleton]
    constructor
    case alone => exact fun _ _ _ _ present _ live => absurd (flushed present) live
    case live => exact fun _ _ present live => absurd (flushed present) live
    case waiting =>
      intro write waits
      cases List.mem_singleton.mp waits
      exact ⟨own, content, encoded, covered⟩
    case single => exact Nat.le_refl 1
    case saved => exact fun _ idle => nomatch idle
  · exact kept

theorem Kept.write (kept : Kept lib object) {index : Nat} (succeeds : object.Succeeds lib (.write index)) :
    Kept lib (object.write lib index) := by
  unfold ObjectGroups.write
  split
  · next plugin params found =>
    have only : object.pending = [(plugin, params)] := by
      have single := kept.single
      cases waits : object.pending with
      | nil => simp [waits] at found
      | cons first rest =>
        cases rest with
        | nil =>
          rw [waits] at found
          cases List.mem_singleton.mp (List.mem_of_getElem? found)
          rfl
        | cons => simp [waits] at single
    have done : object.pending.eraseIdx index = [] := by
      rw [only] at found ⊢
      cases index with
      | zero => rfl
      | succ index => cases found
    obtain ⟨own, content, encoded, covered⟩ := kept.waiting (plugin, params) (by simp [only])
    obtain ⟨row, cached⟩ := insertOrUpdateCollab_saved (succeeds (plugin, params) found)
    have allFlushed {number : Nat} {group : OpenedGroup Op} (present : object.groups[number]? = some group) :
        group.stage = .flushed := by
      by_contra live
      cases only.symm.trans (kept.live number group present live).2.1
    simp only [done]
    constructor
    case alone => exact fun _ _ _ _ present _ live => absurd (allFlushed present) live
    case live => exact fun _ _ present live => absurd (allFlushed present) live
    case waiting => exact fun _ waits => nomatch waits
    case single => exact Nat.zero_le 1
    case saved =>
      refine fun _ _ => .inr ⟨own ▸ row, params.encodedCollabV1, content, own ▸ cached, decode_encoded encoded, covered⟩
  · exact kept

/-- A settled load finds everything, and the group that it adds is the only one. -/
theorem Kept.load (kept : Kept lib object)
    (usable : ∀ content, Usable yrs (lib.getEncodedCollabV1 content) content) {uid : Int} {workspaceId : String}
    {collabType : CollabType} {answers : SnapshotAnswers}
    (succeeds : object.Succeeds lib (.load uid workspaceId collabType answers))
    (settled : object.LoadsSettled (.load uid workspaceId collabType answers)) :
    Kept lib (object.load lib uid workspaceId collabType answers) ∧
      object.LoadsApplied lib (.load uid workspaceId collabType answers) := by
  obtain ⟨idle, flushed⟩ := settled
  rw [List.isEmpty_iff] at idle
  have loaded : ∃ cache content stage, object.applied ⊆ content ∧ stage ≠ Stage.flushed ∧
      object.load lib uid workspaceId collabType answers =
        { object with cache, groups := object.groups ++ [⟨.new uid workspaceId collabType, content, stage⟩] } := by
    cases kept.saved flushed idle with
    | inl nothing =>
      obtain ⟨cache, content, stage, live, same⟩ := load_groups lib object uid workspaceId collabType answers
      exact ⟨cache, content, stage, nothing ▸ Finset.empty_subset content, live, same⟩
    | inr saved =>
      obtain ⟨cache, content, holds, same⟩ := saved.load usable succeeds
      exact ⟨cache, content, .loaded, holds, nofun, same⟩
  obtain ⟨cache, content, stage, covered, unflushed, same⟩ := loaded
  rw [LoadsApplied, step, same]
  constructor
  · have newest {number : Nat} {group : OpenedGroup Op} (live : group.stage ≠ .flushed)
        (found : (object.groups ++ [⟨.new uid workspaceId collabType, content, stage⟩])[number]? = some group) :
        number = object.groups.length ∧ group = ⟨.new uid workspaceId collabType, content, stage⟩ := by
      rw [List.getElem?_append] at found
      split at found
      · exact absurd (flushed group (List.mem_of_getElem? found)) live
      · next newer =>
        have last : number - object.groups.length = 0 :=
          Nat.lt_one_iff.mp (List.getElem?_eq_some_iff.mp found).1
        rw [last] at found
        exact ⟨Nat.le_antisymm (Nat.le_of_sub_eq_zero last) (Nat.le_of_not_lt newer), (Option.some.inj found).symm⟩
    constructor
    case alone =>
      intro first second one other foundOne foundOther oneLive otherLive
      exact (newest oneLive foundOne).1.trans (newest otherLive foundOther).1.symm
    case live =>
      intro number group found live
      obtain ⟨_, rfl⟩ := newest live found
      exact ⟨covered, idle, rfl⟩
    case waiting => exact fun _ waits => absurd waits (idle ▸ List.not_mem_nil)
    case single => exact kept.single
    case saved =>
      intro allFlushed _
      have last := List.mem_append_right object.groups
        (List.mem_singleton_self (⟨.new uid workspaceId collabType, content, stage⟩ : OpenedGroup Op))
      exact absurd (allFlushed _ last) unflushed
  · intro group last
    rw [List.getLast?_concat] at last
    cases last
    exact covered

theorem Kept.insertNewCollab (kept : Kept lib object) (number : Nat) :
    Kept lib (object.insertNewCollab lib number) := by
  unfold ObjectGroups.insertNewCollab
  split
  · next plugin content found =>
    refine kept.restage (fun other group present => ?_) (.inr ⟨_, List.mem_of_getElem? found, nofun⟩)
    split
    · next same =>
      subst same
      cases found.symm.trans present
      exact ⟨nofun, nofun⟩
    · exact Iff.rfl
  · exact kept

theorem Kept.insert (kept : Kept lib object) (number : Nat) : Kept lib (object.insert number) := by
  unfold ObjectGroups.insert
  split
  · next plugin content found =>
    refine kept.restage (fun other group present => ?_) (.inl rfl)
    split_ifs with same opened
    · subst same
      cases found.symm.trans present
      exact ⟨nofun, nofun⟩
    · simp [opened]
    · exact Iff.rfl
  · exact kept

theorem Kept.remove (kept : Kept lib object) : Kept lib object.remove := by
  refine kept.restage (fun _ group _ => ?_) (.inl rfl)
  split_ifs with opened
  · simp [opened]
  · exact Iff.rfl

theorem Kept.step (kept : Kept lib object) (usable : ∀ content, Usable yrs (lib.getEncodedCollabV1 content) content)
    {event : ObjectEvent Op} (succeeds : object.Succeeds lib event) (settled : object.LoadsSettled event) :
    Kept lib (object.step lib event) ∧ object.LoadsApplied lib event := by
  cases event with
  | load uid workspaceId collabType answers => exact kept.load usable succeeds settled
  | insertNewCollab number => exact ⟨kept.insertNewCollab number, trivial⟩
  | insert number => exact ⟨kept.insert number, trivial⟩
  | edit number update => exact ⟨kept.edit number update, trivial⟩
  | remove => exact ⟨kept.remove, trivial⟩
  | flush number => exact ⟨kept.flush number, trivial⟩
  | write index => exact ⟨kept.write succeeds, trivial⟩

/-- In every run in which a document is only loaded when the earlier groups have been flushed
    and written, every document that is loaded has all that was ever applied.  An empty
    document takes in an encoded one. -/
theorem reopened_keeps_updates (usable : ∀ content, Usable yrs (lib.getEncodedCollabV1 content) content)
    (objectId : String) (cache : CollabCache) (events : List (ObjectEvent Op))
    (succeeds : Always (ObjectGroups.step lib) (Succeeds lib) (.new objectId cache) events)
    (settled : Always (ObjectGroups.step lib) LoadsSettled (.new objectId cache) events) :
    Always (ObjectGroups.step lib) (LoadsApplied lib) (.new objectId cache) events :=
  Always.imp_of_invariant
    (fun (object : ObjectGroups Op) _ (kept : Kept lib object) admitted => (kept.step usable admitted.1 admitted.2).1)
    (fun _ _ kept admitted => (kept.step usable admitted.1 admitted.2).2) (kept_new lib objectId cache)
    (succeeds.and settled)

end ObjectGroups

/-! ## Two runs -/

theorem typedLib_usable (content : Finset (Nat × Nat)) :
    Usable (UpdateTable.yrs typedUpdates) (typedLib.getEncodedCollabV1 content) content :=
  ⟨typedUpdates.encode_ne_nil (by decide) content, content, typedUpdates.decode_encode content,
    congrArg Except.ok (Finset.empty_union content)⟩

/-- A new document is opened, edited, dropped, flushed and opened again. -/
def droppedAndOpened (between : List (ObjectEvent (Nat × Nat))) : List (ObjectEvent (Nat × Nat)) :=
  [.load 1 "5b7cbb2f-4a5c-4f3c-9a0e-1d2c3b4a5f60" .document .none, .insertNewCollab 0, .insert 0, .edit 0 {(1, 0)},
    .remove, .flush 0] ++ between ++ [.load 2 "5b7cbb2f-4a5c-4f3c-9a0e-1d2c3b4a5f60" .document .none]

theorem writtenBetween_keepsUpdates :
    Always (ObjectGroups.step typedLib) (ObjectGroups.LoadsApplied typedLib)
      (.new "object" ⟨fun _ => none, fun _ => none⟩) (droppedAndOpened [.write 0]) :=
  ObjectGroups.reopened_keeps_updates typedLib_usable "object" ⟨fun _ => none, fun _ => none⟩ (droppedAndOpened [.write 0])
    (by decide +kernel) (by decide +kernel)

/-- The document is loaded before the spawned write has run. -/
theorem openedBeforeWrite_losesUpdates :
    ¬ ∀ events : List (ObjectEvent (Nat × Nat)),
      Always (ObjectGroups.step typedLib) (ObjectGroups.Succeeds typedLib)
        (.new "object" ⟨fun _ => none, fun _ => none⟩) events →
      Always (ObjectGroups.step typedLib) (ObjectGroups.LoadsApplied typedLib)
        (.new "object" ⟨fun _ => none, fun _ => none⟩) events := by
  intro keeps
  have keeps := keeps (droppedAndOpened []) (by decide +kernel)
  revert keeps
  decide +kernel

end FlowCloud.Server
