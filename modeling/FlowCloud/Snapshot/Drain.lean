import FlowCloud.Snapshot.Runner

/-! # Emptying the queue of snapshots

A snapshot is accepted into the queue when none of its fields is empty, and written under the
workspace id that its text stands for.  An item that cannot be written goes back to its place
in the queue, which is the first one.
-/

namespace FlowCloud.Snapshot

open FlowCloud.Foundation FlowCloud.Entity FlowCloud.Storage FlowCloud.Protocol FlowCloud.Server

variable {Op StateVector AwarenessUpdate : Type} [DecidableEq Op] {yrs : Yrs Op StateVector AwarenessUpdate}

/-! ## What is accepted -/

def InsertSnapshotParams.validate (params : InsertSnapshotParams) : Except AppError Unit :=
  validated (validateNotEmptyStr "object_id" params.objectId ++
    validateNotEmptyPayload "encoded_collab_v1" params.encodedCollabV1 ++
    validateNotEmptyStr "workspace_id" params.workspaceId)

theorem InsertSnapshotParams.validate_eq_ok {params : InsertSnapshotParams} :
    params.validate = .ok () ↔ params.objectId ≠ "" ∧ params.encodedCollabV1 ≠ [] ∧ params.workspaceId ≠ "" := by
  simp [InsertSnapshotParams.validate, validated_eq_ok, validateNotEmptyStr, validateNotEmptyPayload]

/-- The command that is sent to the runner, unless that has gone. -/
def queueSnapshot (params : InsertSnapshotParams) (sendError : Option String) : Except AppError SnapshotCommand := do
  params.validate
  match sendError with
  | some error => throw (.internal error)
  | none => return .insertSnapshot params none

/-! ## One turn -/

section Turn

variable (lib : StorageLib yrs) (self : SnapshotCommandRunner)

def SnapshotCommandRunner.step (command : SnapshotCommand) : SnapshotCommandRunner := (self.handleCommand lib command).1

/-- The cache and the database serve everything that the turn asks of them. -/
structure ServedTurn (runner : SnapshotCommandRunner) (outcome : TickOutcome) : Prop where
  cacheRead : outcome.cacheRead = none
  begins : outcome.begins = true
  fresh : outcome.sid ∉ runner.table.rows.map AFSnapshotRow.sid
  insertOutage : outcome.insertOutage = none
  deleteOutage : outcome.deleteOutage = none
  commit : outcome.commit = .committed
  cacheRemove : outcome.cacheRemove = none

def Served (self : SnapshotCommandRunner) : SnapshotCommand → Prop
  | .insertSnapshot _ cacheInsert => cacheInsert = none
  | .tick outcome => ServedTurn self outcome

/-- A turn on a queue with items leaves fewer of them. -/
def Shortens (self : SnapshotCommandRunner) : SnapshotCommand → Prop
  | .insertSnapshot _ _ => True
  | .tick outcome => self.queue.queue ≠ [] →
      (self.step lib (.tick outcome)).queue.queue.length < self.queue.queue.length

/-- The item has no valid bytes in the cache, or its workspace id is one. -/
def Writable (item : PendingItem) : Prop :=
  ∀ data, self.cache (snapshotKey item.objectId) = some data → checkEncodedCollabData lib data = .ok () →
    ∃ workspaceId, lib.uuidFromStr item.workspaceId = .ok workspaceId

/-- The item that a turn takes can be dealt with. -/
def FrontWritable (self : SnapshotCommandRunner) : SnapshotCommand → Prop
  | .insertSnapshot _ _ => True
  | .tick _ => ∀ item rest, popMax PendingItem.cmp self.queue.queue = some (item, rest) → Writable lib self item

variable {lib self} {outcome : TickOutcome} {item : PendingItem} {rest : List PendingItem}

variable (lib) in
theorem createSnapshot_served (served : ServedTurn self outcome) (workspaceId oid : String) (data : Bytes) :
    (∃ table written, createSnapshotAndMaintainLimit lib self.table workspaceId oid data collabSnapshotLimit outcome =
        (table, .ok written)) ↔ ∃ id, lib.uuidFromStr workspaceId = .ok id := by
  rw [createSnapshotAndMaintainLimit]
  cases lib.uuidFromStr workspaceId with
  | error error => simp
  | ok id => simp [served.insertOutage, served.fresh, served.deleteOutage, served.commit]

variable (lib) in
/-- A served turn drops the item that it takes, or puts it back. -/
theorem queue_of_served (served : ServedTurn self outcome)
    (popped : popMax PendingItem.cmp self.queue.queue = some (item, rest)) :
    (Writable lib self item → (self.step lib (.tick outcome)).queue.queue = rest) ∧
      (¬ Writable lib self item → (self.step lib (.tick outcome)).queue.queue = item :: rest) := by
  have turn : self.step lib (.tick outcome) = (self.processNextBatch lib outcome).2 := rfl
  rw [turn, SnapshotCommandRunner.processNextBatch, popped]
  simp only [SnapshotCache.tryGet, served.cacheRead]
  cases cached : self.cache (snapshotKey item.objectId) with
  | none =>
    have writable : Writable lib self item := by simp [Writable, cached]
    exact ⟨fun _ => rfl, fun blocked => absurd writable blocked⟩
  | some data =>
    simp only
    cases checked : checkEncodedCollabData lib data with
    | error failure =>
      have writable : Writable lib self item := by simp [Writable, cached, checked]
      exact ⟨fun _ => rfl, fun blocked => absurd writable blocked⟩
    | ok _ =>
      have writable : Writable lib self item ↔ ∃ id, lib.uuidFromStr item.workspaceId = .ok id := by
        simp [Writable, cached, checked]
      rw [writable, ← createSnapshot_served lib served item.workspaceId item.objectId data]
      simp only [served.begins, ↓reduceIte]
      cases createSnapshotAndMaintainLimit lib self.table item.workspaceId item.objectId data collabSnapshotLimit
          outcome with
      | mk table result =>
        cases result with
        | error error => simp [SnapshotCommandRunner.pushBack, PendingQueue.pushItem]
        | ok written => simp

theorem shortens_iff {command : SnapshotCommand} (served : Served self command) :
    Shortens lib self command ↔ FrontWritable lib self command := by
  cases command with
  | insertSnapshot params cacheInsert => exact Iff.rfl
  | tick outcome =>
    rw [Shortens, FrontWritable]
    cases popped : popMax PendingItem.cmp self.queue.queue with
    | none => simp [popMax_eq_none.mp popped]
    | some found =>
      obtain ⟨item, rest⟩ := found
      have length := popMax_length popped
      obtain ⟨dropped, putBack⟩ := queue_of_served lib served popped
      constructor
      · intro shortens item' rest' same
        cases same
        by_contra blocked
        have shorter := shortens (List.ne_nil_of_length_pos (by omega))
        rw [putBack blocked, List.length_cons] at shorter
        omega
      · intro writable _
        rw [dropped (writable item rest rfl)]
        omega

end Turn

/-! ## Turn after turn -/

section Turns

variable (lib : StorageLib yrs)

/-- Each turn on a queue with items shortens it, so that as many turns as there are items empty it. -/
structure Drains (runner : SnapshotCommandRunner) (turns : List TickOutcome) : Prop where
  shortens : Always (SnapshotCommandRunner.step lib) (Shortens lib) runner (turns.map .tick)
  empties : runner.queue.queue.length ≤ turns.length →
    (run (SnapshotCommandRunner.step lib) runner (turns.map .tick)).queue.queue = []

/-- The workspace id of every item is one. -/
def Named (runner : SnapshotCommandRunner) : Prop :=
  ∀ item ∈ runner.queue.queue, ∃ workspaceId, lib.uuidFromStr item.workspaceId = .ok workspaceId

variable {lib} {runner : SnapshotCommandRunner} {turns : List TickOutcome}

theorem step_tick_of_empty {outcome : TickOutcome} (empty : runner.queue.queue = []) :
    (runner.step lib (.tick outcome)).queue.queue = [] := by
  have turn : runner.step lib (.tick outcome) = (runner.processNextBatch lib outcome).2 := rfl
  rw [turn, SnapshotCommandRunner.processNextBatch, popMax_eq_none.mpr empty]
  exact empty

theorem empties_of_shortens
    (shortens : Always (SnapshotCommandRunner.step lib) (Shortens lib) runner (turns.map .tick))
    (enough : runner.queue.queue.length ≤ turns.length) :
    (run (SnapshotCommandRunner.step lib) runner (turns.map .tick)).queue.queue = [] := by
  induction turns generalizing runner with
  | nil => exact List.length_eq_zero_iff.mp (Nat.le_zero.mp enough)
  | cons outcome turns inductionHypothesis =>
    apply inductionHypothesis shortens.2
    rw [List.length_cons] at enough
    by_cases empty : runner.queue.queue = []
    · rw [step_tick_of_empty empty]
      exact Nat.zero_le _
    · have shorter := shortens.1 empty
      omega

theorem drains_iff (served : Always (SnapshotCommandRunner.step lib) Served runner (turns.map .tick)) :
    Drains lib runner turns ↔
      Always (SnapshotCommandRunner.step lib) (FrontWritable lib) runner (turns.map .tick) := by
  constructor
  · intro drains
    exact (served.and drains.shortens).imp fun _ _ both => (shortens_iff both.1).mp both.2
  · intro writable
    have shortens : Always (SnapshotCommandRunner.step lib) (Shortens lib) runner (turns.map .tick) :=
      (served.and writable).imp fun _ _ both => (shortens_iff both.1).mpr both.2
    exact ⟨shortens, empties_of_shortens shortens⟩

/-! ## Workspace ids -/

theorem Named.frontWritable (named : Named lib runner) (command : SnapshotCommand) :
    FrontWritable lib runner command := by
  cases command with
  | insertSnapshot params cacheInsert => trivial
  | tick outcome =>
    intro item rest popped data _ _
    exact named item ((popMax_perm popped).subset List.mem_cons_self)

theorem Named.tick {outcome : TickOutcome} (named : Named lib runner) (served : ServedTurn runner outcome) :
    Named lib (runner.step lib (.tick outcome)) := by
  cases popped : popMax PendingItem.cmp runner.queue.queue with
  | none =>
    intro item member
    rw [step_tick_of_empty (popMax_eq_none.mp popped)] at member
    cases member
  | some found =>
    obtain ⟨item, rest⟩ := found
    have writable := named.frontWritable (.tick outcome) item rest popped
    intro other member
    rw [(queue_of_served lib served popped).1 writable] at member
    exact named other ((popMax_perm popped).subset (List.mem_cons_of_mem item member))

/-- A queue drains in which every workspace id is one. -/
theorem Named.drains (named : Named lib runner)
    (served : Always (SnapshotCommandRunner.step lib) Served runner (turns.map .tick)) : Drains lib runner turns := by
  apply (drains_iff served).mpr
  induction turns generalizing runner with
  | nil => trivial
  | cons outcome turns inductionHypothesis =>
    exact ⟨named.frontWritable _, inductionHypothesis (named.tick served.1) served.2⟩

theorem named_inserted {params : List InsertSnapshotParams} (named : Named lib runner)
    (each : ∀ queued ∈ params, ∃ workspaceId, lib.uuidFromStr queued.workspaceId = .ok workspaceId) :
    Named lib (run (SnapshotCommandRunner.step lib) runner (params.map fun queued => .insertSnapshot queued none)) := by
  induction params generalizing runner with
  | nil => exact named
  | cons queued params inductionHypothesis =>
    rw [List.forall_mem_cons] at each
    exact inductionHypothesis (List.forall_mem_cons.mpr ⟨each.1, named⟩) each.2

end Turns

/-- While everything is served, the queue drains exactly as long as no turn takes an item whose
    bytes are valid and whose workspace id is none. -/
theorem snapshot_queue_drains_iff (lib : StorageLib yrs) (table : AfCollabSnapshot) (cache : SnapshotCache)
    (commands : List SnapshotCommand) (turns : List TickOutcome)
    (served : Always (SnapshotCommandRunner.step lib) Served
      (run (SnapshotCommandRunner.step lib) (.new table cache) commands) (turns.map .tick)) :
    Drains lib (run (SnapshotCommandRunner.step lib) (.new table cache) commands) turns ↔
      Always (SnapshotCommandRunner.step lib) (FrontWritable lib)
        (run (SnapshotCommandRunner.step lib) (.new table cache) commands) (turns.map .tick) :=
  drains_iff served

/-! ## Two snapshots -/

def servedTick (sid : Int) : TickOutcome := ⟨none, true, sid, sid, none, none, .committed, none⟩

/-- Two snapshots of one document, of which the second turn finds no more bytes. -/
def queuedTwice : List InsertSnapshotParams :=
  [⟨"doc", storedDocument.blob, "5b7cbb2f-4a5c-4f3c-9a0e-1d2c3b4a5f60"⟩,
    ⟨"doc", storedDocument.blob, "5b7cbb2f-4a5c-4f3c-9a0e-1d2c3b4a5f60"⟩]

theorem snapshot_queue_drains_twice :
    Drains typedLib (run (SnapshotCommandRunner.step typedLib) (.new ⟨[], .nil⟩ fun _ => none)
      (queuedTwice.map fun queued => .insertSnapshot queued none)) [servedTick 1, servedTick 2] := by
  have named : Named typedLib (run (SnapshotCommandRunner.step typedLib) (.new ⟨[], .nil⟩ fun _ => none)
      (queuedTwice.map fun queued => .insertSnapshot queued none)) := by
    apply named_inserted (by rintro _ ⟨⟩)
    intro queued member
    simp only [queuedTwice, List.mem_cons, List.not_mem_nil, or_false, or_self] at member
    subst member
    exact ⟨_, rfl⟩
  have served : Always (SnapshotCommandRunner.step typedLib) Served
      (run (SnapshotCommandRunner.step typedLib) (.new ⟨[], .nil⟩ fun _ => none)
        (queuedTwice.map fun queued => .insertSnapshot queued none))
      ([servedTick 1, servedTick 2].map .tick) :=
    ⟨⟨rfl, rfl, by decide +kernel, rfl, rfl, rfl, rfl⟩, ⟨rfl, rfl, by decide +kernel, rfl, rfl, rfl, rfl⟩, trivial⟩
  exact (snapshot_queue_drains_iff typedLib ⟨[], .nil⟩ (fun _ => none) _ [servedTick 1, servedTick 2] served).mpr
    ((drains_iff served).mp (named.drains served))

/-- A snapshot for the workspace `workspace` is accepted, and stays at the head of the queue. -/
theorem snapshot_queue_blocked :
    ¬ ∀ (table : AfCollabSnapshot) (cache : SnapshotCache) (accepted : List InsertSnapshotParams)
        (turns : List TickOutcome),
      (∀ params ∈ accepted, queueSnapshot params none = .ok (.insertSnapshot params none)) →
      Always (SnapshotCommandRunner.step typedLib) Served
        (run (SnapshotCommandRunner.step typedLib) (.new table cache)
          (accepted.map fun params => .insertSnapshot params none)) (turns.map .tick) →
      Drains typedLib (run (SnapshotCommandRunner.step typedLib) (.new table cache)
        (accepted.map fun params => .insertSnapshot params none)) turns := by
  intro drains
  have accepted : queueSnapshot ⟨"doc", storedDocument.blob, "workspace"⟩ none =
      .ok (.insertSnapshot ⟨"doc", storedDocument.blob, "workspace"⟩ none) := by
    rw [queueSnapshot, InsertSnapshotParams.validate_eq_ok.mpr ⟨by decide, by decide, by decide⟩]
    rfl
  have drained := drains ⟨[], .nil⟩ (fun _ => none) [⟨"doc", storedDocument.blob, "workspace"⟩] [servedTick 1]
    (List.forall_mem_singleton.mpr accepted) ⟨⟨rfl, rfl, by decide +kernel, rfl, rfl, rfl, rfl⟩, trivial⟩
  have shorter := drained.shortens.1 (List.cons_ne_nil _ _)
  revert shorter
  decide +kernel

end FlowCloud.Snapshot
