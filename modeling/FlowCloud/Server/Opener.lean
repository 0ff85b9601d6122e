import FlowCloud.Server.StoragePlugin
import FlowCloud.Storage.Grants

/-! # Whose rights a flush uses

Subscribers edit the document of a group by their own rights, which are those of the policies
alone.  The plugin writes it under the user who opened the group, and a spawned write is checked
against the policies and the rows of the moment in which it runs.
-/

namespace FlowCloud.Server

open FlowCloud.Foundation FlowCloud.Entity FlowCloud.Protocol FlowCloud.Storage FlowCloud.Casbin

/-- A write that a flush has spawned. -/
structure FlushedDocument (Op : Type) where
  params : CollabParams
  /-- The updates in it that were accepted from users with write permission. -/
  fromWriters : Finset Op

structure SharedGroup (Op : Type) where
  plugin : CollabStoragePlugin
  objectId : String
  content : Finset Op
  fromWriters : Finset Op
  storage : CollabStorageImpl
  pending : List (FlushedDocument Op)
  persisted : List Bytes

/-- The group of an object that a user has just opened, with what was loaded for it. -/
def SharedGroup.opened {Op : Type} (uid : Int) (workspaceId objectId : String) (collabType : CollabType)
    (content : Finset Op) (storage : CollabStorageImpl) : SharedGroup Op :=
  ⟨.new uid workspaceId collabType, objectId, content, ∅, storage, [], []⟩

inductive SharedGroupEvent (Op : Type) where
  /-- An update of a subscriber that was let through. -/
  | receiveUpdate (uid : Int) (update : Finset Op)
  /-- Policies, rows or cache entries are changed by others. -/
  | others (storage : CollabStorageImpl)
  | flush
  | save (index : Nat) (outages : WriteOutages)

section

variable {Op StateVector AwarenessUpdate : Type} [DecidableEq Op] {yrs : Yrs Op StateVector AwarenessUpdate}
  (lib : StorageLib yrs) (enableAccessControl : Bool)

namespace SharedGroup

variable (self : SharedGroup Op)

/-- What `can_write_collab` asks: the policies alone, whether or not the collab is stored. -/
def canWrite (uid : Int) : Bool :=
  match self.storage.accessControl.enforce enableAccessControl self.plugin.workspaceId uid (.collab self.objectId)
      (.fromAction .write) with
  | .ok canWrite => canWrite
  | .error _ => false

variable (yrs) in
def receiveUpdate (uid : Int) (update : Finset Op) : SharedGroup Op :=
  match yrs.tryApplyUpdate self.content update with
  | .error _ => self
  | .ok content =>
    { self with
      content
      fromWriters := if self.canWrite enableAccessControl uid then self.fromWriters ∪ update else self.fromWriters }

def document : LiveDocument Op := ⟨self.plugin, self.objectId, self.content, self.storage.cache, [], []⟩

def flush : SharedGroup Op :=
  let flushed := self.document.flush lib
  { self with
    plugin := flushed.plugin
    pending := self.pending ++ flushed.pending.map fun params => ⟨params, self.fromWriters⟩ }

/-- The spawned write runs, under the uid of the plugin. -/
def save (params : CollabParams) (outages : WriteOutages) : Except AppError Unit × CollabStorageImpl :=
  self.storage.insertOrUpdateCollab lib enableAccessControl self.plugin.workspaceId self.plugin.uid params outages

def step : SharedGroupEvent Op → SharedGroup Op
  | .receiveUpdate uid update => self.receiveUpdate yrs enableAccessControl uid update
  | .others storage => { self with storage }
  | .flush => self.flush lib
  | .save index outages =>
    match self.pending[index]? with
    | none => self
    | some flushed =>
      let pending := self.pending.eraseIdx index
      match self.save lib enableAccessControl flushed.params outages with
      | (.error _, storage) => { self with storage, pending }
      | (.ok (), storage) =>
        { self with storage, pending, persisted := self.persisted ++ [flushed.params.encodedCollabV1] }

variable {lib enableAccessControl self}

end SharedGroup

end

end FlowCloud.Server
