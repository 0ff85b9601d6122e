import FlowCloud.Protocol.Collab

/-! # Merging update messages

Two update messages are merged by merging the updates that stand first in their payloads.
-/

namespace FlowCloud.Entity

open FlowCloud.Foundation FlowCloud.Protocol

variable {Op StateVector AwarenessUpdate : Type} [DecidableEq Op] (yrs : Yrs Op StateVector AwarenessUpdate)

/-- `UpdateSync::as_update`: the first message of a payload, if it can be decoded. -/
def asUpdate (payload : Bytes) : Option (Message StateVector AwarenessUpdate) :=
  match MessageReader.next yrs.codec payload with
  | some (.ok (msg, _)) => some msg
  | _ => none

/-- `UpdateSync::merge_payload`: whether the payloads were merged, and the message. -/
def UpdateSync.mergePayload (self other : UpdateSync) : Except ReadError (Bool × UpdateSync) :=
  match asUpdate yrs self.payload, asUpdate yrs other.payload with
  | some (.sync (.update left)), some (.sync (.update right)) => do
    -- only the first message of each payload is read, and the rest is dropped
    let update ← yrs.mergeUpdates left right
    let msg : Message StateVector AwarenessUpdate := .sync (.update update)
    return (true, { self with payload := msg.encode yrs.codec })
  | _, _ => .ok (false, self)

def ClientCollabMessage.merge (self other : ClientCollabMessage) (maximumPayloadSize : Nat) :
    Except ReadError (Bool × ClientCollabMessage) :=
  match self, other with
  | .clientUpdateSync data, .clientUpdateSync other =>
    if data.payload.length > maximumPayloadSize then .ok (false, self)
    else do
      let merged ← data.mergePayload yrs other
      return (merged.1, .clientUpdateSync merged.2)
  | _, _ => .ok (false, self)

/-! ## Merging in one equation -/

def firstUpdate (payload : Bytes) : Option Bytes :=
  match asUpdate yrs payload with
  | some (.sync (.update data)) => some data
  | _ => none

/-- The update an update message starts with. -/
def ClientCollabMessage.startingUpdate : ClientCollabMessage → Option Bytes
  | .clientUpdateSync data => firstUpdate yrs data.payload
  | _ => none

def updatePayload (data : Bytes) : Bytes :=
  (Message.sync (.update data) : Message StateVector AwarenessUpdate).encode yrs.codec

def ClientCollabMessage.withUpdate (data : Bytes) : ClientCollabMessage → ClientCollabMessage
  | .clientUpdateSync sync => .clientUpdateSync { sync with payload := updatePayload yrs data }
  | other => other

theorem UpdateSync.mergePayload_eq (self other : UpdateSync) :
    self.mergePayload yrs other =
      match firstUpdate yrs self.payload, firstUpdate yrs other.payload with
      | some left, some right =>
        (yrs.mergeUpdates left right).map fun update => (true, { self with payload := updatePayload yrs update })
      | _, _ => .ok (false, self) := by
  rw [UpdateSync.mergePayload, firstUpdate, firstUpdate]
  -- both sides ask for two updates; any other pair of first messages changes nothing
  cases asUpdate yrs self.payload with
  | none => rfl
  | some msg =>
    cases msg with
    | auth | awareness | custom => rfl
    | sync msg =>
      cases msg with
      | syncStep1 | syncStep2 => rfl
      | update left =>
        cases asUpdate yrs other.payload with
        | none => rfl
        | some otherMsg =>
          cases otherMsg with
          | auth | awareness | custom => rfl
          | sync otherMsg =>
            cases otherMsg with
            | syncStep1 | syncStep2 => rfl
            | update right =>
              simp only
              cases yrs.mergeUpdates left right <;> rfl

/-- Below the size limit, messages that both start with an update are merged or the merge
    fails; in every other case nothing happens and the merge succeeds. -/
theorem ClientCollabMessage.merge_eq {self : ClientCollabMessage} (other : ClientCollabMessage)
    {maximumPayloadSize : Nat} (small : self.payloadSize ≤ maximumPayloadSize) :
    self.merge yrs other maximumPayloadSize =
      match self.startingUpdate yrs, other.startingUpdate yrs with
      | some left, some right =>
        (yrs.mergeUpdates left right).map fun update => (true, self.withUpdate yrs update)
      | _, _ => .ok (false, self) := by
  cases self with
  | clientInitSync | serverInitSync | clientAwarenessSync => rfl
  | clientUpdateSync data =>
    cases other with
    | clientInitSync | serverInitSync | clientAwarenessSync =>
      simp [ClientCollabMessage.merge, ClientCollabMessage.startingUpdate]
    | clientUpdateSync otherData =>
      have fits : ¬ data.payload.length > maximumPayloadSize := Nat.not_lt.mpr small
      simp only [ClientCollabMessage.merge, if_neg fits, ClientCollabMessage.startingUpdate,
        UpdateSync.mergePayload_eq]
      cases firstUpdate yrs data.payload with
      | none => rfl
      | some left =>
        cases firstUpdate yrs otherData.payload with
        | none => rfl
        | some right =>
          simp only
          cases yrs.mergeUpdates left right <;> rfl

theorem read_updatePayload (data : Bytes) :
    MessageReader.read yrs.codec (updatePayload yrs data) = ⟨[.sync (.update data)], none⟩ := by
  simpa [updatePayload] using MessageReader.read_encode yrs.codec [.sync (.update data)]

theorem firstUpdate_updatePayload (data : Bytes) : firstUpdate yrs (updatePayload yrs data) = some data := by
  have next := MessageReader.next_encode yrs.codec (.sync (.update data)) []
  rw [List.append_nil] at next
  rw [firstUpdate, asUpdate, updatePayload, next]

end FlowCloud.Entity
