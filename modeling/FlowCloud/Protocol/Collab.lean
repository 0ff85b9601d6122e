import Mathlib.Data.Finset.Lattice.Lemmas
import Mathlib.Data.Finset.Lattice.Fold
import Mathlib.Data.Finset.Sort
import Mathlib.Order.Lattice.Nat
import Mathlib.Logic.Equiv.Finset
import FlowCloud.Foundation.Samples
import FlowCloud.Protocol.Lib0
import FlowCloud.Entity.CollabMsg

/-! # Documents and the sync protocol

The document library is a parameter: an update stands for the set of its operations, a
document for the set of operations it has taken in.  Over it, `handle_collab_message` runs
one protocol message against a collab.
-/

namespace FlowCloud.Protocol

open FlowCloud.Foundation FlowCloud.Entity

/-! ## The document library -/

structure Yrs (Op StateVector AwarenessUpdate : Type) [DecidableEq Op] where
  codec : Codec StateVector AwarenessUpdate
  decodeUpdate : Bytes → Except ReadError (Finset Op)
  /-- `try_apply_update`: the content of the document afterwards. -/
  tryApplyUpdate : Finset Op → Finset Op → Except String (Finset Op)
  stateVector : Finset Op → StateVector
  /-- `encode_state_as_update_v1`: what the given state vector does not cover. -/
  encodeStateAsUpdate : Finset Op → StateVector → Bytes
  mergeUpdates : Bytes → Bytes → Except ReadError Bytes
  applyAwareness : AwarenessUpdate → AwarenessUpdate → Except String AwarenessUpdate
  apply_union : ∀ content update next, tryApplyUpdate content update = .ok next → next = content ∪ update
  merge_union : ∀ left right merged, mergeUpdates left right = .ok merged →
    ∃ leftOps rightOps, decodeUpdate left = .ok leftOps ∧ decodeUpdate right = .ok rightOps ∧
      decodeUpdate merged = .ok (leftOps ∪ rightOps)

variable {Op StateVector AwarenessUpdate : Type} [DecidableEq Op]

structure Collab (Op AwarenessUpdate : Type) where
  content : Finset Op
  awareness : AwarenessUpdate
  /-- The changes the document's observers were told of, with the origin of each. -/
  observed : List (CollabOrigin × Finset Op)

structure Transactions where
  read : Except String Unit
  write : Except String Unit

def Transactions.free : Transactions := ⟨.ok (), .ok ()⟩

def Transactions.writable (transactions : Transactions) : Bool := transactions.write.isOk

inductive Error where
  | decodingError (source : ReadError)
  | awarenessEncoding (source : String)
  | permissionDenied (reason : String)
  | unsupported (tag : UInt8)
  | yrsTransaction (message : String)
  | yrsApplyUpdate (message : String)
  | binCodeSerde (source : String)
  | internal (source : String)
  deriving DecidableEq, Repr

/-! ## Protocols -/

/-- The one handler the two sides implement differently. -/
structure CollabSyncProtocol (Op StateVector AwarenessUpdate : Type) where
  handleSyncStep1 : Transactions → Collab Op AwarenessUpdate → StateVector → Except Error (Option Bytes)

section Handlers

variable (yrs : Yrs Op StateVector AwarenessUpdate)

/-- What opens an exchange: the own state vector and the awareness, if it can be encoded. -/
def CollabSyncProtocol.start (transactions : Transactions) (awareness : Except String Unit)
    (collab : Collab Op AwarenessUpdate) : Except Error Bytes :=
  match transactions.read with
  | .error message => .error (.yrsTransaction message)
  | .ok () =>
    match awareness with
    | .error message => .error (.awarenessEncoding message)
    | .ok () =>
      let question : Message StateVector AwarenessUpdate := .sync (.syncStep1 (yrs.stateVector collab.content))
      let presence : Message StateVector AwarenessUpdate := .awareness collab.awareness
      .ok (question.encode yrs.codec ++ presence.encode yrs.codec)

/-- Answer with what the other side misses. -/
def ClientSyncProtocol : CollabSyncProtocol Op StateVector AwarenessUpdate where
  handleSyncStep1 transactions collab stateVector :=
    match transactions.read with
    | .error message => .error (.yrsTransaction ("fail to handle sync step1. error: " ++ message))
    | .ok () =>
      let update := yrs.encodeStateAsUpdate collab.content stateVector
      let answer : Message StateVector AwarenessUpdate := .sync (.syncStep2 update)
      .ok (some (answer.encode yrs.codec))

/-- The server also asks for what it misses itself. -/
def ServerSyncProtocol : CollabSyncProtocol Op StateVector AwarenessUpdate where
  handleSyncStep1 _ collab stateVector :=
    let clientStep2Update := yrs.encodeStateAsUpdate collab.content stateVector
    let serverStep1Update := yrs.stateVector collab.content
    let answer : Message StateVector AwarenessUpdate := .sync (.syncStep2 clientStep2Update)
    let question : Message StateVector AwarenessUpdate := .sync (.syncStep1 serverStep1Update)
    .ok (some (answer.encode yrs.codec ++ question.encode yrs.codec))

abbrev Handled (Op AwarenessUpdate : Type) := Except Error (Option Bytes) × Collab Op AwarenessUpdate

def handleSyncStep2 (transactions : Transactions) (origin : CollabOrigin) (collab : Collab Op AwarenessUpdate)
    (update : Finset Op) : Handled Op AwarenessUpdate :=
  match transactions.write with
  | .error message => (.error (.yrsTransaction ("sync step2 transaction acquire: " ++ message)), collab)
  | .ok () =>
    match yrs.tryApplyUpdate collab.content update with
    | .error message => (.error (.yrsApplyUpdate ("sync step2 apply update: " ++ message)), collab)
    | .ok content =>
      -- observers hear of a transaction that changed the document
      let observed := if content = collab.content then collab.observed else collab.observed ++ [(origin, update)]
      (.ok none, { collab with content, observed })

def handleUpdate (transactions : Transactions) (origin : CollabOrigin) (collab : Collab Op AwarenessUpdate)
    (update : Finset Op) : Handled Op AwarenessUpdate :=
  handleSyncStep2 yrs transactions origin collab update

def handleAuth (denyReason : Option String) : Except Error (Option Bytes) :=
  match denyReason with
  | some reason => .error (.permissionDenied reason)
  | none => .ok none

def handleAwarenessUpdate (collab : Collab Op AwarenessUpdate) (update : AwarenessUpdate) :
    Handled Op AwarenessUpdate :=
  match yrs.applyAwareness collab.awareness update with
  | .error message => (.error (.awarenessEncoding message), collab)
  | .ok awareness => (.ok none, { collab with awareness })

def handleCustomMessage (_msg : CustomMessage) : Except Error (Option Bytes) := .ok none

def handleCollabMessage (transactions : Transactions) (origin : CollabOrigin)
    (protocol : CollabSyncProtocol Op StateVector AwarenessUpdate) (collab : Collab Op AwarenessUpdate)
    (msg : Message StateVector AwarenessUpdate) : Handled Op AwarenessUpdate :=
  match msg with
  | .sync (.syncStep1 stateVector) => (protocol.handleSyncStep1 transactions collab stateVector, collab)
  | .sync (.syncStep2 data) =>
    match yrs.decodeUpdate data with
    | .error failure => (.error (.decodingError failure), collab)
    | .ok update => handleSyncStep2 yrs transactions origin collab update
  | .sync (.update data) =>
    match yrs.decodeUpdate data with
    | .error failure => (.error (.decodingError failure), collab)
    | .ok update => handleUpdate yrs transactions origin collab update
  | .auth reason => (handleAuth reason, collab)
  | .awareness update => handleAwarenessUpdate yrs collab update
  | .custom msg => (handleCustomMessage msg, collab)

end Handlers

/-! ## What a message does to the content -/

/-- The encoded update a message asks to apply. -/
def Message.carriedUpdate : Message StateVector AwarenessUpdate → Option Bytes
  | .sync (.syncStep2 data) => some data
  | .sync (.update data) => some data
  | _ => none

section Content

variable (yrs : Yrs Op StateVector AwarenessUpdate)

/-- The operations an encoded update brings to a document: none when the library cannot
    decode or apply it. -/
def Yrs.brings (content : Finset Op) (data : Bytes) : Finset Op :=
  match yrs.decodeUpdate data with
  | .error _ => ∅
  | .ok update =>
    match yrs.tryApplyUpdate content update with
    | .error _ => ∅
    | .ok _ => update

def Message.brings (content : Finset Op) (msg : Message StateVector AwarenessUpdate) : Finset Op :=
  match msg.carriedUpdate with
  | none => ∅
  | some data => yrs.brings content data

theorem handleSyncStep2_content {transactions : Transactions} {origin : CollabOrigin}
    {collab : Collab Op AwarenessUpdate} {data : Bytes} {update : Finset Op}
    (decoded : yrs.decodeUpdate data = .ok update) :
    (handleSyncStep2 yrs transactions origin collab update).2.content =
      if transactions.writable then collab.content ∪ yrs.brings collab.content data else collab.content := by
  rw [handleSyncStep2, Transactions.writable]
  cases transactions.write with
  | error message => rfl
  | ok opened =>
    cases outcome : yrs.tryApplyUpdate collab.content update with
    | error message =>
      have nothing : yrs.brings collab.content data = ∅ := by simp [Yrs.brings, decoded, outcome]
      rw [nothing, Finset.union_empty, ite_self]
    | ok content =>
      have everything : yrs.brings collab.content data = update := by simp [Yrs.brings, decoded, outcome]
      rw [everything]
      exact yrs.apply_union _ _ _ outcome

/-- A message changes the content at most by the update it carries, and only when a write
    transaction is to be had. -/
theorem handleCollabMessage_content (transactions : Transactions) (origin : CollabOrigin)
    (protocol : CollabSyncProtocol Op StateVector AwarenessUpdate) (collab : Collab Op AwarenessUpdate)
    (msg : Message StateVector AwarenessUpdate) :
    (handleCollabMessage yrs transactions origin protocol collab msg).2.content =
      if transactions.writable then collab.content ∪ msg.brings yrs collab.content else collab.content := by
  cases msg with
  | auth reason => simp [handleCollabMessage, Message.brings, Message.carriedUpdate]
  | custom msg => simp [handleCollabMessage, Message.brings, Message.carriedUpdate]
  | awareness update =>
    have kept : (handleAwarenessUpdate yrs collab update).2.content = collab.content := by
      rw [handleAwarenessUpdate]
      cases yrs.applyAwareness collab.awareness update <;> rfl
    simp [handleCollabMessage, Message.brings, Message.carriedUpdate, kept]
  | sync msg =>
    cases msg with
    | syncStep1 stateVector => simp [handleCollabMessage, Message.brings, Message.carriedUpdate]
    | syncStep2 data | update data =>
      simp only [handleCollabMessage, Message.brings, Message.carriedUpdate]
      cases decoded : yrs.decodeUpdate data with
      | error failure => simp [Yrs.brings, decoded]
      | ok update => exact handleSyncStep2_content yrs decoded

end Content

/-! ## A library that knows the real bytes of some updates -/

/-- Sets of operations, each the client and clock of an insertion, written as their code. -/
def opsWire : Wire (Finset (Nat × Nat)) :=
  Wire.nat.convert Encodable.encode
    (fun code =>
      match (Encodable.decode code : Option (Finset (Nat × Nat))) with
      | some ops => .ok ops
      | none => .error .unexpectedValue)
    (by
      intro ops
      rw [Encodable.encodek])

namespace UpdateTable

abbrev Table := Samples (Finset (Nat × Nat))

variable (table : Table)

def mergeUpdates (left right : Bytes) : Except ReadError Bytes := do
  let leftOps ← table.decode left
  let rightOps ← table.decode right
  return table.encode (leftOps ∪ rightOps)

theorem mergeUpdates_union {left right merged : Bytes} (success : mergeUpdates table left right = .ok merged) :
    ∃ leftOps rightOps, table.decode left = .ok leftOps ∧ table.decode right = .ok rightOps ∧
      table.decode merged = .ok (leftOps ∪ rightOps) := by
  rw [mergeUpdates] at success
  cases leftDecoded : table.decode left with
  | error failure => rw [leftDecoded] at success; cases success
  | ok leftOps =>
    cases rightDecoded : table.decode right with
    | error failure => rw [leftDecoded, rightDecoded] at success; cases success
    | ok rightOps =>
      rw [leftDecoded, rightDecoded] at success
      cases success
      exact ⟨leftOps, rightOps, rfl, rfl, table.decode_encode _⟩

def stateVector (content : Finset (Nat × Nat)) : Lib0.StateVector :=
  ((content.image Prod.fst).sort (· ≤ ·)).map fun client =>
    (client, (content.filter fun op => op.1 = client).sup fun op => op.2 + 1)

def missing (content : Finset (Nat × Nat)) (known : Lib0.StateVector) : Finset (Nat × Nat) :=
  content.filter fun op => ((known.find? fun entry => entry.1 == op.1).map Prod.snd).getD 0 ≤ op.2

end UpdateTable

def UpdateTable.yrs (table : UpdateTable.Table) : Yrs (Nat × Nat) Lib0.StateVector Lib0.AwarenessUpdate where
  codec := lib0
  decodeUpdate := table.decode
  tryApplyUpdate content update := .ok (content ∪ update)
  stateVector := UpdateTable.stateVector
  encodeStateAsUpdate content known := table.encode (UpdateTable.missing content known)
  mergeUpdates := UpdateTable.mergeUpdates table
  applyAwareness current update :=
    .ok (update ++ current.filter fun entry => !update.any fun changed => changed.1 == entry.1)
  apply_union := fun _ _ _ applied => (Except.ok.inj applied).symm
  merge_union := fun _ _ _ => UpdateTable.mergeUpdates_union table

/-- Client 1 types `a` and then `b` into a text; the two edits alone and together. -/
def typedUpdates : UpdateTable.Table where
  entries :=
    [([0, 0], ∅),
      ([1, 1, 1, 0, 4, 1, 1, 116, 1, 97, 0], {(1, 0)}),
      ([1, 1, 1, 1, 132, 1, 0, 1, 98, 0], {(1, 1)}),
      ([1, 2, 1, 0, 4, 1, 1, 116, 1, 97, 132, 1, 0, 1, 98, 0], {(1, 0), (1, 1)})]
  mark := 255
  wire := opsWire
  unmarked := by decide

end FlowCloud.Protocol
