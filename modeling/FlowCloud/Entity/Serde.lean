import FlowCloud.Foundation.Bincode
import FlowCloud.Entity.RealtimeMessage

/-! # The serialised form of realtime messages

The derived forms of the packets and of everything in them: the fields of a structure in
their order, the variants of an enumeration by their numbers.  Old clients know the first
three variants of a packet only.
-/

namespace FlowCloud.Entity

open FlowCloud.Foundation

/-! ## Numbers in their ranges -/

def CollabOrigin.InRange (origin : CollabOrigin) : Prop := ∀ uid ∈ origin.clientUserId, -2 ^ 63 ≤ uid ∧ uid < 2 ^ 63

def MsgId.InRange (msgId : MsgId) : Prop := msgId < 2 ^ 64

def CollabMessage.msgId : CollabMessage → Option MsgId
  | .clientInitSync value => some value.msgId
  | .clientUpdateSync value => some value.msgId
  | .clientAck value => some value.source.msgId
  | .serverInitSync value => some value.msgId
  | .serverBroadcast _ => none
  | .awarenessSync _ => none

def CollabMessage.InRange (message : CollabMessage) : Prop :=
  message.origin.InRange ∧ ∀ msgId ∈ message.msgId, MsgId.InRange msgId

def ClientCollabMessage.InRange (message : ClientCollabMessage) : Prop :=
  message.origin.InRange ∧ MsgId.InRange message.msgId

def ServerCollabMessage.InRange (message : ServerCollabMessage) : Prop :=
  message.origin.InRange ∧ ∀ msgId ∈ message.msgId, MsgId.InRange msgId

def UserMessage.InRange : UserMessage → Prop
  | .profileChange change => -2 ^ 63 ≤ change.uid ∧ change.uid < 2 ^ 63
  | .workspaceMemberChange _ => True

/-- Every `i64` and `u64` of the packet is one. -/
def RealtimeMessage.InRange : RealtimeMessage → Prop
  | collab message => message.InRange
  | user message => message.InRange
  | system _ => True
  | clientCollabV1 messages => ∀ message ∈ messages, message.InRange
  | clientCollabV2 map => ∀ entry ∈ map.entries, ∀ message ∈ entry.2, message.InRange
  | serverCollabV1 messages => ∀ message ∈ messages, message.InRange

/-! ## Structures -/

/-- The forms of the types that other crates define. -/
structure CollabSerde where
  origin : Serde CollabOrigin
  collabType : Serde CollabType
  origin_valid : ∀ value, value.InRange → origin.Valid value
  collabType_valid : ∀ value, collabType.Valid value

section Structures

variable (lib : CollabSerde)

def msgIdSerde : Serde MsgId := Serde.uint 8

def InitSync.serde : Serde InitSync :=
  (lib.origin.pair (Serde.string.pair (lib.collabType.pair (Serde.string.pair (msgIdSerde.pair Serde.bytes))))).record
    (fun value =>
      (value.origin, value.objectId, value.collabType, value.workspaceId, value.msgId, value.payload))
    (fun read => ⟨read.1, read.2.1, read.2.2.1, read.2.2.2.1, read.2.2.2.2.1, read.2.2.2.2.2⟩)
    (fun _ => rfl)

def UpdateSync.serde : Serde UpdateSync :=
  (lib.origin.pair (Serde.string.pair (msgIdSerde.pair Serde.bytes))).record
    (fun value => (value.origin, value.objectId, value.msgId, value.payload))
    (fun read => ⟨read.1, read.2.1, read.2.2.1, read.2.2.2⟩)
    (fun _ => rfl)

def ServerInit.serde : Serde ServerInit :=
  (lib.origin.pair (Serde.string.pair (msgIdSerde.pair Serde.bytes))).record
    (fun value => (value.origin, value.objectId, value.msgId, value.payload))
    (fun read => ⟨read.1, read.2.1, read.2.2.1, read.2.2.2⟩)
    (fun _ => rfl)

def AckCode.repr : AckCode → UInt8
  | success => 0
  | cannotApplyUpdate => 1
  | retry => 2
  | internal => 3

def AckCode.ofRepr (repr : UInt8) : Decoder AckCode :=
  if repr = 0 then return success
  else if repr = 1 then return cannotApplyUpdate
  else if repr = 2 then return retry
  else if repr = 3 then return internal
  else throw .unexpectedValue

def AckCode.serde : Serde AckCode where
  Valid _ := True
  serialize code := [code.repr]
  deserialize := do
    let repr ← Decoder.byte
    ofRepr repr
  deserialize_serialize := by
    intro code rest _ _
    cases code with
    | success | cannotApplyUpdate | retry | internal => rfl

def AckSource.serde : Serde AckSource :=
  (Serde.string.pair msgIdSerde).record
    (fun value => (value.verbose, value.msgId)) (fun read => ⟨read.1, read.2⟩) (fun _ => rfl)

def CollabAck.serde : Serde CollabAck :=
  (lib.origin.pair (Serde.string.pair (AckSource.serde.pair (Serde.bytes.pair AckCode.serde)))).record
    (fun value => (value.origin, value.objectId, value.source, value.payload, value.code))
    (fun read => ⟨read.1, read.2.1, read.2.2.1, read.2.2.2.1, read.2.2.2.2⟩)
    (fun _ => rfl)

def AwarenessSync.serde : Serde AwarenessSync :=
  (Serde.string.pair (Serde.bytes.pair lib.origin)).record
    (fun value => (value.objectId, value.payload, value.origin))
    (fun read => ⟨read.1, read.2.1, read.2.2⟩)
    (fun _ => rfl)

def BroadcastSync.serde : Serde BroadcastSync :=
  (lib.origin.pair (Serde.string.pair (Serde.bytes.pair Serde.u32))).record
    (fun value => (value.origin, value.objectId, value.payload, value.seqNum))
    (fun read => ⟨read.1, read.2.1, read.2.2.1, read.2.2.2⟩)
    (fun _ => rfl)

def AFUserChange.serde : Serde AFUserChange :=
  (Serde.i64.pair (Serde.string.option.pair (Serde.string.option.pair Serde.string.option))).record
    (fun value => (value.uid, value.name, value.email, value.metadata))
    (fun read => ⟨read.1, read.2.1, read.2.2.1, read.2.2.2⟩)
    (fun _ => rfl)

/-- The position of the role, not its value as an `i32`. -/
def AFRole.variant : AFRole → Nat
  | owner => 0
  | member => 1
  | guest => 2

def AFRole.ofVariant : Nat → Decoder AFRole
  | 0 => return owner
  | 1 => return member
  | 2 => return guest
  | _ => throw .unexpectedValue

def AFRole.serde : Serde AFRole :=
  Serde.enum AFRole.variant (fun _ => []) AFRole.ofVariant (fun _ => True)
    (by
      intro role
      cases role with
      | owner | member | guest => simp [variant])
    (by
      intro role rest _ _
      cases role with
      | owner | member | guest => rfl)

def AFWorkspaceMember.serde : Serde AFWorkspaceMember :=
  (Serde.string.pair (Serde.string.pair (AFRole.serde.pair Serde.string.option))).record
    (fun value => (value.name, value.email, value.role, value.avatarUrl))
    (fun read => ⟨read.1, read.2.1, read.2.2.1, read.2.2.2⟩)
    (fun _ => rfl)

variable {lib}

theorem MsgId.InRange.valid {msgId : MsgId} (range : msgId.InRange) : msgIdSerde.Valid msgId :=
  Nat.lt_of_lt_of_eq range (by decide)

theorem InitSync.serde_valid {value : InitSync} (origin : value.origin.InRange) (msgId : value.msgId.InRange) :
    (InitSync.serde lib).Valid value :=
  ⟨lib.origin_valid _ origin, trivial, lib.collabType_valid _, trivial, msgId.valid, trivial⟩

theorem UpdateSync.serde_valid {value : UpdateSync} (origin : value.origin.InRange) (msgId : value.msgId.InRange) :
    (UpdateSync.serde lib).Valid value :=
  ⟨lib.origin_valid _ origin, trivial, msgId.valid, trivial⟩

theorem ServerInit.serde_valid {value : ServerInit} (origin : value.origin.InRange) (msgId : value.msgId.InRange) :
    (ServerInit.serde lib).Valid value :=
  ⟨lib.origin_valid _ origin, trivial, msgId.valid, trivial⟩

theorem CollabAck.serde_valid {value : CollabAck} (origin : value.origin.InRange)
    (msgId : value.source.msgId.InRange) : (CollabAck.serde lib).Valid value :=
  ⟨lib.origin_valid _ origin, trivial, ⟨trivial, msgId.valid⟩, trivial, trivial⟩

theorem AwarenessSync.serde_valid {value : AwarenessSync} (origin : value.origin.InRange) :
    (AwarenessSync.serde lib).Valid value :=
  ⟨trivial, trivial, lib.origin_valid _ origin⟩

theorem BroadcastSync.serde_valid {value : BroadcastSync} (origin : value.origin.InRange) :
    (BroadcastSync.serde lib).Valid value :=
  ⟨lib.origin_valid _ origin, trivial, trivial, trivial⟩

theorem AFUserChange.serde_valid {value : AFUserChange} (range : -2 ^ 63 ≤ value.uid ∧ value.uid < 2 ^ 63) :
    AFUserChange.serde.Valid value :=
  ⟨range, fun _ _ => trivial, fun _ _ => trivial, fun _ _ => trivial⟩

theorem AFWorkspaceMember.serde_valid (value : AFWorkspaceMember) : AFWorkspaceMember.serde.Valid value :=
  ⟨trivial, trivial, trivial, fun _ _ => trivial⟩

end Structures

def AFWorkspaceMember.listSerde : Serde (List AFWorkspaceMember) :=
  AFWorkspaceMember.serde.list (by
    intro value
    simp only [serde, Serde.record, Serde.pair, Serde.string, Serde.bytes, List.length_append, length_littleEndian]
    omega)

def AFWorkspaceMemberChange.serde : Serde AFWorkspaceMemberChange :=
  (AFWorkspaceMember.listSerde.pair (AFWorkspaceMember.listSerde.pair AFWorkspaceMember.listSerde)).record
    (fun value => (value.added, value.updated, value.removed))
    (fun read => ⟨read.1, read.2.1, read.2.2⟩)
    (fun _ => rfl)

/-! ## Messages -/

namespace CollabMessage

def variant : CollabMessage → Nat
  | clientInitSync _ => 0
  | clientUpdateSync _ => 1
  | clientAck _ => 2
  | serverInitSync _ => 3
  | awarenessSync _ => 4
  | serverBroadcast _ => 5

variable (lib : CollabSerde)

def serializeValue : CollabMessage → Bytes
  | clientInitSync value => (InitSync.serde lib).serialize value
  | clientUpdateSync value => (UpdateSync.serde lib).serialize value
  | clientAck value => (CollabAck.serde lib).serialize value
  | serverInitSync value => (ServerInit.serde lib).serialize value
  | awarenessSync value => (AwarenessSync.serde lib).serialize value
  | serverBroadcast value => (BroadcastSync.serde lib).serialize value

def ofVariant : Nat → Decoder CollabMessage
  | 0 => (InitSync.serde lib).deserializeAs clientInitSync
  | 1 => (UpdateSync.serde lib).deserializeAs clientUpdateSync
  | 2 => (CollabAck.serde lib).deserializeAs clientAck
  | 3 => (ServerInit.serde lib).deserializeAs serverInitSync
  | 4 => (AwarenessSync.serde lib).deserializeAs awarenessSync
  | 5 => (BroadcastSync.serde lib).deserializeAs serverBroadcast
  | _ => throw .unexpectedValue

def serde : Serde CollabMessage :=
  Serde.enum variant (serializeValue lib) (ofVariant lib) InRange
    (by
      intro message
      cases message with
      | _ => simp [variant])
    (by
      intro message rest range short
      obtain ⟨origin, msgId⟩ := range
      cases message with
      | clientInitSync value =>
        exact Serde.deserializeAs_serialize _ _ (InitSync.serde_valid origin (msgId _ rfl)) short rest
      | clientUpdateSync value =>
        exact Serde.deserializeAs_serialize _ _ (UpdateSync.serde_valid origin (msgId _ rfl)) short rest
      | clientAck value =>
        exact Serde.deserializeAs_serialize _ _ (CollabAck.serde_valid origin (msgId _ rfl)) short rest
      | serverInitSync value =>
        exact Serde.deserializeAs_serialize _ _ (ServerInit.serde_valid origin (msgId _ rfl)) short rest
      | awarenessSync value =>
        exact Serde.deserializeAs_serialize _ _ (AwarenessSync.serde_valid origin) short rest
      | serverBroadcast value =>
        exact Serde.deserializeAs_serialize _ _ (BroadcastSync.serde_valid origin) short rest)

end CollabMessage

namespace ClientCollabMessage

def variant : ClientCollabMessage → Nat
  | clientInitSync _ => 0
  | clientUpdateSync _ => 1
  | serverInitSync _ => 2
  | clientAwarenessSync _ => 3

variable (lib : CollabSerde)

def serializeData : ClientCollabMessage → Bytes
  | clientInitSync data => (InitSync.serde lib).serialize data
  | clientUpdateSync data => (UpdateSync.serde lib).serialize data
  | serverInitSync data => (ServerInit.serde lib).serialize data
  | clientAwarenessSync data => (UpdateSync.serde lib).serialize data

def ofVariant : Nat → Decoder ClientCollabMessage
  | 0 => (InitSync.serde lib).deserializeAs clientInitSync
  | 1 => (UpdateSync.serde lib).deserializeAs clientUpdateSync
  | 2 => (ServerInit.serde lib).deserializeAs serverInitSync
  | 3 => (UpdateSync.serde lib).deserializeAs clientAwarenessSync
  | _ => throw .unexpectedValue

def serde : Serde ClientCollabMessage :=
  Serde.enum variant (serializeData lib) (ofVariant lib) InRange
    (by
      intro message
      cases message with
      | _ => simp [variant])
    (by
      intro message rest range short
      obtain ⟨origin, msgId⟩ := range
      cases message with
      | clientInitSync data =>
        exact Serde.deserializeAs_serialize _ _ (InitSync.serde_valid origin msgId) short rest
      | clientUpdateSync data =>
        exact Serde.deserializeAs_serialize _ _ (UpdateSync.serde_valid origin msgId) short rest
      | serverInitSync data =>
        exact Serde.deserializeAs_serialize _ _ (ServerInit.serde_valid origin msgId) short rest
      | clientAwarenessSync data =>
        exact Serde.deserializeAs_serialize _ _ (UpdateSync.serde_valid origin msgId) short rest)

def listSerde : Serde (List ClientCollabMessage) :=
  (serde lib).list fun _ => Serde.enum_nonempty ..

end ClientCollabMessage

namespace ServerCollabMessage

def variant : ServerCollabMessage → Nat
  | clientAck _ => 0
  | serverInitSync _ => 1
  | awarenessSync _ => 2
  | serverBroadcast _ => 3

variable (lib : CollabSerde)

def serializeValue : ServerCollabMessage → Bytes
  | clientAck value => (CollabAck.serde lib).serialize value
  | serverInitSync value => (ServerInit.serde lib).serialize value
  | awarenessSync value => (AwarenessSync.serde lib).serialize value
  | serverBroadcast value => (BroadcastSync.serde lib).serialize value

def ofVariant : Nat → Decoder ServerCollabMessage
  | 0 => (CollabAck.serde lib).deserializeAs clientAck
  | 1 => (ServerInit.serde lib).deserializeAs serverInitSync
  | 2 => (AwarenessSync.serde lib).deserializeAs awarenessSync
  | 3 => (BroadcastSync.serde lib).deserializeAs serverBroadcast
  | _ => throw .unexpectedValue

def serde : Serde ServerCollabMessage :=
  Serde.enum variant (serializeValue lib) (ofVariant lib) InRange
    (by
      intro message
      cases message with
      | _ => simp [variant])
    (by
      intro message rest range short
      obtain ⟨origin, msgId⟩ := range
      cases message with
      | clientAck value =>
        exact Serde.deserializeAs_serialize _ _ (CollabAck.serde_valid origin (msgId _ rfl)) short rest
      | serverInitSync value =>
        exact Serde.deserializeAs_serialize _ _ (ServerInit.serde_valid origin (msgId _ rfl)) short rest
      | awarenessSync value =>
        exact Serde.deserializeAs_serialize _ _ (AwarenessSync.serde_valid origin) short rest
      | serverBroadcast value =>
        exact Serde.deserializeAs_serialize _ _ (BroadcastSync.serde_valid origin) short rest)

def listSerde : Serde (List ServerCollabMessage) :=
  (serde lib).list fun _ => Serde.enum_nonempty ..

end ServerCollabMessage

/-! ## Maps -/

namespace MessageByObjectId

def pairs (map : MessageByObjectId) : List (String × List ClientCollabMessage) :=
  map.entries.map fun entry => (entry.1, entry.2)

/-- A later pair replaces an earlier one with the same key.  The entries stand in the order in
    which they were read, one of those a hash map can have. -/
def ofPairs (pairs : List (String × List ClientCollabMessage)) : MessageByObjectId where
  entries := (List.dedupKeys (pairs.map fun pair => (⟨pair.1, pair.2⟩ : Sigma fun _ => _)).reverse).reverse
  nodupKeys := (List.perm_nodupKeys (List.reverse_perm _)).mpr (List.nodupKeys_dedupKeys _)

theorem dedupKeys_eq_self {entries : List (Sigma fun _ : String => List ClientCollabMessage)}
    (distinct : entries.NodupKeys) : entries.dedupKeys = entries := by
  induction entries with
  | nil => rfl
  | cons entry entries inductionHypothesis =>
    rw [List.nodupKeys_cons] at distinct
    rw [List.dedupKeys_cons, inductionHypothesis distinct.2, List.kinsert_def,
      List.kerase_of_notMem_keys distinct.1]

theorem ofPairs_pairs (map : MessageByObjectId) : ofPairs map.pairs = map := by
  have entries : map.pairs.map (fun pair => (⟨pair.1, pair.2⟩ : Sigma fun _ : String => List ClientCollabMessage)) =
      map.entries := by
    rw [pairs, List.map_map]
    exact List.map_id _
  have distinct : map.entries.reverse.NodupKeys :=
    (List.perm_nodupKeys (List.reverse_perm _)).mpr map.nodupKeys
  apply AList.ext
  simp only [ofPairs, entries]
  rw [dedupKeys_eq_self distinct, List.reverse_reverse]

def serde (lib : CollabSerde) : Serde MessageByObjectId :=
  (((Serde.string.pair (ClientCollabMessage.listSerde lib)).list (by
    intro pair
    simp only [Serde.pair, Serde.string, Serde.bytes, List.length_append, length_littleEndian]
    omega)).record pairs ofPairs ofPairs_pairs).restrict
    (fun map => ∀ entry ∈ map.entries, ∀ message ∈ entry.2, message.InRange)
    (by
      intro map range pair member
      obtain ⟨entry, listed, rfl⟩ := List.mem_map.mp member
      exact ⟨trivial, range entry listed⟩)

end MessageByObjectId

/-! ## Messages about users and from the system -/

theorem AFWorkspaceMemberChange.serde_valid (value : AFWorkspaceMemberChange) :
    AFWorkspaceMemberChange.serde.Valid value :=
  ⟨fun _ _ => AFWorkspaceMember.serde_valid _, fun _ _ => AFWorkspaceMember.serde_valid _,
    fun _ _ => AFWorkspaceMember.serde_valid _⟩

namespace UserMessage

def variant : UserMessage → Nat
  | profileChange _ => 0
  | workspaceMemberChange _ => 1

def serializeChange : UserMessage → Bytes
  | profileChange change => AFUserChange.serde.serialize change
  | workspaceMemberChange change => AFWorkspaceMemberChange.serde.serialize change

def ofVariant : Nat → Decoder UserMessage
  | 0 => AFUserChange.serde.deserializeAs profileChange
  | 1 => AFWorkspaceMemberChange.serde.deserializeAs workspaceMemberChange
  | _ => throw .unexpectedValue

def serde : Serde UserMessage :=
  Serde.enum variant serializeChange ofVariant InRange
    (by
      intro message
      cases message with
      | _ => simp [variant])
    (by
      intro message rest range short
      cases message with
      | profileChange change =>
        exact Serde.deserializeAs_serialize _ _ (AFUserChange.serde_valid range) short rest
      | workspaceMemberChange change =>
        exact Serde.deserializeAs_serialize _ _ (AFWorkspaceMemberChange.serde_valid change) short rest)

end UserMessage

namespace SystemMessage

def variant : SystemMessage → Nat
  | rateLimit _ => 0
  | kickOff => 1
  | duplicateConnection => 2

def serializeLimit : SystemMessage → Bytes
  | rateLimit limit => Serde.u32.serialize limit
  | kickOff | duplicateConnection => []

def ofVariant : Nat → Decoder SystemMessage
  | 0 => Serde.u32.deserializeAs rateLimit
  | 1 => return kickOff
  | 2 => return duplicateConnection
  | _ => throw .unexpectedValue

def serde : Serde SystemMessage :=
  Serde.enum variant serializeLimit ofVariant (fun _ => True)
    (by
      intro message
      cases message with
      | _ => simp [variant])
    (by
      intro message rest _ short
      cases message with
      | rateLimit limit => exact Serde.deserializeAs_serialize _ _ trivial short rest
      | kickOff => rfl
      | duplicateConnection => rfl)

end SystemMessage

/-! ## Packets -/

def maximumRealtimeMessageSize : Nat := 10 * 1024 * 1024

namespace RealtimeMessage

def variant : RealtimeMessage → Nat
  | collab _ => 0
  | user _ => 1
  | system _ => 2
  | clientCollabV1 _ => 3
  | clientCollabV2 _ => 4
  | serverCollabV1 _ => 5

variable (lib : CollabSerde)

def serializeContent : RealtimeMessage → Bytes
  | collab message => (CollabMessage.serde lib).serialize message
  | user message => UserMessage.serde.serialize message
  | system message => SystemMessage.serde.serialize message
  | clientCollabV1 messages => (ClientCollabMessage.listSerde lib).serialize messages
  | clientCollabV2 map => (MessageByObjectId.serde lib).serialize map
  | serverCollabV1 messages => (ServerCollabMessage.listSerde lib).serialize messages

def ofVariant : Nat → Decoder RealtimeMessage
  | 0 => (CollabMessage.serde lib).deserializeAs collab
  | 1 => UserMessage.serde.deserializeAs user
  | 2 => SystemMessage.serde.deserializeAs system
  | 3 => (ClientCollabMessage.listSerde lib).deserializeAs clientCollabV1
  | 4 => (MessageByObjectId.serde lib).deserializeAs clientCollabV2
  | 5 => (ServerCollabMessage.listSerde lib).deserializeAs serverCollabV1
  | _ => throw .unexpectedValue

def serde : Serde RealtimeMessage :=
  Serde.enum variant (serializeContent lib) (ofVariant lib) InRange
    (by
      intro message
      cases message with
      | _ => simp [variant])
    (by
      intro message rest range short
      cases message with
      | collab message => exact Serde.deserializeAs_serialize _ _ range short rest
      | user message => exact Serde.deserializeAs_serialize _ _ range short rest
      | system message => exact Serde.deserializeAs_serialize _ _ trivial short rest
      | clientCollabV1 messages => exact Serde.deserializeAs_serialize _ _ range short rest
      | clientCollabV2 map => exact Serde.deserializeAs_serialize _ _ range short rest
      | serverCollabV1 messages => exact Serde.deserializeAs_serialize _ _ range short rest)

def encode (self : RealtimeMessage) : Except ReadError Bytes :=
  Serde.serializeWithin maximumRealtimeMessageSize (serde lib) self

def decode (data : Bytes) : Except ReadError RealtimeMessage :=
  Serde.deserializeWithin maximumRealtimeMessageSize (serde lib) data

end RealtimeMessage

/-! ## Old clients -/

inductive RealtimeMessageV1 where
  | collab (message : CollabMessage)
  | user (message : UserMessage)
  | system (message : SystemMessage)
  deriving DecidableEq, Repr

namespace RealtimeMessageV1

/-- The packet with the same content. -/
def current : RealtimeMessageV1 → RealtimeMessage
  | collab message => .collab message
  | user message => .user message
  | system message => .system message

def InRange : RealtimeMessageV1 → Prop
  | collab message => message.InRange
  | user message => message.InRange
  | system _ => True

def variant : RealtimeMessageV1 → Nat
  | collab _ => 0
  | user _ => 1
  | system _ => 2

variable (lib : CollabSerde)

def serializeContent : RealtimeMessageV1 → Bytes
  | collab message => (CollabMessage.serde lib).serialize message
  | user message => UserMessage.serde.serialize message
  | system message => SystemMessage.serde.serialize message

def ofVariant : Nat → Decoder RealtimeMessageV1
  | 0 => (CollabMessage.serde lib).deserializeAs collab
  | 1 => UserMessage.serde.deserializeAs user
  | 2 => SystemMessage.serde.deserializeAs system
  | _ => throw .unexpectedValue

def serde : Serde RealtimeMessageV1 :=
  Serde.enum variant (serializeContent lib) (ofVariant lib) InRange
    (by
      intro message
      cases message with
      | _ => simp [variant])
    (by
      intro message rest range short
      cases message with
      | collab message => exact Serde.deserializeAs_serialize _ _ range short rest
      | user message => exact Serde.deserializeAs_serialize _ _ range short rest
      | system message => exact Serde.deserializeAs_serialize _ _ trivial short rest)

/-- With the options of a packet. -/
def encode (self : RealtimeMessageV1) : Except ReadError Bytes :=
  Serde.serializeWithin maximumRealtimeMessageSize (serde lib) self

/-- `bincode::deserialize`, which has no limit. -/
def deserialize (data : Bytes) : Except ReadError RealtimeMessageV1 := (serde lib).deserializeAll data

variable {lib}

theorem InRange.current {old : RealtimeMessageV1} (range : old.InRange) : old.current.InRange := by
  cases old with
  | collab message => exact range
  | user message => exact range
  | system message => exact trivial

/-- The variants that both know have the same numbers and hold the same. -/
theorem serialize_current (old : RealtimeMessageV1) :
    (RealtimeMessage.serde lib).serialize old.current = (serde lib).serialize old := by
  cases old with
  | collab message => rfl
  | user message => rfl
  | system message => rfl

end RealtimeMessageV1

/-! ## A form of the other crates' types -/

def clientSerde : Serde (Int × String) := Serde.i64.pair Serde.string

def originOfClient (client : Int × String) : CollabOrigin := .client client.1 client.2

def originVariant : CollabOrigin → Nat
  | .client _ _ => 0
  | .server => 1
  | .empty => 2

def serializeClient : CollabOrigin → Bytes
  | .client uid deviceId => clientSerde.serialize (uid, deviceId)
  | .server | .empty => []

def originOfVariant : Nat → Decoder CollabOrigin
  | 0 => clientSerde.deserializeAs originOfClient
  | 1 => return .server
  | 2 => return .empty
  | _ => throw .unexpectedValue

def originSerde : Serde CollabOrigin :=
  Serde.enum originVariant serializeClient originOfVariant CollabOrigin.InRange
    (by
      intro origin
      cases origin with
      | _ => simp [originVariant])
    (by
      intro origin rest range short
      cases origin with
      | client uid deviceId =>
        have valid : clientSerde.Valid (uid, deviceId) := ⟨range uid rfl, trivial⟩
        exact Serde.deserializeAs_serialize clientSerde originOfClient valid short rest
      | server => rfl
      | empty => rfl)

def collabTypeRepr : CollabType → UInt8
  | .document => 0
  | .database => 1
  | .workspaceDatabase => 2
  | .folder => 3
  | .databaseRow => 4
  | .userAwareness => 5

def collabTypeOfRepr (repr : UInt8) : Decoder CollabType :=
  if repr = 0 then return .document
  else if repr = 1 then return .database
  else if repr = 2 then return .workspaceDatabase
  else if repr = 3 then return .folder
  else if repr = 4 then return .databaseRow
  else if repr = 5 then return .userAwareness
  else throw .unexpectedValue

def collabTypeSerde : Serde CollabType where
  Valid _ := True
  serialize collabType := [collabTypeRepr collabType]
  deserialize := do
    let repr ← Decoder.byte
    collabTypeOfRepr repr
  deserialize_serialize := by
    intro collabType rest _ _
    cases collabType with
    | _ => rfl

def sampleSerde : CollabSerde where
  origin := originSerde
  collabType := collabTypeSerde
  origin_valid _ range := range
  collabType_valid _ := trivial

/-! ## Messages are read back -/

theorem lt_of_le_maximumRealtimeMessageSize {length : Nat} (within : length ≤ maximumRealtimeMessageSize) :
    length < 2 ^ 64 :=
  Nat.lt_of_le_of_lt within (by decide)

theorem RealtimeMessage.decode_encode {lib : CollabSerde} {message : RealtimeMessage} (range : message.InRange)
    {data : Bytes} (encoded : message.encode lib = .ok data) : RealtimeMessage.decode lib data = .ok message := by
  obtain ⟨rfl, within⟩ := Serde.serializeWithin_eq_ok.mp encoded
  exact Serde.deserializeWithin_serialize range (lt_of_le_maximumRealtimeMessageSize within) within

/-- What was encoded is decoded, old clients read the packets they know, and their packets are
    read. -/
theorem realtime_messages_read_back (lib : CollabSerde) :
    (∀ message : RealtimeMessage, message.InRange → ∀ data, message.encode lib = .ok data →
        RealtimeMessage.decode lib data = .ok message) ∧
      (∀ old : RealtimeMessageV1, old.InRange → ∀ data, old.current.encode lib = .ok data →
        RealtimeMessageV1.deserialize lib data = .ok old) ∧
      (∀ old : RealtimeMessageV1, old.InRange → ∀ data, old.encode lib = .ok data →
        RealtimeMessage.decode lib data = .ok old.current) := by
  refine ⟨fun message range data encoded => RealtimeMessage.decode_encode range encoded, ?_, ?_⟩
  · intro old range data encoded
    obtain ⟨rfl, within⟩ := Serde.serializeWithin_eq_ok.mp encoded
    have short := lt_of_le_maximumRealtimeMessageSize within
    rw [RealtimeMessageV1.serialize_current] at short ⊢
    exact Serde.deserializeAll_serialize range short
  · intro old range data encoded
    obtain ⟨rfl, within⟩ := Serde.serializeWithin_eq_ok.mp encoded
    apply RealtimeMessage.decode_encode range.current
    rw [RealtimeMessage.encode, Serde.serializeWithin_eq_ok]
    exact ⟨RealtimeMessageV1.serialize_current old, within⟩

/-- A change of a profile: what the server sends and what an old client would send. -/
theorem realtime_messages_read_back_change :
    let change : RealtimeMessageV1 := .user (.profileChange ⟨-5, some "ada", none, none⟩)
    ∃ data, RealtimeMessage.decode sampleSerde data = .ok change.current ∧
      RealtimeMessageV1.deserialize sampleSerde data = .ok change := by
  intro change
  have range : change.InRange := by
    show (-2 ^ 63 : Int) ≤ -5 ∧ (-5 : Int) < 2 ^ 63
    decide
  have encoded : change.encode sampleSerde = .ok ((RealtimeMessageV1.serde sampleSerde).serialize change) :=
    Serde.serializeWithin_eq_ok.mpr ⟨rfl, by decide +kernel⟩
  have currentEncoded : change.current.encode sampleSerde =
      .ok ((RealtimeMessage.serde sampleSerde).serialize change.current) :=
    Serde.serializeWithin_eq_ok.mpr ⟨rfl, by decide +kernel⟩
  obtain ⟨_, oldReads, oldRead⟩ := realtime_messages_read_back sampleSerde
  rw [RealtimeMessageV1.serialize_current] at currentEncoded
  exact ⟨_, oldRead change range _ encoded, oldReads change range _ currentEncoded⟩

end FlowCloud.Entity
