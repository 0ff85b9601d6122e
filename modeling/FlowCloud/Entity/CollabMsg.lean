import FlowCloud.Entity.Dto

/-! # Collab messages

The messages clients and the server exchange about one object.  A payload holds a sequence
of encoded protocol messages; nothing in this module looks inside one.
-/

namespace FlowCloud.Entity

abbrev MsgId := Nat

inductive CollabOrigin where
  | empty
  | client (uid : Int) (deviceId : String)
  | server
  deriving DecidableEq, Repr

def CollabOrigin.clientUserId : CollabOrigin → Option Int
  | .client uid _ => some uid
  | _ => none

def CollabOrigin.displayUid (origin : CollabOrigin) : String := toString (origin.clientUserId.getD 0)

/-! ## The kinds of messages -/

structure InitSync where
  origin : CollabOrigin
  objectId : String
  collabType : CollabType
  workspaceId : String
  msgId : MsgId
  payload : Bytes
  deriving DecidableEq, Repr

structure UpdateSync where
  origin : CollabOrigin
  objectId : String
  msgId : MsgId
  payload : Bytes
  deriving DecidableEq, Repr

structure ServerInit where
  origin : CollabOrigin
  objectId : String
  msgId : MsgId
  payload : Bytes
  deriving DecidableEq, Repr

inductive AckCode where
  | success
  | cannotApplyUpdate
  | retry
  | internal
  deriving DecidableEq, Repr

structure AckSource where
  verbose : String
  msgId : MsgId
  deriving DecidableEq, Repr

structure CollabAck where
  origin : CollabOrigin
  objectId : String
  source : AckSource
  payload : Bytes
  code : AckCode
  deriving DecidableEq, Repr

def CollabAck.new (origin : CollabOrigin) (objectId : String) (msgId : MsgId) : CollabAck :=
  ⟨origin, objectId, ⟨"", msgId⟩, [], .success⟩

def CollabAck.withPayload (self : CollabAck) (payload : Bytes) : CollabAck := { self with payload }

def CollabAck.withCode (self : CollabAck) (code : AckCode) : CollabAck := { self with code }

structure AwarenessSync where
  objectId : String
  payload : Bytes
  origin : CollabOrigin
  deriving DecidableEq, Repr

/-- Awareness comes from the server, whoever changed his. -/
def AwarenessSync.new (objectId : String) (payload : Bytes) : AwarenessSync := ⟨objectId, payload, .server⟩

structure BroadcastSync where
  origin : CollabOrigin
  objectId : String
  payload : Bytes
  seqNum : UInt32
  deriving DecidableEq, Repr

/-- How the log names a message: its kind, the user, the object, the id and the payload's
    length. -/
def describe (kind : String) (origin : CollabOrigin) (objectId : String) (msgId : Option MsgId) (payload : Bytes) :
    String :=
  let id := match msgId with
    | some msgId => "|msg_id:" ++ toString msgId
    | none => ""
  kind ++ ": [uid:" ++ origin.displayUid ++ "|oid:" ++ objectId ++ id ++ "|len:" ++ toString payload.length ++ "]"

/-! ## `CollabMessage` -/

inductive CollabMessage where
  | clientInitSync (value : InitSync)
  | clientUpdateSync (value : UpdateSync)
  | clientAck (value : CollabAck)
  | serverInitSync (value : ServerInit)
  | awarenessSync (value : AwarenessSync)
  | serverBroadcast (value : BroadcastSync)
  deriving DecidableEq, Repr

def CollabMessage.objectId : CollabMessage → String
  | .clientInitSync value => value.objectId
  | .clientUpdateSync value => value.objectId
  | .clientAck value => value.objectId
  | .serverInitSync value => value.objectId
  | .serverBroadcast value => value.objectId
  | .awarenessSync value => value.objectId

def CollabMessage.origin : CollabMessage → CollabOrigin
  | .clientInitSync value => value.origin
  | .clientUpdateSync value => value.origin
  | .clientAck value => value.origin
  | .serverInitSync value => value.origin
  | .serverBroadcast value => value.origin
  | .awarenessSync value => value.origin

def CollabMessage.display : CollabMessage → String
  | .clientInitSync value => describe "client init" value.origin value.objectId (some value.msgId) value.payload
  | .clientUpdateSync value => describe "update" value.origin value.objectId (some value.msgId) value.payload
  | .clientAck value => describe "ack" value.origin value.objectId (some value.source.msgId) value.payload
  | .serverInitSync value => describe "server init" value.origin value.objectId (some value.msgId) value.payload
  | .serverBroadcast value => describe "broadcast" value.origin value.objectId none value.payload
  | .awarenessSync value =>
    "awareness: [|oid:" ++ value.objectId ++ "|len:" ++ toString value.payload.length ++ "]"

/-! ## `ClientCollabMessage` -/

inductive ClientCollabMessage where
  | clientInitSync (data : InitSync)
  | clientUpdateSync (data : UpdateSync)
  | serverInitSync (data : ServerInit)
  | clientAwarenessSync (data : UpdateSync)
  deriving DecidableEq, Repr

namespace ClientCollabMessage

def objectId : ClientCollabMessage → String
  | clientInitSync data => data.objectId
  | clientUpdateSync data => data.objectId
  | serverInitSync data => data.objectId
  | clientAwarenessSync data => data.objectId

def origin : ClientCollabMessage → CollabOrigin
  | clientInitSync data => data.origin
  | clientUpdateSync data => data.origin
  | serverInitSync data => data.origin
  | clientAwarenessSync data => data.origin

/-- The device of the origin, if a client is one. -/
def deviceId (self : ClientCollabMessage) : Option String :=
  match self.origin with
  | .client _ deviceId => some deviceId
  | _ => none

def payload : ClientCollabMessage → Bytes
  | clientInitSync data => data.payload
  | clientUpdateSync data => data.payload
  | serverInitSync data => data.payload
  | clientAwarenessSync data => data.payload

def msgId : ClientCollabMessage → MsgId
  | clientInitSync data => data.msgId
  | clientUpdateSync data => data.msgId
  | serverInitSync data => data.msgId
  | clientAwarenessSync data => data.msgId

def display : ClientCollabMessage → String
  | clientInitSync data => describe "client init" data.origin data.objectId (some data.msgId) data.payload
  | clientUpdateSync data => describe "update" data.origin data.objectId (some data.msgId) data.payload
  | serverInitSync data => describe "server init" data.origin data.objectId (some data.msgId) data.payload
  | clientAwarenessSync data => describe "awareness" data.origin data.objectId (some data.msgId) data.payload

def payloadSize (self : ClientCollabMessage) : Nat := self.payload.length

def isClientInitSync : ClientCollabMessage → Bool
  | clientInitSync _ => true
  | _ => false

def mergeable : ClientCollabMessage → Bool
  | clientUpdateSync _ => true
  | _ => false

def setMsgId (msgId : MsgId) : ClientCollabMessage → ClientCollabMessage
  | clientInitSync data => clientInitSync { data with msgId }
  | clientUpdateSync data => clientUpdateSync { data with msgId }
  | serverInitSync data => serverInitSync { data with msgId }
  | clientAwarenessSync data => clientAwarenessSync { data with msgId }

/-- `Ord`: init syncs first, then server inits, then the smaller id. -/
def cmp : ClientCollabMessage → ClientCollabMessage → Ordering
  | clientInitSync _, clientInitSync _ => .eq
  | clientInitSync _, _ => .gt
  | _, clientInitSync _ => .lt
  | serverInitSync _, serverInitSync _ => .eq
  | serverInitSync _, _ => .gt
  | _, serverInitSync _ => .lt
  | left, right => (compare left.msgId right.msgId).swap

/-- `TryFrom<CollabMessage>`: acks, awareness and broadcasts come from the server only. -/
def tryFrom : CollabMessage → Except String ClientCollabMessage
  | .clientInitSync value => .ok (clientInitSync value)
  | .clientUpdateSync value => .ok (clientUpdateSync value)
  | .serverInitSync value => .ok (serverInitSync value)
  | other => .error ("Can't convert to ClientCollabMessage for given collab message:" ++ other.display)

end ClientCollabMessage

/-! ## `ServerCollabMessage` -/

inductive ServerCollabMessage where
  | clientAck (value : CollabAck)
  | serverInitSync (value : ServerInit)
  | awarenessSync (value : AwarenessSync)
  | serverBroadcast (value : BroadcastSync)
  deriving DecidableEq, Repr

/-- The id of the message it answers; awareness and broadcasts answer none. -/
def ServerCollabMessage.msgId : ServerCollabMessage → Option MsgId
  | .clientAck value => some value.source.msgId
  | .serverInitSync value => some value.msgId
  | .awarenessSync _ => none
  | .serverBroadcast _ => none

def ServerCollabMessage.payload : ServerCollabMessage → Bytes
  | .clientAck value => value.payload
  | .serverInitSync value => value.payload
  | .awarenessSync value => value.payload
  | .serverBroadcast value => value.payload

def ServerCollabMessage.origin : ServerCollabMessage → CollabOrigin
  | .clientAck value => value.origin
  | .serverInitSync value => value.origin
  | .awarenessSync value => value.origin
  | .serverBroadcast value => value.origin

def ServerCollabMessage.objectId : ServerCollabMessage → String
  | .clientAck value => value.objectId
  | .serverInitSync value => value.objectId
  | .awarenessSync value => value.objectId
  | .serverBroadcast value => value.objectId

/-- `TryFrom<CollabMessage>`: a client's own syncs are no messages of the server. -/
def ServerCollabMessage.tryFrom : CollabMessage → Except String ServerCollabMessage
  | .clientAck value => .ok (.clientAck value)
  | .serverInitSync value => .ok (.serverInitSync value)
  | .awarenessSync value => .ok (.awarenessSync value)
  | .serverBroadcast value => .ok (.serverBroadcast value)
  | _ => .error "Invalid collab message type."

end FlowCloud.Entity
