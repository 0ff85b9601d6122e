import Mathlib.Data.List.AList
import Mathlib.Data.List.Induction
import Mathlib.Data.List.Nodup
import FlowCloud.Entity.CollabMsg

/-! # Realtime messages

The packets of a connection and their split by object.  Three shapes carry client messages;
`try_into_message_by_object_id` turns each of them into a map from object ids to lists.
-/

namespace FlowCloud.Entity

abbrev MessageByObjectId := AList fun _ : String => List ClientCollabMessage

/-- `get(object_id)` of a map of lists, no entry standing for no messages. -/
def MessageByObjectId.messages (map : MessageByObjectId) (objectId : String) : List ClientCollabMessage :=
  (map.lookup objectId).getD []

/-! ## Messages about users and from the system -/

structure AFUserChange where
  uid : Int
  name : Option String
  email : Option String
  metadata : Option String
  deriving DecidableEq, Repr

structure AFWorkspaceMember where
  name : String
  email : String
  role : AFRole
  avatarUrl : Option String
  deriving DecidableEq, Repr

structure AFWorkspaceMemberChange where
  added : List AFWorkspaceMember
  updated : List AFWorkspaceMember
  removed : List AFWorkspaceMember
  deriving DecidableEq, Repr

inductive UserMessage where
  | profileChange (change : AFUserChange)
  | workspaceMemberChange (change : AFWorkspaceMemberChange)
  deriving DecidableEq, Repr

inductive SystemMessage where
  | rateLimit (limit : UInt32)
  | kickOff
  | duplicateConnection
  deriving DecidableEq, Repr

/-! ## Packets -/

inductive RealtimeMessage where
  | collab (message : CollabMessage)
  | user (message : UserMessage)
  | system (message : SystemMessage)
  | clientCollabV1 (messages : List ClientCollabMessage)
  | clientCollabV2 (map : MessageByObjectId)
  | serverCollabV1 (messages : List ServerCollabMessage)

namespace RealtimeMessage

def display : RealtimeMessage → String
  | collab message => "Collab:" ++ message.display
  | user _ => "User"
  | system _ => "System"
  | clientCollabV1 _ => "ClientCollabV1"
  | clientCollabV2 _ => "ClientCollabV2"
  | serverCollabV1 _ => "ServerCollabV1"

/-- `collect()` into the map: a later pair replaces an earlier one with the same key. -/
def collect (messages : List ClientCollabMessage) : MessageByObjectId :=
  messages.foldl (fun map message => map.insert message.objectId [message]) ∅

def tryIntoMessageByObjectId : RealtimeMessage → Except String MessageByObjectId
  | collab message => do
    let clientMessage ← ClientCollabMessage.tryFrom message
    return (∅ : MessageByObjectId).insert message.objectId [clientMessage]
  | clientCollabV1 messages => .ok (collect messages)
  | clientCollabV2 map => .ok map
  | other => .error ("Failed to convert RealtimeMessage:" ++ other.display ++ " to ClientCollabMessage")

/-! ## What the split should keep -/

/-- The client messages of a packet.  Those of a list are in its order, those of a map entry by
    entry. -/
def clientMessages : RealtimeMessage → List ClientCollabMessage
  | collab message =>
    match ClientCollabMessage.tryFrom message with
    | .ok clientMessage => [clientMessage]
    | .error _ => []
  | clientCollabV1 messages => messages
  | clientCollabV2 map => map.entries.flatMap Sigma.snd
  | _ => []

/-- The client messages of a packet that are about the object. -/
def messagesFor (objectId : String) (packet : RealtimeMessage) : List ClientCollabMessage :=
  packet.clientMessages.filter fun message => message.objectId == objectId

def SplitsExactly (packet : RealtimeMessage) : Prop :=
  ∀ map, packet.tryIntoMessageByObjectId = .ok map → ∀ objectId, map.messages objectId = packet.messagesFor objectId

/-- No two messages of a `ClientCollabV1` list are about the same object, and every message of
    a `ClientCollabV2` map stands under its own object. -/
def ObjectsApart : RealtimeMessage → Prop
  | clientCollabV1 messages => (messages.map ClientCollabMessage.objectId).Nodup
  | clientCollabV2 map => ∀ objectId, ∀ message ∈ map.messages objectId, message.objectId = objectId
  | _ => True

theorem collect_messages (messages : List ClientCollabMessage) (objectId : String) :
    (collect messages).messages objectId =
      (messages.filter fun message => message.objectId == objectId).getLast?.toList := by
  -- the last pair wins, so the induction takes messages off the end
  induction messages using List.reverseRecOn with
  | nil => rfl
  | append_singleton messages last inductionHypothesis =>
    have unfolded : collect (messages ++ [last]) = (collect messages).insert last.objectId [last] := by
      simp [collect]
    rw [unfolded, MessageByObjectId.messages]
    by_cases same : last.objectId = objectId
    · subst same
      simp
    · rw [AList.lookup_insert_ne (Ne.symm same)]
      simpa [same, MessageByObjectId.messages] using inductionHypothesis

theorem getLast?_toList_eq_self {Item : Type} (items : List Item) :
    items.getLast?.toList = items ↔ items.length ≤ 1 := by
  match items with
  | [] => simp
  | [only] => simp
  | first :: second :: rest =>
    refine ⟨fun same => ?_, fun short => by simp at short⟩
    obtain ⟨last, found⟩ := Option.isSome_iff_exists.mp (by simp : ((first :: second :: rest).getLast?).isSome)
    rw [found] at same
    cases same

/-- The last of an object's messages is all of them when there is at most one. -/
theorem collect_exact_iff (messages : List ClientCollabMessage) (objectId : String) :
    (collect messages).messages objectId = (clientCollabV1 messages).messagesFor objectId ↔
      (messages.map ClientCollabMessage.objectId).count objectId ≤ 1 := by
  have count_eq : (messages.map ClientCollabMessage.objectId).count objectId =
      (messages.filter fun message => message.objectId == objectId).length := by
    rw [List.count, List.countP_map, List.countP_eq_length_filter]
    rfl
  rw [collect_messages, count_eq]
  exact getLast?_toList_eq_self _

/-- Where every message stands under its own object, the entry of an object has all of its
    messages. -/
theorem filter_flatMap_entries {entries : List (Sigma fun _ : String => List ClientCollabMessage)}
    (distinct : entries.NodupKeys) (own : ∀ entry ∈ entries, ∀ message ∈ entry.2, message.objectId = entry.1)
    (objectId : String) :
    ((entries.flatMap Sigma.snd).filter fun message => message.objectId == objectId) =
      (entries.dlookup objectId).getD [] := by
  induction entries with
  | nil => rfl
  | cons entry entries inductionHypothesis =>
    obtain ⟨key, messages⟩ := entry
    rw [List.nodupKeys_cons] at distinct
    rw [List.forall_mem_cons] at own
    rw [List.flatMap_cons, List.filter_append, inductionHypothesis distinct.2 own.2]
    by_cases same : key = objectId
    · subst same
      have all : (messages.filter fun message => message.objectId == key) = messages :=
        List.filter_eq_self.mpr fun message mem => by simp [own.1 message mem]
      have absent : entries.dlookup key = none := List.dlookup_eq_none.mpr distinct.1
      rw [all, absent, List.dlookup_cons_eq]
      exact List.append_nil messages
    · have none : (messages.filter fun message => message.objectId == objectId) = [] :=
        List.filter_eq_nil_iff.mpr fun message mem => by simp [own.1 message mem, same]
      rw [none, List.dlookup_cons_ne _ _ (Ne.symm same)]
      rfl

theorem clientCollabV2_exact_iff (map : MessageByObjectId) :
    (∀ objectId, map.messages objectId = (clientCollabV2 map).messagesFor objectId) ↔ (clientCollabV2 map).ObjectsApart := by
  constructor
  · intro exact objectId message mem
    rw [exact objectId, messagesFor, List.mem_filter] at mem
    exact beq_iff_eq.mp mem.2
  · intro own objectId
    refine (filter_flatMap_entries map.nodupKeys ?_ objectId).symm
    intro entry mem message held
    refine own entry.1 message ?_
    rwa [MessageByObjectId.messages, AList.mem_lookup_iff.mpr mem]

theorem tryFrom_objectId {message : CollabMessage} {clientMessage : ClientCollabMessage}
    (converted : ClientCollabMessage.tryFrom message = .ok clientMessage) :
    clientMessage.objectId = message.objectId := by
  cases message <;> cases converted <;> rfl

/-- The split is exact just when the packet keeps its objects apart. -/
theorem splitsExactly_iff (packet : RealtimeMessage) : packet.SplitsExactly ↔ packet.ObjectsApart := by
  cases packet with
  | user | system | serverCollabV1 => exact ⟨fun _ => trivial, fun _ map failed => by cases failed⟩
  | clientCollabV2 map =>
    rw [← clientCollabV2_exact_iff]
    refine ⟨fun exact => exact map rfl, fun exact split split_eq => ?_⟩
    cases split_eq
    exact exact
  | collab message =>
    refine ⟨fun _ => trivial, fun _ split split_eq objectId => ?_⟩
    cases converted : ClientCollabMessage.tryFrom message with
    | error failure =>
      rw [tryIntoMessageByObjectId, converted] at split_eq
      cases split_eq
    | ok clientMessage =>
      rw [tryIntoMessageByObjectId, converted] at split_eq
      cases split_eq
      simp only [messagesFor, clientMessages, converted, MessageByObjectId.messages]
      by_cases same : message.objectId = objectId
      · subst same
        rw [AList.lookup_insert, List.filter_singleton, tryFrom_objectId converted, beq_self_eq_true]
        rfl
      · rw [AList.lookup_insert_ne (Ne.symm same), List.filter_singleton, tryFrom_objectId converted,
          beq_false_of_ne same]
        rfl
  | clientCollabV1 messages =>
    rw [ObjectsApart, List.nodup_iff_count_le_one]
    constructor
    · exact fun exact objectId => (collect_exact_iff messages objectId).mp (exact _ rfl objectId)
    · intro distinct map split objectId
      cases split
      exact (collect_exact_iff messages objectId).mpr (distinct objectId)

/-- Two edits of one document in one packet: the first is dropped. -/
theorem clientCollabV1_drops_first_edit : ¬ ∀ packet : RealtimeMessage, packet.SplitsExactly := by
  intro exact
  have split := exact (clientCollabV1
    [.clientUpdateSync ⟨.client 1 "phone", "doc", 0, [0, 2, 1, 7]⟩,
      .clientUpdateSync ⟨.client 1 "phone", "doc", 1, [0, 2, 1, 8]⟩]) _ rfl "doc"
  exact absurd split (by decide)

end RealtimeMessage

end FlowCloud.Entity
