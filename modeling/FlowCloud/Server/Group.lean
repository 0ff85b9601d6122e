import Mathlib.Logic.Function.Basic
import FlowCloud.Server.GroupBroadcast

/-! # Collab groups and client streams

A group holds the collab of one object and its subscribers; `AllGroup` keeps the groups by
object id.  A client stream is the connection of a user: every subscription reads from it
through a channel that lets the messages of one object through.
-/

namespace FlowCloud.Server

open FlowCloud.Entity

/-- The users of the server; equal users have the same uid and device. -/
class RealtimeUser (User : Type) where
  uid : User → Int
  deviceId : User → String

def userDevice {User : Type} [RealtimeUser User] (user : User) : String :=
  toString (RealtimeUser.uid user) ++ "-" ++ RealtimeUser.deviceId user

/-! ## Groups -/

structure Subscription where
  origin : CollabOrigin
  number : Nat
  deriving DecidableEq, Repr

/-- The group of one object.  `collab` names the shared document in memory. -/
structure CollabGroup (User : Type) where
  workspaceId : String
  objectId : String
  collab : Nat
  collabType : CollabType
  subscribers : User → Option Subscription
  userByUserDevice : String → Option User

section CollabGroup

variable {User : Type} [DecidableEq User]

def CollabGroup.new (workspaceId objectId : String) (collabType : CollabType) (collab : Nat) : CollabGroup User where
  workspaceId := workspaceId
  objectId := objectId
  collab := collab
  collabType := collabType
  subscribers := fun _ => none
  userByUserDevice := fun _ => none

def CollabGroup.containsUser (self : CollabGroup User) (user : User) : Bool := (self.subscribers user).isSome

def CollabGroup.removeUser (self : CollabGroup User) (user : User) : CollabGroup User × Option Subscription :=
  ({ self with subscribers := Function.update self.subscribers user none }, self.subscribers user)

/-- Subscribe a user; the subscription of the last user of the same device is removed and
    stopped. -/
def CollabGroup.subscribe [RealtimeUser User] (self : CollabGroup User) (user : User) (sub : Subscription) :
    CollabGroup User × Option Subscription :=
  let removed := match self.userByUserDevice (userDevice user) with
    | some old => self.removeUser old
    | none => (self, none)
  ({ removed.1 with
      userByUserDevice := Function.update removed.1.userByUserDevice (userDevice user) (some user)
      subscribers := Function.update removed.1.subscribers user (some sub) }, removed.2)

theorem CollabGroup.subscribe_collab [RealtimeUser User] (self : CollabGroup User) (user : User)
    (sub : Subscription) : (self.subscribe user sub).1.collab = self.collab := by
  rw [CollabGroup.subscribe]
  cases self.userByUserDevice (userDevice user) <;> rfl

@[simp] theorem CollabGroup.containsUser_subscribe [RealtimeUser User] (self : CollabGroup User) (user : User)
    (sub : Subscription) : (self.subscribe user sub).1.containsUser user = true := by
  simp [CollabGroup.subscribe, CollabGroup.containsUser]

@[simp] theorem CollabGroup.containsUser_removeUser (self : CollabGroup User) (user : User) :
    (self.removeUser user).1.containsUser user = false := by
  simp [CollabGroup.removeUser, CollabGroup.containsUser]

end CollabGroup

/-! ## All groups -/

/-- The groups by object id.  Every group was created with a document of its own. -/
structure AllGroup (User : Type) where
  groupByObjectId : String → Option (CollabGroup User)
  created : Nat
  known : ∀ objectId group, groupByObjectId objectId = some group → group.collab < created

section AllGroup

variable {User : Type} [DecidableEq User]

def AllGroup.getGroup (self : AllGroup User) (objectId : String) : Option (CollabGroup User) :=
  self.groupByObjectId objectId

def AllGroup.containsGroup (self : AllGroup User) (objectId : String) : Bool := (self.getGroup objectId).isSome

def AllGroup.containsUser (self : AllGroup User) (objectId : String) (user : User) : Bool :=
  match self.getGroup objectId with
  | some group => group.containsUser user
  | none => false

/-- A new group takes the place of any older one. -/
def AllGroup.createGroup (self : AllGroup User) (workspaceId objectId : String) (collabType : CollabType) :
    AllGroup User where
  groupByObjectId := Function.update self.groupByObjectId objectId
    (some (.new workspaceId objectId collabType self.created))
  created := self.created + 1
  known := by
    intro other group found
    by_cases same : other = objectId
    · subst same
      rw [Function.update_self] at found
      cases found
      exact Nat.lt_succ_self _
    · rw [Function.update_of_ne same] at found
      exact Nat.lt_succ_of_lt (self.known other group found)

/-- Put a changed group back; it keeps its document. -/
def AllGroup.modify (self : AllGroup User) (objectId : String) (group changed : CollabGroup User)
    (found : self.getGroup objectId = some group) (same : changed.collab = group.collab) : AllGroup User where
  groupByObjectId := Function.update self.groupByObjectId objectId (some changed)
  created := self.created
  known := by
    intro other found' present
    by_cases here : other = objectId
    · subst here
      rw [Function.update_self] at present
      cases present
      rw [same]
      exact self.known other group found
    · rw [Function.update_of_ne here] at present
      exact self.known other found' present

def AllGroup.removeUser (self : AllGroup User) (objectId : String) (user : User) :
    AllGroup User × Option Subscription :=
  match found : self.getGroup objectId with
  | some group => (self.modify objectId group (group.removeUser user).1 found rfl, (group.removeUser user).2)
  | none => (self, none)

def AllGroup.subscribe [RealtimeUser User] (self : AllGroup User) (objectId : String) (user : User)
    (sub : Subscription) : AllGroup User × Option Subscription :=
  match found : self.getGroup objectId with
  | some group =>
    (self.modify objectId group (group.subscribe user sub).1 found (group.subscribe_collab user sub),
      (group.subscribe user sub).2)
  | none => (self, none)

theorem AllGroup.removeUser_other (self : AllGroup User) {objectId other : String} (user : User)
    (different : other ≠ objectId) : (self.removeUser objectId user).1.getGroup other = self.getGroup other := by
  rw [AllGroup.removeUser]
  split
  · exact Function.update_of_ne different _ _
  · rfl

theorem AllGroup.removeUser_containsUser (self : AllGroup User) (objectId : String) (user : User) :
    (self.removeUser objectId user).1.containsUser objectId user = false := by
  rw [AllGroup.removeUser]
  split
  · rename_i group found
    simp [AllGroup.modify, AllGroup.containsUser, AllGroup.getGroup]
  · rename_i absent
    rw [AllGroup.containsUser, absent]

theorem AllGroup.subscribe_other [RealtimeUser User] (self : AllGroup User) {objectId other : String}
    (user : User) (sub : Subscription)
    (different : other ≠ objectId) : (self.subscribe objectId user sub).1.getGroup other = self.getGroup other := by
  rw [AllGroup.subscribe]
  split
  · exact Function.update_of_ne different _ _
  · rfl

theorem AllGroup.subscribe_found [RealtimeUser User] {self : AllGroup User} {objectId : String}
    {group : CollabGroup User}
    (found : self.getGroup objectId = some group) (user : User) (sub : Subscription) :
    (self.subscribe objectId user sub).1.getGroup objectId = some (group.subscribe user sub).1 := by
  rw [AllGroup.subscribe]
  split
  · rename_i other present
    rw [found] at present
    cases present
    exact Function.update_self _ _ _
  · rename_i absent
    rw [found] at absent
    cases absent

omit [DecidableEq User] in
theorem AllGroup.createGroup_found (self : AllGroup User) (workspaceId objectId : String) (collabType : CollabType) :
    (self.createGroup workspaceId objectId collabType).getGroup objectId =
      some (.new workspaceId objectId collabType self.created) :=
  Function.update_self _ _ _

omit [DecidableEq User] in
theorem AllGroup.createGroup_other (self : AllGroup User) {objectId other : String} (workspaceId : String)
    (collabType : CollabType) (different : other ≠ objectId) :
    (self.createGroup workspaceId objectId collabType).getGroup other = self.getGroup other :=
  Function.update_of_ne different _ _

end AllGroup

end FlowCloud.Server
