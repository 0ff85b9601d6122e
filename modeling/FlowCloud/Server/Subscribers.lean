import FlowCloud.Foundation.Decimal
import FlowCloud.Foundation.Runs
import FlowCloud.Server.Group

/-! # One subscriber for each device

A group finds the last user of a device by a text made of the user's uid and the device's
id.  No two devices have the same text, so a subscription takes the place of the one of its
own device and of no other.
-/

namespace FlowCloud.Server

open FlowCloud.Foundation FlowCloud.Entity

variable {User : Type} [RealtimeUser User]

def SameDevice (first second : User) : Prop :=
  RealtimeUser.uid first = RealtimeUser.uid second ∧ RealtimeUser.deviceId first = RealtimeUser.deviceId second

theorem sameDevice_refl (user : User) : SameDevice user user := ⟨rfl, rfl⟩

theorem userDevice_eq_iff {first second : User} : userDevice first = userDevice second ↔ SameDevice first second := by
  constructor
  · intro same
    have chars := congrArg String.toList same
    simp only [userDevice, String.toList_append, List.append_assoc] at chars
    obtain ⟨uids, devices⟩ := toString_int_hyphen_injective chars
    exact ⟨uids, String.toList_inj.mp devices⟩
  · rintro ⟨uids, devices⟩
    rw [userDevice, userDevice, uids, devices]

/-! ## Calls on a group -/

inductive GroupCall (User : Type) where
  | subscribe (user : User) (sub : Subscription)
  | removeUser (user : User)

def GroupCall.user : GroupCall User → User
  | subscribe user _ => user
  | removeUser user => user

/-- A group and the subscriptions that were stopped, the last one at the end. -/
structure GroupHistory (User : Type) where
  group : CollabGroup User
  stopped : List Subscription

namespace GroupHistory

variable [DecidableEq User]

def start (group : CollabGroup User) : GroupHistory User := ⟨group, []⟩

def step (self : GroupHistory User) : GroupCall User → GroupHistory User
  | .subscribe user sub =>
    ⟨(self.group.subscribe user sub).1, self.stopped ++ (self.group.subscribe user sub).2.toList⟩
  | .removeUser user => ⟨(self.group.removeUser user).1, self.stopped ++ (self.group.removeUser user).2.toList⟩

end GroupHistory

/-! ## The two maps -/

/-- The second map knows every subscriber under the text of his device, and nobody under another
    one.  It may still know users who have left. -/
structure Indexed (group : CollabGroup User) : Prop where
  known : ∀ user, group.containsUser user = true → group.userByUserDevice (userDevice user) = some user
  named : ∀ device user, group.userByUserDevice device = some user → userDevice user = device

def OnePerDevice (group : CollabGroup User) : Prop :=
  ∀ first second, group.containsUser first = true → group.containsUser second = true → SameDevice first second →
    first = second

theorem Indexed.onePerDevice {group : CollabGroup User} (indexed : Indexed group) : OnePerDevice group := by
  intro first second firstHeld secondHeld same
  have found := indexed.known first firstHeld
  rw [userDevice_eq_iff.mpr same, indexed.known second secondHeld] at found
  exact (Option.some.inj found).symm

theorem indexed_new (workspaceId objectId : String) (collabType : CollabType) (collab : Nat) :
    Indexed (CollabGroup.new workspaceId objectId collabType collab : CollabGroup User) where
  known := by simp [CollabGroup.containsUser, CollabGroup.new]
  named := by simp [CollabGroup.new]

variable [DecidableEq User] {group : CollabGroup User}

omit [RealtimeUser User] in
theorem removeUser_subscribers_of_ne (user : User) {other : User} (differs : other ≠ user) :
    (group.removeUser user).1.subscribers other = group.subscribers other :=
  Function.update_of_ne differs _ _

theorem Indexed.removeUser (indexed : Indexed group) (user : User) : Indexed (group.removeUser user).1 where
  known := by
    intro other held
    by_cases same : other = user
    · subst same
      simp at held
    · rw [CollabGroup.containsUser, removeUser_subscribers_of_ne user same] at held
      exact indexed.known other held
  named := indexed.named

/-! ## Making room -/

/-- The group from which the last user of the device has been removed. -/
def makeRoom (group : CollabGroup User) (user : User) : CollabGroup User × Option Subscription :=
  match group.userByUserDevice (userDevice user) with
  | some old => group.removeUser old
  | none => (group, none)

theorem subscribe_eq (group : CollabGroup User) (user : User) (sub : Subscription) :
    group.subscribe user sub =
      ({ (makeRoom group user).1 with
          userByUserDevice := Function.update (makeRoom group user).1.userByUserDevice (userDevice user) (some user)
          subscribers := Function.update (makeRoom group user).1.subscribers user (some sub) },
        (makeRoom group user).2) := rfl

theorem Indexed.makeRoom (indexed : Indexed group) (user : User) : Indexed (makeRoom group user).1 := by
  rw [Server.makeRoom]
  split
  · exact indexed.removeUser _
  · exact indexed

theorem Indexed.makeRoom_same (indexed : Indexed group) {user other : User} (same : SameDevice other user) :
    (Server.makeRoom group user).1.containsUser other = false := by
  by_contra held
  rw [Bool.not_eq_false] at held
  have remaining := indexed.makeRoom user
  have found := remaining.known other held
  rw [userDevice_eq_iff.mpr same] at found
  cases last : group.userByUserDevice (userDevice user) with
  | none => simp [Server.makeRoom, last] at found
  | some old =>
    -- the one who is left is the one who was removed
    simp only [Server.makeRoom, last, CollabGroup.removeUser, Option.some.injEq] at found held
    subst found
    simp [CollabGroup.containsUser] at held

theorem Indexed.makeRoom_stopped (indexed : Indexed group) {user other : User} (same : SameDevice other user)
    {old : Subscription} (held : group.subscribers other = some old) : (Server.makeRoom group user).2 = some old := by
  have found := indexed.known other (by simp [CollabGroup.containsUser, held])
  rw [userDevice_eq_iff.mpr same] at found
  simp only [Server.makeRoom, found, CollabGroup.removeUser, held]

theorem Indexed.makeRoom_other (indexed : Indexed group) {user other : User} (apart : ¬ SameDevice other user) :
    (Server.makeRoom group user).1.subscribers other = group.subscribers other := by
  rw [Server.makeRoom]
  split
  · rename_i old last
    apply removeUser_subscribers_of_ne
    rintro rfl
    exact apart (userDevice_eq_iff.mp (indexed.named _ _ last))
  · rfl

theorem Indexed.subscribe (indexed : Indexed group) (user : User) (sub : Subscription) :
    Indexed (group.subscribe user sub).1 where
  known := by
    intro other held
    rw [subscribe_eq] at held ⊢
    by_cases same : SameDevice other user
    · -- nobody of the device was left
      have absent := indexed.makeRoom_same same
      by_cases own : other = user
      · subst own
        simp
      · simp only [CollabGroup.containsUser, Function.update_of_ne own] at held
        rw [CollabGroup.containsUser, held] at absent
        cases absent
    · have differs : other ≠ user := by
        rintro rfl
        exact same (sameDevice_refl other)
      have devices : userDevice other ≠ userDevice user := fun equal => same (userDevice_eq_iff.mp equal)
      simp only [CollabGroup.containsUser, Function.update_of_ne differs] at held
      simp only [Function.update_of_ne devices]
      exact (indexed.makeRoom user).known other held
  named := by
    intro device other found
    rw [subscribe_eq] at found
    by_cases same : device = userDevice user
    · subst same
      simp only [Function.update_self, Option.some.injEq] at found
      rw [found]
    · simp only [Function.update_of_ne same] at found
      exact (indexed.makeRoom user).named device other found

theorem Indexed.step {history : GroupHistory User} (indexed : Indexed history.group) (call : GroupCall User) :
    Indexed (history.step call).group := by
  cases call with
  | subscribe user sub => exact indexed.subscribe user sub
  | removeUser user => exact indexed.removeUser user

theorem Indexed.step_other {history : GroupHistory User} (indexed : Indexed history.group) (call : GroupCall User)
    {other : User} (apart : ¬ SameDevice other call.user) :
    (history.step call).group.subscribers other = history.group.subscribers other := by
  have differs : other ≠ call.user := by
    rintro rfl
    exact apart (sameDevice_refl _)
  cases call with
  | subscribe user sub => exact (Function.update_of_ne differs _ _).trans (indexed.makeRoom_other apart)
  | removeUser user => exact removeUser_subscribers_of_ne user differs

/-! ## Over any calls -/

/-- After any calls a device has one subscription at most.  A new one of the same device stops it,
    and no call touches those of other devices. -/
theorem one_subscriber_per_device (workspaceId objectId : String) (collabType : CollabType) (collab : Nat)
    (calls : List (GroupCall User)) :
    let history := run GroupHistory.step (.start (.new workspaceId objectId collabType collab)) calls
    OnePerDevice history.group ∧
      (∀ user sub other old, SameDevice other user → history.group.subscribers other = some old →
        (history.step (.subscribe user sub)).stopped = history.stopped ++ [old]) ∧
      (∀ call other, ¬ SameDevice other call.user →
        (history.step call).group.subscribers other = history.group.subscribers other) := by
  intro history
  have indexed : Indexed history.group :=
    @run_invariant _ _ GroupHistory.step (fun history => Indexed history.group)
      (fun _ call indexed => indexed.step call) _ (indexed_new ..) calls
  refine ⟨indexed.onePerDevice, ?_, fun call other apart => indexed.step_other call apart⟩
  intro user sub other old same held
  show history.stopped ++ (makeRoom history.group user).2.toList = _
  rw [indexed.makeRoom_stopped same held]
  rfl

end FlowCloud.Server
