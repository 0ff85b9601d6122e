import FlowCloud.Tasks.Steps

/-! # The inactivity sweep

A tick collects the inactive groups and removes them one after the other without a look at
their subscribers.  Nothing suspends between the look and the removal, so nobody subscribes in
between, and no other step takes a group out of the map.
-/

namespace FlowCloud.Tasks

open FlowCloud.Foundation FlowCloud.Entity FlowCloud.Server

section Server

variable {User : Type} [DecidableEq User] [RealtimeUser User]

namespace Server

/-- The groups that the step removes from the map have no subscriber. -/
def RemovesUnused (self : Server User) (event : Event User) : Prop :=
  ∀ objectId group, self.groupByObjectId objectId = some group →
    (self.step event).groupByObjectId objectId = none → group.subscribers = []

/-! ## Everything but the sweep keeps every group -/

def KeepsGroups (before after : Server User) : Prop :=
  ∀ objectId, after.groupByObjectId objectId = none → before.groupByObjectId objectId = none

omit [DecidableEq User] [RealtimeUser User] in
theorem keepsGroups_modifyGroup (self : Server User) (objectId : String) (change : Group User → Group User) :
    KeepsGroups self (self.modifyGroup objectId change) := by
  intro other gone
  simp only [modifyGroup, setGroup, Function.update_apply] at gone
  split at gone
  · next same => simpa [same] using gone
  · exact gone

omit [DecidableEq User] [RealtimeUser User] in
theorem keepsGroups_createGroup (self : Server User) (objectId : String) :
    KeepsGroups self (self.createGroup objectId) := by
  intro other gone
  simp only [createGroup, setGroup, Function.update_apply] at gone
  split at gone
  · cases gone
  · exact gone

theorem runRunner_keepsGroups (self : Server User) (number : Nat) (received : Bool) :
    KeepsGroups self (self.runRunner number received) := by
  have kept : KeptByRunner number (@KeepsGroups User) := {
    refl := fun _ _ gone => gone
    trans := fun _ _ _ left right objectId gone => left objectId (right objectId gone)
    setState := fun _ _ _ gone => gone
    removeStream := fun _ _ _ gone => gone
    setEditing := fun _ _ _ _ gone => gone
    modifyGroup := fun server objectId change _ => keepsGroups_modifyGroup server objectId change }
  exact kept.runRunner (fun _ _ _ _ _ _ _ gone => gone) keepsGroups_createGroup self received

omit [RealtimeUser User] in
theorem removeUser_keepsGroups (self : Server User) (future : Nat) (user : User) (editings : List Editing)
    (after : After User) : KeepsGroups self (self.removeUser future user editings after) := by
  apply removeUser_cases
  · intro _
    cases after <;> exact fun _ gone => gone
  · intro _ editing _ _ _ _
    exact keepsGroups_modifyGroup self editing.objectId fun group => group.removeUser user

omit [RealtimeUser User] in
theorem beginRemoveUser_keepsGroups (self : Server User) (user : User) (order : List Editing) (after : After User) :
    KeepsGroups self (self.beginRemoveUser user order after) :=
  removeUser_keepsGroups (self.takeEditing user) self.started user
    (visit order (self.editingCollabByUser user)) after

omit [DecidableEq User] [RealtimeUser User] in
theorem send_keepsGroups (self : Server User) (future number : Nat) (command : GroupCommand User) :
    KeepsGroups self (self.send future number command) := by
  unfold send
  split
  · exact fun _ gone => gone
  · split <;> exact fun _ gone => gone

theorem step_keepsGroups (self : Server User) (event : Event User)
    (noTick : ∀ order elapsed, event ≠ .tick order elapsed) : KeepsGroups self (self.step event) := by
  cases event with
  | connect user order =>
    rw [step, connect]
    cases self.userByDevice (.from user) with
    | none => exact fun _ gone => gone
    | some oldUser =>
      exact beginRemoveUser_keepsGroups ((self.register user).setStream oldUser none) oldUser order
        (.insertStream user self.sessions)
  | disconnect user session order =>
    apply disconnect_cases
    · intro _ _ _
      exact fun _ gone => gone
    · intro _
      exact beginRemoveUser_keepsGroups self user order _
  | message user objectId collabMessages =>
    rw [step, processClientCollabMessage]
    cases self.groupSenderByObjectId objectId <;> exact fun _ gone => gone
  | getEncodeCollab objectId =>
    rw [step, getEncodeCollab]
    cases self.groupSenderByObjectId objectId <;> exact fun _ gone => gone
  | poll future =>
    rw [step, pollFuture]
    split
    · exact fun _ gone => gone
    · exact removeUser_keepsGroups self future _ _ _
    · exact send_keepsGroups self future _ _
  | runner number received => exact runRunner_keepsGroups self number received
  | tick order elapsed => exact absurd rfl (noTick order elapsed)

/-! ## The sweep -/

omit [RealtimeUser User] in
/-- Each group is without a subscriber when its turn comes. -/
theorem removeGroups_unused {self : Server User} {order : List String} {elapsed : String → Bool}
    {removed remaining : List String} {objectId : String}
    (collected : self.inactiveGroupIds order elapsed = removed ++ objectId :: remaining) (user : User) :
    (self.removeGroups removed).containsUser objectId user = false := by
  have mem : objectId ∈ self.inactiveGroupIds order elapsed := by simp [collected]
  have nobody := containsUser_of_isInactive (mem_inactiveGroupIds mem) user
  rw [containsUser, removeGroups_groupByObjectId]
  split
  · next group found =>
    split at found
    · cases found
    · simpa [containsUser, found] using nobody
  · rfl

omit [RealtimeUser User] in
/-- A tick leaves every subscriber in his group. -/
theorem tick_containsUser (self : Server User) (order : List String) (elapsed : String → Bool) (objectId : String)
    (user : User) : (self.tick order elapsed).containsUser objectId user = self.containsUser objectId user := by
  by_cases collected : objectId ∈ self.inactiveGroupIds order elapsed
  case pos =>
    rw [containsUser_of_isInactive (mem_inactiveGroupIds collected)]
    simp [containsUser, tick_groupByObjectId, collected]
  case neg => simp [containsUser, tick_groupByObjectId, collected]

theorem step_removesUnused (self : Server User) (event : Event User) : self.RemovesUnused event := by
  intro objectId group found gone
  by_cases noTick : ∀ order elapsed, event ≠ .tick order elapsed
  case pos =>
    have missing := step_keepsGroups self event noTick objectId gone
    cases missing.symm.trans found
  case neg =>
    obtain ⟨order, elapsed, rfl⟩ : ∃ order elapsed, event = .tick order elapsed := by simpa using noTick
    refine List.eq_nil_iff_forall_not_mem.mpr fun user subscribed => ?_
    have kept : self.containsUser objectId user = false := by
      rw [← tick_containsUser self order elapsed]
      change (self.step (.tick order elapsed)).containsUser objectId user = false
      simp only [containsUser, gone]
    simp [containsUser, found, Group.containsUser, subscribed] at kept

/-- In every run, every group that is removed is without a subscriber. -/
theorem sweep_removes_unused (events : List (Event User)) : Always step RemovesUnused new events :=
  always_iff.mpr fun first event _ _ => step_removesUnused (run step new first) event

end Server

end Server

end FlowCloud.Tasks
