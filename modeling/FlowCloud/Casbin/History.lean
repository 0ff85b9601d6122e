import FlowCloud.Casbin.Enforcer

/-! # Histories of policy updates

A history is any sequence of `update_policy` and `remove_policy` calls.  The abstract
account of it keeps one role or level for each user and object, the one granted last; the
enforcer keeps every row it was ever given.  The two agree exactly on the histories in
which no grant is ever replaced by another or taken back.
-/

namespace FlowCloud.Casbin

open FlowCloud.Foundation FlowCloud.Entity

inductive PolicyCall where
  | update (uid : Int) (object : ObjectType) (action : ActionVariant)
  | remove (uid : Int) (object : ObjectType)
  deriving DecidableEq

def AFEnforcer.call (self : AFEnforcer) : PolicyCall → AFEnforcer
  | .update uid object action =>
    match self.updatePolicy uid object action with
    | .ok next => next
    | .error _ => self
  | .remove uid object =>
    match self.removePolicy uid object with
    | .ok next => next
    | .error _ => self

def AFEnforcer.run (self : AFEnforcer) (calls : List PolicyCall) : AFEnforcer :=
  calls.foldl AFEnforcer.call self

def Accepted (calls : List PolicyCall) (uid : Int) (object : ObjectType) (action : ActionVariant) : Prop :=
  .update uid object action ∈ calls ∧ validateObjAction object action = .ok ()

theorem mem_call {self : AFEnforcer} {call : PolicyCall} {rule : Rule} :
    rule ∈ (self.call call).enforcer.policies ↔
      rule ∈ self.enforcer.policies ∨
        ∃ uid object action, Accepted [call] uid object action ∧ rule = policyRule uid object action.toAction := by
  cases call with
  | remove uid object =>
    simp [AFEnforcer.call, removePolicy_eq, Accepted]
  | update uid object action =>
    cases valid : validateObjAction object action with
    | error failure =>
      have rejected : self.updatePolicy uid object action = .error failure := by
        rw [AFEnforcer.updatePolicy, valid]
        rfl
      simp only [AFEnforcer.call, rejected, Accepted, List.mem_singleton, PolicyCall.update.injEq]
      refine ⟨.inl, ?_⟩
      rintro (member | ⟨_, _, _, ⟨⟨rfl, rfl, rfl⟩, accepted⟩, _⟩)
      · exact member
      · rw [valid] at accepted
        cases accepted
    | ok accepted =>
      have accepts : ∃ next, self.updatePolicy uid object action = .ok next := updatePolicy_of_valid valid
      obtain ⟨next, updated⟩ := accepts
      obtain ⟨_, _, rows⟩ := updatePolicy_cases updated
      simp only [AFEnforcer.call, updated, rows]
      refine or_congr_right ⟨fun same => ⟨uid, object, action, ⟨by simp, valid⟩, same⟩, ?_⟩
      rintro ⟨_, _, _, ⟨only, _⟩, same⟩
      simp only [List.mem_singleton, PolicyCall.update.injEq] at only
      obtain ⟨rfl, rfl, rfl⟩ := only
      exact same

theorem mem_run {self : AFEnforcer} {calls : List PolicyCall} {rule : Rule} :
    rule ∈ (self.run calls).enforcer.policies ↔
      rule ∈ self.enforcer.policies ∨
        ∃ uid object action, Accepted calls uid object action ∧ rule = policyRule uid object action.toAction := by
  -- by induction on the calls, for every table they start from
  induction calls generalizing self with
  | nil => simp [AFEnforcer.run, Accepted]
  | cons call calls inductionHypothesis =>
    change rule ∈ ((self.call call).run calls).enforcer.policies ↔ _
    rw [inductionHypothesis, mem_call, or_assoc]
    refine or_congr_right ?_
    simp only [Accepted, List.mem_cons, List.not_mem_nil, or_false]
    constructor
    · rintro (⟨uid, object, action, ⟨first, valid⟩, same⟩ | ⟨uid, object, action, ⟨later, valid⟩, same⟩)
      · exact ⟨uid, object, action, ⟨.inl first, valid⟩, same⟩
      · exact ⟨uid, object, action, ⟨.inr later, valid⟩, same⟩
    · rintro ⟨uid, object, action, ⟨first | later, valid⟩, same⟩
      · exact .inl ⟨uid, object, action, ⟨first, valid⟩, same⟩
      · exact .inr ⟨uid, object, action, ⟨later, valid⟩, same⟩

/-! ## The abstract account -/

/-- For each user and object the role or level that counts. -/
abbrev GrantMap := Int → ObjectType → Option String

def GrantMap.set (grants : GrantMap) (uid : Int) (object : ObjectType) (code : Option String) : GrantMap :=
  fun otherUid otherObject => if otherUid = uid ∧ otherObject = object then code else grants otherUid otherObject

def GrantMap.call (grants : GrantMap) : PolicyCall → GrantMap
  | .update uid object action =>
    match validateObjAction object action with
    | .ok _ => grants.set uid object (some action.toAction)
    | .error _ => grants
  | .remove uid object => grants.set uid object none

/-- The last grant of each pair in the history, none if it was removed later. -/
def lastGrant (calls : List PolicyCall) : GrantMap :=
  calls.foldl GrantMap.call fun _ _ => none

theorem accepted_of_lastGrant {calls : List PolicyCall} {uid : Int} {object : ObjectType} {code : String}
    (last : lastGrant calls uid object = some code) :
    ∃ action, Accepted calls uid object action ∧ action.toAction = code := by
  -- the last call decides, so the induction takes calls off the end
  induction calls using List.reverseRecOn with
  | nil => cases last
  | append_singleton calls call inductionHypothesis =>
    have weaken : (∃ action, Accepted calls uid object action ∧ action.toAction = code) →
        ∃ action, Accepted (calls ++ [call]) uid object action ∧ action.toAction = code := by
      rintro ⟨action, ⟨member, valid⟩, same⟩
      exact ⟨action, ⟨List.mem_append_left _ member, valid⟩, same⟩
    rw [lastGrant, List.foldl_append] at last
    change (lastGrant calls).call call uid object = some code at last
    cases call with
    -- a removal leaves the pair's last grant only when it is about another pair
    | remove otherUid otherObject =>
      simp only [GrantMap.call, GrantMap.set] at last
      split at last
      · cases last
      · exact weaken (inductionHypothesis last)
    | update otherUid otherObject action =>
      cases valid : validateObjAction otherObject action with
      | error failure =>
        simp only [GrantMap.call, valid] at last
        exact weaken (inductionHypothesis last)
      | ok accepted =>
        simp only [GrantMap.call, valid, GrantMap.set] at last
        split at last
        · rename_i samePair
          obtain ⟨rfl, rfl⟩ := samePair
          exact ⟨action, ⟨List.mem_append_right _ (by simp), valid⟩, Option.some.inj last⟩
        · exact weaken (inductionHypothesis last)

/-! ## When the last grant wins -/

def AFEnforcer.pairRules (self : AFEnforcer) (uid : Int) (object : ObjectType) : List Rule :=
  self.enforcer.policies.filtered fun rule => decide (IsPairRule uid object rule)

/-- The table agrees with the abstract account: for each pair the row of the last grant and
    no other. -/
def LastGrantWins (self : AFEnforcer) (calls : List PolicyCall) : Prop :=
  ∀ uid object, (self.run calls).pairRules uid object =
    ((lastGrant calls uid object).map (policyRule uid object)).toList

/-- No accepted update was overruled: the role or level it gave is the pair's last grant. -/
def NeverOverruled (calls : List PolicyCall) : Prop :=
  ∀ uid object action, Accepted calls uid object action → lastGrant calls uid object = some action.toAction

theorem mem_pairRules_run {enforceGroup : Int → Option String} {calls : List PolicyCall} {uid : Int}
    {object : ObjectType} {rule : Rule} :
    rule ∈ ((AFEnforcer.new .empty enforceGroup).run calls).pairRules uid object ↔
      ∃ action, Accepted calls uid object action ∧ rule = policyRule uid object action.toAction := by
  rw [AFEnforcer.pairRules, RuleTable.mem_filtered, mem_run, decide_eq_true_eq]
  constructor
  · rintro ⟨(old | ⟨_, _, action, accepted, rfl⟩), pair⟩
    · exact absurd old (RuleTable.not_mem_empty rule)
    · obtain ⟨rfl, rfl⟩ := isPairRule_policyRule.mp pair
      exact ⟨action, accepted, rfl⟩
  · rintro ⟨action, accepted, rfl⟩
    exact ⟨.inr ⟨uid, object, action, accepted, rfl⟩, isPairRule_policyRule.mpr ⟨rfl, rfl⟩⟩

/-- Starting from no policies, a history leaves exactly the last grants if and only if no
    accepted update in it was overruled. -/
theorem lastGrantWins_iff (enforceGroup : Int → Option String) (calls : List PolicyCall) :
    LastGrantWins (AFEnforcer.new .empty enforceGroup) calls ↔ NeverOverruled calls := by
  constructor
  · intro wins uid object action accepted
    -- the row of an accepted update is in the table, so it is the one of the last grant
    have present : policyRule uid object action.toAction ∈
        ((AFEnforcer.new .empty enforceGroup).run calls).pairRules uid object :=
      mem_pairRules_run.mpr ⟨action, accepted, rfl⟩
    rw [wins uid object] at present
    simp only [Option.mem_toList, Option.map_eq_some_iff] at present
    obtain ⟨code, last, same⟩ := present
    rw [last, policyRule_action_injective same]
  · intro steady uid object
    cases last : lastGrant calls uid object with
    | none =>
      -- without a last grant no update was accepted, so the pair has no row
      rw [Option.map_none, Option.toList_none, List.eq_nil_iff_forall_not_mem]
      intro rule member
      obtain ⟨action, accepted, _⟩ := mem_pairRules_run.mp member
      rw [steady uid object action accepted] at last
      cases last
    | some code =>
      rw [Option.map_some, Option.toList_some]
      obtain ⟨action, accepted, rfl⟩ := accepted_of_lastGrant last
      -- every accepted update gave the same code, so their rows are one
      apply RuleTable.filtered_eq_singleton
      · exact mem_pairRules_run.mpr ⟨action, accepted, rfl⟩
      · intro other member
        obtain ⟨otherAction, otherAccepted, rfl⟩ := mem_pairRules_run.mp member
        have sameCode := (steady uid object otherAction otherAccepted).symm.trans last
        rw [Option.some.inj sameCode]

/-- User 1 is given full access to `doc` and then lowered to read only. -/
def loweredLevel : List PolicyCall :=
  [.update 1 (.collab "doc") (.fromAccessLevel .fullAccess), .update 1 (.collab "doc") (.fromAccessLevel .readOnly)]

/-- After the level is lowered the row of the higher level is still there. -/
theorem lowered_level_keeps_old_row :
    ¬ ∀ (enforceGroup : Int → Option String) (calls : List PolicyCall),
      LastGrantWins (AFEnforcer.new .empty enforceGroup) calls := by
  intro wins
  have stale : policyRule 1 (.collab "doc") (levelAction .fullAccess) ∈
      ((AFEnforcer.new .empty noEnforceGroup).run loweredLevel).pairRules 1 (.collab "doc") :=
    mem_pairRules_run.mpr ⟨.fromAccessLevel .fullAccess, ⟨List.mem_cons_self, rfl⟩, rfl⟩
  rw [wins noEnforceGroup loweredLevel 1 (.collab "doc")] at stale
  have only := List.mem_singleton.mp stale
  exact absurd (policyRule_action_injective only) (by decide)

end FlowCloud.Casbin
