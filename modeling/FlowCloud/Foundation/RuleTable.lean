import Mathlib.Data.List.Nodup

/-! # Rule tables and role links

The storage side of a rule-based policy engine, over an arbitrary type of rules:
an insertion-ordered table without duplicates, the bulk operations on it, and the
depth-bounded inheritance search that decides whether one role implies another.
Nothing here knows what a rule says; an engine instantiates `Rule` and supplies
the matcher.
-/

namespace FlowCloud.Foundation

structure RuleTable (Rule : Type) where
  rules : List Rule
  nodup : rules.Nodup

namespace RuleTable

variable {Rule : Type}

instance : Membership Rule (RuleTable Rule) := ⟨fun table rule => rule ∈ table.rules⟩

theorem mem_def {table : RuleTable Rule} {rule : Rule} : rule ∈ table ↔ rule ∈ table.rules := Iff.rfl

def empty : RuleTable Rule := ⟨[], List.nodup_nil⟩

@[simp] theorem not_mem_empty (rule : Rule) : ¬ rule ∈ (empty : RuleTable Rule) := List.not_mem_nil

/-- Does some rule satisfy the matcher?  This is the effect "some allow". -/
def allows (table : RuleTable Rule) (matcher : Rule → Bool) : Bool := table.rules.any matcher

theorem allows_iff {table : RuleTable Rule} {matcher : Rule → Bool} :
    table.allows matcher = true ↔ ∃ rule ∈ table, matcher rule = true :=
  List.any_eq_true

def filtered (table : RuleTable Rule) (keep : Rule → Bool) : List Rule := table.rules.filter keep

@[simp] theorem mem_filtered {table : RuleTable Rule} {keep : Rule → Bool} {rule : Rule} :
    rule ∈ table.filtered keep ↔ rule ∈ table ∧ keep rule = true :=
  List.mem_filter

theorem filtered_nodup (table : RuleTable Rule) (keep : Rule → Bool) : (table.filtered keep).Nodup :=
  table.nodup.filter keep

/-- A duplicate-free selection whose members are all one rule is that rule alone. -/
theorem filtered_eq_singleton {table : RuleTable Rule} {keep : Rule → Bool} {rule : Rule}
    (present : rule ∈ table.filtered keep) (only : ∀ other ∈ table.filtered keep, other = rule) :
    table.filtered keep = [rule] := by
  have nodup := table.filtered_nodup keep
  generalize table.filtered keep = selected at *
  match selected with
  | [] => cases present
  | [head] => rw [only head (by simp)]
  -- two members would be the same rule twice
  | first :: second :: rest =>
    have firstEqual := only first (by simp)
    have secondEqual := only second (by simp)
    subst firstEqual
    subst secondEqual
    simp at nodup

variable [DecidableEq Rule]

/-- Add a rule at the end; a rule that is already present is not added again. -/
def insert (table : RuleTable Rule) (rule : Rule) : RuleTable Rule :=
  if present : rule ∈ table.rules then table
  else ⟨table.rules ++ [rule], by
    rw [List.nodup_append]
    refine ⟨table.nodup, List.nodup_singleton rule, ?_⟩
    rintro other member same (_ | ⟨_, ⟨⟩⟩) rfl
    exact present member⟩

@[simp] theorem mem_insert {table : RuleTable Rule} {rule other : Rule} :
    other ∈ table.insert rule ↔ other ∈ table ∨ other = rule := by
  unfold insert
  split
  · rename_i present
    constructor
    · exact .inl
    · rintro (member | rfl)
      · exact member
      · exact present
  · simp [mem_def]

theorem insert_eq_self {table : RuleTable Rule} {rule : Rule} : table.insert rule = table ↔ rule ∈ table := by
  constructor
  · intro same
    rw [← same]
    exact mem_insert.mpr (.inr rfl)
  · exact fun present => dif_pos present

def insertAll (table : RuleTable Rule) (rules : List Rule) : RuleTable Rule := rules.foldl insert table

theorem mem_insertAll {table : RuleTable Rule} {rules : List Rule} {rule : Rule} :
    rule ∈ table.insertAll rules ↔ rule ∈ table ∨ rule ∈ rules := by
  induction rules generalizing table with
  | nil => simp [insertAll]
  | cons first rules inductionHypothesis =>
    change rule ∈ (table.insert first).insertAll rules ↔ _
    rw [inductionHypothesis, mem_insert, List.mem_cons, or_assoc]

theorem insertAll_append (table : RuleTable Rule) (first later : List Rule) :
    table.insertAll (first ++ later) = (table.insertAll first).insertAll later := List.foldl_append

/-- Nothing is added exactly if every rule is there already. -/
theorem insertAll_eq_self {table : RuleTable Rule} {rules : List Rule} :
    table.insertAll rules = table ↔ ∀ rule ∈ rules, rule ∈ table := by
  constructor
  · intro same rule member
    rw [← same]
    exact mem_insertAll.mpr (.inr member)
  · intro present
    induction rules with
    | nil => rfl
    | cons first rules inductionHypothesis =>
      rw [List.forall_mem_cons] at present
      show (table.insert first).insertAll rules = table
      rw [insert_eq_self.mpr present.1]
      exact inductionHypothesis present.2

/-- Remove a list of rules; the table stays as it is if one of them is absent. -/
def removeAll (table : RuleTable Rule) (doomed : List Rule) : RuleTable Rule :=
  if doomed.all (· ∈ table.rules) then
    ⟨table.rules.filter (· ∉ doomed), table.nodup.filter _⟩
  else table

end RuleTable

/-- Role inheritance: `child` reaches `parent` through at most `depth` links.  A role
    always inherits itself. -/
def hasLink (links : List (String × String)) : Nat → String → String → Bool
  | 0, child, parent => child == parent
  | depth + 1, child, parent =>
    child == parent || links.any fun link => link.1 == child && hasLink links depth link.2 parent

theorem hasLink_refl (links : List (String × String)) (depth : Nat) (role : String) :
    hasLink links depth role role = true := by
  cases depth <;> simp [hasLink]

/-- When no link starts where another ends, the search never goes past one link. -/
theorem hasLink_flat {links : List (String × String)}
    (flat : ∀ first ∈ links, ∀ second ∈ links, first.2 ≠ second.1) (depth : Nat)
    (child parent : String) :
    hasLink links (depth + 1) child parent = true ↔ child = parent ∨ (child, parent) ∈ links := by
  simp only [hasLink, Bool.or_eq_true, beq_iff_eq, List.any_eq_true, Bool.and_eq_true]
  refine or_congr_right ⟨?_, fun member => ⟨_, member, rfl, hasLink_refl links depth parent⟩⟩
  rintro ⟨⟨start, target⟩, member, rfl, reaches⟩
  -- the link's end starts no other link, so the search stops there
  have ends : target = parent := by
    cases depth with
    | zero => simpa [hasLink] using reaches
    | succ depth =>
      simp only [hasLink, Bool.or_eq_true, beq_iff_eq, List.any_eq_true, Bool.and_eq_true] at reaches
      cases reaches with
      | inl same => exact same
      | inr held =>
        obtain ⟨next, nextMember, starts, _⟩ := held
        exact absurd starts.symm (flat _ member _ nextMember)
  exact ends ▸ member

end FlowCloud.Foundation
