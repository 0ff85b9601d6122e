import Mathlib.Data.List.Basic

/-! # Relations between different positions of a list

For lists whose items are changed in place, where a fact holds of every two of them.
-/

namespace FlowCloud.Foundation

variable {Item : Type}

/-- Items at different positions are related, in both directions. -/
def Apart (Related : Item → Item → Prop) (items : List Item) : Prop :=
  ∀ (first second : Nat) (left right : Item), items[first]? = some left → items[second]? = some right →
    first ≠ second → Related left right

theorem apart_nil (Related : Item → Item → Prop) : Apart Related [] := by
  intro first second left right found
  rw [List.getElem?_nil] at found
  cases found

variable {Related : Item → Item → Prop} {items : List Item} {value : Item}

theorem Apart.set (apart : Apart Related items) {index : Nat}
    (others : ∀ (position : Nat) (item : Item), position ≠ index → items[position]? = some item →
      Related item value ∧ Related value item) : Apart Related (items.set index value) := by
  intro first second left right foundLeft foundRight differs
  rw [List.getElem?_set] at foundLeft foundRight
  split at foundLeft
  · rename_i same
    subst same
    rw [if_neg differs] at foundRight
    split at foundLeft
    · obtain rfl := Option.some.inj foundLeft
      exact (others second right (Ne.symm differs) foundRight).2
    · cases foundLeft
  · rename_i left
    split at foundRight
    · rename_i same
      subst same
      split at foundRight
      · obtain rfl := Option.some.inj foundRight
        exact (others first _ differs foundLeft).1
      · cases foundRight
    · exact apart first second _ right foundLeft foundRight differs

theorem Apart.concat (apart : Apart Related items)
    (others : ∀ item ∈ items, Related item value ∧ Related value item) : Apart Related (items ++ [value]) := by
  have related : ∀ (position : Nat) (item : Item), (items ++ [value])[position]? = some item →
      items[position]? = some item ∨ position = items.length ∧ item = value := by
    intro position item found
    rw [List.getElem?_append] at found
    split at found
    · exact .inl found
    · rename_i beyond
      have last : position - items.length = 0 := by
        by_contra later
        rw [List.getElem?_eq_none (by simp; omega)] at found
        cases found
      rw [last] at found
      exact .inr ⟨by omega, (Option.some.inj found).symm⟩
  intro first second left right foundLeft foundRight differs
  rcases related first left foundLeft with before | ⟨rfl, rfl⟩
  · rcases related second right foundRight with later | ⟨_, rfl⟩
    · exact apart first second left right before later differs
    · exact (others left (List.mem_of_getElem? before)).1
  · rcases related second right foundRight with later | ⟨rfl, _⟩
    · exact (others right (List.mem_of_getElem? later)).2
    · exact absurd rfl differs

end FlowCloud.Foundation
