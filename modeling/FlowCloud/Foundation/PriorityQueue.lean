import Mathlib.Data.List.Pairwise
import Mathlib.Data.List.Perm.Basic

/-! # Priority queues

A priority queue is a list in no particular order; `popMax` takes out a greatest item.  Among
equal items the layout of the list decides, so what holds for every list holds however a
heap breaks its ties.
-/

namespace FlowCloud.Foundation

variable {Item : Type} (cmp : Item → Item → Ordering)

/-- Take out the first of the greatest items. -/
def popMax : List Item → Option (Item × List Item)
  | [] => none
  | head :: tail =>
    match popMax tail with
    | none => some (head, [])
    | some (top, rest) => if cmp top head = .gt then some (top, head :: rest) else some (head, tail)

def drain (queue : List Item) : List Item := go queue.length queue
where
  go : Nat → List Item → List Item
    | 0, _ => []
    | fuel + 1, queue =>
      match popMax cmp queue with
      | none => []
      | some (top, rest) => top :: go fuel rest

variable {cmp}

theorem popMax_eq_none {queue : List Item} : popMax cmp queue = none ↔ queue = [] := by
  cases queue with
  | nil => simp [popMax]
  | cons head tail =>
    refine iff_of_false ?_ (List.cons_ne_nil head tail)
    rw [popMax]
    cases popMax cmp tail with
    | none => simp
    | some popped =>
      simp only
      split <;> simp

/-- The popped item is the only one, the popped item of the tail, or the head. -/
theorem popMax_cons {head top : Item} {tail rest : List Item}
    (popped : popMax cmp (head :: tail) = some (top, rest)) :
    (tail = [] ∧ top = head ∧ rest = []) ∨
      (∃ others, popMax cmp tail = some (top, others) ∧ cmp top head = .gt ∧ rest = head :: others) ∨
      ∃ best others, popMax cmp tail = some (best, others) ∧ cmp best head ≠ .gt ∧ top = head ∧ rest = tail := by
  rw [popMax] at popped
  cases tailPopped : popMax cmp tail with
  | none =>
    rw [tailPopped] at popped
    cases popped
    exact .inl ⟨popMax_eq_none.mp tailPopped, rfl, rfl⟩
  | some found =>
    obtain ⟨best, others⟩ := found
    simp only [tailPopped] at popped
    by_cases greater : cmp best head = .gt
    · rw [if_pos greater] at popped
      cases popped
      exact .inr (.inl ⟨others, rfl, greater, rfl⟩)
    · rw [if_neg greater] at popped
      cases popped
      exact .inr (.inr ⟨best, others, rfl, greater, rfl, rfl⟩)

theorem popMax_perm {queue rest : List Item} {top : Item} (popped : popMax cmp queue = some (top, rest)) :
    (top :: rest).Perm queue := by
  induction queue generalizing top rest with
  | nil => cases popped
  | cons head tail inductionHypothesis =>
    rcases popMax_cons popped with ⟨rfl, rfl, rfl⟩ | ⟨others, tailPopped, _, rfl⟩ | ⟨best, others, _, _, rfl, rfl⟩
    · exact .refl _
    · -- the greatest item is behind the head: swap the two
      exact (List.Perm.swap head top others).trans ((inductionHypothesis tailPopped).cons head)
    · exact .refl _

theorem popMax_length {queue rest : List Item} {top : Item} (popped : popMax cmp queue = some (top, rest)) :
    rest.length + 1 = queue.length := (popMax_perm popped).length_eq

/-- What stays is below the popped item in every order that the comparison respects. -/
theorem popMax_below (Below : Item → Item → Prop)
    (through : ∀ first second third, Below first second → Below second third → Below first third)
    (above : ∀ left right, cmp left right = .gt → Below right left)
    (notAbove : ∀ left right, cmp left right ≠ .gt → Below left right)
    {queue rest : List Item} {top : Item} (popped : popMax cmp queue = some (top, rest)) :
    ∀ item ∈ rest, Below item top := by
  induction queue generalizing top rest with
  | nil => cases popped
  | cons head tail inductionHypothesis =>
    rcases popMax_cons popped with ⟨rfl, rfl, rfl⟩ | ⟨others, tailPopped, greater, rfl⟩ |
      ⟨best, others, tailPopped, notGreater, rfl, rfl⟩
    · exact List.forall_mem_nil _
    · exact List.forall_mem_cons.mpr ⟨above _ _ greater, inductionHypothesis tailPopped⟩
    · have bestBelow : Below best top := notAbove _ _ notGreater
      -- the tail is its best item and others below that one
      intro item member
      cases List.mem_cons.mp ((popMax_perm tailPopped).symm.subset member) with
      | inl same =>
        obtain rfl := same
        exact bestBelow
      | inr other => exact through _ _ _ (inductionHypothesis tailPopped item other) bestBelow

/-! ## Items that are popped one after the other -/

variable (cmp) in
/-- The items come out of the first queue in this order, and the last one is left. -/
inductive Popped : List Item → List Item → List Item → Prop where
  | stop (queue : List Item) : Popped queue [] queue
  | pop {queue rest items left : List Item} {top : Item} (popped : popMax cmp queue = some (top, rest))
      (later : Popped rest items left) : Popped queue (top :: items) left

theorem Popped.perm {queue items left : List Item} (popped : Popped cmp queue items left) :
    (items ++ left).Perm queue := by
  induction popped with
  | stop queue => exact .refl queue
  | @pop queue rest items left top popped later inductionHypothesis =>
    exact (inductionHypothesis.cons top).trans (popMax_perm popped)

theorem Popped.top {queue items left : List Item} {top : Item} (popped : Popped cmp queue (top :: items) left) :
    ∃ rest, popMax cmp queue = some (top, rest) := by
  cases popped with
  | pop popped _ => exact ⟨_, popped⟩

/-- What comes out first is above all that comes out later. -/
theorem Popped.pairwise {Above : Item → Item → Prop}
    (above : ∀ queue top rest, popMax cmp queue = some (top, rest) → ∀ item ∈ rest, Above top item)
    {queue items left : List Item} (popped : Popped cmp queue items left) : items.Pairwise Above := by
  induction popped with
  | stop queue => exact .nil
  | @pop queue rest items left top popped later inductionHypothesis =>
    refine .cons (fun item member => ?_) inductionHypothesis
    exact above queue top rest popped item (later.perm.subset (List.mem_append_left left member))

theorem Popped.append {queue items others left rest : List Item} (popped : Popped cmp queue items rest)
    (later : Popped cmp rest others left) : Popped cmp queue (items ++ others) left := by
  induction popped with
  | stop queue => exact later
  | pop top _ inductionHypothesis => exact .pop top (inductionHypothesis later)

theorem drain_go_popped {fuel : Nat} {queue : List Item} (enough : queue.length ≤ fuel) :
    Popped cmp queue (drain.go cmp fuel queue) [] := by
  induction fuel generalizing queue with
  | zero =>
    obtain rfl := List.length_eq_zero_iff.mp (Nat.le_zero.mp enough)
    exact .stop []
  | succ fuel inductionHypothesis =>
    rw [drain.go]
    cases popped : popMax cmp queue with
    | none =>
      obtain rfl := popMax_eq_none.mp popped
      exact .stop []
    | some found =>
      obtain ⟨top, rest⟩ := found
      -- each turn takes one item, so the fuel lasts
      have shorter : rest.length ≤ fuel := by
        have lengths := popMax_length popped
        omega
      exact .pop popped (inductionHypothesis shorter)

theorem drain_popped (queue : List Item) : Popped cmp queue (drain cmp queue) [] :=
  drain_go_popped (Nat.le_refl _)

theorem drain_perm (queue : List Item) : (drain cmp queue).Perm queue := by
  have popped : (drain cmp queue ++ []).Perm queue := (drain_popped queue).perm
  rwa [List.append_nil] at popped

variable (cmp) in
/-- Of the items that tie with a given one, both queues hold equally many. -/
def Alike (queue other : List Item) : Prop :=
  ∀ item, queue.countP (fun held => cmp item held = .eq) = other.countP fun held => cmp item held = .eq

theorem Alike.of_perm {queue other : List Item} (permuted : queue.Perm other) : Alike cmp queue other :=
  fun _ => permuted.countP_eq _

theorem Alike.symm {queue other : List Item} (alike : Alike cmp queue other) : Alike cmp other queue :=
  fun item => (alike item).symm

/-! ## Comparisons that order the items -/

section Trans

variable [Std.TransCmp cmp]

theorem popMax_isLE {queue rest : List Item} {top : Item} (popped : popMax cmp queue = some (top, rest)) :
    ∀ item ∈ rest, (cmp item top).isLE = true := by
  refine popMax_below (fun item other => (cmp item other).isLE = true)
    (fun _ _ _ below above => Std.TransCmp.isLE_trans below above) ?_ ?_ popped
  · intro left right greater
    rw [Std.OrientedCmp.lt_of_gt greater]
    rfl
  · exact fun left right notGreater => Ordering.isLE_iff_ne_gt.mpr notGreater

theorem Popped.descends {queue items left : List Item} (popped : Popped cmp queue items left) :
    items.Pairwise fun first second => (cmp second first).isLE = true :=
  popped.pairwise fun _ _ _ => popMax_isLE

/-- An item that is greater than all others is popped, whatever the layout. -/
theorem popMax_of_first {queue others : List Item} {item : Item} (queued : (item :: others).Perm queue)
    (first : ∀ other ∈ others, cmp item other = .gt) :
    ∃ rest, popMax cmp queue = some (item, rest) := by
  cases popped : popMax cmp queue with
  | none =>
    rw [popMax_eq_none] at popped
    subst popped
    exact absurd queued (List.not_perm_cons_nil)
  | some found =>
    obtain ⟨top, rest⟩ := found
    have split := (popMax_perm popped).trans queued.symm
    cases List.mem_cons.mp (split.symm.subset (.head _)) with
    | inl same =>
      obtain rfl := same
      exact ⟨rest, rfl⟩
    | inr behind =>
      rcases List.mem_cons.mp (split.subset (.head _)) with rfl | other
      · exact ⟨rest, rfl⟩
      · -- otherwise the popped item would be above and below it
        have below := popMax_isLE popped item behind
        rw [first top other] at below
        cases below

/-! ## Queues that differ in ties alone -/

/-- The greatest item of one queue is not above that of the other. -/
theorem Alike.top_isLE {queue other rest otherRest : List Item} {top otherTop : Item} (alike : Alike cmp queue other)
    (popped : popMax cmp queue = some (top, rest)) (otherPopped : popMax cmp other = some (otherTop, otherRest)) :
    (cmp top otherTop).isLE = true := by
  have counted : 0 < other.countP fun held => cmp top held = .eq := by
    rw [← alike top]
    apply List.countP_pos_iff.mpr
    exact ⟨top, (popMax_perm popped).subset List.mem_cons_self, by simp [Std.ReflCmp.compare_self]⟩
  obtain ⟨held, among, ties⟩ := List.countP_pos_iff.mp counted
  have below : (cmp top held).isLE = true := by
    rw [of_decide_eq_true ties]
    rfl
  cases List.mem_cons.mp ((popMax_perm otherPopped).symm.subset among) with
  | inl same => rwa [← same]
  | inr behind => exact Std.TransCmp.isLE_trans below (popMax_isLE otherPopped held behind)

theorem Alike.top_eq {queue other rest otherRest : List Item} {top otherTop : Item} (alike : Alike cmp queue other)
    (popped : popMax cmp queue = some (top, rest)) (otherPopped : popMax cmp other = some (otherTop, otherRest)) :
    cmp top otherTop = .eq :=
  Std.OrientedCmp.isLE_antisymm (alike.top_isLE popped otherPopped) (alike.symm.top_isLE otherPopped popped)

theorem Alike.rest {queue other rest otherRest : List Item} {top otherTop : Item} (alike : Alike cmp queue other)
    (popped : popMax cmp queue = some (top, rest)) (otherPopped : popMax cmp other = some (otherTop, otherRest)) :
    Alike cmp rest otherRest := by
  intro item
  -- the two tops tie, so each of them counts for an item exactly if the other does
  have ties : cmp top otherTop = .eq := alike.top_eq popped otherPopped
  have counted := alike item
  rw [← (popMax_perm popped).countP_eq, ← (popMax_perm otherPopped).countP_eq, List.countP_cons, List.countP_cons]
    at counted
  have same : cmp item top = cmp item otherTop := Std.TransCmp.congr_right ties
  rw [same] at counted
  omega

/-- From queues that are alike, items come out that tie one by one. -/
theorem Alike.popped {queue other items others left otherLeft : List Item} (alike : Alike cmp queue other)
    (popped : Popped cmp queue items left) (otherPopped : Popped cmp other others otherLeft)
    (length : items.length = others.length) :
    List.Forall₂ (fun first second => cmp first second = .eq) items others := by
  induction popped generalizing other others with
  | stop queue =>
    obtain rfl := List.length_eq_zero_iff.mp length.symm
    exact .nil
  | @pop queue rest items left top first later inductionHypothesis =>
    cases otherPopped with
    | stop => cases length
    | pop otherFirst otherLater =>
      exact .cons (alike.top_eq first otherFirst)
        (inductionHypothesis (alike.rest first otherFirst) otherLater (Nat.succ.inj length))

/-- Which items a queue gives out one after the other depends on its layout only where items tie. -/
theorem Popped.ties {queue layout items others left otherLeft : List Item} (popped : Popped cmp queue items left)
    (otherPopped : Popped cmp layout others otherLeft) (permuted : queue.Perm layout)
    (length : items.length = others.length) :
    List.Forall₂ (fun first second => cmp first second = .eq) items others :=
  (Alike.of_perm permuted).popped popped otherPopped length

theorem Popped.eq_of_untied {queue layout items others left otherLeft : List Item}
    (popped : Popped cmp queue items left) (otherPopped : Popped cmp layout others otherLeft)
    (permuted : queue.Perm layout) (length : items.length = others.length)
    (untied : queue.Pairwise fun first second => cmp first second ≠ .eq) : items = others := by
  have symmetric : Std.Symm fun first second => cmp first second ≠ .eq :=
    ⟨fun _ _ apart tied => apart (Std.OrientedCmp.eq_symm tied)⟩
  have ties := popped.ties otherPopped permuted length
  have queued : ∀ item ∈ items, item ∈ queue := fun item among => popped.perm.subset (List.mem_append_left left among)
  have otherQueued : ∀ item ∈ others, item ∈ queue :=
    fun item among => permuted.symm.subset (otherPopped.perm.subset (List.mem_append_left otherLeft among))
  clear popped otherPopped length
  induction ties with
  | nil => rfl
  | @cons item other items others tied later inductionHypothesis =>
    obtain ⟨here, behind⟩ := List.forall_mem_cons.mp queued
    obtain ⟨otherHere, otherBehind⟩ := List.forall_mem_cons.mp otherQueued
    have same : item = other := by
      by_contra differ
      exact untied.forall here otherHere differ tied
    rw [same, inductionHypothesis behind otherBehind]

end Trans

/-! ## Ranks -/

/-- A coarser order that the comparison respects. -/
structure RanksBy (cmp : Item → Item → Ordering) (rank : Item → Nat) : Prop where
  above : ∀ left right, cmp left right = .gt → rank right ≤ rank left
  notAbove : ∀ left right, cmp left right ≠ .gt → rank left ≤ rank right

theorem RanksBy.popMax_le {rank : Item → Nat} (ranks : RanksBy cmp rank) {queue rest : List Item} {top : Item}
    (popped : popMax cmp queue = some (top, rest)) : ∀ item ∈ rest, rank item ≤ rank top :=
  popMax_below (fun item other => rank item ≤ rank other) (fun _ _ _ below above => Nat.le_trans below above)
    ranks.above ranks.notAbove popped

/-- The items come out by rank. -/
theorem RanksBy.drain_pairwise {rank : Item → Nat} (ranks : RanksBy cmp rank) (queue : List Item) :
    (drain cmp queue).Pairwise fun earlier later => rank later ≤ rank earlier :=
  (drain_popped queue).pairwise fun _ _ _ popped => ranks.popMax_le popped

end FlowCloud.Foundation
