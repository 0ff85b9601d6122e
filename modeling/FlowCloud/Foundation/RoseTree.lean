import Mathlib.Data.List.Nodup

/-! # Trees told apart by the parent each node names

A tree of any width, flattened in pre-order or post-order into a list whose entries
name their own key and the key of their parent.  Where every child names its parent and
no two nodes share a key, the entries that name a node are its children in their order:
the flat list has lost nothing of the tree.
-/

namespace FlowCloud.Foundation

inductive RoseTree (Label : Type) where
  | node (label : Label) (children : List (RoseTree Label))

namespace RoseTree

variable {Label Key : Type}

def label : RoseTree Label → Label
  | .node label _ => label

def children : RoseTree Label → List (RoseTree Label)
  | .node _ children => children

@[simp] theorem label_node (label : Label) (children : List (RoseTree Label)) :
    (RoseTree.node label children).label = label := rfl

@[simp] theorem children_node (label : Label) (children : List (RoseTree Label)) :
    (RoseTree.node label children).children = children := rfl

/-- A property of every tree follows from one step: from the children to the node over them. -/
@[elab_as_elim]
theorem induct {motive : RoseTree Label → Prop}
    (node : ∀ label children, (∀ child ∈ children, motive child) → motive (.node label children)) :
    ∀ tree, motive tree
  | .node label children => node label children fun child _ => induct node child

mutual
/-- The labels of the children's trees in their order, and the node's own last. -/
def postOrder : RoseTree Label → List Label
  | .node label children => postOrders children ++ [label]
def postOrders : List (RoseTree Label) → List Label
  | [] => []
  | tree :: trees => postOrder tree ++ postOrders trees
end

theorem postOrders_eq (trees : List (RoseTree Label)) : postOrders trees = trees.flatMap postOrder := by
  induction trees with
  | nil => rfl
  | cons tree trees ih => rw [postOrders, ih, List.flatMap_cons]

@[simp] theorem postOrder_node (label : Label) (children : List (RoseTree Label)) :
    (RoseTree.node label children).postOrder = children.flatMap postOrder ++ [label] := by
  rw [postOrder, postOrders_eq]

mutual
/-- The node's own label first, and the labels of the children's trees in their order. -/
def preOrder : RoseTree Label → List Label
  | .node label children => label :: preOrders children
def preOrders : List (RoseTree Label) → List Label
  | [] => []
  | tree :: trees => preOrder tree ++ preOrders trees
end

theorem preOrders_eq (trees : List (RoseTree Label)) : preOrders trees = trees.flatMap preOrder := by
  induction trees with
  | nil => rfl
  | cons tree trees ih => rw [preOrders, ih, List.flatMap_cons]

@[simp] theorem preOrder_node (label : Label) (children : List (RoseTree Label)) :
    (RoseTree.node label children).preOrder = label :: children.flatMap preOrder := by
  rw [preOrder, preOrders_eq]

/-! ## Visits in depth-first order -/

/-- Each child's tree is visited as a whole, and the node itself before all of them or after. -/
def Visits (visit : RoseTree Label → List Label) : Prop :=
  ∀ label children, visit (.node label children) = label :: children.flatMap visit ∨
    visit (.node label children) = children.flatMap visit ++ [label]

theorem visits_preOrder : Visits (@preOrder Label) := fun label children => .inl (preOrder_node label children)

theorem visits_postOrder : Visits (@postOrder Label) := fun label children => .inr (postOrder_node label children)

variable {visit : RoseTree Label → List Label}

theorem Visits.perm (visits : Visits visit) (label : Label) (children : List (RoseTree Label)) :
    (visit (.node label children)).Perm (label :: children.flatMap visit) := by
  cases visits label children with
  | inl first =>
    rw [first]
  | inr last =>
    rw [last]
    exact List.perm_append_comm

theorem Visits.mem_node (visits : Visits visit) {label entry : Label} {children : List (RoseTree Label)} :
    entry ∈ visit (.node label children) ↔ entry = label ∨ entry ∈ children.flatMap visit := by
  rw [(visits.perm label children).mem_iff, List.mem_cons]

theorem Visits.label_mem (visits : Visits visit) (tree : RoseTree Label) : tree.label ∈ visit tree := by
  cases tree with
  | node label children => exact visits.mem_node.mpr (.inl rfl)

theorem Visits.filter_own (visits : Visits visit) {keep : Label → Bool} {label : Label}
    {children : List (RoseTree Label)}
    (none : ∀ child ∈ children, (visit child).filter keep = []) :
    (visit (.node label children)).filter keep = if keep label then [label] else [] := by
  have below : (children.flatMap visit).filter keep = [] := by
    rw [List.filter_flatMap]
    exact List.flatMap_eq_nil_iff.mpr none
  cases visits label children with
  | inl first => rw [first, List.filter_cons, below]
  | inr last => rw [last, List.filter_append, below, List.nil_append, List.filter_cons, List.filter_nil]

theorem Visits.filter_below (visits : Visits visit) {keep : Label → Bool} {label : Label}
    {children : List (RoseTree Label)} (own : keep label = false) :
    (visit (.node label children)).filter keep = (children.flatMap visit).filter keep := by
  cases visits label children with
  | inl first => simp [first, own]
  | inr last => simp [last, own]

/-! ## Parts of a tree -/

/-- The trees of a tree's nodes: itself, and those of its children. -/
inductive Within (part : RoseTree Label) : RoseTree Label → Prop where
  | here : Within part part
  | under {label : Label} {children : List (RoseTree Label)} {child : RoseTree Label}
      (among : child ∈ children) (inside : Within part child) : Within part (.node label children)

theorem Within.trans {inner part tree : RoseTree Label} (inside : Within inner part)
    (within : Within part tree) : Within inner tree := by
  induction within with
  | here => exact inside
  | under among _ ih => exact .under among ih

/-- A part's entries are among the tree's. -/
theorem Within.mem {part tree : RoseTree Label} (within : Within part tree) (visits : Visits visit) {entry : Label}
    (listed : entry ∈ visit part) : entry ∈ visit tree := by
  induction within with
  | here => exact listed
  | under among _ ih => exact visits.mem_node.mpr (.inr (List.mem_flatMap_of_mem among ih))

theorem Within.label_mem {part tree : RoseTree Label} (within : Within part tree) (visits : Visits visit) :
    part.label ∈ visit tree :=
  within.mem visits (visits.label_mem part)

theorem Within.child {part child tree : RoseTree Label} (within : Within part tree)
    (among : child ∈ part.children) : Within child tree := by
  induction within with
  | here =>
    cases part
    exact .under among .here
  | under other _ ih => exact .under other ih

/-- A node is the topmost one or some node's child. -/
theorem Within.top_or_child {part tree : RoseTree Label} (within : Within part tree) :
    part = tree ∨ ∃ above, Within above tree ∧ part ∈ above.children := by
  induction within with
  | here => exact .inl rfl
  | @under label children child among inside ih =>
    cases ih with
    | inl same => exact .inr ⟨.node label children, .here, by rw [same]; exact among⟩
    | inr higher =>
      obtain ⟨above, within, listed⟩ := higher
      exact .inr ⟨above, .under among within, listed⟩

/-- Every entry is the label of some node. -/
theorem Visits.mem_iff (visits : Visits visit) {tree : RoseTree Label} {entry : Label} :
    entry ∈ visit tree ↔ ∃ part, Within part tree ∧ part.label = entry := by
  constructor
  · induction tree using induct with
    | node label children ih =>
      intro listed
      cases visits.mem_node.mp listed with
      | inl same => exact ⟨.node label children, .here, same.symm⟩
      | inr below =>
        obtain ⟨child, among, inside⟩ := List.mem_flatMap.mp below
        obtain ⟨part, within, same⟩ := ih child among inside
        exact ⟨part, .under among within, same⟩
  · intro placed
    obtain ⟨part, within, same⟩ := placed
    rw [← same]
    exact within.label_mem visits

/-- A part is visited in one go. -/
theorem Within.infix_preOrder {part tree : RoseTree Label} (within : Within part tree) :
    part.preOrder <:+: tree.preOrder := by
  induction within with
  | here => exact List.infix_refl _
  | @under label children child among inside ih =>
    obtain ⟨before, after, rfl⟩ := List.append_of_mem among
    apply ih.trans
    rw [preOrder_node, List.flatMap_append, List.flatMap_cons]
    exact ⟨label :: before.flatMap preOrder, after.flatMap preOrder, by simp⟩

/-- In pre-order a node stands before the nodes below it. -/
theorem Within.before_below {part child inner tree : RoseTree Label} (within : Within part tree)
    (among : child ∈ part.children) (inside : Within inner child) :
    [part.label, inner.label].Sublist tree.preOrder := by
  have below : inner.label ∈ part.children.flatMap preOrder :=
    List.mem_flatMap_of_mem among (inside.label_mem visits_preOrder)
  have own : [part.label, inner.label].Sublist part.preOrder := by
    cases part with
    | node label children =>
      rw [preOrder_node]
      exact (List.singleton_sublist.mpr below).cons_cons label
  exact own.trans within.infix_preOrder.sublist

/-! ## Children name their parent -/

section
variable (key parent : Label → Key)

/-- In every node's tree, each child names that node as its parent. -/
def Linked (tree : RoseTree Label) : Prop :=
  ∀ part, Within part tree → ∀ child ∈ part.children, parent child.label = key part.label

variable {key parent}

theorem Linked.part {part tree : RoseTree Label} (linked : Linked key parent tree)
    (within : Within part tree) : Linked key parent part :=
  fun inner inside => linked inner (inside.trans within)

theorem linked_node {label : Label} {children : List (RoseTree Label)}
    (named : ∀ child ∈ children, parent child.label = key label)
    (linked : ∀ child ∈ children, Linked key parent child) : Linked key parent (.node label children) := by
  intro part within
  cases within with
  | here => exact named
  | under among inside => exact linked _ among part inside

/-! ## Keys that tell the nodes apart -/

theorem Visits.distinct_node (visits : Visits visit) {label : Label} {children : List (RoseTree Label)}
    (distinct : ((visit (.node label children)).map key).Nodup) :
    key label ∉ (children.flatMap visit).map key ∧ ((children.flatMap visit).map key).Nodup := by
  have moved := ((visits.perm label children).map key).nodup_iff.mp distinct
  rwa [List.map_cons, List.nodup_cons] at moved

theorem distinct_among {trees : List (RoseTree Label)} (distinct : ((trees.flatMap visit).map key).Nodup)
    {tree : RoseTree Label} (among : tree ∈ trees) : ((visit tree).map key).Nodup := by
  rw [List.map_flatMap, List.nodup_flatMap] at distinct
  exact distinct.1 tree among

/-- Keys told apart in a row of trees are told apart between any two of them. -/
theorem keys_apart {before after : List (RoseTree Label)} {tree : RoseTree Label}
    (distinct : (((before ++ tree :: after).flatMap visit).map key).Nodup) {entry other : Label}
    (listed : entry ∈ visit tree) {sibling : RoseTree Label} (among : sibling ∈ before ++ after)
    (inside : other ∈ visit sibling) : key other ≠ key entry := by
  simp only [List.flatMap_append, List.flatMap_cons, List.map_append, List.nodup_append] at distinct
  obtain ⟨-, ⟨-, -, treeAfter⟩, beforeRest⟩ := distinct
  have keyed : key entry ∈ (visit tree).map key := List.mem_map_of_mem listed
  cases List.mem_append.mp among with
  | inl earlier =>
    have first : key other ∈ (before.flatMap visit).map key :=
      List.mem_map_of_mem (List.mem_flatMap_of_mem earlier inside)
    exact beforeRest _ first _ (List.mem_append_left _ keyed)
  | inr later =>
    have second : key other ∈ (after.flatMap visit).map key :=
      List.mem_map_of_mem (List.mem_flatMap_of_mem later inside)
    exact (treeAfter _ keyed _ second).symm

/-- A node's key is told apart from the keys below it. -/
theorem Visits.key_apart (visits : Visits visit) {label : Label} {children : List (RoseTree Label)}
    (distinct : ((visit (.node label children)).map key).Nodup) {child : RoseTree Label}
    (among : child ∈ children) {entry : Label} (listed : entry ∈ visit child) : key entry ≠ key label := by
  intro same
  apply (visits.distinct_node distinct).1
  rw [← same]
  exact List.mem_map_of_mem (List.mem_flatMap_of_mem among listed)

/-! ## What the flat list keeps -/

variable [DecidableEq Key]

/-- A key of no node is named by the tree's own entry alone, if by any. -/
theorem Linked.filter_outside {tree : RoseTree Label} (linked : Linked key parent tree) (visits : Visits visit)
    {wanted : Key} (outside : ∀ entry ∈ visit tree, key entry ≠ wanted) :
    (visit tree).filter (fun entry => parent entry = wanted) =
      if parent tree.label = wanted then [tree.label] else [] := by
  induction tree using induct with
  | node label children ih =>
    have below : ∀ child ∈ children, (visit child).filter (fun entry => parent entry = wanted) = [] := by
      intro child among
      have within : Within child (.node label children) := .under among .here
      have named : parent child.label = key label := linked _ .here child among
      have other : key label ≠ wanted := outside label (visits.label_mem (.node label children))
      rw [ih child among (linked.part within) fun entry listed => outside entry (within.mem visits listed),
        if_neg (by rw [named]; exact other)]
    rw [visits.filter_own below]
    by_cases same : parent label = wanted <;> simp [same]

/-- The entries that name the topmost node are its children. -/
theorem Linked.filter_top {label : Label} {children : List (RoseTree Label)}
    (linked : Linked key parent (.node label children)) (visits : Visits visit)
    (distinct : ((visit (.node label children)).map key).Nodup) (own : parent label ≠ key label) :
    (visit (.node label children)).filter (fun entry => parent entry = key label) =
      children.map RoseTree.label := by
  have each : ∀ child ∈ children,
      (visit child).filter (fun entry => parent entry = key label) = [child.label] := by
    intro child among
    have named : parent child.label = key label := linked _ .here child among
    rw [(linked.part (.under among .here)).filter_outside visits
      fun entry listed => visits.key_apart distinct among listed, if_pos named]
  rw [visits.filter_below (by simpa using own), List.filter_flatMap, List.flatMap_congr each]
  simp [List.map_eq_flatMap]

/-- In a row of trees none of which hangs below the node, only the node's own tree names it. -/
theorem filter_among {trees : List (RoseTree Label)} {tree part : RoseTree Label} (visits : Visits visit)
    (linked : ∀ tree ∈ trees, Linked key parent tree) (distinct : ((trees.flatMap visit).map key).Nodup)
    (among : tree ∈ trees) (within : Within part tree)
    (other : ∀ sibling ∈ trees, parent sibling.label ≠ key part.label) :
    (trees.flatMap visit).filter (fun entry => parent entry = key part.label) =
      (visit tree).filter (fun entry => parent entry = key part.label) := by
  obtain ⟨before, after, rfl⟩ := List.append_of_mem among
  have beside : ∀ sibling ∈ before ++ after,
      (visit sibling).filter (fun entry => parent entry = key part.label) = [] := by
    intro sibling near
    have present : sibling ∈ before ++ tree :: after := by
      rw [List.mem_append, List.mem_cons]
      exact (List.mem_append.mp near).imp id .inr
    rw [(linked sibling present).filter_outside visits fun entry listed =>
      keys_apart distinct (within.label_mem visits) near listed, if_neg (other sibling present)]
  have earlier := List.flatMap_eq_nil_iff.mpr fun sibling near => beside sibling (List.mem_append_left _ near)
  have later := List.flatMap_eq_nil_iff.mpr fun sibling near => beside sibling (List.mem_append_right _ near)
  rw [List.filter_flatMap, List.flatMap_append, List.flatMap_cons, earlier, later, List.nil_append, List.append_nil]

/-- The entries that name a node as their parent are its children, in their order. -/
theorem Linked.filter_parent {part tree : RoseTree Label} (linked : Linked key parent tree) (visits : Visits visit)
    (distinct : ((visit tree).map key).Nodup)
    (outside : ∀ entry ∈ visit tree, key entry ≠ parent tree.label) (within : Within part tree) :
    (visit tree).filter (fun entry => parent entry = key part.label) = part.children.map RoseTree.label := by
  induction within with
  | here =>
    cases part with
    | node label children => exact linked.filter_top visits distinct (outside label (visits.label_mem _)).symm
  | @under label children child among inside ih =>
    have named : ∀ sibling ∈ children, parent sibling.label = key label := linked _ .here
    have own : parent label ≠ key part.label :=
      (outside _ ((Within.under among inside).label_mem visits)).symm
    -- the children name the node over them, which is not the one that is asked for
    have apart : ∀ sibling ∈ children, parent sibling.label ≠ key part.label := by
      intro sibling near
      rw [named sibling near]
      exact (visits.key_apart distinct among (inside.label_mem visits)).symm
    have childrenDistinct := (visits.distinct_node distinct).2
    have childrenLinked : ∀ sibling ∈ children, Linked key parent sibling :=
      fun sibling near => linked.part (.under near .here)
    rw [visits.filter_below (by simpa using own),
      filter_among visits childrenLinked childrenDistinct among inside apart]
    apply ih (childrenLinked child among) (distinct_among childrenDistinct among)
    intro entry listed
    rw [named child among]
    exact visits.key_apart distinct among listed

/-- The same of a row of trees, where none of their parents is a node of theirs. -/
theorem filter_parent_among {trees : List (RoseTree Label)} {tree part : RoseTree Label} (visits : Visits visit)
    (linked : ∀ tree ∈ trees, Linked key parent tree) (distinct : ((trees.flatMap visit).map key).Nodup)
    (outside : ∀ entry ∈ trees.flatMap visit, ∀ tree ∈ trees, key entry ≠ parent tree.label)
    (among : tree ∈ trees) (within : Within part tree) :
    (trees.flatMap visit).filter (fun entry => parent entry = key part.label) =
      part.children.map RoseTree.label := by
  have held : part.label ∈ trees.flatMap visit := List.mem_flatMap_of_mem among (within.label_mem visits)
  rw [filter_among visits linked distinct among within fun sibling near => (outside _ held sibling near).symm]
  apply (linked tree among).filter_parent visits (distinct_among distinct among)
  · intro entry listed
    exact outside entry (List.mem_flatMap_of_mem among listed) tree among
  · exact within

end

end RoseTree

end FlowCloud.Foundation
