import FlowCloud.Foundation.IndexMap
import FlowCloud.Foundation.RoseTree
import Mathlib.Data.List.AList

/-! # Documents from a template's JSON

`JsonToDocumentParser` reads a tree of `SerdeBlock` and flattens it: a block for each
node, in post-order, with generated ids for the block, for its place in the children
map and for its text.  The children map is then filled from the flat blocks alone.
-/

namespace FlowCloud.Template

open FlowCloud.Foundation

def DELTA : String := "delta"

def TEXT_EXTERNAL_TYPE : String := "text"

/-- `Value` is a JSON value, which the parser only prints. -/
inductive SerdeBlock (Value : Type) where
  | mk (ty : String) (data : AList fun _ : String => Value) (children : List (SerdeBlock Value))

def SerdeBlock.children {Value : Type} : SerdeBlock Value → List (SerdeBlock Value)
  | .mk _ _ children => children

structure Block (Value : Type) where
  id : String
  ty : String
  data : AList fun _ : String => Value
  parent : String
  children : String
  externalId : Option String
  externalType : Option String

structure DocumentMeta where
  childrenMap : AList fun _ : String => List String
  textMap : Option (AList fun _ : String => String)

structure DocumentData (Value : Type) where
  pageId : String
  blocks : AList fun _ : String => Block Value
  docMeta : DocumentMeta

/-- The ids `nanoid!(10)` draws one after the other: never one twice, never an empty one. -/
structure IdSupply where
  nanoid : Nat → String
  distinct : Function.Injective nanoid
  nonempty : ∀ draw, nanoid draw ≠ ""

variable {Value Error : Type}

/-! ## The parser -/

section
variable (toText : Value → String) (ids : IdSupply)

/-- The block of a node, its delta, and how many ids are drawn by then. -/
def blockToBlockPb (block : SerdeBlock Value) (id : Option String) (parent : String) (drawn : Nat) :
    Block Value × Option String × Nat :=
  match block with
  | .mk ty blockData _ =>
    let (id, drawn) := match id with
      | some id => (id, drawn)
      | none => (ids.nanoid drawn, drawn + 1)
    let delta := (blockData.lookup DELTA).map toText
    let data := blockData.erase DELTA
    let (externalId, externalType, drawn) := match delta with
      | none => (none, none, drawn)
      | some _ => (some (ids.nanoid drawn), some TEXT_EXTERNAL_TYPE, drawn + 1)
    ({ id, ty, data, parent, children := ids.nanoid drawn, externalId, externalType }, delta, drawn + 1)

mutual
def generateBlocks : SerdeBlock Value → Option String → String → Nat →
    IndexMap String (Block Value) × IndexMap String String × Nat
  | .mk ty data children, id, parentId, drawn =>
    let (blockPb, delta, drawn) := blockToBlockPb toText ids (.mk ty data children) id parentId drawn
    let (blocks, textMap, drawn) := generateChildren children blockPb.id .empty .empty drawn
    let blocks := blocks.insert blockPb.id blockPb
    let textMap := match delta, blockPb.externalId with
      | some delta, some externalId => textMap.insert externalId delta
      | _, _ => textMap
    (blocks, textMap, drawn)
/-- The loop of `generateBlocks` over a node's children. -/
def generateChildren : List (SerdeBlock Value) → String → IndexMap String (Block Value) → IndexMap String String →
    Nat → IndexMap String (Block Value) × IndexMap String String × Nat
  | [], _, blocks, textMap, drawn => (blocks, textMap, drawn)
  | child :: children, parentId, blocks, textMap, drawn =>
    let (childBlocks, childBlocksTextMap, drawn) := generateBlocks child none parentId drawn
    generateChildren children parentId (blocks.extend childBlocks) (textMap.extend childBlocksTextMap) drawn
end

def generateTextMap (textMap : IndexMap String String) : AList fun _ : String => String := textMap.collect

/-- `entry(key).or_insert_with(Vec::new)`. -/
def orInsertEmpty (map : AList fun _ : String => List String) (key : String) : AList fun _ : String => List String :=
  match map.lookup key with
  | some _ => map
  | none => map.insert key []

/-- `entry(key).or_insert_with(Vec::new).push(id)`. -/
def pushEntry (map : AList fun _ : String => List String) (key id : String) : AList fun _ : String => List String :=
  (orInsertEmpty map key).insert key (((orInsertEmpty map key).lookup key).getD [] ++ [id])

/-- What the loop of `generateChildrenMap` does with one block. -/
def addToParent (blocks : IndexMap String (Block Value)) (childrenMap : AList fun _ : String => List String)
    (entry : String × Block Value) : AList fun _ : String => List String :=
  if entry.2.parent.isEmpty then childrenMap
  else
    match blocks.get entry.2.parent with
    | none => childrenMap
    | some parentBlock => orInsertEmpty (pushEntry childrenMap parentBlock.children entry.1) entry.2.children

def generateChildrenMap (blocks : IndexMap String (Block Value)) : AList fun _ : String => List String :=
  blocks.entries.foldl (addToParent blocks) ∅

/-- `fromStr` is the derived reader of `SerdeBlock`. -/
def jsonStrToDocument (fromStr : String → Except Error (SerdeBlock Value)) (jsonStr : String) :
    Except Error (DocumentData Value) := do
  let root ← fromStr jsonStr
  let pageId := ids.nanoid 0
  let (blocks, textMap, _) := generateBlocks toText ids root (some pageId) "" 1
  let childrenMap := generateChildrenMap blocks
  let textMap := generateTextMap textMap
  return { pageId, blocks := blocks.collect, docMeta := { childrenMap, textMap := some textMap } }

end

/-! ## Ids of a run -/

/-- The keys are distinct draws of the supply from `first` up to `last`. -/
structure Drawn (ids : IdSupply) (first last : Nat) (keys : List String) : Prop where
  nodup : keys.Nodup
  draw : ∀ key ∈ keys, ∃ draw, first ≤ draw ∧ draw < last ∧ ids.nanoid draw = key

variable {ids : IdSupply}

theorem drawn_nil (first last : Nat) : Drawn ids first last [] := ⟨List.nodup_nil, by simp⟩

/-- The first draw of a stretch, and its last. -/
theorem drawn_pair {first next : Nat} (later : first < next) :
    Drawn ids first (next + 1) [ids.nanoid first, ids.nanoid next] := by
  constructor
  · rw [List.nodup_cons, List.mem_singleton]
    exact ⟨fun same => Nat.ne_of_lt later (ids.distinct same), List.nodup_singleton _⟩
  · intro key among
    simp only [List.mem_cons, List.not_mem_nil, or_false] at among
    cases among with
    | inl same => exact ⟨first, by omega, by omega, same.symm⟩
    | inr same => exact ⟨next, by omega, by omega, same.symm⟩

theorem Drawn.ne_empty {first last : Nat} {keys : List String} (drawn : Drawn ids first last keys) {key : String}
    (among : key ∈ keys) : key ≠ "" := by
  obtain ⟨draw, -, -, same⟩ := drawn.draw key among
  rw [← same]
  exact ids.nonempty draw

theorem Drawn.sublist {first last : Nat} {keys fewer : List String} (drawn : Drawn ids first last keys)
    (sub : fewer.Sublist keys) : Drawn ids first last fewer :=
  ⟨drawn.nodup.sublist sub, fun key among => drawn.draw key (sub.subset among)⟩

theorem Drawn.perm {first last : Nat} {keys other : List String} (drawn : Drawn ids first last keys)
    (perm : keys.Perm other) : Drawn ids first last other :=
  ⟨perm.nodup_iff.mp drawn.nodup, fun key among => drawn.draw key (perm.mem_iff.mpr among)⟩

/-- What one stretch of draws gives is not given again by a later one. -/
theorem Drawn.apart {first middle next last : Nat} {keys later : List String} (drawn : Drawn ids first middle keys)
    (after : Drawn ids next last later) (order : middle ≤ next) {key : String} (among : key ∈ later) : key ∉ keys := by
  intro again
  obtain ⟨draw, above, -, same⟩ := after.draw key among
  obtain ⟨other, -, below, again⟩ := drawn.draw key again
  have equal : other = draw := ids.distinct (again.trans same.symm)
  omega

theorem Drawn.append {first middle last : Nat} {keys later : List String} (drawn : Drawn ids first middle keys)
    (after : Drawn ids middle last later) (start : first ≤ middle) (stop : middle ≤ last) :
    Drawn ids first last (keys ++ later) := by
  constructor
  · rw [List.nodup_append]
    refine ⟨drawn.nodup, after.nodup, ?_⟩
    intro key among other listed same
    exact drawn.apart after (Nat.le_refl _) listed (same ▸ among)
  · intro key among
    cases List.mem_append.mp among with
    | inl among =>
      obtain ⟨draw, above, below, same⟩ := drawn.draw key among
      exact ⟨draw, above, by omega, same⟩
    | inr among =>
      obtain ⟨draw, above, below, same⟩ := after.draw key among
      exact ⟨draw, by omega, below, same⟩

/-! ## What is built for a tree -/

/-- The ids of a block that others refer to: its own, and its place in the children map. -/
def Block.keys (block : Block Value) : List String := [block.id, block.children]

/-- A block for each node, with the node's type and data, under the nodes' own order. -/
inductive Matches : SerdeBlock Value → RoseTree (Block Value) → Prop where
  | node {ty : String} {data : AList fun _ : String => Value} {children : List (SerdeBlock Value)}
      {block : Block Value} {trees : List (RoseTree (Block Value))}
      (sameTy : block.ty = ty) (sameData : block.data = data.erase DELTA)
      (below : List.Forall₂ Matches children trees) : Matches (.mk ty data children) (.node block trees)

/-- The flat map holds the blocks of a tree that stands for the node, and its ids are the draws made meanwhile. -/
structure Generated (ids : IdSupply) (block : SerdeBlock Value) (parentId : String) (first last : Nat)
    (blocks : IndexMap String (Block Value)) (tree : RoseTree (Block Value)) : Prop where
  nodes : Matches block tree
  linked : tree.Linked Block.id Block.parent
  id : tree.label.id = ids.nanoid first
  parent : tree.label.parent = parentId
  entries : blocks.entries = tree.postOrder.map fun block => (block.id, block)
  fresh : Drawn ids first last (tree.postOrder.flatMap Block.keys)
  order : first ≤ last

/-- The same of the trees below a node, whose blocks are put behind those already held. -/
structure GeneratedBelow (ids : IdSupply) (children : List (SerdeBlock Value)) (parentId : String) (first last : Nat)
    (held blocks : IndexMap String (Block Value)) (trees : List (RoseTree (Block Value))) : Prop where
  nodes : List.Forall₂ Matches children trees
  linked : ∀ tree ∈ trees, tree.Linked Block.id Block.parent
  parent : ∀ tree ∈ trees, tree.label.parent = parentId
  entries : blocks.entries = held.entries ++ (trees.flatMap RoseTree.postOrder).map fun block => (block.id, block)
  fresh : Drawn ids first last ((trees.flatMap RoseTree.postOrder).flatMap Block.keys)
  order : first ≤ last

theorem keys_map (listed : List (Block Value)) :
    (listed.map fun block => (block.id, block)).map Prod.fst = listed.map Block.id := by
  rw [List.map_map]
  rfl

theorem map_id_sublist (listed : List (Block Value)) :
    (listed.map Block.id).Sublist (listed.flatMap Block.keys) := by
  induction listed with
  | nil => exact List.Sublist.slnil
  | cons block rest ih => exact (ih.cons block.children).cons_cons block.id

theorem map_children_sublist (listed : List (Block Value)) :
    (listed.map Block.children).Sublist (listed.flatMap Block.keys) := by
  induction listed with
  | nil => exact List.Sublist.slnil
  | cons block rest ih => exact (ih.cons_cons block.children).cons block.id

theorem Generated.keys {block : SerdeBlock Value} {parentId : String} {first last : Nat}
    {blocks : IndexMap String (Block Value)} {tree : RoseTree (Block Value)}
    (generated : Generated ids block parentId first last blocks tree) : Drawn ids first last blocks.keys := by
  rw [IndexMap.keys, generated.entries, keys_map]
  exact generated.fresh.sublist (map_id_sublist _)

section
variable (toText : Value → String) (ids)

/-- A node's block takes its ids from the draws made for it. -/
theorem blockToBlockPb_fresh (ty : String) (data : AList fun _ : String => Value) (children : List (SerdeBlock Value))
    (parent : String) (first : Nat) :
    ∃ blockPb delta last, blockToBlockPb toText ids (.mk ty data children) none parent first = (blockPb, delta, last) ∧
      Drawn ids first last blockPb.keys ∧ first ≤ last ∧
      blockPb.id = ids.nanoid first ∧ blockPb.parent = parent ∧ blockPb.ty = ty ∧
      blockPb.data = data.erase DELTA := by
  simp only [blockToBlockPb]
  generalize (data.lookup DELTA).map toText = delta
  cases delta with
  | none =>
    exact ⟨_, _, _, rfl, drawn_pair (Nat.lt_add_of_pos_right Nat.one_pos), Nat.le_add_right first 2, rfl, rfl, rfl, rfl⟩
  | some delta =>
    exact ⟨_, _, _, rfl, drawn_pair (Nat.lt_add_of_pos_right Nat.two_pos), Nat.le_add_right first 3, rfl, rfl, rfl, rfl⟩

mutual
theorem generateBlocks_generated (block : SerdeBlock Value) (parentId : String) (first : Nat) :
    let ran := generateBlocks toText ids block none parentId first
    ∃ tree, Generated ids block parentId first ran.2.2 ran.1 tree :=
  match block with
  | .mk ty data children => by
    obtain ⟨blockPb, delta, middle, made, own, start, id, parent, sameTy, sameData⟩ :=
      blockToBlockPb_fresh ids toText ty data children parentId first
    obtain ⟨trees, below⟩ :=
      generateChildren_generated children blockPb.id .empty .empty first middle start (drawn_nil first middle)
    simp only [generateBlocks, made]
    generalize generateChildren toText ids children blockPb.id .empty .empty middle = ran at below ⊢
    obtain ⟨blocks, textMap, last⟩ := ran
    -- the node's own id was drawn before those of the nodes below it
    have absent : blockPb.id ∉ blocks.keys := by
      rw [IndexMap.keys, below.entries, IndexMap.entries_empty, List.nil_append, keys_map]
      intro among
      exact own.apart below.fresh (Nat.le_refl _) ((map_id_sublist _).subset among) (by simp [Block.keys])
    have entries := IndexMap.entries_insert absent blockPb
    refine ⟨.node blockPb trees, .node sameTy sameData below.nodes,
      RoseTree.linked_node below.parent below.linked, id, parent, ?_, ?_, ?_⟩
    · show (blocks.insert blockPb.id blockPb).entries = _
      rw [entries, below.entries, RoseTree.postOrder_node, List.map_append]
      rfl
    · rw [RoseTree.postOrder_node, List.flatMap_append]
      have all := own.append below.fresh start below.order
      exact all.perm (by simpa using List.perm_append_comm)
    · exact Nat.le_trans start below.order
theorem generateChildren_generated (children : List (SerdeBlock Value)) (parentId : String)
    (held : IndexMap String (Block Value)) (textMap : IndexMap String String) (first middle : Nat)
    (start : first ≤ middle) (drawn : Drawn ids first middle held.keys) :
    let ran := generateChildren toText ids children parentId held textMap middle
    ∃ trees, GeneratedBelow ids children parentId middle ran.2.2 held ran.1 trees :=
  match children with
  | [] => ⟨[], .nil, by simp, by simp, by simp [generateChildren], drawn_nil _ _, Nat.le_refl _⟩
  | child :: rest => by
    obtain ⟨tree, generated⟩ := generateBlocks_generated child parentId middle
    rw [generateChildren]
    generalize generateBlocks toText ids child none parentId middle = ran at generated ⊢
    obtain ⟨childBlocks, childTextMap, next⟩ := ran
    have apart : ∀ key ∈ childBlocks.keys, key ∉ held.keys :=
      fun key among => drawn.apart generated.keys (Nat.le_refl _) among
    have entries := IndexMap.entries_extend apart
    have drawnNext : Drawn ids first next (held.extend childBlocks).keys := by
      rw [IndexMap.keys, entries, List.map_append]
      exact drawn.append generated.keys start generated.order
    obtain ⟨trees, below⟩ := generateChildren_generated rest parentId (held.extend childBlocks)
      (textMap.extend childTextMap) first next (Nat.le_trans start generated.order) drawnNext
    refine ⟨tree :: trees, .cons generated.nodes below.nodes, ?_, ?_, ?_, ?_, ?_⟩
    · exact List.forall_mem_cons.mpr ⟨generated.linked, below.linked⟩
    · exact List.forall_mem_cons.mpr ⟨generated.parent, below.parent⟩
    · rw [below.entries, entries, generated.entries, List.flatMap_cons, List.map_append, List.append_assoc]
    · rw [List.flatMap_cons, List.flatMap_append]
      exact generated.fresh.append below.fresh generated.order below.order
    · exact Nat.le_trans generated.order below.order
end

end

/-! ## The children map -/

/-- The entry of the children map that a block is added to: its parent's. -/
def parentKey (blocks : IndexMap String (Block Value)) (block : Block Value) : Option String :=
  if block.parent.isEmpty then none else (blocks.get block.parent).map Block.children

theorem addToParent_eq (blocks : IndexMap String (Block Value)) (childrenMap : AList fun _ : String => List String)
    (entry : String × Block Value) :
    addToParent blocks childrenMap entry =
      match parentKey blocks entry.2 with
      | none => childrenMap
      | some key => orInsertEmpty (pushEntry childrenMap key entry.1) entry.2.children := by
  unfold addToParent parentKey
  by_cases empty : entry.2.parent.isEmpty
  · rw [if_pos empty, if_pos empty]
  · rw [if_neg empty, if_neg empty]
    cases blocks.get entry.2.parent with
    | none => rfl
    | some parentBlock => rfl

theorem lookup_orInsertEmpty (map : AList fun _ : String => List String) (key wanted : String) :
    (orInsertEmpty map key).lookup wanted =
      if wanted = key then some ((map.lookup wanted).getD []) else map.lookup wanted := by
  unfold orInsertEmpty
  by_cases same : wanted = key
  · subst same
    cases found : map.lookup wanted with
    | none => simp
    | some held => simp [found]
  · rw [if_neg same]
    cases map.lookup key with
    | none => exact AList.lookup_insert_ne same
    | some held => rfl

theorem lookup_pushEntry (map : AList fun _ : String => List String) (key id wanted : String) :
    (pushEntry map key id).lookup wanted =
      if wanted = key then some ((map.lookup wanted).getD [] ++ [id]) else map.lookup wanted := by
  unfold pushEntry
  by_cases same : wanted = key
  · subst same
    rw [AList.lookup_insert, lookup_orInsertEmpty, if_pos rfl, if_pos rfl]
    rfl
  · rw [AList.lookup_insert_ne same, lookup_orInsertEmpty, if_neg same, if_neg same]

theorem listed_orInsertEmpty (map : AList fun _ : String => List String) (key wanted : String) :
    ((orInsertEmpty map key).lookup wanted).getD [] = (map.lookup wanted).getD [] := by
  rw [lookup_orInsertEmpty]
  by_cases same : wanted = key
  · rw [if_pos same, Option.getD_some]
  · rw [if_neg same]

theorem listed_pushEntry (map : AList fun _ : String => List String) (key id wanted : String) :
    ((pushEntry map key id).lookup wanted).getD [] =
      (map.lookup wanted).getD [] ++ if key = wanted then [id] else [] := by
  rw [lookup_pushEntry]
  by_cases same : wanted = key
  · rw [if_pos same, if_pos same.symm, Option.getD_some]
  · rw [if_neg same, if_neg (Ne.symm same), List.append_nil]

/-- The ids under a key grow by the block's exactly where its parent's entry is that key. -/
theorem addToParent_listed (blocks : IndexMap String (Block Value))
    (childrenMap : AList fun _ : String => List String) (entry : String × Block Value) (key : String) :
    ((addToParent blocks childrenMap entry).lookup key).getD [] =
      (childrenMap.lookup key).getD [] ++ if parentKey blocks entry.2 = some key then [entry.1] else [] := by
  rw [addToParent_eq]
  cases parentKey blocks entry.2 with
  | none => simp
  | some target => simp only [listed_orInsertEmpty, listed_pushEntry, Option.some.injEq]

/-- A key is entered by its own block and by the blocks below it, where they have a parent. -/
theorem addToParent_present (blocks : IndexMap String (Block Value))
    (childrenMap : AList fun _ : String => List String) (entry : String × Block Value) (key : String) :
    ((addToParent blocks childrenMap entry).lookup key).isSome = true ↔
      (childrenMap.lookup key).isSome = true ∨
        ∃ target, parentKey blocks entry.2 = some target ∧ (key = target ∨ key = entry.2.children) := by
  rw [addToParent_eq]
  cases parentKey blocks entry.2 with
  | none => simp
  | some target =>
    simp only [lookup_orInsertEmpty, lookup_pushEntry]
    by_cases same : key = target <;> by_cases own : key = entry.2.children <;> simp [own, same]

theorem generateChildrenMap_listed (blocks : IndexMap String (Block Value)) (key : String) :
    ((generateChildrenMap blocks).lookup key).getD [] =
      (blocks.entries.filter fun entry => parentKey blocks entry.2 = some key).map Prod.fst := by
  have grown : ∀ (entries : List (String × Block Value)) (start : AList fun _ : String => List String),
      ((entries.foldl (addToParent blocks) start).lookup key).getD [] =
      (start.lookup key).getD [] ++
        (entries.filter fun entry => parentKey blocks entry.2 = some key).map Prod.fst := by
    intro entries
    induction entries with
    | nil => simp
    | cons entry rest ih =>
      intro start
      rw [List.foldl_cons, ih, addToParent_listed]
      by_cases target : parentKey blocks entry.2 = some key <;> simp [target]
  rw [generateChildrenMap, grown, AList.lookup_empty]
  simp

theorem generateChildrenMap_present (blocks : IndexMap String (Block Value)) (key : String) :
    ((generateChildrenMap blocks).lookup key).isSome = true ↔
      ∃ entry ∈ blocks.entries, ∃ target,
        parentKey blocks entry.2 = some target ∧ (key = target ∨ key = entry.2.children) := by
  have entered : ∀ (entries : List (String × Block Value)) (start : AList fun _ : String => List String),
      ((entries.foldl (addToParent blocks) start).lookup key).isSome = true ↔
      (start.lookup key).isSome = true ∨ ∃ entry ∈ entries, ∃ target,
        parentKey blocks entry.2 = some target ∧ (key = target ∨ key = entry.2.children) := by
    intro entries
    induction entries with
    | nil => simp
    | cons entry rest ih =>
      intro start
      rw [List.foldl_cons, ih, addToParent_present, List.exists_mem_cons_iff, or_assoc]
  rw [generateChildrenMap, entered, AList.lookup_empty]
  simp

/-! ## The whole tree -/

section
variable {root : SerdeBlock Value} {first last : Nat} {blocks : IndexMap String (Block Value)}
  {tree part : RoseTree (Block Value)}

theorem Generated.get_eq_some {parentId : String} (generated : Generated ids root parentId first last blocks tree)
    {key : String} {block : Block Value} :
    blocks.get key = some block ↔ block ∈ tree.postOrder ∧ block.id = key := by
  rw [IndexMap.get_eq_some, generated.entries, List.mem_map]
  constructor
  · intro held
    obtain ⟨other, among, same⟩ := held
    obtain ⟨rfl, rfl⟩ := Prod.mk.inj same
    exact ⟨among, rfl⟩
  · intro held
    exact ⟨block, held.1, by rw [held.2]⟩

theorem Generated.distinct {parentId : String} (generated : Generated ids root parentId first last blocks tree) :
    (tree.postOrder.map Block.id).Nodup :=
  (generated.fresh.sublist (map_id_sublist _)).nodup

/-- Two blocks with one entry in the children map are one block. -/
theorem Generated.eq_of_children {parentId : String} (generated : Generated ids root parentId first last blocks tree)
    {block other : Block Value} (among : block ∈ tree.postOrder) (listed : other ∈ tree.postOrder)
    (same : block.children = other.children) : block = other :=
  List.inj_on_of_nodup_map (generated.fresh.sublist (map_children_sublist _)).nodup among listed same

theorem Generated.id_ne_empty {parentId : String} (generated : Generated ids root parentId first last blocks tree)
    {block : Block Value} (among : block ∈ tree.postOrder) : block.id ≠ "" :=
  (generated.fresh.sublist (map_id_sublist _)).ne_empty (List.mem_map_of_mem among)

/-- A block is added to the entry of the node it names as its parent. -/
theorem Generated.parentKey_eq {parentId : String} (generated : Generated ids root parentId first last blocks tree)
    (within : part.Within tree) (block : Block Value) :
    parentKey blocks block = some part.label.children ↔ block.parent = part.label.id := by
  unfold parentKey
  constructor
  · intro target
    by_cases empty : block.parent.isEmpty
    · rw [if_pos empty] at target
      cases target
    · rw [if_neg empty, Option.map_eq_some_iff] at target
      obtain ⟨parentBlock, found, same⟩ := target
      obtain ⟨among, named⟩ := generated.get_eq_some.mp found
      rw [generated.eq_of_children among (within.label_mem RoseTree.visits_postOrder) same] at named
      exact named.symm
  · intro named
    have present : ¬ block.parent.isEmpty = true := by
      rw [String.isEmpty_iff, named]
      exact generated.id_ne_empty (within.label_mem RoseTree.visits_postOrder)
    rw [if_neg present, generated.get_eq_some.mpr ⟨within.label_mem RoseTree.visits_postOrder, named.symm⟩]
    rfl

/-- Under a node's key the children map lists its children's ids in document order. -/
theorem Generated.listed (generated : Generated ids root "" first last blocks tree) (within : part.Within tree) :
    ((generateChildrenMap blocks).lookup part.label.children).getD [] =
      part.children.map fun child => child.label.id := by
  have outside : ∀ entry ∈ tree.postOrder, entry.id ≠ tree.label.parent := by
    intro entry among
    rw [generated.parent]
    exact generated.id_ne_empty among
  have kept := generated.linked.filter_parent RoseTree.visits_postOrder generated.distinct outside within
  have named : tree.postOrder.filter (fun block => parentKey blocks block = some part.label.children) =
      tree.postOrder.filter (fun block => block.parent = part.label.id) :=
    List.filter_congr fun block _ => by simp only [generated.parentKey_eq within]
  rw [generateChildrenMap_listed, generated.entries, List.filter_map, List.map_map]
  show (tree.postOrder.filter fun block => parentKey blocks block = some part.label.children).map Block.id = _
  rw [named, kept, List.map_map]
  rfl

/-- A node has an entry in the children map if it has a parent or a child. -/
theorem Generated.present (generated : Generated ids root "" first last blocks tree) (within : part.Within tree) :
    ((generateChildrenMap blocks).lookup part.label.children).isSome = true ↔
      part ≠ tree ∨ part.children ≠ [] := by
  rw [generateChildrenMap_present, generated.entries]
  constructor
  · intro entered
    obtain ⟨entry, among, target, found, -⟩ := entered
    obtain ⟨block, listed, rfl⟩ := List.mem_map.mp among
    by_contra neither
    obtain ⟨rfl, childless⟩ : part = tree ∧ part.children = [] := by simpa [not_or] using neither
    -- the only block is the topmost one, which is skipped for its empty parent
    cases part with
    | node label children =>
      subst childless
      rw [RoseTree.postOrder_node, List.flatMap_nil, List.nil_append, List.mem_singleton] at listed
      have top : block.parent = "" := by rw [listed]; exact generated.parent
      rw [parentKey, top] at found
      cases found
  · intro placed
    cases placed with
    | inl below =>
      obtain ⟨above, withinAbove, among⟩ := within.top_or_child.resolve_left below
      refine ⟨_, List.mem_map_of_mem (within.label_mem RoseTree.visits_postOrder), above.label.children, ?_, .inr rfl⟩
      exact (generated.parentKey_eq withinAbove _).mpr (generated.linked above withinAbove part among)
    | inr parent =>
      obtain ⟨child, among⟩ := List.exists_mem_of_ne_nil _ parent
      refine ⟨_, List.mem_map_of_mem ((within.child among).label_mem RoseTree.visits_postOrder), part.label.children, ?_, .inl rfl⟩
      exact (generated.parentKey_eq within _).mpr (generated.linked part within child among)

end

/-- The document holds one block for each node, under its parent, with its children in document order. -/
structure TreeOf (root : SerdeBlock Value) (document : DocumentData Value) (tree : RoseTree (Block Value)) : Prop where
  nodes : Matches root tree
  distinct : (tree.postOrder.map Block.id).Nodup
  held : ∀ id block, document.blocks.lookup id = some block ↔ block ∈ tree.postOrder ∧ block.id = id
  top : tree.label.parent = ""
  parents : tree.Linked Block.id Block.parent
  children : ∀ part : RoseTree (Block Value), part.Within tree →
    document.docMeta.childrenMap.lookup part.label.children = some (part.children.map fun child => child.label.id)

def BuildsTree (root : SerdeBlock Value) (result : Except Error (DocumentData Value)) : Prop :=
  ∃ document tree, result = .ok document ∧ TreeOf root document tree

theorem matches_children {root : SerdeBlock Value} {tree : RoseTree (Block Value)} (nodes : Matches root tree) :
    root.children = [] ↔ tree.children = [] := by
  cases nodes with
  | @node ty data children block trees _ _ below =>
    show children = [] ↔ trees = []
    rw [← List.length_eq_zero_iff, ← List.length_eq_zero_iff, below.length_eq]

section
variable {root : SerdeBlock Value} {document : DocumentData Value} {first last : Nat}
  {blocks : IndexMap String (Block Value)} {tree stated : RoseTree (Block Value)}

theorem Generated.treeOf (generated : Generated ids root "" first last blocks tree)
    (held : document.blocks = blocks.collect) (mapped : document.docMeta.childrenMap = generateChildrenMap blocks)
    (children : root.children ≠ []) : TreeOf root document tree := by
  refine ⟨generated.nodes, generated.distinct, ?_, generated.parent, generated.linked, ?_⟩
  · intro id block
    rw [held, IndexMap.lookup_collect]
    exact generated.get_eq_some
  · intro part within
    have present : ((generateChildrenMap blocks).lookup part.label.children).isSome = true := by
      apply (generated.present within).mpr
      by_cases top : part = tree
      · rw [top]
        exact .inr (mt (matches_children generated.nodes).mpr children)
      · exact .inl top
    obtain ⟨listed, found⟩ := Option.isSome_iff_exists.mp present
    have complete := generated.listed within
    rw [found, Option.getD_some] at complete
    rw [mapped, found, complete]

/-- The tree of a node without children has one block. -/
theorem TreeOf.single (whole : TreeOf root document stated) (childless : root.children = []) :
    stated.postOrder = [stated.label] := by
  have below := (matches_children whole.nodes).mp childless
  cases stated with
  | node label children =>
    obtain rfl : children = [] := below
    rfl

/-- Nothing enters a root without children into the children map. -/
theorem Generated.not_treeOf (generated : Generated ids root "" first last blocks tree)
    (held : document.blocks = blocks.collect) (mapped : document.docMeta.childrenMap = generateChildrenMap blocks)
    (childless : root.children = []) : ¬ TreeOf root document stated := by
  intro whole
  -- the one block is the root's, under either tree
  have rootHeld : document.blocks.lookup tree.label.id = some tree.label := by
    rw [held, IndexMap.lookup_collect, generated.get_eq_some]
    exact ⟨RoseTree.visits_postOrder.label_mem tree, rfl⟩
  have equal : tree.label = stated.label := by
    have listed := ((whole.held _ _).mp rootHeld).1
    rw [whole.single childless] at listed
    exact List.mem_singleton.mp listed
  have entered := whole.children stated .here
  rw [← equal, mapped] at entered
  cases (generated.present .here).mp (Option.isSome_of_eq_some entered) with
  | inl other => exact other rfl
  | inr parent => exact parent ((matches_children generated.nodes).mp childless)

end

section
variable (toText : Value → String) (ids)

/-- The id drawn for the page is the one the root would have drawn itself. -/
theorem generateBlocks_page (root : SerdeBlock Value) (parentId : String) (drawn : Nat) :
    generateBlocks toText ids root (some (ids.nanoid drawn)) parentId (drawn + 1) =
      generateBlocks toText ids root none parentId drawn := by
  cases root
  rfl

theorem jsonStrToDocument_eq {fromStr : String → Except Error (SerdeBlock Value)} {jsonStr : String}
    {root : SerdeBlock Value} (parsed : fromStr jsonStr = .ok root) :
    ∃ document tree blocks last, jsonStrToDocument toText ids fromStr jsonStr = .ok document ∧
      Generated ids root "" 0 last blocks tree ∧ document.blocks = blocks.collect ∧
      document.docMeta.childrenMap = generateChildrenMap blocks ∧ document.pageId = ids.nanoid 0 := by
  obtain ⟨tree, generated⟩ := generateBlocks_generated ids toText root "" 0
  rw [← generateBlocks_page ids toText root "" 0] at generated
  generalize made : generateBlocks toText ids root (some (ids.nanoid 0)) "" (0 + 1) = ran at generated
  have read : jsonStrToDocument toText ids fromStr jsonStr =
      .ok ⟨ids.nanoid 0, ran.1.collect, ⟨generateChildrenMap ran.1, some (generateTextMap ran.2.1)⟩⟩ := by
    rw [jsonStrToDocument, parsed, ← made]
    rfl
  exact ⟨_, tree, ran.1, ran.2.2, read, generated, rfl, rfl, rfl⟩

/-- The page id leads to the block of the root. -/
theorem jsonStrToDocument_page {fromStr : String → Except Error (SerdeBlock Value)} {jsonStr : String}
    {root : SerdeBlock Value} (parsed : fromStr jsonStr = .ok root) :
    ∃ document block, jsonStrToDocument toText ids fromStr jsonStr = .ok document ∧
      document.blocks.lookup document.pageId = some block ∧ block.parent = "" := by
  obtain ⟨document, tree, blocks, last, ran, generated, held, -, page⟩ := jsonStrToDocument_eq ids toText parsed
  refine ⟨document, tree.label, ran, ?_, generated.parent⟩
  rw [held, IndexMap.lookup_collect, generated.get_eq_some, page]
  exact ⟨RoseTree.visits_postOrder.label_mem tree, generated.id⟩

/-- The parser builds the tree it reads exactly where the root has children. -/
theorem document_builds_tree_iff (fromStr : String → Except Error (SerdeBlock Value)) (jsonStr : String)
    (root : SerdeBlock Value) (parsed : fromStr jsonStr = .ok root) :
    BuildsTree root (jsonStrToDocument toText ids fromStr jsonStr) ↔ root.children ≠ [] := by
  obtain ⟨document, tree, blocks, last, ran, generated, held, mapped, -⟩ :=
    jsonStrToDocument_eq ids toText parsed
  constructor
  · intro built childless
    obtain ⟨other, stated, same, whole⟩ := built
    obtain rfl : document = other := Except.ok.inj (ran.symm.trans same)
    exact generated.not_treeOf held mapped childless whole
  · intro children
    exact ⟨document, tree, ran, generated.treeOf held mapped children⟩

end

/-! ## Two pages -/

/-- Ids of ten characters, each draw's with its own number of `a`. -/
def sampleIds : IdSupply where
  nanoid draw := String.ofList (List.replicate draw 'a' ++ List.replicate (10 - draw) 'b')
  distinct := by
    intro draw other same
    have counted := congrArg (List.count 'a') (String.ofList_injective same)
    simpa [List.count_replicate] using counted
  nonempty := by
    intro draw same
    have length := congrArg String.length same
    simp only [String.length_ofList, List.length_append, List.length_replicate, String.length_empty] at length
    omega

def emptyPage : SerdeBlock String := .mk "page" ∅ []

def paragraphPage : SerdeBlock String := .mk "page" ∅ [.mk "paragraph" ∅ []]

def emptyPageText : String := "\x7b\"type\":\"page\"\x7d"

def paragraphPageText : String := "\x7b\"type\":\"page\",\"children\":[\x7b\"type\":\"paragraph\"\x7d]\x7d"

def samplePages (jsonStr : String) : Except String (SerdeBlock String) :=
  if jsonStr = emptyPageText then .ok emptyPage
  else if jsonStr = paragraphPageText then .ok paragraphPage
  else .error "expected value"

theorem samplePages_empty : samplePages emptyPageText = .ok emptyPage := if_pos rfl

theorem samplePages_paragraph : samplePages paragraphPageText = .ok paragraphPage := by
  have other : paragraphPageText ≠ emptyPageText := by decide
  rw [samplePages, if_neg other, if_pos rfl]

theorem document_builds_paragraph_page :
    BuildsTree paragraphPage (jsonStrToDocument (fun text => text) sampleIds samplePages paragraphPageText) :=
  (document_builds_tree_iff _ _ samplePages paragraphPageText paragraphPage samplePages_paragraph).mpr
    (List.cons_ne_nil _ _)

/-- A page without children has no entry of its own in the children map. -/
theorem document_misses_empty_page :
    ¬ BuildsTree emptyPage (jsonStrToDocument (fun text => text) sampleIds samplePages emptyPageText) := by
  intro built
  obtain ⟨document, tree, ran, whole⟩ := built
  rw [jsonStrToDocument, samplePages_empty] at ran
  have bare : document.docMeta.childrenMap = ∅ := by
    rw [← Except.ok.inj ran]
    rfl
  have entered := whole.children tree .here
  rw [bare, AList.lookup_empty] at entered
  cases entered

end FlowCloud.Template
