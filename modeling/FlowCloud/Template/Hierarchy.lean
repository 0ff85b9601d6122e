import FlowCloud.Foundation.RoseTree
import Mathlib.Data.List.Range

/-! # The view hierarchy of a new workspace

Nested builders make a forest of views in which every view lists its children's ids and
names its parent's.  `FlattedViews` lays the forest out as one list, from which a folder
must be able to read the whole tree again.
-/

namespace FlowCloud.Template

open FlowCloud.Foundation

structure ViewIcon (IconType : Type) where
  ty : IconType
  value : String

structure ViewIdentifier where
  id : String
deriving DecidableEq

structure View (ViewLayout IconType : Type) where
  id : String
  parentViewId : String
  name : String
  desc : String
  createdAt : Int
  isFavorite : Bool
  layout : ViewLayout
  icon : Option (ViewIcon IconType)
  createdBy : Option Int
  lastEditedTime : Int
  children : List ViewIdentifier
  lastEditedBy : Option Int

def View.identifier {ViewLayout IconType : Type} (view : View ViewLayout IconType) : ViewIdentifier := ⟨view.id⟩

/-- A view over the views below it. -/
abbrev ParentChildViews (ViewLayout IconType : Type) := RoseTree (View ViewLayout IconType)

abbrev ParentChildViews.parentView {ViewLayout IconType : Type} (views : ParentChildViews ViewLayout IconType) :
    View ViewLayout IconType :=
  views.label

abbrev ParentChildViews.childViews {ViewLayout IconType : Type} (views : ParentChildViews ViewLayout IconType) :
    List (ParentChildViews ViewLayout IconType) :=
  views.children

/-- The ids `gen_view_id` draws one after the other: never one twice, never the workspace's. -/
structure ViewIds (workspaceId : String) where
  genViewId : Nat → String
  distinct : Function.Injective genViewId
  fresh : ∀ draw, genViewId draw ≠ workspaceId

/-- What the folder crate supplies; the time is that of the moment a view is built. -/
structure FolderCrate (ViewLayout IconType : Type) where
  document : ViewLayout
  emoji : IconType
  timestamp : String → Int

variable {ViewLayout IconType : Type} {workspaceId : String}

/-! ## The builders -/

structure ViewBuilder (ViewLayout IconType : Type) where
  uid : Int
  parentViewId : String
  viewId : String
  name : String
  desc : String
  layout : ViewLayout
  childViews : List (ParentChildViews ViewLayout IconType)
  isFavorite : Bool
  icon : Option (ViewIcon IconType)

/-- What a closure makes of the builder it is given, and how many ids are drawn by then. -/
abbrev BuilderClosure (ViewLayout IconType : Type) :=
  ViewBuilder ViewLayout IconType → Nat → ParentChildViews ViewLayout IconType × Nat

section
variable (crate : FolderCrate ViewLayout IconType) (ids : ViewIds workspaceId)

namespace ViewBuilder

/-- The id is the next one drawn. -/
def new (uid : Int) (parentViewId : String) (drawn : Nat) : ViewBuilder ViewLayout IconType where
  uid := uid
  parentViewId := parentViewId
  viewId := ids.genViewId drawn
  name := ""
  desc := ""
  layout := crate.document
  childViews := []
  isFavorite := false
  icon := none

def withLayout (builder : ViewBuilder ViewLayout IconType) (layout : ViewLayout) : ViewBuilder ViewLayout IconType :=
  { builder with layout }

def withName (builder : ViewBuilder ViewLayout IconType) (name : String) : ViewBuilder ViewLayout IconType :=
  { builder with name }

def withDesc (builder : ViewBuilder ViewLayout IconType) (desc : String) : ViewBuilder ViewLayout IconType :=
  { builder with desc }

def withIcon (builder : ViewBuilder ViewLayout IconType) (icon : String) : ViewBuilder ViewLayout IconType :=
  { builder with icon := some { ty := crate.emoji, value := icon } }

def withChildViewBuilder (builder : ViewBuilder ViewLayout IconType)
    (childViewBuilder : BuilderClosure ViewLayout IconType) (drawn : Nat) : ViewBuilder ViewLayout IconType × Nat :=
  -- the child's id is drawn before its closure draws any
  let child := new crate ids builder.uid builder.viewId drawn
  let (view, drawn) := childViewBuilder child (drawn + 1)
  ({ builder with childViews := builder.childViews ++ [view] }, drawn)

def build (builder : ViewBuilder ViewLayout IconType) : ParentChildViews ViewLayout IconType :=
  let view : View ViewLayout IconType := {
    id := builder.viewId
    parentViewId := builder.parentViewId
    name := builder.name
    desc := builder.desc
    createdAt := crate.timestamp builder.viewId
    isFavorite := builder.isFavorite
    layout := builder.layout
    icon := builder.icon
    createdBy := some builder.uid
    lastEditedTime := 0
    children := builder.childViews.map fun views => { id := views.parentView.id }
    lastEditedBy := some builder.uid }
  .node view builder.childViews

end ViewBuilder

/-- A call a closure makes on its builder before it returns the build of it. -/
inductive BuilderCall (ViewLayout : Type) where
  | withLayout (layout : ViewLayout)
  | withName (name : String)
  | withDesc (desc : String)
  | withIcon (icon : String)
  | withChildViewBuilder (calls : List (BuilderCall ViewLayout))

mutual
def BuilderCall.run : BuilderCall ViewLayout → ViewBuilder ViewLayout IconType → Nat →
    ViewBuilder ViewLayout IconType × Nat
  | .withLayout layout, builder, drawn => (builder.withLayout layout, drawn)
  | .withName name, builder, drawn => (builder.withName name, drawn)
  | .withDesc desc, builder, drawn => (builder.withDesc desc, drawn)
  | .withIcon icon, builder, drawn => (builder.withIcon crate icon, drawn)
  | .withChildViewBuilder calls, builder, drawn =>
    builder.withChildViewBuilder crate ids (fun child drawn =>
      let (child, drawn) := runCalls calls child drawn
      (child.build crate, drawn)) drawn
def runCalls : List (BuilderCall ViewLayout) → ViewBuilder ViewLayout IconType → Nat →
    ViewBuilder ViewLayout IconType × Nat
  | [], builder, drawn => (builder, drawn)
  | call :: calls, builder, drawn =>
    let (builder, drawn) := call.run builder drawn
    runCalls calls builder drawn
end

/-- The closure that makes these calls and returns the build of its builder. -/
def closure (calls : List (BuilderCall ViewLayout)) : BuilderClosure ViewLayout IconType := fun builder drawn =>
  let (builder, drawn) := runCalls crate ids calls builder drawn
  (builder.build crate, drawn)

structure WorkspaceViewBuilder (ViewLayout IconType : Type) where
  uid : Int
  workspaceId : String
  views : List (ParentChildViews ViewLayout IconType)

namespace WorkspaceViewBuilder

def new (workspaceId : String) (uid : Int) : WorkspaceViewBuilder ViewLayout IconType := ⟨uid, workspaceId, []⟩

def withViewBuilder (builder : WorkspaceViewBuilder ViewLayout IconType)
    (viewBuilder : BuilderClosure ViewLayout IconType) (drawn : Nat) :
    String × WorkspaceViewBuilder ViewLayout IconType × Nat :=
  let first := ViewBuilder.new crate ids builder.uid builder.workspaceId drawn
  let (view, drawn) := viewBuilder first (drawn + 1)
  (view.parentView.id, { builder with views := builder.views ++ [view] }, drawn)

/-- The views are taken, and none is left. -/
def build (builder : WorkspaceViewBuilder ViewLayout IconType) :
    List (ParentChildViews ViewLayout IconType) × WorkspaceViewBuilder ViewLayout IconType :=
  (builder.views, { builder with views := [] })

end WorkspaceViewBuilder

inductive WorkspaceCall (ViewLayout : Type) where
  | withViewBuilder (calls : List (BuilderCall ViewLayout))
  | build

/-- The forests that the calls of `build` return. -/
def forests : List (WorkspaceCall ViewLayout) → WorkspaceViewBuilder ViewLayout IconType → Nat →
    List (List (ParentChildViews ViewLayout IconType))
  | [], _, _ => []
  | .withViewBuilder calls :: rest, builder, drawn =>
    let (_, builder, drawn) := builder.withViewBuilder crate ids (closure crate ids calls) drawn
    forests rest builder drawn
  | .build :: rest, builder, drawn =>
    let (views, builder) := builder.build
    views :: forests rest builder drawn

end

namespace FlattedViews

mutual
/-- What the loop of `flattenViews` adds for one view. -/
def flattenView : ParentChildViews ViewLayout IconType → List (View ViewLayout IconType)
  | .node parentView childViews => [parentView] ++ flattenViews childViews
def flattenViews : List (ParentChildViews ViewLayout IconType) → List (View ViewLayout IconType)
  | [] => []
  | view :: views => flattenView view ++ flattenViews views
end

end FlattedViews

open FlattedViews

mutual
theorem flattenView_eq (view : ParentChildViews ViewLayout IconType) : flattenView view = view.preOrder :=
  match view with
  | .node parentView childViews => by rw [flattenView, flattenViews_eq childViews, RoseTree.preOrder_node]; rfl
theorem flattenViews_eq (views : List (ParentChildViews ViewLayout IconType)) :
    flattenViews views = views.flatMap RoseTree.preOrder :=
  match views with
  | [] => rfl
  | view :: views => by rw [flattenViews, flattenView_eq view, flattenViews_eq views, List.flatMap_cons]
end

/-! ## What the builders keep -/

section
variable (ids : ViewIds workspaceId)

/-- The ids drawn from `first` up to `last`. -/
def ViewIds.drawn (first last : Nat) : List String := (List.range' first (last - first)).map ids.genViewId

theorem ViewIds.drawn_append {first middle last : Nat} (start : first ≤ middle) (stop : middle ≤ last) :
    ids.drawn first middle ++ ids.drawn middle last = ids.drawn first last := by
  have reached : middle = first + 1 * (middle - first) := by omega
  have whole : last - first = (middle - first) + (last - middle) := by omega
  rw [ViewIds.drawn, ViewIds.drawn, ViewIds.drawn, ← List.map_append, whole, ← List.range'_append, ← reached]

theorem ViewIds.drawn_cons {first last : Nat} (before : first < last) :
    ids.genViewId first :: ids.drawn (first + 1) last = ids.drawn first last := by
  rw [← ids.drawn_append (Nat.le_succ first) before]
  simp [ViewIds.drawn]

theorem ViewIds.drawn_nodup (first last : Nat) : (ids.drawn first last).Nodup :=
  List.Nodup.map ids.distinct List.nodup_range'

theorem ViewIds.ne_of_drawn {first last : Nat} {id : String} (among : id ∈ ids.drawn first last) :
    id ≠ workspaceId := by
  obtain ⟨draw, -, rfl⟩ := List.mem_map.mp among
  exact ids.fresh draw

/-- In every view's tree, the view lists the ids of the views right below it. -/
def Listed (tree : ParentChildViews ViewLayout IconType) : Prop :=
  ∀ part : ParentChildViews ViewLayout IconType, part.Within tree →
    part.label.children = part.children.map fun child => child.label.identifier

/-- A row of trees under one parent, with the ids drawn from `first` to `last` in pre-order. -/
structure BuiltTrees (parentViewId : String) (first last : Nat)
    (trees : List (ParentChildViews ViewLayout IconType)) : Prop where
  order : first ≤ last
  drawn : (trees.flatMap RoseTree.preOrder).map View.id = ids.drawn first last
  parent : ∀ tree ∈ trees, tree.label.parentViewId = parentViewId
  linked : ∀ tree ∈ trees, tree.Linked View.id View.parentViewId
  listed : ∀ tree ∈ trees, Listed tree

theorem builtTrees_nil (parentViewId : String) (first : Nat) :
    BuiltTrees ids parentViewId first first ([] : List (ParentChildViews ViewLayout IconType)) := by
  refine ⟨Nat.le_refl _, ?_, by simp, by simp, by simp⟩
  simp [ViewIds.drawn]

variable {ids}

theorem BuiltTrees.append {parentViewId : String} {first middle last : Nat}
    {trees more : List (ParentChildViews ViewLayout IconType)} (built : BuiltTrees ids parentViewId first middle trees)
    (next : BuiltTrees ids parentViewId middle last more) :
    BuiltTrees ids parentViewId first last (trees ++ more) where
  order := Nat.le_trans built.order next.order
  drawn := by
    rw [List.flatMap_append, List.map_append, built.drawn, next.drawn, ids.drawn_append built.order next.order]
  parent := List.forall_mem_append.mpr ⟨built.parent, next.parent⟩
  linked := List.forall_mem_append.mpr ⟨built.linked, next.linked⟩
  listed := List.forall_mem_append.mpr ⟨built.listed, next.listed⟩

variable (ids)

/-- The builder drew its own id as the `first`, and the ids of its children's trees after it. -/
structure ViewBuilder.Holds (builder : ViewBuilder ViewLayout IconType) (parentViewId : String)
    (first last : Nat) : Prop where
  id : builder.viewId = ids.genViewId first
  parent : builder.parentViewId = parentViewId
  children : BuiltTrees ids builder.viewId (first + 1) last builder.childViews

/-- The closure returns a tree over the id and under the parent of the builder it was given. -/
def Returns (viewBuilder : BuilderClosure ViewLayout IconType) : Prop :=
  ∀ builder parentViewId first last, builder.Holds ids parentViewId first last →
    BuiltTrees ids parentViewId first (viewBuilder builder last).2 [(viewBuilder builder last).1]

variable (crate : FolderCrate ViewLayout IconType)

theorem ViewBuilder.new_holds (uid : Int) (parentViewId : String) (drawn : Nat) :
    (ViewBuilder.new crate ids uid parentViewId drawn).Holds ids parentViewId drawn (drawn + 1) :=
  ⟨rfl, rfl, builtTrees_nil ids _ _⟩

variable {ids}

theorem ViewBuilder.Holds.build {builder : ViewBuilder ViewLayout IconType} {parentViewId : String} {first last : Nat}
    (holds : builder.Holds ids parentViewId first last) :
    BuiltTrees ids parentViewId first last [builder.build crate] := by
  have children := holds.children
  have before : first < last := children.order
  -- the builder drew its own id before those of the views below it, as pre-order lists them
  constructor
  · exact Nat.le_of_lt before
  · rw [List.flatMap_singleton, ViewBuilder.build, RoseTree.preOrder_node, List.map_cons, children.drawn,
      ← ids.drawn_cons before, holds.id]
  · rw [List.forall_mem_singleton]
    exact holds.parent
  · rw [List.forall_mem_singleton]
    exact RoseTree.linked_node children.parent children.linked
  · rw [List.forall_mem_singleton]
    intro part within
    cases within with
    | here => rfl
    | under among inside => exact children.listed _ among part inside

theorem ViewBuilder.Holds.withChildViewBuilder {builder : ViewBuilder ViewLayout IconType} {parentViewId : String}
    {first last : Nat} (holds : builder.Holds ids parentViewId first last)
    {childViewBuilder : BuilderClosure ViewLayout IconType} (returns : Returns ids childViewBuilder) :
    (builder.withChildViewBuilder crate ids childViewBuilder last).1.Holds ids parentViewId first
      (builder.withChildViewBuilder crate ids childViewBuilder last).2 where
  id := holds.id
  parent := holds.parent
  children := by
    have child := ViewBuilder.new_holds ids crate builder.uid builder.viewId last
    exact holds.children.append (returns _ _ _ _ child)

mutual
/-- A call on the builder keeps what it has built so far. -/
theorem BuilderCall.run_holds (call : BuilderCall ViewLayout) {builder : ViewBuilder ViewLayout IconType}
    {parentViewId : String} {first last : Nat} (holds : builder.Holds ids parentViewId first last) :
    (call.run crate ids builder last).1.Holds ids parentViewId first (call.run crate ids builder last).2 :=
  match call with
  | .withLayout _ => ⟨holds.id, holds.parent, holds.children⟩
  | .withName _ => ⟨holds.id, holds.parent, holds.children⟩
  | .withDesc _ => ⟨holds.id, holds.parent, holds.children⟩
  | .withIcon _ => ⟨holds.id, holds.parent, holds.children⟩
  | .withChildViewBuilder calls =>
    holds.withChildViewBuilder crate fun _ _ _ _ child => (runCalls_holds calls child).build crate
theorem runCalls_holds (calls : List (BuilderCall ViewLayout)) {builder : ViewBuilder ViewLayout IconType}
    {parentViewId : String} {first last : Nat} (holds : builder.Holds ids parentViewId first last) :
    (runCalls crate ids calls builder last).1.Holds ids parentViewId first (runCalls crate ids calls builder last).2 :=
  match calls with
  | [] => holds
  | call :: rest => runCalls_holds rest (call.run_holds holds)
end

theorem closure_returns (calls : List (BuilderCall ViewLayout)) : Returns ids (closure crate ids calls) :=
  fun _ _ _ _ holds => (runCalls_holds crate calls holds).build crate

/-- Every forest a run of calls builds has its own stretch of ids, under the workspace's. -/
theorem forests_built (calls : List (WorkspaceCall ViewLayout)) (builder : WorkspaceViewBuilder ViewLayout IconType)
    {first last : Nat} (held : BuiltTrees ids builder.workspaceId first last builder.views)
    {forest : List (ParentChildViews ViewLayout IconType)} (built : forest ∈ forests crate ids calls builder last) :
    ∃ first last, BuiltTrees ids builder.workspaceId first last forest := by
  induction calls generalizing builder first last with
  | nil => cases built
  | cons call rest ih =>
    cases call with
    | withViewBuilder calls =>
      -- the new tree's ids follow those of the trees before it
      have child := ViewBuilder.new_holds ids crate builder.uid builder.workspaceId last
      have view := closure_returns crate calls _ _ _ _ child
      exact ih (builder.withViewBuilder crate ids (closure crate ids calls) last).2.1 (held.append view) built
    | build =>
      cases List.mem_cons.mp built with
      | inl same => exact ⟨first, last, by rw [same]; exact held⟩
      | inr later => exact ih builder.build.2 (builtTrees_nil ids _ last) later

end

/-! ## What flattening keeps -/

/-- The flat list holds each view of the forest once, in pre-order, and tells each view's children. -/
structure LosesNothing (forest : List (ParentChildViews ViewLayout IconType)) : Prop where
  once : ((flattenViews forest).map View.id).Nodup
  whole : ∀ view, view ∈ flattenViews forest ↔
    ∃ tree ∈ forest, ∃ part : ParentChildViews ViewLayout IconType, part.Within tree ∧ part.parentView = view
  preOrder : flattenViews forest = forest.flatMap RoseTree.preOrder
  before : ∀ tree ∈ forest, ∀ part : ParentChildViews ViewLayout IconType, part.Within tree →
    ∀ child ∈ part.childViews, ∀ inner : ParentChildViews ViewLayout IconType, inner.Within child →
    [part.parentView, inner.parentView].Sublist (flattenViews forest)
  children : ∀ view ∈ flattenViews forest,
    view.children = ((flattenViews forest).filter fun below => below.parentViewId = view.id).map View.identifier

section
variable {ids : ViewIds workspaceId} {first last : Nat} {forest : List (ParentChildViews ViewLayout IconType)}

theorem BuiltTrees.distinct (built : BuiltTrees ids workspaceId first last forest) :
    ((forest.flatMap RoseTree.preOrder).map View.id).Nodup := by
  rw [built.drawn]
  exact ids.drawn_nodup first last

/-- No view of the forest is the workspace that its topmost views name. -/
theorem BuiltTrees.outside (built : BuiltTrees ids workspaceId first last forest) :
    ∀ view ∈ forest.flatMap RoseTree.preOrder, ∀ tree ∈ forest, view.id ≠ tree.label.parentViewId := by
  intro view held tree among
  have drawn : view.id ∈ ids.drawn first last := by
    rw [← built.drawn]
    exact List.mem_map_of_mem held
  rw [built.parent tree among]
  exact ids.ne_of_drawn drawn

theorem BuiltTrees.losesNothing (built : BuiltTrees ids workspaceId first last forest) : LosesNothing forest := by
  have placed : ∀ view, view ∈ forest.flatMap RoseTree.preOrder ↔
      ∃ tree ∈ forest, ∃ part : ParentChildViews ViewLayout IconType, part.Within tree ∧ part.label = view := by
    intro view
    simp only [List.mem_flatMap, RoseTree.visits_preOrder.mem_iff]
  constructor
  · rw [flattenViews_eq]
    exact built.distinct
  · rw [flattenViews_eq]
    exact placed
  · exact flattenViews_eq forest
  · intro tree among part within child below inner inside
    rw [flattenViews_eq, List.flatMap_def]
    exact (within.before_below below inside).trans (List.sublist_flatten_of_mem (List.mem_map_of_mem among))
  · intro view listed
    rw [flattenViews_eq] at listed ⊢
    obtain ⟨tree, among, part, within, rfl⟩ := (placed view).mp listed
    -- both sides are the ids of the node's children in the forest
    rw [RoseTree.filter_parent_among RoseTree.visits_preOrder built.linked built.distinct built.outside among within,
      built.listed tree among part within, List.map_map]
    rfl

end

/-- Whatever the builders built, its flat list has lost nothing of it. -/
theorem flattenViews_loses_nothing (crate : FolderCrate ViewLayout IconType) (ids : ViewIds workspaceId) (uid : Int)
    (calls : List (WorkspaceCall ViewLayout)) (drawn : Nat) :
    ∀ forest ∈ forests crate ids calls (.new workspaceId uid) drawn, LosesNothing forest := by
  intro forest returned
  have start : BuiltTrees ids workspaceId drawn drawn ([] : List (ParentChildViews ViewLayout IconType)) :=
    builtTrees_nil ids workspaceId drawn
  obtain ⟨first, last, built⟩ := forests_built crate calls (.new workspaceId uid) start returned
  exact built.losesNothing

/-! ## A page with a board under it -/

/-- Ids made of one letter alone, which the workspace's is not. -/
def sampleViewIds : ViewIds "workspace" where
  genViewId draw := String.ofList (List.replicate draw 'a')
  distinct := by
    intro draw other same
    have counted := congrArg List.length (String.ofList_injective same)
    simpa using counted
  fresh := by
    intro draw same
    have letter : 'w' ∈ (String.ofList (List.replicate draw 'a')).toList := by rw [same]; decide
    rw [String.toList_ofList] at letter
    cases List.eq_of_mem_replicate letter

def sampleCrate : FolderCrate String String := ⟨"Document", "Emoji", fun _ => 1700000000⟩

def gettingStarted : List (WorkspaceCall String) :=
  [.withViewBuilder [.withName "Getting started", .withIcon "⭐️",
    .withChildViewBuilder [.withName "To-dos", .withLayout "Board"]], .build]

def gettingStartedForest : List (ParentChildViews String String) :=
  (forests sampleCrate sampleViewIds gettingStarted (.new "workspace" 1) 0).flatten

theorem gettingStarted_loses_nothing :
    LosesNothing gettingStartedForest ∧
      (flattenViews gettingStartedForest).map View.name = ["Getting started", "To-dos"] := by
  constructor
  · exact flattenViews_loses_nothing sampleCrate sampleViewIds 1 gettingStarted 0 gettingStartedForest
      List.mem_cons_self
  · rfl

end FlowCloud.Template
