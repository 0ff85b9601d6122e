import FlowCloud.Casbin.Realtime
import FlowCloud.Foundation.Results

/-! # Loading the policies from the database

`PgAdapter` reads the members of the workspaces and those of the collabs from two streams and
adds a policy to the model for each row.  Its loops end where a stream does not deliver a row.
-/

namespace FlowCloud.Casbin

open FlowCloud.Foundation FlowCloud.Entity

/-- `casbin::Error`, as an adapter would wrap a failure of the database. -/
inductive CasbinError where
  | adapterError (failure : SqlxError)
  deriving DecidableEq, Repr

structure AFWorkspaceMemberPermRow where
  uid : Int
  role : AFRole
  workspaceId : String
  deriving DecidableEq, Repr

structure AFCollabMemberAccessLevelRow where
  uid : Int
  oid : String
  accessLevel : AFAccessLevel
  deriving DecidableEq, Repr

def AFWorkspaceMemberPermRow.policy (self : AFWorkspaceMemberPermRow) : Rule :=
  policyRule self.uid (.workspace self.workspaceId) (roleAction self.role)

def AFCollabMemberAccessLevelRow.policy (self : AFCollabMemberAccessLevelRow) : Rule :=
  policyRule self.uid (.collab self.oid) (levelAction self.accessLevel)

/-! ## The loops -/

/-- `while let Some(Ok(row))`, with the policies that have been pushed. -/
def loadPolicies {Row : Type} (policy : Row → Rule) :
    List (Except SqlxError Row) → List Rule → Except CasbinError (List Rule)
  | .ok row :: stream, policies => loadPolicies policy stream (policies ++ [policy row])
  | .error _ :: _, policies | [], policies => .ok policies

def loadWorkspacePolicies (stream : List (Except SqlxError AFWorkspaceMemberPermRow)) :
    Except CasbinError (List Rule) :=
  loadPolicies AFWorkspaceMemberPermRow.policy stream []

def loadCollabPolicies (stream : List (Except SqlxError AFCollabMemberAccessLevelRow)) :
    Except CasbinError (List Rule) :=
  loadPolicies AFCollabMemberAccessLevelRow.policy stream []

/-- `load_policy`, with the model as it leaves it. -/
def PgAdapter.loadPolicy (workspaceStream : List (Except SqlxError AFWorkspaceMemberPermRow))
    (collabStream : List (Except SqlxError AFCollabMemberAccessLevelRow)) (model : RuleTable Rule) :
    Except CasbinError Unit × RuleTable Rule :=
  match loadWorkspacePolicies workspaceStream with
  | .error failure => (.error failure, model)
  | .ok workspacePolicies =>
    let model := model.insertAll workspacePolicies
    match loadCollabPolicies collabStream with
    | .error failure => (.error failure, model)
    | .ok collabPolicies => (.ok (), model.insertAll collabPolicies)

/-- An error ends a loop just as the end of its stream does. -/
theorem loadPolicies_eq {Row : Type} (policy : Row → Rule) (stream : List (Except SqlxError Row))
    (policies : List Rule) :
    loadPolicies policy stream policies = .ok (policies ++ (untilError stream).map policy) := by
  induction stream generalizing policies with
  | nil => simp [loadPolicies, untilError]
  | cons item stream inductionHypothesis =>
    cases item with
    | error failure => simp [loadPolicies, untilError]
    | ok row =>
      rw [loadPolicies, inductionHypothesis, untilError]
      simp

section Load

variable {workspaceStream : List (Except SqlxError AFWorkspaceMemberPermRow)}
  {collabStream : List (Except SqlxError AFCollabMemberAccessLevelRow)} {model : RuleTable Rule}

theorem PgAdapter.loadPolicy_eq :
    PgAdapter.loadPolicy workspaceStream collabStream model =
      (.ok (), (model.insertAll ((untilError workspaceStream).map AFWorkspaceMemberPermRow.policy)).insertAll
        ((untilError collabStream).map AFCollabMemberAccessLevelRow.policy)) := by
  simp only [PgAdapter.loadPolicy, loadWorkspacePolicies, loadCollabPolicies, loadPolicies_eq, List.nil_append]

/-- An empty model is given the policies of the rows before the first error of each stream. -/
theorem PgAdapter.loadPolicy_empty :
    (PgAdapter.loadPolicy workspaceStream collabStream .empty).2 =
      Casbin.loadPolicy ((untilError workspaceStream).map fun row => (row.uid, row.workspaceId, row.role))
        ((untilError collabStream).map fun row => (row.uid, row.oid, row.accessLevel)) := by
  rw [PgAdapter.loadPolicy_eq, Casbin.loadPolicy, List.map_map, List.map_map]
  rfl

/-- The rows behind an error are not loaded, and the error is not seen. -/
theorem PgAdapter.loadPolicy_behind (rows : List AFWorkspaceMemberPermRow) (failure : SqlxError)
    (behind : List (Except SqlxError AFWorkspaceMemberPermRow)) :
    PgAdapter.loadPolicy (rows.map .ok ++ .error failure :: behind) collabStream model =
      PgAdapter.loadPolicy (rows.map .ok) collabStream model := by
  have whole : untilError (rows.map .ok : List (Except SqlxError AFWorkspaceMemberPermRow)) = rows := by
    simpa [untilError] using untilError_append rows ([] : List (Except SqlxError AFWorkspaceMemberPermRow))
  simp only [PgAdapter.loadPolicy_eq, untilError_append, whole, untilError, List.append_nil]

/-! ## All of the rows or an error -/

/-- A load that succeeds has a policy for every row that the streams delivered, and one that met
    an error of a stream has failed. -/
structure LoadsCompletely (workspaceStream : List (Except SqlxError AFWorkspaceMemberPermRow))
    (collabStream : List (Except SqlxError AFCollabMemberAccessLevelRow))
    (outcome : Except CasbinError Unit × RuleTable Rule) : Prop where
  workspaces : outcome.1 = .ok () → ∀ row, .ok row ∈ workspaceStream → row.policy ∈ outcome.2
  collabs : outcome.1 = .ok () → ∀ row, .ok row ∈ collabStream → row.policy ∈ outcome.2
  broken : (∃ failure, .error failure ∈ workspaceStream) ∨ (∃ failure, .error failure ∈ collabStream) →
    ∃ failure, outcome.1 = .error failure

/-- Neither stream fails. -/
structure Unbroken (workspaceStream : List (Except SqlxError AFWorkspaceMemberPermRow))
    (collabStream : List (Except SqlxError AFCollabMemberAccessLevelRow)) : Prop where
  workspaces : ∀ failure, .error failure ∉ workspaceStream
  collabs : ∀ failure, .error failure ∉ collabStream

theorem Unbroken.loadsCompletely (unbroken : Unbroken workspaceStream collabStream) :
    LoadsCompletely workspaceStream collabStream (PgAdapter.loadPolicy workspaceStream collabStream model) := by
  rw [PgAdapter.loadPolicy_eq]
  constructor
  · intro _ row sent
    have taken := mem_untilError_of_ok_mem unbroken.workspaces sent
    exact RuleTable.mem_insertAll.mpr (.inl (RuleTable.mem_insertAll.mpr (.inr (List.mem_map_of_mem taken))))
  · intro _ row sent
    have taken := mem_untilError_of_ok_mem unbroken.collabs sent
    exact RuleTable.mem_insertAll.mpr (.inr (List.mem_map_of_mem taken))
  · rintro (⟨failure, member⟩ | ⟨failure, member⟩)
    · exact absurd member (unbroken.workspaces failure)
    · exact absurd member (unbroken.collabs failure)

end Load

/-- The policies are loaded completely or not at all exactly as long as the streams do not fail. -/
theorem loadPolicy_completely_iff (workspaceStream : List (Except SqlxError AFWorkspaceMemberPermRow))
    (collabStream : List (Except SqlxError AFCollabMemberAccessLevelRow)) (model : RuleTable Rule) :
    LoadsCompletely workspaceStream collabStream (PgAdapter.loadPolicy workspaceStream collabStream model) ↔
      Unbroken workspaceStream collabStream := by
  constructor
  · intro completely
    have never : ¬ ∃ failure, (PgAdapter.loadPolicy workspaceStream collabStream model).1 = .error failure := by
      rw [PgAdapter.loadPolicy_eq]
      simp
    exact ⟨fun failure member => never (completely.broken (.inl ⟨failure, member⟩)),
      fun failure member => never (completely.broken (.inr ⟨failure, member⟩))⟩
  · exact Unbroken.loadsCompletely

/-- A connection that is lost before the first row leaves no policies, and the load succeeds. -/
theorem loadPolicy_swallows_error :
    ¬ ∀ workspaceStream collabStream model,
      LoadsCompletely workspaceStream collabStream (PgAdapter.loadPolicy workspaceStream collabStream model) := by
  intro completely
  obtain ⟨failure, failed⟩ :=
    (completely [.error (.other "connection closed")] [] .empty).broken (.inl ⟨_, List.mem_cons_self⟩)
  rw [PgAdapter.loadPolicy_eq] at failed
  cases failed

end FlowCloud.Casbin
