import QTom.Loom.Ledger

/- Tasks, plans, artifacts and memory (`loom_model.rs`): what a director, a
   constructor, an integrator and a curator hand each other. A constructor checks
   its texts and its lists and builds the value from its arguments; ids and
   timestamps are u64 and only copied here, so they are `Nat`. -/
namespace QTom.Loom
open QTom.Lib

structure TaskEnvelope where
  taskId : Nat
  rootTaskId : Nat
  parentTaskId : Option Nat
  promptId : Nat
  planId : Nat
  integrationGroupId : Nat
  summary : String
  deriving DecidableEq, Repr

inductive DependencyKind where
  | blocks
  | providesEvidence
  | repairsGap
  deriving DecidableEq, Repr

structure DependencyEdge where
  fromTaskId : Nat
  toTaskId : Nat
  kind : DependencyKind
  deriving DecidableEq, Repr

structure PlanNode where
  planId : Nat
  rootTaskId : Nat
  taskId : Nat
  directorAgentId : Nat
  decompositionReasonRef : String
  childTaskIds : List Nat
  dependencyEdges : List DependencyEdge
  integrationGroupId : Nat
  acceptanceCriteriaRef : String
  riskFlags : List String
  deriving DecidableEq, Repr

inductive JoinPolicy where
  | waitAll
  | waitQuorum
  | waitFirstViable
  | timeoutThenIntegrate
  | streamingIncremental
  | humanGate
  deriving DecidableEq, Repr

structure IntegrationGroup where
  integrationGroupId : Nat
  rootTaskId : Nat
  parentTaskId : Nat
  planId : Nat
  expectedChildTaskIds : List Nat
  joinPolicy : JoinPolicy
  acceptanceCriteriaRef : String
  integrationAgentIds : List Nat
  deriving DecidableEq, Repr

structure ArtifactRef where
  artifactId : Nat
  rootTaskId : Nat
  taskId : Nat
  agentId : Nat
  artifactKind : String
  contentRef : String
  deriving DecidableEq, Repr

inductive IntegrationStatus where
  | accepted
  | needsRepair
  | rejected
  deriving DecidableEq, Repr

structure IntegrationReport where
  integrationGroupId : Nat
  includedTaskIds : List Nat
  excludedTaskIds : List Nat
  conflictEdges : List DependencyEdge
  gapEdges : List DependencyEdge
  repairTaskIds : List Nat
  finalArtifactRefs : List Nat
  reportRef : String
  acceptanceStatus : IntegrationStatus
  deriving DecidableEq, Repr

inductive MemoryNodeKind where
  | episode
  | decision
  | artifact
  | heuristic
  | failure
  | preference
  | openLoop
  deriving DecidableEq, Repr

structure MemoryNode where
  memoryNodeId : Nat
  kind : MemoryNodeKind
  rootTaskId : Nat
  taskId : Nat
  packetId : Nat
  evidenceRefs : List String
  summary : String
  deriving DecidableEq, Repr

/-! Their constructors. -/

def TaskEnvelope.root (taskId promptId : Nat) (summary : String) :
    Except LoomModelError TaskEnvelope := do
  ensureNotEmpty "summary" summary
  return {
    taskId, rootTaskId := taskId, parentTaskId := none, promptId
    planId := 0, integrationGroupId := 0, summary }

def TaskEnvelope.child (taskId rootTaskId parentTaskId promptId planId integrationGroupId : Nat)
    (summary : String) : Except LoomModelError TaskEnvelope := do
  ensureNotEmpty "summary" summary
  return {
    taskId, rootTaskId, parentTaskId := some parentTaskId, promptId
    planId, integrationGroupId, summary }

def PlanNode.new (planId rootTaskId taskId directorAgentId : Nat) (decompositionReasonRef : String)
    (childTaskIds : List Nat) (dependencyEdges : List DependencyEdge) (integrationGroupId : Nat)
    (acceptanceCriteriaRef : String) (riskFlags : List String) :
    Except LoomModelError PlanNode := do
  ensureNotEmptyCollection "child_task_ids" childTaskIds
  ensureNotEmpty "decomposition_reason_ref" decompositionReasonRef
  ensureNotEmpty "acceptance_criteria_ref" acceptanceCriteriaRef
  return {
    planId, rootTaskId, taskId, directorAgentId, decompositionReasonRef, childTaskIds
    dependencyEdges, integrationGroupId, acceptanceCriteriaRef, riskFlags }

def IntegrationGroup.new (integrationGroupId rootTaskId parentTaskId planId : Nat)
    (expectedChildTaskIds : List Nat) (joinPolicy : JoinPolicy) (acceptanceCriteriaRef : String)
    (integrationAgentIds : List Nat) : Except LoomModelError IntegrationGroup := do
  ensureNotEmptyCollection "expected_child_task_ids" expectedChildTaskIds
  ensureNotEmptyCollection "integration_agent_ids" integrationAgentIds
  ensureNotEmpty "acceptance_criteria_ref" acceptanceCriteriaRef
  return {
    integrationGroupId, rootTaskId, parentTaskId, planId, expectedChildTaskIds, joinPolicy
    acceptanceCriteriaRef, integrationAgentIds }

def ArtifactRef.new (artifactId rootTaskId taskId agentId : Nat) (artifactKind contentRef : String) :
    Except LoomModelError ArtifactRef := do
  ensureNotEmpty "artifact_kind" artifactKind
  ensureNotEmpty "content_ref" contentRef
  return { artifactId, rootTaskId, taskId, agentId, artifactKind, contentRef }

def IntegrationReport.accepted (integrationGroupId : Nat) (includedTaskIds finalArtifactRefs : List Nat)
    (reportRef : String) : Except LoomModelError IntegrationReport := do
  ensureNotEmptyCollection "included_task_ids" includedTaskIds
  ensureNotEmptyCollection "final_artifact_refs" finalArtifactRefs
  ensureNotEmpty "report_ref" reportRef
  return {
    integrationGroupId, includedTaskIds, excludedTaskIds := [], conflictEdges := []
    gapEdges := [], repairTaskIds := [], finalArtifactRefs, reportRef
    acceptanceStatus := .accepted }

def MemoryNode.fromPacket (memoryNodeId : Nat) (kind : MemoryNodeKind)
    (rootTaskId taskId packetId : Nat) (evidenceRefs : List String) (summary : String) :
    Except LoomModelError MemoryNode := do
  ensureNotEmptyCollection "evidence_refs" evidenceRefs
  ensureNotEmpty "summary" summary
  return { memoryNodeId, kind, rootTaskId, taskId, packetId, evidenceRefs, summary }

/-! What they build. -/

theorem TaskEnvelope.root_ok {summary : String} (h : isBlank summary = false) (taskId promptId : Nat) :
    root taskId promptId summary = .ok ⟨taskId, taskId, none, promptId, 0, 0, summary⟩ := by
  unfold root
  rw [ensureNotEmpty_ok_iff.mpr h]
  rfl

theorem TaskEnvelope.child_ok {summary : String} (h : isBlank summary = false)
    (taskId rootTaskId parentTaskId promptId planId integrationGroupId : Nat) :
    child taskId rootTaskId parentTaskId promptId planId integrationGroupId summary =
      .ok ⟨taskId, rootTaskId, some parentTaskId, promptId, planId, integrationGroupId, summary⟩ := by
  unfold child
  rw [ensureNotEmpty_ok_iff.mpr h]
  rfl

theorem PlanNode.new_ok {decompositionReasonRef acceptanceCriteriaRef : String}
    {childTaskIds : List Nat} (hchildren : childTaskIds ≠ [])
    (hreason : isBlank decompositionReasonRef = false)
    (hcriteria : isBlank acceptanceCriteriaRef = false) (planId rootTaskId taskId directorAgentId : Nat)
    (dependencyEdges : List DependencyEdge) (integrationGroupId : Nat) (riskFlags : List String) :
    new planId rootTaskId taskId directorAgentId decompositionReasonRef childTaskIds dependencyEdges
        integrationGroupId acceptanceCriteriaRef riskFlags =
      .ok ⟨planId, rootTaskId, taskId, directorAgentId, decompositionReasonRef, childTaskIds,
        dependencyEdges, integrationGroupId, acceptanceCriteriaRef, riskFlags⟩ := by
  unfold new
  rw [ensureNotEmptyCollection_ok_iff.mpr hchildren, ensureNotEmpty_ok_iff.mpr hreason,
    ensureNotEmpty_ok_iff.mpr hcriteria]
  rfl

theorem IntegrationGroup.new_ok {expectedChildTaskIds integrationAgentIds : List Nat}
    {acceptanceCriteriaRef : String} (hchildren : expectedChildTaskIds ≠ [])
    (hagents : integrationAgentIds ≠ []) (hcriteria : isBlank acceptanceCriteriaRef = false)
    (integrationGroupId rootTaskId parentTaskId planId : Nat) (joinPolicy : JoinPolicy) :
    new integrationGroupId rootTaskId parentTaskId planId expectedChildTaskIds joinPolicy
        acceptanceCriteriaRef integrationAgentIds =
      .ok ⟨integrationGroupId, rootTaskId, parentTaskId, planId, expectedChildTaskIds, joinPolicy,
        acceptanceCriteriaRef, integrationAgentIds⟩ := by
  unfold new
  rw [ensureNotEmptyCollection_ok_iff.mpr hchildren, ensureNotEmptyCollection_ok_iff.mpr hagents,
    ensureNotEmpty_ok_iff.mpr hcriteria]
  rfl

theorem ArtifactRef.new_ok {artifactKind contentRef : String} (hkind : isBlank artifactKind = false)
    (hcontent : isBlank contentRef = false) (artifactId rootTaskId taskId agentId : Nat) :
    new artifactId rootTaskId taskId agentId artifactKind contentRef =
      .ok ⟨artifactId, rootTaskId, taskId, agentId, artifactKind, contentRef⟩ := by
  unfold new
  rw [ensureNotEmpty_ok_iff.mpr hkind, ensureNotEmpty_ok_iff.mpr hcontent]
  rfl

theorem IntegrationReport.accepted_ok {includedTaskIds finalArtifactRefs : List Nat}
    {reportRef : String} (hincluded : includedTaskIds ≠ []) (hartifacts : finalArtifactRefs ≠ [])
    (hreport : isBlank reportRef = false) (integrationGroupId : Nat) :
    accepted integrationGroupId includedTaskIds finalArtifactRefs reportRef =
      .ok ⟨integrationGroupId, includedTaskIds, [], [], [], [], finalArtifactRefs, reportRef,
        .accepted⟩ := by
  unfold accepted
  rw [ensureNotEmptyCollection_ok_iff.mpr hincluded, ensureNotEmptyCollection_ok_iff.mpr hartifacts,
    ensureNotEmpty_ok_iff.mpr hreport]
  rfl

theorem MemoryNode.fromPacket_ok {evidenceRefs : List String} {summary : String}
    (hevidence : evidenceRefs ≠ []) (hsummary : isBlank summary = false) (memoryNodeId : Nat)
    (kind : MemoryNodeKind) (rootTaskId taskId packetId : Nat) :
    fromPacket memoryNodeId kind rootTaskId taskId packetId evidenceRefs summary =
      .ok ⟨memoryNodeId, kind, rootTaskId, taskId, packetId, evidenceRefs, summary⟩ := by
  unfold fromPacket
  rw [ensureNotEmptyCollection_ok_iff.mpr hevidence, ensureNotEmpty_ok_iff.mpr hsummary]
  rfl

end QTom.Loom
