import QTom.Lib.Runs
import QTom.Lib.Text

/- Task Loom events (`loom.rs`): the shared envelope, the fields each event type
   requires, the cause each event type requires, and the errors of the log and
   of replay validation. Ids and timestamps are u64 in the source and are only
   compared here, so they are `Nat`. -/
namespace QTom.Loom
open QTom.Lib

inductive LoomEventType where
  | taskCreated
  | taskAssigned
  | artifactDeclared
  | artifactReady
  | signalEmitted
  | taskBlocked
  | taskResumed
  | taskCompleted
  | agentDecommissioned
  | integrationRequested
  | memoryNodeCreated
  | indexUpdated
  | routeDecisionRecorded
  | topologyProposed
  | topologyShadowed
  | topologyCanaried
  | topologyCommitted
  | topologyRolledBack
  deriving DecidableEq, Repr

structure LoomEvent where
  eventId : Nat
  eventType : LoomEventType
  rootTaskId : Nat
  taskId : Option Nat
  parentTaskId : Option Nat
  promptId : Option Nat
  agentId : Option Nat
  agentRole : Option String
  topologySnapshotId : Option Nat
  payloadSchema : String
  payloadRef : String
  occurredAtMs : Nat
  causationId : Option Nat
  correlationId : Nat
  deriving DecidableEq, Repr

inductive LoomEventError where
  | emptyReplayLog
  | duplicateEventId (eventId : Nat)
  | missingPayloadSchema
  | missingPayloadRef
  | missingRequiredField (eventType : LoomEventType) (field : String)
  | missingRequiredCausation (eventType : LoomEventType)
  | unknownCausationId (eventId : Nat)
  | invalidCausationType (eventType : LoomEventType) (causationId : Nat)
      (expected actual : LoomEventType)
  | missingTaskDecommission (taskId : Nat)
  | mismatchedTaskDecommission (taskId decommissionEventId : Nat) (field : String)
  | missingTaskRouteDecision (taskId : Nat)
  | mismatchedTaskRouteDecision (taskId routeTaskId : Nat)
  | mismatchedRouteDecisionContext (assignmentEventId routeDecisionEventId : Nat) (field : String)
  | mismatchedArtifactReady (readyEventId declaredEventId : Nat) (field : String)
  | invalidRouteDecisionTelemetry (eventId : Nat) (field : String)
  | missingMemoryEvidence (eventId : Nat)
  | mismatchedMemoryEvidence (memoryEventId decommissionEventId : Nat) (field : String)
  | missingTaskIntegration (taskId : Nat)
  | mismatchedTaskIntegration (taskId integrationEventId : Nat) (field : String)
  | io (path source : String)
  | json (line : Option Nat) (source : String)
  deriving DecidableEq, Repr

def requiresTaskId : LoomEventType → Bool
  | .taskCreated | .taskAssigned | .taskBlocked | .taskResumed | .taskCompleted
  | .routeDecisionRecorded => true
  | _ => false

def requiresAgentId : LoomEventType → Bool
  | .agentDecommissioned => true
  | _ => false

def requiresTopologySnapshotId : LoomEventType → Bool
  | .routeDecisionRecorded | .topologyCommitted | .topologyRolledBack => true
  | _ => false

/-- The type of event an event of this type must name as its cause. -/
def requiredCause : LoomEventType → Option LoomEventType
  | .taskAssigned => some .routeDecisionRecorded
  | .artifactReady => some .artifactDeclared
  | .taskResumed => some .taskBlocked
  | .topologyShadowed => some .topologyProposed
  | .topologyCanaried => some .topologyShadowed
  | .topologyCommitted => some .topologyProposed
  | .topologyRolledBack => some .topologyCommitted
  | _ => none

namespace LoomEvent

def validateRequiredFields (e : LoomEvent) : Except LoomEventError Unit :=
  if requiresTaskId e.eventType && e.taskId.isNone then
    .error (.missingRequiredField e.eventType "task_id")
  else if requiresAgentId e.eventType && e.agentId.isNone then
    .error (.missingRequiredField e.eventType "agent_id")
  else if requiresTopologySnapshotId e.eventType && e.topologySnapshotId.isNone then
    .error (.missingRequiredField e.eventType "topology_snapshot_id")
  else .ok ()

def validate (e : LoomEvent) : Except LoomEventError Unit :=
  if isBlank e.payloadSchema then .error .missingPayloadSchema
  else if isBlank e.payloadRef then .error .missingPayloadRef
  else e.validateRequiredFields

/-- The event on its own is fit to be logged. -/
structure Valid (e : LoomEvent) : Prop where
  schema : ∃ c ∈ e.payloadSchema.toList, isWhiteSpace c = false
  ref : ∃ c ∈ e.payloadRef.toList, isWhiteSpace c = false
  task : requiresTaskId e.eventType = true → e.taskId.isSome = true
  agent : requiresAgentId e.eventType = true → e.agentId.isSome = true
  snapshot : requiresTopologySnapshotId e.eventType = true → e.topologySnapshotId.isSome = true

theorem validateRequiredFields_ok_iff {e : LoomEvent} : e.validateRequiredFields = .ok () ↔
    (requiresTaskId e.eventType = true → e.taskId.isSome = true) ∧
    (requiresAgentId e.eventType = true → e.agentId.isSome = true) ∧
    (requiresTopologySnapshotId e.eventType = true → e.topologySnapshotId.isSome = true) := by
  unfold validateRequiredFields
  cases requiresTaskId e.eventType <;> cases e.taskId <;>
    cases requiresAgentId e.eventType <;> cases e.agentId <;>
    cases requiresTopologySnapshotId e.eventType <;> cases e.topologySnapshotId <;> simp

theorem not_isBlank_iff {s : String} :
    isBlank s = false ↔ ∃ c ∈ s.toList, isWhiteSpace c = false := by
  rw [← Bool.not_eq_true, isBlank_iff]
  simp

theorem validate_ok_iff {e : LoomEvent} : e.validate = .ok () ↔ e.Valid := by
  unfold validate
  refine ⟨?_, ?_⟩
  · intro h
    split at h
    · cases h
    · next hs =>
      split at h
      · cases h
      · next hr =>
        obtain ⟨ht, ha, hp⟩ := validateRequiredFields_ok_iff.mp h
        exact ⟨not_isBlank_iff.mp (by simpa using hs), not_isBlank_iff.mp (by simpa using hr),
          ht, ha, hp⟩
  · intro h
    rw [not_isBlank_iff.mpr h.schema, not_isBlank_iff.mpr h.ref]
    exact validateRequiredFields_ok_iff.mpr ⟨h.task, h.agent, h.snapshot⟩

end LoomEvent

/-- An event as the log's tests build it: root task 1, snapshot 3, correlation 99. -/
def testEvent (eventType : LoomEventType) (eventId taskId : Nat) : LoomEvent where
  eventId := eventId
  eventType := eventType
  rootTaskId := 1
  taskId := some taskId
  parentTaskId := none
  promptId := some 7
  agentId := some 42
  agentRole := none
  topologySnapshotId := some 3
  payloadSchema := "test.payload.v1"
  payloadRef := "inline://event"
  occurredAtMs := 1000 + eventId
  causationId := none
  correlationId := 99

/-! Context checks: two events compared field by field, the first field that
differs named in the error. -/

def checkFields (mismatch : String → LoomEventError) :
    List (String × Bool) → Except LoomEventError Unit
  | [] => .ok ()
  | (field, agrees) :: rest =>
    if agrees then checkFields mismatch rest else .error (mismatch field)

theorem checkFields_ok_iff {mismatch : String → LoomEventError} {fields : List (String × Bool)} :
    checkFields mismatch fields = .ok () ↔ ∀ f ∈ fields, f.2 = true := by
  induction fields with
  | nil => simp [checkFields]
  | cons f rest ih =>
    obtain ⟨field, agrees⟩ := f
    cases agrees <;> simp [checkFields, ih]

/-- A failed check names a field of the list that differs. -/
theorem checkFields_error {mismatch : String → LoomEventError} {fields : List (String × Bool)}
    {err : LoomEventError} (h : checkFields mismatch fields = .error err) :
    ∃ field, (field, false) ∈ fields ∧ err = mismatch field := by
  induction fields with
  | nil => cases h
  | cons f rest ih =>
    obtain ⟨field, agrees⟩ := f
    cases agrees with
    | false =>
      simp only [checkFields, Bool.false_eq_true, if_false, Except.error.injEq] at h
      exact ⟨field, by simp, h.symm⟩
    | true =>
      simp only [checkFields, if_true] at h
      obtain ⟨field', hm, he⟩ := ih h
      exact ⟨field', List.mem_cons_of_mem _ hm, he⟩

def validateArtifactReadyContext (ready declared : LoomEvent) : Except LoomEventError Unit :=
  checkFields (.mismatchedArtifactReady ready.eventId declared.eventId)
    [("task_id", ready.taskId == declared.taskId),
     ("root_task_id", ready.rootTaskId == declared.rootTaskId),
     ("correlation_id", ready.correlationId == declared.correlationId),
     ("payload_ref", ready.payloadRef == declared.payloadRef)]

def validateRouteDecisionAssignmentContext (assignment routeDecision : LoomEvent) :
    Except LoomEventError Unit :=
  let taskId := assignment.taskId.getD 0
  let routeTaskId := routeDecision.taskId.getD 0
  if taskId ≠ routeTaskId then .error (.mismatchedTaskRouteDecision taskId routeTaskId)
  else checkFields (.mismatchedRouteDecisionContext assignment.eventId routeDecision.eventId)
    [("root_task_id", assignment.rootTaskId == routeDecision.rootTaskId),
     ("correlation_id", assignment.correlationId == routeDecision.correlationId)]

def validateMemoryEvidenceContext (memory decommission : LoomEvent) : Except LoomEventError Unit :=
  checkFields (.mismatchedMemoryEvidence memory.eventId decommission.eventId)
    [("task_id", memory.taskId == decommission.taskId),
     ("root_task_id", memory.rootTaskId == decommission.rootTaskId),
     ("correlation_id", memory.correlationId == decommission.correlationId)]

/-- Same root task and same correlation. -/
def SameContext (a b : LoomEvent) : Prop :=
  a.rootTaskId = b.rootTaskId ∧ a.correlationId = b.correlationId

instance (a b : LoomEvent) : Decidable (SameContext a b) := inferInstanceAs (Decidable (_ ∧ _))

theorem validateArtifactReadyContext_ok_iff {r d : LoomEvent} :
    validateArtifactReadyContext r d = .ok () ↔
      r.taskId = d.taskId ∧ SameContext r d ∧ r.payloadRef = d.payloadRef := by
  simp [validateArtifactReadyContext, checkFields_ok_iff, SameContext, and_assoc]

theorem validateRouteDecisionAssignmentContext_ok_iff {a r : LoomEvent} :
    validateRouteDecisionAssignmentContext a r = .ok () ↔
      a.taskId.getD 0 = r.taskId.getD 0 ∧ SameContext a r := by
  unfold validateRouteDecisionAssignmentContext
  by_cases h : a.taskId.getD 0 = r.taskId.getD 0
  · simp [h, checkFields_ok_iff, SameContext]
  · simp [h]

theorem validateMemoryEvidenceContext_ok_iff {m d : LoomEvent} :
    validateMemoryEvidenceContext m d = .ok () ↔ m.taskId = d.taskId ∧ SameContext m d := by
  simp [validateMemoryEvidenceContext, checkFields_ok_iff, SameContext]

end QTom.Loom
