import QTom.Lib.Flowchart
import QTom.Loom.Replay

/- Projections of an event log (`loom_projection.rs`): six flowcharts read off the
   events, and the replay report that carries them.

   Three of them have one shape, effects hung under the causes they name, and are
   one definition with parameters (`Lineage.lines`); what they join through is a
   map from cause to effect, in which a later effect of a cause overwrites an
   earlier one. A `HashSet` yields its entries in an order the source does not
   determine, so the order in which the parents of integrations come is an argument
   of what iterates over them. -/
namespace QTom.Loom
open QTom.Lib InMemoryEventLog

/-! Refs. -/

/-- What follows the last slash. -/
def refTail (payloadRef : String) : String :=
  let tail := payloadRef.toList.rtakeWhile (· != '/')
  if tail.isEmpty then "unknown" else String.ofList tail

def isIntegrationGroupRef (payloadRef : String) : Bool :=
  containsText payloadRef "/integration/group/"

def isIntegrationReportRef (payloadRef : String) : Bool :=
  containsText payloadRef "/integration/report/"

def ofType (eventType : LoomEventType) (events : List LoomEvent) : List LoomEvent :=
  events.filter fun event => event.eventType = eventType

def taskNode (taskId : Nat) : FlowNode := ⟨"task", taskId⟩

def taskLine (taskId : Nat) : FlowLine := .node (taskNode taskId) ("Task " ++ toString taskId)

/-- The agent of an event, below the event's own node. -/
def agentLines (eventNode : FlowNode) : Option Nat → List FlowLine
  | none => []
  | some agentId =>
    [.node ⟨"agent", agentId⟩ ("Agent " ++ toString agentId), .edge eventNode ⟨"agent", agentId⟩]

/-! Effects under their causes. -/

/-- What a lineage projection joins, and the words it writes. -/
structure Lineage where
  causeType : LoomEventType
  effectType : LoomEventType
  causeKind : String
  effectKind : String
  causeLabel : LoomEvent → String
  effectLabel : Nat → LoomEvent → String
  namesAgent : Bool

namespace Lineage
variable (L : Lineage)

def causeNode (eventId : Nat) : FlowNode := ⟨L.causeKind, eventId⟩
def effectNode (eventId : Nat) : FlowNode := ⟨L.effectKind, eventId⟩

/-- The map from cause to effect. -/
def effectsByCause (events : List LoomEvent) : AList fun _ : Nat => LoomEvent :=
  (ofType L.effectType events).foldl (indexInsert LoomEvent.causationId) ∅

def causeLines (taskId : Nat) (cause : LoomEvent) : List FlowLine :=
  [taskLine taskId,
   .node (L.causeNode cause.eventId) (L.causeLabel cause),
   .edge (taskNode taskId) (L.causeNode cause.eventId)]

def effectLines (taskId : Nat) (cause effect : LoomEvent) : List FlowLine :=
  [.node (L.effectNode effect.eventId) (L.effectLabel taskId effect),
   .edge (L.causeNode cause.eventId) (L.effectNode effect.eventId)] ++
  if L.namesAgent then agentLines (L.effectNode effect.eventId) effect.agentId else []

/-- One round of the loop over the causes. -/
def linesOf (events : List LoomEvent) (cause : LoomEvent) : List FlowLine :=
  match cause.taskId with
  | none => []
  | some taskId =>
    L.causeLines taskId cause ++
      match (L.effectsByCause events).lookup cause.eventId with
      | none => []
      | some effect => L.effectLines taskId cause effect

def lines (log : InMemoryEventLog) : List FlowLine :=
  let events := log.replay .start
  (ofType L.causeType events).flatMap (L.linesOf events)

end Lineage

def routeDecisionId (event : LoomEvent) : String := refTail event.payloadRef

def routeTrace : Lineage where
  causeType := .routeDecisionRecorded
  effectType := .taskAssigned
  causeKind := "route"
  effectKind := "assignment"
  causeLabel := fun route => "RouteDecision " ++ routeDecisionId route
  effectLabel := fun taskId _ => "TaskAssigned " ++ toString taskId
  namesAgent := true

def artifactProvenance : Lineage where
  causeType := .artifactDeclared
  effectType := .artifactReady
  causeKind := "artifact_declared"
  effectKind := "artifact_ready"
  causeLabel := fun declared => "ArtifactDeclared " ++ refTail declared.payloadRef
  effectLabel := fun _ ready => "ArtifactReady " ++ refTail ready.payloadRef
  namesAgent := true

def memoryLineage : Lineage where
  causeType := .agentDecommissioned
  effectType := .memoryNodeCreated
  causeKind := "decommission"
  effectKind := "memory"
  causeLabel := fun decommission =>
    "Decommission " ++ (decommission.agentId.map toString).getD "unknown"
  effectLabel := fun _ memory => "MemoryNode " ++ refTail memory.payloadRef
  namesAgent := false

def routeTraceProjection (log : InMemoryEventLog) : String := flowchart (routeTrace.lines log)

def artifactProvenanceProjection (log : InMemoryEventLog) : String :=
  flowchart (artifactProvenance.lines log)

def memoryLineageProjection (log : InMemoryEventLog) : String := flowchart (memoryLineage.lines log)

/-! Tasks and their integrations. -/

/-- `map.entry(parent).or_default().push(task)`. -/
def pushChild (map : AList fun _ : Nat => List Nat) (event : LoomEvent) :
    AList fun _ : Nat => List Nat :=
  match event.taskId, event.parentTaskId with
  | some task, some parent => map.insert parent ((map.lookup parent).getD [] ++ [task])
  | _, _ => map

def childTaskIdsByParent (taskEvents : List LoomEvent) : AList fun _ : Nat => List Nat :=
  taskEvents.foldl pushChild ∅

def taskDependencyLinesOf (event : LoomEvent) : List FlowLine :=
  match event.taskId with
  | none => []
  | some taskId =>
    taskLine taskId ::
      match event.parentTaskId with
      | none => []
      | some parentTaskId => [.edge (taskNode parentTaskId) (taskNode taskId)]

/-- The tasks, as the first loop writes them. -/
def taskLines (log : InMemoryEventLog) : List FlowLine :=
  (ofType .taskCreated (log.replay .start)).flatMap taskDependencyLinesOf

def integrationNode (parentTaskId : Nat) : FlowNode := ⟨"integration", parentTaskId⟩

/-- One round of the loop over the parents. -/
def integrationLinesOf (children : AList fun _ : Nat => List Nat) (parentTaskId : Nat) :
    List FlowLine :=
  .node (integrationNode parentTaskId) ("Integration " ++ toString parentTaskId) ::
    ((children.lookup parentTaskId).getD []).map fun childTaskId =>
      .edge (taskNode childTaskId) (integrationNode parentTaskId)

/-- The set the source collects into a `HashSet`. -/
def integrationParentIds (log : InMemoryEventLog) : Finset Nat :=
  ((ofType .integrationRequested (log.replay .start)).filterMap LoomEvent.taskId).toFinset

/-- An order in which a `HashSet` may yield its entries. -/
structure IterationOrder (ids : Finset Nat) (order : List Nat) : Prop where
  nodup : order.Nodup
  mem : ∀ id, id ∈ order ↔ id ∈ ids

/-- The projection when the integration parents come in the given order. -/
def taskDependencyProjection (log : InMemoryEventLog) (parentOrder : List Nat) : String :=
  let children := childTaskIdsByParent (ofType .taskCreated (log.replay .start))
  flowchart (taskLines log ++ parentOrder.flatMap (integrationLinesOf children))

/-! Integration groups and their reports. -/

/-- The map from group id to report. -/
def reportEventsByGroupId (events : List LoomEvent) : AList fun _ : String => LoomEvent :=
  ((ofType .integrationRequested events).filter
    fun event => isIntegrationReportRef event.payloadRef).foldl
      (indexInsert fun event => some (refTail event.payloadRef)) ∅

def integrationGroupLinesOf (children : AList fun _ : Nat => List Nat)
    (reports : AList fun _ : String => LoomEvent) (group : LoomEvent) : List FlowLine :=
  match group.taskId with
  | none => []
  | some parentTaskId =>
    let groupId := refTail group.payloadRef
    let groupNode : FlowNode := ⟨"integration_group", group.eventId⟩
    [taskLine parentTaskId,
     .node groupNode ("IntegrationGroup " ++ groupId),
     .edge (taskNode parentTaskId) groupNode] ++
    (((children.lookup parentTaskId).getD []).flatMap fun childTaskId =>
      [taskLine childTaskId, .edge (taskNode childTaskId) groupNode]) ++
    match reports.lookup groupId with
    | none => []
    | some report =>
      let reportNode : FlowNode := ⟨"integration_report", report.eventId⟩
      [.node reportNode ("IntegrationReport " ++ groupId), .edge groupNode reportNode] ++
      agentLines reportNode report.agentId

def integrationGroupProjection (log : InMemoryEventLog) : String :=
  let events := log.replay .start
  let children := childTaskIdsByParent (ofType .taskCreated events)
  let groups := (ofType .integrationRequested events).filter
    fun event => isIntegrationGroupRef event.payloadRef
  flowchart (groups.flatMap (integrationGroupLinesOf children (reportEventsByGroupId events)))

/-! Topology governance. -/

def isTopologyEvent (event : LoomEvent) : Bool :=
  match event.eventType with
  | .topologyProposed | .topologyShadowed | .topologyCanaried | .topologyCommitted
  | .topologyRolledBack => true
  | _ => false

def topologyNodeId (event : LoomEvent) : FlowNode :=
  match event.eventType with
  | .topologyProposed => ⟨"topology_proposed", event.eventId⟩
  | .topologyShadowed => ⟨"topology_shadowed", event.eventId⟩
  | .topologyCanaried => ⟨"topology_canaried", event.eventId⟩
  | .topologyCommitted => ⟨"topology_committed", event.eventId⟩
  | .topologyRolledBack => ⟨"topology_rolled_back", event.eventId⟩
  | _ => ⟨"topology_event", event.eventId⟩

def topologyLabel (event : LoomEvent) : String :=
  let snapshotId := (event.topologySnapshotId.map toString).getD "unknown"
  match event.eventType with
  | .topologyProposed => "TopologyProposed " ++ refTail event.payloadRef
  | .topologyShadowed => "TopologyShadowed " ++ refTail event.payloadRef
  | .topologyCanaried => "TopologyCanaried " ++ refTail event.payloadRef
  | .topologyCommitted => "TopologyCommitted " ++ snapshotId
  | .topologyRolledBack => "TopologyRolledBack " ++ snapshotId
  | _ => "TopologyEvent " ++ toString event.eventId

def topologyLinesOf (topologyEventsById : AList fun _ : Nat => LoomEvent) (event : LoomEvent) :
    List FlowLine :=
  .node (topologyNodeId event) (topologyLabel event) ::
    match event.causationId.bind topologyEventsById.lookup with
    | none => []
    | some cause => [.edge (topologyNodeId cause) (topologyNodeId event)]

def topologyGovernanceProjection (log : InMemoryEventLog) : String :=
  let topologyEvents := (log.replay .start).filter isTopologyEvent
  let topologyEventsById := topologyEvents.foldl (indexInsert fun event => some event.eventId) ∅
  flowchart (topologyEvents.flatMap (topologyLinesOf topologyEventsById))

/-! The bundle and the report. -/

structure LoomProjectionBundle where
  taskDependency : String
  routeTrace : String
  artifactProvenance : String
  integrationGroup : String
  memoryLineage : String
  topologyGovernance : String
  deriving DecidableEq

def loomProjectionBundle (log : InMemoryEventLog) (parentOrder : List Nat) :
    LoomProjectionBundle where
  taskDependency := taskDependencyProjection log parentOrder
  routeTrace := routeTraceProjection log
  artifactProvenance := artifactProvenanceProjection log
  integrationGroup := integrationGroupProjection log
  memoryLineage := memoryLineageProjection log
  topologyGovernance := topologyGovernanceProjection log

structure LoomReplayReport where
  validation : ReplayValidationReport
  projections : LoomProjectionBundle
  deriving DecidableEq

def loomReplayReport (log : InMemoryEventLog) (parentOrder : List Nat) :
    Except LoomEventError LoomReplayReport := do
  if log.events.isEmpty then throw .emptyReplayLog
  let validation ← log.validateReplay
  return ⟨validation, loomProjectionBundle log parentOrder⟩

end QTom.Loom
