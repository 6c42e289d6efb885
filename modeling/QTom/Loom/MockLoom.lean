import QTom.Lib.Checked
import QTom.Loom.LogRuns
import QTom.Loom.TaskRoute
import QTom.Router.Checked

/- The mock Split-Build-Join-Remember loom (`loom_mock.rs`): a director splits a root
   task in two, a constructor builds each child, an integrator joins the artifacts and
   a curator remembers the decommissioned agents. A run ends with an output, with an
   error of the model, or in a panic: an `expect` on an append, or a u64 sum past the
   configured ids. The director makes two children, so what is added to a literal for
   a child's index is plain. -/
namespace QTom.Loom
open QTom.Lib QTom.Router

/-- How a run ends without an output. -/
inductive LoomFailure where
  | model (error : LoomModelError)
  | panicked (kind : PanicKind)
  deriving DecidableEq, Repr

abbrev LoomRun (α : Type) := Except LoomFailure α

/-- `?` on a constructor's result. -/
def ofModel {α : Type} : Except LoomModelError α → LoomRun α
  | .ok a => .ok a
  | .error err => .error (.model err)

def ofChecked {α : Type} : Checked α → LoomRun α
  | .ok a => .ok a
  | .error kind => .error (.panicked kind)

/-- `.expect(..)` on a result or an option. -/
def expectOk {ε α : Type} : Except ε α → LoomRun α
  | .ok a => .ok a
  | .error _ => .error (.panicked .expectFailed)

namespace InMemoryEventLog

/-- `append(..).expect(..)`. -/
def appendExpected (log : InMemoryEventLog) (event : LoomEvent) : LoomRun InMemoryEventLog :=
  expectOk (log.appendOrFail event)

/-- `events_by_type`. -/
def eventsByType (log : InMemoryEventLog) (eventType : LoomEventType) : List LoomEvent :=
  log.events.filter fun event => event.eventType = eventType

/-- `events_by_type(..).into_iter().next().expect(..)`. -/
def firstOfType (log : InMemoryEventLog) (eventType : LoomEventType) : LoomRun LoomEvent :=
  ofChecked (Checked.expect (log.eventsByType eventType).head?)

end InMemoryEventLog

open InMemoryEventLog

/-! The director. -/

structure MockDirectorConfig where
  directorAgentId : Nat
  integrationAgentId : Nat
  nextPlanId : Nat
  nextIntegrationGroupId : Nat
  nextChildTaskId : Nat
  deriving DecidableEq, Repr

def MockDirectorConfig.default : MockDirectorConfig := ⟨500, 700, 1, 1, 1000⟩

structure MockDirector where
  config : MockDirectorConfig
  deriving DecidableEq, Repr

structure DirectorOutput where
  plan : PlanNode
  children : List TaskEnvelope
  integrationGroup : IntegrationGroup
  deriving DecidableEq, Repr

def MockDirector.splitRootTask (director : MockDirector)
    (promptId rootTaskId rootTaskGraphId : Nat) (summary : String) : LoomRun DirectorOutput := do
  let config := director.config
  ofModel (ensureNotEmpty "summary" summary)
  let childA ← ofModel (TaskEnvelope.child config.nextChildTaskId rootTaskGraphId rootTaskId promptId
    config.nextPlanId config.nextIntegrationGroupId ("Explore: " ++ summary))
  let secondTaskId ← ofChecked (Checked.add config.nextChildTaskId 1)
  let childB ← ofModel (TaskEnvelope.child secondTaskId rootTaskGraphId rootTaskId promptId
    config.nextPlanId config.nextIntegrationGroupId ("Validate: " ++ summary))
  let children := [childA, childB]
  let childTaskIds := children.map TaskEnvelope.taskId
  let plan ← ofModel (PlanNode.new config.nextPlanId rootTaskGraphId rootTaskId
    config.directorAgentId ("inline://decomposition/" ++ toString config.nextPlanId) childTaskIds
    [⟨childA.taskId, childB.taskId, .providesEvidence⟩] config.nextIntegrationGroupId
    ("inline://acceptance/" ++ toString config.nextPlanId) ["mock_director_split"])
  let integrationGroup ← ofModel (IntegrationGroup.new config.nextIntegrationGroupId rootTaskGraphId
    rootTaskId config.nextPlanId childTaskIds .waitAll plan.acceptanceCriteriaRef
    [config.integrationAgentId])
  return { plan, children, integrationGroup }

/-! The builder. -/

structure MockConstructorConfig where
  agentId : Nat
  nextArtifactId : Nat
  nextEventId : Nat
  occurredAtMs : Nat
  correlationId : Nat
  deriving DecidableEq, Repr

structure MockConstructor where
  config : MockConstructorConfig
  deriving DecidableEq, Repr

structure ConstructorOutput where
  artifact : ArtifactRef
  eventLog : InMemoryEventLog
  deriving DecidableEq

namespace MockConstructor

/-- The event, at the time it is logged. -/
def eventAt (builder : MockConstructor) (eventId occurredAtMs : Nat) (eventType : LoomEventType)
    (task : TaskEnvelope) (payloadRef : String) (causationId : Option Nat) : LoomEvent where
  eventId
  eventType
  rootTaskId := task.rootTaskId
  taskId := some task.taskId
  parentTaskId := task.parentTaskId
  promptId := some task.promptId
  agentId := some builder.config.agentId
  agentRole := some "constructor"
  topologySnapshotId := none
  payloadSchema := "qtom.mock.constructor.v1"
  payloadRef
  occurredAtMs
  causationId
  correlationId := builder.config.correlationId

def event (builder : MockConstructor) (eventId : Nat) (eventType : LoomEventType)
    (task : TaskEnvelope) (payloadRef : String) (causationId : Option Nat) : Checked LoomEvent := do
  let offset ← Checked.sub eventId builder.config.nextEventId
  let occurredAtMs ← Checked.add builder.config.occurredAtMs offset
  return builder.eventAt eventId occurredAtMs eventType task payloadRef causationId

def buildChildTask (builder : MockConstructor) (task : TaskEnvelope) :
    LoomRun ConstructorOutput := do
  let config := builder.config
  let artifact ← ofModel (ArtifactRef.new config.nextArtifactId task.rootTaskId task.taskId
    config.agentId "mock.markdown" ("inline://artifact/" ++ toString config.nextArtifactId))
  let declared ← ofChecked (builder.event config.nextEventId .artifactDeclared task
    artifact.contentRef none)
  let readyId ← ofChecked (Checked.add config.nextEventId 1)
  let ready ← ofChecked (builder.event readyId .artifactReady task artifact.contentRef
    (some declared.eventId))
  let completedId ← ofChecked (Checked.add config.nextEventId 2)
  let completed ← ofChecked (builder.event completedId .taskCompleted task artifact.contentRef
    none)
  let decommissionedId ← ofChecked (Checked.add config.nextEventId 3)
  let decommissioned ← ofChecked (builder.event decommissionedId .agentDecommissioned task
    ("inline://decommission/" ++ toString config.agentId ++ "/" ++ toString task.taskId) none)
  let eventLog ← [declared, ready, completed, decommissioned].foldlM appendExpected .new
  return { artifact, eventLog }

end MockConstructor

/-! The integrator. -/

structure MockIntegrationConfig where
  integrationAgentId : Nat
  nextEventId : Nat
  occurredAtMs : Nat
  correlationId : Nat
  deriving DecidableEq, Repr

def MockIntegrationConfig.default : MockIntegrationConfig := ⟨700, 3000, 20000, 77⟩

structure MockIntegration where
  config : MockIntegrationConfig
  deriving DecidableEq, Repr

structure IntegrationOutput where
  report : IntegrationReport
  eventLog : InMemoryEventLog
  deriving DecidableEq

namespace MockIntegration

def requestedEvent (integration : MockIntegration) (group : IntegrationGroup)
    (report : IntegrationReport) : LoomEvent where
  eventId := integration.config.nextEventId
  eventType := .integrationRequested
  rootTaskId := group.rootTaskId
  taskId := some group.parentTaskId
  parentTaskId := none
  promptId := none
  agentId := some integration.config.integrationAgentId
  agentRole := some "integration"
  topologySnapshotId := none
  payloadSchema := "qtom.mock.integration.v1"
  payloadRef := report.reportRef
  occurredAtMs := integration.config.occurredAtMs
  causationId := none
  correlationId := integration.config.correlationId

/-- A child of the group without an artifact is an error. -/
def checkArtifact (artifacts : List ArtifactRef) (expectedTaskId : Nat) :
    Except LoomModelError Unit :=
  if artifacts.any fun artifact => artifact.taskId == expectedTaskId then .ok ()
  else .error (.missingTaskArtifact expectedTaskId)

def integrateCompletedChildren (integration : MockIntegration) (group : IntegrationGroup)
    (completedChildArtifacts : List ArtifactRef) : LoomRun IntegrationOutput := do
  ofModel (group.expectedChildTaskIds.forM (checkArtifact completedChildArtifacts))
  let includedTaskIds := group.expectedChildTaskIds
  let finalArtifactRefs := (completedChildArtifacts.filter fun artifact =>
    includedTaskIds.contains artifact.taskId).map ArtifactRef.artifactId
  let report ← ofModel (IntegrationReport.accepted group.integrationGroupId includedTaskIds
    finalArtifactRefs ("inline://integration/report/" ++ toString group.integrationGroupId))
  let eventLog ← appendExpected .new (integration.requestedEvent group report)
  return { report, eventLog }

end MockIntegration

/-! The curator. -/

structure MockCuratorConfig where
  curatorAgentId : Nat
  nextMemoryNodeId : Nat
  nextEventId : Nat
  occurredAtMs : Nat
  correlationId : Nat
  deriving DecidableEq, Repr

def MockCuratorConfig.default : MockCuratorConfig := ⟨800, 1500, 4000, 30000, 77⟩

structure MockCurator where
  config : MockCuratorConfig
  deriving DecidableEq, Repr

structure CuratorOutput where
  memoryNode : MemoryNode
  eventLog : InMemoryEventLog
  deriving DecidableEq

namespace MockCurator

def createdEvent (curator : MockCurator) (packet : AgentDecommissionPacket) (memoryNode : MemoryNode)
    (decommissionEvent : LoomEvent) : LoomEvent where
  eventId := curator.config.nextEventId
  eventType := .memoryNodeCreated
  rootTaskId := packet.rootTaskId
  taskId := some packet.taskId
  parentTaskId := none
  promptId := some packet.promptId
  agentId := some curator.config.curatorAgentId
  agentRole := some "curator"
  topologySnapshotId := none
  payloadSchema := "qtom.mock.curator.v1"
  payloadRef := "inline://memory/" ++ toString memoryNode.memoryNodeId
  occurredAtMs := curator.config.occurredAtMs
  causationId := some decommissionEvent.eventId
  correlationId := curator.config.correlationId

def curateDecommissionPacket (curator : MockCurator) (packet : AgentDecommissionPacket)
    (decommissionEvent : LoomEvent) : LoomRun CuratorOutput := do
  let memoryNode ← ofModel (MemoryNode.fromPacket curator.config.nextMemoryNodeId .episode
    packet.rootTaskId packet.taskId packet.packetId [packet.selfSummaryRef]
    (packet.finalStatus ++ " agent " ++ toString packet.agentId ++ " task " ++
      toString packet.taskId))
  let eventLog ← [decommissionEvent, curator.createdEvent packet memoryNode decommissionEvent].foldlM
    appendExpected .new
  return { memoryNode, eventLog }

/-- The curator of the packet at an index: its ids and its time moved on by the index. -/
def atIndex (curator : MockCurator) (index : Nat) : Checked MockCurator := do
  let nextMemoryNodeId ← Checked.add curator.config.nextMemoryNodeId index
  let nextEventId ← Checked.add curator.config.nextEventId index
  let occurredAtMs ← Checked.add curator.config.occurredAtMs index
  return ⟨{ curator.config with nextMemoryNodeId, nextEventId, occurredAtMs }⟩

end MockCurator

/-! The loom. -/

structure MockTaskLoom where
  director : MockDirector
  integration : MockIntegration
  curator : MockCurator
  deriving DecidableEq, Repr

def MockTaskLoom.new (director : MockDirector) (integration : MockIntegration)
    (curator : MockCurator) : MockTaskLoom := ⟨director, integration, curator⟩

structure MockTaskLoomOutput (F : Type) where
  rootTask : TaskEnvelope
  director : DirectorOutput
  routeDecisions : List (RouteDecision F)
  constructorOutputs : List ConstructorOutput
  integration : IntegrationOutput
  curatorOutputs : List CuratorOutput
  eventLog : InMemoryEventLog

def taskCreatedEvent (eventId : Nat) (task : TaskEnvelope) (payloadSchema : String) : LoomEvent where
  eventId
  eventType := .taskCreated
  rootTaskId := task.rootTaskId
  taskId := some task.taskId
  parentTaskId := task.parentTaskId
  promptId := some task.promptId
  agentId := none
  agentRole := none
  topologySnapshotId := none
  payloadSchema
  payloadRef := "inline://task/" ++ toString task.taskId
  occurredAtMs := 1000 + eventId
  causationId := none
  correlationId := 77

def taskAssignedEvent (eventId : Nat) (task : TaskEnvelope) (selectedAgentId routeEventId : Nat) :
    LoomEvent where
  eventId
  eventType := .taskAssigned
  rootTaskId := task.rootTaskId
  taskId := some task.taskId
  parentTaskId := task.parentTaskId
  promptId := some task.promptId
  agentId := some selectedAgentId
  agentRole := some "constructor"
  topologySnapshotId := none
  payloadSchema := "qtom.mock.task_assignment.v1"
  payloadRef := "inline://task-assignment/" ++ toString task.taskId ++ "/" ++ toString selectedAgentId
  occurredAtMs := 2000 + eventId
  causationId := some routeEventId
  correlationId := 77

/-- The integration path of the root task, logged before the children are routed. -/
def integrationPathEvent (promptId rootTaskId : Nat) (group : IntegrationGroup) : LoomEvent where
  eventId := 10
  eventType := .integrationRequested
  rootTaskId
  taskId := some rootTaskId
  parentTaskId := none
  promptId := some promptId
  agentId := some 700
  agentRole := some "integration"
  topologySnapshotId := none
  payloadSchema := "qtom.mock.integration_path.v1"
  payloadRef := "inline://integration/group/" ++ toString group.integrationGroupId
  occurredAtMs := 1010
  causationId := none
  correlationId := 77

/-- 0.35, 0.25 and 0.20. -/
def defaultCoefficients {F : Type} [F32Values F] : ScoreCoefficients F where
  alphaQueue := F32Values.ofBits 0x3eb33333#32
  betaLatency := F32Values.ofBits 0x3e800000#32
  gammaCache := F32Values.ofBits 0x3e4ccccd#32

/-- `AgentRuntimeState::available()`. -/
def availableState {F : Type} [F32 F] : AgentRuntimeState F := ⟨F32.zero, F32.zero, F32.zero, 1⟩

section Run
variable {F : Type}

/-- What the loop over the routed children has so far. -/
structure Building (F : Type) where
  eventLog : InMemoryEventLog
  routeDecisions : List (RouteDecision F)
  constructorOutputs : List ConstructorOutput
  packets : List AgentDecommissionPacket
  decommissionEvents : List LoomEvent

def routeEventConfig (promptId rootTaskId index : Nat) : TaskRouteDecisionEventConfig where
  eventId := 100 + index * 2
  rootTaskId
  promptId
  topologySnapshotId := 44
  occurredAtMs := 2000 + index
  correlationId := 77

def childConstructor (index selectedAgentId : Nat) : MockConstructor where
  config :=
    { agentId := selectedAgentId
      nextArtifactId := 900 + index
      nextEventId := 2000 + index * 10
      occurredAtMs := 10000 + index * 100
      correlationId := 77 }

/-- The loop body: a child, what routing said of it, and its index. -/
def buildChild [F32 F] (promptId rootTaskId : Nat) (building : Building F)
    (routed : (TaskEnvelope × RoutingResult F) × Nat) : LoomRun (Building F) := do
  let child := routed.1.1
  let index := routed.2
  let routeDecision ← ofModel (RouteDecision.fromResult (500 + index) 99 "cpu" "mock-routing-v1"
    routed.1.2)
  let routeEvent := routeDecisionRecordedEvent routeDecision
    (routeEventConfig promptId rootTaskId index)
  let assignmentEvent := taskAssignedEvent (routeEvent.eventId + 1) child
    routeDecision.selectedAgentId routeEvent.eventId
  let eventLog ← [routeEvent, assignmentEvent].foldlM appendExpected building.eventLog
  let constructorOutput ←
    (childConstructor index routeDecision.selectedAgentId).buildChildTask child
  let eventLog ← (constructorOutput.eventLog.replay .start).foldlM appendExpected eventLog
  let decommissionEvent ← constructorOutput.eventLog.firstOfType .agentDecommissioned
  let packet ← ofModel (AgentDecommissionPacket.completed (1200 + index)
    constructorOutput.artifact.agentId child.rootTaskId child.taskId child.promptId child.planId
    [constructorOutput.artifact.artifactId] decommissionEvent.payloadRef)
  return {
    eventLog
    routeDecisions := building.routeDecisions ++ [routeDecision]
    constructorOutputs := building.constructorOutputs ++ [constructorOutput]
    packets := building.packets ++ [packet]
    decommissionEvents := building.decommissionEvents ++ [decommissionEvent] }

/-- The loop body: a packet, its decommission event, and its index. -/
def curatePacket (curator : MockCurator) (curated : InMemoryEventLog × List CuratorOutput)
    (evidence : (AgentDecommissionPacket × LoomEvent) × Nat) :
    LoomRun (InMemoryEventLog × List CuratorOutput) := do
  let curator ← ofChecked (curator.atIndex evidence.2)
  let curatorOutput ← curator.curateDecommissionPacket evidence.1.1 evidence.1.2
  let memoryEvent ← curatorOutput.eventLog.firstOfType .memoryNodeCreated
  let eventLog ← appendExpected curated.1 memoryEvent
  return (eventLog, curated.2 ++ [curatorOutput])

/-- The tasks a run creates and the path that will join them. -/
def logTasks (promptId rootTaskId : Nat) (rootTask : TaskEnvelope) (director : DirectorOutput) :
    LoomRun InMemoryEventLog := do
  let eventLog ← appendExpected .new (taskCreatedEvent 1 rootTask "qtom.mock.root_task.v1")
  let eventLog ← director.children.zipIdx.foldlM (fun eventLog child =>
    appendExpected eventLog (taskCreatedEvent (2 + child.2) child.1 "qtom.mock.child_task.v1"))
    eventLog
  appendExpected eventLog (integrationPathEvent promptId rootTaskId director.integrationGroup)

variable [F32 F] [F32Values F]

/-- Routing the children to agents simulated for them, on one worker. -/
def routeChildren (children : List TaskEnvelope) : LoomRun (List (RoutingResult F)) := do
  let routeRequests ← ofModel (children.mapM fun child => buildRouteRequestFromTask child .default)
  let agents := simulatedAgentsForRequests routeRequests 10000
  let states := List.replicate agents.length availableState
  let router := CpuRouter.new agents defaultCoefficients
  let routed ← ofChecked (router.routeBatchWithWorkersChecked routeRequests states 1)
  expectOk routed

def MockTaskLoom.runPrompt (loom : MockTaskLoom) (promptId rootTaskId : Nat) (summary : String) :
    LoomRun (MockTaskLoomOutput F) := do
  let rootTask ← ofModel (TaskEnvelope.root rootTaskId promptId summary)
  let director ← loom.director.splitRootTask promptId rootTaskId rootTaskId summary
  let eventLog ← logTasks promptId rootTaskId rootTask director
  let routeResults ← routeChildren (F := F) director.children
  let building ← (director.children.zip routeResults).zipIdx.foldlM (buildChild promptId rootTaskId)
    ⟨eventLog, [], [], [], []⟩
  let artifacts := building.constructorOutputs.map ConstructorOutput.artifact
  let integration ← loom.integration.integrateCompletedChildren director.integrationGroup artifacts
  let eventLog ← (integration.eventLog.replay .start).foldlM appendExpected building.eventLog
  let curated ← (building.packets.zip building.decommissionEvents).zipIdx.foldlM
    (curatePacket loom.curator) (eventLog, [])
  return {
    rootTask
    director
    routeDecisions := building.routeDecisions
    constructorOutputs := building.constructorOutputs
    integration
    curatorOutputs := curated.2
    eventLog := curated.1 }

end Run
end QTom.Loom
