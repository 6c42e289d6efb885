import Mathlib.Algebra.Order.Field.Rat
import QTom.Loom.MockAgents
import QTom.Router.Exact

/- A run of the mock loom. The events of a run are written down as one list, piece by
   piece: the tasks, each child's routing and building, the integration, the memory.
   Each piece is supported by what is before it and their ids are distinct, so the list
   is grounded; every append of the run is then a stretch of it, and the log the run
   ends with replays. -/
namespace QTom.Loom
open QTom.Lib QTom.Router InMemoryEventLog

section Run
variable {F : Type} (config : MockDirectorConfig) (promptId rootTaskId : Nat) (summary : String)
  (first second : RouteDecision F)

def firstChild : TaskEnvelope := childOf config promptId rootTaskId summary 0 "Explore: "

def secondChild : TaskEnvelope := childOf config promptId rootTaskId summary 1 "Validate: "

/-- The tasks and the path that will join them. -/
def taskEvents : List LoomEvent :=
  [taskCreatedEvent 1 (rootOf promptId rootTaskId summary) "qtom.mock.root_task.v1",
    taskCreatedEvent 2 (firstChild config promptId rootTaskId summary) "qtom.mock.child_task.v1",
    taskCreatedEvent 3 (secondChild config promptId rootTaskId summary) "qtom.mock.child_task.v1",
    integrationPathEvent promptId rootTaskId (groupOf config rootTaskId)]

def buildEvents : List LoomEvent :=
  childEvents promptId rootTaskId 0 (firstChild config promptId rootTaskId summary) first ++
    childEvents promptId rootTaskId 1 (secondChild config promptId rootTaskId summary) second

def artifactsOf : List ArtifactRef :=
  [(builderOf 0 first).artifactOf (firstChild config promptId rootTaskId summary),
    (builderOf 1 second).artifactOf (secondChild config promptId rootTaskId summary)]

def joinEvent : LoomEvent :=
  (MockIntegration.mk .default).requestedEvent (groupOf config rootTaskId)
    (MockIntegration.reportOf (groupOf config rootTaskId)
      (artifactsOf config promptId rootTaskId summary first second))

/-- The default curator at a child's index. -/
def curatorAt (index : Nat) : MockCurator := ⟨⟨800, 1500 + index, 4000 + index, 30000 + index, 77⟩⟩

def memoryEvent (index : Nat) (child : TaskEnvelope) (decision : RouteDecision F) : LoomEvent :=
  (curatorAt index).memoryOf (packetOf index child decision)
    ((builderOf index decision).decommissioned child)

/-- What the curator of a built child returns. -/
def curatedOf (index : Nat) (child : TaskEnvelope) (decision : RouteDecision F) : CuratorOutput :=
  ⟨(curatorAt index).nodeOf (packetOf index child decision),
    ofEvents [(builderOf index decision).decommissioned child, memoryEvent index child decision]⟩

def memoryEvents : List LoomEvent :=
  [memoryEvent 0 (firstChild config promptId rootTaskId summary) first,
    memoryEvent 1 (secondChild config promptId rootTaskId summary) second]

/-- Everything a run logs, in order. -/
def runEvents : List LoomEvent :=
  taskEvents config promptId rootTaskId summary ++
    (buildEvents config promptId rootTaskId summary first second ++
      (joinEvent config promptId rootTaskId summary first second ::
        memoryEvents config promptId rootTaskId summary first second))

variable {config promptId rootTaskId summary first second}

theorem taskEvents_support (before : List LoomEvent) :
    Along Supported snoc before (taskEvents config promptId rootTaskId summary) := by
  have hcreated : ∀ (eventId : Nat) (task : TaskEnvelope) (schema : String) (before : List LoomEvent),
      isBlank schema = false → Supported before (taskCreatedEvent eventId task schema) := by
    intro eventId task schema before hschema
    have href : isBlank (taskCreatedEvent eventId task schema).payloadRef = false :=
      not_blank_append rfl
    exact .plain (valid_of_texts hschema href rfl) rfl (fun h => (nomatch h)) (fun h => (nomatch h))
  have hroot : isBlank "qtom.mock.root_task.v1" = false := rfl
  have hchild : isBlank "qtom.mock.child_task.v1" = false := rfl
  have hpath : isBlank "qtom.mock.integration_path.v1" = false := rfl
  have hpathRef : isBlank (integrationPathEvent promptId rootTaskId
      (groupOf config rootTaskId)).payloadRef = false := not_blank_append rfl
  refine Along.cons_iff.mpr ⟨hcreated _ _ _ _ hroot, Along.cons_iff.mpr ⟨hcreated _ _ _ _ hchild,
    Along.cons_iff.mpr ⟨hcreated _ _ _ _ hchild, Along.cons_iff.mpr ⟨?_, Along.nil⟩⟩⟩⟩
  exact .plain (valid_of_texts hpath hpathRef rfl) rfl (fun h => (nomatch h)) (fun h => (nomatch h))

theorem decommissioned_mem (promptId rootTaskId index : Nat) (child : TaskEnvelope)
    (decision : RouteDecision F) :
    (builderOf index decision).decommissioned child ∈
      childEvents promptId rootTaskId index child decision := by
  unfold childEvents MockConstructor.lifecycle
  simp

theorem memoryEvent_support {index : Nat} {child : TaskEnvelope} {decision : RouteDecision F}
    {before : List LoomEvent} (hmem : (builderOf index decision).decommissioned child ∈ before) :
    Supported before (memoryEvent index child decision) :=
  MockCurator.memoryOf_support rfl rfl rfl rfl hmem

/-- The events of a run are grounded: nineteen ids, each its own, and every cause before its effect. -/
theorem runEvents_grounded
    (hfirst : first.taskId = (firstChild config promptId rootTaskId summary).taskId)
    (hsecond : second.taskId = (secondChild config promptId rootTaskId summary).taskId) :
    Grounded (runEvents config promptId rootTaskId summary first second) := by
  refine ⟨?_, ?_⟩
  · show [1, 2, 3, 10, 100, 101, 2000, 2001, 2002, 2003, 102, 103, 2010, 2011, 2012, 2013, 3000,
      4000, 4001].Nodup
    decide
  · refine support_append (taskEvents_support []) (support_append (support_append
      (childEvents_support hfirst rfl _) (childEvents_support hsecond rfl _)) ?_)
    refine Along.cons_iff.mpr ⟨MockIntegration.requestedEvent_support _,
      Along.cons_iff.mpr ⟨memoryEvent_support ?_,
        Along.cons_iff.mpr ⟨memoryEvent_support ?_, Along.nil⟩⟩⟩
    · have hmem := decommissioned_mem promptId rootTaskId 0
        (firstChild config promptId rootTaskId summary) first
      simp [snoc, buildEvents, hmem]
    · have hmem := decommissioned_mem promptId rootTaskId 1
        (secondChild config promptId rootTaskId summary) second
      simp [snoc, buildEvents, hmem]

/-- An event of the run: its root task, its correlation, no parent but the root, and a
completed task decommissioned within the run. -/
structure OfRun (rootTaskId : Nat) (events : List LoomEvent) (e : LoomEvent) : Prop where
  root : e.rootTaskId = rootTaskId
  correlation : e.correlationId = 77
  parent : ∀ p, e.parentTaskId = some p → p = rootTaskId
  completed : e.eventType = .taskCompleted → ∃ d ∈ events, d.eventType = .agentDecommissioned ∧
    d.taskId = e.taskId

theorem OfRun.mono {events more : List LoomEvent} {e : LoomEvent} (h : OfRun rootTaskId events e)
    (hsub : events ⊆ more) : OfRun rootTaskId more e := by
  refine ⟨h.root, h.correlation, h.parent, ?_⟩
  intro htype
  obtain ⟨d, hd, hdecommissioned⟩ := h.completed htype
  exact ⟨d, hsub hd, hdecommissioned⟩

theorem childEvents_ofRun {index : Nat} {child : TaskEnvelope} {decision : RouteDecision F}
    (hroot : child.rootTaskId = rootTaskId) (hparent : child.parentTaskId = some rootTaskId) :
    ∀ e ∈ childEvents promptId rootTaskId index child decision,
      OfRun rootTaskId (childEvents promptId rootTaskId index child decision) e := by
  have hp : ∀ p, child.parentTaskId = some p → p = rootTaskId := by
    intro p h
    rw [hparent] at h
    exact (Option.some.inj h).symm
  have hbuilder : ∀ offset eventType payloadRef causationId, eventType ≠ .taskCompleted →
      OfRun rootTaskId (childEvents promptId rootTaskId index child decision)
        ((builderOf index decision).offsetEvent child offset eventType payloadRef causationId) :=
    fun _ _ _ _ htype => ⟨hroot, rfl, hp, fun h => absurd h htype⟩
  refine List.forall_mem_append.mpr ⟨List.forall_mem_cons.mpr ⟨?_, List.forall_mem_singleton.mpr ?_⟩,
    List.forall_mem_cons.mpr ⟨?_, List.forall_mem_cons.mpr ⟨?_, List.forall_mem_cons.mpr ⟨?_,
      List.forall_mem_singleton.mpr ?_⟩⟩⟩⟩
  · exact ⟨rfl, rfl, fun p h => (nomatch h), fun h => (nomatch h)⟩
  · exact ⟨hroot, rfl, hp, fun h => (nomatch h)⟩
  · exact hbuilder _ _ _ _ (by decide)
  · exact hbuilder _ _ _ _ (by decide)
  · exact ⟨hroot, rfl, hp, fun _ => ⟨_, decommissioned_mem promptId rootTaskId index child decision,
      rfl, rfl⟩⟩
  · exact hbuilder _ _ _ _ (by decide)

theorem runEvents_ofRun : ∀ e ∈ runEvents config promptId rootTaskId summary first second,
    OfRun rootTaskId (runEvents config promptId rootTaskId summary first second) e := by
  have hparent : ∀ p, some rootTaskId = some p → p = rootTaskId :=
    fun p h => (Option.some.inj h).symm
  refine List.forall_mem_append.mpr ⟨?_, List.forall_mem_append.mpr
    ⟨List.forall_mem_append.mpr ⟨?_, ?_⟩, ?_⟩⟩
  · refine List.forall_mem_cons.mpr ⟨?_, List.forall_mem_cons.mpr ⟨?_, List.forall_mem_cons.mpr ⟨?_,
      List.forall_mem_singleton.mpr ?_⟩⟩⟩
    · exact ⟨rfl, rfl, fun p h => (nomatch h), fun h => (nomatch h)⟩
    · exact ⟨rfl, rfl, hparent, fun h => (nomatch h)⟩
    · exact ⟨rfl, rfl, hparent, fun h => (nomatch h)⟩
    · exact ⟨rfl, rfl, fun p h => (nomatch h), fun h => (nomatch h)⟩
  · intro e he
    have hroot : (firstChild config promptId rootTaskId summary).rootTaskId = rootTaskId := rfl
    refine (childEvents_ofRun hroot rfl e he).mono ?_
    intro d hd
    simp [runEvents, buildEvents, hd]
  · intro e he
    have hroot : (secondChild config promptId rootTaskId summary).rootTaskId = rootTaskId := rfl
    refine (childEvents_ofRun hroot rfl e he).mono ?_
    intro d hd
    simp [runEvents, buildEvents, hd]
  · refine List.forall_mem_cons.mpr ⟨?_, List.forall_mem_cons.mpr ⟨?_,
      List.forall_mem_singleton.mpr ?_⟩⟩
    · exact ⟨rfl, rfl, fun p h => (nomatch h), fun h => (nomatch h)⟩
    · exact ⟨rfl, rfl, fun p h => (nomatch h), fun h => (nomatch h)⟩
    · exact ⟨rfl, rfl, fun p h => (nomatch h), fun h => (nomatch h)⟩

theorem OfRun.sameContext {events : List LoomEvent} {a b : LoomEvent} (ha : OfRun rootTaskId events a)
    (hb : OfRun rootTaskId events b) : SameContext a b :=
  ⟨ha.root.trans hb.root.symm, ha.correlation.trans hb.correlation.symm⟩

/-- The events of a run pass the replay validator, with two of everything a child leaves. -/
theorem runEvents_pass
    (hfirst : first.taskId = (firstChild config promptId rootTaskId summary).taskId)
    (hsecond : second.taskId = (secondChild config promptId rootTaskId summary).taskId) :
    Passes (runEvents config promptId rootTaskId summary first second) := by
  have hrun : ∀ e ∈ runEvents config promptId rootTaskId summary first second, OfRun rootTaskId _ e :=
    runEvents_ofRun
  refine ⟨?_, ?_, ?_⟩
  · intro pre e post hsplit
    exact (runEvents_grounded hfirst hsecond).admits hsplit
  · intro child hchild _ p hp
    obtain rfl := (hrun child hchild).parent p hp
    -- the path of the root task is one of its integration requests
    have hpath : integrationPathEvent promptId p (groupOf config p) ∈
        runEvents config promptId p summary first second := by
      simp [runEvents, taskEvents]
    obtain ⟨i, hlast⟩ := lastEvent_of_mem hpath rfl rfl
    exact ⟨i, hlast, (hrun child hchild).sameContext (hrun i (lastEvent_mem hlast).1)⟩
  · intro t c hc
    obtain ⟨hmem, htype, htask⟩ := lastEvent_mem hc
    obtain ⟨d, hd, hdtype, hdtask⟩ := (hrun c hmem).completed htype
    obtain ⟨last, hlast⟩ := lastEvent_of_mem hd hdtype (hdtask.trans htask)
    exact ⟨last, hlast, (hrun c hmem).sameContext (hrun last (lastEvent_mem hlast).1)⟩

/-! The steps of the run. -/

theorem logTasks_ok
    (hgrounded : Grounded (runEvents config promptId rootTaskId summary first second)) :
    logTasks promptId rootTaskId (rootOf promptId rootTaskId summary)
      ⟨planOf config rootTaskId, childrenOf config promptId rootTaskId summary,
        groupOf config rootTaskId⟩ =
      .ok (ofEvents (taskEvents config promptId rootTaskId summary)) := by
  have hroot := hgrounded.appendExpected (List.nil_append _).symm
  have hchildren := hgrounded.appendsExpected (show runEvents config promptId rootTaskId summary first
    second = [taskCreatedEvent 1 (rootOf promptId rootTaskId summary) "qtom.mock.root_task.v1"] ++
      [taskCreatedEvent 2 (firstChild config promptId rootTaskId summary) "qtom.mock.child_task.v1",
        taskCreatedEvent 3 (secondChild config promptId rootTaskId summary)
          "qtom.mock.child_task.v1"] ++ _ from rfl)
  have hpath := hgrounded.appendExpected (show runEvents config promptId rootTaskId summary first
    second = [taskCreatedEvent 1 (rootOf promptId rootTaskId summary) "qtom.mock.root_task.v1",
        taskCreatedEvent 2 (firstChild config promptId rootTaskId summary) "qtom.mock.child_task.v1",
        taskCreatedEvent 3 (secondChild config promptId rootTaskId summary)
          "qtom.mock.child_task.v1"] ++
      integrationPathEvent promptId rootTaskId (groupOf config rootTaskId) :: _ from rfl)
  unfold logTasks
  refine (go_on hroot).trans ?_
  refine (go_on hchildren).trans ?_
  exact hpath

/-- The default curator remembers a child's agent. -/
theorem curatePacket_ok {index : Nat} {child : TaskEnvelope} {decision : RouteDecision F}
    (hindex : index < 2) {events before after : List LoomEvent} (hgrounded : Grounded events)
    (hsplit : events = before ++ memoryEvent index child decision :: after)
    (outputs : List CuratorOutput) :
    curatePacket ⟨.default⟩ (ofEvents before, outputs)
        ((packetOf index child decision, (builderOf index decision).decommissioned child), index) =
      .ok (ofEvents (before ++ [memoryEvent index child decision]),
        outputs ++ [curatedOf index child decision]) := by
  have hcurator : (MockCurator.mk .default).atIndex index = .ok (curatorAt index) := by
    unfold MockCurator.atIndex MockCuratorConfig.default
    dsimp only
    rw [Checked.add_ok (by omega), Checked.ok_bind, Checked.add_ok (by omega), Checked.ok_bind,
      Checked.add_ok (by omega)]
    rfl
  have hvalid : ((builderOf index decision).decommissioned child).Valid :=
    valid_of_texts ((builderOf index decision).not_blank_schema child _ _ _ _)
      ((builderOf index decision).not_blank_decommissioned child) rfl
  have hid : ((builderOf index decision).decommissioned child).eventId ≠
      (curatorAt index).config.nextEventId := by
    show 2000 + index * 10 + 3 ≠ 4000 + index
    omega
  have hstatus : isBlank (packetOf index child decision).finalStatus = false := by
    show isBlank "completed" = false
    rfl
  have hcurated : (curatorAt index).curateDecommissionPacket (packetOf index child decision)
      ((builderOf index decision).decommissioned child) = .ok _ :=
    MockCurator.curateDecommissionPacket_ok hvalid hid rfl rfl rfl rfl hstatus
  have hmemory : (ofEvents [(builderOf index decision).decommissioned child,
      (curatorAt index).memoryOf (packetOf index child decision)
        ((builderOf index decision).decommissioned child)]).firstOfType .memoryNodeCreated =
      .ok (memoryEvent index child decision) := rfl
  unfold curatePacket
  refine (go_on (ofChecked_ok hcurator)).trans ?_
  refine (go_on hcurated).trans ?_
  refine (go_on hmemory).trans ?_
  refine (go_on (hgrounded.appendExpected hsplit)).trans ?_
  rfl

/-- The child is built by the agent its route decision selects. -/
structure BuiltBySelected (child : TaskEnvelope) (decision : RouteDecision F)
    (constructed : ConstructorOutput) : Prop where
  decided : decision.taskId = child.taskId
  built : constructed.artifact.taskId = child.taskId
  selected : constructed.artifact.agentId = decision.selectedAgentId
  logged : ∀ e ∈ constructed.eventLog.events,
    e.taskId = some child.taskId ∧ e.agentId = some decision.selectedAgentId

theorem builtBySelected {index : Nat} {child : TaskEnvelope} {decision : RouteDecision F}
    (htask : decision.taskId = child.taskId) :
    BuiltBySelected child decision (builtOf index child decision) := by
  refine ⟨htask, rfl, rfl, ?_⟩
  unfold builtOf
  rw [ofEvents_events]
  refine List.forall_mem_cons.mpr ⟨⟨rfl, rfl⟩, List.forall_mem_cons.mpr ⟨⟨rfl, rfl⟩,
    List.forall_mem_cons.mpr ⟨⟨rfl, rfl⟩, List.forall_mem_singleton.mpr ⟨rfl, rfl⟩⟩⟩⟩

variable (config promptId rootTaskId summary first second)

def outputOf : MockTaskLoomOutput F where
  rootTask := rootOf promptId rootTaskId summary
  director := ⟨planOf config rootTaskId, childrenOf config promptId rootTaskId summary,
    groupOf config rootTaskId⟩
  routeDecisions := [first, second]
  constructorOutputs :=
    [builtOf 0 (firstChild config promptId rootTaskId summary) first,
      builtOf 1 (secondChild config promptId rootTaskId summary) second]
  integration := ⟨MockIntegration.reportOf (groupOf config rootTaskId)
      (artifactsOf config promptId rootTaskId summary first second),
    ofEvents [joinEvent config promptId rootTaskId summary first second]⟩
  curatorOutputs :=
    [curatedOf 0 (firstChild config promptId rootTaskId summary) first,
      curatedOf 1 (secondChild config promptId rootTaskId summary) second]
  eventLog := ofEvents (runEvents config promptId rootTaskId summary first second)

/-- What has been built when the children are. -/
def builtChildren : Building F where
  eventLog := ofEvents (taskEvents config promptId rootTaskId summary ++
    buildEvents config promptId rootTaskId summary first second)
  routeDecisions := [first, second]
  constructorOutputs :=
    [builtOf 0 (firstChild config promptId rootTaskId summary) first,
      builtOf 1 (secondChild config promptId rootTaskId summary) second]
  packets :=
    [packetOf 0 (firstChild config promptId rootTaskId summary) first,
      packetOf 1 (secondChild config promptId rootTaskId summary) second]
  decommissionEvents :=
    [(builderOf 0 first).decommissioned (firstChild config promptId rootTaskId summary),
      (builderOf 1 second).decommissioned (secondChild config promptId rootTaskId summary)]

variable {config promptId rootTaskId summary first second}

/-- The children are built one after the other. -/
theorem buildChildren_ok [F32 F]
    (hgrounded : Grounded (runEvents config promptId rootTaskId summary first second))
    {firstResult secondResult : RoutingResult F}
    (hfirst : RouteDecision.fromResult 500 99 "cpu" "mock-routing-v1" firstResult = .ok first)
    (hsecond : RouteDecision.fromResult 501 99 "cpu" "mock-routing-v1" secondResult = .ok second) :
    [((firstChild config promptId rootTaskId summary, firstResult), 0),
        ((secondChild config promptId rootTaskId summary, secondResult), 1)].foldlM
      (buildChild promptId rootTaskId)
      ⟨ofEvents (taskEvents config promptId rootTaskId summary), [], [], [], []⟩ =
      .ok (builtChildren config promptId rootTaskId summary first second) := by
  have hfirstSplit : runEvents config promptId rootTaskId summary first second =
      taskEvents config promptId rootTaskId summary ++
        childEvents promptId rootTaskId 0 (firstChild config promptId rootTaskId summary) first ++
        (childEvents promptId rootTaskId 1 (secondChild config promptId rootTaskId summary) second ++
          joinEvent config promptId rootTaskId summary first second ::
            memoryEvents config promptId rootTaskId summary first second) := by
    simp [runEvents, buildEvents]
  have hsecondSplit : runEvents config promptId rootTaskId summary first second =
      (taskEvents config promptId rootTaskId summary ++
        childEvents promptId rootTaskId 0 (firstChild config promptId rootTaskId summary) first) ++
        childEvents promptId rootTaskId 1 (secondChild config promptId rootTaskId summary) second ++
          joinEvent config promptId rootTaskId summary first second ::
            memoryEvents config promptId rootTaskId summary first second := by
    simp [runEvents, buildEvents]
  let tasks : Building F := ⟨ofEvents (taskEvents config promptId rootTaskId summary), [], [], [], []⟩
  have hbuildFirst := buildChild_ok hgrounded hfirstSplit hfirst (by omega) tasks rfl
  have hbuildSecond := buildChild_ok hgrounded hsecondSplit hsecond (by omega)
    (tasks.after 0 (firstChild config promptId rootTaskId summary) first
      (taskEvents config promptId rootTaskId summary ++
        childEvents promptId rootTaskId 0 (firstChild config promptId rootTaskId summary) first)) rfl
  rw [foldlM_two hbuildFirst hbuildSecond, List.append_assoc]
  rfl

/-- The curator remembers both children, after the join. -/
theorem curatePackets_ok
    (hgrounded : Grounded (runEvents config promptId rootTaskId summary first second)) :
    [((packetOf 0 (firstChild config promptId rootTaskId summary) first,
          (builderOf 0 first).decommissioned (firstChild config promptId rootTaskId summary)), 0),
        ((packetOf 1 (secondChild config promptId rootTaskId summary) second,
          (builderOf 1 second).decommissioned (secondChild config promptId rootTaskId summary)),
          1)].foldlM (curatePacket ⟨.default⟩)
      (ofEvents (taskEvents config promptId rootTaskId summary ++
        buildEvents config promptId rootTaskId summary first second ++
          [joinEvent config promptId rootTaskId summary first second]), []) =
      .ok (ofEvents (runEvents config promptId rootTaskId summary first second),
        [curatedOf 0 (firstChild config promptId rootTaskId summary) first,
          curatedOf 1 (secondChild config promptId rootTaskId summary) second]) := by
  have hfirstSplit : runEvents config promptId rootTaskId summary first second =
      (taskEvents config promptId rootTaskId summary ++
        buildEvents config promptId rootTaskId summary first second ++
          [joinEvent config promptId rootTaskId summary first second]) ++
        memoryEvent 0 (firstChild config promptId rootTaskId summary) first ::
          [memoryEvent 1 (secondChild config promptId rootTaskId summary) second] := by
    simp [runEvents, memoryEvents]
  have hsecondSplit : runEvents config promptId rootTaskId summary first second =
      (taskEvents config promptId rootTaskId summary ++
        buildEvents config promptId rootTaskId summary first second ++
          [joinEvent config promptId rootTaskId summary first second] ++
        [memoryEvent 0 (firstChild config promptId rootTaskId summary) first]) ++
          memoryEvent 1 (secondChild config promptId rootTaskId summary) second :: [] := by
    simp [runEvents, memoryEvents]
  have hfirst := curatePacket_ok (by omega) hgrounded hfirstSplit []
  have hsecond := curatePacket_ok (by omega) hgrounded hsecondSplit
    [curatedOf 0 (firstChild config promptId rootTaskId summary) first]
  rw [foldlM_two hfirst hsecond, ← hsecondSplit]
  rfl

variable (config promptId rootTaskId)

/-- Every step of the run goes through. -/
theorem runPrompt_ok [F32 F] [F32Values F] (hchild : config.nextChildTaskId + 1 < 2 ^ 64)
    (hsummary : isBlank summary = false) : ∃ first second : RouteDecision F,
      first.taskId = (firstChild config promptId rootTaskId summary).taskId ∧
      second.taskId = (secondChild config promptId rootTaskId summary).taskId ∧
      (MockTaskLoom.new ⟨config⟩ ⟨.default⟩ ⟨.default⟩).runPrompt promptId rootTaskId summary =
        .ok (outputOf config promptId rootTaskId summary first second) := by
  obtain ⟨results, hrouted, hforall⟩ := routeChildren_ok (F := F)
    (List.cons_ne_nil (firstChild config promptId rootTaskId summary)
      [secondChild config promptId rootTaskId summary]) (show 2 * 64 < 2 ^ 63 by decide)
  obtain ⟨firstResult, _, hfirstResult, hrest, rfl⟩ := List.forall₂_cons_left_iff.mp hforall
  obtain ⟨secondResult, _, hsecondResult, hnone, rfl⟩ := List.forall₂_cons_left_iff.mp hrest
  obtain rfl := List.forall₂_nil_left_iff.mp hnone
  obtain ⟨first, hfirst⟩ := RouteDecision.fromResult_ok hfirstResult.2 500 99 "cpu" "mock-routing-v1"
  obtain ⟨second, hsecond⟩ := RouteDecision.fromResult_ok hsecondResult.2 501 99 "cpu"
    "mock-routing-v1"
  have hfirstTask := (RouteDecision.fromResult_taskId hfirst).trans hfirstResult.1
  have hsecondTask := (RouteDecision.fromResult_taskId hsecond).trans hsecondResult.1
  have hgrounded := runEvents_grounded hfirstTask hsecondTask
  have hjoinSplit : runEvents config promptId rootTaskId summary first second =
      (taskEvents config promptId rootTaskId summary ++
        buildEvents config promptId rootTaskId summary first second) ++
          [joinEvent config promptId rootTaskId summary first second] ++
            memoryEvents config promptId rootTaskId summary first second := by
    simp [runEvents]
  have hintegrate : (MockIntegration.mk .default).integrateCompletedChildren
      (groupOf config rootTaskId) (artifactsOf config promptId rootTaskId summary first second) =
        .ok _ :=
    MockIntegration.integrateCompletedChildren_ok rfl (List.cons_ne_nil _ _)
  refine ⟨first, second, hfirstTask, hsecondTask, ?_⟩
  unfold MockTaskLoom.runPrompt
  refine (go_on (ofModel_ok (TaskEnvelope.root_ok hsummary _ _))).trans ?_
  refine (go_on (splitRootTask_ok promptId rootTaskId hchild hsummary)).trans ?_
  refine (go_on (logTasks_ok hgrounded)).trans ?_
  refine (go_on hrouted).trans ?_
  refine (go_on (buildChildren_ok hgrounded hfirst hsecond)).trans ?_
  refine (go_on hintegrate).trans ?_
  rw [replay_start, ofEvents_events]
  refine (go_on (hgrounded.appendsExpected hjoinSplit)).trans ?_
  refine (go_on (curatePackets_ok hgrounded)).trans ?_
  rfl

/-- The mock loom replays. Whatever the prompt, the root task and the director's
configured ids, as long as the second child has an id, a summary that is not blank
runs to an output. Its log replays with two of everything the children leave and two
integration requests, and each child is built by the agent its decision selects. -/
theorem mock_run_replays [F32 F] [F32Values F] (config : MockDirectorConfig)
    (promptId rootTaskId : Nat) (summary : String) (hchild : config.nextChildTaskId < 2 ^ 64 - 1)
    (hsummary : isBlank summary = false) :
    ∃ (output : MockTaskLoomOutput F) (report : ReplayValidationReport),
      (MockTaskLoom.new ⟨config⟩ ⟨.default⟩ ⟨.default⟩).runPrompt promptId rootTaskId summary =
        .ok output ∧
      output.eventLog.validateReplay = .ok report ∧
      report.routeDecisionCount = 2 ∧ report.assignmentCount = 2 ∧ report.completionCount = 2 ∧
      report.decommissionCount = 2 ∧ report.memoryNodeCount = 2 ∧
      report.integrationRequestCount = 2 ∧
      output.director.children.length = 2 ∧ output.routeDecisions.length = 2 ∧
      output.constructorOutputs.length = 2 ∧
      ∀ (i : Nat) (child : TaskEnvelope) (decision : RouteDecision F) (constructed : ConstructorOutput),
        output.director.children[i]? = some child → output.routeDecisions[i]? = some decision →
        output.constructorOutputs[i]? = some constructed →
          BuiltBySelected child decision constructed := by
  obtain ⟨first, second, hfirst, hsecond, hrun⟩ :=
    runPrompt_ok (F := F) config promptId rootTaskId (by omega) hsummary
  have hpass := runEvents_pass hfirst hsecond
  refine ⟨outputOf config promptId rootTaskId summary first second,
    ReplayState.exactReport (runEvents config promptId rootTaskId summary first second), hrun, ?_,
    rfl, rfl, rfl, rfl, rfl, rfl, rfl, rfl, rfl, ?_⟩
  · show validateEvents (ofEvents (runEvents config promptId rootTaskId summary first second)).events = _
    rw [ofEvents_events]
    exact validateEvents_ok_iff.mpr ⟨hpass, rfl⟩
  · intro i child decision constructed hc hd hb
    match i with
    | 0 =>
      cases hc
      cases hd
      cases hb
      exact builtBySelected hfirst
    | 1 =>
      cases hc
      cases hd
      cases hb
      exact builtBySelected hsecond
    | i + 2 => cases hd

end Run

/-- Exact values: a literal is what its bits encode, and nothing is rounded. -/
instance : F32Values (WithTop Rat) where
  ofBits bits := (((2 ^ 23 + bits.toNat % 2 ^ 23 : Nat) : Rat) * 2 ^ (bits.toNat / 2 ^ 23) / 2 ^ 150 : Rat)
  ofU64 value := ((value.toNat : Rat) : WithTop Rat)
  div := WithTop.map₂ (· / ·)

theorem mock_run_replays_boundary :
    ∃ (output : MockTaskLoomOutput (WithTop Rat)) (report : ReplayValidationReport),
      (MockTaskLoom.new ⟨.default⟩ ⟨.default⟩ ⟨.default⟩).runPrompt 7 10
        "prototype the routing boundary" = .ok output ∧
      output.eventLog.validateReplay = .ok report ∧ report.completionCount = 2 := by
  have hchild : MockDirectorConfig.default.nextChildTaskId < 2 ^ 64 - 1 := by decide
  have hsummary : isBlank "prototype the routing boundary" = false := rfl
  obtain ⟨output, report, hrun, hreplay, _, _, hcompleted, _⟩ :=
    mock_run_replays (F := WithTop Rat) .default 7 10 "prototype the routing boundary" hchild hsummary
  exact ⟨output, report, hrun, hreplay, hcompleted⟩
end QTom.Loom
