import QTom.Loom.Grounded
import QTom.Loom.MockLoom
import QTom.Router.Panics
import QTom.Router.RouteSpec

/- What the mock agents return and log: the director, a routed child and its builder,
   the integrator, the curator. Each gets the events it logs written down, a lemma that
   they are supported by what is logged before them, and a lemma that its steps all go
   through. -/
namespace QTom.Loom
open QTom.Lib QTom.Router InMemoryEventLog

/-- A step that gives its result, and the rest of the run. -/
theorem go_on {α β : Type} {x : LoomRun α} {a : α} {k : α → LoomRun β} (h : x = .ok a) :
    (x >>= k) = k a := by
  rw [h]
  rfl

/-- A loop over two entries. -/
theorem foldlM_two {σ ι : Type} {f : σ → ι → LoomRun σ} {s t u : σ} {x y : ι} (hx : f s x = .ok t)
    (hy : f t y = .ok u) : [x, y].foldlM f s = .ok u :=
  foldlM_cons_ok.mpr ⟨t, hx, foldlM_cons_ok.mpr ⟨u, hy, rfl⟩⟩

theorem ofModel_ok {α : Type} {x : Except LoomModelError α} {a : α} (h : x = .ok a) :
    ofModel x = .ok a := by
  rw [h]
  rfl

theorem ofChecked_ok {α : Type} {x : Checked α} {a : α} (h : x = .ok a) : ofChecked x = .ok a := by
  rw [h]
  rfl

/-! Appends that are expected. -/

theorem foldlM_appendExpected {events : List LoomEvent} {log log' : InMemoryEventLog}
    (h : events.foldlM appendOrFail log = .ok log') :
    events.foldlM appendExpected log = .ok log' := by
  induction events generalizing log with
  | nil =>
    cases h
    rfl
  | cons e events ih =>
    obtain ⟨u, hu, hrest⟩ := foldlM_cons_ok.mp h
    refine foldlM_cons_ok.mpr ⟨u, ?_, ih hrest⟩
    unfold appendExpected
    rw [hu]
    rfl

namespace Grounded
variable {events : List LoomEvent}

theorem appendsExpected (h : Grounded events) {before mid after : List LoomEvent}
    (hsplit : events = before ++ mid ++ after) :
    mid.foldlM appendExpected (ofEvents before) = .ok (ofEvents (before ++ mid)) :=
  foldlM_appendExpected (h.appends hsplit)

theorem appendExpected (h : Grounded events) {before after : List LoomEvent} {e : LoomEvent}
    (hsplit : events = before ++ e :: after) :
    (ofEvents before).appendExpected e = .ok (ofEvents (before ++ [e])) := by
  have hone : [e].foldlM InMemoryEventLog.appendExpected (ofEvents before) =
      .ok (ofEvents (before ++ [e])) :=
    h.appendsExpected (by rw [hsplit, List.append_assoc]; rfl)
  obtain ⟨log, hlog, hend⟩ := foldlM_cons_ok.mp hone
  cases hend
  exact hlog

/-- From the empty log. -/
theorem builds (h : Grounded events) :
    events.foldlM InMemoryEventLog.appendExpected .new = .ok (ofEvents events) :=
  foldlM_appendExpected (appendAll_ok_iff.mpr ⟨rfl, fun _ _ _ hsplit => h.accepts hsplit⟩)

end Grounded

/-! Texts that name something are not blank. -/

theorem not_blank_append {label rest : String} (h : isBlank label = false) :
    isBlank (label ++ rest) = false := by
  rw [isBlank_append, h]
  rfl

theorem valid_of_texts {e : LoomEvent} (hschema : isBlank e.payloadSchema = false)
    (href : isBlank e.payloadRef = false) (hfields : e.validateRequiredFields = .ok ()) :
    e.Valid := by
  apply LoomEvent.validate_ok_iff.mp
  unfold LoomEvent.validate
  rw [hschema, href]
  exact hfields

/-! A child's builder. -/

namespace MockConstructor
variable (builder : MockConstructor) (task : TaskEnvelope)

def artifactOf : ArtifactRef where
  artifactId := builder.config.nextArtifactId
  rootTaskId := task.rootTaskId
  taskId := task.taskId
  agentId := builder.config.agentId
  artifactKind := "mock.markdown"
  contentRef := "inline://artifact/" ++ toString builder.config.nextArtifactId

/-- The events at an offset from the configured id and time. -/
def offsetEvent (offset : Nat) (eventType : LoomEventType) (payloadRef : String)
    (causationId : Option Nat) : LoomEvent :=
  builder.eventAt (builder.config.nextEventId + offset)
    (builder.config.occurredAtMs + offset) eventType task payloadRef causationId

def declared : LoomEvent :=
  builder.offsetEvent task 0 .artifactDeclared (builder.artifactOf task).contentRef none

def ready : LoomEvent :=
  builder.offsetEvent task 1 .artifactReady (builder.artifactOf task).contentRef
    (some (builder.declared task).eventId)

def completed : LoomEvent :=
  builder.offsetEvent task 2 .taskCompleted (builder.artifactOf task).contentRef none

def decommissioned : LoomEvent :=
  builder.offsetEvent task 3 .agentDecommissioned ("inline://decommission/" ++
    toString builder.config.agentId ++ "/" ++ toString task.taskId) none

def lifecycle : List LoomEvent :=
  [builder.declared task, builder.ready task, builder.completed task,
    builder.decommissioned task]

theorem not_blank_schema (offset : Nat) (eventType : LoomEventType) (payloadRef : String)
    (causationId : Option Nat) :
    isBlank (builder.offsetEvent task offset eventType payloadRef causationId).payloadSchema =
      false := by
  show isBlank "qtom.mock.constructor.v1" = false
  rfl

theorem not_blank_contentRef : isBlank (builder.artifactOf task).contentRef = false :=
  not_blank_append rfl

theorem not_blank_decommissioned : isBlank (builder.decommissioned task).payloadRef = false :=
  not_blank_append (not_blank_append (not_blank_append rfl))

/-- The artifact is ready after it is declared; the other events need nothing. -/
theorem lifecycle_support (before : List LoomEvent) :
    Along Supported snoc before (builder.lifecycle task) := by
  have hcontent := builder.not_blank_contentRef task
  have hready : Supported (snoc before (builder.declared task)) (builder.ready task) := by
    refine ⟨valid_of_texts (builder.not_blank_schema task _ _ _ _) hcontent rfl, ?_, ?_, ?_⟩
    · intro t ht
      cases ht
      refine ⟨builder.declared task, by simp [snoc], rfl, rfl, ?_, ?_⟩
      · intro h
        cases h
      · intro _
        exact ⟨rfl, ⟨rfl, rfl⟩, rfl⟩
    · intro h
      cases h
    · intro h
      cases h
  refine Along.cons_iff.mpr ⟨?_, Along.cons_iff.mpr ⟨hready, Along.cons_iff.mpr ⟨?_,
    Along.cons_iff.mpr ⟨?_, Along.nil⟩⟩⟩⟩
  · refine .plain (valid_of_texts (builder.not_blank_schema task _ _ _ _) hcontent rfl) rfl ?_ ?_
    · intro h
      cases h
    · intro h
      cases h
  · refine .plain (valid_of_texts (builder.not_blank_schema task _ _ _ _) hcontent rfl) rfl ?_ ?_
    · intro h
      cases h
    · intro h
      cases h
  · refine .plain (valid_of_texts (builder.not_blank_schema task _ _ _ _)
      (builder.not_blank_decommissioned task) rfl) rfl ?_ ?_
    · intro h
      cases h
    · intro h
      cases h

theorem lifecycle_grounded : Grounded (builder.lifecycle task) := by
  refine ⟨?_, builder.lifecycle_support task []⟩
  show [builder.config.nextEventId + 0, builder.config.nextEventId + 1,
    builder.config.nextEventId + 2, builder.config.nextEventId + 3].Nodup
  simp

variable {builder}

theorem event_ok {offset : Nat}
    (htime : builder.config.occurredAtMs + 3 < 2 ^ 64) (hoffset : offset ≤ 3)
    (eventType : LoomEventType) (payloadRef : String) (causationId : Option Nat) :
    builder.event (builder.config.nextEventId + offset) eventType task payloadRef causationId =
      .ok (builder.offsetEvent task offset eventType payloadRef causationId) := by
  unfold event offsetEvent
  rw [Checked.sub_ok (Nat.le_add_right _ _), Checked.ok_bind, Nat.add_sub_cancel_left,
    Checked.add_ok (by omega)]
  rfl

/-- With room for three more ids and instants, the constructor builds the task. -/
theorem buildChildTask_ok (hid : builder.config.nextEventId + 3 < 2 ^ 64)
    (htime : builder.config.occurredAtMs + 3 < 2 ^ 64) :
    builder.buildChildTask task =
      .ok ⟨builder.artifactOf task, ofEvents (builder.lifecycle task)⟩ := by
  have hkind : isBlank "mock.markdown" = false := rfl
  have hcontent : isBlank ("inline://artifact/" ++ toString builder.config.nextArtifactId) =
      false := builder.not_blank_contentRef task
  have hadd : ∀ offset, offset ≤ 3 → ofChecked (Checked.add builder.config.nextEventId offset) =
      .ok (builder.config.nextEventId + offset) :=
    fun offset hoffset => ofChecked_ok (Checked.add_ok (by omega))
  have hdeclared := event_ok task htime (Nat.zero_le 3) .artifactDeclared
    (builder.artifactOf task).contentRef none
  have hready := event_ok task htime (show 1 ≤ 3 by omega) .artifactReady
    (builder.artifactOf task).contentRef (some (builder.declared task).eventId)
  have hcompleted := event_ok task htime (show 2 ≤ 3 by omega) .taskCompleted
    (builder.artifactOf task).contentRef none
  have hdecommissioned := event_ok task htime (Nat.le_refl 3) .agentDecommissioned
    ("inline://decommission/" ++ toString builder.config.agentId ++ "/" ++ toString task.taskId)
    none
  unfold buildChildTask
  refine (go_on (ofModel_ok (ArtifactRef.new_ok hkind hcontent _ _ _ _))).trans ?_
  refine (go_on (ofChecked_ok hdeclared)).trans ?_
  refine (go_on (hadd 1 (by omega))).trans ?_
  refine (go_on (ofChecked_ok hready)).trans ?_
  refine (go_on (hadd 2 (by omega))).trans ?_
  refine (go_on (ofChecked_ok hcompleted)).trans ?_
  refine (go_on (hadd 3 (by omega))).trans ?_
  refine (go_on (ofChecked_ok hdecommissioned)).trans ?_
  refine (go_on (builder.lifecycle_grounded task).builds).trans ?_
  rfl

end MockConstructor

/-! A routed child. -/

section Child
variable {F : Type} (promptId rootTaskId index : Nat) (child : TaskEnvelope)
  (decision : RouteDecision F)

def routeEvent : LoomEvent :=
  routeDecisionRecordedEvent decision (routeEventConfig promptId rootTaskId index)

def assignmentEvent : LoomEvent :=
  taskAssignedEvent ((routeEvent promptId rootTaskId index decision).eventId + 1) child
    decision.selectedAgentId (routeEvent promptId rootTaskId index decision).eventId

def builderOf : MockConstructor := childConstructor index decision.selectedAgentId

def routingEvents : List LoomEvent :=
  [routeEvent promptId rootTaskId index decision,
    assignmentEvent promptId rootTaskId index child decision]

def childEvents : List LoomEvent :=
  routingEvents promptId rootTaskId index child decision ++
    (builderOf index decision).lifecycle child

def packetOf : AgentDecommissionPacket where
  packetId := 1200 + index
  agentId := decision.selectedAgentId
  rootTaskId := child.rootTaskId
  taskId := child.taskId
  promptId := child.promptId
  planId := child.planId
  finalStatus := "completed"
  deliverableRefs := [900 + index]
  selfSummaryRef := ((builderOf index decision).decommissioned child).payloadRef

/-- What the constructor of a routed child returns. -/
def builtOf : ConstructorOutput :=
  ⟨(builderOf index decision).artifactOf child, ofEvents ((builderOf index decision).lifecycle child)⟩

def Building.after (building : Building F) (events : List LoomEvent) : Building F where
  eventLog := ofEvents events
  routeDecisions := building.routeDecisions ++ [decision]
  constructorOutputs := building.constructorOutputs ++ [builtOf index child decision]
  packets := building.packets ++ [packetOf index child decision]
  decommissionEvents := building.decommissionEvents ++ [(builderOf index decision).decommissioned child]

variable {promptId rootTaskId index child decision}

/-- The decision is telemetry, the assignment has the decision, the constructor needs neither. -/
theorem childEvents_support (htask : decision.taskId = child.taskId)
    (hroot : child.rootTaskId = rootTaskId) (before : List LoomEvent) :
    Along Supported snoc before (childEvents promptId rootTaskId index child decision) := by
  refine support_append (Along.cons_iff.mpr ⟨?_, Along.cons_iff.mpr ⟨?_, Along.nil⟩⟩)
    ((builderOf index decision).lifecycle_support child _)
  · refine ⟨valid_of_texts ?_ (not_blank_append rfl) rfl, ?_, ?_, ?_⟩
    · show isBlank "qtom.route_decision.v1" = false
      rfl
    · intro t ht
      cases ht
    · intro h
      cases h
    · intro _
      refine validateRouteDecisionTelemetry_ok_iff.mpr ⟨rfl, ?_⟩
      show startsWith ("inline://route-decision/" ++ toString decision.routeDecisionId)
        "inline://route-decision/" = true
      unfold startsWith
      rw [String.toList_append, List.isPrefixOf_iff_prefix]
      exact List.prefix_append _ _
  · refine ⟨valid_of_texts ?_ (not_blank_append (not_blank_append (not_blank_append rfl))) rfl,
      ?_, ?_, ?_⟩
    · show isBlank "qtom.mock.task_assignment.v1" = false
      rfl
    · intro t ht
      cases ht
      refine ⟨routeEvent promptId rootTaskId index decision, by simp [snoc], rfl, rfl, ?_, ?_⟩
      · intro _
        exact ⟨congrArg some htask.symm, hroot, rfl⟩
      · intro h
        cases h
    · intro h
      cases h
    · intro h
      cases h

/-- Within a grounded list, a child is built by the agent its decision selects. -/
theorem buildChild_ok [F32 F] {events before after : List LoomEvent} (hgrounded : Grounded events)
    (hsplit : events = before ++ childEvents promptId rootTaskId index child decision ++ after)
    {result : RoutingResult F} (hdecision : RouteDecision.fromResult (500 + index) 99 "cpu"
      "mock-routing-v1" result = .ok decision) (hindex : index < 2) (building : Building F)
    (hlog : building.eventLog = ofEvents before) :
    buildChild promptId rootTaskId building ((child, result), index) =
      .ok (building.after index child decision
        (before ++ childEvents promptId rootTaskId index child decision)) := by
  have hrouting : events = before ++ routingEvents promptId rootTaskId index child decision ++
      ((builderOf index decision).lifecycle child ++ after) := by
    rw [hsplit, childEvents]
    simp
  have hbuilding : events = before ++ routingEvents promptId rootTaskId index child decision ++
      (builderOf index decision).lifecycle child ++ after := by
    rw [hsplit, childEvents]
    simp
  have hrouted := hgrounded.appendsExpected hrouting
  have hmerged := hgrounded.appendsExpected hbuilding
  have hbuilt : (builderOf index decision).buildChildTask child =
      .ok (builtOf index child decision) := by
    apply MockConstructor.buildChildTask_ok
    · show 2000 + index * 10 + 3 < 2 ^ 64
      omega
    · show 10000 + index * 100 + 3 < 2 ^ 64
      omega
  have hpacket := AgentDecommissionPacket.completed_ok_iff.mpr ⟨⟨List.cons_ne_nil (900 + index) [],
    (builderOf index decision).not_blank_decommissioned child⟩,
      (rfl : packetOf index child decision = _)⟩
  have hlast : (ofEvents ((builderOf index decision).lifecycle child)).firstOfType
      .agentDecommissioned = .ok ((builderOf index decision).decommissioned child) := rfl
  rw [← hlog] at hrouted
  rw [List.append_assoc] at hmerged
  unfold buildChild
  refine (go_on (ofModel_ok hdecision)).trans ?_
  refine (go_on hrouted).trans ?_
  refine (go_on hbuilt).trans ?_
  unfold builtOf
  rw [replay_start, ofEvents_events]
  refine (go_on hmerged).trans ?_
  refine (go_on hlast).trans ?_
  refine (go_on (ofModel_ok hpacket)).trans ?_
  rfl

end Child

/-! Routing the children. -/

section Routing
variable {F : Type} [F32 F]

/-- A result names a candidate: without an agent to offer it names the fallback. -/
theorem finish_candidates (request : RoutingRequest F) (available : List (RouteCandidate F))
    (idealUnavailable : Bool) (debug : Option (RouteDebugInfo F)) :
    (finish request available idealUnavailable debug).availableCandidates ≠ [] := by
  unfold finish
  cases available with
  | nil => simp
  | cons candidate candidates =>
    intro h
    dsimp only at h
    split at h <;> cases h

theorem routeOneValidated_finishes {router : CpuRouter F} {request : RoutingRequest F}
    {b : ValidatedBatch F} {result : RoutingResult F}
    (h : router.routeOneValidated request b = .ok result) :
    result.taskId = request.taskId ∧ result.availableCandidates ≠ [] := by
  unfold CpuRouter.routeOneValidated CpuRouter.routeOneBestValidated at h
  split at h
  · obtain rfl := Except.ok.inj h
    exact ⟨rfl, finish_candidates _ _ _ _⟩
  · split at h
    · obtain rfl := Except.ok.inj h
      exact ⟨rfl, finish_candidates _ _ _ _⟩
    · obtain rfl := Except.ok.inj h
      exact ⟨rfl, finish_candidates _ _ _ _⟩

/-- Agents simulated for the requests take the requests. -/
theorem routeSimulated_ok {requests : List (RoutingRequest F)} {d : Nat} (hne : requests ≠ [])
    (hdim : ∀ request ∈ requests, request.vector.length = d)
    (hk : ∀ request ∈ requests, CapacityFits request.k) (hids : requests.length * 4 < 2 ^ 63)
    (hvectors : requests.length * d * 4 < 2 ^ 63) (hresults : requests.length * 64 < 2 ^ 63)
    (firstAgentId : Nat) (coefficients : ScoreCoefficients F) (state : AgentRuntimeState F) :
    ∃ results, (CpuRouter.new (simulatedAgentsForRequests requests firstAgentId)
        coefficients).routeBatchWithWorkersChecked requests
          (List.replicate (simulatedAgentsForRequests requests firstAgentId).length state) 1 =
        .ok (.ok results) ∧
      List.Forall₂ (fun request result => result.taskId = request.taskId ∧
        result.availableCandidates ≠ []) requests results := by
  have hagents := simulatedAgents_uniform hdim firstAgentId
  have hlen := length_simulatedAgents requests firstAgentId
  have hsome : simulatedAgentsForRequests requests firstAgentId ≠ [] := by
    intro hnil
    rw [hnil] at hlen
    exact hne (List.eq_nil_of_length_eq_zero hlen.symm)
  have hstates : (List.replicate (simulatedAgentsForRequests requests firstAgentId).length
      state).length = (simulatedAgentsForRequests requests firstAgentId).length :=
    List.length_replicate
  have hvalid : (CpuRouter.new (simulatedAgentsForRequests requests firstAgentId)
      coefficients).validateBatch requests _ = .ok (batchOf hagents hstates) :=
    validateBatch_uniform hagents hsome hstates hdim coefficients true
  have hmemory : (batchOf hagents hstates).routeTable.InMemory := by
    refine ⟨?_, ?_⟩
    · show (List.map AgentProfile.id _).length * 4 < 2 ^ 63
      rw [List.length_map, hlen]
      exact hids
    · rw [(batchOf hagents hstates).routeTable.packed]
      show (List.map AgentProfile.id _).length * d * 4 < 2 ^ 63
      rw [List.length_map, hlen]
      exact hvectors
  have hrouted := (CpuRouter.routeBatchWithWorkersChecked_returns hvalid hmemory 1).1
    ⟨hk, fun _ => hresults⟩
  -- the batch is its requests one after another, and each has a result
  choose result hresult using fun request => routeOneValidated_ok (CpuRouter.new
    (simulatedAgentsForRequests requests firstAgentId) coefficients) request
      (batchOf hagents hstates)
  refine ⟨requests.map result, ?_, ?_⟩
  · rw [hrouted]
    have hempty : ¬ requests.isEmpty = true := by
      rw [List.isEmpty_iff]
      exact hne
    unfold CpuRouter.routeBatchWithWorkers
    rw [if_neg hempty, hvalid]
    apply congrArg Except.ok
    exact (workers_eq _ hne _ 1).trans (mapM_ok fun request _ => hresult request)
  · rw [List.forall₂_map_right_iff]
    exact List.forall₂_same.mpr fun request _ => routeOneValidated_finishes (hresult request)

theorem routeChildren_ok [F32Values F] {children : List TaskEnvelope} (hne : children ≠ [])
    (hcount : children.length * 64 < 2 ^ 63) : ∃ results : List (RoutingResult F),
      routeChildren children = .ok results ∧
      List.Forall₂ (fun child result => result.taskId = child.taskId ∧
        result.availableCandidates ≠ []) children results := by
  have hdim : (TaskRouteRequestConfig.default : TaskRouteRequestConfig F).dimensions ≠ 0 := by
    show 16 ≠ 0
    decide
  choose request hrequest using fun child => buildRouteRequestFromTask_ok child hdim
  have hrequests : (children.mapM fun child =>
      buildRouteRequestFromTask child (.default : TaskRouteRequestConfig F)) =
        .ok (children.map request) := mapM_ok fun child _ => (hrequest child).1
  have hsome : children.map request ≠ [] := by
    intro hnil
    exact hne (List.map_eq_nil_iff.mp hnil)
  have hlen : (children.map request).length = children.length := List.length_map _
  have hvectors : ∀ r ∈ children.map request, r.vector.length = 16 := by
    intro r hr
    obtain ⟨child, _, rfl⟩ := List.mem_map.mp hr
    exact (hrequest child).2.2.2
  have hk : ∀ r ∈ children.map request, CapacityFits r.k := by
    intro r hr
    obtain ⟨child, _, rfl⟩ := List.mem_map.mp hr
    rw [(hrequest child).2.2.1]
    exact Or.inl (show 3 ≤ stackTopKCap by decide)
  obtain ⟨results, hresults, hforall⟩ := routeSimulated_ok hsome hvectors hk (by omega) (by omega)
    (by omega) 10000 defaultCoefficients availableState
  refine ⟨results, ?_, ?_⟩
  · unfold routeChildren
    refine (go_on (ofModel_ok hrequests)).trans ?_
    refine (go_on (ofChecked_ok hresults)).trans ?_
    rfl
  · rw [List.forall₂_map_left_iff] at hforall
    refine hforall.imp fun child result h => ?_
    exact ⟨h.1.trans (hrequest child).2.1, h.2⟩

end Routing

/-! The director. -/

section Director
variable (config : MockDirectorConfig) (promptId rootTaskId : Nat) (summary : String)

def rootOf : TaskEnvelope := ⟨rootTaskId, rootTaskId, none, promptId, 0, 0, summary⟩

def childOf (offset : Nat) (label : String) : TaskEnvelope where
  taskId := config.nextChildTaskId + offset
  rootTaskId
  parentTaskId := some rootTaskId
  promptId
  planId := config.nextPlanId
  integrationGroupId := config.nextIntegrationGroupId
  summary := label ++ summary

def childrenOf : List TaskEnvelope :=
  [childOf config promptId rootTaskId summary 0 "Explore: ",
    childOf config promptId rootTaskId summary 1 "Validate: "]

def acceptanceOf : String := "inline://acceptance/" ++ toString config.nextPlanId

def planOf : PlanNode where
  planId := config.nextPlanId
  rootTaskId
  taskId := rootTaskId
  directorAgentId := config.directorAgentId
  decompositionReasonRef := "inline://decomposition/" ++ toString config.nextPlanId
  childTaskIds := [config.nextChildTaskId, config.nextChildTaskId + 1]
  dependencyEdges := [⟨config.nextChildTaskId, config.nextChildTaskId + 1, .providesEvidence⟩]
  integrationGroupId := config.nextIntegrationGroupId
  acceptanceCriteriaRef := acceptanceOf config
  riskFlags := ["mock_director_split"]

def groupOf : IntegrationGroup where
  integrationGroupId := config.nextIntegrationGroupId
  rootTaskId
  parentTaskId := rootTaskId
  planId := config.nextPlanId
  expectedChildTaskIds := [config.nextChildTaskId, config.nextChildTaskId + 1]
  joinPolicy := .waitAll
  acceptanceCriteriaRef := acceptanceOf config
  integrationAgentIds := [config.integrationAgentId]

variable {config summary}

/-- With an id left for the second child, the director splits the task in two. -/
theorem splitRootTask_ok (hchild : config.nextChildTaskId + 1 < 2 ^ 64)
    (hsummary : isBlank summary = false) :
    (MockDirector.mk config).splitRootTask promptId rootTaskId rootTaskId summary =
      .ok ⟨planOf config rootTaskId, childrenOf config promptId rootTaskId summary,
        groupOf config rootTaskId⟩ := by
  have hacceptance : isBlank (acceptanceOf config) = false := not_blank_append rfl
  have hreason : isBlank ("inline://decomposition/" ++ toString config.nextPlanId) = false :=
    not_blank_append rfl
  have hexplore : isBlank ("Explore: " ++ summary) = false := not_blank_append rfl
  have hvalidate : isBlank ("Validate: " ++ summary) = false := not_blank_append rfl
  unfold MockDirector.splitRootTask
  refine (go_on (ofModel_ok (ensureNotEmpty_ok_iff.mpr hsummary))).trans ?_
  refine (go_on (ofModel_ok (TaskEnvelope.child_ok hexplore _ _ _ _ _ _))).trans ?_
  refine (go_on (ofChecked_ok (Checked.add_ok hchild))).trans ?_
  refine (go_on (ofModel_ok (TaskEnvelope.child_ok hvalidate _ _ _ _ _ _))).trans ?_
  refine (go_on (ofModel_ok (PlanNode.new_ok (List.cons_ne_nil _ _) hreason hacceptance
    _ _ _ _ _ _ _))).trans ?_
  refine (go_on (ofModel_ok (IntegrationGroup.new_ok (List.cons_ne_nil _ _)
    (List.cons_ne_nil _ _) hacceptance _ _ _ _ _))).trans ?_
  rfl

end Director

/-! The integrator. -/

namespace MockIntegration

def reportOf (group : IntegrationGroup) (artifacts : List ArtifactRef) : IntegrationReport where
  integrationGroupId := group.integrationGroupId
  includedTaskIds := group.expectedChildTaskIds
  excludedTaskIds := []
  conflictEdges := []
  gapEdges := []
  repairTaskIds := []
  finalArtifactRefs := artifacts.map ArtifactRef.artifactId
  reportRef := "inline://integration/report/" ++ toString group.integrationGroupId
  acceptanceStatus := .accepted

variable {integration : MockIntegration} {group : IntegrationGroup} {artifacts : List ArtifactRef}

theorem not_blank_report : isBlank (reportOf group artifacts).reportRef = false := not_blank_append rfl

theorem requestedEvent_support (before : List LoomEvent) :
    Supported before (integration.requestedEvent group (reportOf group artifacts)) := by
  have hschema : isBlank "qtom.mock.integration.v1" = false := rfl
  have hreport : isBlank (reportOf group artifacts).reportRef = false := not_blank_report
  exact .plain (valid_of_texts hschema hreport rfl) rfl (fun h => (nomatch h))
    (fun h => (nomatch h))

/-- Artifacts of exactly the expected children are joined. -/
theorem integrateCompletedChildren_ok
    (hexpected : group.expectedChildTaskIds = artifacts.map ArtifactRef.taskId)
    (hne : artifacts ≠ []) : integration.integrateCompletedChildren group artifacts =
      .ok ⟨reportOf group artifacts,
        ofEvents [integration.requestedEvent group (reportOf group artifacts)]⟩ := by
  have hchecked : group.expectedChildTaskIds.forM (checkArtifact artifacts) = .ok () := by
    apply forM_ok_iff.mpr
    intro taskId htask
    rw [hexpected] at htask
    obtain ⟨artifact, hartifact, rfl⟩ := List.mem_map.mp htask
    exact if_pos (List.any_eq_true.mpr ⟨artifact, hartifact, by simp⟩)
  have hall : (artifacts.filter fun artifact =>
      group.expectedChildTaskIds.contains artifact.taskId) = artifacts := by
    apply List.filter_eq_self.mpr
    intro artifact hartifact
    rw [hexpected]
    exact List.contains_iff_mem.mpr (List.mem_map_of_mem hartifact)
  have hincluded : group.expectedChildTaskIds ≠ [] := by
    rw [hexpected]
    intro hnil
    exact hne (List.map_eq_nil_iff.mp hnil)
  have hrefs : artifacts.map ArtifactRef.artifactId ≠ [] := by
    intro hnil
    exact hne (List.map_eq_nil_iff.mp hnil)
  have hreport : isBlank ("inline://integration/report/" ++ toString group.integrationGroupId) =
      false := not_blank_append rfl
  have hgrounded : Grounded [integration.requestedEvent group (reportOf group artifacts)] :=
    ⟨List.nodup_singleton _, Along.cons_iff.mpr ⟨requestedEvent_support [], Along.nil⟩⟩
  unfold integrateCompletedChildren
  refine (go_on (ofModel_ok hchecked)).trans ?_
  dsimp only
  rw [hall]
  refine (go_on (ofModel_ok (IntegrationReport.accepted_ok hincluded hrefs hreport _))).trans ?_
  refine (go_on (hgrounded.appendExpected (List.nil_append _).symm)).trans ?_
  rfl

end MockIntegration

/-! The curator. -/

namespace MockCurator

def nodeOf (curator : MockCurator) (packet : AgentDecommissionPacket) : MemoryNode where
  memoryNodeId := curator.config.nextMemoryNodeId
  kind := .episode
  rootTaskId := packet.rootTaskId
  taskId := packet.taskId
  packetId := packet.packetId
  evidenceRefs := [packet.selfSummaryRef]
  summary := packet.finalStatus ++ " agent " ++ toString packet.agentId ++ " task " ++
    toString packet.taskId

def memoryOf (curator : MockCurator) (packet : AgentDecommissionPacket)
    (decommissionEvent : LoomEvent) : LoomEvent :=
  curator.createdEvent packet (curator.nodeOf packet) decommissionEvent

variable {curator : MockCurator} {packet : AgentDecommissionPacket} {decommissionEvent : LoomEvent}

/-- The memory of an agent has the decommission event for its evidence. -/
theorem memoryOf_support (htype : decommissionEvent.eventType = .agentDecommissioned)
    (htask : decommissionEvent.taskId = some packet.taskId)
    (hroot : decommissionEvent.rootTaskId = packet.rootTaskId)
    (hcorrelation : decommissionEvent.correlationId = curator.config.correlationId)
    {before : List LoomEvent} (hmem : decommissionEvent ∈ before) :
    Supported before (curator.memoryOf packet decommissionEvent) := by
  have hschema : isBlank "qtom.mock.curator.v1" = false := rfl
  refine ⟨valid_of_texts hschema (not_blank_append rfl) rfl, ?_, ?_, ?_⟩
  · intro t ht
    cases ht
  · intro _
    exact ⟨decommissionEvent, hmem, htype, rfl, htask.symm, hroot.symm, hcorrelation.symm⟩
  · intro h
    cases h

theorem curateDecommissionPacket_ok (hvalid : decommissionEvent.Valid)
    (hid : decommissionEvent.eventId ≠ curator.config.nextEventId)
    (htype : decommissionEvent.eventType = .agentDecommissioned)
    (htask : decommissionEvent.taskId = some packet.taskId)
    (hroot : decommissionEvent.rootTaskId = packet.rootTaskId)
    (hcorrelation : decommissionEvent.correlationId = curator.config.correlationId)
    (hstatus : isBlank packet.finalStatus = false) :
    curator.curateDecommissionPacket packet decommissionEvent =
      .ok ⟨curator.nodeOf packet,
        ofEvents [decommissionEvent, curator.memoryOf packet decommissionEvent]⟩ := by
  have hgrounded : Grounded [decommissionEvent, curator.memoryOf packet decommissionEvent] := by
    refine ⟨?_, Along.cons_iff.mpr ⟨?_, Along.cons_iff.mpr ⟨?_, Along.nil⟩⟩⟩
    · show [decommissionEvent.eventId, curator.config.nextEventId].Nodup
      simp [hid]
    · exact .plain hvalid (by rw [htype]; rfl) (by rw [htype]; decide) (by rw [htype]; decide)
    · exact memoryOf_support htype htask hroot hcorrelation (by simp [snoc])
  have hsummary : isBlank (packet.finalStatus ++ " agent " ++ toString packet.agentId ++ " task " ++
      toString packet.taskId) = false :=
    not_blank_append (not_blank_append (not_blank_append (not_blank_append hstatus)))
  unfold curateDecommissionPacket
  refine (go_on (ofModel_ok (MemoryNode.fromPacket_ok (List.cons_ne_nil _ _) hsummary
    _ _ _ _ _))).trans ?_
  refine (go_on hgrounded.builds).trans ?_
  rfl

end MockCurator

end QTom.Loom
