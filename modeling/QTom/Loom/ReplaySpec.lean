import QTom.Loom.Replay

/- What the replay validator computes, on the event list alone.

   `loop events` is the state the loop ends in when it meets no error; each of
   its components is read off the events (`loop_replayLog`, `loop_completed`,
   `loop_report` and the rest). `Passes events` collects what the loop and the
   passes after it check, and `validateEvents_ok_iff` says that the validator
   accepts exactly those lists, with the exact counts. -/
namespace QTom.Loom
open QTom.Lib InMemoryEventLog

/-- The shadow log admits the event: its pre-check passes and it appends. -/
structure Admits (log : InMemoryEventLog) (e : LoomEvent) : Prop where
  checked : validateBeforeAppend e log = .ok ()
  accepted : log.Accepts e

namespace ReplayState

/-- One round of the loop when nothing fails. -/
def record (s : ReplayState) (event : LoomEvent) : ReplayState :=
  tally
    { s with
      replayLog := s.replayLog.push event
      rootTaskIds := insert event.rootTaskId s.rootTaskIds
      taskEventCount := if event.taskId.isSome then s.taskEventCount + 1 else s.taskEventCount }
    event

theorem step_guarded : Guarded step (fun s e => Admits s.replayLog e) record := by
  intro s e t
  unfold step
  rw [bind_ok_iff]
  refine ⟨fun ⟨_, hcheck, h⟩ => ?_, fun ⟨h, ht⟩ => ?_⟩
  · obtain ⟨log, hlog, ht⟩ := bind_ok_iff.mp h
    obtain ⟨hacc, rfl⟩ := (appendOrFail_guarded _ _ _).mp hlog
    cases ht
    exact ⟨⟨hcheck, hacc⟩, rfl⟩
  · refine ⟨(), h.checked, bind_ok_iff.mpr ⟨s.replayLog.push e, ?_, by rw [ht]; rfl⟩⟩
    exact (appendOrFail_guarded _ _ _).mpr ⟨h.accepted, rfl⟩

/-- The key of a task index: the task id of the events of one type. -/
def taskKey (type : LoomEventType) (e : LoomEvent) : Option Nat :=
  if e.eventType = type then e.taskId else none

/-- A child task: a created task with a parent. -/
def isChild (e : LoomEvent) : Bool := e.eventType = .taskCreated && e.parentTaskId.isSome

theorem indexInsert_taskKey {type : LoomEventType} (m : TaskIndex) (e : LoomEvent) :
    indexInsert (taskKey type) m e =
      if e.eventType = type then indexInsert LoomEvent.taskId m e else m := by
  unfold indexInsert taskKey
  by_cases h : e.eventType = type <;> simp [h]

/-! One round, component by component. -/

section Record
variable (s : ReplayState) (e : LoomEvent)

theorem record_replayLog : (s.record e).replayLog = s.replayLog.push e := by
  unfold record tally
  split <;> try rfl
  split <;> rfl

theorem record_rootTaskIds : (s.record e).rootTaskIds = insert e.rootTaskId s.rootTaskIds := by
  unfold record tally
  split <;> try rfl
  split <;> rfl

theorem record_taskEventCount : (s.record e).taskEventCount =
    if e.taskId.isSome then s.taskEventCount + 1 else s.taskEventCount := by
  unfold record tally
  split <;> try rfl
  split <;> rfl

theorem record_childTaskEvents : (s.record e).childTaskEvents =
    if isChild e then s.childTaskEvents ++ [e] else s.childTaskEvents := by
  unfold record tally isChild
  cases e.eventType <;> simp
  split <;> simp_all

theorem record_completed : (s.record e).completedTaskEventsByTaskId =
    indexInsert (taskKey .taskCompleted) s.completedTaskEventsByTaskId e := by
  rw [indexInsert_taskKey]
  unfold record tally
  cases e.eventType <;> simp
  split <;> rfl

theorem record_decommissioned : (s.record e).decommissionEventsByTaskId =
    indexInsert (taskKey .agentDecommissioned) s.decommissionEventsByTaskId e := by
  rw [indexInsert_taskKey]
  unfold record tally
  cases e.eventType <;> simp
  split <;> rfl

theorem record_integrations : (s.record e).integrationEventsByParentTaskId =
    indexInsert (taskKey .integrationRequested) s.integrationEventsByParentTaskId e := by
  rw [indexInsert_taskKey]
  unfold record tally
  cases e.eventType <;> simp
  split <;> rfl

/-- The counter of an event type, for the types the report counts. -/
def counter (s : ReplayState) : LoomEventType → Option Nat
  | .routeDecisionRecorded => some s.routeDecisionCount
  | .taskAssigned => some s.assignmentCount
  | .taskCompleted => some s.completionCount
  | .agentDecommissioned => some s.decommissionCount
  | .memoryNodeCreated => some s.memoryNodeCount
  | .topologyShadowed => some s.topologyShadowCount
  | .topologyCanaried => some s.topologyCanaryCount
  | .topologyCommitted => some s.topologyCommitCount
  | .topologyRolledBack => some s.topologyRollbackCount
  | .integrationRequested => some s.integrationRequestCount
  | _ => none

theorem tally_counter (type : LoomEventType) : (s.tally e).counter type =
    if e.eventType = type then (s.counter type).map (· + 1) else s.counter type := by
  unfold tally
  cases e.eventType with
  | taskCreated => by_cases hp : e.parentTaskId.isSome <;> cases type <;> simp [counter, hp]
  | _ => cases type <;> simp [counter]

theorem record_counter (type : LoomEventType) : (s.record e).counter type =
    if e.eventType = type then (s.counter type).map (· + 1) else s.counter type := by
  rw [record, tally_counter]
  cases type <;> rfl

end Record

/-! The whole loop. -/

/-- The state the loop ends in when nothing fails. -/
def loop (events : List LoomEvent) : ReplayState := events.foldl record {}

theorem loop_append (events : List LoomEvent) (e : LoomEvent) :
    loop (events ++ [e]) = (loop events).record e := by
  rw [loop, List.foldl_append]
  rfl

theorem loop_replayLog (events : List LoomEvent) : (loop events).replayLog = ofEvents events :=
  (List.foldl_hom replayLog (fun s e => (record_replayLog s e).symm)).symm

theorem loop_rootTaskIds (events : List LoomEvent) :
    (loop events).rootTaskIds = (events.map LoomEvent.rootTaskId).toFinset := by
  induction events using List.reverseRecOn with
  | nil => rfl
  | append_singleton events e ih =>
    rw [loop_append, record_rootTaskIds, ih]
    ext id
    simp

theorem loop_taskEventCount (events : List LoomEvent) :
    (loop events).taskEventCount = events.countP (fun e => e.taskId.isSome) :=
  (foldl_countP taskEventCount _ record_taskEventCount {} events).trans (Nat.zero_add _)

theorem loop_children (events : List LoomEvent) :
    (loop events).childTaskEvents = events.filter isChild :=
  (foldl_collect childTaskEvents isChild record_childTaskEvents {} events).trans (List.nil_append _)

/-- The last event of the given type that carries the task id. -/
def lastEvent (type : LoomEventType) (taskId : Nat) (events : List LoomEvent) : Option LoomEvent :=
  lastOf (taskKey type) taskId events

section Indexes
variable (taskId : Nat) (events : List LoomEvent)

theorem loop_completed : (loop events).completedTaskEventsByTaskId.lookup taskId =
    lastEvent .taskCompleted taskId events := by
  rw [loop, ← List.foldl_hom completedTaskEventsByTaskId (fun s e => (record_completed s e).symm)]
  exact lookup_index events

theorem loop_decommissioned : (loop events).decommissionEventsByTaskId.lookup taskId =
    lastEvent .agentDecommissioned taskId events := by
  rw [loop, ← List.foldl_hom decommissionEventsByTaskId
    (fun s e => (record_decommissioned s e).symm)]
  exact lookup_index events

theorem loop_integrations : (loop events).integrationEventsByParentTaskId.lookup taskId =
    lastEvent .integrationRequested taskId events := by
  rw [loop, ← List.foldl_hom integrationEventsByParentTaskId
    (fun s e => (record_integrations s e).symm)]
  exact lookup_index events

end Indexes

/-- How many events of a type the list holds. -/
def countOf (type : LoomEventType) (events : List LoomEvent) : Nat :=
  events.countP (fun e => e.eventType = type)

theorem loop_counter (events : List LoomEvent) (type : LoomEventType) :
    (loop events).counter type = (counter {} type).map (fun _ => countOf type events) := by
  induction events using List.reverseRecOn with
  | nil => cases type <;> rfl
  | append_singleton events e ih =>
    rw [loop_append, record_counter, ih]
    simp only [countOf, List.countP_append, List.countP_singleton, decide_eq_true_eq]
    split <;> cases counter {} type <;> rfl

/-- The report with every count the exact number of such events. -/
def exactReport (events : List LoomEvent) : ReplayValidationReport where
  eventCount := events.length
  rootTaskCount := (events.map LoomEvent.rootTaskId).toFinset.card
  taskEventCount := events.countP (fun e => e.taskId.isSome)
  routeDecisionCount := countOf .routeDecisionRecorded events
  assignmentCount := countOf .taskAssigned events
  completionCount := countOf .taskCompleted events
  decommissionCount := countOf .agentDecommissioned events
  memoryNodeCount := countOf .memoryNodeCreated events
  topologyShadowCount := countOf .topologyShadowed events
  topologyCanaryCount := countOf .topologyCanaried events
  topologyCommitCount := countOf .topologyCommitted events
  topologyRollbackCount := countOf .topologyRolledBack events
  integrationRequestCount := countOf .integrationRequested events

theorem loop_report (events : List LoomEvent) : (loop events).report events = exactReport events := by
  have h : ∀ type, (loop events).counter type = (counter {} type).map (fun _ => countOf type events) :=
    loop_counter events
  unfold report exactReport
  rw [loop_rootTaskIds, loop_taskEventCount,
    Option.some.inj (h .routeDecisionRecorded), Option.some.inj (h .taskAssigned),
    Option.some.inj (h .taskCompleted), Option.some.inj (h .agentDecommissioned),
    Option.some.inj (h .memoryNodeCreated), Option.some.inj (h .topologyShadowed),
    Option.some.inj (h .topologyCanaried), Option.some.inj (h .topologyCommitted),
    Option.some.inj (h .topologyRolledBack), Option.some.inj (h .integrationRequested)]

end ReplayState

/-! The passes after the loop. -/

theorem validateTaskIntegration_ok_iff {children : List LoomEvent} {m : TaskIndex} :
    validateTaskIntegration children m = .ok () ↔
      ∀ child ∈ children, ∀ p, child.parentTaskId = some p → ∃ i, m.lookup p = some i := by
  have hlack : ∀ child, lacksIntegration m child = false ↔
      ∀ p, child.parentTaskId = some p → ∃ i, m.lookup p = some i := by
    intro child
    unfold lacksIntegration
    cases child.parentTaskId with
    | none => simp
    | some p => simp [Option.isSome_iff_exists]
  unfold validateTaskIntegration
  cases hmin : (children.filter (lacksIntegration m)).argmin (fun e => e.taskId.getD 0) with
  | none =>
    rw [List.argmin_eq_none, List.filter_eq_nil_iff] at hmin
    refine ⟨fun _ child hc => (hlack child).mp ?_, fun _ => rfl⟩
    simpa using hmin child hc
  | some child =>
    have hc := List.mem_filter.mp (List.argmin_mem hmin)
    refine ⟨fun h => (nomatch h), fun h => ?_⟩
    rw [(hlack child).mpr (h child hc.1)] at hc
    exact absurd hc.2 (by decide)

theorem validateChildTaskIntegrationContext_ok_iff {children : List LoomEvent} {m : TaskIndex} :
    validateChildTaskIntegrationContext children m = .ok () ↔
      ∀ child ∈ children, ∀ p, child.parentTaskId = some p → ∀ i, m.lookup p = some i →
        SameContext child i := by
  unfold validateChildTaskIntegrationContext
  rw [forM_ok_iff]
  apply forall_congr'; intro child
  apply forall_congr'; intro _
  cases child.parentTaskId with
  | none => simp
  | some p =>
    simp only [Option.some.injEq, forall_eq']
    cases m.lookup p with
    | none => simp
    | some i => simp [checkFields_ok_iff, SameContext]

theorem validateTaskDecommission_ok_iff {completed decommissioned : TaskIndex} :
    validateTaskDecommission completed decommissioned = .ok () ↔
      ∀ t c, completed.lookup t = some c → ∃ d, decommissioned.lookup t = some d := by
  unfold validateTaskDecommission
  cases hmin : (completed.keys.filter (fun t => (decommissioned.lookup t).isNone)).min? with
  | none =>
    rw [List.min?_eq_none_iff, List.filter_eq_nil_iff] at hmin
    refine ⟨fun _ t c hc => ?_, fun _ => rfl⟩
    have ht := hmin t (mem_keys_iff_lookup.mpr ⟨c, hc⟩)
    rw [Option.isNone_iff_eq_none] at ht
    exact Option.ne_none_iff_exists'.mp ht
  | some t =>
    obtain ⟨hkey, hnone⟩ := List.mem_filter.mp (List.min?_mem hmin)
    refine ⟨fun h => (nomatch h), fun h => ?_⟩
    obtain ⟨c, hc⟩ := mem_keys_iff_lookup.mp hkey
    obtain ⟨d, hd⟩ := h t c hc
    simp [hd] at hnone

theorem validateTaskDecommissionContext_ok_iff {completed decommissioned : TaskIndex} :
    validateTaskDecommissionContext completed decommissioned = .ok () ↔
      ∀ t c d, completed.lookup t = some c → decommissioned.lookup t = some d →
        SameContext c d := by
  unfold validateTaskDecommissionContext
  rw [forM_ok_iff]
  refine ⟨fun h t c d hc hd => ?_, fun h t _ => ?_⟩
  · have ht := h t ((List.mem_insertionSort _).mpr (mem_keys_iff_lookup.mpr ⟨c, hc⟩))
    simpa [hc, hd, checkFields_ok_iff, SameContext] using ht
  · cases hc : completed.lookup t with
    | none => simp
    | some c =>
      cases hd : decommissioned.lookup t with
      | none => simp
      | some d => simpa [hd, checkFields_ok_iff, SameContext] using h t c d hc hd

/-! What the validator accepts. -/

/-- The conditions `validate_events` checks. The last integration request of a
parent and the last completion and decommission of a task stand for all of them:
an index holds no others. -/
structure Passes (events : List LoomEvent) : Prop where
  admits : ∀ pre e post, events = pre ++ e :: post → Admits (ofEvents pre) e
  integrated : ∀ child ∈ events, child.eventType = .taskCreated →
    ∀ p, child.parentTaskId = some p → ∃ i,
      ReplayState.lastEvent .integrationRequested p events = some i ∧ SameContext child i
  decommissioned : ∀ t c, ReplayState.lastEvent .taskCompleted t events = some c → ∃ d,
    ReplayState.lastEvent .agentDecommissioned t events = some d ∧ SameContext c d

theorem loop_run_iff {events : List LoomEvent} {s : ReplayState} :
    events.foldlM ReplayState.step {} = .ok s ↔ s = ReplayState.loop events ∧
      ∀ pre e post, events = pre ++ e :: post → Admits (ofEvents pre) e := by
  rw [ReplayState.step_guarded.run_iff]
  apply and_congr_right
  intro _
  -- the shadow log before an event is the log of the events before it
  have hlog : ∀ pre, (pre.foldl ReplayState.record {}).replayLog = ofEvents pre :=
    ReplayState.loop_replayLog
  simp only [Along, hlog]

theorem mem_children {events : List LoomEvent} {child : LoomEvent} :
    child ∈ events.filter ReplayState.isChild ↔
      child ∈ events ∧ child.eventType = .taskCreated ∧ child.parentTaskId.isSome := by
  simp [ReplayState.isChild]

theorem validateLifecycles_ok_iff {events : List LoomEvent} :
    (ReplayState.loop events).validateLifecycles = .ok () ↔
      (∀ child ∈ events, child.eventType = .taskCreated →
        ∀ p, child.parentTaskId = some p → ∃ i,
          ReplayState.lastEvent .integrationRequested p events = some i ∧ SameContext child i) ∧
      (∀ t c, ReplayState.lastEvent .taskCompleted t events = some c → ∃ d,
        ReplayState.lastEvent .agentDecommissioned t events = some d ∧ SameContext c d) := by
  unfold ReplayState.validateLifecycles
  simp only [then_ok_iff, validateTaskIntegration_ok_iff, validateTaskDecommission_ok_iff,
    validateChildTaskIntegrationContext_ok_iff, validateTaskDecommissionContext_ok_iff,
    ReplayState.loop_children, ReplayState.loop_completed, ReplayState.loop_decommissioned,
    ReplayState.loop_integrations, mem_children]
  -- one pass asks that the evidence exists, the next that it fits
  refine ⟨fun ⟨hi, hic, hd, hdc⟩ => ⟨?_, ?_⟩, fun ⟨hi, hd⟩ => ⟨?_, ?_, ?_, ?_⟩⟩
  · intro child hc ht p hp
    have hchild : child ∈ events ∧ child.eventType = .taskCreated ∧ child.parentTaskId.isSome :=
      ⟨hc, ht, by rw [hp]; rfl⟩
    obtain ⟨i, hl⟩ := hi child hchild p hp
    exact ⟨i, hl, hic child hchild p hp i hl⟩
  · intro t c hc
    obtain ⟨d, hl⟩ := hd t c hc
    exact ⟨d, hl, hdc t c d hc hl⟩
  · intro child ⟨hc, ht, _⟩ p hp
    obtain ⟨i, hl, _⟩ := hi child hc ht p hp
    exact ⟨i, hl⟩
  · intro child ⟨hc, ht, _⟩ p hp i hl
    obtain ⟨i', hl', hctx⟩ := hi child hc ht p hp
    rw [hl] at hl'
    cases hl'
    exact hctx
  · intro t c hc
    obtain ⟨d, hl, _⟩ := hd t c hc
    exact ⟨d, hl⟩
  · intro t c d hc hl
    obtain ⟨d', hl', hctx⟩ := hd t c hc
    rw [hl] at hl'
    cases hl'
    exact hctx

/-- The validator accepts exactly the lists that pass, with the exact counts. -/
theorem validateEvents_ok_iff {events : List LoomEvent} {report : ReplayValidationReport} :
    validateEvents events = .ok report ↔
      Passes events ∧ report = ReplayState.exactReport events := by
  unfold validateEvents
  rw [bind_ok_iff]
  refine ⟨fun ⟨s, hs, h⟩ => ?_, fun ⟨hp, hr⟩ => ?_⟩
  · obtain ⟨rfl, hadm⟩ := loop_run_iff.mp hs
    obtain ⟨_, hlife, hreport⟩ := bind_ok_iff.mp h
    obtain ⟨hi, hd⟩ := validateLifecycles_ok_iff.mp hlife
    cases hreport
    exact ⟨⟨hadm, hi, hd⟩, ReplayState.loop_report events⟩
  · refine ⟨ReplayState.loop events, loop_run_iff.mpr ⟨rfl, hp.admits⟩, bind_ok_iff.mpr ⟨(), ?_, ?_⟩⟩
    · exact validateLifecycles_ok_iff.mpr ⟨hp.integrated, hp.decommissioned⟩
    · rw [hr, ← ReplayState.loop_report]
      rfl

end QTom.Loom
