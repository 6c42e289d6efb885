import QTom.Loom.ConcurrentRuns
import QTom.Loom.MockAgents

/- The agent runtime (`loom_runtime.rs`): an agent executes one task and hands back its
   artifacts, the packet of its decommission and a log of its own.

   Agents execute in parallel and their logs meet in one. With blocks of event ids that
   do not overlap, whatever the order in which the events of all agents arrive, the log
   takes them, the replay validator accepts them, and every packet's summary is that of
   its agent's decommission, of which the log holds one (`concurrent_agents`). -/
namespace QTom.Loom
open QTom.Lib InMemoryEventLog ReplayState

structure HydratedContext where
  promptRef : String
  toolRefs : List String
  memoryRefs : List String
  deriving DecidableEq, Repr

structure AgentExecutionResult where
  artifacts : List ArtifactRef
  decommissionPacket : AgentDecommissionPacket
  eventLog : InMemoryEventLog
  deriving DecidableEq

structure MockConstructorRuntimeConfig where
  agentId : Nat
  nextArtifactId : Nat
  nextPacketId : Nat
  nextEventId : Nat
  occurredAtMs : Nat
  correlationId : Nat
  deriving DecidableEq, Repr

structure MockConstructorRuntime where
  config : MockConstructorRuntimeConfig
  deriving DecidableEq, Repr

namespace MockConstructorRuntime

def builder (runtime : MockConstructorRuntime) : MockConstructor where
  config :=
    { agentId := runtime.config.agentId
      nextArtifactId := runtime.config.nextArtifactId
      nextEventId := runtime.config.nextEventId
      occurredAtMs := runtime.config.occurredAtMs
      correlationId := runtime.config.correlationId }

/-- `AgentRuntime::execute`; the context is not used. -/
def execute (runtime : MockConstructorRuntime) (task : TaskEnvelope) (_context : HydratedContext) :
    LoomRun AgentExecutionResult := do
  let output ← runtime.builder.buildChildTask task
  let decommissionEvent ← output.eventLog.firstOfType .agentDecommissioned
  let decommissionPacket ← ofModel (AgentDecommissionPacket.completed runtime.config.nextPacketId
    output.artifact.agentId task.rootTaskId task.taskId task.promptId task.planId
    [output.artifact.artifactId] decommissionEvent.payloadRef)
  return { artifacts := [output.artifact], decommissionPacket, eventLog := output.eventLog }

end MockConstructorRuntime

/-- A task given to an agent. -/
structure AgentJob where
  runtime : MockConstructorRuntime
  task : TaskEnvelope
  context : HydratedContext
  deriving DecidableEq, Repr

namespace AgentJob
variable (job : AgentJob)

def run : LoomRun AgentExecutionResult := job.runtime.execute job.task job.context

/-- Three more ids and instants can be counted. -/
structure HasRoom : Prop where
  ids : job.runtime.config.nextEventId + 3 < 2 ^ 64
  times : job.runtime.config.occurredAtMs + 3 < 2 ^ 64

/-- The ids of two agents' events do not overlap. -/
def IdsApart (a b : AgentJob) : Prop :=
  a.runtime.config.nextEventId + 3 < b.runtime.config.nextEventId ∨
    b.runtime.config.nextEventId + 3 < a.runtime.config.nextEventId

/-- The events the agent logs. -/
def events : List LoomEvent := job.runtime.builder.lifecycle job.task

def packet : AgentDecommissionPacket where
  packetId := job.runtime.config.nextPacketId
  agentId := job.runtime.config.agentId
  rootTaskId := job.task.rootTaskId
  taskId := job.task.taskId
  promptId := job.task.promptId
  planId := job.task.planId
  finalStatus := "completed"
  deliverableRefs := [job.runtime.config.nextArtifactId]
  selfSummaryRef := (job.runtime.builder.decommissioned job.task).payloadRef

variable {job}

theorem run_ok (h : job.HasRoom) :
    job.run = .ok ⟨[job.runtime.builder.artifactOf job.task], job.packet, ofEvents job.events⟩ := by
  have hpacket : AgentDecommissionPacket.completed job.packet.packetId job.packet.agentId
      job.packet.rootTaskId job.packet.taskId job.packet.promptId job.packet.planId
      job.packet.deliverableRefs job.packet.selfSummaryRef = .ok job.packet :=
    AgentDecommissionPacket.completed_ok_iff.mpr ⟨⟨List.cons_ne_nil _ [],
      job.runtime.builder.not_blank_decommissioned job.task⟩, rfl⟩
  have hfirst : (ofEvents job.events).firstOfType .agentDecommissioned =
      .ok (job.runtime.builder.decommissioned job.task) := by
    unfold firstOfType eventsByType
    rw [ofEvents_events]
    rfl
  unfold run MockConstructorRuntime.execute
  refine (go_on (MockConstructor.buildChildTask_ok job.task h.ids h.times)).trans ?_
  refine (go_on hfirst).trans ?_
  refine (go_on (ofModel_ok hpacket)).trans ?_
  rfl

/-- What is common to the events of an agent. -/
theorem of_mem_events {e : LoomEvent} (h : e ∈ job.events) :
    e.taskId = some job.task.taskId ∧ e.rootTaskId = job.task.rootTaskId ∧
      e.correlationId = job.runtime.config.correlationId ∧
      e.eventType ≠ .taskCreated ∧ e.eventType ≠ .integrationRequested ∧
      (∃ offset ≤ 3, e.eventId = job.runtime.config.nextEventId + offset) ∧
      ∀ id, e.causationId = some id → id = job.runtime.config.nextEventId := by
  unfold events MockConstructor.lifecycle at h
  simp only [List.mem_cons, List.not_mem_nil, or_false] at h
  rcases h with rfl | rfl | rfl | rfl
  · exact ⟨rfl, rfl, rfl, (nomatch ·), (nomatch ·), ⟨0, by omega, rfl⟩, fun _ h => (nomatch h)⟩
  · exact ⟨rfl, rfl, rfl, (nomatch ·), (nomatch ·), ⟨1, by omega, rfl⟩,
      fun _ h => (Option.some.inj h).symm⟩
  · exact ⟨rfl, rfl, rfl, (nomatch ·), (nomatch ·), ⟨2, by omega, rfl⟩, fun _ h => (nomatch h)⟩
  · exact ⟨rfl, rfl, rfl, (nomatch ·), (nomatch ·), ⟨3, by omega, rfl⟩, fun _ h => (nomatch h)⟩

theorem countOf_events (job : AgentJob) : job.events.length = 4 ∧
    countOf .taskCompleted job.events = 1 ∧ countOf .agentDecommissioned job.events = 1 :=
  ⟨rfl, rfl, rfl⟩

theorem decommissioned_mem (job : AgentJob) :
    job.runtime.builder.decommissioned job.task ∈ job.events := by
  simp [events, MockConstructor.lifecycle]

/-- Of an agent's events, one is its decommission. -/
theorem eq_decommissioned {d : LoomEvent} (h : d ∈ job.events)
    (htype : d.eventType = .agentDecommissioned) :
    d = job.runtime.builder.decommissioned job.task := by
  unfold events MockConstructor.lifecycle at h
  simp only [List.mem_cons, List.not_mem_nil, or_false] at h
  rcases h with rfl | rfl | rfl | rfl
  · cases htype
  · cases htype
  · cases htype
  · rfl

theorem events_pass (job : AgentJob) : Passes job.events := by
  refine ⟨?_, ?_, ?_⟩
  · intro pre e post hsplit
    exact (job.runtime.builder.lifecycle_grounded job.task).admits hsplit
  · intro child hchild htype
    exact absurd htype (of_mem_events hchild).2.2.2.1
  · intro t c hlast
    obtain ⟨hc, _, htask⟩ := lastEvent_mem hlast
    obtain ⟨hjob, hroot, hcorrelation, _⟩ := of_mem_events hc
    obtain ⟨d, hd⟩ := lastEvent_of_mem job.decommissioned_mem rfl (hjob.symm.trans htask)
    obtain ⟨_, hroot', hcorrelation', _⟩ := of_mem_events (lastEvent_mem hd).1
    exact ⟨d, hd, hroot.trans hroot'.symm, hcorrelation.trans hcorrelation'.symm⟩

end AgentJob

/-! Agents in parallel. -/

/-- The logs of the jobs' executions in one, each in its own order. -/
structure Gathered (jobs : List AgentJob) (events : List LoomEvent) : Prop where
  parts : ∀ job ∈ jobs, ∀ result, job.run = .ok result →
    partOf LoomEvent.taskId (some job.task.taskId) events = result.eventLog.events
  whole : ∀ e ∈ events, ∃ job ∈ jobs, e.taskId = some job.task.taskId

section Gathered
variable {jobs : List AgentJob} {events : List LoomEvent}

theorem Gathered.part (h : Gathered jobs events) (hroom : ∀ job ∈ jobs, job.HasRoom)
    {job : AgentJob} (hjob : job ∈ jobs) :
    partOf LoomEvent.taskId (some job.task.taskId) events = job.events := by
  rw [h.parts job hjob _ (AgentJob.run_ok (hroom job hjob))]
  exact ofEvents_events _

theorem Gathered.job_of_mem (h : Gathered jobs events) (hroom : ∀ job ∈ jobs, job.HasRoom)
    {e : LoomEvent} (he : e ∈ events) :
    ∃ job ∈ jobs, e.taskId = some job.task.taskId ∧ e ∈ job.events := by
  obtain ⟨job, hjob, htask⟩ := h.whole e he
  refine ⟨job, hjob, htask, ?_⟩
  rw [← h.part hroom hjob]
  exact mem_partOf.mpr ⟨he, htask⟩

/-- Agents whose blocks of ids do not overlap are apart. -/
theorem Gathered.apart (h : Gathered jobs events) (hroom : ∀ job ∈ jobs, job.HasRoom)
    (hids : ∀ a ∈ jobs, ∀ b ∈ jobs, a ≠ b → a.IdsApart b) :
    ApartTasks LoomEvent.taskId events := by
  have hsame : ∀ e ∈ events, ∀ c ∈ events, ∀ id, (∃ a ∈ jobs, e ∈ a.events ∧
      ∃ offset ≤ 3, id = a.runtime.config.nextEventId + offset) → c.eventId = id →
      c.taskId = e.taskId := by
    intro e _ c hc id ⟨a, ha, hea, offset, hoffset, hid⟩ hcid
    obtain ⟨b, hb, _, hcb⟩ := h.job_of_mem hroom hc
    obtain ⟨offset', hoffset', hid'⟩ := (AgentJob.of_mem_events hcb).2.2.2.2.2.1
    by_cases hab : a = b
    · rw [(AgentJob.of_mem_events hea).1, (AgentJob.of_mem_events hcb).1, hab]
    · have hapart := hids a ha b hb hab
      unfold AgentJob.IdsApart at hapart
      omega
  refine ⟨⟨?_, ?_⟩, ?_, ?_⟩
  · intro e he c hc hid
    obtain ⟨a, ha, _, hea⟩ := h.job_of_mem hroom he
    exact hsame e he c hc e.eventId ⟨a, ha, hea, (AgentJob.of_mem_events hea).2.2.2.2.2.1⟩ hid.symm
  · intro e he c hc hcause
    obtain ⟨a, ha, _, hea⟩ := h.job_of_mem hroom he
    have hid := (AgentJob.of_mem_events hea).2.2.2.2.2.2 c.eventId hcause
    exact hsame e he c hc c.eventId ⟨a, ha, hea, 0, by omega, hid⟩ rfl
  · intro e _ _ c _ _ htask
    exact htask.symm
  · intro e he htype
    obtain ⟨a, _, _, hea⟩ := h.job_of_mem hroom he
    exact absurd htype (AgentJob.of_mem_events hea).2.2.2.1

theorem Gathered.perm (h : Gathered jobs events) (hroom : ∀ job ∈ jobs, job.HasRoom)
    (htasks : (jobs.map fun job => job.task.taskId).Nodup) :
    events.Perm (jobs.flatMap AgentJob.events) := by
  have hks : (jobs.map fun job => some job.task.taskId).Nodup := by
    rw [← Function.comp_def some, ← List.map_map]
    exact htasks.map (Option.some_injective _)
  have hall : ∀ e ∈ events, e.taskId ∈ jobs.map fun job => some job.task.taskId := by
    intro e he
    obtain ⟨job, hjob, htask⟩ := h.whole e he
    exact List.mem_map.mpr ⟨job, hjob, htask.symm⟩
  have hparts := perm_parts hks hall
  rw [List.flatMap_map] at hparts
  have heach : jobs.flatMap (fun job => partOf LoomEvent.taskId (some job.task.taskId) events) =
      jobs.flatMap AgentJob.events := List.flatMap_congr fun job hjob => h.part hroom hjob
  rw [heach] at hparts
  exact hparts

theorem countP_flatMap_const {α β : Type*} {f : α → List β} {p : β → Bool} {n : Nat} {xs : List α}
    (h : ∀ x ∈ xs, (f x).countP p = n) : (xs.flatMap f).countP p = n * xs.length := by
  induction xs with
  | nil => rfl
  | cons x xs ih =>
    rw [List.flatMap_cons, List.countP_append, h x List.mem_cons_self,
      ih fun y hy => h y (List.mem_cons_of_mem x hy), List.length_cons]
    exact (Nat.add_comm _ _).trans (Nat.mul_succ _ _).symm

/-- Agents with room for their ids, whose ids do not overlap and whose tasks differ,
execute their tasks, and in whatever order the events of all come together: the log
takes them and the replay validator accepts them, with one completion and one
decommission for each agent; each packet lists its artifact, and its summary is that of
the one decommission of its task. -/
theorem concurrent_agents (hroom : ∀ job ∈ jobs, job.HasRoom)
    (hids : ∀ a ∈ jobs, ∀ b ∈ jobs, a ≠ b → a.IdsApart b)
    (htasks : (jobs.map fun job => job.task.taskId).Nodup) (h : Gathered jobs events) :
    (∃ log report, appendAll events = .ok log ∧ log.validateReplay = .ok report ∧
      report.eventCount = 4 * jobs.length ∧ report.completionCount = jobs.length ∧
      report.decommissionCount = jobs.length) ∧
    ∀ job ∈ jobs, ∃ result, job.run = .ok result ∧
      result.decommissionPacket.deliverableRefs = result.artifacts.map ArtifactRef.artifactId ∧
      ∃ d ∈ events, d.payloadRef = result.decommissionPacket.selfSummaryRef ∧
        ∀ e ∈ events, e.eventType = .agentDecommissioned ∧ e.taskId = some job.task.taskId ↔
          e = d := by
  have hpasses : Passes events := by
    refine (passes_iff_parts (h.apart hroom hids)).mpr ?_
    intro k
    by_cases hk : ∃ job ∈ jobs, k = some job.task.taskId
    · obtain ⟨job, hjob, rfl⟩ := hk
      rw [h.part hroom hjob]
      exact job.events_pass
    · have hnone : partOf LoomEvent.taskId k events = [] := by
        apply List.filter_eq_nil_iff.mpr
        intro e he htask
        obtain ⟨job, hjob, hjobTask⟩ := h.whole e he
        exact hk ⟨job, hjob, (of_decide_eq_true htask).symm.trans hjobTask⟩
      rw [hnone]
      exact validated_iff.mp rfl
  have hperm := h.perm hroom htasks
  have hcount : ∀ type n, (∀ job : AgentJob, countOf type job.events = n) →
      countOf type events = n * jobs.length := by
    intro type n hn
    exact (hperm.countP_eq _).trans (countP_flatMap_const fun job _ => hn job)
  refine ⟨⟨ofEvents events, exactReport events, ?_, ?_, ?_, ?_, ?_⟩, ?_⟩
  · exact appendAll_ok_iff.mpr ⟨rfl, fun pre e post hsplit => (hpasses.admits pre e post hsplit).accepted⟩
  · unfold validateReplay
    rw [ofEvents_events]
    exact validated_iff.mpr hpasses
  · show events.length = _
    rw [hperm.length_eq, ← List.countP_true]
    exact countP_flatMap_const fun job _ => rfl
  · exact (hcount .taskCompleted 1 fun job => job.countOf_events.2.1).trans (Nat.one_mul _)
  · exact (hcount .agentDecommissioned 1 fun job => job.countOf_events.2.2).trans (Nat.one_mul _)
  · intro job hjob
    refine ⟨_, AgentJob.run_ok (hroom job hjob), rfl, ?_⟩
    have hmem : ∀ e, e ∈ job.events ↔ e ∈ events ∧ e.taskId = some job.task.taskId := by
      intro e
      rw [← h.part hroom hjob]
      exact mem_partOf
    refine ⟨job.runtime.builder.decommissioned job.task, ((hmem _).mp job.decommissioned_mem).1,
      rfl, ?_⟩
    intro e he
    refine ⟨?_, ?_⟩
    · intro ⟨htype, htask⟩
      exact AgentJob.eq_decommissioned ((hmem e).mpr ⟨he, htask⟩) htype
    · intro heq
      rw [heq]
      exact ⟨rfl, rfl⟩

end Gathered

/-- A child of a root task, given to an agent of its own. -/
def siblingJob (index : Nat) : AgentJob where
  runtime := ⟨⟨301 + index, 900 + index, 1 + index, 2000 + 10 * index, 10000, 77⟩⟩
  task := ⟨1000 + index, 10, some 10, 7, 1, 1, "Explore"⟩
  context := ⟨"inline://prompt", [], []⟩

def siblingJobs : List AgentJob := [siblingJob 0, siblingJob 1]

/-- The two agents' events, taking turns. -/
def siblingEvents : List LoomEvent :=
  ((siblingJob 0).events.zip (siblingJob 1).events).flatMap fun pair => [pair.1, pair.2]

theorem siblingJobs_room : ∀ job ∈ siblingJobs, job.HasRoom := by
  intro job hjob
  simp only [siblingJobs, List.mem_cons, List.not_mem_nil, or_false] at hjob
  rcases hjob with rfl | rfl
  · exact ⟨by decide, by decide⟩
  · exact ⟨by decide, by decide⟩

theorem siblingEvents_gathered : Gathered siblingJobs siblingEvents := by
  have hparts : ∀ job ∈ siblingJobs,
      partOf LoomEvent.taskId (some job.task.taskId) siblingEvents = job.events := by
    decide +kernel
  refine ⟨?_, by decide +kernel⟩
  intro job hjob result hrun
  rw [AgentJob.run_ok (siblingJobs_room job hjob)] at hrun
  cases hrun
  rw [hparts job hjob, ofEvents_events]

theorem concurrent_agents_siblings : ∃ log report, appendAll siblingEvents = .ok log ∧
    log.validateReplay = .ok report ∧ report.eventCount = 8 ∧ report.completionCount = 2 ∧
    report.decommissionCount = 2 :=
  (concurrent_agents siblingJobs_room (by unfold AgentJob.IdsApart; decide) (by decide)
    siblingEvents_gathered).1

end QTom.Loom
