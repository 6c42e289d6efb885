import QTom.Loom.Projection
import QTom.Loom.ReplayAudit

/- Which lineage the projections keep.

   A lineage projection hangs under each cause the effect its map holds, the last
   one that names the cause. Every effect of a validated log names a cause of the
   required type and carries its task id (`Lineage.Evidenced`), so an effect has its
   node line exactly when it is the last of its cause (`Lineage.written_iff`), and
   the projection keeps all of them exactly when no two share a cause
   (`Lineage.keeps_iff`). A line is what one `writeln!` writes; a payload ref may
   hold line breaks of its own. -/
namespace QTom.Loom
open QTom.Lib InMemoryEventLog

theorem mem_ofType {eventType : LoomEventType} {events : List LoomEvent} {e : LoomEvent} :
    e ∈ ofType eventType events ↔ e ∈ events ∧ e.eventType = eventType := by
  simp [ofType]

/-- No two events of the type that carry a task id name the same cause. -/
def OneEffectPerCause (eventType : LoomEventType) (events : List LoomEvent) : Prop :=
  ∀ a ∈ events, ∀ b ∈ events, a.eventType = eventType → b.eventType = eventType →
    a.taskId.isSome → b.taskId.isSome → a.causationId = b.causationId → a = b

namespace Lineage
variable {L : Lineage}

/-- The kinds of node the projection writes can be told apart. -/
structure WellNamed (L : Lineage) : Prop where
  cause : PlainKind L.causeKind
  effect : PlainKind L.effectKind
  ne_task : L.effectKind ≠ "task"
  ne_cause : L.effectKind ≠ L.causeKind
  ne_agent : L.effectKind ≠ "agent"

theorem routeTrace_wellNamed : routeTrace.WellNamed :=
  ⟨by decide, by decide, by decide, by decide, by decide⟩

theorem artifactProvenance_wellNamed : artifactProvenance.WellNamed :=
  ⟨by decide, by decide, by decide, by decide, by decide⟩

theorem memoryLineage_wellNamed : memoryLineage.WellNamed :=
  ⟨by decide, by decide, by decide, by decide, by decide⟩

/-- The effect the map holds for a cause. -/
def joined (L : Lineage) (events : List LoomEvent) (cause : Nat) : Option LoomEvent :=
  lastOf LoomEvent.causationId cause (ofType L.effectType events)

theorem joined_mem {events : List LoomEvent} {cause : Nat} {effect : LoomEvent}
    (h : L.joined events cause = some effect) :
    effect ∈ events ∧ effect.eventType = L.effectType ∧ effect.causationId = some cause := by
  obtain ⟨hmem, hkey⟩ := lastOf_mem h
  obtain ⟨he, ht⟩ := mem_ofType.mp hmem
  exact ⟨he, ht, hkey⟩

/-! The lines. -/

theorem mem_linesOf {events : List LoomEvent} {cause : LoomEvent} {line : FlowLine} :
    line ∈ L.linesOf events cause ↔ ∃ taskId, cause.taskId = some taskId ∧
      (line ∈ L.causeLines taskId cause ∨ ∃ effect, L.joined events cause.eventId = some effect ∧
        line ∈ L.effectLines taskId cause effect) := by
  unfold linesOf effectsByCause joined
  rw [lookup_index]
  cases cause.taskId with
  | none => simp
  | some taskId =>
    cases lastOf LoomEvent.causationId cause.eventId (ofType L.effectType events) with
    | none => simp
    | some effect => simp

theorem mem_lines {log : InMemoryEventLog} {line : FlowLine} :
    line ∈ L.lines log ↔ ∃ cause ∈ log.events, cause.eventType = L.causeType ∧
      line ∈ L.linesOf log.events cause := by
  simp [lines, replay_start, mem_ofType, and_assoc]

theorem kind_of_agentLines {node : FlowNode} {agentId : Option Nat} {line : FlowLine}
    (h : line ∈ agentLines node agentId) : line.kind = "agent" ∨ line.kind = node.kind := by
  cases agentId with
  | none => simp [agentLines] at h
  | some id =>
    simp only [agentLines, List.mem_cons, List.not_mem_nil, or_false] at h
    rcases h with rfl | rfl
    · exact Or.inl rfl
    · exact Or.inr rfl

theorem kind_of_causeLines {taskId : Nat} {cause : LoomEvent} {line : FlowLine}
    (h : line ∈ L.causeLines taskId cause) : line.kind = "task" ∨ line.kind = L.causeKind := by
  simp only [causeLines, List.mem_cons, List.not_mem_nil, or_false] at h
  rcases h with rfl | rfl | rfl
  · exact Or.inl rfl
  · exact Or.inr rfl
  · exact Or.inl rfl

/-- The lines of an effect; a line of the effect's kind that is a node is its own. -/
theorem kind_of_effectLines {taskId : Nat} {cause effect : LoomEvent} {line : FlowLine}
    (h : line ∈ L.effectLines taskId cause effect) :
    line.kind = L.causeKind ∨ line.kind = "agent" ∨ line.kind = L.effectKind := by
  rcases List.mem_append.mp h with h | h
  · simp only [List.mem_cons, List.not_mem_nil, or_false] at h
    rcases h with rfl | rfl
    · exact Or.inr (Or.inr rfl)
    · exact Or.inl rfl
  · split at h
    · exact Or.inr (kind_of_agentLines h)
    · cases h

theorem plain_lines (hL : L.WellNamed) {log : InMemoryEventLog} :
    ∀ line ∈ L.lines log, PlainKind line.kind := by
  intro line hline
  have htask : PlainKind "task" := by decide
  have hagent : PlainKind "agent" := by decide
  obtain ⟨cause, _, _, hof⟩ := mem_lines.mp hline
  obtain ⟨taskId, _, hc | ⟨effect, _, he⟩⟩ := mem_linesOf.mp hof
  · rcases kind_of_causeLines hc with hk | hk
    · exact hk ▸ htask
    · exact hk ▸ hL.cause
  · rcases kind_of_effectLines he with hk | hk | hk
    · exact hk ▸ hL.cause
    · exact hk ▸ hagent
    · exact hk ▸ hL.effect

theorem effectLines_node (hL : L.WellNamed) {taskId : Nat} {cause effect : LoomEvent} {id : Nat}
    {label : String} (h : .node (L.effectNode id) label ∈ L.effectLines taskId cause effect) :
    effect.eventId = id := by
  rcases List.mem_append.mp h with h | h
  · simp only [List.mem_cons, List.not_mem_nil, or_false, FlowLine.node.injEq, effectNode,
      FlowNode.mk.injEq, true_and, reduceCtorEq] at h
    exact h.1.symm
  · split at h
    · cases hagent : effect.agentId with
      | none => simp [hagent, agentLines] at h
      | some agentId =>
        simp only [hagent, agentLines, List.mem_cons, List.not_mem_nil, or_false,
          FlowLine.node.injEq, effectNode, FlowNode.mk.injEq, reduceCtorEq] at h
        exact absurd h.1.1 hL.ne_agent
    · cases h

/-- An effect's node is written only below the cause the map joins it to. -/
theorem joined_of_node (hL : L.WellNamed) {log : InMemoryEventLog} {id : Nat} {label : String}
    (h : .node (L.effectNode id) label ∈ L.lines log) :
    ∃ cause effect, L.joined log.events cause = some effect ∧ effect.eventId = id := by
  obtain ⟨cause, _, _, hof⟩ := mem_lines.mp h
  obtain ⟨taskId, _, hc | ⟨effect, hjoined, he⟩⟩ := mem_linesOf.mp hof
  · rcases kind_of_causeLines hc with hk | hk
    · exact absurd hk hL.ne_task
    · exact absurd hk hL.ne_cause
  · exact ⟨cause.eventId, effect, hjoined, effectLines_node hL he⟩

/-! What a log keeps. -/

/-- An id names one event of the log. -/
def IdsDistinct (log : InMemoryEventLog) : Prop :=
  ∀ a ∈ log.events, ∀ b ∈ log.events, a.eventId = b.eventId → a = b

/-- Every effect names a cause of the required type and carries its task id. -/
def Evidenced (L : Lineage) (log : InMemoryEventLog) : Prop :=
  ∀ e ∈ log.events, e.eventType = L.effectType →
    ∃ c ∈ log.events, e.causationId = some c.eventId ∧ c.eventType = L.causeType ∧
      e.taskId = c.taskId

/-- The effect has its node line and the edge from its cause. -/
def Shows (L : Lineage) (log : InMemoryEventLog) (taskId cause : Nat) (effect : LoomEvent) : Prop :=
  Writes (L.lines log) (.node (L.effectNode effect.eventId) (L.effectLabel taskId effect)) ∧
  Writes (L.lines log) (.edge (L.causeNode cause) (L.effectNode effect.eventId))

/-- An effect is shown exactly when it is the last of its cause. -/
theorem shows_iff (hL : L.WellNamed) {log : InMemoryEventLog} (hids : IdsDistinct log)
    (hev : L.Evidenced log) {e : LoomEvent} (he : e ∈ log.events) (ht : e.eventType = L.effectType)
    {taskId cause : Nat} (htask : e.taskId = some taskId) (hcause : e.causationId = some cause) :
    L.Shows log taskId cause e ↔ L.joined log.events cause = some e := by
  refine ⟨?_, ?_⟩
  · intro ⟨hnode, _⟩
    obtain ⟨label, hmem⟩ := mem_of_writes_node (plain_lines hL) hL.effect hnode
    obtain ⟨cause', effect, hjoined, hid⟩ := joined_of_node hL hmem
    -- the id is the effect's, so the effect joined to that cause is this one
    obtain ⟨hemem, _, hnamed⟩ := joined_mem hjoined
    obtain rfl := hids effect hemem e he hid
    rw [hcause] at hnamed
    rw [Option.some.inj hnamed]
    exact hjoined
  · intro hjoined
    obtain ⟨c, hc, hid, hct, hctask⟩ := hev e he ht
    rw [hcause] at hid
    have hid : cause = c.eventId := Option.some.inj hid
    subst hid
    have hlines : ∀ line ∈ L.effectLines taskId c e, line ∈ L.lines log := by
      intro line hline
      refine mem_lines.mpr ⟨c, hc, hct, mem_linesOf.mpr ⟨taskId, ?_, Or.inr ⟨e, hjoined, hline⟩⟩⟩
      rw [← hctask, htask]
    refine ⟨writes_of_mem (hlines _ ?_), writes_of_mem (hlines _ ?_)⟩
    · simp [effectLines]
    · simp [effectLines]

/-- Every effect with a task id is shown under its cause. -/
def Keeps (L : Lineage) (log : InMemoryEventLog) : Prop :=
  ∀ e ∈ log.events, e.eventType = L.effectType → ∀ taskId, e.taskId = some taskId →
    ∃ cause, e.causationId = some cause ∧ L.Shows log taskId cause e

theorem keeps_iff (hL : L.WellNamed) {log : InMemoryEventLog} (hids : IdsDistinct log)
    (hev : L.Evidenced log) : L.Keeps log ↔ OneEffectPerCause L.effectType log.events := by
  -- effects of one cause carry its task id, all of them or none
  have hsame : ∀ x ∈ ofType L.effectType log.events, ∀ y ∈ ofType L.effectType log.events,
      ∀ k, x.causationId = some k → y.causationId = some k → x.taskId.isSome → y.taskId.isSome := by
    intro x hx y hy k hkx hky hsome
    obtain ⟨hx, hxt⟩ := mem_ofType.mp hx
    obtain ⟨hy, hyt⟩ := mem_ofType.mp hy
    obtain ⟨c, hc, hcx, _, htx⟩ := hev x hx hxt
    obtain ⟨d, hd, hdy, _, hty⟩ := hev y hy hyt
    have hid : c.eventId = d.eventId := by
      rw [hcx] at hkx
      rw [hdy] at hky
      rw [Option.some.inj hkx, Option.some.inj hky]
    rw [hty, ← hids c hc d hd hid, ← htx]
    exact hsome
  have hlast := forall_lastOf_iff hsame
  refine ⟨?_, ?_⟩
  · intro h a ha b hb hat hbt hatask hbtask hcause
    obtain ⟨c, _, hca, _, _⟩ := hev a ha hat
    refine hlast.mp ?_ a (mem_ofType.mpr ⟨ha, hat⟩) b (mem_ofType.mpr ⟨hb, hbt⟩) hatask hbtask
      c.eventId hca (hcause ▸ hca)
    intro x hx hxtask k hk
    obtain ⟨hx, hxt⟩ := mem_ofType.mp hx
    obtain ⟨taskId, htask⟩ := Option.isSome_iff_exists.mp hxtask
    obtain ⟨cause, hxc, hshows⟩ := h x hx hxt taskId htask
    rw [hxc] at hk
    rw [← Option.some.inj hk]
    exact (shows_iff hL hids hev hx hxt htask hxc).mp hshows
  · intro h e he ht taskId htask
    obtain ⟨c, _, hcause, _, _⟩ := hev e he ht
    refine ⟨c.eventId, hcause, (shows_iff hL hids hev he ht htask hcause).mpr ?_⟩
    refine hlast.mpr ?_ e (mem_ofType.mpr ⟨he, ht⟩) (by rw [htask]; rfl) c.eventId hcause
    intro x hx y hy hxtask hytask k hkx hky
    obtain ⟨hx, hxt⟩ := mem_ofType.mp hx
    obtain ⟨hy, hyt⟩ := mem_ofType.mp hy
    exact h x hx y hy hxt hyt hxtask hytask (by rw [hkx, hky])

end Lineage

/-! Validated logs. -/

/-- The events of a validated log append in order. -/
theorem Passes.inv {events : List LoomEvent} (h : Passes events) : (ofEvents events).Inv := by
  have hrun : appendAll events = .ok (ofEvents events) :=
    appendAll_ok_iff.mpr ⟨rfl, fun pre e post hsplit => (h.admits pre e post hsplit).accepted⟩
  exact (reachable_of_appendAll hrun).2.inv

theorem Passes.idsDistinct {log : InMemoryEventLog} (h : Passes log.events) :
    Lineage.IdsDistinct log := by
  intro a ha b hb hid
  rw [← ofEvents_events log.events] at ha hb
  exact h.inv.eq_of_id ha hb hid

/-- Assignments and ready artifacts: the log itself asks for their cause. -/
theorem Passes.evidenced {L : Lineage} {log : InMemoryEventLog} (h : Passes log.events)
    (hcause : requiredCause L.effectType = some L.causeType)
    (htype : L.effectType = .taskAssigned ∨ L.effectType = .artifactReady) : L.Evidenced log := by
  intro e he ht
  obtain ⟨pre, post, hsplit⟩ := List.append_of_mem he
  have hevents : (ofEvents log.events).events = pre ++ e :: post := by
    rw [ofEvents_events, hsplit]
  obtain ⟨c, hc, hnames⟩ := h.inv.caused pre e post hevents L.causeType (by rw [ht]; exact hcause)
  refine ⟨c, by rw [hsplit]; simp [hc], hnames.named, hnames.type, ?_⟩
  rcases htype with heffect | heffect
  · exact (hnames.assigned (ht.trans heffect)).1
  · exact (hnames.ready (ht.trans heffect)).1

/-- Memory nodes: the validator asks for their decommission. -/
theorem Passes.memory_evidenced {log : InMemoryEventLog} (h : Passes log.events) :
    memoryLineage.Evidenced log := by
  intro e he ht
  obtain ⟨pre, post, hsplit⟩ := List.append_of_mem he
  have hadm := h.admits pre e post hsplit
  obtain ⟨d, hd, hev⟩ := memory_checked (((checked_iff hadm.accepted).mp hadm.checked).2 ht)
  rw [ofEvents_events] at hd
  exact ⟨d, by rw [hsplit]; simp [hd], hev.named, hev.type, hev.task⟩

/-- The projections show every assignment, every ready artifact of a task and every
memory node of a task, each with the edge from its cause. -/
structure KeepsLineage (log : InMemoryEventLog) : Prop where
  assigned : ∀ e ∈ log.events, e.eventType = .taskAssigned →
    ∃ taskId route, e.taskId = some taskId ∧ e.causationId = some route ∧
      Writes (routeTrace.lines log)
        (.node ⟨"assignment", e.eventId⟩ ("TaskAssigned " ++ toString taskId)) ∧
      Writes (routeTrace.lines log) (.edge ⟨"route", route⟩ ⟨"assignment", e.eventId⟩)
  ready : ∀ e ∈ log.events, e.eventType = .artifactReady → e.taskId.isSome →
    ∃ declared, e.causationId = some declared ∧
      Writes (artifactProvenance.lines log)
        (.node ⟨"artifact_ready", e.eventId⟩ ("ArtifactReady " ++ refTail e.payloadRef)) ∧
      Writes (artifactProvenance.lines log)
        (.edge ⟨"artifact_declared", declared⟩ ⟨"artifact_ready", e.eventId⟩)
  memory : ∀ e ∈ log.events, e.eventType = .memoryNodeCreated → e.taskId.isSome →
    ∃ decommission, e.causationId = some decommission ∧
      Writes (memoryLineage.lines log)
        (.node ⟨"memory", e.eventId⟩ ("MemoryNode " ++ refTail e.payloadRef)) ∧
      Writes (memoryLineage.lines log) (.edge ⟨"decommission", decommission⟩ ⟨"memory", e.eventId⟩)

/-- The three laws are the one law of the three lineages. -/
theorem keepsLineage_iff {log : InMemoryEventLog} (h : Passes log.events) :
    KeepsLineage log ↔
      routeTrace.Keeps log ∧ artifactProvenance.Keeps log ∧ memoryLineage.Keeps log := by
  refine ⟨?_, ?_⟩
  · intro hkeeps
    refine ⟨?_, ?_, ?_⟩
    · intro e he ht taskId htask
      obtain ⟨taskId', route, htask', hroute, hshows⟩ := hkeeps.assigned e he ht
      rw [htask] at htask'
      obtain rfl := Option.some.inj htask'
      exact ⟨route, hroute, hshows⟩
    · intro e he ht taskId htask
      exact hkeeps.ready e he ht (by rw [htask]; rfl)
    · intro e he ht taskId htask
      exact hkeeps.memory e he ht (by rw [htask]; rfl)
  · intro ⟨hassigned, hready, hmemory⟩
    refine ⟨?_, ?_, ?_⟩
    · intro e he ht
      -- an assignment carries a task id by its own validity
      have hvalid := h.inv.valid e (by rw [ofEvents_events]; exact he)
      obtain ⟨taskId, htask⟩ := Option.isSome_iff_exists.mp (hvalid.task (by rw [ht]; rfl))
      obtain ⟨route, hroute, hshows⟩ := hassigned e he ht taskId htask
      exact ⟨taskId, route, htask, hroute, hshows⟩
    · intro e he ht hsome
      obtain ⟨taskId, htask⟩ := Option.isSome_iff_exists.mp hsome
      exact hready e he ht taskId htask
    · intro e he ht hsome
      obtain ⟨taskId, htask⟩ := Option.isSome_iff_exists.mp hsome
      exact hmemory e he ht taskId htask

/-- The projections of a validated log keep its lineage exactly when no cause has
two effects of one kind. -/
theorem projections_keep_lineage_iff {log : InMemoryEventLog} {report : ReplayValidationReport}
    (h : log.validateReplay = .ok report) :
    KeepsLineage log ↔
      OneEffectPerCause .taskAssigned log.events ∧ OneEffectPerCause .artifactReady log.events ∧
      OneEffectPerCause .memoryNodeCreated log.events := by
  have hp : Passes log.events := (validateEvents_ok_iff.mp h).1
  rw [keepsLineage_iff hp,
    Lineage.keeps_iff Lineage.routeTrace_wellNamed hp.idsDistinct (hp.evidenced rfl (Or.inl rfl)),
    Lineage.keeps_iff Lineage.artifactProvenance_wellNamed hp.idsDistinct
      (hp.evidenced rfl (Or.inr rfl)),
    Lineage.keeps_iff Lineage.memoryLineage_wellNamed hp.idsDistinct hp.memory_evidenced]
  rfl

/-- One decommission and the given memory nodes made from it. -/
def memoriesOf (memoryIds : List Nat) : InMemoryEventLog :=
  ofEvents (testEvent .agentDecommissioned 1 5 ::
    memoryIds.map fun id => { testEvent .memoryNodeCreated id 5 with causationId := some 1 })

theorem projections_keep_lineage_iff_memory : KeepsLineage (memoriesOf [2]) ↔
    OneEffectPerCause .taskAssigned (memoriesOf [2]).events ∧
    OneEffectPerCause .artifactReady (memoriesOf [2]).events ∧
    OneEffectPerCause .memoryNodeCreated (memoriesOf [2]).events :=
  projections_keep_lineage_iff
    (show (memoriesOf [2]).validateReplay = .ok (ReplayState.exactReport (memoriesOf [2]).events)
      from rfl)

/-- Of two memory nodes of one decommission the projection shows the later. -/
theorem earlier_memory_lost :
    ¬ ∀ log report, log.validateReplay = .ok report → KeepsLineage log := by
  intro hall
  have hok : (memoriesOf [2, 3]).validateReplay =
      .ok (ReplayState.exactReport (memoriesOf [2, 3]).events) := rfl
  have hp : Passes (memoriesOf [2, 3]).events := (validateEvents_ok_iff.mp hok).1
  have hkeeps := ((keepsLineage_iff hp).mp (hall _ _ hok)).2.2
  have hone := (Lineage.keeps_iff Lineage.memoryLineage_wellNamed hp.idsDistinct
    hp.memory_evidenced).mp hkeeps
  -- the two nodes share their cause and are not one event
  have heq := hone { testEvent .memoryNodeCreated 2 5 with causationId := some 1 } (by decide)
    { testEvent .memoryNodeCreated 3 5 with causationId := some 1 } (by decide) rfl rfl rfl rfl rfl
  revert heq
  decide

end QTom.Loom
