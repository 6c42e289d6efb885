import QTom.Loom.Causation
import QTom.Loom.Projection

/- The topology governance chart of a reachable log (`topologyGovernance_correct`).
   Each topology event writes its node and, below it, the edge from its cause when the
   cause is a topology event. Nodes are named by type and id, and ids are distinct, so
   every line belongs to one event. A shadow, canary, commit or rollback was appended
   with its cause before it; of a proposal nothing is asked, and its causation id, if
   it has one, may draw an edge from anywhere. A line is what one `writeln!` writes; a
   payload ref may hold line breaks of its own. -/
namespace QTom.Loom
open QTom.Lib InMemoryEventLog

def topologyEvents (log : InMemoryEventLog) : List LoomEvent := log.events.filter isTopologyEvent

/-- The map the edges are looked up in. -/
def topologyEventsById (log : InMemoryEventLog) : AList fun _ : Nat => LoomEvent :=
  (topologyEvents log).foldl (indexInsert fun event => some event.eventId) ∅

/-- The lines the chart is written from. -/
def topologyGovernanceLines (log : InMemoryEventLog) : List FlowLine :=
  (topologyEvents log).flatMap (topologyLinesOf (topologyEventsById log))

def topologyLine (event : LoomEvent) : FlowLine := .node (topologyNodeId event) (topologyLabel event)

theorem topologyGovernanceProjection_eq (log : InMemoryEventLog) :
    topologyGovernanceProjection log = flowchart (topologyGovernanceLines log) := by
  unfold topologyGovernanceProjection
  rw [replay_start]
  rfl

/-! One event's lines. -/

/-- An event's node line, and at most one edge to it from a topology event. -/
theorem topologyLinesOf_cases (byId : AList fun _ : Nat => LoomEvent) (event : LoomEvent) :
    topologyLinesOf byId event = [topologyLine event] ∨ ∃ cause,
      topologyLinesOf byId event =
        [topologyLine event, .edge (topologyNodeId cause) (topologyNodeId event)] := by
  unfold topologyLinesOf
  cases event.causationId.bind byId.lookup with
  | none => exact Or.inl rfl
  | some cause => exact Or.inr ⟨cause, rfl⟩

theorem subject_topologyLinesOf {byId : AList fun _ : Nat => LoomEvent} {event : LoomEvent}
    {line : FlowLine} (h : line ∈ topologyLinesOf byId event) :
    line.subject = topologyNodeId event := by
  rcases topologyLinesOf_cases byId event with hlines | ⟨cause, hlines⟩
  · rw [hlines, List.mem_singleton] at h
    rw [h]
    rfl
  · rw [hlines, List.mem_cons, List.mem_singleton] at h
    rcases h with rfl | rfl
    · rfl
    · rfl

theorem id_topologyNodeId (event : LoomEvent) : (topologyNodeId event).id = event.eventId := by
  unfold topologyNodeId
  split <;> rfl

theorem plain_topologyNodeId (event : LoomEvent) : PlainKind (topologyNodeId event).kind := by
  have hkind : (topologyNodeId event).kind ∈ ["topology_proposed", "topology_shadowed",
      "topology_canaried", "topology_committed", "topology_rolled_back", "topology_event"] := by
    unfold topologyNodeId
    split <;> simp
  have hplain : ∀ kind ∈ ["topology_proposed", "topology_shadowed", "topology_canaried",
      "topology_committed", "topology_rolled_back", "topology_event"], PlainKind kind := by
    simp only [List.forall_mem_cons]
    exact ⟨by decide, by decide, by decide, by decide, by decide, by decide,
      fun _ h => absurd h List.not_mem_nil⟩
  exact hplain _ hkind

theorem plain_topologyLinesOf {byId : AList fun _ : Nat => LoomEvent} {event : LoomEvent}
    {line : FlowLine} (h : line ∈ topologyLinesOf byId event) : PlainKind line.kind := by
  rcases topologyLinesOf_cases byId event with hlines | ⟨cause, hlines⟩
  · rw [hlines, List.mem_singleton] at h
    rw [h]
    exact plain_topologyNodeId event
  · rw [hlines, List.mem_cons, List.mem_singleton] at h
    rcases h with rfl | rfl
    · exact plain_topologyNodeId event
    · exact plain_topologyNodeId cause

/-! The whole chart. -/

section Chart
variable {log : InMemoryEventLog}

/-- One node line for each topology event, in log order. -/
theorem filter_isNode (log : InMemoryEventLog) :
    (topologyGovernanceLines log).filter FlowLine.isNode = (topologyEvents log).map topologyLine := by
  unfold topologyGovernanceLines
  rw [List.filter_flatMap, ← List.flatMap_singleton' ((topologyEvents log).map topologyLine),
    List.flatMap_map]
  congr 1
  funext event
  rcases topologyLinesOf_cases (topologyEventsById log) event with hlines | ⟨cause, hlines⟩
  · rw [hlines]
    rfl
  · rw [hlines]
    rfl

/-- Among the events of a log, a node is the node of one. -/
theorem eq_of_topologyNode (h : log.Inv) {a b : LoomEvent} (ha : a ∈ log.events)
    (hb : b ∈ log.events) (hnode : topologyNodeId a = topologyNodeId b) : a = b := by
  apply h.eq_of_id ha hb
  rw [← id_topologyNodeId a, ← id_topologyNodeId b, hnode]

/-- The topology event a cause names is looked up. -/
theorem lookup_topologyEventsById (h : log.Inv) {c : LoomEvent} (hc : c ∈ log.events)
    (htopology : isTopologyEvent c = true) : (topologyEventsById log).lookup c.eventId = some c := by
  have hmem : c ∈ topologyEvents log := List.mem_filter.mpr ⟨hc, htopology⟩
  unfold topologyEventsById
  rw [lookup_index]
  obtain ⟨d, hd⟩ := @lastOf_isSome _ _ _ (fun event : LoomEvent => some event.eventId) _ _ _ hmem rfl
  rw [hd]
  obtain ⟨hdmem, hid⟩ := lastOf_mem hd
  rw [h.eq_of_id (List.mem_of_mem_filter hdmem) hc (Option.some.inj hid)]

theorem topologyEvents_nodup (h : log.Inv) : (topologyEvents log).Nodup :=
  (List.Nodup.of_map _ h.idsDistinct).filter _

/-- A line belongs to one event. -/
theorem owner_unique (h : log.Inv) {a b : LoomEvent} (ha : a ∈ topologyEvents log)
    (hb : b ∈ topologyEvents log) {line line' : FlowLine}
    (hline : line ∈ topologyLinesOf (topologyEventsById log) a)
    (hline' : line' ∈ topologyLinesOf (topologyEventsById log) b)
    (hsubject : line.subject = line'.subject) : a = b := by
  apply eq_of_topologyNode h (List.mem_of_mem_filter ha) (List.mem_of_mem_filter hb)
  rw [← subject_topologyLinesOf hline, ← subject_topologyLinesOf hline', hsubject]

/-- No two lines have the same text. -/
theorem texts_nodup (h : log.Inv) : ((topologyGovernanceLines log).map FlowLine.text).Nodup := by
  have hlines : (topologyGovernanceLines log).Nodup := by
    apply List.nodup_flatMap.mpr
    refine ⟨?_, ?_⟩
    · intro event _
      rcases topologyLinesOf_cases (topologyEventsById log) event with hlines | ⟨cause, hlines⟩
      · rw [hlines]
        exact List.nodup_singleton _
      · rw [hlines]
        refine List.nodup_cons.mpr ⟨?_, List.nodup_singleton _⟩
        intro hmem
        cases List.mem_singleton.mp hmem
    · refine (topologyEvents_nodup h).imp_of_mem ?_
      intro a b ha hb hne line hline hline'
      exact hne (owner_unique h ha hb hline hline' rfl)
  apply hlines.map_on
  intro line hline line' hline' htext
  obtain ⟨a, ha, hline⟩ := List.mem_flatMap.mp hline
  obtain ⟨b, hb, hline'⟩ := List.mem_flatMap.mp hline'
  obtain ⟨hsubject, hsort⟩ :=
    text_subject (plain_topologyLinesOf hline) (plain_topologyLinesOf hline') htext
  obtain rfl := owner_unique h ha hb hline hline' hsubject
  -- two lines of one event are its node and an edge
  rcases topologyLinesOf_cases (topologyEventsById log) a with hlines | ⟨cause, hlines⟩
  · rw [hlines, List.mem_singleton] at hline hline'
    rw [hline, hline']
  · rw [hlines, List.mem_cons, List.mem_singleton] at hline hline'
    rcases hline with rfl | rfl
    · rcases hline' with rfl | rfl
      · rfl
      · cases hsort
    · rcases hline' with rfl | rfl
      · cases hsort
      · rfl

/-- The events that need a topology event as their cause. -/
def governedTypes : List LoomEventType :=
  [.topologyShadowed, .topologyCanaried, .topologyCommitted, .topologyRolledBack]

theorem governed_cause {e : LoomEvent} (he : e.eventType ∈ governedTypes) :
    isTopologyEvent e = true ∧ ∃ t, requiredCause e.eventType = some t ∧
      ∀ c : LoomEvent, c.eventType = t → isTopologyEvent c = true := by
  unfold governedTypes at he
  unfold isTopologyEvent
  simp only [List.mem_cons, List.not_mem_nil, or_false] at he
  rcases he with he | he | he | he
  · rw [he]
    exact ⟨rfl, .topologyProposed, rfl, fun c hc => by rw [hc]⟩
  · rw [he]
    exact ⟨rfl, .topologyShadowed, rfl, fun c hc => by rw [hc]⟩
  · rw [he]
    exact ⟨rfl, .topologyProposed, rfl, fun c hc => by rw [hc]⟩
  · rw [he]
    exact ⟨rfl, .topologyCommitted, rfl, fun c hc => by rw [hc]⟩

/-- The lines of an event whose cause is a topology event of the log. -/
theorem topologyLinesOf_caused (h : log.Inv) {e c : LoomEvent} (hc : c ∈ log.events)
    (htopology : isTopologyEvent c = true) (hnamed : e.causationId = some c.eventId) :
    topologyLinesOf (topologyEventsById log) e =
      [topologyLine e, .edge (topologyNodeId c) (topologyNodeId e)] := by
  unfold topologyLinesOf
  rw [hnamed, Option.bind_some, lookup_topologyEventsById h hc htopology]
  rfl

/-- The topology governance chart of every reachable log: the node lines are those of
the topology events in log order, no text is written twice, and a shadow, canary, commit
or rollback has one edge, from the cause of the required type it names, whose node line
comes before its own. -/
theorem topologyGovernance_correct (h : log.Reachable) :
    topologyGovernanceProjection log = flowchart (topologyGovernanceLines log) ∧
    (topologyGovernanceLines log).filter FlowLine.isNode = (topologyEvents log).map topologyLine ∧
    ((topologyGovernanceLines log).map FlowLine.text).Nodup ∧
    ∀ pre e post, log.events = pre ++ e :: post → e.eventType ∈ governedTypes →
      ∃ c ∈ pre, ∃ t, requiredCause e.eventType = some t ∧ c.eventType = t ∧
        e.causationId = some c.eventId ∧
        (topologyGovernanceLines log).filter (FlowLine.leadsTo (topologyNodeId e)) =
          [.edge (topologyNodeId c) (topologyNodeId e)] ∧
        ∃ before mid rest, topologyGovernanceLines log =
          before ++ topologyLine c :: (mid ++ topologyLine e ::
            .edge (topologyNodeId c) (topologyNodeId e) :: rest) := by
  have hinv := h.inv
  refine ⟨topologyGovernanceProjection_eq log, filter_isNode log, texts_nodup hinv, ?_⟩
  intro pre e post hsplit hgoverned
  obtain ⟨htopology, t, ht, hcausetype⟩ := governed_cause hgoverned
  obtain ⟨c, hc, hcause⟩ := hinv.caused pre e post hsplit t ht
  have hclog : c ∈ log.events := by
    rw [hsplit]
    exact List.mem_append_left _ hc
  have hctopology := hcausetype c hcause.type
  have hlines := topologyLinesOf_caused hinv hclog hctopology hcause.named
  have hevents : topologyEvents log =
      pre.filter isTopologyEvent ++ e :: post.filter isTopologyEvent := by
    unfold topologyEvents
    rw [hsplit, List.filter_append, List.filter_cons_of_pos htopology]
  refine ⟨c, hc, t, ht, hcause.type, hcause.named, ?_, ?_⟩
  · -- an edge to the node of `e` is among the lines of `e`
    have hmem : e ∈ topologyEvents log := by
      rw [hevents]
      exact List.mem_append_right _ List.mem_cons_self
    have hown : e ∈ log.events := List.mem_of_mem_filter hmem
    unfold topologyGovernanceLines
    rw [filter_flatMap_of_unique (topologyEvents_nodup hinv) hmem, hlines]
    · simp [topologyLine, FlowLine.leadsTo]
    · intro f hf line hline hleads
      apply eq_of_topologyNode hinv (List.mem_of_mem_filter hf) hown
      rw [← subject_topologyLinesOf hline, FlowLine.subject_of_leadsTo hleads]
  · -- the cause is among the events before `e`
    obtain ⟨first, mid, hpre⟩ := List.append_of_mem (List.mem_filter.mpr ⟨hc, hctopology⟩)
    obtain ⟨below, hbelow⟩ : ∃ below, topologyLinesOf (topologyEventsById log) c =
        topologyLine c :: below := by
      rcases topologyLinesOf_cases (topologyEventsById log) c with hc | ⟨cause, hc⟩
      · exact ⟨_, hc⟩
      · exact ⟨_, hc⟩
    refine ⟨first.flatMap (topologyLinesOf (topologyEventsById log)),
      below ++ mid.flatMap (topologyLinesOf (topologyEventsById log)),
      (post.filter isTopologyEvent).flatMap (topologyLinesOf (topologyEventsById log)), ?_⟩
    unfold topologyGovernanceLines
    rw [hevents, hpre, List.flatMap_append, List.flatMap_append, List.flatMap_cons,
      List.flatMap_cons, hbelow, hlines]
    simp

theorem topologyGovernance_correct_governedLog :
    ((topologyGovernanceLines governedLog).map FlowLine.text).Nodup :=
  (topologyGovernance_correct (show governedLog.Reachable from reachable_iff.mpr rfl)).2.2.1

end Chart
end QTom.Loom
