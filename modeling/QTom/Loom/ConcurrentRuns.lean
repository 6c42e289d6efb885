import QTom.Lib.Parties
import QTom.Loom.ReplayAudit

/- Concurrent runs in one log. Each event is some party's (a prompt's run, an agent's),
   and the log holds the parties' events in any order that keeps each party's own.

   Parties that are apart cannot disturb each other: the log takes the events exactly
   when it takes each party's alone (`concurrent_appends_iff`), and the replay validator
   accepts them exactly when it accepts each party's alone, its report then being the
   sum of theirs (`concurrent_replay_iff`). -/
namespace QTom.Loom
open QTom.Lib InMemoryEventLog ReplayState
variable {κ : Type*} [DecidableEq κ] {party : LoomEvent → κ}

/-- Only events of one party share an id, or name each other as their cause. -/
structure Apart (party : LoomEvent → κ) (events : List LoomEvent) : Prop where
  ids : ∀ e ∈ events, ∀ c ∈ events, e.eventId = c.eventId → party c = party e
  causes : ∀ e ∈ events, ∀ c ∈ events, e.causationId = some c.eventId → party c = party e

/-- Nor does one party end a task another completed, or request the integration of
another's child task. -/
structure ApartTasks (party : LoomEvent → κ) (events : List LoomEvent) : Prop
    extends Apart party events where
  ends : ∀ e ∈ events, e.eventType = .taskCompleted → ∀ c ∈ events,
    c.eventType = .taskCompleted ∨ c.eventType = .agentDecommissioned →
    e.taskId = c.taskId → party c = party e
  integrations : ∀ e ∈ events, e.eventType = .taskCreated → ∀ c ∈ events,
    c.eventType = .integrationRequested → e.parentTaskId = c.taskId → party c = party e

/-! What the log checks of an event it checks against the event's own party. -/

section Checks
variable {pre : List LoomEvent} {e : LoomEvent}

theorem find_part (h : ∀ c ∈ pre, e.causationId = some c.eventId → party c = party e) {id : Nat}
    (hid : e.causationId = some id) :
    (ofEvents (partOf party (party e) pre)).find id = (ofEvents pre).find id := by
  unfold InMemoryEventLog.find
  rw [ofEvents_events, ofEvents_events]
  apply find?_partOf
  intro c hc heq
  apply h c hc
  rw [hid, eq_of_beq heq]

theorem fresh_part (h : ∀ c ∈ pre, e.eventId = c.eventId → party c = party e) :
    e.eventId ∉ (ofEvents (partOf party (party e) pre)).eventIds ↔
      e.eventId ∉ (ofEvents pre).eventIds := by
  rw [mem_ofEvents_ids, mem_ofEvents_ids]
  apply not_congr
  refine ⟨?_, ?_⟩
  · intro ⟨c, hc, hid⟩
    exact ⟨c, (mem_partOf.mp hc).1, hid⟩
  · intro ⟨c, hc, hid⟩
    exact ⟨c, mem_partOf.mpr ⟨hc, h c hc hid.symm⟩, hid⟩

theorem accepts_part (hids : ∀ c ∈ pre, e.eventId = c.eventId → party c = party e)
    (hcauses : ∀ c ∈ pre, e.causationId = some c.eventId → party c = party e) :
    (ofEvents (partOf party (party e) pre)).Accepts e ↔ (ofEvents pre).Accepts e := by
  have hcaused : (ofEvents (partOf party (party e) pre)).Caused e ↔ (ofEvents pre).Caused e := by
    unfold Caused
    apply forall_congr'; intro t
    apply imp_congr_right; intro _
    refine ⟨?_, ?_⟩
    · intro ⟨id, c, hid, hfind, hcause⟩
      exact ⟨id, c, hid, find_part hcauses hid ▸ hfind, hcause⟩
    · intro ⟨id, c, hid, hfind, hcause⟩
      exact ⟨id, c, hid, (find_part hcauses hid).trans hfind, hcause⟩
  refine ⟨?_, ?_⟩
  · intro ⟨hvalid, hfresh, hc⟩
    exact ⟨hvalid, (fresh_part hids).mp hfresh, hcaused.mp hc⟩
  · intro ⟨hvalid, hfresh, hc⟩
    exact ⟨hvalid, (fresh_part hids).mpr hfresh, hcaused.mpr hc⟩

/-- The pre-checks of the validator look up nothing but the event's cause. -/
theorem validateBeforeAppend_part
    (h : ∀ c ∈ pre, e.causationId = some c.eventId → party c = party e) :
    validateBeforeAppend e (ofEvents (partOf party (party e) pre)) =
      validateBeforeAppend e (ofEvents pre) := by
  have hassigned : validateAssignmentRouteDecision e (ofEvents (partOf party (party e) pre)) =
      validateAssignmentRouteDecision e (ofEvents pre) := by
    unfold validateAssignmentRouteDecision
    cases hid : e.causationId with
    | none => rfl
    | some id =>
      dsimp only
      rw [find_part h hid]
  have hready : validateArtifactReady e (ofEvents (partOf party (party e) pre)) =
      validateArtifactReady e (ofEvents pre) := by
    unfold validateArtifactReady
    cases hid : e.causationId with
    | none => rfl
    | some id =>
      dsimp only
      rw [find_part h hid]
  have hmemory : validateMemoryEvidence e (ofEvents (partOf party (party e) pre)) =
      validateMemoryEvidence e (ofEvents pre) := by
    unfold validateMemoryEvidence
    cases hid : e.causationId with
    | none => rfl
    | some id =>
      dsimp only
      rw [ofEvents_events, ofEvents_events, find?_partOf]
      intro c hc hp
      apply h c hc
      rw [hid, eq_of_beq (Bool.and_eq_true_iff.mp hp).1]
  unfold validateBeforeAppend
  cases e.eventType with
  | taskAssigned => exact hassigned
  | artifactReady => exact hready
  | memoryNodeCreated => exact hmemory
  | _ => rfl

end Checks

section Runs
variable {events : List LoomEvent}

omit [DecidableEq κ] in
theorem Apart.before (h : Apart party events) {pre post : List LoomEvent} {e : LoomEvent}
    (hsplit : events = pre ++ e :: post) :
    (∀ c ∈ pre, e.eventId = c.eventId → party c = party e) ∧
      ∀ c ∈ pre, e.causationId = some c.eventId → party c = party e := by
  have he : e ∈ events := by rw [hsplit]; simp
  have hpre : ∀ c ∈ pre, c ∈ events := fun c hc => by rw [hsplit]; simp [hc]
  exact ⟨fun c hc => h.ids e he c (hpre c hc), fun c hc => h.causes e he c (hpre c hc)⟩

theorem appends_iff_along : (∃ log, appendAll events = .ok log) ↔ Along Accepts push new events :=
  ⟨fun ⟨_, h⟩ => (appendAll_ok_iff.mp h).2, fun h => ⟨_, appendAll_ok_iff.mpr ⟨rfl, h⟩⟩⟩

/-- Whatever the order in which runs that are apart write their events, the log takes
them all exactly when it takes the events of each run alone. -/
theorem concurrent_appends_iff (h : Apart party events) :
    (∃ log, appendAll events = .ok log) ↔
      ∀ k, ∃ log, appendAll (partOf party k events) = .ok log := by
  simp only [appends_iff_along]
  apply along_iff_parts
  intro pre e post hsplit
  obtain ⟨hids, hcauses⟩ := h.before hsplit
  exact (accepts_part hids hcauses).symm

/-! Replay validation. -/

/-- The reports of two logs, added up. -/
def ReplayValidationReport.plus (a b : ReplayValidationReport) : ReplayValidationReport where
  eventCount := a.eventCount + b.eventCount
  rootTaskCount := a.rootTaskCount + b.rootTaskCount
  taskEventCount := a.taskEventCount + b.taskEventCount
  routeDecisionCount := a.routeDecisionCount + b.routeDecisionCount
  assignmentCount := a.assignmentCount + b.assignmentCount
  completionCount := a.completionCount + b.completionCount
  decommissionCount := a.decommissionCount + b.decommissionCount
  memoryNodeCount := a.memoryNodeCount + b.memoryNodeCount
  topologyShadowCount := a.topologyShadowCount + b.topologyShadowCount
  topologyCanaryCount := a.topologyCanaryCount + b.topologyCanaryCount
  topologyCommitCount := a.topologyCommitCount + b.topologyCommitCount
  topologyRollbackCount := a.topologyRollbackCount + b.topologyRollbackCount
  integrationRequestCount := a.integrationRequestCount + b.integrationRequestCount

/-- The report of no events, with those of the runs added. -/
def totalReport (reports : List ReplayValidationReport) : ReplayValidationReport :=
  reports.foldr ReplayValidationReport.plus (exactReport [])

theorem exactReport_perm {es fs : List LoomEvent} (h : es.Perm fs) :
    exactReport es = exactReport fs := by
  have hroots : (es.map LoomEvent.rootTaskId).toFinset = (fs.map LoomEvent.rootTaskId).toFinset :=
    List.toFinset_eq_of_perm _ _ (h.map _)
  have hcount : ∀ type, countOf type es = countOf type fs := fun type => h.countP_eq _
  unfold exactReport
  rw [h.length_eq, hroots, h.countP_eq]
  simp only [hcount]

theorem exactReport_append {es fs : List LoomEvent}
    (h : ∀ e ∈ es, ∀ f ∈ fs, e.rootTaskId ≠ f.rootTaskId) :
    exactReport (es ++ fs) = (exactReport es).plus (exactReport fs) := by
  have hdisjoint : Disjoint (es.map LoomEvent.rootTaskId).toFinset
      (fs.map LoomEvent.rootTaskId).toFinset := by
    apply Finset.disjoint_left.mpr
    intro root he hf
    obtain ⟨e, hmem, hroot⟩ := List.mem_map.mp (List.mem_toFinset.mp he)
    obtain ⟨f, hmem', hroot'⟩ := List.mem_map.mp (List.mem_toFinset.mp hf)
    exact h e hmem f hmem' (hroot.trans hroot'.symm)
  have hcount : ∀ type, countOf type (es ++ fs) = countOf type es + countOf type fs :=
    fun type => List.countP_append
  unfold exactReport ReplayValidationReport.plus
  rw [List.length_append, List.map_append, List.toFinset_append,
    Finset.card_union_of_disjoint hdisjoint, List.countP_append]
  simp only [hcount]

theorem exactReport_parts
    (hroots : ∀ e ∈ events, ∀ c ∈ events, e.rootTaskId = c.rootTaskId → party c = party e)
    {ks : List κ} (hks : ks.Nodup) :
    exactReport (ks.flatMap fun k => partOf party k events) =
      totalReport (ks.map fun k => exactReport (partOf party k events)) := by
  induction ks with
  | nil => rfl
  | cons k ks ih =>
    obtain ⟨hnot, hrest⟩ := List.nodup_cons.mp hks
    rw [List.flatMap_cons, exactReport_append, ih hrest]
    · rfl
    · intro e he f hf hroot
      obtain ⟨k', hk', hf⟩ := List.mem_flatMap.mp hf
      obtain ⟨hmem, rfl⟩ := mem_partOf.mp he
      obtain ⟨hmem', hparty⟩ := mem_partOf.mp hf
      rw [hroots e hmem f hmem' hroot] at hparty
      exact hnot (hparty ▸ hk')

/-- The last event of a task is the last of the part that tells of the task. -/
theorem lastEvent_part {type : LoomEventType} {t : Nat} {k : κ}
    (h : ∀ c ∈ events, c.eventType = type → c.taskId = some t → party c = k) :
    lastEvent type t (partOf party k events) = lastEvent type t events := by
  apply lastOf_partOf
  intro c hc hkey
  unfold taskKey at hkey
  split at hkey
  · next htype => exact h c hc htype hkey
  · cases hkey

theorem lastEvent_child_part (h : ApartTasks party events) {child : LoomEvent} (hmem : child ∈ events)
    (htype : child.eventType = .taskCreated) {p : Nat} (hparent : child.parentTaskId = some p) :
    lastEvent .integrationRequested p (partOf party (party child) events) =
      lastEvent .integrationRequested p events :=
  lastEvent_part fun c hc hctype htask =>
    h.integrations child hmem htype c hc hctype (hparent.trans htask.symm)

theorem lastEvent_ended_part (h : ApartTasks party events) {c : LoomEvent} (hmem : c ∈ events)
    (htype : c.eventType = .taskCompleted) {t : Nat} (htask : c.taskId = some t)
    {type : LoomEventType} (hended : type = .taskCompleted ∨ type = .agentDecommissioned) :
    lastEvent type t (partOf party (party c) events) = lastEvent type t events :=
  lastEvent_part fun c' hc' htype' htask' =>
    h.ends c hmem htype c' hc' (htype' ▸ hended) (htask.trans htask'.symm)

theorem passes_iff_parts (h : ApartTasks party events) :
    Passes events ↔ ∀ k, Passes (partOf party k events) := by
  have hadmits : Along Admits push new events ↔ ∀ k, Along Admits push new (partOf party k events) := by
    apply along_iff_parts
    intro pre e post hsplit
    obtain ⟨hids, hcauses⟩ := h.toApart.before hsplit
    have hcheck := validateBeforeAppend_part hcauses
    have haccepts := accepts_part hids hcauses
    exact ⟨fun ha => ⟨hcheck.trans ha.checked, haccepts.mpr ha.accepted⟩,
      fun ha => ⟨hcheck.symm.trans ha.checked, haccepts.mp ha.accepted⟩⟩
  refine ⟨?_, ?_⟩
  · intro hp k
    refine ⟨hadmits.mp hp.admits k, ?_, ?_⟩
    · intro child hchild htype p hparent
      obtain ⟨hmem, rfl⟩ := mem_partOf.mp hchild
      rw [lastEvent_child_part h hmem htype hparent]
      exact hp.integrated child hmem htype p hparent
    · intro t c hlast
      obtain ⟨hc, htype, htask⟩ := lastEvent_mem hlast
      obtain ⟨hmem, rfl⟩ := mem_partOf.mp hc
      rw [lastEvent_ended_part h hmem htype htask (Or.inl rfl)] at hlast
      rw [lastEvent_ended_part h hmem htype htask (Or.inr rfl)]
      exact hp.decommissioned t c hlast
  · intro hp
    refine ⟨hadmits.mpr fun k => (hp k).admits, ?_, ?_⟩
    · intro child hmem htype p hparent
      rw [← lastEvent_child_part h hmem htype hparent]
      exact (hp (party child)).integrated child (mem_partOf.mpr ⟨hmem, rfl⟩) htype p hparent
    · intro t c hlast
      obtain ⟨hmem, htype, htask⟩ := lastEvent_mem hlast
      rw [← lastEvent_ended_part h hmem htype htask (Or.inl rfl)] at hlast
      rw [← lastEvent_ended_part h hmem htype htask (Or.inr rfl)]
      exact (hp (party c)).decommissioned t c hlast

theorem validated_iff {events : List LoomEvent} :
    validateEvents events = .ok (exactReport events) ↔ Passes events := by
  rw [validateEvents_ok_iff]
  exact and_iff_left rfl

/-- Whatever the order in which runs that are apart write their events, the replay
validator accepts the log exactly when it accepts the events of each run alone, and it
then reports their counts added up. -/
theorem concurrent_replay_iff (h : ApartTasks party events)
    (hroots : ∀ e ∈ events, ∀ c ∈ events, e.rootTaskId = c.rootTaskId → party c = party e)
    {ks : List κ} (hks : ks.Nodup) (hall : ∀ e ∈ events, party e ∈ ks) {report : ReplayValidationReport} :
    validateEvents events = .ok report ↔ ∃ reports : κ → ReplayValidationReport,
      (∀ k ∈ ks, validateEvents (partOf party k events) = .ok (reports k)) ∧
      report = totalReport (ks.map reports) := by
  have htotal : exactReport events =
      totalReport (ks.map fun k => exactReport (partOf party k events)) :=
    (exactReport_perm (perm_parts hks hall)).trans (exactReport_parts hroots hks)
  rw [validateEvents_ok_iff]
  refine ⟨?_, ?_⟩
  · intro ⟨hpasses, hreport⟩
    refine ⟨fun k => exactReport (partOf party k events), ?_, hreport.trans htotal⟩
    intro k _
    exact validated_iff.mpr ((passes_iff_parts h).mp hpasses k)
  · intro ⟨reports, hreports, hreport⟩
    have heach : ∀ k ∈ ks, Passes (partOf party k events) ∧
        reports k = exactReport (partOf party k events) :=
      fun k hk => validateEvents_ok_iff.mp (hreports k hk)
    refine ⟨(passes_iff_parts h).mpr ?_, ?_⟩
    · intro k
      by_cases hk : k ∈ ks
      · exact (heach k hk).1
      · -- a party without events
        have hnone : partOf party k events = [] := by
          apply List.filter_eq_nil_iff.mpr
          intro e he hparty
          exact hk (of_decide_eq_true hparty ▸ hall e he)
        rw [hnone]
        exact validated_iff.mp rfl
    · rw [hreport, htotal]
      congr 1
      exact List.map_congr_left fun k hk => (heach k hk).2

end Runs

/-- A second task's lifecycle, under another root. -/
def otherLifecycle : List LoomEvent := taskLifecycle.map fun event =>
  { event with
    eventId := event.eventId + 10
    rootTaskId := 2
    taskId := some 11
    causationId := event.causationId.map (· + 10) }

/-- Both, taking turns. -/
def lifecyclesTogether : List LoomEvent :=
  (taskLifecycle.zip otherLifecycle).flatMap fun pair => [pair.1, pair.2]

theorem lifecyclesTogether_apart : ApartTasks LoomEvent.rootTaskId lifecyclesTogether := by
  have htask : ∀ e ∈ lifecyclesTogether, e.taskId = some (9 + e.rootTaskId) := by decide
  have hnone : ∀ e ∈ lifecyclesTogether, e.eventType ≠ .integrationRequested := by decide
  refine ⟨⟨by decide, by decide⟩, ?_, ?_⟩
  · intro e he _ c hc _ hsame
    rw [htask e he, htask c hc, Option.some.injEq] at hsame
    omega
  · intro e _ _ c hc htype
    exact absurd htype (hnone c hc)

theorem concurrent_appends_iff_lifecycles :
    (∃ log, appendAll lifecyclesTogether = .ok log) ↔
      ∀ root, ∃ log, appendAll (partOf LoomEvent.rootTaskId root lifecyclesTogether) = .ok log :=
  concurrent_appends_iff lifecyclesTogether_apart.toApart

theorem concurrent_replay_iff_lifecycles :
    validateEvents lifecyclesTogether =
      .ok (totalReport [exactReport taskLifecycle, exactReport otherLifecycle]) :=
  (concurrent_replay_iff lifecyclesTogether_apart (fun _ _ _ _ h => h.symm)
      (show [1, 2].Nodup by decide) (by decide)).mpr
    ⟨fun root => exactReport (partOf LoomEvent.rootTaskId root lifecyclesTogether),
      by decide +kernel, by decide +kernel⟩

end QTom.Loom
