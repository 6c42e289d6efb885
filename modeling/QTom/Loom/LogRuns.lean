import QTom.Loom.EventLog

/- What holds of every log a run of appends reaches.

   `Inv` is the representation invariant: ids are distinct and `eventIds` is
   their set, every event is valid on its own, and every event whose type needs a
   cause names an earlier event of exactly the required type that fits it. The
   positions are splits of the event list: in `pre ++ e :: post` the events before
   `e` are `pre`.

   A cursor filters by id while `append` orders by time, so resuming from
   `after e` gives the events appended after `e` exactly on the logs whose ids
   increase (`resumes_iff`). -/
namespace QTom.Loom.InMemoryEventLog
open QTom.Lib

/-- `c` is the cause of type `t` that `e` names, and the two agree on what the
log compares. -/
structure NamesCause (e c : LoomEvent) (t : LoomEventType) : Prop where
  named : e.causationId = some c.eventId
  type : c.eventType = t
  assigned : e.eventType = .taskAssigned → e.taskId = c.taskId ∧ SameContext e c
  ready : e.eventType = .artifactReady →
    e.taskId = c.taskId ∧ SameContext e c ∧ e.payloadRef = c.payloadRef

structure Inv (log : InMemoryEventLog) : Prop where
  idsDistinct : (log.events.map LoomEvent.eventId).Nodup
  idsExact : ∀ id, id ∈ log.eventIds ↔ ∃ e ∈ log.events, e.eventId = id
  valid : ∀ e ∈ log.events, e.Valid
  caused : ∀ pre e post, log.events = pre ++ e :: post →
    ∀ t, requiredCause e.eventType = some t → ∃ c ∈ pre, NamesCause e c t

theorem find_some {log : InMemoryEventLog} {id : Nat} {c : LoomEvent} (h : log.find id = some c) :
    c ∈ log.events ∧ c.eventId = id :=
  ⟨List.mem_of_find?_eq_some h, by simpa using List.find?_some h⟩

/-- Where ids are distinct an event is found by its id. -/
theorem find_of_mem {log : InMemoryEventLog} (hn : (log.events.map LoomEvent.eventId).Nodup)
    {c : LoomEvent} (hc : c ∈ log.events) : log.find c.eventId = some c := by
  cases hfind : log.find c.eventId with
  | none =>
    have hno := List.find?_eq_none.mp hfind c hc
    simp at hno
  | some d =>
    obtain ⟨hd, hid⟩ := find_some hfind
    rw [List.inj_on_of_nodup_map hn hd hc hid]

/-- An assignment and its route decision both carry a task id, so the compared
defaults are the ids themselves. -/
theorem assigned_taskId {e c : LoomEvent} (he : e.Valid) (hc : c.Valid)
    (het : e.eventType = .taskAssigned) (hct : c.eventType = .routeDecisionRecorded)
    (h : e.taskId.getD 0 = c.taskId.getD 0) : e.taskId = c.taskId := by
  obtain ⟨a, ha⟩ := Option.isSome_iff_exists.mp (he.task (by rw [het]; rfl))
  obtain ⟨b, hb⟩ := Option.isSome_iff_exists.mp (hc.task (by rw [hct]; rfl))
  rw [ha, hb] at h ⊢
  simpa using h

/-- An accepted event names its cause among the events of the log. -/
theorem Accepts.names_cause {log : InMemoryEventLog} {e : LoomEvent} (h : log.Accepts e)
    (hv : ∀ c ∈ log.events, c.Valid) {t : LoomEventType} (ht : requiredCause e.eventType = some t) :
    ∃ c ∈ log.events, NamesCause e c t := by
  obtain ⟨id, c, hid, hf, hcause⟩ := h.caused t ht
  obtain ⟨hmem, rfl⟩ := find_some hf
  refine ⟨c, hmem, hid, hcause.type, fun ha => ?_, hcause.ready⟩
  obtain ⟨htask, hctx⟩ := hcause.assigned ha
  -- the required cause of an assignment, and a type that carries a task id
  have hct : c.eventType = .routeDecisionRecorded := by
    rw [hcause.type]
    rw [ha] at ht
    cases ht
    rfl
  exact ⟨assigned_taskId h.valid (hv c hmem) ha hct htask, hctx⟩

theorem Reachable.inv {log : InMemoryEventLog} (h : log.Reachable) : log.Inv := by
  have hvalid : ∀ e ∈ log.events, e.Valid := by
    intro e he
    obtain ⟨pre, post, hsplit⟩ := List.append_of_mem he
    exact (h.accepts hsplit).valid
  have hlog : log = ofEvents log.events := (appendAll_ok_iff.mp (reachable_iff.mp h)).1
  refine ⟨?_, ?_, hvalid, ?_⟩
  · rw [List.nodup_iff_pairwise_ne, List.pairwise_map]
    apply pairwise_of_splits
    intro pre e post hsplit c hc heq
    -- `e` was fresh in the log of the events before it
    exact (h.accepts hsplit).fresh (mem_ofEvents_ids.mpr ⟨c, hc, heq⟩)
  · intro id
    rw [hlog, mem_ofEvents_ids, ofEvents_events]
  · intro pre e post hsplit t ht
    have hacc := h.accepts hsplit
    have hpre : ∀ c ∈ (ofEvents pre).events, c.Valid := by
      intro c hc
      rw [ofEvents_events] at hc
      exact hvalid c (by rw [hsplit]; simp [hc])
    obtain ⟨c, hc, hcause⟩ := hacc.names_cause hpre ht
    rw [ofEvents_events] at hc
    exact ⟨c, hc, hcause⟩

/-- An id names one event. -/
theorem Inv.eq_of_id {log : InMemoryEventLog} (h : log.Inv) {a b : LoomEvent}
    (ha : a ∈ log.events) (hb : b ∈ log.events) (hid : a.eventId = b.eventId) : a = b :=
  List.inj_on_of_nodup_map h.idsDistinct ha hb hid

/-- The log invariant over all runs: `Inv` in every reachable log, a rollback's
commit and that commit's proposal earlier in it, and a failing append a no-op. -/
theorem reachable_log_invariant {log : InMemoryEventLog} (h : log.Reachable) :
    log.Inv ∧
    (∀ pre e post, log.events = pre ++ e :: post → e.eventType = .topologyRolledBack →
      ∃ first commit mid proposal, pre = first ++ commit :: mid ∧ proposal ∈ first ∧
        NamesCause e commit .topologyCommitted ∧ NamesCause commit proposal .topologyProposed) ∧
    (∀ e err, (log.append e).1 = .error err → (log.append e).2 = log) := by
  have hinv := h.inv
  refine ⟨hinv, ?_, fun e err => append_error⟩
  intro pre e post hsplit ht
  obtain ⟨commit, hcommit, hcause⟩ := hinv.caused pre e post hsplit .topologyCommitted (by rw [ht]; rfl)
  obtain ⟨first, mid, hpre⟩ := List.append_of_mem hcommit
  have hsplit' : log.events = first ++ commit :: (mid ++ e :: post) := by
    rw [hsplit, hpre]
    simp
  obtain ⟨proposal, hproposal, hcause'⟩ :=
    hinv.caused first commit _ hsplit' .topologyProposed (by rw [hcause.type]; rfl)
  exact ⟨first, commit, mid, proposal, hpre, hproposal, hcause, hcause'⟩

/-- A proposal, its commit and the rollback of that commit. -/
def governedLog : InMemoryEventLog :=
  ofEvents [testEvent .topologyProposed 7 0,
    { testEvent .topologyCommitted 10 0 with causationId := some 7 },
    { testEvent .topologyRolledBack 11 0 with causationId := some 10 }]

theorem governedLog_invariant : governedLog.Inv ∧ governedLog.events.length = 3 :=
  ⟨(reachable_log_invariant (show governedLog.Reachable from reachable_iff.mpr rfl)).1, rfl⟩

/-! Resuming from a cursor. -/

theorem replay_start (log : InMemoryEventLog) : log.replay .start = log.events := by
  simp [replay, ReplayCursor.start]

/-- Resuming after any event of the log replays what the replay up to and
including it left out: nothing lost, nothing repeated. -/
def Resumes (log : InMemoryEventLog) : Prop :=
  ∀ seen e rest, log.replay .start = seen ++ e :: rest →
    (seen ++ [e]) ++ log.replay (.after e.eventId) = log.replay .start

/-- Resuming loses and repeats nothing exactly when the ids were appended in
increasing order. -/
theorem resumes_iff {events : List LoomEvent} {log : InMemoryEventLog}
    (h : appendAll events = .ok log) :
    log.Resumes ↔ (events.map LoomEvent.eventId).Pairwise (· < ·) := by
  obtain ⟨hevents, _⟩ := reachable_of_appendAll h
  unfold Resumes
  rw [replay_start, hevents, List.pairwise_map]
  refine ⟨fun hres => ?_, fun hsorted seen e rest hsplit => ?_⟩
  · apply pairwise_iff_splits.mpr
    intro seen e rest hsplit y hy
    -- what followed `e` is what the replay after `e` returns, so its id is larger
    have hafter := hres seen e rest hsplit
    rw [hsplit, List.append_assoc, List.append_cancel_left_eq, List.singleton_append,
      List.cons.injEq] at hafter
    have hmem : y ∈ log.replay (.after e.eventId) := by rw [hafter.2]; exact hy
    simpa [replay, ReplayCursor.after] using (List.mem_filter.mp hmem).2
  · -- the ids before `e` are smaller and those after it larger
    have hbefore : ∀ c ∈ seen, c.eventId < e.eventId := by
      intro c hc
      rw [hsplit, List.pairwise_append] at hsorted
      exact hsorted.2.2 c hc e (by simp)
    have hafter : ∀ c ∈ rest, e.eventId < c.eventId := by
      rw [hsplit, List.pairwise_append] at hsorted
      exact (List.pairwise_cons.mp hsorted.2.1).1
    have hseen : seen.filter (fun c => decide (c.eventId > e.eventId)) = [] := by
      apply List.filter_eq_nil_iff.mpr
      intro c hc
      have := hbefore c hc
      simp only [gt_iff_lt, decide_eq_true_eq]
      omega
    have hrest : rest.filter (fun c => decide (c.eventId > e.eventId)) = rest := by
      apply List.filter_eq_self.mpr
      intro c hc
      simpa using hafter c hc
    have hreplay : log.replay (.after e.eventId) = rest := by
      simp only [replay, ReplayCursor.after, hevents, hsplit, List.filter_append, List.filter_cons]
      rw [hseen, hrest]
      simp
    rw [hreplay, hsplit]
    simp

/-- Two events of the simulator's run, in the order it appends them: the first
child's decommission and the second child's route decision. -/
def simulatorSlice : List LoomEvent :=
  [testEvent .agentDecommissioned 2003 10, testEvent .routeDecisionRecorded 102 11]

theorem resumes_iff_simulatorSlice : (ofEvents simulatorSlice).Resumes ↔
    (simulatorSlice.map LoomEvent.eventId).Pairwise (· < ·) :=
  resumes_iff (show appendAll simulatorSlice = .ok (ofEvents simulatorSlice) from rfl)

/-- Resuming after event 2003 loses event 102. -/
theorem resume_loses_event :
    ¬ ∀ events log, appendAll events = .ok log → log.Resumes := by
  intro h
  have hres := h simulatorSlice (ofEvents simulatorSlice) rfl [] (testEvent .agentDecommissioned 2003 10)
    [testEvent .routeDecisionRecorded 102 11] rfl
  revert hres
  decide

end QTom.Loom.InMemoryEventLog
