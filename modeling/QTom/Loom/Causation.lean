import QTom.Loom.LogRuns

/- What the causes in a reachable log tie together. `append` compares an event with
   the cause it names for an assignment and a ready artifact only; a resumption needs
   a blocked task as its cause, and nothing says whose. An event whose type needs no
   cause keeps whatever causation id it came with, so among those a causation id may
   name the event itself, a later one or none, while along the required causes
   positions decrease. -/
namespace QTom.Loom.InMemoryEventLog
open QTom.Lib

/-! Resumptions. -/

/-- Every resumption names an earlier block of its own task. -/
def ResumesOwnBlock (log : InMemoryEventLog) : Prop :=
  ∀ pre e post, log.events = pre ++ e :: post → e.eventType = .taskResumed →
    ∃ c ∈ pre, e.causationId = some c.eventId ∧ c.eventType = .taskBlocked ∧
      c.taskId = e.taskId ∧ c.rootTaskId = e.rootTaskId

/-- A resumption that is fit to be logged and names a block names one of its own task. -/
def NamesOwnTask (log : InMemoryEventLog) (e : LoomEvent) : Prop :=
  e.eventType = .taskResumed → e.validate = .ok () → e.eventId ∉ log.eventIds →
    ∀ c ∈ log.events, e.causationId = some c.eventId → c.eventType = .taskBlocked →
      c.taskId = e.taskId ∧ c.rootTaskId = e.rootTaskId

/-- The log after a call of `append`, whatever it returned. -/
def after (log : InMemoryEventLog) (e : LoomEvent) : InMemoryEventLog := (log.append e).2

/-- One append keeps it: what is pushed was accepted. -/
theorem ResumesOwnBlock.after {log : InMemoryEventLog} (h : log.ResumesOwnBlock)
    (hreach : log.Reachable) {e : LoomEvent} (hown : log.NamesOwnTask e) :
    (log.after e).ResumesOwnBlock := by
  unfold InMemoryEventLog.after
  rcases append_cases log e with ⟨haccepts, happend⟩ | ⟨_, err, happend⟩
  · rw [happend]
    intro pre x post hsplit hresumed
    have hsplit : log.events ++ [e] = pre ++ x :: post := hsplit
    rcases List.eq_nil_or_concat post with rfl | ⟨post, last, rfl⟩
    · -- the pushed event
      obtain ⟨rfl, rfl⟩ := List.append_inj' hsplit rfl |>.imp_right fun h => (List.cons.inj h).1
      obtain ⟨c, hc, hcause⟩ := haccepts.names_cause hreach.inv.valid
        (show requiredCause e.eventType = some .taskBlocked by rw [hresumed]; rfl)
      exact ⟨c, hc, hcause.named, hcause.type, hown hresumed
        (LoomEvent.validate_ok_iff.mpr haccepts.valid) haccepts.fresh c hc hcause.named hcause.type⟩
    · -- one that was there
      rw [List.concat_eq_append, ← List.cons_append, ← List.append_assoc] at hsplit
      exact h pre x post (List.append_inj' hsplit rfl).1 hresumed
  · rw [happend]
    exact h

/-- A resumption that names the block of another task is what breaks it. -/
theorem ResumesOwnBlock.names {log : InMemoryEventLog} (hreach : log.Reachable) {e : LoomEvent}
    (h : (log.after e).ResumesOwnBlock) : log.NamesOwnTask e := by
  intro hresumed hvalid hfresh c hc hnamed htype
  have hfind : log.find c.eventId = some c := find_of_mem hreach.inv.idsDistinct hc
  have haccepts : log.Accepts e := by
    refine ⟨LoomEvent.validate_ok_iff.mp hvalid, hfresh, ?_⟩
    intro t ht
    rw [hresumed] at ht
    cases ht
    refine ⟨c.eventId, c, hnamed, hfind, htype, ?_, ?_⟩
    · intro hassigned
      rw [hresumed] at hassigned
      cases hassigned
    · intro hready
      rw [hresumed] at hready
      cases hready
  unfold InMemoryEventLog.after at h
  rw [append_ok haccepts] at h
  obtain ⟨c', hc', hnamed', _, hown⟩ := h log.events e [] rfl hresumed
  -- an id names one event
  have hid : c'.eventId = c.eventId := by
    rw [hnamed'] at hnamed
    exact Option.some.inj hnamed
  rw [← hreach.inv.eq_of_id hc' hc hid]
  exact hown

/-- A run of appends, failing ones included, keeps every task resumed from a block of its
own exactly when no resumption it could log names the block of another task. -/
theorem resumesOwnBlock_run_iff (events : List LoomEvent) :
    (∀ done rest, events = done ++ rest → (done.foldl after new).ResumesOwnBlock) ↔
      Along NamesOwnTask after new events := by
  have hreach : ∀ done : List LoomEvent, (done.foldl after new).Reachable := by
    intro done
    induction done using List.reverseRecOn with
    | nil => exact Reaches.start
    | append_singleton done e ih =>
      rw [List.foldl_append]
      exact Reaches.next e ih
  refine ⟨?_, ?_⟩
  · intro h pre e post hsplit
    apply ResumesOwnBlock.names (hreach pre)
    have hnext := h (pre ++ [e]) post (by rw [hsplit, List.append_assoc]; rfl)
    rw [List.foldl_append] at hnext
    exact hnext
  · intro h done rest hsplit
    induction done using List.reverseRecOn generalizing rest with
    | nil =>
      intro pre e post hnew
      exact absurd hnew.symm (List.append_ne_nil_of_right_ne_nil pre (List.cons_ne_nil e post))
    | append_singleton done e ih =>
      rw [List.append_assoc] at hsplit
      rw [List.foldl_append]
      exact (ih _ hsplit).after (hreach done) (h done e rest hsplit)

/-- Task 11 is resumed from the block of task 10. -/
theorem resumes_other_block : ¬ ∀ log : InMemoryEventLog, log.Reachable → log.ResumesOwnBlock := by
  intro h
  have hreach : (ofEvents [testEvent .taskBlocked 1 10,
      { testEvent .taskResumed 2 11 with causationId := some 1 }]).Reachable :=
    reachable_iff.mpr rfl
  obtain ⟨c, hc, _, _, htask, _⟩ := h _ hreach [testEvent .taskBlocked 1 10]
    { testEvent .taskResumed 2 11 with causationId := some 1 } [] rfl rfl
  rw [List.mem_singleton.mp hc] at htask
  revert htask
  decide

/-! Required causes. -/

/-- `c` is the cause `e` names, of an event whose type needs one. -/
def RequiredCauseOf (log : InMemoryEventLog) (c e : LoomEvent) : Prop :=
  c ∈ log.events ∧ e ∈ log.events ∧ (requiredCause e.eventType).isSome = true ∧
    e.causationId = some c.eventId

/-- A required cause is earlier than its effect. -/
theorem Inv.earlier {log : InMemoryEventLog} (h : log.Inv) {c e : LoomEvent}
    (hcause : log.RequiredCauseOf c e) : ∃ pre post, log.events = pre ++ e :: post ∧ c ∈ pre := by
  obtain ⟨hc, he, hrequired, hnamed⟩ := hcause
  obtain ⟨t, ht⟩ := Option.isSome_iff_exists.mp hrequired
  obtain ⟨pre, post, hsplit⟩ := List.append_of_mem he
  obtain ⟨c', hc', hcause'⟩ := h.caused pre e post hsplit t ht
  have hc'log : c' ∈ log.events := by
    rw [hsplit]
    exact List.mem_append_left _ hc'
  -- an id names one event, so the event `e` names is the one that was found
  have hid : c.eventId = c'.eventId := by
    rw [hcause'.named] at hnamed
    exact (Option.some.inj hnamed).symm
  rw [h.eq_of_id hc hc'log hid]
  exact ⟨pre, post, hsplit, hc'⟩

/-- The causation id of an event whose type needs no cause is not looked at. -/
theorem accepts_any_causation {log : InMemoryEventLog} {e : LoomEvent}
    (h : requiredCause e.eventType = none) (causationId : Option Nat) :
    log.Accepts { e with causationId := causationId } ↔ log.Accepts e := by
  have hcaused : ∀ x : LoomEvent, x.eventType = e.eventType → log.Caused x := by
    intro x hx t ht
    rw [hx, h] at ht
    cases ht
  refine ⟨?_, ?_⟩
  · intro hacc
    have hv := hacc.valid
    exact ⟨⟨hv.schema, hv.ref, hv.task, hv.agent, hv.snapshot⟩, hacc.fresh, hcaused e rfl⟩
  · intro hacc
    have hv := hacc.valid
    exact ⟨⟨hv.schema, hv.ref, hv.task, hv.agent, hv.snapshot⟩, hacc.fresh, hcaused _ rfl⟩

theorem append_ok_iff {log : InMemoryEventLog} {e : LoomEvent} :
    (log.append e).1 = .ok () ↔ log.Accepts e := by
  rcases append_cases log e with ⟨haccepts, happend⟩ | ⟨hnot, err, happend⟩
  · rw [happend]
    exact ⟨fun _ => haccepts, fun _ => rfl⟩
  · rw [happend]
    refine ⟨?_, fun haccepts => absurd haccepts hnot⟩
    intro h
    cases h

/-- Causation in every reachable log: an event whose type needs a cause names one of the
required type at an earlier position, so the required causes are well-founded; of any
other event the causation id is stored as it came. -/
theorem required_causes_wellFounded {log : InMemoryEventLog} (h : log.Reachable) :
    (∀ pre e post, log.events = pre ++ e :: post → ∀ t, requiredCause e.eventType = some t →
      ∃ c ∈ pre, e.causationId = some c.eventId ∧ c.eventType = t) ∧
    WellFounded log.RequiredCauseOf ∧
    (∀ e causationId, requiredCause e.eventType = none →
      ((log.append { e with causationId := causationId }).1 = .ok () ↔
        (log.append e).1 = .ok ())) := by
  refine ⟨?_, ?_, ?_⟩
  · intro pre e post hsplit t ht
    obtain ⟨c, hc, hcause⟩ := h.inv.caused pre e post hsplit t ht
    exact ⟨c, hc, hcause.named, hcause.type⟩
  · exact wellFounded_of_splits (List.Nodup.of_map _ h.inv.idsDistinct) fun _ _ => h.inv.earlier
  · intro e causationId hnone
    rw [append_ok_iff, append_ok_iff]
    exact accepts_any_causation hnone causationId

theorem required_causes_wellFounded_governedLog : WellFounded governedLog.RequiredCauseOf :=
  (required_causes_wellFounded (show governedLog.Reachable from reachable_iff.mpr rfl)).2.1

/-- A created task may name itself as its cause. -/
theorem causation_self_reference : ¬ ∀ log : InMemoryEventLog, log.Reachable →
    ∀ pre e post, log.events = pre ++ e :: post → ∀ id, e.causationId = some id →
      ∃ c ∈ pre, c.eventId = id := by
  intro h
  have hreach : (ofEvents [{ testEvent .taskCreated 1 10 with causationId := some 1 }]).Reachable :=
    reachable_iff.mpr rfl
  obtain ⟨c, hc, _⟩ := h _ hreach [] { testEvent .taskCreated 1 10 with causationId := some 1 } []
    rfl 1 rfl
  cases hc

end QTom.Loom.InMemoryEventLog
