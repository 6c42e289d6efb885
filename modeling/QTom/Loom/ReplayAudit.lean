import QTom.Loom.ReplaySpec

/- What a validated replay guarantees, and what it refuses.

   Accepted lists have full lineage and exact counts (`replay_lineage`), and the
   validator agrees with the online checks of `append` up to the evidence only it
   looks for (`replay_agrees_with_append`). The indexes keep one event a task, so
   two laws hold only while nothing overwrites the event they need: the completion
   audit (`completion_audit_iff`) and the acceptance of every list that carries its
   evidence (`evidenced_accepted_iff`). -/
namespace QTom.Loom
open QTom.Lib InMemoryEventLog ReplayState

/-! The pre-checks on a log that accepts the event. -/

/-- An accepted assignment passes its pre-check. -/
theorem assignment_checked {log : InMemoryEventLog} {e : LoomEvent} (h : log.Accepts e)
    (ht : e.eventType = .taskAssigned) : validateAssignmentRouteDecision e log = .ok () := by
  obtain ⟨id, c, hid, hf, hcause⟩ := h.caused .routeDecisionRecorded (by rw [ht]; rfl)
  unfold validateAssignmentRouteDecision
  rw [hid]
  simp only [hf]
  exact validateRouteDecisionAssignmentContext_ok_iff.mpr (hcause.assigned ht)

/-- An accepted ready artifact passes its pre-check. -/
theorem artifactReady_checked {log : InMemoryEventLog} {e : LoomEvent} (h : log.Accepts e)
    (ht : e.eventType = .artifactReady) : validateArtifactReady e log = .ok () := by
  obtain ⟨id, c, hid, hf, hcause⟩ := h.caused .artifactDeclared (by rw [ht]; rfl)
  unfold validateArtifactReady
  rw [hid]
  simp only [hf, hcause.type, ne_eq, not_true_eq_false, if_false]
  exact validateArtifactReadyContext_ok_iff.mpr (hcause.ready ht)

theorem validateRouteDecisionTelemetry_ok_iff {e : LoomEvent} :
    validateRouteDecisionTelemetry e = .ok () ↔
      e.payloadSchema = "qtom.route_decision.v1" ∧
      startsWith e.payloadRef "inline://route-decision/" = true := by
  unfold validateRouteDecisionTelemetry
  by_cases hs : e.payloadSchema = "qtom.route_decision.v1"
  · by_cases hr : startsWith e.payloadRef "inline://route-decision/" = true <;> simp [hs, hr]
  · simp [hs]

/-- `d` is the decommission evidence the memory event `m` names. -/
structure Evidences (d m : LoomEvent) : Prop where
  type : d.eventType = .agentDecommissioned
  named : m.causationId = some d.eventId
  task : m.taskId = d.taskId
  context : SameContext m d

theorem memory_checked {log : InMemoryEventLog} {e : LoomEvent}
    (h : validateMemoryEvidence e log = .ok ()) : ∃ d ∈ log.events, Evidences d e := by
  unfold validateMemoryEvidence at h
  cases hc : e.causationId with
  | none => simp [hc] at h
  | some id =>
    simp only [hc] at h
    split at h
    · cases h
    · next d hf =>
      have hd := List.find?_some hf
      simp only [Bool.and_eq_true, beq_iff_eq] at hd
      obtain ⟨htask, hctx⟩ := validateMemoryEvidenceContext_ok_iff.mp h
      exact ⟨d, List.mem_of_find?_eq_some hf, hd.2, by rw [hc, hd.1], htask, hctx⟩

/-- Ids are distinct, so the look-up by id and type finds the evidence itself. -/
theorem memory_checked_of_evidence {log : InMemoryEventLog} {e d : LoomEvent} (hinv : log.Inv)
    (hd : d ∈ log.events) (h : Evidences d e) : validateMemoryEvidence e log = .ok () := by
  unfold validateMemoryEvidence
  simp only [h.named]
  split
  · next hf =>
    have hne := List.find?_eq_none.mp hf d hd
    simp [h.type] at hne
  · next d' hf =>
    have hd' := List.find?_some hf
    simp only [Bool.and_eq_true, beq_iff_eq] at hd'
    obtain rfl := hinv.eq_of_id (List.mem_of_find?_eq_some hf) hd hd'.1
    exact validateMemoryEvidenceContext_ok_iff.mpr ⟨h.task, h.context⟩

/-- The pre-checks that add to an append: the telemetry of a route decision and
the evidence of a memory node. -/
theorem checked_iff {log : InMemoryEventLog} {e : LoomEvent} (h : log.Accepts e) :
    validateBeforeAppend e log = .ok () ↔
      (e.eventType = .routeDecisionRecorded → validateRouteDecisionTelemetry e = .ok ()) ∧
      (e.eventType = .memoryNodeCreated → validateMemoryEvidence e log = .ok ()) := by
  unfold validateBeforeAppend
  cases ht : e.eventType <;> simp
  · exact assignment_checked h ht
  · exact artifactReady_checked h ht

/-! Lineage soundness. -/

theorem lastEvent_mem {type : LoomEventType} {t : Nat} {events : List LoomEvent} {e : LoomEvent}
    (h : lastEvent type t events = some e) :
    e ∈ events ∧ e.eventType = type ∧ e.taskId = some t := by
  obtain ⟨hmem, hkey⟩ := lastOf_mem h
  unfold taskKey at hkey
  split at hkey
  · next ht => exact ⟨hmem, ht, hkey⟩
  · cases hkey

theorem lastEvent_of_mem {type : LoomEventType} {t : Nat} {events : List LoomEvent} {e : LoomEvent}
    (he : e ∈ events) (ht : e.eventType = type) (hk : e.taskId = some t) :
    ∃ last, lastEvent type t events = some last :=
  lastOf_isSome he (by simp [taskKey, ht, hk])

/-- A completion carries its task id. -/
theorem completed_taskId {events : List LoomEvent} (h : Passes events) {c : LoomEvent}
    (hc : c ∈ events) (ht : c.eventType = .taskCompleted) : ∃ t, c.taskId = some t := by
  obtain ⟨pre, post, hsplit⟩ := List.append_of_mem hc
  exact Option.isSome_iff_exists.mp
    ((h.admits pre c post hsplit).accepted.valid.task (by rw [ht]; rfl))

/-- Lineage: what a list accepted by the validator holds, and the report's counts. -/
theorem replay_lineage {events : List LoomEvent} {report : ReplayValidationReport}
    (h : validateEvents events = .ok report) :
    (∀ pre m post, events = pre ++ m :: post → m.eventType = .memoryNodeCreated →
      ∃ d ∈ pre, Evidences d m) ∧
    (∀ e ∈ events, e.eventType = .routeDecisionRecorded →
      e.payloadSchema = "qtom.route_decision.v1" ∧
      startsWith e.payloadRef "inline://route-decision/" = true) ∧
    (∀ child ∈ events, child.eventType = .taskCreated → ∀ p, child.parentTaskId = some p →
      ∃ i ∈ events, i.eventType = .integrationRequested ∧ i.taskId = some p ∧
        SameContext child i) ∧
    (∀ c ∈ events, c.eventType = .taskCompleted → ∃ t, c.taskId = some t ∧
      ∃ d ∈ events, d.eventType = .agentDecommissioned ∧ d.taskId = some t) ∧
    report = exactReport events := by
  obtain ⟨hp, hreport⟩ := validateEvents_ok_iff.mp h
  refine ⟨?_, ?_, ?_, ?_, hreport⟩
  · intro pre m post hsplit ht
    have hadm := hp.admits pre m post hsplit
    obtain ⟨d, hd, hev⟩ := memory_checked (((checked_iff hadm.accepted).mp hadm.checked).2 ht)
    rw [ofEvents_events] at hd
    exact ⟨d, hd, hev⟩
  · intro e he ht
    obtain ⟨pre, post, hsplit⟩ := List.append_of_mem he
    have hadm := hp.admits pre e post hsplit
    exact validateRouteDecisionTelemetry_ok_iff.mp
      (((checked_iff hadm.accepted).mp hadm.checked).1 ht)
  · intro child hc ht p hparent
    -- the index's entry is an event of the list
    obtain ⟨i, hlast, hctx⟩ := hp.integrated child hc ht p hparent
    obtain ⟨hi, hit, hik⟩ := lastEvent_mem hlast
    exact ⟨i, hi, hit, hik, hctx⟩
  · intro c hc ht
    obtain ⟨t, hk⟩ := completed_taskId hp hc ht
    obtain ⟨last, hlast⟩ := lastEvent_of_mem hc ht hk
    obtain ⟨d, hd, _⟩ := hp.decommissioned t last hlast
    obtain ⟨hmem, hdt, hdk⟩ := lastEvent_mem hd
    exact ⟨t, hk, d, hmem, hdt, hdk⟩

/-- The lifecycle of one task, from its creation to the memory it leaves. -/
def taskLifecycle : List LoomEvent :=
  [testEvent .taskCreated 1 10,
   { testEvent .routeDecisionRecorded 2 10 with
     payloadSchema := "qtom.route_decision.v1", payloadRef := "inline://route-decision/2" },
   { testEvent .taskAssigned 3 10 with causationId := some 2 },
   testEvent .taskCompleted 4 10,
   testEvent .agentDecommissioned 5 10,
   { testEvent .memoryNodeCreated 6 10 with causationId := some 5 }]

theorem taskLifecycle_lineage : ∃ d ∈ taskLifecycle.take 5,
    Evidences d { testEvent .memoryNodeCreated 6 10 with causationId := some 5 } :=
  (replay_lineage
    (show validateEvents taskLifecycle = .ok (exactReport taskLifecycle) from rfl)).1
    (taskLifecycle.take 5) _ [] rfl rfl

/-! The completion audit. -/

/-- `c` has a decommission of its task under its root and correlation. -/
def Audited (events : List LoomEvent) (c : LoomEvent) : Prop :=
  ∃ d ∈ events, d.eventType = .agentDecommissioned ∧ d.taskId = c.taskId ∧ SameContext c d

instance (events : List LoomEvent) (c : LoomEvent) : Decidable (Audited events c) :=
  inferInstanceAs (Decidable (∃ d ∈ events, _))

/-- Every completion is audited. -/
def CompletionAudit (events : List LoomEvent) : Prop :=
  ∀ c ∈ events, c.eventType = .taskCompleted → Audited events c

instance (events : List LoomEvent) : Decidable (CompletionAudit events) :=
  inferInstanceAs (Decidable (∀ c ∈ events, _))

/-- A completion that a later completion of its task overwrites under another
root or correlation has a decommission of its own. -/
def OverwrittenAudited (events : List LoomEvent) : Prop :=
  ∀ c ∈ events, c.eventType = .taskCompleted → ∀ t last, c.taskId = some t →
    lastEvent .taskCompleted t events = some last → ¬ SameContext c last → Audited events c

theorem SameContext.trans {a b c : LoomEvent} (hab : SameContext a b) (hbc : SameContext b c) :
    SameContext a c :=
  ⟨hab.1.trans hbc.1, hab.2.trans hbc.2⟩

/-- On an accepted list the audit holds exactly when the overwritten completions
that disagree with the last one of their task are audited. -/
theorem completion_audit_iff {events : List LoomEvent} {report : ReplayValidationReport}
    (h : validateEvents events = .ok report) :
    CompletionAudit events ↔ OverwrittenAudited events := by
  obtain ⟨hp, _⟩ := validateEvents_ok_iff.mp h
  refine ⟨fun haudit c hc ht _ _ _ _ _ => haudit c hc ht, fun hover c hc ht => ?_⟩
  obtain ⟨t, hk⟩ := completed_taskId hp hc ht
  obtain ⟨last, hlast⟩ := lastEvent_of_mem hc ht hk
  by_cases hctx : SameContext c last
  · -- the index compared the last completion with the last decommission
    obtain ⟨d, hd, hctx'⟩ := hp.decommissioned t last hlast
    obtain ⟨hmem, hdt, hdk⟩ := lastEvent_mem hd
    exact ⟨d, hmem, hdt, by rw [hdk, hk], hctx.trans hctx'⟩
  · exact hover c hc ht t last hk hlast hctx

/-- Task 10 completes under root 1, then again under root 2, and is decommissioned
under root 2. -/
def completedTwice : List LoomEvent :=
  [testEvent .taskCompleted 1 10,
   { testEvent .taskCompleted 2 10 with rootTaskId := 2 },
   { testEvent .agentDecommissioned 3 10 with rootTaskId := 2 }]

theorem completion_audit_iff_completedTwice :
    CompletionAudit completedTwice ↔ OverwrittenAudited completedTwice :=
  completion_audit_iff
    (show validateEvents completedTwice = .ok (exactReport completedTwice) from rfl)

/-- The completion under root 1 is accepted without any decommission under root 1. -/
theorem overwritten_completion_unaudited :
    ¬ ∀ events report, validateEvents events = .ok report → CompletionAudit events := by
  intro h
  have haudit := h completedTwice (exactReport completedTwice) rfl
  revert haudit
  decide

/-! Lists that carry their evidence. -/

/-- The list appends in order and holds, somewhere, all the evidence replay asks for. -/
structure Evidenced (events : List LoomEvent) : Prop where
  appends : ∃ log, appendAll events = .ok log
  telemetry : ∀ e ∈ events, e.eventType = .routeDecisionRecorded →
    e.payloadSchema = "qtom.route_decision.v1" ∧
    startsWith e.payloadRef "inline://route-decision/" = true
  memory : ∀ pre m post, events = pre ++ m :: post → m.eventType = .memoryNodeCreated →
    ∃ d ∈ pre, Evidences d m
  integrated : ∀ child ∈ events, child.eventType = .taskCreated →
    ∀ p, child.parentTaskId = some p →
      ∃ i ∈ events, i.eventType = .integrationRequested ∧ i.taskId = some p ∧ SameContext child i
  audited : CompletionAudit events

/-- The evidence the indexes keep is the evidence that fits: the last integration
request of a parent fits its children, the last decommission of a task its last
completion. -/
structure LastEvidenceFits (events : List LoomEvent) : Prop where
  integration : ∀ child ∈ events, child.eventType = .taskCreated →
    ∀ p i, child.parentTaskId = some p →
      lastEvent .integrationRequested p events = some i → SameContext child i
  decommission : ∀ t c d, lastEvent .taskCompleted t events = some c →
    lastEvent .agentDecommissioned t events = some d → SameContext c d

theorem Evidenced.admits {events : List LoomEvent} (h : Evidenced events) {pre post : List LoomEvent}
    {e : LoomEvent} (hsplit : events = pre ++ e :: post) : Admits (ofEvents pre) e := by
  obtain ⟨log, hrun⟩ := h.appends
  obtain ⟨hevents, hreach⟩ := reachable_of_appendAll hrun
  have hlog : log.events = pre ++ e :: post := by rw [hevents, hsplit]
  have hacc := hreach.accepts hlog
  refine ⟨(checked_iff hacc).mpr ⟨fun ht => ?_, fun ht => ?_⟩, hacc⟩
  · exact validateRouteDecisionTelemetry_ok_iff.mpr (h.telemetry e (by rw [hsplit]; simp) ht)
  · obtain ⟨d, hd, hev⟩ := h.memory pre e post hsplit ht
    have hd' : d ∈ (ofEvents pre).events := by rw [ofEvents_events]; exact hd
    exact memory_checked_of_evidence (hreach.of_append hlog).inv hd' hev

/-- A list that carries its evidence is accepted exactly when the evidence kept
in the indexes is the evidence that fits. -/
theorem evidenced_accepted_iff {events : List LoomEvent} (h : Evidenced events) :
    (∃ report, validateEvents events = .ok report) ↔ LastEvidenceFits events := by
  refine ⟨fun ⟨report, hrep⟩ => ?_, fun hfits => ?_⟩
  · obtain ⟨hp, _⟩ := validateEvents_ok_iff.mp hrep
    refine ⟨?_, ?_⟩
    · intro child hc ht p i hparent hlast
      obtain ⟨i', hlast', hctx⟩ := hp.integrated child hc ht p hparent
      rw [hlast] at hlast'
      cases hlast'
      exact hctx
    · intro t c d hc hd
      obtain ⟨d', hd', hctx⟩ := hp.decommissioned t c hc
      rw [hd] at hd'
      cases hd'
      exact hctx
  · refine ⟨exactReport events, validateEvents_ok_iff.mpr ⟨⟨?_, ?_, ?_⟩, rfl⟩⟩
    · intro pre e post hsplit
      exact h.admits hsplit
    · intro child hc ht p hparent
      -- some request exists, so the index has one; that the last one fits is the condition
      obtain ⟨i, hi, hit, hik, _⟩ := h.integrated child hc ht p hparent
      obtain ⟨last, hlast⟩ := lastEvent_of_mem hi hit hik
      exact ⟨last, hlast, hfits.integration child hc ht p last hparent hlast⟩
    · intro t c hc
      obtain ⟨hmem, hct, hck⟩ := lastEvent_mem hc
      obtain ⟨d, hd, hdt, hdk, _⟩ := h.audited c hmem hct
      obtain ⟨last, hlast⟩ := lastEvent_of_mem hd hdt (hdk.trans hck)
      exact ⟨last, hlast, hfits.decommission t c last hc hlast⟩

/-- A child task with its integration request, and a later request for the same
parent under another root. -/
def integratedTwice : List LoomEvent :=
  [testEvent .taskCreated 1 10,
   { testEvent .taskCreated 2 11 with parentTaskId := some 10 },
   testEvent .integrationRequested 3 10,
   { testEvent .integrationRequested 4 10 with rootTaskId := 2 }]

theorem integratedTwice_evidenced : Evidenced integratedTwice where
  appends := ⟨ofEvents integratedTwice, rfl⟩
  telemetry := by decide
  memory := by
    intro pre m post hsplit ht
    have hno : ∀ e ∈ integratedTwice, e.eventType ≠ .memoryNodeCreated := by decide
    exact absurd ht (hno m (by rw [hsplit]; simp))
  integrated := by
    intro child hc _ p hp
    refine ⟨testEvent .integrationRequested 3 10, by decide, rfl, ?_, ?_⟩
    · have hparent : ∀ e ∈ integratedTwice, e.parentTaskId = none ∨ e.parentTaskId = some 10 := by
        decide
      rcases hparent child hc with h | h
      · rw [h] at hp; cases hp
      · rw [h] at hp; exact hp
    · have hctx : ∀ e ∈ integratedTwice, e.parentTaskId.isSome = true →
          SameContext e (testEvent .integrationRequested 3 10) := by decide
      exact hctx child hc (by rw [hp]; rfl)
  audited := by decide

theorem evidenced_accepted_iff_integratedTwice :
    (∃ report, validateEvents integratedTwice = .ok report) ↔ LastEvidenceFits integratedTwice :=
  evidenced_accepted_iff integratedTwice_evidenced

/-- The later request overwrites the one that fits, and the list is refused. -/
theorem overwritten_integration_refused :
    ¬ ∀ events, Evidenced events → ∃ report, validateEvents events = .ok report := by
  intro h
  obtain ⟨report, hrep⟩ := h integratedTwice integratedTwice_evidenced
  have herr : validateEvents integratedTwice =
      .error (.mismatchedTaskIntegration 11 4 "root_task_id") := by decide
  rw [herr] at hrep
  cases hrep

/-! The validator and the online checks. -/

/-- The errors of the evidence only the validator looks for. -/
def isEvidenceError : LoomEventError → Bool
  | .missingTaskIntegration _ | .mismatchedTaskIntegration _ _ _
  | .missingTaskDecommission _ | .mismatchedTaskDecommission _ _ _
  | .invalidRouteDecisionTelemetry _ _
  | .missingMemoryEvidence _ | .mismatchedMemoryEvidence _ _ _ => true
  | _ => false

theorem checkFields_isEvidenceError {mismatch : String → LoomEventError}
    {fields : List (String × Bool)} {err : LoomEventError}
    (h : checkFields mismatch fields = .error err)
    (hm : ∀ field, isEvidenceError (mismatch field) = true) : isEvidenceError err = true := by
  obtain ⟨field, _, rfl⟩ := checkFields_error h
  exact hm field

theorem validateMemoryEvidence_error {e : LoomEvent} {log : InMemoryEventLog} {err : LoomEventError}
    (h : validateMemoryEvidence e log = .error err) : isEvidenceError err = true := by
  unfold validateMemoryEvidence at h
  split at h
  · cases h; rfl
  · split at h
    · cases h; rfl
    · exact checkFields_isEvidenceError h (fun _ => rfl)

theorem validateRouteDecisionTelemetry_error {e : LoomEvent} {err : LoomEventError}
    (h : validateRouteDecisionTelemetry e = .error err) : isEvidenceError err = true := by
  unfold validateRouteDecisionTelemetry at h
  split at h
  · cases h; rfl
  · split at h
    · cases h; rfl
    · cases h

/-- On an accepted event a failing pre-check is one of the two only replay makes. -/
theorem validateBeforeAppend_error {e : LoomEvent} {log : InMemoryEventLog} {err : LoomEventError}
    (hacc : log.Accepts e) (h : validateBeforeAppend e log = .error err) :
    isEvidenceError err = true := by
  unfold validateBeforeAppend at h
  split at h
  · next ht => rw [assignment_checked hacc ht] at h; cases h
  · exact validateMemoryEvidence_error h
  · exact validateRouteDecisionTelemetry_error h
  · next ht => rw [artifactReady_checked hacc ht] at h; cases h
  · cases h

theorem validateLifecycles_error {s : ReplayState} {err : LoomEventError}
    (h : s.validateLifecycles = .error err) : isEvidenceError err = true := by
  unfold validateLifecycles at h
  -- pass by pass, each with an error of its own
  rcases bind_error h with h | ⟨_, _, h⟩
  · unfold validateTaskIntegration at h
    split at h
    · cases h; rfl
    · cases h
  rcases bind_error h with h | ⟨_, _, h⟩
  · obtain ⟨child, _, h⟩ := forM_error h
    split at h
    · cases h
    · split at h
      · cases h
      · exact checkFields_isEvidenceError h (fun _ => rfl)
  rcases bind_error h with h | ⟨_, _, h⟩
  · unfold validateTaskDecommission at h
    split at h
    · cases h; rfl
    · cases h
  · obtain ⟨t, _, h⟩ := forM_error h
    split at h
    · cases h
    · split at h
      · cases h
      · exact checkFields_isEvidenceError h (fun _ => rfl)

/-- Every list the validator accepts appends in order, and the validator refuses a
reachable log only for evidence the appends do not check. -/
theorem replay_agrees_with_append :
    (∀ events report, validateEvents events = .ok report → ∃ log, appendAll events = .ok log) ∧
    (∀ log : InMemoryEventLog, log.Reachable → (∃ report, log.validateReplay = .ok report) ∨
      ∃ err, log.validateReplay = .error err ∧ isEvidenceError err = true) := by
  refine ⟨fun events report h => ?_, fun log hreach => ?_⟩
  · obtain ⟨hp, _⟩ := validateEvents_ok_iff.mp h
    refine ⟨ofEvents events, appendAll_ok_iff.mpr ⟨rfl, fun pre e post hsplit => ?_⟩⟩
    exact (hp.admits pre e post hsplit).accepted
  · cases h : log.validateReplay with
    | ok report => exact Or.inl ⟨report, rfl⟩
    | error err =>
      refine Or.inr ⟨err, rfl, ?_⟩
      rcases bind_error h with h | ⟨_, _, h⟩
      · obtain ⟨pre, e, post, s, hsplit, hpre, hstep⟩ := foldlM_error h
        obtain ⟨rfl, _⟩ := loop_run_iff.mp hpre
        have hacc := hreach.accepts hsplit
        rw [← loop_replayLog] at hacc
        rcases bind_error hstep with hcheck | ⟨_, _, hstep⟩
        · exact validateBeforeAppend_error hacc hcheck
        · -- the shadow log is the log of the events before `e`, which accepts it
          rw [(appendOrFail_guarded _ _ _).mpr ⟨hacc, rfl⟩] at hstep
          cases hstep
      · rcases bind_error h with h | ⟨_, _, h⟩
        · exact validateLifecycles_error h
        · cases h

end QTom.Loom
