import Mathlib.Data.Finset.Insert
import QTom.Loom.Event

/- The in-memory event log (`InMemoryEventLog`): append, replay from a cursor,
   and the states any sequence of appends reaches.

   `append` is the source's `&mut self` method: it returns its result beside the
   log it leaves. `Accepts log e` is what `append` checks, in the order of the
   source; `append_cases` says once what an append can do, and every fact about
   runs below is read off it. A reachable log is exactly one whose events append
   in order to the empty log (`reachable_iff`), so an event's checks were made
   against the events before it. -/
namespace QTom.Loom
open QTom.Lib

structure ReplayCursor where
  afterEventId : Option Nat

def ReplayCursor.start : ReplayCursor := ⟨none⟩
def ReplayCursor.after (eventId : Nat) : ReplayCursor := ⟨some eventId⟩

structure InMemoryEventLog where
  events : List LoomEvent
  eventIds : Finset Nat
  deriving DecidableEq

namespace InMemoryEventLog

def new : InMemoryEventLog := ⟨[], ∅⟩

/-- The first logged event with this id. -/
def find (log : InMemoryEventLog) (eventId : Nat) : Option LoomEvent :=
  log.events.find? (fun candidate => candidate.eventId == eventId)

/-- The context checks an assignment and a ready artifact make against their cause. -/
def validateCauseContext (event causationEvent : LoomEvent) : Except LoomEventError Unit :=
  if event.eventType = .taskAssigned then
    validateRouteDecisionAssignmentContext event causationEvent
  else if event.eventType = .artifactReady then
    validateArtifactReadyContext event causationEvent
  else .ok ()

def validateCausation (log : InMemoryEventLog) (event : LoomEvent) : Except LoomEventError Unit :=
  match requiredCause event.eventType with
  | none => .ok ()
  | some expectedCause =>
    match event.causationId with
    | none => .error (.missingRequiredCausation event.eventType)
    | some causationId =>
      match log.find causationId with
      | none => .error (.unknownCausationId causationId)
      | some causationEvent =>
        if causationEvent.eventType ≠ expectedCause then
          .error (.invalidCausationType event.eventType causationId expectedCause
            causationEvent.eventType)
        else validateCauseContext event causationEvent

/-- The log with one more event. -/
def push (log : InMemoryEventLog) (event : LoomEvent) : InMemoryEventLog :=
  { events := log.events ++ [event], eventIds := insert event.eventId log.eventIds }

def append (log : InMemoryEventLog) (event : LoomEvent) :
    Except LoomEventError Unit × InMemoryEventLog :=
  match event.validate with
  | .error err => (.error err, log)
  | .ok () =>
    if event.eventId ∈ log.eventIds then (.error (.duplicateEventId event.eventId), log)
    else match log.validateCausation event with
      | .error err => (.error err, log)
      | .ok () => (.ok (), log.push event)

def replay (log : InMemoryEventLog) (cursor : ReplayCursor) : List LoomEvent :=
  log.events.filter (fun event =>
    match cursor.afterEventId with
    | some afterEventId => decide (event.eventId > afterEventId)
    | none => true)

/-- `append` with its error propagated by `?`. -/
def appendOrFail (log : InMemoryEventLog) (event : LoomEvent) :
    Except LoomEventError InMemoryEventLog :=
  match log.append event with
  | (.ok (), log') => .ok log'
  | (.error err, _) => .error err

/-- Appending events to the empty log, every append successful. -/
def appendAll (events : List LoomEvent) : Except LoomEventError InMemoryEventLog :=
  events.foldlM appendOrFail new

/-- The logs any sequence of appends reaches, failing appends included. -/
def Reachable : InMemoryEventLog → Prop :=
  Reaches (fun log event => (log.append event).2) new

/-! What one append checks. -/

/-- `c` is a cause of type `t` that `append` accepts for `e`. -/
structure CauseOf (e c : LoomEvent) (t : LoomEventType) : Prop where
  type : c.eventType = t
  assigned : e.eventType = .taskAssigned → e.taskId.getD 0 = c.taskId.getD 0 ∧ SameContext e c
  ready : e.eventType = .artifactReady →
    e.taskId = c.taskId ∧ SameContext e c ∧ e.payloadRef = c.payloadRef

/-- The event's required cause is in the log and fits it. -/
def Caused (log : InMemoryEventLog) (e : LoomEvent) : Prop :=
  ∀ t, requiredCause e.eventType = some t →
    ∃ id c, e.causationId = some id ∧ log.find id = some c ∧ CauseOf e c t

structure Accepts (log : InMemoryEventLog) (e : LoomEvent) : Prop where
  valid : e.Valid
  fresh : e.eventId ∉ log.eventIds
  caused : log.Caused e

theorem validateCauseContext_ok_iff {e c : LoomEvent} :
    validateCauseContext e c = .ok () ↔ CauseOf e c c.eventType := by
  unfold validateCauseContext
  by_cases ha : e.eventType = .taskAssigned
  · rw [if_pos ha, validateRouteDecisionAssignmentContext_ok_iff]
    refine ⟨fun h => ⟨rfl, fun _ => h, fun hb => ?_⟩, fun h => h.assigned ha⟩
    rw [ha] at hb
    cases hb
  · by_cases hb : e.eventType = .artifactReady
    · rw [if_neg ha, if_pos hb, validateArtifactReadyContext_ok_iff]
      exact ⟨fun h => ⟨rfl, fun h' => absurd h' ha, fun _ => h⟩, fun h => h.ready hb⟩
    · rw [if_neg ha, if_neg hb]
      exact ⟨fun _ => ⟨rfl, fun h' => absurd h' ha, fun h' => absurd h' hb⟩, fun _ => rfl⟩

theorem validateCausation_ok_iff {log : InMemoryEventLog} {e : LoomEvent} :
    log.validateCausation e = .ok () ↔ log.Caused e := by
  unfold validateCausation Caused
  cases requiredCause e.eventType with
  | none => simp
  | some t =>
    cases e.causationId with
    | none => simp
    | some id =>
      simp only [Option.some.injEq, forall_eq', exists_and_left, exists_eq_left']
      cases log.find id with
      | none => simp
      | some c =>
        by_cases ht : c.eventType = t
        · subst ht
          simp [validateCauseContext_ok_iff]
        · simp only [ne_eq, ht, not_false_eq_true, if_true, reduceCtorEq, false_iff]
          intro ⟨c', hc, hcause⟩
          cases hc
          exact ht hcause.type

/-- What an append can do: push an accepted event, or fail and change nothing. -/
theorem append_cases (log : InMemoryEventLog) (e : LoomEvent) :
    (log.Accepts e ∧ log.append e = (.ok (), log.push e)) ∨
    (¬ log.Accepts e ∧ ∃ err, log.append e = (.error err, log)) := by
  unfold append
  -- in the source's order: the event on its own, its id, its cause
  cases hv : e.validate with
  | error err =>
    refine Or.inr ⟨fun h => ?_, err, rfl⟩
    rw [LoomEvent.validate_ok_iff.mpr h.valid] at hv
    cases hv
  | ok u =>
    by_cases hd : e.eventId ∈ log.eventIds
    · exact Or.inr ⟨fun h => h.fresh hd, .duplicateEventId e.eventId, by simp [hd]⟩
    · cases hc : log.validateCausation e with
      | error err =>
        refine Or.inr ⟨fun h => ?_, err, by simp [hd]⟩
        rw [validateCausation_ok_iff.mpr h.caused] at hc
        cases hc
      | ok u' =>
        exact Or.inl ⟨⟨LoomEvent.validate_ok_iff.mp hv, hd, validateCausation_ok_iff.mp hc⟩,
          by simp [hd]⟩

theorem append_ok {log : InMemoryEventLog} {e : LoomEvent} (h : log.Accepts e) :
    log.append e = (.ok (), log.push e) := by
  rcases append_cases log e with ⟨_, ha⟩ | ⟨hn, _⟩
  · exact ha
  · exact absurd h hn

theorem append_error {log : InMemoryEventLog} {e : LoomEvent} {err : LoomEventError}
    (h : (log.append e).1 = .error err) : (log.append e).2 = log := by
  rcases append_cases log e with ⟨_, ha⟩ | ⟨_, err', ha⟩
  · rw [ha] at h; cases h
  · rw [ha]

/-- `append` is `push` behind the guard `Accepts`. -/
theorem appendOrFail_guarded : Guarded appendOrFail Accepts push := by
  intro log e log'
  unfold appendOrFail
  rcases append_cases log e with ⟨ha, he⟩ | ⟨hn, err, he⟩
  · rw [he]
    refine ⟨fun h => ?_, fun ⟨_, h⟩ => by rw [h]⟩
    cases h
    exact ⟨ha, rfl⟩
  · rw [he]
    exact ⟨fun h => (nomatch h), fun ⟨h, _⟩ => absurd h hn⟩

/-! Runs: the log an event list builds. -/

/-- The log holding `events`, every event pushed in order. -/
def ofEvents (events : List LoomEvent) : InMemoryEventLog := events.foldl push new

theorem foldl_push_events (log : InMemoryEventLog) (events : List LoomEvent) :
    (events.foldl push log).events = log.events ++ events := by
  induction events generalizing log with
  | nil => simp
  | cons e events ih =>
    rw [List.foldl_cons, ih]
    simp [push]

@[simp] theorem ofEvents_events (events : List LoomEvent) : (ofEvents events).events = events := by
  rw [ofEvents, foldl_push_events]
  simp [new]

theorem mem_ofEvents_ids {events : List LoomEvent} {id : Nat} :
    id ∈ (ofEvents events).eventIds ↔ ∃ e ∈ events, e.eventId = id := by
  have h : ∀ (log : InMemoryEventLog), id ∈ (events.foldl push log).eventIds ↔
      id ∈ log.eventIds ∨ ∃ e ∈ events, e.eventId = id := by
    induction events with
    | nil => intro log; simp
    | cons e events ih =>
      intro log
      rw [List.foldl_cons, ih]
      simp only [push, Finset.mem_insert, List.mem_cons, exists_eq_or_imp, eq_comm (a := id)]
      tauto
  rw [ofEvents, h]
  simp [new]

theorem appendAll_ok_iff {events : List LoomEvent} {log : InMemoryEventLog} :
    appendAll events = .ok log ↔ log = ofEvents events ∧ Along Accepts push new events :=
  appendOrFail_guarded.run_iff

/-- The reachable logs are those whose events append in order to the empty log. -/
theorem reachable_iff {log : InMemoryEventLog} :
    log.Reachable ↔ appendAll log.events = .ok log := by
  refine ⟨fun h => ?_, fun h => ?_⟩
  · refine h.invariant (I := fun log => appendAll log.events = .ok log) rfl ?_
    intro log e ih
    rcases append_cases log e with ⟨ha, he⟩ | ⟨_, err, he⟩
    · rw [he]
      exact foldlM_append_ok.mpr ⟨log, ih, foldlM_cons_ok.mpr
        ⟨log.push e, (appendOrFail_guarded _ _ _).mpr ⟨ha, rfl⟩, rfl⟩⟩
    · -- a refused append leaves the log as it was
      rw [he]; exact ih
  · -- every successful append of the run is a step of the machine
    have hrun : ∀ (events : List LoomEvent) (s t : InMemoryEventLog), s.Reachable →
        events.foldlM appendOrFail s = .ok t → t.Reachable := by
      intro events
      induction events with
      | nil => intro s t hs h; cases h; exact hs
      | cons e events ih =>
        intro s t hs h
        obtain ⟨u, hu, ht⟩ := foldlM_cons_ok.mp h
        obtain ⟨ha, rfl⟩ := (appendOrFail_guarded _ _ _).mp hu
        have hnext := Reaches.next e hs
        rw [append_ok ha] at hnext
        exact ih _ t hnext ht
    exact hrun log.events new log Reaches.start h

theorem reachable_of_appendAll {events : List LoomEvent} {log : InMemoryEventLog}
    (h : appendAll events = .ok log) : log.events = events ∧ log.Reachable := by
  obtain ⟨rfl, _⟩ := appendAll_ok_iff.mp h
  refine ⟨ofEvents_events events, reachable_iff.mpr ?_⟩
  rw [ofEvents_events]
  exact h

/-- The events before any position of a reachable log build a reachable log. -/
theorem Reachable.of_append {log : InMemoryEventLog} (h : log.Reachable) {pre post : List LoomEvent}
    (hsplit : log.events = pre ++ post) : (ofEvents pre).Reachable := by
  have hrun := reachable_iff.mp h
  rw [hsplit] at hrun
  obtain ⟨_, hpre, _⟩ := foldlM_append_ok.mp hrun
  have hlog : _ = ofEvents pre := (appendAll_ok_iff.mp hpre).1
  rw [hlog] at hpre
  exact (reachable_of_appendAll hpre).2

/-- Every event of a reachable log was accepted by the log of the events before it. -/
theorem Reachable.accepts {log : InMemoryEventLog} (h : log.Reachable) {pre post : List LoomEvent}
    {e : LoomEvent} (he : log.events = pre ++ e :: post) : (ofEvents pre).Accepts e :=
  (appendAll_ok_iff.mp (reachable_iff.mp h)).2 pre e post he

end InMemoryEventLog
end QTom.Loom
