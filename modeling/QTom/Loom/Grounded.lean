import QTom.Loom.ReplayAudit

/- Event lists that log and replay: ids are distinct, and every event has what it
   needs among the events before it. Support is never lost by logging more, so a
   list is shown grounded piece by piece; any stretch of a grounded list appends to
   the log of what is before it (`Grounded.appends`), and the replay validator's
   checks on each event hold along it (`Grounded.admits`). -/
namespace QTom.Loom
open QTom.Lib InMemoryEventLog

/-- What an event needs of the events before it. -/
structure Supported (before : List LoomEvent) (e : LoomEvent) : Prop where
  valid : e.Valid
  cause : ∀ t, requiredCause e.eventType = some t → ∃ c ∈ before, NamesCause e c t
  memory : e.eventType = .memoryNodeCreated → ∃ d ∈ before, Evidences d e
  telemetry : e.eventType = .routeDecisionRecorded → validateRouteDecisionTelemetry e = .ok ()

/-- One more event. -/
def snoc (before : List LoomEvent) (e : LoomEvent) : List LoomEvent := before ++ [e]

structure Grounded (events : List LoomEvent) : Prop where
  ids : (events.map LoomEvent.eventId).Nodup
  support : Along Supported snoc [] events

/-- An event that needs no other. -/
theorem Supported.plain {before : List LoomEvent} {e : LoomEvent} (hvalid : e.Valid)
    (hcause : requiredCause e.eventType = none) (hmemory : e.eventType ≠ .memoryNodeCreated)
    (hrouted : e.eventType ≠ .routeDecisionRecorded) : Supported before e := by
  refine ⟨hvalid, ?_, fun h => absurd h hmemory, fun h => absurd h hrouted⟩
  intro t ht
  rw [hcause] at ht
  cases ht

theorem foldl_snoc (before events : List LoomEvent) : events.foldl snoc before = before ++ events := by
  induction events generalizing before with
  | nil => simp
  | cons e events ih =>
    rw [List.foldl_cons, ih]
    simp [snoc]

/-- Support for two lists in a row. -/
theorem support_append {before first second : List LoomEvent}
    (hfirst : Along Supported snoc before first)
    (hsecond : Along Supported snoc (before ++ first) second) :
    Along Supported snoc before (first ++ second) := by
  induction first generalizing before with
  | nil =>
    rw [List.append_nil] at hsecond
    exact hsecond
  | cons e first ih =>
    obtain ⟨he, hrest⟩ := Along.cons_iff.mp hfirst
    refine Along.cons_iff.mpr ⟨he, ih hrest ?_⟩
    unfold snoc
    rw [List.append_assoc]
    exact hsecond

/-! What a grounded list passes. -/

theorem Supported.caused {before : List LoomEvent} {e : LoomEvent} (h : Supported before e)
    (hn : (before.map LoomEvent.eventId).Nodup) : (ofEvents before).Caused e := by
  intro t ht
  obtain ⟨c, hc, hcause⟩ := h.cause t ht
  have hfind : (ofEvents before).find c.eventId = some c := by
    apply find_of_mem
    · rw [ofEvents_events]
      exact hn
    · rw [ofEvents_events]
      exact hc
  refine ⟨c.eventId, c, hcause.named, hfind, hcause.type, ?_, hcause.ready⟩
  intro ha
  obtain ⟨htask, hcontext⟩ := hcause.assigned ha
  exact ⟨by rw [htask], hcontext⟩

namespace Grounded
variable {events : List LoomEvent}

theorem supported (h : Grounded events) {before after : List LoomEvent} {e : LoomEvent}
    (hsplit : events = before ++ e :: after) : Supported before e := by
  have he := h.support before e after hsplit
  rw [foldl_snoc, List.nil_append] at he
  exact he

theorem accepts (h : Grounded events) {before after : List LoomEvent} {e : LoomEvent}
    (hsplit : events = before ++ e :: after) : (ofEvents before).Accepts e := by
  have hn := h.ids
  rw [hsplit, List.map_append, List.map_cons, List.nodup_append] at hn
  refine ⟨(h.supported hsplit).valid, ?_, (h.supported hsplit).caused hn.1⟩
  intro hmem
  obtain ⟨c, hc, hid⟩ := mem_ofEvents_ids.mp hmem
  exact hn.2.2 _ (List.mem_map_of_mem hc) _ List.mem_cons_self hid

/-- A stretch of a grounded list appends to the log of what is before it. -/
theorem appends (h : Grounded events) {before mid after : List LoomEvent}
    (hsplit : events = before ++ mid ++ after) :
    mid.foldlM appendOrFail (ofEvents before) = .ok (ofEvents (before ++ mid)) := by
  refine appendOrFail_guarded.run_iff.mpr ⟨?_, ?_⟩
  · rw [ofEvents, ofEvents, List.foldl_append]
  · intro pre e post hmid
    have hwhole : events = (before ++ pre) ++ e :: (post ++ after) := by
      rw [hsplit, hmid]
      simp
    have haccepts := h.accepts hwhole
    rw [ofEvents, List.foldl_append] at haccepts
    exact haccepts

theorem reachable (h : Grounded events) : (ofEvents events).Reachable := by
  have hwhole : events = [] ++ events ++ [] := by simp
  have hrun : appendAll events = .ok (ofEvents events) := h.appends hwhole
  exact (reachable_of_appendAll hrun).2

theorem admits (h : Grounded events) {before after : List LoomEvent} {e : LoomEvent}
    (hsplit : events = before ++ e :: after) : Admits (ofEvents before) e := by
  refine ⟨(checked_iff (h.accepts hsplit)).mpr ⟨(h.supported hsplit).telemetry, ?_⟩,
    h.accepts hsplit⟩
  intro hmemory
  obtain ⟨d, hd, hevidence⟩ := (h.supported hsplit).memory hmemory
  have hbefore : (ofEvents before).Reachable :=
    h.reachable.of_append (by rw [ofEvents_events]; exact hsplit)
  exact memory_checked_of_evidence hbefore.inv (by rw [ofEvents_events]; exact hd) hevidence

end Grounded
end QTom.Loom
