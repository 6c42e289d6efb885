import Mathlib.Data.Finset.Dedup
import QTom.Loom.Projection

/- Whether a log has one projection.

   The task dependency projection writes the integration parents in the order in
   which their set yields them. Each parent's block begins with the node line of
   that parent, so the text can be read back to the order (`projection_eq_iff`), and
   replays of one log agree in every order exactly when there is at most one parent
   (`projection_stable_iff`). -/
namespace QTom.Loom
open QTom.Lib InMemoryEventLog

/-- The blocks of the parents determine their order. -/
theorem blocks_injective {children : AList fun _ : Nat => List Nat} {first second : List Nat}
    (h : flowchartBody (first.flatMap (integrationLinesOf children)) =
      flowchartBody (second.flatMap (integrationLinesOf children))) : first = second := by
  induction first generalizing second with
  | nil =>
    cases second with
    | nil => rfl
    | cons q second =>
      rw [List.flatMap_cons, integrationLinesOf, List.cons_append, flowchartBody_cons] at h
      exact absurd (List.append_eq_nil_iff.mp h.symm).1 (node_text_ne_nil _ _)
  | cons p first ih =>
    cases second with
    | nil =>
      rw [List.flatMap_cons, integrationLinesOf, List.cons_append, flowchartBody_cons] at h
      exact absurd (List.append_eq_nil_iff.mp h).1 (node_text_ne_nil _ _)
    | cons q second =>
      have hplain : PlainKind "integration" := by decide
      have hheads := h
      rw [List.flatMap_cons, List.flatMap_cons, integrationLinesOf, integrationLinesOf,
        List.cons_append, List.cons_append, flowchartBody_cons, flowchartBody_cons] at hheads
      -- the first node line names the first parent
      have hnode : integrationNode p = integrationNode q := node_text_inj hplain hplain hheads
      have hpq : p = q := congrArg FlowNode.id hnode
      subst hpq
      rw [List.flatMap_cons, List.flatMap_cons, flowchartBody_append, flowchartBody_append,
        List.append_cancel_left_eq] at h
      rw [ih h]

/-- Two orders give the same text only if they are the same. -/
theorem projection_eq_iff {log : InMemoryEventLog} {first second : List Nat} :
    taskDependencyProjection log first = taskDependencyProjection log second ↔ first = second := by
  refine ⟨?_, ?_⟩
  · intro h
    exact blocks_injective (flowchart_append_inj h)
  · intro h
    rw [h]

/-- A set has one iteration order exactly when it has at most one entry. -/
theorem one_order_iff {ids : Finset Nat} :
    (∀ first second, IterationOrder ids first → IterationOrder ids second → first = second) ↔
      ids.card ≤ 1 := by
  have hlist : IterationOrder ids ids.toList := ⟨ids.nodup_toList, fun id => ids.mem_toList⟩
  refine ⟨?_, ?_⟩
  · intro h
    rw [← ids.length_toList]
    cases horder : ids.toList with
    | nil => simp
    | cons p rest =>
      cases rest with
      | nil => simp
      | cons q rest =>
        -- the first two entries may come the other way round
        rw [horder] at hlist
        have hnodup : (p :: q :: rest).Nodup := hlist.nodup
        have hswap : (q :: p :: rest).Perm (p :: q :: rest) := List.Perm.swap p q rest
        have hother : IterationOrder ids (q :: p :: rest) :=
          ⟨hswap.nodup_iff.mpr hnodup, fun id => hswap.mem_iff.trans (hlist.mem id)⟩
        have hsame := h _ _ hlist hother
        rw [List.cons.injEq] at hsame
        simp [hsame.1] at hnodup
  · intro hcard first second hfirst hsecond
    have hperm : first.Perm second :=
      (List.perm_ext_iff_of_nodup hfirst.nodup hsecond.nodup).mpr
        fun id => (hfirst.mem id).trans (hsecond.mem id).symm
    have hids : ids = first.toFinset := by
      ext id
      rw [List.mem_toFinset, hfirst.mem]
    have hlength : first.length ≤ 1 := by
      rw [← List.toFinset_card_of_nodup hfirst.nodup, ← hids]
      exact hcard
    cases first with
    | nil => exact hperm.nil_eq
    | cons p rest =>
      have hrest : rest = [] := by simpa using hlength
      subst hrest
      exact hperm.singleton_eq

/-- A log has one projection, and one replay report, exactly when its integration
requests name at most one task. -/
theorem projection_stable_iff (log : InMemoryEventLog) :
    (∀ first second, IterationOrder (integrationParentIds log) first →
      IterationOrder (integrationParentIds log) second →
      taskDependencyProjection log first = taskDependencyProjection log second ∧
      loomReplayReport log first = loomReplayReport log second) ↔
      (integrationParentIds log).card ≤ 1 := by
  rw [← one_order_iff]
  refine ⟨?_, ?_⟩
  · intro h first second hfirst hsecond
    exact projection_eq_iff.mp (h first second hfirst hsecond).1
  · intro h first second hfirst hsecond
    rw [h first second hfirst hsecond]
    exact ⟨rfl, rfl⟩

/-- A log with integration requests for two tasks. -/
def twoIntegrations : InMemoryEventLog :=
  ofEvents [testEvent .integrationRequested 1 10, testEvent .integrationRequested 2 11]

theorem twoIntegrations_order {order : List Nat} (h : order = [10, 11] ∨ order = [11, 10]) :
    IterationOrder (integrationParentIds twoIntegrations) order := by
  have hids : integrationParentIds twoIntegrations = {10, 11} := rfl
  rw [hids]
  rcases h with rfl | rfl
  · exact ⟨by decide, fun id => by simp⟩
  · exact ⟨by decide, fun id => by simp [or_comm]⟩

/-- Two replays of this log may show its integrations in either order. -/
theorem integrations_shown_in_either_order :
    ¬ ∀ log : InMemoryEventLog, log.Reachable →
      ∀ first second, IterationOrder (integrationParentIds log) first →
        IterationOrder (integrationParentIds log) second →
        taskDependencyProjection log first = taskDependencyProjection log second := by
  intro h
  have heq := projection_eq_iff.mp (h twoIntegrations (reachable_iff.mpr rfl) [10, 11] [11, 10]
    (twoIntegrations_order (Or.inl rfl)) (twoIntegrations_order (Or.inr rfl)))
  revert heq
  decide

end QTom.Loom
