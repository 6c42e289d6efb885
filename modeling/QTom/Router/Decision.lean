import QTom.Loom.ModelError
import QTom.Router.Score

/- The route decision recorded for a task (`loom_route.rs`). -/
namespace QTom.Router
open QTom.Loom
variable {F : Type} [F32 F]

structure RouteDecision (F : Type) where
  routeDecisionId : Nat
  taskId : Nat
  routePolicyId : Nat
  routeBackend : String
  policyVersion : String
  selectedAgentId : Nat
  availableCandidateIds : List Nat
  observedCandidateIds : List Nat
  idealCandidateUnavailable : Bool
  substituteDistanceDelta : F
  usedFallback : Bool
  deriving DecidableEq, Repr

def RouteDecision.fromResult (routeDecisionId routePolicyId : Nat)
    (routeBackend policyVersion : String) (result : RoutingResult F) :
    Except LoomModelError (RouteDecision F) :=
  match result.availableCandidates.head? with
  | none => .error (.missingRouteCandidate result.taskId)
  | some selected =>
    let observedCandidates := (result.debug.map RouteDebugInfo.observedCandidates).getD []
    let observedIdeal := observedCandidates.head?
    .ok {
      routeDecisionId
      taskId := result.taskId
      routePolicyId, routeBackend, policyVersion
      selectedAgentId := selected.agentId
      availableCandidateIds := result.availableCandidates.map RouteCandidate.agentId
      observedCandidateIds := observedCandidates.map RouteCandidate.agentId
      idealCandidateUnavailable := result.idealCandidateUnavailable
      substituteDistanceDelta := (observedIdeal.map fun ideal =>
        F32.sub selected.baseDistance ideal.baseDistance).getD F32.zero
      usedFallback := result.usedFallback }

/-- A decision is made from any result that names a candidate. -/
theorem RouteDecision.fromResult_ok {result : RoutingResult F}
    (h : result.availableCandidates ≠ []) (routeDecisionId routePolicyId : Nat)
    (routeBackend policyVersion : String) :
    ∃ decision, fromResult routeDecisionId routePolicyId routeBackend policyVersion result =
      .ok decision := by
  obtain ⟨c, cs, hc⟩ := List.exists_cons_of_ne_nil h
  unfold fromResult
  rw [hc]
  exact ⟨_, rfl⟩

/-- A decision is about the task of its result. -/
theorem RouteDecision.fromResult_taskId {result : RoutingResult F} {routeDecisionId routePolicyId : Nat}
    {routeBackend policyVersion : String} {decision : RouteDecision F}
    (h : fromResult routeDecisionId routePolicyId routeBackend policyVersion result = .ok decision) :
    decision.taskId = result.taskId := by
  unfold fromResult at h
  split at h
  · cases h
  · obtain rfl := Except.ok.inj h
    rfl

end QTom.Router
