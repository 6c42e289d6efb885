import Mathlib.Algebra.Order.Ring.Int
import QTom.Router.Ranking

/- What a result says of its own quality (`metrics.rs`): how much farther away the
   selected agent is than the nearest observed one, and how far the observed ones lie.
   Over exact arithmetic the selected agent is never nearer, as the nearest observed
   agent is the nearest of all (`routeMetrics_correct`). The fallback entry stands at
   distance +inf; where it is selected the difference is +inf, also when the fallback
   names the nearest agent itself (`delta_of_nearest_generalist`). -/
namespace QTom.Router
open QTom.Lib

section Model
variable {F : Type} [F32 F]

structure RouteMetrics (F : Type) where
  substituteDistanceDelta : F
  topKRadius : F
  radius3 : Option F
  idealCandidateUnavailable : Bool
  deriving DecidableEq, Repr

/-- `f32::max` from a left side that is no NaN: the right side when it is above. -/
def f32Max (left right : F) : F := if F32.lt left right then right else left

def maxBaseDistance (candidates : List (RouteCandidate F)) : F :=
  (candidates.map RouteCandidate.baseDistance).foldl f32Max F32.zero

def radiusForN (candidates : List (RouteCandidate F)) (n : Nat) : Option F :=
  candidates[n - 1]?.map RouteCandidate.baseDistance

def routeMetrics (result : RoutingResult F) : Option (RouteMetrics F) := do
  let debug ← result.debug
  let ideal ← debug.observedCandidates.head?
  let selected ← result.availableCandidates.head?
  return {
    substituteDistanceDelta := F32.sub selected.baseDistance ideal.baseDistance
    topKRadius := maxBaseDistance debug.observedCandidates
    radius3 := radiusForN debug.observedCandidates 3
    idealCandidateUnavailable := result.idealCandidateUnavailable }

theorem routeMetrics_of_heads {result : RoutingResult F} {debug : RouteDebugInfo F}
    {ideal selected : RouteCandidate F} (hdebug : result.debug = some debug)
    (hideal : debug.observedCandidates.head? = some ideal)
    (hselected : result.availableCandidates.head? = some selected) :
    routeMetrics result = some
      { substituteDistanceDelta := F32.sub selected.baseDistance ideal.baseDistance
        topKRadius := maxBaseDistance debug.observedCandidates
        radius3 := radiusForN debug.observedCandidates 3
        idealCandidateUnavailable := result.idealCandidateUnavailable } := by
  unfold routeMetrics
  rw [hdebug, Option.bind_eq_bind, Option.bind_some, hideal, hselected]
  rfl

/-- A decision records the distance between the two candidates the metrics compare. -/
theorem RouteDecision.fromResult_delta {result : RoutingResult F} {metrics : RouteMetrics F}
    (h : routeMetrics result = some metrics) (routeDecisionId routePolicyId : Nat)
    (routeBackend policyVersion : String) : ∃ decision,
      fromResult routeDecisionId routePolicyId routeBackend policyVersion result = .ok decision ∧
      decision.substituteDistanceDelta = metrics.substituteDistanceDelta := by
  unfold routeMetrics at h
  obtain ⟨debug, hdebug, h⟩ := Option.bind_eq_some_iff.mp h
  obtain ⟨ideal, hideal, h⟩ := Option.bind_eq_some_iff.mp h
  obtain ⟨selected, hselected, h⟩ := Option.bind_eq_some_iff.mp h
  obtain rfl := Option.some.inj h
  unfold fromResult
  rw [hselected, hdebug]
  refine ⟨_, rfl, ?_⟩
  show (debug.observedCandidates.head?.map _).getD F32.zero = _
  rw [hideal]
  rfl

end Model

/-! Over exact arithmetic. -/

section Exact
variable {K : Type} [Ring K] [LinearOrder K]

/-- The maximum of an ascending list is its last entry. -/
theorem foldl_f32Max_ascending {xs : List (WithTop K)} (hsorted : xs.Pairwise (· ≤ ·))
    {least : WithTop K} (hleast : ∀ x ∈ xs, least ≤ x) :
    xs.foldl f32Max least = xs.getLast?.getD least := by
  induction xs generalizing least with
  | nil => rfl
  | cons x xs ih =>
    have hstep : f32Max least x = x := by
      unfold f32Max
      rcases (hleast x List.mem_cons_self).lt_or_eq with hlt | heq
      · rw [if_pos (Exact.lt_iff.mpr hlt)]
      · rw [heq]
        split <;> rfl
    obtain ⟨hx, hxs⟩ := List.pairwise_cons.mp hsorted
    rw [List.foldl_cons, hstep, ih hxs hx, List.getLast?_cons]
    rfl

/-- The base distances of an observed selection end with the greatest. -/
theorem maxBaseDistance_topOf {k : Nat} {scored : List (RouteCandidate (WithTop K))}
    (hnonneg : ∀ c ∈ scored, 0 ≤ c.baseDistance) {last : RouteCandidate (WithTop K)}
    (hlast : (topOf .observed k scored).getLast? = some last) :
    maxBaseDistance (topOf .observed k scored) = last.baseDistance ∧
      ∀ c ∈ topOf .observed k scored, c.baseDistance ≤ last.baseDistance := by
  have hsorted := topOf_keys_sorted .observed k scored
  have hmem : ∀ c ∈ topOf .observed k scored, c ∈ scored := by
    intro c hc
    exact mem_sortBy.mp (List.mem_of_mem_take hc)
  refine ⟨?_, ?_⟩
  · have hzero : ∀ x ∈ (topOf .observed k scored).map CandidateSort.observed.key,
        (0 : WithTop K) ≤ x := by
      intro x hx
      obtain ⟨c, hc, rfl⟩ := List.mem_map.mp hx
      exact hnonneg c (hmem c hc)
    have hmax := foldl_f32Max_ascending hsorted hzero
    unfold maxBaseDistance
    rw [List.getLast?_map, hlast] at hmax
    exact hmax
  · intro c hc
    obtain ⟨before, hsplit⟩ := List.getLast?_eq_some_iff.mp hlast
    rw [List.pairwise_map, hsplit] at hsorted
    rw [hsplit] at hc
    rcases List.mem_append.mp hc with hc | hc
    · exact (List.pairwise_append.mp hsorted).2.2 c hc last List.mem_cons_self
    · rw [List.mem_singleton.mp hc]

/-- What the metrics of a routed request say. -/
structure Meaningful (states : List (AgentRuntimeState (WithTop K)))
    (result : RoutingResult (WithTop K)) (metrics : RouteMetrics (WithTop K)) : Prop where
  nonneg : 0 ≤ metrics.substituteDistanceDelta
  decided : ∀ id policy backend version, ∃ decision,
    RouteDecision.fromResult id policy backend version result = .ok decision ∧
    decision.substituteDistanceDelta = metrics.substituteDistanceDelta
  ideal : (∃ state ∈ states, state.isAvailable = true) →
    ∀ selected ideal debug, result.availableCandidates.head? = some selected →
      result.debug = some debug → debug.observedCandidates.head? = some ideal →
      selected.agentId = ideal.agentId → metrics.substituteDistanceDelta = 0
  infinite : metrics.substituteDistanceDelta = ⊤ ↔ ∀ state ∈ states, state.isAvailable = false
  radius : ∃ debug last, result.debug = some debug ∧
    debug.observedCandidates.getLast? = some last ∧ metrics.topKRadius = last.baseDistance ∧
    ∀ c ∈ debug.observedCandidates, c.baseDistance ≤ metrics.topKRadius
  radius3 : ∀ radius, metrics.radius3 = some radius → radius ≤ metrics.topKRadius

theorem sub_coe (x y : K) : F32.sub (x : WithTop K) (y : WithTop K) = ((x - y : K) : WithTop K) := rfl

theorem top_sub_coe (y : K) : F32.sub (⊤ : WithTop K) (y : WithTop K) = ⊤ := rfl

/-- The radii of an observed selection: no entry lies farther away than its last. -/
theorem observed_radii {k : Nat} {scored : List (RouteCandidate (WithTop K))}
    (hnonneg : ∀ c ∈ scored, 0 ≤ c.baseDistance) {first : RouteCandidate (WithTop K)}
    (hfirst : (topOf .observed k scored).head? = some first) : ∃ last,
      (topOf .observed k scored).getLast? = some last ∧
      maxBaseDistance (topOf .observed k scored) = last.baseDistance ∧
      (∀ c ∈ topOf .observed k scored,
        c.baseDistance ≤ maxBaseDistance (topOf .observed k scored)) ∧
      ∀ n radius, radiusForN (topOf .observed k scored) n = some radius →
        radius ≤ maxBaseDistance (topOf .observed k scored) := by
  obtain ⟨rest, hsplit⟩ := List.head?_eq_some_iff.mp hfirst
  obtain ⟨last, hlast⟩ : ∃ last, (topOf .observed k scored).getLast? = some last := by
    rw [hsplit, List.getLast?_cons]
    exact ⟨_, rfl⟩
  obtain ⟨hmax, hbound⟩ := maxBaseDistance_topOf hnonneg hlast
  rw [← hmax] at hbound
  refine ⟨last, hlast, hmax, hbound, ?_⟩
  intro n radius hradius
  obtain ⟨c, hc, rfl⟩ := Option.map_eq_some_iff.mp hradius
  exact hbound c (List.mem_of_getElem? hc)

section Delta
variable {states : List (AgentRuntimeState (WithTop K))} {request : RoutingRequest (WithTop K)}
  {scored : List (RouteCandidate (WithTop K))} {selected ideal : RouteCandidate (WithTop K)}

/-- The metrics of a result are what the difference of its two heads makes of them. -/
theorem meaningful_of_delta (hnonneg : ∀ c ∈ scored, 0 ≤ c.baseDistance)
    (hideal : (topOf .observed request.k scored).head? = some ideal)
    (hselected : (specResult true request scored).availableCandidates.head? = some selected)
    (hdelta : 0 ≤ F32.sub selected.baseDistance ideal.baseDistance)
    (hzero : (∃ state ∈ states, state.isAvailable = true) → selected.agentId = ideal.agentId →
      F32.sub selected.baseDistance ideal.baseDistance = 0)
    (htop : F32.sub selected.baseDistance ideal.baseDistance = ⊤ ↔
      ∀ state ∈ states, state.isAvailable = false) :
    ∃ metrics, routeMetrics (specResult true request scored) = some metrics ∧
      Meaningful states (specResult true request scored) metrics := by
  have hdebug : (specResult true request scored).debug =
      some ⟨topOf .observed request.k scored⟩ := rfl
  have hmetrics := routeMetrics_of_heads hdebug hideal hselected
  obtain ⟨last, hlast, hmax, hbound, hradius⟩ := observed_radii hnonneg hideal
  refine ⟨_, hmetrics, hdelta, RouteDecision.fromResult_delta hmetrics, ?_, htop,
    ⟨_, last, hdebug, hlast, hmax, hbound⟩, hradius 3⟩
  intro hcapable selected' ideal' debug hselected' hdebug' hideal' hsame
  rw [hselected] at hselected'
  obtain rfl := Option.some.inj hselected'
  rw [hdebug] at hdebug'
  obtain rfl := Option.some.inj hdebug'
  rw [hideal] at hideal'
  obtain rfl := Option.some.inj hideal'
  exact hzero hcapable hsame

end Delta

variable [IsStrictOrderedRing K] {states : List (AgentRuntimeState (WithTop K))}
  {request : RoutingRequest (WithTop K)}

/-- The metrics of the result over scored agents at distances that are numbers. -/
theorem routeMetrics_specResult {scored : List (RouteCandidate (WithTop K))}
    (hdistinct : Distinct scored) (hne : scored ≠ []) (hnonneg : ∀ c ∈ scored, 0 ≤ c.baseDistance)
    (hnumber : ∀ c ∈ scored, c.baseDistance ≠ ⊤) (hk : request.k ≠ 0)
    (hnone : scored.filter RouteCandidate.available = [] ↔
      ∀ state ∈ states, state.isAvailable = false) :
    ∃ metrics, routeMetrics (specResult true request scored) = some metrics ∧
      Meaningful states (specResult true request scored) metrics := by
  obtain ⟨ideal, hideal, hidealmem, hleast⟩ := exists_head_topOf .observed hk hne
  obtain ⟨y, hy⟩ := WithTop.ne_top_iff_exists.mp (hnumber ideal hidealmem)
  by_cases hcapable : scored.filter RouteCandidate.available = []
  · -- the fallback entry is selected, at +inf
    have hselected : (specResult true request scored).availableCandidates.head? =
        some (fallbackCandidate request.fallbackGeneralistId) := by
      rw [selected_fallback hcapable]
      rfl
    have hdelta : F32.sub (fallbackCandidate (F := WithTop K)
        request.fallbackGeneralistId).baseDistance ideal.baseDistance = ⊤ := by
      rw [← hy]
      exact top_sub_coe y
    apply meaningful_of_delta hnonneg hideal hselected
    · rw [hdelta]
      exact le_top
    · intro ⟨state, hstate, havailable⟩
      rw [hnone.mp hcapable state hstate] at havailable
      cases havailable
    · exact ⟨fun _ => hnone.mp hcapable, fun _ => hdelta⟩
  · obtain ⟨selected, hselected, hmem, _, _⟩ := selected_available true hk hcapable
    obtain ⟨x, hx⟩ := WithTop.ne_top_iff_exists.mp (hnumber selected hmem)
    have hle : ideal.baseDistance ≤ selected.baseDistance := key_le_of_isLE (hleast selected hmem)
    have hdelta : F32.sub selected.baseDistance ideal.baseDistance = ((x - y : K) : WithTop K) := by
      rw [← hx, ← hy]
      exact sub_coe x y
    apply meaningful_of_delta hnonneg hideal hselected
    · rw [← hx, ← hy, WithTop.coe_le_coe] at hle
      rw [hdelta]
      exact WithTop.coe_le_coe.mpr (sub_nonneg.mpr hle)
    · intro _ hsame
      -- distinct ids: the selected candidate is the ideal one
      have hxy : x = y := by
        rw [hdistinct selected hmem ideal hidealmem hsame, ← hy, WithTop.coe_inj] at hx
        exact hx
      rw [hdelta, hxy, sub_self]
      rfl
    · refine ⟨?_, fun hall => absurd (hnone.mpr hall) hcapable⟩
      intro htop
      rw [hdelta] at htop
      exact absurd htop WithTop.coe_ne_top

/-- The metrics of every request routed with debug output, over agents of distinct ids and
vectors of numbers. -/
theorem routeMetrics_correct {agents : List (AgentProfile (WithTop K))}
    (coefficients : ScoreCoefficients (WithTop K)) {result : RoutingResult (WithTop K)}
    (hids : (agents.map AgentProfile.id).Nodup) (hnumbers : Numbers agents request)
    (hk : 1 ≤ request.k)
    (h : ((CpuRouter.new agents coefficients).withDebugObserved true).routeOne request states =
      .ok result) :
    ∃ metrics, routeMetrics result = some metrics ∧ Meaningful states result metrics := by
  obtain ⟨haccepted, rfl⟩ := routeOne_ranked hids h
  exact routeMetrics_specResult
    (distinct_scoredAgents hids haccepted.paired request coefficients)
    (scored_ne_nil haccepted coefficients) (fun c hc => scored_base_nonneg haccepted hc)
    (fun c hc => scored_base_ne_top haccepted hnumbers hc) (by omega)
    (scored_none_available haccepted)

/-- The only agent is unavailable, and the fallback names it. -/
def generalistAgents : List (AgentProfile (WithTop Int)) := [⟨7, [0], ⟨0, 0, 0, 0, 0, 0⟩⟩]

def generalistRequest : RoutingRequest (WithTop Int) := ⟨1, [0], 1, 7, 1⟩

def generalistRouter : CpuRouter (WithTop Int) :=
  (CpuRouter.new generalistAgents ⟨1, 1, 1⟩).withDebugObserved true

theorem routeMetrics_correct_generalist : ∃ result metrics,
    generalistRouter.routeOne generalistRequest [⟨0, 0, 0, 1⟩] = .ok result ∧
    routeMetrics result = some metrics ∧ Meaningful [⟨0, 0, 0, 1⟩] result metrics := by
  have hok : (generalistRouter.routeOne generalistRequest [⟨0, 0, 0, 1⟩]).isOk = true := by
    decide +kernel
  obtain ⟨result, hresult⟩ := exists_ok_of_isOk hok
  have hnumbers : Numbers generalistAgents generalistRequest := ⟨by decide, by decide⟩
  obtain ⟨metrics, hmetrics, hmeaningful⟩ :=
    routeMetrics_correct ⟨1, 1, 1⟩ (by decide) hnumbers (by decide) hresult
  exact ⟨result, metrics, hresult, hmetrics, hmeaningful⟩

/-- The selected and the observed agent are both 7, and the difference is +inf. -/
theorem delta_of_nearest_generalist :
    (generalistRouter.routeOne generalistRequest [⟨0, 0, 0, 0⟩]).map (fun result =>
      (result.availableCandidates.head?.map RouteCandidate.agentId,
        (result.debug.bind fun debug => debug.observedCandidates.head?).map RouteCandidate.agentId,
        (routeMetrics result).map RouteMetrics.substituteDistanceDelta)) =
      .ok (some 7, some 7, some ⊤) ∧
    ¬ ∀ result selected debug ideal metrics,
      generalistRouter.routeOne generalistRequest [⟨0, 0, 0, 0⟩] = .ok result →
      result.availableCandidates.head? = some selected → result.debug = some debug →
      debug.observedCandidates.head? = some ideal → routeMetrics result = some metrics →
      selected.agentId = ideal.agentId → metrics.substituteDistanceDelta = 0 := by
  have hrun : (generalistRouter.routeOne generalistRequest [⟨0, 0, 0, 0⟩]).map (fun result =>
      (result.availableCandidates.head?.map RouteCandidate.agentId,
        (result.debug.bind fun debug => debug.observedCandidates.head?).map RouteCandidate.agentId,
        (routeMetrics result).map RouteMetrics.substituteDistanceDelta)) =
      .ok (some 7, some 7, some ⊤) := by
    decide +kernel
  refine ⟨hrun, ?_⟩
  intro hall
  cases hresult : generalistRouter.routeOne generalistRequest [⟨0, 0, 0, 0⟩] with
  | error e =>
    rw [hresult] at hrun
    cases hrun
  | ok result =>
    rw [hresult] at hrun
    obtain ⟨hselected, hrest⟩ := Prod.mk.inj (Except.ok.inj hrun)
    obtain ⟨hideal, hmetrics⟩ := Prod.mk.inj hrest
    obtain ⟨selected, hselected, hseven⟩ := Option.map_eq_some_iff.mp hselected
    obtain ⟨ideal, hideal, hsame⟩ := Option.map_eq_some_iff.mp hideal
    obtain ⟨debug, hdebug, hideal⟩ := Option.bind_eq_some_iff.mp hideal
    obtain ⟨metrics, hmetrics, hdelta⟩ := Option.map_eq_some_iff.mp hmetrics
    have hzero := hall result selected debug ideal metrics hresult hselected hdebug hideal
      hmetrics (hseven.trans hsame.symm)
    rw [hdelta] at hzero
    cases hzero

end Exact

end QTom.Router
