import QTom.Router.DebugFlag

/- The two rankings over exact arithmetic: by distance and then by id, the distance
   never negative, and a number where the vectors hold numbers. What a routing call
   returns is read off them (`routeOne_ranked`). -/
namespace QTom.Router
open QTom.Lib

section Accepted
variable {F : Type} [F32 F] [Std.TransCmp (F32.totalCmp (F := F))]

/-- A call that returns was accepted, and returns what its scored agents call for. -/
theorem routeOne_ranked {agents : List (AgentProfile F)} {states : List (AgentRuntimeState F)}
    {request : RoutingRequest F} {coefficients : ScoreCoefficients F} {debugObserved : Bool}
    {result : RoutingResult F} (hids : (agents.map AgentProfile.id).Nodup)
    (h : ((CpuRouter.new agents coefficients).withDebugObserved debugObserved).routeOne request
      states = .ok result) :
    Accepted agents states request ∧
      result = specResult debugObserved request
        (scoredAgents agents states request coefficients) := by
  obtain ⟨b, hvalid, _⟩ := bind_ok_iff.mp h
  -- the debug flag takes no part in validation
  have hvalid : (CpuRouter.new agents coefficients).validateRequest request states = .ok b := hvalid
  have haccepted := accepted_of_ok hvalid
  refine ⟨haccepted, ?_⟩
  rw [routeOne_spec coefficients debugObserved hids haccepted.uniform haccepted.paired rfl
    haccepted.nonempty] at h
  exact (Except.ok.inj h).symm

end Accepted

variable {K : Type} [Ring K] [LinearOrder K]

theorem compareCandidate_isLE {sort : CandidateSort} {a b : RouteCandidate (WithTop K)} :
    (compareCandidate sort a b).isLE = true ↔
      sort.key a < sort.key b ∨ sort.key a = sort.key b ∧ a.agentId ≤ b.agentId := by
  unfold compareCandidate
  rw [Ordering.isLE_then_iff_or, Exact.totalCmp_lt, Exact.totalCmp_eq, Nat.isLE_compare]

theorem key_le_of_isLE {sort : CandidateSort} {a b : RouteCandidate (WithTop K)}
    (h : (compareCandidate sort a b).isLE = true) : sort.key a ≤ sort.key b := by
  rcases compareCandidate_isLE.mp h with hlt | ⟨heq, _⟩
  · exact hlt.le
  · exact heq.le

/-- A selection of at least one begins with a least candidate. -/
theorem exists_head_topOf (sort : CandidateSort) {k : Nat} (hk : k ≠ 0)
    {scored : List (RouteCandidate (WithTop K))} (hne : scored ≠ []) : ∃ first,
      (topOf sort k scored).head? = some first ∧ first ∈ scored ∧
      ∀ c ∈ scored, (compareCandidate sort first c).isLE = true := by
  obtain ⟨first, hfirst, hleast⟩ := head?_sortBy_firstLeast (compareCandidate sort) hne
  exact ⟨first, by rw [head?_topOf hk, hfirst], hleast.mem, hleast.least⟩

/-- A selection is in the order of its key. -/
theorem topOf_keys_sorted (sort : CandidateSort) (k : Nat)
    (scored : List (RouteCandidate (WithTop K))) :
    ((topOf sort k scored).map sort.key).Pairwise (· ≤ ·) := by
  rw [List.pairwise_map]
  unfold topOf
  have hsorted : (sortBy (compareCandidate sort) scored).Pairwise
      (fun a b => (compareCandidate sort a b).isLE = true) := sortBy_pairwise scored
  exact hsorted.take.imp fun h => key_le_of_isLE h

/-! The selected candidate. -/

section Selected
variable {debugObserved : Bool} {request : RoutingRequest (WithTop K)}
  {scored : List (RouteCandidate (WithTop K))}

/-- With no agent available the fallback is all there is. -/
theorem selected_fallback (hnone : scored.filter RouteCandidate.available = []) :
    (specResult debugObserved request scored).availableCandidates =
      [fallbackCandidate request.fallbackGeneralistId] := by
  unfold specResult finish topOf
  rw [hnone]
  have hnil : (sortBy (compareCandidate (F := WithTop K) .available) []).take request.k = [] := by
    show ([] : List (RouteCandidate (WithTop K))).take request.k = []
    rw [List.take_nil]
  rw [hnil]
  rfl

theorem finish_head {available : List (RouteCandidate (WithTop K))}
    {first : RouteCandidate (WithTop K)} (h : available.head? = some first)
    (idealUnavailable : Bool) (debug : Option (RouteDebugInfo (WithTop K))) :
    (finish request available idealUnavailable debug).availableCandidates.head? = some first ∧
      (finish request available idealUnavailable debug).usedFallback =
        F32.gt first.baseDistance request.radiusMaxThreshold := by
  unfold finish
  rw [h]
  refine ⟨?_, rfl⟩
  dsimp only
  split
  · rw [List.head?_append, h]
    rfl
  · exact h

/-- Otherwise a least available agent comes first, and its distance calls for the fallback. -/
theorem selected_available (debugObserved : Bool) (hk : request.k ≠ 0)
    (hsome : scored.filter RouteCandidate.available ≠ []) : ∃ selected,
      (specResult debugObserved request scored).availableCandidates.head? = some selected ∧
      selected ∈ scored ∧ selected.available = true ∧
      (∀ c ∈ scored, c.available = true →
        (compareCandidate .available selected c).isLE = true) ∧
      (specResult debugObserved request scored).usedFallback =
        F32.gt selected.baseDistance request.radiusMaxThreshold := by
  obtain ⟨selected, hhead, hmem, hleast⟩ := exists_head_topOf .available hk hsome
  obtain ⟨hscored, havailable⟩ := List.mem_filter.mp hmem
  obtain ⟨hfirst, hused⟩ := finish_head hhead _ _
  exact ⟨selected, hfirst, hscored, havailable,
    fun c hc hcav => hleast c (List.mem_filter.mpr ⟨hc, hcav⟩), hused⟩

end Selected

/-! The scored agents. -/

/-- The vectors hold numbers: ⊤ is the distance of what cannot be used, not a coordinate. -/
structure Numbers (agents : List (AgentProfile (WithTop K))) (request : RoutingRequest (WithTop K)) :
    Prop where
  agents : ∀ agent ∈ agents, ∀ x ∈ agent.vector, x ≠ ⊤
  request : ∀ x ∈ request.vector, x ≠ ⊤

section Scored
variable {agents : List (AgentProfile (WithTop K))} {states : List (AgentRuntimeState (WithTop K))}
  {request : RoutingRequest (WithTop K)} {coefficients : ScoreCoefficients (WithTop K)}
  {c : RouteCandidate (WithTop K)}

/-- A scored candidate of accepted agents, with its distance. -/
theorem scored_base (h : Accepted agents states request)
    (hc : c ∈ scoredAgents agents states request coefficients) :
    ∃ agent ∈ agents, ∃ state ∈ states, c.agentId = agent.id ∧ c.available = state.isAvailable ∧
      c.baseDistance = distSq request.vector agent.vector := by
  obtain ⟨agent, hagent, state, hstate, rfl⟩ := mem_scoredAgents hc
  exact ⟨agent, hagent, state, hstate, rfl, rfl,
    Exact.distSqBlocked_eq_distSq (h.uniform agent hagent).symm⟩

theorem scored_base_ne_top (h : Accepted agents states request) (hnumbers : Numbers agents request)
    (hc : c ∈ scoredAgents agents states request coefficients) : c.baseDistance ≠ ⊤ := by
  obtain ⟨agent, hagent, _, _, _, _, hbase⟩ := scored_base h hc
  rw [hbase]
  exact Exact.distSq_ne_top hnumbers.request (hnumbers.agents agent hagent)

theorem scored_base_nonneg [IsStrictOrderedRing K] (h : Accepted agents states request)
    (hc : c ∈ scoredAgents agents states request coefficients) : 0 ≤ c.baseDistance := by
  obtain ⟨agent, _, _, _, _, _, hbase⟩ := scored_base h hc
  rw [hbase]
  exact Exact.distSq_nonneg _ _

theorem scored_ne_nil (h : Accepted agents states request)
    (coefficients : ScoreCoefficients (WithTop K)) :
    scoredAgents agents states request coefficients ≠ [] := by
  apply List.ne_nil_of_length_pos
  rw [length_scoredAgents h.paired]
  exact List.length_pos_of_ne_nil h.nonempty

/-- No scored agent is available exactly when no state says so. -/
theorem scored_none_available (h : Accepted agents states request) :
    (scoredAgents agents states request coefficients).filter RouteCandidate.available = [] ↔
      ∀ state ∈ states, state.isAvailable = false := by
  rw [List.filter_eq_nil_iff]
  refine ⟨?_, ?_⟩
  · intro hnone state hstate
    obtain ⟨i, hi, rfl⟩ := List.getElem_of_mem hstate
    have hagent : i < agents.length := by
      rw [← h.paired]
      exact hi
    have hscored : i < (scoredAgents agents states request coefficients).length := by
      rw [length_scoredAgents h.paired]
      exact hagent
    have havailable := hnone _ (List.getElem_mem hscored)
    rw [scoredAgents_getElem hscored hagent hi, Bool.not_eq_true] at havailable
    exact havailable
  · intro hnone c hc
    obtain ⟨_, _, state, hstate, _, havailable, _⟩ := scored_base h hc
    rw [havailable, hnone state hstate]
    exact Bool.false_ne_true

end Scored

end QTom.Router
