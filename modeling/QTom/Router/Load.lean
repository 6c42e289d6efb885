import Mathlib.Algebra.Order.Ring.Int
import QTom.Lib.Rank
import QTom.Router.Fallback
import QTom.Router.Ranking

/- Load never attracts work. Raising one agent's queue, latency or cache pressure raises its
   penalised distance and nobody else's, and leaves every base distance alone. So the agent
   joins no selection it was not in, the others stay in their order, and the observed agents
   stay who they are (`load_never_attracts`). -/
namespace QTom.Router
open QTom.Lib
variable {K : Type}

/-! The observed agents. -/

/-- What the observed selection looks at, and what is read off it. -/
def observedView (c : RouteCandidate (WithTop K)) : WithTop K × Nat × Bool :=
  (c.baseDistance, c.agentId, c.available)

theorem idealUnavailable_view (observed : List (RouteCandidate (WithTop K))) :
    idealUnavailable observed =
      ((observed.map observedView).head?.map fun view => !view.2.2).getD false := by
  unfold idealUnavailable
  rw [List.head?_map]
  cases observed.head? <;> rfl

/-! A load that is raised. -/

variable [LinearOrder K]

/-- The loads are raised, the availability is the same. -/
structure Raised (state raised : AgentRuntimeState (WithTop K)) : Prop where
  queue : state.queueDepthNorm ≤ raised.queueDepthNorm
  latency : state.latencyNorm ≤ raised.latencyNorm
  cache : state.cachePressureNorm ≤ raised.cachePressureNorm
  availability : state.availability = raised.availability

theorem Raised.isAvailable {state raised : AgentRuntimeState (WithTop K)} (h : Raised state raised) :
    state.isAvailable = raised.isAvailable := by
  unfold AgentRuntimeState.isAvailable
  rw [h.availability]

variable [Ring K]

structure NonnegativeCoefficients (coefficients : ScoreCoefficients (WithTop K)) : Prop where
  alphaQueue : 0 ≤ coefficients.alphaQueue
  betaLatency : 0 ≤ coefficients.betaLatency
  gammaCache : 0 ≤ coefficients.gammaCache

/-- What a load raised on one agent does to a result. -/
structure Repelled (agentId : Nat) (before after : RoutingResult (WithTop K)) : Prop where
  kept : agentId ∈ after.agentCandidates.map RouteCandidate.agentId →
    agentId ∈ before.agentCandidates.map RouteCandidate.agentId
  others : before.agentCandidates.filter (fun c => c.agentId ≠ agentId) <+:
    after.agentCandidates.filter (fun c => c.agentId ≠ agentId)
  ideal : before.idealCandidateUnavailable = after.idealCandidateUnavailable
  observed : before.debug.map (fun debug =>
      debug.observedCandidates.map RouteCandidate.agentId) =
    after.debug.map fun debug => debug.observedCandidates.map RouteCandidate.agentId

/-- The observed selection does not see the load. -/
theorem view_raised (vector agentVector : List (WithTop K)) (agentId : Nat)
    (coefficients : ScoreCoefficients (WithTop K)) {state raised : AgentRuntimeState (WithTop K)}
    (h : Raised state raised) :
    observedView (scoreCompactCandidate vector coefficients agentId agentVector state) =
      observedView (scoreCompactCandidate vector coefficients agentId agentVector raised) := by
  show (distSqBlocked vector agentVector, agentId, state.isAvailable) =
    (distSqBlocked vector agentVector, agentId, raised.isAvailable)
  rw [h.isAvailable]

/-! The penalised distance. -/

section Score
variable [IsStrictOrderedRing K] {coefficients : ScoreCoefficients (WithTop K)}
  {state raised : AgentRuntimeState (WithTop K)}

theorem omega_le_omega (h : NonnegativeCoefficients coefficients) (hraised : Raised state raised) :
    (RuntimeScoreFactors.fromState state coefficients).omega ≤
      (RuntimeScoreFactors.fromState raised coefficients).omega :=
  add_le_add (add_le_add (add_le_add le_rfl (Exact.mul_le_mul_factor h.alphaQueue hraised.queue))
    (Exact.mul_le_mul_factor h.betaLatency hraised.latency))
    (Exact.mul_le_mul_factor h.gammaCache hraised.cache)

variable {vector agentVector : List (WithTop K)} (agentId : Nat)

/-- The raised agent is penalised no less. -/
theorem effective_le_effective (h : NonnegativeCoefficients coefficients)
    (hraised : Raised state raised) (hlen : vector.length = agentVector.length) :
    (scoreCompactCandidate vector coefficients agentId agentVector state).effectiveDistance ≤
      (scoreCompactCandidate vector coefficients agentId agentVector raised).effectiveDistance := by
  have hnonneg : 0 ≤ distSqBlocked vector agentVector := by
    rw [Exact.distSqBlocked_eq_distSq hlen]
    exact Exact.distSq_nonneg vector agentVector
  show (if state.isAvailable then F32.mul _ _ else F32.infinity) ≤
    if raised.isAvailable then F32.mul _ _ else F32.infinity
  rw [hraised.isAvailable]
  split
  · exact Exact.mul_le_mul_factor hnonneg (omega_le_omega h hraised)
  · exact le_rfl

theorem compare_raised (h : NonnegativeCoefficients coefficients) (hraised : Raised state raised)
    (hlen : vector.length = agentVector.length) :
    (compareCandidate .available
      (scoreCompactCandidate vector coefficients agentId agentVector state)
      (scoreCompactCandidate vector coefficients agentId agentVector raised)).isLE = true := by
  apply compareCandidate_isLE.mpr
  rcases (effective_le_effective agentId h hraised hlen).lt_or_eq with hlt | heq
  · exact Or.inl hlt
  · exact Or.inr ⟨heq, le_rfl⟩

end Score

/-! The two selections. -/

/-- Candidates of the same views are observed alike. -/
theorem topOf_observed_congr {scored scored' : List (RouteCandidate (WithTop K))}
    (h : scored.map observedView = scored'.map observedView) (k : Nat) :
    (topOf .observed k scored).map observedView = (topOf .observed k scored').map observedView := by
  let compareView : WithTop K × Nat × Bool → WithTop K × Nat × Bool → Ordering :=
    fun a b => (F32.totalCmp a.1 b.1).then (compare a.2.1 b.2.1)
  have hsort : ∀ scored : List (RouteCandidate (WithTop K)),
      (topOf .observed k scored).map observedView =
        (sortBy compareView (scored.map observedView)).take k := by
    intro scored
    unfold topOf
    rw [List.map_take]
    exact congrArg (List.take k) (map_sortBy compareView observedView scored)
  rw [hsort, hsort, h]

/-! The scored agents around one of them. -/

section Around
variable {agents : List (AgentProfile (WithTop K))} {states : List (AgentRuntimeState (WithTop K))}
  {i : Nat} {agent : AgentProfile (WithTop K)}

/-- Another state for one agent changes its score and no other. -/
theorem scoredAgents_set (request : RoutingRequest (WithTop K))
    (coefficients : ScoreCoefficients (WithTop K)) (hagent : agents[i]? = some agent) (hi : i < states.length) :
    ∃ before after, ∀ state, scoredAgents agents (states.set i state) request coefficients =
      before ++ scoreCompactCandidate request.vector coefficients agent.id agent.vector state ::
        after := by
  obtain ⟨hlt, rfl⟩ := List.getElem?_eq_some_iff.mp hagent
  let score := fun (agent : AgentProfile (WithTop K)) state =>
    scoreCompactCandidate request.vector coefficients agent.id agent.vector state
  refine ⟨List.zipWith score (agents.take i) (states.take i),
    List.zipWith score (agents.drop (i + 1)) (states.drop (i + 1)), ?_⟩
  intro state
  have hagents : agents = agents.take i ++ agents[i] :: agents.drop (i + 1) := by
    rw [List.getElem_cons_drop, List.take_append_drop]
  show List.zipWith score agents (states.set i state) = _
  conv_lhs => rw [hagents]
  rw [List.set_eq_take_append_cons_drop, if_pos hi,
    List.zipWith_append (by rw [List.length_take, List.length_take]; omega)]
  rfl

end Around

section Selections
variable {before after : List (RouteCandidate (WithTop K))} {c raised : RouteCandidate (WithTop K)}

/-- What the available selection does, when the candidate is available. -/
theorem topOf_available_raised (hdistinct : Distinct (before ++ c :: after))
    (hdistinct' : Distinct (before ++ raised :: after)) (hid : c.agentId = raised.agentId)
    (hne : ∀ b ∈ before ++ after, b.agentId ≠ c.agentId)
    (hle : (compareCandidate .available c raised).isLE = true) (k : Nat) :
    (raised ∈ topOf .available k (before ++ raised :: after) →
      c ∈ topOf .available k (before ++ c :: after)) ∧
    (topOf .available k (before ++ c :: after)).filter (fun b => b.agentId ≠ c.agentId) <+:
      (topOf .available k (before ++ raised :: after)).filter fun b => b.agentId ≠ c.agentId := by
  have hinj := hdistinct.inj .available
  have hinj' := hdistinct'.inj .available
  refine ⟨raise_kept hle hinj hinj', raise_others hle hinj hinj' ?_ ?_ ?_⟩
  · exact decide_eq_false (not_not.mpr rfl)
  · exact decide_eq_false (not_not.mpr hid.symm)
  · intro b hb
    exact decide_eq_true (hne b hb)

/-- What the selection of the available ones does, whether or not the candidate is one. -/
theorem selected_raised (hdistinct : Distinct (before ++ c :: after))
    (hdistinct' : Distinct (before ++ raised :: after)) (hid : c.agentId = raised.agentId)
    (havailable : c.available = raised.available)
    (hne : ∀ b ∈ before ++ after, b.agentId ≠ c.agentId)
    (hle : (compareCandidate .available c raised).isLE = true) (k : Nat) :
    (c.agentId ∈ (topOf .available k ((before ++ raised :: after).filter
        RouteCandidate.available)).map RouteCandidate.agentId →
      c.agentId ∈ (topOf .available k ((before ++ c :: after).filter
        RouteCandidate.available)).map RouteCandidate.agentId) ∧
    (topOf .available k ((before ++ c :: after).filter RouteCandidate.available)).filter
        (fun b => b.agentId ≠ c.agentId) <+:
      (topOf .available k ((before ++ raised :: after).filter RouteCandidate.available)).filter
        fun b => b.agentId ≠ c.agentId := by
  rw [List.filter_append, List.filter_append, List.filter_cons, List.filter_cons, ← havailable]
  cases hc : c.available with
  | false =>
    -- an unavailable agent is not offered to the selection
    rw [if_neg Bool.false_ne_true]
    exact ⟨fun h => h, List.prefix_rfl⟩
  | true =>
    rw [if_pos rfl, if_pos rfl]
    have hsublist : ∀ x : RouteCandidate (WithTop K), List.Sublist
        (before.filter RouteCandidate.available ++ x :: after.filter RouteCandidate.available)
        (before ++ x :: after) :=
      fun x => List.filter_sublist.append (List.filter_sublist.cons_cons x)
    obtain ⟨hkept, hothers⟩ := topOf_available_raised
      (fun a ha b hb => hdistinct a ((hsublist c).mem ha) b ((hsublist c).mem hb))
      (fun a ha b hb => hdistinct' a ((hsublist raised).mem ha) b ((hsublist raised).mem hb))
      hid (fun b hb => hne b ((List.filter_sublist.append List.filter_sublist).mem hb)) hle k
    refine ⟨?_, hothers⟩
    intro hmem
    obtain ⟨b, hb, hbid⟩ := List.mem_map.mp hmem
    have hscored := (hsublist raised).mem (mem_sortBy.mp (List.mem_of_mem_take hb))
    have hraised : b = raised := hdistinct' b hscored raised
      (List.mem_append_right before List.mem_cons_self) (hbid.trans hid)
    rw [hraised] at hb
    exact List.mem_map.mpr ⟨c, hkept hb, rfl⟩

/-- Raised in the eyes of the available sort only, a candidate is repelled. -/
theorem specResult_raised (hdistinct : Distinct (before ++ c :: after))
    (hdistinct' : Distinct (before ++ raised :: after))
    (hview : observedView c = observedView raised)
    (hne : ∀ b ∈ before ++ after, b.agentId ≠ c.agentId)
    (hle : (compareCandidate .available c raised).isLE = true) (debugObserved : Bool)
    (request : RoutingRequest (WithTop K)) : Repelled c.agentId
      (specResult debugObserved request (before ++ c :: after))
      (specResult debugObserved request (before ++ raised :: after)) := by
  obtain ⟨_, hrest⟩ := Prod.mk.inj hview
  obtain ⟨hid, havailable⟩ := Prod.mk.inj hrest
  have hviews : (before ++ c :: after).map observedView =
      (before ++ raised :: after).map observedView := by
    rw [List.map_append, List.map_append, List.map_cons, List.map_cons, hview]
  have hobserved := topOf_observed_congr hviews request.k
  have hagents : ∀ scored, (specResult debugObserved request scored).agentCandidates =
      topOf .available request.k (scored.filter RouteCandidate.available) :=
    fun scored => finish_agentCandidates request _ _ _
  obtain ⟨hkept, hothers⟩ :=
    selected_raised hdistinct hdistinct' hid havailable hne hle request.k
  rw [← hagents, ← hagents] at hkept hothers
  refine ⟨hkept, hothers, ?_, ?_⟩
  · show idealUnavailable (topOf .observed request.k _) =
      idealUnavailable (topOf .observed request.k _)
    rw [idealUnavailable_view, idealUnavailable_view, hobserved]
  · have hids := congrArg (List.map fun view => view.2.1) hobserved
    rw [List.map_map, List.map_map] at hids
    cases debugObserved with
    | false => rfl
    | true => exact congrArg some hids

end Selections

/-- Whatever agent's load is raised, the call still returns, the agent is returned only if it
was, the others returned before are the first of the others returned after, and the observed
agents are the same. -/
theorem load_never_attracts [IsStrictOrderedRing K] {agents : List (AgentProfile (WithTop K))}
    {states : List (AgentRuntimeState (WithTop K))} {request : RoutingRequest (WithTop K)}
    {coefficients : ScoreCoefficients (WithTop K)} {debugObserved : Bool}
    {before : RoutingResult (WithTop K)} (hids : (agents.map AgentProfile.id).Nodup)
    (hcoefficients : NonnegativeCoefficients coefficients) {i : Nat}
    {agent : AgentProfile (WithTop K)} {state raised : AgentRuntimeState (WithTop K)}
    (hagent : agents[i]? = some agent) (hstate : states[i]? = some state)
    (hraised : Raised state raised)
    (h : ((CpuRouter.new agents coefficients).withDebugObserved debugObserved).routeOne request
      states = .ok before) : ∃ after,
      ((CpuRouter.new agents coefficients).withDebugObserved debugObserved).routeOne request
        (states.set i raised) = .ok after ∧ Repelled agent.id before after := by
  obtain ⟨haccepted, rfl⟩ := routeOne_ranked hids h
  obtain ⟨hi, rfl⟩ := List.getElem?_eq_some_iff.mp hstate
  have hpaired : (states.set i raised).length = agents.length := by
    rw [List.length_set]
    exact haccepted.paired
  refine ⟨_, routeOne_spec coefficients debugObserved hids haccepted.uniform hpaired rfl
    haccepted.nonempty, ?_⟩
  obtain ⟨pre, post, hscored⟩ := scoredAgents_set request coefficients hagent hi
  have hbefore := hscored states[i]
  rw [List.set_getElem_self] at hbefore
  have hdistinct := distinct_scoredAgents hids haccepted.paired request coefficients
  have hdistinct' := distinct_scoredAgents hids hpaired request coefficients
  have hview := view_raised request.vector agent.vector agent.id coefficients hraised
  have hle := compare_raised agent.id hcoefficients hraised
    (haccepted.uniform agent (List.mem_of_getElem? hagent)).symm
  have hne : ∀ b ∈ pre ++ post, b.agentId ≠ agent.id := by
    intro b hb hsame
    rw [← scoredAgents_ids haccepted.paired request coefficients, hbefore, List.map_append,
      List.map_cons] at hids
    have hfresh := (List.nodup_cons.mp (List.nodup_middle.mp hids)).1
    rw [← List.map_append] at hfresh
    exact hfresh (List.mem_map.mpr ⟨b, hb, hsame⟩)
  rw [hbefore] at hdistinct ⊢
  rw [hscored raised] at hdistinct' ⊢
  exact specResult_raised hdistinct hdistinct' hview hne hle debugObserved request

/-- A near agent and a far one. -/
def loadedRouter : CpuRouter (WithTop Int) :=
  (CpuRouter.new [⟨1, [1], ⟨0, 0, 0, 0, 0, 0⟩⟩, ⟨2, [1 + 1], ⟨0, 0, 0, 0, 0, 0⟩⟩]
    ⟨1, 0, 0⟩).withDebugObserved true

def loadedRequest : RoutingRequest (WithTop Int) := ⟨1, [0], 1, 99, 1 + 1⟩

/-- With the queue of the near agent full the far one is selected. -/
theorem load_never_attracts_near : ∃ before after,
    loadedRouter.routeOne loadedRequest [⟨0, 0, 0, 1⟩, ⟨0, 0, 0, 1⟩] = .ok before ∧
    loadedRouter.routeOne loadedRequest [⟨1 + 1 + 1 + 1, 0, 0, 1⟩, ⟨0, 0, 0, 1⟩] = .ok after ∧
    Repelled 1 before after := by
  have hok : (loadedRouter.routeOne loadedRequest [⟨0, 0, 0, 1⟩, ⟨0, 0, 0, 1⟩]).isOk = true := by
    decide +kernel
  obtain ⟨before, hbefore⟩ := exists_ok_of_isOk hok
  have hcoefficients : NonnegativeCoefficients (⟨1, 0, 0⟩ : ScoreCoefficients (WithTop Int)) :=
    ⟨by decide, by decide, by decide⟩
  have hraised : Raised (⟨0, 0, 0, 1⟩ : AgentRuntimeState (WithTop Int))
      ⟨1 + 1 + 1 + 1, 0, 0, 1⟩ := ⟨by decide, by decide, by decide, rfl⟩
  obtain ⟨after, hafter, hrepelled⟩ :=
    load_never_attracts (by decide) hcoefficients (i := 0) rfl rfl hraised hbefore
  exact ⟨before, after, hbefore, hafter, hrepelled⟩

end QTom.Router
