import QTom.Router.DebugFlag

/- The fallback entry. The radius is compared with the base distance of the preferred
   agent, the first of the returned ones, and agents are ranked by penalised
   distance. So the fallback joins whenever every returned agent is outside the
   radius, and also when only the preferred one is: a nearer agent may stand behind
   it with a greater penalty (`inside_behind_outside`). Ids need not be distinct. -/
namespace QTom.Router
open QTom.Lib

/-- The agents a result lists: every entry but the fallback. -/
def RoutingResult.agentCandidates {F : Type} (result : RoutingResult F) :
    List (RouteCandidate F) :=
  if result.usedFallback then result.availableCandidates.dropLast else result.availableCandidates

section
variable {F : Type} [F32 F]

/-- How a result lists the agents of a selection, and when it adds the fallback. -/
structure FallbackRule (request : RoutingRequest F) (scored : List (RouteCandidate F))
    (result : RoutingResult F) : Prop where
  listed : result.availableCandidates = result.agentCandidates ++
    if result.usedFallback then [fallbackCandidate request.fallbackGeneralistId] else []
  nearest : ∃ rest, Selection (compareCandidate .available) request.k
    (scored.filter RouteCandidate.available) result.agentCandidates rest
  ranked : result.agentCandidates.Pairwise fun a b => (compareCandidate .available a b).isLE = true
  preferred : result.usedFallback = true ↔ ∀ first, result.agentCandidates.head? = some first →
    F32.gt first.baseDistance request.radiusMaxThreshold = true

/-- The tail's rule, for whatever candidates it is handed. -/
theorem finish_agentCandidates (request : RoutingRequest F) (candidates : List (RouteCandidate F))
    (ideal : Bool) (debug : Option (RouteDebugInfo F)) :
    (finish request candidates ideal debug).agentCandidates = candidates := by
  unfold RoutingResult.agentCandidates finish
  dsimp only
  split
  · exact List.dropLast_concat
  · rfl

theorem finish_listed (request : RoutingRequest F) (candidates : List (RouteCandidate F))
    (ideal : Bool) (debug : Option (RouteDebugInfo F)) :
    (finish request candidates ideal debug).availableCandidates = candidates ++
      if (finish request candidates ideal debug).usedFallback
      then [fallbackCandidate request.fallbackGeneralistId] else [] := by
  unfold finish
  dsimp only
  split
  · rfl
  · rw [List.append_nil]

theorem finish_usedFallback (request : RoutingRequest F) (candidates : List (RouteCandidate F))
    (ideal : Bool) (debug : Option (RouteDebugInfo F)) :
    (finish request candidates ideal debug).usedFallback = true ↔
      ∀ first, candidates.head? = some first →
        F32.gt first.baseDistance request.radiusMaxThreshold = true := by
  show (candidates.head?.map _).getD true = true ↔ _
  cases candidates.head? with
  | none => simp
  | some first => simp

/-- A call's result is that of the batch it validates. -/
theorem routeOne_ok {router : CpuRouter F} {request : RoutingRequest F}
    {states : List (AgentRuntimeState F)} {result : RoutingResult F}
    (h : router.routeOne request states = .ok result) :
    ∃ b, router.validateRequest request states = .ok b ∧
      router.routeOneValidated request b = .ok result :=
  bind_ok_iff.mp h

variable [Std.TransCmp (F32.totalCmp (F := F))]

/-- Either storage selects `k` least of the available agents and sorts them. -/
theorem availableSelection_sorted (k : Nat) (scored : List (CompactCandidate F)) :
    ∃ kept rest, Selection (compareCandidate .available) k
      (scored.filter RouteCandidate.available) kept rest ∧
      availableSelection k scored = sortBy (compareCandidate .available) kept := by
  unfold availableSelection
  by_cases hk : k = 1
  · subst hk
    obtain ⟨hsort, rest, hrun⟩ := BestCandidate.run_holds (BestCandidate.new_holds .available)
      (scored.filter RouteCandidate.available)
    have hsel := hrun.selection
    rw [hsort] at hsel
    refine ⟨_, rest, hsel, ?_⟩
    rw [if_pos rfl, BestCandidate.intoCandidate]
    cases ((scored.filter RouteCandidate.available).foldl BestCandidate.push
      (BestCandidate.new .available true)).best <;> rfl
  · obtain ⟨hk', hsort, rest, hrun⟩ := BoundedTopK.run_holds (BoundedTopK.new_holds k .available)
      (scored.filter RouteCandidate.available)
    have hsel := hrun.selection
    rw [hk', hsort] at hsel
    refine ⟨_, rest, hsel, ?_⟩
    rw [if_neg hk, BoundedTopK.intoVec, hsort]
    rfl

theorem routeOneValidated_fallback {router : CpuRouter F} {request : RoutingRequest F}
    {b : ValidatedBatch F} {result : RoutingResult F}
    (h : router.routeOneValidated request b = .ok result) :
    FallbackRule request (b.candidates request.vector router.coefficients) result := by
  have hmodes := routeOneValidated_modes router request b
  rw [h] at hmodes
  have hresult := Except.ok.inj hmodes
  obtain ⟨kept, rest, hsel, hsorted⟩ :=
    availableSelection_sorted request.k (b.candidates request.vector router.coefficients)
  -- the debug output takes no part in the rule
  have hagents : result.agentCandidates =
      availableSelection request.k (b.candidates request.vector router.coefficients) := by
    show result.withoutDebug.agentCandidates = _
    rw [hresult, finish_agentCandidates]
  refine ⟨?_, ⟨rest, ?_⟩, ?_, ?_⟩
  · rw [hagents]
    show result.withoutDebug.availableCandidates =
      _ ++ if result.withoutDebug.usedFallback then _ else _
    rw [hresult, finish_listed]
  · rw [hagents, hsorted]
    exact hsel.reorder (sortBy_perm kept)
  · rw [hagents, hsorted]
    exact sortBy_pairwise kept
  · rw [hagents]
    show result.withoutDebug.usedFallback = true ↔ _
    rw [hresult, finish_usedFallback]

end

/-! Over exact arithmetic. -/

variable {K : Type} [Ring K] [LinearOrder K]

/-- The fallback rule of a call that is accepted, with `k` at least 1: of the available agents
    the result lists `k` of least penalised distance, in its order, and the fallback behind them
    exactly when there is none or the first is outside the radius; so whenever all are. -/
theorem fallback_iff_preferred_outside {router : CpuRouter (WithTop K)}
    {request : RoutingRequest (WithTop K)} {states : List (AgentRuntimeState (WithTop K))}
    {result : RoutingResult (WithTop K)} (_ : 1 ≤ request.k)
    (h : router.routeOne request states = .ok result) :
    ∃ b, router.validateRequest request states = .ok b ∧
      FallbackRule request (b.candidates request.vector router.coefficients) result ∧
      (result.usedFallback = true ↔ ∀ first, result.agentCandidates.head? = some first →
        request.radiusMaxThreshold < first.baseDistance) ∧
      ((∀ agent ∈ result.agentCandidates, request.radiusMaxThreshold < agent.baseDistance) →
        result.usedFallback = true) := by
  obtain ⟨b, hvalid, hrouted⟩ := routeOne_ok h
  have hrule := routeOneValidated_fallback hrouted
  have hpreferred : result.usedFallback = true ↔
      ∀ first, result.agentCandidates.head? = some first →
        request.radiusMaxThreshold < first.baseDistance := by
    rw [hrule.preferred]
    simp only [F32.gt, F32.lt, decide_eq_true_eq]
  refine ⟨b, hvalid, hrule, hpreferred, ?_⟩
  intro hall
  rw [hpreferred]
  intro first hfirst
  exact hall first (List.mem_of_mem_head? hfirst)

/-- An agent farther away and an agent nearer by with the greater penalty. -/
def penalisedAgents : List (AgentProfile (WithTop Int)) :=
  [⟨1, [1, 1], ⟨0, 0, 0, 0, 0, 0⟩⟩, ⟨2, [1, 0], ⟨0, 0, 0, 0, 0, 0⟩⟩]

def penalisedStates : List (AgentRuntimeState (WithTop Int)) := [⟨0, 0, 0, 1⟩, ⟨1, 1, 0, 1⟩]

def penalisedRouter : CpuRouter (WithTop Int) := .new penalisedAgents ⟨1, 1, 1⟩

def penalisedRequest : RoutingRequest (WithTop Int) := ⟨1, [0, 0], 2, 99, 1⟩

/-- Both agents are returned; the second is within the radius, and the fallback is used. -/
theorem inside_behind_outside :
    (penalisedRouter.routeOne penalisedRequest penalisedStates).map (fun result =>
      (result.availableCandidates.map RouteCandidate.agentId, result.usedFallback,
        result.agentCandidates.map fun agent =>
          F32.gt agent.baseDistance penalisedRequest.radiusMaxThreshold)) =
      .ok ([1, 2, 99], true, [true, false]) ∧
    ¬ ∀ result, penalisedRouter.routeOne penalisedRequest penalisedStates = .ok result →
      (result.usedFallback = true ↔ ∀ agent ∈ result.agentCandidates,
        F32.gt agent.baseDistance penalisedRequest.radiusMaxThreshold = true) := by
  have hrun : (penalisedRouter.routeOne penalisedRequest penalisedStates).map (fun result =>
      (result.availableCandidates.map RouteCandidate.agentId, result.usedFallback,
        result.agentCandidates.map fun agent =>
          F32.gt agent.baseDistance penalisedRequest.radiusMaxThreshold)) =
      .ok ([1, 2, 99], true, [true, false]) := by
    decide +kernel
  refine ⟨hrun, ?_⟩
  intro hall
  cases hresult : penalisedRouter.routeOne penalisedRequest penalisedStates with
  | error e =>
    rw [hresult] at hrun
    cases hrun
  | ok result =>
    rw [hresult] at hrun
    obtain ⟨_, hpair⟩ := Prod.mk.inj (Except.ok.inj hrun)
    obtain ⟨hused, hinside⟩ := Prod.mk.inj hpair
    have hmem : false ∈ result.agentCandidates.map fun agent =>
        F32.gt agent.baseDistance penalisedRequest.radiusMaxThreshold := by
      rw [hinside]
      decide
    obtain ⟨agent, hagent, hnear⟩ := List.mem_map.mp hmem
    rw [(hall result hresult).mp hused agent hagent] at hnear
    cases hnear

/-- The call, accepted. -/
theorem fallback_iff_preferred_outside_penalised : ∃ result,
    penalisedRouter.routeOne penalisedRequest penalisedStates = .ok result ∧
    (result.usedFallback = true ↔ ∀ first, result.agentCandidates.head? = some first →
      F32.gt first.baseDistance penalisedRequest.radiusMaxThreshold = true) := by
  have hok : (penalisedRouter.routeOne penalisedRequest penalisedStates).isOk = true := by
    decide +kernel
  obtain ⟨result, hresult⟩ := exists_ok_of_isOk hok
  obtain ⟨_, _, hrule, _⟩ :=
    fallback_iff_preferred_outside (show 1 ≤ penalisedRequest.k by decide) hresult
  exact ⟨result, hresult, hrule.preferred⟩

end QTom.Router
