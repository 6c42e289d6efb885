import QTom.Router.Batch
import QTom.Router.Decision
import QTom.Router.Exact
import QTom.Router.TopKSpec

/- What one routing call returns (`routeOne_correct`): the available agents sorted by
   effective distance and id and cut to `k`, then the fallback entry when it is
   used. All three scans of `route_one` come down to `specResult` over the scored
   agents, from `intoVec_run` and `best_run`; distinct ids make the two sort orders
   antisymmetric on the candidates, which is what those two ask. -/
namespace QTom.Router
open QTom.Lib
variable {F : Type}

/-- An id names one candidate. -/
def Distinct (scored : List (RouteCandidate F)) : Prop :=
  ∀ a ∈ scored, ∀ b ∈ scored, a.agentId = b.agentId → a = b

theorem Distinct.filter {scored : List (RouteCandidate F)} (h : Distinct scored)
    (p : RouteCandidate F → Bool) : Distinct (scored.filter p) :=
  fun a ha b hb => h a (List.mem_of_mem_filter ha) b (List.mem_of_mem_filter hb)

/-! The agents behind the candidates. -/

/-- The table of agents of one dimension, with a state for each. -/
def batchOf {agents : List (AgentProfile F)} {d : Nat} (hdim : AgentRouteTable.Uniform d agents)
    {states : List (AgentRuntimeState F)} (hstates : states.length = agents.length) :
    ValidatedBatch F where
  routeTable := AgentRouteTable.ofAgents d agents hdim
  states := states
  paired := hstates.trans (List.length_map _).symm

/-- What `validate_batch` accepts, for agents of one dimension. -/
theorem validateBatch_uniform {agents : List (AgentProfile F)} {d : Nat}
    (hdim : AgentRouteTable.Uniform d agents) (hne : agents ≠ [])
    {states : List (AgentRuntimeState F)} (hstates : states.length = agents.length)
    {requests : List (RoutingRequest F)} (hrequests : ∀ r ∈ requests, r.vector.length = d)
    (coefficients : ScoreCoefficients F) (debugObserved : Bool) :
    ((CpuRouter.new agents coefficients).withDebugObserved debugObserved).validateBatch
      requests states = .ok (batchOf hdim hstates) := by
  have hempty : (AgentRouteTable.ofAgents d agents hdim).isEmpty = false := by
    show (agents.map AgentProfile.id).isEmpty = false
    rw [List.isEmpty_map, List.isEmpty_eq_false_iff]
    exact hne
  have hlen : (AgentRouteTable.ofAgents d agents hdim).len = states.length := by
    rw [hstates]
    exact List.length_map _
  have hcheck : checkRequests (AgentRouteTable.ofAgents d agents hdim).dimensions requests =
      .ok () := by
    apply forM_ok_iff.mpr
    intro request hmem
    exact if_neg (not_not.mpr (hrequests request hmem))
  simp only [CpuRouter.validateBatch, CpuRouter.new, CpuRouter.withDebugObserved,
    AgentRouteTable.fromAgents_uniform hdim hne, bind, Except.bind, hempty]
  rw [if_neg Bool.false_ne_true, dif_neg (not_not.mpr hlen), hcheck]
  rfl

variable [F32 F]

/-- The agents scored against a request, each by its own vector and state. -/
def scoredAgents (agents : List (AgentProfile F)) (states : List (AgentRuntimeState F))
    (request : RoutingRequest F) (coefficients : ScoreCoefficients F) : List (RouteCandidate F) :=
  List.zipWith (fun agent state =>
    scoreCompactCandidate request.vector coefficients agent.id agent.vector state) agents states

theorem length_scoredAgents {agents : List (AgentProfile F)} {states : List (AgentRuntimeState F)}
    (hstates : states.length = agents.length) (request : RoutingRequest F)
    (coefficients : ScoreCoefficients F) :
    (scoredAgents agents states request coefficients).length = agents.length := by
  unfold scoredAgents
  rw [List.length_zipWith, hstates, Nat.min_self]

theorem scoredAgents_getElem {agents : List (AgentProfile F)} {states : List (AgentRuntimeState F)}
    {request : RoutingRequest F} {coefficients : ScoreCoefficients F} {i : Nat}
    (h : i < (scoredAgents agents states request coefficients).length) (ha : i < agents.length)
    (hs : i < states.length) :
    (scoredAgents agents states request coefficients)[i] = scoreCompactCandidate request.vector
      coefficients agents[i].id agents[i].vector states[i] := by
  simp only [scoredAgents, List.getElem_zipWith]

/-- A scored candidate is some agent beside some state. -/
theorem mem_scoredAgents {agents : List (AgentProfile F)} {states : List (AgentRuntimeState F)}
    {request : RoutingRequest F} {coefficients : ScoreCoefficients F} {c : RouteCandidate F}
    (h : c ∈ scoredAgents agents states request coefficients) :
    ∃ agent ∈ agents, ∃ state ∈ states,
      c = scoreCompactCandidate request.vector coefficients agent.id agent.vector state := by
  unfold scoredAgents at h
  rw [← List.map_uncurry_zip_eq_zipWith] at h
  obtain ⟨⟨agent, state⟩, hmem, rfl⟩ := List.mem_map.mp h
  obtain ⟨hagent, hstate⟩ := List.of_mem_zip hmem
  exact ⟨agent, hagent, state, hstate, rfl⟩

/-- The scored candidates have the ids of the agents. -/
theorem scoredAgents_ids {agents : List (AgentProfile F)} {states : List (AgentRuntimeState F)}
    (hstates : states.length = agents.length) (request : RoutingRequest F)
    (coefficients : ScoreCoefficients F) :
    (scoredAgents agents states request coefficients).map RouteCandidate.agentId =
      agents.map AgentProfile.id := by
  apply List.ext_getElem
  · rw [List.length_map, List.length_map, length_scoredAgents hstates]
  · intro i hi hi'
    rw [List.length_map] at hi'
    rw [List.getElem_map, List.getElem_map, scoredAgents_getElem _ hi' (by rw [hstates]; exact hi')]
    rfl

theorem distinct_scoredAgents {agents : List (AgentProfile F)}
    {states : List (AgentRuntimeState F)} (hids : (agents.map AgentProfile.id).Nodup)
    (hstates : states.length = agents.length) (request : RoutingRequest F)
    (coefficients : ScoreCoefficients F) :
    Distinct (scoredAgents agents states request coefficients) := by
  rw [← scoredAgents_ids hstates request coefficients] at hids
  exact fun a ha b hb heq => List.inj_on_of_nodup_map hids ha hb heq

/-- The packed rows hold each agent's own vector, beside its own state. -/
theorem candidates_batchOf {agents : List (AgentProfile F)} {d : Nat}
    (hdim : AgentRouteTable.Uniform d agents) {states : List (AgentRuntimeState F)}
    (hstates : states.length = agents.length) (request : RoutingRequest F)
    (coefficients : ScoreCoefficients F) :
    (batchOf hdim hstates).candidates request.vector coefficients =
      scoredAgents agents states request coefficients := by
  have hlen : (batchOf hdim hstates).routeTable.len = agents.length := List.length_map _
  apply List.ext_getElem
  · rw [ValidatedBatch.length_candidates, length_scoredAgents hstates, hlen]
  · intro i hi hi'
    have hagents : i < agents.length := by
      rw [length_scoredAgents hstates] at hi'
      exact hi'
    rw [ValidatedBatch.candidates_getElem _ _ _ hi (by rw [hlen]; exact hagents),
      scoredAgents_getElem hi' hagents (by rw [hstates]; exact hagents)]
    congr 1
    · exact AgentRouteTable.ofAgents_agentId hdim _ hagents
    · exact AgentRouteTable.ofAgents_vector hdim _ hagents

/-! The scans compute `specResult`. -/

/-- Equivalent candidates are equal, under either sort. -/
theorem Distinct.inj {scored : List (RouteCandidate F)} (h : Distinct scored)
    (sort : CandidateSort) :
    ∀ a ∈ scored, ∀ b ∈ scored, compareCandidate sort a b = .eq → a = b :=
  fun a ha b hb heq => h a ha b hb (agentId_eq_of_compare heq)

/-- The sorted selection a routing call is meant to make. -/
def topOf (sort : CandidateSort) (k : Nat) (scored : List (RouteCandidate F)) :
    List (RouteCandidate F) :=
  (sortBy (compareCandidate sort) scored).take k

/-- Whether the first of the observed selection is unavailable. -/
def idealUnavailable (observed : List (RouteCandidate F)) : Bool :=
  (observed.head?.map fun candidate => !candidate.available).getD false

/-- The result over the scored agents. -/
def specResult (debugObserved : Bool) (request : RoutingRequest F)
    (scored : List (RouteCandidate F)) : RoutingResult F :=
  finish request (topOf .available request.k (scored.filter RouteCandidate.available))
    (idealUnavailable (topOf .observed request.k scored))
    (if debugObserved then some ⟨topOf .observed request.k scored⟩ else none)

theorem head?_topOf {sort : CandidateSort} {k : Nat} (hk : k ≠ 0)
    (scored : List (RouteCandidate F)) :
    (topOf sort k scored).head? = (sortBy (compareCandidate sort) scored).head? := by
  unfold topOf
  rw [List.head?_take, if_neg hk]

theorem toList_head? {α : Type} (xs : List α) : xs.head?.toList = xs.take 1 := by
  cases xs <;> rfl

variable [Std.TransCmp (F32.totalCmp (F := F))]

/-- The observed winner of the scan without debug output knows the ideal flag. -/
theorem observed_ideal {scored : List (RouteCandidate F)} (h : Distinct scored) (k : Nat) :
    (scored.foldl BestCandidate.push (.new .observed (0 < k))).idealCandidateUnavailable =
      idealUnavailable (topOf .observed k scored) := by
  unfold BestCandidate.idealCandidateUnavailable idealUnavailable
  by_cases hk : k = 0
  · subst hk
    show ((scored.foldl BestCandidate.push (.new .observed false)).best.map _).getD false = _
    rw [BestCandidate.best_disabled]
    rfl
  · rw [decide_eq_true (Nat.pos_of_ne_zero hk), BestCandidate.best_run _ (h.inj .observed),
      head?_topOf hk]

theorem routeOneValidated_eq (router : CpuRouter F) (request : RoutingRequest F)
    (b : ValidatedBatch F) (h : Distinct (b.candidates request.vector router.coefficients)) :
    router.routeOneValidated request b = .ok (specResult router.debugObserved request
      (b.candidates request.vector router.coefficients)) := by
  have hobserved := h.inj .observed
  have havailable := (h.filter RouteCandidate.available).inj .available
  unfold CpuRouter.routeOneValidated
  split
  · -- k = 1: a winner for each sort
    rename_i hk
    unfold CpuRouter.routeOneBestValidated
    rw [scanCandidates_eq, foldl_pushBoth]
    unfold BestCandidate.intoCandidate
    dsimp only
    rw [BestCandidate.best_run _ hobserved, BestCandidate.best_run _ havailable]
    unfold specResult idealUnavailable
    rw [head?_topOf (by rw [hk]; exact Nat.one_ne_zero), toList_head?, toList_head?]
    unfold topOf
    rw [hk]
  · split
    · -- with debug output both sorts keep `k`
      rename_i hdebug
      rw [scanCandidates_eq, foldl_pushBoth]
      dsimp only
      rw [BoundedTopK.intoVec_run _ _ hobserved, BoundedTopK.intoVec_run _ _ havailable]
      unfold specResult
      rw [if_pos hdebug]
      rfl
    · -- without it the observed sort keeps the first only
      rename_i hdebug
      rw [scanCandidates_eq, foldl_pushBoth]
      dsimp only
      rw [BoundedTopK.intoVec_run _ _ havailable, observed_ideal h]
      unfold specResult
      rw [if_neg hdebug]
      rfl

/-! What the result says. -/

/-- What one routing call owes its caller, over the scored agents. -/
structure Routed (debugObserved : Bool) (request : RoutingRequest F)
    (scored : List (RouteCandidate F)) (result : RoutingResult F) : Prop where
  task : result.taskId = request.taskId
  candidates : result.availableCandidates =
    topOf .available request.k (scored.filter RouteCandidate.available) ++
      if result.usedFallback then [fallbackCandidate request.fallbackGeneralistId] else []
  ideal : result.idealCandidateUnavailable = true ↔
    0 < request.k ∧ ∃ least ∈ scored, least.available = false ∧
      ∀ c ∈ scored, (compareCandidate .observed least c).isLE = true
  debug : result.debug =
    if debugObserved then some ⟨topOf .observed request.k scored⟩ else none
  decided : ∀ id policy backend version,
    ∃ decision, RouteDecision.fromResult id policy backend version result = .ok decision

theorem idealUnavailable_iff {scored : List (RouteCandidate F)} (h : Distinct scored) (k : Nat) :
    idealUnavailable (topOf .observed k scored) = true ↔
      0 < k ∧ ∃ least ∈ scored, least.available = false ∧
        ∀ c ∈ scored, (compareCandidate .observed least c).isLE = true := by
  unfold idealUnavailable
  by_cases hk : k = 0
  · subst hk
    exact ⟨fun hfalse => absurd hfalse Bool.false_ne_true, fun ⟨hpos, _⟩ => absurd hpos (by decide)⟩
  · rw [head?_topOf hk]
    have hhead : ∀ c, (sortBy (compareCandidate .observed) scored).head? = some c ↔ _ :=
      fun c => head?_sortBy_iff (h.inj .observed)
    cases hs : (sortBy (compareCandidate .observed) scored).head? with
    | none =>
      refine ⟨fun hfalse => absurd hfalse Bool.false_ne_true, fun ⟨_, least, hmem, _, hle⟩ => ?_⟩
      have hsome := (hhead least).mpr ⟨hmem, hle⟩
      rw [hs] at hsome
      cases hsome
    | some first =>
      obtain ⟨hfirst, hleast⟩ := (hhead first).mp hs
      show (!first.available) = true ↔ _
      rw [Bool.not_eq_true']
      refine ⟨fun hav => ⟨Nat.pos_of_ne_zero hk, first, hfirst, hav, hleast⟩, ?_⟩
      intro ⟨_, least, hmem, hav, hle⟩
      have hsome := (hhead least).mpr ⟨hmem, hle⟩
      rw [hs] at hsome
      rw [Option.some.inj hsome]
      exact hav

theorem specResult_routed (debugObserved : Bool) (request : RoutingRequest F)
    {scored : List (RouteCandidate F)} (h : Distinct scored) :
    Routed debugObserved request scored (specResult debugObserved request scored) := by
  have hcandidates : (specResult debugObserved request scored).availableCandidates =
      topOf .available request.k (scored.filter RouteCandidate.available) ++
        if (specResult debugObserved request scored).usedFallback
        then [fallbackCandidate request.fallbackGeneralistId] else [] := by
    show (if _ then _ else _) = _ ++ if (specResult debugObserved request scored).usedFallback
      then _ else _
    unfold specResult finish
    dsimp only
    split
    · rfl
    · rw [List.append_nil]
  refine ⟨rfl, hcandidates, idealUnavailable_iff h request.k, rfl, ?_⟩
  apply RouteDecision.fromResult_ok
  rw [hcandidates]
  intro hnil
  obtain ⟨hempty, hfallback⟩ := List.append_eq_nil_iff.mp hnil
  -- with no candidate the fallback is used
  have hused : (specResult debugObserved request scored).usedFallback = true := by
    show ((topOf .available _ _).head?.map _).getD true = true
    rw [hempty]
    rfl
  rw [hused] at hfallback
  cases hfallback

/-- One routing call over at least one agent. -/
theorem routeOne_spec {agents : List (AgentProfile F)} {states : List (AgentRuntimeState F)}
    {request : RoutingRequest F} {d : Nat} (coefficients : ScoreCoefficients F)
    (debugObserved : Bool) (hids : (agents.map AgentProfile.id).Nodup)
    (hdim : AgentRouteTable.Uniform d agents) (hstates : states.length = agents.length)
    (hrequest : request.vector.length = d) (hne : agents ≠ []) :
    ((CpuRouter.new agents coefficients).withDebugObserved debugObserved).routeOne request states =
      .ok (specResult debugObserved request (scoredAgents agents states request coefficients)) := by
  have hcandidates := candidates_batchOf hdim hstates request coefficients
  have hdistinct : Distinct ((batchOf hdim hstates).candidates request.vector coefficients) := by
    rw [hcandidates]
    exact distinct_scoredAgents hids hstates request coefficients
  have hvalid : ((CpuRouter.new agents coefficients).withDebugObserved debugObserved).validateBatch
      [request] states = .ok (batchOf hdim hstates) := by
    apply validateBatch_uniform hdim hne hstates
    intro r hr
    rw [List.mem_singleton.mp hr]
    exact hrequest
  calc ((CpuRouter.new agents coefficients).withDebugObserved debugObserved).routeOne request states
      = ((CpuRouter.new agents coefficients).withDebugObserved debugObserved).routeOneValidated
          request (batchOf hdim hstates) := by
        unfold CpuRouter.routeOne CpuRouter.validateRequest
        rw [hvalid]
        rfl
    _ = .ok (specResult debugObserved request
          ((batchOf hdim hstates).candidates request.vector coefficients)) :=
        routeOneValidated_eq _ request _ hdistinct
    _ = _ := by rw [hcandidates]

/-- One routing call, for agents with distinct ids and one dimension, their states
and a request of that dimension: no agents is an error, and otherwise the call
succeeds with the result `Routed` describes, whatever the agent order, the ties, the
availability and `k`. -/
theorem routeOne_correct {agents : List (AgentProfile F)} {states : List (AgentRuntimeState F)}
    {request : RoutingRequest F} {d : Nat} (coefficients : ScoreCoefficients F)
    (debugObserved : Bool) (hids : (agents.map AgentProfile.id).Nodup)
    (hdim : AgentRouteTable.Uniform d agents) (hstates : states.length = agents.length)
    (hrequest : request.vector.length = d) :
    (agents = [] → ((CpuRouter.new agents coefficients).withDebugObserved debugObserved).routeOne
      request states = .error .emptyAgents) ∧
    (agents ≠ [] → ∃ result,
      ((CpuRouter.new agents coefficients).withDebugObserved debugObserved).routeOne request states =
        .ok result ∧
      Routed debugObserved request (scoredAgents agents states request coefficients) result) := by
  refine ⟨?_, ?_⟩
  · intro hnil
    subst hnil
    rfl
  · intro hne
    exact ⟨_, routeOne_spec coefficients debugObserved hids hdim hstates hrequest hne,
      specResult_routed debugObserved request
        (distinct_scoredAgents hids hstates request coefficients)⟩

/-- Two agents, the nearer one unavailable. -/
def pairAgents : List (AgentProfile (WithTop Int)) :=
  [⟨7, [1, 0], ⟨0, 0, 0, 0, 0, 0⟩⟩, ⟨3, [0, 2], ⟨0, 0, 0, 0, 0, 0⟩⟩]

def pairStates : List (AgentRuntimeState (WithTop Int)) := [⟨0, 0, 0, 0⟩, ⟨1, 0, 0, 1⟩]

def pairRequest : RoutingRequest (WithTop Int) := ⟨1, [0, 0], 2, 99, 10⟩

theorem routeOne_correct_pair : ∃ result,
    ((CpuRouter.new pairAgents ⟨1, 1, 1⟩).withDebugObserved true).routeOne pairRequest pairStates =
      .ok result ∧
    Routed true pairRequest (scoredAgents pairAgents pairStates pairRequest ⟨1, 1, 1⟩) result :=
  (routeOne_correct ⟨1, 1, 1⟩ true (by decide)
    (show AgentRouteTable.Uniform 2 pairAgents by
      show ∀ agent ∈ pairAgents, agent.vector.length = 2
      decide) rfl rfl).2 (List.cons_ne_nil _ _)

end QTom.Router
