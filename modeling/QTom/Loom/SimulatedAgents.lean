import Mathlib.Algebra.Order.Ring.Int
import QTom.Loom.MockLoom
import QTom.Router.Ranking

/- The agents simulated for a list of requests (`loom_route.rs`) serve the requests they
   are made from. A request finds the row made for it at distance zero, so nothing is
   better placed while the penalties leave the cost factor positive, and the rows of equal
   requests come in the order of their ids (`simulated_agents_serve`). -/
namespace QTom.Loom
open QTom.Lib QTom.Router

/-! The ids are u32 values. -/

section Ids
variable {F : Type}

/-- `first_agent_id + index as u32`, which panics above u32 where overflow is checked. -/
def agentIdAt (firstAgentId index : Nat) : Checked Nat :=
  let id := firstAgentId + index % 2 ^ 32
  if id < 2 ^ 32 then .ok id else .error .arithmeticOverflow

def simulatedAgentsForRequestsChecked (requests : List (RoutingRequest F)) (firstAgentId : Nat) :
    Checked (List (AgentProfile F)) :=
  requests.zipIdx.mapM fun (request, index) => do
    let id ← agentIdAt firstAgentId index
    return { simulatedAgent firstAgentId index request with id }

/-- With an id below 2^32 for every request no sum overflows. -/
theorem simulatedAgents_checked {requests : List (RoutingRequest F)} {firstAgentId : Nat}
    (h : firstAgentId + requests.length ≤ 2 ^ 32) :
    simulatedAgentsForRequestsChecked requests firstAgentId =
      .ok (simulatedAgentsForRequests requests firstAgentId) := by
  unfold simulatedAgentsForRequests
  rw [List.mapIdx_eq_zipIdx_map]
  apply mapM_ok
  intro p hp
  have hindex : p.2 < requests.length := by
    have := List.snd_lt_of_mem_zipIdx hp
    omega
  have hid : agentIdAt firstAgentId p.2 = .ok (firstAgentId + p.2) := by
    unfold agentIdAt
    rw [Nat.mod_eq_of_lt (by omega)]
    exact if_pos (by omega)
  show (agentIdAt firstAgentId p.2 >>= fun id =>
    .ok { simulatedAgent firstAgentId p.2 p.1 with id }) = _
  rw [hid]
  rfl

theorem simulatedAgents_ids_nodup (requests : List (RoutingRequest F)) (firstAgentId : Nat) :
    ((simulatedAgentsForRequests requests firstAgentId).map AgentProfile.id).Nodup := by
  apply List.nodup_iff_getElem?_ne_getElem?.mpr
  intro i j hij hj hsame
  have hid : ∀ m < requests.length,
      ((simulatedAgentsForRequests requests firstAgentId).map AgentProfile.id)[m]? =
        some (firstAgentId + m) := by
    intro m hm
    unfold simulatedAgentsForRequests
    rw [List.getElem?_map, List.getElem?_mapIdx, List.getElem?_eq_getElem hm]
    rfl
  rw [List.length_map, length_simulatedAgents] at hj
  rw [hid i (hij.trans hj), hid j hj] at hsame
  have := Option.some.inj hsame
  omega

end Ids

variable {K : Type}

/-! Who serves a request. -/

/-- The first request with the vector. -/
structure FirstWith (requests : List (RoutingRequest (WithTop K))) (vector : List (WithTop K))
    (j : Nat) : Prop where
  found : requests[j]?.map RoutingRequest.vector = some vector
  first : ∀ m < j, requests[m]?.map RoutingRequest.vector ≠ some vector

/-- Requests of one dimension, their vectors of numbers. -/
structure Simulable (requests : List (RoutingRequest (WithTop K))) (d : Nat) : Prop where
  uniform : ∀ request ∈ requests, request.vector.length = d
  numbers : ∀ request ∈ requests, ∀ x ∈ request.vector, x ≠ ⊤

section Accepted
variable {requests : List (RoutingRequest (WithTop K))} {d firstAgentId : Nat}
  {states : List (AgentRuntimeState (WithTop K))} {request : RoutingRequest (WithTop K)}

theorem simulated_accepted (firstAgentId : Nat) (h : Simulable requests d)
    (hpaired : states.length = requests.length) (hrequest : request ∈ requests) :
    Accepted (simulatedAgentsForRequests requests firstAgentId) states request := by
  refine ⟨?_, ?_, ?_⟩
  · apply List.ne_nil_of_length_pos
    rw [length_simulatedAgents]
    exact List.length_pos_of_mem hrequest
  · rw [length_simulatedAgents, hpaired]
  · rw [h.uniform request hrequest]
    exact simulatedAgents_uniform h.uniform firstAgentId

end Accepted

variable [Ring K] [LinearOrder K]

/-! States that offer an agent. -/

structure NumberCoefficients (coefficients : ScoreCoefficients (WithTop K)) : Prop where
  alphaQueue : coefficients.alphaQueue ≠ ⊤
  betaLatency : coefficients.betaLatency ≠ ⊤
  gammaCache : coefficients.gammaCache ≠ ⊤

/-- `1.0 + queue_penalty + latency_penalty + cache_penalty`. -/
def costFactor (coefficients : ScoreCoefficients (WithTop K))
    (state : AgentRuntimeState (WithTop K)) : WithTop K :=
  (RuntimeScoreFactors.fromState state coefficients).omega

/-- Available, at a cost factor that is a positive number. -/
structure Serving (coefficients : ScoreCoefficients (WithTop K))
    (state : AgentRuntimeState (WithTop K)) : Prop where
  available : state.isAvailable = true
  positive : 0 < costFactor coefficients state
  number : costFactor coefficients state ≠ ⊤

/-- Without load no coefficient matters. -/
theorem costFactor_availableState {coefficients : ScoreCoefficients (WithTop K)}
    (h : NumberCoefficients coefficients) : costFactor coefficients availableState = 1 := by
  show F32.add (F32.add (F32.add F32.one (F32.mul coefficients.alphaQueue F32.zero))
    (F32.mul coefficients.betaLatency F32.zero)) (F32.mul coefficients.gammaCache F32.zero) = 1
  rw [Exact.mul_zero_of_number h.alphaQueue, Exact.mul_zero_of_number h.betaLatency,
    Exact.mul_zero_of_number h.gammaCache]
  show (1 + 0 + 0 + 0 : WithTop K) = 1
  rw [add_zero, add_zero, add_zero]

section
variable [IsStrictOrderedRing K]

theorem serving_availableState {coefficients : ScoreCoefficients (WithTop K)}
    (h : NumberCoefficients coefficients) : Serving coefficients availableState := by
  refine ⟨rfl, ?_, ?_⟩
  · rw [costFactor_availableState h]
    exact WithTop.coe_lt_coe.mpr zero_lt_one
  · rw [costFactor_availableState h]
    exact WithTop.coe_ne_top

/-- A positive factor keeps a distance where it is: at zero, or above. -/
theorem mul_factor_le_zero {distance factor : WithTop K} (hdistance : distance ≠ ⊤)
    (hnonneg : 0 ≤ distance) (hfactor : factor ≠ ⊤) (hpositive : 0 < factor) :
    F32.mul distance factor ≤ 0 ↔ distance = 0 := by
  obtain ⟨x, rfl⟩ := WithTop.ne_top_iff_exists.mp hdistance
  obtain ⟨w, rfl⟩ := WithTop.ne_top_iff_exists.mp hfactor
  have hx : 0 ≤ x := WithTop.coe_le_coe.mp hnonneg
  have hw : 0 < w := WithTop.coe_lt_coe.mp hpositive
  show ((x * w : K) : WithTop K) ≤ ((0 : K) : WithTop K) ↔ (x : WithTop K) = ((0 : K) : WithTop K)
  rw [WithTop.coe_le_coe, WithTop.coe_inj]
  refine ⟨?_, ?_⟩
  · intro hle
    rcases hx.lt_or_eq with hlt | heq
    · exact absurd hle (mul_pos hlt hw).not_ge
    · exact heq.symm
  · intro hzero
    rw [hzero, zero_mul]

theorem mul_factor_nonneg {distance factor : WithTop K} (hdistance : distance ≠ ⊤)
    (hnonneg : 0 ≤ distance) (hpositive : 0 < factor) : 0 ≤ F32.mul distance factor := by
  calc (0 : WithTop K) = F32.mul distance F32.zero := (Exact.mul_zero_of_number hdistance).symm
    _ ≤ F32.mul distance factor := Exact.mul_le_mul_factor hnonneg hpositive.le

end

/-- Served without the fallback, at distance zero, by the agent of the first request with
the vector. -/
structure Served (requests : List (RoutingRequest (WithTop K))) (firstAgentId : Nat)
    (request : RoutingRequest (WithTop K)) (result : RoutingResult (WithTop K)) : Prop where
  fallback : result.usedFallback = false
  head : ∃ j first, FirstWith requests request.vector j ∧
    result.availableCandidates.head? = some first ∧ first.baseDistance = 0 ∧
    first.agentId = firstAgentId + j

section Scored
variable [IsStrictOrderedRing K] {requests : List (RoutingRequest (WithTop K))}
  {d firstAgentId : Nat} {states : List (AgentRuntimeState (WithTop K))}
  {coefficients : ScoreCoefficients (WithTop K)} {request : RoutingRequest (WithTop K)}

/-- The agent of request `j`, scored against a request. -/
structure Row (firstAgentId : Nat) (request : RoutingRequest (WithTop K)) (j : Nat)
    (other : RoutingRequest (WithTop K)) (c : RouteCandidate (WithTop K)) : Prop where
  agentId : c.agentId = firstAgentId + j
  available : c.available = true
  nonneg : 0 ≤ c.effectiveDistance
  effective : c.effectiveDistance ≤ 0 ↔ request.vector = other.vector
  base : c.baseDistance = 0 ↔ request.vector = other.vector

theorem scored_simulated (firstAgentId : Nat) (h : Simulable requests d)
    (hpaired : states.length = requests.length)
    (hserving : ∀ state ∈ states, Serving coefficients state) (hrequest : request ∈ requests)
    {j : Nat} {other : RoutingRequest (WithTop K)} (hother : requests[j]? = some other) :
    ∃ c, (scoredAgents (simulatedAgentsForRequests requests firstAgentId) states request
        coefficients)[j]? = some c ∧ Row firstAgentId request j other c := by
  have hmem : other ∈ requests := List.mem_of_getElem? hother
  obtain ⟨hj, _⟩ := List.getElem?_eq_some_iff.mp hother
  have hstate : j < states.length := by omega
  have hserves := hserving states[j] (List.getElem_mem hstate)
  have hlen : request.vector.length = other.vector.length := by
    rw [h.uniform request hrequest, h.uniform other hmem]
  have hnumber := Exact.distSq_ne_top (h.numbers request hrequest) (h.numbers other hmem)
  have hnonneg := Exact.distSq_nonneg request.vector other.vector
  have hzero := Exact.distSq_eq_zero hlen (h.numbers request hrequest) (h.numbers other hmem)
  have hbase : distSqBlocked request.vector other.vector = distSq request.vector other.vector :=
    Exact.distSqBlocked_eq_distSq hlen
  let c := scoreCompactCandidate request.vector coefficients (firstAgentId + j) other.vector
    states[j]
  have heffective : c.effectiveDistance =
      F32.mul (distSq request.vector other.vector) (costFactor coefficients states[j]) := by
    rw [← hbase]
    exact if_pos hserves.available
  refine ⟨c, ?_, rfl, hserves.available, ?_, ?_, ?_⟩
  · unfold scoredAgents simulatedAgentsForRequests
    rw [List.getElem?_zipWith, List.getElem?_mapIdx, hother, List.getElem?_eq_getElem hstate]
    rfl
  · rw [heffective]
    exact mul_factor_nonneg hnumber hnonneg hserves.positive
  · rw [heffective, mul_factor_le_zero hnumber hnonneg hserves.number hserves.positive, hzero]
  · show distSqBlocked request.vector other.vector = 0 ↔ _
    rw [hbase, hzero]

/-- The selected agent costs no more than the request's own, so it stands where the request
does, and no earlier request stands there. -/
theorem specResult_served (h : Simulable requests d) (hpaired : states.length = requests.length)
    (hserving : ∀ state ∈ states, Serving coefficients state) (hrequest : request ∈ requests)
    (hk : 1 ≤ request.k) (hradius : 0 ≤ request.radiusMaxThreshold) (debugObserved : Bool) :
    Served requests firstAgentId request (specResult debugObserved request
      (scoredAgents (simulatedAgentsForRequests requests firstAgentId) states request
        coefficients)) := by
  obtain ⟨i, hi⟩ := List.mem_iff_getElem?.mp hrequest
  obtain ⟨own, hown, hownrow⟩ := scored_simulated firstAgentId h hpaired hserving hrequest hi
  have hownmem := List.mem_of_getElem? hown
  obtain ⟨selected, hselected, hmem, _, hleast, hused⟩ := selected_available
    debugObserved (show request.k ≠ 0 by omega)
    (List.ne_nil_of_mem (List.mem_filter.mpr ⟨hownmem, hownrow.available⟩))
  -- the selected candidate is the row of some request
  obtain ⟨j, hj⟩ := List.mem_iff_getElem?.mp hmem
  obtain ⟨other, hother⟩ : ∃ other, requests[j]? = some other := by
    obtain ⟨hlt, _⟩ := List.getElem?_eq_some_iff.mp hj
    rw [length_scoredAgents (by rw [length_simulatedAgents, hpaired]),
      length_simulatedAgents] at hlt
    exact ⟨requests[j], List.getElem?_eq_getElem hlt⟩
  obtain ⟨c, hc, hrow⟩ := scored_simulated firstAgentId h hpaired hserving hrequest hother
  obtain rfl : selected = c := Option.some.inj (hj.symm.trans hc)
  have hzero : selected.effectiveDistance ≤ 0 :=
    (key_le_of_isLE (hleast own hownmem hownrow.available)).trans (hownrow.effective.mpr rfl)
  have hvector := hrow.effective.mp hzero
  have hbase := hrow.base.mpr hvector
  refine ⟨?_, j, selected, ⟨?_, ?_⟩, hselected, hbase, hrow.agentId⟩
  · rw [hused, hbase]
    exact decide_eq_false hradius.not_gt
  · rw [hother, hvector]
    rfl
  · intro m hm hsame
    obtain ⟨earlier, hearlier, hequal⟩ := Option.map_eq_some_iff.mp hsame
    obtain ⟨c, hc, hcrow⟩ := scored_simulated firstAgentId h hpaired hserving hrequest hearlier
    rcases compareCandidate_isLE.mp (hleast c (List.mem_of_getElem? hc) hcrow.available) with
      hlt | ⟨_, hid⟩
    · exact absurd (hlt.trans_le (hcrow.effective.mpr hequal.symm)) hrow.nonneg.not_gt
    · rw [hrow.agentId, hcrow.agentId] at hid
      omega

/-- The batch over the simulated agents, on any number of workers. -/
theorem batch_served (h : Simulable requests d) (hpaired : states.length = requests.length)
    (hserving : ∀ state ∈ states, Serving coefficients state)
    (hk : ∀ request ∈ requests, 1 ≤ request.k)
    (hradius : ∀ request ∈ requests, 0 ≤ request.radiusMaxThreshold) (debugObserved : Bool)
    (workers : Nat) : ∃ results,
      ((CpuRouter.new (simulatedAgentsForRequests requests firstAgentId)
        coefficients).withDebugObserved debugObserved).routeBatchWithWorkers requests states
          workers = .ok results ∧
      List.Forall₂ (Served requests firstAgentId) requests results := by
  let scored := fun request => scoredAgents (simulatedAgentsForRequests requests firstAgentId)
    states request coefficients
  refine ⟨requests.map fun request => specResult debugObserved request (scored request), ?_, ?_⟩
  · rw [batch_eq_sequential]
    apply mapM_ok
    intro request hrequest
    have haccepted := simulated_accepted firstAgentId h hpaired hrequest
    exact routeOne_spec coefficients debugObserved (simulatedAgents_ids_nodup requests firstAgentId)
      haccepted.uniform haccepted.paired rfl haccepted.nonempty
  · rw [List.forall₂_map_right_iff]
    apply List.forall₂_same.mpr
    intro request hrequest
    exact specResult_served h hpaired hserving hrequest (hk request hrequest)
      (hradius request hrequest) debugObserved

/-- Simulated agents serve the requests they are made from: without load at any
coefficients, and under any load that leaves the cost factors positive. -/
theorem simulated_agents_serve (h : Simulable requests d)
    (hk : ∀ request ∈ requests, 1 ≤ request.k)
    (hradius : ∀ request ∈ requests, 0 ≤ request.radiusMaxThreshold)
    (hids : firstAgentId + requests.length ≤ 2 ^ 32) (debugObserved : Bool) (workers : Nat) :
    ∃ agents, simulatedAgentsForRequestsChecked requests firstAgentId = .ok agents ∧
      (∀ coefficients, NumberCoefficients coefficients → ∃ results,
        ((CpuRouter.new agents coefficients).withDebugObserved debugObserved).routeBatchWithWorkers
          requests (List.replicate agents.length availableState) workers = .ok results ∧
        List.Forall₂ (Served requests firstAgentId) requests results) ∧
      ∀ coefficients states, states.length = agents.length →
        (∀ state ∈ states, Serving coefficients state) → ∃ results,
        ((CpuRouter.new agents coefficients).withDebugObserved debugObserved).routeBatchWithWorkers
          requests states workers = .ok results ∧
        List.Forall₂ (Served requests firstAgentId) requests results := by
  have hlen := length_simulatedAgents requests firstAgentId
  refine ⟨_, simulatedAgents_checked hids, ?_, ?_⟩
  · intro coefficients hcoefficients
    refine batch_served h (by rw [List.length_replicate, hlen]) ?_ hk hradius debugObserved workers
    intro state hstate
    rw [List.eq_of_mem_replicate hstate]
    exact serving_availableState hcoefficients
  · intro coefficients states hpaired hserving
    exact batch_served h (hpaired.trans hlen) hserving hk hradius debugObserved workers

end Scored

/-- Two requests at one place and one between them, with the last ids of u32. -/
def repeatedRequests : List (RoutingRequest (WithTop Int)) :=
  [⟨1, [0, 1], 1, 99, 0⟩, ⟨2, [1, 0], 1 + 1, 99, 0⟩, ⟨3, [0, 1], 1, 99, 1⟩]

theorem simulated_agents_serve_repeated : ∃ agents,
    simulatedAgentsForRequestsChecked repeatedRequests 4294967293 = .ok agents ∧
    (∀ coefficients, NumberCoefficients coefficients → ∃ results,
      ((CpuRouter.new agents coefficients).withDebugObserved false).routeBatchWithWorkers
        repeatedRequests (List.replicate agents.length availableState) 2 = .ok results ∧
      List.Forall₂ (Served repeatedRequests 4294967293) repeatedRequests results) ∧
    ∀ coefficients states, states.length = agents.length →
      (∀ state ∈ states, Serving coefficients state) → ∃ results,
      ((CpuRouter.new agents coefficients).withDebugObserved false).routeBatchWithWorkers
        repeatedRequests states 2 = .ok results ∧
      List.Forall₂ (Served repeatedRequests 4294967293) repeatedRequests results :=
  have hsimulable : Simulable repeatedRequests 2 := ⟨by decide, by decide⟩
  simulated_agents_serve hsimulable (by decide) (by decide) (by decide) false 2

end QTom.Loom
