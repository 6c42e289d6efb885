import QTom.Router.Packing
import QTom.Router.Panics

/- A batch and its requests one after another, panics included. A batch checks the
   dimension of every request before it routes any; one after another a request is
   checked and then routed, so a request that panics may come before one that is refused
   (`refused_before_panic`). Where every `k` fits its storage and the results fit a Vec
   both return, and whenever both return they return the same
   (`batch_returns_sequential`). -/
namespace QTom.Router
open QTom.Lib
variable {F : Type}

/-! Tables in memory. -/

/-- A table that was packed without a panic is in memory. -/
theorem fromAgents_inMemory {agents : List (AgentProfile F)}
    (hfits : AgentRouteTable.Reservable agents) {t : AgentRouteTable F}
    (ht : AgentRouteTable.fromAgents agents = .ok t) : t.InMemory := by
  have hpacks := AgentRouteTable.fromAgents_packs ht
  have hlen : t.agentIds.length = agents.length := hpacks.len
  cases agents with
  | nil =>
    obtain rfl := Except.ok.inj ht
    exact ⟨Nat.two_pow_pos 63, Nat.two_pow_pos 63⟩
  | cons first rest =>
    obtain ⟨hids, hvectors⟩ := hfits first rfl
    have hpos : 0 < t.len := by
      rw [hpacks.len, List.length_cons]
      exact Nat.succ_pos _
    -- the dimension is read off the first row
    have hdimensions : t.dimensions = first.vector.length := by
      rw [← t.length_vector ⟨0, hpos⟩, (hpacks.rows ⟨0, hpos⟩ first rfl).2]
    refine ⟨?_, ?_⟩
    · rw [hlen]
      exact hids
    · rw [t.packed, hlen, hdimensions]
      exact hvectors

/-- The table of a router lies in memory, where it has one. -/
def CpuRouter.InMemory (router : CpuRouter F) : Prop :=
  ∀ t, router.routeTable = .ok t → t.InMemory

theorem CpuRouter.inMemory_of_agents {agents : List (AgentProfile F)}
    (hfits : AgentRouteTable.Reservable agents) (coefficients : ScoreCoefficients F)
    (debugObserved : Bool) :
    ((CpuRouter.new agents coefficients).withDebugObserved debugObserved).InMemory :=
  fun _ ht => fromAgents_inMemory hfits ht

/-- `CpuRouter::new`, with the reservations of its table. -/
def CpuRouter.newChecked (agents : List (AgentProfile F)) (coefficients : ScoreCoefficients F) :
    Checked (CpuRouter F) := do
  let routeTable ← AgentRouteTable.fromAgentsChecked agents
  return ⟨routeTable, coefficients, true⟩

theorem CpuRouter.newChecked_returns (agents : List (AgentProfile F))
    (coefficients : ScoreCoefficients F) :
    Returns (CpuRouter.newChecked agents coefficients) (AgentRouteTable.Reservable agents)
      (CpuRouter.new agents coefficients) :=
  (AgentRouteTable.fromAgentsChecked_returns agents).bind_ok rfl

variable [F32 F]

/-! One request. -/

namespace CpuRouter
variable {router : CpuRouter F} {states : List (AgentRuntimeState F)}

/-- A request returns if it is refused or its `k` fits. -/
theorem routeOneChecked_returns (hmem : router.InMemory) (request : RoutingRequest F) :
    Returns (router.routeOneChecked request states)
      (∀ b, router.validateRequest request states = .ok b → CapacityFits request.k)
      (router.routeOne request states) := by
  unfold routeOneChecked routeOne
  cases hvalid : router.validateRequest request states with
  | error e => exact (Returns.of_ok rfl).congr (iff_of_true trivial fun _ hb => (nomatch hb))
  | ok b =>
    obtain ⟨htable, _, hv⟩ := validateBatch_ok hvalid
    refine (router.routeOneValidatedChecked_returns (hmem _ htable)
      (hv request List.mem_cons_self)).congr ?_
    exact ⟨fun hk _ _ => hk, fun hk => hk b rfl⟩

theorem routeOneChecked_ok (hmem : router.InMemory) {request : RoutingRequest F}
    (hk : CapacityFits request.k) :
    router.routeOneChecked request states = .ok (router.routeOne request states) :=
  (routeOneChecked_returns hmem request).1 fun _ _ => hk

theorem routeOneChecked_returned (hmem : router.InMemory) {request : RoutingRequest F}
    {v : Except RouteError (RoutingResult F)} (hv : router.routeOneChecked request states = .ok v) :
    v = router.routeOne request states :=
  (routeOneChecked_returns hmem request).returned hv

/-! A batch. -/

/-- A batch returns if it is refused, or every `k` fits and so do the results where they are
reserved. -/
theorem routeBatchChecked_returns (hmem : router.InMemory) (requests : List (RoutingRequest F))
    (workers : Nat) :
    Returns (router.routeBatchWithWorkersChecked requests states workers)
      (∀ b, router.validateBatch requests states = .ok b →
        (∀ r ∈ requests, CapacityFits r.k) ∧
          (router.ReservesResults b (min (max workers 1) requests.length) →
            requests.length * routingResultSize < 2 ^ 63))
      (router.routeBatchWithWorkers requests states workers) := by
  cases hvalid : router.validateBatch requests states with
  | error e =>
    refine (Returns.of_ok ?_).congr (iff_of_true trivial fun _ hb => (nomatch hb))
    unfold routeBatchWithWorkersChecked routeBatchWithWorkers
    rw [hvalid]
    split <;> rfl
  | ok b =>
    refine (routeBatchWithWorkersChecked_returns hvalid
      (hmem _ (validateBatch_ok hvalid).1) workers).congr ?_
    refine ⟨?_, fun h => h b rfl⟩
    intro h b' hb
    rw [← Except.ok.inj hb]
    exact h

theorem routeBatchChecked_ok (hmem : router.InMemory) {requests : List (RoutingRequest F)}
    (hk : ∀ r ∈ requests, CapacityFits r.k)
    (hresults : requests.length * routingResultSize < 2 ^ 63) (workers : Nat) :
    router.routeBatchWithWorkersChecked requests states workers =
      .ok (router.routeBatchWithWorkers requests states workers) :=
  (routeBatchChecked_returns hmem requests workers).1 fun _ _ => ⟨hk, fun _ => hresults⟩

theorem routeBatchChecked_returned (hmem : router.InMemory) {requests : List (RoutingRequest F)}
    {workers : Nat} {v : Except RouteError (List (RoutingResult F))}
    (hv : router.routeBatchWithWorkersChecked requests states workers = .ok v) :
    v = router.routeBatchWithWorkers requests states workers :=
  (routeBatchChecked_returns hmem requests workers).returned hv

/-- What one number of workers returns any other does, if the results fit. -/
theorem routeBatchChecked_workers (hmem : router.InMemory) {requests : List (RoutingRequest F)}
    (hresults : requests.length * routingResultSize < 2 ^ 63) {workers : Nat}
    {v : Except RouteError (List (RoutingResult F))}
    (hv : router.routeBatchWithWorkersChecked requests states workers = .ok v) (workers' : Nat) :
    router.routeBatchWithWorkersChecked requests states workers' = .ok v := by
  have hreturns : Returns (router.routeBatchWithWorkersChecked requests states workers) _ _ :=
    routeBatchChecked_returns hmem requests workers
  have hfits := hreturns.returns_iff.mp ⟨v, hv⟩
  rw [(routeBatchChecked_returns hmem requests workers').1 fun b hb =>
    ⟨(hfits b hb).1, fun _ => hresults⟩, hreturns.returned hv, batch_eq_sequential,
    batch_eq_sequential]

/-- `route_one` for the requests one after another, up to the first error. -/
def individualRoutesChecked (router : CpuRouter F) (requests : List (RoutingRequest F))
    (states : List (AgentRuntimeState F)) : Checked (Except RouteError (List (RoutingResult F))) :=
  Checked.collect (fun request => router.routeOneChecked request states) requests

end CpuRouter

/-- **A batch is its requests one after another.** Over a table in memory, where every `k` fits
its storage and the results fit a Vec, a batch over any number of workers and its requests
routed one after another both return, and return the same: the results in request order,
or the first error. Whatever the requests ask for, if both return they return the same. -/
theorem batch_returns_sequential {router : CpuRouter F} (hmem : router.InMemory)
    (requests : List (RoutingRequest F)) (states : List (AgentRuntimeState F)) (workers : Nat) :
    ((∀ r ∈ requests, CapacityFits r.k) → requests.length * routingResultSize < 2 ^ 63 →
      ∃ v, router.routeBatchWithWorkersChecked requests states workers = .ok v ∧
        router.individualRoutesChecked requests states = .ok v) ∧
    ∀ v v', router.routeBatchWithWorkersChecked requests states workers = .ok v →
      router.individualRoutesChecked requests states = .ok v' → v = v' := by
  refine ⟨?_, ?_⟩
  · intro hk hresults
    refine ⟨_, CpuRouter.routeBatchChecked_ok hmem hk hresults workers, ?_⟩
    rw [batch_eq_sequential]
    exact Checked.collect_ok fun r hr => CpuRouter.routeOneChecked_ok hmem (hk r hr)
  · intro v v' hbatch hindividual
    rw [CpuRouter.routeBatchChecked_returned hmem hbatch, batch_eq_sequential]
    exact (Checked.collect_returned (fun r _ v hv =>
      CpuRouter.routeOneChecked_returned hmem hv) hindividual).symm

theorem lonelyRouter_inMemory : lonelyRouter.InMemory := by
  intro t ht
  obtain rfl := Except.ok.inj ht
  exact ⟨by decide, by decide⟩

theorem batch_returns_sequential_two :
    ∃ v, lonelyRouter.routeBatchWithWorkersChecked [greedyRequest 9, greedyRequest 1] lonelyStates 4 =
        .ok v ∧
      lonelyRouter.individualRoutesChecked [greedyRequest 9, greedyRequest 1] lonelyStates = .ok v := by
  refine (batch_returns_sequential lonelyRouter_inMemory [greedyRequest 9, greedyRequest 1]
    lonelyStates 4).1 ?_ (by decide)
  intro r hr
  rcases List.mem_cons.mp hr with rfl | hr
  · exact Or.inr (by decide)
  · rw [List.mem_singleton.mp hr]
    exact Or.inl (by decide)

/-- A request of one coordinate, where the agents have none. -/
def pointRequest : RoutingRequest (WithTop Int) := ⟨2, [0], 1, 99, 1⟩

/-- The batch is refused for its second request; one after another the first panics. -/
theorem refused_before_panic :
    lonelyRouter.routeBatchWithWorkersChecked [greedyRequest (2 ^ 64 - 1), pointRequest]
      lonelyStates 1 = .ok (.error (.dimensionMismatch 0 1 "routing request")) ∧
    lonelyRouter.individualRoutesChecked [greedyRequest (2 ^ 64 - 1), pointRequest] lonelyStates =
      .error .capacityOverflow ∧
    ¬ ∀ (router : CpuRouter (WithTop Int)), router.InMemory → ∀ requests states workers,
      router.routeBatchWithWorkersChecked requests states workers =
        router.individualRoutesChecked requests states := by
  have hbatch : lonelyRouter.routeBatchWithWorkersChecked [greedyRequest (2 ^ 64 - 1), pointRequest]
      lonelyStates 1 = .ok (.error (.dimensionMismatch 0 1 "routing request")) := rfl
  have hindividual : lonelyRouter.individualRoutesChecked
      [greedyRequest (2 ^ 64 - 1), pointRequest] lonelyStates = .error .capacityOverflow := rfl
  refine ⟨hbatch, hindividual, ?_⟩
  intro hall
  have heq := hall lonelyRouter lonelyRouter_inMemory [greedyRequest (2 ^ 64 - 1), pointRequest]
    lonelyStates 1
  rw [hbatch, hindividual] at heq
  cases heq

end QTom.Router
