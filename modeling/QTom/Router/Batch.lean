import QTom.Lib.Runs
import QTom.Router.CpuRouter

/- A batch over worker threads is the requests routed one after another
   (`batch_eq_sequential`). Both scans push, for each request, the same candidates in
   the same order into the same selections (`candidates`), so the results agree
   whatever the f32 operations compute; chunks and blocks put back together are the
   request list and the index range. -/
namespace QTom.Router
open QTom.Lib
variable {F : Type}

/-- One scan into two selections is two scans, the second over the available. -/
theorem foldl_pushBoth {σ τ : Type} (observe : σ → CompactCandidate F → σ)
    (offer : τ → CompactCandidate F → τ) (acc : σ × τ) (xs : List (CompactCandidate F)) :
    xs.foldl (pushBoth observe offer) acc =
      (xs.foldl observe acc.1, (xs.filter RouteCandidate.available).foldl offer acc.2) := by
  induction xs generalizing acc with
  | nil => rfl
  | cons x xs ih =>
    rw [List.foldl_cons, ih, List.foldl_cons, List.filter_cons]
    unfold pushBoth
    cases x.available <;> rfl

/-- Validation is the table's checks, then the requests' dimensions. -/
theorem validateBatch_eq (router : CpuRouter F) (requests : List (RoutingRequest F))
    (states : List (AgentRuntimeState F)) :
    router.validateBatch requests states = (do
      let b ← router.validateBatch [] states
      checkRequests b.routeTable.dimensions requests
      return b) := by
  unfold CpuRouter.validateBatch
  cases router.routeTable with
  | error e => rfl
  | ok t =>
    simp only [bind, Except.bind]
    split
    · rfl
    · split
      · rfl
      · rfl

theorem checkRequests_singleton (expected : Nat) (request : RoutingRequest F) :
    checkRequests expected [request] = checkRequest expected request := by
  show (checkRequest expected request >>= fun _ => checkRequests expected []) = _
  cases checkRequest expected request <;> rfl

/-- An accepted batch is over the router's table and the given states. -/
theorem validateBatch_ok {router : CpuRouter F} {requests : List (RoutingRequest F)}
    {states : List (AgentRuntimeState F)} {b : ValidatedBatch F}
    (h : router.validateBatch requests states = .ok b) :
    router.routeTable = .ok b.routeTable ∧ b.states = states ∧
      ∀ r ∈ requests, r.vector.length = b.routeTable.dimensions := by
  simp only [CpuRouter.validateBatch, bind, Except.bind] at h
  cases htable : router.routeTable with
  | error e =>
    rw [htable] at h
    cases h
  | ok table =>
    rw [htable] at h
    dsimp only at h
    split at h
    · cases h
    · split at h
      · cases h
      · cases hcheck : checkRequests table.dimensions requests with
        | error e =>
          rw [hcheck] at h
          cases h
        | ok _ =>
          rw [hcheck] at h
          obtain rfl := Except.ok.inj h
          refine ⟨rfl, rfl, ?_⟩
          intro r hr
          have hr := forM_ok_iff.mp hcheck r hr
          by_contra hne
          rw [checkRequest, if_pos hne] at hr
          cases hr

/-- Each request of an accepted batch is accepted by itself, over the same table. -/
theorem validateRequest_of_batch {router : CpuRouter F} {requests : List (RoutingRequest F)}
    {states : List (AgentRuntimeState F)} {b : ValidatedBatch F}
    (h : router.validateBatch requests states = .ok b) {request : RoutingRequest F}
    (hr : request ∈ requests) : router.validateRequest request states = .ok b := by
  have hdim := (validateBatch_ok h).2.2 request hr
  rw [validateBatch_eq] at h
  obtain ⟨table, htable, hrest⟩ := bind_ok_iff.mp h
  obtain ⟨_, hb⟩ := then_ok_iff.mp hrest
  obtain rfl := Except.ok.inj hb
  unfold CpuRouter.validateRequest
  rw [validateBatch_eq, htable]
  show (checkRequests table.routeTable.dimensions [request] >>= fun _ => pure table) = .ok table
  rw [checkRequests_singleton, checkRequest, if_neg (not_not.mpr hdim)]
  rfl

/-- Checking all dimensions first and routing then is checking and routing request
by request, when routing a checked request cannot fail. -/
theorem check_then_route {expected : Nat} {β : Type} {g : RoutingRequest F → Except RouteError β}
    (hg : ∀ request, ∃ result, g request = .ok result) (requests : List (RoutingRequest F)) :
    (do checkRequests expected requests; requests.mapM g) =
      requests.mapM (fun request => do checkRequests expected [request]; g request) := by
  induction requests with
  | nil => rfl
  | cons request requests ih =>
    obtain ⟨result, hresult⟩ := hg request
    rw [List.mapM_cons, List.mapM_cons, ← ih, hresult, checkRequests_singleton]
    show (do (do checkRequest expected request; checkRequests expected requests)
             (do let rest ← requests.mapM g; return result :: rest)) = _
    cases checkRequest expected request with
    | error e => rfl
    | ok u =>
      -- this request is routed; the next error is the rest's
      show (do checkRequests expected requests; _) = _
      cases checkRequests expected requests <;> rfl

variable [F32 F]

/-! The candidates of one request, in row order. -/

/-- Each row of the table with its state, scored against the request. -/
def ValidatedBatch.candidates (b : ValidatedBatch F) (requestVector : List F)
    (coefficients : ScoreCoefficients F) : List (CompactCandidate F) :=
  (List.finRange b.routeTable.len).map fun index =>
    scoreCompactCandidate requestVector coefficients (b.routeTable.agentId index)
      (b.routeTable.vector index) (b.state index)

theorem ValidatedBatch.length_candidates (b : ValidatedBatch F) (v : List F)
    (coefficients : ScoreCoefficients F) :
    (b.candidates v coefficients).length = b.routeTable.len := by
  unfold candidates
  rw [List.length_map, List.length_finRange]

theorem ValidatedBatch.candidates_getElem (b : ValidatedBatch F) (v : List F)
    (coefficients : ScoreCoefficients F) {i : Nat} (h : i < (b.candidates v coefficients).length)
    (hi : i < b.routeTable.len) :
    (b.candidates v coefficients)[i] = scoreCompactCandidate v coefficients
      (b.routeTable.agentId ⟨i, hi⟩) (b.routeTable.vector ⟨i, hi⟩) (b.state ⟨i, hi⟩) := by
  simp only [candidates, List.getElem_map, List.getElem_finRange]
  rfl

/-- Either way of reading the rows, a scan pushes the candidates in row order. -/
theorem scanCandidates_eq {σ : Type} (v : List F) (coefficients : ScoreCoefficients F)
    (b : ValidatedBatch F) (push : σ → CompactCandidate F → σ) (init : σ) :
    scanCandidates v coefficients b push init = (b.candidates v coefficients).foldl push init := by
  unfold scanCandidates
  split
  · -- no coordinates: the rows are read by index
    congr 1
    apply List.ext_getElem
    · rw [List.length_mapFinIdx, b.length_candidates, b.paired]
    · intro i hi hi'
      have hlen : i < b.routeTable.len := by
        rw [b.length_candidates] at hi'
        exact hi'
      rw [List.getElem_mapFinIdx, b.candidates_getElem v coefficients hi' hlen]
      rfl
  · -- otherwise they are zipped with the exact chunks of the packed vector
    rename_i hd
    rw [← List.foldl_map]
    congr 1
    apply List.ext_getElem
    · rw [List.length_map, List.length_zip, List.length_zip, b.routeTable.length_chunksExact hd,
        b.length_candidates, b.paired]
      show min (min b.routeTable.len b.routeTable.len) b.routeTable.len = _
      omega
    · intro i hi hi'
      have hlen : i < b.routeTable.len := by
        rw [b.length_candidates] at hi'
        exact hi'
      rw [List.getElem_map, List.getElem_zip, List.getElem_zip, b.routeTable.chunksExact_getElem _ hlen,
        b.candidates_getElem v coefficients hi' hlen]
      rfl

/-! The blocked scan. -/

theorem foldl_accumulator (a : ProductionAccumulator F) (xs : List (CompactCandidate F)) :
    xs.foldl ProductionAccumulator.push a =
      ⟨xs.foldl BestCandidate.push a.observedBest,
        (xs.filter RouteCandidate.available).foldl ProductionAvailableAccumulator.push a.available⟩ := by
  induction xs generalizing a with
  | nil => rfl
  | cons x xs ih =>
    rw [List.foldl_cons, ih, List.foldl_cons, List.filter_cons]
    unfold ProductionAccumulator.push
    cases x.available <;> rfl

theorem foldl_available_best (winner : BestCandidate F) (xs : List (CompactCandidate F)) :
    xs.foldl ProductionAvailableAccumulator.push (.best winner) =
      .best (xs.foldl BestCandidate.push winner) := by
  induction xs generalizing winner with
  | nil => rfl
  | cons x xs ih => exact ih (winner.push x)

theorem foldl_available_topK (selection : BoundedTopK F) (xs : List (CompactCandidate F)) :
    xs.foldl ProductionAvailableAccumulator.push (.topK selection) =
      .topK (xs.foldl BoundedTopK.push selection) := by
  induction xs generalizing selection with
  | nil => rfl
  | cons x xs ih => exact ih (selection.push x)

/-- A request block's accumulators do not interact: walking the agents for all of
them is walking the agents for each. -/
theorem foldl_requestBlock {ι : Type} (requests : List (RoutingRequest F))
    (score : RoutingRequest F → ι → CompactCandidate F) (indices : List ι)
    (init : RoutingRequest F → ProductionAccumulator F) :
    indices.foldl (fun accumulators index => List.zipWith (fun request accumulator =>
        accumulator.push (score request index)) requests accumulators) (requests.map init) =
      requests.map fun request =>
        (indices.map (score request)).foldl ProductionAccumulator.push (init request) := by
  induction indices generalizing init with
  | nil => rfl
  | cons index indices ih =>
    rw [List.foldl_cons]
    have hstep : List.zipWith (fun request accumulator =>
        accumulator.push (score request index)) requests (requests.map init) =
        requests.map fun request => (init request).push (score request index) := by
      rw [List.zipWith_map_right, List.zipWith_self]
    rw [hstep, ih]
    rfl

/-- The blocked scan fills each request's accumulator with its own candidates. -/
theorem scanProductionRequestBlock_eq (requests : List (RoutingRequest F))
    (coefficients : ScoreCoefficients F) (b : ValidatedBatch F) :
    scanProductionRequestBlock requests
        (requests.map fun request => ProductionAccumulator.new request.k) coefficients b =
      requests.map fun request =>
        (b.candidates request.vector coefficients).foldl ProductionAccumulator.push
          (ProductionAccumulator.new request.k) := by
  have hscore : ∀ request : RoutingRequest F,
      ((List.finRange b.routeTable.len).map fun index =>
        scoreCompactCandidateWithFactors request.vector (b.routeTable.agentId index)
          (b.routeTable.vector index) (.fromState (b.state index) coefficients)) =
        b.candidates request.vector coefficients :=
    fun request => List.map_congr_left fun index _ => score_with_factors _ _ _ _ _
  unfold scanProductionRequestBlock
  -- the blocks laid end to end are the rows in order
  rw [← List.foldl_flatMap, flatMap_blockStarts (show 0 < productionAgentBlock by decide)]
  simp only [← hscore]
  exact foldl_requestBlock requests _ (List.finRange b.routeTable.len) _

/-! One request's result, from its candidates. -/

/-- With debug output off, a request's result is its accumulator's. -/
theorem routeOneValidated_production {router : CpuRouter F} (hdebug : router.debugObserved = false)
    (request : RoutingRequest F) (b : ValidatedBatch F) :
    router.routeOneValidated request b =
      .ok (((b.candidates request.vector router.coefficients).foldl ProductionAccumulator.push
        (ProductionAccumulator.new request.k)).intoResult request) := by
  rw [foldl_accumulator]
  unfold CpuRouter.routeOneValidated
  by_cases hk : request.k = 1
  · rw [if_pos hk]
    unfold CpuRouter.routeOneBestValidated
    rw [scanCandidates_eq, foldl_pushBoth, hdebug]
    have hnew : (ProductionAccumulator.new request.k : ProductionAccumulator F) =
        ⟨.new .observed true, .best (.new .available true)⟩ := by
      rw [hk]
      rfl
    rw [hnew, foldl_available_best]
    rfl
  · have hnew : (ProductionAccumulator.new request.k : ProductionAccumulator F) =
        ⟨.new .observed (0 < request.k), .topK (.new request.k .available)⟩ := by
      unfold ProductionAccumulator.new ProductionAvailableAccumulator.new
      rw [if_neg hk]
    rw [if_neg hk, hdebug, if_neg Bool.false_ne_true, hnew, foldl_available_topK,
      scanCandidates_eq, foldl_pushBoth]
    rfl

/-- A validated request always has a result. -/
theorem routeOneValidated_ok (router : CpuRouter F) (request : RoutingRequest F)
    (b : ValidatedBatch F) : ∃ result, router.routeOneValidated request b = .ok result := by
  unfold CpuRouter.routeOneValidated CpuRouter.routeOneBestValidated
  split
  · exact ⟨_, rfl⟩
  · split <;> exact ⟨_, rfl⟩

/-! Both scans of a worker, request by request. -/

/-- The blocked scan computes each request's own result. -/
theorem production_eq {router : CpuRouter F} (hdebug : router.debugObserved = false)
    (requests : List (RoutingRequest F)) (b : ValidatedBatch F) :
    .ok (router.routeBatchValidatedProduction requests b) =
      requests.mapM fun request => router.routeOneValidated request b := by
  have hblock : ∀ requestBlock : List (RoutingRequest F),
      List.zipWith (fun request accumulator => accumulator.intoResult request) requestBlock
        (scanProductionRequestBlock requestBlock
          (requestBlock.map fun request => ProductionAccumulator.new request.k)
          router.coefficients b) =
      requestBlock.map fun request =>
        ((b.candidates request.vector router.coefficients).foldl ProductionAccumulator.push
          (ProductionAccumulator.new request.k)).intoResult request := by
    intro requestBlock
    rw [scanProductionRequestBlock_eq, List.zipWith_map_right, List.zipWith_self]
  rw [mapM_ok fun request _ => routeOneValidated_production hdebug request b]
  unfold CpuRouter.routeBatchValidatedProduction
  simp only [hblock]
  rw [List.flatMap_def, ← List.map_flatten, flatten_chunks (show 0 < productionRequestBlock by decide)]

/-- Whichever scan it takes, a worker's chunk is its requests one after another. -/
theorem workerChunk_eq (router : CpuRouter F) (requests : List (RoutingRequest F))
    (b : ValidatedBatch F) :
    router.routeBatchValidatedWorkerChunk requests b =
      requests.mapM fun request => router.routeOneValidated request b := by
  unfold CpuRouter.routeBatchValidatedWorkerChunk
  split
  · rfl
  · rename_i hblocked
    have hdebug : router.debugObserved = false := by
      rw [Bool.or_eq_true, not_or] at hblocked
      exact Bool.eq_false_iff.mpr hblocked.1
    exact production_eq hdebug requests b

/-! The batch. -/

/-- The worker threads' chunks, joined in order, are the whole list. -/
theorem workers_eq (router : CpuRouter F) {requests : List (RoutingRequest F)}
    (hne : requests ≠ []) (b : ValidatedBatch F) (workers : Nat) :
    (let workerCount := min (max workers 1) requests.length
      if workerCount = 1 then router.routeBatchValidatedWorkerChunk requests b
      else
        ((chunks (divCeil requests.length workerCount) requests).map fun chunk =>
          router.routeBatchValidatedWorkerChunk chunk b).foldlM
          (fun results chunkResults => return results ++ (← chunkResults)) []) =
      requests.mapM fun request => router.routeOneValidated request b := by
  have hlen : 0 < requests.length := List.length_pos_iff.mpr hne
  dsimp only
  split
  · exact workerChunk_eq router requests b
  · have hcount : 0 < min (max workers 1) requests.length := by omega
    have hsize : 0 < divCeil requests.length (min (max workers 1) requests.length) := by
      have := le_divCeil_mul hcount requests.length
      by_contra hzero
      rw [Nat.le_zero.mp (Nat.not_lt.mp hzero), Nat.zero_mul] at this
      omega
    have hchunk : (fun chunk => router.routeBatchValidatedWorkerChunk chunk b) =
        List.mapM fun request => router.routeOneValidated request b := by
      funext chunk
      exact workerChunk_eq router chunk b
    rw [hchunk, join_mapM, flatten_chunks hsize]
    cases requests.mapM fun request => router.routeOneValidated request b <;> rfl

/-- A batch that is accepted is routed request by request. -/
theorem routeBatchWithWorkers_validated {router : CpuRouter F} {requests : List (RoutingRequest F)}
    {states : List (AgentRuntimeState F)} {b : ValidatedBatch F}
    (hvalid : router.validateBatch requests states = .ok b) (workers : Nat) :
    router.routeBatchWithWorkers requests states workers =
      requests.mapM fun request => router.routeOneValidated request b := by
  by_cases hne : requests = []
  · subst hne
    rfl
  · unfold CpuRouter.routeBatchWithWorkers
    rw [if_neg (by rw [List.isEmpty_iff]; exact hne), hvalid]
    exact workers_eq router hne b workers

/-- One request on its own: the table's check, the request's check, the routing. -/
theorem routeOne_eq (router : CpuRouter F) (request : RoutingRequest F)
    (states : List (AgentRuntimeState F)) : router.routeOne request states = (do
      let b ← router.validateBatch [] states
      checkRequests b.routeTable.dimensions [request]
      router.routeOneValidated request b) := by
  unfold CpuRouter.routeOne CpuRouter.validateRequest
  rw [validateBatch_eq]
  cases router.validateBatch [] states with
  | error e => rfl
  | ok b =>
    show ((checkRequests b.routeTable.dimensions [request] >>= fun _ => pure b) >>=
      router.routeOneValidated request) =
      checkRequests b.routeTable.dimensions [request] >>= fun _ => router.routeOneValidated request b
    cases checkRequests b.routeTable.dimensions [request] <;> rfl

/-- A batch over any number of workers returns what the requests routed one after
another return: the same results in request order, or the same first error. -/
theorem batch_eq_sequential (router : CpuRouter F) (requests : List (RoutingRequest F))
    (states : List (AgentRuntimeState F)) (workers : Nat) :
    router.routeBatchWithWorkers requests states workers =
      requests.mapM fun request => router.routeOne request states := by
  cases hrequests : requests with
  | nil => rfl
  | cons first rest =>
    have hne : requests ≠ [] := by rw [hrequests]; exact List.cons_ne_nil first rest
    rw [← hrequests]
    simp only [routeOne_eq]
    unfold CpuRouter.routeBatchWithWorkers
    rw [if_neg (by rw [List.isEmpty_iff]; exact hne), validateBatch_eq]
    cases router.validateBatch [] states with
    | error e =>
      -- the table's own error comes first on either side
      rw [hrequests, List.mapM_cons]
      rfl
    | ok b =>
      show ((checkRequests b.routeTable.dimensions requests >>= fun _ => pure b) >>= _) =
        requests.mapM fun request => do
          checkRequests b.routeTable.dimensions [request]
          router.routeOneValidated request b
      rw [← check_then_route fun request => routeOneValidated_ok router request b]
      cases checkRequests b.routeTable.dimensions requests with
      | error e => rfl
      | ok u => exact workers_eq router hne b workers

end QTom.Router
