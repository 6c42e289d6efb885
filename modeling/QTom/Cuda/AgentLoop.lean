import QTom.Cuda.Host
import QTom.Router.RouteSpec

/- One thread of the kernel against the CPU's scan of its request. A thread's
   registers are the CPU's two winners under another encoding (`ThreadState.of`):
   one agent's turn is one push into each (`visit_of`), so the agent loop leaves the
   two winners of the scored agents in them (`agentLoop_eq`). -/
namespace QTom.Cuda
open QTom.Lib QTom.Router

/-! Reading packed rows. -/

section Reads
variable {F : Type}

/-- Coordinate `dim` of row `i`, read from the packed rows at a 32-bit offset. -/
theorem getElem?_packed {α : Type} {row : α → List F} {xs : List α} {d : Nat}
    (h : ∀ x ∈ xs, (row x).length = d) {i dim : Nat} (hi : i < xs.length)
    (hoffset : i * d < 2 ^ 32) (hdim : dim < (row xs[i]).length) :
    (xs.map row).flatten[wrap32 (i * d) + dim]? = (row xs[i])[dim]? := by
  have hrows : ∀ r ∈ xs.map row, r.length = d := List.forall_mem_map.mpr h
  have hi' : i < (xs.map row).length := by rw [List.length_map]; exact hi
  have hd : dim < d := by rw [← h _ (List.getElem_mem hi)]; exact hdim
  have hrow : slice (xs.map row).flatten d i = row xs[i] := by
    rw [slice_flatten hrows hi', List.getElem_map]
  rw [← hrow]
  unfold wrap32 slice
  rw [Nat.mod_eq_of_lt hoffset, List.getElem?_take_of_lt hd, List.getElem?_drop]

/-- One entry of a mapped array. -/
theorem getElem?_map_of_lt {α β : Type} (f : α → β) {xs : List α} {i : Nat} (hi : i < xs.length) :
    (xs.map f)[i]? = some (f xs[i]) := by
  rw [List.getElem?_map, List.getElem?_eq_getElem hi]
  rfl

/-- The distance loop over two rows of its length is the plain distance. -/
theorem qtomDistance_eq [F32 F] {left right : List F} {request agent : Nat → Option F}
    (hlen : left.length = right.length) (hrequest : ∀ dim < left.length, request dim = left[dim]?)
    (hagent : ∀ dim < right.length, agent dim = right[dim]?) :
    qtomDistance left.length request agent = some (distSq left right) := by
  have hzip : left.length = (left.zip right).length := by
    rw [List.length_zip, ← hlen, Nat.min_self]
  unfold qtomDistance distSq
  rw [hzip]
  apply foldlM_range
  intro distance dim hdim
  have hl : dim < left.length := by rw [hzip]; exact hdim
  have hr : dim < right.length := by rw [← hlen]; exact hl
  rw [hrequest dim hl, hagent dim hr, List.getElem?_eq_getElem hl, List.getElem?_eq_getElem hr,
    List.getElem_zip]
  rfl

theorem baseDistance_eq [F32 F] (d : Nat) (request agent : Nat → Option F) :
    baseDistance d request agent = qtomDistance d request agent := by
  unfold baseDistance
  split
  · rename_i h
    rw [h]
    rfl
  · rfl

/-- One turn of the agent loop, over the two rows it reads. -/
theorem agentStep_rows [F32 F] {args : KernelArgs F} {request : Nat → Option F}
    {left right : List F} {agentIdx agentId availability : Nat} {omega : F}
    (hleft : left.length = args.dimensions) (hright : right.length = args.dimensions)
    (hrequest : ∀ dim < left.length, request dim = left[dim]?)
    (hagent : ∀ dim < right.length,
      args.agentVectors[wrap32 (agentIdx * args.dimensions) + dim]? = right[dim]?)
    (hid : args.agentIds[agentIdx]? = some agentId)
    (havailability : args.availability[agentIdx]? = some availability)
    (homega : args.agentScoreWeights[agentIdx]? = some omega) (s : ThreadState F) :
    agentStep args request s agentIdx =
      some (s.visit agentId (availability != 0) omega (distSq left right)) := by
  have hdistance := qtomDistance_eq (hleft.trans hright.symm) hrequest hagent
  rw [hleft, ← baseDistance_eq] at hdistance
  unfold agentStep
  show (baseDistance args.dimensions request
      (fun dim => args.agentVectors[wrap32 (agentIdx * args.dimensions) + dim]?)).bind
    (fun baseDistance => args.agentIds[agentIdx]?.bind fun candidateAgentId =>
      args.availability[agentIdx]?.bind fun availability =>
        args.agentScoreWeights[agentIdx]?.bind fun omega =>
          some (s.visit candidateAgentId (availability != 0) omega baseDistance)) = _
  rw [hdistance, hid, havailability, homega]
  rfl

end Reads

/-! The agent loop is the CPU's scan. -/

section Loop
variable {K : Type}

/-- The registers that stand for the two winners. -/
def ThreadState.of (observed available : Option (CompactCandidate (WithTop K))) :
    ThreadState (WithTop K) where
  bestAgentId := (available.map RouteCandidate.agentId).getD 0
  bestEffectiveDistance := (available.map RouteCandidate.effectiveDistance).getD ⊤
  bestBaseDistance := (available.map RouteCandidate.baseDistance).getD ⊤
  bestAvailableSeen := available.isSome
  observedAgentId := (observed.map RouteCandidate.agentId).getD 0
  observedBaseDistance := (observed.map RouteCandidate.baseDistance).getD ⊤
  observedAvailable := (observed.map RouteCandidate.available).getD true

/-- The id a thread writes. -/
theorem ThreadState.agentId_of (observed available : Option (RouteCandidate (WithTop K))) :
    (if (ThreadState.of observed available).bestAvailableSeen
      then (ThreadState.of observed available).bestAgentId else 0) =
      (available.map RouteCandidate.agentId).getD 0 := by
  cases available <;> rfl

/-- The flag a thread writes. -/
theorem ThreadState.flag_of (observed available : Option (RouteCandidate (WithTop K))) :
    ((if (ThreadState.of observed available).observedAvailable then 0 else 1) != 0) =
      (observed.map fun c => !c.available).getD false := by
  cases observed with
  | none => rfl
  | some c =>
    show ((if c.available then 0 else 1) != 0) = !c.available
    cases c.available <;> rfl

variable [Ring K] [LinearOrder K]

/-- Over exact arithmetic the kernel's comparison is the router's. -/
theorem compareCandidate_lt {sort : CandidateSort} {a b : CompactCandidate (WithTop K)} :
    compareCandidate sort a b = .lt ↔
      sort.key a < sort.key b ∨ sort.key a = sort.key b ∧ a.agentId < b.agentId := by
  unfold compareCandidate
  rw [Ordering.then_eq_lt, Exact.totalCmp_lt, Exact.totalCmp_eq, Nat.compare_eq_lt]

/-- The kernel's comparison of a candidate with a tracked one. -/
theorem less_or_tie (sort : CandidateSort) (a b : CompactCandidate (WithTop K)) :
    (F32.lt (sort.key a) (sort.key b) ||
      F32.eq (sort.key a) (sort.key b) && decide (a.agentId < b.agentId)) =
      decide (compareCandidate sort a b = .lt) := by
  rw [Bool.eq_iff_iff, decide_eq_true_iff, compareCandidate_lt]
  show (decide (_ < _) || decide (_ = _) && decide _) = true ↔ _
  rw [Bool.or_eq_true, Bool.and_eq_true, decide_eq_true_iff, decide_eq_true_iff, decide_eq_true_iff]

theorem observe_of {ob : BestCandidate (WithTop K)} (hsort : ob.sort = .observed)
    (htrack : ob.trackIdeal = true) (av : Option (CompactCandidate (WithTop K)))
    {c : CompactCandidate (WithTop K)} (hfinite : c.baseDistance ≠ ⊤) :
    (ThreadState.of ob.best av).observe c.agentId c.available c.baseDistance =
      ThreadState.of (ob.push c).best av := by
  cases hb : ob.best with
  | none =>
    rw [BestCandidate.push_first htrack hb]
    -- the tracker starts at +inf, which any distance is below
    have hlt : F32.lt c.baseDistance (⊤ : WithTop K) = true :=
      decide_eq_true (lt_top_iff_ne_top.mpr hfinite)
    show (if (F32.lt c.baseDistance (⊤ : WithTop K) || _) = true then _ else _) = _
    rw [hlt]
    rfl
  | some b =>
    have hcond : (F32.lt c.baseDistance b.baseDistance ||
        F32.eq c.baseDistance b.baseDistance && decide (c.agentId < b.agentId)) =
        decide (compareCandidate .observed c b = .lt) := less_or_tie .observed c b
    show (if (F32.lt c.baseDistance b.baseDistance ||
      F32.eq c.baseDistance b.baseDistance && decide (c.agentId < b.agentId)) = true then _ else _) = _
    rw [hcond]
    by_cases hlt : compareCandidate .observed c b = .lt
    · rw [BestCandidate.push_better htrack hb (by rw [hsort]; exact hlt), decide_eq_true hlt]
      rfl
    · rw [BestCandidate.push_worse hb (by rw [hsort]; exact hlt), decide_eq_false hlt, hb]
      rfl

theorem offer_of {av : BestCandidate (WithTop K)} (hsort : av.sort = .available)
    (htrack : av.trackIdeal = true) (ob : Option (CompactCandidate (WithTop K)))
    (c : CompactCandidate (WithTop K)) :
    (ThreadState.of ob av.best).offer c.agentId c.available c.effectiveDistance c.baseDistance =
      ThreadState.of ob (if c.available then av.push c else av).best := by
  unfold ThreadState.offer
  cases hc : c.available with
  | false => rfl
  | true =>
    cases hb : av.best with
    | none =>
      -- the flag, not the distance, lets the first available agent in
      rw [if_pos rfl, BestCandidate.push_first htrack hb]
      rfl
    | some b =>
      have hcond : (F32.lt c.effectiveDistance b.effectiveDistance ||
          F32.eq c.effectiveDistance b.effectiveDistance && decide (c.agentId < b.agentId)) =
          decide (compareCandidate .available c b = .lt) := less_or_tie .available c b
      show (if (true && (!true || F32.lt c.effectiveDistance b.effectiveDistance ||
        F32.eq c.effectiveDistance b.effectiveDistance && decide (c.agentId < b.agentId))) = true
        then _ else _) = _
      rw [Bool.true_and, Bool.not_true, Bool.false_or, hcond, if_pos rfl]
      by_cases hlt : compareCandidate .available c b = .lt
      · rw [BestCandidate.push_better htrack hb (by rw [hsort]; exact hlt), decide_eq_true hlt]
        rfl
      · rw [BestCandidate.push_worse hb (by rw [hsort]; exact hlt), decide_eq_false hlt, hb]
        rfl

/-- One agent's turn is one push into each winner. -/
theorem visit_of {ob av : BestCandidate (WithTop K)} (hob : ob.sort = .observed)
    (hav : av.sort = .available) (hto : ob.trackIdeal = true) (hta : av.trackIdeal = true)
    {c : CompactCandidate (WithTop K)} (hfinite : c.baseDistance ≠ ⊤)
    (heff : c.effectiveDistance = if c.available then F32.mul c.baseDistance c.omega else ⊤) :
    (ThreadState.of ob.best av.best).visit c.agentId c.available c.omega c.baseDistance =
      ThreadState.of (ob.push c).best (if c.available then av.push c else av).best := by
  unfold ThreadState.visit
  rw [observe_of hob hto _ hfinite]
  show ThreadState.offer _ _ _ (if c.available then F32.mul c.baseDistance c.omega else ⊤) _ = _
  rw [← heff, offer_of hav hta]

/-- An agent's turn, over its candidate. -/
def ThreadState.visitCandidate (s : ThreadState (WithTop K)) (c : CompactCandidate (WithTop K)) :
    ThreadState (WithTop K) :=
  s.visit c.agentId c.available c.omega c.baseDistance

/-- The agent loop over candidates holds the two winners of the scan. -/
theorem loop_of {cs : List (CompactCandidate (WithTop K))} {ob av : BestCandidate (WithTop K)}
    (hfinite : ∀ c ∈ cs, c.baseDistance ≠ ⊤)
    (heff : ∀ c ∈ cs, c.effectiveDistance =
      if c.available then F32.mul c.baseDistance c.omega else ⊤)
    (hob : ob.sort = .observed) (hav : av.sort = .available)
    (hto : ob.trackIdeal = true) (hta : av.trackIdeal = true) :
    cs.foldl ThreadState.visitCandidate (ThreadState.of ob.best av.best) =
      ThreadState.of (cs.foldl BestCandidate.push ob).best
        ((cs.filter RouteCandidate.available).foldl BestCandidate.push av).best := by
  induction cs generalizing ob av with
  | nil => rfl
  | cons c cs ih =>
    have hstep := visit_of hob hav hto hta (hfinite c List.mem_cons_self)
      (heff c List.mem_cons_self)
    rw [List.foldl_cons, show ThreadState.visitCandidate _ c = _ from hstep, List.foldl_cons,
      List.filter_cons]
    have hfinite' := fun x hx => hfinite x (List.mem_cons_of_mem c hx)
    have heff' := fun x hx => heff x (List.mem_cons_of_mem c hx)
    -- an unavailable agent moves the observed winner only
    cases hc : c.available with
    | false =>
      exact ih hfinite' heff' ((ob.push_sort c).trans hob) hav
        ((ob.push_trackIdeal c).trans hto) hta
    | true =>
      exact ih hfinite' heff' ((ob.push_sort c).trans hob) ((av.push_sort c).trans hav)
        ((ob.push_trackIdeal c).trans hto) ((av.push_trackIdeal c).trans hta)

/-- The winner of a stream under a sort. -/
def winner (sort : CandidateSort) (scored : List (RouteCandidate (WithTop K))) :
    Option (RouteCandidate (WithTop K)) :=
  (sortBy (compareCandidate sort) scored).head?

/-- The registers after the scored agents. -/
def ThreadState.final (scored : List (RouteCandidate (WithTop K))) : ThreadState (WithTop K) :=
  .of (winner .observed scored) (winner .available (scored.filter RouteCandidate.available))

/-- An agent loop that visits the candidates of agents of distinct ids, at distances that are
numbers, leaves their two winners in the thread's registers. -/
theorem agentLoop_of {args : KernelArgs (WithTop K)} {taskIdx : Nat}
    {cs : List (CompactCandidate (WithTop K))} (hlen : args.agentCount = cs.length)
    (hstep : ∀ s i (hi : i < cs.length), agentStep args
      (fun dimIdx => args.requestVectors[wrap32 (taskIdx * args.dimensions) + dimIdx]?) s i =
        some (s.visitCandidate cs[i])) (hdistinct : Distinct cs)
    (hfinite : ∀ c ∈ cs, c.baseDistance ≠ ⊤)
    (heff : ∀ c ∈ cs, c.effectiveDistance =
      if c.available then F32.mul c.baseDistance c.omega else ⊤) :
    agentLoop args taskIdx = some (.final cs) := by
  unfold agentLoop
  rw [hlen]
  show (List.range _).foldlM (agentStep _ fun dimIdx =>
    args.requestVectors[wrap32 (taskIdx * args.dimensions) + dimIdx]?) ThreadState.start = _
  rw [foldlM_range hstep]
  have hloop := loop_of hfinite heff
    (show (BestCandidate.new .observed true).sort = .observed from rfl)
    (show (BestCandidate.new .available true).sort = .available from rfl) rfl rfl
  rw [BestCandidate.best_run _ (hdistinct.inj .observed),
    BestCandidate.best_run _ ((hdistinct.filter _).inj .available)] at hloop
  exact congrArg some hloop

/-! The thread of one request. -/

/-- The vector holds numbers: ⊤ is the sentinel, not a coordinate. -/
def Finite (vector : List (WithTop K)) : Prop := ∀ x ∈ vector, x ≠ ⊤

theorem distSq_ne_top {left right : List (WithTop K)} (hl : Finite left) (hr : Finite right) :
    distSq left right ≠ ⊤ := Exact.distSq_ne_top hl hr

/-- A batch the GPU path takes: agents of one dimension with distinct ids, a state
for each, and k=1 requests of that dimension, all over numbers. -/
structure KOneBatch (d : Nat) (agents : List (AgentProfile (WithTop K)))
    (states : List (AgentRuntimeState (WithTop K))) (requests : List (RoutingRequest (WithTop K))) :
    Prop where
  ids : (agents.map AgentProfile.id).Nodup
  uniform : AgentRouteTable.Uniform d agents
  states : states.length = agents.length
  dimension : ∀ r ∈ requests, r.vector.length = d
  one : ∀ r ∈ requests, r.k = 1
  agentsFinite : ∀ a ∈ agents, Finite a.vector
  requestsFinite : ∀ r ∈ requests, Finite r.vector

/-- Counts are u32 and no row offset wraps. -/
structure NoWrap (d agentCount requestCount : Nat) : Prop where
  dimensions : d < 2 ^ 32
  agents : agentCount < 2 ^ 32
  requests : requestCount < 2 ^ 32
  agentOffset : ∀ i < agentCount, i * d < 2 ^ 32
  requestOffset : ∀ j < requestCount, j * d < 2 ^ 32

variable {d : Nat} {agents : List (AgentProfile (WithTop K))}
  {states : List (AgentRuntimeState (WithTop K))} {requests : List (RoutingRequest (WithTop K))}

/-- The device's view of a batch. -/
def KOneBatch.args (h : KOneBatch d agents states requests)
    (coefficients : ScoreCoefficients (WithTop K)) : KernelArgs (WithTop K) :=
  kernelArgs (AgentRouteTable.ofAgents d agents h.uniform) requests
    (.fromRequestsAndStates requests states coefficients)

/-- Every scored agent's distance is a number. -/
theorem scored_finite (h : KOneBatch d agents states requests)
    (coefficients : ScoreCoefficients (WithTop K)) {request : RoutingRequest (WithTop K)}
    (hr : request ∈ requests) :
    ∀ c ∈ scoredAgents agents states request coefficients, c.baseDistance ≠ ⊤ := by
  intro c hc
  obtain ⟨agent, hagent, state, _, rfl⟩ := mem_scoredAgents hc
  show distSqBlocked request.vector agent.vector ≠ ⊤
  rw [Exact.distSqBlocked_eq_distSq (by rw [h.dimension request hr, h.uniform agent hagent])]
  exact distSq_ne_top (h.requestsFinite request hr) (h.agentsFinite agent hagent)

theorem scored_effective (agents : List (AgentProfile (WithTop K)))
    (states : List (AgentRuntimeState (WithTop K))) (request : RoutingRequest (WithTop K))
    (coefficients : ScoreCoefficients (WithTop K)) :
    ∀ c ∈ scoredAgents agents states request coefficients,
      c.effectiveDistance = if c.available then F32.mul c.baseDistance c.omega else ⊤ := by
  intro c hc
  obtain ⟨agent, _, state, _, rfl⟩ := mem_scoredAgents hc
  rfl

/-- One turn of a thread's agent loop visits that agent's candidate. -/
theorem agentStep_eq (h : KOneBatch d agents states requests)
    (hsize : NoWrap d agents.length requests.length) (coefficients : ScoreCoefficients (WithTop K))
    {j : Nat} (hj : j < requests.length) (s : ThreadState (WithTop K)) (i : Nat)
    (hi : i < (scoredAgents agents states requests[j] coefficients).length) :
    agentStep (h.args coefficients)
      (fun dimIdx => (h.args coefficients).requestVectors[wrap32 (j * d) + dimIdx]?) s i =
    some (s.visitCandidate (scoredAgents agents states requests[j] coefficients)[i]) := by
  have ha : i < agents.length := by
    rw [length_scoredAgents h.states] at hi
    exact hi
  have hs : i < states.length := by rw [h.states]; exact ha
  have hrow : agents[i].vector.length = d := h.uniform _ (List.getElem_mem ha)
  have hreq : requests[j].vector.length = d := h.dimension _ (List.getElem_mem hj)
  have hagent : ∀ dim < agents[i].vector.length,
      (agents.map AgentProfile.vector).flatten[wrap32 (i * d) + dim]? = agents[i].vector[dim]? :=
    fun dim hdim => getElem?_packed h.uniform ha (hsize.agentOffset i ha) hdim
  have hrequest : ∀ dim < requests[j].vector.length,
      (requests.map RoutingRequest.vector).flatten[wrap32 (j * d) + dim]? =
        requests[j].vector[dim]? :=
    fun dim hdim => getElem?_packed h.dimension hj (hsize.requestOffset j hj) hdim
  -- both rows lie inside their buffers at the offsets the kernel computes
  have hstep : agentStep (h.args coefficients) _ s i = _ := agentStep_rows hreq hrow hrequest hagent
    (getElem?_map_of_lt AgentProfile.id ha) (getElem?_map_of_lt AgentRuntimeState.availability hs)
    (getElem?_map_of_lt _ hs) s
  rw [← Exact.distSqBlocked_eq_distSq (hreq.trans hrow.symm)] at hstep
  rw [scoredAgents_getElem hi ha hs]
  exact hstep

/-- The agent loop leaves the two winners in the thread's registers. -/
theorem agentLoop_eq (h : KOneBatch d agents states requests)
    (hsize : NoWrap d agents.length requests.length) (coefficients : ScoreCoefficients (WithTop K))
    {j : Nat} (hj : j < requests.length) :
    agentLoop (h.args coefficients) j =
      some (.final (scoredAgents agents states requests[j] coefficients)) := by
  have hlen : (h.args coefficients).agentCount =
      (scoredAgents agents states requests[j] coefficients).length := by
    rw [length_scoredAgents h.states]
    exact List.length_map _
  exact agentLoop_of hlen (fun s i hi => agentStep_eq h hsize coefficients hj s i hi)
    (distinct_scoredAgents h.ids h.states requests[j] coefficients)
    (scored_finite h coefficients (List.getElem_mem hj))
    (scored_effective agents states requests[j] coefficients)

end Loop

end QTom.Cuda
