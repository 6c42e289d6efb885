import QTom.Cuda.AgentLoop

/- The GPU makes the CPU's k=1 decisions, except where an agent of id 0 wins
   (`k_one_parity`). A launch in any order leaves each thread's registers in its
   slot (`launch_stored`). The decoder reads the winner's id back and takes 0 for no
   winner, which is also an id: it returns every winner but one (`decode_stored`). -/
namespace QTom.Cuda
open QTom.Lib QTom.Router

/-! The launch. -/

section Launch
variable {F : Type} [F32 F]

/-- Slot `j` holds what the thread with these registers writes. -/
structure Stored (out : CudaRouteKernelOutput F) (j : Nat) (s : ThreadState F) : Prop where
  agentId : out.agentIds[j]? = some (if s.bestAvailableSeen then s.bestAgentId else 0)
  effectiveDistance : out.effectiveDistances[j]? = some s.bestEffectiveDistance
  baseDistance : out.baseDistances[j]? = some s.bestBaseDistance
  flag : out.flags[j]? = some (if s.observedAvailable then 0 else 1)

/-- The buffers after the visited threads, thread `j` ending in `state j`. -/
def CudaRouteKernelOutput.after (workspace : CudaRouteKernelOutput F) (state : Nat → ThreadState F)
    (visited : List Nat) : CudaRouteKernelOutput F where
  agentIds := written workspace.agentIds
    (fun j => if (state j).bestAvailableSeen then (state j).bestAgentId else 0) visited
  effectiveDistances :=
    written workspace.effectiveDistances (fun j => (state j).bestEffectiveDistance) visited
  baseDistances := written workspace.baseDistances (fun j => (state j).bestBaseDistance) visited
  flags := written workspace.flags (fun j => if (state j).observedAvailable then 0 else 1) visited

variable {args : KernelArgs F} {state : Nat → ThreadState F} {workspace : CudaRouteKernelOutput F}

/-- One thread visits its slot; an idle one visits none. -/
theorem routeAgentsK1_after (hplan : workspace.Planned args.requestCount)
    (hrun : ∀ j < args.requestCount, agentLoop args j = some (state j))
    (config : CudaKernelLaunchConfig) (visited : List Nat) (t : ThreadId) :
    routeAgentsK1 args config (workspace.after state visited) t =
      some (workspace.after state (visited ++ [t.taskIdx config])) := by
  have hids := hplan.agentIds
  have heffective := hplan.effectiveDistances
  have hbase := hplan.baseDistances
  have hflags := hplan.flags
  unfold routeAgentsK1
  by_cases hidle : t.taskIdx config ≥ args.requestCount
  · -- a thread past the requests writes nothing
    rw [if_pos hidle]
    unfold CudaRouteKernelOutput.after
    rw [written_past _ _ (by omega), written_past _ _ (by omega), written_past _ _ (by omega),
      written_past _ _ (by omega)]
  · have hlt : t.taskIdx config < args.requestCount := Nat.lt_of_not_le hidle
    rw [if_neg hidle, hrun _ hlt]
    show store _ _ (state _) = _
    unfold store CudaRouteKernelOutput.after
    dsimp only
    rw [write_written _ _ (show t.taskIdx config < workspace.agentIds.length by omega)]
    show (write _ _ _ >>= _) = _
    rw [write_written _ _ (show t.taskIdx config < workspace.effectiveDistances.length by omega)]
    show (write _ _ _ >>= _) = _
    rw [write_written _ _ (show t.taskIdx config < workspace.baseDistances.length by omega)]
    show (write _ _ _ >>= _) = _
    rw [write_written _ _ (show t.taskIdx config < workspace.flags.length by omega)]
    rfl

theorem launch_after (hplan : workspace.Planned args.requestCount)
    (hrun : ∀ j < args.requestCount, agentLoop args j = some (state j))
    (config : CudaKernelLaunchConfig) (order : List ThreadId) (visited : List Nat) :
    launch args config order (workspace.after state visited) =
      some (workspace.after state (visited ++ order.map (ThreadId.taskIdx config))) := by
  unfold launch
  induction order generalizing visited with
  | nil => simp
  | cons t order ih =>
    rw [List.foldlM_cons, routeAgentsK1_after hplan hrun]
    show List.foldlM _ _ order = _
    rw [ih, List.append_assoc]
    rfl

/-- A launch writes every slot, whatever order its threads run in and whatever the
buffers held. -/
theorem launch_stored (hplan : workspace.Planned args.requestCount)
    (hcount : args.requestCount < 2 ^ 32)
    (hrun : ∀ j < args.requestCount, agentLoop args j = some (state j)) {order : List ThreadId}
    (horder : order.Perm (for1dThreadCount args.requestCount routeAgentsK1BlockDimX).threads) :
    ∃ out, launch args (for1dThreadCount args.requestCount routeAgentsK1BlockDimX) order
        workspace = some out ∧ ∀ j < args.requestCount, Stored out j (state j) := by
  have hstart : workspace = workspace.after state [] := by
    unfold CudaRouteKernelOutput.after
    simp only [written_nil]
  have hlaunch := launch_after hplan hrun
    (for1dThreadCount args.requestCount routeAgentsK1BlockDimX) order []
  rw [← hstart] at hlaunch
  refine ⟨_, hlaunch, ?_⟩
  intro j hj
  obtain ⟨t, hmem, ht⟩ := exists_thread hcount hj
  have hvisited : j ∈ [] ++ order.map (ThreadId.taskIdx
      (for1dThreadCount args.requestCount routeAgentsK1BlockDimX)) := by
    rw [List.nil_append]
    exact List.mem_map.mpr ⟨t, horder.mem_iff.mpr hmem, ht⟩
  exact ⟨written_read _ _ (by rw [hplan.agentIds]; exact hj) hvisited,
    written_read _ _ (by rw [hplan.effectiveDistances]; exact hj) hvisited,
    written_read _ _ (by rw [hplan.baseDistances]; exact hj) hvisited,
    written_read _ _ (by rw [hplan.flags]; exact hj) hvisited⟩

end Launch

/-! The decoder. -/

/-- With distinct ids the index finds every agent's own row. -/
theorem lookup_agentIndexById {F : Type} {table : AgentRouteTable F} (hids : table.agentIds.Nodup)
    {i id : Nat} (hget : table.agentIds[i]? = some id) :
    (agentIndexById table).lookup id = some (id, i) := by
  have hrow : (id, i) ∈ table.agentIds.zipIdx := List.mem_zipIdx_iff_getElem?.mpr hget
  have hsome : ∃ row, lastOf (fun row : Nat × Nat => some row.1) id table.agentIds.zipIdx =
      some row := lastOf_isSome hrow rfl
  obtain ⟨⟨id', i'⟩, hlast⟩ := hsome
  obtain ⟨hmem, hkey⟩ := lastOf_mem hlast
  have hid : id' = id := Option.some.inj hkey
  subst hid
  have hget' : table.agentIds[i']? = some id' := List.mem_zipIdx_iff_getElem?.mp hmem
  -- the row found has the id of row `i`, so it is row `i`
  have hsame : i = i' := by
    apply (List.getElem?_inj (List.getElem?_eq_some_iff.mp hget).1 hids).mp
    exact hget.trans hget'.symm
  unfold agentIndexById
  rw [lookup_index, hlast, hsame]

section Decode
variable {K : Type} [Ring K] [LinearOrder K] {d : Nat} {agents : List (AgentProfile (WithTop K))}
  {states : List (AgentRuntimeState (WithTop K))} {requests : List (RoutingRequest (WithTop K))}

/-- Decoding an available candidate's id and distances gives that candidate. -/
theorem decodeCandidate_eq (h : KOneBatch d agents states requests)
    (coefficients : ScoreCoefficients (WithTop K)) {request : RoutingRequest (WithTop K)}
    {c : RouteCandidate (WithTop K)} (hc : c ∈ scoredAgents agents states request coefficients)
    (havail : c.available = true) :
    ∃ row state, (agentIndexById (AgentRouteTable.ofAgents d agents h.uniform)).lookup c.agentId =
        some row ∧ states[row.2]? = some state ∧
      decodeCandidate c.agentId c.effectiveDistance c.baseDistance state coefficients = c := by
  obtain ⟨i, hi, rfl⟩ := List.getElem_of_mem hc
  have ha : i < agents.length := by
    rw [length_scoredAgents h.states] at hi
    exact hi
  have hs : i < states.length := by rw [h.states]; exact ha
  rw [scoredAgents_getElem hi ha hs] at havail ⊢
  have hlookup : (agentIndexById (AgentRouteTable.ofAgents d agents h.uniform)).lookup agents[i].id =
      some (agents[i].id, i) := lookup_agentIndexById h.ids (getElem?_map_of_lt AgentProfile.id ha)
  refine ⟨_, states[i], hlookup, List.getElem?_eq_getElem hs, ?_⟩
  show { scoreCompactCandidate _ _ _ _ states[i] with available := true } = _
  rw [← havail]

/-- What the decoder makes of the scored agents' registers. -/
def decoded (request : RoutingRequest (WithTop K)) (scored : List (RouteCandidate (WithTop K))) :
    RoutingResult (WithTop K) :=
  finish request
    ((winner .available (scored.filter RouteCandidate.available)).filter fun c =>
      c.agentId != 0).toList
    (((winner .observed scored).map fun c => !c.available).getD false) none

/-- A slot's candidate is its available winner, but for a winner of id 0. -/
theorem decodeAvailable_stored (h : KOneBatch d agents states requests)
    (coefficients : ScoreCoefficients (WithTop K)) {request : RoutingRequest (WithTop K)}
    {out : CudaRouteKernelOutput (WithTop K)} {j : Nat}
    {observed available : Option (RouteCandidate (WithTop K))}
    (hstored : Stored out j (ThreadState.of observed available))
    (hscored : ∀ c, available = some c →
      c ∈ scoredAgents agents states request coefficients ∧ c.available = true) :
    decodeAvailable (AgentRouteTable.ofAgents d agents h.uniform) coefficients states out j
        ((available.map RouteCandidate.agentId).getD 0) =
      some (available.filter fun c => c.agentId != 0).toList := by
  unfold decodeAvailable
  rw [hstored.effectiveDistance, hstored.baseDistance]
  cases hw : available with
  | none => rfl
  | some c =>
    show (if c.agentId ≠ 0 then _ else _) = _
    by_cases hzero : c.agentId = 0
    · -- a winner of id 0 reads as no winner
      rw [if_neg (not_not.mpr hzero), Option.filter_some, if_neg (by simp [hzero])]
      rfl
    · obtain ⟨hmem, havail⟩ := hscored c hw
      obtain ⟨row, state, hrow, hstate, hdecode⟩ := decodeCandidate_eq h coefficients hmem havail
      rw [if_pos hzero, Option.filter_some, if_pos (by simp [hzero])]
      show ((agentIndexById _).lookup c.agentId).bind (fun row => states[row.2]?.bind fun state =>
        some [decodeCandidate c.agentId c.effectiveDistance c.baseDistance state coefficients]) =
        some [c]
      rw [hrow]
      show states[row.2]?.bind _ = _
      rw [hstate]
      show some [decodeCandidate _ _ _ _ _] = _
      rw [hdecode]

/-- A slot decodes to its request's result. -/
theorem decode_stored (h : KOneBatch d agents states requests)
    (coefficients : ScoreCoefficients (WithTop K)) {request : RoutingRequest (WithTop K)}
    {out : CudaRouteKernelOutput (WithTop K)} {j : Nat}
    (hstored : Stored out j (.final (scoredAgents agents states request coefficients))) :
    decodeKOneResult (AgentRouteTable.ofAgents d agents h.uniform) coefficients states out request j =
      some (decoded request (scoredAgents agents states request coefficients)) := by
  have hscored : ∀ c, winner .available ((scoredAgents agents states request coefficients).filter
      RouteCandidate.available) = some c →
      c ∈ scoredAgents agents states request coefficients ∧ c.available = true :=
    fun c hc => List.mem_filter.mp (mem_sortBy.mp (List.mem_of_head? hc))
  unfold decodeKOneResult decoded
  rw [hstored.agentId, hstored.flag]
  unfold ThreadState.final at hstored ⊢
  rw [ThreadState.agentId_of]
  show (decodeAvailable _ _ _ _ _ _).bind _ = _
  rw [decodeAvailable_stored h coefficients hstored hscored]
  show some (finish request _ _ none) = _
  rw [ThreadState.flag_of]

/-! Where the two results differ. -/

/-- An available agent of id 0 is the nearest of the available ones. -/
def ZeroWins (scored : List (RouteCandidate (WithTop K))) : Prop :=
  ∃ c ∈ scored, c.available = true ∧ c.agentId = 0 ∧
    ∀ c' ∈ scored, c'.available = true → c.effectiveDistance ≤ c'.effectiveDistance

instance (scored : List (RouteCandidate (WithTop K))) : Decidable (ZeroWins scored) :=
  inferInstanceAs (Decidable (∃ c ∈ scored, c.available = true ∧ c.agentId = 0 ∧
    ∀ c' ∈ scored, c'.available = true → c.effectiveDistance ≤ c'.effectiveDistance))

/-- Id 0 comes first among equal distances. -/
theorem compareCandidate_zero {c c' : RouteCandidate (WithTop K)} (hzero : c.agentId = 0) :
    (compareCandidate .available c c').isLE = true ↔ c.effectiveDistance ≤ c'.effectiveDistance := by
  have hid : (compare c.agentId c'.agentId).isLE = true := by
    rw [hzero]
    exact Nat.isLE_compare.mpr (Nat.zero_le _)
  unfold compareCandidate
  rw [Ordering.isLE_then_iff_or, Exact.totalCmp_lt, Exact.totalCmp_eq, le_iff_lt_or_eq]
  exact or_congr_right (and_iff_left hid)

theorem zeroWins_iff {scored : List (RouteCandidate (WithTop K))} (h : Distinct scored) :
    ZeroWins scored ↔
      ∃ c, winner .available (scored.filter RouteCandidate.available) = some c ∧ c.agentId = 0 := by
  have hhead : ∀ c, winner .available (scored.filter RouteCandidate.available) = some c ↔ _ :=
    fun c => head?_sortBy_iff ((h.filter RouteCandidate.available).inj .available)
  refine ⟨?_, ?_⟩
  · intro ⟨c, hc, havail, hzero, hle⟩
    refine ⟨c, (hhead c).mpr ⟨List.mem_filter.mpr ⟨hc, havail⟩, ?_⟩, hzero⟩
    intro c' hc'
    obtain ⟨hmem, havail'⟩ := List.mem_filter.mp hc'
    exact (compareCandidate_zero hzero).mpr (hle c' hmem havail')
  · intro ⟨c, hw, hzero⟩
    obtain ⟨hc, hle⟩ := (hhead c).mp hw
    obtain ⟨hmem, havail⟩ := List.mem_filter.mp hc
    refine ⟨c, hmem, havail, hzero, ?_⟩
    intro c' hmem' havail'
    exact (compareCandidate_zero hzero).mp (hle c' (List.mem_filter.mpr ⟨hmem', havail'⟩))

/-- Dropping a winner changes the result: it ends in the fallback alone, where the
CPU's names the winner. -/
theorem finish_filter_iff (request : RoutingRequest (WithTop K))
    (available : Option (RouteCandidate (WithTop K))) (ideal : Bool) :
    finish request (available.filter fun c => c.agentId != 0).toList ideal none =
        finish request available.toList ideal none ↔
      ¬ ∃ c, available = some c ∧ c.agentId = 0 := by
  cases available with
  | none => simp
  | some c =>
    rw [Option.filter_some]
    by_cases hzero : c.agentId = 0
    · rw [if_neg (by simp [hzero])]
      refine ⟨fun heq => ?_, fun hno => absurd ⟨c, rfl, hzero⟩ hno⟩
      have hused : true = (finish request [c] ideal none).usedFallback :=
        congrArg RoutingResult.usedFallback heq
      have hlen : 1 = (finish request [c] ideal none).availableCandidates.length :=
        congrArg (fun r => r.availableCandidates.length) heq
      -- the CPU's list holds the winner too
      have htwo : (finish request [c] ideal none).availableCandidates.length = 2 := by
        show (if (finish request [c] ideal none).usedFallback then _ else _ : List _).length = 2
        rw [← hused]
        rfl
      omega
    · rw [if_pos (by simp [hzero])]
      refine ⟨fun _ => ?_, fun _ => rfl⟩
      intro ⟨c', hc', hzero'⟩
      rw [← Option.some.inj hc'] at hzero'
      exact hzero hzero'

/-- A decoded result is the CPU's unless id 0 wins. -/
theorem decoded_eq_iff {request : RoutingRequest (WithTop K)} (hk : request.k = 1)
    {scored : List (RouteCandidate (WithTop K))} (h : Distinct scored) :
    decoded request scored = specResult false request scored ↔ ¬ ZeroWins scored := by
  have hspec : specResult false request scored =
      finish request (winner .available (scored.filter RouteCandidate.available)).toList
        (((winner .observed scored).map fun c => !c.available).getD false) none := by
    unfold specResult idealUnavailable
    rw [head?_topOf (by rw [hk]; exact Nat.one_ne_zero)]
    unfold winner topOf
    rw [toList_head?, hk]
    rfl
  rw [hspec, zeroWins_iff h]
  exact finish_filter_iff request _ _

/-- What the GPU path returns. -/
theorem executeWithPreparedWorkspace_eq (h : KOneBatch d agents states requests)
    (hsize : NoWrap d agents.length requests.length) {workspace : CudaRouteKernelOutput (WithTop K)}
    (hplan : workspace.Planned requests.length) (coefficients : ScoreCoefficients (WithTop K))
    {order : List ThreadId}
    (horder : order.Perm (for1dThreadCount requests.length routeAgentsK1BlockDimX).threads) :
    executeWithPreparedWorkspace workspace (AgentRouteTable.ofAgents d agents h.uniform) coefficients
        requests states (.fromRequestsAndStates requests states coefficients) order =
      some (requests.map fun request =>
        decoded request (scoredAgents agents states request coefficients)) := by
  have hrun : ∀ j < (h.args coefficients).requestCount, agentLoop (h.args coefficients) j =
      some ((agentLoop (h.args coefficients) j).getD ThreadState.start) := by
    intro j hj
    rw [agentLoop_eq h hsize coefficients hj]
    rfl
  obtain ⟨out, hlaunch, hstored⟩ := launch_stored hplan hsize.requests hrun horder
  have hout : launch (h.args coefficients)
      (for1dThreadCount requests.length routeAgentsK1BlockDimX) order workspace =
      some out := hlaunch
  unfold executeWithPreparedWorkspace
  show (launch (h.args coefficients) _ order workspace).bind
    (decodeKOneResults _ coefficients requests states) = _
  rw [hout]
  show requests.zipIdx.mapM _ = _
  have hslot : ∀ entry ∈ requests.zipIdx,
      decodeKOneResult (AgentRouteTable.ofAgents d agents h.uniform) coefficients states out
          entry.1 entry.2 =
        some (decoded entry.1 (scoredAgents agents states entry.1 coefficients)) := by
    intro ⟨request, j⟩ hmem
    obtain ⟨hj, hget⟩ := List.getElem?_eq_some_iff.mp (List.mem_zipIdx_iff_getElem?.mp hmem)
    have hregisters := hstored j hj
    rw [agentLoop_eq h hsize coefficients hj, hget] at hregisters
    exact decode_stored h coefficients hregisters
  calc requests.zipIdx.mapM _
      = some (requests.zipIdx.map fun entry =>
          decoded entry.1 (scoredAgents agents states entry.1 coefficients)) := mapM_some hslot
    _ = some ((requests.zipIdx.map Prod.fst).map fun request =>
          decoded request (scoredAgents agents states request coefficients)) := by
        rw [List.map_map]
        rfl
    _ = _ := by rw [List.zipIdx_map_fst]

/-- Over exact arithmetic, for agents with distinct ids, a state for each, a batch of
k=1 requests and sizes that fit 32 bits, whatever the output buffers held and
whatever order the threads run in: the GPU path returns the results the CPU router
returns without debug output if and only if for no request an available agent of id 0
is the nearest available one. -/
theorem k_one_parity (h : KOneBatch d agents states requests)
    (hsize : NoWrap d agents.length requests.length) (hne : agents ≠ [])
    {workspace : CudaRouteKernelOutput (WithTop K)} (hplan : workspace.Planned requests.length)
    (coefficients : ScoreCoefficients (WithTop K)) {order : List ThreadId}
    (horder : order.Perm (for1dThreadCount requests.length routeAgentsK1BlockDimX).threads) :
    (∃ table results, AgentRouteTable.fromAgents agents = .ok table ∧
        executeWithPreparedWorkspace workspace table coefficients requests states
          (.fromRequestsAndStates requests states coefficients) order = some results ∧
        requests.mapM (fun request => ((CpuRouter.new agents coefficients).withDebugObserved
          false).routeOne request states) = .ok results) ↔
      ∀ request ∈ requests, ¬ ZeroWins (scoredAgents agents states request coefficients) := by
  have htable := AgentRouteTable.fromAgents_uniform h.uniform hne
  have hgpu := executeWithPreparedWorkspace_eq h hsize hplan coefficients horder
  have hcpu := mapM_ok fun request hr => routeOne_spec coefficients false h.ids h.uniform h.states
    (h.dimension request hr) hne
  have hiff : ∀ request ∈ requests, _ ↔
      ¬ ZeroWins (scoredAgents agents states request coefficients) :=
    fun request hr => decoded_eq_iff (h.one request hr)
      (distinct_scoredAgents h.ids h.states request coefficients)
  refine ⟨?_, ?_⟩
  · intro ⟨table, results, hok, hresults, hroutes⟩
    rw [htable] at hok
    obtain rfl := Except.ok.inj hok
    rw [hgpu] at hresults
    rw [hcpu] at hroutes
    have heq := (Option.some.inj hresults).trans (Except.ok.inj hroutes).symm
    intro request hr
    exact (hiff request hr).mp (List.map_inj_left.mp heq request hr)
  · intro hno
    refine ⟨_, _, htable, hgpu, ?_⟩
    rw [hcpu]
    exact congrArg Except.ok (List.map_congr_left fun request hr =>
      ((hiff request hr).mpr (hno request hr)).symm)

end Decode

/-- Two available agents, of which the farther has id 0. -/
def mixedAgents : List (AgentProfile (WithTop Int)) :=
  [⟨7, [1, 0], ⟨0, 0, 0, 0, 0, 0⟩⟩, ⟨0, [1, 1], ⟨0, 0, 0, 0, 0, 0⟩⟩]

def mixedStates : List (AgentRuntimeState (WithTop Int)) := [⟨0, 0, 0, 1⟩, ⟨1, 0, 0, 1⟩]

def mixedRequests : List (RoutingRequest (WithTop Int)) :=
  [⟨1, [0, 0], 1, 99, 1⟩, ⟨2, [1, 0], 1, 99, 0⟩]

/-- Buffers an earlier launch has used. -/
def mixedWorkspace : CudaRouteKernelOutput (WithTop Int) := ⟨[5, 5], [1, 1], [1, 1], [1, 1]⟩

theorem mixed_batch : KOneBatch 2 mixedAgents mixedStates mixedRequests where
  ids := by decide
  uniform := by show ∀ agent ∈ mixedAgents, agent.vector.length = 2; decide
  states := rfl
  dimension := by decide
  one := by decide
  agentsFinite := by show ∀ agent ∈ mixedAgents, ∀ x ∈ agent.vector, x ≠ ⊤; decide
  requestsFinite := by show ∀ request ∈ mixedRequests, ∀ x ∈ request.vector, x ≠ ⊤; decide

/-- The threads run last to first. -/
theorem k_one_parity_mixed : ∃ table results, AgentRouteTable.fromAgents mixedAgents = .ok table ∧
    executeWithPreparedWorkspace mixedWorkspace table ⟨1, 1, 1⟩ mixedRequests mixedStates
      (.fromRequestsAndStates mixedRequests mixedStates ⟨1, 1, 1⟩)
      (for1dThreadCount 2 routeAgentsK1BlockDimX).threads.reverse = some results ∧
    mixedRequests.mapM (fun request => ((CpuRouter.new mixedAgents ⟨1, 1, 1⟩).withDebugObserved
      false).routeOne request mixedStates) = .ok results :=
  (k_one_parity mixed_batch ⟨by decide, by decide, by decide, by decide, by decide⟩
    (List.cons_ne_nil _ _) (show mixedWorkspace.Planned 2 from ⟨rfl, rfl, rfl, rfl⟩) ⟨1, 1, 1⟩
    (List.reverse_perm _)).mpr (by decide)

/-- One agent, available, of id 0. -/
def zeroAgents : List (AgentProfile (WithTop Int)) := [⟨0, [0], ⟨0, 0, 0, 0, 0, 0⟩⟩]

def zeroStates : List (AgentRuntimeState (WithTop Int)) := [⟨0, 0, 0, 1⟩]

def zeroRequest : RoutingRequest (WithTop Int) := ⟨1, [0], 1, 99, 1⟩

def zeroWorkspace : CudaRouteKernelOutput (WithTop Int) := ⟨[5], [1], [1], [1]⟩

theorem zero_batch : KOneBatch 1 zeroAgents zeroStates [zeroRequest] where
  ids := by decide
  uniform := by show ∀ agent ∈ zeroAgents, agent.vector.length = 1; decide
  states := rfl
  dimension := by decide
  one := by decide
  agentsFinite := by show ∀ agent ∈ zeroAgents, ∀ x ∈ agent.vector, x ≠ ⊤; decide
  requestsFinite := by show ∀ request ∈ [zeroRequest], ∀ x ∈ request.vector, x ≠ ⊤; decide

/-- The CPU selects agent 0 and needs no fallback; the GPU falls back. -/
theorem zero_winner_lost : KOneBatch 1 zeroAgents zeroStates [zeroRequest] ∧ NoWrap 1 1 1 ∧
    ¬ ∃ table results, AgentRouteTable.fromAgents zeroAgents = .ok table ∧
      executeWithPreparedWorkspace zeroWorkspace table ⟨1, 1, 1⟩ [zeroRequest] zeroStates
        (.fromRequestsAndStates [zeroRequest] zeroStates ⟨1, 1, 1⟩)
        (for1dThreadCount 1 routeAgentsK1BlockDimX).threads = some results ∧
      [zeroRequest].mapM (fun request => ((CpuRouter.new zeroAgents ⟨1, 1, 1⟩).withDebugObserved
        false).routeOne request zeroStates) = .ok results := by
  have hgpu : (executeWithPreparedWorkspace zeroWorkspace
      (AgentRouteTable.ofAgents 1 zeroAgents zero_batch.uniform) ⟨1, 1, 1⟩ [zeroRequest] zeroStates
      (.fromRequestsAndStates [zeroRequest] zeroStates ⟨1, 1, 1⟩)
      (for1dThreadCount 1 routeAgentsK1BlockDimX).threads).map
      (List.map RoutingResult.usedFallback) = some [true] := by decide +kernel
  have hcpu : ([zeroRequest].mapM fun request => ((CpuRouter.new zeroAgents
      ⟨1, 1, 1⟩).withDebugObserved false).routeOne request zeroStates).map
      (List.map RoutingResult.usedFallback) = .ok [false] := by decide +kernel
  refine ⟨zero_batch, ⟨by decide, by decide, by decide, by decide, by decide⟩, ?_⟩
  intro ⟨table, results, htable, hresults, hroutes⟩
  rw [AgentRouteTable.fromAgents_uniform zero_batch.uniform (List.cons_ne_nil _ _)] at htable
  obtain rfl := Except.ok.inj htable
  rw [hresults] at hgpu
  rw [hroutes] at hcpu
  have hsame := (Option.some.inj hgpu).symm.trans (Except.ok.inj hcpu)
  cases hsame

end QTom.Cuda
