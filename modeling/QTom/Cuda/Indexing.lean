import QTom.Cuda.AgentLoop
import QTom.Cuda.BufferPlan

/- The kernel's indexes against the plan it was launched with. The grid reaches every
   request and no thread index wraps. The row offsets are 32-bit products the host
   does not check: `indexes_in_range_iff` says when they are the true ones. A wrapped
   offset still lies in its buffer (`agentLoop_reads`), so the kernel reads a wrong
   row and reports nothing. -/
namespace QTom.Cuda
open QTom.Lib QTom.Router
variable {F : Type}

/-! Offsets. -/

/-- `request_offset` of a thread. -/
def KernelArgs.requestOffset (args : KernelArgs F) (taskIdx : Nat) : Nat :=
  wrap32 (taskIdx * args.dimensions)

/-- `agent_offset` of a turn of the agent loop. -/
def KernelArgs.agentOffset (args : KernelArgs F) (agentIdx : Nat) : Nat :=
  wrap32 (agentIdx * args.dimensions)

/-- The agent loop reads at these offsets. -/
theorem agentLoop_offsets [F32 F] (args : KernelArgs F) (taskIdx : Nat) :
    agentLoop args taskIdx = (List.range args.agentCount).foldlM (fun s agentIdx => do
      let base ← baseDistance args.dimensions
        (fun dimIdx => args.requestVectors[args.requestOffset taskIdx + dimIdx]?)
        (fun dimIdx => args.agentVectors[args.agentOffset agentIdx + dimIdx]?)
      let candidateAgentId ← args.agentIds[agentIdx]?
      let availability ← args.availability[agentIdx]?
      let omega ← args.agentScoreWeights[agentIdx]?
      return s.visit candidateAgentId (availability != 0) omega base) ThreadState.start :=
  rfl

/-- A product wraps to itself exactly below 2^32. -/
theorem wrap32_eq_iff {n : Nat} : wrap32 n = n ↔ n < 2 ^ 32 := by
  show n % 2 ^ 32 = n ↔ _
  omega

theorem wrap32_le (n : Nat) : wrap32 n ≤ n := Nat.mod_le n _

/-- Row `i` of `count` packed rows lies in the buffer, wrapped or not. -/
theorem row_in_buffer {i count d : Nat} (hi : i < count) : wrap32 (i * d) + d ≤ count * d := by
  have hrow : (i + 1) * d ≤ count * d := Nat.mul_le_mul_right d hi
  have hwrap := wrap32_le (i * d)
  rw [Nat.add_mul, Nat.one_mul] at hrow
  omega

/-- All offsets of `count` rows are true when the last one's is. -/
theorem offsets_true_iff {count d : Nat} :
    (∀ i < count, wrap32 (i * d) = i * d) ↔ (count - 1) * d < 2 ^ 32 := by
  simp only [wrap32_eq_iff]
  refine ⟨?_, ?_⟩
  · intro h
    rcases Nat.eq_zero_or_pos count with hzero | hpos
    · rw [hzero, Nat.zero_sub, Nat.zero_mul]
      decide
    · exact h (count - 1) (by omega)
  · intro h i hi
    have hle : i * d ≤ (count - 1) * d := Nat.mul_le_mul_right d (by omega)
    exact Nat.lt_of_le_of_lt hle h

/-! A thread's reads and writes. -/

/-- Buffers and counts as an accepted plan has them. -/
structure KernelArgs.Sized (args : KernelArgs F) : Prop where
  agentVectors : args.agentVectors.length = args.agentCount * args.dimensions
  agentIds : args.agentIds.length = args.agentCount
  requestVectors : args.requestVectors.length = args.requestCount * args.dimensions
  agentScoreWeights : args.agentScoreWeights.length = args.agentCount
  availability : args.availability.length = args.agentCount
  agents : args.agentCount < 2 ^ 32
  requests : args.requestCount < 2 ^ 32

theorem getElem?_exists {α : Type} {xs : List α} {i : Nat} (hi : i < xs.length) :
    ∃ x, xs[i]? = some x := ⟨xs[i], List.getElem?_eq_getElem hi⟩

section Thread
variable [F32 F] {args : KernelArgs F}

theorem qtomDistance_exists {d : Nat} {request agent : Nat → Option F}
    (hrequest : ∀ dim < d, ∃ x, request dim = some x)
    (hagent : ∀ dim < d, ∃ x, agent dim = some x) :
    ∃ distance, qtomDistance d request agent = some distance := by
  rw [qtomDistance]
  apply foldlM_exists
  intro distance dim hdim
  obtain ⟨left, hleft⟩ := hrequest dim (List.mem_range.mp hdim)
  obtain ⟨right, hright⟩ := hagent dim (List.mem_range.mp hdim)
  rw [hleft, hright]
  exact ⟨_, rfl⟩

/-- The thread of a request reads inside the buffers, whatever wraps. -/
theorem agentLoop_reads (h : args.Sized) {taskIdx : Nat} (htask : taskIdx < args.requestCount) :
    ∃ s, agentLoop args taskIdx = some s := by
  rw [agentLoop_offsets]
  apply foldlM_exists
  intro s agentIdx hmem
  have hagent := List.mem_range.mp hmem
  have hrequestRow : args.requestOffset taskIdx + args.dimensions ≤ args.requestVectors.length := by
    rw [h.requestVectors]
    exact row_in_buffer htask
  have hagentRow : args.agentOffset agentIdx + args.dimensions ≤ args.agentVectors.length := by
    rw [h.agentVectors]
    exact row_in_buffer hagent
  have hrequest : ∀ dim < args.dimensions,
      ∃ x, args.requestVectors[args.requestOffset taskIdx + dim]? = some x :=
    fun dim hdim => getElem?_exists (by omega)
  have hagentReads : ∀ dim < args.dimensions,
      ∃ x, args.agentVectors[args.agentOffset agentIdx + dim]? = some x :=
    fun dim hdim => getElem?_exists (by omega)
  obtain ⟨base, hbase⟩ := qtomDistance_exists hrequest hagentReads
  have hids : agentIdx < args.agentIds.length := by rw [h.agentIds]; exact hagent
  have havailabilities : agentIdx < args.availability.length := by
    rw [h.availability]
    exact hagent
  have hweights : agentIdx < args.agentScoreWeights.length := by
    rw [h.agentScoreWeights]
    exact hagent
  obtain ⟨id, hid⟩ := getElem?_exists hids
  obtain ⟨availability, havailability⟩ := getElem?_exists havailabilities
  obtain ⟨omega, homega⟩ := getElem?_exists hweights
  simp only [baseDistance_eq, hbase, hid, havailability, homega]
  exact ⟨_, rfl⟩

/-- The two outputs differ at slot `slot` at most. -/
structure CudaRouteKernelOutput.SameOffSlot (out out' : CudaRouteKernelOutput F) (slot : Nat) :
    Prop where
  agentIds : ∀ i ≠ slot, out'.agentIds[i]? = out.agentIds[i]?
  effectiveDistances : ∀ i ≠ slot, out'.effectiveDistances[i]? = out.effectiveDistances[i]?
  baseDistances : ∀ i ≠ slot, out'.baseDistances[i]? = out.baseDistances[i]?
  flags : ∀ i ≠ slot, out'.flags[i]? = out.flags[i]?

/-- A write inside a list changes one entry. -/
theorem write_frame {α : Type} {xs : List α} {i : Nat} (hi : i < xs.length) (x : α) :
    ∃ ys, write xs i x = some ys ∧ ∀ j ≠ i, ys[j]? = xs[j]? := by
  refine ⟨xs.set i x, ?_, ?_⟩
  · rw [write, if_pos hi]
  · intro j hj
    rw [List.getElem?_set_ne (Ne.symm hj)]

omit [F32 F] in
theorem store_frame {out : CudaRouteKernelOutput F} {requestCount : Nat}
    (hplan : out.Planned requestCount) {taskIdx : Nat} (htask : taskIdx < requestCount)
    (s : ThreadState F) : ∃ out', store out taskIdx s = some out' ∧ out.SameOffSlot out' taskIdx := by
  obtain ⟨ids, hids, hsameIds⟩ := write_frame (hplan.agentIds ▸ htask)
    (if s.bestAvailableSeen then s.bestAgentId else 0)
  obtain ⟨effective, heffective, hsameEffective⟩ :=
    write_frame (hplan.effectiveDistances ▸ htask) s.bestEffectiveDistance
  obtain ⟨base, hbase, hsameBase⟩ := write_frame (hplan.baseDistances ▸ htask) s.bestBaseDistance
  obtain ⟨flags, hflags, hsameFlags⟩ := write_frame (hplan.flags ▸ htask)
    (if s.observedAvailable then 0 else 1)
  refine ⟨⟨ids, effective, base, flags⟩, ?_, ⟨hsameIds, hsameEffective, hsameBase, hsameFlags⟩⟩
  simp only [store, hids, heffective, hbase, hflags]
  rfl

end Thread

/-! The launch of an accepted plan. -/

/-- A thread index of the launch does not wrap. -/
theorem taskIdx_eq {count : Nat} (hcount : count < 2 ^ 32) {t : ThreadId}
    (ht : t ∈ (for1dThreadCount count routeAgentsK1BlockDimX).threads) :
    t.taskIdx (for1dThreadCount count routeAgentsK1BlockDimX) =
      t.blockIdx * routeAgentsK1BlockDimX + t.threadIdx := by
  obtain ⟨block, hblock, hmem⟩ := List.mem_flatMap.mp ht
  obtain ⟨thread, hthread, rfl⟩ := List.mem_map.mp hmem
  have hb : block < max (divCeil count 128) 1 := List.mem_range.mp hblock
  have ht : thread < 128 := List.mem_range.mp hthread
  -- 2^25 blocks of 128 threads are 2^32 threads
  have hgrid : divCeil count 128 ≤ 2 ^ 25 := by
    simp only [divCeil]
    split <;> omega
  show (block * 128 % 2 ^ 32 + thread) % 2 ^ 32 = block * 128 + thread
  omega

/-- What the kernel's index arithmetic is for. The request's row is read beside each agent's. -/
structure RouteAgentsKernelArgs.IndexesInRange [F32 F] (args : RouteAgentsKernelArgs F) : Prop where
  handled : ∀ i < args.input.requestCount,
    ∃ t ∈ args.launchConfig.threads, t.taskIdx args.launchConfig = i
  requestRow : ∀ t ∈ args.launchConfig.threads,
    t.taskIdx args.launchConfig < args.input.requestCount → 0 < args.input.agentCount →
    args.input.requestOffset (t.taskIdx args.launchConfig) =
        t.taskIdx args.launchConfig * args.input.dimensions ∧
      t.taskIdx args.launchConfig * args.input.dimensions + args.input.dimensions ≤
        args.input.requestVectors.length
  agentRows : ∀ t ∈ args.launchConfig.threads,
    t.taskIdx args.launchConfig < args.input.requestCount → ∀ i < args.input.agentCount,
    args.input.agentOffset i = i * args.input.dimensions ∧
      i * args.input.dimensions + args.input.dimensions ≤ args.input.agentVectors.length ∧
      i < args.input.agentIds.length ∧ i < args.input.availability.length ∧
      i < args.input.agentScoreWeights.length
  ownSlot : ∀ t ∈ args.launchConfig.threads,
    t.taskIdx args.launchConfig < args.input.requestCount →
    ∀ out : CudaRouteKernelOutput F, out.Planned args.input.requestCount →
    ∃ out', routeAgentsK1 args.input args.launchConfig out t = some out' ∧
      out.SameOffSlot out' (t.blockIdx * routeAgentsK1BlockDimX + t.threadIdx)

/-- Accepted arguments are sized as their plan. -/
theorem sized_of_accepted {agentCount requestCount dimensions : Nat} {plan : CudaBufferPlan}
    {buffers : RouteAgentsBuffers F} {args : RouteAgentsKernelArgs F}
    (hplan : CudaBufferPlan.tryNew agentCount requestCount dimensions 1 = .ok plan)
    (hargs : RouteAgentsKernelArgs.new plan buffers = .ok args) :
    args.input.Sized ∧ args.input.agentCount = agentCount ∧
      args.input.requestCount = requestCount ∧ args.input.dimensions = dimensions := by
  obtain ⟨_, rfl⟩ := CudaBufferPlan.tryNew_ok_iff.mp hplan
  obtain ⟨_, h, ⟨hagents, hrequests, _⟩, rfl⟩ := RouteAgentsKernelArgs.new_ok_iff.mp hargs
  exact ⟨⟨h.agentVectors, h.agentIds, h.requestVectors, h.agentScoreWeights, h.availability,
    hagents, hrequests⟩, rfl, rfl, rfl⟩

/-- A thread past the guard reads inside the buffers and writes its own slot. -/
theorem thread_frame [F32 F] {args : KernelArgs F} (h : args.Sized) {t : ThreadId}
    (ht : t ∈ (for1dThreadCount args.requestCount routeAgentsK1BlockDimX).threads)
    (hguard : t.taskIdx (for1dThreadCount args.requestCount routeAgentsK1BlockDimX) <
      args.requestCount)
    {out : CudaRouteKernelOutput F} (hplanned : out.Planned args.requestCount) :
    ∃ out', routeAgentsK1 args (for1dThreadCount args.requestCount routeAgentsK1BlockDimX) out t =
        some out' ∧
      out.SameOffSlot out' (t.blockIdx * routeAgentsK1BlockDimX + t.threadIdx) := by
  obtain ⟨s, hs⟩ := agentLoop_reads h hguard
  obtain ⟨out', hout, hsame⟩ := store_frame hplanned hguard s
  refine ⟨out', ?_, ?_⟩
  · rw [routeAgentsK1, if_neg (Nat.not_le.mpr hguard), hs]
    exact hout
  · rw [← taskIdx_eq h.requests ht]
    exact hsame

/-- Indexes in range leave no offset wrapped. -/
theorem RouteAgentsKernelArgs.IndexesInRange.offsets [F32 F] {args : RouteAgentsKernelArgs F}
    (h : args.IndexesInRange) : args.input.requestCount = 0 ∨ args.input.agentCount = 0 ∨
      (args.input.requestCount - 1) * args.input.dimensions < 2 ^ 32 ∧
        (args.input.agentCount - 1) * args.input.dimensions < 2 ^ 32 := by
  rw [← offsets_true_iff, ← offsets_true_iff]
  rcases Nat.eq_zero_or_pos args.input.requestCount with hzero | hpos
  · exact Or.inl hzero
  rcases Nat.eq_zero_or_pos args.input.agentCount with hnone | hagents
  · exact Or.inr (Or.inl hnone)
  · refine Or.inr (Or.inr ⟨?_, ?_⟩)
    · intro j hj
      obtain ⟨t, ht, rfl⟩ := h.handled j hj
      exact (h.requestRow t ht hj hagents).1
    · intro i hi
      obtain ⟨t, ht, hzeroth⟩ := h.handled 0 hpos
      exact (h.agentRows t ht (by rw [hzeroth]; exact hpos) i hi).1

/-- For an accepted plan the indexes are right when the last row of each input has an
offset below 2^32, or there is nothing to route, or nobody to route to. -/
theorem indexes_in_range_iff [F32 F] {agentCount requestCount dimensions : Nat}
    {plan : CudaBufferPlan} {buffers : RouteAgentsBuffers F} {args : RouteAgentsKernelArgs F}
    (hplan : CudaBufferPlan.tryNew agentCount requestCount dimensions 1 = .ok plan)
    (hargs : RouteAgentsKernelArgs.new plan buffers = .ok args) :
    args.IndexesInRange ↔ requestCount = 0 ∨ agentCount = 0 ∨
      (requestCount - 1) * dimensions < 2 ^ 32 ∧ (agentCount - 1) * dimensions < 2 ^ 32 := by
  obtain ⟨h, rfl, rfl, rfl⟩ := sized_of_accepted hplan hargs
  refine ⟨RouteAgentsKernelArgs.IndexesInRange.offsets, ?_⟩
  intro hsmall
  rw [← offsets_true_iff, ← offsets_true_iff] at hsmall
  -- with no request no thread passes the guard, with no agent none reads a row
  have hrows : ∀ j < args.input.requestCount, 0 < args.input.agentCount →
      (∀ j < args.input.requestCount, wrap32 (j * args.input.dimensions) =
        j * args.input.dimensions) ∧
      ∀ i < args.input.agentCount, wrap32 (i * args.input.dimensions) =
        i * args.input.dimensions := by
    intro j hj hagents
    rcases hsmall with hzero | hnone | hsmall
    · omega
    · omega
    · exact hsmall
  refine ⟨fun i hi => exists_thread h.requests hi, ?_, ?_, ?_⟩
  · intro t _ hguard hagents
    have htrue := (hrows _ hguard hagents).1 _ hguard
    have hbuffer := row_in_buffer (d := args.input.dimensions) hguard
    rw [htrue, ← h.requestVectors] at hbuffer
    exact ⟨htrue, hbuffer⟩
  · intro t _ hguard i hi
    have htrue := (hrows _ hguard (Nat.zero_lt_of_lt hi)).2 i hi
    have hbuffer := row_in_buffer (d := args.input.dimensions) hi
    rw [htrue, ← h.agentVectors] at hbuffer
    exact ⟨htrue, hbuffer, by rw [h.agentIds]; exact hi, by rw [h.availability]; exact hi,
      by rw [h.agentScoreWeights]; exact hi⟩
  · intro t ht hguard out hplanned
    exact thread_frame h ht hguard hplanned

/-- Buffers of a plan's lengths, over one value. -/
def filledBuffers (x : F) (plan : CudaBufferPlan) : RouteAgentsBuffers F where
  agentVectors := List.replicate plan.agentVectorF32Len x
  agentIds := List.replicate plan.agentIdU32Len 1
  requestVectors := List.replicate plan.requestVectorF32Len x
  agentScoreWeights := List.replicate plan.agentScoreWeightF32Len x
  availability := List.replicate plan.availabilityU32Len 1
  output :=
    { agentIds := List.replicate plan.outputCandidateU32Len 0
      effectiveDistances := List.replicate plan.outputEffectiveF32Len x
      baseDistances := List.replicate plan.outputBaseF32Len x
      flags := List.replicate plan.outputFlagU32Len 0 }

theorem filledBuffers_matches (x : F) (plan : CudaBufferPlan) :
    (filledBuffers x plan).Matches plan :=
  ⟨List.length_replicate, List.length_replicate, List.length_replicate, List.length_replicate,
    List.length_replicate, List.length_replicate, List.length_replicate, List.length_replicate,
    List.length_replicate⟩

/-- The two accept such buffers of a plan within the limits. -/
theorem filledBuffers_accepted (x : F) {agentCount requestCount dimensions : Nat}
    (hf32 : agentCount * dimensions + requestCount * dimensions + agentCount +
      2 * (requestCount * 1) < 2 ^ 64)
    (hu32 : 2 * agentCount + requestCount * 1 + requestCount < 2 ^ 64)
    (hcounts : agentCount < 2 ^ 32 ∧ requestCount < 2 ^ 32 ∧ dimensions < 2 ^ 32) :
    CudaBufferPlan.tryNew agentCount requestCount dimensions 1 =
        .ok (.exact agentCount requestCount dimensions 1) ∧
      RouteAgentsKernelArgs.new (.exact agentCount requestCount dimensions 1)
          (filledBuffers x (.exact agentCount requestCount dimensions 1)) =
        .ok (.ofPlan (.exact agentCount requestCount dimensions 1)
          (filledBuffers x (.exact agentCount requestCount dimensions 1))) :=
  ⟨CudaBufferPlan.tryNew_ok_iff.mpr ⟨⟨hf32, hu32⟩, rfl⟩,
    RouteAgentsKernelArgs.new_ok_iff.mpr ⟨rfl, filledBuffers_matches x _, hcounts, rfl⟩⟩

theorem indexes_in_range_iff_pair :
    (RouteAgentsKernelArgs.ofPlan (.exact 2 3 16 1)
      (filledBuffers (0 : WithTop Int) (.exact 2 3 16 1))).IndexesInRange :=
  (indexes_in_range_iff
    (filledBuffers_accepted (0 : WithTop Int) (by decide) (by decide) (by decide)).1
    (filledBuffers_accepted (0 : WithTop Int) (by decide) (by decide) (by decide)).2).mpr
    (Or.inr (Or.inr ⟨by decide, by decide⟩))

/-- One request to 65537 agents of 65536 dimensions: the last agent's offset is 2^32,
which wraps to the first agent's. -/
theorem last_agent_row_wraps :
    ∃ (plan : CudaBufferPlan) (buffers : RouteAgentsBuffers (WithTop Int))
      (args : RouteAgentsKernelArgs (WithTop Int)),
      CudaBufferPlan.tryNew 65537 1 65536 1 = .ok plan ∧
      RouteAgentsKernelArgs.new plan buffers = .ok args ∧ ¬ args.IndexesInRange ∧
      args.input.agentOffset 65536 = args.input.agentOffset 0 := by
  have hf32 : 65537 * 65536 + 1 * 65536 + 65537 + 2 * (1 * 1) < 2 ^ 64 := by decide
  have haccepted := filledBuffers_accepted (0 : WithTop Int) hf32 (by decide) (by decide)
  refine ⟨_, _, _, haccepted.1, haccepted.2, ?_, by decide⟩
  intro hrange
  rcases hrange.offsets with hzero | hnone | hsmall
  · exact absurd hzero (by decide)
  · exact absurd hnone (by decide)
  · exact absurd hsmall.2 (by decide)

end QTom.Cuda
