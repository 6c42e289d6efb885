import QTom.Cuda.Indexing
import QTom.Cuda.Parity
import QTom.Cuda.Workspace

/- A kept workspace is invisible (`reuse_transparent`): what a call returns depends on
   its batch and the coefficients alone (`Returns`), whatever calls came before, however
   they ended, and whatever the buffers were left holding. A call that gets past its checks
   overwrites every input buffer and, by its launch, every output slot, before it reads
   any. -/
namespace QTom.Cuda
open QTom.Lib QTom.Router

section
variable {F : Type}

/-! The launch. -/

section Launch
variable [F32 F]

/-- A launch in sized buffers reads and writes inside them. -/
theorem launch_planned {args : KernelArgs F} (hsized : args.Sized)
    {workspace : CudaRouteKernelOutput F} (hplanned : workspace.Planned args.requestCount)
    {order : List ThreadId}
    (horder : order.Perm (for1dThreadCount args.requestCount routeAgentsK1BlockDimX).threads) :
    ∃ out, launch args (for1dThreadCount args.requestCount routeAgentsK1BlockDimX) order
        workspace = some out ∧ out.Planned args.requestCount ∧
      ∀ j < args.requestCount, Stored out j ((agentLoop args j).getD ThreadState.start) := by
  have hrun : ∀ j < args.requestCount, agentLoop args j =
      some ((agentLoop args j).getD ThreadState.start) := by
    intro j hj
    obtain ⟨s, hs⟩ := agentLoop_reads hsized hj
    rw [hs]
    rfl
  obtain ⟨out, hlaunch, hstored⟩ := launch_stored hplanned hsized.requests hrun horder
  refine ⟨out, hlaunch, ?_, hstored⟩
  -- a launch only visits slots, so no length changes
  have hafter := launch_after hplanned hrun
    (for1dThreadCount args.requestCount routeAgentsK1BlockDimX) order []
  have hstart : workspace.after (fun j => (agentLoop args j).getD ThreadState.start) [] =
      workspace := by
    unfold CudaRouteKernelOutput.after
    simp only [written_nil]
  rw [hstart, hlaunch] at hafter
  rw [Option.some.inj hafter]
  refine ⟨?_, ?_, ?_, ?_⟩
  · simp [CudaRouteKernelOutput.after, written, hplanned.agentIds]
  · simp [CudaRouteKernelOutput.after, written, hplanned.effectiveDistances]
  · simp [CudaRouteKernelOutput.after, written, hplanned.baseDistances]
  · simp [CudaRouteKernelOutput.after, written, hplanned.flags]

/-- The decoder reads the slots of the requests and nothing else. -/
theorem decodeKOneResults_congr (routeTable : AgentRouteTable F)
    (coefficients : ScoreCoefficients F) {requests : List (RoutingRequest F)}
    (states : List (AgentRuntimeState F)) {out out' : CudaRouteKernelOutput F}
    {state : Nat → ThreadState F} (h : ∀ j < requests.length, Stored out j (state j))
    (h' : ∀ j < requests.length, Stored out' j (state j)) :
    decodeKOneResults routeTable coefficients requests states out =
      decodeKOneResults routeTable coefficients requests states out' := by
  apply mapM_congr
  intro ⟨request, j⟩ hmem
  have hj := (List.getElem?_eq_some_iff.mp (List.mem_zipIdx_iff_getElem?.mp hmem)).1
  have hslot := h j hj
  have hslot' := h' j hj
  unfold decodeKOneResult decodeAvailable
  rw [hslot.agentId, hslot'.agentId, hslot.flag, hslot'.flag, hslot.effectiveDistance,
    hslot'.effectiveDistance, hslot.baseDistance, hslot'.baseDistance]

end Launch

/-! What a call returns. -/

section Call
variable [F32 F]

/-- The counts a launch is given have 32 bits. -/
def CudaBufferPlan.Countable (plan : CudaBufferPlan) : Prop :=
  plan.agentCount < 2 ^ 32 ∧ plan.requestCount < 2 ^ 32 ∧ plan.dimensions < 2 ^ 32

/-- The batch passes the checks of a call. -/
structure RouteBatch.Accepted (batch : RouteBatch F) (plan : CudaBufferPlan) : Prop where
  valid : validateKOneInputs batch = .ok ()
  planned : batch.plan = .ok plan
  allocatable : plan.Allocatable
  countable : plan.Countable

/-- What a call returns by its batch alone: with no request nothing, otherwise what the
threads leave in zeroed buffers, run one after another. -/
def Returns (coefficients : ScoreCoefficients F) (batch : RouteBatch F)
    (results : List (RoutingResult F)) : Prop :=
  batch.requests = [] ∧ results = [] ∨
    batch.requests ≠ [] ∧ ∃ plan, batch.Accepted plan ∧
      executeWithPreparedWorkspace (.new plan) batch.routeTable coefficients batch.requests
        batch.states (.fromRequestsAndStates batch.requests batch.states coefficients)
        (for1dThreadCount batch.requests.length routeAgentsK1BlockDimX).threads = some results

/-- There is nothing to return. -/
abbrev Unroutable (coefficients : ScoreCoefficients F) (batch : RouteBatch F) : Prop :=
  ¬ ∃ results, Returns coefficients batch results

variable {coefficients : ScoreCoefficients F} {batch : RouteBatch F} {plan : CudaBufferPlan}

/-- An accepted batch has one plan. -/
theorem returns_iff (hne : batch.requests ≠ []) (h : batch.Accepted plan)
    {results : List (RoutingResult F)} : Returns coefficients batch results ↔
      executeWithPreparedWorkspace (.new plan) batch.routeTable coefficients batch.requests
        batch.states (.fromRequestsAndStates batch.requests batch.states coefficients)
        (for1dThreadCount batch.requests.length routeAgentsK1BlockDimX).threads = some results := by
  refine ⟨?_, fun hrun => Or.inr ⟨hne, plan, h, hrun⟩⟩
  intro hreturns
  rcases hreturns with ⟨hempty, _⟩ | ⟨_, plan', haccepted, hrun⟩
  · exact absurd hempty hne
  · have hplan : plan' = plan := Except.ok.inj (haccepted.planned.symm.trans h.planned)
    subst hplan
    exact hrun

theorem Returns.unique {results results' : List (RoutingResult F)}
    (h : Returns coefficients batch results) (h' : Returns coefficients batch results') :
    results = results' := by
  by_cases hne : batch.requests = []
  · have hempty : ∀ rs, Returns coefficients batch rs → rs = [] := by
      intro rs hrs
      rcases hrs with ⟨_, hnil⟩ | ⟨hsome, _⟩
      · exact hnil
      · exact absurd hne hsome
    rw [hempty _ h, hempty _ h']
  · rcases h with ⟨hempty, _⟩ | ⟨_, plan, haccepted, hrun⟩
    · exact absurd hempty hne
    · exact Option.some.inj (hrun.symm.trans ((returns_iff hne haccepted).mp h'))

/-- A call with requests that fails a check has nothing to return. -/
theorem unroutable_of (hne : batch.requests ≠ []) (h : ∀ plan, ¬ batch.Accepted plan) :
    Unroutable coefficients batch := by
  intro ⟨results, hreturns⟩
  rcases hreturns with ⟨hempty, _⟩ | ⟨_, plan, haccepted, _⟩
  · exact hne hempty
  · exact h plan haccepted

theorem unroutable_of_plan (hne : batch.requests ≠ []) (hplan : batch.plan = .ok plan)
    (h : ¬ (plan.Allocatable ∧ plan.Countable)) : Unroutable coefficients batch := by
  apply unroutable_of hne
  intro plan' haccepted
  have hsame : plan = plan' := Except.ok.inj (hplan.symm.trans haccepted.planned)
  subst hsame
  exact h ⟨haccepted.allocatable, haccepted.countable⟩

omit [F32 F] in
/-- A valid batch has a state for each agent and vectors of one length. -/
theorem valid_batch (h : validateKOneInputs batch = .ok ()) :
    batch.states.length = batch.routeTable.len ∧
      ∀ request ∈ batch.requests, request.vector.length = batch.routeTable.dimensions := by
  simp only [validateKOneInputs, refuse_ok_iff, not_not] at h
  obtain ⟨_, hlen, hrequests⟩ := h
  refine ⟨hlen.symm, ?_⟩
  intro request hmem
  have hrequest := forM_ok_iff.mp hrequests request hmem
  simp only [checkKOneRequest, refuse_ok_iff, not_not] at hrequest
  exact hrequest.2.1

/-- The arrays of a call. -/
def RouteBatch.args (batch : RouteBatch F) (coefficients : ScoreCoefficients F) : KernelArgs F :=
  kernelArgs batch.routeTable batch.requests
    (.fromRequestsAndStates batch.requests batch.states coefficients)

omit [F32 F] in
/-- The plan is the counts of the call's arrays. -/
theorem plan_exact (h : batch.plan = .ok plan) :
    plan = .exact batch.routeTable.len batch.requests.length batch.routeTable.dimensions 1 :=
  (CudaBufferPlan.tryNew_ok_iff.mp h).2

/-- The arrays of a call have the planned lengths. -/
theorem args_lengths (hvalid : validateKOneInputs batch = .ok ()) (hplan : batch.plan = .ok plan) :
    (batch.args coefficients).agentVectors.length = plan.agentVectorF32Len ∧
      (batch.args coefficients).agentIds.length = plan.agentIdU32Len ∧
      (batch.args coefficients).requestVectors.length = plan.requestVectorF32Len ∧
      (batch.args coefficients).agentScoreWeights.length = plan.agentScoreWeightF32Len ∧
      (batch.args coefficients).availability.length = plan.availabilityU32Len := by
  obtain ⟨hstates, hvectors⟩ := valid_batch hvalid
  have hexact := plan_exact hplan
  subst hexact
  refine ⟨batch.routeTable.packed, rfl, ?_, ?_, ?_⟩
  · show (batch.requests.flatMap RoutingRequest.vector).length = _
    rw [List.flatMap_def, length_flatten (List.forall_mem_map.mpr hvectors), List.length_map]
    rfl
  · exact (List.length_map _).trans hstates
  · exact (List.length_map _).trans hstates

/-! The steps of a call. -/

/-- The input buffers hold the arrays. -/
structure CudaRouteK1Workspace.Holds (w : CudaRouteK1Workspace F) (args : KernelArgs F) :
    Prop where
  agentVectors : w.agentVectors.contents = args.agentVectors
  agentIds : w.agentIds.contents = args.agentIds
  requestVectors : w.requestVectors.contents = args.requestVectors
  agentScoreWeights : w.agentScoreWeights.contents = args.agentScoreWeights
  availability : w.availability.contents = args.availability

variable {device : Device F} {excuse : Prop} {w : CudaRouteK1Workspace F}

omit [F32 F] in
/-- A buffer is filled and put back. -/
theorem copy_keep {T β : Type} {b : CudaDeviceBuffer T} {len : Nat} {source : List T}
    {k : CudaRouteK1Workspace F → Execution F β} {Q : β → Option (CudaRouteK1Workspace F) → Prop}
    (put : CudaDeviceBuffer T → CudaRouteK1Workspace F) (hw : w.Fits) (hb : b.Fits len)
    (hsource : source.length = len)
    (hput : ({ b with contents := source } : CudaDeviceBuffer T).Fits len →
      (put { b with contents := source }).Fits)
    (hk : ∀ w', w' = put { b with contents := source } → w'.Fits →
      Completes device excuse (fun cell => cell = some w') (k w') Q) :
    Completes device excuse (fun cell => cell = some w)
      (b.copyFrom device source >>= fun b' => keep (put b') >>= k) Q := by
  apply Completes.step (copyFrom_completes (sound_some hw) hb hsource)
  intro b' hb'
  subst hb'
  apply Completes.keep
  exact hk _ rfl (hput (hb.refill hsource))

/-- Whatever the workspace held, its input buffers then hold the call's arrays. -/
theorem copyInputs_completes (hw : w.Fits) (hvalid : validateKOneInputs batch = .ok ())
    (hplan : batch.plan = .ok w.plan) :
    Completes device excuse (fun cell => cell = some w)
      (CudaRouteK1Executor.copyInputs device batch w
        (.fromRequestsAndStates batch.requests batch.states coefficients))
      fun w' cell =>
        (w'.Fits ∧ w'.plan = w.plan ∧ w'.Holds (batch.args coefficients)) ∧ cell = some w' := by
  obtain ⟨hagentVectors, hagentIds, hrequestVectors, hweights, havailability⟩ :=
    @args_lengths F _ coefficients batch w.plan hvalid hplan
  refine copy_keep (fun agentVectors => { w with agentVectors }) hw hw.agentVectors
    hagentVectors (fun h => { hw with agentVectors := h }) ?_
  intro w1 h1 hw1
  have hplan1 : w1.plan = w.plan := by rw [h1]
  rw [← hplan1] at hagentIds hrequestVectors hweights havailability
  refine copy_keep (fun agentIds => { w1 with agentIds }) hw1 hw1.agentIds hagentIds
    (fun h => { hw1 with agentIds := h }) ?_
  intro w2 h2 hw2
  have hplan2 : w2.plan = w1.plan := by rw [h2]
  rw [← hplan2] at hrequestVectors hweights havailability
  refine copy_keep (fun requestVectors => { w2 with requestVectors }) hw2 hw2.requestVectors
    hrequestVectors (fun h => { hw2 with requestVectors := h }) ?_
  intro w3 h3 hw3
  have hplan3 : w3.plan = w2.plan := by rw [h3]
  rw [← hplan3] at hweights havailability
  refine copy_keep (fun agentScoreWeights => { w3 with agentScoreWeights }) hw3
    hw3.agentScoreWeights hweights (fun h => { hw3 with agentScoreWeights := h }) ?_
  intro w4 h4 hw4
  have hplan4 : w4.plan = w3.plan := by rw [h4]
  rw [← hplan4] at havailability
  apply Completes.step (copyFrom_completes (sound_some hw4) hw4.availability havailability)
  intro availability h5 s _
  subst h5
  refine ⟨⟨{ hw4 with availability := hw4.availability.refill havailability }, ?_, ?_⟩, rfl⟩
  · exact hplan4.trans (hplan3.trans (hplan2.trans hplan1))
  · subst h4 h3 h2 h1
    exact ⟨rfl, rfl, rfl, rfl, rfl⟩

section Events
variable {I : Option (CudaRouteK1Workspace F) → Prop}

omit [F32 F] in
theorem record_completes (hI : ∀ cell, I cell → Sound cell) {event stream : Wrapper}
    (hevent : event.Owns) (hstream : stream.Owns) :
    Completes device excuse I (record device event stream) fun _ cell => True ∧ I cell := by
  obtain ⟨e, he⟩ := hevent
  obtain ⟨s, hs⟩ := hstream
  unfold record
  rw [he, hs]
  exact Completes.driver hI (borrowHandles_served _ _ _)

omit [F32 F] in
theorem synchronize_completes (hI : ∀ cell, I cell → Sound cell) {event : Wrapper}
    (hevent : event.Owns) :
    Completes device excuse I (synchronize device event) fun _ cell => True ∧ I cell := by
  obtain ⟨e, he⟩ := hevent
  unfold synchronize
  rw [he]
  exact Completes.driver hI (borrowHandles_served _ _ _)

omit [F32 F] in
theorem elapsedSince_completes (hI : ∀ cell, I cell → Sound cell) {stop start : Wrapper}
    (hstop : stop.Owns) (hstart : start.Owns) :
    Completes device excuse I (elapsedSince device stop start) fun _ cell => True ∧ I cell := by
  obtain ⟨e, he⟩ := hstop
  obtain ⟨s, hs⟩ := hstart
  unfold elapsedSince
  rw [he, hs]
  apply Completes.look
  intro call
  apply Completes.step (Completes.driver hI (borrowHandles_served _ _ _))
  intro _ _
  apply Completes.ite
  · intro hrefused
    exact Completes.stop hI (refused_value hrefused)
  · intro _
    exact Completes.pure fun cell hcell => ⟨trivial, hcell⟩

/-- The launch writes the slot of every request, whatever the outputs held. -/
theorem launchAgents_completes (hI : ∀ cell, I cell → Sound cell) {stream : Wrapper}
    (hstream : stream.Owns) {args : RouteAgentsKernelArgs F} (hsized : args.input.Sized)
    (hplanned : args.output.Planned args.input.requestCount) :
    Completes device excuse I (launchAgents device stream args) fun out cell =>
      (out.Planned args.input.requestCount ∧ ∀ j < args.input.requestCount,
        Stored out j ((agentLoop args.input j).getD ThreadState.start)) ∧ I cell := by
  obtain ⟨s, hs⟩ := hstream
  unfold launchAgents
  rw [hs]
  apply Completes.look
  intro call
  apply Completes.step (Completes.driver hI (borrowHandles_served _ _ _))
  intro _ _
  obtain ⟨out, hlaunch, hout, hstored⟩ :=
    launch_planned hsized hplanned (device.complete call args.launchConfig)
  have hlaunch : launch args.input args.launchConfig (device.order call args.launchConfig)
      args.output = some out := hlaunch
  rw [hlaunch]
  exact Completes.pure fun cell hcell => ⟨⟨hout, hstored⟩, hcell⟩

end Events

omit [F32 F] in
/-- The buffers of a workspace are those of its plan. -/
theorem CudaRouteK1Workspace.Fits.matches (h : w.Fits) : w.buffers.Matches w.plan :=
  ⟨h.agentVectors.length, h.agentIds.length, h.requestVectors.length, h.agentScoreWeights.length,
    h.availability.length, h.outputAgentIds.length, h.outputEffectiveDistances.length,
    h.outputBaseDistances.length, h.outputFlags.length⟩

omit [F32 F] in
/-- At k=1 there is a slot for each request. -/
theorem output_lengths (h : batch.plan = .ok plan) :
    plan.outputCandidateU32Len = plan.requestCount ∧
      plan.outputEffectiveF32Len = plan.requestCount ∧
      plan.outputBaseF32Len = plan.requestCount ∧ plan.outputFlagU32Len = plan.requestCount := by
  have hexact := plan_exact h
  subst hexact
  exact ⟨Nat.mul_one _, Nat.mul_one _, Nat.mul_one _, rfl⟩

omit [F32 F] in
theorem CudaRouteK1Workspace.Fits.planned (h : w.Fits) (hplan : batch.plan = .ok w.plan) :
    w.buffers.output.Planned w.plan.requestCount := by
  obtain ⟨hids, heffective, hbase, hflags⟩ := output_lengths hplan
  exact ⟨h.outputAgentIds.length.trans hids, h.outputEffectiveDistances.length.trans heffective,
    h.outputBaseDistances.length.trans hbase, h.outputFlags.length.trans hflags⟩

omit [F32 F] in
theorem CudaRouteK1Workspace.Fits.withOutput (h : w.Fits) (hplan : batch.plan = .ok w.plan)
    {output : CudaRouteKernelOutput F} (hout : output.Planned w.plan.requestCount) :
    (w.withOutput output).Fits := by
  obtain ⟨hids, heffective, hbase, hflags⟩ := output_lengths hplan
  exact { h with
    outputAgentIds := h.outputAgentIds.refill (hout.agentIds.trans hids.symm)
    outputEffectiveDistances :=
      h.outputEffectiveDistances.refill (hout.effectiveDistances.trans heffective.symm)
    outputBaseDistances := h.outputBaseDistances.refill (hout.baseDistances.trans hbase.symm)
    outputFlags := h.outputFlags.refill (hout.flags.trans hflags.symm) }

/-- Every slot of the workspace's outputs holds what its thread writes. -/
def CudaRouteK1Workspace.Computed (w : CudaRouteK1Workspace F) (args : KernelArgs F) : Prop :=
  ∀ j < args.requestCount, Stored w.buffers.output j ((agentLoop args j).getD ThreadState.start)

/-- The kernel's arguments are the call's arrays. -/
theorem ofPlan_input (hplan : batch.plan = .ok w.plan)
    (hholds : w.Holds (batch.args coefficients)) :
    (RouteAgentsKernelArgs.ofPlan w.plan w.buffers).input = batch.args coefficients := by
  show KernelArgs.mk w.agentVectors.contents w.agentIds.contents w.requestVectors.contents
    w.agentScoreWeights.contents w.availability.contents w.plan.agentCount w.plan.requestCount
    w.plan.dimensions = _
  rw [hholds.agentVectors, hholds.agentIds, hholds.requestVectors, hholds.agentScoreWeights,
    hholds.availability, plan_exact hplan]
  rfl

theorem runKernel_completes (executor : CudaRouteK1Executor F) (hw : w.Fits)
    (hplan : batch.plan = .ok w.plan) (hholds : w.Holds (batch.args coefficients))
    (hexcuse : ¬ w.plan.Countable → excuse) :
    Completes device excuse (fun cell => cell = some w) (executor.runKernel device w)
      fun w' cell =>
        (w'.Fits ∧ w'.plan = w.plan ∧ w.plan.Countable ∧ (batch.args coefficients).Sized ∧
          w'.Computed (batch.args coefficients)) ∧ cell = some w' := by
  have hI := sound_some hw
  have hexact := plan_exact hplan
  apply Completes.step (Completes.hold hI ofStream_served)
  intro stream hstream
  apply Completes.step (Completes.hold hI ofEvent_served)
  intro kernelStartEvent hstart
  apply Completes.step (Completes.hold hI ofEvent_served)
  intro kernelStopEvent hstop
  apply Completes.step (Completes.driver hI (getModuleFunction_served _))
  intro _ _
  have hk : w.plan.k = 1 := by rw [hexact]; rfl
  have haccepted : ∀ e, RouteAgentsKernelArgs.new w.plan w.buffers = .error e → excuse := by
    intro e he
    apply hexcuse
    intro hcountable
    rw [RouteAgentsKernelArgs.new_ok_iff.mpr ⟨hk, hw.matches, hcountable, rfl⟩] at he
    cases he
  apply Completes.step (Completes.ofExcept hI haccepted)
  intro args hargs
  obtain ⟨hsized, _⟩ := sized_of_accepted hplan hargs
  obtain ⟨_, hmatches, hcountable, heq⟩ := RouteAgentsKernelArgs.new_ok_iff.mp hargs
  subst heq
  have hinput := ofPlan_input hplan hholds
  apply Completes.step (record_completes hI hstart hstream)
  intro _ _
  apply Completes.step (launchAgents_completes hI hstream hsized (hw.planned hplan))
  intro output ⟨hout, hstored⟩
  apply Completes.keep
  have hfits := hw.withOutput hplan hout
  have hI := sound_some hfits
  apply Completes.step (record_completes hI hstop hstream)
  intro _ _
  apply Completes.step (synchronize_completes hI hstop)
  intro _ _
  apply Completes.step (elapsedSince_completes hI hstop hstart)
  intro _ _
  apply Completes.step (Completes.destroy hI kernelStopEvent)
  intro _ _
  apply Completes.step (Completes.destroy hI kernelStartEvent)
  intro _ _
  apply Completes.step (Completes.destroy hI stream)
  intro _ _
  rw [hinput] at hsized hstored
  exact Completes.pure fun cell hcell => ⟨⟨hfits, rfl, hcountable, hsized, hstored⟩, hcell⟩

theorem copyOutputs_completes (hw : w.Fits) :
    Completes device excuse (fun cell => cell = some w)
      (CudaRouteK1Executor.copyOutputs device w) fun output cell =>
        output = w.buffers.output ∧ cell = some w := by
  have hI := sound_some hw
  apply Completes.step (copyTo_completes hI hw.outputAgentIds List.length_replicate)
  intro agentIds hids
  apply Completes.step
    (copyTo_completes hI hw.outputEffectiveDistances List.length_replicate)
  intro effectiveDistances heffective
  apply Completes.step (copyTo_completes hI hw.outputBaseDistances List.length_replicate)
  intro baseDistances hbase
  apply Completes.step (copyTo_completes hI hw.outputFlags List.length_replicate)
  intro flags hflags
  subst hids heffective hbase hflags
  exact Completes.pure fun cell hcell => ⟨rfl, hcell⟩

/-- Buffers of zeros have the planned lengths. -/
theorem zeros_planned (h : batch.plan = .ok plan) :
    (CudaRouteKernelOutput.new plan : CudaRouteKernelOutput F).Planned plan.requestCount := by
  obtain ⟨hids, heffective, hbase, hflags⟩ := output_lengths h
  exact ⟨List.length_replicate.trans hids, List.length_replicate.trans heffective,
    List.length_replicate.trans hbase, List.length_replicate.trans hflags⟩

/-- What is decoded from computed slots is what a run in zeroed buffers gives. -/
theorem decode_computed (hplan : batch.plan = .ok plan) (hsized : (batch.args coefficients).Sized)
    (hw : w.Computed (batch.args coefficients)) :
    decodeKOneResults batch.routeTable coefficients batch.requests batch.states w.buffers.output =
      executeWithPreparedWorkspace (.new plan) batch.routeTable coefficients batch.requests
        batch.states (.fromRequestsAndStates batch.requests batch.states coefficients)
        (for1dThreadCount batch.requests.length routeAgentsK1BlockDimX).threads := by
  have hcount : plan.requestCount = batch.requests.length := by
    rw [plan_exact hplan]
    rfl
  obtain ⟨out, hlaunch, _, hstored⟩ :=
    launch_planned hsized (hcount ▸ zeros_planned hplan) (List.Perm.refl _)
  calc decodeKOneResults batch.routeTable coefficients batch.requests batch.states w.buffers.output
      = decodeKOneResults batch.routeTable coefficients batch.requests batch.states out :=
        decodeKOneResults_congr _ _ _ hw hstored
    _ = (some out).bind (decodeKOneResults batch.routeTable coefficients batch.requests
          batch.states) := rfl
    _ = _ := by
        rw [← hlaunch]
        rfl

/-- A call in a workspace that fits: the results are those of its batch. -/
theorem executePrepared_completes {executor : CudaRouteK1Executor F} (hne : batch.requests ≠ [])
    (hw : w.Fits) (hvalid : validateKOneInputs batch = .ok ())
    (hplan : batch.plan = .ok w.plan) :
    Completes device (Unroutable executor.coefficients batch) (fun cell => cell = some w)
      (executor.executeRouteAgentsK1TimedWithPreparedWorkspace device batch w
        (.fromRequestsAndStates batch.requests batch.states executor.coefficients))
      fun results cell => Returns executor.coefficients batch results ∧ Sound cell := by
  have hallocatable : w.plan.Allocatable := by
    simp only [CudaBufferPlan.Allocatable, CudaBufferPlan.lengths, List.forall_mem_cons]
    refine ⟨hw.agentVectors.bytes, hw.agentIds.bytes, hw.requestVectors.bytes,
      hw.agentScoreWeights.bytes, hw.availability.bytes, hw.outputAgentIds.bytes,
      hw.outputEffectiveDistances.bytes, hw.outputBaseDistances.bytes, hw.outputFlags.bytes, ?_⟩
    intro len hlen
    cases hlen
  apply Completes.scope
  apply Completes.step (copyInputs_completes hw hvalid hplan)
  intro w1 hcopied
  obtain ⟨hw1, hplan1, hholds⟩ := hcopied
  rw [← hplan1] at hplan hallocatable
  have hexcuse : ¬ w1.plan.Countable → Unroutable executor.coefficients batch :=
    fun h => unroutable_of_plan hne hplan fun hboth => h hboth.2
  apply Completes.step (runKernel_completes executor hw1 hplan hholds hexcuse)
  intro w2 hran
  obtain ⟨hw2, hplan2, hcountable, hsized, hcomputed⟩ := hran
  apply Completes.step (copyOutputs_completes hw2)
  intro output houtput
  subst houtput
  rw [decode_computed hplan hsized hcomputed]
  have haccepted : batch.Accepted w1.plan := ⟨hvalid, hplan, hallocatable, hcountable⟩
  have hreturns : ∀ results, Returns executor.coefficients batch results ↔ _ :=
    fun results => returns_iff hne haccepted
  apply Completes.weaken (Completes.ofOption (sound_some hw2) ?_) (fun _ h => h) ?_
  · intro hnone hroutable
    obtain ⟨results, hresults⟩ := hroutable
    rw [hreturns, hnone] at hresults
    cases hresults
  · intro results cell h
    exact ⟨(hreturns results).mpr h.1, sound_some hw2 cell h.2⟩

/-- A call with requests. -/
theorem routeRequests_completes {executor : CudaRouteK1Executor F} (hne : batch.requests ≠ []) :
    Completes device (Unroutable executor.coefficients batch) Sound
      (executor.routeRequests device batch) fun results cell =>
        Returns executor.coefficients batch results ∧ Sound cell := by
  have hI : ∀ cell : Option (CudaRouteK1Workspace F), Sound cell → Sound cell := fun _ h => h
  have hinvalid : ∀ e, validateKOneInputs batch = .error e →
      Unroutable executor.coefficients batch := by
    intro e he
    apply unroutable_of hne
    intro plan haccepted
    rw [haccepted.valid] at he
    cases he
  have hunplanned : ∀ e, batch.plan = .error e → Unroutable executor.coefficients batch := by
    intro e he
    apply unroutable_of hne
    intro plan haccepted
    rw [haccepted.planned] at he
    cases he
  apply Completes.step (Completes.ofExcept hI hinvalid)
  intro _ hvalid
  apply Completes.step (Completes.ofExcept hI hunplanned)
  intro plan hplan
  have hexcuse : ¬ plan.Allocatable → Unroutable executor.coefficients batch :=
    fun h => unroutable_of_plan hne hplan fun hboth => h hboth.1
  apply Completes.step (workspaceFor_completes hexcuse)
  intro w ⟨hw, hwplan⟩
  subst hwplan
  -- the checks are made again, and give what they gave
  apply Completes.step (Completes.ofExcept (sound_some hw) hinvalid)
  intro _ _
  apply Completes.step (Completes.ofExcept (sound_some hw) hunplanned)
  intro plan' hplan'
  have hsame : w.plan = plan' := Except.ok.inj (hplan.symm.trans hplan')
  apply Completes.ite
  · intro hother
    exact absurd hsame hother
  · intro _
    exact executePrepared_completes hne hw hvalid hplan

/-! Runs. -/

/-- A call returns what its batch gives, or stops, and leaves the cell sound. -/
theorem routeBatchWithTiming_spec (device : Device F) (executor : CudaRouteK1Executor F)
    (batch : RouteBatch F) :
    Attempt.Triple (fun s => Sound s.workspace) (executor.routeBatchWithTiming device batch)
      (fun results s => Returns executor.coefficients batch results ∧ Sound s.workspace)
      fun _ s => Stopped device (Unroutable executor.coefficients batch) s := by
  apply Attempt.Triple.ite
  · intro hempty
    exact Attempt.Triple.pure fun s hs => ⟨Or.inl ⟨List.isEmpty_iff.mp hempty, rfl⟩, hs⟩
  · intro hsome
    have hne : batch.requests ≠ [] := fun hempty => hsome (List.isEmpty_iff.mpr hempty)
    exact Attempt.Triple.mapError (routeRequests_completes hne)

theorem sound_next (device : Device F) (executor : CudaRouteK1Executor F) {s : ExecutorState F}
    (h : Sound s.workspace) (batch : RouteBatch F) :
    Sound (executor.next device s batch).workspace := by
  have houtcome := routeBatchWithTiming_spec device executor batch s h
  unfold CudaRouteK1Executor.next
  cases hrun : (executor.routeBatchWithTiming device batch).run s with
  | mk outcome s' =>
    rw [hrun] at houtcome
    cases outcome with
    | ok results => exact houtcome.2
    | error failure => exact houtcome.1

theorem sound_run (device : Device F) (executor : CudaRouteK1Executor F) {s : ExecutorState F}
    (h : Sound s.workspace) (batches : List (RouteBatch F)) :
    Sound (batches.foldl (executor.next device) s).workspace := by
  induction batches generalizing s with
  | nil => exact h
  | cons batch batches ih => exact ih (sound_next device executor h batch)

omit [F32 F] in
/-- A new executor has the coefficients it was given and an empty cell. -/
theorem new_spec {ptx : String} {coefficients : ScoreCoefficients F} {log : List DriverCall}
    {executor : CudaRouteK1Executor F} {s : ExecutorState F}
    (h : CudaRouteK1Executor.new device ptx coefficients log = (.ok executor, s)) :
    executor.coefficients = coefficients ∧ s.workspace = none := by
  unfold CudaRouteK1Executor.new at h
  dsimp only at h
  split at h
  · split at h
    · obtain ⟨hexecutor, hs⟩ := Prod.mk.inj h
      rw [← Except.ok.inj hexecutor, ← hs]
      exact ⟨rfl, rfl⟩
    · cases (Prod.mk.inj h).1
  · cases (Prod.mk.inj h).1

/-- Reusing an executor is transparent. After any batches, with any answers of the driver
to any of their calls, and with any contents of undetermined memory: results a call
returns are those that the same call returns on a fresh executor with the same
coefficients, on any device, whenever it returns any; and it does return them unless its
driver refuses something. -/
theorem reuse_transparent {device other : Device F} {ptx : String}
    {coefficients : ScoreCoefficients F} {log log' : List DriverCall}
    {reused fresh : CudaRouteK1Executor F} {s s' : ExecutorState F}
    (hreused : CudaRouteK1Executor.new device ptx coefficients log = (.ok reused, s))
    (hfresh : CudaRouteK1Executor.new other ptx coefficients log' = (.ok fresh, s'))
    (earlier : List (RouteBatch F)) (batch : RouteBatch F) {results : List (RoutingResult F)}
    (h : ((reused.routeBatchWithTiming device batch).run
      (earlier.foldl (reused.next device) s)).1 = .ok results) :
    (∀ results', ((fresh.routeBatchWithTiming other batch).run s').1 = .ok results' →
        results' = results) ∧
      (Accepting other.answers →
        ((fresh.routeBatchWithTiming other batch).run s').1 = .ok results) := by
  obtain ⟨hcoefficients, hcell⟩ := new_spec hreused
  obtain ⟨hcoefficients', hcell'⟩ := new_spec hfresh
  have hempty : ∀ {s : ExecutorState F}, s.workspace = none → Sound s.workspace := by
    intro s hs w hw
    rw [hs] at hw
    cases hw
  -- what the reused executor returned is what the batch gives
  have hreturns : Returns coefficients batch results := by
    have hsound := sound_run device reused (hempty hcell) earlier
    have houtcome := routeBatchWithTiming_spec device reused batch _ hsound
    cases hrun : (reused.routeBatchWithTiming device batch).run
        (earlier.foldl (reused.next device) s) with
    | mk outcome next =>
      rw [hrun] at houtcome h
      subst h
      exact hcoefficients ▸ houtcome.1
  have houtcome := routeBatchWithTiming_spec other fresh batch s' (hempty hcell')
  rw [hcoefficients'] at houtcome
  cases hrun : (fresh.routeBatchWithTiming other batch).run s' with
  | mk outcome next =>
    rw [hrun] at houtcome
    cases outcome with
    | ok results' =>
      have hsame : results' = results := houtcome.1.unique hreturns
      subst hsame
      exact ⟨fun _ heq => (Except.ok.inj heq).symm, fun _ => rfl⟩
    | error failure =>
      refine ⟨fun _ heq => (nomatch heq), ?_⟩
      intro haccepting
      rcases houtcome.2 with hrefused | hnone
      · exact absurd haccepting hrefused
      · exact absurd ⟨results, hreturns⟩ hnone

end Call

end

/-- A driver that refuses one call or none, memory that holds ones, and threads that run
last to first. -/
def refusingDevice (refused : Option Nat) : Device (WithTop Int) where
  answers call := ⟨if some call = refused then 700 else 0, false⟩
  floats _ _ _ := 1
  words _ _ _ := 1
  order _ config := config.threads.reverse
  complete _ config := List.reverse_perm config.threads

def mixedRouteBatch : RouteBatch (WithTop Int) :=
  ⟨.ofAgents 2 mixedAgents mixed_batch.uniform, mixedRequests, mixedStates⟩

/-- The same plan, the requests the other way round. -/
def mixedReversed : RouteBatch (WithTop Int) :=
  { mixedRouteBatch with requests := mixedRequests.reverse }

def unitExecutor : CudaRouteK1Executor (WithTop Int) := ⟨⟨1, 1, 1⟩, 1⟩

def unitState : ExecutorState (WithTop Int) :=
  CudaRouteK1Executor.fresh [.ctxSetCurrent, .create .loadedModule]

/-- The launch of a first call is refused when the workspace is already filled. -/
theorem reuse_transparent_refused_launch :
    ((unitExecutor.routeBatchWithTiming (refusingDevice (some 41)) mixedRouteBatch).run
        unitState).1 =
        .error (.returned (.backendUnavailable "cuda" "CUDA kernel launch failed")) ∧
      ∃ results,
        ((unitExecutor.routeBatchWithTiming (refusingDevice (some 41)) mixedReversed).run
          ([mixedRouteBatch].foldl (unitExecutor.next (refusingDevice (some 41))) unitState)).1 =
            .ok results ∧
        ((unitExecutor.routeBatchWithTiming (refusingDevice none) mixedReversed).run unitState).1 =
          .ok results := by
  have hok : ((unitExecutor.routeBatchWithTiming (refusingDevice (some 41)) mixedReversed).run
      ([mixedRouteBatch].foldl (unitExecutor.next (refusingDevice (some 41)))
        unitState)).1.toOption.isSome = true := by decide +kernel
  refine ⟨by decide +kernel, ?_⟩
  cases hroute : ((unitExecutor.routeBatchWithTiming (refusingDevice (some 41)) mixedReversed).run
      ([mixedRouteBatch].foldl (unitExecutor.next (refusingDevice (some 41))) unitState)).1 with
  | error failure =>
    rw [hroute] at hok
    cases hok
  | ok results =>
    have hreused : CudaRouteK1Executor.new (refusingDevice (some 41)) "kernel" ⟨1, 1, 1⟩ [] =
        (.ok unitExecutor, unitState) := rfl
    have hfresh : CudaRouteK1Executor.new (refusingDevice none) "kernel" ⟨1, 1, 1⟩ [] =
        (.ok unitExecutor, unitState) := rfl
    exact ⟨results, rfl, (reuse_transparent hreused hfresh [mixedRouteBatch] mixedReversed
      hroute).2 fun call => ⟨rfl, rfl⟩⟩

end QTom.Cuda
