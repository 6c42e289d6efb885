import Mathlib.Algebra.Ring.Nat
import QTom.Cuda.Kernel
import QTom.Lib.Checked

/- The buffer plan and the kernel's arguments (`qtom-cuda/src/lib.rs`). A plan is the
   lengths of the device buffers, computed with checked 64-bit arithmetic: it is made
   when the exact totals fit and not otherwise (`plan_exact_at_limits`). The arguments
   are made from buffers of the planned lengths and from counts that fit in 32 bits. -/
namespace QTom.Cuda
open QTom.Lib QTom.Router

/-! The plan. -/

/-- `RouteError::BufferSizeOverflow`, a plan's only error. -/
structure BufferSizeOverflow where
  context : String
  deriving DecidableEq, Repr

def cudaPlanContext : String := "cuda buffer plan"

def checkedMul (left right : Nat) : Except BufferSizeOverflow Nat :=
  if left * right < 2 ^ 64 then .ok (left * right) else .error ⟨cudaPlanContext⟩

def checkedAdd (left right : Nat) : Except BufferSizeOverflow Nat :=
  if left + right < 2 ^ 64 then .ok (left + right) else .error ⟨cudaPlanContext⟩

def checkedSum (values : List Nat) : Except BufferSizeOverflow Nat := values.foldlM checkedAdd 0

structure CudaBufferPlan where
  agentCount : Nat
  requestCount : Nat
  dimensions : Nat
  k : Nat
  agentIdU32Len : Nat
  agentVectorF32Len : Nat
  requestVectorF32Len : Nat
  agentScoreWeightF32Len : Nat
  availabilityU32Len : Nat
  outputCandidateU32Len : Nat
  outputEffectiveF32Len : Nat
  outputBaseF32Len : Nat
  outputFlagU32Len : Nat
  deriving DecidableEq, Repr

namespace CudaBufferPlan

def checkedTotalF32Len (plan : CudaBufferPlan) : Except BufferSizeOverflow Nat :=
  checkedSum [plan.agentVectorF32Len, plan.requestVectorF32Len, plan.agentScoreWeightF32Len,
    plan.outputEffectiveF32Len, plan.outputBaseF32Len]

def checkedTotalU32Len (plan : CudaBufferPlan) : Except BufferSizeOverflow Nat :=
  checkedSum [plan.agentIdU32Len, plan.availabilityU32Len, plan.outputCandidateU32Len,
    plan.outputFlagU32Len]

def tryNew (agentCount requestCount dimensions k : Nat) :
    Except BufferSizeOverflow CudaBufferPlan := do
  let candidateSlots ← checkedMul requestCount k
  let agentVectorF32Len ← checkedMul agentCount dimensions
  let requestVectorF32Len ← checkedMul requestCount dimensions
  let plan : CudaBufferPlan :=
    { agentCount, requestCount, dimensions, k
      agentIdU32Len := agentCount
      agentVectorF32Len, requestVectorF32Len
      agentScoreWeightF32Len := agentCount
      availabilityU32Len := agentCount
      outputCandidateU32Len := candidateSlots
      outputEffectiveF32Len := candidateSlots
      outputBaseF32Len := candidateSlots
      outputFlagU32Len := requestCount }
  let _ ← plan.checkedTotalF32Len
  let _ ← plan.checkedTotalU32Len
  return plan

def totalF32Len (plan : CudaBufferPlan) : Checked Nat :=
  Checked.expect plan.checkedTotalF32Len.toOption

def totalU32Len (plan : CudaBufferPlan) : Checked Nat :=
  Checked.expect plan.checkedTotalU32Len.toOption

/-- The plan with every length exact. -/
def exact (agentCount requestCount dimensions k : Nat) : CudaBufferPlan where
  agentCount := agentCount
  requestCount := requestCount
  dimensions := dimensions
  k := k
  agentIdU32Len := agentCount
  agentVectorF32Len := agentCount * dimensions
  requestVectorF32Len := requestCount * dimensions
  agentScoreWeightF32Len := agentCount
  availabilityU32Len := agentCount
  outputCandidateU32Len := requestCount * k
  outputEffectiveF32Len := requestCount * k
  outputBaseF32Len := requestCount * k
  outputFlagU32Len := requestCount

end CudaBufferPlan

/-- A checked product, at the head of a computation. -/
theorem checkedMul_bind {α : Type} {left right : Nat} {f : Nat → Except BufferSizeOverflow α}
    {x : α} : (checkedMul left right >>= f) = .ok x ↔
      left * right < 2 ^ 64 ∧ f (left * right) = .ok x := by
  apply bind_known_ok_iff
  intro product
  rw [checkedMul, require_ok_iff, Except.ok.injEq, eq_comm]

theorem foldlM_checkedAdd {values : List Nat} {start total : Nat} (hstart : start < 2 ^ 64) :
    values.foldlM checkedAdd start = .ok total ↔ start + values.sum = total ∧ total < 2 ^ 64 := by
  induction values generalizing start with
  | nil =>
    show Except.ok start = _ ↔ _
    rw [Except.ok.injEq, List.sum_nil, Nat.add_zero]
    refine ⟨?_, fun h => h.1⟩
    intro h
    exact ⟨h, by omega⟩
  | cons value values ih =>
    rw [List.foldlM_cons, List.sum_cons]
    by_cases hfits : start + value < 2 ^ 64
    · rw [checkedAdd, if_pos hfits]
      show List.foldlM _ (start + value) values = _ ↔ _
      rw [ih hfits, Nat.add_assoc]
    · rw [checkedAdd, if_neg hfits]
      refine ⟨fun h => (nomatch h), ?_⟩
      intro ⟨hsum, htotal⟩
      omega

/-- The checked sum succeeds when the exact sum fits, and is the exact sum. -/
theorem checkedSum_ok_iff {values : List Nat} {total : Nat} :
    checkedSum values = .ok total ↔ values.sum = total ∧ total < 2 ^ 64 := by
  rw [checkedSum, foldlM_checkedAdd (by decide), Nat.zero_add]

theorem checkedSum_bind {α : Type} {values : List Nat} {f : Nat → Except BufferSizeOverflow α}
    {x : α} : (checkedSum values >>= f) = .ok x ↔
      values.sum < 2 ^ 64 ∧ f values.sum = .ok x := by
  apply bind_known_ok_iff
  intro total
  rw [checkedSum_ok_iff]
  refine ⟨?_, ?_⟩
  · intro ⟨hsum, hfits⟩
    exact ⟨hsum ▸ hfits, hsum.symm⟩
  · intro ⟨hfits, hsum⟩
    exact ⟨hsum.symm, hsum ▸ hfits⟩

namespace CudaBufferPlan
variable {agentCount requestCount dimensions k : Nat}

/-- A plan is made when both totals fit in a `usize`, and then it is exact. -/
theorem tryNew_ok_iff {plan : CudaBufferPlan} :
    tryNew agentCount requestCount dimensions k = .ok plan ↔
      (agentCount * dimensions + requestCount * dimensions + agentCount + 2 * (requestCount * k)
          < 2 ^ 64 ∧
        2 * agentCount + requestCount * k + requestCount < 2 ^ 64) ∧
      plan = exact agentCount requestCount dimensions k := by
  simp only [tryNew, checkedMul_bind, checkedTotalF32Len, checkedTotalU32Len, checkedSum_bind,
    List.sum_cons, List.sum_nil]
  show _ ∧ _ ∧ _ ∧ _ ∧ _ ∧ Except.ok (exact agentCount requestCount dimensions k) = _ ↔ _
  rw [Except.ok.injEq]
  -- a product that does not fit leaves no total that does
  refine ⟨?_, ?_⟩
  · intro ⟨_, _, _, hf32, hu32, hplan⟩
    exact ⟨⟨by omega, by omega⟩, hplan.symm⟩
  · intro ⟨⟨hf32, hu32⟩, hplan⟩
    exact ⟨by omega, by omega, by omega, by omega, by omega, hplan.symm⟩

/-- An exact plan whose totals fit has them read back. -/
theorem exact_totals
    (hf32 : agentCount * dimensions + requestCount * dimensions + agentCount +
      2 * (requestCount * k) < 2 ^ 64)
    (hu32 : 2 * agentCount + requestCount * k + requestCount < 2 ^ 64) :
    (exact agentCount requestCount dimensions k).totalF32Len =
        .ok (agentCount * dimensions + requestCount * dimensions + agentCount +
          2 * (requestCount * k)) ∧
      (exact agentCount requestCount dimensions k).totalU32Len =
        .ok (2 * agentCount + requestCount * k + requestCount) := by
  have htotalF32 : (exact agentCount requestCount dimensions k).checkedTotalF32Len =
      .ok (agentCount * dimensions + requestCount * dimensions + agentCount +
        2 * (requestCount * k)) := by
    apply checkedSum_ok_iff.mpr
    refine ⟨?_, hf32⟩
    simp only [exact, List.sum_cons, List.sum_nil]
    omega
  have htotalU32 : (exact agentCount requestCount dimensions k).checkedTotalU32Len =
      .ok (2 * agentCount + requestCount * k + requestCount) := by
    apply checkedSum_ok_iff.mpr
    refine ⟨?_, hu32⟩
    simp only [exact, List.sum_cons, List.sum_nil]
    omega
  unfold totalF32Len totalU32Len
  rw [htotalF32, htotalU32]
  exact ⟨rfl, rfl⟩

/-- A plan is made exactly when both exact totals fit in a `usize`; it has the exact lengths,
and its totals are read without a panic. -/
theorem plan_exact_at_limits (agentCount requestCount dimensions k : Nat) :
    ((∃ plan, tryNew agentCount requestCount dimensions k = .ok plan) ↔
      agentCount * dimensions + requestCount * dimensions + agentCount + 2 * (requestCount * k)
          < 2 ^ 64 ∧
        2 * agentCount + requestCount * k + requestCount < 2 ^ 64) ∧
    ∀ plan, tryNew agentCount requestCount dimensions k = .ok plan →
      plan = exact agentCount requestCount dimensions k ∧
      plan.totalF32Len = .ok (agentCount * dimensions + requestCount * dimensions + agentCount +
        2 * (requestCount * k)) ∧
      plan.totalU32Len = .ok (2 * agentCount + requestCount * k + requestCount) := by
  refine ⟨⟨?_, ?_⟩, ?_⟩
  · intro ⟨plan, hplan⟩
    exact (tryNew_ok_iff.mp hplan).1
  · intro hfits
    exact ⟨_, tryNew_ok_iff.mpr ⟨hfits, rfl⟩⟩
  · intro plan hplan
    obtain ⟨⟨hf32, hu32⟩, rfl⟩ := tryNew_ok_iff.mp hplan
    exact ⟨rfl, exact_totals hf32 hu32⟩

/-- Both totals are `usize::MAX`. -/
theorem plan_exact_at_limits_max : ∃ plan, tryNew (2 ^ 63 - 1) 1 1 0 = .ok plan ∧
    plan.totalF32Len = .ok (2 ^ 64 - 1) ∧ plan.totalU32Len = .ok (2 ^ 64 - 1) := by
  obtain ⟨plan, hplan⟩ := (plan_exact_at_limits (2 ^ 63 - 1) 1 1 0).1.mpr ⟨by decide, by decide⟩
  obtain ⟨_, hf32, hu32⟩ := (plan_exact_at_limits (2 ^ 63 - 1) 1 1 0).2 plan hplan
  exact ⟨plan, hplan, hf32, hu32⟩

end CudaBufferPlan

/-! The kernel's arguments. -/

/-- The variants of `CudaRuntimeError` that making the arguments returns. -/
inductive CudaRuntimeError where
  | invalidLaunchConfig (field : String)
  | bufferLengthMismatch (buffer : String) (expected actual : Nat)
  | resourceSizeOverflow (context : String)
  deriving DecidableEq, Repr

def cudaRouteAgentsLaunchContext : String := "route agents kernel launch"

def checkedU32 (value : Nat) (context : String) : Except CudaRuntimeError Nat :=
  if value < 2 ^ 32 then .ok value else .error (.resourceSizeOverflow context)

def validateBufferLen (buffer : String) (actual expected : Nat) : Except CudaRuntimeError Unit :=
  if actual = expected then .ok () else .error (.bufferLengthMismatch buffer expected actual)

/-- The nine device buffers of a launch. -/
structure RouteAgentsBuffers (F : Type) where
  agentVectors : List F
  agentIds : List Nat
  requestVectors : List F
  agentScoreWeights : List F
  availability : List Nat
  output : CudaRouteKernelOutput F

/-- What a launch passes to the kernel. -/
structure RouteAgentsKernelArgs (F : Type) where
  input : KernelArgs F
  output : CudaRouteKernelOutput F

namespace RouteAgentsKernelArgs
variable {F : Type}

def new (plan : CudaBufferPlan) (buffers : RouteAgentsBuffers F) :
    Except CudaRuntimeError (RouteAgentsKernelArgs F) := do
  if plan.k ≠ 1 then
    throw (.invalidLaunchConfig "route agents kernel currently supports k=1")
  validateBufferLen "agent_vectors" buffers.agentVectors.length plan.agentVectorF32Len
  validateBufferLen "agent_ids" buffers.agentIds.length plan.agentIdU32Len
  validateBufferLen "request_vectors" buffers.requestVectors.length plan.requestVectorF32Len
  validateBufferLen "agent_score_weights" buffers.agentScoreWeights.length
    plan.agentScoreWeightF32Len
  validateBufferLen "availability" buffers.availability.length plan.availabilityU32Len
  validateBufferLen "output_agent_ids" buffers.output.agentIds.length plan.outputCandidateU32Len
  validateBufferLen "output_effective_distances" buffers.output.effectiveDistances.length
    plan.outputEffectiveF32Len
  validateBufferLen "output_base_distances" buffers.output.baseDistances.length
    plan.outputBaseF32Len
  validateBufferLen "output_flags" buffers.output.flags.length plan.outputFlagU32Len
  let agentCount ← checkedU32 plan.agentCount cudaRouteAgentsLaunchContext
  let requestCount ← checkedU32 plan.requestCount cudaRouteAgentsLaunchContext
  let dimensions ← checkedU32 plan.dimensions cudaRouteAgentsLaunchContext
  return {
    input := {
      agentVectors := buffers.agentVectors
      agentIds := buffers.agentIds
      requestVectors := buffers.requestVectors
      agentScoreWeights := buffers.agentScoreWeights
      availability := buffers.availability
      agentCount, requestCount, dimensions }
    output := buffers.output }

def launchConfig (args : RouteAgentsKernelArgs F) : CudaKernelLaunchConfig :=
  for1dThreadCount args.input.requestCount routeAgentsK1BlockDimX

/-- The arguments over a plan's counts and the given buffers. -/
def ofPlan (plan : CudaBufferPlan) (buffers : RouteAgentsBuffers F) : RouteAgentsKernelArgs F where
  input :=
    { agentVectors := buffers.agentVectors
      agentIds := buffers.agentIds
      requestVectors := buffers.requestVectors
      agentScoreWeights := buffers.agentScoreWeights
      availability := buffers.availability
      agentCount := plan.agentCount
      requestCount := plan.requestCount
      dimensions := plan.dimensions }
  output := buffers.output

end RouteAgentsKernelArgs

/-- The buffers have the planned lengths. -/
structure RouteAgentsBuffers.Matches {F : Type} (buffers : RouteAgentsBuffers F)
    (plan : CudaBufferPlan) : Prop where
  agentVectors : buffers.agentVectors.length = plan.agentVectorF32Len
  agentIds : buffers.agentIds.length = plan.agentIdU32Len
  requestVectors : buffers.requestVectors.length = plan.requestVectorF32Len
  agentScoreWeights : buffers.agentScoreWeights.length = plan.agentScoreWeightF32Len
  availability : buffers.availability.length = plan.availabilityU32Len
  outputAgentIds : buffers.output.agentIds.length = plan.outputCandidateU32Len
  outputEffectiveDistances : buffers.output.effectiveDistances.length = plan.outputEffectiveF32Len
  outputBaseDistances : buffers.output.baseDistances.length = plan.outputBaseF32Len
  outputFlags : buffers.output.flags.length = plan.outputFlagU32Len

theorem validateBufferLen_bind {α : Type} {buffer : String} {actual expected : Nat}
    {f : Unit → Except CudaRuntimeError α} {x : α} :
    (validateBufferLen buffer actual expected >>= f) = .ok x ↔
      actual = expected ∧ f () = .ok x := by
  apply bind_known_ok_iff
  intro _
  rw [validateBufferLen, require_ok_iff, and_iff_left rfl, and_iff_left rfl]

theorem checkedU32_bind {α : Type} {value : Nat} {context : String}
    {f : Nat → Except CudaRuntimeError α} {x : α} :
    (checkedU32 value context >>= f) = .ok x ↔ value < 2 ^ 32 ∧ f value = .ok x := by
  apply bind_known_ok_iff
  intro word
  rw [checkedU32, require_ok_iff, Except.ok.injEq, eq_comm]

/-- Arguments are made at k=1, from matching buffers, with counts in 32 bits. -/
theorem RouteAgentsKernelArgs.new_ok_iff {F : Type} {plan : CudaBufferPlan}
    {buffers : RouteAgentsBuffers F} {args : RouteAgentsKernelArgs F} :
    new plan buffers = .ok args ↔ plan.k = 1 ∧ buffers.Matches plan ∧
      (plan.agentCount < 2 ^ 32 ∧ plan.requestCount < 2 ^ 32 ∧ plan.dimensions < 2 ^ 32) ∧
      args = ofPlan plan buffers := by
  by_cases hk : plan.k = 1
  · simp only [new, hk, ne_eq, not_true_eq_false, if_false, validateBufferLen_bind,
      checkedU32_bind]
    show _ ∧ _ ∧ _ ∧ _ ∧ _ ∧ _ ∧ _ ∧ _ ∧ _ ∧ _ ∧ _ ∧ _ ∧
      Except.ok (ofPlan plan buffers) = _ ↔ _
    rw [Except.ok.injEq]
    refine ⟨?_, ?_⟩
    · intro ⟨h1, h2, h3, h4, h5, h6, h7, h8, h9, hagents, hrequests, hdimensions, hargs⟩
      exact ⟨trivial, ⟨h1, h2, h3, h4, h5, h6, h7, h8, h9⟩, ⟨hagents, hrequests, hdimensions⟩,
        hargs.symm⟩
    · intro ⟨_, h, ⟨hagents, hrequests, hdimensions⟩, hargs⟩
      exact ⟨h.agentVectors, h.agentIds, h.requestVectors, h.agentScoreWeights, h.availability,
        h.outputAgentIds, h.outputEffectiveDistances, h.outputBaseDistances, h.outputFlags,
        hagents, hrequests, hdimensions, hargs.symm⟩
  · refine ⟨?_, fun h => absurd h.1 hk⟩
    intro h
    simp only [new, ne_eq, hk, not_false_eq_true, if_true] at h
    cases h

end QTom.Cuda
