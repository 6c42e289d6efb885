import Mathlib.Algebra.Group.Nat.Defs
import QTom.Lib.IndexLoops
import QTom.Router.Score

/- The CUDA kernel `qtom_route_agents_k1` (`route_agents.cu`). A thread reads the
   input buffers, walks the agents once and writes one slot of each output buffer.
   Index arithmetic is unsigned 32-bit; adding a dimension index to a row pointer is
   not. A read or write outside a buffer is `none`. Threads of a launch share no
   output slot, so a launch runs them one after another in any order it is given. -/
namespace QTom.Cuda
open QTom.Lib QTom.Router

/-- Unsigned 32-bit arithmetic. -/
def wrap32 (n : Nat) : Nat := n % 2 ^ 32

/-- The kernel's input buffers and sizes. -/
structure KernelArgs (F : Type) where
  agentVectors : List F
  agentIds : List Nat
  requestVectors : List F
  agentScoreWeights : List F
  availability : List Nat
  agentCount : Nat
  requestCount : Nat
  dimensions : Nat

/-- The output buffers. -/
structure CudaRouteKernelOutput (F : Type) where
  agentIds : List Nat
  effectiveDistances : List F
  baseDistances : List F
  flags : List Nat

section
variable {F : Type} [F32 F]

/-- The distance loop over `dimensions` coordinates. -/
def qtomDistance (dimensions : Nat) (request agent : Nat → Option F) : Option F :=
  (List.range dimensions).foldlM (fun distance dimIdx => do
    let left ← request dimIdx
    let right ← agent dimIdx
    return addSquare distance left right) F32.zero

/-- The unrolled loop. -/
def qtomDistance16 (request agent : Nat → Option F) : Option F := qtomDistance 16 request agent

/-- The distance of the agent loop's body. -/
def baseDistance (dimensions : Nat) (request agent : Nat → Option F) : Option F :=
  if dimensions = 16 then qtomDistance16 request agent else qtomDistance dimensions request agent

/-- A thread's registers in the agent loop. -/
structure ThreadState (F : Type) where
  bestAgentId : Nat
  bestEffectiveDistance : F
  bestBaseDistance : F
  bestAvailableSeen : Bool
  observedAgentId : Nat
  observedBaseDistance : F
  observedAvailable : Bool

namespace ThreadState

def start : ThreadState F where
  bestAgentId := 0
  bestEffectiveDistance := F32.infinity
  bestBaseDistance := F32.infinity
  bestAvailableSeen := false
  observedAgentId := 0
  observedBaseDistance := F32.infinity
  observedAvailable := true

/-- The observed tracker's turn. -/
def observe (s : ThreadState F) (agentId : Nat) (available : Bool) (baseDistance : F) :
    ThreadState F :=
  let observedTie := F32.eq baseDistance s.observedBaseDistance && decide (agentId < s.observedAgentId)
  if F32.lt baseDistance s.observedBaseDistance || observedTie then
    { s with
      observedAgentId := agentId
      observedBaseDistance := baseDistance
      observedAvailable := available }
  else s

/-- The available tracker's turn. -/
def offer (s : ThreadState F) (agentId : Nat) (available : Bool)
    (effectiveDistance baseDistance : F) : ThreadState F :=
  let availableTie :=
    F32.eq effectiveDistance s.bestEffectiveDistance && decide (agentId < s.bestAgentId)
  if available && (!s.bestAvailableSeen || F32.lt effectiveDistance s.bestEffectiveDistance ||
      availableTie) then
    { s with
      bestAgentId := agentId
      bestEffectiveDistance := effectiveDistance
      bestBaseDistance := baseDistance
      bestAvailableSeen := true }
  else s

/-- The loop body once the agent's row is read. -/
def visit (s : ThreadState F) (agentId : Nat) (available : Bool) (omega baseDistance : F) :
    ThreadState F :=
  let effectiveDistance := if available then F32.mul baseDistance omega else F32.infinity
  (s.observe agentId available baseDistance).offer agentId available effectiveDistance baseDistance

end ThreadState

/-- One turn of the agent loop. -/
def agentStep (args : KernelArgs F) (request : Nat → Option F) (s : ThreadState F)
    (agentIdx : Nat) : Option (ThreadState F) := do
  let agentOffset := wrap32 (agentIdx * args.dimensions)
  let agent := fun dimIdx => args.agentVectors[agentOffset + dimIdx]?
  let baseDistance ← baseDistance args.dimensions request agent
  let candidateAgentId ← args.agentIds[agentIdx]?
  let availability ← args.availability[agentIdx]?
  let omega ← args.agentScoreWeights[agentIdx]?
  return s.visit candidateAgentId (availability != 0) omega baseDistance

/-- The agent loop of the thread at `taskIdx`. -/
def agentLoop (args : KernelArgs F) (taskIdx : Nat) : Option (ThreadState F) :=
  let requestOffset := wrap32 (taskIdx * args.dimensions)
  (List.range args.agentCount).foldlM
    (agentStep args fun dimIdx => args.requestVectors[requestOffset + dimIdx]?) ThreadState.start

/-- The thread's four writes. -/
def store (out : CudaRouteKernelOutput F) (taskIdx : Nat) (s : ThreadState F) :
    Option (CudaRouteKernelOutput F) := do
  let agentIds ← write out.agentIds taskIdx (if s.bestAvailableSeen then s.bestAgentId else 0)
  let effectiveDistances ← write out.effectiveDistances taskIdx s.bestEffectiveDistance
  let baseDistances ← write out.baseDistances taskIdx s.bestBaseDistance
  let flags ← write out.flags taskIdx (if s.observedAvailable then 0 else 1)
  return { agentIds, effectiveDistances, baseDistances, flags }

/-- A thread, by its block and its index in the block. -/
structure ThreadId where
  blockIdx : Nat
  threadIdx : Nat
  deriving DecidableEq, Repr

structure CudaKernelLaunchConfig where
  gridDimX : Nat
  blockDimX : Nat
  deriving DecidableEq, Repr

def ThreadId.taskIdx (config : CudaKernelLaunchConfig) (t : ThreadId) : Nat :=
  wrap32 (wrap32 (t.blockIdx * config.blockDimX) + t.threadIdx)

def routeAgentsK1 (args : KernelArgs F) (config : CudaKernelLaunchConfig)
    (out : CudaRouteKernelOutput F) (t : ThreadId) : Option (CudaRouteKernelOutput F) :=
  if t.taskIdx config ≥ args.requestCount then some out
  else do
    let s ← agentLoop args (t.taskIdx config)
    store out (t.taskIdx config) s

end

def routeAgentsK1BlockDimX : Nat := 128

/-- `for_1d_thread_count` at a positive block width. -/
def for1dThreadCount (threadCount blockDimX : Nat) : CudaKernelLaunchConfig :=
  ⟨max (divCeil threadCount blockDimX) 1, blockDimX⟩

/-- The threads of a launch. -/
def CudaKernelLaunchConfig.threads (config : CudaKernelLaunchConfig) : List ThreadId :=
  (List.range config.gridDimX).flatMap fun blockIdx =>
    (List.range config.blockDimX).map fun threadIdx => ⟨blockIdx, threadIdx⟩

/-- A launch whose threads run in the given order. -/
def launch {F : Type} [F32 F] (args : KernelArgs F) (config : CudaKernelLaunchConfig)
    (order : List ThreadId) (out : CudaRouteKernelOutput F) : Option (CudaRouteKernelOutput F) :=
  order.foldlM (routeAgentsK1 args config) out

/-- Every slot has a thread: the grid covers the thread count, and with a count
below 2^32 and a block width dividing 2^32 no thread index wraps. -/
theorem exists_thread {count : Nat} (hcount : count < 2 ^ 32) {i : Nat} (hi : i < count) :
    ∃ t ∈ (for1dThreadCount count routeAgentsK1BlockDimX).threads,
      t.taskIdx (for1dThreadCount count routeAgentsK1BlockDimX) = i := by
  have hcover := le_divCeil_mul (show 0 < routeAgentsK1BlockDimX by decide) count
  have hblock : i / 128 < divCeil count 128 := by
    apply Nat.div_lt_of_lt_mul
    rw [Nat.mul_comm]
    exact Nat.lt_of_lt_of_le hi hcover
  refine ⟨⟨i / 128, i % 128⟩, ?_, ?_⟩
  · apply List.mem_flatMap.mpr
    refine ⟨i / 128, List.mem_range.mpr ?_, ?_⟩
    · exact Nat.lt_of_lt_of_le hblock (Nat.le_max_left _ 1)
    · exact List.mem_map.mpr ⟨i % 128, List.mem_range.mpr (Nat.mod_lt i (by decide)), rfl⟩
  · show (i / 128 * 128 % 2 ^ 32 + i % 128) % 2 ^ 32 = i
    omega

end QTom.Cuda
