import QTom.Cuda.BufferPlan
import QTom.Cuda.Driver
import QTom.Cuda.Host

/- `CudaRouteK1Executor` (`qtom-cuda/src/lib.rs`): k=1 batches on the GPU, in device
   buffers kept from one call to the next.

   A device buffer is its pointer with what the device holds there. A copy that
   succeeds transfers the array, and a launch that succeeds runs the kernel's threads in
   an order of the device's. What new memory holds is undetermined, and so is what all
   buffers hold once a driver call has failed: a copy may have been cut short, and a
   launched kernel may not have ended. Streams are created with flags 0, so later copies
   wait for such a kernel. Durations are left out. -/
namespace QTom.Cuda
open QTom.Lib QTom.Router

/-! The device. -/

/-- The driver's answers, what undetermined memory holds (by buffer, driver call and
cell) and the order in which a launch runs its threads. -/
structure Device (F : Type) where
  answers : Nat → DriverAnswer
  floats : Nat → Nat → Nat → F
  words : Nat → Nat → Nat → Nat
  order : Nat → CudaKernelLaunchConfig → List ThreadId
  complete : ∀ call config, (order call config).Perm config.threads

structure CudaDeviceBuffer (T : Type) where
  ptr : Option Nat
  contents : List T

structure CudaRouteK1Workspace (F : Type) where
  plan : CudaBufferPlan
  agentVectors : CudaDeviceBuffer F
  agentIds : CudaDeviceBuffer Nat
  requestVectors : CudaDeviceBuffer F
  agentScoreWeights : CudaDeviceBuffer F
  availability : CudaDeviceBuffer Nat
  outputAgentIds : CudaDeviceBuffer Nat
  outputEffectiveDistances : CudaDeviceBuffer F
  outputBaseDistances : CudaDeviceBuffer F
  outputFlags : CudaDeviceBuffer Nat

/-- The driver's log, what the running function owns, the last made first, and the
executor's `workspace` cell. -/
structure ExecutorState (F : Type) where
  log : List DriverCall
  locals : List Wrapper
  workspace : Option (CudaRouteK1Workspace F)

/-! Errors. -/

inductive CudaRouteExecutionError where
  | route (error : RouteError)
  | driver (error : DriverError)
  | runtime (error : CudaRuntimeError)
  | unsupportedK (actual : Nat)
  /-- A failed `expect`, index or conversion, or a kernel access outside its buffers. -/
  | stuck
  deriving DecidableEq, Repr

/-- How a call that returns no results ends. -/
inductive RouteFailure where
  | returned (error : RouteError)
  | stuck
  deriving DecidableEq, Repr

def cudaBackendName : String := "cuda"

/-- `status().reason` of the errors of driver calls. -/
def DriverError.reason : DriverError → String
  | .contextSetCurrentFailed _ => "CUDA context activation failed"
  | .deviceAllocFailed _ => "CUDA device allocation failed"
  | .deviceFreeFailed _ => "CUDA device free failed"
  | .hostToDeviceCopyFailed _ => "CUDA host-to-device copy failed"
  | .deviceToHostCopyFailed _ => "CUDA device-to-host copy failed"
  | .streamCreateFailed _ => "CUDA stream create failed"
  | .streamDestroyFailed _ => "CUDA stream destroy failed"
  | .streamSynchronizeFailed _ => "CUDA stream synchronize failed"
  | .eventCreateFailed _ => "CUDA event create failed"
  | .eventDestroyFailed _ => "CUDA event destroy failed"
  | .eventRecordFailed _ => "CUDA event record failed"
  | .eventSynchronizeFailed _ => "CUDA event synchronize failed"
  | .eventElapsedTimeFailed _ => "CUDA event elapsed time query failed"
  | .moduleImageContainsNul => "CUDA module image contains an interior nul"
  | .moduleLoadFailed _ => "CUDA module load failed"
  | .moduleUnloadFailed _ => "CUDA module unload failed"
  | .functionLookupFailed _ => "CUDA function lookup failed"
  | .kernelLaunchFailed _ => "CUDA kernel launch failed"
  | .resourceSizeOverflow _ => "CUDA resource size overflow"

def CudaRuntimeError.reason : CudaRuntimeError → String
  | .invalidLaunchConfig _ => "CUDA kernel launch config is invalid"
  | .bufferLengthMismatch .. => "CUDA buffer length mismatch"
  | .resourceSizeOverflow _ => "CUDA resource size overflow"

def cudaRouteExecutionErrorToRouteError : CudaRouteExecutionError → RouteFailure
  | .route error => .returned error
  | .driver error => .returned (.backendUnavailable cudaBackendName error.reason)
  | .runtime error => .returned (.backendUnavailable cudaBackendName error.reason)
  | .unsupportedK _ =>
    .returned (.backendUnavailable cudaBackendName
      "CUDA public routing currently supports only k=1")
  | .stuck => .stuck

abbrev Execution (F α : Type) := Attempt (ExecutorState F) CudaRouteExecutionError α

namespace Execution
variable {F α ε : Type}

/-- A result of a function that calls no driver. -/
def ofExcept (f : ε → CudaRouteExecutionError) : Except ε α → Execution F α
  | .ok a => return a
  | .error e => Attempt.fail (f e)

/-- A value that has to be there. -/
def ofOption : Option α → Execution F α
  | some a => return a
  | none => Attempt.fail .stuck

end Execution

/-! Device memory. -/

/-- Memory of unknown contents. -/
def undetermined {T : Type} (cells : Nat → T) (len : Nat) : List T := (List.range len).map cells

namespace CudaDeviceBuffer
variable {T : Type}

def len (b : CudaDeviceBuffer T) : Nat := b.contents.length

/-- Entries have four bytes. -/
def byteLen (b : CudaDeviceBuffer T) : Nat := b.len * 4

def disturbed (b : CudaDeviceBuffer T) (cells : Nat → T) : CudaDeviceBuffer T :=
  { b with contents := undetermined cells b.len }

def wrapper (b : CudaDeviceBuffer T) : Wrapper := ⟨.device, b.ptr⟩

end CudaDeviceBuffer

namespace CudaRouteK1Workspace
variable {F : Type}

/-- The workspace after a failed driver call. -/
def disturbed (device : Device F) (call : Nat) (w : CudaRouteK1Workspace F) :
    CudaRouteK1Workspace F where
  plan := w.plan
  agentVectors := w.agentVectors.disturbed (device.floats 0 call)
  agentIds := w.agentIds.disturbed (device.words 1 call)
  requestVectors := w.requestVectors.disturbed (device.floats 2 call)
  agentScoreWeights := w.agentScoreWeights.disturbed (device.floats 3 call)
  availability := w.availability.disturbed (device.words 4 call)
  outputAgentIds := w.outputAgentIds.disturbed (device.words 5 call)
  outputEffectiveDistances := w.outputEffectiveDistances.disturbed (device.floats 6 call)
  outputBaseDistances := w.outputBaseDistances.disturbed (device.floats 7 call)
  outputFlags := w.outputFlags.disturbed (device.words 8 call)

/-- What a launch is given. -/
def buffers (w : CudaRouteK1Workspace F) : RouteAgentsBuffers F where
  agentVectors := w.agentVectors.contents
  agentIds := w.agentIds.contents
  requestVectors := w.requestVectors.contents
  agentScoreWeights := w.agentScoreWeights.contents
  availability := w.availability.contents
  output :=
    { agentIds := w.outputAgentIds.contents
      effectiveDistances := w.outputEffectiveDistances.contents
      baseDistances := w.outputBaseDistances.contents
      flags := w.outputFlags.contents }

/-- The output buffers after a launch. -/
def withOutput (w : CudaRouteK1Workspace F) (output : CudaRouteKernelOutput F) :
    CudaRouteK1Workspace F :=
  { w with
    outputAgentIds := { w.outputAgentIds with contents := output.agentIds }
    outputEffectiveDistances :=
      { w.outputEffectiveDistances with contents := output.effectiveDistances }
    outputBaseDistances := { w.outputBaseDistances with contents := output.baseDistances }
    outputFlags := { w.outputFlags with contents := output.flags } }

/-- What the workspace owns, in the order of its fields. -/
def wrappers (w : CudaRouteK1Workspace F) : List Wrapper :=
  [w.agentVectors.wrapper, w.agentIds.wrapper, w.requestVectors.wrapper,
    w.agentScoreWeights.wrapper, w.availability.wrapper, w.outputAgentIds.wrapper,
    w.outputEffectiveDistances.wrapper, w.outputBaseDistances.wrapper, w.outputFlags.wrapper]

end CudaRouteK1Workspace

section
variable {F : Type} (device : Device F)

def dropAll (ws : List Wrapper) (log : List DriverCall) : List DriverCall :=
  ws.foldl (fun log w => w.drop device.answers log) log

/-- A driver call. -/
def driver {α : Type} (x : Driver α) : Execution F α := ⟨fun s =>
  match x.run s.log with
  | (.ok a, log) => (.ok a, { s with log })
  | (.error e, log) =>
    (.error (.driver e),
      { s with log, workspace := s.workspace.map (·.disturbed device s.log.length) })⟩

/-- A wrapper the running function owns. -/
def hold (x : Driver Wrapper) : Execution F Wrapper := do
  let w ← driver device x
  Attempt.act fun s => (w, { s with locals := w :: s.locals })

/-- What the running function owns is dropped when it is left, the last made first. -/
def scope {α : Type} (x : Execution F α) : Execution F α := ⟨fun s =>
  ((x.run s).1, { (x.run s).2 with
    log := dropAll device (x.run s).2.locals (x.run s).2.log
    locals := [] })⟩

/-- `destroy`: the wrapper is moved into it. -/
def destroy (w : Wrapper) : Execution F Unit := do
  Attempt.act fun s => ((), { s with locals := s.locals.erase w })
  driver device ⟨w.release device.answers⟩

/-- `cells` is what new memory holds. -/
def allocateDeviceBuffer {T : Type} (cells : Nat → Nat → T) (len : Nat) :
    Execution F (CudaDeviceBuffer T) := do
  let owned ← hold device (Wrapper.ofDevice device.answers len)
  Attempt.act fun s => (⟨owned.handle, undetermined (cells s.log.length) len⟩, s)

namespace CudaDeviceBuffer
variable {T : Type}

/-- The device pointer a copy uses. -/
def copyPtr (b : CudaDeviceBuffer T) : Execution F Nat :=
  match b.ptr with
  | some ptr => return ptr
  | none => Attempt.fail (.runtime (.invalidLaunchConfig "device buffer pointer is missing"))

def copyFrom (b : CudaDeviceBuffer T) (source : List T) : Execution F (CudaDeviceBuffer T) := do
  Execution.ofExcept .runtime (validateBufferLen "host_to_device_source" source.length b.len)
  if b.byteLen = 0 then return b
  else do
    let ptr ← b.copyPtr
    driver device (copyHostToDevice device.answers ptr)
    return { b with contents := source }

/-- The destination after the copy. -/
def copyTo (b : CudaDeviceBuffer T) (destination : List T) : Execution F (List T) := do
  Execution.ofExcept .runtime
    (validateBufferLen "device_to_host_destination" destination.length b.len)
  if b.byteLen = 0 then return destination
  else do
    let ptr ← b.copyPtr
    driver device (copyDeviceToHost device.answers ptr)
    return b.contents

end CudaDeviceBuffer

/-! Events and the launch. -/

/-- `CudaEvent::record`. -/
def record (event stream : Wrapper) : Execution F Unit :=
  match event.handle, stream.handle with
  | some event, some stream => driver device (recordEvent device.answers event stream)
  | _, _ => Attempt.fail (.driver (.eventRecordFailed (-1)))

/-- `CudaEvent::synchronize`. -/
def synchronize (event : Wrapper) : Execution F Unit :=
  match event.handle with
  | some event => driver device (synchronizeEvent device.answers event)
  | none => return ()

/-- `CudaEvent::elapsed_since`. A negative time or NaN cannot be converted. -/
def elapsedSince (stop start : Wrapper) : Execution F Unit :=
  match start.handle, stop.handle with
  | some start, some stop => do
    let call ← Attempt.act fun s => (s.log.length, s)
    driver device (elapsedEventTimeMs device.answers start stop)
    -- the query is the second call, after the context's
    if (device.answers (call + 1)).refused then Attempt.fail .stuck else return ()
  | _, _ => Attempt.fail (.driver (.eventElapsedTimeFailed (-1)))

/-- `RouteAgentsKernel::launch`, with what the outputs then are. -/
def launchAgents [F32 F] (stream : Wrapper) (args : RouteAgentsKernelArgs F) :
    Execution F (CudaRouteKernelOutput F) :=
  match stream.handle with
  | some stream => do
    let call ← Attempt.act fun s => (s.log.length, s)
    driver device (launchKernel device.answers stream)
    Execution.ofOption
      (launch args.input args.launchConfig (device.order call args.launchConfig) args.output)
  | none => Attempt.fail (.runtime (.invalidLaunchConfig "stream is destroyed"))

/-! The workspace. -/

/-- What was done to the workspace is in the executor's cell. -/
def keep (w : CudaRouteK1Workspace F) : Execution F (CudaRouteK1Workspace F) :=
  Attempt.act fun s => (w, { s with workspace := some w })

/-- `CudaRouteK1Workspace::new`; the buffers move into the workspace. -/
def CudaRouteK1Workspace.new (plan : CudaBufferPlan) : Execution F (CudaRouteK1Workspace F) :=
  scope device do
    let agentVectors ← allocateDeviceBuffer device (device.floats 0) plan.agentVectorF32Len
    let agentIds ← allocateDeviceBuffer device (device.words 1) plan.agentIdU32Len
    let requestVectors ← allocateDeviceBuffer device (device.floats 2) plan.requestVectorF32Len
    let agentScoreWeights ←
      allocateDeviceBuffer device (device.floats 3) plan.agentScoreWeightF32Len
    let availability ← allocateDeviceBuffer device (device.words 4) plan.availabilityU32Len
    let outputAgentIds ← allocateDeviceBuffer device (device.words 5) plan.outputCandidateU32Len
    let outputEffectiveDistances ←
      allocateDeviceBuffer device (device.floats 6) plan.outputEffectiveF32Len
    let outputBaseDistances ← allocateDeviceBuffer device (device.floats 7) plan.outputBaseF32Len
    let outputFlags ← allocateDeviceBuffer device (device.words 8) plan.outputFlagU32Len
    Attempt.act fun s =>
      ({ plan, agentVectors, agentIds, requestVectors, agentScoreWeights, availability,
         outputAgentIds, outputEffectiveDistances, outputBaseDistances, outputFlags },
        { s with locals := [] })

/-- A new workspace in the place of the old one, which is dropped. -/
def replaceWorkspace (plan : CudaBufferPlan) : Execution F (CudaRouteK1Workspace F) := do
  let workspace ← CudaRouteK1Workspace.new device plan
  Attempt.act fun s =>
    (workspace,
      { s with
        log := dropAll device ((s.workspace.map CudaRouteK1Workspace.wrappers).getD []) s.log
        workspace := some workspace })

/-- The workspace of a call: the one there is, if it has the plan. -/
def workspaceFor (plan : CudaBufferPlan) : Execution F (CudaRouteK1Workspace F) := do
  let cached ← Attempt.act fun s => (s.workspace, s)
  match cached with
  | some workspace =>
    if workspace.plan ≠ plan then replaceWorkspace device plan else return workspace
  | none => replaceWorkspace device plan

/-! A call. -/

/-- The arguments of `route_batch_with_timing`. -/
structure RouteBatch (F : Type) where
  routeTable : AgentRouteTable F
  requests : List (RoutingRequest F)
  states : List (AgentRuntimeState F)

def checkKOneRequest (expected : Nat) (request : RoutingRequest F) :
    Except CudaRouteExecutionError Unit :=
  if request.k ≠ 1 then .error (.unsupportedK request.k)
  else if request.vector.length ≠ expected then
    .error (.route (.dimensionMismatch expected request.vector.length "routing request"))
  else .ok ()

def validateKOneInputs (batch : RouteBatch F) : Except CudaRouteExecutionError Unit :=
  if batch.routeTable.isEmpty then .error (.route .emptyAgents)
  else if batch.routeTable.len ≠ batch.states.length then
    .error (.route (.stateLengthMismatch batch.routeTable.len batch.states.length))
  else batch.requests.forM (checkKOneRequest batch.routeTable.dimensions)

def RouteBatch.plan (batch : RouteBatch F) : Except BufferSizeOverflow CudaBufferPlan :=
  CudaBufferPlan.tryNew batch.routeTable.len batch.requests.length batch.routeTable.dimensions 1

def planError (e : BufferSizeOverflow) : CudaRouteExecutionError :=
  .route (.bufferSizeOverflow e.context)

variable [F32 F]

def CudaRouteKernelOutput.new (plan : CudaBufferPlan) : CudaRouteKernelOutput F where
  agentIds := List.replicate plan.outputCandidateU32Len 0
  effectiveDistances := List.replicate plan.outputEffectiveF32Len F32.zero
  baseDistances := List.replicate plan.outputBaseF32Len F32.zero
  flags := List.replicate plan.outputFlagU32Len 0

/-- The module is loaded as long as the executor is there, by this handle. -/
structure CudaRouteK1Executor (F : Type) where
  coefficients : ScoreCoefficients F
  loadedModule : Nat

namespace CudaRouteK1Executor
variable (executor : CudaRouteK1Executor F) (batch : RouteBatch F)

/-- The five copies to the device. -/
def copyInputs (workspace : CudaRouteK1Workspace F) (inputs : CudaRouteHostInputs F) :
    Execution F (CudaRouteK1Workspace F) := do
  let agentVectors ← workspace.agentVectors.copyFrom device batch.routeTable.vectors
  let workspace ← keep { workspace with agentVectors }
  let agentIds ← workspace.agentIds.copyFrom device batch.routeTable.agentIds
  let workspace ← keep { workspace with agentIds }
  let requestVectors ← workspace.requestVectors.copyFrom device inputs.requestVectors
  let workspace ← keep { workspace with requestVectors }
  let agentScoreWeights ← workspace.agentScoreWeights.copyFrom device inputs.agentScoreWeights
  let workspace ← keep { workspace with agentScoreWeights }
  let availability ← workspace.availability.copyFrom device inputs.availability
  keep { workspace with availability }

/-- The launch between its two events, and the release of the stream and the events. -/
def runKernel (workspace : CudaRouteK1Workspace F) : Execution F (CudaRouteK1Workspace F) := do
  let stream ← hold device (Wrapper.ofStream device.answers)
  let kernelStartEvent ← hold device (Wrapper.ofEvent device.answers)
  let kernelStopEvent ← hold device (Wrapper.ofEvent device.answers)
  driver device (getModuleFunction device.answers executor.loadedModule)
  let args ← Execution.ofExcept .runtime
    (RouteAgentsKernelArgs.new workspace.plan workspace.buffers)
  record device kernelStartEvent stream
  let output ← launchAgents device stream args
  let workspace ← keep (workspace.withOutput output)
  record device kernelStopEvent stream
  synchronize device kernelStopEvent
  elapsedSince device kernelStopEvent kernelStartEvent
  destroy device kernelStopEvent
  destroy device kernelStartEvent
  destroy device stream
  return workspace

/-- The four copies from the device. -/
def copyOutputs (workspace : CudaRouteK1Workspace F) : Execution F (CudaRouteKernelOutput F) := do
  let output := CudaRouteKernelOutput.new workspace.plan
  let agentIds ← workspace.outputAgentIds.copyTo device output.agentIds
  let effectiveDistances ←
    workspace.outputEffectiveDistances.copyTo device output.effectiveDistances
  let baseDistances ← workspace.outputBaseDistances.copyTo device output.baseDistances
  let flags ← workspace.outputFlags.copyTo device output.flags
  return { agentIds, effectiveDistances, baseDistances, flags }

def executeRouteAgentsK1TimedWithPreparedWorkspace (workspace : CudaRouteK1Workspace F)
    (inputs : CudaRouteHostInputs F) : Execution F (List (RoutingResult F)) :=
  scope device do
    let workspace ← copyInputs device batch workspace inputs
    let workspace ← executor.runKernel device workspace
    let output ← copyOutputs device workspace
    Execution.ofOption (decodeKOneResults batch.routeTable executor.coefficients batch.requests
      batch.states output)

/-- The checks are made again. -/
def executeRouteAgentsK1TimedWithWorkspace (workspace : CudaRouteK1Workspace F) :
    Execution F (List (RoutingResult F)) := do
  Execution.ofExcept id (validateKOneInputs batch)
  let plan ← Execution.ofExcept planError batch.plan
  if workspace.plan ≠ plan then
    Attempt.fail (.runtime (.invalidLaunchConfig "workspace plan mismatch"))
  else
    executor.executeRouteAgentsK1TimedWithPreparedWorkspace device batch workspace
      (.fromRequestsAndStates batch.requests batch.states executor.coefficients)

/-- A call with at least one request, before its errors are translated. -/
def routeRequests : Execution F (List (RoutingResult F)) := do
  Execution.ofExcept id (validateKOneInputs batch)
  let plan ← Execution.ofExcept planError batch.plan
  let workspace ← workspaceFor device plan
  executor.executeRouteAgentsK1TimedWithWorkspace device batch workspace

/-- `route_batch_with_timing`. -/
def routeBatchWithTiming : Attempt (ExecutorState F) RouteFailure (List (RoutingResult F)) :=
  if batch.requests.isEmpty then return []
  else (executor.routeRequests device batch).mapError cudaRouteExecutionErrorToRouteError

/-- An executor that has routed nothing, whatever the driver was used for before. -/
def fresh (log : List DriverCall) : ExecutorState F := ⟨log, [], none⟩

/-- `CudaRouteK1Executor::new`. -/
def new (ptx : String) (coefficients : ScoreCoefficients F) (log : List DriverCall) :
    Except RouteFailure (CudaRouteK1Executor F) × ExecutorState F :=
  let loaded := (Wrapper.ofPtx device.answers ptx).run log
  match loaded.1 with
  | .ok w =>
    match w.handle with
    | some loadedModule => (.ok { coefficients, loadedModule }, fresh loaded.2)
    | none => (.error .stuck, fresh loaded.2)
  | .error e => (.error (cudaRouteExecutionErrorToRouteError (.driver e)), fresh loaded.2)

/-- The state after a call. -/
def next (s : ExecutorState F) (batch : RouteBatch F) : ExecutorState F :=
  ((executor.routeBatchWithTiming device batch).run s).2

end CudaRouteK1Executor

end

end QTom.Cuda
