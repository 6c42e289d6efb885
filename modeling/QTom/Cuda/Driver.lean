import Mathlib.Algebra.Group.Nat.Defs
import QTom.Lib.Attempt

/- Driver calls (`runtime_impl` in `qtom-cuda/src/lib.rs`) and the four wrappers that
   own what they create.

   The driver answers calls as it likes: its `n`-th answer is `answers n`, and the
   state is the log of the calls made. A handle is named by the position in the log
   of the call that created it, so no two creations share a name. A release by
   `destroy`, `free` or `unload` takes its wrapper, and the wrapper is dropped when
   it returns, early or not. -/
namespace QTom.Cuda
open QTom.Lib

/-- What a wrapper owns. -/
inductive HandleKind where
  | stream
  | event
  | device
  | loadedModule
  deriving DecidableEq, Repr

/-- Entry points that take handles and leave them to their owners. -/
inductive BorrowEntry where
  | streamSynchronize
  | eventRecord
  | eventSynchronize
  | eventElapsedTime
  | memcpyHtoD
  | memcpyDtoH
  | moduleGetFunction
  | launchKernel
  deriving DecidableEq, Repr

/-- A call of the driver. -/
inductive DriverCall where
  | ctxSetCurrent
  | create (kind : HandleKind)
  | release (kind : HandleKind) (handle : Nat)
  | borrow (entry : BorrowEntry) (handles : List Nat)
  deriving DecidableEq, Repr

/-- What the driver answers: its result code, and whether the value it wrote is one
its caller refuses, as a null handle is. -/
structure DriverAnswer where
  result : Int
  refused : Bool
  deriving DecidableEq, Repr

/-- The variants of `CudaRuntimeError` that driver calls and their wrappers return. -/
inductive DriverError where
  | contextSetCurrentFailed (result : Int)
  | deviceAllocFailed (result : Int)
  | deviceFreeFailed (result : Int)
  | hostToDeviceCopyFailed (result : Int)
  | deviceToHostCopyFailed (result : Int)
  | streamCreateFailed (result : Int)
  | streamDestroyFailed (result : Int)
  | streamSynchronizeFailed (result : Int)
  | eventCreateFailed (result : Int)
  | eventDestroyFailed (result : Int)
  | eventRecordFailed (result : Int)
  | eventSynchronizeFailed (result : Int)
  | eventElapsedTimeFailed (result : Int)
  | moduleImageContainsNul
  | moduleLoadFailed (result : Int)
  | moduleUnloadFailed (result : Int)
  | functionLookupFailed (result : Int)
  | kernelLaunchFailed (result : Int)
  | resourceSizeOverflow (context : String)
  deriving DecidableEq, Repr

abbrev Driver (α : Type) := Attempt (List DriverCall) DriverError α

section Calls
variable (answers : Nat → DriverAnswer)

def ask (call : DriverCall) : Driver DriverAnswer :=
  Attempt.act fun log => (answers log.length, log ++ [call])

def setCurrentContext : Driver Unit := do
  let answer ← ask answers .ctxSetCurrent
  if answer.result = 0 then return () else Attempt.fail (.contextSetCurrentFailed answer.result)

/-- A call that creates a handle, by the name the handle gets. -/
def askHandle (kind : HandleKind) : Driver (Nat × DriverAnswer) :=
  Attempt.act fun log => ((log.length, answers log.length), log ++ [.create kind])

/-- Creating a stream, an event or a module: a null handle is refused. -/
def createHandle (kind : HandleKind) (failed : Int → DriverError) : Driver Nat := do
  setCurrentContext answers
  let created ← askHandle answers kind
  if created.2.result ≠ 0 then Attempt.fail (failed created.2.result)
  else if created.2.refused then Attempt.fail (failed (-1))
  else return created.1

def createStream : Driver Nat := createHandle answers .stream .streamCreateFailed

def createEvent : Driver Nat := createHandle answers .event .eventCreateFailed

def loadModuleFromImage : Driver Nat := createHandle answers .loadedModule .moduleLoadFailed

/-- A device pointer is not checked for null. -/
def allocDevice : Driver Nat := do
  setCurrentContext answers
  let created ← askHandle answers .device
  if created.2.result = 0 then return created.1
  else Attempt.fail (.deviceAllocFailed created.2.result)

/-- A call that gives a handle back. -/
def releaseHandle (kind : HandleKind) (failed : Int → DriverError) (handle : Nat) : Driver Unit := do
  setCurrentContext answers
  let answer ← ask answers (.release kind handle)
  if answer.result = 0 then return () else Attempt.fail (failed answer.result)

def destroyStream (stream : Nat) : Driver Unit :=
  releaseHandle answers .stream .streamDestroyFailed stream

def destroyEvent (event : Nat) : Driver Unit :=
  releaseHandle answers .event .eventDestroyFailed event

def freeDevice (ptr : Nat) : Driver Unit := releaseHandle answers .device .deviceFreeFailed ptr

def unloadModule (loaded : Nat) : Driver Unit :=
  releaseHandle answers .loadedModule .moduleUnloadFailed loaded

/-- A call with handles its caller keeps. -/
def borrowHandles (entry : BorrowEntry) (failed : Int → DriverError) (handles : List Nat) :
    Driver Unit := do
  setCurrentContext answers
  let answer ← ask answers (.borrow entry handles)
  if answer.result = 0 then return () else Attempt.fail (failed answer.result)

def recordEvent (event stream : Nat) : Driver Unit :=
  borrowHandles answers .eventRecord .eventRecordFailed [event, stream]

def synchronizeEvent (event : Nat) : Driver Unit :=
  borrowHandles answers .eventSynchronize .eventSynchronizeFailed [event]

def elapsedEventTimeMs (start stop : Nat) : Driver Unit :=
  borrowHandles answers .eventElapsedTime .eventElapsedTimeFailed [start, stop]

def copyHostToDevice (destination : Nat) : Driver Unit :=
  borrowHandles answers .memcpyHtoD .hostToDeviceCopyFailed [destination]

def copyDeviceToHost (source : Nat) : Driver Unit :=
  borrowHandles answers .memcpyDtoH .deviceToHostCopyFailed [source]

/-- A null function is refused. -/
def getModuleFunction (loaded : Nat) : Driver Unit := do
  setCurrentContext answers
  let answer ← ask answers (.borrow .moduleGetFunction [loaded])
  if answer.result ≠ 0 then Attempt.fail (.functionLookupFailed answer.result)
  else if answer.refused then Attempt.fail (.functionLookupFailed (-1))
  else return ()

def launchKernel (stream : Nat) : Driver Unit :=
  borrowHandles answers .launchKernel .kernelLaunchFailed [stream]

end Calls

/-! The wrappers. -/

/-- `CudaStream`, `CudaEvent`, `CudaDeviceBuffer` and `CudaModule`, as far as they own
a handle. -/
structure Wrapper where
  kind : HandleKind
  handle : Option Nat
  deriving DecidableEq, Repr

namespace Wrapper
variable (answers : Nat → DriverAnswer)

/-- `CudaStream::create` and `CudaEvent::create`. -/
def ofStream : Driver Wrapper := do
  let handle ← createStream answers
  return ⟨.stream, some handle⟩

def ofEvent : Driver Wrapper := do
  let handle ← createEvent answers
  return ⟨.event, some handle⟩

/-- `CudaDeviceBuffer::allocate` for entries of four bytes; an empty buffer owns nothing. -/
def ofDevice (len : Nat) : Driver Wrapper :=
  if len * 4 < 2 ^ 64 then
    if len * 4 = 0 then return ⟨.device, none⟩
    else do
      let ptr ← allocDevice answers
      return ⟨.device, some ptr⟩
  else Attempt.fail (.resourceSizeOverflow "cuda device buffer")

/-- `CudaModule::load_from_ptx`. -/
def ofPtx (ptx : String) : Driver Wrapper :=
  if '\x00' ∈ ptx.toList then Attempt.fail .moduleImageContainsNul
  else do
    let handle ← loadModuleFromImage answers
    return ⟨.loadedModule, some handle⟩

/-- The call that gives back what a wrapper of this kind owns. -/
def releaseOwned (kind : HandleKind) (handle : Nat) : Driver Unit :=
  match kind with
  | .stream => destroyStream answers handle
  | .event => destroyEvent answers handle
  | .device => freeDevice answers handle
  | .loadedModule => unloadModule answers handle

/-- `Drop`: the result of the release is ignored. -/
def drop (w : Wrapper) (log : List DriverCall) : List DriverCall :=
  match w.handle with
  | none => log
  | some handle => ((releaseOwned answers w.kind handle).run log).2

/-- The wrapper when its release has returned: an error leaves before the handle is
cleared. -/
def afterRelease (w : Wrapper) : Except DriverError Unit → Wrapper
  | .ok () => { w with handle := none }
  | .error _ => w

/-- `destroy`, `free` and `unload`, with the drop at their end. -/
def release (w : Wrapper) (log : List DriverCall) : Except DriverError Unit × List DriverCall :=
  match w.handle with
  | none => (.ok (), w.drop answers log)
  | some handle =>
    let released := (releaseOwned answers w.kind handle).run log
    (released.1, (w.afterRelease released.1).drop answers released.2)

end Wrapper

end QTom.Cuda
