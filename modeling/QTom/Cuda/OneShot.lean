import QTom.Cuda.Clients
import QTom.Cuda.Runtime

/- `CudaRouter` (`qtom-cuda/src/lib.rs`): a call makes a runtime, a module and a workspace
   of its own and gives them back when it is left.

   The calls of the library and the context are one log here, and those of what a runtime
   makes another. Whatever either answers, results that are returned are those an executor
   returns (`router_as_executor`), which over exact arithmetic are the CPU router's unless
   an agent of id 0 wins (`router_parity`), and no call leaves anything behind
   (`router_leaves_nothing`). Durations, and the status the router was made with, are left
   out. -/
namespace QTom.Cuda
open QTom.Lib QTom.Router

/-- `status().reason` of the errors of a runtime. -/
def InitializeError.reason : InitializeError → String
  | .driverLibraryNotFound => "CUDA driver library was not found"
  | .missingSymbol _ => "CUDA driver library is missing a required symbol"
  | .driverInitFailed _ => "CUDA driver initialization failed"
  | .deviceCountFailed _ => "CUDA device count query failed"
  | .noDevice => "CUDA driver reported no devices"
  | .deviceGetFailed _ => "CUDA device query failed"
  | .primaryContextRetainFailed _ => "CUDA primary context retain failed"
  | .contextSetCurrentFailed _ => "CUDA context activation failed"

def cudaRuntimeErrorToRouteError (e : InitializeError) : RouteFailure :=
  .returned (.backendUnavailable cudaBackendName e.reason)

structure CudaRouter (F : Type) where
  routeTable : Except RouteError (AgentRouteTable F)
  coefficients : ScoreCoefficients F

/-- The calls so far. -/
structure CudaCalls where
  library : List LibraryCall
  driver : List DriverCall
  deriving DecidableEq, Repr

abbrev RouterCall (α : Type) := Attempt CudaCalls RouteFailure α

section
variable {F α : Type} (library : Nat → LibraryAnswer) (device : Device F)

def onLibrary (x : Loader α) : RouterCall α := ⟨fun calls =>
  ((x.run calls.library).1.mapError cudaRuntimeErrorToRouteError,
    { calls with library := (x.run calls.library).2 })⟩

/-- A function that owns nothing yet. -/
def onDevice (x : Execution F α) : RouterCall α := ⟨fun calls =>
  ((x.run (CudaRouteK1Executor.fresh calls.driver)).1.mapError cudaRouteExecutionErrorToRouteError,
    { calls with driver := (x.run (CudaRouteK1Executor.fresh calls.driver)).2.log })⟩

/-- The runtime is dropped when the function is left. -/
def dropRuntime (runtime : CudaRuntime) (x : RouterCall α) : RouterCall α := ⟨fun calls =>
  ((x.run calls).1, { (x.run calls).2 with library := runtime.drop (x.run calls).2.library })⟩

/-- An error that leaves the function drops the wrapper. -/
def dropOnError (w : Wrapper) (x : Execution F α) : Execution F α := ⟨fun s =>
  match x.run s with
  | (.ok a, s) => (.ok a, s)
  | (.error e, s) => (.error e, { s with log := w.drop device.answers s.log })⟩

/-- The workspace is dropped when the function is left. -/
def dropWorkspace (x : Execution F α) : Execution F α := ⟨fun s =>
  ((x.run s).1, { (x.run s).2 with
    log := dropAll device (workspaceWrappers (x.run s).2.workspace) (x.run s).2.log
    workspace := none })⟩

variable [F32 F]

def executeRouteAgentsK1TimedWithLoadedModule (executor : CudaRouteK1Executor F)
    (batch : RouteBatch F) : Execution F (List (RoutingResult F)) :=
  dropWorkspace device do
    Execution.ofExcept id (validateKOneInputs batch)
    let plan ← Execution.ofExcept planError batch.plan
    let workspace ← CudaRouteK1Workspace.new device plan
    let workspace ← keep workspace
    executor.executeRouteAgentsK1TimedWithPreparedWorkspace device batch workspace
      (.fromRequestsAndStates batch.requests batch.states executor.coefficients)

/-- The results are lost when the module cannot be unloaded. -/
def executeRouteAgentsK1Timed (ptx : String) (coefficients : ScoreCoefficients F)
    (batch : RouteBatch F) : Execution F (List (RoutingResult F)) := do
  let loaded ← driver device (Wrapper.ofPtx device.answers ptx)
  match loaded.handle with
  | none => Attempt.fail .stuck
  | some loadedModule => do
    let results ← dropOnError device loaded
      (executeRouteAgentsK1TimedWithLoadedModule device { coefficients, loadedModule } batch)
    driver device ⟨loaded.release device.answers⟩
    return results

namespace CudaRouter

omit [F32 F] in
def new (agents : List (AgentProfile F)) (coefficients : ScoreCoefficients F) : CudaRouter F where
  routeTable := AgentRouteTable.fromAgents agents
  coefficients

variable (ptx : String) (router : CudaRouter F)

/-- `route_batch`, and `route_batch_with_timing` without its durations. -/
def routeBatch (requests : List (RoutingRequest F)) (states : List (AgentRuntimeState F)) :
    RouterCall (List (RoutingResult F)) :=
  match router.routeTable with
  | .error e => Attempt.fail (.returned e)
  | .ok routeTable =>
    if requests.isEmpty then return []
    else
      let batch : RouteBatch F := { routeTable, requests, states }
      match validateKOneInputs batch with
      | .error e => Attempt.fail (cudaRouteExecutionErrorToRouteError e)
      | .ok () => do
        let runtime ← onLibrary (CudaRuntime.initializeRuntime library)
        dropRuntime runtime
          (onDevice (executeRouteAgentsK1Timed device ptx router.coefficients batch))

/-- The calls after a call with these requests and states. -/
def next (calls : CudaCalls) (inputs : List (RoutingRequest F) × List (AgentRuntimeState F)) :
    CudaCalls :=
  ((router.routeBatch library device ptx inputs.1 inputs.2).run calls).2

end CudaRouter

end

/-! Calls that are answered. -/

/-- Everything there is to open, to find and to call is there and succeeds. -/
def LibraryAccepting (answers : Nat → LibraryAnswer) : Prop :=
  ∀ call, (answers call).result = 0 ∧ 0 < (answers call).value

/-- The computation returns, unless the library refuses something. -/
abbrev Answered {α : Type} (answers : Nat → LibraryAnswer) (x : Loader α) (R : α → Prop) : Prop :=
  Attempt.Triple (fun _ => True) x (fun a _ => R a) fun _ _ => ¬ LibraryAccepting answers

section Library
variable {answers : Nat → LibraryAnswer}

theorem null_refused {call : Nat} (h : ¬ (answers call).value ≠ 0) : ¬ LibraryAccepting answers := by
  intro haccepting
  have hpos := (haccepting call).2
  omega

theorem refused_answered {α : Type} {x : Loader α} (h : ¬ LibraryAccepting answers) :
    Answered answers x fun _ => True := by
  intro log _
  cases x.run log with
  | mk outcome log' =>
    cases outcome with
    | ok _ => trivial
    | error _ => exact h

theorem askLibrary_answered (call : LibraryCall) :
    Answered answers (askLibrary answers call) fun answer => ∃ n, answer = answers n :=
  Attempt.Triple.act fun log _ => ⟨log.length, rfl⟩

theorem openAny_answered {names : List String} (hne : names ≠ []) :
    Answered answers (openAny answers names) fun _ => True := by
  cases names with
  | nil => exact absurd rfl hne
  | cons name names =>
    refine Attempt.Triple.bind (R := fun _ _ => True) (Attempt.Triple.act fun _ _ => trivial) ?_
    intro library
    refine Attempt.Triple.bind (askLibrary_answered _) ?_
    intro answer log h
    obtain ⟨n, rfl⟩ := h
    by_cases hnull : (answers n).value ≠ 0
    · rw [if_pos hnull]
      trivial
    · -- a library that is not there is a refusal, whatever the other names give
      rw [if_neg hnull]
      exact refused_answered (null_refused hnull) log trivial

theorem symbolPtrAny_answered (library : Nat) (label : String) {names : List String}
    (hne : names ≠ []) :
    Answered answers (symbolPtrAny answers library label names) fun _ => True := by
  cases names with
  | nil => exact absurd rfl hne
  | cons name names =>
    refine Attempt.Triple.bind (askLibrary_answered _) ?_
    intro answer log h
    obtain ⟨n, rfl⟩ := h
    by_cases hnull : (answers n).value ≠ 0
    · rw [if_pos hnull]
      trivial
    · rw [if_neg hnull]
      exact refused_answered (null_refused hnull) log trivial

theorem symbols_answered (library : Nat) {symbols : List (String × List String)}
    (hne : ∀ symbol ∈ symbols, symbol.2 ≠ []) :
    Answered answers (symbols.forM fun symbol => symbolPtrAny answers library symbol.1 symbol.2)
      fun _ => True := by
  induction symbols with
  | nil => exact Attempt.Triple.pure fun _ _ => trivial
  | cons symbol symbols ih =>
    obtain ⟨hfirst, hrest⟩ := List.forall_mem_cons.mp hne
    exact Attempt.Triple.bind (symbolPtrAny_answered library symbol.1 hfirst) fun _ => ih hrest

theorem closeOnError_answered {α : Type} {x : Loader α} {R : α → Prop} (library : Nat)
    (h : Answered answers x R) : Answered answers (closeOnError library x) R := by
  intro log hlog
  have houtcome := h log hlog
  unfold closeOnError
  dsimp only
  cases hrun : x.run log with
  | mk outcome log' =>
    rw [hrun] at houtcome
    cases outcome <;> exact houtcome

theorem loadDriver_answered : Answered answers (loadDriver answers) fun _ => True := by
  refine Attempt.Triple.bind (openAny_answered (by decide)) ?_
  intro library
  apply closeOnError_answered
  refine Attempt.Triple.bind (symbols_answered library (by decide)) ?_
  intro _
  exact Attempt.Triple.pure fun _ _ => trivial

theorem callEntry_answered (library : Nat) (entry : DriverEntry) (failed : Int → InitializeError) :
    Answered answers (callEntry answers library entry failed) fun value =>
      ∃ n, value = (answers n).value := by
  refine Attempt.Triple.bind (askLibrary_answered _) ?_
  intro answer log h
  obtain ⟨n, rfl⟩ := h
  by_cases hresult : (answers n).result = 0
  · rw [if_pos hresult]
    exact ⟨n, rfl⟩
  · rw [if_neg hresult]
    exact fun haccepting => hresult (haccepting n).1

/-- A call whose number is not used. -/
theorem callUnit_answered (library : Nat) (entry : DriverEntry) (failed : Int → InitializeError) :
    Answered answers (do let _ ← callEntry answers library entry failed; return ()) fun _ => True :=
  Attempt.Triple.bind (callEntry_answered library entry failed) fun _ =>
    Attempt.Triple.pure fun _ _ => trivial

theorem driverDeviceCount_answered (library : Nat) :
    Answered answers (driverDeviceCount answers library) fun _ => True := by
  refine Attempt.Triple.bind (callEntry_answered library _ _) ?_
  intro count log h
  obtain ⟨n, rfl⟩ := h
  by_cases hnone : (answers n).value ≤ 0
  · rw [if_pos hnone]
    intro haccepting
    have hpos := (haccepting n).2
    omega
  · rw [if_neg hnone]
    trivial

theorem retainContext_answered (library : Nat) :
    Answered answers (retainContext answers library) fun _ => True := by
  refine Attempt.Triple.bind (callEntry_answered library _ _) ?_
  intro handle log h
  obtain ⟨n, rfl⟩ := h
  by_cases hnull : (answers n).value = 0
  · rw [if_pos hnull]
    exact null_refused fun hne => hne hnull
  · rw [if_neg hnull]
    have hcurrent : Answered answers (contextSetCurrent answers library) fun _ => True :=
      callUnit_answered library _ _
    have houtcome := hcurrent log trivial
    dsimp only
    cases hrun : (contextSetCurrent answers library).run log with
    | mk outcome log' =>
      rw [hrun] at houtcome
      cases outcome <;> exact houtcome

theorem initializeRuntime_answered (answers : Nat → LibraryAnswer) :
    Answered answers (CudaRuntime.initializeRuntime answers) fun _ => True := by
  refine Attempt.Triple.bind loadDriver_answered ?_
  intro library
  apply closeOnError_answered
  refine Attempt.Triple.bind (callUnit_answered library _ _) ?_
  intro _
  refine Attempt.Triple.bind (driverDeviceCount_answered library) ?_
  intro count
  refine Attempt.Triple.bind (Attempt.Triple.weaken (callEntry_answered library _ _)
    (fun _ h => h) (fun _ _ _ => trivial) fun _ _ h => h) ?_
  intro device
  refine Attempt.Triple.bind (retainContext_answered library) ?_
  intro _
  exact Attempt.Triple.pure fun _ _ => trivial

end Library

/-! What is returned. -/

section Results
variable {F : Type} {device : Device F} {excuse : Prop}

theorem ofPtx_served {answers : Nat → DriverAnswer} {ptx : String}
    (hexcuse : '\x00' ∈ ptx.toList → excuse) :
    Served answers excuse (Wrapper.ofPtx answers ptx) Wrapper.Owns := by
  apply Served.ite
  · intro hnul
    exact Served.fail (Or.inr (hexcuse hnul))
  · intro _
    exact createWrapper_served .loadedModule (createHandle_served _ _)

theorem Completes.excused {α : Type} {excuse' : Prop} {I : Option (CudaRouteK1Workspace F) → Prop}
    {x : Execution F α} {Q : α → Option (CudaRouteK1Workspace F) → Prop} (h : excuse → excuse')
    (hx : Completes device excuse I x Q) : Completes device excuse' I x Q :=
  Attempt.Triple.weaken hx (fun _ hs => hs) (fun _ _ hs => hs) fun _ _ hs => ⟨hs.1, hs.2.imp_right h⟩

theorem sound_none : Sound (none : Option (CudaRouteK1Workspace F)) := by
  intro w h
  cases h

theorem dropOnError_completes {α : Type} {I : Option (CudaRouteK1Workspace F) → Prop}
    {x : Execution F α} {Q : α → Option (CudaRouteK1Workspace F) → Prop} (w : Wrapper)
    (hx : Completes device excuse I x Q) : Completes device excuse I (dropOnError device w x) Q := by
  intro s hs
  have houtcome := hx s hs
  unfold dropOnError
  dsimp only
  cases hrun : x.run s with
  | mk outcome s' =>
    rw [hrun] at houtcome
    cases outcome <;> exact houtcome

theorem dropWorkspace_completes {α : Type} {I : Option (CudaRouteK1Workspace F) → Prop}
    {x : Execution F α} {R : α → Prop} {Q : α → Option (CudaRouteK1Workspace F) → Prop}
    (hx : Completes device excuse I x fun a cell => R a ∧ Q a cell) :
    Completes device excuse I (dropWorkspace device x) fun a cell => R a ∧ cell = none := by
  intro s hs
  have houtcome := hx s hs
  unfold dropWorkspace
  dsimp only
  cases hrun : x.run s with
  | mk outcome s' =>
    rw [hrun] at houtcome
    cases outcome with
    | ok a => exact ⟨houtcome.1, rfl⟩
    | error e => exact ⟨sound_none, houtcome.2⟩

variable [F32 F] {batch : RouteBatch F}

theorem unroutable_of_invalid {coefficients : ScoreCoefficients F} (hne : batch.requests ≠ [])
    {e : CudaRouteExecutionError} (he : validateKOneInputs batch = .error e) :
    Unroutable coefficients batch := by
  apply unroutable_of hne
  intro plan haccepted
  rw [haccepted.valid] at he
  cases he

theorem unroutable_of_unplanned {coefficients : ScoreCoefficients F} (hne : batch.requests ≠ [])
    {e : BufferSizeOverflow} (he : batch.plan = .error e) : Unroutable coefficients batch := by
  apply unroutable_of hne
  intro plan haccepted
  rw [haccepted.planned] at he
  cases he

theorem loadedModule_completes (executor : CudaRouteK1Executor F) (hne : batch.requests ≠ []) :
    Completes device (Unroutable executor.coefficients batch) Sound
      (executeRouteAgentsK1TimedWithLoadedModule device executor batch) fun results cell =>
        Returns executor.coefficients batch results ∧ cell = none := by
  have hI : ∀ cell : Option (CudaRouteK1Workspace F), Sound cell → Sound cell := fun _ h => h
  apply dropWorkspace_completes
  apply Completes.step (Completes.ofExcept hI fun e he => unroutable_of_invalid hne he)
  intro _ hvalid
  apply Completes.step (Completes.ofExcept hI fun e he => unroutable_of_unplanned hne he)
  intro plan hplan
  have hexcuse : ¬ plan.Allocatable → Unroutable executor.coefficients batch :=
    fun h => unroutable_of_plan hne hplan fun hboth => h hboth.1
  apply Completes.step (new_completes hexcuse)
  intro w hw
  obtain ⟨hfits, hsame⟩ := hw
  subst hsame
  apply Completes.keep
  exact executePrepared_completes hne hfits hvalid hplan

theorem executeRouteAgentsK1Timed_completes (device : Device F) (ptx : String)
    (coefficients : ScoreCoefficients F) (batch : RouteBatch F) (hne : batch.requests ≠ []) :
    Completes device ('\x00' ∈ ptx.toList ∨ Unroutable coefficients batch) (fun cell => cell = none)
      (executeRouteAgentsK1Timed device ptx coefficients batch) fun results _ =>
        Returns coefficients batch results := by
  have hnone : ∀ cell : Option (CudaRouteK1Workspace F), cell = none → Sound cell := by
    intro cell hcell
    subst hcell
    exact sound_none
  unfold executeRouteAgentsK1Timed
  apply Completes.step (Completes.driver hnone (ofPtx_served Or.inl))
  intro loaded howns
  obtain ⟨loadedModule, hhandle⟩ := howns
  rw [hhandle]
  dsimp only
  have hmodule : Completes device ('\x00' ∈ ptx.toList ∨ Unroutable coefficients batch) Sound
      (dropOnError device loaded (executeRouteAgentsK1TimedWithLoadedModule device
        { coefficients, loadedModule } batch)) fun results cell =>
          Returns coefficients batch results ∧ cell = none := by
    apply Completes.excused Or.inr
    apply dropOnError_completes loaded
    exact loadedModule_completes { coefficients, loadedModule } hne
  apply Completes.step (Completes.weaken hmodule hnone fun _ _ h => h)
  intro results hreturns
  apply Completes.step (Completes.driver hnone (release_served loaded))
  intro _ _
  exact Completes.pure fun _ _ => hreturns

/-! The parts of the state. -/

theorem onLibrary_spec {α : Type} {P : CudaCalls → Prop} {Q : α → CudaCalls → Prop}
    {E : CudaCalls → Prop} {x : Loader α}
    (h : ∀ calls, P calls → Attempt.Outcome (fun a log => Q a { calls with library := log })
      (fun _ log => E { calls with library := log }) (x.run calls.library)) :
    Attempt.Triple P (onLibrary x) Q fun _ => E := by
  intro calls hcalls
  have houtcome := h calls hcalls
  unfold onLibrary
  dsimp only
  cases hrun : x.run calls.library with
  | mk outcome log =>
    rw [hrun] at houtcome
    cases outcome <;> exact houtcome

omit [F32 F] in
theorem onDevice_spec {α : Type} {P : CudaCalls → Prop} {Q : α → CudaCalls → Prop}
    {E : CudaCalls → Prop} {x : Execution F α}
    (h : ∀ calls, P calls → Attempt.Outcome (fun a s => Q a { calls with driver := s.log })
      (fun _ s => E { calls with driver := s.log })
      (x.run (CudaRouteK1Executor.fresh calls.driver))) :
    Attempt.Triple P (onDevice x) Q fun _ => E := by
  intro calls hcalls
  have houtcome := h calls hcalls
  unfold onDevice
  dsimp only
  cases hrun : x.run (CudaRouteK1Executor.fresh calls.driver) with
  | mk outcome s =>
    rw [hrun] at houtcome
    cases outcome <;> exact houtcome

theorem dropRuntime_spec {α : Type} {P : CudaCalls → Prop} {Q : α → CudaCalls → Prop}
    {E : CudaCalls → Prop} {runtime : CudaRuntime} {x : RouterCall α}
    (h : Attempt.Triple P x
      (fun a calls => Q a { calls with library := runtime.drop calls.library })
      fun _ calls => E { calls with library := runtime.drop calls.library }) :
    Attempt.Triple P (dropRuntime runtime x) Q fun _ => E := by
  intro calls hcalls
  have houtcome := h calls hcalls
  unfold dropRuntime
  dsimp only
  cases hrun : x.run calls with
  | mk outcome calls' =>
    rw [hrun] at houtcome
    cases outcome <;> exact houtcome

/-- Where a router's call may stop. -/
def RouterStopped (library : Nat → LibraryAnswer) (device : Device F) (ptx : String)
    (router : CudaRouter F) (requests : List (RoutingRequest F))
    (states : List (AgentRuntimeState F)) : Prop :=
  ¬ LibraryAccepting library ∨ ¬ Accepting device.answers ∨ '\x00' ∈ ptx.toList ∨
    ∀ table, router.routeTable = .ok table →
      Unroutable router.coefficients { routeTable := table, requests, states }

/-- A call returns what its batch gives, or stops. -/
theorem routeBatch_spec (library : Nat → LibraryAnswer) (device : Device F) (ptx : String)
    (router : CudaRouter F) (requests : List (RoutingRequest F))
    (states : List (AgentRuntimeState F)) :
    Attempt.Triple (fun _ => True) (router.routeBatch library device ptx requests states)
      (fun results _ => ∃ table, router.routeTable = .ok table ∧
        Returns router.coefficients { routeTable := table, requests, states } results)
      fun _ _ => RouterStopped library device ptx router requests states := by
  unfold CudaRouter.routeBatch
  cases htable : router.routeTable with
  | error e =>
    refine Attempt.Triple.fail fun _ _ => Or.inr (Or.inr (Or.inr ?_))
    intro table hok
    rw [htable] at hok
    cases hok
  | ok table =>
    dsimp only
    have hstopped : Unroutable router.coefficients { routeTable := table, requests, states } →
        RouterStopped library device ptx router requests states := by
      intro hunroutable
      refine Or.inr (Or.inr (Or.inr ?_))
      intro table' hok
      rw [htable] at hok
      rw [← Except.ok.inj hok]
      exact hunroutable
    apply Attempt.Triple.ite
    · intro hempty
      exact Attempt.Triple.pure fun _ _ =>
        ⟨table, rfl, Or.inl ⟨List.isEmpty_iff.mp hempty, rfl⟩⟩
    intro hsome
    have hne : requests ≠ [] := fun hempty => hsome (List.isEmpty_iff.mpr hempty)
    cases hvalid : validateKOneInputs { routeTable := table, requests, states } with
    | error e =>
      exact Attempt.Triple.fail fun _ _ => hstopped (unroutable_of_invalid hne hvalid)
    | ok _ =>
      refine Attempt.Triple.bind (R := fun _ _ => True) (onLibrary_spec ?_) ?_
      · intro calls _
        have houtcome := initializeRuntime_answered library calls.library trivial
        cases hrun : (CudaRuntime.initializeRuntime library).run calls.library with
        | mk outcome log =>
          rw [hrun] at houtcome
          cases outcome with
          | ok runtime => trivial
          | error e => exact Or.inl houtcome
      intro runtime
      apply dropRuntime_spec
      apply onDevice_spec
      intro calls _
      have houtcome := executeRouteAgentsK1Timed_completes device ptx router.coefficients
        { routeTable := table, requests, states } hne
        (CudaRouteK1Executor.fresh calls.driver) rfl
      cases hrun : (executeRouteAgentsK1Timed device ptx router.coefficients
          { routeTable := table, requests, states }).run (CudaRouteK1Executor.fresh calls.driver) with
      | mk outcome s =>
        rw [hrun] at houtcome
        cases outcome with
        | ok results => exact ⟨table, rfl, houtcome⟩
        | error e =>
          obtain ⟨_, hrefused | hnul | hunroutable⟩ := houtcome
          · exact Or.inr (Or.inl hrefused)
          · exact Or.inr (Or.inr (Or.inl hnul))
          · exact hstopped hunroutable

/-- A router's call and a call of an executor that was used before, on any devices and with
the same coefficients: results the one returns are those the other returns, and where one
of them returns nothing, its environment refused something. -/
theorem router_as_executor (library : Nat → LibraryAnswer) {device : Device F} (other : Device F)
    (ptx : String) {coefficients : ScoreCoefficients F} {log : List DriverCall}
    {executor : CudaRouteK1Executor F} {s : ExecutorState F}
    (hexecutor : CudaRouteK1Executor.new device ptx coefficients log = (.ok executor, s))
    (earlier : List (RouteBatch F)) {router : CudaRouter F} {table : AgentRouteTable F}
    (hrouter : router = { routeTable := .ok table, coefficients })
    (requests : List (RoutingRequest F)) (states : List (AgentRuntimeState F)) (calls : CudaCalls) :
    let batch : RouteBatch F := { routeTable := table, requests, states }
    let routed := ((router.routeBatch library other ptx requests states).run calls).1
    let executed := ((executor.routeBatchWithTiming device batch).run
      (earlier.foldl (executor.next device) s)).1
    (∀ results results', routed = .ok results → executed = .ok results' → results = results') ∧
    (∀ results, executed = .ok results → LibraryAccepting library → Accepting other.answers →
      '\x00' ∉ ptx.toList → routed = .ok results) ∧
    ∀ results, routed = .ok results → Accepting device.answers → executed = .ok results := by
  intro batch routed executed
  subst hrouter
  obtain ⟨hcoefficients, hcell⟩ := new_spec hexecutor
  have hsound : Sound (earlier.foldl (executor.next device) s).workspace := by
    apply sound_run
    rw [hcell]
    exact sound_none
  have hexecuted := routeBatchWithTiming_spec device executor batch
  rw [hcoefficients] at hexecuted
  have hrouted := routeBatch_spec library other ptx { routeTable := .ok table, coefficients }
    requests states
  have hofExecutor : ∀ results, executed = .ok results → Returns coefficients batch results :=
    fun results hok => (hexecuted.returned hsound hok).1
  have hofRouter : ∀ results, routed = .ok results → Returns coefficients batch results := by
    intro results hok
    obtain ⟨_, hsame, hreturns⟩ := hrouted.returned trivial hok
    rw [← Except.ok.inj hsame] at hreturns
    exact hreturns
  refine ⟨?_, ?_, ?_⟩
  · intro results results' hok hok'
    exact (hofRouter results hok).unique (hofExecutor results' hok')
  · intro results hok hlibrary haccepting hnul
    have hreturns := hofExecutor results hok
    cases hcase : routed with
    | ok results' => rw [(hofRouter results' hcase).unique hreturns]
    | error failure =>
      rcases hrouted.stopped trivial hcase with hrefused | hrefused | hmem | hunroutable
      · exact absurd hlibrary hrefused
      · exact absurd haccepting hrefused
      · exact absurd hmem hnul
      · exact absurd ⟨results, hreturns⟩ (hunroutable table rfl)
  · intro results hok haccepting
    have hreturns := hofRouter results hok
    cases hcase : executed with
    | ok results' => rw [(hofExecutor results' hcase).unique hreturns]
    | error failure =>
      rcases (hexecuted.stopped hsound hcase).2 with hrefused | hunroutable
      · exact absurd haccepting hrefused
      · exact absurd ⟨results, hreturns⟩ hunroutable

end Results

/-- A library that has all there is to find. -/
def wholeLibrary : Nat → LibraryAnswer := fun _ => ⟨0, 1⟩

theorem wholeLibrary_accepting : LibraryAccepting wholeLibrary :=
  fun _ => ⟨rfl, show (0 : Int) < 1 by decide⟩

def unitRouter : CudaRouter (WithTop Int) := ⟨.ok mixedRouteBatch.routeTable, ⟨1, 1, 1⟩⟩

/-- The executor's first launch was refused. -/
theorem router_as_executor_refused_launch : ∃ results,
    ((unitExecutor.routeBatchWithTiming (refusingDevice (some 41)) mixedReversed).run
      ([mixedRouteBatch].foldl (unitExecutor.next (refusingDevice (some 41))) unitState)).1 =
        .ok results ∧
    ((unitRouter.routeBatch wholeLibrary (refusingDevice none) "kernel" mixedReversed.requests
      mixedReversed.states).run ⟨[], []⟩).1 = .ok results := by
  have hok : ((unitExecutor.routeBatchWithTiming (refusingDevice (some 41)) mixedReversed).run
      ([mixedRouteBatch].foldl (unitExecutor.next (refusingDevice (some 41)))
        unitState)).1.toOption.isSome = true := by decide +kernel
  cases hroute : ((unitExecutor.routeBatchWithTiming (refusingDevice (some 41)) mixedReversed).run
      ([mixedRouteBatch].foldl (unitExecutor.next (refusingDevice (some 41))) unitState)).1 with
  | error failure =>
    rw [hroute] at hok
    cases hok
  | ok results =>
    have hexecutor : CudaRouteK1Executor.new (refusingDevice (some 41)) "kernel" ⟨1, 1, 1⟩ [] =
        (.ok unitExecutor, unitState) := rfl
    have hrouter : unitRouter = ⟨.ok mixedReversed.routeTable, ⟨1, 1, 1⟩⟩ := rfl
    obtain ⟨_, hrouted, _⟩ := router_as_executor wholeLibrary (refusingDevice none) "kernel"
      hexecutor [mixedRouteBatch] hrouter mixedReversed.requests mixedReversed.states ⟨[], []⟩
    exact ⟨results, rfl, hrouted results hroute wholeLibrary_accepting (fun _ => ⟨rfl, rfl⟩)
      (by decide)⟩

/-! Over exact arithmetic. -/

section Parity
variable {K : Type} [Ring K] [LinearOrder K] {d : Nat} {agents : List (AgentProfile (WithTop K))}
  {states : List (AgentRuntimeState (WithTop K))} {requests : List (RoutingRequest (WithTop K))}

omit [Ring K] [LinearOrder K] in
/-- A k=1 batch whose offsets do not wrap passes the checks. -/
theorem accepted_of_noWrap (h : KOneBatch d agents states requests)
    (hsize : NoWrap d agents.length requests.length) (hne : agents ≠ []) :
    RouteBatch.Accepted { routeTable := AgentRouteTable.ofAgents d agents h.uniform, requests, states }
      (.exact agents.length requests.length d 1) := by
  have hbound : ∀ {n : Nat}, n < 2 ^ 32 → (∀ i < n, i * d < 2 ^ 32) → n * d < 2 ^ 33 := by
    intro n hn hoffset
    cases n with
    | zero => omega
    | succ n =>
      have hlast := hoffset n (Nat.lt_succ_self n)
      have hd := hsize.dimensions
      rw [Nat.succ_mul]
      omega
  have hagents := hbound hsize.agents hsize.agentOffset
  have hrequests := hbound hsize.requests hsize.requestOffset
  have hagentCount := hsize.agents
  have hrequestCount := hsize.requests
  have hlen : (AgentRouteTable.ofAgents d agents h.uniform).len = agents.length := List.length_map _
  refine ⟨?_, ?_, ?_, hagentCount, hrequestCount, hsize.dimensions⟩
  · have hsome : (AgentRouteTable.ofAgents d agents h.uniform).isEmpty = false := by
      cases agents with
      | nil => exact absurd rfl hne
      | cons first rest => rfl
    simp only [validateKOneInputs, refuse_ok_iff, not_not]
    refine ⟨?_, hlen.trans h.states.symm, ?_⟩
    · rw [hsome]
      exact Bool.false_ne_true
    · apply forM_ok_iff.mpr
      intro request hmem
      simp only [checkKOneRequest, refuse_ok_iff, not_not]
      exact ⟨h.one request hmem, h.dimension request hmem, trivial⟩
  · unfold RouteBatch.plan
    dsimp only
    rw [hlen]
    refine CudaBufferPlan.tryNew_ok_iff.mpr ⟨⟨?_, ?_⟩, rfl⟩
    · show agents.length * d + requests.length * d + agents.length + 2 * (requests.length * 1) < 2 ^ 64
      omega
    · omega
  · simp only [CudaBufferPlan.Allocatable, CudaBufferPlan.lengths, CudaBufferPlan.exact,
      List.forall_mem_cons]
    have hnone : ∀ len ∈ ([] : List Nat), len * 4 < 2 ^ 64 := by
      intro len hmem
      cases hmem
    refine ⟨?_, ?_, ?_, ?_, ?_, ?_, ?_, ?_, ?_, hnone⟩ <;> omega

/-- The results of a k=1 batch. -/
theorem returns_decoded (h : KOneBatch d agents states requests)
    (hsize : NoWrap d agents.length requests.length) (hne : agents ≠ [])
    (coefficients : ScoreCoefficients (WithTop K)) :
    Returns coefficients
      { routeTable := AgentRouteTable.ofAgents d agents h.uniform, requests, states }
      (requests.map fun request =>
        decoded request (scoredAgents agents states request coefficients)) := by
  by_cases hrequests : requests = []
  · subst hrequests
    exact Or.inl ⟨rfl, rfl⟩
  · refine Or.inr ⟨hrequests, _, accepted_of_noWrap h hsize hne, ?_⟩
    have hplanned := zeros_planned (F := WithTop K) (accepted_of_noWrap h hsize hne).planned
    exact executeWithPreparedWorkspace_eq h hsize hplanned coefficients (List.Perm.refl _)

/-- The CPU router's results for the same batch. -/
theorem cpu_batch (h : KOneBatch d agents states requests) (hne : agents ≠ [])
    (coefficients : ScoreCoefficients (WithTop K)) (workers : Nat) :
    ((CpuRouter.new agents coefficients).withDebugObserved false).routeBatchWithWorkers requests
        states workers =
      .ok (requests.map fun request =>
        specResult false request (scoredAgents agents states request coefficients)) := by
  have hvalid : ((CpuRouter.new agents coefficients).withDebugObserved false).validateBatch
      requests states = .ok (batchOf h.uniform h.states) :=
    validateBatch_uniform h.uniform hne h.states h.dimension coefficients false
  refine (routeBatchWithWorkers_validated hvalid workers).trans (mapM_ok ?_)
  intro request _
  have hcandidates := candidates_batchOf h.uniform h.states request coefficients
  have hdistinct : Distinct
      ((batchOf h.uniform h.states).candidates request.vector coefficients) := by
    rw [hcandidates]
    exact distinct_scoredAgents h.ids h.states request coefficients
  rw [← hcandidates]
  exact routeOneValidated_eq _ request _ hdistinct

/-- Over exact arithmetic a call that returns has routed the batch as the CPU router does,
with any number of workers, unless for some request an available agent of id 0 is the
nearest available one; and it does return where library and driver do what they are asked. -/
theorem router_parity (h : KOneBatch d agents states requests)
    (hsize : NoWrap d agents.length requests.length) (hne : agents ≠ [])
    (coefficients : ScoreCoefficients (WithTop K)) (library : Nat → LibraryAnswer)
    (device : Device (WithTop K)) (ptx : String) (calls : CudaCalls) (workers : Nat) :
    let routed := (((CudaRouter.new agents coefficients).routeBatch library device ptx requests
      states).run calls).1
    let cpu := ((CpuRouter.new agents coefficients).withDebugObserved false).routeBatchWithWorkers
      requests states workers
    (∀ results, routed = .ok results → (cpu = .ok results ↔
      ∀ request ∈ requests, ¬ ZeroWins (scoredAgents agents states request coefficients))) ∧
    (LibraryAccepting library → Accepting device.answers → '\x00' ∉ ptx.toList →
      ∃ results, routed = .ok results) := by
  intro routed cpu
  have htable := AgentRouteTable.fromAgents_uniform h.uniform hne
  have hreturns := returns_decoded h hsize hne coefficients
  have hspec := routeBatch_spec library device ptx (CudaRouter.new agents coefficients) requests
    states
  refine ⟨?_, ?_⟩
  · intro results hok
    obtain ⟨table, hsame, hresults⟩ := hspec.returned trivial hok
    have heq : table = AgentRouteTable.ofAgents d agents h.uniform :=
      Except.ok.inj (hsame.symm.trans htable)
    subst heq
    have hcpu : cpu = _ := cpu_batch h hne coefficients workers
    rw [hcpu, hresults.unique hreturns, Except.ok.injEq, List.map_inj_left]
    refine ⟨?_, ?_⟩
    · intro hsame request hmem
      exact (decoded_eq_iff (h.one request hmem)
        (distinct_scoredAgents h.ids h.states request coefficients)).mp (hsame request hmem).symm
    · intro hno request hmem
      exact ((decoded_eq_iff (h.one request hmem)
        (distinct_scoredAgents h.ids h.states request coefficients)).mpr (hno request hmem)).symm
  · intro hlibrary haccepting hnul
    cases hcase : routed with
    | ok results => exact ⟨results, rfl⟩
    | error failure =>
      rcases hspec.stopped trivial hcase with hrefused | hrefused | hmem | hunroutable
      · exact absurd hlibrary hrefused
      · exact absurd haccepting hrefused
      · exact absurd hmem hnul
      · exact absurd ⟨_, hreturns⟩ (hunroutable _ htable)

end Parity

/-- Both agents are available, and the one of id 0 is the farther. -/
theorem router_parity_mixed : ∃ results,
    (((CudaRouter.new mixedAgents ⟨1, 1, 1⟩).routeBatch wholeLibrary (refusingDevice none) "kernel"
      mixedRequests mixedStates).run ⟨[], []⟩).1 = .ok results ∧
    ((CpuRouter.new mixedAgents ⟨1, 1, 1⟩).withDebugObserved false).routeBatchWithWorkers
      mixedRequests mixedStates 2 = .ok results := by
  obtain ⟨hsame, hreturned⟩ := router_parity mixed_batch
    ⟨by decide, by decide, by decide, by decide, by decide⟩ (List.cons_ne_nil _ _) ⟨1, 1, 1⟩
    wholeLibrary (refusingDevice none) "kernel" ⟨[], []⟩ 2
  obtain ⟨results, hrouted⟩ := hreturned wholeLibrary_accepting (fun _ => ⟨rfl, rfl⟩) (by decide)
  exact ⟨results, hrouted, (hsame results hrouted).mpr (by decide)⟩

/-! What is left. -/

section Left
variable {library : Nat → LibraryAnswer} {start : Runtimes} {log : List LibraryCall}

/-- From `start` some uses make these calls and leave the runtimes there were. -/
def RuntimesReach (library : Nat → LibraryAnswer) (start : Runtimes) (log : List LibraryCall) :
    Prop :=
  ∃ uses : List RuntimeUse, uses.foldl (Runtimes.step library) start = ⟨start.live, log⟩

theorem RuntimesReach.refused (h : RuntimesReach library start log) {e : InitializeError}
    {log' : List LibraryCall}
    (hrun : (CudaRuntime.initializeRuntime library).run log = (.error e, log')) :
    RuntimesReach library start log' := by
  obtain ⟨uses, huses⟩ := h
  refine ⟨uses ++ [.initializeRuntime], ?_⟩
  rw [List.foldl_append, huses]
  show Runtimes.step library ⟨start.live, log⟩ .initializeRuntime = _
  unfold Runtimes.step
  dsimp only
  rw [hrun]

/-- A runtime that is made and, as the last there is, dropped. -/
theorem RuntimesReach.dropped (h : RuntimesReach library start log) {runtime : CudaRuntime}
    {log' : List LibraryCall}
    (hrun : (CudaRuntime.initializeRuntime library).run log = (.ok runtime, log')) :
    RuntimesReach library start (runtime.drop log') := by
  obtain ⟨uses, huses⟩ := h
  refine ⟨uses ++ [.initializeRuntime, .drop start.live.length], ?_⟩
  rw [List.foldl_append, huses]
  have hmade : Runtimes.step library ⟨start.live, log⟩ .initializeRuntime =
      ⟨start.live ++ [runtime], log'⟩ := by
    unfold Runtimes.step
    dsimp only
    rw [hrun]
  show Runtimes.step library (Runtimes.step library ⟨start.live, log⟩ .initializeRuntime)
    (.drop start.live.length) = _
  rw [hmade]
  unfold Runtimes.step
  dsimp only
  rw [List.getElem?_append_right (Nat.le_refl _), Nat.sub_self]
  show (⟨(start.live ++ [runtime]).eraseIdx start.live.length, _⟩ : Runtimes) = _
  rw [List.eraseIdx_append_of_length_le (Nat.le_refl _), Nat.sub_self, List.eraseIdx_cons_zero,
    List.append_nil]

variable {F : Type} {device : Device F} {program : Program} {others : List Wrapper}

theorem owns_nothing {s : ExecutorState F} : Owns device program others [] [] s ↔
    s.locals = [] ∧ workspaceWrappers s.workspace = [] ∧
      Reaches device.answers program s.log others := by
  have hothers : others ++ ([] ++ []) = others := List.append_nil others
  refine ⟨?_, ?_⟩
  · intro h
    have hreaches := h.reaches
    rw [hothers] at hreaches
    exact ⟨h.held, h.cell, hreaches⟩
  · intro h
    obtain ⟨hheld, hcell, hreaches⟩ := h
    rw [← hothers] at hreaches
    exact ⟨hheld, hcell, hreaches⟩

theorem dropWorkspace_keeps {α : Type} {P : ExecutorState F → Prop} {x : Execution F α}
    (hx : Attempt.Triple P x (fun _ => Clean device program others)
      fun _ => Clean device program others) :
    Attempt.Triple P (dropWorkspace device x) (fun _ => Owns device program others [] [])
      fun _ => Owns device program others [] [] := by
  have hdropped : ∀ s : ExecutorState F, Clean device program others s →
      Owns device program others [] []
        { s with log := dropAll device (workspaceWrappers s.workspace) s.log, workspace := none } := by
    intro s hs
    refine owns_nothing.mpr ⟨hs.1, rfl, Reaches.dropAll device (hs.owns.reaches.perm ?_)⟩
    exact List.perm_append_comm
  intro s hs
  have houtcome := hx s hs
  unfold dropWorkspace
  dsimp only
  cases hrun : x.run s with
  | mk outcome s' =>
    rw [hrun] at houtcome
    cases outcome with
    | ok a => exact hdropped s' houtcome
    | error e => exact hdropped s' houtcome

theorem dropOnError_keeps {α : Type} {P : ExecutorState F → Prop} {w : Wrapper} {x : Execution F α}
    {Q : α → ExecutorState F → Prop}
    (hx : Attempt.Triple P x Q fun _ => Owns device program (w :: others) [] []) :
    Attempt.Triple P (dropOnError device w x) Q fun _ => Owns device program others [] [] := by
  intro s hs
  have houtcome := hx s hs
  unfold dropOnError
  dsimp only
  cases hrun : x.run s with
  | mk outcome s' =>
    rw [hrun] at houtcome
    cases outcome with
    | ok a => exact houtcome
    | error e => exact ⟨houtcome.held, houtcome.cell, houtcome.reaches.drop⟩

/-- A driver call after which something else is owned, by its outcome. -/
theorem driver_owns {α : Type} {x : Driver α} {others' : List Wrapper} {made : α → List Wrapper}
    (hok : ∀ log, Reaches device.answers program log others → ∀ a, (x.run log).1 = .ok a →
      Reaches device.answers program (x.run log).2 (made a))
    (herror : ∀ log, Reaches device.answers program log others → ∀ e, (x.run log).1 = .error e →
      Reaches device.answers program (x.run log).2 others') :
    Attempt.Triple (Owns device program others [] []) (driver device x)
      (fun a s => (∃ log, (x.run log).1 = .ok a) ∧ Owns device program (made a) [] [] s)
      fun _ => Owns device program others' [] [] := by
  intro s hs
  obtain ⟨hheld, hcell, hreaches⟩ := owns_nothing.mp hs
  unfold driver
  dsimp only
  cases hrun : x.run s.log with
  | mk outcome log =>
    have hfst : (x.run s.log).1 = outcome := congrArg Prod.fst hrun
    cases outcome with
    | ok a =>
      have hmade := hok s.log hreaches a hfst
      rw [hrun] at hmade
      exact ⟨⟨s.log, hfst⟩, owns_nothing.mpr ⟨hheld, hcell, hmade⟩⟩
    | error e =>
      have hleft := herror s.log hreaches e hfst
      rw [hrun] at hleft
      exact owns_nothing.mpr ⟨hheld, (wrappers_disturbed _ _).trans hcell, hleft⟩

variable [F32 F]

theorem loadedModule_keeps {executor : CudaRouteK1Executor F} (batch : RouteBatch F)
    (hmodule : ⟨.loadedModule, some executor.loadedModule⟩ ∈ others) :
    Attempt.Triple (Owns device program others [] [])
      (executeRouteAgentsK1TimedWithLoadedModule device executor batch)
      (fun _ => Owns device program others [] []) fun _ => Owns device program others [] [] := by
  apply dropWorkspace_keeps
  refine Attempt.Triple.bind (ofExcept_clean _ _ fun _ hs => hs.clean) ?_
  intro _
  refine Attempt.Triple.bind (ofExcept_clean _ _ fun _ hs => hs.clean) ?_
  intro plan
  refine Attempt.Triple.bind (new_keeps plan) ?_
  intro w
  refine Attempt.Triple.bind (R := fun w' s => w' = w ∧ Owns device program others [] w.wrappers s)
    (Attempt.Triple.act fun s hs => ⟨rfl, hs.1, rfl, ?_⟩) ?_
  · have hreaches := hs.2.2
    rw [List.append_nil] at hreaches
    exact hreaches
  intro w'
  apply Attempt.Triple.given
  intro hsame
  subst hsame
  exact Attempt.Triple.weaken (executePrepared_keeps executor batch hmodule w' _) (fun _ hs => hs)
    (fun _ _ hs => hs.clean) fun _ _ hs => hs

/-- Whatever is answered, the module and the workspace of a call are given back. -/
theorem executeRouteAgentsK1Timed_keeps (ptx : String) (coefficients : ScoreCoefficients F)
    (batch : RouteBatch F) :
    Attempt.Triple (Owns device program others [] [])
      (executeRouteAgentsK1Timed device ptx coefficients batch)
      (fun _ => Owns device program others [] []) fun _ => Owns device program others [] [] := by
  unfold executeRouteAgentsK1Timed
  have hload : Attempt.Triple (Owns device program others [] [])
      (driver device (Wrapper.ofPtx device.answers ptx))
      (fun w s => (∃ log, ((Wrapper.ofPtx device.answers ptx).run log).1 = .ok w) ∧
        Owns device program (w :: others) [] [] s)
      fun _ => Owns device program others [] [] := by
    apply driver_owns
    · intro log h w hok
      have hmade := h.make (.loadModule ptx) fun _ => rfl
      rw [hok] at hmade
      exact hmade
    · intro log h e herror
      have hleft := h.make (.loadModule ptx) fun _ => rfl
      rw [herror] at hleft
      exact hleft
  refine Attempt.Triple.bind hload ?_
  intro loaded
  apply Attempt.Triple.given
  intro hmade
  obtain ⟨log, hmade⟩ := hmade
  cases hhandle : loaded.handle with
  | none =>
    refine Attempt.Triple.fail fun s hs => ⟨hs.held, hs.cell, ?_⟩
    have hdropped := hs.reaches.drop
    unfold Wrapper.drop at hdropped
    rw [hhandle] at hdropped
    exact hdropped
  | some loadedModule =>
    have hmem : ⟨.loadedModule, some loadedModule⟩ ∈ loaded :: others := by
      rw [← hhandle, ← ofPtx_kind hmade]
      exact List.mem_cons_self
    dsimp only
    refine Attempt.Triple.bind (dropOnError_keeps (loadedModule_keeps batch hmem)) ?_
    intro results
    refine Attempt.Triple.bind (driver_owns (fun log h _ _ => h.release) fun log h _ _ => h.release) ?_
    intro _
    exact Attempt.Triple.pure fun _ hs => hs.2

/-- The calls are a program's that has, at the end, the runtimes and the wrappers it had. -/
structure LeftAlone (library : Nat → LibraryAnswer) (device : Device F) (start : Runtimes)
    (program : Program) (calls : CudaCalls) : Prop where
  runtimes : RuntimesReach library start calls.library
  wrappers : Reaches device.answers program calls.driver program.live

theorem routeBatch_keeps (ptx : String) (router : CudaRouter F)
    (requests : List (RoutingRequest F)) (states : List (AgentRuntimeState F)) :
    Attempt.Triple (LeftAlone library device start program)
      (router.routeBatch library device ptx requests states)
      (fun _ => LeftAlone library device start program)
      fun _ => LeftAlone library device start program := by
  unfold CudaRouter.routeBatch
  cases router.routeTable with
  | error e => exact Attempt.Triple.fail fun _ h => h
  | ok table =>
    apply Attempt.Triple.ite
    · intro _
      exact Attempt.Triple.pure fun _ h => h
    intro _
    dsimp only
    cases validateKOneInputs { routeTable := table, requests, states } with
    | error e => exact Attempt.Triple.fail fun _ h => h
    | ok _ =>
      refine Attempt.Triple.bind (R := fun runtime calls =>
        (∃ log, RuntimesReach library start log ∧
          (CudaRuntime.initializeRuntime library).run log = (.ok runtime, calls.library)) ∧
        Reaches device.answers program calls.driver program.live) (onLibrary_spec ?_) ?_
      · intro calls h
        cases hrun : (CudaRuntime.initializeRuntime library).run calls.library with
        | mk outcome log =>
          cases outcome with
          | ok runtime => exact ⟨⟨calls.library, h.runtimes, hrun⟩, h.wrappers⟩
          | error e => exact ⟨h.runtimes.refused hrun, h.wrappers⟩
      intro runtime
      apply dropRuntime_spec
      apply onDevice_spec
      intro calls h
      obtain ⟨⟨log, hreach, hrun⟩, hwrappers⟩ := h
      have hfresh : Owns device program program.live [] []
          (CudaRouteK1Executor.fresh calls.driver : ExecutorState F) :=
        owns_nothing.mpr ⟨rfl, rfl, hwrappers⟩
      have houtcome := executeRouteAgentsK1Timed_keeps ptx router.coefficients
        { routeTable := table, requests, states } _ hfresh
      cases hexecuted : (executeRouteAgentsK1Timed device ptx router.coefficients
          { routeTable := table, requests, states }).run (CudaRouteK1Executor.fresh calls.driver) with
      | mk outcome s =>
        rw [hexecuted] at houtcome
        cases outcome with
        | ok results => exact ⟨hreach.dropped hrun, (owns_nothing.mp houtcome).2.2⟩
        | error e => exact ⟨hreach.dropped hrun, (owns_nothing.mp houtcome).2.2⟩

/-- Any calls of a router, whatever is answered and whatever the program did before: in the
end it has the runtimes and the wrappers it had. A library opened meanwhile was closed
once; a handle created meanwhile was released, or the driver refused to make the context
current after that, and a driver that accepts everything is asked to release it once. -/
theorem router_leaves_nothing (library : Nat → LibraryAnswer) (device : Device F) (ptx : String)
    (router : CudaRouter F) (opened : List RuntimeUse) (before : List Use)
    (inputs : List (List (RoutingRequest F) × List (AgentRuntimeState F))) :
    let runtimes := Runtimes.run library opened
    let program := Program.run device.answers before
    let calls := inputs.foldl (router.next library device ptx) ⟨runtimes.log, program.log⟩
    (∃ meanwhile, Runtimes.run library (opened ++ meanwhile) = ⟨runtimes.live, calls.library⟩) ∧
    (∃ meanwhile, (Program.run device.answers (before ++ meanwhile)).log = calls.driver ∧
      (Program.run device.answers (before ++ meanwhile)).live.Perm program.live) ∧
    (∀ l, runtimes.log.length ≤ l → Opened library calls.library l →
      closeCount l calls.library = 1) ∧
    ∀ handle kind, program.log.length ≤ handle → Created device.answers calls.driver handle kind →
      (0 < releaseCount handle calls.driver ∨
        ContextRefused device.answers calls.driver handle) ∧
      (Accepting device.answers → releaseCount handle calls.driver = 1) := by
  intro runtimes program calls
  have hleft : LeftAlone library device runtimes program calls := by
    have hfoldl : ∀ calls₀, LeftAlone library device runtimes program calls₀ →
        LeftAlone library device runtimes program
          (inputs.foldl (router.next library device ptx) calls₀) := by
      induction inputs with
      | nil => exact fun _ h => h
      | cons input inputs ih =>
        intro calls₀ h
        apply ih
        have houtcome := routeBatch_keeps ptx router input.1 input.2 calls₀ h
        unfold CudaRouter.next
        cases hrun : (router.routeBatch library device ptx input.1 input.2).run calls₀ with
        | mk outcome calls' =>
          rw [hrun] at houtcome
          cases outcome <;> exact houtcome
    exact hfoldl _ ⟨⟨[], rfl⟩, Reaches.refl _ _⟩
  obtain ⟨meanwhile, hmeanwhile⟩ := hleft.runtimes
  have hrun : Runtimes.run library (opened ++ meanwhile) = ⟨runtimes.live, calls.library⟩ :=
    List.foldl_append.trans hmeanwhile
  obtain ⟨huses, hhandles⟩ := hleft.wrappers.leaves_nothing
  refine ⟨⟨meanwhile, hrun⟩, huses, ?_, hhandles⟩
  intro l hle hopened
  have hafter := Runtimes.run_inv library (opened ++ meanwhile)
  unfold Runtimes.Inv at hafter
  rw [hrun] at hafter
  rcases hafter.loaded.closed l hopened with hlive | honce
  · -- a live runtime's library was opened before
    have hbefore := ((Runtimes.run_inv library opened).loaded.opened l hlive).1.lt
    have hlt : l < runtimes.log.length := hbefore
    omega
  · exact honce

end Left

end QTom.Cuda
