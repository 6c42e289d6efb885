import Mathlib.Data.List.Nodup
import Mathlib.Data.List.Perm.Basic
import QTom.Lib.Attempt

/- The driver library and the primary context of a `CudaRuntime` (`runtime_impl` in
   `qtom-cuda/src/lib.rs`).

   A runtime opens the driver library, looks its symbols up, and retains the device's
   primary context; dropping it releases the context and then closes the library. The
   environment answers calls as it likes, and a library is named by the position in the
   log of the call that opened it. Whatever runtimes a program makes and drops, a library
   is called only while it is open and is closed once (`library_lifetimes`). The context
   is another matter: when a new one cannot be made current it is released by
   `CudaContext::retain` and again by the drop of what `retain` had built, so the
   context's count is the number of runtimes exactly in the programs in which that does
   not happen (`context_balance`). -/
namespace QTom.Cuda
open QTom.Lib

/-- The driver entries a runtime itself calls. -/
inductive DriverEntry where
  | init
  | deviceGetCount
  | deviceGet
  | primaryCtxRetain
  | primaryCtxRelease
  | ctxSetCurrent
  deriving DecidableEq, Repr

inductive LibraryCall where
  | openLibrary (name : String)
  | symbol (library : Nat) (name : String)
  | entry (library : Nat) (entry : DriverEntry)
  | closeLibrary (library : Nat)
  deriving DecidableEq, Repr

/-- The result code, and the pointer or number that was written: 0 is a null pointer. -/
structure LibraryAnswer where
  result : Int
  value : Int
  deriving DecidableEq, Repr

inductive InitializeError where
  | driverLibraryNotFound
  | missingSymbol (label : String)
  | driverInitFailed (result : Int)
  | deviceCountFailed (result : Int)
  | noDevice
  | deviceGetFailed (result : Int)
  | primaryContextRetainFailed (result : Int)
  | contextSetCurrentFailed (result : Int)
  deriving DecidableEq, Repr

abbrev Loader (α : Type) := Attempt (List LibraryCall) InitializeError α

/-- The names on Linux. -/
def driverLibraryNames : List String := ["libcuda.so.1", "libcuda.so"]

/-- The label of each symbol and the names it is looked up by. -/
def driverSymbols : List (String × List String) :=
  [("cuInit", ["cuInit"]), ("cuDeviceGetCount", ["cuDeviceGetCount"]),
    ("cuDeviceGet", ["cuDeviceGet"]), ("cuDevicePrimaryCtxRetain", ["cuDevicePrimaryCtxRetain"]),
    ("cuDevicePrimaryCtxRelease", ["cuDevicePrimaryCtxRelease_v2", "cuDevicePrimaryCtxRelease"]),
    ("cuCtxSetCurrent", ["cuCtxSetCurrent"]), ("cuMemAlloc", ["cuMemAlloc_v2", "cuMemAlloc"]),
    ("cuMemFree", ["cuMemFree_v2", "cuMemFree"]),
    ("cuMemcpyHtoD", ["cuMemcpyHtoD_v2", "cuMemcpyHtoD"]),
    ("cuMemcpyDtoH", ["cuMemcpyDtoH_v2", "cuMemcpyDtoH"]), ("cuStreamCreate", ["cuStreamCreate"]),
    ("cuStreamDestroy", ["cuStreamDestroy_v2", "cuStreamDestroy"]),
    ("cuStreamSynchronize", ["cuStreamSynchronize"]), ("cuEventCreate", ["cuEventCreate"]),
    ("cuEventDestroy", ["cuEventDestroy_v2", "cuEventDestroy"]),
    ("cuEventRecord", ["cuEventRecord"]), ("cuEventSynchronize", ["cuEventSynchronize"]),
    ("cuEventElapsedTime", ["cuEventElapsedTime"]), ("cuModuleLoadData", ["cuModuleLoadData"]),
    ("cuModuleUnload", ["cuModuleUnload"]), ("cuModuleGetFunction", ["cuModuleGetFunction"]),
    ("cuLaunchKernel", ["cuLaunchKernel"])]

structure CudaRuntime where
  deviceCount : Nat
  device : Int
  library : Nat
  deriving DecidableEq, Repr

section Calls
variable (answers : Nat → LibraryAnswer)

def askLibrary (call : LibraryCall) : Loader LibraryAnswer :=
  Attempt.act fun log => (answers log.length, log ++ [call])

/-- `DriverLibrary::open_any`. -/
def openAny : List String → Loader Nat
  | [] => Attempt.fail .driverLibraryNotFound
  | name :: names => do
    let library ← Attempt.act fun log => (log.length, log)
    let answer ← askLibrary answers (.openLibrary name)
    if answer.value ≠ 0 then return library else openAny names

/-- `DriverLibrary::symbol_ptr_any`, and `symbol_ptr` where there is one name. -/
def symbolPtrAny (library : Nat) (label : String) : List String → Loader Unit
  | [] => Attempt.fail (.missingSymbol label)
  | name :: names => do
    let answer ← askLibrary answers (.symbol library name)
    if answer.value ≠ 0 then return () else symbolPtrAny library label names

/-- An error that leaves the function drops the library. -/
def closeOnError {α : Type} (library : Nat) (x : Loader α) : Loader α := ⟨fun log =>
  match x.run log with
  | (.ok a, log) => (.ok a, log)
  | (.error e, log) => (.error e, log ++ [.closeLibrary library])⟩

/-- `DriverSymbols::load`, all of `CudaDriver::load`. -/
def loadDriver : Loader Nat := do
  let library ← openAny answers driverLibraryNames
  closeOnError library do
    driverSymbols.forM fun symbol => symbolPtrAny answers library symbol.1 symbol.2
    return library

/-- A call of an entry that succeeds with result 0. -/
def callEntry (library : Nat) (entry : DriverEntry) (failed : Int → InitializeError) :
    Loader Int := do
  let answer ← askLibrary answers (.entry library entry)
  if answer.result = 0 then return answer.value else Attempt.fail (failed answer.result)

def initDriver (library : Nat) : Loader Unit := do
  let _ ← callEntry answers library .init .driverInitFailed
  return ()

def driverDeviceCount (library : Nat) : Loader Nat := do
  let count ← callEntry answers library .deviceGetCount .deviceCountFailed
  if count ≤ 0 then Attempt.fail .noDevice else return count.toNat

def contextSetCurrent (library : Nat) : Loader Unit := do
  let _ ← callEntry answers library .ctxSetCurrent .contextSetCurrentFailed
  return ()

/-- `Drop` of a `CudaContext`: both results are ignored. -/
def dropContext (library : Nat) (log : List LibraryCall) : List LibraryCall :=
  log ++ [.entry library .ctxSetCurrent, .entry library .primaryCtxRelease]

/-- `CudaContext::retain`. When the new context cannot be made current it is released, and
then dropped. -/
def retainContext (library : Nat) : Loader Unit := do
  let handle ← callEntry answers library .primaryCtxRetain .primaryContextRetainFailed
  if handle = 0 then Attempt.fail (.primaryContextRetainFailed (-1))
  else ⟨fun log =>
    match (contextSetCurrent answers library).run log with
    | (.ok (), log) => (.ok (), log)
    | (.error e, log) =>
      (.error e, dropContext library (log ++ [.entry library .primaryCtxRelease]))⟩

/-- `CudaRuntime::initialize`. -/
def CudaRuntime.initializeRuntime : Loader CudaRuntime := do
  let library ← loadDriver answers
  closeOnError library do
    initDriver answers library
    let deviceCount ← driverDeviceCount answers library
    let device ← callEntry answers library .deviceGet .deviceGetFailed
    retainContext answers library
    return { deviceCount, device, library }

/-- `detect_device_count`; the driver is dropped either way. -/
def detectDeviceCount : Loader Nat := do
  let library ← loadDriver answers
  let count ← closeOnError library do
    initDriver answers library
    driverDeviceCount answers library
  Attempt.act fun log => (count, log ++ [.closeLibrary library])

/-- `Drop` of a `CudaRuntime`: the context first, then the driver. -/
def CudaRuntime.drop (runtime : CudaRuntime) (log : List LibraryCall) : List LibraryCall :=
  dropContext runtime.library log ++ [.closeLibrary runtime.library]

end Calls

/-! Programs. -/

/-- What a program does with runtimes; live ones are named by their position. -/
inductive RuntimeUse where
  | detect
  | initializeRuntime
  /-- A call of the runtime's driver makes the context current first. -/
  | setCurrent (index : Nat)
  | drop (index : Nat)
  deriving DecidableEq, Repr

structure Runtimes where
  live : List CudaRuntime
  log : List LibraryCall
  deriving DecidableEq, Repr

namespace Runtimes
variable (answers : Nat → LibraryAnswer)

def start : Runtimes := ⟨[], []⟩

def step (s : Runtimes) : RuntimeUse → Runtimes
  | .detect => { s with log := ((detectDeviceCount answers).run s.log).2 }
  | .initializeRuntime =>
    match (CudaRuntime.initializeRuntime answers).run s.log with
    | (.ok runtime, log) => ⟨s.live ++ [runtime], log⟩
    | (.error _, log) => { s with log }
  | .setCurrent index =>
    match s.live[index]? with
    | none => s
    | some runtime => { s with log := ((contextSetCurrent answers runtime.library).run s.log).2 }
  | .drop index =>
    match s.live[index]? with
    | none => s
    | some runtime => ⟨s.live.eraseIdx index, runtime.drop s.log⟩

def run (uses : List RuntimeUse) : Runtimes := uses.foldl (step answers) start

end Runtimes

/-! What a log says. -/

def LibraryCall.library : LibraryCall → Option Nat
  | .openLibrary _ => none
  | .symbol library _ => some library
  | .entry library _ => some library
  | .closeLibrary library => some library

/-- The library was opened by this call. -/
structure Opened (answers : Nat → LibraryAnswer) (log : List LibraryCall) (library : Nat) : Prop where
  call : ∃ name, log[library]? = some (.openLibrary name)
  accepted : (answers library).value ≠ 0

def closeCount (library : Nat) (log : List LibraryCall) : Nat := log.count (.closeLibrary library)

/-- The context was retained by this call. -/
def retains (answers : Nat → LibraryAnswer) (call : LibraryCall × Nat) : Bool :=
  match call.1 with
  | .entry _ .primaryCtxRetain => (answers call.2).result = 0 ∧ (answers call.2).value ≠ 0
  | _ => false

/-- The context was retained by this call and the next call, which makes it current, is
refused. -/
def aborts (answers : Nat → LibraryAnswer) (call : LibraryCall × Nat) : Bool :=
  retains answers call && (answers (call.2 + 1)).result != 0

def releasesContext (call : LibraryCall × Nat) : Bool :=
  match call.1 with
  | .entry _ .primaryCtxRelease => true
  | _ => false

section
variable {answers : Nat → LibraryAnswer} {log calls : List LibraryCall} {library : Nat}

theorem Opened.lt (h : Opened answers log library) : library < log.length := by
  obtain ⟨name, hcall⟩ := h.call
  exact (List.getElem?_eq_some_iff.mp hcall).1

theorem Opened.append (h : Opened answers log library) (calls : List LibraryCall) :
    Opened answers (log ++ calls) library := by
  obtain ⟨name, hcall⟩ := h.call
  refine ⟨⟨name, ?_⟩, h.accepted⟩
  rw [List.getElem?_append_left h.lt]
  exact hcall

theorem closeCount_append (library : Nat) (log calls : List LibraryCall) :
    closeCount library (log ++ calls) = closeCount library log + closeCount library calls :=
  List.count_append

/-- The libraries a program has open, and how they were used until now. -/
structure Loaded (answers : Nat → LibraryAnswer) (owned : List Nat) (log : List LibraryCall) :
    Prop where
  opened : ∀ library ∈ owned, Opened answers log library ∧ closeCount library log = 0
  distinct : owned.Nodup
  closed : ∀ library, Opened answers log library → library ∈ owned ∨ closeCount library log = 1
  used : ∀ (n : Nat) call library, log[n]? = some call → call.library = some library →
    library < n ∧ Opened answers log library ∧ closeCount library (log.take n) = 0

variable {owned : List Nat}

theorem Loaded.perm {owned' : List Nat} (h : Loaded answers owned log) (hperm : owned.Perm owned') :
    Loaded answers owned' log :=
  ⟨fun library hmem => h.opened library (hperm.mem_iff.mpr hmem), hperm.nodup_iff.mp h.distinct,
    fun library hopened => (h.closed library hopened).imp_left hperm.mem_iff.mp, h.used⟩

theorem closeCount_singleton (library : Nat) {call : LibraryCall}
    (hcall : call ≠ .closeLibrary library) : closeCount library [call] = 0 :=
  List.count_eq_zero.mpr fun hmem => hcall (List.mem_singleton.mp hmem).symm

theorem closeCount_open (library : Nat) (name : String) :
    closeCount library (log ++ [.openLibrary name]) = closeCount library log := by
  have hne : LibraryCall.openLibrary name ≠ .closeLibrary library := by
    intro heq
    cases heq
  rw [closeCount_append, closeCount_singleton library hne, Nat.add_zero]

/-- A library that is opened by a log with one more call. -/
theorem opened_append_singleton {call : LibraryCall} :
    Opened answers (log ++ [call]) library ↔ Opened answers log library ∨
      library = log.length ∧ (∃ name, call = .openLibrary name) ∧ (answers log.length).value ≠ 0 := by
  refine ⟨?_, ?_⟩
  · intro h
    obtain ⟨name, hcall⟩ := h.call
    by_cases hlt : library < log.length
    · rw [List.getElem?_append_left hlt] at hcall
      exact Or.inl ⟨⟨name, hcall⟩, h.accepted⟩
    · have hlen := h.lt
      rw [List.length_append, List.length_singleton] at hlen
      have heq : library = log.length := by omega
      subst heq
      rw [List.getElem?_append_right (Nat.le_refl _), Nat.sub_self] at hcall
      exact Or.inr ⟨rfl, ⟨name, Option.some.inj hcall⟩, h.accepted⟩
  · intro h
    rcases h with hold | ⟨rfl, ⟨name, rfl⟩, haccepted⟩
    · exact hold.append _
    · refine ⟨⟨name, ?_⟩, haccepted⟩
      rw [List.getElem?_append_right (Nat.le_refl _), Nat.sub_self]
      rfl

/-- The calls of a log with one more call are used as they were, if that one is. -/
theorem Loaded.used_append (h : Loaded answers owned log) {call : LibraryCall}
    (hcall : ∀ library, call.library = some library → library ∈ owned) :
    ∀ (n : Nat) c library, (log ++ [call])[n]? = some c → c.library = some library →
      library < n ∧ Opened answers (log ++ [call]) library ∧
        closeCount library ((log ++ [call]).take n) = 0 := by
  intro n c library hget huses
  by_cases hlt : n < log.length
  · rw [List.getElem?_append_left hlt] at hget
    obtain ⟨hn, hopened, hzero⟩ := h.used n c library hget huses
    rw [List.take_append_of_le_length (Nat.le_of_lt hlt)]
    exact ⟨hn, hopened.append _, hzero⟩
  · have hlen := (List.getElem?_eq_some_iff.mp hget).1
    rw [List.length_append, List.length_singleton] at hlen
    have heq : n = log.length := by omega
    subst heq
    rw [List.getElem?_append_right (Nat.le_refl _), Nat.sub_self] at hget
    obtain rfl : call = c := Option.some.inj hget
    obtain ⟨hopened, hzero⟩ := h.opened library (hcall library huses)
    rw [List.take_left]
    exact ⟨hopened.lt, hopened.append _, hzero⟩

/-- One more call of an open library. -/
theorem Loaded.call (h : Loaded answers owned log) {call : LibraryCall} (hmem : library ∈ owned)
    (hcall : (∃ e, call = .entry library e) ∨ ∃ name, call = .symbol library name) :
    Loaded answers owned (log ++ [call]) := by
  have hstill : ∀ other, call ≠ .closeLibrary other := by
    intro other heq
    rcases hcall with ⟨_, rfl⟩ | ⟨_, rfl⟩ <;> cases heq
  have hnot : ∀ name, call ≠ .openLibrary name := by
    intro name heq
    rcases hcall with ⟨_, rfl⟩ | ⟨_, rfl⟩ <;> cases heq
  have hcount : ∀ other, closeCount other (log ++ [call]) = closeCount other log := by
    intro other
    rw [closeCount_append, closeCount_singleton other (hstill other), Nat.add_zero]
  refine ⟨?_, h.distinct, ?_, h.used_append ?_⟩
  · intro other hother
    rw [hcount]
    exact ⟨(h.opened other hother).1.append _, (h.opened other hother).2⟩
  · intro other hopened
    rw [hcount]
    rcases opened_append_singleton.mp hopened with hold | ⟨_, ⟨name, heq⟩, _⟩
    · exact h.closed other hold
    · exact absurd heq (hnot name)
  · intro other huses
    rcases hcall with ⟨_, rfl⟩ | ⟨_, rfl⟩ <;> exact Option.some.inj huses ▸ hmem

/-- A library is opened. -/
theorem Loaded.open_ok (h : Loaded answers owned log) (name : String)
    (haccepted : (answers log.length).value ≠ 0) :
    Loaded answers (log.length :: owned) (log ++ [.openLibrary name]) := by
  have hfresh : log.length ∉ owned := fun hmem => Nat.lt_irrefl _ (h.opened _ hmem).1.lt
  have hunclosed : closeCount log.length log = 0 := by
    apply List.count_eq_zero.mpr
    intro hmem
    obtain ⟨n, hn⟩ := List.getElem?_of_mem hmem
    have hlt := (h.used n _ _ hn rfl).1
    have hlen := (List.getElem?_eq_some_iff.mp hn).1
    omega
  have hnow : Opened answers (log ++ [.openLibrary name]) log.length :=
    opened_append_singleton.mpr (Or.inr ⟨rfl, ⟨name, rfl⟩, haccepted⟩)
  refine ⟨?_, List.nodup_cons.mpr ⟨hfresh, h.distinct⟩, ?_, h.used_append fun _ heq => (nomatch heq)⟩
  · intro other hother
    rw [closeCount_open]
    rcases List.mem_cons.mp hother with rfl | hother
    · exact ⟨hnow, hunclosed⟩
    · exact ⟨(h.opened other hother).1.append _, (h.opened other hother).2⟩
  · intro other hopened
    rw [closeCount_open]
    rcases opened_append_singleton.mp hopened with hold | ⟨rfl, _⟩
    · exact (h.closed other hold).imp_left (List.mem_cons_of_mem _)
    · exact Or.inl List.mem_cons_self

theorem Loaded.open_refused (h : Loaded answers owned log) (name : String)
    (hrefused : (answers log.length).value = 0) :
    Loaded answers owned (log ++ [.openLibrary name]) := by
  refine ⟨?_, h.distinct, ?_, h.used_append fun _ heq => (nomatch heq)⟩
  · intro other hother
    rw [closeCount_open]
    exact ⟨(h.opened other hother).1.append _, (h.opened other hother).2⟩
  · intro other hopened
    rw [closeCount_open]
    rcases opened_append_singleton.mp hopened with hold | ⟨_, _, haccepted⟩
    · exact h.closed other hold
    · exact absurd hrefused haccepted

/-- A library is closed. -/
theorem Loaded.close (h : Loaded answers (library :: owned) log) :
    Loaded answers owned (log ++ [.closeLibrary library]) := by
  obtain ⟨hfresh, hdistinct⟩ := List.nodup_cons.mp h.distinct
  have hother : ∀ other, other ≠ library →
      closeCount other (log ++ [.closeLibrary library]) = closeCount other log := by
    intro other hne
    rw [closeCount_append, closeCount_singleton other fun heq =>
      hne (LibraryCall.closeLibrary.inj heq).symm, Nat.add_zero]
  refine ⟨?_, hdistinct, ?_, h.used_append ?_⟩
  · intro other hmem
    have hne : other ≠ library := fun heq => hfresh (heq ▸ hmem)
    rw [hother other hne]
    obtain ⟨hopened, hzero⟩ := h.opened other (List.mem_cons_of_mem _ hmem)
    exact ⟨hopened.append _, hzero⟩
  · intro other hopened
    rcases opened_append_singleton.mp hopened with hold | ⟨_, ⟨name, heq⟩, _⟩
    · by_cases hne : other = library
      · subst hne
        refine Or.inr ?_
        rw [closeCount_append, (h.opened other List.mem_cons_self).2]
        simp [closeCount]
      · rw [hother other hne]
        rcases h.closed other hold with hmem | hone
        · exact Or.inl ((List.mem_cons.mp hmem).resolve_left hne)
        · exact Or.inr hone
    · cases heq
  · intro other heq
    rw [← Option.some.inj heq]
    exact List.mem_cons_self

/-! The context's count. -/

/-- How often the context was retained. -/
def retained (answers : Nat → LibraryAnswer) (log : List LibraryCall) : Nat :=
  log.zipIdx.countP (retains answers)

def aborted (answers : Nat → LibraryAnswer) (log : List LibraryCall) : Nat :=
  log.zipIdx.countP (aborts answers)

def released (log : List LibraryCall) : Nat := log.zipIdx.countP releasesContext

theorem countP_append_singleton (p : LibraryCall × Nat → Bool) (log : List LibraryCall)
    (call : LibraryCall) : (log ++ [call]).zipIdx.countP p =
      log.zipIdx.countP p + if p (call, log.length) = true then 1 else 0 := by
  rw [List.zipIdx_append, List.countP_append, Nat.zero_add]
  show _ + List.countP p [(call, log.length)] = _
  rw [List.countP_singleton]

/-- The libraries that are open, and how many contexts are held. -/
structure Accounts (answers : Nat → LibraryAnswer) (owned : List Nat) (held : Nat)
    (log : List LibraryCall) : Prop where
  loaded : Loaded answers owned log
  balance : retained answers log + aborted answers log = held + released log

variable {held : Nat}

theorem Accounts.perm {owned' : List Nat} (h : Accounts answers owned held log)
    (hperm : owned.Perm owned') : Accounts answers owned' held log :=
  ⟨h.loaded.perm hperm, h.balance⟩

/-- A call that neither retains nor releases the context. -/
theorem balance_append {call : LibraryCall}
    (hretain : ∀ library, call ≠ .entry library .primaryCtxRetain)
    (hrelease : ∀ library, call ≠ .entry library .primaryCtxRelease)
    (h : retained answers log + aborted answers log = held + released log) :
    retained answers (log ++ [call]) + aborted answers (log ++ [call]) =
      held + released (log ++ [call]) := by
  have hnot : retains answers (call, log.length) = false := by
    unfold retains
    split
    · next library heq => exact absurd heq (hretain library)
    · rfl
  have hnotReleased : releasesContext (call, log.length) = false := by
    unfold releasesContext
    split
    · next library heq => exact absurd heq (hrelease library)
    · rfl
  unfold retained aborted released at *
  rw [countP_append_singleton, countP_append_singleton, countP_append_singleton, hnotReleased]
  unfold aborts
  rw [hnot]
  exact h

theorem Accounts.entry (h : Accounts answers owned held log) (hmem : library ∈ owned)
    {e : DriverEntry} (hretain : e ≠ .primaryCtxRetain) (hrelease : e ≠ .primaryCtxRelease) :
    Accounts answers owned held (log ++ [.entry library e]) := by
  refine ⟨h.loaded.call hmem (Or.inl ⟨_, rfl⟩), balance_append ?_ ?_ h.balance⟩
  · intro other heq
    exact hretain (LibraryCall.entry.inj heq).2
  · intro other heq
    exact hrelease (LibraryCall.entry.inj heq).2

theorem Accounts.release (h : Accounts answers owned (held + 1) log) (hmem : library ∈ owned) :
    Accounts answers owned held (log ++ [.entry library .primaryCtxRelease]) := by
  refine ⟨h.loaded.call hmem (Or.inl ⟨_, rfl⟩), ?_⟩
  have hbalance := h.balance
  unfold retained aborted released at *
  rw [countP_append_singleton, countP_append_singleton, countP_append_singleton]
  show _ + 0 + (_ + 0) = held + (_ + 1)
  omega

theorem Accounts.close (h : Accounts answers (library :: owned) held log) :
    Accounts answers owned held (log ++ [.closeLibrary library]) :=
  ⟨h.loaded.close, balance_append (fun _ heq => by cases heq) (fun _ heq => by cases heq) h.balance⟩

/-- `Drop` of a context. -/
theorem Accounts.dropContext (h : Accounts answers owned (held + 1) log) (hmem : library ∈ owned) :
    Accounts answers owned held (dropContext library log) := by
  have hset := h.entry hmem (e := .ctxSetCurrent) (by decide) (by decide)
  have hreleased := hset.release hmem
  rw [List.append_assoc] at hreleased
  exact hreleased

/-! What the calls leave. -/

variable {α : Type}

/-- From a log with these libraries and contexts the computation ends with others. -/
abbrev Leaves (answers : Nat → LibraryAnswer) (owned : List Nat) (held : Nat) (x : Loader α)
    (Q : α → List LibraryCall → Prop) : Prop :=
  Attempt.Triple (Accounts answers owned held) x Q fun _ => Accounts answers owned held

theorem symbolPtrAny_leaves (hmem : library ∈ owned) (label : String) (names : List String) :
    Leaves answers owned held (symbolPtrAny answers library label names)
      fun _ => Accounts answers owned held := by
  induction names with
  | nil => exact Attempt.Triple.fail fun _ h => h
  | cons name names ih =>
    refine Attempt.Triple.bind (R := fun _ => Accounts answers owned held)
      (Attempt.Triple.act ?_) ?_
    · intro log h
      exact ⟨h.loaded.call hmem (Or.inr ⟨name, rfl⟩),
        balance_append (fun _ heq => by cases heq) (fun _ heq => by cases heq) h.balance⟩
    · intro answer
      exact Attempt.Triple.ite (fun _ => Attempt.Triple.pure fun _ h => h) fun _ => ih

theorem forM_leaves (hmem : library ∈ owned) (symbols : List (String × List String)) :
    Leaves answers owned held
      (symbols.forM fun symbol => symbolPtrAny answers library symbol.1 symbol.2)
      fun _ => Accounts answers owned held := by
  induction symbols with
  | nil => exact Attempt.Triple.pure fun _ h => h
  | cons symbol symbols ih =>
    exact Attempt.Triple.bind (symbolPtrAny_leaves hmem symbol.1 symbol.2) fun _ => ih

theorem openAny_leaves (names : List String) :
    Leaves answers owned held (openAny answers names)
      fun library => Accounts answers (library :: owned) held := by
  induction names with
  | nil => exact Attempt.Triple.fail fun _ h => h
  | cons name names ih =>
    intro log h
    have hbalance : retained answers (log ++ [.openLibrary name]) +
        aborted answers (log ++ [.openLibrary name]) = held + released (log ++ [.openLibrary name]) :=
      balance_append (fun _ heq => by cases heq) (fun _ heq => by cases heq) h.balance
    unfold openAny
    rw [Attempt.bind_run]
    simp only [Attempt.act_run, Attempt.andThen_ok, Attempt.bind_run, askLibrary, Attempt.ite_run]
    by_cases hnull : (answers log.length).value ≠ 0
    · rw [if_pos hnull]
      exact ⟨h.loaded.open_ok name hnull, hbalance⟩
    · rw [if_neg hnull]
      exact ih _ ⟨h.loaded.open_refused name (not_not.mp hnull), hbalance⟩

/-- The library is closed on the way out. -/
theorem closeOnError_leaves {x : Loader α} {Q : α → List LibraryCall → Prop}
    (hx : Leaves answers (library :: owned) held x Q) :
    Attempt.Triple (Accounts answers (library :: owned) held) (closeOnError library x) Q
      fun _ => Accounts answers owned held := by
  intro log h
  have houtcome := hx log h
  unfold closeOnError
  dsimp only
  cases hrun : x.run log with
  | mk outcome log' =>
    rw [hrun] at houtcome
    cases outcome with
    | ok a => exact houtcome
    | error e => exact houtcome.close

theorem loadDriver_leaves : Leaves answers owned held (loadDriver answers)
    fun library => Accounts answers (library :: owned) held := by
  refine Attempt.Triple.bind (openAny_leaves driverLibraryNames) ?_
  intro library
  apply closeOnError_leaves
  refine Attempt.Triple.bind (forM_leaves List.mem_cons_self driverSymbols) ?_
  intro _
  exact Attempt.Triple.pure fun _ h => h

theorem callEntry_leaves (hmem : library ∈ owned) {e : DriverEntry} (hretain : e ≠ .primaryCtxRetain)
    (hrelease : e ≠ .primaryCtxRelease) (failed : Int → InitializeError) :
    Leaves answers owned held (callEntry answers library e failed)
      fun _ => Accounts answers owned held := by
  refine Attempt.Triple.bind (R := fun _ => Accounts answers owned held)
    (Attempt.Triple.act fun log h => h.entry hmem hretain hrelease) ?_
  intro answer
  exact Attempt.Triple.ite (fun _ => Attempt.Triple.pure fun _ h => h)
    fun _ => Attempt.Triple.fail fun _ h => h

theorem initDriver_leaves (hmem : library ∈ owned) :
    Leaves answers owned held (initDriver answers library) fun _ => Accounts answers owned held :=
  Attempt.Triple.bind (callEntry_leaves hmem (by decide) (by decide) _) fun _ =>
    Attempt.Triple.pure fun _ h => h

theorem driverDeviceCount_leaves (hmem : library ∈ owned) :
    Leaves answers owned held (driverDeviceCount answers library)
      fun _ => Accounts answers owned held := by
  refine Attempt.Triple.bind (callEntry_leaves hmem (by decide) (by decide) _) ?_
  intro count
  exact Attempt.Triple.ite (fun _ => Attempt.Triple.fail fun _ h => h)
    fun _ => Attempt.Triple.pure fun _ h => h

/-- A context that will not be made current counts twice: it is released twice. -/
theorem Accounts.retain (h : Accounts answers owned held log) (hmem : library ∈ owned) :
    Accounts answers owned
      (held + (if retains answers (.entry library .primaryCtxRetain, log.length) then 1 else 0) +
        if aborts answers (.entry library .primaryCtxRetain, log.length) then 1 else 0)
      (log ++ [.entry library .primaryCtxRetain]) := by
  refine ⟨h.loaded.call hmem (Or.inl ⟨_, rfl⟩), ?_⟩
  have hbalance := h.balance
  unfold retained aborted released at *
  rw [countP_append_singleton, countP_append_singleton, countP_append_singleton]
  show _ = _ + (_ + 0)
  omega

theorem retainContext_leaves (hmem : library ∈ owned) :
    Leaves answers owned held (retainContext answers library)
      fun _ => Accounts answers owned (held + 1) := by
  intro log h
  have hretain := h.retain hmem
  have hlen : (log ++ [LibraryCall.entry library .primaryCtxRetain]).length = log.length + 1 := by
    rw [List.length_append, List.length_singleton]
  unfold retainContext callEntry contextSetCurrent callEntry
  simp only [askLibrary, Attempt.bind_run, Attempt.act_run, Attempt.andThen_ok, Attempt.ite_run]
  unfold aborts retains at hretain
  dsimp only at hretain
  by_cases hresult : (answers log.length).result = 0
  · rw [if_pos hresult]
    simp only [Attempt.pure_run, Attempt.andThen_ok]
    by_cases hnull : (answers log.length).value = 0
    · rw [if_pos hnull]
      simp only [hresult, hnull, ne_eq, not_true_eq_false, and_false, decide_false,
        Bool.false_and, Bool.false_eq_true, if_false, Nat.add_zero] at hretain
      exact hretain
    · rw [if_neg hnull]
      simp only [hresult, hnull, ne_eq, not_false_eq_true, and_true, decide_true,
        Bool.true_and, if_true] at hretain
      rw [hlen]
      by_cases hset : (answers (log.length + 1)).result = 0
      · rw [if_pos hset]
        simp only [hset, bne_self_eq_false, Bool.false_eq_true, if_false, Nat.add_zero] at hretain
        exact hretain.entry hmem (by decide) (by decide)
      · rw [if_neg hset]
        have hbne : ((answers (log.length + 1)).result != 0) = true := bne_iff_ne.mpr hset
        rw [if_pos hbne] at hretain
        -- the explicit release, and that of the drop
        have hset := hretain.entry hmem (by decide : DriverEntry.ctxSetCurrent ≠ .primaryCtxRetain)
          (by decide)
        exact (hset.release hmem).dropContext hmem
  · rw [if_neg hresult]
    simp only [hresult, false_and, decide_false, Bool.false_and, Bool.false_eq_true, if_false,
      Nat.add_zero] at hretain
    exact hretain

theorem initializeRuntime_leaves : Leaves answers owned held (CudaRuntime.initializeRuntime answers)
    fun runtime => Accounts answers (runtime.library :: owned) (held + 1) := by
  refine Attempt.Triple.bind loadDriver_leaves ?_
  intro library
  apply closeOnError_leaves
  have hmem : library ∈ library :: owned := List.mem_cons_self
  refine Attempt.Triple.bind (initDriver_leaves hmem) ?_
  intro _
  refine Attempt.Triple.bind (driverDeviceCount_leaves hmem) ?_
  intro count
  refine Attempt.Triple.bind (callEntry_leaves hmem (by decide) (by decide) _) ?_
  intro device
  refine Attempt.Triple.bind (retainContext_leaves hmem) ?_
  intro _
  exact Attempt.Triple.pure fun _ h => h

theorem contextSetCurrent_leaves (hmem : library ∈ owned) :
    Leaves answers owned held (contextSetCurrent answers library)
      fun _ => Accounts answers owned held :=
  Attempt.Triple.bind (callEntry_leaves hmem (by decide) (by decide) _) fun _ =>
    Attempt.Triple.pure fun _ h => h

theorem detectDeviceCount_leaves : Leaves answers owned held (detectDeviceCount answers)
    fun _ => Accounts answers owned held := by
  refine Attempt.Triple.bind loadDriver_leaves ?_
  intro library
  have hmem : library ∈ library :: owned := List.mem_cons_self
  refine Attempt.Triple.bind (closeOnError_leaves (Attempt.Triple.bind (initDriver_leaves hmem)
    fun _ => driverDeviceCount_leaves hmem)) ?_
  intro count
  exact Attempt.Triple.act fun log h => h.close

theorem drop_leaves {runtime : CudaRuntime}
    (h : Accounts answers (runtime.library :: owned) (held + 1) log) :
    Accounts answers owned held (runtime.drop log) :=
  (h.dropContext List.mem_cons_self).close

end

/-! Runs. -/

namespace Runtimes
variable {answers : Nat → LibraryAnswer}

/-- Each runtime has its library open and holds the context once. -/
def Inv (answers : Nat → LibraryAnswer) (s : Runtimes) : Prop :=
  Accounts answers (s.live.map CudaRuntime.library) s.live.length s.log

theorem step_inv {s : Runtimes} (h : Inv answers s) (use : RuntimeUse) :
    Inv answers (s.step answers use) := by
  cases use with
  | detect =>
    have houtcome := detectDeviceCount_leaves s.log h
    unfold step
    dsimp only
    cases hrun : (detectDeviceCount answers).run s.log with
    | mk outcome log =>
      rw [hrun] at houtcome
      cases outcome <;> exact houtcome
  | initializeRuntime =>
    have houtcome := initializeRuntime_leaves s.log h
    unfold step
    dsimp only
    cases hrun : (CudaRuntime.initializeRuntime answers).run s.log with
    | mk outcome log =>
      rw [hrun] at houtcome
      cases outcome with
      | error e => exact houtcome
      | ok runtime =>
        show Accounts answers ((s.live ++ [runtime]).map _) (s.live ++ [runtime]).length log
        rw [List.map_append, List.length_append]
        exact houtcome.perm (List.perm_append_singleton _ _).symm
  | setCurrent index =>
    unfold step
    dsimp only
    split
    · exact h
    · next runtime hruntime =>
      have hmem : runtime.library ∈ s.live.map CudaRuntime.library :=
        List.mem_map_of_mem (List.mem_of_getElem? hruntime)
      have houtcome := contextSetCurrent_leaves hmem s.log h
      cases hrun : (contextSetCurrent answers runtime.library).run s.log with
      | mk outcome log =>
        rw [hrun] at houtcome
        cases outcome <;> exact houtcome
  | drop index =>
    unfold step
    dsimp only
    split
    · exact h
    · next runtime hruntime =>
      obtain ⟨hlt, hget⟩ := List.getElem?_eq_some_iff.mp hruntime
      have hperm : (runtime :: s.live.eraseIdx index).Perm s.live := by
        rw [← hget]
        exact List.getElem_cons_eraseIdx_perm hlt
      have hlen : s.live.length = (s.live.eraseIdx index).length + 1 := by
        rw [← hperm.length_eq, List.length_cons]
      have hinv := h
      unfold Inv at hinv
      rw [hlen] at hinv
      exact drop_leaves (hinv.perm (hperm.map CudaRuntime.library).symm)

theorem start_inv : Inv answers start := by
  refine ⟨⟨fun _ hmem => (nomatch hmem), List.nodup_nil, ?_, fun _ _ _ hget => (nomatch hget)⟩, rfl⟩
  intro library hopened
  obtain ⟨_, hcall⟩ := hopened.call
  cases hcall

theorem run_inv (answers : Nat → LibraryAnswer) (uses : List RuntimeUse) :
    Inv answers (run answers uses) := by
  have hfoldl : ∀ s : Runtimes, Inv answers s → Inv answers (uses.foldl (step answers) s) := by
    induction uses with
    | nil => exact fun _ h => h
    | cons use uses ih => exact fun s h => ih _ (step_inv h use)
  exact hfoldl start start_inv

/-- A library is called only after it was opened and before it is closed, and of those
opened the ones that are not a live runtime's were closed once. -/
theorem library_lifetimes (answers : Nat → LibraryAnswer) (uses : List RuntimeUse) :
    (∀ (n : Nat) call library, (run answers uses).log[n]? = some call →
      call.library = some library → library < n ∧ Opened answers (run answers uses).log library ∧
        closeCount library ((run answers uses).log.take n) = 0) ∧
    (∀ library, Opened answers (run answers uses).log library →
      closeCount library (run answers uses).log =
        if library ∈ (run answers uses).live.map CudaRuntime.library then 0 else 1) ∧
    ((run answers uses).live.map CudaRuntime.library).Nodup := by
  have hloaded := (run_inv answers uses).loaded
  refine ⟨hloaded.used, ?_, hloaded.distinct⟩
  intro library hopened
  split
  · next hlive => exact (hloaded.opened library hlive).2
  · next hlive => exact (hloaded.closed library hopened).resolve_left hlive

/-- The retains and releases of the primary context. -/
theorem context_balance (answers : Nat → LibraryAnswer) (uses : List RuntimeUse) :
    retained answers (run answers uses).log + aborted answers (run answers uses).log =
      (run answers uses).live.length + released (run answers uses).log ∧
    (retained answers (run answers uses).log =
        (run answers uses).live.length + released (run answers uses).log ↔
      aborted answers (run answers uses).log = 0) := by
  have hbalance := (run_inv answers uses).balance
  refine ⟨hbalance, ?_⟩
  omega

/-- One runtime whose context is refused: a retain, and two releases. -/
example : (run (fun n => ⟨if n = 27 then 1 else 0, 1⟩) [.initializeRuntime]).log.drop 26 =
    [.entry 0 .primaryCtxRetain, .entry 0 .ctxSetCurrent, .entry 0 .primaryCtxRelease,
      .entry 0 .ctxSetCurrent, .entry 0 .primaryCtxRelease, .closeLibrary 0] := by
  decide

end Runtimes

end QTom.Cuda
