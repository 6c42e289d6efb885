import QTom.Cuda.Executor

/- What an executor's steps make of its workspace.

   The workspace in the cell always fits its plan (`Sound`): no step changes a length or a
   pointer, and a failed driver call changes contents only. `Completes` states a step's
   pre- and postcondition over the cell. It may stop where the driver refused something or
   where there is an excuse, such as a plan that cannot be allocated. -/
namespace QTom.Cuda
open QTom.Lib QTom.Router

/-! Driver calls. -/

/-- The driver does all it is asked and returns no value its caller refuses. -/
def Accepting (answers : Nat → DriverAnswer) : Prop :=
  ∀ call, (answers call).result = 0 ∧ (answers call).refused = false

/-- The computation returns what `R` holds of, unless the driver refuses something or
there is the excuse. -/
def Served {α : Type} (answers : Nat → DriverAnswer) (excuse : Prop) (x : Driver α)
    (R : α → Prop) : Prop :=
  Attempt.Triple (fun _ => True) x (fun a _ => R a) fun _ _ => ¬ Accepting answers ∨ excuse

section Calls
variable {answers : Nat → DriverAnswer} {excuse : Prop}

theorem Served.bind {α β : Type} {x : Driver α} {k : α → Driver β} {R : α → Prop} {Q : β → Prop}
    (hx : Served answers excuse x R) (hk : ∀ a, R a → Served answers excuse (k a) Q) :
    Served answers excuse (x >>= k) Q := by
  apply Attempt.Triple.bind hx
  intro a log ha
  exact hk a ha log trivial

theorem Served.pure {α : Type} {a : α} {R : α → Prop} (h : R a) :
    Served answers excuse (Pure.pure a) R := Attempt.Triple.pure fun _ _ => h

theorem Served.fail {α : Type} {e : DriverError} {R : α → Prop} (h : ¬ Accepting answers ∨ excuse) :
    Served answers excuse (Attempt.fail e) R := Attempt.Triple.fail fun _ _ => h

theorem Served.ite {α : Type} {p : Prop} [Decidable p] {x y : Driver α} {R : α → Prop}
    (hx : p → Served answers excuse x R) (hy : ¬ p → Served answers excuse y R) :
    Served answers excuse (if p then x else y) R := Attempt.Triple.ite hx hy

/-- A result code other than 0 is a refusal. -/
theorem refused_result {call : Nat} (h : (answers call).result ≠ 0) :
    ¬ Accepting answers ∨ excuse :=
  Or.inl fun haccepting => h (haccepting call).1

theorem refused_value {call : Nat} (h : (answers call).refused = true) :
    ¬ Accepting answers ∨ excuse := by
  refine Or.inl fun haccepting => ?_
  rw [(haccepting call).2] at h
  cases h

theorem ask_served (call : DriverCall) :
    Served answers excuse (ask answers call) fun answer => ∃ n, answer = answers n :=
  Attempt.Triple.act fun log _ => ⟨log.length, rfl⟩

theorem setCurrentContext_served :
    Served answers excuse (setCurrentContext answers) fun _ => True := by
  apply Served.bind (ask_served _)
  intro answer ⟨n, hn⟩
  subst hn
  exact Served.ite (fun _ => Served.pure trivial) fun h => Served.fail (refused_result h)

/-- A call that returns nothing. -/
theorem call_served (call : DriverCall) (failed : Int → DriverError) :
    Served answers excuse (do
      setCurrentContext answers
      let answer ← ask answers call
      if answer.result = 0 then return () else Attempt.fail (failed answer.result))
      fun _ => True := by
  apply Served.bind setCurrentContext_served
  intro _ _
  apply Served.bind (ask_served _)
  intro answer ⟨n, hn⟩
  subst hn
  exact Served.ite (fun _ => Served.pure trivial) fun h => Served.fail (refused_result h)

theorem releaseHandle_served (kind : HandleKind) (failed : Int → DriverError) (handle : Nat) :
    Served answers excuse (releaseHandle answers kind failed handle) fun _ => True :=
  call_served _ failed

theorem borrowHandles_served (entry : BorrowEntry) (failed : Int → DriverError)
    (handles : List Nat) :
    Served answers excuse (borrowHandles answers entry failed handles) fun _ => True :=
  call_served _ failed

theorem getModuleFunction_served (loaded : Nat) :
    Served answers excuse (getModuleFunction answers loaded) fun _ => True := by
  apply Served.bind setCurrentContext_served
  intro _ _
  apply Served.bind (ask_served _)
  intro answer ⟨n, hn⟩
  subst hn
  apply Served.ite
  · intro h
    exact Served.fail (refused_result h)
  · intro _
    exact Served.ite (fun h => Served.fail (refused_value h)) fun _ => Served.pure trivial

theorem askHandle_served (kind : HandleKind) :
    Served answers excuse (askHandle answers kind) fun created => ∃ n, created.2 = answers n :=
  Attempt.Triple.act fun log _ => ⟨log.length, rfl⟩

theorem createHandle_served (kind : HandleKind) (failed : Int → DriverError) :
    Served answers excuse (createHandle answers kind failed) fun _ => True := by
  apply Served.bind setCurrentContext_served
  intro _ _
  apply Served.bind (askHandle_served kind)
  intro created ⟨n, hn⟩
  rw [hn]
  apply Served.ite
  · intro h
    exact Served.fail (refused_result h)
  · intro _
    exact Served.ite (fun h => Served.fail (refused_value h)) fun _ => Served.pure trivial

theorem allocDevice_served : Served answers excuse (allocDevice answers) fun _ => True := by
  apply Served.bind setCurrentContext_served
  intro _ _
  apply Served.bind (askHandle_served .device)
  intro created ⟨n, hn⟩
  rw [hn]
  exact Served.ite (fun _ => Served.pure trivial) fun h => Served.fail (refused_result h)

/-- The wrapper owns a handle. -/
def Wrapper.Owns (w : Wrapper) : Prop := ∃ handle, w.handle = some handle

theorem createWrapper_served (kind : HandleKind) {x : Driver Nat}
    (hx : Served answers excuse x fun _ => True) :
    Served answers excuse (do let handle ← x; return (⟨kind, some handle⟩ : Wrapper))
      Wrapper.Owns := by
  apply Served.bind hx
  intro handle _
  exact Served.pure ⟨handle, rfl⟩

theorem ofStream_served : Served answers excuse (Wrapper.ofStream answers) Wrapper.Owns :=
  createWrapper_served .stream (createHandle_served _ _)

theorem ofEvent_served : Served answers excuse (Wrapper.ofEvent answers) Wrapper.Owns :=
  createWrapper_served .event (createHandle_served _ _)

/-- Memory is allocated when its bytes can be counted. -/
theorem ofDevice_served {len : Nat} (hexcuse : ¬ len * 4 < 2 ^ 64 → excuse) :
    Served answers excuse (Wrapper.ofDevice answers len) fun w =>
      len * 4 < 2 ^ 64 ∧ (len ≠ 0 → w.Owns) := by
  apply Served.ite
  · intro hbytes
    apply Served.ite
    · intro hzero
      exact Served.pure ⟨hbytes, fun hne => absurd hzero (by omega)⟩
    · intro _
      apply Served.bind allocDevice_served
      intro ptr _
      exact Served.pure ⟨hbytes, fun _ => ⟨ptr, rfl⟩⟩
  · intro hbytes
    exact Served.fail (Or.inr (hexcuse hbytes))

theorem release_served (w : Wrapper) :
    Served answers excuse ⟨w.release answers⟩ fun _ => True := by
  intro log _
  unfold Wrapper.release
  cases hw : w.handle with
  | none => trivial
  | some handle =>
    have howned : Served answers excuse (Wrapper.releaseOwned answers w.kind handle)
        fun _ => True := by
      cases w.kind <;> exact releaseHandle_served _ _ _
    have houtcome := howned log trivial
    dsimp only
    cases hrun : (Wrapper.releaseOwned answers w.kind handle).run log with
    | mk outcome log' =>
      rw [hrun] at houtcome
      cases outcome with
      | ok _ => trivial
      | error e => exact houtcome

end Calls

/-! Workspaces that fit their plan. -/

section
variable {F : Type}

structure CudaDeviceBuffer.Fits {T : Type} (b : CudaDeviceBuffer T) (len : Nat) : Prop where
  length : b.contents.length = len
  bytes : len * 4 < 2 ^ 64
  present : len ≠ 0 → ∃ ptr, b.ptr = some ptr

structure CudaRouteK1Workspace.Fits (w : CudaRouteK1Workspace F) : Prop where
  agentVectors : w.agentVectors.Fits w.plan.agentVectorF32Len
  agentIds : w.agentIds.Fits w.plan.agentIdU32Len
  requestVectors : w.requestVectors.Fits w.plan.requestVectorF32Len
  agentScoreWeights : w.agentScoreWeights.Fits w.plan.agentScoreWeightF32Len
  availability : w.availability.Fits w.plan.availabilityU32Len
  outputAgentIds : w.outputAgentIds.Fits w.plan.outputCandidateU32Len
  outputEffectiveDistances : w.outputEffectiveDistances.Fits w.plan.outputEffectiveF32Len
  outputBaseDistances : w.outputBaseDistances.Fits w.plan.outputBaseF32Len
  outputFlags : w.outputFlags.Fits w.plan.outputFlagU32Len

/-- What an executor's cell holds fits. -/
def Sound (cell : Option (CudaRouteK1Workspace F)) : Prop := ∀ w, cell = some w → w.Fits

theorem sound_some {w : CudaRouteK1Workspace F} (h : w.Fits) :
    ∀ cell, cell = some w → Sound cell := by
  intro cell hcell w' hw'
  rw [hcell] at hw'
  exact Option.some.inj hw' ▸ h

theorem CudaDeviceBuffer.Fits.refill {T : Type} {b : CudaDeviceBuffer T} {len : Nat}
    (h : b.Fits len) {contents : List T} (hlen : contents.length = len) :
    ({ b with contents } : CudaDeviceBuffer T).Fits len := ⟨hlen, h.bytes, h.present⟩

theorem CudaDeviceBuffer.Fits.disturbed {T : Type} {b : CudaDeviceBuffer T} {len : Nat}
    (h : b.Fits len) (cells : Nat → T) : (b.disturbed cells).Fits len := by
  apply h.refill
  rw [undetermined, List.length_map, List.length_range]
  exact h.length

/-- A failed driver call changes no length and no pointer. -/
theorem CudaRouteK1Workspace.Fits.disturbed {w : CudaRouteK1Workspace F} (h : w.Fits)
    (device : Device F) (call : Nat) : (w.disturbed device call).Fits :=
  ⟨h.agentVectors.disturbed _, h.agentIds.disturbed _, h.requestVectors.disturbed _,
    h.agentScoreWeights.disturbed _, h.availability.disturbed _, h.outputAgentIds.disturbed _,
    h.outputEffectiveDistances.disturbed _, h.outputBaseDistances.disturbed _,
    h.outputFlags.disturbed _⟩

/-! Executions. -/

/-- Where an execution may stop: the cell is sound, and the driver refused something or
there is the excuse. -/
def Stopped (device : Device F) (excuse : Prop) (s : ExecutorState F) : Prop :=
  Sound s.workspace ∧ (¬ Accepting device.answers ∨ excuse)

/-- From a cell with `I` the execution ends with `Q` of its value and the cell, or stops. -/
def Completes {α : Type} (device : Device F) (excuse : Prop)
    (I : Option (CudaRouteK1Workspace F) → Prop) (x : Execution F α)
    (Q : α → Option (CudaRouteK1Workspace F) → Prop) : Prop :=
  Attempt.Triple (fun s => I s.workspace) x (fun a s => Q a s.workspace)
    fun _ s => Stopped device excuse s

namespace Completes
variable {device : Device F} {excuse : Prop} {I : Option (CudaRouteK1Workspace F) → Prop}
  {α β : Type}

theorem bind {x : Execution F α} {k : α → Execution F β}
    {R : α → Option (CudaRouteK1Workspace F) → Prop}
    {Q : β → Option (CudaRouteK1Workspace F) → Prop} (hx : Completes device excuse I x R)
    (hk : ∀ a, Completes device excuse (R a) (k a) Q) : Completes device excuse I (x >>= k) Q :=
  Attempt.Triple.bind hx hk

/-- A step with a fact of its value. -/
theorem step {x : Execution F α} {k : α → Execution F β} {R : α → Prop}
    {J : α → Option (CudaRouteK1Workspace F) → Prop}
    {Q : β → Option (CudaRouteK1Workspace F) → Prop}
    (hx : Completes device excuse I x fun a cell => R a ∧ J a cell)
    (hk : ∀ a, R a → Completes device excuse (J a) (k a) Q) :
    Completes device excuse I (x >>= k) Q := by
  apply bind hx
  intro a
  apply Attempt.Triple.given
  exact hk a

theorem pure {a : α} {Q : α → Option (CudaRouteK1Workspace F) → Prop}
    (h : ∀ cell, I cell → Q a cell) : Completes device excuse I (Pure.pure a) Q :=
  Attempt.Triple.pure fun s hs => h s.workspace hs

theorem ite {p : Prop} [Decidable p] {x y : Execution F α}
    {Q : α → Option (CudaRouteK1Workspace F) → Prop} (hx : p → Completes device excuse I x Q)
    (hy : ¬ p → Completes device excuse I y Q) :
    Completes device excuse I (if p then x else y) Q := Attempt.Triple.ite hx hy

theorem act {f : ExecutorState F → α × ExecutorState F}
    {Q : α → Option (CudaRouteK1Workspace F) → Prop}
    (h : ∀ s, I s.workspace → Q (f s).1 (f s).2.workspace) :
    Completes device excuse I (Attempt.act f) Q := Attempt.Triple.act h

/-- A look at the state. -/
theorem look {f : ExecutorState F → α} {k : α → Execution F β}
    {Q : β → Option (CudaRouteK1Workspace F) → Prop}
    (hk : ∀ a, Completes device excuse I (k a) Q) :
    Completes device excuse I ((Attempt.act fun s => (f s, s)) >>= k) Q :=
  bind (R := fun _ => I) (act fun _ hs => hs) hk

theorem stop {e : CudaRouteExecutionError} {Q : α → Option (CudaRouteK1Workspace F) → Prop}
    (hI : ∀ cell, I cell → Sound cell) (h : ¬ Accepting device.answers ∨ excuse) :
    Completes device excuse I (Attempt.fail e) Q :=
  Attempt.Triple.fail fun s hs => ⟨hI s.workspace hs, h⟩

theorem ofExcept {ε : Type} {f : ε → CudaRouteExecutionError} {x : Except ε α}
    (hI : ∀ cell, I cell → Sound cell) (hexcuse : ∀ e, x = .error e → excuse) :
    Completes device excuse I (Execution.ofExcept f x) fun a cell => x = .ok a ∧ I cell := by
  cases x with
  | ok a => exact pure fun cell hcell => ⟨rfl, hcell⟩
  | error e => exact stop hI (Or.inr (hexcuse e rfl))

theorem ofOption {x : Option α} (hI : ∀ cell, I cell → Sound cell) (hexcuse : x = none → excuse) :
    Completes device excuse I (Execution.ofOption x) fun a cell => x = some a ∧ I cell := by
  cases x with
  | some a => exact pure fun cell hcell => ⟨rfl, hcell⟩
  | none => exact stop hI (Or.inr (hexcuse rfl))

/-- Only here the device gets at the memory. -/
theorem driver {x : Driver α} {R : α → Prop} (hI : ∀ cell, I cell → Sound cell)
    (hx : Served device.answers excuse x R) :
    Completes device excuse I (QTom.Cuda.driver device x) fun a cell => R a ∧ I cell := by
  intro s hs
  have houtcome := hx s.log trivial
  unfold QTom.Cuda.driver
  dsimp only
  cases hrun : x.run s.log with
  | mk outcome log =>
    rw [hrun] at houtcome
    cases outcome with
    | ok a => exact ⟨houtcome, hs⟩
    | error e =>
      refine ⟨?_, houtcome⟩
      intro w hw
      obtain ⟨w', hcell, rfl⟩ := Option.map_eq_some_iff.mp hw
      exact (hI _ hs w' hcell).disturbed device _

theorem hold {x : Driver Wrapper} {R : Wrapper → Prop} (hI : ∀ cell, I cell → Sound cell)
    (hx : Served device.answers excuse x R) :
    Completes device excuse I (QTom.Cuda.hold device x) fun w cell => R w ∧ I cell := by
  apply step (driver hI hx)
  intro w hw s hs
  exact ⟨hw, hs⟩

theorem scope {x : Execution F α} {Q : α → Option (CudaRouteK1Workspace F) → Prop}
    (hx : Completes device excuse I x Q) :
    Completes device excuse I (QTom.Cuda.scope device x) Q := by
  intro s hs
  have houtcome := hx s hs
  unfold QTom.Cuda.scope
  dsimp only
  cases hrun : x.run s with
  | mk outcome s' =>
    rw [hrun] at houtcome
    cases outcome with
    | ok a => exact houtcome
    | error e => exact houtcome

theorem destroy (hI : ∀ cell, I cell → Sound cell) (w : Wrapper) :
    Completes device excuse I (QTom.Cuda.destroy device w) fun _ cell => True ∧ I cell := by
  apply bind (R := fun _ => I) (act fun _ hs => hs)
  intro _
  exact driver hI (release_served w)

/-- The cell after a change. -/
theorem keep {w : CudaRouteK1Workspace F} {k : CudaRouteK1Workspace F → Execution F β}
    {Q : β → Option (CudaRouteK1Workspace F) → Prop}
    (hk : Completes device excuse (fun cell => cell = some w) (k w) Q) :
    Completes device excuse I (QTom.Cuda.keep w >>= k) Q :=
  fun s _ => hk { s with workspace := some w } rfl

theorem weaken {I' : Option (CudaRouteK1Workspace F) → Prop} {x : Execution F α}
    {Q Q' : α → Option (CudaRouteK1Workspace F) → Prop} (hx : Completes device excuse I x Q)
    (hI : ∀ cell, I' cell → I cell) (hQ : ∀ a cell, Q a cell → Q' a cell) :
    Completes device excuse I' x Q' :=
  Attempt.Triple.weaken hx (fun s => hI s.workspace) (fun a s => hQ a s.workspace) fun _ _ h => h

end Completes

/-! Copies. -/

section Copies
variable {device : Device F} {excuse : Prop} {I : Option (CudaRouteK1Workspace F) → Prop}
  {T : Type} {b : CudaDeviceBuffer T} {len : Nat}

theorem validateBufferLen_completes (buffer : String) {actual expected : Nat}
    (h : actual = expected) :
    Completes device excuse I
      (Execution.ofExcept .runtime (validateBufferLen buffer actual expected))
      fun _ cell => True ∧ I cell := by
  rw [validateBufferLen, if_pos h]
  exact Completes.pure fun cell hcell => ⟨trivial, hcell⟩

theorem copyPtr_completes (hb : b.Fits len) (hne : len ≠ 0) :
    Completes device excuse I b.copyPtr fun _ cell => True ∧ I cell := by
  obtain ⟨ptr, hptr⟩ := hb.present hne
  unfold CudaDeviceBuffer.copyPtr
  rw [hptr]
  exact Completes.pure fun cell hcell => ⟨trivial, hcell⟩

/-- A buffer without bytes has no entry, and fits no length but 0. -/
theorem byteLen_eq_zero (hb : b.Fits len) : b.byteLen = 0 ↔ len = 0 := by
  have hlen : b.len = len := hb.length
  unfold CudaDeviceBuffer.byteLen
  omega

/-- A copy that is not made, where there is nothing to copy, leaves what it would. -/
theorem transfer_completes {α : Type} (hI : ∀ cell, I cell → Sound cell) (hb : b.Fits len)
    (buffer : String) {actual : Nat} (hactual : actual = len) {call : Nat → Driver Unit}
    (hcall : ∀ ptr, Served device.answers excuse (call ptr) fun _ => True) {unmade made : α}
    (hsame : len = 0 → unmade = made) :
    Completes device excuse I (do
      Execution.ofExcept .runtime (validateBufferLen buffer actual b.len)
      if b.byteLen = 0 then return unmade
      else do
        let ptr ← b.copyPtr
        driver device (call ptr)
        return made)
      fun a cell => a = made ∧ I cell := by
  apply Completes.step (validateBufferLen_completes _ (hactual.trans hb.length.symm))
  intro _ _
  apply Completes.ite
  · intro hzero
    exact Completes.pure fun cell hcell => ⟨hsame ((byteLen_eq_zero hb).mp hzero), hcell⟩
  · intro hne
    apply Completes.step (copyPtr_completes hb fun hzero => hne ((byteLen_eq_zero hb).mpr hzero))
    intro ptr _
    apply Completes.step (Completes.driver hI (hcall ptr))
    intro _ _
    exact Completes.pure fun cell hcell => ⟨rfl, hcell⟩

theorem copyFrom_completes (hI : ∀ cell, I cell → Sound cell) (hb : b.Fits len)
    {source : List T} (hsource : source.length = len) :
    Completes device excuse I (b.copyFrom device source) fun b' cell =>
      b' = { b with contents := source } ∧ I cell := by
  apply transfer_completes hI hb _ hsource fun ptr => borrowHandles_served _ _ _
  intro hzero
  have hcontents : b.contents = [] := List.length_eq_zero_iff.mp (hb.length.trans hzero)
  have hempty : source = [] := List.length_eq_zero_iff.mp (hsource.trans hzero)
  rw [hempty, ← hcontents]

theorem copyTo_completes (hI : ∀ cell, I cell → Sound cell) (hb : b.Fits len)
    {destination : List T} (hdestination : destination.length = len) :
    Completes device excuse I (b.copyTo device destination) fun copied cell =>
      copied = b.contents ∧ I cell := by
  apply transfer_completes hI hb _ hdestination fun ptr => borrowHandles_served _ _ _
  intro hzero
  have hcontents : b.contents = [] := List.length_eq_zero_iff.mp (hb.length.trans hzero)
  have hempty : destination = [] := List.length_eq_zero_iff.mp (hdestination.trans hzero)
  rw [hempty, hcontents]

end Copies

/-! The workspace of a call. -/

/-- The lengths of the nine buffers. -/
def CudaBufferPlan.lengths (plan : CudaBufferPlan) : List Nat :=
  [plan.agentVectorF32Len, plan.agentIdU32Len, plan.requestVectorF32Len,
    plan.agentScoreWeightF32Len, plan.availabilityU32Len, plan.outputCandidateU32Len,
    plan.outputEffectiveF32Len, plan.outputBaseF32Len, plan.outputFlagU32Len]

/-- The bytes of every buffer can be counted. -/
def CudaBufferPlan.Allocatable (plan : CudaBufferPlan) : Prop :=
  ∀ len ∈ plan.lengths, len * 4 < 2 ^ 64

section Workspace
variable {device : Device F} {excuse : Prop} {plan : CudaBufferPlan}

theorem allocateDeviceBuffer_completes {T : Type} (cells : Nat → Nat → T) {len : Nat}
    (hexcuse : ¬ len * 4 < 2 ^ 64 → excuse) :
    Completes device excuse Sound (allocateDeviceBuffer device cells len) fun b cell =>
      b.Fits len ∧ Sound cell := by
  apply Completes.step (Completes.hold (fun _ h => h) (ofDevice_served hexcuse))
  intro owned ⟨hbytes, howns⟩ s hs
  refine ⟨⟨?_, hbytes, howns⟩, hs⟩
  show (undetermined _ len).length = len
  rw [undetermined, List.length_map, List.length_range]

theorem new_completes (hexcuse : ¬ plan.Allocatable → excuse) :
    Completes device excuse Sound (CudaRouteK1Workspace.new device plan) fun w cell =>
      (w.Fits ∧ w.plan = plan) ∧ Sound cell := by
  have hlen : ∀ len ∈ plan.lengths, ¬ len * 4 < 2 ^ 64 → excuse :=
    fun len hmem hbytes => hexcuse fun h => hbytes (h len hmem)
  simp only [CudaBufferPlan.lengths, List.forall_mem_cons] at hlen
  obtain ⟨h1, h2, h3, h4, h5, h6, h7, h8, h9, _⟩ := hlen
  apply Completes.scope
  apply Completes.step (allocateDeviceBuffer_completes _ h1)
  intro agentVectors hagentVectors
  apply Completes.step (allocateDeviceBuffer_completes _ h2)
  intro agentIds hagentIds
  apply Completes.step (allocateDeviceBuffer_completes _ h3)
  intro requestVectors hrequestVectors
  apply Completes.step (allocateDeviceBuffer_completes _ h4)
  intro agentScoreWeights hweights
  apply Completes.step (allocateDeviceBuffer_completes _ h5)
  intro availability havailability
  apply Completes.step (allocateDeviceBuffer_completes _ h6)
  intro outputAgentIds hids
  apply Completes.step (allocateDeviceBuffer_completes _ h7)
  intro outputEffectiveDistances heffective
  apply Completes.step (allocateDeviceBuffer_completes _ h8)
  intro outputBaseDistances hbase
  apply Completes.step (allocateDeviceBuffer_completes _ h9)
  intro outputFlags hflags s hs
  exact ⟨⟨⟨hagentVectors, hagentIds, hrequestVectors, hweights, havailability, hids, heffective,
    hbase, hflags⟩, rfl⟩, hs⟩

theorem replaceWorkspace_completes (hexcuse : ¬ plan.Allocatable → excuse) :
    Completes device excuse Sound (replaceWorkspace device plan) fun w cell =>
      (w.Fits ∧ w.plan = plan) ∧ cell = some w := by
  apply Completes.step (new_completes hexcuse)
  intro w hw s _
  exact ⟨hw, rfl⟩

theorem workspaceFor_completes (hexcuse : ¬ plan.Allocatable → excuse) :
    Completes device excuse Sound (workspaceFor device plan) fun w cell =>
      (w.Fits ∧ w.plan = plan) ∧ cell = some w := by
  apply Completes.bind (R := fun cached cell => cell = cached ∧ Sound cell)
    (Completes.act fun s hs => ⟨rfl, hs⟩)
  intro cached
  have hreplace := Completes.weaken (replaceWorkspace_completes hexcuse : Completes device _ _ _ _)
    (fun cell (hcell : cell = cached ∧ Sound cell) => hcell.2) fun _ _ h => h
  cases cached with
  | none => exact hreplace
  | some w =>
    apply Completes.ite
    · intro _
      exact hreplace
    · intro hplan
      refine Completes.pure fun cell hcell => ⟨⟨?_, not_not.mp hplan⟩, hcell.1⟩
      exact hcell.2 w hcell.1

end Workspace

end

end QTom.Cuda
