import QTom.Cuda.Lifetimes
import QTom.Cuda.Reuse

/- The executor as a program over the wrappers.

   Whatever the driver answers, the calls the executor has made so far are those of some
   program that owns, besides what there was, the module, what the running function owns
   and the workspace's buffers: a step of the executor is one use of the wrappers or none.
   So what holds of every program holds of the executor, and one that is dropped after any
   batches leaves nothing behind (`executor_leaves_nothing`). -/
namespace QTom.Cuda
open QTom.Lib QTom.Router

/-! Programs that reach a log. -/

/-- From `start` some uses make these calls and leave these wrappers. -/
def Reaches (answers : Nat → DriverAnswer) (start : Program) (log : List DriverCall)
    (live : List Wrapper) : Prop :=
  ∃ uses : List Use, (uses.foldl (Program.step answers) start).log = log ∧
    (uses.foldl (Program.step answers) start).live.Perm live

namespace Reaches
variable {answers : Nat → DriverAnswer} {start : Program} {log : List DriverCall}
  {w : Wrapper} {live live' : List Wrapper}

theorem refl (answers : Nat → DriverAnswer) (start : Program) :
    Reaches answers start start.log start.live := ⟨[], rfl, List.Perm.refl _⟩

theorem perm (h : Reaches answers start log live) (hperm : live.Perm live') :
    Reaches answers start log live' := by
  obtain ⟨uses, hlog, hlive⟩ := h
  exact ⟨uses, hlog, hlive.trans hperm⟩

/-- One more use. -/
theorem use (h : Reaches answers start log live) (use : Use)
    (hstep : ∀ s : Program, s.log = log → s.live.Perm live →
      (s.step answers use).log = log' ∧ (s.step answers use).live.Perm live') :
    Reaches answers start log' live' := by
  obtain ⟨uses, hlog, hlive⟩ := h
  refine ⟨uses ++ [use], ?_⟩
  rw [List.foldl_append]
  exact hstep _ hlog hlive

/-- A use that makes a wrapper. -/
theorem make (h : Reaches answers start log live) {x : Driver Wrapper} (use : Use)
    (hx : ∀ s : Program, s.step answers use = s.adopt (x.run s.log)) :
    match (x.run log).1 with
    | .ok w => Reaches answers start (x.run log).2 (w :: live)
    | .error _ => Reaches answers start (x.run log).2 live := by
  split
  · next w hok =>
    refine h.use use ?_
    intro s hlog hlive
    rw [hx, hlog]
    unfold Program.adopt
    rw [hok]
    refine ⟨rfl, ?_⟩
    show (s.live ++ [w]).Perm (w :: live)
    exact List.perm_append_singleton w s.live |>.trans (hlive.cons w)
  · next e herror =>
    refine h.use use ?_
    intro s hlog hlive
    rw [hx, hlog]
    unfold Program.adopt
    rw [herror]
    exact ⟨rfl, hlive⟩

/-- Lending handles that are owned. -/
theorem lend (h : Reaches answers start log live) (entry : BorrowEntry)
    (failed : Int → DriverError) {handles : List Nat}
    (howned : ∀ handle ∈ handles, ∃ w ∈ live, w.handle = some handle) :
    Reaches answers start ((borrowHandles answers entry failed handles).run log).2 live := by
  obtain ⟨uses, hlog, hlive⟩ := h
  generalize hs : uses.foldl (Program.step answers) start = s at hlog hlive
  have hfound : ∃ indices : List Nat,
      (indices.mapM fun index => s.live[index]?.bind Wrapper.handle) = some handles := by
    clear hs hlog
    induction handles with
    | nil => exact ⟨[], rfl⟩
    | cons handle handles ih =>
      rw [List.forall_mem_cons] at howned
      obtain ⟨⟨w, hw, hhandle⟩, hrest⟩ := howned
      obtain ⟨indices, hindices⟩ := ih hrest
      obtain ⟨index, hindex⟩ := List.getElem?_of_mem (hlive.mem_iff.mpr hw)
      refine ⟨index :: indices, ?_⟩
      rw [List.mapM_cons, hindices, hindex]
      show (w.handle.bind fun handle => some (handle :: handles)) = _
      rw [hhandle]
      rfl
  obtain ⟨indices, hindices⟩ := hfound
  refine ⟨uses ++ [.borrow entry failed indices], ?_⟩
  rw [List.foldl_append, hs]
  show (s.step answers (.borrow entry failed indices)).log = _ ∧
    (s.step answers (.borrow entry failed indices)).live.Perm live
  unfold Program.step
  dsimp only
  rw [hindices, hlog]
  exact ⟨rfl, hlive⟩

/-- A wrapper that goes. -/
theorem lose (h : Reaches answers start log (w :: live)) {u : Nat → Use}
    {log' : List DriverCall}
    (hstep : ∀ (s : Program) index, s.log = log → s.live[index]? = some w →
      s.step answers (u index) = ⟨s.live.eraseIdx index, log'⟩) :
    Reaches answers start log' live := by
  obtain ⟨before, hlog, hlive⟩ := h
  generalize hs : before.foldl (Program.step answers) start = s at hlog hlive
  obtain ⟨index, hindex⟩ := List.getElem?_of_mem (hlive.mem_iff.mpr List.mem_cons_self)
  refine ⟨before ++ [u index], ?_⟩
  rw [List.foldl_append, hs]
  show (s.step answers (u index)).log = _ ∧ (s.step answers (u index)).live.Perm live
  rw [hstep s index hlog hindex]
  refine ⟨rfl, ?_⟩
  obtain ⟨hlt, rfl⟩ := List.getElem?_eq_some_iff.mp hindex
  exact ((List.getElem_cons_eraseIdx_perm hlt).trans hlive).cons_inv

theorem drop (h : Reaches answers start log (w :: live)) :
    Reaches answers start (w.drop answers log) live := by
  refine h.lose (u := Use.drop) ?_
  intro s index hlog hindex
  unfold Program.step
  dsimp only
  rw [hindex, hlog]

theorem release (h : Reaches answers start log (w :: live)) :
    Reaches answers start (w.release answers log).2 live := by
  refine h.lose (u := Use.release) ?_
  intro s index hlog hindex
  unfold Program.step
  dsimp only
  rw [hindex, hlog]

theorem dropAll {F : Type} (device : Device F) {ws : List Wrapper}
    (h : Reaches device.answers start log (ws ++ live)) :
    Reaches device.answers start (QTom.Cuda.dropAll device ws log) live := by
  induction ws generalizing log with
  | nil => exact h
  | cons w ws ih => exact ih (drop h)

end Reaches

/-- What a program owns at the end is what it owned before: a handle created meanwhile was
released, or the driver refused to make the context current after that. -/
theorem Reaches.leaves_nothing {answers : Nat → DriverAnswer} {before : List Use}
    {log : List DriverCall}
    (h : Reaches answers (Program.run answers before) log (Program.run answers before).live) :
    (∃ meanwhile, (Program.run answers (before ++ meanwhile)).log = log ∧
      (Program.run answers (before ++ meanwhile)).live.Perm (Program.run answers before).live) ∧
    ∀ handle kind, (Program.run answers before).log.length ≤ handle →
      Created answers log handle kind →
      (0 < releaseCount handle log ∨ ContextRefused answers log handle) ∧
      (Accepting answers → releaseCount handle log = 1) := by
  obtain ⟨meanwhile, hlog, hlive⟩ := h
  have hrun : meanwhile.foldl (Program.step answers) (Program.run answers before) =
      Program.run answers (before ++ meanwhile) := List.foldl_append.symm
  rw [hrun] at hlog hlive
  refine ⟨⟨meanwhile, hlog, hlive⟩, ?_⟩
  intro handle kind hle hcreated
  have hafter := Program.run_tracked answers (before ++ meanwhile)
  rw [hlog] at hafter
  -- what is owned at the end was created before
  have hgone : 0 < releaseCount handle log ∨ ContextRefused answers log handle := by
    rcases hafter.accounted handle kind hcreated with howned | hgone
    · have hearlier := (Program.run_tracked answers before).owned _
        (hlive.mem_iff.mp howned) handle rfl
      have hlt := hearlier.lt
      omega
    · exact hgone
  refine ⟨hgone, ?_⟩
  intro haccepting
  have honce : ReleasedOnce log := by
    rw [← hlog]
    apply (Program.released_once_from Program.start_inv (fun _ => Nat.zero_le 1) _).mpr
    intro earlier use later _ index w handle' _ _ _ hrefused
    exact hrefused.2.1 (haccepting _).1
  have hle := honce handle
  rcases hgone with hreleased | ⟨n, _, _, hrefused⟩
  · omega
  · exact absurd (haccepting n).1 hrefused

/-! What the executor owns. -/

section
variable {F : Type}

/-- What the workspace in the cell owns. -/
def workspaceWrappers (cell : Option (CudaRouteK1Workspace F)) : List Wrapper :=
  (cell.map CudaRouteK1Workspace.wrappers).getD []

variable (device : Device F) (start : Program) (others : List Wrapper)

/-- The calls so far are a program's that owns what the state names, and `others`. -/
def Tidy (s : ExecutorState F) : Prop :=
  Reaches device.answers start s.log (others ++ (s.locals ++ workspaceWrappers s.workspace))

/-- Between two calls. -/
def Clean (s : ExecutorState F) : Prop := s.locals = [] ∧ Tidy device start others s

/-- Within a call. -/
structure Owns (locals ws : List Wrapper) (s : ExecutorState F) : Prop where
  held : s.locals = locals
  cell : workspaceWrappers s.workspace = ws
  reaches : Reaches device.answers start s.log (others ++ (locals ++ ws))

/-- What is done between the two states keeps the calls a program's. -/
abbrev Keeps {α : Type} (P : ExecutorState F → Prop) (x : Execution F α)
    (Q : α → ExecutorState F → Prop) : Prop :=
  Attempt.Triple P x Q fun _ => Tidy device start others

variable {device : Device F} {start : Program} {others locals ws : List Wrapper} {α : Type}

theorem Owns.tidy {s : ExecutorState F} (h : Owns device start others locals ws s) :
    Tidy device start others s := by
  unfold Tidy
  rw [h.held, h.cell]
  exact h.reaches

theorem Owns.clean {s : ExecutorState F} (h : Owns device start others [] ws s) :
    Clean device start others s := ⟨h.held, h.tidy⟩

theorem Clean.owns {s : ExecutorState F} (h : Clean device start others s) :
    Owns device start others [] (workspaceWrappers s.workspace) s := by
  refine ⟨h.1, rfl, ?_⟩
  have htidy := h.2
  unfold Tidy at htidy
  rw [h.1] at htidy
  exact htidy

theorem wrappers_disturbed (call : Nat) (cell : Option (CudaRouteK1Workspace F)) :
    workspaceWrappers (cell.map (·.disturbed device call)) = workspaceWrappers cell := by
  cases cell <;> rfl

/-- A driver call that failed. -/
theorem Owns.failed {s : ExecutorState F} (h : Owns device start others locals ws s) {call : Nat}
    {log : List DriverCall}
    (hreaches : Reaches device.answers start log (others ++ (locals ++ ws))) :
    Owns device start others locals ws
      { s with log, workspace := s.workspace.map (·.disturbed device call) } :=
  ⟨h.held, (wrappers_disturbed _ _).trans h.cell, hreaches⟩

/-- A driver call whose log lets what is owned be what it was. -/
theorem driver_keeps {x : Driver α}
    (hx : ∀ log, Reaches device.answers start log (others ++ (locals ++ ws)) →
      Reaches device.answers start (x.run log).2 (others ++ (locals ++ ws))) :
    Keeps device start others (Owns device start others locals ws) (driver device x)
      fun _ => Owns device start others locals ws := by
  intro s hs
  have hreaches := hx s.log hs.reaches
  unfold driver
  dsimp only
  cases hrun : x.run s.log with
  | mk outcome log =>
    rw [hrun] at hreaches
    cases outcome with
    | ok a => exact ⟨hs.held, hs.cell, hreaches⟩
    | error e =>
      exact (hs.failed hreaches).tidy

theorem lend_keeps {x : Driver α} (entry : BorrowEntry) {failed : Int → DriverError}
    {handles : List Nat}
    (hx : ∀ log, (x.run log).2 = ((borrowHandles device.answers entry failed handles).run log).2)
    (howned : ∀ handle ∈ handles, ∃ w ∈ others ++ (locals ++ ws), w.handle = some handle) :
    Keeps device start others (Owns device start others locals ws) (driver device x)
      fun _ => Owns device start others locals ws := by
  apply driver_keeps
  intro log h
  rw [hx]
  exact h.lend entry failed howned

theorem hold_keeps {x : Driver Wrapper} (use : Use)
    (hx : ∀ s : Program, s.step device.answers use = s.adopt (x.run s.log)) :
    Keeps device start others (Owns device start others locals ws) (hold device x)
      fun w => Owns device start others (w :: locals) ws := by
  intro s hs
  have hmade := hs.reaches.make use hx
  unfold hold driver
  rw [Attempt.bind_run]
  dsimp only
  cases hrun : x.run s.log with
  | mk outcome log =>
    rw [hrun] at hmade
    cases outcome with
    | ok w =>
      refine ⟨?_, hs.cell, hmade.perm List.perm_middle.symm⟩
      show w :: s.locals = w :: locals
      rw [hs.held]
    | error e =>
      exact (hs.failed hmade).tidy

theorem destroy_keeps (w : Wrapper) :
    Keeps device start others (Owns device start others (w :: locals) ws) (destroy device w)
      fun _ => Owns device start others locals ws := by
  intro s hs
  have hreleased := Reaches.release (hs.reaches.perm List.perm_middle)
  unfold destroy driver
  rw [Attempt.bind_run]
  dsimp only
  have hlocals : s.locals.erase w = locals := by
    rw [hs.held, List.erase_cons_head]
  simp only [Attempt.act_run, Attempt.andThen_ok]
  cases hrun : w.release device.answers s.log with
  | mk outcome log =>
    rw [hrun] at hreleased
    cases outcome with
    | ok a => exact ⟨hlocals, hs.cell, hreleased⟩
    | error e =>
      have hleft : Owns device start others locals ws
          { s with log, locals, workspace := s.workspace.map (·.disturbed device s.log.length) } :=
        ⟨rfl, (wrappers_disturbed _ _).trans hs.cell, hreleased⟩
      rw [hlocals]
      exact hleft.tidy

/-- The function is left with nothing of its own, or what it has is dropped. -/
theorem scope_keeps {P : ExecutorState F → Prop} {x : Execution F α}
    {Q : α → ExecutorState F → Prop}
    (hx : Keeps device start others P x Q)
    (hQ : ∀ a s, Q a s → s.locals = []) :
    Attempt.Triple P (scope device x) Q fun _ => Clean device start others := by
  intro s hs
  have houtcome := hx s hs
  unfold scope
  dsimp only
  cases hrun : x.run s with
  | mk outcome s' =>
    rw [hrun] at houtcome
    cases outcome with
    | ok a =>
      have hempty := hQ a s' houtcome
      have hsame : ({ s' with log := dropAll device s'.locals s'.log, locals := [] } :
          ExecutorState F) = s' := by
        rw [hempty]
        show ({ s' with locals := [] } : ExecutorState F) = s'
        rw [← hempty]
      dsimp only
      rw [hsame]
      exact houtcome
    | error e =>
      refine ⟨rfl, ?_⟩
      apply Reaches.dropAll device
      apply Reaches.perm houtcome
      rw [← List.append_assoc, ← List.append_assoc]
      exact List.perm_append_comm.append_right _

theorem pure_keeps {P : ExecutorState F → Prop} {a : α} {Q : α → ExecutorState F → Prop}
    (h : ∀ s, P s → Q a s) : Keeps device start others P (Pure.pure a) Q := Attempt.Triple.pure h

theorem ofExcept_keeps {ε : Type} (f : ε → CudaRouteExecutionError) (x : Except ε α) :
    Keeps device start others (Owns device start others locals ws) (Execution.ofExcept f x)
      fun _ => Owns device start others locals ws := by
  cases x with
  | ok a => exact Attempt.Triple.pure fun _ hs => hs
  | error e => exact Attempt.Triple.fail fun _ hs => hs.tidy

theorem ofOption_keeps (x : Option α) :
    Keeps device start others (Owns device start others locals ws) (Execution.ofOption x)
      fun _ => Owns device start others locals ws := by
  cases x with
  | some a => exact Attempt.Triple.pure fun _ hs => hs
  | none => exact Attempt.Triple.fail fun _ hs => hs.tidy

/-- A step after which the same is owned. -/
theorem then_keeps {β : Type} {x : Execution F α} {k : α → Execution F β} {P : ExecutorState F → Prop}
    {Q : β → ExecutorState F → Prop}
    (hx : Keeps device start others P x fun _ => P)
    (hk : ∀ a, Keeps device start others P (k a) Q) : Keeps device start others P (x >>= k) Q :=
  Attempt.Triple.bind hx hk

/-- A look at the state. -/
theorem look_keeps {P : ExecutorState F → Prop} {f : ExecutorState F → α} :
    Keeps device start others P (Attempt.act fun s => (f s, s)) fun _ => P :=
  Attempt.Triple.act fun _ hs => hs

/-! The buffers. -/

theorem ofDevice_kind {answers : Nat → DriverAnswer} {len : Nat} {log : List DriverCall} {w : Wrapper}
    (h : ((Wrapper.ofDevice answers len).run log).1 = .ok w) : w.kind = .device := by
  unfold Wrapper.ofDevice at h
  split at h
  · split at h
    · rw [← Except.ok.inj h]
    · rw [Attempt.bind_run] at h
      cases hrun : (allocDevice answers).run log with
      | mk outcome log' =>
        rw [hrun] at h
        cases outcome with
        | ok ptr => rw [← Except.ok.inj h]
        | error e => cases h
  · cases h

theorem allocateDeviceBuffer_keeps {T : Type} (cells : Nat → Nat → T) (len : Nat) :
    Keeps device start others (Owns device start others locals ws)
      (allocateDeviceBuffer device cells len)
      fun b => Owns device start others (b.wrapper :: locals) ws := by
  intro s hs
  have hmade := hold_keeps (.allocate len) (fun _ => rfl) s hs
  have hkind : ∀ w, ((hold device (Wrapper.ofDevice device.answers len)).run s).1 = .ok w →
      w.kind = .device := by
    intro w hw
    unfold hold driver at hw
    rw [Attempt.bind_run] at hw
    dsimp only at hw
    have hok : ((Wrapper.ofDevice device.answers len).run s.log).1 = .ok w := by
      cases hrun : (Wrapper.ofDevice device.answers len).run s.log with
      | mk outcome log =>
        rw [hrun] at hw
        cases outcome with
        | ok made => exact congrArg Except.ok (Except.ok.inj hw)
        | error e => cases hw
    exact ofDevice_kind hok
  unfold allocateDeviceBuffer
  rw [Attempt.bind_run]
  cases hrun : (hold device (Wrapper.ofDevice device.answers len)).run s with
  | mk outcome s' =>
    rw [hrun] at hmade hkind
    cases outcome with
    | ok w =>
      have hsame : (⟨.device, w.handle⟩ : Wrapper) = w := by rw [← hkind w rfl]
      show Owns device start others (⟨.device, w.handle⟩ :: locals) ws s'
      rw [hsame]
      exact hmade
    | error e => exact hmade

section
variable {T : Type} {b : CudaDeviceBuffer T}

/-- A transfer between the host and an owned buffer. -/
theorem transfer_keeps {β : Type} {y : β} (entry : BorrowEntry) (failed : Int → DriverError)
    (hb : b.wrapper ∈ others ++ (locals ++ ws)) {k : Nat → Execution F β}
    (hk : ∀ ptr, k ptr = do
      driver device (borrowHandles device.answers entry failed [ptr])
      return y) :
    Keeps device start others (Owns device start others locals ws) (b.copyPtr >>= k)
      fun a s => a = y ∧ Owns device start others locals ws s := by
  unfold CudaDeviceBuffer.copyPtr
  split
  · next ptr hptr =>
    have hlend : Keeps device start others (Owns device start others locals ws)
        (driver device (borrowHandles device.answers entry failed [ptr]))
        fun _ => Owns device start others locals ws := by
      apply lend_keeps entry fun _ => rfl
      intro handle hmem
      rw [List.mem_singleton.mp hmem]
      exact ⟨_, hb, hptr⟩
    show Keeps device start others _ (k ptr) _
    rw [hk]
    apply then_keeps hlend
    intro _
    exact pure_keeps fun s hs => ⟨rfl, hs⟩
  · exact Attempt.Triple.fail fun _ hs => hs.tidy

theorem copyFrom_keeps (hb : b.wrapper ∈ others ++ (locals ++ ws)) (source : List T) :
    Keeps device start others (Owns device start others locals ws) (b.copyFrom device source)
      fun b' s => b'.wrapper = b.wrapper ∧ Owns device start others locals ws s := by
  apply then_keeps (ofExcept_keeps _ _)
  intro _
  apply Attempt.Triple.ite
  · intro _
    exact pure_keeps fun s hs => ⟨rfl, hs⟩
  · intro _
    apply Attempt.Triple.weaken (transfer_keeps .memcpyHtoD .hostToDeviceCopyFailed hb fun _ => rfl)
      (fun _ hs => hs) ?_ fun _ _ hs => hs
    intro b' s ⟨heq, hs⟩
    rw [heq]
    exact ⟨rfl, hs⟩

theorem copyTo_keeps (hb : b.wrapper ∈ others ++ (locals ++ ws)) (destination : List T) :
    Keeps device start others (Owns device start others locals ws) (b.copyTo device destination)
      fun _ => Owns device start others locals ws := by
  apply then_keeps (ofExcept_keeps _ _)
  intro _
  apply Attempt.Triple.ite
  · intro _
    exact pure_keeps fun s hs => hs
  · intro _
    exact Attempt.Triple.weaken
      (transfer_keeps .memcpyDtoH .deviceToHostCopyFailed hb fun _ => rfl)
      (fun _ hs => hs) (fun _ _ hs => hs.2) fun _ _ hs => hs

end

/-! Streams and events. -/

theorem getModuleFunction_run {answers : Nat → DriverAnswer} (loaded : Nat) (log : List DriverCall) :
    ((getModuleFunction answers loaded).run log).2 =
      ((borrowHandles answers .moduleGetFunction .functionLookupFailed [loaded]).run log).2 := by
  rw [borrowHandles_run]
  unfold getModuleFunction
  rw [context_then]
  by_cases hctx : (answers log.length).result = 0
  · by_cases hresult : (answers (log.length + 1)).result = 0
    · by_cases hrefused : (answers (log.length + 1)).refused = true
      · simp [ask, hctx, hresult, hrefused]
      · simp [ask, hctx, hresult, hrefused]
    · simp [ask, hctx, hresult]
  · simp [hctx]

theorem record_keeps {event stream : Wrapper} (hevent : event ∈ locals) (hstream : stream ∈ locals) :
    Keeps device start others (Owns device start others locals ws) (record device event stream)
      fun _ => Owns device start others locals ws := by
  unfold record
  split
  · next e s he hs =>
    apply lend_keeps .eventRecord fun _ => rfl
    intro handle hmem
    rcases List.mem_cons.mp hmem with rfl | hmem
    · exact ⟨event, List.mem_append_right _ (List.mem_append_left _ hevent), he⟩
    · rw [List.mem_singleton.mp hmem]
      exact ⟨stream, List.mem_append_right _ (List.mem_append_left _ hstream), hs⟩
  · exact Attempt.Triple.fail fun _ hs => hs.tidy

theorem synchronize_keeps {event : Wrapper} (hevent : event ∈ locals) :
    Keeps device start others (Owns device start others locals ws) (synchronize device event)
      fun _ => Owns device start others locals ws := by
  unfold synchronize
  split
  · next e he =>
    apply lend_keeps .eventSynchronize fun _ => rfl
    intro handle hmem
    rw [List.mem_singleton.mp hmem]
    exact ⟨event, List.mem_append_right _ (List.mem_append_left _ hevent), he⟩
  · exact pure_keeps fun _ hs => hs

theorem elapsedSince_keeps {stop begin : Wrapper} (hstop : stop ∈ locals) (hbegin : begin ∈ locals) :
    Keeps device start others (Owns device start others locals ws) (elapsedSince device stop begin)
      fun _ => Owns device start others locals ws := by
  unfold elapsedSince
  split
  · next b e hb he =>
    apply then_keeps look_keeps
    intro call
    apply then_keeps
    · apply lend_keeps .eventElapsedTime fun _ => rfl
      intro handle hmem
      rcases List.mem_cons.mp hmem with rfl | hmem
      · exact ⟨begin, List.mem_append_right _ (List.mem_append_left _ hbegin), hb⟩
      · rw [List.mem_singleton.mp hmem]
        exact ⟨stop, List.mem_append_right _ (List.mem_append_left _ hstop), he⟩
    · intro _
      apply Attempt.Triple.ite
      · intro _
        exact Attempt.Triple.fail fun _ hs => hs.tidy
      · intro _
        exact pure_keeps fun _ hs => hs
  · exact Attempt.Triple.fail fun _ hs => hs.tidy

theorem launchAgents_keeps [F32 F] {stream : Wrapper} (hstream : stream ∈ locals)
    (args : RouteAgentsKernelArgs F) :
    Keeps device start others (Owns device start others locals ws) (launchAgents device stream args)
      fun _ => Owns device start others locals ws := by
  unfold launchAgents
  split
  · next s hs =>
    apply then_keeps look_keeps
    intro call
    apply then_keeps
    · apply lend_keeps .launchKernel fun _ => rfl
      intro handle hmem
      rw [List.mem_singleton.mp hmem]
      exact ⟨stream, List.mem_append_right _ (List.mem_append_left _ hstream), hs⟩
    · intro _
      exact ofOption_keeps _
  · exact Attempt.Triple.fail fun _ hs => hs.tidy

/-! The workspace. -/

theorem new_keeps (plan : CudaBufferPlan) :
    Attempt.Triple (Owns device start others [] ws) (CudaRouteK1Workspace.new device plan)
      (fun w s => s.locals = [] ∧ workspaceWrappers s.workspace = ws ∧
        Reaches device.answers start s.log (others ++ (w.wrappers ++ ws)))
      fun _ => Clean device start others := by
  refine scope_keeps ?_ fun _ _ hs => hs.1
  apply Attempt.Triple.bind (allocateDeviceBuffer_keeps _ _)
  intro agentVectors
  apply Attempt.Triple.bind (allocateDeviceBuffer_keeps _ _)
  intro agentIds
  apply Attempt.Triple.bind (allocateDeviceBuffer_keeps _ _)
  intro requestVectors
  apply Attempt.Triple.bind (allocateDeviceBuffer_keeps _ _)
  intro agentScoreWeights
  apply Attempt.Triple.bind (allocateDeviceBuffer_keeps _ _)
  intro availability
  apply Attempt.Triple.bind (allocateDeviceBuffer_keeps _ _)
  intro outputAgentIds
  apply Attempt.Triple.bind (allocateDeviceBuffer_keeps _ _)
  intro outputEffectiveDistances
  apply Attempt.Triple.bind (allocateDeviceBuffer_keeps _ _)
  intro outputBaseDistances
  apply Attempt.Triple.bind (allocateDeviceBuffer_keeps _ _)
  intro outputFlags
  apply Attempt.Triple.act
  intro s hs
  refine ⟨rfl, hs.cell, hs.reaches.perm ?_⟩
  exact ((List.reverse_perm _).symm.append_right ws).append_left others

theorem replaceWorkspace_keeps (plan : CudaBufferPlan) :
    Attempt.Triple (Owns device start others [] ws) (replaceWorkspace device plan)
      (fun w => Owns device start others [] w.wrappers) fun _ => Clean device start others := by
  apply Attempt.Triple.bind (new_keeps plan)
  intro w
  apply Attempt.Triple.act
  intro s ⟨hheld, hcell, hreaches⟩
  refine ⟨hheld, rfl, ?_⟩
  show Reaches device.answers start (dropAll device (workspaceWrappers s.workspace) s.log) _
  rw [hcell]
  apply Reaches.dropAll device
  apply hreaches.perm
  rw [← List.append_assoc]
  exact List.perm_append_comm

theorem workspaceFor_keeps (plan : CudaBufferPlan) :
    Attempt.Triple (Clean device start others) (workspaceFor device plan)
      (fun w => Owns device start others [] w.wrappers) fun _ => Clean device start others := by
  intro s hs
  have hreplace := replaceWorkspace_keeps plan s hs.owns
  unfold workspaceFor
  rw [Attempt.bind_run]
  simp only [Attempt.act_run, Attempt.andThen_ok]
  cases hcell : s.workspace with
  | none => exact hreplace
  | some w =>
    dsimp only
    rw [Attempt.ite_run]
    split
    · exact hreplace
    · have howns := hs.owns
      rw [hcell] at howns
      exact howns

theorem keep_keeps {w : CudaRouteK1Workspace F} (hw : w.wrappers = ws) :
    Keeps device start others (Owns device start others locals ws) (keep w)
      fun w' s => w' = w ∧ Owns device start others locals ws s :=
  Attempt.Triple.act fun _ hs => ⟨rfl, hs.held, hw, hs.reaches⟩

end

/-! A call. -/

section
variable {F : Type} [F32 F] {device : Device F} {start : Program}
  {others locals ws : List Wrapper} (executor : CudaRouteK1Executor F) (batch : RouteBatch F)

omit [F32 F] in
/-- A copy into one of the workspace's buffers, which is put back. -/
theorem refill_keeps {T β : Type} {b : CudaDeviceBuffer T} (hb : b.wrapper ∈ ws) (source : List T)
    {put : CudaDeviceBuffer T → CudaRouteK1Workspace F}
    (hput : ∀ b', b'.wrapper = b.wrapper → (put b').wrappers = ws)
    {k : CudaRouteK1Workspace F → Execution F β} {Q : β → ExecutorState F → Prop}
    (hk : ∀ w, w.wrappers = ws → Keeps device start others (Owns device start others locals ws) (k w) Q) :
    Keeps device start others (Owns device start others locals ws)
      (b.copyFrom device source >>= fun b' => keep (put b') >>= k) Q := by
  apply Attempt.Triple.bind
    (copyFrom_keeps (List.mem_append_right _ (List.mem_append_right _ hb)) source)
  intro b'
  apply Attempt.Triple.given
  intro hb'
  apply Attempt.Triple.bind (keep_keeps (hput b' hb'))
  intro w
  apply Attempt.Triple.given
  intro hw
  rw [hw]
  exact hk _ (hput b' hb')

omit [F32 F] in
theorem copyInputs_keeps {w : CudaRouteK1Workspace F} (hw : w.wrappers = ws)
    (inputs : CudaRouteHostInputs F) :
    Keeps device start others (Owns device start others locals ws)
      (CudaRouteK1Executor.copyInputs device batch w inputs)
      fun w' s => w'.wrappers = ws ∧ Owns device start others locals ws s := by
  unfold CudaRouteK1Executor.copyInputs
  refine refill_keeps (by simp [← hw, CudaRouteK1Workspace.wrappers]) _ ?_ ?_
  · intro b hb
    simp [← hw, CudaRouteK1Workspace.wrappers, hb]
  intro w₁ h₁
  refine refill_keeps (by simp [← h₁, CudaRouteK1Workspace.wrappers]) _ ?_ ?_
  · intro b hb
    simp [← h₁, CudaRouteK1Workspace.wrappers, hb]
  intro w₂ h₂
  refine refill_keeps (by simp [← h₂, CudaRouteK1Workspace.wrappers]) _ ?_ ?_
  · intro b hb
    simp [← h₂, CudaRouteK1Workspace.wrappers, hb]
  intro w₃ h₃
  refine refill_keeps (by simp [← h₃, CudaRouteK1Workspace.wrappers]) _ ?_ ?_
  · intro b hb
    simp [← h₃, CudaRouteK1Workspace.wrappers, hb]
  intro w₄ h₄
  refine Attempt.Triple.bind (copyFrom_keeps (b := w₄.availability)
    (by simp [← h₄, CudaRouteK1Workspace.wrappers]) _) ?_
  intro b
  apply Attempt.Triple.given
  intro hb
  have hput : ({ w₄ with availability := b } : CudaRouteK1Workspace F).wrappers = ws := by
    simp [← h₄, CudaRouteK1Workspace.wrappers, hb]
  refine Attempt.Triple.weaken (keep_keeps hput) (fun _ hs => hs) ?_ fun _ _ hs => hs
  intro w' s ⟨heq, hs⟩
  rw [heq]
  exact ⟨hput, hs⟩

theorem runKernel_keeps {w : CudaRouteK1Workspace F} (hw : w.wrappers = ws)
    (hmodule : ⟨.loadedModule, some executor.loadedModule⟩ ∈ others) :
    Keeps device start others (Owns device start others [] ws) (executor.runKernel device w)
      fun w' s => w'.wrappers = ws ∧ Owns device start others [] ws s := by
  unfold CudaRouteK1Executor.runKernel
  refine Attempt.Triple.bind (hold_keeps .createStream fun _ => rfl) ?_
  intro stream
  refine Attempt.Triple.bind (hold_keeps .createEvent fun _ => rfl) ?_
  intro kernelStartEvent
  refine Attempt.Triple.bind (hold_keeps .createEvent fun _ => rfl) ?_
  intro kernelStopEvent
  have hstream : stream ∈ [kernelStopEvent, kernelStartEvent, stream] := by simp
  have hstart : kernelStartEvent ∈ [kernelStopEvent, kernelStartEvent, stream] := by simp
  have hstop : kernelStopEvent ∈ [kernelStopEvent, kernelStartEvent, stream] := by simp
  refine then_keeps (lend_keeps .moduleGetFunction (getModuleFunction_run executor.loadedModule) ?_) ?_
  · intro handle hmem
    rw [List.mem_singleton.mp hmem]
    exact ⟨_, List.mem_append_left _ hmodule, rfl⟩
  intro _
  refine then_keeps (ofExcept_keeps _ _) ?_
  intro args
  refine then_keeps (record_keeps hstart hstream) ?_
  intro _
  refine then_keeps (launchAgents_keeps hstream args) ?_
  intro output
  have houtput : (w.withOutput output).wrappers = ws := hw
  refine Attempt.Triple.bind (keep_keeps houtput) ?_
  intro w'
  apply Attempt.Triple.given
  intro hw'
  refine then_keeps (record_keeps hstop hstream) ?_
  intro _
  refine then_keeps (synchronize_keeps hstop) ?_
  intro _
  refine then_keeps (elapsedSince_keeps hstop hstart) ?_
  intro _
  -- the wrappers go in the order they were last made
  refine Attempt.Triple.bind (destroy_keeps kernelStopEvent) ?_
  intro _
  refine Attempt.Triple.bind (destroy_keeps kernelStartEvent) ?_
  intro _
  refine Attempt.Triple.bind (destroy_keeps stream) ?_
  intro _
  refine pure_keeps fun s hs => ⟨?_, hs⟩
  rw [hw']
  exact houtput

omit [F32 F] in
theorem copyTo_field {T : Type} {b : CudaDeviceBuffer T} (hb : b.wrapper ∈ ws) (destination : List T) :
    Keeps device start others (Owns device start others locals ws) (b.copyTo device destination)
      fun _ => Owns device start others locals ws :=
  copyTo_keeps (List.mem_append_right _ (List.mem_append_right _ hb)) destination

theorem copyOutputs_keeps {w : CudaRouteK1Workspace F} (hw : w.wrappers = ws) :
    Keeps device start others (Owns device start others locals ws)
      (CudaRouteK1Executor.copyOutputs device w)
      fun _ => Owns device start others locals ws := by
  unfold CudaRouteK1Executor.copyOutputs
  refine then_keeps (copyTo_field (by simp [← hw, CudaRouteK1Workspace.wrappers]) _) ?_
  intro _
  refine then_keeps (copyTo_field (by simp [← hw, CudaRouteK1Workspace.wrappers]) _) ?_
  intro _
  refine then_keeps (copyTo_field (by simp [← hw, CudaRouteK1Workspace.wrappers]) _) ?_
  intro _
  refine then_keeps (copyTo_field (by simp [← hw, CudaRouteK1Workspace.wrappers]) _) ?_
  intro _
  exact pure_keeps fun _ hs => hs

theorem executePrepared_keeps (hmodule : ⟨.loadedModule, some executor.loadedModule⟩ ∈ others)
    (w : CudaRouteK1Workspace F) (inputs : CudaRouteHostInputs F) :
    Attempt.Triple (Owns device start others [] w.wrappers)
      (executor.executeRouteAgentsK1TimedWithPreparedWorkspace device batch w inputs)
      (fun _ => Owns device start others [] w.wrappers) fun _ => Clean device start others := by
  refine scope_keeps ?_ fun _ _ hs => hs.held
  refine Attempt.Triple.bind (copyInputs_keeps batch rfl _) ?_
  intro w₁
  apply Attempt.Triple.given
  intro hw₁
  refine Attempt.Triple.bind (runKernel_keeps executor hw₁ hmodule) ?_
  intro w₂
  apply Attempt.Triple.given
  intro hw₂
  refine then_keeps (copyOutputs_keeps hw₂) ?_
  intro _
  exact ofOption_keeps _

omit [F32 F] in
theorem ofExcept_clean {ε α : Type} (f : ε → CudaRouteExecutionError) (x : Except ε α)
    {P : ExecutorState F → Prop} (hP : ∀ s, P s → Clean device start others s) :
    Attempt.Triple P (Execution.ofExcept f x) (fun _ => P) fun _ => Clean device start others := by
  cases x with
  | ok a => exact Attempt.Triple.pure fun _ hs => hs
  | error e => exact Attempt.Triple.fail hP

theorem routeBatchWithTiming_keeps
    (hmodule : ⟨.loadedModule, some executor.loadedModule⟩ ∈ others) :
    Attempt.Triple (Clean device start others) (executor.routeBatchWithTiming device batch)
      (fun _ => Clean device start others) fun _ => Clean device start others := by
  unfold CudaRouteK1Executor.routeBatchWithTiming
  apply Attempt.Triple.ite
  · intro _
    exact Attempt.Triple.pure fun _ hs => hs
  intro _
  apply Attempt.Triple.mapError
  refine Attempt.Triple.bind (ofExcept_clean _ _ fun _ hs => hs) ?_
  intro _
  refine Attempt.Triple.bind (ofExcept_clean _ _ fun _ hs => hs) ?_
  intro plan
  refine Attempt.Triple.bind (workspaceFor_keeps plan) ?_
  intro w
  refine Attempt.Triple.bind (ofExcept_clean _ _ fun _ hs => hs.clean) ?_
  intro _
  refine Attempt.Triple.bind (ofExcept_clean _ _ fun _ hs => hs.clean) ?_
  intro plan'
  apply Attempt.Triple.ite
  · intro _
    exact Attempt.Triple.fail fun _ hs => hs.clean
  intro _
  exact Attempt.Triple.weaken (executePrepared_keeps executor batch hmodule w _) (fun _ hs => hs)
    (fun _ _ hs => hs.clean) fun _ _ hs => hs

theorem clean_run (hmodule : ⟨.loadedModule, some executor.loadedModule⟩ ∈ others)
    {s : ExecutorState F} (h : Clean device start others s) (batches : List (RouteBatch F)) :
    Clean device start others (batches.foldl (executor.next device) s) := by
  induction batches generalizing s with
  | nil => exact h
  | cons batch batches ih =>
    apply ih
    have houtcome := routeBatchWithTiming_keeps executor batch hmodule s h
    unfold CudaRouteK1Executor.next
    cases hrun : (executor.routeBatchWithTiming device batch).run s with
    | mk outcome s' =>
      rw [hrun] at houtcome
      cases outcome with
      | ok results => exact houtcome
      | error failure => exact houtcome

end

/-! The executor's end. -/

section
variable {F : Type}

/-- The fields are dropped in their order: the module, then the workspace. -/
def CudaRouteK1Executor.drop (device : Device F) (executor : CudaRouteK1Executor F)
    (s : ExecutorState F) : List DriverCall :=
  dropAll device (⟨.loadedModule, some executor.loadedModule⟩ :: workspaceWrappers s.workspace) s.log

theorem ofPtx_kind {answers : Nat → DriverAnswer} {ptx : String} {log : List DriverCall} {w : Wrapper}
    (h : ((Wrapper.ofPtx answers ptx).run log).1 = .ok w) : w.kind = .loadedModule := by
  unfold Wrapper.ofPtx at h
  split at h
  · cases h
  · rw [Attempt.bind_run] at h
    cases hrun : (loadModuleFromImage answers).run log with
    | mk outcome log' =>
      rw [hrun] at h
      cases outcome with
      | ok handle => rw [← Except.ok.inj h]
      | error e => cases h

theorem new_clean {device : Device F} {ptx : String} {coefficients : ScoreCoefficients F}
    {start : Program} {executor : CudaRouteK1Executor F} {s : ExecutorState F}
    (h : CudaRouteK1Executor.new device ptx coefficients start.log = (.ok executor, s)) :
    Clean device start (⟨.loadedModule, some executor.loadedModule⟩ :: start.live) s := by
  have hmade := (Reaches.refl device.answers start).make (.loadModule ptx) fun _ => rfl
  unfold CudaRouteK1Executor.new at h
  dsimp only at h
  split at h
  · next w hok =>
    rw [hok] at hmade
    split at h
    · next handle hhandle =>
      obtain ⟨hexecutor, hs⟩ := Prod.mk.inj h
      rw [← Except.ok.inj hexecutor, ← hs]
      have hw : w = ⟨.loadedModule, some handle⟩ := by rw [← ofPtx_kind hok, ← hhandle]
      rw [hw] at hmade
      refine ⟨rfl, hmade.perm ?_⟩
      show List.Perm _ (_ ++ [])
      rw [List.append_nil]
    · cases (Prod.mk.inj h).1
  · cases (Prod.mk.inj h).1

variable [F32 F]

/-- An executor that was made, given any batches and dropped, whatever the driver answered
and whatever the program did before, has made the calls of a program that owns in the end
what it owned before. A handle created meanwhile was released, or the driver refused to
make the context current after that; a driver that accepts everything is asked to release
it exactly once. -/
theorem executor_leaves_nothing {device : Device F} {ptx : String}
    {coefficients : ScoreCoefficients F} {before : List Use} {executor : CudaRouteK1Executor F}
    {s : ExecutorState F}
    (h : CudaRouteK1Executor.new device ptx coefficients
      (Program.run device.answers before).log = (.ok executor, s)) (batches : List (RouteBatch F)) :
    let log := executor.drop device (batches.foldl (executor.next device) s)
    (∃ meanwhile, (Program.run device.answers (before ++ meanwhile)).log = log ∧
      (Program.run device.answers (before ++ meanwhile)).live.Perm
        (Program.run device.answers before).live) ∧
    ∀ handle kind, (Program.run device.answers before).log.length ≤ handle →
      Created device.answers log handle kind →
      (0 < releaseCount handle log ∨ ContextRefused device.answers log handle) ∧
      (Accepting device.answers → releaseCount handle log = 1) := by
  intro log
  have hclean := clean_run executor List.mem_cons_self (new_clean h) batches
  have hdropped : Reaches device.answers (Program.run device.answers before) log
      (Program.run device.answers before).live := by
    apply Reaches.dropAll device
    apply hclean.owns.reaches.perm
    rw [List.nil_append, List.cons_append, List.cons_append]
    exact List.perm_append_comm.cons _
  exact hdropped.leaves_nothing

end

/-- The launch of the first batch is refused. -/
theorem executor_leaves_nothing_refused_launch :
    let device := refusingDevice (some 41)
    let log := unitExecutor.drop device
      ([mixedRouteBatch, mixedReversed].foldl (unitExecutor.next device) unitState)
    (∃ uses, (Program.run device.answers uses).log = log ∧
      (Program.run device.answers uses).live.Perm []) ∧
    ∀ handle kind, Created device.answers log handle kind →
      0 < releaseCount handle log ∨ ContextRefused device.answers log handle := by
  have hnew : CudaRouteK1Executor.new (refusingDevice (some 41)) "kernel" ⟨1, 1, 1⟩
      (Program.run (refusingDevice (some 41)).answers []).log = (.ok unitExecutor, unitState) := rfl
  obtain ⟨huses, hgone⟩ := executor_leaves_nothing hnew [mixedRouteBatch, mixedReversed]
  exact ⟨huses, fun handle kind hcreated => (hgone handle kind (Nat.zero_le _) hcreated).1⟩

end QTom.Cuda
