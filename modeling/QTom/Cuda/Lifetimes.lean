import QTom.Cuda.Handles
import QTom.Lib.IndexLoops

/- The life of a handle in a program over the wrappers.

   No order of uses and no answers of the driver make a program lend or release a handle
   that the driver did not create, or lend one it was already asked to release; and a
   handle that is no longer owned was given back, unless the driver refused to make the
   context current (`handle_lifetimes`). The context's refusals are the only leak: every
   release sets the context first and gives up when that fails. -/
namespace QTom.Cuda
open QTom.Lib

/-- The driver created the handle. A null stream, event or module is refused; a device
pointer is not checked. -/
structure Created (answers : Nat → DriverAnswer) (log : List DriverCall) (handle : Nat)
    (kind : HandleKind) : Prop where
  call : log[handle]? = some (.create kind)
  accepted : (answers handle).result = 0
  taken : kind ≠ .device → (answers handle).refused = false

/-- After the handle was created the driver refused to make the context current. -/
def ContextRefused (answers : Nat → DriverAnswer) (log : List DriverCall) (handle : Nat) : Prop :=
  ∃ n, handle < n ∧ log[n]? = some .ctxSetCurrent ∧ (answers n).result ≠ 0

/-- A log in which handles are used as they should be, and what is owned at its end. -/
structure Tracked (answers : Nat → DriverAnswer) (live : List Wrapper) (log : List DriverCall) :
    Prop where
  owned : ∀ w ∈ live, ∀ handle, w.handle = some handle → Created answers log handle w.kind
  accounted : ∀ handle kind, Created answers log handle kind →
    ⟨kind, some handle⟩ ∈ live ∨ 0 < releaseCount handle log ∨ ContextRefused answers log handle
  borrowed : ∀ (n : Nat) entry handles, log[n]? = some (.borrow entry handles) →
    ∀ handle ∈ handles, handle < n ∧ (∃ kind, Created answers log handle kind) ∧
      releaseCount handle (log.take n) = 0
  released : ∀ (n : Nat) kind handle, log[n]? = some (.release kind handle) →
    handle < n ∧ Created answers log handle kind

section
variable {answers : Nat → DriverAnswer} {log calls : List DriverCall} {handle : Nat}
  {kind : HandleKind}

theorem Created.lt (h : Created answers log handle kind) : handle < log.length :=
  (List.getElem?_eq_some_iff.mp h.call).1

theorem Created.append (h : Created answers log handle kind) (calls : List DriverCall) :
    Created answers (log ++ calls) handle kind := by
  refine ⟨?_, h.accepted, h.taken⟩
  rw [List.getElem?_append_left h.lt]
  exact h.call

theorem Created.of_append (h : Created answers (log ++ calls) handle kind)
    (hlt : handle < log.length) : Created answers log handle kind := by
  refine ⟨?_, h.accepted, h.taken⟩
  rw [← List.getElem?_append_left hlt]
  exact h.call

theorem ContextRefused.append (h : ContextRefused answers log handle) (calls : List DriverCall) :
    ContextRefused answers (log ++ calls) handle := by
  obtain ⟨n, hlt, hcall, hresult⟩ := h
  refine ⟨n, hlt, ?_, hresult⟩
  rw [List.getElem?_append_left (List.getElem?_eq_some_iff.mp hcall).1]
  exact hcall

/-- A refused context at the end of the log. -/
theorem contextRefused_of_last (hlt : handle < log.length) (hresult : (answers log.length).result ≠ 0)
    (calls : List DriverCall) :
    ContextRefused answers (log ++ .ctxSetCurrent :: calls) handle := by
  refine ⟨log.length, hlt, ?_, hresult⟩
  rw [List.getElem?_append_right (Nat.le_refl _), Nat.sub_self]
  rfl

theorem releaseCount_take_append {n : Nat} (hle : log.length ≤ n) :
    releaseCount handle ((log ++ calls).take n) =
      releaseCount handle log + releaseCount handle (calls.take (n - log.length)) := by
  rw [List.take_append, List.take_of_length_le hle, releaseCount_append]

/-- More calls, on owned handles only. -/
theorem Tracked.extend {s : Program} (h : s.Inv) (ht : Tracked answers s.live s.log)
    {live : List Wrapper}
    (hborrow : ∀ (i : Nat) entry handles, calls[i]? = some (.borrow entry handles) →
      ∀ handle ∈ handles, (∃ w ∈ s.live, w.handle = some handle) ∧
        releaseCount handle (calls.take i) = 0)
    (hrelease : ∀ kind handle, .release kind handle ∈ calls → ⟨kind, some handle⟩ ∈ s.live)
    (hlive : ∀ w ∈ live, w ∈ s.live ∨
      ∀ handle, w.handle = some handle → Created answers (s.log ++ calls) handle w.kind)
    (hnew : ∀ handle kind, s.log.length ≤ handle → Created answers (s.log ++ calls) handle kind →
      ⟨kind, some handle⟩ ∈ live)
    (hgone : ∀ w ∈ s.live, ∀ handle, w.handle = some handle →
      w ∈ live ∨ 0 < releaseCount handle calls ∨ ContextRefused answers (s.log ++ calls) handle) :
    Tracked answers live (s.log ++ calls) := by
  have hsplit : ∀ (n : Nat) call, (s.log ++ calls)[n]? = some call →
      s.log[n]? = some call ∨ (s.log.length ≤ n ∧ calls[n - s.log.length]? = some call) := by
    intro n call hcall
    by_cases hlt : n < s.log.length
    · rw [List.getElem?_append_left hlt] at hcall
      exact Or.inl hcall
    · have hle := Nat.le_of_not_lt hlt
      rw [List.getElem?_append_right hle] at hcall
      exact Or.inr ⟨hle, hcall⟩
  refine ⟨?_, ?_, ?_, ?_⟩
  · intro w hw handle hhandle
    rcases hlive w hw with hold | hmade
    · exact (ht.owned w hold handle hhandle).append calls
    · exact hmade handle hhandle
  · intro handle kind hcreated
    by_cases hlt : handle < s.log.length
    · rcases ht.accounted handle kind (hcreated.of_append hlt) with hmem | hreleased | hrefused
      · rcases hgone _ hmem handle rfl with hstill | hgiven | hrefused
        · exact Or.inl hstill
        · refine Or.inr (Or.inl ?_)
          rw [releaseCount_append]
          omega
        · exact Or.inr (Or.inr hrefused)
      · refine Or.inr (Or.inl ?_)
        rw [releaseCount_append]
        omega
      · exact Or.inr (Or.inr (hrefused.append calls))
    · exact Or.inl (hnew handle kind (Nat.le_of_not_lt hlt) hcreated)
  · intro n entry handles hcall handle hmem
    rcases hsplit n _ hcall with hold | ⟨hle, hnow⟩
    · obtain ⟨hlt, ⟨kind, hcreated⟩, hzero⟩ := ht.borrowed n entry handles hold handle hmem
      have hn := (List.getElem?_eq_some_iff.mp hold).1
      refine ⟨hlt, ⟨kind, hcreated.append calls⟩, ?_⟩
      rw [List.take_append_of_le_length (Nat.le_of_lt hn)]
      exact hzero
    · -- an owned handle was not released so far
      obtain ⟨⟨w, hw, hhandle⟩, hzero⟩ := hborrow _ entry handles hnow handle hmem
      have hcreated := ht.owned w hw handle hhandle
      refine ⟨Nat.lt_of_lt_of_le hcreated.lt hle, ⟨w.kind, hcreated.append calls⟩, ?_⟩
      rw [releaseCount_take_append hle, hzero, (h.owned w hw handle hhandle).2]
  · intro n kind handle hcall
    rcases hsplit n _ hcall with hold | ⟨hle, hnow⟩
    · obtain ⟨hlt, hcreated⟩ := ht.released n kind handle hold
      exact ⟨hlt, hcreated.append calls⟩
    · have hcreated := ht.owned _ (hrelease kind handle (List.mem_of_getElem? hnow)) handle rfl
      exact ⟨Nat.lt_of_lt_of_le hcreated.lt hle, hcreated.append calls⟩

end

/-! The wrappers' calls. -/

section
variable {answers : Nat → DriverAnswer}

/-- Making a handle: the context is set, the driver asked, and the answer looked at. -/
def Makes (answers : Nat → DriverAnswer) (x : Driver Nat) (kind : HandleKind) : Prop :=
  ∀ log, ∃ outcome,
    x.run log = (outcome, if (answers log.length).result = 0 then log ++ [.ctxSetCurrent, .create kind]
      else log ++ [.ctxSetCurrent]) ∧
    ∀ handle, outcome = .ok handle ↔ (answers log.length).result = 0 ∧ handle = log.length + 1 ∧
      (answers handle).result = 0 ∧ (kind ≠ .device → (answers handle).refused = false)

theorem createHandle_makes {kind : HandleKind} (hkind : kind ≠ .device)
    (failed : Int → DriverError) : Makes answers (createHandle answers kind failed) kind := by
  intro log
  unfold createHandle
  rw [context_then]
  by_cases hctx : (answers log.length).result = 0
  · by_cases hresult : (answers (log.length + 1)).result = 0
    · cases hrefused : (answers (log.length + 1)).refused with
      | true =>
        refine ⟨.error (failed (-1)), by simp [askHandle, hctx, hresult, hrefused], ?_⟩
        intro handle
        refine ⟨?_, ?_⟩
        · intro heq
          cases heq
        · intro hall
          have hnot := hall.2.2.2 hkind
          rw [hall.2.1, hrefused] at hnot
          cases hnot
      | false =>
        refine ⟨.ok (log.length + 1), by simp [askHandle, hctx, hresult, hrefused], ?_⟩
        intro handle
        refine ⟨?_, ?_⟩
        · intro heq
          obtain rfl := Except.ok.inj heq
          exact ⟨hctx, rfl, hresult, fun _ => hrefused⟩
        · intro hall
          rw [hall.2.1]
    · refine ⟨.error (failed (answers (log.length + 1)).result),
        by simp [askHandle, hctx, hresult], ?_⟩
      intro handle
      refine ⟨?_, ?_⟩
      · intro heq
        cases heq
      · intro hall
        have hzero := hall.2.2.1
        rw [hall.2.1] at hzero
        exact absurd hzero hresult
  · refine ⟨.error (.contextSetCurrentFailed (answers log.length).result), by simp [hctx], ?_⟩
    intro handle
    refine ⟨?_, ?_⟩
    · intro heq
      cases heq
    · intro hall
      exact absurd hall.1 hctx

theorem allocDevice_makes : Makes answers (allocDevice answers) .device := by
  intro log
  unfold allocDevice
  rw [context_then]
  by_cases hctx : (answers log.length).result = 0
  · by_cases hresult : (answers (log.length + 1)).result = 0
    · refine ⟨.ok (log.length + 1), by simp [askHandle, hctx, hresult], ?_⟩
      intro handle
      refine ⟨?_, ?_⟩
      · intro heq
        obtain rfl := Except.ok.inj heq
        exact ⟨hctx, rfl, hresult, fun hdevice => absurd rfl hdevice⟩
      · intro hall
        rw [hall.2.1]
    · refine ⟨.error (.deviceAllocFailed (answers (log.length + 1)).result),
        by simp [askHandle, hctx, hresult], ?_⟩
      intro handle
      refine ⟨?_, ?_⟩
      · intro heq
        cases heq
      · intro hall
        have hzero := hall.2.2.1
        rw [hall.2.1] at hzero
        exact absurd hzero hresult
  · refine ⟨.error (.contextSetCurrentFailed (answers log.length).result), by simp [hctx], ?_⟩
    intro handle
    refine ⟨?_, ?_⟩
    · intro heq
      cases heq
    · intro hall
      exact absurd hall.1 hctx

theorem borrowHandles_run (entry : BorrowEntry) (failed : Int → DriverError) (handles : List Nat)
    (log : List DriverCall) : ((borrowHandles answers entry failed handles).run log).2 =
      log ++ if (answers log.length).result = 0 then [.ctxSetCurrent, .borrow entry handles]
        else [.ctxSetCurrent] := by
  unfold borrowHandles
  rw [context_then]
  by_cases hctx : (answers log.length).result = 0
  · by_cases hresult : (answers (log.length + 1)).result = 0
    · simp [ask, hctx, hresult]
    · simp [ask, hctx, hresult]
  · simp [hctx]

/-- Giving a handle back, in an explicit release or a drop: only contexts are set and the
handle is released, unless a context was refused. -/
structure GivesBack (answers : Nat → DriverAnswer) (w : Wrapper) (log calls : List DriverCall) :
    Prop where
  only : ∀ call ∈ calls, call = .ctxSetCurrent ∨ ∃ handle, w.handle = some handle ∧
    call = .release w.kind handle
  given : ∀ handle, w.handle = some handle → handle < log.length →
    0 < releaseCount handle calls ∨ ContextRefused answers (log ++ calls) handle

theorem drop_givesBack (answers : Nat → DriverAnswer) (w : Wrapper) (log : List DriverCall) :
    ∃ calls, w.drop answers log = log ++ calls ∧ GivesBack answers w log calls := by
  cases hw : w.handle with
  | none =>
    refine ⟨[], by simp [Wrapper.drop, hw], fun _ hcall => (nomatch hcall), ?_⟩
    intro handle hhandle
    rw [hw] at hhandle
    cases hhandle
  | some owned =>
    rw [drop_run answers hw]
    by_cases hctx : (answers log.length).result = 0
    · rw [if_pos hctx]
      refine ⟨_, rfl, ?_, ?_⟩
      · intro call hcall
        rcases List.mem_cons.mp hcall with rfl | hcall
        · exact Or.inl rfl
        · exact Or.inr ⟨owned, hw, List.mem_singleton.mp hcall⟩
      · intro handle hhandle _
        obtain rfl := Option.some.inj (hw.symm.trans hhandle)
        rw [releaseCount_release, if_pos rfl]
        exact Or.inl Nat.one_pos
    · rw [if_neg hctx]
      refine ⟨_, rfl, ?_, ?_⟩
      · intro call hcall
        exact Or.inl (List.mem_singleton.mp hcall)
      · intro handle _ hlt
        exact Or.inr (contextRefused_of_last hlt hctx [])

theorem release_givesBack (answers : Nat → DriverAnswer) (w : Wrapper) (log : List DriverCall) :
    ∃ calls, (w.release answers log).2 = log ++ calls ∧ GivesBack answers w log calls := by
  cases hw : w.handle with
  | none =>
    obtain ⟨calls, hlog, hgives⟩ := drop_givesBack answers w log
    refine ⟨calls, ?_, hgives⟩
    unfold Wrapper.release
    rw [hw]
    exact hlog
  | some owned =>
    obtain ⟨outcome, hrun, _⟩ := releaseOwned_run answers w.kind owned log
    have hrelease : (w.release answers log).2 = (w.afterRelease outcome).drop answers
        (w.drop answers log) := by
      rw [drop_run answers hw]
      unfold Wrapper.release
      simp only [hw, hrun]
    obtain ⟨calls, hlog, hgives⟩ := drop_givesBack answers w log
    rw [hrelease, hlog]
    cases outcome with
    | ok u =>
      refine ⟨calls, ?_, hgives⟩
      simp [Wrapper.afterRelease, Wrapper.drop]
    | error e =>
      -- the wrapper still has its handle, and the drop tries again
      obtain ⟨again, hagain, hgives'⟩ := drop_givesBack answers w (log ++ calls)
      refine ⟨calls ++ again, ?_, ?_, ?_⟩
      · rw [← List.append_assoc]
        exact hagain
      · intro call hcall
        rcases List.mem_append.mp hcall with hcall | hcall
        · exact hgives.only call hcall
        · exact hgives'.only call hcall
      · intro handle hhandle hlt
        rw [releaseCount_append, ← List.append_assoc]
        rcases hgives.given handle hhandle hlt with hcount | hrefused
        · exact Or.inl (by omega)
        · exact Or.inr (hrefused.append again)

end

/-! Programs. -/

namespace Program
variable {answers : Nat → DriverAnswer} {s : Program}

/-- Calls that neither lend nor release. -/
theorem tracked_still (h : s.Inv) (ht : Tracked answers s.live s.log) (kind : HandleKind)
    {live : List Wrapper} {calls : List DriverCall}
    (hcalls : ∀ call ∈ calls, call = .ctxSetCurrent ∨ call = .create kind)
    (hlive : ∀ w, w ∈ live ↔ w ∈ s.live ∨ ∃ handle, s.log.length ≤ handle ∧
      w = ⟨kind, some handle⟩ ∧ Created answers (s.log ++ calls) handle kind) :
    Tracked answers live (s.log ++ calls) := by
  refine ht.extend h ?_ ?_ ?_ ?_ ?_
  · intro i entry handles hcall
    rcases hcalls _ (List.mem_of_getElem? hcall) with heq | heq <;> cases heq
  · intro kind' handle hcall
    rcases hcalls _ hcall with heq | heq <;> cases heq
  · intro w hw
    rcases (hlive w).mp hw with hold | ⟨handle, _, rfl, hcreated⟩
    · exact Or.inl hold
    · refine Or.inr ?_
      intro handle' hhandle
      rw [← Option.some.inj hhandle]
      exact hcreated
  · intro handle kind' hle hcreated
    have hcall := hcreated.call
    rw [List.getElem?_append_right hle] at hcall
    have hkind : kind' = kind := by
      rcases hcalls _ (List.mem_of_getElem? hcall) with heq | heq <;> cases heq
      rfl
    rw [hkind] at hcreated ⊢
    exact (hlive _).mpr (Or.inr ⟨handle, hle, rfl, hcreated⟩)
  · intro w hw _ _
    exact Or.inl ((hlive w).mpr (Or.inl hw))

theorem tracked_made (h : s.Inv) (ht : Tracked answers s.live s.log) {x : Driver Nat}
    {kind : HandleKind} (hx : Makes answers x kind) :
    Tracked answers
      (s.adopt ((do let handle ← x; return (⟨kind, some handle⟩ : Wrapper)).run s.log)).live
      (s.adopt ((do let handle ← x; return (⟨kind, some handle⟩ : Wrapper)).run s.log)).log := by
  obtain ⟨outcome, hrun, hok⟩ := hx s.log
  have hwrapped : (do let handle ← x; return (⟨kind, some handle⟩ : Wrapper)).run s.log =
      (outcome.map fun handle => ⟨kind, some handle⟩, (x.run s.log).2) := by
    rw [Attempt.bind_run, hrun]
    cases outcome <;> rfl
  rw [hwrapped, hrun]
  dsimp only
  by_cases hctx : (answers s.log.length).result = 0
  · rw [if_pos hctx]
    have hcalls : ∀ call ∈ [DriverCall.ctxSetCurrent, .create kind],
        call = .ctxSetCurrent ∨ call = .create kind := by
      intro call hcall
      simpa using hcall
    have hcreated : ∀ handle, s.log.length ≤ handle →
        (Created answers (s.log ++ [.ctxSetCurrent, .create kind]) handle kind ↔
          outcome = .ok handle) := by
      intro handle hle
      rw [hok]
      refine ⟨?_, ?_⟩
      · intro hmade
        have hcall := hmade.call
        rw [List.getElem?_append_right hle] at hcall
        have hsecond : handle - s.log.length = 1 := by
          match hn : handle - s.log.length, hcall with
          | 0, hcall => cases hcall
          | 1, _ => rfl
          | n + 2, hcall => cases hcall
        exact ⟨hctx, by omega, hmade.accepted, hmade.taken⟩
      · intro ⟨_, heq, haccepted, htaken⟩
        refine ⟨?_, haccepted, htaken⟩
        rw [heq, List.getElem?_append_right (by omega), Nat.add_sub_cancel_left]
        rfl
    cases outcome with
    | error e =>
      refine tracked_still h ht kind hcalls fun w => (or_iff_left ?_).symm
      intro ⟨handle, hle, _, hmade⟩
      cases (hcreated handle hle).mp hmade
    | ok handle =>
      refine tracked_still h ht kind hcalls ?_
      intro w
      show w ∈ s.live ++ [⟨kind, some handle⟩] ↔ _
      rw [List.mem_append, List.mem_singleton]
      apply or_congr_right
      have hlt : s.log.length ≤ handle := by
        have := ((hok handle).mp rfl).2.1
        omega
      refine ⟨?_, ?_⟩
      · intro hw
        exact ⟨handle, hlt, hw, (hcreated handle hlt).mpr rfl⟩
      · intro ⟨handle', hle, hw, hmade⟩
        rw [hw, Except.ok.inj ((hcreated handle' hle).mp hmade)]
  · rw [if_neg hctx]
    cases outcome with
    | ok handle => exact absurd ((hok handle).mp rfl).1 hctx
    | error e =>
      refine tracked_still h ht kind (fun call hcall => Or.inl (List.mem_singleton.mp hcall))
        fun w => (or_iff_left ?_).symm
      intro ⟨handle, hle, _, hmade⟩
      have hcall := hmade.call
      rw [List.getElem?_append_right hle] at hcall
      cases List.mem_singleton.mp (List.mem_of_getElem? hcall)

/-- A wrapper that owns nothing, or none. -/
theorem tracked_unmade (h : s.Inv) (ht : Tracked answers s.live s.log)
    {outcome : Except DriverError Wrapper}
    (hnone : ∀ w, outcome = .ok w → w.handle = none) :
    Tracked answers (s.adopt (outcome, s.log)).live (s.adopt (outcome, s.log)).log := by
  have hlog : (s.adopt (outcome, s.log)).log = s.log ++ [] := by
    rw [List.append_nil]
    cases outcome <;> rfl
  rw [hlog]
  refine ht.extend h (fun _ _ _ hcall => (nomatch hcall)) (fun _ _ hcall => (nomatch hcall)) ?_ ?_ ?_
  · intro w hw
    cases outcome with
    | error e => exact Or.inl hw
    | ok made =>
      rcases List.mem_append.mp hw with hw | hw
      · exact Or.inl hw
      · refine Or.inr ?_
        intro handle hhandle
        rw [List.mem_singleton.mp hw, hnone made rfl] at hhandle
        cases hhandle
  · intro handle kind hle hcreated
    have hlt := hcreated.lt
    rw [List.append_nil] at hlt
    omega
  · intro w hw _ _
    cases outcome with
    | error e => exact Or.inl hw
    | ok made => exact Or.inl (List.mem_append_left _ hw)

/-- A wrapper that goes. -/
theorem tracked_goes (h : s.Inv) (ht : Tracked answers s.live s.log) {index : Nat} {w : Wrapper}
    (hw : s.live[index]? = some w) {calls : List DriverCall}
    (hcalls : GivesBack answers w s.log calls) :
    Tracked answers (s.live.eraseIdx index) (s.log ++ calls) := by
  have hmem := List.mem_of_getElem? hw
  refine ht.extend h ?_ ?_ ?_ ?_ ?_
  · intro i entry handles hcall
    rcases hcalls.only _ (List.mem_of_getElem? hcall) with heq | ⟨_, _, heq⟩ <;> cases heq
  · intro kind handle hcall
    rcases hcalls.only _ hcall with heq | ⟨owned, howned, heq⟩
    · cases heq
    · obtain ⟨rfl, rfl⟩ := DriverCall.release.inj heq
      rw [← howned]
      exact hmem
  · intro other hother
    exact Or.inl ((List.eraseIdx_sublist _ _).subset hother)
  · intro handle kind hle hcreated
    have hcall := hcreated.call
    rw [List.getElem?_append_right hle] at hcall
    rcases hcalls.only _ (List.mem_of_getElem? hcall) with heq | ⟨_, _, heq⟩ <;> cases heq
  · intro other hother handle hhandle
    by_cases heq : other = w
    · rw [heq] at hhandle
      exact Or.inr (hcalls.given handle hhandle (h.owned w hmem handle hhandle).1)
    · refine Or.inl ?_
      obtain ⟨i, hi⟩ := List.getElem?_of_mem hother
      refine List.mem_eraseIdx_iff_getElem?.mpr ⟨i, ?_, hi⟩
      intro hsame
      rw [hsame, hw] at hi
      exact heq (Option.some.inj hi).symm

theorem tracked_step (h : s.Inv) (ht : Tracked answers s.live s.log) (use : Use) :
    Tracked answers (s.step answers use).live (s.step answers use).log := by
  cases use with
  | createStream => exact tracked_made h ht (createHandle_makes (by decide) _)
  | createEvent => exact tracked_made h ht (createHandle_makes (by decide) _)
  | allocate len =>
    unfold step
    dsimp only
    unfold Wrapper.ofDevice
    by_cases hfits : len * 4 < 2 ^ 64
    · rw [if_pos hfits]
      by_cases hempty : len * 4 = 0
      · rw [if_pos hempty]
        refine tracked_unmade h ht ?_
        intro w heq
        rw [← Except.ok.inj heq]
      · rw [if_neg hempty]
        exact tracked_made h ht allocDevice_makes
    · rw [if_neg hfits]
      exact tracked_unmade h ht fun _ heq => (nomatch heq)
  | loadModule ptx =>
    unfold step
    dsimp only
    unfold Wrapper.ofPtx
    by_cases hnul : '\x00' ∈ ptx.toList
    · rw [if_pos hnul]
      exact tracked_unmade h ht fun _ heq => (nomatch heq)
    · rw [if_neg hnul]
      exact tracked_made h ht (createHandle_makes (by decide) _)
  | borrow entry failed wrappers =>
    unfold step
    dsimp only
    split
    · exact ht
    · next handles hhandles =>
      have howned : ∀ handle ∈ handles, ∃ w ∈ s.live, w.handle = some handle := by
        intro handle hmem
        obtain ⟨index, _, hfound⟩ := exists_of_mem_mapM_some hhandles hmem
        obtain ⟨w, hw, hhandle⟩ := Option.bind_eq_some_iff.mp hfound
        exact ⟨w, List.mem_of_getElem? hw, hhandle⟩
      rw [borrowHandles_run]
      split
      · refine ht.extend h ?_ ?_ (fun w hw => Or.inl hw) ?_ fun w hw _ _ => Or.inl hw
        · intro i entry' handles' hcall handle hmem
          match i, hcall with
          | 1, hcall =>
            obtain ⟨_, rfl⟩ := DriverCall.borrow.inj (Option.some.inj hcall)
            exact ⟨howned handle hmem, rfl⟩
        · intro kind handle hcall
          simp at hcall
        · intro handle kind hle hcreated
          have hcall := hcreated.call
          rw [List.getElem?_append_right hle] at hcall
          have hmem := List.mem_of_getElem? hcall
          simp at hmem
      · refine tracked_still h ht .stream (fun call hcall => Or.inl (List.mem_singleton.mp hcall))
          fun w => (or_iff_left ?_).symm
        intro ⟨handle, hle, _, hmade⟩
        have hcall := hmade.call
        rw [List.getElem?_append_right hle] at hcall
        cases List.mem_singleton.mp (List.mem_of_getElem? hcall)
  | release index =>
    unfold step
    dsimp only
    split
    · exact ht
    · next w hw =>
      obtain ⟨calls, hlog, hgives⟩ := release_givesBack answers w s.log
      rw [hlog]
      exact tracked_goes h ht hw hgives
  | drop index =>
    unfold step
    dsimp only
    split
    · exact ht
    · next w hw =>
      obtain ⟨calls, hlog, hgives⟩ := drop_givesBack answers w s.log
      rw [hlog]
      exact tracked_goes h ht hw hgives

theorem tracked_run (h : s.Inv) (ht : Tracked answers s.live s.log) (uses : List Use) :
    Tracked answers (uses.foldl (step answers) s).live (uses.foldl (step answers) s).log := by
  induction uses generalizing s with
  | nil => exact ht
  | cons use uses ih => exact ih (step_kept answers h use).inv (tracked_step h ht use)

theorem start_tracked : Tracked answers start.live start.log := by
  refine ⟨fun _ hw => (nomatch hw), ?_, fun _ _ _ hcall => (nomatch hcall),
    fun _ _ _ hcall => (nomatch hcall)⟩
  intro handle kind hcreated
  cases hcreated.call

theorem run_tracked (answers : Nat → DriverAnswer) (uses : List Use) :
    Tracked answers (run answers uses).live (run answers uses).log :=
  tracked_run start_inv start_tracked uses

/-- In every program, with every answers of the driver: a handle that is lent was created
before and not yet released, a handle that is released was created before as what it is
released as, and a created handle is owned, or was released, or the driver refused to make
the context current after it was created. -/
theorem handle_lifetimes (answers : Nat → DriverAnswer) (uses : List Use) :
    let s := run answers uses
    (∀ (n : Nat) entry handles, s.log[n]? = some (.borrow entry handles) → ∀ handle ∈ handles,
      (∃ kind, Created answers (s.log.take n) handle kind) ∧
        releaseCount handle (s.log.take n) = 0) ∧
    (∀ (n : Nat) kind handle, s.log[n]? = some (.release kind handle) →
      Created answers (s.log.take n) handle kind) ∧
    ∀ handle kind, Created answers s.log handle kind →
      ⟨kind, some handle⟩ ∈ s.live ∨ 0 < releaseCount handle s.log ∨
        ContextRefused answers s.log handle := by
  have htracked := run_tracked answers uses
  have hcut : ∀ {n handle : Nat} {kind}, handle < n →
      Created answers (run answers uses).log handle kind →
      Created answers ((run answers uses).log.take n) handle kind := by
    intro n handle kind hlt hcreated
    refine ⟨?_, hcreated.accepted, hcreated.taken⟩
    rw [List.getElem?_take_of_lt hlt]
    exact hcreated.call
  refine ⟨?_, ?_, htracked.accounted⟩
  · intro n entry handles hcall handle hmem
    obtain ⟨hlt, ⟨kind, hcreated⟩, hzero⟩ := htracked.borrowed n entry handles hcall handle hmem
    exact ⟨⟨kind, hcut hlt hcreated⟩, hzero⟩
  · intro n kind handle hcall
    obtain ⟨hlt, hcreated⟩ := htracked.released n kind handle hcall
    exact hcut hlt hcreated

end Program

end QTom.Cuda
