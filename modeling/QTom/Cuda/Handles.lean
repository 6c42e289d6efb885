import Mathlib.Data.List.Nodup
import QTom.Cuda.Driver
import QTom.Lib.Runs

/- How often the driver is asked to release a handle.

   A program creates wrappers, lends them to calls, releases them explicitly and drops
   them, in any order and with any answers of the driver. A wrapper is gone once it is
   released or dropped, so a handle is released again only within one explicit release:
   when the driver refuses the call, the wrapper still has its handle and its drop asks
   once more (`release_spec`). Each handle is released at most once exactly along the
   runs in which this does not happen (`released_once_iff`). -/
namespace QTom.Cuda
open QTom.Lib

def DriverCall.releases (handle : Nat) : DriverCall → Bool
  | .release _ released => released == handle
  | _ => false

/-- How many calls of the log release the handle. -/
def releaseCount (handle : Nat) (log : List DriverCall) : Nat :=
  log.countP fun call => call.releases handle

/-- The driver is asked to release each handle at most once. -/
def ReleasedOnce (log : List DriverCall) : Prop := ∀ handle, releaseCount handle log ≤ 1

/-- What a program does with wrappers; `live` ones are named by their position. -/
inductive Use where
  | createStream
  | createEvent
  | allocate (len : Nat)
  | loadModule (ptx : String)
  | borrow (entry : BorrowEntry) (failed : Int → DriverError) (wrappers : List Nat)
  | release (index : Nat)
  | drop (index : Nat)

structure Program where
  live : List Wrapper
  log : List DriverCall
  deriving DecidableEq

namespace Program
variable (answers : Nat → DriverAnswer)

def start : Program := ⟨[], []⟩

/-- The program with the wrapper a call made, if it made one. -/
def adopt (s : Program) (made : Except DriverError Wrapper × List DriverCall) : Program :=
  match made.1 with
  | .ok w => ⟨s.live ++ [w], made.2⟩
  | .error _ => ⟨s.live, made.2⟩

def step (s : Program) : Use → Program
  | .createStream => s.adopt ((Wrapper.ofStream answers).run s.log)
  | .createEvent => s.adopt ((Wrapper.ofEvent answers).run s.log)
  | .allocate len => s.adopt ((Wrapper.ofDevice answers len).run s.log)
  | .loadModule ptx => s.adopt ((Wrapper.ofPtx answers ptx).run s.log)
  | .borrow entry failed wrappers =>
    match wrappers.mapM fun index => s.live[index]?.bind Wrapper.handle with
    | none => s
    | some handles => ⟨s.live, ((borrowHandles answers entry failed handles).run s.log).2⟩
  | .release index =>
    match s.live[index]? with
    | none => s
    | some w => ⟨s.live.eraseIdx index, (w.release answers s.log).2⟩
  | .drop index =>
    match s.live[index]? with
    | none => s
    | some w => ⟨s.live.eraseIdx index, w.drop answers s.log⟩

/-- The program after these uses. -/
def run (uses : List Use) : Program := uses.foldl (step answers) start

end Program

/-! Calls that release nothing. -/

/-- The calls release no handle. -/
def Quiet (calls : List DriverCall) : Prop := ∀ handle, releaseCount handle calls = 0

theorem releaseCount_append (handle : Nat) (log calls : List DriverCall) :
    releaseCount handle (log ++ calls) = releaseCount handle log + releaseCount handle calls :=
  List.countP_append

/-- From any log the computation adds calls that release nothing, and a handle it
returns names one of them. -/
def Names {α : Type} (x : Driver α) (handle : α → Option Nat) : Prop :=
  ∀ log, ∃ calls, (x.run log).2 = log ++ calls ∧ Quiet calls ∧
    ∀ a, (x.run log).1 = .ok a → ∀ h, handle a = some h →
      log.length ≤ h ∧ h < (log ++ calls).length

section Calls
variable {answers : Nat → DriverAnswer}

/-- What comes after a context that could not be set is not done. -/
theorem context_then {α : Type} (x : Driver α) (log : List DriverCall) :
    (setCurrentContext answers >>= fun _ => x).run log =
      if (answers log.length).result = 0 then x.run (log ++ [.ctxSetCurrent])
      else (.error (.contextSetCurrentFailed (answers log.length).result),
        log ++ [.ctxSetCurrent]) := by
  by_cases h : (answers log.length).result = 0 <;> simp [setCurrentContext, ask, h]

theorem createHandle_names (kind : HandleKind) (failed : Int → DriverError) :
    Names (createHandle answers kind failed) some := by
  intro log
  unfold createHandle
  rw [context_then]
  by_cases hctx : (answers log.length).result = 0
  · rw [if_pos hctx]
    refine ⟨[.ctxSetCurrent, .create kind], ?_, fun _ => rfl, ?_⟩
    · simp only [askHandle, Attempt.bind_run, Attempt.act_run, Attempt.andThen_ok, Attempt.ite_run]
      split
      · simp
      · split <;> simp
    · intro handle h h' heq
      simp only [askHandle, Attempt.bind_run, Attempt.act_run, Attempt.andThen_ok,
        Attempt.ite_run] at h
      split at h
      · cases h
      · split at h
        · cases h
        · obtain rfl := Except.ok.inj h
          obtain rfl := Option.some.inj heq
          simp
  · rw [if_neg hctx]
    exact ⟨_, rfl, fun _ => rfl, fun _ h => (nomatch h)⟩

theorem allocDevice_names : Names (allocDevice answers) some := by
  intro log
  unfold allocDevice
  rw [context_then]
  by_cases hctx : (answers log.length).result = 0
  · rw [if_pos hctx]
    refine ⟨[.ctxSetCurrent, .create .device], ?_, fun _ => rfl, ?_⟩
    · simp only [askHandle, Attempt.bind_run, Attempt.act_run, Attempt.andThen_ok, Attempt.ite_run]
      split <;> simp
    · intro ptr h h' heq
      simp only [askHandle, Attempt.bind_run, Attempt.act_run, Attempt.andThen_ok,
        Attempt.ite_run] at h
      split at h
      · obtain rfl := Except.ok.inj h
        obtain rfl := Option.some.inj heq
        simp
      · cases h
  · rw [if_neg hctx]
    exact ⟨_, rfl, fun _ => rfl, fun _ h => (nomatch h)⟩

/-- A wrapper of what a call created is named by it. -/
theorem Names.wrap {x : Driver Nat} (h : Names x some) (kind : HandleKind) :
    Names (x >>= fun handle => return ⟨kind, some handle⟩) Wrapper.handle := by
  intro log
  obtain ⟨calls, hlog, hquiet, hname⟩ := h log
  rw [Attempt.bind_run]
  refine ⟨calls, ?_, hquiet, ?_⟩
  · rw [← hlog]
    cases x.run log with
    | mk outcome log' => cases outcome <;> rfl
  · intro w hw h' hhandle
    cases hx : x.run log with
    | mk outcome log' =>
      rw [hx] at hw hname
      cases outcome with
      | error e => cases hw
      | ok created =>
        obtain rfl := Except.ok.inj hw
        exact hname created rfl h' hhandle

/-- Nothing is called and nothing owned. -/
theorem names_of_still {x : Driver Wrapper} (hlog : ∀ log, (x.run log).2 = log)
    (howns : ∀ log w, (x.run log).1 = .ok w → w.handle = none) : Names x Wrapper.handle := by
  intro log
  refine ⟨[], by rw [hlog, List.append_nil], fun _ => rfl, ?_⟩
  intro w hw h hhandle
  rw [howns log w hw] at hhandle
  cases hhandle

theorem ofDevice_names (len : Nat) : Names (Wrapper.ofDevice answers len) Wrapper.handle := by
  unfold Wrapper.ofDevice
  split
  · split
    · refine names_of_still (fun _ => rfl) ?_
      intro log w hw
      obtain rfl := Except.ok.inj hw
      rfl
    · exact allocDevice_names.wrap .device
  · exact names_of_still (fun _ => rfl) fun log w hw => (nomatch hw)

theorem ofPtx_names (ptx : String) : Names (Wrapper.ofPtx answers ptx) Wrapper.handle := by
  unfold Wrapper.ofPtx
  split
  · exact names_of_still (fun _ => rfl) fun log w hw => (nomatch hw)
  · exact (createHandle_names _ _).wrap .loadedModule

variable (answers)

theorem borrowHandles_quiet (entry : BorrowEntry) (failed : Int → DriverError)
    (handles : List Nat) (log : List DriverCall) :
    ∃ calls, ((borrowHandles answers entry failed handles).run log).2 = log ++ calls ∧
      Quiet calls := by
  unfold borrowHandles
  rw [context_then]
  by_cases hctx : (answers log.length).result = 0
  · rw [if_pos hctx]
    refine ⟨[.ctxSetCurrent, .borrow entry handles], ?_, fun _ => rfl⟩
    simp only [ask, Attempt.bind_run, Attempt.act_run, Attempt.andThen_ok, Attempt.ite_run]
    split <;> simp
  · rw [if_neg hctx]
    exact ⟨_, rfl, fun _ => rfl⟩

/-! Releases. -/

/-- A release calls the driver when the context can be set, and succeeds when the
driver then accepts. -/
theorem releaseOwned_run (kind : HandleKind) (handle : Nat) (log : List DriverCall) :
    ∃ outcome, (Wrapper.releaseOwned answers kind handle).run log =
      (outcome, if (answers log.length).result = 0 then
        log ++ [.ctxSetCurrent, .release kind handle] else log ++ [.ctxSetCurrent]) ∧
      (outcome = .ok () ↔
        (answers log.length).result = 0 ∧ (answers (log.length + 1)).result = 0) := by
  have hcall : ∀ failed : Int → DriverError, ∃ outcome,
      (releaseHandle answers kind failed handle).run log =
        (outcome, if (answers log.length).result = 0 then
          log ++ [.ctxSetCurrent, .release kind handle] else log ++ [.ctxSetCurrent]) ∧
        (outcome = .ok () ↔
          (answers log.length).result = 0 ∧ (answers (log.length + 1)).result = 0) := by
    intro failed
    unfold releaseHandle
    rw [context_then]
    by_cases hctx : (answers log.length).result = 0
    · by_cases haccepted : (answers (log.length + 1)).result = 0
      · exact ⟨.ok (), by simp [ask, hctx, haccepted], by simp [hctx, haccepted]⟩
      · exact ⟨.error (failed (answers (log.length + 1)).result),
          by simp [ask, hctx, haccepted], by simp [haccepted]⟩
    · exact ⟨.error (.contextSetCurrentFailed (answers log.length).result),
        by simp [hctx], by simp [hctx]⟩
  cases kind
  · exact hcall _
  · exact hcall _
  · exact hcall _
  · exact hcall _

/-- A drop asks for its handle when the context can be set. -/
theorem drop_run {w : Wrapper} {owned : Nat} (hw : w.handle = some owned) (log : List DriverCall) :
    w.drop answers log = if (answers log.length).result = 0 then
      log ++ [.ctxSetCurrent, .release w.kind owned] else log ++ [.ctxSetCurrent] := by
  obtain ⟨_, hrun, _⟩ := releaseOwned_run answers w.kind owned log
  unfold Wrapper.drop
  rw [hw]
  exact congrArg Prod.snd hrun

theorem releaseCount_release (kind : HandleKind) (owned handle : Nat) :
    releaseCount handle [.ctxSetCurrent, .release kind owned] = if owned = handle then 1 else 0 := by
  by_cases h : owned = handle <;> simp [releaseCount, DriverCall.releases, h]

/-- A drop asks at most once, and for its own handle. -/
theorem drop_spec (w : Wrapper) (log : List DriverCall) :
    ∃ calls, w.drop answers log = log ++ calls ∧
      (∀ handle, w.handle ≠ some handle → releaseCount handle calls = 0) ∧
      ∀ handle, releaseCount handle calls ≤ 1 := by
  cases hw : w.handle with
  | none =>
    refine ⟨[], ?_, fun _ _ => rfl, fun _ => Nat.zero_le 1⟩
    unfold Wrapper.drop
    rw [hw, List.append_nil]
  | some owned =>
    rw [drop_run answers hw]
    by_cases hctx : (answers log.length).result = 0
    · rw [if_pos hctx]
      refine ⟨_, rfl, ?_, ?_⟩
      · intro handle hne
        rw [releaseCount_release, if_neg fun heq => hne (by rw [heq])]
      · intro handle
        rw [releaseCount_release]
        split <;> omega
    · rw [if_neg hctx]
      exact ⟨_, rfl, fun _ _ => rfl, fun _ => Nat.zero_le 1⟩

/-- The driver lets an explicit release's context be set, refuses the release, and lets
the drop's context be set; `n` calls were made before. -/
def RefusedMidway (answers : Nat → DriverAnswer) (n : Nat) : Prop :=
  (answers n).result = 0 ∧ (answers (n + 1)).result ≠ 0 ∧ (answers (n + 2)).result = 0

/-- An explicit release asks for its handle twice when the driver refuses midway and at
most once otherwise, and for no other handle. -/
theorem release_spec {w : Wrapper} {owned : Nat} (hw : w.handle = some owned)
    (log : List DriverCall) :
    ∃ calls, (w.release answers log).2 = log ++ calls ∧
      (∀ handle, owned ≠ handle → releaseCount handle calls = 0) ∧
      (releaseCount owned calls ≤ 1 ↔ ¬ RefusedMidway answers log.length) := by
  obtain ⟨outcome, hrun, hok⟩ := releaseOwned_run answers w.kind owned log
  have hrelease : (w.release answers log).2 = (w.afterRelease outcome).drop answers
      (if (answers log.length).result = 0 then
        log ++ [.ctxSetCurrent, .release w.kind owned] else log ++ [.ctxSetCurrent]) := by
    unfold Wrapper.release
    simp only [hw, hrun]
  rw [hrelease]
  by_cases hctx : (answers log.length).result = 0
  · rw [if_pos hctx]
    cases outcome with
    | ok u =>
      -- accepted: the handle is cleared and the drop does nothing
      refine ⟨[.ctxSetCurrent, .release w.kind owned], rfl, ?_, ?_⟩
      · intro handle hne
        rw [releaseCount_release, if_neg hne]
      · rw [releaseCount_release, if_pos rfl]
        refine ⟨fun _ hmidway => hmidway.2.1 (hok.mp rfl).2, fun _ => Nat.le_refl 1⟩
    | error e =>
      have hrefused : (answers (log.length + 1)).result ≠ 0 :=
        fun haccepted => (nomatch hok.mpr ⟨hctx, haccepted⟩)
      show ∃ calls, w.drop answers _ = _ ∧ _
      rw [drop_run answers hw]
      have hlength : (log ++ [DriverCall.ctxSetCurrent, .release w.kind owned]).length =
          log.length + 2 := by simp
      rw [hlength]
      by_cases hagain : (answers (log.length + 2)).result = 0
      · rw [if_pos hagain, List.append_assoc]
        refine ⟨_, rfl, ?_, ?_⟩
        · intro handle hne
          rw [releaseCount_append, releaseCount_release, if_neg hne]
        · rw [releaseCount_append, releaseCount_release, if_pos rfl]
          exact ⟨fun hle => absurd hle (by decide), fun hnot => absurd ⟨hctx, hrefused, hagain⟩ hnot⟩
      · rw [if_neg hagain, List.append_assoc]
        refine ⟨_, rfl, ?_, ?_⟩
        · intro handle hne
          rw [releaseCount_append, releaseCount_release, if_neg hne]
          rfl
        · rw [releaseCount_append, releaseCount_release, if_pos rfl]
          exact ⟨fun _ hmidway => hagain hmidway.2.2, fun _ => Nat.le_refl 1⟩
  · rw [if_neg hctx]
    cases outcome with
    | ok u => exact absurd (hok.mp rfl).1 hctx
    | error e =>
      -- no call was made, and the drop may make one
      obtain ⟨calls, hdrop, hother, honce⟩ :=
        drop_spec answers w (log ++ [.ctxSetCurrent])
      refine ⟨[.ctxSetCurrent] ++ calls, ?_, ?_, ?_⟩
      · rw [← List.append_assoc]
        exact hdrop
      · intro handle hne
        rw [releaseCount_append, hother handle fun heq => hne (Option.some.inj (hw ▸ heq))]
        rfl
      · refine ⟨fun _ hmidway => hctx hmidway.1, fun _ => ?_⟩
        rw [releaseCount_append]
        have hcalls := honce owned
        have hcontext : releaseCount owned [.ctxSetCurrent] = 0 := rfl
        omega

end Calls

/-! Programs. -/

/-- Live handles were created, are owned once, and were not released. -/
structure Program.Inv (s : Program) : Prop where
  named : ∀ handle, s.log.length ≤ handle → releaseCount handle s.log = 0
  owned : ∀ w ∈ s.live, ∀ handle, w.handle = some handle →
    handle < s.log.length ∧ releaseCount handle s.log = 0
  distinct : (s.live.filterMap Wrapper.handle).Nodup

/-- Of wrappers that own distinct handles, the others do not own the handle of one. -/
theorem not_owned_elsewhere {live : List Wrapper} (h : (live.filterMap Wrapper.handle).Nodup)
    {index : Nat} {w : Wrapper} (hw : live[index]? = some w) :
    ((live.eraseIdx index).filterMap Wrapper.handle).Nodup ∧
      ∀ other ∈ live.eraseIdx index, ∀ handle, other.handle = some handle →
        w.handle ≠ some handle := by
  obtain ⟨hlt, rfl⟩ := List.getElem?_eq_some_iff.mp hw
  have hsplit : live = live.take index ++ live[index] :: live.drop (index + 1) := by
    rw [List.getElem_cons_drop, List.take_append_drop]
  refine ⟨h.sublist ((List.eraseIdx_sublist live index).filterMap _), ?_⟩
  intro other hother handle hhandle hsame
  rw [hsplit, List.filterMap_append, List.filterMap_cons_some hsame, List.nodup_middle,
    ← List.filterMap_append, ← List.eraseIdx_eq_take_drop_succ] at h
  exact (List.nodup_cons.mp h).1 (List.mem_filterMap.mpr ⟨other, hother, hhandle⟩)

namespace Program
variable {answers : Nat → DriverAnswer} {s : Program}

theorem start_inv : start.Inv :=
  ⟨fun _ _ => rfl, fun _ hw => (nomatch hw), List.nodup_nil⟩

/-- Calls that release nothing. -/
theorem Inv.quiet (h : s.Inv) {calls : List DriverCall} (hquiet : Quiet calls) :
    (⟨s.live, s.log ++ calls⟩ : Program).Inv ∧
      ∀ handle, releaseCount handle (s.log ++ calls) = releaseCount handle s.log := by
  have hcount : ∀ handle, releaseCount handle (s.log ++ calls) = releaseCount handle s.log := by
    intro handle
    rw [releaseCount_append, hquiet handle, Nat.add_zero]
  refine ⟨⟨?_, ?_, h.distinct⟩, hcount⟩
  · intro handle hle
    rw [List.length_append] at hle
    rw [hcount, h.named handle (by omega)]
  · intro w hw handle hhandle
    obtain ⟨hlt, hzero⟩ := h.owned w hw handle hhandle
    rw [List.length_append, hcount]
    exact ⟨by omega, hzero⟩

/-- A new wrapper owns a handle no other has. -/
theorem Inv.adopt (h : s.Inv) {x : Driver Wrapper} (hx : Names x Wrapper.handle) :
    (s.adopt (x.run s.log)).Inv ∧
      ∀ handle, releaseCount handle (s.adopt (x.run s.log)).log = releaseCount handle s.log := by
  obtain ⟨calls, hlog, hquiet, hname⟩ := hx s.log
  obtain ⟨hinv, hcount⟩ := h.quiet hquiet
  cases hrun : x.run s.log with
  | mk outcome log' =>
    rw [hrun] at hlog hname
    have hlog' : log' = s.log ++ calls := hlog
    subst hlog'
    cases outcome with
    | error e => exact ⟨hinv, hcount⟩
    | ok w =>
      refine ⟨⟨hinv.named, ?_, ?_⟩, hcount⟩
      · intro other hother handle hhandle
        rcases List.mem_append.mp hother with hmem | hmem
        · exact hinv.owned other hmem handle hhandle
        · rw [List.mem_singleton] at hmem
          subst hmem
          obtain ⟨hle, hlt⟩ := hname other rfl handle hhandle
          exact ⟨hlt, (hcount handle).trans (h.named handle hle)⟩
      · show ((s.live ++ [w]).filterMap Wrapper.handle).Nodup
        rw [List.filterMap_append]
        cases hw : w.handle with
        | none => simpa [hw] using h.distinct
        | some handle =>
          have hfresh : handle ∉ s.live.filterMap Wrapper.handle := by
            intro hmem
            obtain ⟨other, hother, hhandle⟩ := List.mem_filterMap.mp hmem
            have hlt := (h.owned other hother handle hhandle).1
            have hle := (hname w rfl handle hw).1
            omega
          have hlast : [w].filterMap Wrapper.handle = [handle] := by simp [hw]
          rw [hlast, List.nodup_append]
          refine ⟨h.distinct, List.nodup_singleton _, ?_⟩
          intro a ha b hb heq
          rw [List.mem_singleton] at hb
          exact hfresh (hb ▸ heq ▸ ha)

/-- A wrapper that goes, with calls for its handle only. -/
theorem Inv.remove (h : s.Inv) {index : Nat} {w : Wrapper} (hw : s.live[index]? = some w)
    {calls : List DriverCall}
    (hcalls : ∀ handle, w.handle ≠ some handle → releaseCount handle calls = 0) :
    (⟨s.live.eraseIdx index, s.log ++ calls⟩ : Program).Inv := by
  obtain ⟨hdistinct, hother⟩ := not_owned_elsewhere h.distinct hw
  refine ⟨?_, ?_, hdistinct⟩
  · intro handle hle
    rw [List.length_append] at hle
    have hne : w.handle ≠ some handle := by
      intro hsame
      have := (h.owned w (List.mem_of_getElem? hw) handle hsame).1
      omega
    rw [releaseCount_append, h.named handle (by omega), hcalls handle hne]
  · intro other hmem handle hhandle
    obtain ⟨hlt, hzero⟩ := h.owned other ((List.eraseIdx_sublist _ _).subset hmem) handle hhandle
    rw [List.length_append, releaseCount_append, hzero, hcalls handle (hother other hmem handle hhandle)]
    exact ⟨by omega, rfl⟩

/-- No explicit release of this use is refused midway. -/
def NotRefusedMidway (answers : Nat → DriverAnswer) (s : Program) (use : Use) : Prop :=
  ∀ index w handle, use = .release index → s.live[index]? = some w → w.handle = some handle →
    ¬ RefusedMidway answers s.log.length

/-- What a use does: the invariant stays, calls are only added, and a log in which each
handle was released once stays one unless a release is refused midway. -/
structure Kept (answers : Nat → DriverAnswer) (s next : Program) (use : Use) : Prop where
  inv : next.Inv
  grows : ∀ handle, releaseCount handle s.log ≤ releaseCount handle next.log
  once : ReleasedOnce s.log → (ReleasedOnce next.log ↔ NotRefusedMidway answers s use)

/-- A use that releases nothing. -/
theorem Kept.of_still {next : Program} {use : Use} (hinv : next.Inv)
    (hcount : ∀ handle, releaseCount handle next.log = releaseCount handle s.log)
    (huse : ∀ index, use ≠ .release index) : Kept answers s next use := by
  refine ⟨hinv, fun handle => Nat.le_of_eq (hcount handle).symm, ?_⟩
  intro honce
  refine ⟨fun _ index _ _ heq => absurd heq (huse index), ?_⟩
  intro _ handle
  rw [hcount]
  exact honce handle

theorem Kept.adopt (h : s.Inv) {x : Driver Wrapper} (hx : Names x Wrapper.handle) {use : Use}
    (huse : ∀ index, use ≠ .release index) : Kept answers s (s.adopt (x.run s.log)) use :=
  have hadopt := h.adopt hx
  Kept.of_still hadopt.1 hadopt.2 huse

theorem step_borrow (h : s.Inv) (entry : BorrowEntry) (failed : Int → DriverError)
    (wrappers : List Nat) : Kept answers s (s.step answers (.borrow entry failed wrappers))
      (.borrow entry failed wrappers) := by
  unfold step
  dsimp only
  split
  · exact Kept.of_still h (fun _ => rfl) fun _ heq => (nomatch heq)
  · next handles _ =>
    obtain ⟨calls, hlog, hquiet⟩ :=
      borrowHandles_quiet answers entry failed handles s.log
    rw [hlog]
    obtain ⟨hinv, hcount⟩ := h.quiet hquiet
    exact Kept.of_still hinv hcount fun _ heq => (nomatch heq)

theorem step_drop (h : s.Inv) (index : Nat) :
    Kept answers s (s.step answers (.drop index)) (.drop index) := by
  unfold step
  dsimp only
  split
  · exact Kept.of_still h (fun _ => rfl) fun _ heq => (nomatch heq)
  · next w hw =>
    obtain ⟨calls, hlog, hother, hle⟩ := drop_spec answers w s.log
    rw [hlog]
    refine ⟨h.remove hw hother, ?_, ?_⟩
    · intro handle
      rw [releaseCount_append]
      exact Nat.le_add_right _ _
    · intro honce
      refine ⟨fun _ index _ _ heq => (nomatch heq), ?_⟩
      intro _ handle
      rw [releaseCount_append]
      by_cases hsame : w.handle = some handle
      · -- the handle was live, so it was not released before
        rw [(h.owned w (List.mem_of_getElem? hw) handle hsame).2, Nat.zero_add]
        exact hle handle
      · rw [hother handle hsame]
        exact honce handle

theorem step_release (h : s.Inv) (index : Nat) :
    Kept answers s (s.step answers (.release index)) (.release index) := by
  unfold step
  dsimp only
  split
  · next hnone =>
    refine ⟨h, fun _ => Nat.le_refl _, fun honce => ⟨?_, fun _ => honce⟩⟩
    intro _ index' w handle heq hw
    obtain rfl := Use.release.inj heq
    rw [hnone] at hw
    cases hw
  · next w hw =>
    cases howned : w.handle with
    | none =>
      -- nothing is owned, so nothing is called
      have hrelease : (w.release answers s.log).2 = s.log ++ [] := by
        simp [Wrapper.release, Wrapper.drop, howned]
      rw [hrelease]
      have hcalls : ∀ handle, w.handle ≠ some handle → releaseCount handle [] = 0 :=
        fun _ _ => rfl
      refine ⟨h.remove hw hcalls, ?_, ?_⟩
      · intro handle
        exact Nat.le_of_eq (congrArg (releaseCount handle) (List.append_nil s.log).symm)
      · intro honce
        rw [List.append_nil]
        refine ⟨?_, fun _ => honce⟩
        intro _ index' w' handle heq hw' hhandle
        obtain rfl := Use.release.inj heq
        rw [hw] at hw'
        obtain rfl := Option.some.inj hw'
        rw [howned] at hhandle
        cases hhandle
    | some owned =>
      obtain ⟨calls, hlog, hother, honceIff⟩ := release_spec answers howned s.log
      rw [hlog]
      have hremote : ∀ handle, w.handle ≠ some handle → releaseCount handle calls = 0 := by
        intro handle hne
        exact hother handle fun heq => hne (by rw [howned, heq])
      have hzero := (h.owned w (List.mem_of_getElem? hw) owned howned).2
      refine ⟨h.remove hw hremote, ?_, ?_⟩
      · intro handle
        rw [releaseCount_append]
        exact Nat.le_add_right _ _
      · intro honce
        refine ⟨?_, ?_⟩
        · intro hnext index' w' handle heq hw' _
          have howned' := hnext owned
          rw [releaseCount_append, hzero, Nat.zero_add] at howned'
          exact honceIff.mp howned'
        · intro hnot handle
          rw [releaseCount_append]
          by_cases hsame : owned = handle
          · subst hsame
            rw [hzero, Nat.zero_add]
            exact honceIff.mpr (hnot index w owned rfl hw howned)
          · rw [hother handle hsame]
            exact honce handle

theorem step_kept (answers : Nat → DriverAnswer) (h : s.Inv) (use : Use) :
    Kept answers s (s.step answers use) use := by
  cases use with
  | createStream =>
    exact Kept.adopt h ((createHandle_names _ _).wrap .stream) fun _ heq => (nomatch heq)
  | createEvent =>
    exact Kept.adopt h ((createHandle_names _ _).wrap .event) fun _ heq => (nomatch heq)
  | allocate len => exact Kept.adopt h (ofDevice_names len) fun _ heq => (nomatch heq)
  | loadModule ptx => exact Kept.adopt h (ofPtx_names ptx) fun _ heq => (nomatch heq)
  | borrow entry failed wrappers => exact step_borrow h entry failed wrappers
  | release index => exact step_release h index
  | drop index => exact step_drop h index

/-- A handle released twice stays so. -/
theorem releaseCount_foldl (h : s.Inv) (uses : List Use) (handle : Nat) :
    releaseCount handle s.log ≤ releaseCount handle (uses.foldl (step answers) s).log := by
  induction uses generalizing s with
  | nil => exact Nat.le_refl _
  | cons use uses ih =>
    have hstep := step_kept answers h use
    exact Nat.le_trans (hstep.grows handle) (ih hstep.inv)

theorem released_once_from (h : s.Inv) (honce : ReleasedOnce s.log) (uses : List Use) :
    ReleasedOnce (uses.foldl (step answers) s).log ↔
      Along (NotRefusedMidway answers) (step answers) s uses := by
  induction uses generalizing s with
  | nil => exact iff_of_true honce Along.nil
  | cons use uses ih =>
    have hstep := step_kept answers h use
    rw [List.foldl_cons, Along.cons_iff, ← hstep.once honce]
    refine ⟨?_, ?_⟩
    · intro hrun
      have hnext : ReleasedOnce (s.step answers use).log := fun handle =>
        Nat.le_trans (releaseCount_foldl hstep.inv uses handle) (hrun handle)
      exact ⟨hnext, (ih hstep.inv hnext).mp hrun⟩
    · intro ⟨hnext, hrest⟩
      exact (ih hstep.inv hnext).mpr hrest

/-- In every program, with every answers of the driver: each handle is released at most
once exactly when no explicit release is refused midway. -/
theorem released_once_iff (answers : Nat → DriverAnswer) (uses : List Use) :
    ReleasedOnce (run answers uses).log ↔
      Along (NotRefusedMidway answers) (step answers) start uses :=
  released_once_from start_inv (fun _ => Nat.zero_le 1) uses

/-- A driver that accepts every call but the fourth. -/
def refusesOnce (n : Nat) : DriverAnswer := ⟨if n = 3 then 700 else 0, false⟩

/-- A stream whose explicit destruction is refused is destroyed again by its drop. -/
theorem stream_destroyed_twice : ¬ ∀ answers uses, ReleasedOnce (run answers uses).log := by
  intro h
  have honce := h refusesOnce [.createStream, .release 0] 1
  revert honce
  decide

end Program
end QTom.Cuda
