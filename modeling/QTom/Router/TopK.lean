import QTom.Lib.TopK
import QTom.Router.Score

/- The router's selections (`cpu_router.rs`): one winner, or the `k` best in eight
   stack slots or on the heap. Slots below `len` are filled and the worst index
   lies below `len`; both are fields, so a slot read needs no check. Reserving
   capacity is not part of the value, so `Vec::with_capacity` is the empty list. -/
namespace QTom.Router
open QTom.Lib

def stackTopKCap : Nat := 8

inductive CandidateSort where
  | observed
  | available
  deriving DecidableEq, Repr

section Compare
variable {F : Type}

/-- The distance a sort mode compares. -/
def CandidateSort.key (sort : CandidateSort) (c : CompactCandidate F) : F :=
  match sort with
  | .observed => c.baseDistance
  | .available => c.effectiveDistance

def compareCandidate [F32 F] (sort : CandidateSort) (left right : CompactCandidate F) : Ordering :=
  (F32.totalCmp (sort.key left) (sort.key right)).then (compare left.agentId right.agentId)

/-- `total_cmp` and the id order together are a total preorder. -/
instance [F32 F] [Std.TransCmp (F32.totalCmp (F := F))] (sort : CandidateSort) :
    Std.TransCmp (compareCandidate (F := F) sort) :=
  have _ := transCmp_comap (F32.totalCmp (F := F)) sort.key
  inferInstanceAs (Std.TransCmp (compareLex (fun l r : CompactCandidate F =>
    F32.totalCmp (sort.key l) (sort.key r)) (compareOn RouteCandidate.agentId)))

/-- Equivalent candidates have one id. -/
theorem agentId_eq_of_compare [F32 F] {sort : CandidateSort} {a b : CompactCandidate F}
    (h : compareCandidate sort a b = .eq) : a.agentId = b.agentId := by
  unfold compareCandidate at h
  rw [Ordering.then_eq_eq] at h
  exact compare_eq_iff_eq.mp h.2

end Compare

/-! The single winner. -/

structure BestCandidate (F : Type) where
  best : Option (CompactCandidate F)
  sort : CandidateSort
  trackIdeal : Bool

namespace BestCandidate
variable {F : Type} [F32 F]

def new (sort : CandidateSort) (enabled : Bool) : BestCandidate F := ⟨none, sort, enabled⟩

def push (b : BestCandidate F) (candidate : CompactCandidate F) : BestCandidate F :=
  if b.trackIdeal then
    match b.best with
    | some best =>
      if compareCandidate b.sort candidate best = .lt then { b with best := some candidate } else b
    | none => { b with best := some candidate }
  else b

def idealCandidateUnavailable (b : BestCandidate F) : Bool :=
  (b.best.map fun candidate => !candidate.available).getD false

def intoCandidate (b : BestCandidate F) : Option (CompactCandidate F) := b.best

end BestCandidate

/-! Storage. -/

theorem take_set_succ {α : Type} {xs : List α} {n : Nat} (h : n < xs.length) (a : α) :
    (xs.set n a).take (n + 1) = xs.take n ++ [a] := by
  rw [List.take_succ_eq_append_getElem (by rw [List.length_set]; exact h),
    List.take_set_of_le (Nat.le_refl n), List.getElem_set_self]

/-- The slots `[None; 8]` and how many are set. -/
structure StackSlots (α : Type) where
  candidates : List (Option α)
  len : Nat
  size : candidates.length = stackTopKCap
  filled : ∀ slot ∈ candidates.take len, slot.isSome = true
  bound : len ≤ stackTopKCap

namespace StackSlots
variable {α : Type}

def empty : StackSlots α where
  candidates := List.replicate stackTopKCap none
  len := 0
  size := List.length_replicate
  filled := by
    intro slot h
    rw [List.take_zero] at h
    cases h
  bound := Nat.zero_le _

def intoVec (s : StackSlots α) : List α :=
  (s.candidates.take s.len).pmap (fun slot h => slot.get h) s.filled

theorem lt_size (s : StackSlots α) {idx : Nat} (h : idx < s.len) : idx < s.candidates.length := by
  rw [s.size]
  exact Nat.lt_of_lt_of_le h s.bound

theorem filled_slot (s : StackSlots α) {idx : Nat} (h : idx < s.len) :
    (s.candidates.get ⟨idx, s.lt_size h⟩).isSome = true := by
  have htake : idx < (s.candidates.take s.len).length := by
    rw [List.length_take]
    have := s.lt_size h
    omega
  have hmem := List.getElem_mem htake
  rw [List.getElem_take] at hmem
  exact s.filled _ hmem

def candidate (s : StackSlots α) (idx : Nat) (h : idx < s.len) : α :=
  (s.candidates.get ⟨idx, s.lt_size h⟩).get (s.filled_slot h)

theorem map_intoVec (s : StackSlots α) : s.intoVec.map some = s.candidates.take s.len := by
  unfold intoVec
  rw [List.map_pmap]
  simp

/-- Set the next slot. -/
def push (s : StackSlots α) (h : s.len < stackTopKCap) (candidate : α) : StackSlots α where
  candidates := s.candidates.set s.len (some candidate)
  len := s.len + 1
  size := by rw [List.length_set, s.size]
  filled := by
    intro slot hslot
    rw [take_set_succ (by rw [s.size]; exact h)] at hslot
    rcases List.mem_append.mp hslot with hmem | hmem
    · exact s.filled slot hmem
    · rw [List.mem_singleton.mp hmem]
      rfl
  bound := h

/-- Overwrite a set slot. -/
def replace (s : StackSlots α) (idx : Nat) (_ : idx < s.len) (candidate : α) : StackSlots α where
  candidates := s.candidates.set idx (some candidate)
  len := s.len
  size := by rw [List.length_set, s.size]
  filled := by
    intro slot hslot
    rw [List.take_set] at hslot
    rcases List.mem_or_eq_of_mem_set hslot with hmem | rfl
    · exact s.filled slot hmem
    · rfl
  bound := s.bound

theorem length_intoVec (s : StackSlots α) : s.intoVec.length = s.len := by
  unfold intoVec
  rw [List.length_pmap, List.length_take, s.size]
  exact Nat.min_eq_left s.bound

theorem intoVec_getElem? (s : StackSlots α) {idx : Nat} (h : idx < s.len) :
    s.intoVec[idx]? = some (s.candidate idx h) := by
  apply Option.map_injective (Option.some_injective α)
  rw [← List.getElem?_map, map_intoVec, List.getElem?_take_of_lt h,
    List.getElem?_eq_getElem (s.lt_size h)]
  show some (s.candidates.get ⟨idx, s.lt_size h⟩) = some (some (s.candidate idx h))
  rw [candidate, Option.some_get]

theorem intoVec_push (s : StackSlots α) (h : s.len < stackTopKCap) (c : α) :
    (s.push h c).intoVec = s.intoVec ++ [c] := by
  apply List.map_injective_iff.mpr (Option.some_injective α)
  rw [List.map_append, map_intoVec, map_intoVec]
  exact take_set_succ (by rw [s.size]; exact h) _

theorem intoVec_replace (s : StackSlots α) {idx : Nat} (h : idx < s.len) (c : α) :
    (s.replace idx h c).intoVec = s.intoVec.set idx c := by
  apply List.map_injective_iff.mpr (Option.some_injective α)
  rw [List.map_set, map_intoVec, map_intoVec]
  exact List.take_set

theorem intoVec_empty : (empty : StackSlots α).intoVec = [] := rfl

end StackSlots

inductive TopKStorage (α : Type) where
  | stack (slots : StackSlots α)
  | heap (candidates : List α)

namespace TopKStorage
variable {α : Type}

def new (k : Nat) : TopKStorage α :=
  if k ≤ stackTopKCap then .stack .empty else .heap []

def len : TopKStorage α → Nat
  | .stack slots => slots.len
  | .heap candidates => candidates.length

def candidate : (s : TopKStorage α) → (idx : Nat) → idx < s.len → α
  | .stack slots, idx, h => slots.candidate idx h
  | .heap candidates, idx, h => candidates.get ⟨idx, h⟩

/-- The stack has a slot left; the heap always grows. -/
def HasRoom : TopKStorage α → Prop
  | .stack slots => slots.len < stackTopKCap
  | .heap _ => True

def push : (s : TopKStorage α) → s.HasRoom → α → TopKStorage α
  | .stack slots, h, candidate => .stack (slots.push h candidate)
  | .heap candidates, _, candidate => .heap (candidates ++ [candidate])

def replace : (s : TopKStorage α) → (idx : Nat) → idx < s.len → α → TopKStorage α
  | .stack slots, idx, h, candidate => .stack (slots.replace idx h candidate)
  | .heap candidates, idx, _, candidate => .heap (candidates.set idx candidate)

def intoVec : TopKStorage α → List α
  | .stack slots => slots.intoVec
  | .heap candidates => candidates

/-! Both storages are the list of what they hold. -/

@[simp] theorem length_intoVec (s : TopKStorage α) : s.intoVec.length = s.len := by
  cases s with
  | stack slots => exact slots.length_intoVec
  | heap candidates => rfl

theorem intoVec_getElem? (s : TopKStorage α) {idx : Nat} (h : idx < s.len) :
    s.intoVec[idx]? = some (s.candidate idx h) := by
  cases s with
  | stack slots => exact slots.intoVec_getElem? h
  | heap candidates => exact List.getElem?_eq_getElem h

@[simp] theorem intoVec_push (s : TopKStorage α) (h : s.HasRoom) (c : α) :
    (s.push h c).intoVec = s.intoVec ++ [c] := by
  cases s with
  | stack slots => exact slots.intoVec_push h c
  | heap candidates => rfl

@[simp] theorem intoVec_replace (s : TopKStorage α) {idx : Nat} (h : idx < s.len) (c : α) :
    (s.replace idx h c).intoVec = s.intoVec.set idx c := by
  cases s with
  | stack slots => exact slots.intoVec_replace h c
  | heap candidates => rfl

@[simp] theorem intoVec_new (k : Nat) : (new k : TopKStorage α).intoVec = [] := by
  unfold new
  split
  · exact StackSlots.intoVec_empty
  · rfl

theorem len_push (s : TopKStorage α) (h : s.HasRoom) (c : α) : (s.push h c).len = s.len + 1 := by
  rw [← length_intoVec, intoVec_push, List.length_append, length_intoVec]
  rfl

theorem len_replace (s : TopKStorage α) {idx : Nat} (h : idx < s.len) (c : α) :
    (s.replace idx h c).len = s.len := by
  rw [← length_intoVec, intoVec_replace, List.length_set, length_intoVec]

/-- A stack is used for at most eight candidates. -/
def Fits (k : Nat) : TopKStorage α → Prop
  | .stack _ => k ≤ stackTopKCap
  | .heap _ => True

theorem Fits.hasRoom {k : Nat} {s : TopKStorage α} (h : s.Fits k) (hlen : s.len < k) :
    s.HasRoom := by
  cases s with
  | stack slots => exact Nat.lt_of_lt_of_le hlen h
  | heap candidates => trivial

theorem Fits.push {k : Nat} {s : TopKStorage α} (h : s.Fits k) (hroom : s.HasRoom) (c : α) :
    (s.push hroom c).Fits k := by
  cases s with
  | stack slots => exact h
  | heap candidates => trivial

theorem Fits.replace {k : Nat} {s : TopKStorage α} (h : s.Fits k) {idx : Nat} (hidx : idx < s.len)
    (c : α) : (s.replace idx hidx c).Fits k := by
  cases s with
  | stack slots => exact h
  | heap candidates => trivial

theorem fits_new (k : Nat) : (new k : TopKStorage α).Fits k := by
  unfold new
  split
  · assumption
  · trivial

end TopKStorage

/-! The bounded selection. -/

structure BoundedTopK (F : Type) where
  k : Nat
  sort : CandidateSort
  storage : TopKStorage (CompactCandidate F)
  worstIdx : Option Nat
  fits : storage.Fits k
  within : ∀ idx, worstIdx = some idx → idx < storage.len

namespace BoundedTopK
variable {F : Type}

def new (k : Nat) (sort : CandidateSort) : BoundedTopK F where
  k
  sort
  storage := .new k
  worstIdx := none
  fits := TopKStorage.fits_new k
  within := by
    intro idx h
    cases h

abbrev len (b : BoundedTopK F) : Nat := b.storage.len

abbrev candidate (b : BoundedTopK F) (idx : Nat) (h : idx < b.len) : CompactCandidate F :=
  b.storage.candidate idx h

/-- The worst index, below `len`. -/
def worst (b : BoundedTopK F) : Option (Fin b.len) := b.worstIdx.pmap Fin.mk b.within

theorem worst_eq_none {b : BoundedTopK F} (h : b.worstIdx = none) : b.worst = none := by
  unfold worst
  rw [Option.pmap_eq_none_iff]
  exact h

theorem worst_eq_some {b : BoundedTopK F} {idx : Nat} (h : b.worstIdx = some idx) :
    b.worst = some ⟨idx, b.within idx h⟩ := by
  unfold worst
  rw [Option.pmap_eq_some_iff]
  exact ⟨idx, b.within idx h, h, rfl⟩

theorem candidate_eq {b : BoundedTopK F} {idx : Nat} (h : idx < b.len) {c : CompactCandidate F}
    (hget : b.storage.intoVec[idx]? = some c) : b.candidate idx h = c := by
  rw [b.storage.intoVec_getElem? h] at hget
  exact Option.some.inj hget

def pushCandidate (b : BoundedTopK F) (h : b.len < b.k) (candidate : CompactCandidate F) :
    BoundedTopK F :=
  { b with
    storage := b.storage.push (b.fits.hasRoom h) candidate
    fits := b.fits.push _ candidate
    within := by
      intro idx hidx
      rw [TopKStorage.len_push]
      exact Nat.lt_succ_of_lt (b.within idx hidx) }

def replaceCandidate (b : BoundedTopK F) (idx : Nat) (h : idx < b.len)
    (candidate : CompactCandidate F) : BoundedTopK F :=
  { b with
    storage := b.storage.replace idx h candidate
    fits := b.fits.replace h candidate
    within := by
      intro idx hidx
      exact Nat.lt_of_lt_of_eq (b.within idx hidx) (b.storage.len_replace h candidate).symm }

variable [F32 F]

def updateWorstAfterPush (b : BoundedTopK F) (h : 0 < b.len) : BoundedTopK F :=
  let newIdx := b.len - 1
  have hnew : newIdx < b.len := Nat.sub_lt h Nat.one_pos
  let renamed : BoundedTopK F :=
    { b with
      worstIdx := some newIdx
      within := by
        intro idx hidx
        cases hidx
        exact hnew }
  match b.worst with
  | some worstIdx =>
    if compareCandidate b.sort (b.candidate newIdx hnew) (b.candidate worstIdx worstIdx.isLt) = .gt
    then renamed else b
  | none => renamed

def recomputeWorst (b : BoundedTopK F) : BoundedTopK F :=
  { b with
    worstIdx := (maxBy (fun left right : Fin b.len =>
      compareCandidate b.sort (b.candidate left left.isLt) (b.candidate right right.isLt))
      (List.finRange b.len)).map Fin.val
    within := by
      intro idx hidx
      obtain ⟨i, _, rfl⟩ := Option.map_eq_some_iff.mp hidx
      exact i.isLt }

def push (b : BoundedTopK F) (candidate : CompactCandidate F) : BoundedTopK F :=
  if b.k = 0 then b
  else if h : b.len < b.k then
    (b.pushCandidate h candidate).updateWorstAfterPush (by
      show 0 < (b.storage.push _ candidate).len
      rw [TopKStorage.len_push]
      exact Nat.succ_pos _)
  else
    match b.worst with
    | none => b
    | some worstIdx =>
      if compareCandidate b.sort candidate (b.candidate worstIdx worstIdx.isLt) = .lt then
        (b.replaceCandidate worstIdx worstIdx.isLt candidate).recomputeWorst
      else b

def intoVec (b : BoundedTopK F) : List (CompactCandidate F) :=
  sortBy (compareCandidate b.sort) b.storage.intoVec

end BoundedTopK

end QTom.Router
