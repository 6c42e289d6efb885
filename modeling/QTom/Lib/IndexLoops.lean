import Mathlib.Data.List.Basic

/- Index loops over buffers whose accesses may fail. `foldlM_range` reads a loop
   over all indices of a list as the fold over the list. `written` is a buffer whose
   slots are filled by writers in any order, each slot's value depending on its
   index only, over whatever it held before: `write_written` is one write, and a
   slot that has been visited holds its value whatever came before and after
   (`written_read`). -/
namespace QTom.Lib

/-- Indexing every entry in turn is folding the list. -/
theorem foldlM_range {σ α : Type} {f : σ → Nat → Option σ} {g : σ → α → σ} {xs : List α}
    (h : ∀ s i (hi : i < xs.length), f s i = some (g s xs[i])) (s : σ) :
    (List.range xs.length).foldlM f s = some (xs.foldl g s) := by
  have htake : ∀ m ≤ xs.length, (List.range m).foldlM f s = some ((xs.take m).foldl g s) := by
    intro m hm
    -- after `m` rounds the first `m` entries are folded
    induction m with
    | zero => rfl
    | succ m ih =>
      rw [List.range_succ, List.foldlM_append, ih (Nat.le_of_succ_le hm),
        List.take_succ_eq_append_getElem hm, List.foldl_append]
      show (f _ m >>= pure) = _
      rw [h _ m hm]
      rfl
  rw [htake xs.length (Nat.le_refl _), List.take_length]

/-- A loop whose turns all succeed succeeds. -/
theorem foldlM_exists {σ α : Type} {f : σ → α → Option σ} {xs : List α}
    (h : ∀ s, ∀ x ∈ xs, ∃ s', f s x = some s') (s : σ) : ∃ s', xs.foldlM f s = some s' := by
  induction xs generalizing s with
  | nil => exact ⟨s, rfl⟩
  | cons x xs ih =>
    obtain ⟨next, hnext⟩ := h s x List.mem_cons_self
    rw [List.foldlM_cons, hnext]
    exact ih (fun s y hy => h s y (List.mem_cons_of_mem x hy)) next

theorem mapM_some {α β : Type} {f : α → Option β} {g : α → β} {xs : List α}
    (h : ∀ x ∈ xs, f x = some (g x)) : xs.mapM f = some (xs.map g) := by
  induction xs with
  | nil => rfl
  | cons x xs ih =>
    have hrest := ih fun y hy => h y (List.mem_cons_of_mem x hy)
    rw [List.mapM_cons, h x List.mem_cons_self, hrest]
    rfl

/-- Turns that return the same. -/
theorem mapM_congr {α β : Type} {f g : α → Option β} {xs : List α} (h : ∀ x ∈ xs, f x = g x) :
    xs.mapM f = xs.mapM g := by
  induction xs with
  | nil => rfl
  | cons x xs ih =>
    rw [List.mapM_cons, List.mapM_cons, h x List.mem_cons_self,
      ih fun y hy => h y (List.mem_cons_of_mem x hy)]

theorem exists_of_mem_mapM_some {α β : Type} {f : α → Option β} {xs : List α} {ys : List β}
    (h : xs.mapM f = some ys) {y : β} (hy : y ∈ ys) : ∃ x ∈ xs, f x = some y := by
  induction xs generalizing ys with
  | nil =>
    cases h
    cases hy
  | cons x xs ih =>
    rw [List.mapM_cons] at h
    obtain ⟨b, hb, hrest⟩ := Option.bind_eq_some_iff.mp h
    obtain ⟨bs, hbs, heq⟩ := Option.bind_eq_some_iff.mp hrest
    obtain rfl := Option.some.inj heq
    rcases List.mem_cons.mp hy with rfl | hy
    · exact ⟨x, List.mem_cons_self, hb⟩
    · obtain ⟨x', hx', hfound⟩ := ih hbs hy
      exact ⟨x', List.mem_cons_of_mem x hx', hfound⟩

/-- `xs[i] = x`. -/
def write {α : Type} (xs : List α) (i : Nat) (x : α) : Option (List α) :=
  if i < xs.length then some (xs.set i x) else none

section Written
variable {α : Type} (start : List α) (value : Nat → α)

/-- The buffer with the visited slots holding their value and the others as they were. -/
def written (visited : List Nat) : List α :=
  start.mapIdx fun i x => if i ∈ visited then value i else x

theorem written_nil : written start value [] = start := by
  apply List.ext_getElem
  · simp [written]
  · intro i hi hi'
    simp [written]

theorem write_written {i : Nat} (hi : i < start.length) (visited : List Nat) :
    write (written start value visited) i (value i) =
      some (written start value (visited ++ [i])) := by
  have hlen : i < (written start value visited).length := by
    simpa [written] using hi
  unfold write
  rw [if_pos hlen]
  congr 1
  apply List.ext_getElem
  · simp [written]
  · intro j hj hj'
    rw [List.getElem_set]
    -- the slot written is the one newly visited
    by_cases hij : i = j
    · subst hij
      simp [written]
    · have hji : j ≠ i := fun h => hij h.symm
      simp [written, hij, hji]

/-- A writer past the end leaves the slots as they are. -/
theorem written_past {i : Nat} (hi : start.length ≤ i) (visited : List Nat) :
    written start value (visited ++ [i]) = written start value visited := by
  apply List.ext_getElem
  · simp [written]
  · intro j hj hj'
    have hne : j ≠ i := by
      simp only [written, List.length_mapIdx] at hj
      omega
    simp [written, hne]

/-- A visited slot holds its value. -/
theorem written_read {i : Nat} (hi : i < start.length) {visited : List Nat} (h : i ∈ visited) :
    (written start value visited)[i]? = some (value i) := by
  simp [written, hi, h]

end Written

end QTom.Lib
