import QTom.Lib.Checked

/- Emitting once. A loop keeps a bit for each index and emits what belongs to an index when
   it meets it for the first time. `Marked emit n order s` says that the indices of `order`
   are the marked ones of `n` and that the output is theirs, in that order, each once.
   `Adds emit n step new` is a step that marks the indices of `new` as well: visiting one
   index is (`Adds.visit`), and so is a loop of such steps (`Adds.run`). -/
namespace QTom.Lib
variable {α ι : Type}

structure Marks (α : Type) where
  seen : List Bool
  out : List α

/-- `if !seen[i] { seen[i] = true; out.extend(emit(i)) }`. -/
def visitUnseen (emit : Nat → Checked (List α)) (s : Marks α) (i : Nat) : Checked (Marks α) := do
  let seen ← Checked.read s.seen i
  if seen then return s
  else
    let seen ← Checked.write s.seen i true
    let emitted ← emit i
    return ⟨seen, s.out ++ emitted⟩

structure Marked (emit : Nat → List α) (n : Nat) (order : List Nat) (s : Marks α) : Prop where
  length : s.seen.length = n
  nodup : order.Nodup
  seen : ∀ i, s.seen[i]? = some true ↔ i ∈ order
  out : s.out = order.flatMap emit

/-- Started where `order` is marked, the step returns with the indices of `new` marked too. -/
def Adds (emit : Nat → List α) (n : Nat) (step : Marks α → Checked (Marks α))
    (new : Nat → Prop) : Prop :=
  ∀ order s, Marked emit n order s → ∃ order' s', step s = .ok s' ∧ Marked emit n order' s' ∧
    ∀ i, i ∈ order' ↔ i ∈ order ∨ new i

variable {emit : Nat → List α} {n i : Nat} {order : List Nat} {s : Marks α}

namespace Marked

theorem fresh (emit : Nat → List α) (n : Nat) :
    Marked emit n [] ⟨List.replicate n false, []⟩ := by
  refine ⟨List.length_replicate, List.nodup_nil, ?_, rfl⟩
  intro i
  refine ⟨?_, fun h => (nomatch h)⟩
  intro h
  obtain ⟨_, hfalse⟩ := List.getElem?_eq_some_iff.mp h
  rw [List.getElem_replicate] at hfalse
  cases hfalse

theorem lt (h : Marked emit n order s) (hi : i ∈ order) : i < n := by
  obtain ⟨hlt, _⟩ := List.getElem?_eq_some_iff.mp ((h.seen i).mpr hi)
  rw [h.length] at hlt
  exact hlt

/-- A new index goes to the end. -/
theorem push (h : Marked emit n order s) (hi : i < n) (hnew : i ∉ order) :
    Marked emit n (order ++ [i]) ⟨s.seen.set i true, s.out ++ emit i⟩ := by
  have hlen : i < s.seen.length := by
    rw [h.length]
    exact hi
  refine ⟨?_, ?_, ?_, ?_⟩
  · rw [List.length_set]
    exact h.length
  · rw [List.nodup_append_comm]
    exact List.nodup_cons.mpr ⟨hnew, h.nodup⟩
  · intro j
    rw [List.mem_append, List.mem_singleton, ← h.seen j, List.getElem?_set]
    by_cases hij : i = j
    · rw [if_pos hij, if_pos hlen]
      exact iff_of_true rfl (Or.inr hij.symm)
    · rw [if_neg hij, or_iff_left (Ne.symm hij)]
  · rw [List.flatMap_append, List.flatMap_singleton, ← h.out]

end Marked

namespace Adds
variable {step : Marks α → Checked (Marks α)} {new new' : Nat → Prop}

theorem congr (h : Adds emit n step new) (hnew : ∀ i, new i ↔ new' i) : Adds emit n step new' := by
  intro order s hs
  obtain ⟨order', s', hstep, hmarked, hmem⟩ := h order s hs
  exact ⟨order', s', hstep, hmarked, fun i => by rw [hmem i, hnew i]⟩

theorem skip : Adds emit n (fun s => .ok s) fun _ => False := by
  intro order s hs
  exact ⟨order, s, rfl, hs, fun i => (or_iff_left id).symm⟩

theorem visit {emitChecked : Nat → Checked (List α)} (hi : i < n)
    (hemit : emitChecked i = .ok (emit i)) :
    Adds emit n (fun s => visitUnseen emitChecked s i) fun j => j = i := by
  intro order s hs
  have hlen : i < s.seen.length := by
    rw [hs.length]
    exact hi
  show ∃ order' s', visitUnseen emitChecked s i = .ok s' ∧ Marked emit n order' s' ∧
    ∀ j, j ∈ order' ↔ j ∈ order ∨ j = i
  unfold visitUnseen
  rw [Checked.read_lt hlen, Checked.ok_bind]
  by_cases hseen : s.seen[i] = true
  · have hold : i ∈ order := (hs.seen i).mp (by rw [List.getElem?_eq_getElem hlen, hseen])
    rw [if_pos hseen]
    refine ⟨order, s, rfl, hs, ?_⟩
    intro j
    rw [or_iff_left_of_imp]
    intro hj
    rw [hj]
    exact hold
  · have hnew : i ∉ order := by
      intro hold
      obtain ⟨_, htrue⟩ := List.getElem?_eq_some_iff.mp ((hs.seen i).mpr hold)
      exact hseen htrue
    rw [if_neg hseen, Checked.write_ok hlen, Checked.ok_bind, hemit, Checked.ok_bind]
    refine ⟨order ++ [i], _, rfl, hs.push hi hnew, ?_⟩
    intro j
    rw [List.mem_append, List.mem_singleton]

/-- A loop of steps. -/
theorem run {f : Marks α → ι → Checked (Marks α)} {new : ι → Nat → Prop} {xs : List ι}
    (h : ∀ x ∈ xs, Adds emit n (fun s => f s x) (new x)) :
    Adds emit n (fun s => xs.foldlM f s) fun i => ∃ x ∈ xs, new x i := by
  induction xs with
  | nil => exact skip.congr fun i => by simp
  | cons x xs ih =>
    intro order s hs
    obtain ⟨order₁, s₁, hstep, hs₁, hmem₁⟩ := h x List.mem_cons_self order s hs
    obtain ⟨order₂, s₂, hrest, hs₂, hmem₂⟩ :=
      ih (fun y hy => h y (List.mem_cons_of_mem x hy)) order₁ s₁ hs₁
    refine ⟨order₂, s₂, ?_, hs₂, ?_⟩
    · show (f s x >>= fun s' => xs.foldlM f s') = _
      rw [show f s x = .ok s₁ from hstep]
      exact hrest
    · intro i
      show i ∈ order₂ ↔ i ∈ order ∨ ∃ y ∈ x :: xs, new y i
      rw [hmem₂ i, hmem₁ i]
      exact or_assoc.trans
        (or_congr_right (List.exists_mem_cons_iff (fun y => new y i) x xs).symm)

end Adds

end QTom.Lib
