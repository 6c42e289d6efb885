import Mathlib.Data.List.FinRange

/- Rust's slice blocks: `chunks`, `chunks_exact` and a range walked in blocks by
   `step_by`. Each is read as the list of its blocks; put back together the blocks
   give what was cut (`flatten_chunks`, `flatMap_blockStarts`), and rows of one
   length packed into one vector are its slices (`slice_flatten`). -/
namespace QTom.Lib
variable {α : Type*}

/-- `usize::div_ceil`. -/
def divCeil (a b : Nat) : Nat := a / b + if a % b = 0 then 0 else 1

theorem le_divCeil_mul {b : Nat} (hb : 0 < b) (a : Nat) : a ≤ divCeil a b * b := by
  have hdiv := Nat.div_add_mod a b
  have hmod := Nat.mod_lt a hb
  unfold divCeil
  split
  · rw [Nat.add_zero, Nat.mul_comm]
    omega
  · rw [Nat.add_mul, Nat.one_mul, Nat.mul_comm]
    omega

theorem mul_le_of_lt_divCeil {a b i : Nat} (h : i < divCeil a b) : i * b ≤ a := by
  have hle : i ≤ a / b := by
    unfold divCeil at h
    split at h <;> omega
  exact (Nat.mul_le_mul_right b hle).trans (Nat.div_mul_le_self a b)

/-- `&xs[i * n .. (i + 1) * n]`, shorter where `xs` ends. -/
def slice (xs : List α) (n i : Nat) : List α := (xs.drop (i * n)).take n

def chunks (n : Nat) (xs : List α) : List (List α) :=
  (List.range (divCeil xs.length n)).map (slice xs n)

def chunksExact (n : Nat) (xs : List α) : List (List α) :=
  (List.range (xs.length / n)).map (slice xs n)

theorem slice_zip {β : Type*} (xs : List α) (ys : List β) (n i : Nat) :
    (slice xs n i).zip (slice ys n i) = slice (xs.zip ys) n i := by
  show List.zipWith Prod.mk _ _ = ((List.zipWith Prod.mk xs ys).drop (i * n)).take n
  rw [List.drop_zipWith, List.take_zipWith]
  rfl

theorem length_slice {xs : List α} {n i : Nat} (h : i < xs.length / n) :
    (slice xs n i).length = n := by
  have hend : (i + 1) * n ≤ xs.length :=
    (Nat.mul_le_mul_right n h).trans (Nat.div_mul_le_self xs.length n)
  rw [Nat.add_mul, Nat.one_mul] at hend
  unfold slice
  rw [List.length_take, List.length_drop]
  omega

/-- The first `m` slices, put together. -/
theorem flatten_slices (xs : List α) (n m : Nat) :
    ((List.range m).map (slice xs n)).flatten = xs.take (m * n) := by
  induction m with
  | zero => simp
  | succ m ih =>
    rw [List.range_succ, List.map_append, List.flatten_append, ih, Nat.add_mul, Nat.one_mul,
      List.take_add]
    simp [slice]

theorem flatten_chunks {n : Nat} (hn : 0 < n) (xs : List α) : (chunks n xs).flatten = xs := by
  unfold chunks
  rw [flatten_slices]
  exact List.take_of_length_le (le_divCeil_mul hn xs.length)

theorem mem_of_mem_chunks {n : Nat} {xs chunk : List α} (h : chunk ∈ chunks n xs) {x : α}
    (hx : x ∈ chunk) : x ∈ xs := by
  obtain ⟨i, _, rfl⟩ := List.mem_map.mp h
  exact List.mem_of_mem_drop (List.mem_of_mem_take hx)

theorem length_le_of_mem_chunks {n : Nat} {xs chunk : List α} (h : chunk ∈ chunks n xs) :
    chunk.length ≤ xs.length := by
  obtain ⟨i, _, rfl⟩ := List.mem_map.mp h
  unfold slice
  rw [List.length_take, List.length_drop]
  omega

/-- What holds of every chunk's entries holds of every entry. -/
theorem forall_mem_chunks {n : Nat} (hn : 0 < n) {xs : List α} {P : α → Prop} :
    (∀ chunk ∈ chunks n xs, ∀ x ∈ chunk, P x) ↔ ∀ x ∈ xs, P x := by
  rw [← List.forall_mem_flatten, flatten_chunks hn]

/-! Rows of one length packed into one vector. -/

theorem length_flatten {rows : List (List α)} {d : Nat} (h : ∀ row ∈ rows, row.length = d) :
    rows.flatten.length = rows.length * d := by
  induction rows with
  | nil => simp
  | cons row rows ih =>
    have hrow := h row (by simp)
    have hrest := ih fun r hr => h r (by simp [hr])
    rw [List.flatten_cons, List.length_append, hrow, hrest, List.length_cons, Nat.add_mul]
    omega

theorem slice_flatten {rows : List (List α)} {d : Nat} (h : ∀ row ∈ rows, row.length = d) {i : Nat}
    (hi : i < rows.length) : slice rows.flatten d i = rows[i] := by
  induction rows generalizing i with
  | nil => cases hi
  | cons row rows ih =>
    have hrow := h row (by simp)
    have hrest : ∀ r ∈ rows, r.length = d := fun r hr => h r (by simp [hr])
    unfold slice at ih ⊢
    cases i with
    | zero =>
      rw [Nat.zero_mul, List.drop_zero, List.flatten_cons, List.take_left' hrow]
      rfl
    | succ i =>
      -- the first row is passed over
      have hoff : (i + 1) * d = row.length + i * d := by
        rw [hrow, Nat.add_mul]
        omega
      rw [hoff, List.flatten_cons, List.drop_append, List.getElem_cons_succ]
      rw [List.drop_eq_nil_of_le (by omega), List.nil_append, Nat.add_sub_cancel_left]
      exact ih hrest (Nat.lt_of_succ_lt_succ hi)

theorem chunksExact_flatten {rows : List (List α)} {d : Nat} (hd : 0 < d)
    (h : ∀ row ∈ rows, row.length = d) : chunksExact d rows.flatten = rows := by
  unfold chunksExact
  rw [length_flatten h, Nat.mul_div_cancel _ hd]
  apply List.ext_getElem
  · rw [List.length_map, List.length_range]
  · intro i _ hi
    rw [List.getElem_map, List.getElem_range]
    exact slice_flatten h hi

/-! A range walked in blocks. -/

/-- `(0..len).step_by(b)`. -/
def blockStarts (b len : Nat) : List Nat := (List.range (divCeil len b)).map (· * b)

/-- `start..stop` as indices of a slice of length `len`. -/
def indices (start stop : Nat) {len : Nat} (h : stop ≤ len) : List (Fin len) :=
  (List.range' start (stop - start)).pmap Fin.mk (by
    intro i hi
    rw [List.mem_range'_1] at hi
    omega)

/-- The block of at most `b` indices from `start` on. -/
def block (b len start : Nat) : List (Fin len) :=
  indices start (min (start + b) len) (Nat.min_le_right _ _)

theorem map_val_block (b len start : Nat) :
    (block b len start).map Fin.val = List.range' start (min (start + b) len - start) := by
  unfold block indices
  rw [List.map_pmap]
  simp

/-- The blocks cover the range, in order. -/
theorem flatMap_blockStarts {b : Nat} (hb : 0 < b) (len : Nat) :
    (blockStarts b len).flatMap (block b len) = List.finRange len := by
  have hcover : ∀ m, ((List.range m).map (· * b)).flatMap
      (fun start => List.range' start (min (start + b) len - start)) =
      List.range (min (m * b) len) := by
    intro m
    induction m with
    | zero => simp
    | succ m ih =>
      rw [List.range_succ, List.map_append, List.flatMap_append, ih, Nat.add_mul, Nat.one_mul]
      show _ ++ (List.range' (m * b) (min (m * b + b) len - m * b) ++ []) = _
      rw [List.append_nil, List.range_eq_range', List.range_eq_range']
      by_cases hm : m * b ≤ len
      · have hnext : min (m * b + b) len = m * b + (min (m * b + b) len - m * b) := by omega
        rw [Nat.min_eq_left hm, hnext, ← List.range'_append_1, Nat.zero_add, ← hnext]
      · -- the range ended before this block
        have hempty : min (m * b + b) len - m * b = 0 := by omega
        rw [hempty, List.range'_zero, List.append_nil]
        congr 1
        omega
  apply List.map_injective_iff.mpr Fin.val_injective
  rw [List.map_flatMap, List.map_coe_finRange_eq_range]
  simp only [map_val_block]
  unfold blockStarts
  rw [hcover, Nat.min_eq_right (le_divCeil_mul hb len)]

end QTom.Lib
