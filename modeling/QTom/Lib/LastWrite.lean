import Mathlib.Data.List.AList
import Mathlib.Data.List.Induction

/- An index filled by inserting entries in order. A later entry overwrites an
   earlier one with the same key, so the index holds, at each key, the last
   entry with it (`lookup_index`). `lastOf key k xs` is that entry, read off the
   list itself. -/
namespace QTom.Lib
variable {α κ : Type*} [DecidableEq κ]

/-- One insertion; an entry without a key leaves the index as it is. -/
def indexInsert (key : α → Option κ) (m : AList fun _ : κ => α) (x : α) : AList fun _ : κ => α :=
  match key x with
  | some k => m.insert k x
  | none => m

/-- The last entry of `xs` with key `k`. -/
def lastOf (key : α → Option κ) (k : κ) (xs : List α) : Option α :=
  (xs.filter (fun x => key x = some k)).getLast?

theorem lastOf_append {key : α → Option κ} {k : κ} (xs : List α) (x : α) :
    lastOf key k (xs ++ [x]) = if key x = some k then some x else lastOf key k xs := by
  unfold lastOf
  rw [List.filter_append]
  by_cases h : key x = some k
  · simp [h]
  · simp [h]

theorem lookup_indexInsert {key : α → Option κ} {k : κ} (m : AList fun _ : κ => α) (x : α) :
    (indexInsert key m x).lookup k = if key x = some k then some x else m.lookup k := by
  unfold indexInsert
  cases hx : key x with
  | none => simp
  | some k' =>
    by_cases hk : k' = k
    · subst hk; simp
    · have hne : k ≠ k' := fun h => hk h.symm
      simp [hk, AList.lookup_insert_ne hne]

/-- The index holds the last entry of each key. -/
theorem lookup_index {key : α → Option κ} {k : κ} (xs : List α) :
    (xs.foldl (indexInsert key) ∅).lookup k = lastOf key k xs := by
  induction xs using List.reverseRecOn with
  | nil => simp [lastOf]
  | append_singleton xs x ih =>
    rw [List.foldl_append, List.foldl_cons, List.foldl_nil, lookup_indexInsert, ih, lastOf_append]

theorem mem_keys_iff_lookup {m : AList fun _ : κ => α} {k : κ} :
    k ∈ m.keys ↔ ∃ x, m.lookup k = some x := by
  rw [← Option.isSome_iff_exists, AList.lookup_isSome, AList.mem_keys]

theorem lastOf_mem {key : α → Option κ} {k : κ} {xs : List α} {x : α}
    (h : lastOf key k xs = some x) : x ∈ xs ∧ key x = some k := by
  have hm := List.mem_of_getLast? h
  simpa using hm

/-- A key some entry has is in the index. -/
theorem lastOf_isSome {key : α → Option κ} {k : κ} {xs : List α} {x : α} (hx : x ∈ xs)
    (hk : key x = some k) : ∃ y, lastOf key k xs = some y := by
  have hne : xs.filter (fun x => key x = some k) ≠ [] :=
    List.ne_nil_of_mem (List.mem_filter.mpr ⟨hx, by simpa using hk⟩)
  exact ⟨_, List.getLast?_eq_getLast_of_ne_nil hne⟩

/-- Where `P` holds of all entries of a key or of none: the index keeps every entry
of `P` exactly when no two of them share a key. -/
theorem forall_lastOf_iff {key : α → Option κ} {P : α → Prop} {xs : List α}
    (hP : ∀ x ∈ xs, ∀ y ∈ xs, ∀ k, key x = some k → key y = some k → P x → P y) :
    (∀ x ∈ xs, P x → ∀ k, key x = some k → lastOf key k xs = some x) ↔
      ∀ x ∈ xs, ∀ y ∈ xs, P x → P y → ∀ k, key x = some k → key y = some k → x = y := by
  refine ⟨?_, ?_⟩
  · intro h x hx y hy hPx hPy k hkx hky
    have hboth : some x = some y := by
      rw [← h x hx hPx k hkx, ← h y hy hPy k hky]
    exact Option.some.inj hboth
  · intro h x hx hPx k hkx
    obtain ⟨y, hlast⟩ := lastOf_isSome hx hkx
    obtain ⟨hy, hky⟩ := lastOf_mem hlast
    rw [hlast, h x hx y hy hPx (hP x hx y hy k hkx hky hPx) k hkx hky]

end QTom.Lib
