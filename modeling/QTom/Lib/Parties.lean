import QTom.Lib.LastWrite
import QTom.Lib.Runs

/- Runs that several parties make together, their inputs interleaved in any way: the
   whole run is a list, and what one party contributed is the part of it with that
   party's entries, in their order. A guard that sees nothing of the other parties'
   entries holds along the whole run exactly when it holds along every part
   (`along_iff_parts`). -/
namespace QTom.Lib
variable {σ ι κ μ : Type*} [DecidableEq κ] {party : ι → κ} {k : κ} {xs : List ι}

/-- What one party contributed. -/
def partOf (party : ι → κ) (k : κ) (xs : List ι) : List ι := xs.filter fun x => party x = k

theorem mem_partOf {x : ι} : x ∈ partOf party k xs ↔ x ∈ xs ∧ party x = k := by
  simp [partOf]

theorem partOf_append (ys : List ι) :
    partOf party k (xs ++ ys) = partOf party k xs ++ partOf party k ys :=
  List.filter_append _ _

theorem partOf_cons_self {x : ι} :
    partOf party (party x) (x :: xs) = x :: partOf party (party x) xs :=
  List.filter_cons_of_pos (by simp)

/-- An entry of a part, with what its party contributed before and after it. -/
theorem split_of_partOf {pre post : List ι} {x : ι} (h : partOf party k xs = pre ++ x :: post) :
    ∃ before behind, xs = before ++ x :: behind ∧ partOf party k before = pre ∧ party x = k := by
  obtain ⟨before, rest, rfl, hpre, hrest⟩ := List.filter_eq_append_iff.mp h
  obtain ⟨mid, behind, rfl, hmid, hx, _⟩ := List.filter_eq_cons_iff.mp hrest
  refine ⟨before ++ mid, behind, (List.append_assoc _ _ _).symm, ?_, of_decide_eq_true hx⟩
  -- the entries in between are other parties'
  have hnone : partOf party k mid = [] := by
    apply List.filter_eq_nil_iff.mpr
    exact hmid
  rw [partOf_append, hnone, List.append_nil]
  exact hpre

theorem along_iff_parts {P : σ → ι → Prop} {g : σ → ι → σ} {s : σ}
    (h : ∀ pre x post, xs = pre ++ x :: post →
      (P (pre.foldl g s) x ↔ P ((partOf party (party x) pre).foldl g s) x)) :
    Along P g s xs ↔ ∀ k, Along P g s (partOf party k xs) := by
  refine ⟨?_, ?_⟩
  · intro hrun k pre x post hpart
    obtain ⟨before, behind, hxs, rfl, rfl⟩ := split_of_partOf hpart
    exact (h before x behind hxs).mp (hrun before x behind hxs)
  · intro hparts pre x post hxs
    apply (h pre x post hxs).mpr
    apply hparts (party x) (partOf party (party x) pre) x (partOf party (party x) post)
    rw [hxs, partOf_append, partOf_cons_self]

/-! What only one party's entries can answer is answered by its part. -/

theorem find?_partOf {p : ι → Bool} (h : ∀ x ∈ xs, p x = true → party x = k) :
    (partOf party k xs).find? p = xs.find? p := by
  induction xs with
  | nil => rfl
  | cons x xs ih =>
    have hrest := ih fun y hy => h y (List.mem_cons_of_mem x hy)
    have hx := h x List.mem_cons_self
    by_cases hk : party x = k
    · subst hk
      rw [partOf_cons_self, List.find?_cons, List.find?_cons, hrest]
    · have hp : p x = false := by
        cases hpx : p x with
        | false => rfl
        | true => exact absurd (hx hpx) hk
      have hskip : partOf party k (x :: xs) = partOf party k xs :=
        List.filter_cons_of_neg (by simpa using hk)
      rw [hskip, hrest, List.find?_cons, hp]

theorem lastOf_partOf [DecidableEq μ] {key : ι → Option μ} {m : μ}
    (h : ∀ x ∈ xs, key x = some m → party x = k) :
    lastOf key m (partOf party k xs) = lastOf key m xs := by
  unfold lastOf partOf
  rw [List.filter_filter]
  congr 1
  apply List.filter_congr
  intro x hx
  by_cases hkey : key x = some m
  · simp [hkey, h x hx hkey]
  · simp [hkey]

/-- The whole is its parts, in another order. -/
theorem perm_parts {ks : List κ} (hks : ks.Nodup) (hall : ∀ x ∈ xs, party x ∈ ks) :
    xs.Perm (ks.flatMap fun k => partOf party k xs) := by
  induction xs with
  | nil => simp [partOf]
  | cons x xs ih =>
    have hrest := ih fun y hy => hall y (List.mem_cons_of_mem x hy)
    obtain ⟨before, behind, rfl⟩ := List.append_of_mem (hall x List.mem_cons_self)
    have hother : ∀ ks' : List κ, party x ∉ ks' →
        (ks'.flatMap fun k => partOf party k (x :: xs)) = ks'.flatMap fun k => partOf party k xs := by
      intro ks' hnot
      apply List.flatMap_congr
      intro k hk
      have hne : party x ≠ k := fun heq => hnot (heq ▸ hk)
      exact List.filter_cons_of_neg (by simpa using hne)
    have hsplit := List.nodup_append.mp hks
    have hbefore : party x ∉ before :=
      fun hmem => hsplit.2.2 _ hmem _ List.mem_cons_self rfl
    have hbehind : party x ∉ behind := (List.nodup_cons.mp hsplit.2.1).1
    rw [List.flatMap_append, List.flatMap_cons, hother before hbefore, hother behind hbehind,
      partOf_cons_self]
    rw [List.flatMap_append, List.flatMap_cons] at hrest
    exact (hrest.cons x).trans List.perm_middle.symm

end QTom.Lib
