import QTom.Router.TopK

/- What a selection holds of the stream pushed into it. `Holds` ties the two: the
   kept candidates are `k` least ones of the stream, and `worstIdx` names a greatest
   of them. `push_holds` is the step, `run_holds` the run, and with equivalent
   candidates equal `intoVec_run` reads the result: the stream, sorted and cut to
   `k`. Only the total preorder of `total_cmp` is used. -/
namespace QTom.Router
open QTom.Lib
variable {F : Type} [F32 F]

/-! The sort key. -/

/-- What `compare_candidate` reads of a candidate. -/
def CandidateSort.sortKey {F : Type} (sort : CandidateSort) (c : CompactCandidate F) : F × Nat :=
  (sort.key c, c.agentId)

def compareSortKey (left right : F × Nat) : Ordering :=
  (F32.totalCmp left.1 right.1).then (compare left.2 right.2)

instance [Std.TransCmp (F32.totalCmp (F := F))] : Std.TransCmp (compareSortKey (F := F)) :=
  have _ := transCmp_comap (F32.totalCmp (F := F)) (Prod.fst (β := Nat))
  inferInstanceAs (Std.TransCmp (compareLex (fun l r : F × Nat => F32.totalCmp l.1 r.1)
    (compareOn Prod.snd)))

instance [Std.LawfulEqCmp (F32.totalCmp (F := F))] : Std.LawfulEqCmp (compareSortKey (F := F)) where
  compare_self := by
    intro a
    unfold compareSortKey
    rw [Ordering.then_eq_eq]
    exact ⟨Std.ReflCmp.compare_self, Std.ReflCmp.compare_self⟩
  eq_of_compare := by
    intro a b h
    unfold compareSortKey at h
    rw [Ordering.then_eq_eq] at h
    exact Prod.ext (Std.LawfulEqCmp.eq_of_compare h.1) (compare_eq_iff_eq.mp h.2)

namespace BestCandidate

/-- An enabled winner is a selection of one. -/
structure Holds (b : BestCandidate F) (xs rest : List (CompactCandidate F)) : Prop where
  tracked : b.trackIdeal = true
  selection : Selection (compareCandidate b.sort) 1 xs b.best.toList rest

theorem push_sort (b : BestCandidate F) (c : CompactCandidate F) : (b.push c).sort = b.sort := by
  unfold push
  split
  · split
    · split <;> rfl
    · rfl
  · rfl

theorem push_trackIdeal (b : BestCandidate F) (c : CompactCandidate F) :
    (b.push c).trackIdeal = b.trackIdeal := by
  unfold push
  split
  · split
    · split <;> rfl
    · rfl
  · rfl

theorem push_first {b : BestCandidate F} (ht : b.trackIdeal = true) (hb : b.best = none)
    (c : CompactCandidate F) : b.push c = { b with best := some c } := by
  simp only [push, ht, hb, if_true]

theorem push_better {b : BestCandidate F} {best c : CompactCandidate F} (ht : b.trackIdeal = true)
    (hb : b.best = some best) (hlt : compareCandidate b.sort c best = .lt) :
    b.push c = { b with best := some c } := by
  simp only [push, ht, hb, hlt, if_true]

theorem push_worse {b : BestCandidate F} {best c : CompactCandidate F} (hb : b.best = some best)
    (hlt : compareCandidate b.sort c best ≠ .lt) : b.push c = b := by
  simp only [push, hb, if_neg hlt, ite_self]

theorem push_holds [Std.TransCmp (F32.totalCmp (F := F))] {b : BestCandidate F}
    {xs rest : List (CompactCandidate F)} (h : b.Holds xs rest) (c : CompactCandidate F) :
    ∃ rest', (b.push c).Holds (xs ++ [c]) rest' := by
  have hsel := h.selection
  cases hb : b.best with
  | none =>
    rw [hb] at hsel
    rw [push_first h.tracked hb]
    exact ⟨rest, h.tracked, hsel.room Nat.zero_lt_one c⟩
  | some best =>
    rw [hb] at hsel
    by_cases hlt : compareCandidate b.sort c best = .lt
    · rw [push_better h.tracked hb hlt]
      refine ⟨rest ++ [best], h.tracked, ?_⟩
      refine hsel.replace rfl (i := 0) Nat.zero_lt_one ?_ hlt
      intro a ha
      rw [List.mem_singleton.mp ha]
      exact isLE_self _ best
    · rw [push_worse hb hlt]
      refine ⟨rest ++ [c], h.tracked, ?_⟩
      rw [hb]
      refine hsel.skip rfl ?_
      intro a ha
      rw [List.mem_singleton.mp ha]
      exact isLE_of_not_lt hlt

end BestCandidate

namespace BoundedTopK

/-- The worst index names a greatest of the kept candidates. -/
def NamesWorst (b : BoundedTopK F) : Prop :=
  ∃ idx w, b.worstIdx = some idx ∧ b.storage.intoVec[idx]? = some w ∧
    ∀ a ∈ b.storage.intoVec, (compareCandidate b.sort a w).isLE = true

/-- The kept candidates are `k` least of the stream. -/
structure Holds (b : BoundedTopK F) (xs rest : List (CompactCandidate F)) : Prop where
  selection : Selection (compareCandidate b.sort) b.k xs b.storage.intoVec rest
  worst : 0 < b.len → b.NamesWorst

theorem update_fields (b : BoundedTopK F) (h : 0 < b.len) :
    (b.updateWorstAfterPush h).k = b.k ∧ (b.updateWorstAfterPush h).sort = b.sort ∧
      (b.updateWorstAfterPush h).storage = b.storage := by
  unfold updateWorstAfterPush
  cases b.worst with
  | none => exact ⟨rfl, rfl, rfl⟩
  | some w => dsimp only; split <;> exact ⟨rfl, rfl, rfl⟩

theorem update_first {b : BoundedTopK F} (h : 0 < b.len) (hw : b.worstIdx = none) :
    (b.updateWorstAfterPush h).worstIdx = some (b.len - 1) := by
  unfold updateWorstAfterPush
  rw [worst_eq_none hw]

theorem update_worst {b : BoundedTopK F} (h : 0 < b.len) {idx : Nat} {new w : CompactCandidate F}
    (hnew : b.storage.intoVec[b.len - 1]? = some new) (hidx : b.worstIdx = some idx)
    (hw : b.storage.intoVec[idx]? = some w) :
    (b.updateWorstAfterPush h).worstIdx =
      if compareCandidate b.sort new w = .gt then some (b.len - 1) else some idx := by
  unfold updateWorstAfterPush
  rw [worst_eq_some hidx]
  dsimp only
  rw [candidate_eq (Nat.sub_lt h Nat.one_pos) hnew, candidate_eq (b.within idx hidx) hw]
  split
  · rfl
  · exact hidx

/-- After a push the worst index is right again if it was right for the others. -/
theorem update_namesWorst [Std.TransCmp (F32.totalCmp (F := F))] {b : BoundedTopK F}
    (h : 0 < b.len) {others : List (CompactCandidate F)} {new : CompactCandidate F}
    (hvec : b.storage.intoVec = others ++ [new])
    (hothers : others ≠ [] → ∃ idx w, b.worstIdx = some idx ∧ others[idx]? = some w ∧
      ∀ a ∈ others, (compareCandidate b.sort a w).isLE = true)
    (hnone : others = [] → b.worstIdx = none) : (b.updateWorstAfterPush h).NamesWorst := by
  have hlen : b.len = others.length + 1 := by
    have := TopKStorage.length_intoVec b.storage
    rw [hvec, List.length_append] at this
    exact this.symm
  have hnew : b.storage.intoVec[b.len - 1]? = some new := by
    rw [hvec, hlen]
    simp
  obtain ⟨_, hsort, hstorage⟩ := b.update_fields h
  unfold NamesWorst
  rw [hsort, hstorage]
  by_cases hempty : others = []
  · refine ⟨_, new, update_first h (hnone hempty), hnew, ?_⟩
    intro a ha
    rw [hvec, hempty] at ha
    rw [List.mem_singleton.mp ha]
    exact isLE_self _ new
  · obtain ⟨idx, w, hidx, hw, hmax⟩ := hothers hempty
    have hlt : idx < others.length := List.getElem?_eq_some_iff.mp hw |>.1
    have hw' : b.storage.intoVec[idx]? = some w := by
      rw [hvec, List.getElem?_append_left hlt]
      exact hw
    have hstep := update_worst h hnew hidx hw'
    -- whichever of the two is named, the other ones stay below `w`
    have hbelow : ∀ m, (compareCandidate b.sort w m).isLE = true →
        (compareCandidate b.sort new m).isLE = true →
        ∀ a ∈ b.storage.intoVec, (compareCandidate b.sort a m).isLE = true := by
      intro m hm hnm a ha
      rw [hvec] at ha
      rcases List.mem_append.mp ha with ha | ha
      · exact Std.TransCmp.isLE_trans (hmax a ha) hm
      · rw [List.mem_singleton.mp ha]
        exact hnm
    by_cases hgt : compareCandidate b.sort new w = .gt
    · rw [if_pos hgt] at hstep
      exact ⟨_, new, hstep, hnew, hbelow new (isLE_of_gt hgt) (isLE_self _ new)⟩
    · rw [if_neg hgt] at hstep
      exact ⟨_, w, hstep, hw', hbelow w (isLE_self _ w) (Ordering.isLE_iff_ne_gt.mpr hgt)⟩

theorem recompute_namesWorst [Std.TransCmp (F32.totalCmp (F := F))] {b : BoundedTopK F}
    (h : 0 < b.len) : b.recomputeWorst.NamesWorst := by
  have _ := transCmp_comap (compareCandidate (F := F) b.sort)
    (fun i : Fin b.len => b.candidate i i.isLt)
  have hne : List.finRange b.len ≠ [] := by
    intro hnil
    have hmem := List.mem_finRange (⟨0, h⟩ : Fin b.len)
    rw [hnil] at hmem
    cases hmem
  obtain ⟨i, hi⟩ := Option.isSome_iff_exists.mp (maxBy_isSome
    (fun left right : Fin b.len =>
      compareCandidate b.sort (b.candidate left left.isLt) (b.candidate right right.isLt)) hne)
  obtain ⟨_, hmax⟩ := maxBy_spec hi
  refine ⟨i.val, b.candidate i i.isLt, ?_, b.storage.intoVec_getElem? i.isLt, ?_⟩
  · show Option.map Fin.val (maxBy _ _) = _
    rw [hi]
    rfl
  · intro a ha
    obtain ⟨j, hj, rfl⟩ := List.getElem_of_mem ha
    have hj' : j < b.len := by
      rw [TopKStorage.length_intoVec] at hj
      exact hj
    rw [← candidate_eq hj' (List.getElem?_eq_getElem hj)]
    exact hmax ⟨j, hj'⟩ (List.mem_finRange _)

theorem new_holds (k : Nat) (sort : CandidateSort) :
    (new k sort : BoundedTopK F).Holds [] [] := by
  refine ⟨?_, ?_⟩
  · show Selection _ k [] (TopKStorage.new k).intoVec []
    rw [TopKStorage.intoVec_new]
    exact Selection.nil
  · intro h
    have hlen : (TopKStorage.new k : TopKStorage (CompactCandidate F)).len = 0 := by
      rw [← TopKStorage.length_intoVec, TopKStorage.intoVec_new]
      rfl
    exact absurd h (by show ¬ 0 < (TopKStorage.new k).len; rw [hlen]; exact Nat.lt_irrefl 0)

/-- With room left the candidate is kept. -/
theorem pushCandidate_holds [Std.TransCmp (F32.totalCmp (F := F))] {b : BoundedTopK F}
    {xs rest : List (CompactCandidate F)} (h : b.Holds xs rest) (hroom : b.len < b.k)
    (c : CompactCandidate F) (hpos : 0 < (b.pushCandidate hroom c).len) :
    ((b.pushCandidate hroom c).updateWorstAfterPush hpos).Holds (xs ++ [c]) rest := by
  have hlen : b.storage.intoVec.length = b.len := b.storage.length_intoVec
  have hvec : (b.pushCandidate hroom c).storage.intoVec = b.storage.intoVec ++ [c] :=
    b.storage.intoVec_push _ c
  obtain ⟨hk, hsort, hstorage⟩ := (b.pushCandidate hroom c).update_fields hpos
  refine ⟨?_, fun _ => update_namesWorst hpos hvec ?_ ?_⟩
  · rw [hk, hsort, hstorage, hvec]
    exact h.selection.room (by rw [hlen]; exact hroom) c
  · intro hne
    have hb : 0 < b.len := by
      rw [← hlen]
      exact List.length_pos_iff.mpr hne
    exact h.worst hb
  · intro hnil
    -- an empty selection has no worst index
    cases hw : b.worstIdx with
    | none => exact hw
    | some idx =>
      have hidx : idx < b.len := b.within idx hw
      rw [hnil, List.length_nil] at hlen
      omega

/-- When the selection is full a better candidate takes the place of a greatest one. -/
theorem replaceCandidate_holds [Std.TransCmp (F32.totalCmp (F := F))] {b : BoundedTopK F}
    {xs rest : List (CompactCandidate F)} (h : b.Holds xs rest)
    (hfull : b.storage.intoVec.length = b.k) {c w : CompactCandidate F} {idx : Nat}
    (hidx : idx < b.len) (hw : b.storage.intoVec[idx]? = some w)
    (hmax : ∀ a ∈ b.storage.intoVec, (compareCandidate b.sort a w).isLE = true)
    (hlt : compareCandidate b.sort c w = .lt) :
    (b.replaceCandidate idx hidx c).recomputeWorst.Holds (xs ++ [c]) (rest ++ [w]) := by
  obtain ⟨hin, rfl⟩ := List.getElem?_eq_some_iff.mp hw
  refine ⟨?_, fun hpos => recompute_namesWorst hpos⟩
  show Selection _ b.k _ (b.storage.replace idx _ c).intoVec _
  rw [TopKStorage.intoVec_replace]
  exact h.selection.replace hfull hin hmax hlt

/-- The step: a push keeps the selection of a stream one longer. -/
theorem push_holds [Std.TransCmp (F32.totalCmp (F := F))] {b : BoundedTopK F}
    {xs rest : List (CompactCandidate F)} (h : b.Holds xs rest) (c : CompactCandidate F) :
    ∃ rest', (b.push c).Holds (xs ++ [c]) rest' := by
  have hbound := h.selection.bound
  have hlen : b.storage.intoVec.length = b.len := b.storage.length_intoVec
  unfold push
  by_cases hk : b.k = 0
  · rw [if_pos hk]
    have hkept : b.storage.intoVec = [] := List.eq_nil_of_length_eq_zero (by omega)
    refine ⟨rest ++ [c], h.selection.skip (by rw [hkept, hk]; rfl) ?_, h.worst⟩
    intro a ha
    rw [hkept] at ha
    cases ha
  · rw [if_neg hk]
    by_cases hroom : b.len < b.k
    · rw [dif_pos hroom]
      exact ⟨rest, pushCandidate_holds h hroom c _⟩
    · rw [dif_neg hroom]
      have hfull : b.storage.intoVec.length = b.k := by omega
      obtain ⟨idx, w, hidx, hw, hmax⟩ := h.worst (by omega)
      rw [worst_eq_some hidx]
      dsimp only
      rw [candidate_eq (b.within idx hidx) hw]
      -- the candidate is compared with the worst kept one only, a greatest of them
      by_cases hlt : compareCandidate b.sort c w = .lt
      · rw [if_pos hlt]
        exact ⟨rest ++ [w], replaceCandidate_holds h hfull (b.within idx hidx) hw hmax hlt⟩
      · rw [if_neg hlt]
        refine ⟨rest ++ [c], h.selection.skip hfull ?_, h.worst⟩
        intro a ha
        exact Std.TransCmp.isLE_trans (hmax a ha) (isLE_of_not_lt hlt)

theorem push_fields (b : BoundedTopK F) (c : CompactCandidate F) :
    (b.push c).k = b.k ∧ (b.push c).sort = b.sort := by
  unfold push
  split
  · exact ⟨rfl, rfl⟩
  · split
    · obtain ⟨hk, hsort, _⟩ := update_fields (b.pushCandidate _ c) _
      exact ⟨hk, hsort⟩
    · cases b.worst with
      | none => exact ⟨rfl, rfl⟩
      | some idx => dsimp only; split <;> exact ⟨rfl, rfl⟩

/-- The run: after a stream the selection holds that stream. -/
theorem run_holds [Std.TransCmp (F32.totalCmp (F := F))] {b : BoundedTopK F}
    {seen rest : List (CompactCandidate F)} (h : b.Holds seen rest) (xs : List (CompactCandidate F)) :
    (xs.foldl push b).k = b.k ∧ (xs.foldl push b).sort = b.sort ∧
      ∃ rest', (xs.foldl push b).Holds (seen ++ xs) rest' := by
  induction xs generalizing b seen rest with
  | nil => exact ⟨rfl, rfl, rest, by rw [List.append_nil]; exact h⟩
  | cons x xs ih =>
    obtain ⟨rest', hstep⟩ := push_holds h x
    obtain ⟨hk, hsort, rest'', hrun⟩ := ih hstep
    obtain ⟨hk', hsort'⟩ := b.push_fields x
    refine ⟨hk.trans hk', hsort.trans hsort', rest'', ?_⟩
    rw [List.append_assoc] at hrun
    exact hrun

/-- What a bounded selection returns: the stream sorted and cut to `k`. -/
theorem intoVec_run [Std.TransCmp (F32.totalCmp (F := F))] (k : Nat) (sort : CandidateSort)
    {xs : List (CompactCandidate F)}
    (hinj : ∀ a ∈ xs, ∀ b ∈ xs, compareCandidate sort a b = .eq → a = b) :
    (xs.foldl push (new k sort)).intoVec = (sortBy (compareCandidate sort) xs).take k := by
  obtain ⟨hk, hsort, rest, hrun⟩ := run_holds (new_holds k sort) xs
  have hsel := hrun.selection
  rw [hk, hsort] at hsel
  unfold intoVec
  rw [hsort]
  exact hsel.sort_eq hinj

/-- With an order that tells unequal distances apart, the returned keys are those of the
    stream sorted and cut to `k`, whatever ties. -/
theorem keys_run [Std.TransCmp (F32.totalCmp (F := F))] [Std.LawfulEqCmp (F32.totalCmp (F := F))]
    (k : Nat) (sort : CandidateSort) (xs : List (CompactCandidate F)) :
    (xs.foldl push (new k sort)).intoVec.map sort.sortKey =
      ((sortBy (compareCandidate sort) xs).take k).map sort.sortKey := by
  obtain ⟨hk, hsort, rest, hrun⟩ := run_holds (new_holds k sort) xs
  have hsel := hrun.selection
  rw [hk, hsort] at hsel
  unfold intoVec
  rw [hsort]
  have hkeys : Selection (fun a b => compareSortKey (sort.sortKey a) (sort.sortKey b)) k xs _ rest :=
    hsel
  exact hkeys.map_sort_eq

/-- What a run stores: `min k` of the stream's length many, a sub-multiset of it, and the
    worst index names a greatest of them. -/
theorem stored_run [Std.TransCmp (F32.totalCmp (F := F))] (k : Nat) (sort : CandidateSort)
    (xs : List (CompactCandidate F)) :
    let b := xs.foldl push (new k sort)
    b.len = min k xs.length ∧ b.intoVec.Subperm xs ∧ (0 < b.len → b.NamesWorst) := by
  obtain ⟨hk, _, rest, hrun⟩ := run_holds (new_holds k sort) xs
  have hsel := hrun.selection
  rw [hk] at hsel
  refine ⟨?_, ?_, hrun.worst⟩
  · rw [len, ← TopKStorage.length_intoVec]
    exact hsel.length_kept
  · exact (sortBy_perm _).subperm.trans hsel.subperm

end BoundedTopK

namespace BestCandidate

theorem new_holds (sort : CandidateSort) : (new sort true : BestCandidate F).Holds [] [] :=
  ⟨rfl, Selection.nil⟩

theorem run_holds [Std.TransCmp (F32.totalCmp (F := F))] {b : BestCandidate F}
    {seen rest : List (CompactCandidate F)} (h : b.Holds seen rest) (xs : List (CompactCandidate F)) :
    (xs.foldl push b).sort = b.sort ∧ ∃ rest', (xs.foldl push b).Holds (seen ++ xs) rest' := by
  induction xs generalizing b seen rest with
  | nil => exact ⟨rfl, rest, by rw [List.append_nil]; exact h⟩
  | cons x xs ih =>
    obtain ⟨rest', hstep⟩ := push_holds h x
    obtain ⟨hsort, rest'', hrun⟩ := ih hstep
    refine ⟨hsort.trans (b.push_sort x), rest'', ?_⟩
    rw [List.append_assoc] at hrun
    exact hrun

/-- What an enabled winner returns: the head of the sorted stream. -/
theorem best_run [Std.TransCmp (F32.totalCmp (F := F))] (sort : CandidateSort)
    {xs : List (CompactCandidate F)}
    (hinj : ∀ a ∈ xs, ∀ b ∈ xs, compareCandidate sort a b = .eq → a = b) :
    (xs.foldl push (new sort true)).best = (sortBy (compareCandidate sort) xs).head? := by
  obtain ⟨hsort, rest, hrun⟩ := run_holds (new_holds sort) xs
  have hsel := hrun.selection
  rw [hsort] at hsel
  have heq : sortBy (compareCandidate sort) (xs.foldl push (new sort true)).best.toList =
      (sortBy (compareCandidate sort) xs).take 1 := hsel.sort_eq hinj
  have hhead := congrArg List.head? heq
  rw [List.head?_take, if_neg Nat.one_ne_zero] at hhead
  rw [← hhead]
  cases (xs.foldl push (new sort true)).best <;> rfl

/-- A disabled winner stays empty. -/
theorem best_disabled (sort : CandidateSort) (xs : List (CompactCandidate F)) :
    (xs.foldl push (new sort false)).best = none := by
  have hpush : ∀ c, push (new sort false) c = (new sort false : BestCandidate F) := fun _ => rfl
  induction xs with
  | nil => rfl
  | cons x xs ih =>
    rw [List.foldl_cons, hpush]
    exact ih

end BestCandidate

end QTom.Router
