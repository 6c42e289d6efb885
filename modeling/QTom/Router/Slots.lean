import QTom.Router.TopKSpec

/- Where a bounded selection puts its candidates. With room left a candidate takes
   the next slot; in a full selection it takes the slot of the worst one. So the
   slots are the stream's start until a later candidate is better than one of them
   (`run_take`), and one that is may come to stand before its equals
   (`head_of_overtaking`). Those none is better than keep their slots (`run_keeps`), and as
   many later ones get one as there are slots without (`run_nearest`). -/
namespace QTom.Router
open QTom.Lib
variable {F : Type} [F32 F]

namespace BoundedTopK

/-! One push. -/

theorem push_room {b : BoundedTopK F} (hroom : b.len < b.k) (c : CompactCandidate F) :
    (b.push c).storage.intoVec = b.storage.intoVec ++ [c] := by
  have hk : b.k ≠ 0 := by omega
  rw [push, if_neg hk, dif_pos hroom]
  obtain ⟨_, _, hstorage⟩ := (b.pushCandidate hroom c).update_fields (by
    show 0 < (b.storage.push _ c).len
    rw [TopKStorage.len_push]
    exact Nat.succ_pos _)
  rw [hstorage]
  exact b.storage.intoVec_push _ c

theorem len_push_room {b : BoundedTopK F} (hroom : b.len < b.k) (c : CompactCandidate F) :
    (b.push c).len = b.len + 1 := by
  show (b.push c).storage.len = _
  rw [← TopKStorage.length_intoVec, push_room hroom, List.length_append,
    TopKStorage.length_intoVec]
  rfl

/-- With room left the worst stays where it is unless the candidate is above it. -/
theorem push_room_worst {b : BoundedTopK F} (hroom : b.len < b.k) {c w : CompactCandidate F}
    {idx : Nat} (hidx : b.worstIdx = some idx) (hw : b.storage.intoVec[idx]? = some w)
    (hle : compareCandidate b.sort c w ≠ .gt) : (b.push c).worstIdx = some idx := by
  have hk : b.k ≠ 0 := by omega
  have hpos : 0 < (b.pushCandidate hroom c).len := by
    show 0 < (b.storage.push _ c).len
    rw [TopKStorage.len_push]
    exact Nat.succ_pos _
  have hvec : (b.pushCandidate hroom c).storage.intoVec = b.storage.intoVec ++ [c] :=
    b.storage.intoVec_push _ c
  have hlen : (b.pushCandidate hroom c).len = b.storage.intoVec.length + 1 := by
    rw [b.storage.length_intoVec]
    exact TopKStorage.len_push _ _ _
  have hnew : (b.pushCandidate hroom c).storage.intoVec[(b.pushCandidate hroom c).len - 1]? =
      some c := by
    rw [hvec, hlen]
    simp
  have hlt : idx < b.storage.intoVec.length := (List.getElem?_eq_some_iff.mp hw).1
  have hw' : (b.pushCandidate hroom c).storage.intoVec[idx]? = some w := by
    rw [hvec, List.getElem?_append_left hlt]
    exact hw
  rw [push, if_neg hk, dif_pos hroom, update_worst hpos hnew hidx hw']
  exact if_neg hle

/-- The first candidate is the worst. -/
theorem push_first_worst {b : BoundedTopK F} (hroom : b.len < b.k) (hempty : b.len = 0)
    (hw : b.worstIdx = none) (c : CompactCandidate F) : (b.push c).worstIdx = some 0 := by
  have hk : b.k ≠ 0 := by omega
  have hlen : (b.pushCandidate hroom c).len = b.len + 1 := TopKStorage.len_push _ _ _
  have hnone : (b.pushCandidate hroom c).worstIdx = none := hw
  rw [push, if_neg hk, dif_pos hroom, update_first (by omega) hnone, hlen, hempty]

theorem push_replace {b : BoundedTopK F} (hk : b.k ≠ 0) (hfull : ¬ b.len < b.k)
    {c w : CompactCandidate F} {idx : Nat} (hidx : b.worstIdx = some idx)
    (hw : b.storage.intoVec[idx]? = some w) (hlt : compareCandidate b.sort c w = .lt) :
    (b.push c).storage.intoVec = b.storage.intoVec.set idx c := by
  rw [push, if_neg hk, dif_neg hfull, worst_eq_some hidx]
  dsimp only
  rw [candidate_eq (b.within idx hidx) hw, if_pos hlt]
  exact b.storage.intoVec_replace (b.within idx hidx) c

/-- In a full selection a push overwrites one greater candidate or changes nothing. -/
theorem push_full {b : BoundedTopK F} (hfull : ¬ b.len < b.k) (c : CompactCandidate F) :
    b.push c = b ∨ ∃ idx w, b.storage.intoVec[idx]? = some w ∧
      compareCandidate b.sort c w = .lt ∧
      (b.push c).storage.intoVec = b.storage.intoVec.set idx c := by
  by_cases hk : b.k = 0
  · exact Or.inl (by rw [push, if_pos hk])
  · cases hidx : b.worstIdx with
    | none => exact Or.inl (by rw [push, if_neg hk, dif_neg hfull, worst_eq_none hidx])
    | some idx =>
      have hw := b.storage.intoVec_getElem? (b.within idx hidx)
      by_cases hlt : compareCandidate b.sort c (b.candidate idx (b.within idx hidx)) = .lt
      · exact Or.inr ⟨idx, _, hw, hlt, push_replace hk hfull hidx hw hlt⟩
      · refine Or.inl ?_
        rw [push, if_neg hk, dif_neg hfull, worst_eq_some hidx]
        exact if_neg hlt

/-! A run. -/

theorem run_fields (b : BoundedTopK F) (xs : List (CompactCandidate F)) :
    (xs.foldl push b).k = b.k ∧ (xs.foldl push b).sort = b.sort := by
  induction xs generalizing b with
  | nil => exact ⟨rfl, rfl⟩
  | cons x xs ih =>
    obtain ⟨hk, hsort⟩ := b.push_fields x
    obtain ⟨hk', hsort'⟩ := ih (b.push x)
    exact ⟨hk'.trans hk, hsort'.trans hsort⟩

/-- While there is room the slots are the stream. -/
theorem run_room {b : BoundedTopK F} {xs : List (CompactCandidate F)}
    (hroom : b.len + xs.length ≤ b.k) :
    (xs.foldl push b).storage.intoVec = b.storage.intoVec ++ xs := by
  induction xs generalizing b with
  | nil => rw [List.append_nil]; rfl
  | cons x xs ih =>
    rw [List.length_cons] at hroom
    have hlt : b.len < b.k := by omega
    rw [List.foldl_cons, ih (by rw [len_push_room hlt, (b.push_fields x).1]; omega),
      push_room hlt, List.append_assoc]
    rfl

/-- While there is room a first slot no candidate is above stays the worst. -/
theorem run_room_worst {b : BoundedTopK F} {w : CompactCandidate F}
    {xs : List (CompactCandidate F)} (hroom : b.len + xs.length ≤ b.k)
    (hidx : b.worstIdx = some 0) (hw : b.storage.intoVec[0]? = some w)
    (hle : ∀ c ∈ xs, compareCandidate b.sort c w ≠ .gt) :
    (xs.foldl push b).worstIdx = some 0 := by
  induction xs generalizing b with
  | nil => exact hidx
  | cons x xs ih =>
    rw [List.length_cons] at hroom
    have hlt : b.len < b.k := by omega
    obtain ⟨hk, hsort⟩ := b.push_fields x
    rw [List.foldl_cons]
    apply ih
    · rw [len_push_room hlt, hk]
      omega
    · exact push_room_worst hlt hidx hw (hle x List.mem_cons_self)
    · rw [push_room hlt, List.getElem?_append_left (List.getElem?_eq_some_iff.mp hw).1]
      exact hw
    · intro c hc
      rw [hsort]
      exact hle c (List.mem_cons_of_mem x hc)

/-- A full selection none of the stream improves on stays as it is. -/
theorem run_full {b : BoundedTopK F} (hfull : ¬ b.len < b.k) {xs : List (CompactCandidate F)}
    (hnone : ∀ x ∈ xs, ∀ a ∈ b.storage.intoVec, compareCandidate b.sort x a ≠ .lt) :
    xs.foldl push b = b := by
  induction xs with
  | nil => rfl
  | cons x xs ih =>
    rw [List.foldl_cons]
    rcases push_full hfull x with hsame | ⟨idx, w, hw, hlt, _⟩
    · rw [hsame]
      exact ih fun y hy => hnone y (List.mem_cons_of_mem x hy)
    · exact absurd hlt (hnone x List.mem_cons_self w (List.mem_of_getElem? hw))

/-- A candidate no follower is below keeps its slot. -/
theorem run_keeps {b : BoundedTopK F} {i : Nat} {kept : CompactCandidate F}
    (hslot : b.storage.intoVec[i]? = some kept) {xs : List (CompactCandidate F)}
    (hnone : ∀ x ∈ xs, compareCandidate b.sort x kept ≠ .lt) :
    (xs.foldl push b).storage.intoVec[i]? = some kept := by
  induction xs generalizing b with
  | nil => exact hslot
  | cons x xs ih =>
    have hlt : i < b.storage.intoVec.length := (List.getElem?_eq_some_iff.mp hslot).1
    rw [List.foldl_cons]
    apply ih
    · by_cases hroom : b.len < b.k
      · rw [push_room hroom, List.getElem?_append_left hlt]
        exact hslot
      · rcases push_full hroom x with hsame | ⟨idx, w, hw, hbelow, hvec⟩
        · rw [hsame]
          exact hslot
        · -- the slot overwritten held something greater, so it is another one
          have hne : idx ≠ i := by
            intro heq
            rw [heq, hslot] at hw
            rw [← Option.some.inj hw] at hbelow
            exact hnone x List.mem_cons_self hbelow
          rw [hvec, List.getElem?_set_ne hne]
          exact hslot
    · intro y hy
      rw [(b.push_fields x).2]
      exact hnone y (List.mem_cons_of_mem x hy)

/-! The nearest in a full selection. -/

section Nearest
variable [Std.TransCmp (F32.totalCmp (F := F))] {sort : CandidateSort}
  {all : List (CompactCandidate F)}

/-- A full selection that takes no candidate has none above it. -/
theorem not_taken {b : BoundedTopK F} {seen rest : List (CompactCandidate F)}
    (h : b.Holds seen rest) {x : CompactCandidate F} (hsame : b.push x = b) :
    ∀ a ∈ b.storage.intoVec, (compareCandidate b.sort a x).isLE = true := by
  obtain ⟨rest', hnext⟩ := push_holds h x
  rw [hsame] at hnext
  have hmem : x ∈ rest' := by
    have hperm := (hnext.selection.perm.trans (h.selection.perm.symm.append_right [x]))
    rw [List.append_assoc, List.perm_append_left_iff] at hperm
    exact hperm.mem_iff.mpr (List.mem_append_right rest List.mem_cons_self)
  intro a ha
  exact hnext.selection.least a ha x hmem

/-- The step: one of the nearest is left out only where every slot holds one, and takes
the slot of one that is not. -/
theorem push_nearest {b : BoundedTopK F} {seen rest : List (CompactCandidate F)}
    (h : b.Holds seen rest) (hsort : b.sort = sort) (hfull : ¬ b.len < b.k)
    {x : CompactCandidate F} (hx : x ∈ all) :
    (b.push x = b ∧ (isLeast (compareCandidate sort) all x = true →
      b.storage.intoVec.countP (isLeast (compareCandidate sort) all) = b.storage.intoVec.length)) ∨
    ∃ idx w, b.storage.intoVec[idx]? = some w ∧ isLeast (compareCandidate sort) all w = false ∧
      (b.push x).storage.intoVec = b.storage.intoVec.set idx x := by
  subst hsort
  rcases push_full hfull x with hsame | ⟨idx, w, hw, hlt, hvec⟩
  · refine Or.inl ⟨hsame, ?_⟩
    intro hnear
    rw [List.countP_eq_length]
    exact fun a ha => isLeast_of_isLE hnear (not_taken h hsame a ha)
  · exact Or.inr ⟨idx, w, hw, not_isLeast_of_lt hx hlt, hvec⟩

/-- The run: one of the nearest stands in its slot from the start, or is among the first
that come, as many as the slots without one. -/
theorem run_nearest {b : BoundedTopK F} {seen rest xs : List (CompactCandidate F)}
    (h : b.Holds seen rest) (hsort : b.sort = sort) (hfull : ¬ b.len < b.k)
    (hall : ∀ x ∈ xs, x ∈ all) {i : Nat} {c : CompactCandidate F}
    (hslot : (xs.foldl push b).storage.intoVec[i]? = some c)
    (hnear : isLeast (compareCandidate sort) all c = true) :
    b.storage.intoVec[i]? = some c ∨
      c ∈ (xs.filter (isLeast (compareCandidate sort) all)).take (b.storage.intoVec.length -
        b.storage.intoVec.countP (isLeast (compareCandidate sort) all)) := by
  induction xs generalizing b seen rest with
  | nil => exact Or.inl hslot
  | cons x xs ih =>
    obtain ⟨rest', hnext⟩ := push_holds h x
    obtain ⟨hk, hsort'⟩ := b.push_fields x
    have hrest := fun hfull' => ih hnext (hsort'.trans hsort) hfull'
      (fun y hy => hall y (List.mem_cons_of_mem x hy)) hslot
    rcases push_nearest h hsort hfull (hall x List.mem_cons_self) with
      ⟨hsame, hcount⟩ | ⟨idx, w, hw, hfar, hvec⟩
    · rw [hsame] at hrest
      rcases hrest hfull with hstart | hlate
      · exact Or.inl hstart
      · by_cases hx : isLeast (compareCandidate sort) all x = true
        · rw [hcount hx, Nat.sub_self, List.take_zero] at hlate
          cases hlate
        · rw [List.filter_cons_of_neg hx]
          exact Or.inr hlate
    · obtain ⟨hidx, rfl⟩ := List.getElem?_eq_some_iff.mp hw
      have hlen : (b.push x).storage.intoVec.length = b.storage.intoVec.length := by
        rw [hvec, List.length_set]
      have hfull' : ¬ (b.push x).len < (b.push x).k := by
        rw [len, ← TopKStorage.length_intoVec, hlen, TopKStorage.length_intoVec, hk]
        exact hfull
      -- one slot holds a candidate that is not nearest
      have hbelow : b.storage.intoVec.countP (isLeast (compareCandidate sort) all) <
          b.storage.intoVec.length := by
        refine lt_of_le_of_ne List.countP_le_length ?_
        intro heq
        rw [List.countP_eq_length.mp heq _ (List.getElem_mem hidx)] at hfar
        cases hfar
      have hset : (b.storage.intoVec.set idx x)[i]? = some c →
          c = x ∨ b.storage.intoVec[i]? = some c := by
        intro hstart
        rw [List.getElem?_set] at hstart
        split at hstart
        · exact Or.inl (Option.some.inj hstart).symm
        · exact Or.inr hstart
      rw [hlen, hvec, List.countP_set hidx, hfar] at hrest
      by_cases hx : isLeast (compareCandidate sort) all x = true
      · rw [hx] at hrest
        rw [List.filter_cons_of_pos hx]
        obtain ⟨room, hroom⟩ := Nat.exists_eq_add_of_lt hbelow
        have hleft : b.storage.intoVec.length -
            (b.storage.intoVec.countP (isLeast (compareCandidate sort) all) - 0 + 1) = room := by
          omega
        have hnow : b.storage.intoVec.length -
            b.storage.intoVec.countP (isLeast (compareCandidate sort) all) = room + 1 := by
          omega
        rw [if_neg Bool.false_ne_true, if_pos rfl, hleft] at hrest
        rw [hnow, List.take_succ_cons]
        rcases hrest hfull' with hstart | hlate
        · rcases hset hstart with rfl | hold
          · exact Or.inr List.mem_cons_self
          · exact Or.inl hold
        · exact Or.inr (List.mem_cons_of_mem x hlate)
      · rw [if_neg Bool.false_ne_true, if_neg hx, Nat.sub_zero, Nat.add_zero] at hrest
        rw [List.filter_cons_of_neg hx]
        rcases hrest hfull' with hstart | hlate
        · rcases hset hstart with rfl | hold
          · exact absurd hnear hx
          · exact Or.inl hold
        · exact Or.inr hlate

end Nearest

/-! From the start. -/

omit [F32 F] in
theorem len_new (k : Nat) (sort : CandidateSort) : (new k sort : BoundedTopK F).len = 0 := by
  show (TopKStorage.new k).len = 0
  rw [← TopKStorage.length_intoVec, TopKStorage.intoVec_new]
  rfl

/-- The first `k` candidates fill the slots in order. -/
theorem run_new {k : Nat} (sort : CandidateSort) {xs : List (CompactCandidate F)}
    (hlen : xs.length ≤ k) : (xs.foldl push (new k sort)).storage.intoVec = xs := by
  rw [run_room (by rw [len_new, Nat.zero_add]; exact hlen)]
  show (TopKStorage.new k).intoVec ++ xs = xs
  rw [TopKStorage.intoVec_new, List.nil_append]

/-- If no later candidate is below one of the first `k`, those are kept in order. -/
theorem run_take (k : Nat) (sort : CandidateSort) {xs : List (CompactCandidate F)}
    (hnone : ∀ x ∈ xs.drop k, ∀ a ∈ xs.take k, compareCandidate sort x a ≠ .lt) :
    (xs.foldl push (new k sort)).storage.intoVec = xs.take k := by
  by_cases hlen : xs.length ≤ k
  · rw [run_new sort hlen, List.take_of_length_le hlen]
  · have hfilled : (xs.take k).length = k := by
      rw [List.length_take]
      omega
    have hvec := run_new sort (Nat.le_of_eq hfilled)
    have hfull : ¬ ((xs.take k).foldl push (new k sort)).len <
        ((xs.take k).foldl push (new k sort)).k := by
      rw [len, ← TopKStorage.length_intoVec, hvec, hfilled, (run_fields _ _).1]
      exact Nat.lt_irrefl k
    conv_lhs => rw [← List.take_append_drop k xs, List.foldl_append]
    rw [run_full hfull, hvec]
    intro x hx a ha
    rw [hvec] at ha
    rw [(run_fields _ _).2]
    exact hnone x hx a ha

/-- A greatest candidate comes first and fills a slot; the candidate after the first
`k` is below it, takes that slot, and no follower is below it. -/
theorem head_of_overtaking {k : Nat} {sort : CandidateSort} {w x : CompactCandidate F}
    {filling rest : List (CompactCandidate F)} (hk : filling.length + 1 = k)
    (hmax : ∀ c ∈ filling, compareCandidate sort c w ≠ .gt)
    (hlt : compareCandidate sort x w = .lt)
    (hrest : ∀ c ∈ rest, compareCandidate sort c x ≠ .lt) :
    ((w :: filling ++ x :: rest).foldl push (new k sort)).storage.intoVec[0]? = some x := by
  have hfilled := run_new sort (show (w :: filling).length ≤ k from Nat.le_of_eq hk)
  have hfirst := run_new sort (show [w].length ≤ k by rw [List.length_singleton]; omega)
  obtain ⟨hk', hsort⟩ := run_fields (new k sort) (w :: filling)
  have hworst : ((w :: filling).foldl push (new k sort)).worstIdx = some 0 := by
    rw [List.foldl_cons]
    apply run_room_worst
    · rw [len_push_room (by rw [len_new]; show 0 < k; omega), len_new, (push_fields _ w).1]
      show 0 + 1 + filling.length ≤ k
      omega
    · exact push_first_worst (by rw [len_new]; show 0 < k; omega) (len_new k sort) rfl w
    · show ([w].foldl push (new k sort)).storage.intoVec[0]? = some w
      rw [hfirst]
      rfl
    · intro c hc
      rw [(push_fields _ w).2]
      exact hmax c hc
  have hfull : ¬ ((w :: filling).foldl push (new k sort)).len <
      ((w :: filling).foldl push (new k sort)).k := by
    rw [len, ← TopKStorage.length_intoVec, hfilled, hk', List.length_cons, hk]
    exact Nat.lt_irrefl k
  rw [List.foldl_append, List.foldl_cons]
  apply run_keeps
  · rw [push_replace (by rw [hk']; show k ≠ 0; omega) hfull hworst (by rw [hfilled]; rfl)
      (by rw [hsort]; exact hlt), hfilled]
    rfl
  · intro c hc
    rw [(push_fields _ x).2, hsort]
    exact hrest c hc

end BoundedTopK

end QTom.Router
