import Mathlib.Data.List.Infix
import QTom.Lib.TopK

/- Where an entry stands in a sorted list. Its rank is the number of entries below it, and
   the first `k` of the sorted list are the entries of rank below `k`. Raising one entry
   raises its rank only: it joins no selection, and what is selected beside it is selected
   still, in the same order (`raise_kept`, `raise_others`). -/
namespace QTom.Lib
variable {α : Type*} {cmp : α → α → Ordering}

/-- How many entries are below `a`. -/
def rank (cmp : α → α → Ordering) (xs : List α) (a : α) : Nat :=
  xs.countP fun b => cmp b a = .lt

theorem rank_append (xs ys : List α) (a : α) :
    rank cmp (xs ++ ys) a = rank cmp xs a + rank cmp ys a := List.countP_append

theorem rank_perm {xs ys : List α} (h : xs.Perm ys) (a : α) : rank cmp xs a = rank cmp ys a :=
  h.countP_eq _

theorem rank_le_length (xs : List α) (a : α) : rank cmp xs a ≤ xs.length := List.countP_le_length

theorem rank_eq_length {xs : List α} {a : α} (h : ∀ b ∈ xs, cmp b a = .lt) :
    rank cmp xs a = xs.length := by
  apply List.countP_eq_length.mpr
  intro b hb
  exact decide_eq_true (h b hb)

variable [Std.TransCmp cmp]

/-- Nothing from an entry on is below it. -/
theorem rank_eq_zero {xs : List α} {a : α} (h : ∀ b ∈ xs, (cmp a b).isLE = true) :
    rank cmp xs a = 0 := by
  apply List.countP_eq_zero.mpr
  intro b hb hlt
  have hle := h b hb
  rw [cmp_swap cmp, of_decide_eq_true hlt] at hle
  cases hle

/-- A higher entry has no lower rank. -/
theorem rank_mono (xs : List α) {a b : α} (h : (cmp a b).isLE = true) :
    rank cmp xs a ≤ rank cmp xs b := by
  apply List.countP_mono_left
  intro c _ hlt
  exact decide_eq_true (Std.TransCmp.lt_of_lt_of_isLE (of_decide_eq_true hlt) h)

/-- The first `k` of the sorted list are the entries of rank below `k`. -/
theorem mem_take_sortBy_iff {xs : List α} (hinj : ∀ a ∈ xs, ∀ b ∈ xs, cmp a b = .eq → a = b)
    {k : Nat} {a : α} (ha : a ∈ xs) : a ∈ (sortBy cmp xs).take k ↔ rank cmp xs a < k := by
  have hsorted : (sortBy cmp xs).Pairwise (fun a b => (cmp a b).isLE = true) := sortBy_pairwise xs
  rw [← rank_perm (sortBy_perm xs)]
  refine ⟨?_, ?_⟩
  · intro hmem
    obtain ⟨before, after, hsplit⟩ := List.append_of_mem hmem
    have hall : sortBy cmp xs = before ++ a :: (after ++ (sortBy cmp xs).drop k) := by
      conv_lhs => rw [← List.take_append_drop k (sortBy cmp xs), hsplit]
      simp
    have hafter : rank cmp (a :: (after ++ (sortBy cmp xs).drop k)) a = 0 := by
      rw [hall] at hsorted
      obtain ⟨_, hlater, _⟩ := List.pairwise_append.mp hsorted
      apply rank_eq_zero
      intro b hb
      rcases List.mem_cons.mp hb with rfl | hb
      · exact isLE_self cmp b
      · exact (List.pairwise_cons.mp hlater).1 b hb
    have hshort : before.length < k := by
      have hlen := congrArg List.length hsplit
      rw [List.length_append, List.length_cons] at hlen
      have := List.length_take_le k (sortBy cmp xs)
      omega
    calc rank cmp (sortBy cmp xs) a
        = rank cmp before a + 0 := by rw [← hafter, ← rank_append, ← hall]
      _ ≤ before.length := rank_le_length before a
      _ < k := hshort
  · intro hrank
    by_contra hnot
    have hsplit := List.take_append_drop k (sortBy cmp xs)
    have hlast : a ∈ (sortBy cmp xs).drop k := by
      have hmem : a ∈ sortBy cmp xs := mem_sortBy.mpr ha
      rw [← hsplit] at hmem
      exact (List.mem_append.mp hmem).resolve_left hnot
    -- everything selected is below the entry that is not
    have hbelow : ∀ b ∈ (sortBy cmp xs).take k, cmp b a = .lt := by
      intro b hb
      have hle : (cmp b a).isLE = true := by
        rw [← hsplit] at hsorted
        exact (List.pairwise_append.mp hsorted).2.2 b hb a hlast
      rcases Ordering.isLE_iff_eq_lt_or_eq_eq.mp hle with hlt | heq
      · exact hlt
      · have hb' : b ∈ xs := mem_sortBy.mp (List.mem_of_mem_take hb)
        rw [hinj b hb' a ha heq] at hb
        exact absurd hb hnot
    have hfull : ((sortBy cmp xs).take k).length = k := by
      rw [List.length_take]
      have := List.length_pos_of_mem hlast
      rw [List.length_drop] at this
      omega
    have hcount : rank cmp ((sortBy cmp xs).take k ++ (sortBy cmp xs).drop k) a = _ :=
      rank_append _ _ a
    rw [hsplit, rank_eq_length hbelow, hfull] at hcount
    omega

/-- Leaving entries out of a sorted list leaves the rest sorted. -/
theorem filter_sortBy {xs : List α} (hinj : ∀ a ∈ xs, ∀ b ∈ xs, cmp a b = .eq → a = b)
    (p : α → Bool) : (sortBy cmp xs).filter p = sortBy cmp (xs.filter p) := by
  apply eq_sortBy
  · intro a ha b hb
    exact hinj a (List.mem_of_mem_filter ha) b (List.mem_of_mem_filter hb)
  · exact (sortBy_perm xs).filter p
  · exact (sortBy_pairwise xs).filter p

/-! Raising one entry. -/

section Raise
variable {before after : List α} {a a' : α} {k : Nat}

/-- A raised entry that is selected was selected before. -/
theorem raise_kept (hle : (cmp a a').isLE = true)
    (hinj : ∀ b ∈ before ++ a :: after, ∀ c ∈ before ++ a :: after, cmp b c = .eq → b = c)
    (hinj' : ∀ b ∈ before ++ a' :: after, ∀ c ∈ before ++ a' :: after, cmp b c = .eq → b = c)
    (h : a' ∈ (sortBy cmp (before ++ a' :: after)).take k) :
    a ∈ (sortBy cmp (before ++ a :: after)).take k := by
  have hmem : ∀ x : α, x ∈ before ++ x :: after :=
    fun x => List.mem_append_right before List.mem_cons_self
  -- an entry is not below itself
  have hsplit : ∀ x, rank cmp (before ++ x :: after) x = rank cmp before x + rank cmp after x := by
    intro x
    have hself : rank cmp [x] x = 0 := by
      apply rank_eq_zero
      intro b hb
      rw [List.mem_singleton.mp hb]
      exact isLE_self cmp x
    rw [rank_append, ← List.singleton_append, rank_append, hself, Nat.zero_add]
  rw [mem_take_sortBy_iff hinj' (hmem a'), hsplit] at h
  rw [mem_take_sortBy_iff hinj (hmem a), hsplit]
  calc rank cmp before a + rank cmp after a
      ≤ rank cmp before a' + rank cmp after a' := Nat.add_le_add (rank_mono before hle)
        (rank_mono after hle)
    _ < k := h

/-! The entries but one. -/

section Others
variable {p : α → Bool} {x : α}

theorem filter_others (hx : p x = false) (hothers : ∀ b ∈ before ++ after, p b = true) :
    (before ++ x :: after).filter p = before ++ after := by
  rw [List.filter_append, List.filter_cons_of_neg (by rw [hx]; exact Bool.false_ne_true),
    ← List.filter_append, List.filter_eq_self.mpr hothers]

omit [Std.TransCmp cmp] in
/-- Of the selected entries at most that one is not among the others. -/
theorem countP_selected_le_one (hx : p x = false) (hothers : ∀ b ∈ before ++ after, p b = true) :
    ((sortBy cmp (before ++ x :: after)).take k).countP (fun b => ¬ p b) ≤ 1 := by
  calc ((sortBy cmp (before ++ x :: after)).take k).countP (fun b => ¬ p b)
      ≤ (sortBy cmp (before ++ x :: after)).countP fun b => ¬ p b :=
        (List.take_sublist k _).countP_le
    _ = (before ++ x :: after).countP fun b => ¬ p b := (sortBy_perm _).countP_eq _
    _ ≤ 1 := by
      have hlen := List.length_eq_countP_add_countP p (l := before ++ x :: after)
      rw [List.countP_eq_length_filter, filter_others hx hothers, List.length_append,
        List.length_append, List.length_cons] at hlen
      omega

theorem length_selected (cmp : α → α → Ordering) (k : Nat) (p : α → Bool) (xs : List α) :
    min k xs.length = (((sortBy cmp xs).take k).filter p).length +
      ((sortBy cmp xs).take k).countP fun b => ¬ p b := by
  rw [← List.countP_eq_length_filter, ← List.length_eq_countP_add_countP, List.length_take,
    length_sortBy]

/-- The selected others are the first of the others. -/
theorem filter_selected_first (hx : p x = false) (hothers : ∀ b ∈ before ++ after, p b = true)
    (hinj : ∀ b ∈ before ++ x :: after, ∀ c ∈ before ++ x :: after, cmp b c = .eq → b = c) :
    ((sortBy cmp (before ++ x :: after)).take k).filter p <+: sortBy cmp (before ++ after) := by
  rw [← filter_others hx hothers, ← filter_sortBy hinj]
  exact (List.take_prefix k _).filter p

end Others

/-- The others selected before are the first of the others selected after. -/
theorem raise_others (hle : (cmp a a').isLE = true)
    (hinj : ∀ b ∈ before ++ a :: after, ∀ c ∈ before ++ a :: after, cmp b c = .eq → b = c)
    (hinj' : ∀ b ∈ before ++ a' :: after, ∀ c ∈ before ++ a' :: after, cmp b c = .eq → b = c)
    {p : α → Bool} (ha : p a = false) (ha' : p a' = false)
    (hothers : ∀ b ∈ before ++ after, p b = true) :
    ((sortBy cmp (before ++ a :: after)).take k).filter p <+:
      ((sortBy cmp (before ++ a' :: after)).take k).filter p := by
  refine List.prefix_of_prefix_length_le (filter_selected_first ha hothers hinj)
    (filter_selected_first ha' hothers hinj') ?_
  -- of the selected entries only the raised one is left out, and then it was before
  have hone : ((sortBy cmp (before ++ a' :: after)).take k).countP (fun b => ¬ p b) ≤ 1 :=
    countP_selected_le_one ha' hothers
  have hleft : ((sortBy cmp (before ++ a' :: after)).take k).countP (fun b => ¬ p b) ≤
      ((sortBy cmp (before ++ a :: after)).take k).countP fun b => ¬ p b := by
    rcases Nat.eq_zero_or_pos
      (((sortBy cmp (before ++ a' :: after)).take k).countP fun b => ¬ p b) with hzero | hpos
    · omega
    · obtain ⟨b, hb, hpb⟩ := List.countP_pos_iff.mp hpos
      have hmem : b ∈ before ++ a' :: after := mem_sortBy.mp (List.mem_of_mem_take hb)
      have hraised : b = a' := by
        by_contra hne
        apply of_decide_eq_true hpb
        apply hothers b
        rw [List.mem_append, List.mem_cons] at hmem
        rw [List.mem_append]
        exact hmem.imp_right fun h => h.resolve_left hne
      rw [hraised] at hb
      have hout : 0 < ((sortBy cmp (before ++ a :: after)).take k).countP fun b => ¬ p b :=
        List.countP_pos_iff.mpr ⟨a, raise_kept hle hinj hinj' hb, by simp [ha]⟩
      omega
  have hbefore := length_selected cmp k p (before ++ a :: after)
  have hafter := length_selected cmp k p (before ++ a' :: after)
  rw [List.length_append, List.length_cons] at hbefore hafter
  omega

end Raise

end QTom.Lib
