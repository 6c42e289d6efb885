import Mathlib.Data.List.Induction
import Mathlib.Data.List.Perm.Basic
import Mathlib.Data.List.Sort

/- Keeping the `k` least entries of a stream. `cmp` is a total preorder
   (`Std.TransCmp`), `sortBy cmp` the stable sort by it. `Selection cmp k xs kept
   rest` says that `kept` are `k` least entries of `xs` (all of them, when `xs` is
   no longer than `k`) and `rest` the others. The three ways a bounded selection
   takes a new entry are lemmas here (`room`, `skip`, `replace`), and
   `Selection.sort_eq` is what they add up to: sorted, the kept entries are the
   first `k` of the sorted stream. `keepBetter` keeps one entry, the first of the
   least (`FirstLeast`), and `SelectNth` selects in place by rank: what it leaves
   before the index is such a selection too. -/
namespace QTom.Lib
variable {α : Type*}

/-- The stable sort by a comparison. -/
def sortBy (cmp : α → α → Ordering) (xs : List α) : List α :=
  xs.insertionSort (fun a b => (cmp a b).isLE = true)

section Sorting
variable {cmp : α → α → Ordering}

theorem sortBy_perm (xs : List α) : (sortBy cmp xs).Perm xs :=
  List.perm_insertionSort _ xs

@[simp] theorem mem_sortBy {xs : List α} {a : α} : a ∈ sortBy cmp xs ↔ a ∈ xs :=
  (sortBy_perm xs).mem_iff

@[simp] theorem length_sortBy (xs : List α) : (sortBy cmp xs).length = xs.length :=
  (sortBy_perm xs).length_eq

/-- A comparison of images. -/
theorem transCmp_comap {β : Type*} (cmp : β → β → Ordering) [h : Std.TransCmp cmp] (f : α → β) :
    Std.TransCmp (fun a b => cmp (f a) (f b)) :=
  { eq_swap := h.eq_swap, isLE_trans := h.isLE_trans }

/-- A comparison read from the other side. -/
theorem cmp_swap (cmp : α → α → Ordering) [Std.OrientedCmp cmp] (a b : α) :
    cmp a b = (cmp b a).swap := Std.OrientedCmp.eq_swap

theorem isLE_self (cmp : α → α → Ordering) [Std.ReflCmp cmp] (a : α) :
    (cmp a a).isLE = true := by
  have h : cmp a a = .eq := Std.ReflCmp.compare_self
  rw [h]
  rfl

theorem isLE_of_not_lt [Std.OrientedCmp cmp] {a b : α} (h : cmp b a ≠ .lt) :
    (cmp a b).isLE = true := by
  rw [cmp_swap cmp a b]
  cases hb : cmp b a <;> simp_all

theorem not_lt_of_isLE [Std.OrientedCmp cmp] {a b : α} (h : (cmp a b).isLE = true) :
    cmp b a ≠ .lt := by
  intro hlt
  rw [cmp_swap cmp, hlt] at h
  cases h

theorem isLE_of_gt [Std.OrientedCmp cmp] {a b : α} (h : cmp b a = .gt) :
    (cmp a b).isLE = true := by
  rw [cmp_swap cmp a b, h]
  rfl

theorem sortBy_pairwise [Std.TransCmp cmp] (xs : List α) :
    (sortBy cmp xs).Pairwise (fun a b => (cmp a b).isLE = true) := by
  have htotal : Std.Total (fun a b => (cmp a b).isLE = true) := by
    refine ⟨fun a b => ?_⟩
    rw [cmp_swap cmp b a]
    cases cmp a b <;> simp
  have htrans : IsTrans α (fun a b => (cmp a b).isLE = true) :=
    ⟨fun _ _ _ => Std.TransCmp.isLE_trans⟩
  exact List.pairwise_insertionSort _ xs

/-- Sorting by images sorts the images. -/
theorem map_sortBy {β : Type*} (cmp : β → β → Ordering) (f : α → β) (xs : List α) :
    (sortBy (fun a b => cmp (f a) (f b)) xs).map f = sortBy cmp (xs.map f) :=
  List.map_insertionSort _ _ f xs fun _ _ _ _ => Iff.rfl

/-- A sorted list and its entries decide each other where equivalent entries are equal. -/
theorem eq_sortBy [Std.TransCmp cmp] {xs ys : List α}
    (hinj : ∀ a ∈ xs, ∀ b ∈ xs, cmp a b = .eq → a = b) (hperm : ys.Perm xs)
    (hsorted : ys.Pairwise (fun a b => (cmp a b).isLE = true)) : ys = sortBy cmp xs := by
  refine (hperm.trans (sortBy_perm xs).symm).eq_of_pairwise ?_ hsorted (sortBy_pairwise xs)
  intro a b ha hb hab hba
  apply hinj a (hperm.mem_iff.mp ha) b (mem_sortBy.mp hb)
  exact Std.OrientedCmp.isLE_antisymm hab hba

/-- The order of the entries does not matter where equivalent entries are equal. -/
theorem sortBy_eq_of_perm [Std.TransCmp cmp] {xs ys : List α} (hperm : ys.Perm xs)
    (hinj : ∀ a ∈ xs, ∀ b ∈ xs, cmp a b = .eq → a = b) : sortBy cmp ys = sortBy cmp xs :=
  eq_sortBy hinj ((sortBy_perm ys).trans hperm) (sortBy_pairwise ys)

/-- The head of the sorted list is the least entry. -/
theorem head?_sortBy_iff [Std.TransCmp cmp] {xs : List α}
    (hinj : ∀ a ∈ xs, ∀ b ∈ xs, cmp a b = .eq → a = b) {a : α} :
    (sortBy cmp xs).head? = some a ↔ a ∈ xs ∧ ∀ b ∈ xs, (cmp a b).isLE = true := by
  have hsorted : (sortBy cmp xs).Pairwise (fun a b => (cmp a b).isLE = true) := sortBy_pairwise xs
  have hmem : ∀ b, b ∈ sortBy cmp xs ↔ b ∈ xs := fun b => mem_sortBy
  cases hs : sortBy cmp xs with
  | nil =>
    rw [hs] at hmem
    refine ⟨fun h => (nomatch h), fun ⟨ha, _⟩ => ?_⟩
    exact absurd ((hmem a).mpr ha) List.not_mem_nil
  | cons first others =>
    rw [hs] at hmem hsorted
    have hfirst : first ∈ xs := (hmem first).mp List.mem_cons_self
    have hleast : ∀ b ∈ xs, (cmp first b).isLE = true := by
      intro b hb
      rcases List.mem_cons.mp ((hmem b).mpr hb) with rfl | hother
      · exact isLE_self cmp b
      · exact (List.pairwise_cons.mp hsorted).1 b hother
    rw [List.head?_cons, Option.some.injEq]
    refine ⟨?_, ?_⟩
    · intro h
      rw [← h]
      exact ⟨hfirst, hleast⟩
    · intro ⟨ha, hle⟩
      -- two least entries are one
      exact hinj first hfirst a ha (Std.OrientedCmp.isLE_antisymm (hleast a ha) (hle first hfirst))

end Sorting

/-! The greatest entry. -/

/-- `Iterator::max_by`: on a tie the later entry wins. -/
def maxBy (cmp : α → α → Ordering) : List α → Option α
  | [] => none
  | x :: xs => some (xs.foldl (fun m y => if cmp m y = .gt then m else y) x)

theorem foldl_max_spec {cmp : α → α → Ordering} [Std.TransCmp cmp] (x : α) (xs : List α) :
    let m := xs.foldl (fun m y => if cmp m y = .gt then m else y) x
    m ∈ x :: xs ∧ ∀ a ∈ x :: xs, (cmp a m).isLE = true := by
  induction xs generalizing x with
  | nil =>
    refine ⟨by simp, ?_⟩
    intro a ha
    rw [List.mem_singleton.mp ha]
    exact isLE_self cmp x
  | cons y ys ih =>
    obtain ⟨hmem, hmax⟩ := ih (if cmp x y = .gt then x else y)
    rw [List.foldl_cons]
    -- the winner of the first comparison is above both of its sides
    have hxy : (cmp x (if cmp x y = .gt then x else y)).isLE = true ∧
        (cmp y (if cmp x y = .gt then x else y)).isLE = true := by
      by_cases h : cmp x y = .gt
      · rw [if_pos h]
        exact ⟨isLE_self cmp x, isLE_of_gt h⟩
      · rw [if_neg h]
        exact ⟨Ordering.isLE_iff_ne_gt.mpr h, isLE_self cmp y⟩
    refine ⟨?_, ?_⟩
    · rcases List.mem_cons.mp hmem with heq | hys
      · rw [heq]
        split <;> simp
      · exact List.mem_cons_of_mem _ (List.mem_cons_of_mem _ hys)
    · intro a ha
      have hbound := hmax _ List.mem_cons_self
      rcases List.mem_cons.mp ha with rfl | ha
      · exact Std.TransCmp.isLE_trans hxy.1 hbound
      · rcases List.mem_cons.mp ha with rfl | ha
        · exact Std.TransCmp.isLE_trans hxy.2 hbound
        · exact hmax a (List.mem_cons_of_mem _ ha)

theorem maxBy_spec {cmp : α → α → Ordering} [Std.TransCmp cmp] {xs : List α} {m : α}
    (h : maxBy cmp xs = some m) : m ∈ xs ∧ ∀ a ∈ xs, (cmp a m).isLE = true := by
  cases xs with
  | nil => cases h
  | cons x xs =>
    cases h
    exact foldl_max_spec x xs

theorem maxBy_isSome (cmp : α → α → Ordering) {xs : List α} (h : xs ≠ []) :
    (maxBy cmp xs).isSome = true := by
  cases xs with
  | nil => exact absurd rfl h
  | cons x xs => rfl

/-! The first of the least entries. -/

/-- `a` stands in `xs` before every entry it ties with, and none is below it. -/
def FirstLeast (cmp : α → α → Ordering) (xs : List α) (a : α) : Prop :=
  ∃ before after, xs = before ++ a :: after ∧ (∀ b ∈ before, cmp a b = .lt) ∧
    ∀ b ∈ after, (cmp a b).isLE = true

namespace FirstLeast
variable {cmp : α → α → Ordering} {xs : List α} {a x : α}

theorem mem (h : FirstLeast cmp xs a) : a ∈ xs := by
  obtain ⟨before, after, rfl, _, _⟩ := h
  exact List.mem_append_right _ List.mem_cons_self

theorem least [Std.ReflCmp cmp] (h : FirstLeast cmp xs a) : ∀ b ∈ xs, (cmp a b).isLE = true := by
  obtain ⟨before, after, rfl, hbefore, hafter⟩ := h
  intro b hb
  rcases List.mem_append.mp hb with hb | hb
  · rw [hbefore b hb]
    rfl
  · rcases List.mem_cons.mp hb with rfl | hb
    · exact isLE_self cmp b
    · exact hafter b hb

theorem head (h : ∀ b ∈ xs, (cmp a b).isLE = true) : FirstLeast cmp (a :: xs) a :=
  ⟨[], xs, rfl, fun _ hb => (nomatch hb), h⟩

theorem cons (h : FirstLeast cmp xs a) (hx : cmp a x = .lt) : FirstLeast cmp (x :: xs) a := by
  obtain ⟨before, after, rfl, hbefore, hafter⟩ := h
  refine ⟨x :: before, after, rfl, ?_, hafter⟩
  intro b hb
  rcases List.mem_cons.mp hb with rfl | hb
  · exact hx
  · exact hbefore b hb

/-- An entry not below it leaves it first. -/
theorem keep (h : FirstLeast cmp xs a) (hx : (cmp a x).isLE = true) :
    FirstLeast cmp (xs ++ [x]) a := by
  obtain ⟨before, after, rfl, hbefore, hafter⟩ := h
  refine ⟨before, after ++ [x], by simp, hbefore, ?_⟩
  intro b hb
  rcases List.mem_append.mp hb with hb | hb
  · exact hafter b hb
  · rw [List.mem_singleton.mp hb]
    exact hx

/-- An entry below it comes first in its place. -/
theorem trade [Std.TransCmp cmp] (h : FirstLeast cmp xs a) (hx : cmp x a = .lt) :
    FirstLeast cmp (xs ++ [x]) x := by
  refine ⟨xs, [], rfl, ?_, fun _ hb => (nomatch hb)⟩
  intro b hb
  exact Std.TransCmp.lt_of_lt_of_isLE hx (h.least b hb)

theorem unique [Std.TransCmp cmp] {b : α} (h : FirstLeast cmp xs a) (h' : FirstLeast cmp xs b) :
    a = b := by
  have hab := h.least b h'.mem
  have hba := h'.least a h.mem
  obtain ⟨before, after, rfl, hbefore, _⟩ := h
  obtain ⟨before', after', heq, hbefore', _⟩ := h'
  -- whichever comes later ties with an entry before it
  rcases List.append_eq_append_iff.mp heq with ⟨mid, rfl, hmid⟩ | ⟨mid, rfl, hmid⟩
  · cases mid with
    | nil => exact (List.cons.inj hmid).1
    | cons c mid =>
      obtain ⟨rfl, _⟩ := List.cons.inj hmid
      rw [cmp_swap cmp, hbefore' _ (List.mem_append_right _ List.mem_cons_self)] at hab
      cases hab
  · cases mid with
    | nil => exact (List.cons.inj hmid).1.symm
    | cons c mid =>
      obtain ⟨rfl, _⟩ := List.cons.inj hmid
      rw [cmp_swap cmp, hbefore _ (List.mem_append_right _ List.mem_cons_self)] at hba
      cases hba

/-- In another order the first of the least entries ties with the one there was. -/
theorem tie_of_perm [Std.TransCmp cmp] {ys : List α} {b : α} (h : FirstLeast cmp xs a)
    (h' : FirstLeast cmp ys b) (hperm : ys.Perm xs) : cmp b a = .eq :=
  Std.OrientedCmp.isLE_antisymm (h'.least a (hperm.mem_iff.mpr h.mem))
    (h.least b (hperm.mem_iff.mp h'.mem))

/-- It stands before every other entry it ties with. -/
theorem position (h : FirstLeast cmp xs a) :
    ∃ p : Nat, xs[p]? = some a ∧ ∀ (i : Nat) b, xs[i]? = some b → cmp a b ≠ .lt → p ≤ i := by
  obtain ⟨before, after, rfl, hbefore, _⟩ := h
  refine ⟨before.length, ?_, ?_⟩
  · rw [List.getElem?_append_right (Nat.le_refl _), Nat.sub_self]
    rfl
  · intro i b hb hle
    by_contra hlt
    rw [List.getElem?_append_left (Nat.lt_of_not_le hlt)] at hb
    exact hle (hbefore b (List.mem_of_getElem? hb))

end FirstLeast

/-- No entry of `xs` is below `a`. -/
def isLeast (cmp : α → α → Ordering) (xs : List α) (a : α) : Bool :=
  xs.all fun b => (cmp a b).isLE

section Least
variable {cmp : α → α → Ordering} {xs : List α} {a x : α}

theorem isLeast_iff : isLeast cmp xs a = true ↔ ∀ b ∈ xs, (cmp a b).isLE = true :=
  List.all_eq_true

/-- What ties with a least entry, or would be below it, is one too. -/
theorem isLeast_of_isLE [Std.TransCmp cmp] (h : isLeast cmp xs a = true)
    (hx : (cmp x a).isLE = true) : isLeast cmp xs x = true := by
  rw [isLeast_iff] at h ⊢
  intro b hb
  exact Std.TransCmp.isLE_trans hx (h b hb)

theorem not_isLeast_of_lt [Std.OrientedCmp cmp] (hx : x ∈ xs) (hlt : cmp x a = .lt) :
    isLeast cmp xs a = false := by
  rw [← Bool.not_eq_true, isLeast_iff]
  intro h
  have hle := h x hx
  rw [cmp_swap cmp, hlt] at hle
  cases hle

/-- The first of the least entries is the first that `isLeast` finds. -/
theorem FirstLeast.find? [Std.TransCmp cmp] (h : FirstLeast cmp xs a) :
    xs.find? (isLeast cmp xs) = some a := by
  have hleast := isLeast_iff.mpr h.least
  have hmem := h.mem
  obtain ⟨before, after, hxs, hbefore, _⟩ := h
  rw [List.find?_eq_some_iff_append]
  refine ⟨hleast, before, after, hxs, ?_⟩
  intro b hb
  rw [not_isLeast_of_lt hmem (hbefore b hb)]
  rfl

end Least

/-- `if best.is_none_or(|best| cmp(x, best).is_lt()) { best = Some(x) }`. -/
def keepBetter (cmp : α → α → Ordering) (best : Option α) (x : α) : Option α :=
  if best.all fun best => (cmp x best).isLT then some x else best

/-- A loop that keeps the better of two ends with the first of the least entries. -/
theorem foldl_keepBetter (cmp : α → α → Ordering) [Std.TransCmp cmp] {xs : List α} (hne : xs ≠ []) :
    ∃ a, xs.foldl (keepBetter cmp) none = some a ∧ FirstLeast cmp xs a := by
  induction xs using List.reverseRecOn with
  | nil => exact absurd rfl hne
  | append_singleton xs x ih =>
    rw [List.foldl_append]
    by_cases hxs : xs = []
    · subst hxs
      exact ⟨x, rfl, FirstLeast.head fun _ hb => (nomatch hb)⟩
    · obtain ⟨best, hbest, hfirst⟩ := ih hxs
      rw [hbest]
      show ∃ a, (if (cmp x best).isLT then some x else some best) = some a ∧ _
      by_cases hx : cmp x best = .lt
      · rw [hx]
        exact ⟨x, rfl, hfirst.trade hx⟩
      · refine ⟨best, ?_, hfirst.keep (isLE_of_not_lt hx)⟩
        cases h : cmp x best with
        | lt => exact absurd h hx
        | eq => rfl
        | gt => rfl

theorem mem_of_foldl_keepBetter (cmp : α → α → Ordering) [Std.TransCmp cmp] {xs : List α} {a : α}
    (h : xs.foldl (keepBetter cmp) none = some a) : a ∈ xs := by
  by_cases hxs : xs = []
  · subst hxs
    cases h
  · obtain ⟨b, hb, hfirst⟩ := foldl_keepBetter cmp hxs
    rw [← Option.some.inj (hb.symm.trans h)]
    exact hfirst.mem

/-- In another order the loop ends with an entry that ties. -/
theorem foldl_keepBetter_perm {β : Type*} (cmp : α → α → Ordering) [Std.TransCmp cmp]
    {xs ys : List α} (hperm : ys.Perm xs) (f : α → β)
    (hinj : ∀ a ∈ xs, ∀ b ∈ xs, cmp a b = .eq → f a = f b) :
    (ys.foldl (keepBetter cmp) none).map f = (xs.foldl (keepBetter cmp) none).map f := by
  by_cases hxs : xs = []
  · subst hxs
    rw [hperm.eq_nil]
  · have hys : ys ≠ [] := fun h => hxs (List.perm_nil.mp (h ▸ hperm.symm))
    obtain ⟨a, ha, hfirst⟩ := foldl_keepBetter cmp hxs
    obtain ⟨b, hb, hfirst'⟩ := foldl_keepBetter cmp hys
    rw [ha, hb]
    exact congrArg some
      (hinj b (hperm.mem_iff.mp hfirst'.mem) a hfirst.mem (hfirst.tie_of_perm hfirst' hperm))

/-- A loop over some of the entries ends with the least of all of them exactly when it
meets that one. -/
theorem foldl_keepBetter_least (cmp : α → α → Ordering) [Std.TransCmp cmp] {xs ys : List α}
    (hsub : ys ⊆ xs) (hinj : ∀ a ∈ xs, ∀ b ∈ xs, cmp a b = .eq → a = b) {m : α}
    (hm : m ∈ xs) (hleast : ∀ b ∈ xs, (cmp m b).isLE = true) :
    ys.foldl (keepBetter cmp) none = some m ↔ m ∈ ys := by
  refine ⟨mem_of_foldl_keepBetter cmp, ?_⟩
  intro h
  obtain ⟨a, ha, hfirst⟩ := foldl_keepBetter cmp (List.ne_nil_of_mem h)
  have heq : cmp a m = .eq :=
    Std.OrientedCmp.isLE_antisymm (hfirst.least m h) (hleast a (hsub hfirst.mem))
  rw [ha, hinj a (hsub hfirst.mem) m hm heq]

/-- The stable sort puts the first of the least entries first. -/
theorem head?_sortBy_firstLeast (cmp : α → α → Ordering) [Std.TransCmp cmp] {xs : List α}
    (hne : xs ≠ []) : ∃ a, (sortBy cmp xs).head? = some a ∧ FirstLeast cmp xs a := by
  induction xs with
  | nil => exact absurd rfl hne
  | cons x xs ih =>
    show ∃ a, (List.orderedInsert _ x (sortBy cmp xs)).head? = some a ∧ _
    by_cases hxs : xs = []
    · subst hxs
      exact ⟨x, rfl, FirstLeast.head fun _ hb => (nomatch hb)⟩
    · obtain ⟨first, hfirst, hleast⟩ := ih hxs
      obtain ⟨others, hsorted⟩ := List.head?_eq_some_iff.mp hfirst
      rw [hsorted, List.orderedInsert_cons]
      by_cases hle : (cmp x first).isLE = true
      · rw [if_pos hle]
        refine ⟨x, rfl, FirstLeast.head ?_⟩
        intro b hb
        exact Std.TransCmp.isLE_trans hle (hleast.least b hb)
      · rw [if_neg hle]
        refine ⟨first, rfl, hleast.cons ?_⟩
        rw [cmp_swap cmp]
        cases hxf : cmp x first <;> simp_all

/-! Bounded selections. -/

/-- `kept` are `k` least entries of `xs`, `rest` the others. -/
structure Selection (cmp : α → α → Ordering) (k : Nat) (xs kept rest : List α) : Prop where
  perm : (kept ++ rest).Perm xs
  bound : kept.length ≤ k
  full : rest ≠ [] → kept.length = k
  least : ∀ a ∈ kept, ∀ b ∈ rest, (cmp a b).isLE = true

namespace Selection
variable {cmp : α → α → Ordering} {k : Nat} {xs kept rest : List α}

theorem nil : Selection cmp k [] [] [] := by
  refine ⟨List.Perm.refl _, Nat.zero_le k, fun h => absurd rfl h, ?_⟩
  intro a ha
  cases ha

/-- With room left, the next entry is kept. -/
theorem room (h : Selection cmp k xs kept rest) (hroom : kept.length < k) (x : α) :
    Selection cmp k (xs ++ [x]) (kept ++ [x]) rest := by
  have hrest : rest = [] := by
    by_contra hne
    have := h.full hne
    omega
  subst hrest
  refine ⟨?_, ?_, fun hne => absurd rfl hne, ?_⟩
  · have hperm := h.perm
    rw [List.append_nil] at hperm ⊢
    exact hperm.append_right [x]
  · rw [List.length_append]
    exact hroom
  · intro a _ b hb
    cases hb

/-- A full selection drops an entry that is not below its worst one. -/
theorem skip [Std.TransCmp cmp] (h : Selection cmp k xs kept rest) (hfull : kept.length = k) {x : α}
    (hx : ∀ a ∈ kept, (cmp a x).isLE = true) : Selection cmp k (xs ++ [x]) kept (rest ++ [x]) := by
  refine ⟨?_, h.bound, fun _ => hfull, ?_⟩
  · rw [← List.append_assoc]
    exact h.perm.append_right [x]
  · intro a ha b hb
    rcases List.mem_append.mp hb with hb | hb
    · exact h.least a ha b hb
    · rw [List.mem_singleton.mp hb]
      exact hx a ha

/-- A full selection trades its worst entry for one below it. -/
theorem replace [Std.TransCmp cmp] (h : Selection cmp k xs kept rest) (hfull : kept.length = k)
    {i : Nat} (hi : i < kept.length) {x : α} (hworst : ∀ a ∈ kept, (cmp a kept[i]).isLE = true)
    (hx : cmp x kept[i] = .lt) : Selection cmp k (xs ++ [x]) (kept.set i x) (rest ++ [kept[i]]) := by
  have hxi : (cmp x kept[i]).isLE = true := by rw [hx]; rfl
  refine ⟨?_, ?_, ?_, ?_⟩
  · -- the kept entries but the worst, `x`, `rest` and the worst, in two orders
    have hset : (kept.set i x).Perm (x :: kept.eraseIdx i) := List.set_perm_cons_eraseIdx hi x
    have hget : (kept[i] :: kept.eraseIdx i).Perm kept := List.getElem_cons_eraseIdx_perm hi
    calc (kept.set i x ++ (rest ++ [kept[i]])).Perm ((x :: kept.eraseIdx i) ++ (rest ++ [kept[i]])) :=
          hset.append_right _
      _ = x :: ((kept.eraseIdx i ++ rest) ++ [kept[i]]) := by simp
      List.Perm _ (x :: (kept[i] :: (kept.eraseIdx i ++ rest))) :=
          (List.perm_append_singleton _ _).cons x
      List.Perm _ (x :: xs) := ((hget.append_right rest).trans h.perm).cons x
      List.Perm _ (xs ++ [x]) := (List.perm_append_singleton x xs).symm
  · rw [List.length_set]
    exact h.bound
  · intro _
    rw [List.length_set]
    exact hfull
  · intro a ha b hb
    have hale : (cmp a kept[i]).isLE = true := by
      rcases List.mem_or_eq_of_mem_set ha with ha | rfl
      · exact hworst a ha
      · exact hxi
    rcases List.mem_append.mp hb with hb | hb
    · exact Std.TransCmp.isLE_trans hale (h.least _ (List.getElem_mem hi) b hb)
    · rw [List.mem_singleton.mp hb]
      exact hale

theorem length_kept (h : Selection cmp k xs kept rest) : kept.length = min k xs.length := by
  have hlen := h.perm.length_eq
  rw [List.length_append] at hlen
  have hbound := h.bound
  cases rest with
  | nil =>
    rw [List.length_nil] at hlen
    omega
  | cons b rest =>
    have hfull := h.full (List.cons_ne_nil b rest)
    omega

/-- The kept entries are a sub-multiset of the stream. -/
theorem subperm (h : Selection cmp k xs kept rest) : kept.Subperm xs :=
  (List.sublist_append_left kept rest).subperm.trans h.perm.subperm

/-- The kept entries in another order. -/
theorem reorder (h : Selection cmp k xs kept rest) {kept' : List α} (hperm : kept'.Perm kept) :
    Selection cmp k xs kept' rest := by
  refine ⟨(hperm.append_right rest).trans h.perm, ?_, ?_, ?_⟩
  · rw [hperm.length_eq]
    exact h.bound
  · intro hne
    rw [hperm.length_eq]
    exact h.full hne
  · intro a ha b hb
    exact h.least a (hperm.mem_iff.mp ha) b hb

/-- A selection by images selects the images. -/
theorem map {β : Type*} {cmp : β → β → Ordering} {f : α → β}
    (h : Selection (fun a b => cmp (f a) (f b)) k xs kept rest) :
    Selection cmp k (xs.map f) (kept.map f) (rest.map f) := by
  refine ⟨?_, ?_, ?_, ?_⟩
  · rw [← List.map_append]
    exact h.perm.map f
  · rw [List.length_map]
    exact h.bound
  · intro hne
    rw [List.length_map]
    apply h.full
    intro hnil
    exact hne (by rw [hnil, List.map_nil])
  · intro _ ha _ hb
    obtain ⟨a, hkept, rfl⟩ := List.mem_map.mp ha
    obtain ⟨b, hrest, rfl⟩ := List.mem_map.mp hb
    exact h.least a hkept b hrest

/-- Sorted, the kept entries are the first `k` of the sorted stream. -/
theorem sort_eq [Std.TransCmp cmp] (h : Selection cmp k xs kept rest)
    (hinj : ∀ a ∈ xs, ∀ b ∈ xs, cmp a b = .eq → a = b) :
    sortBy cmp kept = (sortBy cmp xs).take k := by
  have hall : sortBy cmp kept ++ sortBy cmp rest = sortBy cmp xs := by
    apply eq_sortBy hinj
    · exact ((sortBy_perm kept).append (sortBy_perm rest)).trans h.perm
    · refine List.pairwise_append.mpr ⟨sortBy_pairwise kept, sortBy_pairwise rest, ?_⟩
      intro a ha b hb
      exact h.least a (mem_sortBy.mp ha) b (mem_sortBy.mp hb)
  rw [← hall]
  by_cases hrest : rest = []
  · subst hrest
    show sortBy cmp kept = (sortBy cmp kept ++ []).take k
    rw [List.append_nil, List.take_of_length_le]
    rw [length_sortBy]
    exact h.bound
  · rw [List.take_left' (by rw [length_sortBy]; exact h.full hrest)]

/-- Where equivalent images are equal, the sorted images of the kept entries are those of
    the first `k` of the sorted stream, ties between entries included. -/
theorem map_sort_eq {β : Type*} {cmp : β → β → Ordering} [Std.TransCmp cmp] [Std.LawfulEqCmp cmp]
    {f : α → β} (h : Selection (fun a b => cmp (f a) (f b)) k xs kept rest) :
    (sortBy (fun a b => cmp (f a) (f b)) kept).map f =
      ((sortBy (fun a b => cmp (f a) (f b)) xs).take k).map f := by
  rw [map_sortBy, List.map_take, map_sortBy]
  apply h.map.sort_eq
  intro a _ b _ hab
  exact Std.LawfulEqCmp.eq_of_compare hab

end Selection

/-! Selecting by rank. -/

/-- `select_nth_unstable_by`, as documented: the slice in some other order, with nothing
    above the entry at the index before it and nothing below it behind it. -/
structure SelectNth (α : Type*) where
  run : (α → α → Ordering) → Nat → List α → List α
  perm : ∀ (cmp : α → α → Ordering) [Std.TransCmp cmp] (index : Nat) (xs : List α),
    index < xs.length → (run cmp index xs).Perm xs
  before : ∀ (cmp : α → α → Ordering) [Std.TransCmp cmp] (index : Nat) (xs : List α) (x : α),
    (run cmp index xs)[index]? = some x → ∀ a ∈ (run cmp index xs).take index, (cmp a x).isLE = true
  behind : ∀ (cmp : α → α → Ordering) [Std.TransCmp cmp] (index : Nat) (xs : List α) (x : α),
    (run cmp index xs)[index]? = some x →
      ∀ a ∈ (run cmp index xs).drop (index + 1), (cmp x a).isLE = true

namespace SelectNth
variable {cmp : α → α → Ordering} [Std.TransCmp cmp] {index : Nat} {xs : List α}

/-- What stands before the index is a bounded selection. -/
theorem selection (select : SelectNth α) (h : index < xs.length) :
    Selection cmp index xs ((select.run cmp index xs).take index)
      ((select.run cmp index xs).drop index) := by
  have hperm := select.perm cmp index xs h
  have hlt : index < (select.run cmp index xs).length := by
    rw [hperm.length_eq]
    exact h
  have hget := List.getElem?_eq_getElem hlt
  have hlen : ((select.run cmp index xs).take index).length = index := by
    rw [List.length_take, Nat.min_eq_left hlt.le]
  refine ⟨?_, hlen.le, fun _ => hlen, ?_⟩
  · rw [List.take_append_drop]
    exact hperm
  · intro a ha b hb
    have hax := select.before cmp index xs _ hget a ha
    rw [List.drop_eq_getElem_cons hlt] at hb
    rcases List.mem_cons.mp hb with rfl | hb
    · exact hax
    · exact Std.TransCmp.isLE_trans hax (select.behind cmp index xs _ hget b hb)

/-- Selecting, cutting and sorting is cutting the sorted list. -/
theorem sort_take (select : SelectNth α) (h : index < xs.length)
    (hinj : ∀ a ∈ xs, ∀ b ∈ xs, cmp a b = .eq → a = b) :
    sortBy cmp ((select.run cmp index xs).take index) = (sortBy cmp xs).take index :=
  (select.selection h).sort_eq hinj

/-- Sorting all of the slice selects at every index. -/
def bySorting : SelectNth α where
  run cmp _ xs := sortBy cmp xs
  perm _ _ _ xs _ := sortBy_perm xs
  before cmp _ index xs x hx a ha := by
    obtain ⟨hindex, rfl⟩ := List.getElem?_eq_some_iff.mp hx
    have hsorted : (sortBy cmp xs).Pairwise (fun a b => (cmp a b).isLE = true) := sortBy_pairwise xs
    rw [← List.take_append_drop index (sortBy cmp xs), List.pairwise_append] at hsorted
    apply hsorted.2.2 a ha
    rw [List.drop_eq_getElem_cons hindex]
    exact List.mem_cons_self
  behind cmp _ index xs x hx a ha := by
    obtain ⟨hindex, rfl⟩ := List.getElem?_eq_some_iff.mp hx
    have hsorted : ((sortBy cmp xs).drop index).Pairwise (fun a b => (cmp a b).isLE = true) :=
      (sortBy_pairwise xs).drop
    rw [List.drop_eq_getElem_cons hindex] at hsorted
    exact (List.pairwise_cons.mp hsorted).1 a ha

end SelectNth

end QTom.Lib
