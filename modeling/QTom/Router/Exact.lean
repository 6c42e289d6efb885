import Mathlib.Algebra.BigOperators.Group.List.Basic
import Mathlib.Algebra.Order.BigOperators.Group.List
import Mathlib.Algebra.Order.Monoid.Unbundled.WithTop
import Mathlib.Algebra.Order.Monoid.WithTop
import Mathlib.Algebra.Order.Ring.Defs
import Mathlib.Algebra.Order.Ring.Int
import Mathlib.Algebra.Ring.Defs
import Mathlib.Tactic.Abel
import QTom.Router.Score

/- Exact arithmetic: f32 over a ring of finite values and +inf. Sums may be taken in
   any order here, so the blocked distance is the plain one, zero for equal vectors only
   (`blocked_distance_is_distance`), and `total_cmp` is the order of the values. -/
namespace QTom.Router
open QTom.Lib
variable {K : Type} [Ring K] [LinearOrder K]

/-- Finite values of `K`, and ⊤ for +inf. -/
instance : F32 (WithTop K) where
  zero := 0
  one := 1
  infinity := ⊤
  add := (· + ·)
  sub := WithTop.map₂ (· - ·)
  mul := WithTop.map₂ (· * ·)
  lt a b := decide (a < b)
  eq a b := decide (a = b)
  totalCmp a b := if a < b then .lt else if a = b then .eq else .gt

namespace Exact

theorem totalCmp_lt {a b : WithTop K} : F32.totalCmp a b = .lt ↔ a < b := by
  show (if a < b then Ordering.lt else if a = b then .eq else .gt) = .lt ↔ a < b
  split
  · simp [*]
  · split <;> simp [*]

theorem totalCmp_eq {a b : WithTop K} : F32.totalCmp a b = .eq ↔ a = b := by
  show (if a < b then Ordering.lt else if a = b then .eq else .gt) = .eq ↔ a = b
  split
  · rename_i h
    simp [h.ne]
  · split <;> simp [*]

theorem totalCmp_isLE {a b : WithTop K} : (F32.totalCmp a b).isLE = true ↔ a ≤ b := by
  rw [Ordering.isLE_iff_eq_lt_or_eq_eq, totalCmp_lt, totalCmp_eq]
  exact le_iff_lt_or_eq.symm

theorem totalCmp_gt {a b : WithTop K} (h : b < a) : F32.totalCmp a b = .gt := by
  show (if a < b then Ordering.lt else if a = b then .eq else .gt) = .gt
  rw [if_neg h.asymm, if_neg h.ne']

theorem lt_iff {a b : WithTop K} : F32.lt a b = true ↔ a < b := decide_eq_true_iff

theorem eq_iff {a b : WithTop K} : F32.eq a b = true ↔ a = b := decide_eq_true_iff

theorem le_iff {a b : WithTop K} : F32.le a b = true ↔ a ≤ b := by
  unfold F32.le
  rw [Bool.or_eq_true, lt_iff, eq_iff]
  exact le_iff_lt_or_eq.symm

/-- No two values are unordered, so `partial_cmp` is the order of the values. -/
theorem partialCmp_eq (a b : WithTop K) : F32.partialCmp a b = some (F32.totalCmp a b) := by
  unfold F32.partialCmp
  rcases lt_trichotomy a b with h | h | h
  · rw [if_pos (lt_iff.mpr h), totalCmp_lt.mpr h]
  · rw [if_neg (by rw [lt_iff]; exact h.not_lt), if_pos (eq_iff.mpr h), totalCmp_eq.mpr h]
  · have hgt : F32.gt a b = true := lt_iff.mpr h
    rw [if_neg (by rw [lt_iff]; exact h.asymm), if_neg (by rw [eq_iff]; exact h.ne'), if_pos hgt,
      totalCmp_gt h]

end Exact

instance : Std.TransCmp (F32.totalCmp (F := WithTop K)) where
  eq_swap := by
    intro a b
    rcases lt_trichotomy a b with h | h | h
    · rw [Exact.totalCmp_lt.mpr h, Exact.totalCmp_gt h]
      rfl
    · rw [Exact.totalCmp_eq.mpr h, Exact.totalCmp_eq.mpr h.symm]
      rfl
    · rw [Exact.totalCmp_lt.mpr h, Exact.totalCmp_gt h]
      rfl
  isLE_trans := by
    intro a b c hab hbc
    exact Exact.totalCmp_isLE.mpr (le_trans (Exact.totalCmp_isLE.mp hab) (Exact.totalCmp_isLE.mp hbc))

namespace Exact

/-! The two distances. -/

/-- The square of one coordinate's difference. -/
def square (p : WithTop K × WithTop K) : WithTop K :=
  F32.mul (F32.sub p.1 p.2) (F32.sub p.1 p.2)

theorem addSquare_eq (sum left right : WithTop K) :
    addSquare sum left right = sum + square (left, right) := rfl

theorem foldl_addSquare (init : WithTop K) (pairs : List (WithTop K × WithTop K)) :
    pairs.foldl (fun sum p => addSquare sum p.1 p.2) init = init + (pairs.map square).sum := by
  induction pairs generalizing init with
  | nil => simp
  | cons p pairs ih =>
    rw [List.foldl_cons, ih, addSquare_eq, List.map_cons, List.sum_cons, add_assoc]

theorem distSq_eq_sum (lhs rhs : List (WithTop K)) :
    distSq lhs rhs = ((lhs.zip rhs).map square).sum := by
  unfold distSq
  rw [foldl_addSquare]
  exact zero_add _

/-- The four running sums, put together. -/
def total (s : Lanes (WithTop K)) : WithTop K := s.sum0 + s.sum1 + (s.sum2 + s.sum3)

theorem total_add (s : Lanes (WithTop K)) {left right : List (WithTop K)} (hl : left.length = 4)
    (hr : right.length = 4) :
    total (s.add (left, right)) = total s + ((left.zip right).map square).sum := by
  match left, right, hl, hr with
  | [l0, l1, l2, l3], [r0, r1, r2, r3], _, _ =>
    show s.sum0 + square (l0, r0) + (s.sum1 + square (l1, r1)) +
      (s.sum2 + square (l2, r2) + (s.sum3 + square (l3, r3))) =
      s.sum0 + s.sum1 + (s.sum2 + s.sum3) +
        (square (l0, r0) + (square (l1, r1) + (square (l2, r2) + (square (l3, r3) + 0))))
    rw [add_zero]
    abel

theorem total_foldl (s : Lanes (WithTop K)) (blocks : List (List (WithTop K) × List (WithTop K)))
    (h : ∀ b ∈ blocks, b.1.length = 4 ∧ b.2.length = 4) :
    total (blocks.foldl Lanes.add s) =
      total s + ((blocks.flatMap fun b => b.1.zip b.2).map square).sum := by
  induction blocks generalizing s with
  | nil => simp
  | cons b blocks ih =>
    obtain ⟨hl, hr⟩ := h b List.mem_cons_self
    rw [List.foldl_cons, ih _ fun b' hb => h b' (List.mem_cons_of_mem b hb), List.flatMap_cons,
      List.map_append, List.sum_append, ← add_assoc, ← total_add s hl hr]

/-- Over exact arithmetic the blocked distance is the plain one. -/
theorem distSqBlocked_eq_distSq {lhs rhs : List (WithTop K)} (h : lhs.length = rhs.length) :
    distSqBlocked lhs rhs = distSq lhs rhs := by
  have hblocks : (chunksExact 4 lhs).zip (chunksExact 4 rhs) =
      (List.range (lhs.length / 4)).map fun i => (slice lhs 4 i, slice rhs 4 i) := by
    unfold chunksExact
    rw [← h, List.zip_map']
  have hfour : ∀ b ∈ (chunksExact 4 lhs).zip (chunksExact 4 rhs), b.1.length = 4 ∧ b.2.length = 4 := by
    intro b hb
    rw [hblocks] at hb
    obtain ⟨i, hi, rfl⟩ := List.mem_map.mp hb
    have hlt := List.mem_range.mp hi
    exact ⟨length_slice hlt, length_slice (by rw [← h]; exact hlt)⟩
  have hcovered : (((chunksExact 4 lhs).zip (chunksExact 4 rhs)).flatMap fun b => b.1.zip b.2) =
      (lhs.zip rhs).take (lhs.length / 4 * 4) := by
    rw [hblocks, List.flatMap_map, ← flatten_slices, List.flatMap_def]
    simp only [slice_zip]
  have hrest : (remainder lhs).zip (remainder rhs) = (lhs.zip rhs).drop (lhs.length / 4 * 4) := by
    show List.zipWith Prod.mk _ _ = (List.zipWith Prod.mk lhs rhs).drop _
    rw [List.drop_zipWith]
    unfold remainder
    rw [h]
  have hzero : total (⟨0, 0, 0, 0⟩ : Lanes (WithTop K)) = 0 := by simp [total]
  -- the four sums hold the blocks, the last loop adds what they left over
  calc distSqBlocked lhs rhs
      = total (((chunksExact 4 lhs).zip (chunksExact 4 rhs)).foldl Lanes.add ⟨0, 0, 0, 0⟩) +
          (((lhs.zip rhs).drop (lhs.length / 4 * 4)).map square).sum := by
        rw [← hrest]
        exact foldl_addSquare _ _
    _ = (((lhs.zip rhs).take (lhs.length / 4 * 4)).map square).sum +
          (((lhs.zip rhs).drop (lhs.length / 4 * 4)).map square).sum := by
        rw [total_foldl _ _ hfour, hcovered, hzero, zero_add]
    _ = ((lhs.zip rhs).map square).sum := by
        rw [← List.sum_append, ← List.map_append, List.take_append_drop]
    _ = distSq lhs rhs := (distSq_eq_sum lhs rhs).symm

/-! Distances of numbers. -/

theorem distSq_ne_top {left right : List (WithTop K)} (hl : ∀ x ∈ left, x ≠ ⊤)
    (hr : ∀ x ∈ right, x ≠ ⊤) : distSq left right ≠ ⊤ := by
  rw [distSq_eq_sum]
  have hsquare : ∀ p ∈ left.zip right, square p ≠ ⊤ := by
    intro p hp
    obtain ⟨x, hx⟩ := WithTop.ne_top_iff_exists.mp (hl p.1 (List.of_mem_zip hp).1)
    obtain ⟨y, hy⟩ := WithTop.ne_top_iff_exists.mp (hr p.2 (List.of_mem_zip hp).2)
    unfold square
    rw [← hx, ← hy]
    exact WithTop.coe_ne_top
  generalize left.zip right = pairs at hsquare
  induction pairs with
  | nil => exact WithTop.coe_ne_top
  | cons p pairs ih =>
    rw [List.map_cons, List.sum_cons]
    exact WithTop.add_ne_top.mpr ⟨hsquare p List.mem_cons_self,
      ih fun q hq => hsquare q (List.mem_cons_of_mem p hq)⟩

theorem mul_zero_of_number {x : WithTop K} (h : x ≠ ⊤) : F32.mul x F32.zero = 0 := by
  obtain ⟨a, rfl⟩ := WithTop.ne_top_iff_exists.mp h
  show ((a * 0 : K) : WithTop K) = ((0 : K) : WithTop K)
  rw [mul_zero]

variable [IsStrictOrderedRing K]

/-- ⊤ stays ⊤, and a nonnegative factor keeps the order of numbers. -/
theorem mul_le_mul_factor {factor x y : WithTop K} (hfactor : 0 ≤ factor) (hxy : x ≤ y) :
    F32.mul factor x ≤ F32.mul factor y := by
  cases factor with
  | top => exact le_top
  | coe a =>
    cases y with
    | top => exact le_top
    | coe y =>
      cases x with
      | top => exact absurd (top_le_iff.mp hxy) WithTop.coe_ne_top
      | coe x =>
        exact WithTop.coe_le_coe.mpr (mul_le_mul_of_nonneg_left (WithTop.coe_le_coe.mp hxy)
          (WithTop.coe_le_coe.mp hfactor))

theorem square_nonneg (p : WithTop K × WithTop K) : 0 ≤ square p := by
  obtain ⟨x, y⟩ := p
  cases x with
  | top => exact le_top
  | coe x =>
    cases y with
    | top => exact le_top
    | coe y => exact WithTop.coe_le_coe.mpr (mul_self_nonneg (x - y))

/-- A square is zero for two equal numbers and no others. -/
theorem square_eq_zero {x y : WithTop K} (hx : x ≠ ⊤) (hy : y ≠ ⊤) :
    square (x, y) = 0 ↔ x = y := by
  obtain ⟨a, rfl⟩ := WithTop.ne_top_iff_exists.mp hx
  obtain ⟨b, rfl⟩ := WithTop.ne_top_iff_exists.mp hy
  show (((a - b) * (a - b) : K) : WithTop K) = ((0 : K) : WithTop K) ↔ _
  rw [WithTop.coe_inj, WithTop.coe_inj, mul_self_eq_zero, sub_eq_zero]

theorem distSq_nonneg (left right : List (WithTop K)) : 0 ≤ distSq left right := by
  rw [distSq_eq_sum]
  apply List.sum_nonneg
  intro x hx
  obtain ⟨p, _, rfl⟩ := List.mem_map.mp hx
  exact square_nonneg p

/-- Two vectors of numbers are at distance zero when they are equal and only then. -/
theorem distSq_eq_zero {left right : List (WithTop K)} (hlen : left.length = right.length)
    (hl : ∀ x ∈ left, x ≠ ⊤) (hr : ∀ x ∈ right, x ≠ ⊤) :
    distSq left right = 0 ↔ left = right := by
  rw [distSq_eq_sum]
  induction left generalizing right with
  | nil =>
    obtain rfl := List.length_eq_zero_iff.mp hlen.symm
    exact ⟨fun _ => rfl, fun _ => rfl⟩
  | cons x left ih =>
    cases right with
    | nil => cases hlen
    | cons y right =>
      have htail := ih (Nat.succ.inj hlen) (fun z hz => hl z (List.mem_cons_of_mem x hz))
        (fun z hz => hr z (List.mem_cons_of_mem y hz))
      have hrest : (0 : WithTop K) ≤ ((left.zip right).map square).sum := by
        rw [← distSq_eq_sum]
        exact distSq_nonneg left right
      rw [List.zip_cons_cons, List.map_cons, List.sum_cons, List.cons.injEq, ← htail,
        ← square_eq_zero (hl x List.mem_cons_self) (hr y List.mem_cons_self)]
      exact add_eq_zero_iff_of_nonneg (square_nonneg (x, y)) hrest

/-- Vectors of numbers of one length, whatever the length: the blocked distance is the plain
one, and it is zero for equal vectors and no others. -/
theorem blocked_distance_is_distance {lhs rhs : List K} (h : lhs.length = rhs.length) :
    distSqBlocked (lhs.map ((↑) : K → WithTop K)) (rhs.map (↑)) =
        distSq (lhs.map ((↑) : K → WithTop K)) (rhs.map (↑)) ∧
      (distSq (lhs.map ((↑) : K → WithTop K)) (rhs.map (↑)) = 0 ↔ lhs = rhs) := by
  have hlen : (lhs.map ((↑) : K → WithTop K)).length = (rhs.map ((↑) : K → WithTop K)).length := by
    rw [List.length_map, List.length_map, h]
  have hnumbers : ∀ xs : List K, ∀ x ∈ xs.map ((↑) : K → WithTop K), x ≠ ⊤ := by
    intro xs x hx
    obtain ⟨a, _, rfl⟩ := List.mem_map.mp hx
    exact WithTop.coe_ne_top
  refine ⟨distSqBlocked_eq_distSq hlen, ?_⟩
  rw [distSq_eq_zero hlen (hnumbers lhs) (hnumbers rhs)]
  exact (List.map_injective_iff.mpr WithTop.coe_injective).eq_iff

/-- Two vectors of a block of four and a remainder of three. -/
def sevenLeft : List Int := [0, 4, 8, 12, 16, 20, 1]

def sevenRight : List Int := [4, 6, 4, 20, 18, 8, 3]

theorem blocked_distance_is_distance_seven :
    distSqBlocked (sevenLeft.map ((↑) : Int → WithTop Int)) (sevenRight.map (↑)) =
        distSq (sevenLeft.map ((↑) : Int → WithTop Int)) (sevenRight.map (↑)) ∧
      (distSq (sevenLeft.map ((↑) : Int → WithTop Int)) (sevenRight.map (↑)) = 0 ↔
        sevenLeft = sevenRight) :=
  have hlen : sevenLeft.length = sevenRight.length := rfl
  blocked_distance_is_distance hlen

end Exact

end QTom.Router
