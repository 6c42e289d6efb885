import Mathlib.Algebra.Group.Nat.Defs
import Mathlib.Algebra.Order.Ring.Int

/- Binary floating-point values of `p` significant bits, rounded to nearest, ties to
   even, with subnormals, signed zeros, infinities and a NaN (payloads are left out).
   Magnitudes are counted in units of the least positive one, so the finite values are
   `m * 2 ^ k` with `m < 2 ^ p` and `k ≤ top`; sums and differences of finite values are
   whole numbers of units before they are rounded. A whole number of units other than
   zero does not round to zero (`ofInt_rank_zero`): a difference vanishes only for equal
   values. -/
namespace QTom.Lib

/-- A magnitude of `p` significant bits. -/
def Representable (p top n : Nat) : Prop := ∃ m k, m < 2 ^ p ∧ k ≤ top ∧ n = m * 2 ^ k

inductive BinaryFloat (p top : Nat) where
  | nan
  | infinite (negative : Bool)
  | finite (negative : Bool) (magnitude : Nat) (representable : Representable p top magnitude)

/-! Rounding. -/

/-- `n / 2 ^ k` to the nearest whole number, ties to the even one. -/
def roundEven (n k : Nat) : Nat :=
  let q := n / 2 ^ k
  let r := n % 2 ^ k
  if 2 * r < 2 ^ k ∨ 2 * r = 2 ^ k ∧ q % 2 = 0 then q else q + 1

/-- How many low bits of `n` do not fit `p` significant ones. -/
def excess (p n : Nat) : Nat := Nat.log2 n + 1 - p

/-- `n` to the nearest magnitude of `p` significant bits. -/
def roundBits (p n : Nat) : Nat := roundEven n (excess p n) * 2 ^ excess p n

theorem roundEven_le (n k : Nat) : roundEven n k ≤ n / 2 ^ k + 1 := by
  unfold roundEven
  dsimp only
  split <;> omega

theorem le_roundEven (n k : Nat) : n / 2 ^ k ≤ roundEven n k := by
  unfold roundEven
  dsimp only
  split <;> omega

/-- What is left of `n` has `p` significant bits. -/
theorem div_excess_lt (p n : Nat) : n / 2 ^ excess p n < 2 ^ p := by
  apply Nat.div_lt_of_lt_mul
  rw [← Nat.pow_add]
  calc n < 2 ^ (Nat.log2 n + 1) := Nat.lt_log2_self
    _ ≤ 2 ^ (excess p n + p) := Nat.pow_le_pow_right (by decide) (by unfold excess; omega)

/-- Where bits are dropped, `p` significant ones are left. -/
theorem le_div_excess {p n : Nat} (hp : 0 < p) (h : 0 < excess p n) : 2 ^ (p - 1) ≤ n / 2 ^ excess p n := by
  have hn : n ≠ 0 := by
    intro hn
    subst hn
    unfold excess at h
    have hlog : Nat.log2 0 = 0 := rfl
    omega
  apply (Nat.le_div_iff_mul_le (Nat.two_pow_pos _)).mpr
  rw [← Nat.pow_add]
  calc 2 ^ (p - 1 + excess p n) ≤ 2 ^ Nat.log2 n :=
        Nat.pow_le_pow_right (by decide) (by unfold excess at h ⊢; omega)
    _ ≤ n := Nat.log2_self_le hn

theorem roundBits_eq_zero {p n : Nat} (hp : 0 < p) : roundBits p n = 0 ↔ n = 0 := by
  refine ⟨?_, ?_⟩
  · intro h
    rcases Nat.mul_eq_zero.mp h with h | h
    · have hdiv : n / 2 ^ excess p n = 0 := Nat.le_zero.mp (h ▸ le_roundEven n (excess p n))
      rcases Nat.eq_zero_or_pos (excess p n) with hzero | hpos
      · rw [hzero] at hdiv
        simpa using hdiv
      · -- the leading bit is never dropped
        have hlead := le_div_excess hp hpos
        rw [hdiv] at hlead
        exact absurd hlead (Nat.not_le.mpr (Nat.two_pow_pos _))
    · exact absurd h (Nat.two_pow_pos _).ne'
  · intro h
    subst h
    unfold roundBits roundEven
    simp

/-- Rounding gives a magnitude of `p` significant bits, or overflows. -/
theorem roundBits_representable {p top n : Nat} (hp : 0 < p) (h : roundBits p n < 2 ^ (p + top)) :
    Representable p top (roundBits p n) := by
  have hle : roundEven n (excess p n) ≤ 2 ^ p := by
    have hround := roundEven_le n (excess p n)
    have hdiv := div_excess_lt p n
    omega
  unfold roundBits at h ⊢
  rcases Nat.lt_or_eq_of_le hle with hlt | heq
  · refine ⟨roundEven n (excess p n), excess p n, hlt, ?_, rfl⟩
    by_contra htop
    have hlead := Nat.le_trans (le_div_excess hp (by omega)) (le_roundEven n (excess p n))
    have hbig : 2 ^ (p + top) ≤ roundEven n (excess p n) * 2 ^ excess p n := by
      calc 2 ^ (p + top) ≤ 2 ^ (p - 1 + excess p n) := Nat.pow_le_pow_right (by decide) (by omega)
        _ = 2 ^ (p - 1) * 2 ^ excess p n := Nat.pow_add 2 _ _
        _ ≤ roundEven n (excess p n) * 2 ^ excess p n := Nat.mul_le_mul_right _ hlead
    omega
  · -- the carry went all the way up
    rw [heq] at h ⊢
    have hcarry : 2 ^ p * 2 ^ excess p n = 2 ^ (p - 1) * 2 ^ (excess p n + 1) := by
      rw [← Nat.pow_add, ← Nat.pow_add]
      congr 1
      omega
    have hexp : p + excess p n < p + top := by
      rw [← Nat.pow_add] at h
      exact (Nat.pow_lt_pow_iff_right (by decide)).mp h
    exact ⟨2 ^ (p - 1), excess p n + 1, Nat.pow_lt_pow_right (by decide) (by omega), by omega,
      hcarry⟩

namespace BinaryFloat
variable {p top : Nat}

def zero (p top : Nat) : BinaryFloat p top :=
  .finite false 0 ⟨0, 0, Nat.two_pow_pos p, Nat.zero_le top, rfl⟩

def isInfinite : BinaryFloat p top → Bool
  | .infinite _ => true
  | _ => false

/-- A magnitude in units, with a sign. -/
def signed (negative : Bool) (magnitude : Nat) : Int :=
  if negative then -(magnitude : Int) else magnitude

/-- The place of a value among the others, in units; an infinity is beyond the finite values
and a NaN has no place. -/
def rank : BinaryFloat p top → Option Int
  | .nan => none
  | .infinite negative => some (signed negative (2 ^ (p + top)))
  | .finite negative magnitude _ => some (signed negative magnitude)

/-- `==`. -/
def eq (a b : BinaryFloat p top) : Bool :=
  match a.rank, b.rank with
  | some x, some y => decide (x = y)
  | _, _ => false

/-- `<=`. -/
def le (a b : BinaryFloat p top) : Bool :=
  match a.rank, b.rank with
  | some x, some y => decide (x ≤ y)
  | _, _ => false

def neg : BinaryFloat p top → BinaryFloat p top
  | .nan => .nan
  | .infinite negative => .infinite (!negative)
  | .finite negative magnitude h => .finite (!negative) magnitude h

def abs : BinaryFloat p top → BinaryFloat p top
  | .nan => .nan
  | .infinite _ => .infinite false
  | .finite _ magnitude h => .finite false magnitude h

/-- A magnitude of any number of bits, rounded. -/
def ofMagnitude (hp : 0 < p) (negative : Bool) (magnitude : Nat) : BinaryFloat p top :=
  if h : roundBits p magnitude < 2 ^ (p + top) then
    .finite negative (roundBits p magnitude) (roundBits_representable hp h)
  else .infinite negative

/-- The sum of two values; two zeros of one sign keep it. -/
def add (hp : 0 < p) : BinaryFloat p top → BinaryFloat p top → BinaryFloat p top
  | .nan, _ => .nan
  | _, .nan => .nan
  | .infinite a, .infinite b => if a = b then .infinite a else .nan
  | .infinite a, .finite _ _ _ => .infinite a
  | .finite _ _ _, .infinite b => .infinite b
  | .finite a m _, .finite b n _ =>
    let sum := signed a m + signed b n
    ofMagnitude hp (if sum = 0 then a && b else decide (sum < 0)) sum.natAbs

def sub (hp : 0 < p) (a b : BinaryFloat p top) : BinaryFloat p top := add hp a b.neg

/-! Comparisons. -/

theorem eq_iff {a b : BinaryFloat p top} : a.eq b = true ↔ ∃ x, a.rank = some x ∧ b.rank = some x := by
  unfold eq
  cases a.rank with
  | none => simp
  | some x =>
    cases b.rank with
    | none => simp
    | some y => simp [eq_comm]

theorem le_iff {a b : BinaryFloat p top} :
    a.le b = true ↔ ∃ x y, a.rank = some x ∧ b.rank = some y ∧ x ≤ y := by
  unfold le
  cases a.rank with
  | none => simp
  | some x =>
    cases b.rank with
    | none => simp
    | some y => simp

theorem le_trans {a b c : BinaryFloat p top} (hab : a.le b = true) (hbc : b.le c = true) :
    a.le c = true := by
  obtain ⟨x, y, ha, hb, hxy⟩ := le_iff.mp hab
  obtain ⟨y', z, hb', hc, hyz⟩ := le_iff.mp hbc
  rw [hb] at hb'
  obtain rfl := Option.some.inj hb'
  exact le_iff.mpr ⟨x, z, ha, hc, Int.le_trans hxy hyz⟩

/-- Bounds that compare equal bound the same values. -/
theorem le_of_eq_right {a b c : BinaryFloat p top} (hbc : b.eq c = true) : a.le b = a.le c := by
  obtain ⟨x, hb, hc⟩ := eq_iff.mp hbc
  unfold le
  rw [hb, hc]

/-! Differences. -/

theorem abs_ofMagnitude_le_zero (hp : 0 < p) (negative : Bool) (magnitude : Nat) :
    ((ofMagnitude hp negative magnitude : BinaryFloat p top).abs.le (zero p top)) = true ↔
      magnitude = 0 := by
  rw [← roundBits_eq_zero hp, le_iff]
  unfold ofMagnitude
  split
  · show (∃ x y : Int, some (roundBits p magnitude : Int) = some x ∧ some (0 : Int) = some y ∧ x ≤ y) ↔ _
    simp only [Option.some.injEq]
    refine ⟨?_, ?_⟩
    · intro ⟨x, y, hx, hy, hxy⟩
      omega
    · intro h
      exact ⟨_, _, rfl, rfl, by omega⟩
  · rename_i hover
    have hpos := Nat.two_pow_pos (p + top)
    show (∃ x y : Int, some ((2 ^ (p + top) : Nat) : Int) = some x ∧ some (0 : Int) = some y ∧ x ≤ y) ↔ _
    simp only [Option.some.injEq]
    refine ⟨?_, ?_⟩
    · intro ⟨x, y, hx, hy, hxy⟩
      omega
    · intro h
      omega

/-- The difference of two values that are no infinities vanishes exactly when they are
equal. -/
theorem abs_sub_le_zero (hp : 0 < p) {a b : BinaryFloat p top} (ha : a.isInfinite = false)
    (hb : b.isInfinite = false) : (sub hp a b).abs.le (zero p top) = a.eq b := by
  cases a with
  | nan => rfl
  | infinite negative => cases ha
  | finite s m hm =>
    cases b with
    | nan => rfl
    | infinite negative => cases hb
    | finite t n hn =>
      have hneg : signed (!t) n = -signed t n := by
        unfold signed
        cases t <;> simp
      rw [Bool.eq_iff_iff]
      show ((ofMagnitude hp _ (signed s m + signed (!t) n).natAbs : BinaryFloat p top).abs.le _) = true ↔
        decide (signed s m = signed t n) = true
      rw [abs_ofMagnitude_le_zero, hneg, decide_eq_true_iff]
      omega

end BinaryFloat
end QTom.Lib
