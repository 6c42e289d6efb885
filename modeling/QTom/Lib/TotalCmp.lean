import Mathlib.Data.BitVec
import QTom.Lib.TopK

/- The total order of floating-point bit patterns. The sign bit is the top bit, and
   below it greater magnitudes have greater patterns, so flipping the magnitude of
   the negative ones leaves an order of signed integers. NaNs and the two zeros are
   patterns like any other: no two patterns tie. -/
namespace QTom.Lib
variable {w : Nat}

/-- The bits below the sign bit, flipped when the sign bit is set. -/
def totalKey (bits : BitVec w) : BitVec w :=
  bits ^^^ (bits.sshiftRight (w - 1) >>> 1)

/-- `total_cmp` on bit patterns: their keys as signed integers. -/
def totalCmpBits (left right : BitVec w) : Ordering :=
  compare (totalKey left).toInt (totalKey right).toInt

theorem getLsbD_mask (bits : BitVec w) (i : Nat) :
    (bits.sshiftRight (w - 1) >>> 1).getLsbD i = (decide (i + 1 < w) && bits.msb) := by
  rw [BitVec.getLsbD_ushiftRight, BitVec.getLsbD_sshiftRight]
  by_cases h : i + 1 < w
  · rw [if_neg (by omega)]
    simp [h]
    omega
  · simp [h]
    omega

theorem msb_totalKey (bits : BitVec w) : (totalKey bits).msb = bits.msb := by
  have hmask : (bits.sshiftRight (w - 1) >>> 1).msb = false := by
    rw [BitVec.msb_eq_getLsbD_last, getLsbD_mask]
    rw [decide_eq_false (by omega), Bool.false_and]
  rw [totalKey, BitVec.msb_xor, hmask, Bool.xor_false]

/-- The mask depends on the sign bit only, which the flip keeps, so the flip undoes itself. -/
theorem totalKey_totalKey (bits : BitVec w) : totalKey (totalKey bits) = bits := by
  have hmask : (totalKey bits).sshiftRight (w - 1) >>> 1 = bits.sshiftRight (w - 1) >>> 1 := by
    apply BitVec.eq_of_getLsbD_eq
    intro i _
    rw [getLsbD_mask, getLsbD_mask, msb_totalKey]
  rw [totalKey, hmask, totalKey, BitVec.xor_assoc, BitVec.xor_self, BitVec.xor_zero]

instance : Std.TransCmp (totalCmpBits (w := w)) :=
  transCmp_comap (compare : Int → Int → Ordering) fun bits => (totalKey bits).toInt

instance : Std.LawfulEqCmp (totalCmpBits (w := w)) where
  compare_self := by
    intro a
    exact compare_eq_iff_eq.mpr rfl
  eq_of_compare := by
    intro a b h
    have hkey : totalKey a = totalKey b := BitVec.toInt_inj.mp (compare_eq_iff_eq.mp h)
    rw [← totalKey_totalKey a, hkey, totalKey_totalKey]

/-- −NaN, −∞, −1, −0, +0, 1, +∞, NaN in ascending order. -/
example : ([0xffc00000, 0xff800000, 0xbf800000, 0x80000000, 0, 0x3f800000, 0x7f800000,
    0x7fc00000] : List (BitVec 32)).Pairwise (fun a b => totalCmpBits a b = .lt) := by
  decide

end QTom.Lib
