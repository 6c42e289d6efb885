import QTom.Lib.TotalCmp
import QTom.Router.TopKSpec

/- Distances as the f32 bit patterns the router compares, NaNs and signed zeros
   among them. Selection reads them through `total_cmp` alone, so the arithmetic is
   left open: what holds here holds for every rounding. -/
namespace QTom.Router
open QTom.Lib

/-- Operations on bit patterns. -/
structure BitArith where
  add : BitVec 32 → BitVec 32 → BitVec 32
  sub : BitVec 32 → BitVec 32 → BitVec 32
  mul : BitVec 32 → BitVec 32 → BitVec 32
  lt : BitVec 32 → BitVec 32 → Bool
  eq : BitVec 32 → BitVec 32 → Bool

/-- `f32::to_bits`, under an arithmetic. -/
structure Bits (arith : BitArith) where
  bits : BitVec 32
  deriving DecidableEq

variable {arith : BitArith}

instance : F32 (Bits arith) where
  zero := ⟨0⟩
  one := ⟨0x3f800000⟩
  infinity := ⟨0x7f800000⟩
  add left right := ⟨arith.add left.bits right.bits⟩
  sub left right := ⟨arith.sub left.bits right.bits⟩
  mul left right := ⟨arith.mul left.bits right.bits⟩
  lt left right := arith.lt left.bits right.bits
  eq left right := arith.eq left.bits right.bits
  totalCmp left right := totalCmpBits left.bits right.bits

instance : Std.TransCmp (F32.totalCmp (F := Bits arith)) :=
  transCmp_comap totalCmpBits Bits.bits

instance : Std.LawfulEqCmp (F32.totalCmp (F := Bits arith)) where
  compare_self := by
    intro a
    show totalCmpBits a.bits a.bits = .eq
    exact Std.ReflCmp.compare_self
  eq_of_compare := by
    intro a b h
    have hkey : totalCmpBits a.bits b.bits = .eq := h
    have hbits : a.bits = b.bits := Std.LawfulEqCmp.eq_of_compare hkey
    cases a
    cases b
    exact congrArg Bits.mk hbits

namespace BoundedTopK

/-- **Bounded top-k is sort and truncate.** For every `k`, sort mode and stream of pushes,
    NaNs, repeats and ties included, the keys returned are those of the sorted stream cut to
    `k`, the candidates are a sub-multiset of the pushed ones, `min k pushes` are stored, and
    once one is, the worst index names a greatest. -/
theorem into_vec_is_sort_truncate (k : Nat) (sort : CandidateSort)
    (pushed : List (CompactCandidate (Bits arith))) :
    let top := pushed.foldl push (new k sort)
    top.intoVec.map sort.sortKey =
        ((sortBy (compareCandidate sort) pushed).take k).map sort.sortKey ∧
      top.intoVec.Subperm pushed ∧
      top.len = min k pushed.length ∧ (0 < top.len → top.NamesWorst) := by
  obtain ⟨hlen, hsub, hworst⟩ := stored_run k sort pushed
  exact ⟨keys_run k sort pushed, hsub, hlen, hworst⟩

end BoundedTopK

end QTom.Router
