import QTom.Lib.FloatArithmetic
import QTom.Router.BackendParity
import QTom.Router.RouteSpec

/- f32 by IEEE 754: `Binary32` with its operations, as the router's arithmetic. The bit
   pattern of a value is read back as the value (`ofBits_toBits`). Scores of finite vectors
   under loads that are numbers are no NaN, whatever is rounded or overflows on the way
   (`scored_numbers`). A NaN has no payload and no sign here and is the last in the total
   order. -/
namespace QTom.Router
open QTom.Lib

namespace Binary32

/-! Bit patterns. -/

/-- `f32::from_bits`. -/
def ofBits (bits : BitVec 32) : Binary32 :=
  let exponent := bits.toNat / 2 ^ 23 % 2 ^ 8
  let fraction := bits.toNat % 2 ^ 23
  if h : exponent = 255 then if fraction = 0 then .infinite bits.msb else .nan
  else
    .finite bits.msb ((if exponent = 0 then fraction else 2 ^ 23 + fraction) * 2 ^ (exponent - 1))
      ⟨_, _, by split <;> omega, by omega, rfl⟩

/-- `f32::to_bits`; of the NaNs it is the quiet one. -/
def toBits : Binary32 → BitVec 32
  | .nan => 0x7fc00000#32
  | .infinite negative => if negative then 0xff800000#32 else 0x7f800000#32
  | .finite negative magnitude _ =>
    let shift := Nat.log2 magnitude - 23
    .ofNat 32 ((if negative then 2 ^ 31 else 0) + shift * 2 ^ 23 + magnitude / 2 ^ shift)

/-- The leading 24 bits of a magnitude, and the zeros behind them. -/
theorem significand_spec {magnitude : Nat} (h : Representable 24 253 magnitude) :
    Nat.log2 magnitude - 23 ≤ 253 ∧ magnitude / 2 ^ (Nat.log2 magnitude - 23) < 2 ^ 24 ∧
      (0 < Nat.log2 magnitude - 23 → 2 ^ 23 ≤ magnitude / 2 ^ (Nat.log2 magnitude - 23)) ∧
      magnitude / 2 ^ (Nat.log2 magnitude - 23) * 2 ^ (Nat.log2 magnitude - 23) = magnitude := by
  obtain ⟨f, k, hf, hk, hm⟩ := h
  by_cases hzero : magnitude = 0
  · subst hzero
    exact ⟨by decide, by decide, by decide, by decide⟩
  have hshort : Nat.log2 magnitude < 24 + k := by
    rw [Nat.log2_lt hzero, hm, Nat.pow_add]
    exact Nat.mul_lt_mul_of_pos_right hf (Nat.two_pow_pos k)
  have hexcess : excess 24 magnitude = Nat.log2 magnitude - 23 := by
    unfold excess
    omega
  have hdvd : 2 ^ (Nat.log2 magnitude - 23) ∣ magnitude := by
    rw [hm]
    exact Nat.dvd_mul_left_of_dvd (Nat.pow_dvd_pow 2 (by rw [← hm]; omega)) f
  refine ⟨by omega, ?_, ?_, Nat.div_mul_cancel hdvd⟩
  · rw [← hexcess]
    exact div_excess_lt 24 magnitude
  · rw [← hexcess]
    exact le_div_excess (by decide)

/-- The fields of a bit pattern of a finite value. -/
theorem ofBits_fields {negative : Bool} {shift quotient : Nat} (hshift : shift ≤ 253)
    (hsmall : quotient < 2 ^ 24) (hlead : 0 < shift → 2 ^ 23 ≤ quotient)
    (h : Representable 24 253 (quotient * 2 ^ shift)) :
    ofBits (.ofNat 32 ((if negative then 2 ^ 31 else 0) + shift * 2 ^ 23 + quotient)) =
      .finite negative (quotient * 2 ^ shift) h := by
  have hsign : (if negative then 2 ^ 31 else 0) = 2 ^ 31 * negative.toNat := by
    cases negative <;> rfl
  have hbound := Bool.toNat_le negative
  generalize hbits : BitVec.ofNat 32 ((if negative then 2 ^ 31 else 0) + shift * 2 ^ 23 + quotient) = bits
  have hfields : bits.toNat = 2 ^ 31 * negative.toNat + shift * 2 ^ 23 + quotient := by
    rw [← hbits, hsign, BitVec.toNat_ofNat]
    exact Nat.mod_eq_of_lt (by omega)
  have hmsb : bits.msb = negative := by
    rw [BitVec.msb_eq_decide, hfields]
    cases negative with
    | false => exact decide_eq_false (by simp only [Bool.toNat_false]; omega)
    | true => exact decide_eq_true (by simp only [Bool.toNat_true]; omega)
  unfold ofBits
  dsimp only
  rw [dif_neg (by omega), hmsb]
  congr 1
  by_cases hzero : bits.toNat / 2 ^ 23 % 2 ^ 8 = 0
  · -- subnormal
    have hnone : shift = 0 := by omega
    rw [if_pos hzero, hzero, hnone]
    congr 1
    omega
  · rw [if_neg hzero]
    congr 1
    · omega
    · congr 1
      omega

/-- A bit pattern of a value is read back as the value. -/
theorem ofBits_toBits (x : Binary32) : ofBits (toBits x) = x := by
  cases x with
  | nan => rfl
  | infinite negative => cases negative <;> rfl
  | finite negative magnitude h =>
    obtain ⟨hshift, hsmall, hlead, hback⟩ := significand_spec h
    have hquotient : Representable 24 253
        (magnitude / 2 ^ (Nat.log2 magnitude - 23) * 2 ^ (Nat.log2 magnitude - 23)) := by
      rw [hback]
      exact h
    refine (ofBits_fields hshift hsmall hlead hquotient).trans ?_
    congr 1

end Binary32

theorem precision_pos : 0 < 24 := Nat.succ_pos 23

instance : F32 Binary32 where
  zero := .zero 24 253
  one := .ofBits 0x3f800000#32
  infinity := .infinite false
  add := .add precision_pos
  sub := .sub precision_pos
  mul := .mul precision_pos 149
  lt := BinaryFloat.lt
  eq := BinaryFloat.eq
  totalCmp := BinaryFloat.totalCmp

instance : Std.TransCmp (F32.totalCmp : Binary32 → Binary32 → Ordering) :=
  inferInstanceAs (Std.TransCmp (BinaryFloat.totalCmp : Binary32 → Binary32 → Ordering))

/-! Blocked sums. -/

section Blocked
variable {F : Type} [F32 F] {P : F → Prop} {R : F → F → Prop}

theorem foldl_addSquare_induct (hsquare : ∀ sum l r, P sum → R l r → P (addSquare sum l r))
    {pairs : List (F × F)} {init : F} (hinit : P init) (h : ∀ p ∈ pairs, R p.1 p.2) :
    P (pairs.foldl (fun sum p => addSquare sum p.1 p.2) init) := by
  induction pairs generalizing init with
  | nil => exact hinit
  | cons p pairs ih =>
    exact ih (hsquare init p.1 p.2 hinit (h p List.mem_cons_self))
      fun q hq => h q (List.mem_cons_of_mem p hq)

/-- The four sums are all `P`. -/
def Lanes.All (P : F → Prop) (s : Lanes F) : Prop := P s.sum0 ∧ P s.sum1 ∧ P s.sum2 ∧ P s.sum3

theorem Lanes.add_induct (hsquare : ∀ sum l r, P sum → R l r → P (addSquare sum l r))
    {s : Lanes F} (hs : s.All P) {left right : List F} (h : ∀ p ∈ left.zip right, R p.1 p.2) :
    (s.add (left, right)).All P := by
  obtain ⟨h0, h1, h2, h3⟩ := hs
  unfold Lanes.add
  split
  · rename_i l0 l1 l2 l3 r0 r1 r2 r3 heq
    obtain ⟨rfl, rfl⟩ := Prod.mk.inj heq
    simp only [List.zip_cons_cons, List.forall_mem_cons] at h
    exact ⟨hsquare _ _ _ h0 h.1, hsquare _ _ _ h1 h.2.1, hsquare _ _ _ h2 h.2.2.1,
      hsquare _ _ _ h3 h.2.2.2.1⟩
  · exact ⟨h0, h1, h2, h3⟩

/-- What holds of zero, of sums and of a sum that takes in one more coordinate holds of a
distance, however the coordinates are blocked. -/
theorem distSqBlocked_induct {lhs rhs : List F} (hlen : lhs.length = rhs.length)
    (hzero : P F32.zero) (hadd : ∀ a b, P a → P b → P (F32.add a b))
    (hsquare : ∀ sum l r, P sum → R l r → P (addSquare sum l r))
    (h : ∀ p ∈ lhs.zip rhs, R p.1 p.2) : P (distSqBlocked lhs rhs) := by
  have hblocks : (chunksExact 4 lhs).zip (chunksExact 4 rhs) =
      (List.range (lhs.length / 4)).map fun i => (slice lhs 4 i, slice rhs 4 i) := by
    unfold chunksExact
    rw [← hlen, List.zip_map']
  have hlanes : ∀ (blocks : List (List F × List F)) (s : Lanes F), s.All P →
      (∀ b ∈ blocks, ∀ p ∈ b.1.zip b.2, R p.1 p.2) → (blocks.foldl Lanes.add s).All P := by
    intro blocks
    induction blocks with
    | nil => exact fun s hs _ => hs
    | cons b blocks ih =>
      intro s hs hb
      exact ih _ (Lanes.add_induct hsquare hs (hb b List.mem_cons_self))
        fun b' hb' => hb b' (List.mem_cons_of_mem b hb')
  obtain ⟨h0, h1, h2, h3⟩ := hlanes ((chunksExact 4 lhs).zip (chunksExact 4 rhs))
    ⟨F32.zero, F32.zero, F32.zero, F32.zero⟩ ⟨hzero, hzero, hzero, hzero⟩ (by
      intro b hb p hp
      rw [hblocks] at hb
      obtain ⟨i, _, rfl⟩ := List.mem_map.mp hb
      rw [slice_zip] at hp
      exact h p (List.mem_of_mem_drop (List.mem_of_mem_take hp)))
  have hrest : (remainder lhs).zip (remainder rhs) = (lhs.zip rhs).drop (lhs.length / 4 * 4) := by
    show List.zipWith Prod.mk _ _ = (List.zipWith Prod.mk lhs rhs).drop _
    rw [List.drop_zipWith]
    unfold remainder
    rw [hlen]
  refine foldl_addSquare_induct hsquare (hadd _ _ (hadd _ _ h0 h1) (hadd _ _ h2 h3)) ?_
  intro p hp
  rw [hrest] at hp
  exact h p (List.mem_of_mem_drop hp)

end Blocked

/-! Scores that are numbers. -/

/-- The coefficients are finite and not negative. -/
structure ScoreCoefficients.Bounded (coefficients : ScoreCoefficients Binary32) : Prop where
  alphaQueue : coefficients.alphaQueue.Nonneg ∧ coefficients.alphaQueue.isFinite = true
  betaLatency : coefficients.betaLatency.Nonneg ∧ coefficients.betaLatency.isFinite = true
  gammaCache : coefficients.gammaCache.Nonneg ∧ coefficients.gammaCache.isFinite = true

/-- The loads are finite and not negative, and the cost factor they make does not overflow. -/
structure AgentRuntimeState.Bounded (state : AgentRuntimeState Binary32)
    (coefficients : ScoreCoefficients Binary32) : Prop where
  queueDepthNorm : state.queueDepthNorm.Nonneg ∧ state.queueDepthNorm.isFinite = true
  latencyNorm : state.latencyNorm.Nonneg ∧ state.latencyNorm.isFinite = true
  cachePressureNorm : state.cachePressureNorm.Nonneg ∧ state.cachePressureNorm.isFinite = true
  omega : (RuntimeScoreFactors.fromState state coefficients).omega.isFinite = true

theorem addSquare_unsigned {sum left right : Binary32} (hsum : sum.Unsigned)
    (hleft : left.isFinite = true) (hright : right.isFinite = true) :
    (addSquare sum left right).Unsigned := by
  have hdiff : (F32.sub left right : Binary32).isNan = false :=
    BinaryFloat.isNan_sub (by decide) (BinaryFloat.within_of_isFinite hleft)
      (BinaryFloat.within_of_isFinite hright)
  exact hsum.add (by decide) (BinaryFloat.unsigned_mul_self (by decide) hdiff)

/-- The squared distance of finite vectors may overflow, but is no NaN and has no sign. -/
theorem distSqBlocked_unsigned {lhs rhs : List Binary32} (hlen : lhs.length = rhs.length)
    (hlhs : ∀ x ∈ lhs, x.isFinite = true) (hrhs : ∀ x ∈ rhs, x.isFinite = true) :
    (distSqBlocked lhs rhs).Unsigned := by
  refine distSqBlocked_induct (R := fun l r => l.isFinite = true ∧ r.isFinite = true) hlen .finite
    (fun _ _ ha hb => ha.add precision_pos hb)
    (fun _ _ _ hsum hpair => addSquare_unsigned hsum hpair.1 hpair.2) ?_
  intro p hp
  obtain ⟨hl, hr⟩ := List.of_mem_zip hp
  exact ⟨hlhs p.1 hl, hrhs p.2 hr⟩

theorem one_positive : (F32.one : Binary32).Positive := ⟨2 ^ 149, by decide +kernel, Nat.two_pow_pos _⟩

section Scores
variable {coefficients : ScoreCoefficients Binary32} {state : AgentRuntimeState Binary32}

/-- A penalty is not negative. -/
theorem penalty_nonneg {coefficient load : Binary32}
    (hcoefficient : coefficient.Nonneg ∧ coefficient.isFinite = true)
    (hload : load.Nonneg ∧ load.isFinite = true) :
    (F32.mul coefficient load : Binary32).Nonneg :=
  hcoefficient.1.mul precision_pos hload.1 (BinaryFloat.within_of_isFinite hcoefficient.2)
    (BinaryFloat.within_of_isFinite hload.2)

/-- The cost factor starts from one. -/
theorem omega_positive (hc : coefficients.Bounded) (hs : state.Bounded coefficients) :
    (RuntimeScoreFactors.fromState state coefficients).omega.Positive := by
  have hqueue := one_positive.add precision_pos (penalty_nonneg hc.alphaQueue hs.queueDepthNorm)
  have hlatency := hqueue.add precision_pos (penalty_nonneg hc.betaLatency hs.latencyNorm)
  exact hlatency.add precision_pos (penalty_nonneg hc.gammaCache hs.cachePressureNorm)

theorem effective_unsigned {base : Binary32} (hbase : base.Unsigned) (hc : coefficients.Bounded)
    (hs : state.Bounded coefficients) :
    (if state.isAvailable then
      F32.mul base (RuntimeScoreFactors.fromState state coefficients).omega
      else F32.infinity : Binary32).Unsigned := by
  split
  · exact hbase.mul precision_pos (omega_positive hc hs) (BinaryFloat.within_of_isFinite hs.omega)
  · exact .infinite

/-- Every score of the candidate is a number. -/
structure RouteCandidate.Numbers (c : RouteCandidate Binary32) : Prop where
  effectiveDistance : c.effectiveDistance.isNan = false
  baseDistance : c.baseDistance.isNan = false
  omega : c.omega.isNan = false
  queuePenalty : c.queuePenalty.isNan = false
  latencyPenalty : c.latencyPenalty.isNan = false
  cachePenalty : c.cachePenalty.isNan = false

/-- Finite vectors are scored with numbers. -/
theorem scored_numbers {vector agentVector : List Binary32} (agentId : Nat)
    (hlen : vector.length = agentVector.length) (hvector : ∀ x ∈ vector, x.isFinite = true) (hagent : ∀ x ∈ agentVector, x.isFinite = true)
    (hc : coefficients.Bounded) (hs : state.Bounded coefficients) :
    (scoreCompactCandidate vector coefficients agentId agentVector state).Numbers := by
  have hbase := distSqBlocked_unsigned hlen hvector hagent
  exact
    { effectiveDistance := (effective_unsigned hbase hc hs).nonneg.isNan
      baseDistance := hbase.nonneg.isNan
      omega := (omega_positive hc hs).nonneg.isNan
      queuePenalty := (penalty_nonneg hc.alphaQueue hs.queueDepthNorm).isNan
      latencyPenalty := (penalty_nonneg hc.betaLatency hs.latencyNorm).isNan
      cachePenalty := (penalty_nonneg hc.gammaCache hs.cachePressureNorm).isNan }

theorem fallback_numbers (agentId : Nat) :
    (fallbackCandidate agentId : RouteCandidate Binary32).Numbers :=
  ⟨rfl, rfl, one_positive.nonneg.isNan, rfl, rfl, rfl⟩

end Scores

/-! The default coefficients. -/

/-- 0.35, 0.25 and 0.20. -/
def ScoreCoefficients.default : ScoreCoefficients Binary32 where
  alphaQueue := .ofBits 0x3eb33333#32
  betaLatency := .ofBits 0x3e800000#32
  gammaCache := .ofBits 0x3e4ccccd#32

/-- Between 0.0 and 1.0. -/
def Binary32.InUnit (x : Binary32) : Prop :=
  (F32.zero : Binary32).le x = true ∧ x.le F32.one = true

theorem Binary32.InUnit.nonneg {x : Binary32} (h : x.InUnit) : x.Nonneg :=
  BinaryFloat.nonneg_iff.mpr h.1

theorem representable_two_pow {k : Nat} (h : k ≤ 253) : Representable 24 253 (2 ^ k) :=
  ⟨1, k, by decide, h, (Nat.one_mul _).symm⟩

/-- 1.0 is `2 ^ 149` units. -/
theorem one_eq : (F32.one : Binary32) =
    .finite false (2 ^ 149) (representable_two_pow (by decide)) := rfl

theorem Binary32.InUnit.within {x : Binary32} (h : x.InUnit) : x.Within (2 ^ 149) :=
  h.nonneg.within (one_eq ▸ h.2)

/-- Under the default coefficients loads between 0 and 1 make a small cost factor. -/
theorem bounded_of_inUnit {state : AgentRuntimeState Binary32} (hqueue : state.queueDepthNorm.InUnit)
    (hlatency : state.latencyNorm.InUnit) (hcache : state.cachePressureNorm.InUnit) :
    state.Bounded .default := by
  have hunit : ∀ {coefficient load : Binary32}, coefficient.Within (2 ^ 149) → load.InUnit →
      (F32.mul coefficient load : Binary32).Within (2 ^ 149) := by
    intro coefficient load hcoefficient hload
    exact hcoefficient.mul precision_pos hload.within (representable_two_pow (by decide)) (by decide)
  have hone : (F32.one : Binary32).Within (2 ^ 149) := .finite (Nat.le_refl (2 ^ 149))
  have halpha : ScoreCoefficients.default.alphaQueue.Within (2 ^ 149) := by decide +kernel
  have hbeta : ScoreCoefficients.default.betaLatency.Within (2 ^ 149) := by decide +kernel
  have hgamma : ScoreCoefficients.default.gammaCache.Within (2 ^ 149) := by decide +kernel
  have hq := hone.add precision_pos (hunit halpha hqueue)
    (representable_two_pow (show 150 ≤ 253 by decide)) (by decide)
  have hl := hq.add precision_pos (hunit hbeta hlatency)
    (representable_two_pow (show 151 ≤ 253 by decide)) (by decide)
  have hc := hl.add precision_pos (hunit hgamma hcache)
    (representable_two_pow (show 152 ≤ 253 by decide)) (by decide)
  exact
    { queueDepthNorm := ⟨hqueue.nonneg, hqueue.within.isFinite⟩
      latencyNorm := ⟨hlatency.nonneg, hlatency.within.isFinite⟩
      cachePressureNorm := ⟨hcache.nonneg, hcache.within.isFinite⟩
      omega := hc.isFinite }

theorem default_bounded : ScoreCoefficients.default.Bounded :=
  ⟨by decide +kernel, by decide +kernel, by decide +kernel⟩

/-! The derived `==`. -/

theorem listsMatch_self {α : Type} {same : α → α → Bool} {xs : List α} :
    listsMatch same xs xs = true ↔ ∀ x ∈ xs, same x x = true := by
  unfold listsMatch
  rw [Bool.and_eq_true, beq_iff_eq, eq_self_iff_true, true_and]
  induction xs with
  | nil => simp
  | cons x xs ih => simp [ih]

/-- A candidate equals itself exactly when its scores are numbers. -/
theorem routeCandidateEq_self {c : RouteCandidate Binary32} :
    routeCandidateEq c c = true ↔ c.Numbers := by
  unfold routeCandidateEq
  simp only [beq_self_eq_true, Bool.true_and, Bool.and_true, Bool.and_eq_true, BinaryFloat.eq_self]
  refine ⟨?_, ?_⟩
  · intro ⟨⟨⟨⟨⟨heffective, hbase⟩, homega⟩, hqueue⟩, hlatency⟩, hcache⟩
    exact ⟨heffective, hbase, homega, hqueue, hlatency, hcache⟩
  · intro h
    exact ⟨⟨⟨⟨⟨h.effectiveDistance, h.baseDistance⟩, h.omega⟩, h.queuePenalty⟩, h.latencyPenalty⟩,
      h.cachePenalty⟩

theorem routingResultEq_self {result : RoutingResult Binary32} (h : result.debug = none) :
    routingResultEq result result = true ↔ ∀ c ∈ result.availableCandidates, c.Numbers := by
  unfold routingResultEq
  rw [h]
  simp only [optionsMatch, beq_self_eq_true, Bool.true_and, Bool.and_true, listsMatch_self,
    routeCandidateEq_self]

end QTom.Router
