import QTom.Lib.FloatRounding
import QTom.Lib.TopK

/- Arithmetic of binary floating-point values. With `unit` the place of the value 1,
   products and quotients are ratios of whole numbers of units, rounded at once. Values
   that are not negative add and multiply in order (`add_le_add`, `mul_le_mul`), bounds
   pass through the operations (`Within.add`, `Within.mul`, `Within.div`), and where a
   value is within bounds, above zero or without a sign, it is no NaN. -/
namespace QTom.Lib
namespace BinaryFloat
variable {p top : Nat}

/-! Operations. -/

/-- A ratio, rounded. -/
def ofRatio (hp : 0 < p) (negative : Bool) (n d : Nat) : BinaryFloat p top :=
  if h : roundRatio p n d < 2 ^ (p + top) then
    .finite negative (roundRatio p n d) (roundRatio_representable hp h)
  else .infinite negative

/-- `*`, of values whose unit place is `unit`. -/
def mul (hp : 0 < p) (unit : Nat) : BinaryFloat p top → BinaryFloat p top → BinaryFloat p top
  | .nan, _ => .nan
  | _, .nan => .nan
  | .infinite a, .infinite b => .infinite (a ^^ b)
  | .infinite a, .finite b n _ => if n = 0 then .nan else .infinite (a ^^ b)
  | .finite a m _, .infinite b => if m = 0 then .nan else .infinite (a ^^ b)
  | .finite a m _, .finite b n _ => ofRatio hp (a ^^ b) (m * n) (2 ^ unit)

/-- `/`. -/
def div (hp : 0 < p) (unit : Nat) : BinaryFloat p top → BinaryFloat p top → BinaryFloat p top
  | .nan, _ => .nan
  | _, .nan => .nan
  | .infinite _, .infinite _ => .nan
  | .infinite a, .finite b _ _ => .infinite (a ^^ b)
  | .finite a _ _, .infinite b => .finite (a ^^ b) 0 (representable_zero p top)
  | .finite a m _, .finite b n _ =>
    if n = 0 then if m = 0 then .nan else .infinite (a ^^ b)
    else ofRatio hp (a ^^ b) (m * 2 ^ unit) n

/-- `<`. -/
def lt (a b : BinaryFloat p top) : Bool :=
  match a.rank, b.rank with
  | some x, some y => decide (x < y)
  | _, _ => false

/-- `clamp`, between bounds in order. -/
def clamp (x low high : BinaryFloat p top) : BinaryFloat p top :=
  let x := if x.lt low then low else x
  if high.lt x then high else x

def isNan : BinaryFloat p top → Bool
  | .nan => true
  | _ => false

def isFinite : BinaryFloat p top → Bool
  | .finite _ _ _ => true
  | _ => false

/-- The place of a value in the total order: the zeros are apart, and the NaN is the last. -/
def orderKey : BinaryFloat p top → Int
  | .nan => 2 ^ (p + top) + 1
  | .infinite negative => if negative then -2 ^ (p + top) - 1 else 2 ^ (p + top)
  | .finite negative magnitude _ => if negative then -(magnitude : Int) - 1 else magnitude

/-- `total_cmp`. -/
def totalCmp (a b : BinaryFloat p top) : Ordering := compare a.orderKey b.orderKey

instance : Std.TransCmp (totalCmp : BinaryFloat p top → BinaryFloat p top → Ordering) :=
  transCmp_comap (compare : Int → Int → Ordering) orderKey

/-! Values that are no NaN. -/

theorem isNan_eq (x : BinaryFloat p top) : x.isNan = x.rank.isNone := by
  cases x <;> rfl

theorem rank_of_isNan {x : BinaryFloat p top} (h : x.isNan = false) : ∃ r, x.rank = some r := by
  rw [isNan_eq] at h
  exact Option.isSome_iff_exists.mp (by rw [← Option.not_isNone, h]; rfl)

theorem eq_self {x : BinaryFloat p top} : x.eq x = true ↔ x.isNan = false := by
  unfold BinaryFloat.eq
  rw [isNan_eq]
  cases x.rank <;> simp

theorem le_self {x : BinaryFloat p top} (h : x.isNan = false) : x.le x = true := by
  obtain ⟨r, hr⟩ := rank_of_isNan h
  exact le_iff.mpr ⟨r, r, hr, hr, Int.le_refl r⟩

theorem le_rank {a b : BinaryFloat p top} {x y : Int} (ha : a.rank = some x) (hb : b.rank = some y) :
    a.le b = true ↔ x ≤ y := by
  unfold le
  rw [ha, hb]
  exact decide_eq_true_iff

theorem isNan_of_le {a b : BinaryFloat p top} (h : a.le b = true) :
    a.isNan = false ∧ b.isNan = false := by
  obtain ⟨x, y, ha, hb, _⟩ := le_iff.mp h
  rw [isNan_eq, isNan_eq, ha, hb]
  exact ⟨rfl, rfl⟩

theorem lt_eq_not_le {a b : BinaryFloat p top} (ha : a.isNan = false) (hb : b.isNan = false) :
    a.lt b = !b.le a := by
  obtain ⟨x, hx⟩ := rank_of_isNan ha
  obtain ⟨y, hy⟩ := rank_of_isNan hb
  unfold lt le
  rw [hx, hy]
  show decide (x < y) = !decide (y ≤ x)
  rw [← decide_not, decide_eq_decide, not_le]

/-- A clamped number is between the bounds. -/
theorem clamp_between {x low high : BinaryFloat p top} (hx : x.isNan = false)
    (h : low.le high = true) :
    low.le (clamp x low high) = true ∧ (clamp x low high).le high = true := by
  obtain ⟨hlow, hhigh⟩ := isNan_of_le h
  have hraised : low.le (if x.lt low then low else x) = true ∧
      (if x.lt low then low else x).isNan = false := by
    split
    · exact ⟨le_self hlow, hlow⟩
    · rename_i hlt
      rw [lt_eq_not_le hx hlow, Bool.not_eq_true', Bool.not_eq_false] at hlt
      exact ⟨hlt, hx⟩
  unfold clamp
  dsimp only
  by_cases hcut : high.lt (if x.lt low then low else x) = true
  · rw [if_pos hcut]
    exact ⟨h, le_self hhigh⟩
  · rw [if_neg hcut]
    rw [lt_eq_not_le hhigh hraised.2, Bool.not_eq_true', Bool.not_eq_false] at hcut
    exact ⟨hraised.1, hcut⟩

/-! Values that are not negative, and values within bounds. -/

/-- A number, and not below zero. -/
def Nonneg (x : BinaryFloat p top) : Prop := ∃ r : Nat, x.rank = some (r : Int)

/-- A finite value of at most this magnitude. -/
inductive Within (bound : Nat) : BinaryFloat p top → Prop where
  | finite {negative : Bool} {magnitude : Nat} {h : Representable p top magnitude}
      (hle : magnitude ≤ bound) : Within bound (.finite negative magnitude h)

theorem within_finite {bound : Nat} {negative : Bool} {magnitude : Nat}
    {h : Representable p top magnitude} :
    (.finite negative magnitude h : BinaryFloat p top).Within bound ↔ magnitude ≤ bound := by
  refine ⟨?_, .finite⟩
  intro hwithin
  cases hwithin with
  | finite hle => exact hle

instance (bound : Nat) : (x : BinaryFloat p top) → Decidable (x.Within bound)
  | .finite _ _ _ => decidable_of_iff _ within_finite.symm
  | .infinite _ => .isFalse fun h => (nomatch h)
  | .nan => .isFalse fun h => (nomatch h)

theorem Nonneg.isNan {x : BinaryFloat p top} (h : x.Nonneg) : x.isNan = false := by
  obtain ⟨r, hr⟩ := h
  rw [isNan_eq, hr]
  rfl

theorem nonneg_iff {x : BinaryFloat p top} : x.Nonneg ↔ (zero p top).le x = true := by
  rw [le_iff]
  refine ⟨?_, ?_⟩
  · intro ⟨r, hr⟩
    exact ⟨0, r, rfl, hr, Int.natCast_nonneg r⟩
  · intro ⟨r, s, hr, hs, hle⟩
    obtain rfl := Option.some.inj hr
    obtain ⟨n, rfl⟩ := Int.eq_ofNat_of_zero_le hle
    exact ⟨n, hs⟩

instance (x : BinaryFloat p top) : Decidable x.Nonneg := decidable_of_iff _ nonneg_iff.symm

theorem Nonneg.of_le {x y : BinaryFloat p top} (hx : x.Nonneg) (h : x.le y = true) : y.Nonneg :=
  nonneg_iff.mpr (le_trans (nonneg_iff.mp hx) h)

theorem signed_eq {negative : Bool} {magnitude r : Nat} :
    signed negative magnitude = r ↔ magnitude = r ∧ (negative = true → magnitude = 0) := by
  unfold signed
  cases negative with
  | false => simp
  | true =>
    simp only [if_true, forall_const]
    omega

theorem nonneg_infinite {negative : Bool} :
    (.infinite negative : BinaryFloat p top).Nonneg ↔ negative = false := by
  have hpos := Nat.two_pow_pos (p + top)
  show (∃ r : Nat, some (signed negative (2 ^ (p + top))) = some (r : Int)) ↔ _
  simp only [Option.some.injEq, signed_eq, exists_eq_left']
  cases negative <;> simp

theorem nonneg_finite {negative : Bool} {magnitude : Nat} {h : Representable p top magnitude} :
    (.finite negative magnitude h : BinaryFloat p top).Nonneg ↔ (negative = true → magnitude = 0) := by
  show (∃ r : Nat, some (signed negative magnitude) = some (r : Int)) ↔ _
  simp only [Option.some.injEq, signed_eq, exists_eq_left']

theorem Within.isFinite {bound : Nat} {x : BinaryFloat p top} (h : x.Within bound) :
    x.isFinite = true := by
  cases h with
  | finite hle => rfl

theorem Within.rank_zero {x : BinaryFloat p top} (h : x.Within 0) : x.rank = some 0 := by
  cases h with
  | @finite a m _ hle =>
    obtain rfl := Nat.le_zero.mp hle
    cases a <;> rfl

theorem Within.isNan {bound : Nat} {x : BinaryFloat p top} (h : x.Within bound) :
    x.isNan = false := by
  cases h with
  | finite hle => rfl

/-- Every finite value is within this bound. -/
theorem within_of_isFinite {x : BinaryFloat p top} (h : x.isFinite = true) :
    x.Within (2 ^ (p + top)) := by
  cases x with
  | nan => cases h
  | infinite negative => cases h
  | finite negative magnitude hm => exact .finite (Nat.le_of_lt hm.lt)

/-- What is between zero and a finite value. -/
theorem Nonneg.within {x : BinaryFloat p top} (hx : x.Nonneg) {bound : Nat}
    {h : Representable p top bound} (hle : x.le (.finite false bound h) = true) :
    x.Within bound := by
  obtain ⟨r, s, hr, hs, hrs⟩ := le_iff.mp hle
  have hbound : (bound : Int) = s := Option.some.inj hs
  cases x with
  | nan => cases hr
  | infinite a =>
    obtain rfl := nonneg_infinite.mp hx
    have hrank : ((2 ^ (p + top) : Nat) : Int) = r := Option.some.inj hr
    have hlt := h.lt
    omega
  | finite a m hm =>
    obtain ⟨n, hn⟩ := hx
    obtain ⟨rfl, _⟩ := signed_eq.mp (Option.some.inj hn)
    have hrank : (m : Int) = r := Option.some.inj (hn.symm.trans hr)
    exact .finite (by omega)

/-! Rounded values. -/

theorem ofMagnitude_eq (hp : 0 < p) (negative : Bool) (n : Nat) :
    (ofMagnitude hp negative n : BinaryFloat p top) = ofRatio hp negative n 1 := by
  simp only [ofMagnitude, ofRatio, roundBits_eq]

/-- A ratio that is not negative has the place of its rounding, cut at the infinity. -/
theorem rank_ofRatio (hp : 0 < p) {negative : Bool} {n d : Nat} (hd : 0 < d)
    (h : negative = true → n = 0) :
    (ofRatio hp negative n d : BinaryFloat p top).rank =
      some ((min (roundRatio p n d) (2 ^ (p + top)) : Nat) : Int) := by
  have hzero : negative = true → roundRatio p n d = 0 := by
    intro hnegative
    rw [h hnegative]
    exact roundRatio_zero hp hd
  unfold ofRatio
  split
  · rename_i hlt
    show some (signed negative (roundRatio p n d)) = _
    rw [signed_eq.mpr ⟨rfl, hzero⟩, Nat.min_eq_left (Nat.le_of_lt hlt)]
  · rename_i hover
    have hpositive : negative = false := by
      rw [← Bool.not_eq_true]
      intro hnegative
      rw [hzero hnegative] at hover
      exact hover (Nat.two_pow_pos _)
    rw [hpositive, Nat.min_eq_right (Nat.le_of_not_lt hover)]
    rfl

theorem isNan_ofRatio (hp : 0 < p) (negative : Bool) (n d : Nat) :
    (ofRatio hp negative n d : BinaryFloat p top).isNan = false := by
  unfold ofRatio
  split <;> rfl

theorem within_ofRatio (hp : 0 < p) {negative : Bool} {n d bound : Nat} (hd : 0 < d)
    (hbound : Representable p top bound) (h : n ≤ bound * d) :
    (ofRatio hp negative n d : BinaryFloat p top).Within bound := by
  have hround := roundRatio_le hp hd hbound h
  unfold ofRatio
  rw [dif_pos (Nat.lt_of_le_of_lt hround hbound.lt)]
  exact .finite hround

/-! Sums. -/

theorem Within.neg {bound : Nat} {x : BinaryFloat p top} (h : x.Within bound) :
    x.neg.Within bound := by
  cases h with
  | finite hle => exact .finite hle

theorem natAbs_signed (negative : Bool) (magnitude : Nat) :
    (signed negative magnitude).natAbs = magnitude := by
  unfold signed
  cases negative <;> simp

/-- Bounds add up. -/
theorem Within.add (hp : 0 < p) {x y : BinaryFloat p top} {A B bound : Nat} (hx : x.Within A)
    (hy : y.Within B) (hbound : Representable p top bound) (h : A + B ≤ bound) :
    (BinaryFloat.add hp x y).Within bound := by
  cases hx with
  | @finite a m _ hm =>
    cases hy with
    | @finite b n _ hn =>
      have hsum := Int.natAbs_add_le (signed a m) (signed b n)
      rw [natAbs_signed, natAbs_signed] at hsum
      show (ofMagnitude hp _ (signed a m + signed b n).natAbs : BinaryFloat p top).Within bound
      rw [ofMagnitude_eq]
      exact within_ofRatio hp Nat.one_pos hbound (by omega)

theorem Within.sub (hp : 0 < p) {x y : BinaryFloat p top} {A B bound : Nat} (hx : x.Within A)
    (hy : y.Within B) (hbound : Representable p top bound) (h : A + B ≤ bound) :
    (BinaryFloat.sub hp x y).Within bound :=
  hx.add hp hy.neg hbound h

/-- The difference of finite values may overflow but is no NaN. -/
theorem isNan_sub (hp : 0 < p) {x y : BinaryFloat p top} {A B : Nat} (hx : x.Within A)
    (hy : y.Within B) : (BinaryFloat.sub hp x y).isNan = false := by
  cases hx with
  | @finite a m _ _ =>
    cases hy with
    | @finite b n _ _ =>
      show (ofMagnitude hp _ (signed a m + signed (!b) n).natAbs : BinaryFloat p top).isNan = false
      rw [ofMagnitude_eq]
      exact isNan_ofRatio hp _ _ _

theorem sub_self_within (hp : 0 < p) {x : BinaryFloat p top} (h : x.isFinite = true) :
    (BinaryFloat.sub hp x x).Within 0 := by
  cases x with
  | nan => cases h
  | infinite negative => cases h
  | finite a m hm =>
    have hzero : signed a m + signed (!a) m = 0 := by
      unfold signed
      cases a <;> simp
    show (ofMagnitude hp _ (signed a m + signed (!a) m).natAbs : BinaryFloat p top).Within 0
    rw [ofMagnitude_eq, hzero]
    exact within_ofRatio hp Nat.one_pos (representable_zero p top) (by decide)

/-- The place of a sum of values that are not negative. -/
theorem rank_add (hp : 0 < p) {x y : BinaryFloat p top} {r s : Nat} (hx : x.rank = some (r : Int))
    (hy : y.rank = some (s : Int)) : (BinaryFloat.add hp x y).rank =
      some ((min (roundRatio p (r + s) 1) (2 ^ (p + top)) : Nat) : Int) := by
  have hover : ∀ n, 2 ^ (p + top) ≤ n →
      some (((2 ^ (p + top) : Nat) : Int)) =
        some ((min (roundRatio p n 1) (2 ^ (p + top)) : Nat) : Int) := by
    intro n hn
    rw [Nat.min_eq_right (pow_le_roundRatio hp hn)]
  cases x with
  | nan => cases hx
  | infinite a =>
    obtain rfl := nonneg_infinite.mp ⟨r, hx⟩
    have hr : 2 ^ (p + top) = r := Int.ofNat_inj.mp (Option.some.inj hx)
    cases y with
    | nan => cases hy
    | infinite b =>
      obtain rfl := nonneg_infinite.mp ⟨s, hy⟩
      exact hover (r + s) (by omega)
    | finite b n hn => exact hover (r + s) (by omega)
  | finite a m hm =>
    cases y with
    | nan => cases hy
    | infinite b =>
      obtain rfl := nonneg_infinite.mp ⟨s, hy⟩
      have hs : 2 ^ (p + top) = s := Int.ofNat_inj.mp (Option.some.inj hy)
      exact hover (r + s) (by omega)
    | finite b n hn =>
      have hr : signed a m = r := Option.some.inj hx
      have hs : signed b n = s := Option.some.inj hy
      show (ofMagnitude hp (if signed a m + signed b n = 0 then a && b
        else decide (signed a m + signed b n < 0)) (signed a m + signed b n).natAbs :
          BinaryFloat p top).rank = _
      rw [ofMagnitude_eq, hr, hs]
      have hsum : ((r : Int) + (s : Int)).natAbs = r + s := by omega
      rw [hsum]
      apply rank_ofRatio hp Nat.one_pos
      intro hnegative
      split at hnegative
      · omega
      · have hlt := of_decide_eq_true hnegative
        omega

theorem Nonneg.add (hp : 0 < p) {x y : BinaryFloat p top} (hx : x.Nonneg) (hy : y.Nonneg) :
    (BinaryFloat.add hp x y).Nonneg := by
  obtain ⟨r, hr⟩ := hx
  obtain ⟨s, hs⟩ := hy
  exact ⟨_, rank_add hp hr hs⟩

/-- Sums of values that are not negative keep their order. -/
theorem add_le_add (hp : 0 < p) {x x' y y' : BinaryFloat p top} (hx : x.Nonneg) (hy : y.Nonneg)
    (hxx' : x.le x' = true) (hyy' : y.le y' = true) :
    (BinaryFloat.add hp x y).le (BinaryFloat.add hp x' y') = true := by
  obtain ⟨r', hr'⟩ := hx.of_le hxx'
  obtain ⟨s', hs'⟩ := hy.of_le hyy'
  obtain ⟨r, hr⟩ := hx
  obtain ⟨s, hs⟩ := hy
  have hrr' : r ≤ r' := Int.ofNat_le.mp ((le_rank hr hr').mp hxx')
  have hss' : s ≤ s' := Int.ofNat_le.mp ((le_rank hs hs').mp hyy')
  rw [le_rank (rank_add hp hr hs) (rank_add hp hr' hs')]
  have hround := roundRatio_mono hp 1 (Nat.add_le_add hrr' hss')
  omega

/-- A number above zero. -/
def Positive (x : BinaryFloat p top) : Prop := ∃ r : Nat, x.rank = some (r : Int) ∧ 0 < r

theorem Positive.nonneg {x : BinaryFloat p top} (h : x.Positive) : x.Nonneg := by
  obtain ⟨r, hr, _⟩ := h
  exact ⟨r, hr⟩

theorem Positive.of_le {x y : BinaryFloat p top} (hx : x.Positive) (h : x.le y = true) :
    y.Positive := by
  obtain ⟨s, hs⟩ := hx.nonneg.of_le h
  obtain ⟨r, hr, hpos⟩ := hx
  have hrs := (le_rank hr hs).mp h
  exact ⟨s, hs, by omega⟩

theorem Positive.add (hp : 0 < p) {x y : BinaryFloat p top} (hx : x.Positive) (hy : y.Nonneg) :
    (BinaryFloat.add hp x y).Positive := by
  obtain ⟨r, hr, hpos⟩ := hx
  obtain ⟨s, hs⟩ := hy
  have hround := roundRatio_pos hp (show 0 < r + s by omega)
  have htop := Nat.two_pow_pos (p + top)
  exact ⟨_, rank_add hp hr hs, by omega⟩

/-- A number that is at least a power of two of units stays so where others are added. -/
theorem pow_le_add (hp : 0 < p) {x y : BinaryFloat p top} {k r : Nat} (hk : k ≤ p + top)
    (hx : x.rank = some (r : Int)) (hr : 2 ^ k ≤ r) (hy : y.Nonneg) :
    ∃ s : Nat, (BinaryFloat.add hp x y).rank = some (s : Int) ∧ 2 ^ k ≤ s := by
  obtain ⟨s, hs⟩ := hy
  have hround := pow_le_roundRatio hp (show 2 ^ k ≤ r + s by omega)
  have htop : 2 ^ k ≤ 2 ^ (p + top) := Nat.pow_le_pow_right (by decide) hk
  exact ⟨_, rank_add hp hx hs, Nat.le_min.mpr ⟨hround, htop⟩⟩

/-! Products and quotients. -/

section Products
variable {unit : Nat}

theorem Within.mul (hp : 0 < p) {x y : BinaryFloat p top} {A B bound : Nat} (hx : x.Within A)
    (hy : y.Within B) (hbound : Representable p top bound) (h : A * B ≤ bound * 2 ^ unit) :
    (BinaryFloat.mul hp unit x y).Within bound := by
  cases hx with
  | finite hm =>
    cases hy with
    | finite hn =>
      exact within_ofRatio hp (Nat.two_pow_pos unit) hbound
        (Nat.le_trans (Nat.mul_le_mul hm hn) h)

theorem Within.div (hp : 0 < p) {x : BinaryFloat p top} {A bound : Nat} (hx : x.Within A)
    {negative : Bool} {n : Nat} {hn : Representable p top n} (hpos : 0 < n)
    (hbound : Representable p top bound) (h : A * 2 ^ unit ≤ bound * n) :
    (BinaryFloat.div hp unit x (.finite negative n hn)).Within bound := by
  cases hx with
  | finite hm =>
    show (if n = 0 then _ else ofRatio hp _ _ _ : BinaryFloat p top).Within bound
    rw [if_neg hpos.ne']
    exact within_ofRatio hp hpos hbound (Nat.le_trans (Nat.mul_le_mul_right _ hm) h)

/-- The place of a product of finite values that are not negative. -/
theorem rank_mul (hp : 0 < p) {x y : BinaryFloat p top} {A B r s : Nat} (hxA : x.Within A)
    (hyB : y.Within B) (hx : x.rank = some (r : Int)) (hy : y.rank = some (s : Int)) :
    (BinaryFloat.mul hp unit x y).rank =
      some ((min (roundRatio p (r * s) (2 ^ unit)) (2 ^ (p + top)) : Nat) : Int) := by
  cases hxA with
  | @finite a m _ _ =>
    cases hyB with
    | @finite b n _ _ =>
      obtain ⟨rfl, ha⟩ := signed_eq.mp (Option.some.inj hx)
      obtain ⟨rfl, hb⟩ := signed_eq.mp (Option.some.inj hy)
      apply rank_ofRatio hp (Nat.two_pow_pos unit)
      intro hsign
      cases a with
      | true => rw [ha rfl, Nat.zero_mul]
      | false =>
        cases b with
        | true => rw [hb rfl, Nat.mul_zero]
        | false => cases hsign

theorem Nonneg.mul (hp : 0 < p) {x y : BinaryFloat p top} {A B : Nat} (hx : x.Nonneg)
    (hy : y.Nonneg) (hxA : x.Within A) (hyB : y.Within B) :
    (BinaryFloat.mul hp unit x y).Nonneg := by
  obtain ⟨r, hr⟩ := hx
  obtain ⟨s, hs⟩ := hy
  exact ⟨_, rank_mul hp hxA hyB hr hs⟩

/-- A finite factor that is not negative keeps the order of finite values. -/
theorem mul_le_mul (hp : 0 < p) {factor x y : BinaryFloat p top} {A B C : Nat}
    (hfactor : factor.Nonneg) (hx : x.Nonneg) (hfactorA : factor.Within A) (hxB : x.Within B)
    (hyC : y.Within C) (h : x.le y = true) :
    (BinaryFloat.mul hp unit factor x).le (BinaryFloat.mul hp unit factor y) = true := by
  obtain ⟨s, hs⟩ := hx.of_le h
  obtain ⟨r, hr⟩ := hx
  obtain ⟨f, hf⟩ := hfactor
  have hrs : r ≤ s := Int.ofNat_le.mp ((le_rank hr hs).mp h)
  rw [le_rank (rank_mul hp hfactorA hxB hf hr) (rank_mul hp hfactorA hyC hf hs)]
  have hround := roundRatio_mono hp (2 ^ unit) (Nat.mul_le_mul_left f hrs)
  omega

/-! Values without a sign. -/

/-- No NaN, and the sign bit is clear. -/
inductive Unsigned : BinaryFloat p top → Prop where
  | infinite : Unsigned (.infinite false)
  | finite {magnitude : Nat} {h : Representable p top magnitude} :
      Unsigned (.finite false magnitude h)

theorem Unsigned.rank_eq {x : BinaryFloat p top} (h : x.Unsigned) : x.rank = some x.orderKey := by
  cases h with
  | infinite =>
    show some (((2 ^ (p + top) : Nat) : Int)) = some (2 ^ (p + top) : Int)
    rw [Int.natCast_pow]
    rfl
  | finite => rfl

theorem Unsigned.nonneg {x : BinaryFloat p top} (h : x.Unsigned) : x.Nonneg := by
  cases h with
  | infinite => exact nonneg_infinite.mpr rfl
  | finite => exact nonneg_finite.mpr fun hneg => absurd hneg Bool.false_ne_true

/-- A number above zero has its sign bit clear. -/
theorem Positive.unsigned {x : BinaryFloat p top} (h : x.Positive) : x.Unsigned := by
  obtain ⟨r, hr, hpos⟩ := h
  cases x with
  | nan => cases hr
  | infinite a =>
    obtain rfl := nonneg_infinite.mp ⟨r, hr⟩
    exact .infinite
  | finite a m hm =>
    obtain ⟨hm0, ha⟩ := signed_eq.mp (Option.some.inj hr)
    cases a with
    | false => exact .finite
    | true =>
      have hzero := ha rfl
      omega

/-- Only infinity itself is not below infinity. -/
theorem lt_infinite {x : BinaryFloat p top} (h : x.Unsigned) :
    x.lt (.infinite false) = true ∨ x = .infinite false := by
  cases h with
  | infinite => exact Or.inr rfl
  | @finite m hm =>
    left
    show decide ((m : Int) < 2 ^ (p + top)) = true
    apply decide_eq_true
    exact_mod_cast hm.lt

theorem le_infinite {x : BinaryFloat p top} (h : x.Unsigned) : x.le (.infinite false) = true := by
  cases h with
  | infinite => exact le_self rfl
  | @finite m hm =>
    show decide ((m : Int) ≤ 2 ^ (p + top)) = true
    apply decide_eq_true
    exact_mod_cast Nat.le_of_lt hm.lt

/-- Without signs the total order is the order of the values. -/
theorem totalCmp_le {x y : BinaryFloat p top} (hx : x.Unsigned) (hy : y.Unsigned) :
    (totalCmp x y).isLE = true ↔ x.le y = true := by
  rw [le_rank hx.rank_eq hy.rank_eq]
  exact Int.isLE_compare

theorem totalCmp_zero {x y : BinaryFloat p top} (hx : x.Unsigned) (hy : y.Unsigned)
    (hzero : y.rank = some 0) : totalCmp x y ≠ .lt ∧ (totalCmp x y = .eq → x.rank = some 0) := by
  have hkey : y.orderKey = 0 := Option.some.inj (hy.rank_eq.symm.trans hzero)
  obtain ⟨r, hr⟩ := hx.nonneg
  have hkeyr : x.orderKey = r := Option.some.inj (hx.rank_eq.symm.trans hr)
  unfold totalCmp
  rw [hkey, hkeyr]
  refine ⟨?_, ?_⟩
  · intro hlt
    have hneg := Int.compare_eq_lt.mp hlt
    omega
  · intro heq
    have hr0 := Int.compare_eq_eq.mp heq
    rw [hr, hr0]

theorem unsigned_ofRatio (hp : 0 < p) (n d : Nat) :
    (ofRatio hp false n d : BinaryFloat p top).Unsigned := by
  unfold ofRatio
  split
  · exact .finite
  · exact .infinite

theorem Unsigned.add (hp : 0 < p) {x y : BinaryFloat p top} (hx : x.Unsigned) (hy : y.Unsigned) :
    (BinaryFloat.add hp x y).Unsigned := by
  cases hx with
  | infinite => cases hy <;> exact .infinite
  | @finite m _ =>
    cases hy with
    | infinite => exact .infinite
    | @finite n _ =>
      show (ofMagnitude hp (if (m : Int) + n = 0 then false && false else decide ((m : Int) + n < 0))
        ((m : Int) + n).natAbs : BinaryFloat p top).Unsigned
      rw [ofMagnitude_eq, Bool.and_self, decide_eq_false (by omega), ite_self]
      exact unsigned_ofRatio hp _ 1

/-- A square. -/
theorem unsigned_mul_self (hp : 0 < p) {x : BinaryFloat p top} (h : x.isNan = false) :
    (BinaryFloat.mul hp unit x x).Unsigned := by
  cases x with
  | nan => cases h
  | infinite a =>
    show (.infinite (a ^^ a) : BinaryFloat p top).Unsigned
    rw [Bool.xor_self]
    exact .infinite
  | finite a m hm =>
    show (ofRatio hp (a ^^ a) (m * m) (2 ^ unit) : BinaryFloat p top).Unsigned
    rw [Bool.xor_self]
    exact unsigned_ofRatio hp _ _

/-- A finite value above zero. -/
theorem Positive.finite {x : BinaryFloat p top} {B : Nat} (h : x.Positive) (hB : x.Within B) :
    ∃ n hn, x = .finite false n hn ∧ n ≠ 0 := by
  have hunsigned := h.unsigned
  obtain ⟨r, hr, hpos⟩ := h
  cases hB with
  | @finite a n hn hle =>
    cases hunsigned with
    | finite =>
      have hrank : (n : Int) = r := Option.some.inj hr
      exact ⟨n, hn, rfl, by omega⟩

theorem infinite_mul (hp : 0 < p) {x : BinaryFloat p top} {B : Nat} (h : x.Positive)
    (hB : x.Within B) : BinaryFloat.mul hp unit (.infinite false) x = .infinite false := by
  obtain ⟨n, hn, rfl, hne⟩ := h.finite hB
  show (if n = 0 then _ else _ : BinaryFloat p top) = _
  rw [if_neg hne, Bool.xor_false]

/-- A value above zero times one or more is above zero. -/
theorem Unsigned.mul_positive (hp : 0 < p) {x y : BinaryFloat p top} {B s : Nat}
    (hx : x.Unsigned) (hpos : x.Positive) (hyB : y.Within B) (hy : y.rank = some (s : Int))
    (hs : 2 ^ unit ≤ s) : (BinaryFloat.mul hp unit x y).Positive := by
  cases hx with
  | infinite =>
    rw [infinite_mul hp ⟨s, hy, Nat.lt_of_lt_of_le (Nat.two_pow_pos unit) hs⟩ hyB]
    exact hpos
  | @finite m _ =>
    obtain ⟨r, hr, hrpos⟩ := hpos
    refine ⟨_, rank_mul hp (.finite (Nat.le_refl m)) hyB hr hy, ?_⟩
    have hround := roundRatio_pos_of_le hp (Nat.two_pow_pos unit)
      (Nat.le_trans hs (Nat.le_mul_of_pos_left s hrpos))
    exact Nat.lt_min.mpr ⟨hround, Nat.two_pow_pos _⟩

/-- Only a zero would make a NaN of an infinity. -/
theorem Unsigned.mul (hp : 0 < p) {x y : BinaryFloat p top} {B : Nat} (hx : x.Unsigned)
    (hy : y.Positive) (hyB : y.Within B) : (BinaryFloat.mul hp unit x y).Unsigned := by
  cases hx with
  | infinite =>
    rw [infinite_mul hp hy hyB]
    exact .infinite
  | finite =>
    obtain ⟨n, hn, rfl, _⟩ := hy.finite hyB
    exact unsigned_ofRatio hp _ _

/-- A factor without a sign keeps the order of finite values above zero. -/
theorem Unsigned.mul_le_mul (hp : 0 < p) {factor x y : BinaryFloat p top} {B C : Nat}
    (hfactor : factor.Unsigned) (hx : x.Positive) (hxB : x.Within B) (hyC : y.Within C)
    (h : x.le y = true) :
    (BinaryFloat.mul hp unit factor x).le (BinaryFloat.mul hp unit factor y) = true := by
  have hnonneg := hfactor.nonneg
  cases hfactor with
  | infinite =>
    rw [infinite_mul hp hx hxB, infinite_mul hp (hx.of_le h) hyC]
    exact le_self rfl
  | @finite m _ =>
    exact BinaryFloat.mul_le_mul hp hnonneg hx.nonneg (.finite (Nat.le_refl m)) hxB hyC h

end Products

end BinaryFloat
end QTom.Lib
