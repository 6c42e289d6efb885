import QTom.Lib.BinaryFloat

/- Ratios of whole numbers, rounded to `p` significant bits, ties to even. Rounding keeps
   the order of ratios (`roundRatio_mono`), so a bound that is itself a magnitude of `p`
   bits bounds what is rounded (`roundRatio_le`). -/
namespace QTom.Lib

/-- `n / d` to the nearest whole number, ties to the even one. -/
def divEven (n d : Nat) : Nat :=
  let q := n / d
  let r := n % d
  if 2 * r < d ∨ 2 * r = d ∧ q % 2 = 0 then q else q + 1

/-- `n / d` to the nearest magnitude of `p` significant bits. -/
def roundRatio (p n d : Nat) : Nat :=
  divEven n (d * 2 ^ excess p (n / d)) * 2 ^ excess p (n / d)

theorem roundBits_eq (p n : Nat) : roundBits p n = roundRatio p n 1 := by
  unfold roundRatio
  rw [Nat.div_one, Nat.one_mul]
  rfl

theorem divEven_le {n c d : Nat} (hd : 0 < d) (h : n ≤ c * d) : divEven n d ≤ c := by
  have hle : n / d ≤ c := Nat.div_le_of_le_mul (by rwa [Nat.mul_comm])
  unfold divEven
  dsimp only
  split
  · exact hle
  · rename_i hround
    -- a quotient of `c` has no remainder
    by_contra hlt
    have heq : n / d = c := by omega
    have hmod := Nat.div_add_mod n d
    rw [heq, Nat.mul_comm] at hmod
    omega

theorem divEven_le_succ (n d : Nat) : divEven n d ≤ n / d + 1 := by
  unfold divEven
  dsimp only
  split <;> omega

theorem le_divEven (n d : Nat) : n / d ≤ divEven n d := by
  unfold divEven
  dsimp only
  split <;> omega

theorem div_mul_pow (n d k : Nat) : n / (d * 2 ^ k) = n / d / 2 ^ k :=
  (Nat.div_div_eq_div_mul n d (2 ^ k)).symm

/-- As many significant bits as there are, or one more where the carry goes all the way up. -/
theorem Representable.shifted {p top f e : Nat} (hp : 0 < p) (hf : f ≤ 2 ^ p)
    (hlead : 0 < e → 2 ^ (p - 1) ≤ f) (h : f * 2 ^ e < 2 ^ (p + top)) :
    Representable p top (f * 2 ^ e) := by
  rcases Nat.lt_or_eq_of_le hf with hlt | heq
  · refine ⟨f, e, hlt, ?_, rfl⟩
    by_contra htop
    have hbig : 2 ^ (p + top) ≤ f * 2 ^ e := by
      calc 2 ^ (p + top) ≤ 2 ^ (p - 1 + e) := Nat.pow_le_pow_right (by decide) (by omega)
        _ = 2 ^ (p - 1) * 2 ^ e := Nat.pow_add 2 _ _
        _ ≤ f * 2 ^ e := Nat.mul_le_mul_right _ (hlead (by omega))
    omega
  · rw [heq] at h ⊢
    have hexp : p + e < p + top := by
      rw [← Nat.pow_add] at h
      exact (Nat.pow_lt_pow_iff_right (by decide)).mp h
    refine ⟨2 ^ (p - 1), e + 1, Nat.pow_lt_pow_right (by decide) (by omega), by omega, ?_⟩
    rw [← Nat.pow_add, ← Nat.pow_add]
    congr 1
    omega

theorem roundRatio_representable {p top n d : Nat} (hp : 0 < p)
    (h : roundRatio p n d < 2 ^ (p + top)) : Representable p top (roundRatio p n d) := by
  apply Representable.shifted hp ?_ ?_ h
  · have hround := divEven_le_succ n (d * 2 ^ excess p (n / d))
    have hdiv := div_excess_lt p (n / d)
    rw [div_mul_pow] at hround
    omega
  · intro hpos
    have hround := le_divEven n (d * 2 ^ excess p (n / d))
    rw [div_mul_pow] at hround
    exact Nat.le_trans (le_div_excess hp hpos) hround

theorem representable_zero (p top : Nat) : Representable p top 0 :=
  ⟨0, 0, Nat.two_pow_pos p, Nat.zero_le top, (Nat.zero_mul _).symm⟩

theorem Representable.lt {p top n : Nat} (h : Representable p top n) : n < 2 ^ (p + top) := by
  obtain ⟨m, k, hm, hk, rfl⟩ := h
  rw [Nat.pow_add]
  calc m * 2 ^ k < 2 ^ p * 2 ^ k := Nat.mul_lt_mul_of_pos_right hm (Nat.two_pow_pos k)
    _ ≤ 2 ^ p * 2 ^ top := Nat.mul_le_mul_left _ (Nat.pow_le_pow_right (by decide) hk)

/-- What is below a magnitude of `p` significant bits rounds to no more. -/
theorem roundRatio_le {p top n d bound : Nat} (hp : 0 < p) (hd : 0 < d) (hbound : Representable p top bound)
    (h : n ≤ bound * d) : roundRatio p n d ≤ bound := by
  obtain ⟨f, k, hf, _, rfl⟩ := hbound
  have hdiv : n / d ≤ f * 2 ^ k := Nat.div_le_of_le_mul (by rwa [Nat.mul_comm])
  have hexcess : excess p (n / d) ≤ k := by
    -- more bits are dropped than the bound has zeros only where the ratio is above it
    by_contra hlt
    have hne : n / d ≠ 0 := by
      intro hzero
      rw [hzero] at hlt
      unfold excess at hlt
      have hlog : Nat.log2 0 = 0 := rfl
      omega
    have hlow : 2 ^ (p + k) ≤ n / d := by
      calc 2 ^ (p + k) ≤ 2 ^ Nat.log2 (n / d) :=
            Nat.pow_le_pow_right (by decide) (by unfold excess at hlt; omega)
        _ ≤ n / d := Nat.log2_self_le hne
    have hhigh : f * 2 ^ k < 2 ^ (p + k) := by
      rw [Nat.pow_add]
      exact Nat.mul_lt_mul_of_pos_right hf (Nat.two_pow_pos k)
    omega
  unfold roundRatio
  have hsplit : 2 ^ k = 2 ^ (k - excess p (n / d)) * 2 ^ excess p (n / d) := by
    rw [← Nat.pow_add, Nat.sub_add_cancel hexcess]
  calc divEven n (d * 2 ^ excess p (n / d)) * 2 ^ excess p (n / d)
      ≤ f * 2 ^ (k - excess p (n / d)) * 2 ^ excess p (n / d) := by
        apply Nat.mul_le_mul_right
        apply divEven_le (Nat.mul_pos hd (Nat.two_pow_pos _))
        calc n ≤ f * 2 ^ k * d := h
          _ = f * 2 ^ (k - excess p (n / d)) * (d * 2 ^ excess p (n / d)) := by
            rw [hsplit]
            ac_rfl
    _ = f * 2 ^ k := by rw [Nat.mul_assoc, ← hsplit]

theorem divEven_mono {n n' : Nat} (d : Nat) (h : n ≤ n') : divEven n d ≤ divEven n' d := by
  rcases Nat.lt_or_eq_of_le (Nat.div_le_div_right (c := d) h) with hlt | heq
  · exact Nat.le_trans (divEven_le_succ n d) (Nat.le_trans hlt (le_divEven n' d))
  · -- with one quotient the remainders are in order
    have hmod := Nat.div_add_mod n d
    have hmod' := Nat.div_add_mod n' d
    unfold divEven
    dsimp only
    rw [← heq] at hmod' ⊢
    split <;> split <;> omega

theorem excess_mono (p : Nat) {n n' : Nat} (h : n ≤ n') : excess p n ≤ excess p n' := by
  have hlog : Nat.log2 n ≤ Nat.log2 n' := by
    by_cases hzero : n = 0
    · rw [hzero]
      exact Nat.zero_le _
    · exact (Nat.le_log2 (by omega)).mpr (Nat.le_trans (Nat.log2_self_le hzero) h)
  unfold excess
  omega

theorem roundRatio_mono {p n n' : Nat} (hp : 0 < p) (d : Nat) (h : n ≤ n') :
    roundRatio p n d ≤ roundRatio p n' d := by
  have hdiv : n / d ≤ n' / d := Nat.div_le_div_right h
  have hexcess := excess_mono p hdiv
  unfold roundRatio
  rcases Nat.lt_or_eq_of_le hexcess with hlt | heq
  · -- the larger ratio has a leading bit above all of the smaller one
    have hsmall : divEven n (d * 2 ^ excess p (n / d)) ≤ 2 ^ p := by
      have hround := divEven_le_succ n (d * 2 ^ excess p (n / d))
      have hbits := div_excess_lt p (n / d)
      rw [div_mul_pow] at hround
      omega
    have hlarge : 2 ^ (p - 1) ≤ divEven n' (d * 2 ^ excess p (n' / d)) := by
      have hround := le_divEven n' (d * 2 ^ excess p (n' / d))
      rw [div_mul_pow] at hround
      exact Nat.le_trans (le_div_excess hp (by omega)) hround
    calc divEven n (d * 2 ^ excess p (n / d)) * 2 ^ excess p (n / d)
        ≤ 2 ^ p * 2 ^ excess p (n / d) := Nat.mul_le_mul_right _ hsmall
      _ = 2 ^ (p + excess p (n / d)) := (Nat.pow_add 2 _ _).symm
      _ ≤ 2 ^ (p - 1 + excess p (n' / d)) := Nat.pow_le_pow_right (by decide) (by omega)
      _ = 2 ^ (p - 1) * 2 ^ excess p (n' / d) := Nat.pow_add 2 _ _
      _ ≤ divEven n' (d * 2 ^ excess p (n' / d)) * 2 ^ excess p (n' / d) :=
        Nat.mul_le_mul_right _ hlarge
  · rw [heq]
    exact Nat.mul_le_mul_right _ (divEven_mono _ h)

theorem roundRatio_zero {p d : Nat} (hp : 0 < p) (hd : 0 < d) : roundRatio p 0 d = 0 :=
  Nat.le_zero.mp (roundRatio_le hp hd (representable_zero p 0) (by omega))

theorem roundRatio_pos {p n : Nat} (hp : 0 < p) (h : 0 < n) : 0 < roundRatio p n 1 := by
  rw [← roundBits_eq]
  exact Nat.pos_of_ne_zero fun hzero => h.ne' ((roundBits_eq_zero hp).mp hzero)

/-- A ratio of at least one does not round to zero. -/
theorem roundRatio_pos_of_le {p n d : Nat} (hp : 0 < p) (hd : 0 < d) (h : d ≤ n) :
    0 < roundRatio p n d := by
  refine Nat.lt_of_lt_of_le ?_ (roundRatio_mono hp d h)
  unfold roundRatio
  rw [Nat.div_self hd]
  refine Nat.mul_pos ?_ (Nat.two_pow_pos _)
  have hnone : excess p 1 = 0 := by
    unfold excess
    have hlog : Nat.log2 1 = 0 := rfl
    omega
  have hquotient := le_divEven d (d * 2 ^ excess p 1)
  rw [hnone, Nat.pow_zero, Nat.mul_one, Nat.div_self hd] at hquotient
  rw [hnone, Nat.pow_zero, Nat.mul_one]
  exact hquotient

/-- What is not below a power of two does not round below it. -/
theorem pow_le_roundRatio {p n k : Nat} (hp : 0 < p) (h : 2 ^ k ≤ n) : 2 ^ k ≤ roundRatio p n 1 := by
  refine Nat.le_trans ?_ (roundRatio_mono hp 1 h)
  have hexcess : excess p (2 ^ k) ≤ k := by
    unfold excess
    rw [Nat.log2_two_pow]
    omega
  unfold roundRatio
  rw [Nat.div_one, Nat.one_mul]
  calc 2 ^ k = 2 ^ k / 2 ^ excess p (2 ^ k) * 2 ^ excess p (2 ^ k) :=
        (Nat.div_mul_cancel (Nat.pow_dvd_pow 2 hexcess)).symm
    _ ≤ divEven (2 ^ k) (2 ^ excess p (2 ^ k)) * 2 ^ excess p (2 ^ k) :=
        Nat.mul_le_mul_right _ (le_divEven _ _)

end QTom.Lib
