import QTom.Lib.Tokens

/- Numerals of fixed-width unsigned integers. `fromStrRadix` reads one as Rust does:
   an optional '+', then at least one digit of either case, below the limit at every
   digit. `Nat.toDigits` writes one, `zeroPad` with zeros up to a width. What was
   written reads back (`fromStrRadix_zeroPad`). -/
namespace QTom.Lib

/-- The value of a digit or letter; others are past every radix. -/
def digitValue (c : Char) : Nat :=
  let n := c.toNat
  if 48 ≤ n ∧ n ≤ 57 then n - 48
  else if 97 ≤ n ∧ n ≤ 122 then n - 87
  else if 65 ≤ n ∧ n ≤ 90 then n - 55
  else 36

/-- `char::to_digit`. -/
def toDigit (radix : Nat) (c : Char) : Option Nat :=
  if digitValue c < radix then some (digitValue c) else none

/-- One digit of `from_str_radix`; an overflow is `none`. -/
def addDigit (radix limit acc : Nat) (c : Char) : Option Nat := do
  let digit ← toDigit radix c
  if acc * radix + digit < limit then some (acc * radix + digit) else none

def stripPlus : List Char → List Char
  | '+' :: digits => digits
  | digits => digits

/-- `from_str_radix` of the unsigned type with values below `limit`. -/
def fromStrRadix (radix limit : Nat) (token : List Char) : Option Nat :=
  if (stripPlus token).isEmpty then none
  else (stripPlus token).foldlM (addDigit radix limit) 0

/-- `{:0width}`: zeros up to the width. -/
def zeroPad (width : Nat) (digits : List Char) : List Char :=
  List.replicate (width - digits.length) '0' ++ digits

theorem digitValue_digitChar {d : Nat} (h : d < 16) : digitValue (Nat.digitChar d) = d := by
  have hall : ∀ d : Fin 16, digitValue (Nat.digitChar d) = d := by decide
  exact hall ⟨d, h⟩

section Radix
variable {b limit : Nat}

theorem addDigit_digitChar (hb : b ≤ 16) {acc d : Nat} (hd : d < b) (hlt : acc * b + d < limit) :
    addDigit b limit acc (Nat.digitChar d) = some (acc * b + d) := by
  have hvalue : digitValue (Nat.digitChar d) = d := digitValue_digitChar (by omega)
  rw [addDigit, toDigit, hvalue, if_pos hd]
  exact if_pos hlt

/-- The digits of a number read as the number. -/
theorem foldlM_toDigits (hb1 : 1 < b) (hb : b ≤ 16) {n : Nat} (hn : n < limit) :
    (Nat.toDigits b n).foldlM (addDigit b limit) 0 = some n := by
  induction n using Nat.base_induction b hb1 with
  | single m hm =>
    rw [Nat.toDigits_of_lt_base hm, List.foldlM_cons,
      addDigit_digitChar hb hm (by rw [Nat.zero_mul, Nat.zero_add]; exact hn), Nat.zero_mul,
      Nat.zero_add]
    rfl
  | digit m k hk hm ih =>
    have hcomm : m * b + k = b * m + k := by rw [Nat.mul_comm]
    have hm' : m < limit := by
      have : m ≤ b * m := Nat.le_mul_of_pos_left m (by omega)
      omega
    rw [← Nat.toDigits_append_toDigits hb1 hm hk, Nat.toDigits_of_lt_base hk, List.foldlM_append,
      ih hm']
    show (addDigit b limit m (Nat.digitChar k) >>= fun s => pure s) = _
    rw [addDigit_digitChar hb hk (by rw [hcomm]; exact hn), hcomm]
    rfl

theorem foldlM_zeros (hb : 0 < b) (hlimit : 0 < limit) (n : Nat) (digits : List Char) :
    (List.replicate n '0' ++ digits).foldlM (addDigit b limit) 0 =
      digits.foldlM (addDigit b limit) 0 := by
  induction n with
  | zero => rfl
  | succ n ih =>
    have hzero : addDigit b limit 0 '0' = some 0 := by
      rw [addDigit, toDigit, show digitValue '0' = 0 from rfl, if_pos hb]
      show (if 0 * b + 0 < limit then some (0 * b + 0) else none) = _
      rw [Nat.zero_mul, if_pos hlimit]
    rw [List.replicate_succ, List.cons_append, List.foldlM_cons, hzero]
    exact ih

end Radix

/-! The characters of a numeral. -/

/-- Every digit is one of sixteen characters. -/
theorem mem_toDigits {b n : Nat} (hb1 : 1 < b) (hb : b ≤ 16) :
    ∀ c ∈ Nat.toDigits b n, ∃ d < 16, c = Nat.digitChar d := by
  induction n using Nat.base_induction b hb1 with
  | single m hm =>
    intro c hc
    rw [Nat.toDigits_of_lt_base hm, List.mem_singleton] at hc
    exact ⟨m, by omega, hc⟩
  | digit m k hk hm ih =>
    intro c hc
    rw [← Nat.toDigits_append_toDigits hb1 hm hk, Nat.toDigits_of_lt_base hk] at hc
    rcases List.mem_append.mp hc with hc | hc
    · exact ih c hc
    · exact ⟨k, by omega, List.mem_singleton.mp hc⟩

theorem mem_zeroPad {b n : Nat} (hb1 : 1 < b) (hb : b ≤ 16) (width : Nat) :
    ∀ c ∈ zeroPad width (Nat.toDigits b n), ∃ d < 16, c = Nat.digitChar d := by
  intro c hc
  rcases List.mem_append.mp hc with hc | hc
  · exact ⟨0, by decide, List.eq_of_mem_replicate hc⟩
  · exact mem_toDigits hb1 hb c hc

theorem zeroPad_zero (digits : List Char) : zeroPad 0 digits = digits := by
  rw [zeroPad, Nat.zero_sub]
  rfl

theorem zeroPad_ne_nil (width b n : Nat) : zeroPad width (Nat.toDigits b n) ≠ [] := by
  intro h
  exact Nat.toDigits_ne_nil (List.append_eq_nil_iff.mp h).2

/-- A numeral is a token. -/
theorem isToken_zeroPad {b : Nat} (hb1 : 1 < b) (hb : b ≤ 16) (width n : Nat) :
    IsToken (zeroPad width (Nat.toDigits b n)) := by
  refine ⟨zeroPad_ne_nil width b n, ?_⟩
  have hall : ∀ d : Fin 16, isWhiteSpace (Nat.digitChar d) = false := by decide
  intro c hc
  obtain ⟨d, hd, rfl⟩ := mem_zeroPad hb1 hb width c hc
  exact hall ⟨d, hd⟩

/-- What was written, padded or not, reads back. -/
theorem fromStrRadix_zeroPad {b limit : Nat} (hb1 : 1 < b) (hb : b ≤ 16) (width : Nat) {n : Nat}
    (hn : n < limit) : fromStrRadix b limit (zeroPad width (Nat.toDigits b n)) = some n := by
  have hplus : stripPlus (zeroPad width (Nat.toDigits b n)) =
      zeroPad width (Nat.toDigits b n) := by
    have hall : ∀ d : Fin 16, Nat.digitChar d ≠ '+' := by decide
    cases hcs : zeroPad width (Nat.toDigits b n) with
    | nil => rfl
    | cons c cs =>
      obtain ⟨d, hd, hc⟩ := mem_zeroPad (n := n) hb1 hb width c (by rw [hcs]; exact List.mem_cons_self)
      have hne : c ≠ '+' := by
        rw [hc]
        exact hall ⟨d, hd⟩
      simp [stripPlus, hne]
  rw [fromStrRadix, hplus, List.isEmpty_eq_false_iff.mpr (zeroPad_ne_nil width b n),
    if_neg Bool.false_ne_true, zeroPad, foldlM_zeros (by omega) (by omega), foldlM_toDigits hb1 hb hn]

/-- What is read is below the limit. -/
theorem fromStrRadix_lt {b limit : Nat} {token : List Char} {n : Nat}
    (h : fromStrRadix b limit token = some n) : n < limit := by
  have hfold : ∀ (digits : List Char) (acc : Nat), digits ≠ [] →
      digits.foldlM (addDigit b limit) acc = some n → n < limit := by
    intro digits
    induction digits with
    | nil => exact fun _ hne => absurd rfl hne
    | cons c digits ih =>
      intro acc _ hread
      rw [List.foldlM_cons] at hread
      obtain ⟨next, hnext, hrest⟩ := Option.bind_eq_some_iff.mp hread
      by_cases hempty : digits = []
      · subst hempty
        obtain rfl := Option.some.inj hrest
        obtain ⟨digit, _, hadd⟩ := Option.bind_eq_some_iff.mp hnext
        by_cases hlt : acc * b + digit < limit
        · rw [if_pos hlt] at hadd
          rw [← Option.some.inj hadd]
          exact hlt
        · rw [if_neg hlt] at hadd
          cases hadd
      · exact ih next hempty hrest
  rw [fromStrRadix] at h
  by_cases hempty : (stripPlus token).isEmpty = true
  · rw [if_pos hempty] at h
    cases h
  · rw [if_neg hempty] at h
    exact hfold _ 0 (fun hnil => hempty (List.isEmpty_iff.mpr hnil)) h

/-! Numerals cut short. -/

theorem addDigit_le {b limit acc next : Nat} {c : Char} (h : addDigit b limit acc c = some next) :
    acc ≤ next := by
  obtain ⟨digit, hdigit, hadd⟩ := Option.bind_eq_some_iff.mp h
  have hpos : 0 < b := by
    unfold toDigit at hdigit
    split at hdigit
    · omega
    · cases hdigit
  split at hadd
  · rw [← Option.some.inj hadd]
    calc acc ≤ acc * b := Nat.le_mul_of_pos_right acc hpos
      _ ≤ acc * b + digit := Nat.le_add_right _ _
  · cases hadd

theorem foldlM_addDigit_le {b limit acc n : Nat} {digits : List Char}
    (h : digits.foldlM (addDigit b limit) acc = some n) : acc ≤ n := by
  induction digits generalizing acc with
  | nil => exact Nat.le_of_eq (Option.some.inj h)
  | cons c digits ih =>
    rw [List.foldlM_cons] at h
    obtain ⟨next, hnext, hrest⟩ := Option.bind_eq_some_iff.mp h
    exact (addDigit_le hnext).trans (ih hrest)

theorem stripPlus_append {token : List Char} (hne : token ≠ []) (rest : List Char) :
    stripPlus (token ++ rest) = stripPlus token ++ rest := by
  cases token with
  | nil => exact absurd rfl hne
  | cons c token =>
    by_cases hc : c = '+'
    · subst hc
      rfl
    · simp [stripPlus, hc]

/-- The beginning of a numeral reads as no greater number. -/
theorem fromStrRadix_part {b limit m n : Nat} {part token : List Char} (hpart : part <+: token)
    (hm : fromStrRadix b limit part = some m) (hn : fromStrRadix b limit token = some n) :
    m ≤ n := by
  obtain ⟨rest, rfl⟩ := hpart
  have hne : part ≠ [] := by
    intro hnil
    rw [hnil] at hm
    cases hm
  unfold fromStrRadix at hm hn
  rw [stripPlus_append hne] at hn
  split at hm
  · cases hm
  · split at hn
    · cases hn
    · rw [List.foldlM_append, hm] at hn
      exact foldlM_addDigit_le hn

end QTom.Lib
