import Mathlib.Data.List.Forall2
import Mathlib.Data.Nat.Digits.Defs

/- Counting through a box of coordinates. A loop that goes on from a state until nothing
   comes next has `Visits next a xs` for its run: it starts at `a`, is at the states `xs`
   in turn and stops behind the last. `Odometer.next` moves the first coordinate below its
   upper bound up and starts the ones before it over; from the lower corner its run is the
   box (`visits_box`). `remaining` goes down with every move, whatever the coordinates. -/
namespace QTom.Lib

/-- The run from `a` on. -/
inductive Visits {α : Type} (next : α → Option α) : α → List α → Prop
  | stop {a : α} (h : next a = none) : Visits next a [a]
  | step {a b : α} {xs : List α} (h : next a = some b) (hb : Visits next b xs) :
    Visits next a (a :: xs)

/-- Only the moves from the states of the run matter. -/
theorem Visits.congr {α : Type} {next next' : α → Option α} {a : α} {xs : List α}
    (hrun : Visits next a xs) (h : ∀ x ∈ xs, next' x = next x) : Visits next' a xs := by
  induction hrun with
  | @stop a hstop =>
    apply Visits.stop
    rw [h a List.mem_cons_self]
    exact hstop
  | @step a b xs hstep _ ih =>
    refine Visits.step ?_ (ih fun x hx => h x (List.mem_cons_of_mem a hx))
    rw [h a List.mem_cons_self]
    exact hstep

namespace Odometer

/-- One move. Bounds are the least and the greatest value of a coordinate. -/
def next : List (Nat × Nat) → List Nat → Option (List Nat)
  | (lo, hi) :: bounds, c :: coords =>
    if c < hi then some ((c + 1) :: coords) else (next bounds coords).map (lo :: ·)
  | _, _ => none

/-- The box, its first coordinate running fastest. -/
def box : List (Nat × Nat) → List (List Nat)
  | [] => [[]]
  | (lo, hi) :: bounds =>
    (box bounds).flatMap fun rest => (List.range' lo (hi + 1 - lo)).map (· :: rest)

/-- Every coordinate is within its bounds. -/
def Within (bounds : List (Nat × Nat)) (coords : List Nat) : Prop :=
  List.Forall₂ (fun b c => b.1 ≤ c ∧ c ≤ b.2) bounds coords

variable {bounds : List (Nat × Nat)} {coords rest : List Nat} {lo hi c : Nat}

theorem next_up (h : c < hi) : next ((lo, hi) :: bounds) (c :: rest) = some ((c + 1) :: rest) :=
  if_pos h

theorem next_over (h : ¬ c < hi) :
    next ((lo, hi) :: bounds) (c :: rest) = (next bounds rest).map (lo :: ·) := if_neg h

theorem mem_box : coords ∈ box bounds ↔ Within bounds coords := by
  induction bounds generalizing coords with
  | nil =>
    show coords ∈ [[]] ↔ _
    rw [List.mem_singleton]
    exact List.forall₂_nil_left_iff.symm
  | cons b bounds ih =>
    obtain ⟨lo, hi⟩ := b
    show coords ∈ (box bounds).flatMap _ ↔ _
    rw [List.mem_flatMap]
    refine ⟨?_, ?_⟩
    · intro ⟨rest, hrest, hcoords⟩
      obtain ⟨c, hc, rfl⟩ := List.mem_map.mp hcoords
      rw [List.mem_range'_1] at hc
      exact List.Forall₂.cons ⟨hc.1, by omega⟩ (ih.mp hrest)
    · intro h
      cases h with
      | @cons _ c _ rest hc hrest =>
        obtain ⟨hlo, hhi⟩ : lo ≤ c ∧ c ≤ hi := hc
        refine ⟨rest, ih.mpr hrest, List.mem_map.mpr ⟨c, ?_, rfl⟩⟩
        rw [List.mem_range'_1]
        omega

/-- Below its upper bound a coordinate moves up to it first. -/
theorem visits_climb {xs : List (List Nat)} (hc : c ≤ hi)
    (htop : Visits (next ((lo, hi) :: bounds)) (hi :: rest) ((hi :: rest) :: xs)) :
    Visits (next ((lo, hi) :: bounds)) (c :: rest)
      ((List.range' c (hi + 1 - c)).map (· :: rest) ++ xs) := by
  obtain ⟨n, rfl⟩ := Nat.exists_eq_add_of_le hc
  induction n generalizing c with
  | zero =>
    rw [Nat.add_zero, Nat.add_sub_cancel_left]
    exact htop
  | succ n ih =>
    have hrange : List.range' c (c + (n + 1) + 1 - c) =
        c :: List.range' (c + 1) (c + (n + 1) + 1 - (c + 1)) := by
      rw [show c + (n + 1) + 1 - c = c + (n + 1) + 1 - (c + 1) + 1 by omega, List.range'_succ]
    rw [hrange]
    refine Visits.step (next_up (by omega)) ?_
    have hnext := ih (c := c + 1) (by omega)
    rw [show c + 1 + n = c + (n + 1) by omega] at hnext
    exact hnext htop

/-- The run of the coordinates behind the first, each with the first one's climb. -/
theorem visits_cons (hle : lo ≤ hi) {xs : List (List Nat)} (h : Visits (next bounds) rest xs) :
    Visits (next ((lo, hi) :: bounds)) (lo :: rest)
      (xs.flatMap fun rest => (List.range' lo (hi + 1 - lo)).map (· :: rest)) := by
  induction h with
  | @stop rest h =>
    rw [List.flatMap_cons]
    apply visits_climb hle
    apply Visits.stop
    rw [next_over (Nat.lt_irrefl hi), h]
    rfl
  | @step rest rest' xs h _ ih =>
    rw [List.flatMap_cons]
    apply visits_climb hle
    refine Visits.step ?_ ih
    rw [next_over (Nat.lt_irrefl hi), h]
    rfl

theorem visits_box (h : ∀ b ∈ bounds, b.1 ≤ b.2) :
    Visits (next bounds) (bounds.map Prod.fst) (box bounds) := by
  induction bounds with
  | nil => exact Visits.stop rfl
  | cons b bounds ih =>
    exact visits_cons (h b List.mem_cons_self) (ih fun b hb => h b (List.mem_cons_of_mem _ hb))

/-! What is left of the count. -/

/-- The moves left, under upper bounds alone. -/
def remaining : List Nat → List Nat → Nat
  | hi :: maxes, c :: coords => hi - c + (hi + 1) * remaining maxes coords
  | _, _ => 0

/-- A coordinate that moves up outweighs whatever the ones before it start over with. -/
theorem remaining_lt {maxes before low : List Nat} (hlow : low.length = before.length)
    (hhi : maxes[before.length]? = some hi) (hc : c < hi) :
    remaining maxes (low ++ (c + 1) :: rest) < remaining maxes (before ++ c :: rest) := by
  induction before generalizing maxes low with
  | nil =>
    obtain rfl := List.length_eq_zero_iff.mp hlow
    cases maxes with
    | nil => cases hhi
    | cons max maxes =>
      obtain rfl := Option.some.inj hhi
      show max - (c + 1) + _ < max - c + _
      omega
  | cons b before ih =>
    cases low with
    | nil => cases hlow
    | cons l low =>
      cases maxes with
      | nil => cases hhi
      | cons max maxes =>
        have hlt := ih (Nat.succ.inj hlow) hhi
        show max - l + (max + 1) * remaining maxes (low ++ (c + 1) :: rest) <
          max - b + (max + 1) * remaining maxes (before ++ c :: rest)
        calc max - l + (max + 1) * remaining maxes (low ++ (c + 1) :: rest)
            < (max + 1) * (remaining maxes (low ++ (c + 1) :: rest) + 1) := by
              rw [Nat.mul_add, Nat.mul_one]
              omega
          _ ≤ (max + 1) * remaining maxes (before ++ c :: rest) := Nat.mul_le_mul_left _ hlt
          _ ≤ max - b + (max + 1) * remaining maxes (before ++ c :: rest) := Nat.le_add_left _ _

end Odometer

/-! Coordinates as digits of one number. -/

/-- In any base, also one. -/
theorem ofDigits_lt {b : Nat} {digits : List Nat} (h : ∀ c ∈ digits, c < b) :
    Nat.ofDigits b digits < b ^ digits.length := by
  induction digits with
  | nil => exact Nat.one_pos
  | cons c digits ih =>
    have hc := h c List.mem_cons_self
    have hrest := ih fun c hc => h c (List.mem_cons_of_mem _ hc)
    rw [Nat.ofDigits_cons, List.length_cons]
    calc c + b * Nat.ofDigits b digits
        < b * (Nat.ofDigits b digits + 1) := by
          rw [Nat.mul_add, Nat.mul_one]
          omega
      _ ≤ b * b ^ digits.length := Nat.mul_le_mul_left b hrest
      _ = b ^ (digits.length + 1) := Nat.pow_succ'.symm

/-- Every number below has its digits. -/
theorem exists_ofDigits {b : Nat} (k : Nat) {n : Nat} (h : n < b ^ k) :
    ∃ digits : List Nat, digits.length = k ∧ (∀ c ∈ digits, c < b) ∧ Nat.ofDigits b digits = n := by
  induction k generalizing n with
  | zero =>
    have hn : n = 0 := Nat.lt_one_iff.mp h
    exact ⟨[], rfl, fun _ hc => (nomatch hc), hn.symm⟩
  | succ k ih =>
    rw [Nat.pow_succ'] at h
    have hb : 0 < b := Nat.pos_of_mul_pos_right (Nat.lt_of_le_of_lt (Nat.zero_le n) h)
    obtain ⟨digits, hlen, hlt, hdigits⟩ := ih (Nat.div_lt_of_lt_mul h)
    refine ⟨n % b :: digits, congrArg (· + 1) hlen, ?_, ?_⟩
    · intro c hc
      rcases List.mem_cons.mp hc with rfl | hc
      · exact Nat.mod_lt n hb
      · exact hlt c hc
    · rw [Nat.ofDigits_cons, hdigits]
      exact Nat.mod_add_div n b

theorem ofDigits_inj {b : Nat} {digits digits' : List Nat} (hlen : digits.length = digits'.length)
    (h : ∀ c ∈ digits, c < b) (h' : ∀ c ∈ digits', c < b)
    (heq : Nat.ofDigits b digits = Nat.ofDigits b digits') : digits = digits' := by
  by_cases hb : 1 < b
  · exact Nat.ofDigits_inj_of_len_eq hb hlen h h' heq
  · -- in base one every digit is zero
    apply List.ext_getElem hlen
    intro i hi hi'
    have hdigit := h _ (List.getElem_mem hi)
    have hdigit' := h' _ (List.getElem_mem hi')
    omega

end QTom.Lib
