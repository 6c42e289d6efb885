import Mathlib.Data.List.DropRight

/- The parts of Rust's `str` the models read: `trim` strips Unicode White_Space
   at both ends, `starts_with` compares a literal prefix. Lean's own `String.trim`
   strips ASCII white space only, so the character class is written out. -/
namespace QTom.Lib

/-- Unicode White_Space. -/
def isWhiteSpace (c : Char) : Bool :=
  let n := c.toNat
  (9 ≤ n && n ≤ 13) || n == 0x20 || n == 0x85 || n == 0xA0 || n == 0x1680 ||
    (0x2000 ≤ n && n ≤ 0x200A) || n == 0x2028 || n == 0x2029 || n == 0x202F ||
    n == 0x205F || n == 0x3000

/-- The characters `str::trim` keeps. -/
def trim (s : String) : List Char :=
  (s.toList.dropWhile isWhiteSpace).rdropWhile isWhiteSpace

/-- `s.trim().is_empty()`. -/
def isBlank (s : String) : Bool := (trim s).isEmpty

def startsWith (s pat : String) : Bool := pat.toList.isPrefixOf s.toList

/-- `str::contains`. -/
def containsText (s pat : String) : Bool := s.toList.tails.any fun rest => pat.toList.isPrefixOf rest

theorem isBlank_iff {s : String} : isBlank s = true ↔ ∀ c ∈ s.toList, isWhiteSpace c = true := by
  unfold isBlank trim
  rw [List.isEmpty_iff, List.rdropWhile_eq_nil_iff]
  refine ⟨?_, ?_⟩
  · intro h c hc
    -- what the first `dropWhile` leaves begins with a kept character
    by_contra hcw
    cases hd : s.toList.dropWhile isWhiteSpace with
    | nil => exact hcw (List.dropWhile_eq_nil_iff.mp hd c hc)
    | cons d ds =>
      have hmem : d ∈ s.toList.dropWhile isWhiteSpace := by rw [hd]; simp
      have hhead := List.head?_dropWhile_not isWhiteSpace s.toList
      rw [hd] at hhead
      simp [h d hmem] at hhead
  · intro h c hc
    exact h c ((List.dropWhile_sublist _).subset hc)

/-- A text with more at its ends is blank only when it is. -/
theorem isBlank_append {s t : String} : isBlank (s ++ t) = (isBlank s && isBlank t) := by
  rw [Bool.eq_iff_iff, Bool.and_eq_true, isBlank_iff, isBlank_iff, isBlank_iff]
  simp only [String.toList_append, List.mem_append]
  refine ⟨?_, ?_⟩
  · intro h
    exact ⟨fun c hc => h c (Or.inl hc), fun c hc => h c (Or.inr hc)⟩
  · intro ⟨hs, ht⟩ c hc
    exact hc.elim (hs c) (ht c)

end QTom.Lib
