import QTom.Lib.Text

/- Text as lines. `lines` is what `str::lines` and `BufRead::lines` both yield: a
   line ends at '\n', a '\r' directly before it goes with it, and a last line
   without '\n' is yielded as it stands. Text is its list of characters.

   Every text is its terminated part followed by an open last line
   (`closedLines_append_openLine`), and `lines_append` says that reading goes
   through a terminated part line by line; both appending to a file and reading
   back what was written are read off it. -/
namespace QTom.Lib

/-- The characters `str::trim` keeps. -/
def trimChars (text : List Char) : List Char :=
  (text.dropWhile isWhiteSpace).rdropWhile isWhiteSpace

/-- `line.trim().is_empty()`. -/
def blankLine (line : List Char) : Bool := (trimChars line).isEmpty

theorem blankLine_iff {line : List Char} :
    blankLine line = true ↔ ∀ c ∈ line, isWhiteSpace c = true := by
  have h := isBlank_iff (s := String.ofList line)
  simpa [isBlank, trim, blankLine, trimChars] using h

theorem not_blankLine_iff {line : List Char} :
    blankLine line = false ↔ ∃ c ∈ line, isWhiteSpace c = false := by
  rw [← Bool.not_eq_true, blankLine_iff]
  simp

theorem blankLine_append {a b : List Char} :
    blankLine (a ++ b) = (blankLine a && blankLine b) := by
  rw [Bool.eq_iff_iff, Bool.and_eq_true, blankLine_iff, blankLine_iff, blankLine_iff]
  simp only [List.mem_append, or_imp, forall_and]

/-- A line without the '\r' of its ending. -/
def stripReturn (line : List Char) : List Char :=
  if line.getLast? = some '\r' then line.dropLast else line

/-- The lines of a text, `line` being what was read of the current one. -/
def linesFrom (line : List Char) : List Char → List (List Char)
  | [] => if line.isEmpty then [] else [line]
  | c :: text =>
    if c = '\n' then stripReturn line :: linesFrom [] text else linesFrom (line ++ [c]) text

def lines (text : List Char) : List (List Char) := linesFrom [] text

/-- No line of the text is open. -/
def Terminated (text : List Char) : Prop := text = [] ∨ text.getLast? = some '\n'

/-- What stands after the last '\n'. -/
def openLine (text : List Char) : List Char := text.rtakeWhile (· != '\n')

/-- What stands up to the last '\n'. -/
def closedLines (text : List Char) : List Char := text.rdropWhile (· != '\n')

theorem stripReturn_of_noBreak {line : List Char} (h : ∀ c ∈ line, c ≠ '\n' ∧ c ≠ '\r') :
    stripReturn line = line := by
  have hlast : line.getLast? ≠ some '\r' := by
    intro hl
    exact (h '\r' (List.mem_of_getLast? hl)).2 rfl
  rw [stripReturn, if_neg hlast]

theorem linesFrom_of_mem (line : List Char) {a : List Char} (b : List Char) (h : '\n' ∈ a)
    (hlast : a.getLast? = some '\n') : linesFrom line (a ++ b) = linesFrom line a ++ lines b := by
  induction a generalizing line with
  | nil => cases h
  | cons c a ih =>
    rw [List.cons_append, linesFrom, linesFrom]
    by_cases ha : a = []
    · -- the last character closes the line being read
      subst ha
      have hc : c = '\n' := by simpa using hlast
      simp [hc, linesFrom, lines]
    · have hlast' : a.getLast? = some '\n' := by
        rw [List.getLast?_cons_of_ne_nil ha] at hlast
        exact hlast
      have hmem : '\n' ∈ a := List.mem_of_getLast? hlast'
      by_cases hc : c = '\n'
      · simp only [hc, if_true]
        rw [ih [] hmem hlast']
        rfl
      · simp only [hc, if_false]
        exact ih (line ++ [c]) hmem hlast'

/-- Reading goes through a terminated text, then on. -/
theorem lines_append {a : List Char} (h : Terminated a) (b : List Char) :
    lines (a ++ b) = lines a ++ lines b := by
  rcases h with rfl | hlast
  · rfl
  · exact linesFrom_of_mem [] b (List.mem_of_getLast? hlast) hlast

theorem linesFrom_of_notMem (line : List Char) {a : List Char} (b : List Char) (h : '\n' ∉ a) :
    linesFrom line (a ++ b) = linesFrom (line ++ a) b := by
  induction a generalizing line with
  | nil => simp
  | cons c a ih =>
    have hc : c ≠ '\n' := fun hc => h (by simp [hc])
    rw [List.cons_append, linesFrom, if_neg hc, ih _ fun ha => h (List.mem_cons_of_mem c ha)]
    simp

theorem terminated_line (a : List Char) : Terminated (a ++ ['\n']) := by
  refine Or.inr ?_
  simp

/-- One closed line. -/
theorem lines_line {a : List Char} (h : '\n' ∉ a) : lines (a ++ ['\n']) = [stripReturn a] := by
  rw [lines, linesFrom_of_notMem [] _ h]
  simp [linesFrom]

/-- Lines written one after the other read back. -/
theorem lines_closed {ls : List (List Char)} (h : ∀ l ∈ ls, ∀ c ∈ l, c ≠ '\n' ∧ c ≠ '\r') :
    lines (ls.flatMap (· ++ ['\n'])) = ls := by
  induction ls with
  | nil => rfl
  | cons l ls ih =>
    have hl := h l List.mem_cons_self
    rw [List.flatMap_cons, lines_append (terminated_line l),
      lines_line (fun hmem => (hl '\n' hmem).1 rfl), stripReturn_of_noBreak hl,
      ih fun l hl => h l (List.mem_cons_of_mem _ hl)]
    rfl

/-- One open line. -/
theorem lines_openLine {a : List Char} (h : '\n' ∉ a) : lines a = if a.isEmpty then [] else [a] := by
  have ha := linesFrom_of_notMem [] [] h
  rw [List.append_nil, List.nil_append] at ha
  rw [lines, ha, linesFrom]

theorem closedLines_append_openLine (text : List Char) :
    closedLines text ++ openLine text = text :=
  List.rdropWhile_append_rtakeWhile

theorem notMem_openLine (text : List Char) : '\n' ∉ openLine text := by
  intro h
  have := List.mem_rtakeWhile_imp h
  simp at this

theorem terminated_closedLines (text : List Char) : Terminated (closedLines text) := by
  by_cases h : closedLines text = []
  · exact Or.inl h
  · have hlast := List.rdropWhile_last_not (· != '\n') text h
    refine Or.inr ?_
    rw [List.getLast?_eq_getLast_of_ne_nil h]
    simpa [closedLines] using hlast

end QTom.Lib
