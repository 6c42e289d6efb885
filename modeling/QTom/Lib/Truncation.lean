import QTom.Lib.Tokens

/- Texts cut short. A prefix of lines written one after the other reads as the whole lines
   before the cut and what the cut leaves of the next one (`truncation_of_part`). So a text
   cut anywhere but behind its last line, or its last line's end, does not close with it
   (`Truncation.closed`). -/
namespace QTom.Lib

/-- A text of lines `L`, cut out of the lines `ls`. -/
inductive Truncation : List Char → List (List Char) → List (List Char) → Prop
  | none {ls : List (List Char)} : Truncation [] [] ls
  | part {q l : List Char} {ls : List (List Char)} (hq : q <+: l) (hne : q ≠ []) :
    Truncation q [q] (l :: ls)
  | line {text l : List Char} {L ls : List (List Char)} (h : Truncation text L ls) :
    Truncation (l ++ '\n' :: text) (l :: L) (l :: ls)

/-- A prefix ends before the line it is cut in ends, or goes on behind it. -/
theorem prefix_line {p l rest : List Char} (h : p <+: l ++ '\n' :: rest) :
    p <+: l ∨ ∃ p', p = l ++ '\n' :: p' ∧ p' <+: rest := by
  rcases List.prefix_or_prefix_of_prefix h (List.prefix_append l _) with hp | ⟨t, rfl⟩
  · exact Or.inl hp
  · rcases List.prefix_cons_iff.mp ((List.prefix_append_right_inj l).mp h) with rfl | ⟨p', rfl, hp'⟩
    · rw [List.append_nil]
      exact Or.inl List.prefix_rfl
    · exact Or.inr ⟨p', rfl, hp'⟩

/-- What is left of a line begins as the line does. -/
theorem TokenLine.head {l : List Char} (h : TokenLine l) :
    ∃ c rest, l = c :: rest ∧ isWhiteSpace c = false := by
  obtain ⟨word, tokens, rfl, ⟨hne, hspace⟩, _⟩ := h
  obtain ⟨c, word, rfl⟩ := List.exists_cons_of_ne_nil hne
  exact ⟨c, word ++ fields tokens, rfl, hspace c List.mem_cons_self⟩

theorem prefix_head {q rest : List Char} {c : Char} (hq : q <+: c :: rest) (hne : q ≠ []) :
    ∃ q', q = c :: q' := by
  rcases List.prefix_cons_iff.mp hq with rfl | ⟨q', rfl, _⟩
  · exact absurd rfl hne
  · exact ⟨q', rfl⟩

theorem nonblank_part {q l : List Char} (h : TokenLine l) (hq : q <+: l) (hne : q ≠ []) :
    blankLine q = false := by
  obtain ⟨c, rest, rfl, hc⟩ := h.head
  obtain ⟨q', rfl⟩ := prefix_head hq hne
  exact not_blankLine_iff.mpr ⟨c, List.mem_cons_self, hc⟩

/-- The lines of a prefix. -/
theorem truncation_of_part {ls : List (List Char)} (h : ∀ l ∈ ls, TokenLine l) {p : List Char}
    (hp : p <+: ls.flatMap (· ++ ['\n'])) :
    Truncation p ((lines p).filter fun line => !blankLine line) ls := by
  induction ls generalizing p with
  | nil =>
    rw [List.prefix_nil.mp hp]
    exact .none
  | cons l ls ih =>
    have hl := h l List.mem_cons_self
    rw [List.flatMap_cons, List.append_assoc] at hp
    rcases prefix_line hp with hq | ⟨p', rfl, hp'⟩
    · -- the cut is in this line
      by_cases hne : p = []
      · rw [hne]
        exact .none
      · have hopen : lines p = [p] := by
          rw [lines_openLine fun hmem => (hl.noBreak _ (hq.subset hmem)).1 rfl,
            List.isEmpty_eq_false_iff.mpr hne, if_neg Bool.false_ne_true]
        rw [hopen, List.filter_cons_of_pos (by rw [nonblank_part hl hq hne]; rfl)]
        exact .part hq hne
    · have hclosed : lines (l ++ '\n' :: p') = l :: lines p' := by
        rw [show l ++ '\n' :: p' = (l ++ ['\n']) ++ p' by simp, lines_append (terminated_line l),
          lines_line (fun hmem => (hl.noBreak _ hmem).1 rfl), stripReturn_of_noBreak hl.noBreak]
        rfl
      rw [hclosed, List.filter_cons_of_pos (by rw [hl.nonblank]; rfl)]
      exact .line (ih (fun l hl => h l (List.mem_cons_of_mem _ hl)) hp')

/-! Trimming what is left of a line. -/

theorem trimChars_of_head {c : Char} (hc : isWhiteSpace c = false) (rest : List Char) :
    ∃ trimmed, trimChars (c :: rest) = c :: trimmed := by
  have hdrop : (c :: rest).dropWhile isWhiteSpace = c :: rest := by
    rw [List.dropWhile_cons, hc]
    rfl
  have hne : trimChars (c :: rest) ≠ [] := by
    rw [trimChars, hdrop]
    intro hnil
    have hall := List.rdropWhile_eq_nil_iff.mp hnil c List.mem_cons_self
    rw [hc] at hall
    cases hall
  have hprefix : trimChars (c :: rest) <+: c :: rest := by
    rw [trimChars, hdrop]
    exact List.rdropWhile_prefix _ _
  exact prefix_head hprefix hne

/-- Trimmed, what is left of a line is nothing or begins as the line does. -/
theorem trimChars_part {l q : List Char} (h : TokenLine l) (hq : q <+: l) :
    trimChars q = [] ∨ (trimChars q).head? = l.head? := by
  by_cases hne : q = []
  · rw [hne]
    exact Or.inl rfl
  · obtain ⟨c, rest, rfl, hc⟩ := h.head
    obtain ⟨q', rfl⟩ := prefix_head hq hne
    obtain ⟨trimmed, htrimmed⟩ := trimChars_of_head hc q'
    rw [htrimmed]
    exact Or.inr rfl

theorem length_trimChars (q : List Char) : (trimChars q).length ≤ q.length := by
  calc (trimChars q).length ≤ (q.dropWhile isWhiteSpace).length :=
        (List.rdropWhile_prefix _ _).length_le
    _ ≤ q.length := (List.dropWhile_suffix _).length_le

/-- No part of a line is the line, trimmed. -/
theorem eq_of_trimChars_part {last q : List Char} (hq : q <+: last) (h : trimChars q = last) :
    q = last := by
  apply hq.eq_of_length
  have hle := length_trimChars q
  rw [h] at hle
  have := hq.length_le
  omega

namespace Truncation
variable {text : List Char} {L ls : List (List Char)}

theorem of_nil (h : Truncation text L []) : text = [] ∧ L = [] := by
  cases h
  exact ⟨rfl, rfl⟩

/-- A line with another behind it is whole. -/
theorem whole {first : List Char} (h : Truncation text (first :: L) ls) (hne : L ≠ []) :
    ∃ text' rest, ls = first :: rest ∧ Truncation text' L rest := by
  cases h with
  | part hq => exact absurd rfl hne
  | line h => exact ⟨_, _, rfl, h⟩

theorem wholes {rows : List (List Char)} (h : Truncation text (rows ++ L) ls) (hne : L ≠ []) :
    ∃ text' rest, ls = rows ++ rest ∧ Truncation text' L rest := by
  induction rows generalizing text ls with
  | nil => exact ⟨text, ls, rfl, h⟩
  | cons row rows ih =>
    have hnext : rows ++ L ≠ [] := by
      intro hnil
      exact hne (List.append_eq_nil_iff.mp hnil).2
    obtain ⟨text', rest, rfl, h'⟩ := h.whole hnext
    obtain ⟨text'', rest', rfl, h''⟩ := ih h'
    exact ⟨text'', rest', rfl, h''⟩

/-- The first line is a prefix of the first. -/
theorem first_part {first : List Char} (h : Truncation text (first :: L) ls) :
    ∃ l rest, ls = l :: rest ∧ first <+: l := by
  cases h with
  | part hq => exact ⟨_, _, rfl, hq⟩
  | line h => exact ⟨_, _, rfl, List.prefix_rfl⟩

/-- A cut text that closes with the last line, when no part of another does, is the whole text,
or all of it but the last line's end. -/
theorem closed {init : List (List Char)} {last line : List Char}
    (h : Truncation text L (init ++ [last]))
    (hinit : ∀ l ∈ init, ∀ q, q <+: l → trimChars q ≠ last) (hline : L.getLast? = some line)
    (htrim : trimChars line = last) :
    text ++ ['\n'] = (init ++ [last]).flatMap (· ++ ['\n']) ∨
      text = (init ++ [last]).flatMap (· ++ ['\n']) := by
  generalize hls : init ++ [last] = ls at h ⊢
  induction h generalizing init with
  | none => cases hline
  | @part q l ls hq hne =>
    obtain rfl : q = line := Option.some.inj hline
    cases init with
    | nil =>
      obtain ⟨rfl, rfl⟩ := List.cons.inj hls
      rw [eq_of_trimChars_part hq htrim]
      exact Or.inl (by simp)
    | cons first init =>
      obtain ⟨rfl, _⟩ := List.cons.inj hls
      exact absurd htrim (hinit first List.mem_cons_self q hq)
  | @line text l L ls h ih =>
    cases init with
    | nil =>
      obtain ⟨rfl, rfl⟩ := List.cons.inj hls
      rw [h.of_nil.1]
      exact Or.inr (by simp)
    | cons first init =>
      obtain ⟨rfl, htail⟩ := List.cons.inj hls
      have hother : L ≠ [] := by
        intro hnil
        rw [hnil] at hline
        rw [← Option.some.inj hline] at htrim
        exact hinit first List.mem_cons_self first List.prefix_rfl htrim
      rw [List.getLast?_cons_of_ne_nil hother] at hline
      rcases ih (fun l hl => hinit l (List.mem_cons_of_mem first hl)) hline htail with htext | htext
      · exact Or.inl (by rw [List.flatMap_cons, ← htext]; simp)
      · exact Or.inr (by rw [List.flatMap_cons, ← htext]; simp)

end Truncation

/-! Fields cut short. -/

/-- A word alone, or before a space, is one token. -/
theorem splitWhitespace_word {word : List Char} (h : IsToken word) :
    splitWhitespace word = [word] ∧ splitWhitespace (word ++ [' ']) = [word] := by
  have hempty : word.isEmpty = false := List.isEmpty_eq_false_iff.mpr h.1
  refine ⟨?_, ?_⟩
  · have hsplit := splitWhitespace_fields h (show ∀ t ∈ ([] : List (List Char)), IsToken t from
      fun _ ht => (nomatch ht))
    rw [fields_nil, List.append_nil] at hsplit
    exact hsplit
  · rw [splitWhitespace, tokensFrom_append [] _ h.2, List.nil_append, tokensFrom,
      isWhiteSpace_space, if_pos rfl, hempty, if_neg Bool.false_ne_true]
    rfl

theorem IsToken.part {part token : List Char} (h : IsToken token) (hpart : part <+: token)
    (hne : part ≠ []) : IsToken part :=
  ⟨hne, fun c hc => h.2 c (hpart.subset hc)⟩

end QTom.Lib
