import QTom.Lib.Lines

/- A line as tokens. `splitWhitespace` is `str::split_whitespace`: maximal runs of
   characters that are not white space. `fields` writes tokens with a space before
   each, and a line of a word and fields splits into just these
   (`splitWhitespace_fields`). -/
namespace QTom.Lib

/-- The tokens of a line, `token` being what was read of the current one. -/
def tokensFrom (token : List Char) : List Char → List (List Char)
  | [] => if token.isEmpty then [] else [token]
  | c :: line =>
    if isWhiteSpace c then
      if token.isEmpty then tokensFrom [] line else token :: tokensFrom [] line
    else tokensFrom (token ++ [c]) line

def splitWhitespace (line : List Char) : List (List Char) := tokensFrom [] line

/-- A token, as `splitWhitespace` yields it. -/
def IsToken (token : List Char) : Prop := token ≠ [] ∧ ∀ c ∈ token, isWhiteSpace c = false

instance (token : List Char) : Decidable (IsToken token) :=
  decidable_of_iff ((!token.isEmpty && token.all fun c => !isWhiteSpace c) = true)
    (by simp [IsToken])

/-- Tokens, each after a space. -/
def fields (tokens : List (List Char)) : List Char := tokens.flatMap (' ' :: ·)

@[simp] theorem fields_cons (token : List Char) (tokens : List (List Char)) :
    fields (token :: tokens) = ' ' :: (token ++ fields tokens) := rfl

@[simp] theorem fields_nil : fields [] = [] := rfl

theorem isWhiteSpace_space : isWhiteSpace ' ' = true := by decide

theorem tokensFrom_append (token : List Char) {a : List Char} (b : List Char)
    (ha : ∀ c ∈ a, isWhiteSpace c = false) :
    tokensFrom token (a ++ b) = tokensFrom (token ++ a) b := by
  induction a generalizing token with
  | nil => simp
  | cons c a ih =>
    rw [List.cons_append, tokensFrom, ha c List.mem_cons_self, if_neg Bool.false_ne_true,
      ih _ fun d hd => ha d (List.mem_cons_of_mem c hd)]
    simp

theorem tokensFrom_fields {token : List Char} (hne : token ≠ []) {tokens : List (List Char)}
    (h : ∀ t ∈ tokens, IsToken t) : tokensFrom token (fields tokens) = token :: tokens := by
  have hempty : token.isEmpty = false := List.isEmpty_eq_false_iff.mpr hne
  induction tokens generalizing token with
  | nil => simp [tokensFrom, hempty]
  | cons t tokens ih =>
    obtain ⟨ht, hspace⟩ := h t List.mem_cons_self
    rw [fields_cons, tokensFrom, isWhiteSpace_space, if_pos rfl, hempty, if_neg Bool.false_ne_true,
      tokensFrom_append [] _ hspace, List.nil_append,
      ih ht (fun t ht => h t (List.mem_cons_of_mem _ ht)) (List.isEmpty_eq_false_iff.mpr ht)]

/-- A word and its fields. -/
theorem splitWhitespace_fields {word : List Char} (hword : IsToken word)
    {tokens : List (List Char)} (h : ∀ t ∈ tokens, IsToken t) :
    splitWhitespace (word ++ fields tokens) = word :: tokens := by
  rw [splitWhitespace, tokensFrom_append [] _ hword.2, List.nil_append,
    tokensFrom_fields hword.1 h]

/-- A line of a word and fields. -/
def TokenLine (line : List Char) : Prop :=
  ∃ word tokens, line = word ++ fields tokens ∧ IsToken word ∧ ∀ t ∈ tokens, IsToken t

theorem IsToken.noBreak {token : List Char} (h : IsToken token) :
    ∀ c ∈ token, c ≠ '\n' ∧ c ≠ '\r' := by
  intro c hc
  have hspace := h.2 c hc
  refine ⟨?_, ?_⟩
  · intro heq
    rw [heq] at hspace
    exact absurd hspace (by decide)
  · intro heq
    rw [heq] at hspace
    exact absurd hspace (by decide)

theorem TokenLine.noBreak {line : List Char} (h : TokenLine line) :
    ∀ c ∈ line, c ≠ '\n' ∧ c ≠ '\r' := by
  obtain ⟨word, tokens, rfl, hword, htokens⟩ := h
  intro c hc
  rcases List.mem_append.mp hc with hc | hc
  · exact hword.noBreak c hc
  · obtain ⟨t, ht, hmem⟩ := List.mem_flatMap.mp hc
    rcases List.mem_cons.mp hmem with rfl | hmem
    · exact ⟨by decide, by decide⟩
    · exact (htokens t ht).noBreak c hmem

theorem TokenLine.nonblank {line : List Char} (h : TokenLine line) : blankLine line = false := by
  obtain ⟨word, tokens, rfl, hword, _⟩ := h
  obtain ⟨c, hc⟩ := List.exists_mem_of_ne_nil word hword.1
  exact not_blankLine_iff.mpr ⟨c, List.mem_append_left _ hc, hword.2 c hc⟩

theorem IsToken.tokenLine {token : List Char} (h : IsToken token) : TokenLine token :=
  ⟨token, [], (List.append_nil token).symm, h, fun _ ht => (nomatch ht)⟩

/-- Token lines written one after the other are the lines of the text, none blank. -/
theorem lines_tokenLines {ls : List (List Char)} (h : ∀ l ∈ ls, TokenLine l) :
    (lines (ls.flatMap (· ++ ['\n']))).filter (fun line => !blankLine line) = ls := by
  rw [lines_closed fun l hl => (h l hl).noBreak]
  apply List.filter_eq_self.mpr
  intro l hl
  rw [(h l hl).nonblank]
  rfl

/-- Trimming takes nothing from a token. -/
theorem trimChars_token {token : List Char} (h : IsToken token) : trimChars token = token := by
  have hdrop : token.dropWhile isWhiteSpace = token := by
    cases token with
    | nil => rfl
    | cons c cs =>
      rw [List.dropWhile_cons, h.2 c List.mem_cons_self]
      rfl
  rw [trimChars, hdrop]
  apply List.rdropWhile_eq_self_iff.mpr
  intro hne hspace
  rw [h.2 _ (List.getLast_mem hne)] at hspace
  cases hspace

end QTom.Lib
