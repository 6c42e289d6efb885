import QTom.Lib.Lines

/- Reading a text by its lines, blank ones skipped. A `LineReader` takes lines from
   the text it is given, counts them for its errors and may stop with one.

   `Reads` says what a reader does without the counting: which lines it takes for
   which value, and before which lines it stops with an error of a given kind. There
   is a rule for each way readers are built (`Reads.bind`, `Reads.line`,
   `Reads.rows`), so a format is described by putting the rules together. -/
namespace QTom.Lib

structure NumberedLines where
  lines : List (List Char)
  lineNo : Nat

namespace NumberedLines

def new (contents : List Char) : NumberedLines := ⟨QTom.Lib.lines contents, 0⟩

def nextFrom (lineNo : Nat) : List (List Char) → Option (Nat × List Char) × NumberedLines
  | [] => (none, ⟨[], lineNo⟩)
  | line :: rest =>
    if blankLine line then nextFrom (lineNo + 1) rest
    else (some (lineNo + 1, line), ⟨rest, lineNo + 1⟩)

def nextNonempty (s : NumberedLines) : Option (Nat × List Char) × NumberedLines :=
  nextFrom s.lineNo s.lines

/-- The lines to come, without the blank ones. -/
def content (s : NumberedLines) : List (List Char) := s.lines.filter fun line => !blankLine line

theorem nextNonempty_none {s : NumberedLines} (h : s.content = []) :
    ∃ s', s.nextNonempty = (none, s') ∧ s'.content = [] := by
  obtain ⟨ls, lineNo⟩ := s
  show ∃ s', nextFrom lineNo ls = _ ∧ _
  induction ls generalizing lineNo with
  | nil => exact ⟨_, rfl, rfl⟩
  | cons line rest ih =>
    have hblank : blankLine line = true := by
      by_contra hb
      simp [content, hb] at h
    rw [nextFrom, if_pos hblank]
    exact ih (lineNo + 1) (by simpa [content, hblank] using h)

theorem nextNonempty_some {s : NumberedLines} {line : List Char} {rest : List (List Char)}
    (h : s.content = line :: rest) :
    ∃ no s', s.nextNonempty = (some (no, line), s') ∧ s'.content = rest := by
  obtain ⟨ls, lineNo⟩ := s
  show ∃ no s', nextFrom lineNo ls = _ ∧ _
  induction ls generalizing lineNo with
  | nil => cases h
  | cons first ls ih =>
    by_cases hblank : blankLine first = true
    · rw [nextFrom, if_pos hblank]
      exact ih (lineNo + 1) (by simpa [content, hblank] using h)
    · rw [nextFrom, if_neg hblank]
      rw [content, List.filter_cons_of_pos (by simp [hblank])] at h
      obtain ⟨rfl, hrest⟩ := List.cons.inj h
      exact ⟨lineNo + 1, _, rfl, hrest⟩

end NumberedLines

/-- A reader of lines with errors in `ε`. -/
abbrev LineReader (ε α : Type) := StateT NumberedLines (Except ε) α

section Readers
variable {ε α β : Type}

def nextRequired (eof : Nat → ε) : LineReader ε (Nat × List Char) := fun s =>
  match s.nextNonempty with
  | (some line, s') => .ok (line, s')
  | (none, s') => .error (eof (s'.lineNo + 1))

/-- A required line, and what is made of it. -/
def requiredLine (eof : Nat → ε) (parse : Nat → List Char → Except ε α) : LineReader ε α := do
  let (lineNo, line) ← nextRequired eof
  parse lineNo line

/-- So many required lines. -/
def readRows (eof : Nat → ε) (parse : Nat → List Char → Except ε α) : Nat → LineReader ε (List α)
  | 0 => return []
  | n + 1 => do
    let x ← requiredLine eof parse
    let xs ← readRows eof parse n
    return x :: xs

/-- No further line. -/
def endOfLines (trailing : Nat → ε) : LineReader ε Unit := fun s =>
  match s.nextNonempty with
  | (some line, _) => .error (trailing line.1)
  | (none, s') => .ok ((), s')

/-- What a parser of one line does, whatever the line's number: `Q` says for which
lines it returns which value, `B` where it stops with a bad error. -/
structure Parses (bad : ε → Prop) (parse : Nat → List Char → Except ε α)
    (Q : List Char → α → Prop) (B : List Char → Prop) : Prop where
  ok : ∀ {no line a}, parse no line = .ok a ↔ Q line a
  fails : ∀ {no line}, (∃ e, bad e ∧ parse no line = .error e) ↔ B line

/-- What a reader does: `R` says which lines it takes for which value, leaving which,
and `B` before which lines it stops with a bad error. -/
structure Reads (bad : ε → Prop) (x : LineReader ε α)
    (R : List (List Char) → α → List (List Char) → Prop) (B : List (List Char) → Prop) :
    Prop where
  sound : ∀ {s a s'}, x s = .ok (a, s') → R s.content a s'.content
  complete : ∀ {s : NumberedLines} {a rest}, R s.content a rest →
    ∃ s', x s = .ok (a, s') ∧ s'.content = rest
  fails : ∀ {s : NumberedLines}, (∃ e, bad e ∧ x s = .error e) ↔ B s.content

namespace Reads
variable {bad : ε → Prop}

theorem congr {x : LineReader ε α} {R R' : List (List Char) → α → List (List Char) → Prop}
    {B B' : List (List Char) → Prop} (h : Reads bad x R B)
    (hR : ∀ {L a L'}, R L a L' ↔ R' L a L') (hB : ∀ {L}, B L ↔ B' L) : Reads bad x R' B' :=
  ⟨fun hx => hR.mp (h.sound hx), fun hr => h.complete (hR.mpr hr), h.fails.trans hB⟩

theorem pure (a : α) :
    Reads bad (Pure.pure a : LineReader ε α) (fun L x L' => x = a ∧ L' = L) fun _ => False := by
  refine ⟨?_, ?_, ?_⟩
  · intro s x s' hx
    cases hx
    exact ⟨rfl, rfl⟩
  · intro s x rest ⟨hx, hrest⟩
    exact ⟨s, by rw [hx]; rfl, hrest.symm⟩
  · intro s
    exact ⟨fun ⟨_, _, he⟩ => (nomatch he), False.elim⟩

/-- A computation that takes no line. -/
theorem lift (e : Except ε α) :
    Reads bad (liftM e : LineReader ε α) (fun L a L' => e = .ok a ∧ L' = L)
      fun _ => ∃ x, bad x ∧ e = .error x := by
  refine ⟨?_, ?_, ?_⟩
  · intro s a s' hx
    cases he : e with
    | error x => rw [he] at hx; cases hx
    | ok b =>
      rw [he] at hx
      cases hx
      exact ⟨rfl, rfl⟩
  · intro s a rest ⟨he, hrest⟩
    exact ⟨s, by rw [he]; rfl, hrest.symm⟩
  · intro s
    cases he : e with
    | error x =>
      show (∃ y, bad y ∧ Except.error x = Except.error y) ↔ _
      simp
    | ok b => exact ⟨fun ⟨_, _, hx⟩ => (nomatch hx), fun ⟨_, _, hx⟩ => (nomatch hx)⟩

theorem bind {x : LineReader ε α} {f : α → LineReader ε β}
    {R : List (List Char) → α → List (List Char) → Prop} {B : List (List Char) → Prop}
    {R' : α → List (List Char) → β → List (List Char) → Prop} {B' : α → List (List Char) → Prop}
    (hx : Reads bad x R B) (hf : ∀ a, Reads bad (f a) (R' a) (B' a)) :
    Reads bad (x >>= f) (fun L b L'' => ∃ a L', R L a L' ∧ R' a L' b L'')
      fun L => B L ∨ ∃ a L', R L a L' ∧ B' a L' := by
  have hrun : ∀ s, (x >>= f) s = (x s >>= fun p => f p.1 p.2) := fun _ => rfl
  refine ⟨?_, ?_, ?_⟩
  · intro s b s'' hb
    rw [hrun] at hb
    cases hxs : x s with
    | error e => rw [hxs] at hb; cases hb
    | ok p =>
      rw [hxs] at hb
      exact ⟨p.1, p.2.content, hx.sound hxs, (hf p.1).sound hb⟩
  · intro s b rest ⟨a, L', hR, hR'⟩
    obtain ⟨s', hxs, rfl⟩ := hx.complete hR
    obtain ⟨s'', hfs, hrest⟩ := (hf a).complete hR'
    refine ⟨s'', ?_, hrest⟩
    rw [hrun, hxs]
    exact hfs
  · intro s
    rw [hrun]
    cases hxs : x s with
    | error e =>
      -- the first reader stops, well or badly
      refine ⟨?_, ?_⟩
      · intro ⟨e', hbad, he⟩
        cases he
        exact Or.inl (hx.fails.mp ⟨e, hbad, hxs⟩)
      · intro hlater
        rcases hlater with hB | ⟨a, L', hR, _⟩
        · obtain ⟨e', hbad, he⟩ := hx.fails.mpr hB
          rw [hxs] at he
          cases he
          exact ⟨e, hbad, rfl⟩
        · obtain ⟨s', hs, _⟩ := hx.complete hR
          rw [hxs] at hs
          cases hs
    | ok p =>
      show (∃ e, bad e ∧ f p.1 p.2 = .error e) ↔ _
      rw [(hf p.1).fails]
      refine ⟨fun hB' => Or.inr ⟨p.1, p.2.content, hx.sound hxs, hB'⟩, ?_⟩
      intro hlater
      rcases hlater with hB | ⟨a, L', hR, hB'⟩
      · obtain ⟨e, _, he⟩ := hx.fails.mpr hB
        rw [hxs] at he
        cases he
      · obtain ⟨s', hs, rfl⟩ := hx.complete hR
        rw [hxs] at hs
        cases hs
        exact hB'

/-- One line. -/
theorem line {eof : Nat → ε} (heof : ∀ no, ¬ bad (eof no))
    {parse : Nat → List Char → Except ε α} {Q : List Char → α → Prop} {B : List Char → Prop}
    (h : Parses bad parse Q B) :
    Reads bad (requiredLine eof parse) (fun L a L' => ∃ line, L = line :: L' ∧ Q line a)
      fun L => ∃ line L', L = line :: L' ∧ B line := by
  have hnone : ∀ {s : NumberedLines}, s.content = [] →
      ∃ no, requiredLine eof parse s = .error (eof no) := by
    intro s hs
    obtain ⟨s', hnext, _⟩ := NumberedLines.nextNonempty_none hs
    refine ⟨s'.lineNo + 1, ?_⟩
    show (nextRequired eof s >>= fun p => _) = _
    rw [nextRequired, hnext]
    rfl
  have hsome : ∀ {s : NumberedLines} {line rest}, s.content = line :: rest →
      ∃ no s', s'.content = rest ∧
        requiredLine eof parse s = (parse no line).map fun a => (a, s') := by
    intro s line rest hs
    obtain ⟨no, s', hnext, hrest⟩ := NumberedLines.nextNonempty_some hs
    refine ⟨no, s', hrest, ?_⟩
    show (nextRequired eof s >>= fun p => (liftM (parse p.1.1 p.1.2) : LineReader ε α) p.2) = _
    rw [nextRequired, hnext]
    show (liftM (parse no line) : LineReader ε α) s' = _
    cases parse no line <;> rfl
  refine ⟨?_, ?_, ?_⟩
  · intro s a s' ha
    cases hs : s.content with
    | nil =>
      obtain ⟨no, herr⟩ := hnone hs
      rw [herr] at ha
      cases ha
    | cons line rest =>
      obtain ⟨no, s'', hrest, hread⟩ := hsome hs
      rw [hread] at ha
      cases hp : parse no line with
      | error e => rw [hp] at ha; cases ha
      | ok b =>
        rw [hp] at ha
        cases ha
        exact ⟨line, by rw [hrest], h.ok.mp hp⟩
  · intro s a rest ⟨line, hs, hQ⟩
    obtain ⟨no, s', hrest, hread⟩ := hsome hs
    refine ⟨s', ?_, hrest⟩
    rw [hread, h.ok.mpr hQ]
    rfl
  · intro s
    cases hs : s.content with
    | nil =>
      obtain ⟨no, herr⟩ := hnone hs
      refine ⟨?_, fun ⟨_, _, hcons, _⟩ => (nomatch hcons)⟩
      intro ⟨e, hbad, he⟩
      rw [herr] at he
      cases he
      exact absurd hbad (heof no)
    | cons line rest =>
      obtain ⟨no, s', hrest, hread⟩ := hsome hs
      rw [hread]
      refine ⟨?_, ?_⟩
      · intro ⟨e, hbad, he⟩
        cases hp : parse no line with
        | error e' =>
          rw [hp] at he
          cases he
          exact ⟨line, rest, rfl, h.fails.mp ⟨e, hbad, hp⟩⟩
        | ok b => rw [hp] at he; cases he
      · intro ⟨line', rest', hcons, hB⟩
        obtain ⟨rfl, _⟩ := List.cons.inj hcons
        obtain ⟨e, hbad, hp⟩ := h.fails.mpr hB
        exact ⟨e, hbad, by rw [hp]; rfl⟩

/-- `n` lines, a value each. -/
theorem rows {eof : Nat → ε} (heof : ∀ no, ¬ bad (eof no))
    {parse : Nat → List Char → Except ε α} {Q : List Char → α → Prop} {B : List Char → Prop}
    (h : Parses bad parse Q B) (n : Nat) :
    Reads bad (readRows eof parse n)
      (fun L xs L' => ∃ rows, L = rows ++ L' ∧ rows.length = n ∧ List.Forall₂ Q rows xs)
      fun L => ∃ rows xs line L', L = rows ++ line :: L' ∧ rows.length < n ∧
        List.Forall₂ Q rows xs ∧ B line := by
  induction n with
  | zero =>
    apply (pure ([] : List α)).congr
    · intro L xs L'
      refine ⟨?_, ?_⟩
      · intro ⟨hxs, hL⟩
        subst hxs hL
        exact ⟨[], rfl, rfl, List.Forall₂.nil⟩
      · intro ⟨rows, hL, hlen, hrows⟩
        obtain rfl := List.length_eq_zero_iff.mp hlen
        cases hrows
        exact ⟨rfl, hL.symm⟩
    · intro L
      refine ⟨False.elim, ?_⟩
      intro ⟨_, _, _, _, _, hlt, _⟩
      exact absurd hlt (Nat.not_lt_zero _)
  | succ n ih =>
    apply ((line heof h).bind fun x => ih.bind fun xs => pure (x :: xs)).congr
    · intro L xs L'
      refine ⟨?_, ?_⟩
      · intro ⟨x, _, ⟨row, hL, hQ⟩, ys, _, ⟨rows, hL', hlen, hrows⟩, hxs, hrest⟩
        subst hL hL' hxs hrest
        exact ⟨row :: rows, rfl, by rw [List.length_cons, hlen], List.Forall₂.cons hQ hrows⟩
      · intro ⟨rows, hL, hlen, hrows⟩
        cases hrows with
        | nil => cases hlen
        | cons hQ hrows =>
          exact ⟨_, _, ⟨_, hL, hQ⟩, _, _, ⟨_, rfl, Nat.succ.inj hlen, hrows⟩, rfl, rfl⟩
    · intro L
      refine ⟨?_, ?_⟩
      · intro hfails
        rcases hfails with ⟨row, L', rfl, hB⟩ | ⟨x, _, ⟨row, rfl, hQ⟩, hlater⟩
        · exact ⟨[], [], row, L', rfl, Nat.succ_pos n, List.Forall₂.nil, hB⟩
        · rcases hlater with ⟨rows, xs, last, L', rfl, hlt, hrows, hB⟩ | ⟨_, _, _, hfalse⟩
          · exact ⟨row :: rows, x :: xs, last, L', rfl, Nat.succ_lt_succ hlt,
              List.Forall₂.cons hQ hrows, hB⟩
          · exact hfalse.elim
      · intro ⟨rows, xs, last, L', hL, hlt, hrows, hB⟩
        cases hrows with
        | nil => exact Or.inl ⟨last, L', hL, hB⟩
        | cons hQ hrows =>
          exact Or.inr ⟨_, _, ⟨_, hL, hQ⟩,
            Or.inl ⟨_, _, last, L', rfl, Nat.lt_of_succ_lt_succ hlt, hrows, hB⟩⟩

/-- No line is left. -/
theorem endOfLines {trailing : Nat → ε} (h : ∀ no, ¬ bad (trailing no)) :
    Reads bad (QTom.Lib.endOfLines trailing) (fun L _ L' => L = [] ∧ L' = []) fun _ => False := by
  refine ⟨?_, ?_, ?_⟩
  · intro s a s' ha
    cases hs : s.content with
    | nil =>
      obtain ⟨s'', hnext, hrest⟩ := NumberedLines.nextNonempty_none hs
      rw [QTom.Lib.endOfLines, hnext] at ha
      cases ha
      exact ⟨rfl, hrest⟩
    | cons line rest =>
      obtain ⟨no, s'', hnext, _⟩ := NumberedLines.nextNonempty_some hs
      rw [QTom.Lib.endOfLines, hnext] at ha
      cases ha
  · intro s a rest ⟨hs, hrest⟩
    obtain ⟨s', hnext, hnil⟩ := NumberedLines.nextNonempty_none hs
    refine ⟨s', ?_, by rw [hnil, hrest]⟩
    rw [QTom.Lib.endOfLines, hnext]
  · intro s
    refine ⟨?_, False.elim⟩
    intro ⟨e, hbad, he⟩
    cases hs : s.content with
    | nil =>
      obtain ⟨s', hnext, _⟩ := NumberedLines.nextNonempty_none hs
      rw [QTom.Lib.endOfLines, hnext] at he
      cases he
    | cons line rest =>
      obtain ⟨no, s', hnext, _⟩ := NumberedLines.nextNonempty_some hs
      rw [QTom.Lib.endOfLines, hnext] at he
      cases he
      exact absurd hbad (h no)

end Reads

end Readers

end QTom.Lib
