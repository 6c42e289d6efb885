import Mathlib.Data.List.Nodup
import QTom.Lib.Lines
import QTom.Lib.Runs

/- Stores kept in a text file, one record a line. The codec is a parameter:
   `Codec.Writes` is what a writer needs of it, `Codec.SkipsBlanks` how it treats
   white space before a record it wrote.

   `records` is what a file says; a reader accepts a text when its lines parse and
   the records are `Valid` together (`LineStore.Lawful`). `append_reads_back_iff`
   is the rule for appending to any accepted text: the record is read back after
   the stored ones exactly when the text's open line is white space the codec
   skips. -/
namespace QTom.Lib
variable {ρ σ ε : Type}

structure Codec (ρ : Type) where
  encode : ρ → List Char
  decode : List Char → Except String ρ

/-- The record is written as one line that is not blank and parses back to it. -/
structure Codec.Writes (codec : Codec ρ) (r : ρ) : Prop where
  noBreak : ∀ c ∈ codec.encode r, c ≠ '\n' ∧ c ≠ '\r'
  nonblank : blankLine (codec.encode r) = false
  parses : codec.decode (codec.encode r) = .ok r

theorem Codec.Writes.notMem {codec : Codec ρ} {r : ρ} (h : codec.Writes r) :
    '\n' ∉ codec.encode r :=
  fun hc => (h.noBreak _ hc).1 rfl

theorem Codec.Writes.ne_nil {codec : Codec ρ} {r : ρ} (h : codec.Writes r) :
    codec.encode r ≠ [] := by
  intro hnil
  have hb := h.nonblank
  rw [hnil] at hb
  cases hb

/-- The white space JSON allows around a value. -/
def jsonSpace (c : Char) : Bool := c == ' ' || c == '\t' || c == '\r' || c == '\n'

/-- Before the record as written, the codec skips JSON white space and refuses any other. -/
structure Codec.SkipsBlanks (codec : Codec ρ) (r : ρ) : Prop where
  skips : ∀ blanks, blanks.all jsonSpace = true →
    codec.decode (blanks ++ codec.encode r) = codec.decode (codec.encode r)
  refuses : ∀ blanks, blankLine blanks = true → blanks.all jsonSpace = false →
    ∃ source, codec.decode (blanks ++ codec.encode r) = .error source

/-- A file is absent or holds a text. -/
abbrev File := Option (List Char)

/-- The text of the error of opening a file that is absent. -/
def notFound : String := "No such file or directory (os error 2)"

/-- The text of records written one a line. -/
def jsonl (codec : Codec ρ) (rs : List ρ) : List Char :=
  rs.flatMap fun r => codec.encode r ++ ['\n']

/-- One turn of the reading loop: a blank line is skipped, a record is pushed. -/
def readLine (codec : Codec ρ) (jsonError : Nat → String → ε) (push : σ → ρ → Except ε σ) (s : σ)
    (line : List Char × Nat) : Except ε σ :=
  let lineNumber := line.2 + 1
  if blankLine line.1 then .ok s
  else match codec.decode line.1 with
    | .error source => .error (jsonError lineNumber source)
    | .ok r => push s r

/-- The reading loop over the lines of a text. -/
def readJsonl (codec : Codec ρ) (jsonError : Nat → String → ε) (push : σ → ρ → Except ε σ) (init : σ)
    (text : List Char) : Except ε σ :=
  (lines text).zipIdx.foldlM (readLine codec jsonError push) init

/-! What the lines of a file say. -/

/-- The records on the lines that are not blank. -/
def records (codec : Codec ρ) (ls : List (List Char)) : Except String (List ρ) :=
  (ls.filter fun line => !blankLine line).mapM codec.decode

@[simp] theorem records_nil (codec : Codec ρ) : records codec [] = .ok [] := rfl

theorem records_cons_ok_iff {codec : Codec ρ} {line : List Char} {ls : List (List Char)}
    {rs : List ρ} (h : blankLine line = false) :
    records codec (line :: ls) = .ok rs ↔
      ∃ r rest, codec.decode line = .ok r ∧ records codec ls = .ok rest ∧ rs = r :: rest := by
  simp only [records, List.filter_cons, h, Bool.not_false, if_true, List.mapM_cons, bind_ok_iff]
  refine ⟨?_, ?_⟩
  · intro ⟨r, hr, rest, hrest, heq⟩
    cases heq
    exact ⟨r, rest, hr, hrest, rfl⟩
  · intro ⟨r, rest, hr, hrest, heq⟩
    rw [heq]
    exact ⟨r, hr, rest, hrest, rfl⟩

theorem records_cons_blank {codec : Codec ρ} {line : List Char} {ls : List (List Char)}
    (h : blankLine line = true) : records codec (line :: ls) = records codec ls := by
  simp [records, h]

theorem records_append_ok_iff {codec : Codec ρ} {a b : List (List Char)} {rs : List ρ} :
    records codec (a ++ b) = .ok rs ↔
      ∃ xs ys, records codec a = .ok xs ∧ records codec b = .ok ys ∧ rs = xs ++ ys := by
  simp only [records, List.filter_append, List.mapM_append, bind_ok_iff]
  refine ⟨?_, ?_⟩
  · intro ⟨xs, hx, ys, hy, heq⟩
    cases heq
    exact ⟨xs, ys, hx, hy, rfl⟩
  · intro ⟨xs, ys, hx, hy, heq⟩
    rw [heq]
    exact ⟨xs, hx, ys, hy, rfl⟩

theorem records_line {codec : Codec ρ} {r : ρ} (h : codec.Writes r) :
    records codec (lines (codec.encode r ++ ['\n'])) = .ok [r] := by
  rw [lines_line h.notMem, stripReturn_of_noBreak h.noBreak, records_cons_ok_iff h.nonblank]
  exact ⟨r, [], h.parses, rfl, rfl⟩

/-- A record whose line is still open. -/
theorem records_encode {codec : Codec ρ} {r : ρ} (h : codec.Writes r) :
    records codec (lines (codec.encode r)) = .ok [r] := by
  rw [lines_openLine h.notMem, if_neg (by simp [h.ne_nil]), records_cons_ok_iff h.nonblank]
  exact ⟨r, [], h.parses, rfl, rfl⟩

/-- What is written reads back. -/
theorem records_jsonl {codec : Codec ρ} {rs : List ρ} (h : ∀ r ∈ rs, codec.Writes r) :
    records codec (lines (jsonl codec rs)) = .ok rs := by
  induction rs with
  | nil => rfl
  | cons r rs ih =>
    have hrest := ih fun x hx => h x (List.mem_cons_of_mem r hx)
    show records codec (lines (codec.encode r ++ ['\n'] ++ jsonl codec rs)) = _
    rw [lines_append (terminated_line _), records_append_ok_iff]
    exact ⟨[r], rs, records_line (h r List.mem_cons_self), hrest, rfl⟩

/-- The record is written as one line, and what parses from it is the record. A value JSON
cannot carry, such as a NaN, parses back to nothing. -/
structure Codec.RoundTrips (codec : Codec ρ) (r : ρ) : Prop where
  noBreak : ∀ c ∈ codec.encode r, c ≠ '\n' ∧ c ≠ '\r'
  parses : ∀ r', codec.decode (codec.encode r) = .ok r' → r' = r

/-- What parses from the lines written is among the records. -/
theorem mem_of_records_jsonl {codec : Codec ρ} {rs rs' : List ρ}
    (h : ∀ r ∈ rs, codec.RoundTrips r) (hrecords : records codec (lines (jsonl codec rs)) = .ok rs') :
    ∀ r ∈ rs', r ∈ rs := by
  have hclosed : lines (jsonl codec rs) = rs.map codec.encode := by
    rw [jsonl, ← List.flatMap_map codec.encode (fun line => line ++ ['\n'])]
    exact lines_closed (List.forall_mem_map.mpr fun r hr => (h r hr).noBreak)
  intro r hr
  rw [hclosed, records] at hrecords
  obtain ⟨line, hline, hparsed⟩ := exists_of_mem_mapM_ok hrecords hr
  obtain ⟨written, hwritten, rfl⟩ := List.mem_map.mp (List.mem_of_mem_filter hline)
  rw [(h written hwritten).parses r hparsed]
  exact hwritten

/-- The reading loop parses the lines and folds the records. -/
theorem foldlM_readLine_ok_iff {codec : Codec ρ} {jsonError : Nat → String → ε}
    {push : σ → ρ → Except ε σ} {s t : σ} {n : Nat} {ls : List (List Char)} :
    (ls.zipIdx n).foldlM (readLine codec jsonError push) s = .ok t ↔
      ∃ rs, records codec ls = .ok rs ∧ rs.foldlM push s = .ok t := by
  induction ls generalizing s n with
  | nil => simp
  | cons line ls ih =>
    rw [List.zipIdx_cons, foldlM_cons_ok]
    cases hb : blankLine line with
    | true =>
      rw [records_cons_blank hb]
      simp [readLine, hb, ih]
    | false =>
      simp only [records_cons_ok_iff hb, readLine, hb, Bool.false_eq_true, if_false, ih]
      refine ⟨?_, ?_⟩
      · intro ⟨u, hu, rs, hrs, hrun⟩
        cases hd : codec.decode line with
        | error source =>
          rw [hd] at hu
          cases hu
        | ok r =>
          rw [hd] at hu
          exact ⟨r :: rs, ⟨r, rs, rfl, hrs, rfl⟩, foldlM_cons_ok.mpr ⟨u, hu, hrun⟩⟩
      · intro ⟨rs, ⟨r, rest, hr, hrest, heq⟩, hrun⟩
        rw [heq] at hrun
        obtain ⟨u, hu, hrun⟩ := foldlM_cons_ok.mp hrun
        exact ⟨u, by rw [hr]; exact hu, rest, hrest, hrun⟩

theorem readJsonl_ok_iff {codec : Codec ρ} {jsonError : Nat → String → ε}
    {push : σ → ρ → Except ε σ} {init t : σ} {text : List Char} :
    readJsonl codec jsonError push init text = .ok t ↔
      ∃ rs, records codec (lines text) = .ok rs ∧ rs.foldlM push init = .ok t :=
  foldlM_readLine_ok_iff

/-- A loop that only collects. -/
theorem foldlM_collect (rs s : List ρ) :
    rs.foldlM (fun s r => (.ok (s ++ [r]) : Except ε (List ρ))) s = .ok (s ++ rs) := by
  induction rs generalizing s with
  | nil => simp [pure, Except.pure]
  | cons r rs ih =>
    show rs.foldlM _ (s ++ [r]) = _
    rw [ih, List.append_assoc]
    rfl

/-! Appending a line to any text. -/

/-- The open line is white space that JSON allows before a value. -/
def SkippedOpenLine (text : List Char) : Prop := (openLine text).all jsonSpace = true

instance (text : List Char) : Decidable (SkippedOpenLine text) :=
  inferInstanceAs (Decidable ((openLine text).all jsonSpace = true))

theorem jsonSpace_isWhiteSpace {c : Char} (h : jsonSpace c = true) : isWhiteSpace c = true := by
  simp only [jsonSpace, Bool.or_eq_true, beq_iff_eq] at h
  rcases h with ((rfl | rfl) | rfl) | rfl <;> rfl

theorem SkippedOpenLine.blank {text : List Char} (h : SkippedOpenLine text) :
    blankLine (openLine text) = true :=
  blankLine_iff.mpr fun c hc => jsonSpace_isWhiteSpace (List.all_eq_true.mp h c hc)

/-- An open record is not skipped. -/
theorem Codec.Writes.not_skipped {codec : Codec ρ} {r : ρ} (h : codec.Writes r) :
    ¬ SkippedOpenLine (codec.encode r) := by
  intro hskip
  have hopen : openLine (codec.encode r) = codec.encode r := by
    apply List.rtakeWhile_eq_self_iff.mpr
    intro c hc
    simpa using (h.noBreak c hc).1
  have hblank := hskip.blank
  rw [hopen, h.nonblank] at hblank
  cases hblank

theorem lines_append_line {codec : Codec ρ} {r : ρ} (h : codec.Writes r) (text : List Char) :
    lines (text ++ (codec.encode r ++ ['\n'])) =
      lines (closedLines text) ++ [openLine text ++ codec.encode r] := by
  have hnl : '\n' ∉ openLine text ++ codec.encode r := by
    rw [List.mem_append, not_or]
    exact ⟨notMem_openLine text, h.notMem⟩
  -- the line ends in the record, which does not end in '\r'
  have hstrip : stripReturn (openLine text ++ codec.encode r) = openLine text ++ codec.encode r := by
    have hlast : (openLine text ++ codec.encode r).getLast? ≠ some '\r' := by
      rw [List.getLast?_append_of_ne_nil _ h.ne_nil]
      intro hl
      exact (h.noBreak '\r' (List.mem_of_getLast? hl)).2 rfl
    rw [stripReturn, if_neg hlast]
  calc lines (text ++ (codec.encode r ++ ['\n']))
      = lines (closedLines text ++ (openLine text ++ codec.encode r ++ ['\n'])) := by
        rw [List.append_assoc, ← List.append_assoc (closedLines text), closedLines_append_openLine]
    _ = lines (closedLines text) ++ [openLine text ++ codec.encode r] := by
        rw [lines_append (terminated_closedLines text), lines_line hnl, hstrip]

theorem lines_eq_closed_open (text : List Char) :
    lines text =
      lines (closedLines text) ++ if (openLine text).isEmpty then [] else [openLine text] := by
  rw [← lines_openLine (notMem_openLine text), ← lines_append (terminated_closedLines text),
    closedLines_append_openLine]

/-- The stored records are read back followed by the new one exactly when the
codec skips the open line the new record was glued to. -/
theorem records_append_line_iff {codec : Codec ρ} {r : ρ} (h : codec.Writes r)
    (hs : codec.SkipsBlanks r) {text : List Char} {rs : List ρ}
    (hrs : records codec (lines text) = .ok rs) :
    records codec (lines (text ++ (codec.encode r ++ ['\n']))) = .ok (rs ++ [r]) ↔
      SkippedOpenLine text := by
  rw [lines_append_line h, records_append_ok_iff]
  rw [lines_eq_closed_open, records_append_ok_iff] at hrs
  obtain ⟨xs, ys, hxs, hys, rfl⟩ := hrs
  have hglued : blankLine (openLine text ++ codec.encode r) = false := by
    rw [blankLine_append, h.nonblank, Bool.and_false]
  simp only [records_cons_ok_iff hglued, hxs, Except.ok.injEq]
  cases hb : blankLine (openLine text) with
  | false =>
    -- the open line is a record of its own, which the glued line replaces
    have hne : (openLine text).isEmpty = false := by
      cases ho : openLine text with
      | nil => rw [ho] at hb; cases hb
      | cons c cs => rfl
    rw [hne, if_neg Bool.false_ne_true] at hys
    obtain ⟨y, rest, _, hrest, rfl⟩ := (records_cons_ok_iff hb).mp hys
    cases hrest
    refine ⟨?_, ?_⟩
    · intro ⟨xs', zs, hxs', ⟨z, rest', _, hrest', hzs⟩, heq⟩
      cases hrest'
      have hlen := congrArg List.length heq
      rw [← hxs', hzs] at hlen
      simp at hlen
    · intro hskip
      rw [hskip.blank] at hb
      cases hb
  | true =>
    have hys' : ys = [] := by
      by_cases ho : (openLine text).isEmpty = true
      · rw [if_pos ho] at hys
        exact (Except.ok.inj hys).symm
      · rw [if_neg ho, records_cons_blank hb] at hys
        exact (Except.ok.inj hys).symm
    subst hys'
    rw [List.append_nil]
    refine ⟨?_, ?_⟩
    · intro ⟨xs', zs, hxs', ⟨z, rest', hz, _, _⟩, _⟩
      by_contra hnot
      obtain ⟨source, herr⟩ := hs.refuses (openLine text) hb (by simpa [SkippedOpenLine] using hnot)
      rw [herr] at hz
      cases hz
    · intro hskip
      refine ⟨xs, [r], rfl, ⟨r, [], ?_, rfl, rfl⟩, rfl⟩
      rw [hs.skips _ hskip]
      exact h.parses

/-! Stores. -/

/-- Appending to a text, when the reader accepts it and the append succeeds: the
reader afterwards returns the stored records followed by the new one exactly when `P`
holds. -/
def ReadsBackWhen (contents : σ → List ρ) (read : Codec ρ → String → File → Except ε σ)
    (append : Codec ρ → String → File → ρ → Except ε Unit × File) (path : String)
    (text : List Char) (P : Prop) : Prop :=
  ∀ codec s r, codec.Writes r → codec.SkipsBlanks r →
    read codec path (some text) = .ok s → (append codec path (some text) r).1 = .ok () →
    ((∃ t, read codec path (append codec path (some text) r).2 = .ok t ∧
      contents t = contents s ++ [r]) ↔ P)

/-- A store kept in a line file: how it is read, and what a new record must pass. -/
structure LineStore (ρ σ ε : Type) where
  codec : Codec ρ
  read : File → Except ε σ
  empty : σ
  accept : σ → ρ → Except ε σ

namespace LineStore
variable (store : LineStore ρ σ ε)

/-- What an append starts from: an absent file counts as an empty store. -/
def stored (file : File) : Except ε σ :=
  match file with
  | none => .ok store.empty
  | some text => store.read (some text)

/-- Read, accept, then write one line at the end of the file. -/
def append (file : File) (r : ρ) : Except ε Unit × File :=
  match (do store.accept (← store.stored file) r) with
  | .error e => (.error e, file)
  | .ok _ => (.ok (), some (file.getD [] ++ (store.codec.encode r ++ ['\n'])))

/-- A text is accepted when its lines parse and the records are valid together, and
an accepted record is one more of them. -/
structure Lawful (contents : σ → List ρ) (Valid : σ → Prop) : Prop where
  read_ok_iff : ∀ text s, store.read (some text) = .ok s ↔
    records store.codec (lines text) = .ok (contents s) ∧ Valid s
  empty : contents store.empty = [] ∧ Valid store.empty
  accept_ok : ∀ s r t, Valid s → store.accept s r = .ok t → contents t = contents s ++ [r] ∧ Valid t

theorem append_cases (file : File) (r : ρ) :
    (∃ e, store.append file r = (.error e, file)) ∨
    (∃ s t, store.stored file = .ok s ∧ store.accept s r = .ok t ∧
      store.append file r = (.ok (), some (file.getD [] ++ (store.codec.encode r ++ ['\n'])))) := by
  simp only [append]
  cases hr : (do store.accept (← store.stored file) r) with
  | error e => exact Or.inl ⟨e, rfl⟩
  | ok t =>
    obtain ⟨s, hs, ht⟩ := bind_ok_iff.mp hr
    exact Or.inr ⟨s, t, hs, ht, rfl⟩

variable {store}

theorem append_accepted {file : File} {s t : σ} {r : ρ} (h : store.stored file = .ok s)
    (ht : store.accept s r = .ok t) : store.append file r =
      (.ok (), some (file.getD [] ++ (store.codec.encode r ++ ['\n']))) := by
  have hr : (do store.accept (← store.stored file) r) = .ok t := bind_ok_iff.mpr ⟨s, h, ht⟩
  simp only [append, hr]

theorem append_refused {file : File} {s : σ} {r : ρ} {e : ε} (h : store.stored file = .ok s)
    (he : store.accept s r = .error e) : store.append file r = (.error e, file) := by
  have hr : (do store.accept (← store.stored file) r) = .error e := by
    rw [h]
    exact he
  simp only [append, hr]

/-- A refused record leaves the file as it was. -/
theorem append_error {file : File} {r : ρ} {e : ε} (h : (store.append file r).1 = .error e) :
    (store.append file r).2 = file := by
  rcases append_cases store file r with ⟨_, he⟩ | ⟨_, _, _, _, hok⟩
  · rw [he]
  · rw [hok] at h
    cases h

/-- Where an append succeeds on a text the reader accepts, the reader afterwards
returns the stored records followed by the new one exactly when the text's open
line is skipped. -/
theorem append_reads_back_iff {contents : σ → List ρ} {Valid : σ → Prop}
    (hl : store.Lawful contents Valid) {r : ρ} (h : store.codec.Writes r)
    (hs : store.codec.SkipsBlanks r) {text : List Char} {s : σ}
    (hread : store.read (some text) = .ok s) (hok : (store.append (some text) r).1 = .ok ()) :
    (∃ t, store.read (store.append (some text) r).2 = .ok t ∧ contents t = contents s ++ [r]) ↔
      SkippedOpenLine text := by
  obtain ⟨hrecords, hvalid⟩ := (hl.read_ok_iff text s).mp hread
  rcases append_cases store (some text) r with ⟨e, he⟩ | ⟨s', t, hs', ht, happ⟩
  · rw [he] at hok
    cases hok
  · have hss : s' = s := Except.ok.inj (hs'.symm.trans hread)
    subst hss
    obtain ⟨hcontents, ht'⟩ := hl.accept_ok _ r t hvalid ht
    rw [happ, ← records_append_line_iff h hs hrecords]
    refine ⟨?_, ?_⟩
    · intro ⟨u, hu, hcu⟩
      rw [← hcu]
      exact ((hl.read_ok_iff _ u).mp hu).1
    · intro hrec
      rw [← hcontents] at hrec
      exact ⟨t, (hl.read_ok_iff _ t).mpr ⟨hrec, ht'⟩, hcontents⟩

/-- A record that is the whole text, its line open, is lost to the next append. -/
theorem append_to_open_record {contents : σ → List ρ} {Valid : σ → Prop}
    (hl : store.Lawful contents Valid) {a b : ρ} (ha : store.codec.Writes a)
    (hb : store.codec.Writes b) (hs : store.codec.SkipsBlanks b) {s t : σ}
    (hread : store.read (some (store.codec.encode a)) = .ok s) (haccept : store.accept s b = .ok t) :
    (store.append (some (store.codec.encode a)) b).1 = .ok () ∧
    ¬ ∃ u, store.read (store.append (some (store.codec.encode a)) b).2 = .ok u ∧
      contents u = contents s ++ [b] := by
  have hok : (store.append (some (store.codec.encode a)) b).1 = .ok () := by
    have hstored : store.stored (some (store.codec.encode a)) = .ok s := hread
    rw [append_accepted hstored haccept]
  refine ⟨hok, ?_⟩
  rw [append_reads_back_iff hl hb hs hread hok]
  exact ha.not_skipped

end LineStore

/-! A codec given by the lines of finitely many records. -/

/-- Writes a record of the table as its line, and reads that line back after any
JSON white space. -/
def tableCodec [DecidableEq ρ] (table : List (ρ × String)) : Codec ρ where
  encode r := match table.find? (fun entry => entry.1 = r) with
    | some entry => entry.2.toList
    | none => []
  decode line := match table.find? (fun entry => entry.2.toList = line.dropWhile jsonSpace) with
    | some entry => .ok entry.1
    | none => .error "expected value at line 1 column 1"

/-- The text is an object on one line. -/
structure ObjectLine (text : String) : Prop where
  object : text.toList.head? = some '\x7b'
  noBreak : ∀ c ∈ text.toList, c ≠ '\n' ∧ c ≠ '\r'

/-- The line of a literal, read off its characters. -/
theorem objectLine_of_chars {text : String} {chars : List Char} (h : text = String.ofList chars)
    (hobject : chars.head? = some '\x7b')
    (hbreak : chars.all (fun c => c != '\n' && c != '\r') = true) : ObjectLine text := by
  rw [h]
  refine ⟨?_, ?_⟩
  · rw [String.toList_ofList]
    exact hobject
  · intro c hc
    rw [String.toList_ofList] at hc
    simpa using List.all_eq_true.mp hbreak c hc

/-- A line goes on without a break. -/
theorem ObjectLine.append {text more : String} {chars : List Char} (h : ObjectLine text)
    (hmore : more = String.ofList chars)
    (hbreak : chars.all (fun c => c != '\n' && c != '\r') = true) : ObjectLine (text ++ more) := by
  rw [hmore]
  refine ⟨?_, ?_⟩
  · rw [String.toList_append, List.head?_append, h.object]
    rfl
  · intro c hc
    rw [String.toList_append, String.toList_ofList] at hc
    rcases List.mem_append.mp hc with hc | hc
    · exact h.noBreak c hc
    · simpa using List.all_eq_true.mp hbreak c hc

/-- A character of a literal's line. -/
theorem getElem?_of_chars {text : String} {chars : List Char} (h : text = String.ofList chars)
    {i : Nat} {c : Char} (hc : chars[i]? = some c) : text.toList[i]? = some c := by
  rw [h, String.toList_ofList]
  exact hc

/-- A character stays where it is when the line goes on. -/
theorem getElem?_append_of_some {text more : String} {i : Nat} {c : Char}
    (h : text.toList[i]? = some c) : (text ++ more).toList[i]? = some c := by
  have hi : i < text.toList.length := (List.getElem?_eq_some_iff.mp h).1
  rw [String.toList_append, List.getElem?_append_left hi]
  exact h

/-- The lines of the table are objects, no two alike. -/
structure ObjectLines (table : List (ρ × String)) : Prop where
  distinct : (table.map fun entry => entry.2.toList).Nodup
  line : ∀ entry ∈ table, ObjectLine entry.2

theorem objectLines_singleton {r : ρ} {text : String} (h : ObjectLine text) :
    ObjectLines [(r, text)] := by
  refine ⟨by simp, ?_⟩
  intro entry hentry
  rw [List.mem_singleton.mp hentry]
  exact h

theorem objectLines_pair {r₁ r₂ : ρ} {text₁ text₂ : String} (h₁ : ObjectLine text₁)
    (h₂ : ObjectLine text₂) (hne : text₁.toList ≠ text₂.toList) :
    ObjectLines [(r₁, text₁), (r₂, text₂)] := by
  refine ⟨by simp [hne], ?_⟩
  intro entry hentry
  rcases List.mem_pair.mp hentry with rfl | rfl
  · exact h₁
  · exact h₂

/-- A line that opens an object is not blank, and no white space stands before it. -/
theorem ObjectLines.dropWhile_eq {table : List (ρ × String)} (ht : ObjectLines table)
    {entry : ρ × String} (h : entry ∈ table) :
    entry.2.toList.dropWhile jsonSpace = entry.2.toList := by
  have hobject := (ht.line entry h).object
  cases hl : entry.2.toList with
  | nil => rfl
  | cons c cs =>
    rw [hl, List.head?_cons, Option.some.injEq] at hobject
    rw [hobject]
    rfl

section Table
variable [DecidableEq ρ] {table : List (ρ × String)}

/-- The table's first record. -/
theorem tableCodec_encode_head (r : ρ) (text : String) :
    (tableCodec ((r, text) :: table)).encode r = text.toList := by
  simp [tableCodec]

theorem encode_mem {r : ρ} (h : r ∈ table.map Prod.fst) :
    ∃ entry ∈ table, entry.1 = r ∧ (tableCodec table).encode r = entry.2.toList := by
  obtain ⟨entry, hentry, hr⟩ := List.mem_map.mp h
  cases hf : table.find? (fun entry => entry.1 = r) with
  | none =>
    have hnone := List.find?_eq_none.mp hf entry hentry
    simp [hr] at hnone
  | some found =>
    refine ⟨found, List.mem_of_find?_eq_some hf, ?_, ?_⟩
    · simpa using List.find?_some hf
    · simp only [tableCodec, hf]

theorem decode_line (ht : ObjectLines table) {entry : ρ × String} (h : entry ∈ table)
    {line : List Char} (hline : line.dropWhile jsonSpace = entry.2.toList) :
    (tableCodec table).decode line = .ok entry.1 := by
  cases hf : table.find? (fun entry => entry.2.toList = line.dropWhile jsonSpace) with
  | none =>
    have hnone := List.find?_eq_none.mp hf entry h
    simp [hline] at hnone
  | some found =>
    have hfound : found.2.toList = entry.2.toList := by
      rw [← hline]
      simpa using List.find?_some hf
    have heq : found = entry :=
      List.inj_on_of_nodup_map ht.distinct (List.mem_of_find?_eq_some hf) h hfound
    simp only [tableCodec, hf, heq]

theorem tableCodec_writes (ht : ObjectLines table) {r : ρ} (h : r ∈ table.map Prod.fst) :
    (tableCodec table).Writes r := by
  obtain ⟨entry, hentry, rfl, hencode⟩ := encode_mem h
  refine ⟨?_, ?_, ?_⟩
  · rw [hencode]
    exact (ht.line entry hentry).noBreak
  · rw [hencode, not_blankLine_iff]
    exact ⟨'\x7b', List.mem_of_head? ((ht.line entry hentry).object), rfl⟩
  · apply decode_line ht hentry
    rw [hencode]
    exact ht.dropWhile_eq hentry

theorem tableCodec_skipsBlanks (ht : ObjectLines table) {r : ρ} (h : r ∈ table.map Prod.fst) :
    (tableCodec table).SkipsBlanks r := by
  obtain ⟨entry, hentry, rfl, hencode⟩ := encode_mem h
  have hdrop := ht.dropWhile_eq hentry
  refine ⟨?_, ?_⟩
  · intro blanks hblanks
    rw [decode_line ht hentry, decode_line ht hentry]
    · rw [hencode, hdrop]
    · rw [List.dropWhile_append_of_pos (List.all_eq_true.mp hblanks), hencode, hdrop]
  · intro blanks hblank hother
    refine ⟨"expected value at line 1 column 1", ?_⟩
    -- what is left starts with white space, so it is no line of the table
    have hleft : blanks.dropWhile jsonSpace ≠ [] := by
      intro hnil
      have hall : blanks.all jsonSpace = true :=
        List.all_eq_true.mpr (List.dropWhile_eq_nil_iff.mp hnil)
      rw [hall] at hother
      cases hother
    have hnone : table.find? (fun other =>
        other.2.toList = (blanks ++ (tableCodec table).encode entry.1).dropWhile jsonSpace) = none := by
      apply List.find?_eq_none.mpr
      intro other hmem
      obtain ⟨c, cs, hc⟩ := List.exists_cons_of_ne_nil hleft
      have hwhite : isWhiteSpace c = true := by
        apply blankLine_iff.mp hblank c
        exact (List.dropWhile_sublist jsonSpace).subset (by rw [hc]; simp)
      have hhead := (ht.line other hmem).object
      have hdropped : (blanks ++ (tableCodec table).encode entry.1).dropWhile jsonSpace =
          c :: (cs ++ (tableCodec table).encode entry.1) := by
        rw [List.dropWhile_append, hc]
        rfl
      rw [hdropped]
      intro heq
      rw [of_decide_eq_true heq, List.head?_cons, Option.some.injEq] at hhead
      rw [hhead] at hwhite
      cases hwhite
    show (match table.find? (fun other =>
        other.2.toList = (blanks ++ (tableCodec table).encode entry.1).dropWhile jsonSpace) with
      | some found => Except.ok found.1
      | none => Except.error "expected value at line 1 column 1") = _
    rw [hnone]

end Table

end QTom.Lib
