import QTom.Golden.RoundTrip
import QTom.Lib.Truncation

/- Cut short, an encoding is rejected: by a format error, wherever the cut falls, unless it
   takes the last line's end and nothing more (`truncated_rejected`). What decodes closes with
   `end`, and no line before begins as `end` does. A header that is cut counts no more rows
   than it did, so no cut makes the decoder panic (`truncated_within`). -/
namespace QTom.Golden
open QTom.Lib QTom.Router

/-! The last line. -/

/-- What decodes has `end` for its last line. -/
theorem Decodes.last {sizes : RowSizes} {L : List (List Char)} {golden : GoldenFixture}
    (h : Decodes sizes L golden) : ∃ line, L.getLast? = some line ∧ trimChars line = "end".toList := by
  obtain ⟨L₁, L₂, L₃, L₄, ⟨magic, config, rfl, _, _⟩, ⟨header, rows, rfl, _⟩,
    ⟨header', rows', rfl, _⟩, ⟨header'', rows'', rfl, _⟩, ⟨line, rfl, hline⟩, _⟩ := h
  have hlast : magic :: config :: (header :: (rows ++ header' :: (rows' ++
      header'' :: (rows'' ++ [line])))) =
      (magic :: config :: header :: (rows ++ header' :: (rows' ++ header'' :: rows''))) ++
        [line] := by simp
  refine ⟨line, ?_, hline⟩
  rw [hlast]
  exact List.getLast?_concat

/-- The lines before the last of an encoding. -/
def openingLines (config : FixtureConfig) (fixture : Fixture) : List (List Char) :=
  formatMagic :: configLine config ::
    (sectionLines "agents" agentLine fixture.agents ++
      (sectionLines "states" stateLine fixture.states ++
        sectionLines "requests" requestLine fixture.requests))

theorem goldenLines_closed (config : FixtureConfig) (fixture : Fixture) :
    goldenLines config fixture = openingLines config fixture ++ ["end".toList] := by
  rw [goldenLines_eq]
  simp [openingLines]

theorem head_word {word : List Char} (hne : word ≠ []) {c : Char} (h : word.head? ≠ some c)
    (rest : List Char) : (word ++ rest).head? ≠ some c := by
  rw [List.head?_append_of_ne_nil word hne]
  exact h

/-- They begin otherwise than `end`. -/
theorem openingLines_head (config : FixtureConfig) (fixture : Fixture) :
    ∀ line ∈ openingLines config fixture, line.head? ≠ some 'e' := by
  intro line hline
  simp only [openingLines, sectionLines, List.mem_cons, List.mem_append, List.mem_map] at hline
  rcases hline with rfl | rfl | (rfl | ⟨_, _, rfl⟩) | (rfl | ⟨_, _, rfl⟩) | rfl | ⟨_, _, rfl⟩
  · decide
  · exact head_word (by decide) (by decide) _
  · exact head_word (by decide) (by decide) _
  · exact head_word (by decide) (by decide) _
  · exact head_word (by decide) (by decide) _
  · exact head_word (by decide) (by decide) _
  · exact head_word (by decide) (by decide) _
  · exact head_word (by decide) (by decide) _

section Closing
variable {sizes : RowSizes} {config : FixtureConfig} {fixture : Fixture}

theorem not_end_of_opening (h : ∀ line ∈ goldenLines config fixture, TokenLine line) :
    ∀ line ∈ openingLines config fixture, ∀ q, q <+: line → trimChars q ≠ "end".toList := by
  intro line hline q hq htrim
  have htoken : TokenLine line := by
    apply h
    rw [goldenLines_closed]
    exact List.mem_append_left _ hline
  rcases trimChars_part htoken hq with hnil | hhead
  · rw [htrim] at hnil
    cases hnil
  · rw [htrim] at hhead
    exact openingLines_head config fixture line hline hhead.symm

end Closing

/-! What is read of a line decides its value. -/

theorem ConfigLine.unique {line : List Char} {config config' : FixtureConfig}
    (h : ConfigLine line config) (h' : ConfigLine line config') : config = config' := by
  obtain ⟨_, _, _, _, _, hsplit, ha, ht, hd, hk, hs⟩ := h
  obtain ⟨_, _, _, _, _, hsplit', ha', ht', hd', hk', hs'⟩ := h'
  rw [hsplit] at hsplit'
  simp only [List.cons.injEq, and_true, true_and] at hsplit'
  obtain ⟨rfl, rfl, rfl, rfl, rfl⟩ := hsplit'
  cases config
  cases config'
  simp_all

theorem CountHeader.unique {keyword : String} {line : List Char} {count count' : Nat}
    (h : CountHeader keyword line count) (h' : CountHeader keyword line count') :
    count = count' := by
  obtain ⟨token, hsplit, hcount⟩ := h
  obtain ⟨token', hsplit', hcount'⟩ := h'
  rw [hsplit] at hsplit'
  obtain ⟨_, htail⟩ := List.cons.inj hsplit'
  obtain ⟨rfl, _⟩ := List.cons.inj htail
  rw [hcount] at hcount'
  exact Option.some.inj hcount'

/-- What is left of a header counts no more than the header. -/
theorem CountHeader.part_le {keyword : String} (hword : IsToken keyword.toList) {n count : Nat}
    (hn : n < 2 ^ 64) {q : List Char} (hq : q <+: countHeader keyword n)
    (h : CountHeader keyword q count) : count ≤ n := by
  obtain ⟨token, hsplit, hcount⟩ := h
  have hfull : countHeader keyword n = keyword.toList ++ ' ' :: decimal n := by
    unfold countHeader
    rw [fields_cons, fields_nil, List.append_nil]
  rw [hfull] at hq
  rcases List.prefix_or_prefix_of_prefix hq (List.prefix_append _ _) with hkeyword | ⟨rest, rfl⟩
  · -- the cut leaves no second field
    by_cases hne : q = []
    · rw [hne] at hsplit
      cases hsplit
    · rw [(splitWhitespace_word (hword.part hkeyword hne)).1] at hsplit
      cases hsplit
  · rcases List.prefix_cons_iff.mp ((List.prefix_append_right_inj _).mp hq) with rfl | ⟨t, rfl, ht⟩
    · rw [List.append_nil, (splitWhitespace_word hword).1] at hsplit
      cases hsplit
    · by_cases hne : t = []
      · rw [hne, (splitWhitespace_word hword).2] at hsplit
        cases hsplit
      · have hfields := splitWhitespace_fields hword (show ∀ token ∈ [t], IsToken token by
          intro token htoken
          rw [List.mem_singleton.mp htoken]
          exact (isToken_decimal n).part ht hne)
        rw [fields_cons, fields_nil, List.append_nil] at hfields
        rw [hfields] at hsplit
        obtain ⟨_, htail⟩ := List.cons.inj hsplit
        obtain ⟨rfl, _⟩ := List.cons.inj htail
        exact fromStrRadix_part ht hcount (decimal_reads hn)

/-! No cut makes the decoder panic. -/

section Sections
variable {α : Type} {size : Nat} {keyword : String} {Row : List Char → α → Prop}
  {row : α → List Char} {xs ys : List α} {text : List Char} {L L' more : List (List Char)}

/-- What follows a section that was read is what followed it before the cut. -/
theorem behind_section (hword : IsToken keyword.toList) (hcount : xs.length < 2 ^ 64)
    (h : Truncation text L (sectionLines keyword row xs ++ more))
    (hread : SectionRead size keyword Row L ys L') (hne : L' ≠ []) :
    ∃ text', Truncation text' L' more := by
  obtain ⟨header, rows, rfl, hheader, _, hrows⟩ := hread
  rw [← List.cons_append] at h
  obtain ⟨text', rest, hls, h'⟩ := h.wholes hne
  obtain ⟨rfl, htail⟩ := List.cons.inj hls
  have hlen : ys.length = xs.length := hheader.unique (countHeader_written hword hcount).2
  have hsame : rows.length = (xs.map row).length := by
    rw [hrows.length_eq, hlen, List.length_map]
  obtain ⟨_, rfl⟩ := List.append_inj htail hsame.symm
  exact ⟨text', h'⟩

/-- A section that was within the limits is within them when it is cut. -/
theorem section_within (hword : IsToken keyword.toList) (hcount : xs.length < 2 ^ 64)
    (hfit : xs.length * size < 2 ^ 63) {rowPanics : Prop} (hrows : xs ≠ [] → ¬ rowPanics)
    (h : Truncation text L (sectionLines keyword row xs ++ more)) :
    ¬ SectionExceeds size keyword rowPanics L := by
  intro ⟨header, rest, count, hL, hheader, hexceeds⟩
  subst hL
  have hle : count ≤ xs.length := by
    obtain ⟨l, ls, hls, hpart⟩ := h.first_part
    obtain ⟨rfl, _⟩ := List.cons.inj hls
    exact hheader.part_le hword hcount hpart
  rcases hexceeds with hcapacity | ⟨hpanics, hne, _⟩
  · have := Nat.mul_le_mul_right size hle
    omega
  · refine hrows ?_ hpanics
    intro hnil
    rw [hnil] at hle
    exact hne (Nat.le_zero.mp hle)

theorem SectionRead.ne_nil (h : SectionRead size keyword Row L ys L') : L ≠ [] := by
  obtain ⟨header, rows, rfl, _⟩ := h
  exact List.cons_ne_nil _ _

theorem SectionExceeds.ne_nil {rowPanics : Prop} (h : SectionExceeds size keyword rowPanics L) :
    L ≠ [] := by
  obtain ⟨header, rest, _, rfl, _⟩ := h
  exact List.cons_ne_nil _ _

end Sections

section Encoded
variable {sizes : RowSizes} {config : FixtureConfig} {fixture : Fixture}

/-- The lines of an encoding that is cut stay within the decoder's limits. -/
theorem truncated_within (hconfig : ConfigTyped config) (hfixture : fixture.Typed sizes)
    (hshape : fixture.Shaped config) {text : List Char} {L : List (List Char)}
    (h : Truncation text L (goldenLines config fixture)) : ¬ Exceeds sizes L := by
  obtain ⟨hagentCount, hstateCount, hrequestCount⟩ := counts_typed hconfig hshape
  intro ⟨config', L₁, ⟨magic, line, hL, _, hline⟩, hexceeds⟩
  have hne : L₁ ≠ [] := by
    rcases hexceeds with hagents | ⟨_, _, hagents, _⟩
    · exact hagents.ne_nil
    · exact hagents.ne_nil
  -- with a line behind it the config is whole
  rw [hL, goldenLines_eq, show magic :: line :: L₁ = [magic, line] ++ L₁ from rfl] at h
  obtain ⟨_, _, hls, hagentPart⟩ := h.wholes hne
  obtain ⟨_, htail⟩ := List.cons.inj hls
  obtain ⟨rfl, rfl⟩ := List.cons.inj htail
  obtain rfl : config' = config := hline.unique (configLine_written hconfig).2
  have hagentRows : fixture.agents ≠ [] → ¬ 2 ^ 64 ≤ 8 + config'.dimensions := by
    intro hsome
    obtain ⟨agent, hagent⟩ := List.exists_mem_of_ne_nil _ hsome
    have := (hfixture.agents agent hagent).vector
    rw [hshape.agentVectors agent hagent] at this
    omega
  have hrequestRows : fixture.requests ≠ [] → ¬ 2 ^ 64 ≤ 5 + config'.dimensions := by
    intro hsome
    obtain ⟨request, hrequest⟩ := List.exists_mem_of_ne_nil _ hsome
    have := (hfixture.requests request hrequest).vector
    rw [hshape.requestVectors request hrequest] at this
    omega
  rcases hexceeds with hagents | ⟨_, L₂, hagents, hlater⟩
  · exact section_within (by decide) hagentCount hfixture.agentsFit hagentRows hagentPart hagents
  · have hne : L₂ ≠ [] := by
      rcases hlater with hstates | ⟨_, _, hstates, _⟩
      · exact hstates.ne_nil
      · exact hstates.ne_nil
    obtain ⟨_, hstatePart⟩ := behind_section (by decide) hagentCount hagentPart hagents hne
    rcases hlater with hstates | ⟨_, L₃, hstates, hrequests⟩
    · exact section_within (by decide) hstateCount hfixture.statesFit (fun _ hfalse => hfalse)
        hstatePart hstates
    · obtain ⟨_, hrequestPart⟩ :=
        behind_section (by decide) hstateCount hstatePart hstates hrequests.ne_nil
      exact section_within (by decide) hrequestCount hfixture.requestsFit hrequestRows
        hrequestPart hrequests

/-- What is left of an encoding decodes only when it has all lines. -/
theorem truncated_decodes (hconfig : ConfigTyped config) (hfixture : fixture.Typed sizes)
    (hshape : fixture.Shaped config) {part : List Char} {golden : GoldenFixture}
    (hpart : part <+: (goldenLines config fixture).flatMap (· ++ ['\n']))
    (h : decodeGoldenFixture sizes part = .ok golden) :
    part ++ ['\n'] = (goldenLines config fixture).flatMap (· ++ ['\n']) ∨
      part = (goldenLines config fixture).flatMap (· ++ ['\n']) := by
  have htokens := goldenLines_tokens hconfig hfixture hshape
  obtain ⟨line, hline, hend⟩ := (decodeGoldenFixture_ok_iff.mp h).last
  have hcut := truncation_of_part htokens hpart
  have hopening := not_end_of_opening htokens
  rw [goldenLines_closed] at hcut ⊢
  exact hcut.closed hopening hline hend

end Encoded

/-- An encoding cut short is a format error, wherever it is cut, unless only the last line's end
is missing; and whatever decodes has `end` for its last line that is not blank. -/
theorem truncated_rejected (sizes : RowSizes) :
    (∀ config fixture, ConfigTyped config → fixture.Typed sizes →
      ∀ text, encodeGoldenFixture config fixture = .ok text →
      ∀ part, part <+: text → part ≠ text → part ++ ['\n'] ≠ text →
      ∃ line message, decodeGoldenFixture sizes part = .error (.error (.format line message))) ∧
    ∀ contents golden, decodeGoldenFixture sizes contents = .ok golden →
      ((lines contents).filter fun line => !blankLine line).getLast?.map trimChars =
        some "end".toList := by
  refine ⟨?_, ?_⟩
  · intro config fixture hconfig hfixture text hencode part hpart hproper hnewline
    obtain ⟨_, hvalid, htext⟩ := bind_ok_iff.mp hencode
    obtain rfl := Except.ok.inj htext
    have hshape := validateFixtureShape_ok_iff.mp hvalid
    have hcut := truncation_of_part (goldenLines_tokens hconfig hfixture hshape) hpart
    have hreturns : Returns (decodeGoldenFixture sizes part) := by
      rw [returns_iff, decodeGoldenFixture_panics_iff]
      exact truncated_within hconfig hfixture hshape hcut
    rcases hreturns with ⟨golden, hdecode⟩ | herror
    · rcases truncated_decodes hconfig hfixture hshape hpart hdecode with hall | hall
      · exact absurd hall hnewline
      · exact absurd hall hproper
    · exact herror
  · intro contents golden h
    obtain ⟨line, hline, hend⟩ := (decodeGoldenFixture_ok_iff.mp h).last
    have hlast : ((lines contents).filter fun line => !blankLine line).getLast? = some line := hline
    rw [hlast, ← hend]
    rfl

/-- Cut inside the agent's row, and decoded whole. -/
theorem truncated_rejected_nan :
    ∃ text, encodeGoldenFixture nanConfig nanFixture = .ok text ∧
      (∃ line message, decodeGoldenFixture ⟨40, 16, 48⟩ (text.take 108) =
        .error (.error (.format line message))) ∧
      ((lines text).filter fun line => !blankLine line).getLast?.map trimChars =
        some "end".toList := by
  obtain ⟨text, hencode, hdecode⟩ := decode_encode nanConfig_typed nanFixture_typed (by decide)
  obtain rfl : (goldenLines nanConfig nanFixture).flatMap (· ++ ['\n']) = text :=
    Except.ok.inj hencode
  refine ⟨_, hencode, ?_, (truncated_rejected ⟨40, 16, 48⟩).2 _ _ hdecode⟩
  exact (truncated_rejected ⟨40, 16, 48⟩).1 nanConfig nanFixture nanConfig_typed nanFixture_typed
    _ hencode _ (List.take_prefix 108 _) (by decide +kernel) (by decide +kernel)

end QTom.Golden
