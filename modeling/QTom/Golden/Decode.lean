import QTom.Golden.Lines

/- What the decoder accepts and where it panics, on the nonblank lines of a text.
   `Decodes` is the grammar of the format. `Exceeds` names the texts that make the
   decoder panic: a section header reached by well-formed lines that counts more rows
   than a Vec can hold, or a row after one where `8 + dimensions` (`5 + dimensions`)
   is no usize. -/
namespace QTom.Golden
open QTom.Lib QTom.Router

/-! A section. -/

/-- A header and as many rows. -/
def SectionRead {α : Type} (size : Nat) (keyword : String) (Row : List Char → α → Prop)
    (L : List (List Char)) (xs : List α) (L' : List (List Char)) : Prop :=
  ∃ header rows, L = header :: (rows ++ L') ∧ CountHeader keyword header xs.length ∧
    xs.length * size < 2 ^ 63 ∧ List.Forall₂ Row rows xs

/-- A header with too many rows, or a row where rows panic. -/
def SectionExceeds (size : Nat) (keyword : String) (rowPanics : Prop) (L : List (List Char)) :
    Prop :=
  ∃ header rest count, L = header :: rest ∧ CountHeader keyword header count ∧
    (2 ^ 63 ≤ count * size ∨ rowPanics ∧ count ≠ 0 ∧ rest ≠ [])

theorem endOfFile_no_panic (context : String) (no : Nat) : ¬ Stop.IsPanic (endOfFile context no) :=
  fun ⟨_, h⟩ => (nomatch h)

theorem withCapacity_ok {size count : Nat} {u : Unit} :
    withCapacity size count = .ok u ↔ count * size < 2 ^ 63 := by
  rw [withCapacity, require_ok_iff, and_iff_left rfl]

theorem withCapacity_fails {size count : Nat} :
    (∃ e, Stop.IsPanic e ∧ withCapacity size count = .error e) ↔ 2 ^ 63 ≤ count * size := by
  rw [withCapacity]
  split
  · rename_i h
    refine ⟨fun ⟨_, _, he⟩ => (nomatch he), fun h' => ?_⟩
    omega
  · rename_i h
    exact ⟨fun _ => by omega, fun _ => ⟨_, ⟨.capacityOverflow, rfl⟩, rfl⟩⟩

theorem readSection_reads {α : Type} (size : Nat) (keyword header row : String)
    {parse : Nat → List Char → Except Stop α} {Row : List Char → α → Prop} {rowPanics : Prop}
    (h : Parses Stop.IsPanic parse Row fun _ => rowPanics) :
    Reads Stop.IsPanic (readSection size keyword header row parse) (SectionRead size keyword Row)
      (SectionExceeds size keyword rowPanics) := by
  have hheader := Reads.line (endOfFile_no_panic header) (parseCountHeader_parses keyword)
  have hread := hheader.bind fun count => (Reads.lift (withCapacity size count)).bind fun _ =>
    Reads.rows (endOfFile_no_panic row) h count
  apply hread.congr
  · intro L xs L'
    refine ⟨?_, ?_⟩
    · intro ⟨count, _, ⟨line, hL, hcount⟩, _, _, ⟨hcapacity, hrest⟩, rows, hrows, hlen, hparsed⟩
      subst hL hrest hrows
      have hsame : count = xs.length := by rw [← hlen, hparsed.length_eq]
      subst hsame
      exact ⟨line, rows, rfl, hcount, withCapacity_ok.mp hcapacity, hparsed⟩
    · intro ⟨line, rows, hL, hcount, hcapacity, hparsed⟩
      exact ⟨_, _, ⟨line, hL, hcount⟩, (), _, ⟨withCapacity_ok.mpr hcapacity, rfl⟩, rows, rfl,
        hparsed.length_eq, hparsed⟩
  · intro L
    refine ⟨?_, ?_⟩
    · intro hfails
      rcases hfails with ⟨_, _, _, hfalse⟩ | ⟨count, rest, ⟨line, hL, hcount⟩, hlater⟩
      · exact hfalse.elim
      · refine ⟨line, rest, count, hL, hcount, ?_⟩
        rcases hlater with hcapacity | ⟨_, _, ⟨_, hrest⟩, rows, xs, last, L', hrows, hlt, _, hpanics⟩
        · exact Or.inl (withCapacity_fails.mp hcapacity)
        · refine Or.inr ⟨hpanics, by omega, ?_⟩
          rw [← hrest, hrows]
          simp
    · intro ⟨line, rest, count, hL, hcount, hexceeds⟩
      refine Or.inr ⟨count, rest, ⟨line, hL, hcount⟩, ?_⟩
      by_cases hcapacity : 2 ^ 63 ≤ count * size
      · exact Or.inl (withCapacity_fails.mpr hcapacity)
      · rcases hexceeds with hcapacity' | ⟨hpanics, hne, hrest⟩
        · exact absurd hcapacity' hcapacity
        · obtain ⟨last, L', rfl⟩ := List.exists_cons_of_ne_nil hrest
          exact Or.inr ⟨(), _, ⟨withCapacity_ok.mpr (by omega), rfl⟩, [], [], last, L', rfl,
            Nat.pos_of_ne_zero hne, List.Forall₂.nil, hpanics⟩

/-! The whole text. -/

/-- The magic line and the config. -/
def Opens (L : List (List Char)) (config : FixtureConfig) (L' : List (List Char)) : Prop :=
  ∃ magic line, L = magic :: line :: L' ∧ trimChars magic = formatMagic ∧ ConfigLine line config

/-- The last line. -/
def Closes (L : List (List Char)) : Prop := ∃ line, L = [line] ∧ trimChars line = "end".toList

/-- The lines of a golden fixture. -/
def Decodes (sizes : RowSizes) (L : List (List Char)) (golden : GoldenFixture) : Prop :=
  ∃ L₁ L₂ L₃ L₄, Opens L golden.config L₁ ∧
    SectionRead sizes.agentProfile "agents" (AgentLine golden.config) L₁ golden.fixture.agents L₂ ∧
    SectionRead sizes.agentRuntimeState "states" StateLine L₂ golden.fixture.states L₃ ∧
    SectionRead sizes.routingRequest "requests" (RequestLine golden.config) L₃
      golden.fixture.requests L₄ ∧
    Closes L₄ ∧ golden.fixture.Shaped golden.config

/-- The lines that make the decoder panic. -/
def Exceeds (sizes : RowSizes) (L : List (List Char)) : Prop :=
  ∃ config L₁, Opens L config L₁ ∧
    (SectionExceeds sizes.agentProfile "agents" (2 ^ 64 ≤ 8 + config.dimensions) L₁ ∨
      ∃ agents L₂, SectionRead sizes.agentProfile "agents" (AgentLine config) L₁ agents L₂ ∧
        (SectionExceeds sizes.agentRuntimeState "states" False L₂ ∨
          ∃ states L₃, SectionRead sizes.agentRuntimeState "states" StateLine L₂ states L₃ ∧
            SectionExceeds sizes.routingRequest "requests" (2 ^ 64 ≤ 5 + config.dimensions) L₃))

theorem shapedFixture_ok {config : FixtureConfig} {fixture : Fixture} {golden : GoldenFixture} :
    shapedFixture config fixture = .ok golden ↔
      golden = ⟨config, fixture⟩ ∧ fixture.Shaped config := by
  rw [← validateFixtureShape_ok_iff, shapedFixture]
  cases validateFixtureShape config fixture with
  | error e => exact ⟨fun h => (nomatch h), fun h => (nomatch h.2)⟩
  | ok u =>
    refine ⟨fun h => ⟨(Except.ok.inj h).symm, rfl⟩, ?_⟩
    intro ⟨h, _⟩
    rw [h]

theorem shapedFixture_noPanic (config : FixtureConfig) (fixture : Fixture) :
    NoPanic (shapedFixture config fixture) := by
  rw [shapedFixture]
  cases validateFixtureShape config fixture with
  | error e => exact fun _ h => (nomatch h)
  | ok u => exact NoPanic.ok _

/-- The two opening lines. -/
theorem opening_reads :
    Reads Stop.IsPanic (do
        requiredLine (endOfFile "format magic") checkMagic
        requiredLine (endOfFile "config") parseConfig)
      Opens fun _ => False := by
  have hmagic := Reads.line (endOfFile_no_panic "format magic") (checkWord_parses formatMagic
    s!"expected {String.ofList formatMagic}")
  have hconfig := Reads.line (endOfFile_no_panic "config") parseConfig_parses
  apply (hmagic.bind fun _ => hconfig).congr
  · intro L config L'
    refine ⟨?_, ?_⟩
    · intro ⟨_, _, ⟨magic, hL, hword⟩, line, hrest, hline⟩
      exact ⟨magic, line, by rw [hL, hrest], hword, hline⟩
    · intro ⟨magic, line, hL, hword, hline⟩
      exact ⟨(), _, ⟨magic, hL, hword⟩, line, rfl, hline⟩
  · intro L
    refine ⟨?_, False.elim⟩
    intro hfails
    rcases hfails with ⟨_, _, _, hfalse⟩ | ⟨_, _, _, _, _, _, hfalse⟩
    · exact hfalse
    · exact hfalse

/-- The closing lines and the shape check. -/
theorem closing_reads (config : FixtureConfig) (fixture : Fixture) :
    Reads Stop.IsPanic (do
        requiredLine (endOfFile "end marker") checkEnd
        endOfLines trailingContent
        shapedFixture config fixture)
      (fun L golden L' => Closes L ∧ L' = [] ∧ golden = ⟨config, fixture⟩ ∧ fixture.Shaped config)
      fun _ => False := by
  have hend := Reads.line (endOfFile_no_panic "end marker")
    (checkWord_parses "end".toList "expected end marker")
  have htrailing : ∀ no, ¬ Stop.IsPanic (trailingContent no) := fun no ⟨_, h⟩ => (nomatch h)
  have hread := hend.bind fun _ => (Reads.endOfLines htrailing).bind fun _ =>
    Reads.lift (shapedFixture config fixture)
  apply hread.congr
  · intro L golden L'
    refine ⟨?_, ?_⟩
    · intro ⟨_, _, ⟨line, hL, hword⟩, _, _, ⟨hnil, hnil'⟩, hshaped, hL'⟩
      exact ⟨⟨line, by rw [hL, hnil], hword⟩, by rw [hL', hnil'], shapedFixture_ok.mp hshaped⟩
    · intro ⟨⟨line, hL, hword⟩, hL', hshaped⟩
      exact ⟨(), [], ⟨line, hL, hword⟩, (), [], ⟨rfl, rfl⟩, shapedFixture_ok.mpr hshaped, hL'⟩
  · intro L
    refine ⟨?_, False.elim⟩
    intro hfails
    rcases hfails with ⟨_, _, _, hfalse⟩ | ⟨_, _, _, hfalse | ⟨_, _, _, hpanic⟩⟩
    · exact hfalse
    · exact hfalse
    · exact noPanic_iff.mp (shapedFixture_noPanic config fixture) hpanic

/-- The decoder takes the lines of a golden fixture, all of them, and panics before
those that exceed its limits. -/
theorem goldenFixtureReader_reads (sizes : RowSizes) :
    Reads Stop.IsPanic (goldenFixtureReader sizes)
      (fun L golden L' => Decodes sizes L golden ∧ L' = []) (Exceeds sizes) := by
  have hread := opening_reads.bind fun config =>
    (readSection_reads sizes.agentProfile "agents" "agents header" "agent"
      (parseAgent_parses config)).bind fun agents =>
    (readSection_reads sizes.agentRuntimeState "states" "states header" "state"
      parseState_parses).bind fun states =>
    (readSection_reads sizes.routingRequest "requests" "requests header" "request"
      (parseRequest_parses config)).bind fun requests =>
    closing_reads config { agents, states, requests }
  rw [bind_assoc] at hread
  apply hread.congr
  · intro L golden L'
    refine ⟨?_, ?_⟩
    · intro ⟨config, L₁, hopens, agents, L₂, hagents, states, L₃, hstates, requests, L₄, hrequests,
        hcloses, hL', hgolden, hshaped⟩
      subst hgolden
      exact ⟨⟨L₁, L₂, L₃, L₄, hopens, hagents, hstates, hrequests, hcloses, hshaped⟩, hL'⟩
    · intro ⟨⟨L₁, L₂, L₃, L₄, hopens, hagents, hstates, hrequests, hcloses, hshaped⟩, hL'⟩
      exact ⟨_, L₁, hopens, _, L₂, hagents, _, L₃, hstates, _, L₄, hrequests, hcloses, hL', rfl,
        hshaped⟩
  · intro L
    simp only [false_or, and_false, exists_false, or_false]
    rfl

/-- What a text decodes to, by its nonblank lines. -/
theorem decodeGoldenFixture_ok_iff {sizes : RowSizes} {contents : List Char}
    {golden : GoldenFixture} : decodeGoldenFixture sizes contents = .ok golden ↔
      Decodes sizes (NumberedLines.new contents).content golden := by
  rw [decodeGoldenFixture]
  refine ⟨?_, ?_⟩
  · intro h
    cases hread : goldenFixtureReader sizes (.new contents) with
    | error e => rw [hread] at h; cases h
    | ok p =>
      rw [hread] at h
      obtain rfl := Except.ok.inj h
      exact ((goldenFixtureReader_reads sizes).sound hread).1
  · intro h
    obtain ⟨s', hread, _⟩ := (goldenFixtureReader_reads sizes).complete
      (s := .new contents) (a := golden) ⟨h, rfl⟩
    rw [hread]
    rfl

theorem decodeGoldenFixture_panics_iff {sizes : RowSizes} {contents : List Char} :
    (∃ p, decodeGoldenFixture sizes contents = .error (.panic p)) ↔
      Exceeds sizes (NumberedLines.new contents).content := by
  rw [← (goldenFixtureReader_reads sizes).fails, decodeGoldenFixture]
  cases hread : goldenFixtureReader sizes (.new contents) with
  | error e =>
    refine ⟨?_, ?_⟩
    · intro ⟨p, hp⟩
      exact ⟨e, ⟨p, by cases hp; rfl⟩, rfl⟩
    · intro ⟨e', ⟨p, hp⟩, he⟩
      refine ⟨p, ?_⟩
      rw [← hp]
      cases he
      rfl
  | ok p => exact ⟨fun ⟨_, h⟩ => (nomatch h), fun ⟨_, _, h⟩ => (nomatch h)⟩

/-! Totality. -/

/-- The call returns a value or a format error. -/
def Returns {α : Type} (x : Except Stop α) : Prop :=
  (∃ a, x = .ok a) ∨ ∃ line message, x = .error (.error (.format line message))

theorem returns_iff {α : Type} {x : Except Stop α} :
    Returns x ↔ ¬ ∃ p, x = .error (.panic p) := by
  cases x with
  | ok a => exact ⟨fun _ ⟨_, h⟩ => (nomatch h), fun _ => Or.inl ⟨a, rfl⟩⟩
  | error stop =>
    cases stop with
    | error e =>
      obtain ⟨line, message⟩ := e
      exact ⟨fun _ ⟨_, h⟩ => (nomatch h), fun _ => Or.inr ⟨line, message, rfl⟩⟩
    | panic p =>
      refine ⟨?_, fun h => absurd ⟨p, rfl⟩ h⟩
      intro h
      rcases h with ⟨_, h⟩ | ⟨_, _, h⟩
      · cases h
      · cases h

/-- Decoding returns on exactly the texts that stay within the limits. -/
theorem decode_returns_iff (sizes : RowSizes) (contents : List Char) :
    Returns (decodeGoldenFixture sizes contents) ↔
      ¬ Exceeds sizes (NumberedLines.new contents).content := by
  rw [returns_iff, decodeGoldenFixture_panics_iff]

/-- A header that counts more agents than a Vec can hold. -/
def crowdedText : String :=
  "qtom-golden-fixture-v1\nconfig 0 0 0 1 0\nagents 18446744073709551615\n"

/-- A dimension eight short of overflow, and an agent's row. -/
def wideText : String :=
  "qtom-golden-fixture-v1\nconfig 1 0 18446744073709551608 1 0\nagents 1\nagent 0\n"

theorem header_count_panics :
    decodeGoldenFixture ⟨40, 16, 48⟩ crowdedText.toList = .error (.panic .capacityOverflow) ∧
    decodeGoldenFixture ⟨40, 16, 48⟩ wideText.toList = .error (.panic .addOverflow) ∧
    ¬ ∀ contents, Returns (decodeGoldenFixture ⟨40, 16, 48⟩ contents) := by
  have hcrowded : decodeGoldenFixture ⟨40, 16, 48⟩ crowdedText.toList =
      .error (.panic .capacityOverflow) := by decide +kernel
  have hwide : decodeGoldenFixture ⟨40, 16, 48⟩ wideText.toList =
      .error (.panic .addOverflow) := by decide +kernel
  refine ⟨hcrowded, hwide, ?_⟩
  intro hall
  exact returns_iff.mp (hall crowdedText.toList) ⟨_, hcrowded⟩

end QTom.Golden
