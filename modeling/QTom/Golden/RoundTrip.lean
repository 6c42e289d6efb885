import QTom.Golden.Decode

/- Golden fixtures round trip bit for bit. Every encoded line is a line of tokens
   that the grammar of the decoder (`Decodes`) takes for the row it was written from,
   so the text as a whole decodes to its fixture (`Decodes.encoded`). What decodes is
   made of values of the Rust types again (`Decodes.typed`), and so reencodes. -/
namespace QTom.Golden
open QTom.Lib QTom.Router

/-! Values of the Rust types. -/

structure AgentTyped (agent : AgentProfile F32Bits) : Prop where
  id : agent.id < 2 ^ 32
  modelProfile : agent.labels.modelProfile < 2 ^ 16
  toolProfile : agent.labels.toolProfile < 2 ^ 16
  mcpProfile : agent.labels.mcpProfile < 2 ^ 16
  memoryProfile : agent.labels.memoryProfile < 2 ^ 16
  costClass : agent.labels.costClass < 2 ^ 8
  latencyClass : agent.labels.latencyClass < 2 ^ 8
  /-- A Vec of f32 has fewer than `2 ^ 61` entries. -/
  vector : 8 + agent.vector.length < 2 ^ 64

structure StateTyped (state : AgentRuntimeState F32Bits) : Prop where
  availability : state.availability < 2 ^ 32

structure RequestTyped (request : RoutingRequest F32Bits) : Prop where
  taskId : request.taskId < 2 ^ 64
  k : request.k < 2 ^ 64
  fallbackGeneralistId : request.fallbackGeneralistId < 2 ^ 32
  vector : 5 + request.vector.length < 2 ^ 64

structure ConfigTyped (config : FixtureConfig) : Prop where
  agentCount : config.agentCount < 2 ^ 64
  taskCount : config.taskCount < 2 ^ 64
  dimensions : config.dimensions < 2 ^ 64
  k : config.k < 2 ^ 64
  seed : config.seed < 2 ^ 64

/-- A Vec has at most `isize::MAX` bytes. -/
structure Fixture.Typed (sizes : RowSizes) (fixture : Fixture) : Prop where
  agents : ∀ agent ∈ fixture.agents, AgentTyped agent
  states : ∀ state ∈ fixture.states, StateTyped state
  requests : ∀ request ∈ fixture.requests, RequestTyped request
  agentsFit : fixture.agents.length * sizes.agentProfile < 2 ^ 63
  statesFit : fixture.states.length * sizes.agentRuntimeState < 2 ^ 63
  requestsFit : fixture.requests.length * sizes.routingRequest < 2 ^ 63

/-! Numerals. -/

@[simp] theorem isToken_hex (width n : Nat) : IsToken (hex width n) :=
  isToken_zeroPad (by decide) (by decide) width n

@[simp] theorem isToken_f32Hex (x : F32Bits) : IsToken (f32Hex x) := isToken_hex 8 x.toNat

theorem decimal_eq (n : Nat) : decimal n = zeroPad 0 (Nat.toDigits 10 n) :=
  (zeroPad_zero _).symm

@[simp] theorem isToken_decimal (n : Nat) : IsToken (decimal n) := by
  rw [decimal_eq]
  exact isToken_zeroPad (by decide) (by decide) 0 n

theorem decimal_reads {limit n : Nat} (h : n < limit) :
    fromStrRadix 10 limit (decimal n) = some n := by
  rw [decimal_eq]
  exact fromStrRadix_zeroPad (by decide) (by decide) 0 h

theorem hex_reads {width limit n : Nat} (h : n < limit) :
    fromStrRadix 16 limit (hex width n) = some n :=
  fromStrRadix_zeroPad (by decide) (by decide) width h

theorem f32Hex_reads (x : F32Bits) : F32Token (f32Hex x) x := hex_reads x.isLt

theorem vector_reads (vector : List F32Bits) :
    List.Forall₂ F32Token (vector.map f32Hex) vector :=
  List.forall₂_map_left_iff.mpr (List.forall₂_same.mpr fun x _ => f32Hex_reads x)

theorem isToken_vector (vector : List F32Bits) : ∀ t ∈ vector.map f32Hex, IsToken t := by
  intro t ht
  obtain ⟨x, _, rfl⟩ := List.mem_map.mp ht
  exact isToken_f32Hex x

/-! Lines. -/

/-- A line of tokens that is a row of the grammar. -/
def Written {α : Type} (Row : List Char → α → Prop) (line : List Char) (x : α) : Prop :=
  TokenLine line ∧ Row line x

theorem configLine_written {config : FixtureConfig} (h : ConfigTyped config) :
    Written ConfigLine (configLine config) config := by
  have hword : IsToken "config".toList := by decide
  have htokens : ∀ t ∈ [decimal config.agentCount, decimal config.taskCount,
      decimal config.dimensions, decimal config.k, hex 16 config.seed], IsToken t := by simp
  exact ⟨⟨_, _, rfl, hword, htokens⟩, _, _, _, _, _, splitWhitespace_fields hword htokens,
    decimal_reads h.agentCount, decimal_reads h.taskCount, decimal_reads h.dimensions,
    decimal_reads h.k, hex_reads h.seed⟩

theorem countHeader_written {keyword : String} (hword : IsToken keyword.toList) {count : Nat}
    (h : count < 2 ^ 64) : Written (CountHeader keyword) (countHeader keyword count) count := by
  have htokens : ∀ t ∈ [decimal count], IsToken t := by simp
  exact ⟨⟨_, _, rfl, hword, htokens⟩, _, splitWhitespace_fields hword htokens, decimal_reads h⟩

theorem agentLine_written {config : FixtureConfig} {agent : AgentProfile F32Bits}
    (h : AgentTyped agent) (hlen : agent.vector.length = config.dimensions) :
    Written (AgentLine config) (agentLine agent) agent := by
  have hword : IsToken "agent".toList := by decide
  have htokens : ∀ t ∈ [decimal agent.id, decimal agent.labels.modelProfile,
      decimal agent.labels.toolProfile, decimal agent.labels.mcpProfile,
      decimal agent.labels.memoryProfile, decimal agent.labels.costClass,
      decimal agent.labels.latencyClass] ++ agent.vector.map f32Hex, IsToken t := by
    intro t ht
    rcases List.mem_append.mp ht with ht | ht
    · revert t
      simp
    · exact isToken_vector agent.vector t ht
  refine ⟨⟨_, _, rfl, hword, htokens⟩, hlen ▸ h.vector, ?_⟩
  exact ⟨_, _, _, _, _, _, _, _, splitWhitespace_fields hword htokens,
    (List.length_map _).trans hlen, decimal_reads h.id, decimal_reads h.modelProfile,
    decimal_reads h.toolProfile, decimal_reads h.mcpProfile, decimal_reads h.memoryProfile,
    decimal_reads h.costClass, decimal_reads h.latencyClass, vector_reads agent.vector⟩

theorem stateLine_written {state : AgentRuntimeState F32Bits} (h : StateTyped state) :
    Written StateLine (stateLine state) state := by
  have hword : IsToken "state".toList := by decide
  have htokens : ∀ t ∈ [f32Hex state.queueDepthNorm, f32Hex state.latencyNorm,
      f32Hex state.cachePressureNorm, decimal state.availability], IsToken t := by simp
  exact ⟨⟨_, _, rfl, hword, htokens⟩, _, _, _, _, splitWhitespace_fields hword htokens,
    f32Hex_reads _, f32Hex_reads _, f32Hex_reads _, decimal_reads h.availability⟩

theorem requestLine_written {config : FixtureConfig} {request : RoutingRequest F32Bits}
    (h : RequestTyped request) (hlen : request.vector.length = config.dimensions) :
    Written (RequestLine config) (requestLine request) request := by
  have hword : IsToken "request".toList := by decide
  have htokens : ∀ t ∈ [decimal request.taskId, decimal request.k,
      decimal request.fallbackGeneralistId, f32Hex request.radiusMaxThreshold] ++
      request.vector.map f32Hex, IsToken t := by
    intro t ht
    rcases List.mem_append.mp ht with ht | ht
    · revert t
      simp
    · exact isToken_vector request.vector t ht
  refine ⟨⟨_, _, rfl, hword, htokens⟩, hlen ▸ h.vector, ?_⟩
  exact ⟨_, _, _, _, _, splitWhitespace_fields hword htokens, (List.length_map _).trans hlen,
    decimal_reads h.taskId, decimal_reads h.k, decimal_reads h.fallbackGeneralistId,
    f32Hex_reads _, vector_reads request.vector⟩

/-! The text. -/

/-- The lines of a section. -/
def sectionLines {α : Type} (keyword : String) (row : α → List Char) (xs : List α) :
    List (List Char) :=
  countHeader keyword xs.length :: xs.map row

section Section
variable {α : Type} {size : Nat} {keyword : String} {Row : List Char → α → Prop}
  {row : α → List Char} {xs : List α}

theorem sectionLines_read (hword : IsToken keyword.toList) (hcount : xs.length < 2 ^ 64)
    (hfit : xs.length * size < 2 ^ 63) (hrows : ∀ x ∈ xs, Written Row (row x) x)
    (L' : List (List Char)) :
    SectionRead size keyword Row (sectionLines keyword row xs ++ L') xs L' := by
  refine ⟨_, xs.map row, rfl, (countHeader_written hword hcount).2, hfit, ?_⟩
  apply List.forall₂_map_left_iff.mpr
  apply List.forall₂_same.mpr
  intro x hx
  exact (hrows x hx).2

theorem sectionLines_tokens (hword : IsToken keyword.toList) (hcount : xs.length < 2 ^ 64)
    (hrows : ∀ x ∈ xs, Written Row (row x) x) :
    ∀ line ∈ sectionLines keyword row xs, TokenLine line := by
  intro line hline
  rcases List.mem_cons.mp hline with rfl | hline
  · exact (countHeader_written hword hcount).1
  · obtain ⟨x, hx, rfl⟩ := List.mem_map.mp hline
    exact (hrows x hx).1

end Section

section Encoded
variable {sizes : RowSizes} {config : FixtureConfig} {fixture : Fixture}

theorem goldenLines_eq (config : FixtureConfig) (fixture : Fixture) :
    goldenLines config fixture = formatMagic :: configLine config ::
      (sectionLines "agents" agentLine fixture.agents ++
        (sectionLines "states" stateLine fixture.states ++
          (sectionLines "requests" requestLine fixture.requests ++ ["end".toList]))) := rfl

/-- The rows of a shaped fixture are rows of the grammar. -/
theorem rows_written (hfixture : fixture.Typed sizes) (hshape : fixture.Shaped config) :
    (∀ agent ∈ fixture.agents, Written (AgentLine config) (agentLine agent) agent) ∧
    (∀ state ∈ fixture.states, Written StateLine (stateLine state) state) ∧
    ∀ request ∈ fixture.requests, Written (RequestLine config) (requestLine request) request := by
  refine ⟨?_, ?_, ?_⟩
  · intro agent h
    exact agentLine_written (hfixture.agents agent h) (hshape.agentVectors agent h)
  · intro state h
    exact stateLine_written (hfixture.states state h)
  · intro request h
    exact requestLine_written (hfixture.requests request h) (hshape.requestVectors request h)

/-- The sections of a shaped fixture are no longer than its config says. -/
theorem counts_typed (hconfig : ConfigTyped config) (hshape : fixture.Shaped config) :
    fixture.agents.length < 2 ^ 64 ∧ fixture.states.length < 2 ^ 64 ∧
      fixture.requests.length < 2 ^ 64 := by
  refine ⟨?_, ?_, ?_⟩
  · rw [hshape.agents]
    exact hconfig.agentCount
  · rw [hshape.states]
    exact hconfig.agentCount
  · rw [hshape.requests]
    exact hconfig.taskCount

theorem goldenLines_tokens (hconfig : ConfigTyped config) (hfixture : fixture.Typed sizes)
    (hshape : fixture.Shaped config) : ∀ line ∈ goldenLines config fixture, TokenLine line := by
  obtain ⟨hagents, hstates, hrequests⟩ := rows_written hfixture hshape
  obtain ⟨hagentCount, hstateCount, hrequestCount⟩ := counts_typed hconfig hshape
  have hmagic : IsToken formatMagic := by decide
  have hend : IsToken "end".toList := by decide
  intro line hline
  rw [goldenLines_eq] at hline
  simp only [List.mem_cons, List.mem_append, List.not_mem_nil, or_false] at hline
  rcases hline with rfl | rfl | hline | hline | hline | rfl
  · exact hmagic.tokenLine
  · exact (configLine_written hconfig).1
  · exact sectionLines_tokens (by decide) hagentCount hagents line hline
  · exact sectionLines_tokens (by decide) hstateCount hstates line hline
  · exact sectionLines_tokens (by decide) hrequestCount hrequests line hline
  · exact hend.tokenLine

/-- The lines of the encoding are those of a golden fixture. -/
theorem Decodes.encoded (hconfig : ConfigTyped config) (hfixture : fixture.Typed sizes)
    (hshape : fixture.Shaped config) :
    Decodes sizes (goldenLines config fixture) ⟨config, fixture⟩ := by
  obtain ⟨hagents, hstates, hrequests⟩ := rows_written hfixture hshape
  obtain ⟨hagentCount, hstateCount, hrequestCount⟩ := counts_typed hconfig hshape
  have hopens : Opens (goldenLines config fixture) config _ :=
    ⟨_, _, goldenLines_eq config fixture, trimChars_token (by decide),
      (configLine_written hconfig).2⟩
  have hcloses : Closes ["end".toList] := ⟨_, rfl, trimChars_token (by decide)⟩
  exact ⟨_, _, _, _, hopens,
    sectionLines_read (by decide) hagentCount hfixture.agentsFit hagents _,
    sectionLines_read (by decide) hstateCount hfixture.statesFit hstates _,
    sectionLines_read (by decide) hrequestCount hfixture.requestsFit hrequests _, hcloses, hshape⟩

theorem decode_encode (hconfig : ConfigTyped config) (hfixture : fixture.Typed sizes)
    (hvalid : validateFixtureShape config fixture = .ok ()) :
    ∃ text, encodeGoldenFixture config fixture = .ok text ∧
      decodeGoldenFixture sizes text = .ok ⟨config, fixture⟩ := by
  have hshape := validateFixtureShape_ok_iff.mp hvalid
  refine ⟨(goldenLines config fixture).flatMap (· ++ ['\n']), ?_, ?_⟩
  · rw [encodeGoldenFixture, hvalid]
    rfl
  · have hcontent : (NumberedLines.new ((goldenLines config fixture).flatMap
        (· ++ ['\n']))).content = goldenLines config fixture :=
      lines_tokenLines (goldenLines_tokens hconfig hfixture hshape)
    rw [decodeGoldenFixture_ok_iff, hcontent]
    exact Decodes.encoded hconfig hfixture hshape

end Encoded

/-! What decodes. -/

theorem ConfigLine.typed {line : List Char} {config : FixtureConfig} (h : ConfigLine line config) :
    ConfigTyped config := by
  obtain ⟨_, _, _, _, _, _, ha, ht, hd, hk, hs⟩ := h
  exact ⟨fromStrRadix_lt ha, fromStrRadix_lt ht, fromStrRadix_lt hd, fromStrRadix_lt hk,
    fromStrRadix_lt hs⟩

theorem AgentLine.typed {config : FixtureConfig} {line : List Char} {agent : AgentProfile F32Bits}
    (h : AgentLine config line agent) : AgentTyped agent := by
  obtain ⟨hadd, _, _, _, _, _, _, _, _, _, hlen, hid, hm, ht, hc, hy, hcc, hlc, hvector⟩ := h
  refine ⟨fromStrRadix_lt hid, fromStrRadix_lt hm, fromStrRadix_lt ht, fromStrRadix_lt hc,
    fromStrRadix_lt hy, fromStrRadix_lt hcc, fromStrRadix_lt hlc, ?_⟩
  rw [← hvector.length_eq, hlen]
  exact hadd

theorem StateLine.typed {line : List Char} {state : AgentRuntimeState F32Bits}
    (h : StateLine line state) : StateTyped state := by
  obtain ⟨_, _, _, _, _, _, _, _, ha⟩ := h
  exact ⟨fromStrRadix_lt ha⟩

theorem RequestLine.typed {config : FixtureConfig} {line : List Char}
    {request : RoutingRequest F32Bits} (h : RequestLine config line request) :
    RequestTyped request := by
  obtain ⟨hadd, _, _, _, _, _, _, hlen, ht, hk, hf, _, hvector⟩ := h
  refine ⟨fromStrRadix_lt ht, fromStrRadix_lt hk, fromStrRadix_lt hf, ?_⟩
  rw [← hvector.length_eq, hlen]
  exact hadd

/-- What decodes is made of values of the Rust types. -/
theorem Decodes.typed {sizes : RowSizes} {L : List (List Char)} {golden : GoldenFixture}
    (h : Decodes sizes L golden) :
    ConfigTyped golden.config ∧ golden.fixture.Typed sizes := by
  obtain ⟨_, _, _, _, ⟨_, _, _, _, hconfig⟩, ⟨_, _, _, _, hagentsFit, hagents⟩,
    ⟨_, _, _, _, hstatesFit, hstates⟩, ⟨_, _, _, _, hrequestsFit, hrequests⟩, _, _⟩ := h
  refine ⟨hconfig.typed, ?_, ?_, ?_, hagentsFit, hstatesFit, hrequestsFit⟩
  · exact forall_right hagents fun _ _ h => h.typed
  · exact forall_right hstates fun _ _ h => h.typed
  · exact forall_right hrequests fun _ _ h => h.typed

/-- Encoding and decoding a shaped fixture returns it, generated fixtures are shaped,
and what decodes is returned again by its encoding. -/
theorem golden_round_trip (sizes : RowSizes) :
    (∀ config fixture, ConfigTyped config → fixture.Typed sizes →
      validateFixtureShape config fixture = .ok () →
      ∃ text, encodeGoldenFixture config fixture = .ok text ∧
        decodeGoldenFixture sizes text = .ok ⟨config, fixture⟩) ∧
    (∀ arithmetic config,
      validateFixtureShape config (generateFixture arithmetic config) = .ok ()) ∧
    ∀ contents golden, decodeGoldenFixture sizes contents = .ok golden →
      ∃ text, encodeGoldenFixture golden.config golden.fixture = .ok text ∧
        decodeGoldenFixture sizes text = .ok golden := by
  refine ⟨?_, ?_, ?_⟩
  · intro config fixture hconfig hfixture hvalid
    exact decode_encode hconfig hfixture hvalid
  · intro arithmetic config
    exact validateFixtureShape_ok_iff.mpr (generateFixture_shaped arithmetic config)
  · intro contents golden h
    have hdecodes := decodeGoldenFixture_ok_iff.mp h
    obtain ⟨hconfig, hfixture⟩ := hdecodes.typed
    obtain ⟨_, _, _, _, _, _, _, _, _, hshape⟩ := hdecodes
    exact decode_encode hconfig hfixture (validateFixtureShape_ok_iff.mpr hshape)

/-- An agent and a request at a NaN with a payload and at minus zero. -/
def nanConfig : FixtureConfig :=
  { agentCount := 1, taskCount := 1, dimensions := 2, k := 1, seed := 18446744073709551615 }

def nanFixture : Fixture :=
  { agents := [{
      id := 4294967295, vector := [0x7fc00001#32, 0x80000000#32]
      labels := ⟨65535, 0, 1, 2, 255, 3⟩ }]
    states := [⟨0x7f800000#32, 0xff800000#32, 0xffc00002#32, 7⟩]
    requests := [{
      taskId := 18446744073709551615, vector := [0x80000000#32, 0x7fc00001#32], k := 1
      fallbackGeneralistId := 0, radiusMaxThreshold := 0x41200000#32 }] }

theorem nanConfig_typed : ConfigTyped nanConfig :=
  ⟨by decide, by decide, by decide, by decide, by decide⟩

theorem nanFixture_typed : nanFixture.Typed ⟨40, 16, 48⟩ := by
  refine ⟨?_, ?_, ?_, by decide, by decide, by decide⟩
  · intro agent h
    rw [List.mem_singleton.mp h]
    exact ⟨by decide, by decide, by decide, by decide, by decide, by decide, by decide,
      by decide⟩
  · intro state h
    rw [List.mem_singleton.mp h]
    exact ⟨by decide⟩
  · intro request h
    rw [List.mem_singleton.mp h]
    exact ⟨by decide, by decide, by decide, by decide⟩

theorem golden_round_trip_nan :
    ∃ text, encodeGoldenFixture nanConfig nanFixture = .ok text ∧
      decodeGoldenFixture ⟨40, 16, 48⟩ text = .ok ⟨nanConfig, nanFixture⟩ ∧
      ∃ text', encodeGoldenFixture nanConfig nanFixture = .ok text' ∧
        decodeGoldenFixture ⟨40, 16, 48⟩ text' = .ok ⟨nanConfig, nanFixture⟩ := by
  have hvalid : validateFixtureShape nanConfig nanFixture = .ok () := by decide
  obtain ⟨text, hencode, hdecode⟩ := (golden_round_trip ⟨40, 16, 48⟩).1 nanConfig nanFixture
    nanConfig_typed nanFixture_typed hvalid
  exact ⟨text, hencode, hdecode, (golden_round_trip ⟨40, 16, 48⟩).2.2 text _ hdecode⟩

end QTom.Golden
