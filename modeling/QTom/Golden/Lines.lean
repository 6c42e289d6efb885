import QTom.Golden.Format

/- What the line parsers of the golden format accept, as a grammar over the tokens
   of a line, and when they panic: on a line they are given, only in adding to the
   dimensions (`parseAgent_parses`, `parseRequest_parses`). The fields they index are
   there once the line has been split. -/
namespace QTom.Golden
open QTom.Lib QTom.Router

/-! Steps of a parser. -/

/-- The computation does not panic. -/
def NoPanic {α : Type} (x : Except Stop α) : Prop := ∀ p, x ≠ .error (.panic p)

theorem noPanic_iff {α : Type} {x : Except Stop α} :
    NoPanic x ↔ ¬ ∃ e, Stop.IsPanic e ∧ x = .error e := by
  refine ⟨?_, ?_⟩
  · intro h ⟨e, ⟨p, hp⟩, he⟩
    rw [hp] at he
    exact h p he
  · intro h p hp
    exact h ⟨_, ⟨p, rfl⟩, hp⟩

theorem NoPanic.ok {α : Type} (a : α) : NoPanic (.ok a) := fun _ h => (nomatch h)

theorem NoPanic.formatStop {α : Type} (line : Nat) (message : String) :
    NoPanic (formatStop line message : Except Stop α) := fun _ h => (nomatch h)

theorem NoPanic.bind {α β : Type} {x : Except Stop α} {f : α → Except Stop β} (hx : NoPanic x)
    (hf : ∀ a, NoPanic (f a)) : NoPanic (x >>= f) := by
  cases x with
  | error e =>
    intro p h
    exact hx p (by cases h; rfl)
  | ok a => exact hf a

theorem parseRadix_ok {radix bits line : Nat} {token : List Char} {field : String} {n : Nat} :
    parseRadix radix bits token line field = .ok n ↔
      fromStrRadix radix (2 ^ bits) token = some n := by
  rw [parseRadix]
  cases fromStrRadix radix (2 ^ bits) token with
  | none => exact ⟨fun h => (nomatch h), fun h => (nomatch h)⟩
  | some m => rw [Except.ok.injEq, Option.some.injEq]

theorem parseRadix_noPanic (radix bits : Nat) (token : List Char) (line : Nat) (field : String) :
    NoPanic (parseRadix radix bits token line field) := by
  rw [parseRadix]
  cases fromStrRadix radix (2 ^ bits) token with
  | none => exact NoPanic.formatStop _ _
  | some m => exact NoPanic.ok m

/-- The token is the hexadecimal numeral of the bits. -/
def F32Token (token : List Char) (x : F32Bits) : Prop :=
  fromStrRadix 16 (2 ^ 32) token = some x.toNat

theorem parseF32Bits_ok {token : List Char} {line : Nat} {field : String} {x : F32Bits} :
    parseF32Bits token line field = .ok x ↔ F32Token token x := by
  rw [parseF32Bits, bind_ok_iff, F32Token]
  refine ⟨?_, ?_⟩
  · intro ⟨n, hn, hx⟩
    obtain rfl := Except.ok.inj hx
    have hread := parseRadix_ok.mp hn
    rw [hread, BitVec.toNat_ofNat, Nat.mod_eq_of_lt (fromStrRadix_lt hread)]
  · intro hread
    exact ⟨x.toNat, parseRadix_ok.mpr hread, by
      show Except.ok (BitVec.ofNat 32 x.toNat) = _
      rw [BitVec.ofNat_toNat, BitVec.setWidth_eq]⟩

theorem parseF32Bits_noPanic (token : List Char) (line : Nat) (field : String) :
    NoPanic (parseF32Bits token line field) :=
  (parseRadix_noPanic _ _ _ _ _).bind fun _ => NoPanic.ok _

theorem parseF32Vec_ok {tokens : List (List Char)} {line : Nat} {field : String}
    {vector : List F32Bits} :
    parseF32Vec tokens line field = .ok vector ↔ List.Forall₂ F32Token tokens vector := by
  rw [parseF32Vec]
  induction tokens generalizing vector with
  | nil =>
    rw [List.forall₂_nil_left_iff]
    exact ⟨fun h => (Except.ok.inj h).symm, fun h => by rw [h]; rfl⟩
  | cons token tokens ih =>
    rw [List.mapM_cons, bind_ok_iff, List.forall₂_cons_left_iff]
    refine ⟨?_, ?_⟩
    · intro ⟨x, hx, hrest⟩
      obtain ⟨xs, hxs, hvector⟩ := bind_ok_iff.mp hrest
      exact ⟨x, xs, parseF32Bits_ok.mp hx, ih.mp hxs, (Except.ok.inj hvector).symm⟩
    · intro ⟨x, xs, hx, hxs, hvector⟩
      exact ⟨x, parseF32Bits_ok.mpr hx, bind_ok_iff.mpr ⟨xs, ih.mpr hxs, by rw [hvector]; rfl⟩⟩

theorem parseF32Vec_noPanic (tokens : List (List Char)) (line : Nat) (field : String) :
    NoPanic (parseF32Vec tokens line field) := by
  rw [parseF32Vec]
  induction tokens with
  | nil => exact NoPanic.ok []
  | cons token tokens ih =>
    rw [List.mapM_cons]
    exact (parseF32Bits_noPanic token line field).bind fun x => ih.bind fun xs => NoPanic.ok _

theorem expectKeyword_ok {found : List Char} {expected : String} {lineNo : Nat} {u : Unit} :
    expectKeyword found expected lineNo = .ok u ↔ found = expected.toList := by
  rw [expectKeyword, formatStop, require_ok_iff, and_iff_left rfl]

theorem expectKeyword_noPanic (found : List Char) (expected : String) (lineNo : Nat) :
    NoPanic (expectKeyword found expected lineNo) := by
  rw [expectKeyword]
  split
  · exact NoPanic.ok ()
  · exact NoPanic.formatStop _ _

theorem splitExact_ok {line : List Char} {expected lineNo : Nat} {context : String}
    {parts : List (List Char)} : splitExact line expected lineNo context = .ok parts ↔
      splitWhitespace line = parts ∧ parts.length = expected := by
  rw [splitExact, formatStop, refuse_ok_iff, not_not, Except.ok.injEq]
  refine ⟨?_, ?_⟩
  · intro ⟨hlen, hparts⟩
    exact ⟨hparts, hparts ▸ hlen⟩
  · intro ⟨hparts, hlen⟩
    exact ⟨hparts ▸ hlen, hparts⟩

/-- What is made of a line's parts, it has so many of them. -/
theorem length_of_splitExact {α : Type} {line : List Char} {expected lineNo : Nat}
    {context : String} {f : List (List Char) → Except Stop α} {a : α}
    (h : (splitExact line expected lineNo context >>= f) = .ok a) :
    (splitWhitespace line).length = expected := by
  obtain ⟨parts, hparts, _⟩ := bind_ok_iff.mp h
  obtain ⟨hsplit, hlen⟩ := splitExact_ok.mp hparts
  rw [hsplit, hlen]

/-- A line with another number of fields is a format error, whatever is done next. -/
theorem splitExact_noPanic {α : Type} {line : List Char} {expected lineNo : Nat}
    {context : String} {f : List (List Char) → Except Stop α}
    (h : (splitWhitespace line).length = expected →
      NoPanic (splitExact line expected lineNo context >>= f)) :
    NoPanic (splitExact line expected lineNo context >>= f) := by
  by_cases hlen : (splitWhitespace line).length = expected
  · exact h hlen
  · rw [splitExact, if_pos hlen]
    exact fun _ he => (nomatch he)

theorem length_eq_two {α : Type} {xs : List α} (h : xs.length = 2) : ∃ a b, xs = [a, b] := by
  match xs, h with
  | [a, b], _ => exact ⟨a, b, rfl⟩

theorem length_eq_five {α : Type} {xs : List α} (h : xs.length = 5) :
    ∃ a b c d e, xs = [a, b, c, d, e] := by
  match xs, h with
  | [a, b, c, d, e], _ => exact ⟨a, b, c, d, e, rfl⟩

theorem length_eq_six {α : Type} {xs : List α} (h : xs.length = 6) :
    ∃ a b c d e f, xs = [a, b, c, d, e, f] := by
  match xs, h with
  | [a, b, c, d, e, f], _ => exact ⟨a, b, c, d, e, f, rfl⟩

theorem length_eq_five_add {α : Type} {xs : List α} {n : Nat} (h : xs.length = 5 + n) :
    ∃ a b c d e rest, xs = a :: b :: c :: d :: e :: rest ∧ rest.length = n := by
  match xs, h with
  | a :: b :: c :: d :: e :: rest, h =>
    simp only [List.length_cons] at h
    exact ⟨a, b, c, d, e, rest, rfl, by omega⟩
  | [], h | [_], h | [_, _], h | [_, _, _], h | [_, _, _, _], h =>
    simp only [List.length_cons, List.length_nil] at h
    omega

theorem length_eq_eight_add {α : Type} {xs : List α} {n : Nat} (h : xs.length = 8 + n) :
    ∃ a b c d e f g i rest, xs = a :: b :: c :: d :: e :: f :: g :: i :: rest ∧
      rest.length = n := by
  obtain ⟨a, b, c, d, e, rest, rfl, hrest⟩ :=
    length_eq_five_add (h.trans (show 8 + n = 5 + (3 + n) by omega))
  match rest, hrest with
  | f :: g :: i :: rest, hrest =>
    simp only [List.length_cons] at hrest
    exact ⟨a, b, c, d, e, f, g, i, rest, rfl, by omega⟩
  | [], h | [_], h | [_, _], h =>
    simp only [List.length_cons, List.length_nil] at h
    omega

/-! The lines. -/

/-- The config line. -/
def ConfigLine (line : List Char) (config : FixtureConfig) : Prop :=
  ∃ agentCount taskCount dimensions k seed,
    splitWhitespace line = ["config".toList, agentCount, taskCount, dimensions, k, seed] ∧
    fromStrRadix 10 (2 ^ 64) agentCount = some config.agentCount ∧
    fromStrRadix 10 (2 ^ 64) taskCount = some config.taskCount ∧
    fromStrRadix 10 (2 ^ 64) dimensions = some config.dimensions ∧
    fromStrRadix 10 (2 ^ 64) k = some config.k ∧
    fromStrRadix 16 (2 ^ 64) seed = some config.seed

theorem parseConfig_of_parts {no : Nat} {line word a t d k s : List Char}
    (h : splitWhitespace line = [word, a, t, d, k, s]) : parseConfig no line = (do
      expectKeyword word "config" no
      let agentCount ← parseUsize a no "agent_count"
      let taskCount ← parseUsize t no "task_count"
      let dimensions ← parseUsize d no "dimensions"
      let k ← parseUsize k no "k"
      let seed ← parseHexU64 s no "seed"
      return { agentCount, taskCount, dimensions, k, seed }) := by
  have hparts : splitExact line 6 no "config" = .ok [word, a, t, d, k, s] :=
    splitExact_ok.mpr ⟨h, rfl⟩
  rw [parseConfig, hparts]
  rfl

theorem parseConfig_parses :
    Parses Stop.IsPanic parseConfig ConfigLine fun _ => False := by
  refine ⟨?_, ?_⟩
  · intro no line config
    refine ⟨?_, ?_⟩
    · intro h
      obtain ⟨word, a, t, d, k, s, hsplit⟩ := length_eq_six (length_of_splitExact h)
      rw [parseConfig_of_parts hsplit] at h
      simp only [bind_ok_iff, expectKeyword_ok, parseUsize, parseHexU64, parseRadix_ok] at h
      obtain ⟨_, rfl, agentCount, ha, taskCount, ht, dimensions, hd, k', hk, seed, hs, hconfig⟩ := h
      obtain rfl := Except.ok.inj hconfig
      exact ⟨a, t, d, k, s, hsplit, ha, ht, hd, hk, hs⟩
    · intro ⟨a, t, d, k, s, hsplit, ha, ht, hd, hk, hs⟩
      rw [parseConfig_of_parts hsplit]
      simp only [bind_ok_iff, expectKeyword_ok, parseUsize, parseHexU64, parseRadix_ok]
      exact ⟨(), trivial, _, ha, _, ht, _, hd, _, hk, _, hs, rfl⟩
  · intro no line
    refine ⟨noPanic_iff.mp (splitExact_noPanic fun hlen => ?_), False.elim⟩
    obtain ⟨word, a, t, d, k, s, hsplit⟩ := length_eq_six hlen
    show NoPanic (parseConfig no line)
    rw [parseConfig_of_parts hsplit]
    refine (expectKeyword_noPanic _ _ _).bind fun _ => ?_
    iterate 5 refine (parseRadix_noPanic _ _ _ _ _).bind fun _ => ?_
    exact NoPanic.ok _

/-- A section's header. -/
def CountHeader (keyword : String) (line : List Char) (count : Nat) : Prop :=
  ∃ token, splitWhitespace line = [keyword.toList, token] ∧
    fromStrRadix 10 (2 ^ 64) token = some count

theorem parseCountHeader_of_parts {keyword : String} {no : Nat} {line word count : List Char}
    (h : splitWhitespace line = [word, count]) : parseCountHeader keyword no line = (do
      expectKeyword word keyword no
      parseUsize count no keyword) := by
  have hparts : splitExact line 2 no keyword = .ok [word, count] := splitExact_ok.mpr ⟨h, rfl⟩
  rw [parseCountHeader, hparts]
  rfl

theorem parseCountHeader_parses (keyword : String) :
    Parses Stop.IsPanic (parseCountHeader keyword) (CountHeader keyword) fun _ => False := by
  refine ⟨?_, ?_⟩
  · intro no line count
    refine ⟨?_, ?_⟩
    · intro h
      obtain ⟨word, token, hsplit⟩ := length_eq_two (length_of_splitExact h)
      rw [parseCountHeader_of_parts hsplit] at h
      simp only [bind_ok_iff, expectKeyword_ok, parseUsize, parseRadix_ok] at h
      obtain ⟨_, rfl, hcount⟩ := h
      exact ⟨token, hsplit, hcount⟩
    · intro ⟨token, hsplit, hcount⟩
      rw [parseCountHeader_of_parts hsplit]
      simp only [bind_ok_iff, expectKeyword_ok, parseUsize, parseRadix_ok]
      exact ⟨(), trivial, hcount⟩
  · intro no line
    refine ⟨noPanic_iff.mp (splitExact_noPanic fun hlen => ?_), False.elim⟩
    obtain ⟨word, token, hsplit⟩ := length_eq_two hlen
    show NoPanic (parseCountHeader keyword no line)
    rw [parseCountHeader_of_parts hsplit]
    refine (expectKeyword_noPanic _ _ _).bind fun _ => ?_
    exact parseRadix_noPanic _ _ _ _ _

/-- An agent's row, once `8 + dimensions` is a usize. -/
def AgentLine (config : FixtureConfig) (line : List Char) (agent : AgentProfile F32Bits) : Prop :=
  8 + config.dimensions < 2 ^ 64 ∧
  ∃ id modelProfile toolProfile mcpProfile memoryProfile costClass latencyClass vector,
    splitWhitespace line = "agent".toList :: id :: modelProfile :: toolProfile :: mcpProfile ::
      memoryProfile :: costClass :: latencyClass :: vector ∧
    vector.length = config.dimensions ∧
    fromStrRadix 10 (2 ^ 32) id = some agent.id ∧
    fromStrRadix 10 (2 ^ 16) modelProfile = some agent.labels.modelProfile ∧
    fromStrRadix 10 (2 ^ 16) toolProfile = some agent.labels.toolProfile ∧
    fromStrRadix 10 (2 ^ 16) mcpProfile = some agent.labels.mcpProfile ∧
    fromStrRadix 10 (2 ^ 16) memoryProfile = some agent.labels.memoryProfile ∧
    fromStrRadix 10 (2 ^ 8) costClass = some agent.labels.costClass ∧
    fromStrRadix 10 (2 ^ 8) latencyClass = some agent.labels.latencyClass ∧
    List.Forall₂ F32Token vector agent.vector

theorem parseAgent_of_parts {config : FixtureConfig} {no : Nat}
    {line word id m t c y cc lc : List Char} {rest : List (List Char)}
    (hadd : 8 + config.dimensions < 2 ^ 64)
    (h : splitWhitespace line = word :: id :: m :: t :: c :: y :: cc :: lc :: rest)
    (hlen : rest.length = config.dimensions) : parseAgent config no line = (do
      expectKeyword word "agent" no
      let id ← parseU32 id no "agent id"
      let modelProfile ← parseU16 m no "model_profile"
      let toolProfile ← parseU16 t no "tool_profile"
      let mcpProfile ← parseU16 c no "mcp_profile"
      let memoryProfile ← parseU16 y no "memory_profile"
      let costClass ← parseU8 cc no "cost_class"
      let latencyClass ← parseU8 lc no "latency_class"
      let vector ← parseF32Vec rest no "agent vector"
      return {
        id, vector
        labels :=
          { modelProfile, toolProfile, mcpProfile, memoryProfile, costClass, latencyClass } }) := by
  have hexpected : addUsize 8 config.dimensions = .ok (8 + config.dimensions) := if_pos hadd
  have hparts : splitExact line (8 + config.dimensions) no "agent" =
      .ok (word :: id :: m :: t :: c :: y :: cc :: lc :: rest) :=
    splitExact_ok.mpr ⟨h, by simp only [List.length_cons]; omega⟩
  have hslice : sliceFrom (word :: id :: m :: t :: c :: y :: cc :: lc :: rest) 8 = .ok rest :=
    if_pos (by simp only [List.length_cons]; omega)
  rw [parseAgent, hexpected]
  show (splitExact line (8 + config.dimensions) no "agent" >>= _) = _
  rw [hparts]
  simp only [index, List.getElem?_cons_zero, List.getElem?_cons_succ, hslice, bind, Except.bind]

/-- An overflow of the expected field count is a panic, before anything is read. -/
theorem addUsize_fails {α : Type} {left right : Nat} {f : Nat → Except Stop α} {x : Except Stop α}
    (hx : x = (addUsize left right >>= f)) (h : left + right < 2 ^ 64 → NoPanic x) :
    (∃ e, Stop.IsPanic e ∧ x = .error e) ↔ 2 ^ 64 ≤ left + right := by
  by_cases hadd : left + right < 2 ^ 64
  · refine ⟨fun hpanic => absurd hpanic (noPanic_iff.mp (h hadd)), fun _ => ?_⟩
    omega
  · rw [hx, addUsize, if_neg hadd]
    exact ⟨fun _ => by omega, fun _ => ⟨_, ⟨.addOverflow, rfl⟩, rfl⟩⟩

theorem addUsize_ok {left right n : Nat} :
    addUsize left right = .ok n ↔ left + right < 2 ^ 64 ∧ left + right = n := by
  rw [addUsize, require_ok_iff, Except.ok.injEq]

theorem parseAgent_parses (config : FixtureConfig) :
    Parses Stop.IsPanic (parseAgent config) (AgentLine config)
      fun _ => 2 ^ 64 ≤ 8 + config.dimensions := by
  refine ⟨?_, ?_⟩
  · intro no line agent
    refine ⟨?_, ?_⟩
    · intro h
      obtain ⟨expected, hexpected, hrest⟩ := bind_ok_iff.mp h
      obtain ⟨hadd, rfl⟩ := addUsize_ok.mp hexpected
      obtain ⟨word, id, m, t, c, y, cc, lc, rest, hsplit, hvec⟩ :=
        length_eq_eight_add (length_of_splitExact hrest)
      rw [parseAgent_of_parts hadd hsplit hvec] at h
      simp only [bind_ok_iff, expectKeyword_ok, parseU32, parseU16, parseU8, parseRadix_ok,
        parseF32Vec_ok] at h
      obtain ⟨_, rfl, _, hid, _, hm, _, ht, _, hc, _, hy, _, hcc, _, hlc, _, hvector, hagent⟩ := h
      obtain rfl := Except.ok.inj hagent
      exact ⟨hadd, id, m, t, c, y, cc, lc, rest, hsplit, hvec, hid, hm, ht, hc, hy, hcc, hlc,
        hvector⟩
    · intro ⟨hadd, id, m, t, c, y, cc, lc, rest, hsplit, hrest, hid, hm, ht, hc, hy, hcc, hlc,
        hvector⟩
      rw [parseAgent_of_parts hadd hsplit hrest]
      simp only [bind_ok_iff, expectKeyword_ok, parseU32, parseU16, parseU8, parseRadix_ok,
        parseF32Vec_ok]
      exact ⟨(), trivial, _, hid, _, hm, _, ht, _, hc, _, hy, _, hcc, _, hlc, _, hvector, rfl⟩
  · intro no line
    refine addUsize_fails (x := parseAgent config no line) rfl fun hadd => ?_
    by_cases hlen : (splitWhitespace line).length = 8 + config.dimensions
    · obtain ⟨word, id, m, t, c, y, cc, lc, rest, hsplit, hvec⟩ := length_eq_eight_add hlen
      rw [parseAgent_of_parts hadd hsplit hvec]
      refine (expectKeyword_noPanic _ _ _).bind fun _ => ?_
      iterate 7 refine (parseRadix_noPanic _ _ _ _ _).bind fun _ => ?_
      exact (parseF32Vec_noPanic _ _ _).bind fun _ => NoPanic.ok _
    · rw [parseAgent, addUsize, if_pos hadd]
      exact splitExact_noPanic fun h => absurd h hlen

/-- A state's row. -/
def StateLine (line : List Char) (state : AgentRuntimeState F32Bits) : Prop :=
  ∃ queueDepthNorm latencyNorm cachePressureNorm availability,
    splitWhitespace line =
      ["state".toList, queueDepthNorm, latencyNorm, cachePressureNorm, availability] ∧
    F32Token queueDepthNorm state.queueDepthNorm ∧ F32Token latencyNorm state.latencyNorm ∧
    F32Token cachePressureNorm state.cachePressureNorm ∧
    fromStrRadix 10 (2 ^ 32) availability = some state.availability

theorem parseState_of_parts {no : Nat} {line word q l c a : List Char}
    (h : splitWhitespace line = [word, q, l, c, a]) : parseState no line = (do
      expectKeyword word "state" no
      let queueDepthNorm ← parseF32Bits q no "queue_depth_norm"
      let latencyNorm ← parseF32Bits l no "latency_norm"
      let cachePressureNorm ← parseF32Bits c no "cache_pressure_norm"
      let availability ← parseU32 a no "availability"
      return { queueDepthNorm, latencyNorm, cachePressureNorm, availability }) := by
  have hparts : splitExact line 5 no "state" = .ok [word, q, l, c, a] :=
    splitExact_ok.mpr ⟨h, rfl⟩
  rw [parseState, hparts]
  rfl

theorem parseState_parses : Parses Stop.IsPanic parseState StateLine fun _ => False := by
  refine ⟨?_, ?_⟩
  · intro no line state
    refine ⟨?_, ?_⟩
    · intro h
      obtain ⟨word, q, l, c, a, hsplit⟩ := length_eq_five (length_of_splitExact h)
      rw [parseState_of_parts hsplit] at h
      simp only [bind_ok_iff, expectKeyword_ok, parseF32Bits_ok, parseU32, parseRadix_ok] at h
      obtain ⟨_, rfl, _, hq, _, hl, _, hc, _, ha, hstate⟩ := h
      obtain rfl := Except.ok.inj hstate
      exact ⟨q, l, c, a, hsplit, hq, hl, hc, ha⟩
    · intro ⟨q, l, c, a, hsplit, hq, hl, hc, ha⟩
      rw [parseState_of_parts hsplit]
      simp only [bind_ok_iff, expectKeyword_ok, parseF32Bits_ok, parseU32, parseRadix_ok]
      exact ⟨(), trivial, _, hq, _, hl, _, hc, _, ha, rfl⟩
  · intro no line
    refine ⟨noPanic_iff.mp (splitExact_noPanic fun hlen => ?_), False.elim⟩
    obtain ⟨word, q, l, c, a, hsplit⟩ := length_eq_five hlen
    show NoPanic (parseState no line)
    rw [parseState_of_parts hsplit]
    refine (expectKeyword_noPanic _ _ _).bind fun _ => ?_
    iterate 3 refine (parseF32Bits_noPanic _ _ _).bind fun _ => ?_
    exact (parseRadix_noPanic _ _ _ _ _).bind fun _ => NoPanic.ok _

/-- A request's row, once `5 + dimensions` is a usize. -/
def RequestLine (config : FixtureConfig) (line : List Char) (request : RoutingRequest F32Bits) :
    Prop :=
  5 + config.dimensions < 2 ^ 64 ∧
  ∃ taskId k fallbackGeneralistId radiusMaxThreshold vector,
    splitWhitespace line =
      "request".toList :: taskId :: k :: fallbackGeneralistId :: radiusMaxThreshold :: vector ∧
    vector.length = config.dimensions ∧
    fromStrRadix 10 (2 ^ 64) taskId = some request.taskId ∧
    fromStrRadix 10 (2 ^ 64) k = some request.k ∧
    fromStrRadix 10 (2 ^ 32) fallbackGeneralistId = some request.fallbackGeneralistId ∧
    F32Token radiusMaxThreshold request.radiusMaxThreshold ∧
    List.Forall₂ F32Token vector request.vector

theorem parseRequest_of_parts {config : FixtureConfig} {no : Nat} {line word t k f r : List Char}
    {rest : List (List Char)} (hadd : 5 + config.dimensions < 2 ^ 64)
    (h : splitWhitespace line = word :: t :: k :: f :: r :: rest)
    (hlen : rest.length = config.dimensions) : parseRequest config no line = (do
      expectKeyword word "request" no
      let taskId ← parseU64 t no "task_id"
      let k ← parseUsize k no "request k"
      let fallbackGeneralistId ← parseU32 f no "fallback_generalist_id"
      let radiusMaxThreshold ← parseF32Bits r no "radius_max_threshold"
      let vector ← parseF32Vec rest no "request vector"
      return { taskId, vector, k, fallbackGeneralistId, radiusMaxThreshold }) := by
  have hexpected : addUsize 5 config.dimensions = .ok (5 + config.dimensions) := if_pos hadd
  have hparts : splitExact line (5 + config.dimensions) no "request" =
      .ok (word :: t :: k :: f :: r :: rest) :=
    splitExact_ok.mpr ⟨h, by simp only [List.length_cons]; omega⟩
  have hslice : sliceFrom (word :: t :: k :: f :: r :: rest) 5 = .ok rest :=
    if_pos (by simp only [List.length_cons]; omega)
  rw [parseRequest, hexpected]
  show (splitExact line (5 + config.dimensions) no "request" >>= _) = _
  rw [hparts]
  simp only [index, List.getElem?_cons_zero, List.getElem?_cons_succ, hslice, bind, Except.bind]

theorem parseRequest_parses (config : FixtureConfig) :
    Parses Stop.IsPanic (parseRequest config) (RequestLine config)
      fun _ => 2 ^ 64 ≤ 5 + config.dimensions := by
  refine ⟨?_, ?_⟩
  · intro no line request
    refine ⟨?_, ?_⟩
    · intro h
      obtain ⟨expected, hexpected, hrest⟩ := bind_ok_iff.mp h
      obtain ⟨hadd, rfl⟩ := addUsize_ok.mp hexpected
      obtain ⟨word, t, k, f, r, rest, hsplit, hvec⟩ :=
        length_eq_five_add (length_of_splitExact hrest)
      rw [parseRequest_of_parts hadd hsplit hvec] at h
      simp only [bind_ok_iff, expectKeyword_ok, parseU64, parseUsize, parseU32, parseRadix_ok,
        parseF32Bits_ok, parseF32Vec_ok] at h
      obtain ⟨_, rfl, _, ht, _, hk, _, hf, _, hr, _, hvector, hrequest⟩ := h
      obtain rfl := Except.ok.inj hrequest
      exact ⟨hadd, t, k, f, r, rest, hsplit, hvec, ht, hk, hf, hr, hvector⟩
    · intro ⟨hadd, t, k, f, r, rest, hsplit, hvec, ht, hk, hf, hr, hvector⟩
      rw [parseRequest_of_parts hadd hsplit hvec]
      simp only [bind_ok_iff, expectKeyword_ok, parseU64, parseUsize, parseU32, parseRadix_ok,
        parseF32Bits_ok, parseF32Vec_ok]
      exact ⟨(), trivial, _, ht, _, hk, _, hf, _, hr, _, hvector, rfl⟩
  · intro no line
    refine addUsize_fails (x := parseRequest config no line) rfl fun hadd => ?_
    by_cases hlen : (splitWhitespace line).length = 5 + config.dimensions
    · obtain ⟨word, t, k, f, r, rest, hsplit, hvec⟩ := length_eq_five_add hlen
      rw [parseRequest_of_parts hadd hsplit hvec]
      refine (expectKeyword_noPanic _ _ _).bind fun _ => ?_
      iterate 3 refine (parseRadix_noPanic _ _ _ _ _).bind fun _ => ?_
      refine (parseF32Bits_noPanic _ _ _).bind fun _ => ?_
      exact (parseF32Vec_noPanic _ _ _).bind fun _ => NoPanic.ok _
    · rw [parseRequest, addUsize, if_pos hadd]
      exact splitExact_noPanic fun h => absurd h hlen

theorem checkWord_parses (word : List Char) (message : String) :
    Parses Stop.IsPanic (checkWord word message) (fun line _ => trimChars line = word)
      fun _ => False := by
  refine ⟨?_, ?_⟩
  · intro no line u
    rw [checkWord, formatStop, refuse_ok_iff, not_not, and_iff_left rfl]
  · intro no line
    refine ⟨noPanic_iff.mp ?_, False.elim⟩
    rw [checkWord]
    split
    · exact NoPanic.formatStop _ _
    · exact NoPanic.ok ()

end QTom.Golden
