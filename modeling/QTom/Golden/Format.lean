import QTom.Golden.Fixture
import QTom.Lib.LineReader
import QTom.Lib.Numerals

/- The golden fixture format (`golden.rs`): a magic line, the config, and three
   counted sections of rows, closed by `end`. Text is its list of characters.

   Decoding stops with a format error or with a panic. Where the source adds to a
   number of the file, asks for room for a count of the file, or indexes the fields
   of a line, the model does so with the check the running program makes. An
   allocation within the limit of the language is taken to be granted. -/
namespace QTom.Golden
open QTom.Lib QTom.Router

def formatMagic : List Char := "qtom-golden-fixture-v1".toList

/-! Encoding. -/

/-- `{}` of an integer. -/
def decimal (n : Nat) : List Char := Nat.toDigits 10 n

/-- `{:0width x}`. -/
def hex (width n : Nat) : List Char := zeroPad width (Nat.toDigits 16 n)

/-- `{:08x}` of `to_bits`. -/
def f32Hex (x : F32Bits) : List Char := hex 8 x.toNat

def configLine (config : FixtureConfig) : List Char :=
  "config".toList ++ fields [decimal config.agentCount, decimal config.taskCount,
    decimal config.dimensions, decimal config.k, hex 16 config.seed]

def countHeader (keyword : String) (count : Nat) : List Char :=
  keyword.toList ++ fields [decimal count]

def agentLine (agent : AgentProfile F32Bits) : List Char :=
  "agent".toList ++ fields ([decimal agent.id, decimal agent.labels.modelProfile,
    decimal agent.labels.toolProfile, decimal agent.labels.mcpProfile,
    decimal agent.labels.memoryProfile, decimal agent.labels.costClass,
    decimal agent.labels.latencyClass] ++ agent.vector.map f32Hex)

def stateLine (state : AgentRuntimeState F32Bits) : List Char :=
  "state".toList ++ fields [f32Hex state.queueDepthNorm, f32Hex state.latencyNorm,
    f32Hex state.cachePressureNorm, decimal state.availability]

def requestLine (request : RoutingRequest F32Bits) : List Char :=
  "request".toList ++ fields ([decimal request.taskId, decimal request.k,
    decimal request.fallbackGeneralistId, f32Hex request.radiusMaxThreshold] ++
    request.vector.map f32Hex)

/-- The lines of the encoding. -/
def goldenLines (config : FixtureConfig) (fixture : Fixture) : List (List Char) :=
  formatMagic :: configLine config ::
    (countHeader "agents" fixture.agents.length :: fixture.agents.map agentLine ++
      (countHeader "states" fixture.states.length :: fixture.states.map stateLine ++
        (countHeader "requests" fixture.requests.length :: fixture.requests.map requestLine ++
          ["end".toList])))

def encodeGoldenFixture (config : FixtureConfig) (fixture : Fixture) :
    Except GoldenFixtureError (List Char) := do
  validateFixtureShape config fixture
  return (goldenLines config fixture).flatMap (· ++ ['\n'])

/-! What stops the decoder. -/

inductive Panic where
  | addOverflow
  | capacityOverflow
  | indexOutOfBounds
  deriving DecidableEq, Repr

inductive Stop where
  | error (error : GoldenFixtureError)
  | panic (panic : Panic)
  deriving DecidableEq, Repr

/-- The stop is a panic. -/
def Stop.IsPanic (stop : Stop) : Prop := ∃ p, stop = .panic p

def formatStop {α : Type} (line : Nat) (message : String) : Except Stop α :=
  .error (.error (.format line message))

/-- `left + right` of usize. -/
def addUsize (left right : Nat) : Except Stop Nat :=
  if left + right < 2 ^ 64 then .ok (left + right) else .error (.panic .addOverflow)

/-- `Vec::with_capacity(count)` of entries of `size` bytes, at most `isize::MAX` in all. -/
def withCapacity (size count : Nat) : Except Stop Unit :=
  if count * size < 2 ^ 63 then .ok () else .error (.panic .capacityOverflow)

/-- `parts[i]`. -/
def index (parts : List (List Char)) (i : Nat) : Except Stop (List Char) :=
  match parts[i]? with
  | some part => .ok part
  | none => .error (.panic .indexOutOfBounds)

/-- `parts[start..]`. -/
def sliceFrom (parts : List (List Char)) (start : Nat) : Except Stop (List (List Char)) :=
  if start ≤ parts.length then .ok (parts.drop start) else .error (.panic .indexOutOfBounds)

/-! The parts of a line. -/

def splitExact (line : List Char) (expected lineNo : Nat) (context : String) :
    Except Stop (List (List Char)) :=
  let parts := splitWhitespace line
  if parts.length ≠ expected then
    formatStop lineNo s!"{context} expected {expected} fields, got {parts.length}"
  else .ok parts

def expectKeyword (found : List Char) (expected : String) (lineNo : Nat) : Except Stop Unit :=
  if found = expected.toList then .ok ()
  else formatStop lineNo s!"expected keyword {expected}, got {String.ofList found}"

/-- An unsigned integer of `bits` bits. -/
def parseRadix (radix bits : Nat) (token : List Char) (line : Nat) (field : String) :
    Except Stop Nat :=
  match fromStrRadix radix (2 ^ bits) token with
  | some n => .ok n
  | none => formatStop line s!"invalid {field}: {String.ofList token}"

def parseU8 : List Char → Nat → String → Except Stop Nat := parseRadix 10 8
def parseU16 : List Char → Nat → String → Except Stop Nat := parseRadix 10 16
def parseU32 : List Char → Nat → String → Except Stop Nat := parseRadix 10 32
def parseU64 : List Char → Nat → String → Except Stop Nat := parseRadix 10 64
def parseUsize : List Char → Nat → String → Except Stop Nat := parseRadix 10 64
def parseHexU64 : List Char → Nat → String → Except Stop Nat := parseRadix 16 64

def parseF32Bits (token : List Char) (line : Nat) (field : String) : Except Stop F32Bits := do
  let bits ← parseRadix 16 32 token line field
  return BitVec.ofNat 32 bits

def parseF32Vec (tokens : List (List Char)) (line : Nat) (field : String) :
    Except Stop (List F32Bits) :=
  tokens.mapM fun token => parseF32Bits token line field

def parseCountHeader (keyword : String) (lineNo : Nat) (line : List Char) : Except Stop Nat := do
  let parts ← splitExact line 2 lineNo keyword
  expectKeyword (← index parts 0) keyword lineNo
  parseUsize (← index parts 1) lineNo keyword

/-! The lines. -/

/-- The line is a word, but for white space around it. -/
def checkWord (word : List Char) (message : String) (lineNo : Nat) (line : List Char) :
    Except Stop Unit :=
  if trimChars line ≠ word then formatStop lineNo message else .ok ()

def checkMagic : Nat → List Char → Except Stop Unit :=
  checkWord formatMagic s!"expected {String.ofList formatMagic}"

def checkEnd : Nat → List Char → Except Stop Unit :=
  checkWord "end".toList "expected end marker"

def parseConfig (lineNo : Nat) (line : List Char) : Except Stop FixtureConfig := do
  let parts ← splitExact line 6 lineNo "config"
  expectKeyword (← index parts 0) "config" lineNo
  let agentCount ← parseUsize (← index parts 1) lineNo "agent_count"
  let taskCount ← parseUsize (← index parts 2) lineNo "task_count"
  let dimensions ← parseUsize (← index parts 3) lineNo "dimensions"
  let k ← parseUsize (← index parts 4) lineNo "k"
  let seed ← parseHexU64 (← index parts 5) lineNo "seed"
  return { agentCount, taskCount, dimensions, k, seed }

def parseAgent (config : FixtureConfig) (lineNo : Nat) (line : List Char) :
    Except Stop (AgentProfile F32Bits) := do
  let expected ← addUsize 8 config.dimensions
  let parts ← splitExact line expected lineNo "agent"
  expectKeyword (← index parts 0) "agent" lineNo
  let id ← parseU32 (← index parts 1) lineNo "agent id"
  let modelProfile ← parseU16 (← index parts 2) lineNo "model_profile"
  let toolProfile ← parseU16 (← index parts 3) lineNo "tool_profile"
  let mcpProfile ← parseU16 (← index parts 4) lineNo "mcp_profile"
  let memoryProfile ← parseU16 (← index parts 5) lineNo "memory_profile"
  let costClass ← parseU8 (← index parts 6) lineNo "cost_class"
  let latencyClass ← parseU8 (← index parts 7) lineNo "latency_class"
  let vector ← parseF32Vec (← sliceFrom parts 8) lineNo "agent vector"
  return {
    id, vector
    labels :=
      { modelProfile, toolProfile, mcpProfile, memoryProfile, costClass, latencyClass } }

def parseState (lineNo : Nat) (line : List Char) :
    Except Stop (AgentRuntimeState F32Bits) := do
  let parts ← splitExact line 5 lineNo "state"
  expectKeyword (← index parts 0) "state" lineNo
  let queueDepthNorm ← parseF32Bits (← index parts 1) lineNo "queue_depth_norm"
  let latencyNorm ← parseF32Bits (← index parts 2) lineNo "latency_norm"
  let cachePressureNorm ← parseF32Bits (← index parts 3) lineNo "cache_pressure_norm"
  let availability ← parseU32 (← index parts 4) lineNo "availability"
  return { queueDepthNorm, latencyNorm, cachePressureNorm, availability }

def parseRequest (config : FixtureConfig) (lineNo : Nat) (line : List Char) :
    Except Stop (RoutingRequest F32Bits) := do
  let expected ← addUsize 5 config.dimensions
  let parts ← splitExact line expected lineNo "request"
  expectKeyword (← index parts 0) "request" lineNo
  let taskId ← parseU64 (← index parts 1) lineNo "task_id"
  let k ← parseUsize (← index parts 2) lineNo "request k"
  let fallbackGeneralistId ← parseU32 (← index parts 3) lineNo "fallback_generalist_id"
  let radiusMaxThreshold ← parseF32Bits (← index parts 4) lineNo "radius_max_threshold"
  let vector ← parseF32Vec (← sliceFrom parts 5) lineNo "request vector"
  return { taskId, vector, k, fallbackGeneralistId, radiusMaxThreshold }

/-! Decoding. -/

/-- `size_of` of the rows' types, which the language leaves to the compiler. -/
structure RowSizes where
  agentProfile : Nat
  agentRuntimeState : Nat
  routingRequest : Nat

def endOfFile (context : String) (lineNo : Nat) : Stop :=
  .error (.format lineNo s!"expected {context}, reached end of file")

def trailingContent (lineNo : Nat) : Stop := .error (.format lineNo "unexpected trailing content")

/-- A counted section: its header, room for the rows, the rows. -/
def readSection {α : Type} (size : Nat) (keyword header row : String)
    (parse : Nat → List Char → Except Stop α) : LineReader Stop (List α) := do
  let count ← requiredLine (endOfFile header) (parseCountHeader keyword)
  withCapacity size count
  readRows (endOfFile row) parse count

/-- The shape check at the end of decoding. -/
def shapedFixture (config : FixtureConfig) (fixture : Fixture) : Except Stop GoldenFixture :=
  match validateFixtureShape config fixture with
  | .ok () => .ok { config, fixture }
  | .error e => .error (.error e)

def goldenFixtureReader (sizes : RowSizes) : LineReader Stop GoldenFixture := do
  requiredLine (endOfFile "format magic") checkMagic
  let config ← requiredLine (endOfFile "config") parseConfig
  let agents ← readSection sizes.agentProfile "agents" "agents header" "agent" (parseAgent config)
  let states ← readSection sizes.agentRuntimeState "states" "states header" "state" parseState
  let requests ← readSection sizes.routingRequest "requests" "requests header" "request"
    (parseRequest config)
  requiredLine (endOfFile "end marker") checkEnd
  endOfLines trailingContent
  shapedFixture config { agents, states, requests }

def decodeGoldenFixture (sizes : RowSizes) (contents : List Char) : Except Stop GoldenFixture :=
  (goldenFixtureReader sizes (.new contents)).map Prod.fst

end QTom.Golden
