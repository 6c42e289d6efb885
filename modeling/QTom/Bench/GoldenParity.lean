import QTom.Golden.Generated
import QTom.Router.Rosters
import QTom.Router.Sequential

/- The golden fixture commands of the benchmark (`run_write_golden` and
   `run_golden_parity`, `main.rs`), over IEEE arithmetic and routers that may panic. The
   parity command compares two CPU backends with the derived `==`, which no NaN equals
   itself under: over a file of finite vectors with loads between 0 and 1 there is none, and
   if what the routers reserve fits in memory the command passes on every machine
   (`golden_parity_outcome`). What the write command writes is such a file
   (`written_golden_passes`). The file system gives back what was written. -/
namespace QTom.Bench
open QTom.Lib QTom.Router QTom.Golden

/-! The values of bit patterns. -/

def agentOfBits (agent : AgentProfile F32Bits) : AgentProfile Binary32 :=
  ⟨agent.id, agent.vector.map Binary32.ofBits, agent.labels⟩

def stateOfBits (state : AgentRuntimeState F32Bits) : AgentRuntimeState Binary32 :=
  ⟨.ofBits state.queueDepthNorm, .ofBits state.latencyNorm, .ofBits state.cachePressureNorm,
    state.availability⟩

def requestOfBits (request : RoutingRequest F32Bits) : RoutingRequest Binary32 :=
  ⟨request.taskId, request.vector.map Binary32.ofBits, request.k, request.fallbackGeneralistId,
    .ofBits request.radiusMaxThreshold⟩

/-! The parity command. -/

/-- A backend whose routing may panic. -/
structure CheckedBackend where
  name : String
  routeBatch : List (RoutingRequest Binary32) → List (AgentRuntimeState Binary32) →
    Checked (Except RouteError (List (RoutingResult Binary32)))

/-- `CpuWorkerBackend::new`, as a backend. -/
def cpuWorkerBackend (name : String) (agents : List (AgentProfile Binary32)) (workers : Nat) :
    Checked CheckedBackend := do
  let router ← CpuRouter.newChecked agents .default
  return {
    name
    routeBatch := fun requests states =>
      (router.withDebugObserved false).routeBatchWithWorkersChecked requests states workers }

/-- `assert_backend_parity`; the candidate routes once the reference has. -/
def assertBackendParityChecked (reference candidate : CheckedBackend)
    (requests : List (RoutingRequest Binary32)) (states : List (AgentRuntimeState Binary32)) :
    Checked (Except BackendParityError BackendParityReport) := do
  let referenceResults ← reference.routeBatch requests states
  let candidateResults ← (if referenceResults.isOk then candidate.routeBatch requests states
    else .ok referenceResults)
  return assertBackendParity ⟨reference.name, fun _ _ => referenceResults⟩
    ⟨candidate.name, fun _ _ => candidateResults⟩ requests states

/-- Why a command ends in a panic. -/
inductive GoldenPanic where
  | unwritable (error : GoldenFixtureError)
  | unreadable (stop : Stop)
  | otherConfig
  | otherFixture
  | router (kind : PanicKind)
  | parity (error : BackendParityError)

/-- The report `run_golden_parity` prints, for the contents of the file. -/
def runGoldenParity (sizes : RowSizes) (availableParallelism : Option Nat) (contents : List Char) :
    Except GoldenPanic BackendParityReport := do
  let golden ← (decodeGoldenFixture sizes contents).mapError .unreadable
  let workers := min (max (availableParallelism.getD 1) 1) (max golden.config.taskCount 1)
  let agents := golden.fixture.agents.map agentOfBits
  let reference ← (cpuWorkerBackend "cpu-sequential" agents 1).mapError .router
  let candidate ← (cpuWorkerBackend "cpu-parallel" agents workers).mapError .router
  let outcome ← (assertBackendParityChecked reference candidate
    (golden.fixture.requests.map requestOfBits) (golden.fixture.states.map stateOfBits)).mapError
      .router
  outcome.mapError .parity

/-! The write command. -/

/-- `==` of two f32. -/
def bitsEq (left right : F32Bits) : Bool :=
  (Binary32.ofBits left).eq (Binary32.ofBits right)

def agentEq (left right : AgentProfile F32Bits) : Bool :=
  left.id == right.id && listsMatch bitsEq left.vector right.vector && left.labels == right.labels

def stateEq (left right : AgentRuntimeState F32Bits) : Bool :=
  bitsEq left.queueDepthNorm right.queueDepthNorm && bitsEq left.latencyNorm right.latencyNorm &&
    bitsEq left.cachePressureNorm right.cachePressureNorm && left.availability == right.availability

def requestEq (left right : RoutingRequest F32Bits) : Bool :=
  left.taskId == right.taskId && listsMatch bitsEq left.vector right.vector && left.k == right.k &&
    left.fallbackGeneralistId == right.fallbackGeneralistId &&
    bitsEq left.radiusMaxThreshold right.radiusMaxThreshold

/-- The derived `==` of fixtures. -/
def fixtureEq (left right : Fixture) : Bool :=
  listsMatch agentEq left.agents right.agents && listsMatch stateEq left.states right.states &&
    listsMatch requestEq left.requests right.requests

/-- The contents `run_write_golden` leaves in the file, for a config. -/
def runWriteGolden (sizes : RowSizes) (config : FixtureConfig) : Except GoldenPanic (List Char) := do
  let fixture := generateFixture ieee config
  let contents ← (encodeGoldenFixture config fixture).mapError .unwritable
  let loaded ← (decodeGoldenFixture sizes contents).mapError .unreadable
  if loaded.config ≠ config then .error .otherConfig
  else if !fixtureEq loaded.fixture fixture then .error .otherFixture
  else .ok contents

/-! Numbers. -/

section Numeric
variable {fixture : Fixture} (h : fixture.Numeric)
include h

theorem agents_finite {agent : AgentProfile Binary32} (hagent : agent ∈ fixture.agents.map agentOfBits) :
    ∀ x ∈ agent.vector, x.isFinite = true := by
  obtain ⟨written, hwritten, rfl⟩ := List.mem_map.mp hagent
  intro x hx
  obtain ⟨bits, hbits, rfl⟩ := List.mem_map.mp hx
  exact h.agents written hwritten bits hbits

theorem requests_finite {request : RoutingRequest Binary32}
    (hrequest : request ∈ fixture.requests.map requestOfBits) :
    ∀ x ∈ request.vector, x.isFinite = true := by
  obtain ⟨written, hwritten, rfl⟩ := List.mem_map.mp hrequest
  intro x hx
  obtain ⟨bits, hbits, rfl⟩ := List.mem_map.mp hx
  exact h.requests written hwritten bits hbits

theorem states_bounded {state : AgentRuntimeState Binary32}
    (hstate : state ∈ fixture.states.map stateOfBits) : state.Bounded .default := by
  obtain ⟨written, hwritten, rfl⟩ := List.mem_map.mp hstate
  obtain ⟨hqueue, hlatency, hcache⟩ := h.states written hwritten
  exact bounded_of_inUnit hqueue hlatency hcache

end Numeric

/-- Every score a request is returned is a number. -/
theorem routed_numbers {agents : List (AgentProfile Binary32)}
    {states : List (AgentRuntimeState Binary32)} {request : RoutingRequest Binary32} {d : Nat}
    (huniform : AgentRouteTable.Uniform d agents) (hdimension : request.vector.length = d)
    (hpaired : states.length = agents.length)
    (hagents : ∀ agent ∈ agents, ∀ x ∈ agent.vector, x.isFinite = true)
    (hrequest : ∀ x ∈ request.vector, x.isFinite = true)
    (hstates : ∀ state ∈ states, state.Bounded .default) {result : RoutingResult Binary32}
    (hresult : ((CpuRouter.new agents .default).withDebugObserved false).routeOneValidated request
      (batchOf huniform hpaired) = .ok result) : routingResultEq result result = true := by
  obtain ⟨hdebug, hmem⟩ := routed_candidates rfl hresult
  rw [routingResultEq_self hdebug]
  intro c hc
  rcases hmem c hc with hscored | rfl
  · have hcandidates := candidates_batchOf huniform hpaired request ScoreCoefficients.default
    obtain ⟨agent, hagent, state, hstate, rfl⟩ := mem_scoredAgents (hcandidates ▸ hscored)
    exact scored_numbers agent.id (hdimension.trans (huniform agent hagent).symm) hrequest (hagents agent hagent) default_bounded
      (hstates state hstate)
  · exact fallback_numbers _

/-! The commands. -/

section Shaped
variable {config : FixtureConfig} {fixture : Fixture} (h : fixture.Shaped config)
include h

theorem shaped_uniform :
    AgentRouteTable.Uniform config.dimensions (fixture.agents.map agentOfBits) := by
  intro agent hagent
  obtain ⟨written, hwritten, rfl⟩ := List.mem_map.mp hagent
  exact (List.length_map _).trans (h.agentVectors written hwritten)

theorem shaped_dimension : ∀ request ∈ fixture.requests.map requestOfBits,
    request.vector.length = config.dimensions := by
  intro request hrequest
  obtain ⟨written, hwritten, rfl⟩ := List.mem_map.mp hrequest
  exact (List.length_map _).trans (h.requestVectors written hwritten)

theorem shaped_paired :
    (fixture.states.map stateOfBits).length = (fixture.agents.map agentOfBits).length := by
  rw [List.length_map, List.length_map, h.states, h.agents]

end Shaped

/-- Two backends that route alike, if what they route to equals itself. -/
theorem parity_of_same {reference candidate : RouterBackend}
    {requests : List (RoutingRequest Binary32)} {states : List (AgentRuntimeState Binary32)}
    {results : List (RoutingResult Binary32)}
    (hreference : reference.routeBatch requests states = .ok results)
    (hcandidate : candidate.routeBatch requests states = .ok results)
    (hself : ∀ result ∈ results, routingResultEq result result = true) :
    assertBackendParity reference candidate requests states =
      .ok (parityReport reference candidate results) := by
  unfold assertBackendParity assertParityBy
  rw [hreference, hcandidate]
  dsimp only
  rw [listsMatch_self.mpr hself]
  rfl

/-- Two backends that return the same are compared over it. -/
theorem parity_checked {reference candidate : CheckedBackend}
    {requests : List (RoutingRequest Binary32)} {states : List (AgentRuntimeState Binary32)}
    {v : Except RouteError (List (RoutingResult Binary32))}
    (hreference : reference.routeBatch requests states = .ok v)
    (hcandidate : candidate.routeBatch requests states = .ok v) :
    assertBackendParityChecked reference candidate requests states =
      .ok (assertBackendParity ⟨reference.name, fun _ _ => v⟩ ⟨candidate.name, fun _ _ => v⟩
        requests states) := by
  unfold assertBackendParityChecked
  rw [hreference, Checked.ok_bind, hcandidate]
  cases v <;> rfl

/-- What the routers of the parity command reserve fits in memory. -/
structure Routable (fixture : Fixture) : Prop where
  table : AgentRouteTable.Reservable (fixture.agents.map agentOfBits)
  results : fixture.requests.length * routingResultSize < 2 ^ 63
  requests : ∀ request ∈ fixture.requests, CapacityFits request.k

/-- The router of the parity command. -/
def goldenRouter (fixture : Fixture) : CpuRouter Binary32 :=
  (CpuRouter.new (fixture.agents.map agentOfBits) .default).withDebugObserved false

/-- The decoded fixture, routed by one worker: every result is of numbers. -/
theorem fixture_routed {config : FixtureConfig} {fixture : Fixture} (hshaped : fixture.Shaped config)
    (hnumeric : fixture.Numeric) (hagents : config.taskCount = 0 ∨ 0 < config.agentCount)
    (workers : Nat) : ∃ results,
      (goldenRouter fixture).routeBatchWithWorkers (fixture.requests.map requestOfBits)
        (fixture.states.map stateOfBits) workers = .ok results ∧
      results.length = config.taskCount ∧
      ∀ result ∈ results, routingResultEq result result = true := by
  by_cases hrequests : fixture.requests = []
  · refine ⟨[], ?_, ?_, fun _ h => absurd h List.not_mem_nil⟩
    · rw [hrequests]
      rfl
    · rw [← hshaped.requests, hrequests]
      rfl
  · have huniform := shaped_uniform hshaped
    have hdimension := shaped_dimension hshaped
    have hpaired := shaped_paired hshaped
    have hne : fixture.agents.map agentOfBits ≠ [] := by
      intro hnil
      have hcount := hshaped.agents
      rw [List.map_eq_nil_iff.mp hnil, List.length_nil] at hcount
      have htasks := hshaped.requests
      have hpos := List.length_pos_iff.mpr hrequests
      omega
    have hvalid := validateBatch_uniform huniform hne hpaired hdimension .default false
    choose result hresult using fun request => routeOneValidated_ok
      ((CpuRouter.new (fixture.agents.map agentOfBits) .default).withDebugObserved false) request
      (batchOf huniform hpaired)
    refine ⟨(fixture.requests.map requestOfBits).map result, ?_, ?_, ?_⟩
    · exact (routeBatchWithWorkers_validated hvalid workers).trans
        (mapM_ok fun request _ => hresult request)
    · rw [List.length_map, List.length_map, hshaped.requests]
    · intro routed hrouted
      obtain ⟨request, hrequest, rfl⟩ := List.mem_map.mp hrouted
      exact routed_numbers huniform (hdimension request hrequest) hpaired (fun agent => agents_finite hnumeric)
        (requests_finite hnumeric hrequest) (fun state => states_bounded hnumeric) (hresult request)

section Decoded
variable {sizes : RowSizes} {contents : List Char} {golden : GoldenFixture}
  (hdecoded : decodeGoldenFixture sizes contents = .ok golden)
include hdecoded

/-- Once one worker has routed the fixture, so do the others, and the results are compared. -/
theorem runGoldenParity_routed
    (htable : AgentRouteTable.Reservable (golden.fixture.agents.map agentOfBits))
    (hresults : golden.fixture.requests.length * routingResultSize < 2 ^ 63)
    {v : Except RouteError (List (RoutingResult Binary32))}
    (hv : (goldenRouter golden.fixture).routeBatchWithWorkersChecked
      (golden.fixture.requests.map requestOfBits) (golden.fixture.states.map stateOfBits) 1 = .ok v)
    (parallelism : Option Nat) : runGoldenParity sizes parallelism contents =
      (assertBackendParity ⟨"cpu-sequential", fun _ _ => v⟩ ⟨"cpu-parallel", fun _ _ => v⟩
        (golden.fixture.requests.map requestOfBits)
        (golden.fixture.states.map stateOfBits)).mapError .parity := by
  have hmem : (goldenRouter golden.fixture).InMemory :=
    CpuRouter.inMemory_of_agents htable .default false
  have hcount : (golden.fixture.requests.map requestOfBits).length * routingResultSize < 2 ^ 63 := by
    rw [List.length_map]
    exact hresults
  unfold runGoldenParity
  rw [hdecoded]
  show (do
    let reference ← (cpuWorkerBackend _ _ 1).mapError GoldenPanic.router
    let candidate ← (cpuWorkerBackend _ _ _).mapError GoldenPanic.router
    let outcome ← (assertBackendParityChecked reference candidate _ _).mapError GoldenPanic.router
    outcome.mapError GoldenPanic.parity) = _
  unfold cpuWorkerBackend
  rw [(CpuRouter.newChecked_returns _ _).1 htable]
  show (do
    let outcome ← (assertBackendParityChecked ⟨_, _⟩ ⟨_, _⟩ _ _).mapError GoldenPanic.router
    outcome.mapError GoldenPanic.parity) = _
  rw [parity_checked hv (CpuRouter.routeBatchChecked_workers hmem hcount hv _)]
  rfl

theorem parity_of_decoded (hnumeric : golden.fixture.Numeric) (hfits : Routable golden.fixture)
    (hagents : golden.config.taskCount = 0 ∨ 0 < golden.config.agentCount) :
    ∃ report, report.routes = golden.config.taskCount ∧
      ∀ parallelism, runGoldenParity sizes parallelism contents = .ok report := by
  obtain ⟨_, _, _, _, _, _, _, _, _, hshaped⟩ := decodeGoldenFixture_ok_iff.mp hdecoded
  obtain ⟨results, hresults, hlength, hself⟩ := fixture_routed hshaped hnumeric hagents 1
  have hk : ∀ request ∈ golden.fixture.requests.map requestOfBits, CapacityFits request.k := by
    intro request hrequest
    obtain ⟨written, hwritten, rfl⟩ := List.mem_map.mp hrequest
    exact hfits.requests written hwritten
  have hrouted : (goldenRouter golden.fixture).routeBatchWithWorkersChecked
      (golden.fixture.requests.map requestOfBits) (golden.fixture.states.map stateOfBits) 1 =
      .ok (.ok results) := by
    rw [← hresults]
    exact CpuRouter.routeBatchChecked_ok (CpuRouter.inMemory_of_agents hfits.table _ _) hk
      (by rw [List.length_map]; exact hfits.results) 1
  let reference : RouterBackend := ⟨"cpu-sequential", fun _ _ => .ok results⟩
  let candidate : RouterBackend := ⟨"cpu-parallel", fun _ _ => .ok results⟩
  have hparity : assertBackendParity reference candidate (golden.fixture.requests.map requestOfBits)
      (golden.fixture.states.map stateOfBits) = .ok (parityReport reference candidate results) :=
    parity_of_same rfl rfl hself
  refine ⟨parityReport reference candidate results, hlength, ?_⟩
  intro parallelism
  rw [runGoldenParity_routed hdecoded hfits.table hfits.results hrouted]
  exact congrArg (Except.mapError GoldenPanic.parity) hparity

end Decoded

/-- A fixture of numbers equals itself. -/
theorem fixtureEq_self {fixture : Fixture} (h : fixture.Numeric)
    (hradius : ∀ request ∈ fixture.requests,
      (Binary32.ofBits request.radiusMaxThreshold).isNan = false) :
    fixtureEq fixture fixture = true := by
  have hfinite : ∀ {x : Binary32}, x.isFinite = true → x.eq x = true := fun hx =>
    BinaryFloat.eq_self.mpr (BinaryFloat.within_of_isFinite hx).isNan
  unfold fixtureEq
  rw [Bool.and_eq_true, Bool.and_eq_true, listsMatch_self, listsMatch_self, listsMatch_self]
  refine ⟨⟨?_, ?_⟩, ?_⟩
  · intro agent hagent
    simp only [agentEq, beq_self_eq_true, Bool.true_and, Bool.and_true, listsMatch_self]
    exact fun x hx => hfinite (h.agents agent hagent x hx)
  · intro state hstate
    obtain ⟨hqueue, hlatency, hcache⟩ := h.states state hstate
    simp only [stateEq, beq_self_eq_true, Bool.and_true, Bool.and_eq_true]
    exact ⟨⟨hfinite hqueue.within.isFinite, hfinite hlatency.within.isFinite⟩,
      hfinite hcache.within.isFinite⟩
  · intro request hrequest
    simp only [requestEq, beq_self_eq_true, Bool.true_and, Bool.and_true, Bool.and_eq_true,
      listsMatch_self]
    exact ⟨fun x hx => hfinite (h.requests request hrequest x hx),
      BinaryFloat.eq_self.mpr (hradius request hrequest)⟩

/-- What is written is read back, and equals what was generated. -/
theorem runWriteGolden_eq {sizes : RowSizes} {config : FixtureConfig} (hconfig : ConfigTyped config)
    (hfits : config.Fits sizes) : ∃ contents, runWriteGolden sizes config = .ok contents ∧
      decodeGoldenFixture sizes contents = .ok ⟨config, generateFixture ieee config⟩ := by
  have hvalid := validateFixtureShape_ok_iff.mpr (generateFixture_shaped ieee config)
  obtain ⟨contents, hencoded, hdecoded⟩ :=
    decode_encode hconfig (generateFixture_typed ieee hconfig hfits) hvalid
  have hradius : ∀ request ∈ (generateFixture ieee config).requests,
      (Binary32.ofBits request.radiusMaxThreshold).isNan = false := by
    intro request hrequest
    rw [generateFixture_radius ieee config request hrequest]
    decide +kernel
  have hsame := fixtureEq_self (generateFixture_numeric config) hradius
  refine ⟨contents, ?_, hdecoded⟩
  unfold runWriteGolden
  dsimp only
  rw [hencoded]
  show (do
    let loaded ← (decodeGoldenFixture sizes contents).mapError GoldenPanic.unreadable
    _) = _
  rw [hdecoded]
  show (if config ≠ config then _ else if !fixtureEq _ _ then _ else _) = _
  rw [if_neg (not_not.mpr rfl), hsame]
  rfl

/-- What the routers over a generated fixture reserve fits in memory. -/
structure RoutableConfig (config : FixtureConfig) : Prop where
  agentIds : config.agentCount * 4 < 2 ^ 63
  vectors : config.agentCount * config.dimensions * 4 < 2 ^ 63
  results : config.taskCount * routingResultSize < 2 ^ 63
  requests : CapacityFits config.k

theorem generated_reservable {config : FixtureConfig} (hids : config.agentCount * 4 < 2 ^ 63)
    (hvectors : config.agentCount * config.dimensions * 4 < 2 ^ 63) :
    AgentRouteTable.Reservable ((generateFixture ieee config).agents.map agentOfBits) := by
  have hshaped := generateFixture_shaped ieee config
  intro first hfirst
  rw [List.length_map, hshaped.agents,
    shaped_uniform hshaped first (List.mem_of_mem_head? hfirst)]
  exact ⟨hids, hvectors⟩

theorem RoutableConfig.routable {config : FixtureConfig} (h : RoutableConfig config) :
    Routable (generateFixture ieee config) := by
  refine ⟨generated_reservable h.agentIds h.vectors, ?_, ?_⟩
  · rw [(generateFixture_shaped ieee config).requests]
    exact h.results
  · intro request hrequest
    rw [generateFixture_k ieee config request hrequest]
    exact h.requests

/-- Whatever config of at least one agent it is given, as far as its Vecs and the routers'
reservations fit in memory, the write command passes its own checks, and on every machine
the parity command passes over what it wrote. -/
theorem written_golden_passes {sizes : RowSizes} {config : FixtureConfig}
    (hconfig : ConfigTyped config) (hfits : config.Fits sizes) (hroutable : RoutableConfig config)
    (hagents : config.taskCount = 0 ∨ 0 < config.agentCount) :
    ∃ contents, runWriteGolden sizes config = .ok contents ∧
      ∃ report, report.routes = config.taskCount ∧
        ∀ parallelism, runGoldenParity sizes parallelism contents = .ok report := by
  obtain ⟨contents, hwritten, hdecoded⟩ := runWriteGolden_eq hconfig hfits
  exact ⟨contents, hwritten, parity_of_decoded hdecoded (generateFixture_numeric config)
    hroutable.routable hagents⟩

def scenarioSeed (agentCount k : Nat) : Nat := (0x51544f4d ^^^ agentCount <<< 8 % 2 ^ 64) ^^^ k

def goldenFixtureConfig : FixtureConfig where
  agentCount := 8192
  taskCount := 2048
  dimensions := 16
  k := 8
  seed := scenarioSeed 8192 8

def cudaGoldenFixtureConfig : FixtureConfig where
  agentCount := 8192
  taskCount := 2048
  dimensions := 16
  k := 1
  seed := scenarioSeed 8192 1

/-- Both configurations of the write commands pass. -/
theorem written_golden_passes_shipped :
    (∃ contents, runWriteGolden ⟨40, 16, 48⟩ goldenFixtureConfig = .ok contents ∧
      ∃ report, report.routes = 2048 ∧
        ∀ parallelism, runGoldenParity ⟨40, 16, 48⟩ parallelism contents = .ok report) ∧
    ∃ contents, runWriteGolden ⟨40, 16, 48⟩ cudaGoldenFixtureConfig = .ok contents ∧
      ∃ report, report.routes = 2048 ∧
        ∀ parallelism, runGoldenParity ⟨40, 16, 48⟩ parallelism contents = .ok report := by
  refine ⟨?_, ?_⟩
  · exact written_golden_passes ⟨by decide, by decide, by decide, by decide, by decide⟩
      ⟨by decide, by decide, by decide, by decide⟩
      ⟨by decide, by decide, by decide, Or.inl (by decide)⟩ (Or.inr (by decide))
  · exact written_golden_passes ⟨by decide, by decide, by decide, by decide, by decide⟩
      ⟨by decide, by decide, by decide, by decide⟩
      ⟨by decide, by decide, by decide, Or.inl (by decide)⟩ (Or.inr (by decide))

end QTom.Bench
