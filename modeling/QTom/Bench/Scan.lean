import QTom.Bench.GoldenParity

/- The scan and route profiles of the benchmark (`run_aos_scan_profile`,
   `run_packed_scan_profile` and `run_route_profile`, `main.rs`), without their clocks. A scan
   keeps the first agent that is nearer than all before it. Over the packed table it is the
   scan over the agents, whatever the distance (`packedScan_eq`); with the blocked distance
   it finds the agent the router observes first. Over a generated fixture no profile panics
   as far as what the table and the router reserve fits in memory (`profiles_agree`). -/
namespace QTom.Bench
open QTom.Lib QTom.Router QTom.Golden

section Model
variable {F : Type} [F32 F]

/-- `best_agent` and `best_distance` of a scan. -/
structure Best (F : Type) where
  bestAgent : Nat
  bestDistance : F

def Best.new : Best F := ⟨0, F32.infinity⟩

/-- One turn of a scan. -/
def Best.visit (best : Best F) (agentId : Nat) (distance : F) : Best F :=
  if F32.lt distance best.bestDistance then ⟨agentId, distance⟩ else best

/-- The inner loop of `run_aos_scan_profile`. -/
def aosScan (distance : List F → List F → F) (agents : List (AgentProfile F))
    (request : RoutingRequest F) : Best F :=
  agents.foldl (fun best agent => best.visit agent.id (distance request.vector agent.vector)) .new

/-- The inner loops of `run_packed_scan_profile`. -/
def packedScan (distance : List F → List F → F) (table : AgentRouteTable F)
    (request : RoutingRequest F) : Best F :=
  if table.dimensions = 0 then
    (List.finRange table.len).foldl (fun best index =>
      best.visit (table.agentId index) (distance request.vector (table.vector index))) .new
  else
    (table.agentIds.zip (chunksExact table.dimensions table.packedVectors)).foldl (fun best row =>
      best.visit row.1 (distance request.vector row.2)) .new

end Model

/-! The profiles. -/

theorem precision64_pos : 0 < 53 := Nat.succ_pos 52

/-- `checksum`, from 0.0. -/
def scanChecksum (bests : List (Best Binary32)) : Binary64 :=
  bests.foldl (fun checksum best => .add precision64_pos checksum
    (.add precision64_pos (Binary32.toF64 best.bestDistance) (f64OfU32 best.bestAgent)))
    (.zero 53 2045)

/-- The rows of a generated fixture. -/
def fixtureAgents (config : FixtureConfig) : List (AgentProfile Binary32) :=
  (generateFixture ieee config).agents.map agentOfBits

def fixtureStates (config : FixtureConfig) : List (AgentRuntimeState Binary32) :=
  (generateFixture ieee config).states.map stateOfBits

def fixtureRequests (config : FixtureConfig) : List (RoutingRequest Binary32) :=
  (generateFixture ieee config).requests.map requestOfBits

/-- Why a profile ends in a panic. -/
inductive ProfilePanic where
  | router (kind : PanicKind)
  | invalid (error : RouteError)
  | noCandidates
  deriving DecidableEq, Repr

def runAosScanProfile (distance : List Binary32 → List Binary32 → Binary32)
    (config : FixtureConfig) : Binary64 :=
  scanChecksum ((fixtureRequests config).map (aosScan distance (fixtureAgents config)))

def runPackedScanProfile (distance : List Binary32 → List Binary32 → Binary32)
    (config : FixtureConfig) : Except ProfilePanic Binary64 := do
  let packed ← (AgentRouteTable.fromAgentSliceChecked (fixtureAgents config)).mapError .router
  let table ← packed.mapError .invalid
  return scanChecksum ((fixtureRequests config).map (packedScan distance table))

/-- The agent a route profile counts for a request. -/
def routeSelected (router : CpuRouter Binary32) (states : List (AgentRuntimeState Binary32))
    (request : RoutingRequest Binary32) : Except ProfilePanic (Best Binary32) := do
  let routed ← (router.routeOneChecked request states).mapError .router
  let result ← routed.mapError .invalid
  match result.availableCandidates.head? with
  | some selected => .ok ⟨selected.agentId, selected.baseDistance⟩
  | none => .error .noCandidates

def runRouteProfile (config : FixtureConfig) : Except ProfilePanic Binary64 := do
  let router ← (CpuRouter.newChecked (fixtureAgents config) .default).mapError .router
  let selected ← (fixtureRequests config).mapM (routeSelected router (fixtureStates config))
  return scanChecksum selected

/-! The packed table. -/

section Packed
variable {F : Type}

/-- The rows of a packed table, read by their indexes. -/
theorem packed_rows {agents : List (AgentProfile F)} {table : AgentRouteTable F}
    (h : table.Packs agents) :
    (List.finRange table.len).map (fun index => (table.agentId index, table.vector index)) =
      agents.map fun agent => (agent.id, agent.vector) := by
  apply List.ext_getElem
  · rw [List.length_map, List.length_map, List.length_finRange, h.len]
  · intro i hi hi'
    rw [List.length_map] at hi'
    obtain ⟨hid, hvector⟩ := h.rows ⟨i, by rw [h.len]; exact hi'⟩ agents[i]
      (List.getElem?_eq_getElem hi')
    rw [List.getElem_map, List.getElem_map, List.getElem_finRange]
    exact congrArg₂ Prod.mk hid hvector

theorem packed_ids {agents : List (AgentProfile F)} {table : AgentRouteTable F}
    (h : table.Packs agents) : table.agentIds = agents.map AgentProfile.id := by
  calc table.agentIds = (List.finRange table.len).map table.agentId :=
        (List.map_get_finRange table.agentIds).symm
    _ = ((List.finRange table.len).map fun index =>
          (table.agentId index, table.vector index)).map Prod.fst := by rw [List.map_map]; rfl
    _ = agents.map AgentProfile.id := by rw [packed_rows h, List.map_map]; rfl

variable [F32 F]

/-- A scan of the packed table visits the agents' ids and vectors in their order. -/
theorem packedScan_eq {agents : List (AgentProfile F)} {table : AgentRouteTable F}
    (h : table.Packs agents) (distance : List F → List F → F) (request : RoutingRequest F) :
    packedScan distance table request = aosScan distance agents request := by
  have hrows : aosScan distance agents request =
      (agents.map fun agent => (agent.id, agent.vector)).foldl (fun best row =>
        best.visit row.1 (distance request.vector row.2)) .new := by
    rw [List.foldl_map]
    rfl
  unfold packedScan
  split
  · rw [hrows, ← packed_rows h, List.foldl_map]
  · rename_i hdimensions
    rw [hrows, packed_ids h, h.chunks hdimensions, List.zip_map']

end Packed

/-! The nearest agent. -/

section Nearest
variable {F : Type} [F32 F]

/-- What a scan keeps of a candidate. -/
def bestOf (c : RouteCandidate F) : Best F := ⟨c.agentId, c.baseDistance⟩

theorem aosScan_eq {agents : List (AgentProfile F)} {states : List (AgentRuntimeState F)}
    (hstates : states.length = agents.length) (request : RoutingRequest F)
    (coefficients : ScoreCoefficients F) : aosScan distSqBlocked agents request =
      (scoredAgents agents states request coefficients).foldl (fun best c =>
        best.visit c.agentId c.baseDistance) .new := by
  unfold aosScan scoredAgents
  generalize (Best.new : Best F) = best
  induction agents generalizing states best with
  | nil => rfl
  | cons agent agents ih =>
    cases states with
    | nil => cases hstates
    | cons state states => exact ih (Nat.succ.inj hstates) _

/-- Distances that `<` orders as the total order does, none above infinity. -/
structure Comparable (scored : List (RouteCandidate F)) : Prop where
  lt : ∀ a ∈ scored, ∀ b ∈ scored, F32.lt a.baseDistance b.baseDistance =
    (F32.totalCmp a.baseDistance b.baseDistance).isLT
  below : ∀ a ∈ scored, F32.lt a.baseDistance F32.infinity = true ∨ a.baseDistance = F32.infinity

variable {scored : List (RouteCandidate F)}

/-- Past its first agent a scan keeps the better of two. -/
theorem foldl_visit (h : Comparable scored) {rest : List (RouteCandidate F)}
    (hrest : rest ⊆ scored) {c : RouteCandidate F} (hc : c ∈ scored) :
    some (rest.foldl (fun best c => best.visit c.agentId c.baseDistance) (bestOf c)) =
      (rest.foldl (keepBetter fun a b => F32.totalCmp a.baseDistance b.baseDistance)
        (some c)).map bestOf := by
  induction rest generalizing c with
  | nil => rfl
  | cons d rest ih =>
    obtain ⟨hd, hrest'⟩ := List.cons_subset.mp hrest
    have hstep : (bestOf c).visit d.agentId d.baseDistance =
        bestOf (if (F32.totalCmp d.baseDistance c.baseDistance).isLT then d else c) := by
      show (if F32.lt d.baseDistance c.baseDistance then _ else _) = _
      rw [h.lt d hd c hc]
      split <;> rfl
    rw [List.foldl_cons, List.foldl_cons, hstep]
    show _ = (rest.foldl _ (if (F32.totalCmp d.baseDistance c.baseDistance).isLT then some d
      else some c)).map bestOf
    by_cases hlt : (F32.totalCmp d.baseDistance c.baseDistance).isLT
    · rw [if_pos hlt, if_pos hlt]
      exact ih hrest' hd
    · rw [if_neg hlt, if_neg hlt]
      exact ih hrest' hc

/-- The first agent is kept from the start, also at distance infinity where its id is 0. -/
theorem visit_first (h : Comparable scored) {c : RouteCandidate F} (hc : c ∈ scored)
    (hid : c.agentId = 0) : Best.new.visit c.agentId c.baseDistance = bestOf c := by
  unfold Best.visit bestOf
  rcases h.below c hc with hlt | heq
  · exact if_pos hlt
  · rw [hid, heq]
    split <;> rfl

variable [Std.TransCmp (F32.totalCmp (F := F))]

/-- Over agents numbered upwards from 0 a scan finds the first observed candidate. -/
theorem scan_observed (h : Comparable scored)
    (hids : (scored.map RouteCandidate.agentId).Pairwise (· < ·))
    (hzero : (scored.map RouteCandidate.agentId).head? = some 0) {k : Nat} (hk : 0 < k) :
    ∃ first ∈ scored, (topOf .observed k scored).head? = some first ∧
      (∀ c ∈ scored, (F32.totalCmp first.baseDistance c.baseDistance).isLE = true) ∧
      scored.foldl (fun best c => best.visit c.agentId c.baseDistance) .new = bestOf first := by
  have _ := transCmp_comap (F32.totalCmp (F := F)) (RouteCandidate.baseDistance (F := F))
  cases scored with
  | nil => cases hzero
  | cons c rest =>
    have hc : c ∈ c :: rest := List.mem_cons_self
    obtain ⟨first, hkept, hleast⟩ := foldl_keepBetter (fun a b : RouteCandidate F =>
      F32.totalCmp a.baseDistance b.baseDistance) (List.cons_ne_nil c rest)
    have hscan := foldl_visit h (List.subset_cons_self c rest) hc
    have hkept' : rest.foldl (keepBetter fun a b : RouteCandidate F =>
        F32.totalCmp a.baseDistance b.baseDistance) (some c) = some first := hkept
    rw [hkept'] at hscan
    have hnodup : ((c :: rest).map RouteCandidate.agentId).Nodup := hids.imp Nat.ne_of_lt
    have hdistinct : Distinct (c :: rest) :=
      fun a ha b hb heq => List.inj_on_of_nodup_map hnodup ha hb heq
    refine ⟨first, hleast.mem, ?_, hleast.least, ?_⟩
    · rw [head?_topOf (Nat.pos_iff_ne_zero.mp hk), head?_sortBy_iff (hdistinct.inj .observed)]
      refine ⟨hleast.mem, ?_⟩
      obtain ⟨before, after, hsplit, hbefore, hafter⟩ := hleast
      rw [hsplit, List.map_append, List.map_cons] at hids
      obtain ⟨hlater, _⟩ := List.pairwise_cons.mp (List.pairwise_append.mp hids).2.1
      intro d hd
      show ((F32.totalCmp first.baseDistance d.baseDistance).then
        (compare first.agentId d.agentId)).isLE = true
      rw [hsplit] at hd
      rcases List.mem_append.mp hd with hd | hd
      · have hlt : F32.totalCmp first.baseDistance d.baseDistance = .lt := hbefore d hd
        rw [hlt]
        rfl
      · -- a later agent ties at most, and has a greater id
        have hid : first.agentId ≤ d.agentId := by
          rcases List.mem_cons.mp hd with rfl | hd
          · exact Nat.le_refl _
          · exact Nat.le_of_lt (hlater _ (List.mem_map_of_mem hd))
        have hle : (F32.totalCmp first.baseDistance d.baseDistance).isLE = true := by
          rcases List.mem_cons.mp hd with rfl | hd
          · exact isLE_self (F32.totalCmp (F := F)) _
          · exact hafter d hd
        cases hcmp : F32.totalCmp first.baseDistance d.baseDistance with
        | lt => rfl
        | eq => exact Nat.isLE_compare.mpr hid
        | gt =>
          rw [hcmp] at hle
          cases hle
    · rw [List.foldl_cons, visit_first h hc (Option.some.inj hzero)]
      exact Option.some.inj hscan

end Nearest

/-! Generated fixtures. -/

/-- Distances without a sign. -/
theorem comparable_of_unsigned {scored : List (RouteCandidate Binary32)}
    (h : ∀ c ∈ scored, c.baseDistance.Unsigned) : Comparable scored := by
  refine ⟨?_, ?_⟩
  · intro a ha b hb
    show a.baseDistance.lt b.baseDistance =
      (compare a.baseDistance.orderKey b.baseDistance.orderKey).isLT
    unfold BinaryFloat.lt
    rw [(h a ha).rank_eq, (h b hb).rank_eq, Bool.eq_iff_iff, Ordering.isLT_iff_eq_lt,
      Int.compare_eq_lt]
    exact decide_eq_true_iff
  · intro a ha
    exact BinaryFloat.lt_infinite (h a ha)

section Fixture
variable (config : FixtureConfig)

theorem fixture_uniform : AgentRouteTable.Uniform config.dimensions (fixtureAgents config) :=
  shaped_uniform (generateFixture_shaped ieee config)

theorem fixture_agents_ne (hagents : 0 < config.agentCount) : fixtureAgents config ≠ [] := by
  have hcount := (generateFixture_shaped ieee config).agents
  rw [Ne, fixtureAgents, List.map_eq_nil_iff, ← List.length_eq_zero_iff, hcount]
  exact Nat.pos_iff_ne_zero.mp hagents

/-- The distances from a request of the fixture to its agents. -/
theorem fixture_unsigned {request : RoutingRequest Binary32}
    (hrequest : request ∈ fixtureRequests config) : ∀ c ∈ scoredAgents (fixtureAgents config)
      (fixtureStates config) request ScoreCoefficients.default, c.baseDistance.Unsigned := by
  have hshaped := generateFixture_shaped ieee config
  have hnumeric := generateFixture_numeric config
  intro c hc
  obtain ⟨agent, hagent, state, _, rfl⟩ := mem_scoredAgents hc
  exact distSqBlocked_unsigned ((shaped_dimension hshaped request hrequest).trans
    (shaped_uniform hshaped agent hagent).symm) (requests_finite hnumeric hrequest)
    (agents_finite hnumeric hagent)

/-- A result names a candidate: one of those offered, or the fallback. -/
theorem head?_finish {F : Type} [F32 F] (request : RoutingRequest F)
    (available : List (RouteCandidate F)) (ideal : Bool) (debug : Option (RouteDebugInfo F)) :
    ∃ selected, (finish request available ideal debug).availableCandidates.head? = some selected ∧
      (selected ∈ available ∨ selected = fallbackCandidate request.fallbackGeneralistId) := by
  unfold finish
  cases available with
  | nil => exact ⟨_, rfl, Or.inr rfl⟩
  | cons candidate candidates =>
    refine ⟨candidate, ?_, Or.inl List.mem_cons_self⟩
    dsimp only
    split <;> rfl

/-- What a scan finds for a request is the agent the router observes first, and the agent the
route profile counts is not nearer. -/
def Agrees (request : RoutingRequest Binary32) (selected : Best Binary32) : Prop :=
  ∃ result info first,
    (CpuRouter.new (fixtureAgents config) .default).routeOneChecked request (fixtureStates config) =
      .ok (.ok result) ∧
    result.debug = some info ∧ info.observedCandidates.head? = some first ∧
    aosScan distSqBlocked (fixtureAgents config) request = bestOf first ∧
    first.baseDistance.le selected.bestDistance = true

theorem fixture_reservable (hfew : config.agentCount ≤ 2 ^ 32)
    (hvectors : config.agentCount * config.dimensions * 4 < 2 ^ 63) :
    AgentRouteTable.Reservable (fixtureAgents config) :=
  generated_reservable (by omega) hvectors

theorem routeSelected_agrees (hagents : 0 < config.agentCount) (hfew : config.agentCount ≤ 2 ^ 32)
    (hvectors : config.agentCount * config.dimensions * 4 < 2 ^ 63) {request : RoutingRequest Binary32} (hrequest : request ∈ fixtureRequests config)
    (hk : 0 < request.k) (hfits : CapacityFits request.k) :
    ∃ selected, routeSelected (CpuRouter.new (fixtureAgents config) .default) (fixtureStates config)
      request = .ok selected ∧ Agrees config request selected := by
  have hshaped := generateFixture_shaped ieee config
  have hpaired : (fixtureStates config).length = (fixtureAgents config).length :=
    shaped_paired hshaped
  have hids : (fixtureAgents config).map AgentProfile.id = List.range config.agentCount := by
    rw [← generateFixture_ids ieee hfew]
    exact List.map_map
  have hnodup : ((fixtureAgents config).map AgentProfile.id).Nodup := by
    rw [hids]
    exact List.nodup_range
  have hmem : (CpuRouter.new (fixtureAgents config) ScoreCoefficients.default).InMemory :=
    CpuRouter.inMemory_of_agents (fixture_reservable config hfew hvectors) .default true
  have hspec : (CpuRouter.new (fixtureAgents config) ScoreCoefficients.default).routeOne request
      (fixtureStates config) = _ :=
    routeOne_spec ScoreCoefficients.default true hnodup (fixture_uniform config) hpaired
      (shaped_dimension hshaped request hrequest) (fixture_agents_ne config hagents)
  have hrouted : (CpuRouter.new (fixtureAgents config) ScoreCoefficients.default).routeOneChecked
      request (fixtureStates config) = _ := CpuRouter.routeOneChecked_ok hmem hfits
  rw [hspec] at hrouted
  have hscan := aosScan_eq hpaired request ScoreCoefficients.default
  have hunsigned := fixture_unsigned config hrequest
  have hranged := (scoredAgents_ids hpaired request ScoreCoefficients.default).trans hids
  generalize scoredAgents (fixtureAgents config) (fixtureStates config) request
    ScoreCoefficients.default = scored at hrouted hscan hunsigned hranged
  obtain ⟨first, hfirst, hobserved, hleast, hfound⟩ := scan_observed
    (comparable_of_unsigned hunsigned) (by rw [hranged]; exact List.pairwise_lt_range)
    (by rw [hranged, List.head?_range, if_neg (Nat.pos_iff_ne_zero.mp hagents)]) hk
  obtain ⟨selected, hselected, hwhich⟩ := head?_finish request
    (topOf .available request.k (scored.filter RouteCandidate.available))
    (idealUnavailable (topOf .observed request.k scored)) (some ⟨topOf .observed request.k scored⟩)
  have hhead : (specResult true request scored).availableCandidates.head? = some selected :=
    hselected
  have hcounted : routeSelected (CpuRouter.new (fixtureAgents config) .default)
      (fixtureStates config) request = .ok (bestOf selected) := by
    unfold routeSelected
    rw [hrouted]
    show (match (specResult true request scored).availableCandidates.head? with
      | some selected => _
      | none => _) = _
    rw [hhead]
    rfl
  refine ⟨bestOf selected, hcounted, _, _, first, hrouted, rfl, hobserved, hscan.trans hfound, ?_⟩
  rcases hwhich with hmem | rfl
  · have hin : selected ∈ scored :=
      (List.mem_filter.mp (mem_sortBy.mp (List.mem_of_mem_take hmem))).1
    exact (BinaryFloat.totalCmp_le (hunsigned first hfirst) (hunsigned selected hin)).mp
      (hleast selected hin)
  · exact BinaryFloat.le_infinite (hunsigned first hfirst)

end Fixture

/-- Over every generated fixture of up to `2 ^ 32` agents, whose packed vectors and whose
selections of `k` fit in memory, no profile panics. The scans of the agents and of the packed table have the same checksum, with any distance. With the blocked
one a scan finds for each request the agent the router observes first, and the agent the
route profile counts is not nearer. -/
theorem profiles_agree {config : FixtureConfig} (hagents : 0 < config.agentCount)
    (hfew : config.agentCount ≤ 2 ^ 32)
    (hvectors : config.agentCount * config.dimensions * 4 < 2 ^ 63) (hk : 0 < config.k)
    (hfits : CapacityFits config.k) :
    (∀ distance, runPackedScanProfile distance config = .ok (runAosScanProfile distance config)) ∧
    ∃ selected, runRouteProfile config = .ok (scanChecksum selected) ∧
      List.Forall₂ (Agrees config) (fixtureRequests config) selected := by
  refine ⟨?_, ?_⟩
  · intro distance
    have huniform := fixture_uniform config
    have htable : AgentRouteTable.fromAgentSliceChecked (fixtureAgents config) =
        .ok (.ok (AgentRouteTable.ofAgents config.dimensions (fixtureAgents config) huniform)) := by
      rw [AgentRouteTable.fromAgentSliceChecked_eq, (AgentRouteTable.fromAgentsChecked_returns _).1
        (fixture_reservable config hfew hvectors), AgentRouteTable.fromAgents_uniform huniform
        (fixture_agents_ne config hagents)]
    unfold runPackedScanProfile runAosScanProfile
    rw [htable]
    show Except.ok (scanChecksum (List.map (packedScan distance _) _)) = _
    rw [funext (packedScan_eq (AgentRouteTable.packs_ofAgents huniform) distance)]
  · have hall : ∀ request ∈ fixtureRequests config,
        ∃ selected, routeSelected (CpuRouter.new (fixtureAgents config) .default)
          (fixtureStates config) request = .ok selected ∧ Agrees config request selected := by
      intro request hrequest
      obtain ⟨written, hwritten, hbits⟩ := List.mem_map.mp hrequest
      have hkept : request.k = config.k := by
        rw [← hbits]
        exact generateFixture_k ieee config written hwritten
      exact routeSelected_agrees config hagents hfew hvectors hrequest (hkept.symm ▸ hk)
        (hkept.symm ▸ hfits)
    obtain ⟨selected, hselected, hagree⟩ := mapM_forall₂ hall
    refine ⟨selected, ?_, hagree⟩
    unfold runRouteProfile
    rw [(CpuRouter.newChecked_returns _ _).1 (fixture_reservable config hfew hvectors)]
    show (do
      let selected ← (fixtureRequests config).mapM (routeSelected _ (fixtureStates config))
      return scanChecksum selected) = _
    rw [hselected]
    rfl

/-- The agents of a profile and how many requests it makes of them. -/
def profileTaskCountFor : Nat → Nat
  | 8192 => 512
  | 65536 => 256
  | 131072 => 128
  | _ => 64

/-- The configs of `run_profile_matrix` and `run_layout_profile_matrix`. -/
def profileConfig (agentCount dimensions : Nat) : FixtureConfig where
  agentCount
  taskCount := profileTaskCountFor agentCount
  dimensions
  k := 8
  seed := scenarioSeed agentCount dimensions

theorem profiles_agree_largest :
    (∀ distance, runPackedScanProfile distance (profileConfig 262144 32) =
      .ok (runAosScanProfile distance (profileConfig 262144 32))) ∧
    ∃ selected, runRouteProfile (profileConfig 262144 32) = .ok (scanChecksum selected) ∧
      List.Forall₂ (Agrees (profileConfig 262144 32)) (fixtureRequests (profileConfig 262144 32))
        selected :=
  profiles_agree (by decide) (by decide) (by decide) (by decide) (Or.inl (by decide))

end QTom.Bench
