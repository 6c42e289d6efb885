import QTom.Router.Ieee
import QTom.Router.Rosters
import QTom.Router.Sequential

/- Routing over IEEE arithmetic, rounding and overflow included. Rounding keeps the order of
   penalised distances, so load never attracts work here either (`rounded_load_deters`). An
   agent at the very place of a request is at distance zero, and cost factors are one or
   more, so such a request is served from distance zero, if what its routing reserves fits
   in memory (`exact_match_served`). -/
namespace QTom.Router
open QTom.Lib
variable {coefficients : ScoreCoefficients Binary32} {request : RoutingRequest Binary32}
  {debugObserved : Bool}

/-! Load. -/

/-- The loads are raised, the availability is the same. -/
structure LoadRaised (state raised : AgentRuntimeState Binary32) : Prop where
  queue : state.queueDepthNorm.le raised.queueDepthNorm = true
  latency : state.latencyNorm.le raised.latencyNorm = true
  cache : state.cachePressureNorm.le raised.cachePressureNorm = true
  availability : raised.availability = state.availability

theorem LoadRaised.isAvailable {state raised : AgentRuntimeState Binary32}
    (h : LoadRaised state raised) : raised.isAvailable = state.isAvailable := by
  unfold AgentRuntimeState.isAvailable
  rw [h.availability]

section Score
variable {state raised : AgentRuntimeState Binary32} (hc : coefficients.Bounded)
  (hs : state.Bounded coefficients) (hr : raised.Bounded coefficients)
  (hraised : LoadRaised state raised)
include hc hs hr hraised

theorem omega_le_raised : (RuntimeScoreFactors.fromState state coefficients).omega.le
    (RuntimeScoreFactors.fromState raised coefficients).omega = true := by
  have hpenalty : ∀ {coefficient load load' : Binary32},
      coefficient.Nonneg ∧ coefficient.isFinite = true → load.Nonneg ∧ load.isFinite = true →
      load'.isFinite = true → load.le load' = true →
      (F32.mul coefficient load : Binary32).le (F32.mul coefficient load') = true := by
    intro coefficient load load' hcoefficient hload hload' hle
    exact BinaryFloat.mul_le_mul precision_pos hcoefficient.1 hload.1
      (BinaryFloat.within_of_isFinite hcoefficient.2) (BinaryFloat.within_of_isFinite hload.2)
      (BinaryFloat.within_of_isFinite hload') hle
  have hone := one_positive.nonneg
  have hq := penalty_nonneg hc.alphaQueue hs.queueDepthNorm
  have hl := penalty_nonneg hc.betaLatency hs.latencyNorm
  have hp := penalty_nonneg hc.gammaCache hs.cachePressureNorm
  have hqueue := BinaryFloat.add_le_add precision_pos hone hq (BinaryFloat.le_self hone.isNan)
    (hpenalty hc.alphaQueue hs.queueDepthNorm hr.queueDepthNorm.2 hraised.queue)
  have hlatency := BinaryFloat.add_le_add precision_pos (hone.add precision_pos hq) hl hqueue
    (hpenalty hc.betaLatency hs.latencyNorm hr.latencyNorm.2 hraised.latency)
  exact BinaryFloat.add_le_add precision_pos ((hone.add precision_pos hq).add precision_pos hl) hp
    hlatency (hpenalty hc.gammaCache hs.cachePressureNorm hr.cachePressureNorm.2 hraised.cache)

/-- The raised agent is penalised no less. -/
theorem compare_load_raised {vector agentVector : List Binary32}
    (hlen : vector.length = agentVector.length) (hvector : ∀ x ∈ vector, x.isFinite = true) (hagent : ∀ x ∈ agentVector, x.isFinite = true)
    (agentId : Nat) : (compareCandidate .available
      (scoreCompactCandidate vector coefficients agentId agentVector state)
      (scoreCompactCandidate vector coefficients agentId agentVector raised)).isLE = true := by
  have hbase := distSqBlocked_unsigned hlen hvector hagent
  have hle : (BinaryFloat.totalCmp
      (scoreCompactCandidate vector coefficients agentId agentVector state).effectiveDistance
      (scoreCompactCandidate vector coefficients agentId agentVector raised).effectiveDistance).isLE =
      true := by
    refine (BinaryFloat.totalCmp_le (effective_unsigned hbase hc hs)
      (effective_unsigned hbase hc hr)).mpr ?_
    show (if state.isAvailable then F32.mul _ _ else F32.infinity : Binary32).le
      (if raised.isAvailable then F32.mul _ _ else F32.infinity) = true
    rw [hraised.isAvailable]
    split
    · exact hbase.mul_le_mul precision_pos (omega_positive hc hs)
        (BinaryFloat.within_of_isFinite hs.omega) (BinaryFloat.within_of_isFinite hr.omega)
        (omega_le_raised hc hs hr hraised)
    · exact BinaryFloat.le_self rfl
  unfold compareCandidate
  rw [Ordering.isLE_then_iff_and]
  exact ⟨hle, Or.inr (Nat.isLE_compare.mpr (Nat.le_refl agentId))⟩

end Score

/-- In rounded arithmetic, where no cost factor overflows, an agent whose load is raised is
returned only if it was; the others returned are the same or one more at the end, and the
observed agents and the ideal flag do not change. Nothing is asked of the other agents. -/
theorem rounded_load_deters {before after : Roster Binary32} {agent : AgentProfile Binary32}
    {state raised : AgentRuntimeState Binary32}
    (hids : (before ++ (agent, state) :: after : Roster Binary32).ids.Nodup)
    (hrequest : ∀ x ∈ request.vector, x.isFinite = true)
    (hagent : ∀ x ∈ agent.vector, x.isFinite = true) (hc : coefficients.Bounded)
    (hs : state.Bounded coefficients) (hr : raised.Bounded coefficients)
    (hraised : LoadRaised state raised) {result : RoutingResult Binary32}
    (h : routeRoster coefficients debugObserved (before ++ (agent, state) :: after) request =
      .ok result) : ∃ deterred,
      routeRoster coefficients debugObserved (before ++ (agent, raised) :: after) request =
        .ok deterred ∧ Deterred agent.id result deterred := by
  have hlen : agent.vector.length = request.vector.length :=
    (routeRoster_ok hids h).1.2 (agent, state) (List.mem_append_right before List.mem_cons_self)
  exact worse_state_deters hids hraised.isAvailable
    (compare_load_raised hc hs hr hraised hlen.symm hrequest hagent agent.id) h

/-! A request at an agent's place. -/

theorem addSquare_self {sum x : Binary32} (hsum : sum.Within 0) (hx : x.isFinite = true) :
    (addSquare sum x x).Within 0 := by
  have hdiff : (F32.sub x x : Binary32).Within 0 := BinaryFloat.sub_self_within precision_pos hx
  have hsquare : (F32.mul (F32.sub x x) (F32.sub x x) : Binary32).Within 0 :=
    hdiff.mul precision_pos hdiff (representable_zero 24 253) (by decide)
  exact hsum.add precision_pos hsquare (representable_zero 24 253) (by decide)

/-- A finite vector is at distance zero from itself, however the sum is blocked. -/
theorem distSqBlocked_self {vector : List Binary32} (h : ∀ x ∈ vector, x.isFinite = true) :
    (distSqBlocked vector vector).Within 0 := by
  refine distSqBlocked_induct (R := fun l r => l = r ∧ l.isFinite = true) rfl
    (.finite (Nat.le_refl 0))
    (fun _ _ ha hb => ha.add precision_pos hb (representable_zero 24 253) (by decide)) ?_ ?_
  · intro sum l r hsum hpair
    obtain ⟨rfl, hfinite⟩ := hpair
    exact addSquare_self hsum hfinite
  · intro p hp
    rw [List.zip_eq_zipWith, List.zipWith_self] at hp
    obtain ⟨x, hx, rfl⟩ := List.mem_map.mp hp
    exact ⟨rfl, h x hx⟩

/-- A cost factor is at least one. -/
theorem one_le_omega {state : AgentRuntimeState Binary32} (hc : coefficients.Bounded)
    (hs : state.Bounded coefficients) : ∃ r : Nat,
    (RuntimeScoreFactors.fromState state coefficients).omega.rank = some (r : Int) ∧ 2 ^ 149 ≤ r := by
  obtain ⟨r, hr, hle⟩ := BinaryFloat.pow_le_add precision_pos (k := 149) (by decide)
    (show (F32.one : Binary32).rank = some ((2 ^ 149 : Nat) : Int) from rfl) (Nat.le_refl _)
    (penalty_nonneg hc.alphaQueue hs.queueDepthNorm)
  obtain ⟨s, hs', hle'⟩ := BinaryFloat.pow_le_add precision_pos (by decide) hr hle
    (penalty_nonneg hc.betaLatency hs.latencyNorm)
  exact BinaryFloat.pow_le_add precision_pos (by decide) hs' hle'
    (penalty_nonneg hc.gammaCache hs.cachePressureNorm)

/-- A roster of finite vectors whose loads are bounded. -/
structure Roster.Bounded (roster : Roster Binary32) (coefficients : ScoreCoefficients Binary32) :
    Prop where
  vectors : ∀ row ∈ roster, ∀ x ∈ row.1.vector, x.isFinite = true
  loads : ∀ row ∈ roster, row.2.Bounded coefficients

/-- Penalised to nothing, an available agent is at distance zero: a cost factor of one or more
rounds nothing away. -/
theorem base_zero_of_effective {base : Binary32} {state : AgentRuntimeState Binary32}
    (hbase : base.Unsigned) (hc : coefficients.Bounded) (hs : state.Bounded coefficients)
    (h : (F32.mul base (RuntimeScoreFactors.fromState state coefficients).omega : Binary32).rank =
      some 0) : base.rank = some 0 := by
  obtain ⟨b, hb⟩ := hbase.nonneg
  obtain ⟨r, hr, hle⟩ := one_le_omega hc hs
  by_contra hne
  have hpos : base.Positive := by
    refine ⟨b, hb, Nat.pos_of_ne_zero ?_⟩
    intro hzero
    rw [hb, hzero] at hne
    exact hne rfl
  obtain ⟨e, he, hepos⟩ := hbase.mul_positive precision_pos hpos
    (BinaryFloat.within_of_isFinite hs.omega) hr hle
  have hzero : (e : Int) = 0 := Option.some.inj (he.symm.trans h)
  omega

/-- The first available candidate has the least penalised distance, and among those the least
id. -/
theorem first_available {scored : List (RouteCandidate Binary32)} {c : RouteCandidate Binary32}
    (hc : c ∈ scored) (havailable : c.available = true) {k : Nat} (hk : 0 < k) :
    ∃ first, (topOf .available k (scored.filter RouteCandidate.available)).head? = some first ∧
      first ∈ scored ∧ first.available = true ∧
      (compareCandidate .available first c).isLE = true := by
  have hmem : c ∈ scored.filter RouteCandidate.available := List.mem_filter.mpr ⟨hc, havailable⟩
  obtain ⟨first, hfirst, hleast⟩ := head?_sortBy_firstLeast (compareCandidate .available)
    (List.ne_nil_of_mem hmem)
  obtain ⟨hscored, hshown⟩ := List.mem_filter.mp hleast.mem
  exact ⟨first, (head?_topOf (Nat.pos_iff_ne_zero.mp hk) _).trans hfirst, hscored, hshown,
    hleast.least c hmem⟩

/-- What an available agent of the roster is scored. -/
theorem available_score {roster : Roster Binary32} (hbounded : roster.Bounded coefficients)
    (hc : coefficients.Bounded) (hrequest : ∀ x ∈ request.vector, x.isFinite = true)
    (hdim : ∀ row ∈ roster, row.1.vector.length = request.vector.length)
    {c : RouteCandidate Binary32} (hscored : c ∈ roster.scored request coefficients)
    (havailable : c.available = true) : c.effectiveDistance.Unsigned ∧
      (c.effectiveDistance.rank = some 0 → c.baseDistance.rank = some 0) := by
  obtain ⟨row, hrow, rfl⟩ := List.mem_map.mp hscored
  have hbase := distSqBlocked_unsigned (hdim row hrow).symm hrequest (hbounded.vectors row hrow)
  have hs := hbounded.loads row hrow
  refine ⟨effective_unsigned hbase hc hs, ?_⟩
  intro hzero
  have heffective : (scoreCompactCandidate request.vector coefficients row.1.id row.1.vector
      row.2).effectiveDistance = F32.mul (distSqBlocked request.vector row.1.vector)
        (RuntimeScoreFactors.fromState row.2 coefficients).omega := if_pos havailable
  rw [heffective] at hzero
  exact base_zero_of_effective hbase hc hs hzero

/-- `routeRoster` with the reservations of the table and of the selections. -/
def routeRosterChecked (coefficients : ScoreCoefficients Binary32) (debugObserved : Bool)
    (roster : Roster Binary32) (request : RoutingRequest Binary32) :
    Checked (Except RouteError (RoutingResult Binary32)) := do
  let router ← CpuRouter.newChecked (roster.map Prod.fst) coefficients
  (router.withDebugObserved debugObserved).routeOneChecked request (roster.map Prod.snd)

theorem routeRosterChecked_ok {roster : Roster Binary32}
    (htable : AgentRouteTable.Reservable (roster.map Prod.fst)) (hfits : CapacityFits request.k) :
    routeRosterChecked coefficients debugObserved roster request =
      .ok (routeRoster coefficients debugObserved roster request) := by
  unfold routeRosterChecked
  rw [(CpuRouter.newChecked_returns _ _).1 htable]
  exact CpuRouter.routeOneChecked_ok (CpuRouter.inMemory_of_agents htable _ _) hfits

/-- A request at the place of an available agent, over a roster of finite vectors and bounded
loads, is served from distance zero: the first agent returned is there, it is that agent or
one of a smaller id, and the fallback is not used. -/
theorem exact_match_served {roster : Roster Binary32} (hids : roster.ids.Nodup)
    (htable : AgentRouteTable.Reservable (roster.map Prod.fst)) (hfits : CapacityFits request.k)
    (hdim : ∀ row ∈ roster, row.1.vector.length = request.vector.length)
    (hc : coefficients.Bounded) (hbounded : roster.Bounded coefficients) (hk : 0 < request.k)
    (hradius : request.radiusMaxThreshold.Nonneg) {row : AgentProfile Binary32 × AgentRuntimeState Binary32}
    (hrow : row ∈ roster) (hplace : row.1.vector = request.vector)
    (havailable : row.2.isAvailable = true) : ∃ result first,
      routeRosterChecked coefficients debugObserved roster request = .ok (.ok result) ∧
      result.usedFallback = false ∧ result.availableCandidates.head? = some first ∧
      first.baseDistance.rank = some 0 ∧ first.agentId ≤ row.1.id := by
  have hrequest : ∀ x ∈ request.vector, x.isFinite = true := hplace ▸ hbounded.vectors row hrow
  have hscored : scoreCompactCandidate request.vector coefficients row.1.id row.1.vector row.2 ∈
      roster.scored request coefficients := List.mem_map_of_mem hrow
  obtain ⟨first, hhead, hfirst, hshown, hle⟩ := first_available hscored havailable hk
  obtain ⟨hunsigned, hbase⟩ := available_score hbounded hc hrequest hdim hfirst hshown
  obtain ⟨hunsigned', _⟩ := available_score hbounded hc hrequest hdim hscored havailable
  have hzero : (scoreCompactCandidate request.vector coefficients row.1.id row.1.vector
      row.2).effectiveDistance.rank = some 0 := by
    have heffective : (scoreCompactCandidate request.vector coefficients row.1.id row.1.vector
        row.2).effectiveDistance = F32.mul (distSqBlocked request.vector row.1.vector)
          (RuntimeScoreFactors.fromState row.2 coefficients).omega := if_pos havailable
    rw [heffective, hplace]
    exact ((distSqBlocked_self hrequest).mul precision_pos
      (BinaryFloat.within_of_isFinite (hbounded.loads row hrow).omega) (representable_zero 24 253)
      (by rw [Nat.zero_mul]; exact Nat.zero_le _)).rank_zero
  -- nothing is below zero, so the first is at zero too
  obtain ⟨hnotlt, heq⟩ := BinaryFloat.totalCmp_zero hunsigned hunsigned' hzero
  have hboth : first.effectiveDistance.rank = some 0 ∧ first.agentId ≤ row.1.id := by
    rcases Ordering.isLE_then_iff_or.mp hle with hlt | ⟨hsame, hid⟩
    · exact absurd hlt hnotlt
    · exact ⟨heq hsame, Nat.isLE_compare.mp hid⟩
  have hplaced := hbase hboth.1
  have hinside : F32.gt first.baseDistance request.radiusMaxThreshold = false := by
    obtain ⟨r, hr⟩ := hradius
    show BinaryFloat.lt request.radiusMaxThreshold first.baseDistance = false
    unfold BinaryFloat.lt
    rw [hr, hplaced]
    exact decide_eq_false (by omega)
  rw [routeRosterChecked_ok htable hfits, routeRoster_spec (List.ne_nil_of_mem hrow) hids hdim]
  refine ⟨_, first, rfl, ?_, ?_, hplaced, hboth.2⟩
  · unfold specResult finish
    rw [hhead]
    exact hinside
  · unfold specResult finish
    rw [hhead]
    dsimp only [Option.map_some, Option.getD_some]
    rw [hinside, if_neg Bool.false_ne_true]
    exact hhead

/-! Two agents. -/

/-- 0.5, 1.0 and 10.0. -/
def half : Binary32 := .ofBits 0x3f000000#32
def whole : Binary32 := .ofBits 0x3f800000#32
def ten : Binary32 := .ofBits 0x41200000#32

/-- An idle state, and one with a full queue. -/
def idleState : AgentRuntimeState Binary32 := ⟨F32.zero, F32.zero, F32.zero, 1⟩
def busyState : AgentRuntimeState Binary32 := ⟨whole, F32.zero, F32.zero, 1⟩

def halfAgent : AgentProfile Binary32 := ⟨7, [half], ⟨0, 0, 0, 0, 0, 0⟩⟩
def wholeAgent : AgentProfile Binary32 := ⟨3, [whole], ⟨0, 0, 0, 0, 0, 0⟩⟩

def halfRequest : RoutingRequest Binary32 := ⟨1, [half], 1, 99, ten⟩

theorem idle_bounded : idleState.Bounded .default :=
  bounded_of_inUnit ⟨by decide +kernel, by decide +kernel⟩ ⟨by decide +kernel, by decide +kernel⟩
    ⟨by decide +kernel, by decide +kernel⟩

theorem busy_bounded : busyState.Bounded .default :=
  bounded_of_inUnit ⟨by decide +kernel, by decide +kernel⟩ ⟨by decide +kernel, by decide +kernel⟩
    ⟨by decide +kernel, by decide +kernel⟩

theorem single_finite {x : Binary32} (h : x.isFinite = true) : ∀ y ∈ [x], y.isFinite = true := by
  intro y hy
  rw [List.mem_singleton.mp hy]
  exact h

theorem rounded_load_deters_half : ∃ result deterred,
    routeRoster .default true [(halfAgent, idleState), (wholeAgent, idleState)] halfRequest =
      .ok result ∧
    routeRoster .default true [(halfAgent, busyState), (wholeAgent, idleState)] halfRequest =
      .ok deterred ∧ Deterred 7 result deterred := by
  have hok : routeRoster .default true ([] ++ (halfAgent, idleState) :: [(wholeAgent, idleState)])
      halfRequest = .ok _ :=
    routeRoster_spec (by simp) (by decide) (by simp [halfAgent, wholeAgent, halfRequest])
  obtain ⟨deterred, hdeterred, hkept⟩ := rounded_load_deters (by decide)
    (single_finite (by decide +kernel)) (single_finite (by decide +kernel)) default_bounded
    idle_bounded busy_bounded ⟨by decide +kernel, by decide +kernel, by decide +kernel, rfl⟩ hok
  exact ⟨_, deterred, hok, hdeterred, hkept⟩

theorem exact_match_served_half : ∃ result first,
    routeRosterChecked .default true [(wholeAgent, idleState), (halfAgent, busyState)] halfRequest =
      .ok (.ok result) ∧
    result.usedFallback = false ∧ result.availableCandidates.head? = some first ∧
    first.baseDistance.rank = some 0 ∧ first.agentId ≤ 7 := by
  have hmem : ((halfAgent, busyState) : AgentProfile Binary32 × AgentRuntimeState Binary32) ∈
      [(wholeAgent, idleState), (halfAgent, busyState)] := by
    simp
  refine exact_match_served (by decide) ?_ (Or.inl (by decide))
    (by simp [halfAgent, wholeAgent, halfRequest]) default_bounded ⟨?_, ?_⟩ (by decide)
    (by decide +kernel) hmem rfl rfl
  · intro first hfirst
    obtain rfl := Option.some.inj hfirst
    exact ⟨by decide, by decide⟩
  · simp only [List.forall_mem_cons]
    exact ⟨single_finite (by decide +kernel), single_finite (by decide +kernel),
      fun _ h => absurd h List.not_mem_nil⟩
  · simp only [List.forall_mem_cons]
    exact ⟨idle_bounded, busy_bounded, fun _ h => absurd h List.not_mem_nil⟩

end QTom.Router
