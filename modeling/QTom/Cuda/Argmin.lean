import QTom.Cuda.Indexing
import QTom.Cuda.Parity
import QTom.Router.Ranking

/- What a launch writes, for any arguments sized as their counts: for each request the agent
   that is least by effective distance and id among the available ones, and whether the one
   least by base distance and id among all is unavailable (`launch_argmin`). The weights and
   the availabilities are whatever the device holds; ids are distinct and may be 0. -/
namespace QTom.Cuda
open QTom.Lib QTom.Router

/-! Rows of the buffers. -/

section Rows
variable {F : Type}

/-- Row `i` of `count` packed rows of `d` coordinates. -/
theorem length_row {xs : List F} {count d i : Nat} (hlen : xs.length = count * d) (hi : i < count) :
    (slice xs d i).length = d := by
  have hrow : (i + 1) * d ≤ count * d := Nat.mul_le_mul_right d hi
  rw [Nat.add_mul, Nat.one_mul] at hrow
  unfold slice
  rw [List.length_take, List.length_drop]
  omega

/-- Read at an offset that does not wrap, a row is its slice of the buffer. -/
theorem getElem?_row {xs : List F} {d i : Nat} (hoffset : i * d < 2 ^ 32) {dim : Nat}
    (hdim : dim < d) : xs[wrap32 (i * d) + dim]? = (slice xs d i)[dim]? := by
  unfold slice
  rw [wrap32_eq_iff.mpr hoffset, List.getElem?_take_of_lt hdim, List.getElem?_drop]

theorem getElem?_getD {α : Type} {xs : List α} {i : Nat} (hi : i < xs.length) (d : α) :
    xs[i]? = some (xs.getD i d) := by
  rw [List.getD_eq_getElem?_getD, List.getElem?_eq_getElem hi]
  rfl

end Rows

/-! The agents a thread sees. -/

section Seen
variable {F : Type} [F32 F]

/-- Agent `i` as the thread of request `j` sees it; the kernel has no penalties. -/
def KernelArgs.seen (args : KernelArgs F) (j i : Nat) : CompactCandidate F :=
  let available := args.availability.getD i 0 != 0
  let omega := args.agentScoreWeights.getD i F32.zero
  let baseDistance := distSq (slice args.requestVectors args.dimensions j)
    (slice args.agentVectors args.dimensions i)
  { agentId := args.agentIds.getD i 0
    effectiveDistance := if available then F32.mul baseDistance omega else F32.infinity
    baseDistance
    omega
    queuePenalty := F32.zero
    latencyPenalty := F32.zero
    cachePenalty := F32.zero
    available }

def KernelArgs.seenAgents (args : KernelArgs F) (j : Nat) : List (CompactCandidate F) :=
  (List.range args.agentCount).map (args.seen j)

theorem KernelArgs.seenAgents_getElem (args : KernelArgs F) (j : Nat) {i : Nat}
    (hi : i < (args.seenAgents j).length) : (args.seenAgents j)[i] = args.seen j i := by
  simp only [seenAgents, List.getElem_map, List.getElem_range]

theorem KernelArgs.length_seenAgents (args : KernelArgs F) (j : Nat) :
    (args.seenAgents j).length = args.agentCount := by
  unfold seenAgents
  rw [List.length_map, List.length_range]

end Seen

/-- The flag tells of an observed winner that is unavailable. -/
theorem flag_eq_one_iff {F : Type} {observed : Option (RouteCandidate F)} :
    (if (observed.map RouteCandidate.available).getD true then 0 else 1) = 1 ↔
      ∃ c, observed = some c ∧ c.available = false := by
  cases observed with
  | none =>
    -- without agents the flag is that of an available one
    refine ⟨fun h => absurd (show 0 = 1 from h) Nat.zero_ne_one, ?_⟩
    intro ⟨c, hc, _⟩
    cases hc
  | some first =>
    show (if first.available then 0 else 1) = 1 ↔ _
    refine ⟨?_, ?_⟩
    · intro h
      refine ⟨first, rfl, ?_⟩
      cases hav : first.available with
      | false => rfl
      | true =>
        rw [hav] at h
        cases h
    · intro ⟨c, hc, hcav⟩
      rw [Option.some.inj hc, hcav]
      rfl

variable {K : Type} [Ring K] [LinearOrder K] {args : KernelArgs (WithTop K)}

/-- One turn of the agent loop visits the agent as it is seen. -/
theorem agentStep_seen (h : args.Sized)
    (hwrap : NoWrap args.dimensions args.agentCount args.requestCount) {j : Nat}
    (hj : j < args.requestCount) (s : ThreadState (WithTop K)) (i : Nat)
    (hi : i < (args.seenAgents j).length) :
    agentStep args
      (fun dimIdx => args.requestVectors[wrap32 (j * args.dimensions) + dimIdx]?) s i =
      some (s.visitCandidate (args.seenAgents j)[i]) := by
  rw [args.seenAgents_getElem j hi]
  rw [args.length_seenAgents] at hi
  have hleft := length_row h.requestVectors hj
  have hright := length_row h.agentVectors hi
  exact agentStep_rows hleft hright
    (fun dim hdim => getElem?_row (hwrap.requestOffset j hj) (by omega))
    (fun dim hdim => getElem?_row (hwrap.agentOffset i hi) (by omega))
    (getElem?_getD (by rw [h.agentIds]; exact hi) 0)
    (getElem?_getD (by rw [h.availability]; exact hi) 0)
    (getElem?_getD (by rw [h.agentScoreWeights]; exact hi) F32.zero) s

theorem seen_distinct (h : args.Sized) (hids : args.agentIds.Nodup) (j : Nat) :
    Distinct (args.seenAgents j) := by
  intro a ha b hb hsame
  obtain ⟨i, hi, rfl⟩ := List.mem_map.mp ha
  obtain ⟨i', hi', rfl⟩ := List.mem_map.mp hb
  have hlt : i < args.agentIds.length := by
    rw [h.agentIds]
    exact List.mem_range.mp hi
  have hlt' : i' < args.agentIds.length := by
    rw [h.agentIds]
    exact List.mem_range.mp hi'
  have hread : args.agentIds[i]? = args.agentIds[i']? := by
    rw [getElem?_getD hlt 0, getElem?_getD hlt' 0]
    exact congrArg some hsame
  rw [(List.getElem?_inj hlt hids).mp hread]

theorem seen_finite (hagents : Finite args.agentVectors) (hrequests : Finite args.requestVectors)
    (j : Nat) : ∀ c ∈ args.seenAgents j, c.baseDistance ≠ ⊤ := by
  intro c hc
  obtain ⟨i, _, rfl⟩ := List.mem_map.mp hc
  exact distSq_ne_top (fun x hx => hrequests x (List.mem_of_mem_drop (List.mem_of_mem_take hx)))
    (fun x hx => hagents x (List.mem_of_mem_drop (List.mem_of_mem_take hx)))

theorem seen_effective (args : KernelArgs (WithTop K)) (j : Nat) : ∀ c ∈ args.seenAgents j,
    c.effectiveDistance = if c.available then F32.mul c.baseDistance c.omega else ⊤ := by
  intro c hc
  obtain ⟨i, _, rfl⟩ := List.mem_map.mp hc
  rfl

/-- The registers of a thread after its loop. -/
theorem agentLoop_seen (h : args.Sized)
    (hwrap : NoWrap args.dimensions args.agentCount args.requestCount)
    (hids : args.agentIds.Nodup) (hagents : Finite args.agentVectors)
    (hrequests : Finite args.requestVectors) {j : Nat} (hj : j < args.requestCount) :
    agentLoop args j = some (.final (args.seenAgents j)) :=
  agentLoop_of (args.length_seenAgents j).symm (agentStep_seen h hwrap hj) (seen_distinct h hids j)
    (seen_finite hagents hrequests j) (seen_effective args j)

/-! What is written. -/

/-- The candidate is least by a distance and then by id. -/
structure LeastBy (distance : RouteCandidate (WithTop K) → WithTop K)
    (candidates : List (RouteCandidate (WithTop K))) (c : RouteCandidate (WithTop K)) : Prop where
  mem : c ∈ candidates
  least : ∀ other ∈ candidates, distance c < distance other ∨
    distance c = distance other ∧ c.agentId ≤ other.agentId

/-- The winner is the least candidate. -/
theorem winner_iff {sort : CandidateSort} {candidates : List (RouteCandidate (WithTop K))}
    (h : Distinct candidates) {c : RouteCandidate (WithTop K)} :
    winner sort candidates = some c ↔ LeastBy sort.key candidates c := by
  unfold winner
  rw [head?_sortBy_iff (h.inj sort)]
  refine ⟨?_, ?_⟩
  · intro ⟨hmem, hleast⟩
    exact ⟨hmem, fun other hother => compareCandidate_isLE.mp (hleast other hother)⟩
  · intro hleast
    exact ⟨hleast.mem, fun other hother => compareCandidate_isLE.mpr (hleast.least other hother)⟩

/-- Slot `j` holds the two argmins of the agents its thread sees. -/
structure ArgminStored (args : KernelArgs (WithTop K)) (out : CudaRouteKernelOutput (WithTop K))
    (j : Nat) : Prop where
  selected : (∃ c ∈ args.seenAgents j, c.available = true) → ∃ c,
    LeastBy RouteCandidate.effectiveDistance
      ((args.seenAgents j).filter RouteCandidate.available) c ∧
    out.agentIds[j]? = some c.agentId ∧ out.effectiveDistances[j]? = some c.effectiveDistance ∧
    out.baseDistances[j]? = some c.baseDistance
  unserved : (∀ c ∈ args.seenAgents j, c.available = false) →
    out.agentIds[j]? = some 0 ∧ out.effectiveDistances[j]? = some ⊤ ∧ out.baseDistances[j]? = some ⊤
  flag : ∃ flag, out.flags[j]? = some flag ∧ flag ≤ 1 ∧ (flag = 1 ↔ ∃ c,
    LeastBy RouteCandidate.baseDistance (args.seenAgents j) c ∧ c.available = false)

/-- A thread whose registers end with the two winners stores them. -/
theorem argminStored_of_final {out : CudaRouteKernelOutput (WithTop K)} {j : Nat}
    (hdistinct : Distinct (args.seenAgents j))
    (hstored : Stored out j (.final (args.seenAgents j))) : ArgminStored args out j := by
  have hid := hstored.agentId
  have hflag := hstored.flag
  have heffective := hstored.effectiveDistance
  have hbase := hstored.baseDistance
  unfold ThreadState.final at hid hflag heffective hbase
  rw [ThreadState.agentId_of] at hid
  refine ⟨?_, ?_, ?_⟩
  · intro ⟨c, hc, hcav⟩
    obtain ⟨first, hfirst, _⟩ := head?_sortBy_firstLeast (compareCandidate .available)
      (List.ne_nil_of_mem (List.mem_filter.mpr ⟨hc, hcav⟩))
    have hwinner : winner .available ((args.seenAgents j).filter RouteCandidate.available) =
        some first := hfirst
    rw [hwinner] at hid heffective hbase
    exact ⟨first, (winner_iff (hdistinct.filter RouteCandidate.available)).mp hwinner, hid,
      heffective, hbase⟩
  · intro hnone
    have hnil : (args.seenAgents j).filter RouteCandidate.available = [] := by
      apply List.filter_eq_nil_iff.mpr
      intro c hc
      rw [hnone c hc]
      exact Bool.false_ne_true
    rw [hnil] at hid heffective hbase
    exact ⟨hid, heffective, hbase⟩
  · refine ⟨_, hflag, ?_, flag_eq_one_iff.trans ?_⟩
    · split <;> omega
    · refine exists_congr fun c => and_congr_left' ?_
      exact winner_iff hdistinct

/-- A launch in any order, into buffers that may hold anything, stores the two argmins of every
request's agents. -/
theorem launch_argmin (h : args.Sized)
    (hwrap : NoWrap args.dimensions args.agentCount args.requestCount)
    (hids : args.agentIds.Nodup) (hagents : Finite args.agentVectors)
    (hrequests : Finite args.requestVectors) {workspace : CudaRouteKernelOutput (WithTop K)}
    (hplan : workspace.Planned args.requestCount) {order : List ThreadId}
    (horder : order.Perm (for1dThreadCount args.requestCount routeAgentsK1BlockDimX).threads) :
    ∃ out, launch args (for1dThreadCount args.requestCount routeAgentsK1BlockDimX) order
        workspace = some out ∧ ∀ j < args.requestCount, ArgminStored args out j := by
  have hrun : ∀ j < args.requestCount,
      agentLoop args j = some (ThreadState.final (args.seenAgents j)) :=
    fun j hj => agentLoop_seen h hwrap hids hagents hrequests hj
  obtain ⟨out, hlaunch, hstored⟩ := launch_stored hplan hwrap.requests hrun horder
  exact ⟨out, hlaunch, fun j hj => argminStored_of_final (seen_distinct h hids j) (hstored j hj)⟩

/-- Two available agents, one of id 0, at the same distance from the first request, and an
unavailable one nearer by. -/
def tiedArgs : KernelArgs (WithTop Int) where
  agentVectors := [1, 0, 1]
  agentIds := [5, 3, 0]
  requestVectors := [0, 1]
  agentScoreWeights := [1, 1, 1]
  availability := [1, 0, 1]
  agentCount := 3
  requestCount := 2
  dimensions := 1

def tiedWorkspace : CudaRouteKernelOutput (WithTop Int) := ⟨[5, 5], [1, 1], [1, 1], [1, 1]⟩

theorem tiedArgs_sized : tiedArgs.Sized := by
  refine ⟨rfl, rfl, rfl, rfl, rfl, ?_, ?_⟩ <;> decide

theorem launch_argmin_tied : ∃ out, launch tiedArgs (for1dThreadCount 2 routeAgentsK1BlockDimX)
    (for1dThreadCount 2 routeAgentsK1BlockDimX).threads tiedWorkspace = some out ∧
    ∀ j < 2, ArgminStored tiedArgs out j :=
  have hwrap : NoWrap tiedArgs.dimensions tiedArgs.agentCount tiedArgs.requestCount := by
    refine ⟨?_, ?_, ?_, ?_, ?_⟩ <;> decide
  have hagents : Finite tiedArgs.agentVectors := by
    show ∀ x ∈ tiedArgs.agentVectors, x ≠ ⊤
    decide
  have hrequests : Finite tiedArgs.requestVectors := by
    show ∀ x ∈ tiedArgs.requestVectors, x ≠ ⊤
    decide
  launch_argmin tiedArgs_sized hwrap (by decide) hagents hrequests ⟨rfl, rfl, rfl, rfl⟩
    (List.Perm.refl _)

end QTom.Cuda
