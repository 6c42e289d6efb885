import QTom.Bench.Prefilter
import QTom.Router.DebugFlag
import QTom.Router.Sequential

/- The profile of the prefilter (`profile_prefilter_budget`) against the exact router
   (`run_prefilter_profile`). A scan of some of the agents ends with the least of all of
   them exactly when it meets that one, so the profile counts a task as a top1 match when
   the exact router's first agent is among the prefilter's candidates, and at full budget
   nothing is lost (`profile_recall`). The profile's durations and its division of the
   counts are left out. -/
namespace QTom.Bench
open QTom.Lib QTom.Router
variable {F : Type}

/-- `unwrap_or(u32::MAX)`. -/
def firstCandidateId (result : RoutingResult F) : Nat :=
  (result.availableCandidates.head?.map RouteCandidate.agentId).getD (2 ^ 32 - 1)

structure PrefilterCounts where
  totalCandidates : Nat
  top1Matches : Nat
  idealMatches : Nat
  deriving DecidableEq, Repr

/-- `found.is_some_and(|a| a == expected[task_index])`. -/
def isSomeAndExpected {α : Type} [DecidableEq α] (found : Option α) (expected : List α)
    (taskIndex : Nat) : Checked Bool :=
  match found with
  | none => .ok false
  | some a => do
    let e ← Checked.read expected taskIndex
    return decide (a = e)

/-- `if matches { count += 1 }`. -/
def countIf (count : Nat) (isMatch : Bool) : Checked Nat :=
  if isMatch then Checked.add count 1 else .ok count

section Profile
variable [GridF32 F] (select : SelectNth (F × Nat)) (agents : List (AgentProfile F))
  (states : List (AgentRuntimeState F)) (coefficients : ScoreCoefficients F)
  (index : LayeredGridIndex F) (expectedAgentIds : List Nat) (expectedIdealFlags : List Bool)
  (budget : Nat)

/-- One task. -/
def profileTask (counts : PrefilterCounts) (task : RoutingRequest F × Nat) :
    Checked PrefilterCounts := do
  let candidates ← index.candidateIndices select task.1 budget
  let totalCandidates ← Checked.add counts.totalCandidates candidates.length
  let best ← rescore agents states task.1 coefficients candidates
  let top1 ← isSomeAndExpected (best.bestAvailable.map PrefilterCandidate.agentId)
    expectedAgentIds task.2
  let top1Matches ← countIf counts.top1Matches top1
  let ideal ← isSomeAndExpected (best.observedBest.map fun candidate => !candidate.available)
    expectedIdealFlags task.2
  let idealMatches ← countIf counts.idealMatches ideal
  return { totalCandidates, top1Matches, idealMatches }

def profilePrefilterBudget (requests : List (RoutingRequest F)) : Checked PrefilterCounts :=
  requests.zipIdx.foldlM (profileTask select agents states coefficients index expectedAgentIds
    expectedIdealFlags budget) ⟨0, 0, 0⟩

end Profile

/-! The exact results. -/

section
variable [F32 F] [Std.TransCmp (F32.totalCmp (F := F))] {agents : List (AgentProfile F)}
  {states : List (AgentRuntimeState F)} {coefficients : ScoreCoefficients F}

/-- A batch that was routed is one routing call for each request. -/
theorem batch_results (hids : (agents.map AgentProfile.id).Nodup) {debugObserved : Bool}
    {requests : List (RoutingRequest F)} {results : List (RoutingResult F)} {workers : Nat}
    (h : ((CpuRouter.new agents coefficients).withDebugObserved debugObserved).routeBatchWithWorkers
      requests states workers = .ok results) :
    (∀ r ∈ requests, Accepted agents states r) ∧ results = requests.map fun r =>
      specResult debugObserved r (scoredAgents agents states r coefficients) := by
  by_cases hne : requests = []
  · subst hne
    exact ⟨fun _ hr => (nomatch hr), (Except.ok.inj h).symm⟩
  · unfold CpuRouter.routeBatchWithWorkers at h
    rw [if_neg (by rw [List.isEmpty_iff]; exact hne)] at h
    obtain ⟨b, hb, h⟩ := bind_ok_iff.mp h
    have hrouted := (workers_eq _ hne b workers).symm.trans h
    have haccepted : ∀ r ∈ requests, Accepted agents states r := by
      intro r hr
      have hvalid : (CpuRouter.new agents coefficients).validateRequest r states = .ok b :=
        validateRequest_of_batch hb hr
      exact accepted_of_ok hvalid
    refine ⟨haccepted, ?_⟩
    have hone : ∀ r ∈ requests, CpuRouter.routeOneValidated
        ((CpuRouter.new agents coefficients).withDebugObserved debugObserved) r b =
        .ok (specResult debugObserved r (scoredAgents agents states r coefficients)) := by
      intro r hr
      obtain ⟨hagents, hpaired, huniform⟩ := haccepted r hr
      have hspec := routeOne_spec coefficients debugObserved hids huniform hpaired rfl hagents
      unfold CpuRouter.routeOne at hspec
      rw [validateRequest_of_batch hb hr] at hspec
      exact hspec
    rw [mapM_ok hone] at hrouted
    exact (Except.ok.inj hrouted).symm

omit [Std.TransCmp (F32.totalCmp (F := F))] in
/-- The first agent of an exact result: the best that is available, or the fallback. -/
theorem firstCandidateId_spec {debugObserved : Bool} {request : RoutingRequest F}
    {scored : List (RouteCandidate F)} (hk : 0 < request.k) :
    firstCandidateId (specResult debugObserved request scored) =
      ((sortBy (compareCandidate .available) (scored.filter RouteCandidate.available)).head?.map
        RouteCandidate.agentId).getD request.fallbackGeneralistId := by
  have hhead : (topOf .available request.k (scored.filter RouteCandidate.available)).head? = _ :=
    head?_topOf (Nat.pos_iff_ne_zero.mp hk) _
  unfold firstCandidateId specResult finish
  rw [← hhead]
  cases topOf .available request.k (scored.filter RouteCandidate.available) with
  | nil => rfl
  | cons first rest =>
    dsimp only
    split <;> rfl

end

/-! Scanning some of the agents. -/

section
variable [F32 F] {agents : List (AgentProfile F)} {states : List (AgentRuntimeState F)}
  {request : RoutingRequest F} {coefficients : ScoreCoefficients F}

/-- The fields the prefilter keeps of a candidate. -/
def summary (c : RouteCandidate F) : PrefilterCandidate F :=
  ⟨c.agentId, c.effectiveDistance, c.baseDistance, c.available⟩

theorem scoreAgent_ok (coefficients : ScoreCoefficients F) (h : Accepted agents states request)
    {i : Nat} (hi : i < agents.length) :
    ∃ c, (scoredAgents agents states request coefficients)[i]? = some c ∧
      agents[i].id = c.agentId ∧
      scoreAgent agents states request coefficients i = .ok (summary c) := by
  have hstate : i < states.length := by
    rw [h.paired]
    exact hi
  have hscored : i < (scoredAgents agents states request coefficients).length := by
    rw [length_scoredAgents h.paired]
    exact hi
  have hlen : request.vector.length = agents[i].vector.length :=
    (h.uniform agents[i] (List.getElem_mem hi)).symm
  refine ⟨_, List.getElem?_eq_getElem hscored, ?_, ?_⟩
  · rw [scoredAgents_getElem hscored hi hstate]
    rfl
  · unfold scoreAgent
    rw [Checked.read_lt hi, Checked.ok_bind, Checked.read_lt hstate, Checked.ok_bind,
      scoreCompactCandidateChecked_ok hlen, Checked.ok_bind,
      scoredAgents_getElem hscored hi hstate]
    rfl

/-- The availability of the agents is that of their states. -/
theorem filter_available_ne_nil (coefficients : ScoreCoefficients F)
    (h : Accepted agents states request) :
    (scoredAgents agents states request coefficients).filter RouteCandidate.available ≠ [] ↔
      states.any AgentRuntimeState.isAvailable = true := by
  have havailable : (scoredAgents agents states request coefficients).map RouteCandidate.available =
      states.map AgentRuntimeState.isAvailable := by
    apply List.ext_getElem
    · rw [List.length_map, List.length_map, length_scoredAgents h.paired, h.paired]
    · intro i hi hi'
      rw [List.length_map] at hi hi'
      have hagent : i < agents.length := by
        rw [← h.paired]
        exact hi'
      rw [List.getElem_map, List.getElem_map, scoredAgents_getElem hi hagent hi']
      rfl
  have hany : (scoredAgents agents states request coefficients).any RouteCandidate.available =
      states.any AgentRuntimeState.isAvailable := by
    rw [← Function.id_comp RouteCandidate.available, ← List.any_map, havailable, List.any_map,
      Function.id_comp]
  rw [← hany, ← Bool.not_eq_false, List.any_eq_false]
  exact not_congr List.filter_eq_nil_iff

/-- The candidates' scores are those of the exact scan. -/
theorem scored_candidates (coefficients : ScoreCoefficients F)
    (h : Accepted agents states request) {candidates : List Nat}
    (hlt : ∀ i ∈ candidates, i < agents.length) :
    (∀ i ∈ candidates, ∃ c, scoreAgent agents states request coefficients i = .ok c) ∧
      scored agents states request coefficients candidates ⊆
        (scoredAgents agents states request coefficients).map summary := by
  refine ⟨?_, ?_⟩
  · intro i hi
    obtain ⟨c, _, _, hscore⟩ := scoreAgent_ok coefficients h (hlt i hi)
    exact ⟨_, hscore⟩
  · intro p hp
    obtain ⟨i, hi, hscore⟩ := mem_scored.mp hp
    obtain ⟨c, hc, _, hok⟩ := scoreAgent_ok coefficients h (hlt i hi)
    rw [← Except.ok.inj (hok.symm.trans hscore)]
    exact List.mem_map_of_mem (List.mem_of_getElem? hc)

/-- Whether an agent of this id is among the candidates. -/
def reached (agents : List (AgentProfile F)) (candidates : List Nat) (agentId : Nat) : Bool :=
  candidates.any fun i => agents[i]?.any fun agent => agent.id == agentId

/-- With distinct ids an agent is scored among the candidates exactly when its id is there. -/
theorem reached_iff (h : Accepted agents states request)
    (hids : (agents.map AgentProfile.id).Nodup) {candidates : List Nat}
    (hlt : ∀ i ∈ candidates, i < agents.length) {c : RouteCandidate F}
    (hc : c ∈ scoredAgents agents states request coefficients) :
    summary c ∈ scored agents states request coefficients candidates ↔
      reached agents candidates c.agentId = true := by
  have hdistinct := distinct_scoredAgents hids h.paired request coefficients
  unfold reached
  rw [mem_scored, List.any_eq_true]
  apply exists_congr
  intro i
  apply and_congr_right
  intro hi
  obtain ⟨c', hc', hid, hscore⟩ := scoreAgent_ok coefficients h (hlt i hi)
  rw [hscore, Except.ok.injEq, List.getElem?_eq_getElem (hlt i hi), Option.any_some, beq_iff_eq, hid]
  refine ⟨?_, ?_⟩
  · intro heq
    exact congrArg PrefilterCandidate.agentId heq
  · intro heq
    rw [hdistinct c' (List.mem_of_getElem? hc') c hc heq]

variable [Std.TransCmp (F32.totalCmp (F := F))]

/-- A winner of all agents is the winner of the candidates exactly when it is one of them. -/
theorem best_of_candidates {cmp : PrefilterCandidate F → PrefilterCandidate F → Ordering}
    [Std.TransCmp cmp] {sort : CandidateSort}
    (hcmp : ∀ a b, cmp (summary a) (summary b) = compareCandidate sort a b)
    {all : List (RouteCandidate F)} (hdistinct : Distinct all) {met : List (PrefilterCandidate F)}
    (hsub : met ⊆ all.map summary) {winner : RouteCandidate F}
    (hwinner : (sortBy (compareCandidate sort) all).head? = some winner) :
    met.foldl (keepBetter cmp) none = some (summary winner) ↔ summary winner ∈ met := by
  obtain ⟨hmem, hleast⟩ := (head?_sortBy_iff (hdistinct.inj sort)).mp hwinner
  apply foldl_keepBetter_least cmp hsub
  · intro a ha b hb hab
    obtain ⟨x, hx, rfl⟩ := List.mem_map.mp ha
    obtain ⟨y, hy, rfl⟩ := List.mem_map.mp hb
    rw [hcmp] at hab
    rw [hdistinct.inj sort x hx y hy hab]
  · exact List.mem_map_of_mem hmem
  · intro b hb
    obtain ⟨y, hy, rfl⟩ := List.mem_map.mp hb
    rw [hcmp]
    exact hleast y hy

omit [F32 F] [Std.TransCmp (F32.totalCmp (F := F))] in
theorem eq_summary_of_id {all : List (RouteCandidate F)} (hdistinct : Distinct all)
    {winner : RouteCandidate F} (hwinner : winner ∈ all) {found : Option (PrefilterCandidate F)}
    (hfound : ∀ p, found = some p → p ∈ all.map summary) :
    found.map PrefilterCandidate.agentId = some winner.agentId ↔ found = some (summary winner) := by
  cases found with
  | none => exact iff_of_false (fun h => (nomatch h)) (fun h => (nomatch h))
  | some p =>
    obtain ⟨c, hc, rfl⟩ := List.mem_map.mp (hfound p rfl)
    refine ⟨?_, ?_⟩
    · intro hid
      rw [hdistinct c hc winner hwinner (Option.some.inj hid)]
    · intro heq
      rw [heq]
      rfl

/-- The agent an unconstrained scan would pick. -/
def nearestAgentId (agents : List (AgentProfile F)) (states : List (AgentRuntimeState F))
    (request : RoutingRequest F) (coefficients : ScoreCoefficients F) : Option Nat :=
  (sortBy (compareCandidate .observed)
    (scoredAgents agents states request coefficients)).head?.map RouteCandidate.agentId

theorem rescore_available (h : Accepted agents states request)
    (hids : (agents.map AgentProfile.id).Nodup) (hk : 0 < request.k) {candidates : List Nat}
    (hlt : ∀ i ∈ candidates, i < agents.length) {best : Rescored F}
    (hbest : rescore agents states request coefficients candidates = .ok best) :
    best.bestAvailable.map PrefilterCandidate.agentId = some (firstCandidateId
        (specResult false request (scoredAgents agents states request coefficients))) ↔
      states.any AgentRuntimeState.isAvailable = true ∧
        reached agents candidates (firstCandidateId
          (specResult false request (scoredAgents agents states request coefficients))) = true := by
  have hdistinct := (distinct_scoredAgents hids h.paired request coefficients).filter
    RouteCandidate.available
  obtain ⟨_, hsub⟩ := scored_candidates coefficients h hlt
  obtain ⟨_, rfl⟩ := rescore_ok_iff.mp hbest
  have hsub' : (scored agents states request coefficients candidates).filter
      PrefilterCandidate.available ⊆ ((scoredAgents agents states request coefficients).filter
        RouteCandidate.available).map summary := by
    intro p hp
    obtain ⟨hp, havailable⟩ := List.mem_filter.mp hp
    obtain ⟨c, hc, rfl⟩ := List.mem_map.mp (hsub hp)
    exact List.mem_map_of_mem (List.mem_filter.mpr ⟨hc, havailable⟩)
  rw [foldl_push, firstCandidateId_spec hk]
  dsimp only
  cases hwinner : (sortBy (compareCandidate .available)
      ((scoredAgents agents states request coefficients).filter RouteCandidate.available)).head? with
  | none =>
    -- no agent is available, so none of the candidates is
    have hnil : (scoredAgents agents states request coefficients).filter
        RouteCandidate.available = [] := by
      rw [List.head?_eq_none_iff] at hwinner
      have hperm : (sortBy (compareCandidate .available) ((scoredAgents agents states request
          coefficients).filter RouteCandidate.available)).Perm _ := sortBy_perm _
      rw [hwinner] at hperm
      exact hperm.nil_eq.symm
    rw [hnil, List.map_nil, List.subset_nil] at hsub'
    rw [hsub', ← filter_available_ne_nil coefficients h]
    exact iff_of_false (fun hsome => (nomatch hsome)) fun hany => hany.1 hnil
  | some winner =>
    obtain ⟨hmem, _⟩ := (head?_sortBy_iff (hdistinct.inj .available)).mp hwinner
    obtain ⟨hscored, havailable⟩ := List.mem_filter.mp hmem
    show _ = some winner.agentId ↔ _ ∧ reached agents candidates winner.agentId = true
    rw [eq_summary_of_id hdistinct hmem fun p hp => hsub' (mem_of_foldl_keepBetter _ hp),
      best_of_candidates (fun _ _ => rfl) hdistinct hsub' hwinner, List.mem_filter,
      reached_iff h hids hlt hscored, ← filter_available_ne_nil coefficients h,
      and_comm]
    exact and_congr_left' (iff_of_true havailable (List.ne_nil_of_mem hmem))

theorem rescore_observed (h : Accepted agents states request)
    (hids : (agents.map AgentProfile.id).Nodup) (hk : 0 < request.k) {candidates : List Nat}
    (hlt : ∀ i ∈ candidates, i < agents.length) {best : Rescored F}
    (hbest : rescore agents states request coefficients candidates = .ok best) {nearest : Nat}
    (hnearest : nearestAgentId agents states request coefficients = some nearest)
    (hreached : reached agents candidates nearest = true) :
    best.observedBest.map (fun candidate => !candidate.available) = some
      (specResult false request
        (scoredAgents agents states request coefficients)).idealCandidateUnavailable := by
  have hdistinct := distinct_scoredAgents hids h.paired request coefficients
  obtain ⟨_, hsub⟩ := scored_candidates coefficients h hlt
  obtain ⟨_, rfl⟩ := rescore_ok_iff.mp hbest
  obtain ⟨winner, hwinner, rfl⟩ := Option.map_eq_some_iff.mp hnearest
  obtain ⟨hmem, _⟩ := (head?_sortBy_iff (hdistinct.inj .observed)).mp hwinner
  have hbest : (scored agents states request coefficients candidates).foldl
      (keepBetter PrefilterCandidate.cmpObserved) none = some (summary winner) := by
    apply (best_of_candidates (fun _ _ => rfl) hdistinct hsub hwinner).mpr
    exact (reached_iff h hids hlt hmem).mpr hreached
  rw [foldl_push]
  show (List.foldl _ none _).map _ = some (idealUnavailable (topOf .observed request.k _))
  unfold idealUnavailable
  rw [hbest, head?_topOf (Nat.pos_iff_ne_zero.mp hk), hwinner]
  rfl

end

/-! The tasks one after another. -/

section
variable [GridF32 F] {select : SelectNth (F × Nat)} {agents : List (AgentProfile F)}
  {states : List (AgentRuntimeState F)} {coefficients : ScoreCoefficients F}
  {index : LayeredGridIndex F} {expectedAgentIds : List Nat} {expectedIdealFlags : List Bool}
  {budget : Nat}

theorem isSomeAndExpected_ok {α : Type} [DecidableEq α] (found : Option α) {expected : List α}
    {taskIndex : Nat} {e : α} (h : expected[taskIndex]? = some e) :
    isSomeAndExpected found expected taskIndex = .ok (decide (found = some e)) := by
  cases found with
  | none => rfl
  | some a =>
    show (Checked.read expected taskIndex >>= fun e => Except.ok (decide (a = e))) = _
    rw [Checked.read_ok h, Checked.ok_bind]
    simp only [Option.some.injEq]

theorem countIf_ok {count : Nat} (h : count + 1 < 2 ^ 64) (isMatch : Bool) :
    countIf count isMatch = .ok (count + isMatch.toNat) := by
  cases isMatch with
  | false => rfl
  | true => exact Checked.add_ok h

/-- What a task adds to the counts. -/
def TaskAdds (select : SelectNth (F × Nat)) (agents : List (AgentProfile F))
    (states : List (AgentRuntimeState F)) (coefficients : ScoreCoefficients F)
    (index : LayeredGridIndex F) (expectedAgentIds : List Nat) (expectedIdealFlags : List Bool)
    (budget size : Nat) (top1 ideal : Bool) (task : RoutingRequest F × Nat) : Prop :=
  ∀ counts : PrefilterCounts, counts.totalCandidates + size < 2 ^ 64 →
    counts.top1Matches + 1 < 2 ^ 64 → counts.idealMatches + 1 < 2 ^ 64 →
    profileTask select agents states coefficients index expectedAgentIds expectedIdealFlags budget
      counts task = .ok ⟨counts.totalCandidates + size, counts.top1Matches + top1.toNat,
        counts.idealMatches + ideal.toNat⟩

theorem profile_run {size : Nat} {top1 near : RoutingRequest F × Nat → Bool}
    {tasks : List (RoutingRequest F × Nat)}
    (h : ∀ task ∈ tasks, ∃ ideal : Bool, (near task = true → ideal = true) ∧
      TaskAdds select agents states coefficients index expectedAgentIds expectedIdealFlags budget
        size (top1 task) ideal task)
    (counts : PrefilterCounts) (htotal : counts.totalCandidates + tasks.length * size < 2 ^ 64)
    (htop1 : counts.top1Matches + tasks.length < 2 ^ 64)
    (hideal : counts.idealMatches + tasks.length < 2 ^ 64) :
    ∃ out, tasks.foldlM (profileTask select agents states coefficients index expectedAgentIds
        expectedIdealFlags budget) counts = .ok out ∧
      out.totalCandidates = counts.totalCandidates + tasks.length * size ∧
      out.top1Matches = counts.top1Matches + tasks.countP top1 ∧
      counts.idealMatches + tasks.countP near ≤ out.idealMatches ∧
      out.idealMatches ≤ counts.idealMatches + tasks.length := by
  induction tasks generalizing counts with
  | nil => exact ⟨counts, rfl, by simp, rfl, Nat.le_refl _, Nat.le_refl _⟩
  | cons task tasks ih =>
    obtain ⟨ideal, hnear, hadds⟩ := h task List.mem_cons_self
    rw [List.length_cons] at htotal htop1 hideal
    rw [Nat.add_mul, Nat.one_mul] at htotal
    have hflag : ideal.toNat ≤ 1 := Bool.toNat_le ideal
    have htoNat : (top1 task).toNat ≤ 1 := Bool.toNat_le _
    have hstep := hadds counts (by omega) (by omega) (by omega)
    obtain ⟨out, hout, ht, h1, hle, hge⟩ := ih (fun t ht => h t (List.mem_cons_of_mem _ ht))
      ⟨counts.totalCandidates + size, counts.top1Matches + (top1 task).toNat,
        counts.idealMatches + ideal.toNat⟩ (by dsimp only; omega) (by dsimp only; omega)
      (by dsimp only; omega)
    dsimp only at ht h1 hle hge
    have hcount : (if near task = true then 1 else 0) ≤ ideal.toNat := by
      split
      · rename_i hn
        rw [hnear hn]
        exact Nat.le_refl 1
      · exact Nat.zero_le _
    have hhit : (if top1 task = true then 1 else 0) = (top1 task).toNat := by
      cases top1 task <;> rfl
    rw [List.foldlM_cons, hstep, Checked.ok_bind]
    refine ⟨out, hout, ?_, ?_, ?_, ?_⟩
    · rw [ht, List.length_cons, Nat.add_mul, Nat.one_mul]
      omega
    · rw [h1, List.countP_cons, hhit]
      omega
    · rw [List.countP_cons]
      omega
    · rw [List.length_cons]
      omega

/-- The prefilter's answer. -/
def queried (select : SelectNth (F × Nat)) (index : LayeredGridIndex F) (budget : Nat)
    (request : RoutingRequest F) : List Nat :=
  match index.candidateIndices select request budget with
  | .ok candidates => candidates
  | .error _ => []

/-- Whether the prefilter keeps the agent an unconstrained scan would pick. -/
def keepsNearest (select : SelectNth (F × Nat)) (agents : List (AgentProfile F))
    (states : List (AgentRuntimeState F)) (coefficients : ScoreCoefficients F)
    (index : LayeredGridIndex F) (budget : Nat) (request : RoutingRequest F) : Bool :=
  (nearestAgentId agents states request coefficients).any
    (reached agents (queried select index budget request))

/-- Whether it keeps the first agent of the exact result, with an agent to be first. -/
def keepsFirst (select : SelectNth (F × Nat)) (agents : List (AgentProfile F))
    (states : List (AgentRuntimeState F)) (index : LayeredGridIndex F) (budget : Nat)
    (task : RoutingRequest F × RoutingResult F) : Bool :=
  states.any AgentRuntimeState.isAvailable &&
    reached agents (queried select index budget task.1) (firstCandidateId task.2)

variable [Std.TransCmp (F32.totalCmp (F := F))] {request : RoutingRequest F}

theorem profileTask_adds (hbuilt : LayeredGridIndex.Built agents index)
    (h : Accepted agents states request) (hids : (agents.map AgentProfile.id).Nodup)
    (hk : 0 < request.k) {taskIndex : Nat} {result : RoutingResult F}
    (hresult : result = specResult false request (scoredAgents agents states request coefficients))
    (hid : expectedAgentIds[taskIndex]? = some (firstCandidateId result))
    (hflag : expectedIdealFlags[taskIndex]? = some result.idealCandidateUnavailable) :
    ∃ ideal : Bool,
      (keepsNearest select agents states coefficients index budget request = true →
        ideal = true) ∧
      TaskAdds select agents states coefficients index expectedAgentIds expectedIdealFlags budget
        (min budget agents.length) (keepsFirst select agents states index budget (request, result))
        ideal (request, taskIndex) := by
  obtain ⟨candidates, hcandidates, _, hlt, hlen⟩ :=
    LayeredGridIndex.candidateIndices_spec hbuilt select request budget
  have hqueried : queried select index budget request = candidates := by
    unfold queried
    rw [hcandidates]
  obtain ⟨hscores, _⟩ := scored_candidates coefficients h hlt
  obtain ⟨best, hbest⟩ : ∃ best, rescore agents states request coefficients candidates = .ok best :=
    ⟨_, rescore_ok_iff.mpr ⟨hscores, rfl⟩⟩
  have htop1 : decide (best.bestAvailable.map PrefilterCandidate.agentId =
      some (firstCandidateId result)) =
      keepsFirst select agents states index budget (request, result) := by
    unfold keepsFirst
    rw [hresult, Bool.eq_iff_iff, decide_eq_true_iff, Bool.and_eq_true, hqueried]
    exact rescore_available h hids hk hlt hbest
  refine ⟨decide (best.observedBest.map (fun candidate => !candidate.available) =
    some result.idealCandidateUnavailable), ?_, ?_⟩
  · intro hkeeps
    obtain ⟨nearest, hnearest, hreached⟩ := (Option.any_eq_true _ _).mp hkeeps
    rw [hqueried] at hreached
    rw [hresult]
    exact decide_eq_true (rescore_observed h hids hk hlt hbest hnearest hreached)
  · intro counts htotal hmatches hideal
    unfold profileTask
    dsimp only
    rw [hcandidates, Checked.ok_bind, hlen, Checked.add_ok htotal, Checked.ok_bind, hbest,
      Checked.ok_bind, isSomeAndExpected_ok _ hid, Checked.ok_bind, countIf_ok hmatches,
      Checked.ok_bind, isSomeAndExpected_ok _ hflag, Checked.ok_bind, countIf_ok hideal,
      Checked.ok_bind, htop1]
    rfl

/-- At full budget every agent is among the candidates. -/
theorem reached_of_full (hbuilt : LayeredGridIndex.Built agents index)
    (hbudget : agents.length ≤ budget) {agentId : Nat}
    (hagent : agentId ∈ agents.map AgentProfile.id) :
    reached agents (queried select index budget request) agentId = true := by
  obtain ⟨candidates, hcandidates, hnodup, hlt, hlen⟩ :=
    LayeredGridIndex.candidateIndices_spec hbuilt select request budget
  have hperm : candidates.Perm (List.range agents.length) := by
    apply (subperm_range hnodup hlt).perm_of_length_le
    rw [List.length_range, hlen, Nat.min_eq_right hbudget]
  obtain ⟨agent, hmem, rfl⟩ := List.mem_map.mp hagent
  obtain ⟨i, hi, rfl⟩ := List.getElem_of_mem hmem
  unfold reached queried
  rw [hcandidates, List.any_eq_true]
  refine ⟨i, hperm.mem_iff.mpr (List.mem_range.mpr hi), ?_⟩
  rw [List.getElem?_eq_getElem hi]
  exact beq_self_eq_true _

/-- At full budget the prefilter keeps what the exact router picks. -/
theorem keeps_of_full (hbuilt : LayeredGridIndex.Built agents index)
    (h : Accepted agents states request) (hk : 0 < request.k) (hbudget : agents.length ≤ budget) :
    keepsFirst select agents states index budget (request,
        specResult false request (scoredAgents agents states request coefficients)) =
      states.any AgentRuntimeState.isAvailable ∧
    keepsNearest select agents states coefficients index budget request = true := by
  have hids' := scoredAgents_ids h.paired request coefficients
  refine ⟨?_, ?_⟩
  · unfold keepsFirst
    cases hany : states.any AgentRuntimeState.isAvailable with
    | false => rfl
    | true =>
      have hne := (filter_available_ne_nil coefficients h).mpr hany
      rw [firstCandidateId_spec hk]
      obtain ⟨first, hfirst, _⟩ := head?_sortBy_firstLeast (compareCandidate .available) hne
      have hmem : first ∈ scoredAgents agents states request coefficients :=
        List.mem_of_mem_filter (mem_sortBy.mp (List.mem_of_mem_head? hfirst))
      rw [hfirst, Bool.true_and]
      apply reached_of_full hbuilt hbudget
      rw [← hids']
      exact List.mem_map_of_mem hmem
  · have hne : scoredAgents agents states request coefficients ≠ [] := by
      apply List.ne_nil_of_length_pos
      rw [length_scoredAgents h.paired]
      exact List.length_pos_of_ne_nil h.nonempty
    obtain ⟨first, hfirst, hleast⟩ := head?_sortBy_firstLeast (compareCandidate .observed) hne
    unfold keepsNearest nearestAgentId
    rw [hfirst]
    apply reached_of_full hbuilt hbudget
    rw [← hids']
    exact List.mem_map_of_mem hleast.mem

end

/-! The profile. -/

section
variable [GridF32 F] [Std.TransCmp (F32.totalCmp (F := F))]

/-- The profile of an index against the exact results of its own fixture, as the router returned
them, does not panic. It counts the smaller of the budget and the number of agents for each request, a top1
match for just the requests whose exact first agent the prefilter keeps, and an ideal
match at least where it keeps the nearest agent. At full budget every request is an ideal
match, and a top1 match as soon as some agent is available. -/
theorem profile_recall {agents : List (AgentProfile F)} {states : List (AgentRuntimeState F)}
    {coefficients : ScoreCoefficients F} {requests : List (RoutingRequest F)}
    {results : List (RoutingResult F)} {workers bins : Nat} {strategy : PrefilterStrategy}
    {index : LayeredGridIndex F} (hids : (agents.map AgentProfile.id).Nodup)
    (hk : ∀ r ∈ requests, 0 < r.k)
    (hmem : ((CpuRouter.new agents coefficients).withDebugObserved false).InMemory)
    (hexact : ((CpuRouter.new agents coefficients).withDebugObserved
      false).routeBatchWithWorkersChecked requests states workers = .ok (.ok results))
    (hnew : LayeredGridIndex.new agents bins strategy = .ok index)
    (hprojections : strategy.projections ≠ []) (select : SelectNth (F × Nat)) (budget : Nat)
    (hrequests : requests.length < 2 ^ 64)
    (htotal : requests.length * min budget agents.length < 2 ^ 64) :
    ∃ counts, profilePrefilterBudget select agents states coefficients index
        (results.map firstCandidateId) (results.map RoutingResult.idealCandidateUnavailable) budget
        requests = .ok counts ∧
      counts.totalCandidates = requests.length * min budget agents.length ∧
      counts.top1Matches =
        (requests.zip results).countP (keepsFirst select agents states index budget) ∧
      requests.countP (keepsNearest select agents states coefficients index budget) ≤
        counts.idealMatches ∧
      counts.idealMatches ≤ requests.length ∧
      (agents.length ≤ budget → counts.idealMatches = requests.length ∧
        counts.top1Matches =
          if states.any AgentRuntimeState.isAvailable then requests.length else 0) := by
  have hbuilt := LayeredGridIndex.new_built hnew hprojections
  obtain ⟨haccepted, hresults⟩ :=
    batch_results hids (CpuRouter.routeBatchChecked_returned hmem hexact).symm
  have htasks : ∀ task ∈ requests.zipIdx, ∃ ideal : Bool,
      (keepsNearest select agents states coefficients index budget task.1 = true → ideal = true) ∧
      TaskAdds select agents states coefficients index (results.map firstCandidateId)
        (results.map RoutingResult.idealCandidateUnavailable) budget (min budget agents.length)
        (keepsFirst select agents states index budget (task.1,
          specResult false task.1 (scoredAgents agents states task.1 coefficients))) ideal task := by
    intro task htask
    have hget := List.mem_zipIdx_iff_getElem?.mp htask
    have hmem := List.mem_of_getElem? hget
    have hresult : results[task.2]? = some
        (specResult false task.1 (scoredAgents agents states task.1 coefficients)) := by
      rw [hresults, List.getElem?_map, hget]
      rfl
    apply profileTask_adds hbuilt (haccepted task.1 hmem) hids (hk task.1 hmem) rfl
    · rw [List.getElem?_map, hresult]
      rfl
    · rw [List.getElem?_map, hresult]
      rfl
  obtain ⟨counts, hcounts, hsum, htop1, hle, hge⟩ := profile_run htasks ⟨0, 0, 0⟩
    (by rw [List.length_zipIdx, Nat.zero_add]; exact htotal)
    (by rw [List.length_zipIdx, Nat.zero_add]; exact hrequests)
    (by rw [List.length_zipIdx, Nat.zero_add]; exact hrequests)
  have hover : ∀ p : RoutingRequest F → Bool,
      requests.zipIdx.countP (fun task => p task.1) = requests.countP p := by
    intro p
    rw [← Function.comp_def, ← List.countP_map, List.zipIdx_map_fst]
  rw [hover fun r => keepsFirst select agents states index budget (r, specResult false r
    (scoredAgents agents states r coefficients)), Nat.zero_add] at htop1
  rw [hover, Nat.zero_add] at hle
  rw [List.length_zipIdx, Nat.zero_add] at hge hsum
  refine ⟨counts, hcounts, hsum, ?_, hle, hge, ?_⟩
  · have hzip : requests.zip results = requests.map fun r =>
        (r, specResult false r (scoredAgents agents states r coefficients)) := by
      rw [hresults]
      nth_rewrite 1 [← List.map_id requests]
      exact List.zip_map'
    rw [htop1, hzip, List.countP_map]
    rfl
  · intro hbudget
    have hkeeps : ∀ r ∈ requests, keepsFirst select agents states index budget (r,
          specResult false r (scoredAgents agents states r coefficients)) =
        states.any AgentRuntimeState.isAvailable ∧
        keepsNearest select agents states coefficients index budget r = true := fun r hr =>
      keeps_of_full hbuilt (haccepted r hr) (hk r hr) hbudget
    refine ⟨?_, ?_⟩
    · rw [List.countP_eq_length.mpr fun r hr => (hkeeps r hr).2] at hle
      exact Nat.le_antisymm hge hle
    · rw [htop1, List.countP_congr fun r hr => by rw [(hkeeps r hr).1]]
      cases states.any AgentRuntimeState.isAvailable with
      | false => exact congrFun List.countP_false requests
      | true => exact congrFun List.countP_true requests

end

/-- The nearest agent is not available, and the profile finds the other one. -/
theorem profile_recall_pair :
    ∃ index, LayeredGridIndex.new pairAgents 2 ⟨[[0], [1]]⟩ = .ok index ∧
      ∃ counts, profilePrefilterBudget SelectNth.bySorting pairAgents pairStates ⟨1, 1, 1⟩ index
        [8] [true] 2 [pairRequest] = .ok counts ∧
        counts.totalCandidates = 2 ∧ counts.top1Matches = 1 ∧ counts.idealMatches = 1 := by
  obtain ⟨index, hnew⟩ :=
    (LayeredGridIndex.new_returns_iff pairAgents 2 ⟨[[0], [1]]⟩).mpr (by decide)
  have hmem : ((CpuRouter.new pairAgents ⟨1, 1, 1⟩).withDebugObserved false).InMemory := by
    apply CpuRouter.inMemory_of_agents
    intro first hfirst
    obtain rfl := Option.some.inj hfirst
    decide
  have hexact : ((CpuRouter.new pairAgents ⟨1, 1, 1⟩).withDebugObserved
      false).routeBatchWithWorkersChecked [pairRequest] pairStates 3 =
        .ok (.ok [⟨1, [⟨8, 1 + 1, 1 + 1, 1, 0, 0, 0, true⟩, fallbackCandidate 99], true, true,
          none⟩]) := by rfl
  obtain ⟨counts, hcounts, htotal, _, _, _, hfull⟩ := profile_recall (by decide) (by decide) hmem
    hexact hnew (by decide) SelectNth.bySorting 2 (by decide) (by decide)
  obtain ⟨hideal, htop1⟩ := hfull (Nat.le_refl 2)
  exact ⟨index, hnew, counts, hcounts, htotal, htop1, hideal⟩

end QTom.Bench
