import QTom.Lib.Rank
import QTom.Router.Fallback
import QTom.Router.Ranking

/- What a routing call owes to the agents it is given and to nothing else: the order they
   are listed in does not matter (`roster_order_irrelevant`), a smaller `k` only cuts the
   lists (`smaller_k_cuts`), and an agent that joins takes at most one place, leaving the
   others where they were (`joining_agent`). -/
namespace QTom.Router
open QTom.Lib

/-! A sorted selection and one entry more. -/

section Insertion
variable {α : Type*} {cmp : α → α → Ordering} [Std.TransCmp cmp] {before after : List α} {x : α}

/-- The entry is sorted in somewhere among the others. -/
theorem sortBy_insert
    (hinj : ∀ a ∈ before ++ x :: after, ∀ b ∈ before ++ x :: after, cmp a b = .eq → a = b) :
    ∃ low high, sortBy cmp (before ++ after) = low ++ high ∧
      sortBy cmp (before ++ x :: after) = low ++ x :: high := by
  have hmem : x ∈ sortBy cmp (before ++ x :: after) := mem_sortBy.mpr (by simp)
  obtain ⟨low, high, hsplit⟩ := List.append_of_mem hmem
  refine ⟨low, high, ?_, hsplit⟩
  have hsub : ∀ a ∈ before ++ after, a ∈ before ++ x :: after := by
    intro a ha
    simp only [List.mem_append, List.mem_cons] at ha ⊢
    tauto
  refine (eq_sortBy (fun a ha b hb => hinj a (hsub a ha) b (hsub b hb)) ?_ ?_).symm
  · have hperm : (low ++ x :: high).Perm (before ++ x :: after) := hsplit ▸ sortBy_perm _
    have hcons : (x :: (low ++ high)).Perm (x :: (before ++ after)) :=
      (List.perm_middle.symm.trans hperm).trans List.perm_middle
    exact hcons.cons_inv
  · have hsorted : (low ++ x :: high).Pairwise (fun a b => (cmp a b).isLE = true) :=
      hsplit ▸ sortBy_pairwise _
    exact hsorted.sublist (List.Sublist.append_left (List.sublist_cons_self x high) low)

/-- The entry takes a place of the first `k`, or none of them changes. -/
theorem take_insert {low high : List α} {p : α → Bool} (hx : p x = false)
    (hothers : ∀ a ∈ low ++ high, p a = true) (k : Nat) :
    (x ∉ (low ++ x :: high).take k → (low ++ x :: high).take k = (low ++ high).take k) ∧
    (x ∈ (low ++ x :: high).take k →
      ((low ++ x :: high).take k).filter p = (low ++ high).take (k - 1)) := by
  have hnot : x ∉ low ++ high := by
    intro hmem
    rw [hothers x hmem] at hx
    cases hx
  rw [List.mem_append, not_or] at hnot
  by_cases hk : k ≤ low.length
  · have hcut : ∀ rest, (low ++ rest).take k = low.take k :=
      fun rest => List.take_append_of_le_length hk
    rw [hcut, hcut]
    exact ⟨fun _ => rfl, fun hmem => absurd (List.mem_of_mem_take hmem) hnot.1⟩
  · obtain ⟨n, rfl⟩ : ∃ n, k = low.length + (n + 1) := ⟨k - low.length - 1, by omega⟩
    rw [List.take_length_add_append, List.take_succ_cons]
    refine ⟨fun hno => absurd (by simp) hno, fun _ => ?_⟩
    have hlow : low.filter p = low :=
      List.filter_eq_self.mpr fun a ha => hothers a (List.mem_append_left _ ha)
    have hhigh : (high.take n).filter p = high.take n :=
      List.filter_eq_self.mpr fun a ha =>
        hothers a (List.mem_append_right _ (List.mem_of_mem_take ha))
    rw [List.filter_append, hlow, List.filter_cons_of_neg (by rw [hx]; exact Bool.false_ne_true),
      hhigh, Nat.add_sub_assoc (by omega), Nat.add_sub_cancel, List.take_length_add_append]

end Insertion

/-! Rosters. -/

variable {F : Type} [F32 F]

/-- Agents, each with its state. -/
abbrev Roster (F : Type) := List (AgentProfile F × AgentRuntimeState F)

/-! What is returned. -/

/-- What the available accumulator returns, it was offered. -/
theorem mem_of_accumulated [Std.TransCmp (F32.totalCmp (F := F))] {k : Nat}
    {xs : List (CompactCandidate F)} {c : CompactCandidate F}
    (h : c ∈ (xs.foldl ProductionAvailableAccumulator.push
      (ProductionAvailableAccumulator.new k)).intoVec) : c ∈ xs := by
  unfold ProductionAvailableAccumulator.new at h
  split at h
  · rw [foldl_available_best] at h
    obtain ⟨hsort, _, hrun⟩ := BestCandidate.run_holds (BestCandidate.new_holds .available) xs
    exact hrun.selection.subperm.subset h
  · rw [foldl_available_topK] at h
    exact (BoundedTopK.stored_run k .available xs).2.1.subset h

/-- Without debug output a request is returned agents of the table, and the fallback. -/
theorem routed_candidates [Std.TransCmp (F32.totalCmp (F := F))] {router : CpuRouter F}
    (hdebug : router.debugObserved = false) {request : RoutingRequest F} {b : ValidatedBatch F}
    {result : RoutingResult F} (h : router.routeOneValidated request b = .ok result) :
    result.debug = none ∧ ∀ c ∈ result.availableCandidates,
      c ∈ b.candidates request.vector router.coefficients ∨
        c = fallbackCandidate request.fallbackGeneralistId := by
  rw [routeOneValidated_production hdebug, foldl_accumulator] at h
  obtain rfl := Except.ok.inj h
  refine ⟨rfl, ?_⟩
  intro c hc
  have hlisted : c ∈ (((b.candidates request.vector router.coefficients).filter
      RouteCandidate.available).foldl ProductionAvailableAccumulator.push
        (ProductionAvailableAccumulator.new request.k)).intoVec ∨
      c = fallbackCandidate request.fallbackGeneralistId := by
    change c ∈ if _ then _ ++ [_] else _ at hc
    split at hc
    · rw [List.mem_append, List.mem_singleton] at hc
      exact hc
    · exact Or.inl hc
  exact hlisted.imp_left fun hmem => List.mem_of_mem_filter (mem_of_accumulated hmem)

/-- A routing call over the agents and states of a roster. -/
def routeRoster (coefficients : ScoreCoefficients F) (debugObserved : Bool) (roster : Roster F)
    (request : RoutingRequest F) : Except RouteError (RoutingResult F) :=
  ((CpuRouter.new (roster.map Prod.fst) coefficients).withDebugObserved debugObserved).routeOne
    request (roster.map Prod.snd)

def Roster.ids (roster : Roster F) : List Nat := roster.map fun row => row.1.id

/-- The roster's agents, scored. -/
def Roster.scored (roster : Roster F) (request : RoutingRequest F)
    (coefficients : ScoreCoefficients F) : List (RouteCandidate F) :=
  roster.map fun row => scoreCompactCandidate request.vector coefficients row.1.id row.1.vector row.2

section Rosters
variable [Std.TransCmp (F32.totalCmp (F := F))] {roster : Roster F} {request : RoutingRequest F}
  {coefficients : ScoreCoefficients F} {debugObserved : Bool}

omit [Std.TransCmp (F32.totalCmp (F := F))] in
theorem Roster.scored_eq (roster : Roster F) (request : RoutingRequest F)
    (coefficients : ScoreCoefficients F) :
    scoredAgents (roster.map Prod.fst) (roster.map Prod.snd) request coefficients =
      roster.scored request coefficients := by
  unfold scoredAgents Roster.scored
  rw [List.zipWith_map, List.zipWith_self]

omit [Std.TransCmp (F32.totalCmp (F := F))] in
theorem Roster.ids_scored (roster : Roster F) (request : RoutingRequest F)
    (coefficients : ScoreCoefficients F) :
    (roster.scored request coefficients).map RouteCandidate.agentId = roster.ids :=
  List.map_map

omit [Std.TransCmp (F32.totalCmp (F := F))] in
theorem Roster.distinct (hids : roster.ids.Nodup) (request : RoutingRequest F)
    (coefficients : ScoreCoefficients F) : Distinct (roster.scored request coefficients) := by
  rw [← roster.ids_scored request coefficients] at hids
  exact fun a ha b hb heq => List.inj_on_of_nodup_map hids ha hb heq

/-- A call over at least one agent, for a request of the agents' dimension. -/
theorem routeRoster_spec (hne : roster ≠ []) (hids : roster.ids.Nodup)
    (hdim : ∀ row ∈ roster, row.1.vector.length = request.vector.length) :
    routeRoster coefficients debugObserved roster request =
      .ok (specResult debugObserved request (roster.scored request coefficients)) := by
  have hidsOf : ((roster.map Prod.fst).map AgentProfile.id).Nodup := by
    rw [List.map_map]
    exact hids
  have huniform : AgentRouteTable.Uniform request.vector.length (roster.map Prod.fst) :=
    List.forall_mem_map.mpr hdim
  unfold routeRoster
  rw [routeOne_spec coefficients debugObserved hidsOf huniform
    (by rw [List.length_map, List.length_map]) rfl (by rwa [Ne, List.map_eq_nil_iff]),
    roster.scored_eq]

omit [Std.TransCmp (F32.totalCmp (F := F))] in
/-- A request of another dimension. -/
theorem routeRoster_mismatch {d : Nat} (hne : roster ≠ [])
    (hdim : ∀ row ∈ roster, row.1.vector.length = d) (hrequest : request.vector.length ≠ d) :
    routeRoster coefficients debugObserved roster request =
      .error (.dimensionMismatch d request.vector.length "routing request") := by
  have huniform : AgentRouteTable.Uniform d (roster.map Prod.fst) := List.forall_mem_map.mpr hdim
  have hagents : roster.map Prod.fst ≠ [] := by rwa [Ne, List.map_eq_nil_iff]
  have hempty : (AgentRouteTable.ofAgents d (roster.map Prod.fst) huniform).isEmpty = false := by
    show ((roster.map Prod.fst).map AgentProfile.id).isEmpty = false
    rw [List.isEmpty_map, List.isEmpty_eq_false_iff]
    exact hagents
  have hlen : (AgentRouteTable.ofAgents d (roster.map Prod.fst) huniform).len =
      (roster.map Prod.snd).length := by
    show ((roster.map Prod.fst).map AgentProfile.id).length = _
    rw [List.length_map, List.length_map, List.length_map]
  have hcheck : checkRequest d request =
      .error (.dimensionMismatch d request.vector.length "routing request") := if_pos hrequest
  have hchecks : checkRequests
      (AgentRouteTable.ofAgents d (roster.map Prod.fst) huniform).dimensions [request] =
      .error (.dimensionMismatch d request.vector.length "routing request") := by
    show (do checkRequest d request; _) = _
    rw [hcheck]
    rfl
  simp only [routeRoster, CpuRouter.routeOne, CpuRouter.validateRequest, CpuRouter.validateBatch,
    CpuRouter.new, CpuRouter.withDebugObserved, AgentRouteTable.fromAgents_uniform huniform hagents,
    bind, Except.bind, hempty]
  rw [if_neg Bool.false_ne_true, dif_neg (not_not.mpr hlen), hchecks]

/-- What a call that returns had, and what it returns. -/
theorem routeRoster_ok (hids : roster.ids.Nodup) {result : RoutingResult F}
    (h : routeRoster coefficients debugObserved roster request = .ok result) :
    (roster ≠ [] ∧ ∀ row ∈ roster, row.1.vector.length = request.vector.length) ∧
      result = specResult debugObserved request (roster.scored request coefficients) := by
  have hidsOf : ((roster.map Prod.fst).map AgentProfile.id).Nodup := by
    rw [List.map_map]
    exact hids
  obtain ⟨haccepted, hresult⟩ := routeOne_ranked hidsOf h
  rw [roster.scored_eq] at hresult
  refine ⟨⟨?_, List.forall_mem_map.mp haccepted.uniform⟩, hresult⟩
  intro hnil
  apply haccepted.nonempty
  rw [hnil]
  rfl

/-! The order of the agents. -/

omit [Std.TransCmp (F32.totalCmp (F := F))] in
theorem Roster.scored_perm {roster' : Roster F} (h : roster.Perm roster') :
    (roster.scored request coefficients).Perm (roster'.scored request coefficients) := h.map _

theorem topOf_perm {scored scored' : List (RouteCandidate F)} (hperm : scored.Perm scored')
    (h : Distinct scored') (sort : CandidateSort) (k : Nat) :
    topOf sort k scored = topOf sort k scored' := by
  unfold topOf
  rw [sortBy_eq_of_perm hperm (h.inj sort)]

/-- Over agents of one dimension with distinct ids, the order in which the agents and
their states are listed changes nothing: the same error, or the same result in every
field. -/
theorem roster_order_irrelevant {roster' : Roster F} (hperm : roster.Perm roster')
    (hids : roster.ids.Nodup) {d : Nat} (hdim : ∀ row ∈ roster, row.1.vector.length = d) :
    routeRoster coefficients debugObserved roster request =
      routeRoster coefficients debugObserved roster' request := by
  by_cases hne : roster = []
  · subst hne
    rw [hperm.nil_eq]
  have hne' : roster' ≠ [] := fun hnil => hne (hnil ▸ hperm).eq_nil
  have hids' : roster'.ids.Nodup := (hperm.map _).nodup_iff.mp hids
  have hdim' : ∀ row ∈ roster', row.1.vector.length = d :=
    fun row hrow => hdim row (hperm.mem_iff.mpr hrow)
  by_cases hrequest : request.vector.length = d
  · subst hrequest
    have hdistinct := roster'.distinct hids' request coefficients
    have hscored : (roster.scored request coefficients).Perm
        (roster'.scored request coefficients) := Roster.scored_perm hperm
    rw [routeRoster_spec hne hids hdim, routeRoster_spec hne' hids' hdim']
    unfold specResult
    rw [topOf_perm hscored hdistinct,
      topOf_perm (hscored.filter RouteCandidate.available) (hdistinct.filter _)]
  · rw [routeRoster_mismatch hne hdim hrequest, routeRoster_mismatch hne' hdim' hrequest]

/-! A smaller `k`. -/

omit [Std.TransCmp (F32.totalCmp (F := F))] in
theorem finish_usedFallback_congr {candidates candidates' : List (RouteCandidate F)}
    (h : candidates.head? = candidates'.head?) {request' : RoutingRequest F}
    (hradius : request.radiusMaxThreshold = request'.radiusMaxThreshold) (ideal ideal' : Bool)
    (debug debug' : Option (RouteDebugInfo F)) :
    (finish request candidates ideal debug).usedFallback =
      (finish request' candidates' ideal' debug').usedFallback := by
  unfold finish
  dsimp only
  rw [h, hradius]

/-- What a result for `k` is beside one for more. -/
structure CutTo (k : Nat) (result full : RoutingResult F) : Prop where
  agents : result.agentCandidates = full.agentCandidates.take k
  fallback : result.usedFallback = full.usedFallback
  ideal : result.idealCandidateUnavailable = full.idealCandidateUnavailable
  debug : result.debug = full.debug.map fun info => ⟨info.observedCandidates.take k⟩

omit [Std.TransCmp (F32.totalCmp (F := F))] in
theorem topOf_take {k k' : Nat} (hle : k ≤ k') (sort : CandidateSort)
    (scored : List (RouteCandidate F)) : topOf sort k scored = (topOf sort k' scored).take k := by
  unfold topOf
  rw [List.take_take, Nat.min_eq_left hle]

/-- Asking for fewer candidates, but at least one, cuts the lists and changes no
decision: who comes first, whether the fallback is used and whether the ideal agent was
unavailable stay as they are. -/
theorem smaller_k_cuts {k : Nat} (hk : 0 < k) (hle : k ≤ request.k) (hids : roster.ids.Nodup)
    {full : RoutingResult F}
    (h : routeRoster coefficients debugObserved roster request = .ok full) :
    ∃ result, routeRoster coefficients debugObserved roster { request with k } = .ok result ∧
      CutTo k result full := by
  obtain ⟨⟨hne, hdim⟩, hfull⟩ := routeRoster_ok hids h
  have hpos : request.k ≠ 0 := by omega
  have hhead : ∀ sort scored, (topOf (F := F) sort k scored).head? =
      (topOf sort request.k scored).head? := by
    intro sort scored
    rw [head?_topOf (by omega), head?_topOf hpos]
  have hcut : routeRoster coefficients debugObserved roster { request with k } = .ok (specResult
      debugObserved { request with k } (roster.scored request coefficients)) :=
    routeRoster_spec hne hids hdim
  refine ⟨_, hcut, ?_, ?_, ?_, ?_⟩
  · rw [hfull]
    unfold specResult
    rw [finish_agentCandidates, finish_agentCandidates]
    exact topOf_take hle _ _
  · rw [hfull]
    exact finish_usedFallback_congr (hhead _ _) rfl _ _ _ _
  · rw [hfull]
    show idealUnavailable (topOf .observed k _) = idealUnavailable (topOf .observed request.k _)
    unfold idealUnavailable
    rw [hhead]
  · rw [hfull]
    show (if debugObserved then _ else _) = Option.map _ (if debugObserved then _ else _)
    cases debugObserved with
    | false => rfl
    | true =>
      show some _ = some _
      congr 2
      exact topOf_take hle _ _

/-! An agent that joins. -/

/-- What an agent joining does to a list of at most `k`: it takes a place of its own,
and the last of a full list goes, or nothing changes. -/
structure Joins (agentId k : Nat) (before after : List (RouteCandidate F)) : Prop where
  out : agentId ∉ after.map RouteCandidate.agentId → after = before
  taken : agentId ∈ after.map RouteCandidate.agentId →
    after.filter (fun c => c.agentId ≠ agentId) = before.take (k - 1)

theorem topOf_joins {before after : List (RouteCandidate F)} {c : RouteCandidate F}
    (hdistinct : Distinct (before ++ c :: after))
    (hothers : ∀ b ∈ before ++ after, b.agentId ≠ c.agentId) (sort : CandidateSort) (k : Nat) :
    Joins c.agentId k (topOf sort k (before ++ after)) (topOf sort k (before ++ c :: after)) := by
  obtain ⟨low, high, hwithout, hwith⟩ := sortBy_insert (hdistinct.inj sort)
  have hlow : ∀ a ∈ low ++ high, decide (a.agentId ≠ c.agentId) = true := by
    intro a ha
    rw [← hwithout] at ha
    exact decide_eq_true (hothers a (mem_sortBy.mp ha))
  have hc : decide (c.agentId ≠ c.agentId) = false := decide_eq_false (not_not.mpr rfl)
  obtain ⟨hout, htaken⟩ :=
    take_insert (p := fun a : RouteCandidate F => decide (a.agentId ≠ c.agentId)) hc hlow k
  -- an id stands for one candidate
  have hmem : c.agentId ∈ ((low ++ c :: high).take k).map RouteCandidate.agentId ↔
      c ∈ (low ++ c :: high).take k := by
    refine ⟨?_, List.mem_map_of_mem⟩
    intro h
    obtain ⟨a, ha, hid⟩ := List.mem_map.mp h
    have ha' := List.mem_of_mem_take ha
    rw [List.mem_append, List.mem_cons] at ha'
    have hsame : a = c := by
      by_contra hne
      have hrest : a ∈ low ++ high := by
        rw [List.mem_append]
        tauto
      exact of_decide_eq_true (hlow a hrest) hid
    exact hsame ▸ ha
  unfold topOf
  rw [hwithout, hwith]
  refine ⟨fun h => hout fun hin => h (hmem.mpr hin), ?_⟩
  intro h
  rw [List.take_take, Nat.min_eq_left (Nat.sub_le k 1)]
  exact htaken (hmem.mp h)

/-- The selection of the available ones, whether or not the agent that joins is one. -/
theorem available_joins {before after : List (RouteCandidate F)} {c : RouteCandidate F}
    (hdistinct : Distinct (before ++ c :: after))
    (hothers : ∀ b ∈ before ++ after, b.agentId ≠ c.agentId) (k : Nat) :
    Joins c.agentId k (topOf .available k ((before ++ after).filter RouteCandidate.available))
      (topOf .available k ((before ++ c :: after).filter RouteCandidate.available)) := by
  have hrest : ∀ b ∈ before.filter RouteCandidate.available ++ after.filter RouteCandidate.available,
      b.agentId ≠ c.agentId := by
    intro b hb
    rw [← List.filter_append] at hb
    exact hothers b (List.mem_of_mem_filter hb)
  have hfiltered := hdistinct.filter RouteCandidate.available
  rw [List.filter_append, List.filter_cons] at hfiltered
  rw [List.filter_append, List.filter_append, List.filter_cons]
  cases hc : c.available with
  | true =>
    rw [hc, if_pos rfl] at hfiltered
    rw [if_pos rfl]
    exact topOf_joins hfiltered hrest .available k
  | false =>
    rw [if_neg Bool.false_ne_true]
    refine ⟨fun _ => rfl, ?_⟩
    intro h
    obtain ⟨b, hb, hid⟩ := List.mem_map.mp h
    exact absurd hid (hrest b (mem_sortBy.mp (List.mem_of_mem_take hb)))

omit [Std.TransCmp (F32.totalCmp (F := F))] in
theorem Roster.scored_split (before after : Roster F) (row : AgentProfile F × AgentRuntimeState F)
    (request : RoutingRequest F) (coefficients : ScoreCoefficients F) :
    (before ++ row :: after : Roster F).scored request coefficients =
      Roster.scored before request coefficients ++
        scoreCompactCandidate request.vector coefficients row.1.id row.1.vector row.2 ::
        Roster.scored after request coefficients := by
  unfold Roster.scored
  rw [List.map_append, List.map_cons]

omit [Std.TransCmp (F32.totalCmp (F := F))] in
/-- The other agents have other ids. -/
theorem Roster.scored_others {before after : Roster F} {row : AgentProfile F × AgentRuntimeState F}
    (hids : (before ++ row :: after : Roster F).ids.Nodup) (request : RoutingRequest F)
    (coefficients : ScoreCoefficients F) :
    ∀ b ∈ Roster.scored before request coefficients ++ Roster.scored after request coefficients,
      b.agentId ≠ row.1.id := by
  have hperm : ((before ++ row :: after).map fun row => row.1.id).Perm
      ((row :: (before ++ after)).map fun row => row.1.id) := List.perm_middle.map _
  have hnodup := List.nodup_cons.mp (hperm.nodup_iff.mp hids)
  intro b hb hid
  apply hnodup.1
  show row.1.id ∈ (before ++ after : Roster F).ids
  rw [← Roster.ids_scored _ request coefficients, ← hid]
  unfold Roster.scored
  rw [List.map_append]
  exact List.mem_map_of_mem hb

/-- An agent that joins takes at most one place among the candidates, and one among the
observed: the other candidates are those there were, in their order, of which the last
of a full list goes. Where it takes no place among the candidates, they and the use of
the fallback are what they were; so removing an agent that was not returned changes
neither. -/
theorem joining_agent {before after : Roster F} {row : AgentProfile F × AgentRuntimeState F}
    (hids : (before ++ row :: after : Roster F).ids.Nodup) {result joined : RoutingResult F}
    (h : routeRoster coefficients debugObserved (before ++ after) request = .ok result)
    (h' : routeRoster coefficients debugObserved (before ++ row :: after) request = .ok joined) :
    Joins row.1.id request.k result.agentCandidates joined.agentCandidates ∧
      (row.1.id ∉ joined.agentCandidates.map RouteCandidate.agentId →
        joined.usedFallback = result.usedFallback) ∧
      ∀ info info', result.debug = some info → joined.debug = some info' →
        Joins row.1.id request.k info.observedCandidates info'.observedCandidates := by
  have hdistinct := Roster.distinct hids request coefficients
  have hnodup : (before ++ after : Roster F).ids.Nodup := by
    have hperm : ((before ++ row :: after).map fun row => row.1.id).Perm
        ((row :: (before ++ after)).map fun row => row.1.id) := List.perm_middle.map _
    exact (List.nodup_cons.mp (hperm.nodup_iff.mp hids)).2
  obtain ⟨_, hresult⟩ := routeRoster_ok hnodup h
  obtain ⟨_, hjoined⟩ := routeRoster_ok hids h'
  have hsplit := Roster.scored_split before after row request coefficients
  have hsplit' : (before ++ after : Roster F).scored request coefficients =
      Roster.scored before request coefficients ++ Roster.scored after request coefficients :=
    List.map_append
  have hothers := Roster.scored_others hids request coefficients
  rw [hsplit] at hdistinct hjoined
  rw [hsplit'] at hresult
  have hagents := available_joins hdistinct hothers request.k
  have hlisted : joined.agentCandidates = topOf .available request.k (List.filter
      RouteCandidate.available (Roster.scored before request coefficients ++
        scoreCompactCandidate request.vector coefficients row.1.id row.1.vector row.2 ::
        Roster.scored after request coefficients)) := by
    rw [hjoined]
    exact finish_agentCandidates _ _ _ _
  have hlisted' : result.agentCandidates = topOf .available request.k (List.filter
      RouteCandidate.available (Roster.scored before request coefficients ++
        Roster.scored after request coefficients)) := by
    rw [hresult]
    exact finish_agentCandidates _ _ _ _
  rw [hlisted, hlisted']
  refine ⟨hagents, ?_, ?_⟩
  · intro hout
    rw [hjoined, hresult]
    exact finish_usedFallback_congr (congrArg List.head? (hagents.out hout)) rfl _ _ _ _
  · intro info info' hinfo hinfo'
    rw [hresult] at hinfo
    rw [hjoined] at hinfo'
    change (if debugObserved then _ else _) = _ at hinfo
    change (if debugObserved then _ else _) = _ at hinfo'
    cases debugObserved with
    | false => cases hinfo
    | true =>
      cases hinfo
      cases hinfo'
      exact topOf_joins hdistinct hothers .observed request.k

/-! An agent whose state changes for the worse. -/

/-- What a worse score of one agent does to a result. -/
structure Deterred (agentId : Nat) (result deterred : RoutingResult F) : Prop where
  kept : agentId ∈ deterred.agentCandidates.map RouteCandidate.agentId →
    agentId ∈ result.agentCandidates.map RouteCandidate.agentId
  others : result.agentCandidates.filter (fun c => c.agentId ≠ agentId) <+:
    deterred.agentCandidates.filter (fun c => c.agentId ≠ agentId)
  ideal : deterred.idealCandidateUnavailable = result.idealCandidateUnavailable
  observed : deterred.debug.map (fun info => info.observedCandidates.map RouteCandidate.agentId) =
    result.debug.map fun info => info.observedCandidates.map RouteCandidate.agentId

section Worse
variable {before after : List (RouteCandidate F)} {c worse : RouteCandidate F}

/-- A candidate that is selected with the worse score is selected with the better one. -/
theorem available_kept (hdistinct : Distinct (before ++ c :: after))
    (hdistinct' : Distinct (before ++ worse :: after)) (hid : worse.agentId = c.agentId)
    (havailable : worse.available = c.available)
    (hle : (compareCandidate .available c worse).isLE = true) (k : Nat)
    (h : c.agentId ∈ (topOf .available k ((before ++ worse :: after).filter
      RouteCandidate.available)).map RouteCandidate.agentId) :
    c.agentId ∈ (topOf .available k ((before ++ c :: after).filter
      RouteCandidate.available)).map RouteCandidate.agentId := by
  obtain ⟨b, hb, hbid⟩ := List.mem_map.mp h
  have hscored := mem_sortBy.mp (List.mem_of_mem_take hb)
  have hworse : b = worse := hdistinct' b (List.mem_of_mem_filter hscored) worse
    (List.mem_append_right before List.mem_cons_self) (hbid.trans hid.symm)
  subst hworse
  have hshown : c.available = true := havailable ▸ List.of_mem_filter hscored
  have hfiltered := hdistinct.filter RouteCandidate.available
  have hfiltered' := hdistinct'.filter RouteCandidate.available
  rw [List.filter_append, List.filter_cons, if_pos hshown] at hfiltered ⊢
  rw [List.filter_append, List.filter_cons, if_pos (havailable.trans hshown)] at hfiltered' hb
  exact List.mem_map_of_mem (raise_kept hle (hfiltered.inj .available) (hfiltered'.inj .available) hb)

omit [F32 F] [Std.TransCmp (F32.totalCmp (F := F))] in
/-- Of two lists an agent joins, the one it is more likely to be in has the shorter rest. -/
theorem Joins.others {agentId k : Nat} {without list list' : List (RouteCandidate F)}
    (hwithout : ∀ b ∈ without, b.agentId ≠ agentId) (h : Joins agentId k without list)
    (h' : Joins agentId k without list')
    (hkept : agentId ∈ list'.map RouteCandidate.agentId → agentId ∈ list.map RouteCandidate.agentId) :
    list.filter (fun c => c.agentId ≠ agentId) <+: list'.filter fun c => c.agentId ≠ agentId := by
  have hrest : without.filter (fun c => c.agentId ≠ agentId) = without :=
    List.filter_eq_self.mpr fun b hb => decide_eq_true (hwithout b hb)
  by_cases hin' : agentId ∈ list'.map RouteCandidate.agentId
  · rw [h.taken (hkept hin'), h'.taken hin']
  · rw [h'.out hin', hrest]
    by_cases hin : agentId ∈ list.map RouteCandidate.agentId
    · rw [h.taken hin]
      exact List.take_prefix _ _
    · rw [h.out hin, hrest]

/-- What the observed selection looks at, and what is read off it. -/
def observedFields (c : RouteCandidate F) : F × Nat × Bool :=
  (c.baseDistance, c.agentId, c.available)

omit [Std.TransCmp (F32.totalCmp (F := F))] in
theorem observed_congr {scored scored' : List (RouteCandidate F)}
    (h : scored.map observedFields = scored'.map observedFields) (k : Nat) :
    (topOf .observed k scored).map observedFields = (topOf .observed k scored').map observedFields := by
  let compareFields : F × Nat × Bool → F × Nat × Bool → Ordering :=
    fun a b => (F32.totalCmp a.1 b.1).then (compare a.2.1 b.2.1)
  have hsort : ∀ scored : List (RouteCandidate F), (topOf .observed k scored).map observedFields =
      (sortBy compareFields (scored.map observedFields)).take k := by
    intro scored
    unfold topOf
    rw [List.map_take]
    exact congrArg (List.take k) (map_sortBy compareFields observedFields scored)
  rw [hsort, hsort, h]

end Worse

/-- An agent whose score gets worse, by its state alone, is returned only if it was; the
others returned are the same or one more at the end, and the observed agents and the ideal
flag do not change. -/
theorem worse_state_deters {before after : Roster F} {agent : AgentProfile F}
    {state worse : AgentRuntimeState F}
    (hids : (before ++ (agent, state) :: after : Roster F).ids.Nodup)
    (havailable : worse.isAvailable = state.isAvailable)
    (hle : (compareCandidate .available
      (scoreCompactCandidate request.vector coefficients agent.id agent.vector state)
      (scoreCompactCandidate request.vector coefficients agent.id agent.vector worse)).isLE = true)
    {result : RoutingResult F}
    (h : routeRoster coefficients debugObserved (before ++ (agent, state) :: after) request =
      .ok result) : ∃ deterred,
      routeRoster coefficients debugObserved (before ++ (agent, worse) :: after) request =
        .ok deterred ∧ Deterred agent.id result deterred := by
  obtain ⟨⟨_, hdim⟩, hresult⟩ := routeRoster_ok hids h
  have hrows : ∀ (row : AgentProfile F × AgentRuntimeState F), row.1 = agent →
      (before ++ row :: after : Roster F).map Prod.fst =
        (before ++ (agent, state) :: after : Roster F).map Prod.fst := by
    intro row hrow
    rw [List.map_append, List.map_append, List.map_cons, List.map_cons, hrow]
  have hids' : (before ++ (agent, worse) :: after : Roster F).ids.Nodup := by
    have hmap : ∀ roster : Roster F, roster.ids = (roster.map Prod.fst).map AgentProfile.id :=
      fun roster => List.map_map.symm
    rw [hmap, hrows _ rfl, ← hmap]
    exact hids
  have hdim' : ∀ row ∈ (before ++ (agent, worse) :: after : Roster F),
      row.1.vector.length = request.vector.length := by
    refine (List.forall_mem_map (P := fun a : AgentProfile F => a.vector.length =
      request.vector.length)).mp ?_
    rw [hrows _ rfl]
    exact List.forall_mem_map.mpr hdim
  have hothers := Roster.scored_others hids request coefficients
  have hdistinct := Roster.distinct hids request coefficients
  have hdistinct' := Roster.distinct hids' request coefficients
  refine ⟨_, routeRoster_spec (by simp) hids' hdim', ?_⟩
  rw [hresult]
  rw [Roster.scored_split] at hdistinct hdistinct'
  rw [Roster.scored_split, Roster.scored_split]
  have hlisted : ∀ scored, (specResult debugObserved request scored).agentCandidates =
      topOf .available request.k (scored.filter RouteCandidate.available) :=
    fun scored => finish_agentCandidates request _ _ _
  have hkept := available_kept hdistinct hdistinct' rfl havailable hle request.k
  have hwithout : ∀ b ∈ topOf .available request.k ((Roster.scored before request coefficients ++
      Roster.scored after request coefficients).filter RouteCandidate.available),
      b.agentId ≠ agent.id := fun b hb =>
    hothers b (List.mem_of_mem_filter (mem_sortBy.mp (List.mem_of_mem_take hb)))
  have hfields : observedFields
      (scoreCompactCandidate request.vector coefficients agent.id agent.vector worse) =
      observedFields
        (scoreCompactCandidate request.vector coefficients agent.id agent.vector state) := by
    show (distSqBlocked _ _, agent.id, worse.isAvailable) =
      (distSqBlocked _ _, agent.id, state.isAvailable)
    rw [havailable]
  have hviews : (Roster.scored before request coefficients ++
      scoreCompactCandidate request.vector coefficients agent.id agent.vector worse ::
      Roster.scored after request coefficients).map observedFields =
    (Roster.scored before request coefficients ++
      scoreCompactCandidate request.vector coefficients agent.id agent.vector state ::
      Roster.scored after request coefficients).map observedFields := by
    simp only [List.map_append, List.map_cons, hfields]
  have hobserved := observed_congr hviews request.k
  refine ⟨?_, ?_, ?_, ?_⟩
  · rw [hlisted, hlisted]
    exact hkept
  · rw [hlisted, hlisted]
    exact Joins.others hwithout (available_joins hdistinct hothers request.k)
      (available_joins hdistinct' hothers request.k) hkept
  · have hhead := congrArg List.head? hobserved
    show idealUnavailable (topOf .observed request.k _) = idealUnavailable (topOf .observed request.k _)
    unfold idealUnavailable
    rw [List.head?_map, List.head?_map] at hhead
    have hflag := congrArg (Option.map fun fields : F × Nat × Bool => !fields.2.2) hhead
    rw [Option.map_map, Option.map_map] at hflag
    exact congrArg (fun flag => flag.getD false) hflag
  · have hnames := congrArg (List.map fun fields : F × Nat × Bool => fields.2.1) hobserved
    rw [List.map_map, List.map_map] at hnames
    cases debugObserved with
    | false => rfl
    | true => exact congrArg some hnames

end Rosters

/-- The two agents of `pairAgents`, beside their states. -/
def pairRoster : Roster (WithTop Int) := pairAgents.zip pairStates

theorem pairRoster_dimension : ∀ row ∈ pairRoster, row.1.vector.length = 2 := by decide

theorem roster_order_irrelevant_pair :
    routeRoster ⟨1, 1, 1⟩ true pairRoster pairRequest =
      routeRoster ⟨1, 1, 1⟩ true pairRoster.reverse pairRequest :=
  roster_order_irrelevant (List.reverse_perm pairRoster).symm (by decide) pairRoster_dimension

theorem smaller_k_cuts_pair : ∃ result,
    routeRoster ⟨1, 1, 1⟩ true pairRoster { pairRequest with k := 1 } = .ok result ∧
      CutTo 1 result (specResult true pairRequest (pairRoster.scored pairRequest ⟨1, 1, 1⟩)) :=
  smaller_k_cuts (by decide) (by decide) (by decide)
    (routeRoster_spec (by decide) (by decide) pairRoster_dimension)

/-- The second agent joins the first. -/
theorem joining_agent_pair : ∃ result joined,
    routeRoster ⟨1, 1, 1⟩ true (pairRoster.take 1) pairRequest = .ok result ∧
      routeRoster ⟨1, 1, 1⟩ true pairRoster pairRequest = .ok joined ∧
      Joins 3 2 result.agentCandidates joined.agentCandidates := by
  have hresult : routeRoster ⟨1, 1, 1⟩ true (pairRoster.take 1 ++ []) pairRequest = .ok _ :=
    routeRoster_spec (by decide) (by decide) (by decide)
  have hjoined : routeRoster ⟨1, 1, 1⟩ true (pairRoster.take 1 ++ (pairRoster.getLast
      (by decide)) :: []) pairRequest = .ok _ :=
    routeRoster_spec (by decide) (by decide) pairRoster_dimension
  exact ⟨_, _, hresult, hjoined, (joining_agent (by decide) hresult hjoined).1⟩

end QTom.Router
