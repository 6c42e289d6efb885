import QTom.Bench.Placement
import QTom.Router.Exact

/- The layered prefilter and the rescoring of its candidates (`LayeredGridIndex`,
   `profile_prefilter_budget`). A layer gives as many agents as the budget asks for and
   there are; the layers are merged over one seen bit for each agent, and the union is cut
   to the budget again. So a query returns distinct agents in the number asked for, at full
   budget all of them, and then rescoring them is a scan of all agents in another order
   (`candidateIndices_lossless`). -/
namespace QTom.Bench
open QTom.Lib QTom.Router
variable {F : Type}

structure PrefilterStrategy where
  projections : List (List Nat)

structure LayeredGridIndex (F : Type) where
  layers : List (ProjectionGridIndex F)
  agentCount : Nat

namespace LayeredGridIndex
variable [GridF32 F]

def new (agents : List (AgentProfile F)) (bins : Nat) (strategy : PrefilterStrategy) :
    Checked (LayeredGridIndex F) := do
  let layers ← strategy.projections.mapM fun projection =>
    ProjectionGridIndex.new agents bins projection
  return { layers, agentCount := agents.length }

/-- The sum over the layers. -/
def projectionDistance (index : LayeredGridIndex F) (request : RoutingRequest F)
    (agentIndex : Nat) : Checked F :=
  index.layers.foldlM (fun sum layer => do
    let dist ← layer.projectionDistance request agentIndex
    return F32.add sum dist) GridF32.sumStart

/-- One layer's candidates among those already there. -/
def mergeLayer (select : SelectNth (F × Nat)) (request : RoutingRequest F) (budget : Nat)
    (s : Marks Nat) (layer : ProjectionGridIndex F) : Checked (Marks Nat) := do
  let layerCandidates ← layer.candidateIndices select request budget
  layerCandidates.foldlM (visitUnseen fun agentIndex => .ok [agentIndex]) s

def candidateIndices (select : SelectNth (F × Nat)) (index : LayeredGridIndex F)
    (request : RoutingRequest F) (budget : Nat) : Checked (List Nat) :=
  if budget = 0 ∨ index.agentCount = 0 then .ok []
  else do
    let seen := List.replicate index.agentCount false
    let s ← index.layers.foldlM (mergeLayer select request budget) ⟨seen, []⟩
    trimCandidates select (index.projectionDistance request) budget s.out

end LayeredGridIndex

/-! Rescoring. -/

structure PrefilterCandidate (F : Type) where
  agentId : Nat
  effectiveDistance : F
  baseDistance : F
  available : Bool
  deriving DecidableEq, Repr

namespace PrefilterCandidate
variable [F32 F]

def cmpAvailable (left right : PrefilterCandidate F) : Ordering :=
  (F32.totalCmp left.effectiveDistance right.effectiveDistance).then
    (compare left.agentId right.agentId)

def cmpObserved (left right : PrefilterCandidate F) : Ordering :=
  (F32.totalCmp left.baseDistance right.baseDistance).then (compare left.agentId right.agentId)

end PrefilterCandidate

/-- The winners of a scan. -/
structure Rescored (F : Type) where
  bestAvailable : Option (PrefilterCandidate F)
  observedBest : Option (PrefilterCandidate F)

section Rescoring
variable [F32 F]

/-- `score_components_for_vector`, with the agent's id. -/
def scoreAgent (agents : List (AgentProfile F)) (states : List (AgentRuntimeState F))
    (request : RoutingRequest F) (coefficients : ScoreCoefficients F) (agentIndex : Nat) :
    Checked (PrefilterCandidate F) := do
  let agent ← Checked.read agents agentIndex
  let state ← Checked.read states agentIndex
  let score ← scoreCompactCandidateChecked request.vector coefficients agent.id agent.vector state
  return { agentId := agent.id
           effectiveDistance := score.effectiveDistance
           baseDistance := score.baseDistance
           available := score.available }

def Rescored.push (s : Rescored F) (candidate : PrefilterCandidate F) : Rescored F where
  bestAvailable :=
    if candidate.available then keepBetter PrefilterCandidate.cmpAvailable s.bestAvailable candidate
    else s.bestAvailable
  observedBest := keepBetter PrefilterCandidate.cmpObserved s.observedBest candidate

/-- The loop of `profile_prefilter_budget` over the candidates of one request. -/
def rescore (agents : List (AgentProfile F)) (states : List (AgentRuntimeState F))
    (request : RoutingRequest F) (coefficients : ScoreCoefficients F) (candidates : List Nat) :
    Checked (Rescored F) :=
  candidates.foldlM (fun s agentIndex => do
    let candidate ← scoreAgent agents states request coefficients agentIndex
    return s.push candidate) ⟨none, none⟩

end Rescoring

/-! The candidates of all layers. -/

namespace LayeredGridIndex
variable [GridF32 F] {agents : List (AgentProfile F)} {index : LayeredGridIndex F}

structure Built (agents : List (AgentProfile F)) (index : LayeredGridIndex F) : Prop where
  agentCount : index.agentCount = agents.length
  layered : index.layers ≠ []
  layers : ∀ layer ∈ index.layers, ProjectionGridIndex.Built agents layer

theorem new_built {bins : Nat} {strategy : PrefilterStrategy} (h : new agents bins strategy = .ok index)
    (hprojections : strategy.projections ≠ []) : Built agents index := by
  obtain ⟨layers, hlayers, h⟩ := bind_ok_iff.mp h
  obtain rfl := Except.ok.inj h
  refine ⟨rfl, ?_, ?_⟩
  · intro hnil
    obtain rfl : layers = [] := hnil
    exact hprojections (List.length_eq_zero_iff.mp (length_mapM_ok hlayers).symm)
  · intro layer hlayer
    obtain ⟨projection, _, hnew⟩ := exists_of_mem_mapM_ok hlayers hlayer
    exact ProjectionGridIndex.new_built hnew

/-- When there is an index. -/
theorem new_returns_iff (agents : List (AgentProfile F)) (bins : Nat)
    (strategy : PrefilterStrategy) :
    (∃ index, new agents bins strategy = .ok index) ↔ ∀ projection ∈ strategy.projections,
      0 < bins ∧ projection ≠ [] ∧ bins ^ projection.length * 24 < 2 ^ 63 := by
  have hlayers : (∃ index, new agents bins strategy = .ok index) ↔
      ∃ layers, strategy.projections.mapM (ProjectionGridIndex.new agents bins) = .ok layers := by
    refine ⟨?_, ?_⟩
    · intro ⟨_, h⟩
      obtain ⟨layers, hlayers, _⟩ := bind_ok_iff.mp h
      exact ⟨layers, hlayers⟩
    · intro ⟨layers, hlayers⟩
      exact ⟨_, bind_ok_iff.mpr ⟨layers, hlayers, rfl⟩⟩
  rw [hlayers, mapM_returns_iff]
  simp only [ProjectionGridIndex.new_returns_iff]

variable [Std.TransCmp (F32.totalCmp (F := F))]

/-- A layer adds its candidates. -/
theorem mergeLayer_adds {layer : ProjectionGridIndex F} (h : ProjectionGridIndex.Built agents layer)
    (select : SelectNth (F × Nat)) (request : RoutingRequest F) (budget : Nat) :
    Adds (fun i => [i]) agents.length (fun s => mergeLayer select request budget s layer)
      fun i => ∃ out, layer.candidateIndices select request budget = .ok out ∧ i ∈ out := by
  obtain ⟨out, hout, _, hlt, _⟩ := ProjectionGridIndex.candidateIndices_spec h select request budget
  have hmerge : ∀ s, mergeLayer select request budget s layer =
      out.foldlM (visitUnseen fun agentIndex => .ok [agentIndex]) s := by
    intro s
    unfold mergeLayer
    rw [hout]
    rfl
  simp only [hmerge]
  refine (Adds.run fun i hi => Adds.visit (hlt i hi) rfl).congr ?_
  intro i
  refine ⟨?_, ?_⟩
  · intro ⟨j, hj, hij⟩
    exact ⟨out, hout, by rw [hij]; exact hj⟩
  · intro ⟨out', hout', hi⟩
    obtain rfl := Except.ok.inj (hout.symm.trans hout')
    exact ⟨i, hi, rfl⟩

/-- The sum of the layers' distances. -/
def distanceTo (index : LayeredGridIndex F) (request : RoutingRequest F) (agentIndex : Nat) : F :=
  index.layers.foldl (fun sum layer => F32.add sum (layer.distanceTo request agentIndex))
    GridF32.sumStart

omit [Std.TransCmp (F32.totalCmp (F := F))] in
theorem projectionDistance_eq (h : Built agents index) (request : RoutingRequest F) {i : Nat}
    (hi : i < agents.length) :
    index.projectionDistance request i = .ok (index.distanceTo request i) := by
  apply Checked.foldlM_ok id
  intro sum layer hlayer
  rw [ProjectionGridIndex.projectionDistance_eq (h.layers layer hlayer) request hi]
  rfl

/-- The union of the layers holds what any one of them gives. -/
theorem mergeLayers_spec (h : Built agents index) (select : SelectNth (F × Nat))
    (request : RoutingRequest F) (budget : Nat) :
    ∃ s, index.layers.foldlM (mergeLayer select request budget)
        ⟨List.replicate index.agentCount false, []⟩ = .ok s ∧
      s.out.Nodup ∧ (∀ i ∈ s.out, i < agents.length) ∧ min budget agents.length ≤ s.out.length := by
  have hrun := Adds.run fun layer hlayer =>
    mergeLayer_adds (h.layers layer hlayer) select request budget
  obtain ⟨order, s, hs, hmarked, hmem⟩ := hrun [] _ (Marked.fresh (fun i => [i]) agents.length)
  have hout : s.out = order := by
    rw [hmarked.out]
    exact List.flatMap_singleton' order
  rw [h.agentCount]
  refine ⟨s, hs, ?_, ?_, ?_⟩
  · rw [hout]
    exact hmarked.nodup
  · intro i hi
    rw [hout] at hi
    exact hmarked.lt hi
  · obtain ⟨layer, hlayer⟩ := List.exists_mem_of_ne_nil _ h.layered
    obtain ⟨out, hlayerOut, hdistinct, _, hlen⟩ :=
      ProjectionGridIndex.candidateIndices_spec (h.layers layer hlayer) select request budget
    rw [← hlen, hout]
    apply (List.subperm_of_subset hdistinct _).length_le
    intro i hi
    exact (hmem i).mpr (Or.inr ⟨layer, hlayer, out, hlayerOut, hi⟩)

/-- Distinct agents, as many as the budget asks for and there are. -/
theorem candidateIndices_spec (h : Built agents index) (select : SelectNth (F × Nat))
    (request : RoutingRequest F) (budget : Nat) :
    ∃ out, index.candidateIndices select request budget = .ok out ∧ out.Nodup ∧
      (∀ i ∈ out, i < agents.length) ∧ out.length = min budget agents.length := by
  unfold candidateIndices
  by_cases hnone : budget = 0 ∨ index.agentCount = 0
  · rw [if_pos hnone]
    refine ⟨[], rfl, List.nodup_nil, fun _ hi => (nomatch hi), ?_⟩
    rw [h.agentCount] at hnone
    rw [List.length_nil]
    omega
  · rw [if_neg hnone]
    obtain ⟨s, hs, hnodup, hlt, henough⟩ := mergeLayers_spec h select request budget
    dsimp only
    rw [hs, Checked.ok_bind]
    exact trimCandidates_spec select hnodup hlt henough fun _ hi => projectionDistance_eq h request hi

end LayeredGridIndex

/-! Rescoring in another order. -/

section
variable [F32 F] {agents : List (AgentProfile F)} {states : List (AgentRuntimeState F)}
  {request : RoutingRequest F} {coefficients : ScoreCoefficients F}

instance [Std.TransCmp (F32.totalCmp (F := F))] :
    Std.TransCmp (PrefilterCandidate.cmpAvailable (F := F)) :=
  transCmp_comap compareSortKey fun c : PrefilterCandidate F => (c.effectiveDistance, c.agentId)

instance [Std.TransCmp (F32.totalCmp (F := F))] :
    Std.TransCmp (PrefilterCandidate.cmpObserved (F := F)) :=
  transCmp_comap compareSortKey fun c : PrefilterCandidate F => (c.baseDistance, c.agentId)

/-- The scores of the candidates that have one. -/
def scored (agents : List (AgentProfile F)) (states : List (AgentRuntimeState F))
    (request : RoutingRequest F) (coefficients : ScoreCoefficients F) (candidates : List Nat) :
    List (PrefilterCandidate F) :=
  candidates.filterMap fun i => (scoreAgent agents states request coefficients i).toOption

theorem rescore_ok_iff {candidates : List Nat} {r : Rescored F} :
    rescore agents states request coefficients candidates = .ok r ↔
      (∀ i ∈ candidates, ∃ c, scoreAgent agents states request coefficients i = .ok c) ∧
        (scored agents states request coefficients candidates).foldl Rescored.push ⟨none, none⟩ = r := by
  unfold rescore scored
  generalize (⟨none, none⟩ : Rescored F) = start
  induction candidates generalizing start with
  | nil => exact ⟨fun h => ⟨fun _ hi => (nomatch hi), Except.ok.inj h⟩, fun h => congrArg Except.ok h.2⟩
  | cons i candidates ih =>
    rw [List.foldlM_cons, List.forall_mem_cons, List.filterMap_cons]
    cases hscore : scoreAgent agents states request coefficients i with
    | error p => exact iff_of_false (fun h => (nomatch h)) fun h => (nomatch h.1.1)
    | ok c => exact (ih _).trans (and_congr_left' (and_iff_right ⟨c, rfl⟩).symm)

/-- The two winners are kept apart. -/
theorem foldl_push (cs : List (PrefilterCandidate F)) (s : Rescored F) :
    cs.foldl Rescored.push s =
      ⟨(cs.filter PrefilterCandidate.available).foldl (keepBetter PrefilterCandidate.cmpAvailable)
        s.bestAvailable, cs.foldl (keepBetter PrefilterCandidate.cmpObserved) s.observedBest⟩ := by
  induction cs generalizing s with
  | nil => rfl
  | cons c cs ih =>
    rw [List.foldl_cons, ih, List.filter_cons]
    unfold Rescored.push
    cases c.available <;> rfl

theorem agentId_of_available {a b : PrefilterCandidate F} (h : a.cmpAvailable b = .eq) :
    a.agentId = b.agentId :=
  compare_eq_iff_eq.mp (Ordering.then_eq_eq.mp h).2

theorem agentId_of_observed {a b : PrefilterCandidate F} (h : a.cmpObserved b = .eq) :
    a.agentId = b.agentId :=
  compare_eq_iff_eq.mp (Ordering.then_eq_eq.mp h).2

theorem agentId_scoreAgent {i : Nat} {c : PrefilterCandidate F}
    (h : scoreAgent agents states request coefficients i = .ok c) :
    (agents.map AgentProfile.id)[i]? = some c.agentId := by
  obtain ⟨agent, hagent, h⟩ := bind_ok_iff.mp h
  obtain ⟨_, _, h⟩ := bind_ok_iff.mp h
  obtain ⟨_, _, h⟩ := bind_ok_iff.mp h
  rw [List.getElem?_map, Checked.read_ok_iff.mp hagent, ← Except.ok.inj h]
  rfl

theorem mem_scored {candidates : List Nat} {c : PrefilterCandidate F} :
    c ∈ scored agents states request coefficients candidates ↔
      ∃ i ∈ candidates, scoreAgent agents states request coefficients i = .ok c := by
  unfold scored
  rw [List.mem_filterMap]
  apply exists_congr
  intro i
  apply and_congr_right'
  cases scoreAgent agents states request coefficients i with
  | error p => exact iff_of_false (fun h => (nomatch h)) fun h => (nomatch h)
  | ok c' =>
    rw [Except.ok.injEq]
    exact Option.some_inj

/-- With distinct ids the id tells the score. -/
theorem scored_inj (hids : (agents.map AgentProfile.id).Nodup) {candidates : List Nat}
    {a b : PrefilterCandidate F} (ha : a ∈ scored agents states request coefficients candidates)
    (hb : b ∈ scored agents states request coefficients candidates)
    (hab : a.agentId = b.agentId) : a = b := by
  obtain ⟨i, _, hi⟩ := mem_scored.mp ha
  obtain ⟨j, _, hj⟩ := mem_scored.mp hb
  have hget := agentId_scoreAgent hi
  have hij : i = j := by
    apply (List.getElem?_inj (List.getElem?_eq_some_iff.mp hget).1 hids).mp
    rw [hget, agentId_scoreAgent hj, hab]
  rw [hij, hj] at hi
  exact (Except.ok.inj hi).symm

variable [Std.TransCmp (F32.totalCmp (F := F))]

/-- Rescoring the same candidates in another order finds winners of the same ids, and the
same winners where ids are distinct. -/
theorem rescore_perm {xs ys : List Nat} (hperm : ys.Perm xs) {full : Rescored F}
    (h : rescore agents states request coefficients xs = .ok full) :
    ∃ best, rescore agents states request coefficients ys = .ok best ∧
      best.bestAvailable.map PrefilterCandidate.agentId =
        full.bestAvailable.map PrefilterCandidate.agentId ∧
      best.observedBest.map PrefilterCandidate.agentId =
        full.observedBest.map PrefilterCandidate.agentId ∧
      ((agents.map AgentProfile.id).Nodup → best = full) := by
  obtain ⟨hscored, rfl⟩ := rescore_ok_iff.mp h
  have hscores : (scored agents states request coefficients ys).Perm
      (scored agents states request coefficients xs) := hperm.filterMap _
  have havailable := hscores.filter PrefilterCandidate.available
  refine ⟨_, rescore_ok_iff.mpr ⟨fun i hi => hscored i (hperm.mem_iff.mp hi), rfl⟩, ?_, ?_, ?_⟩
  · rw [foldl_push, foldl_push]
    exact foldl_keepBetter_perm _ havailable _ fun a _ b _ hab => agentId_of_available hab
  · rw [foldl_push, foldl_push]
    exact foldl_keepBetter_perm _ hscores _ fun a _ b _ hab => agentId_of_observed hab
  · intro hids
    have hbest := foldl_keepBetter_perm PrefilterCandidate.cmpAvailable havailable id
      fun a ha b hb hab => scored_inj hids (List.mem_of_mem_filter ha) (List.mem_of_mem_filter hb)
        (agentId_of_available hab)
    have hobserved := foldl_keepBetter_perm PrefilterCandidate.cmpObserved hscores id
      fun a ha b hb hab => scored_inj hids ha hb (agentId_of_observed hab)
    rw [Option.map_id_apply, Option.map_id_apply] at hbest hobserved
    rw [foldl_push, foldl_push, hbest, hobserved]

end

/-! Nothing is lost. -/

namespace LayeredGridIndex
variable [GridF32 F] [Std.TransCmp (F32.totalCmp (F := F))]

/-- A built index answers every request with distinct agents, the smaller of the budget and
the number of agents of them. At full budget these are all the agents, and rescoring them
finds the winners of a scan of all agents, by id and, where ids are distinct, altogether. -/
theorem candidateIndices_lossless {agents : List (AgentProfile F)} {bins : Nat}
    {strategy : PrefilterStrategy} {index : LayeredGridIndex F}
    (hnew : new agents bins strategy = .ok index) (hprojections : strategy.projections ≠ [])
    (select : SelectNth (F × Nat)) (request : RoutingRequest F) (budget : Nat) :
    ∃ out, index.candidateIndices select request budget = .ok out ∧
      out.Nodup ∧ (∀ i ∈ out, i < agents.length) ∧ out.length = min budget agents.length ∧
      (agents.length ≤ budget → out.Perm (List.range agents.length) ∧
        ∀ states coefficients full,
          rescore agents states request coefficients (List.range agents.length) = .ok full →
          ∃ best, rescore agents states request coefficients out = .ok best ∧
            best.bestAvailable.map PrefilterCandidate.agentId =
              full.bestAvailable.map PrefilterCandidate.agentId ∧
            best.observedBest.map PrefilterCandidate.agentId =
              full.observedBest.map PrefilterCandidate.agentId ∧
            ((agents.map AgentProfile.id).Nodup → best = full)) := by
  obtain ⟨out, hout, hnodup, hlt, hlen⟩ :=
    candidateIndices_spec (new_built hnew hprojections) select request budget
  refine ⟨out, hout, hnodup, hlt, hlen, ?_⟩
  intro hbudget
  have hperm : out.Perm (List.range agents.length) := by
    apply (subperm_range hnodup hlt).perm_of_length_le
    rw [List.length_range, hlen, Nat.min_eq_right hbudget]
  exact ⟨hperm, fun states coefficients full hfull => rescore_perm hperm hfull⟩

end LayeredGridIndex

instance : GridF32 (WithTop Int) where
  ofUsize n := ((n : Int) : WithTop Int)
  floorToUsize value := min ((value.untopD (2 ^ 64 - 1)).toNat) (2 ^ 64 - 1)
  sumStart := 0

def pairAgents : List (AgentProfile (WithTop Int)) :=
  [⟨7, [0, 1], ⟨0, 0, 0, 0, 0, 0⟩⟩, ⟨8, [1, 0], ⟨0, 0, 0, 0, 0, 0⟩⟩]

def pairStates : List (AgentRuntimeState (WithTop Int)) := [⟨0, 0, 0, 0⟩, ⟨0, 0, 0, 1⟩]

def pairRequest : RoutingRequest (WithTop Int) := ⟨1, [0, 1], 1, 99, 1⟩

/-- The nearest agent is not available. -/
theorem candidateIndices_lossless_pair :
    ∃ index, LayeredGridIndex.new pairAgents 2 ⟨[[0], [1]]⟩ = .ok index ∧
      ∃ out, index.candidateIndices SelectNth.bySorting pairRequest 2 = .ok out ∧
        out.Perm [0, 1] ∧ ∃ best, rescore pairAgents pairStates pairRequest ⟨1, 1, 1⟩ out = .ok best ∧
          best.bestAvailable.map PrefilterCandidate.agentId = some 8 ∧
          best.observedBest.map PrefilterCandidate.agentId = some 7 := by
  obtain ⟨index, hnew⟩ :=
    (LayeredGridIndex.new_returns_iff pairAgents 2 ⟨[[0], [1]]⟩).mpr (by decide)
  obtain ⟨out, hout, _, _, _, hfull⟩ := LayeredGridIndex.candidateIndices_lossless hnew (by decide)
    SelectNth.bySorting pairRequest 2
  obtain ⟨hperm, hrescore⟩ := hfull (Nat.le_refl 2)
  obtain ⟨best, hbest, havailable, hobserved, _⟩ := hrescore pairStates ⟨1, 1, 1⟩
    ⟨some ⟨8, 1 + 1, 1 + 1, true⟩, some ⟨7, ⊤, 0, false⟩⟩ (by rfl)
  exact ⟨index, hnew, out, hout, hperm, best, hbest, havailable, hobserved⟩

/-- Two agents of one id on either side of the request, the second not available. -/
def sharedIdAgents : List (AgentProfile (WithTop Int)) :=
  [⟨1, [0], ⟨0, 0, 0, 0, 0, 0⟩⟩, ⟨1, [((2 : Int) : WithTop Int)], ⟨0, 0, 0, 0, 0, 0⟩⟩]

def sharedIdStates : List (AgentRuntimeState (WithTop Int)) := [⟨0, 0, 0, 1⟩, ⟨0, 0, 0, 0⟩]

def sharedIdRequest : RoutingRequest (WithTop Int) := ⟨1, [1], 1, 99, 1⟩

/-- At full budget the second agent comes first, so another one of the two is observed. -/
theorem shared_id_changes_observed :
    ∃ index, LayeredGridIndex.new sharedIdAgents 2 ⟨[[0]]⟩ = .ok index ∧
      index.candidateIndices SelectNth.bySorting sharedIdRequest 2 = .ok [1, 0] ∧
      ∃ full best,
        rescore sharedIdAgents sharedIdStates sharedIdRequest ⟨1, 1, 1⟩ (List.range 2) = .ok full ∧
        rescore sharedIdAgents sharedIdStates sharedIdRequest ⟨1, 1, 1⟩ [1, 0] = .ok best ∧
        full.observedBest.map PrefilterCandidate.available = some true ∧
        best.observedBest.map PrefilterCandidate.available = some false ∧
        best.observedBest ≠ full.observedBest := by
  have hrun : (do
      let index ← LayeredGridIndex.new sharedIdAgents 2 ⟨[[0]]⟩
      index.candidateIndices SelectNth.bySorting sharedIdRequest 2) = .ok [1, 0] := by
    decide +kernel
  obtain ⟨index, hnew, hout⟩ := bind_ok_iff.mp hrun
  refine ⟨index, hnew, hout, ⟨some ⟨1, 1, 1, true⟩, some ⟨1, 1, 1, true⟩⟩,
    ⟨some ⟨1, 1, 1, true⟩, some ⟨1, ⊤, 1, false⟩⟩, by rfl, by rfl, rfl, rfl, ?_⟩
  intro heq
  exact absurd (congrArg (Option.map PrefilterCandidate.available) heq) (by decide)

end QTom.Bench
