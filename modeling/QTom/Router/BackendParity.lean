import QTom.Lib.BinaryFloat
import QTom.Lib.Runs
import QTom.Router.Score

/- The parity harnesses (`backend.rs`). Scores are f32 values with their infinities,
   NaN and rounding; the checksum is a sum of f64 values. The exact harness compares
   with the derived `==`, field by field in the order of the fields; the tolerant one
   writes its own comparison out. Both route, compare and report alike, so that part is
   one definition with the comparison as a parameter. -/
namespace QTom.Router
open QTom.Lib

/-- f32, in units of 2^-149. -/
abbrev Binary32 := BinaryFloat 24 253

/-- f64, in units of 2^-1074. -/
abbrev Binary64 := BinaryFloat 53 2045

structure RouterBackend where
  name : String
  routeBatch : List (RoutingRequest Binary32) → List (AgentRuntimeState Binary32) →
    Except RouteError (List (RoutingResult Binary32))

structure BackendParityReport where
  referenceBackend : String
  candidateBackend : String
  routes : Nat
  idealUnavailableCount : Nat
  checksum : Binary64

structure BackendMismatch where
  firstMismatchIndex : Nat
  referenceLen : Nat
  candidateLen : Nat
  deriving DecidableEq, Repr

structure BackendParityTolerance where
  scoreAbsEpsilon : Binary32

inductive BackendParityError where
  | referenceRoute (backend : String) (source : RouteError)
  | candidateRoute (backend : String) (source : RouteError)
  | mismatch (referenceBackend candidateBackend : String) (mismatch : BackendMismatch)
  deriving DecidableEq, Repr

/-! The checksum. -/

/-- `f32 as f64`: the same value in the finer unit. -/
def Binary32.toF64 : Binary32 → Binary64
  | .nan => .nan
  | .infinite negative => .infinite negative
  | .finite negative magnitude _ => .ofMagnitude (by decide) negative (magnitude * 2 ^ 925)

/-- `u32 as f64`. -/
def f64OfU32 (value : Nat) : Binary64 := .ofMagnitude (by decide) false (value * 2 ^ 1074)

/-- The empty f64 sum is -0.0. -/
def routingResultsChecksum (results : List (RoutingResult Binary32)) : Binary64 :=
  (results.filterMap fun result => result.availableCandidates.head?).foldl
    (fun sum candidate => .add (by decide) sum
      (.add (by decide) (Binary32.toF64 candidate.baseDistance) (f64OfU32 candidate.agentId)))
    (BinaryFloat.zero 53 2045).neg

/-! The derived comparison. -/

/-- `==` of two slices: the lengths, then the entries in pairs. -/
def listsMatch {α : Type} (same : α → α → Bool) (left right : List α) : Bool :=
  left.length == right.length && (left.zip right).all fun p => same p.1 p.2

/-- `==` of two options. -/
def optionsMatch {α : Type} (same : α → α → Bool) : Option α → Option α → Bool
  | some left, some right => same left right
  | none, none => true
  | _, _ => false

def routeCandidateEq (left right : RouteCandidate Binary32) : Bool :=
  left.agentId == right.agentId &&
    left.effectiveDistance.eq right.effectiveDistance &&
    left.baseDistance.eq right.baseDistance &&
    left.omega.eq right.omega &&
    left.queuePenalty.eq right.queuePenalty &&
    left.latencyPenalty.eq right.latencyPenalty &&
    left.cachePenalty.eq right.cachePenalty &&
    left.available == right.available

def routeDebugInfoEq (left right : RouteDebugInfo Binary32) : Bool :=
  listsMatch routeCandidateEq left.observedCandidates right.observedCandidates

def routingResultEq (left right : RoutingResult Binary32) : Bool :=
  left.taskId == right.taskId &&
    listsMatch routeCandidateEq left.availableCandidates right.availableCandidates &&
    left.usedFallback == right.usedFallback &&
    left.idealCandidateUnavailable == right.idealCandidateUnavailable &&
    optionsMatch routeDebugInfoEq left.debug right.debug

/-! The tolerant comparison. -/

def f32Close (left right epsilon : Binary32) : Bool :=
  if left.isInfinite || right.isInfinite then left.eq right
  else (BinaryFloat.sub (by decide) left right).abs.le epsilon

def routeCandidateMatchesWithTolerance (tolerance : BackendParityTolerance)
    (reference candidate : RouteCandidate Binary32) : Bool :=
  reference.agentId == candidate.agentId &&
    reference.available == candidate.available &&
    f32Close reference.effectiveDistance candidate.effectiveDistance tolerance.scoreAbsEpsilon &&
    f32Close reference.baseDistance candidate.baseDistance tolerance.scoreAbsEpsilon &&
    f32Close reference.omega candidate.omega tolerance.scoreAbsEpsilon &&
    f32Close reference.queuePenalty candidate.queuePenalty tolerance.scoreAbsEpsilon &&
    f32Close reference.latencyPenalty candidate.latencyPenalty tolerance.scoreAbsEpsilon &&
    f32Close reference.cachePenalty candidate.cachePenalty tolerance.scoreAbsEpsilon

def candidateListsMatchWithTolerance (tolerance : BackendParityTolerance)
    (reference candidate : List (RouteCandidate Binary32)) : Bool :=
  reference.length == candidate.length &&
    (reference.zip candidate).all fun p => routeCandidateMatchesWithTolerance tolerance p.1 p.2

def debugMatchesWithTolerance (tolerance : BackendParityTolerance) :
    Option (RouteDebugInfo Binary32) → Option (RouteDebugInfo Binary32) → Bool
  | some reference, some candidate =>
    candidateListsMatchWithTolerance tolerance reference.observedCandidates
      candidate.observedCandidates
  | none, none => true
  | _, _ => false

def routingResultMatchesWithTolerance (tolerance : BackendParityTolerance)
    (reference candidate : RoutingResult Binary32) : Bool :=
  reference.taskId == candidate.taskId &&
    reference.usedFallback == candidate.usedFallback &&
    reference.idealCandidateUnavailable == candidate.idealCandidateUnavailable &&
    candidateListsMatchWithTolerance tolerance reference.availableCandidates
      candidate.availableCandidates &&
    debugMatchesWithTolerance tolerance reference.debug candidate.debug

def routingResultsMatchWithTolerance (tolerance : BackendParityTolerance)
    (reference candidate : List (RoutingResult Binary32)) : Bool :=
  reference.length == candidate.length &&
    (reference.zip candidate).all fun p => routingResultMatchesWithTolerance tolerance p.1 p.2

/-! The harnesses. -/

/-- The first pair `same` tells apart, or the shorter length. -/
def firstMismatchBy {α : Type} (same : α → α → Bool) (reference candidate : List α) :
    BackendMismatch where
  firstMismatchIndex := ((reference.zip candidate).findIdx? fun p => !same p.1 p.2).getD
    (min reference.length candidate.length)
  referenceLen := reference.length
  candidateLen := candidate.length

def firstMismatch : List (RoutingResult Binary32) → List (RoutingResult Binary32) →
    BackendMismatch :=
  firstMismatchBy routingResultEq

def firstTolerantMismatch (tolerance : BackendParityTolerance) :
    List (RoutingResult Binary32) → List (RoutingResult Binary32) → BackendMismatch :=
  firstMismatchBy (routingResultMatchesWithTolerance tolerance)

def parityReport (reference candidate : RouterBackend)
    (candidateResults : List (RoutingResult Binary32)) : BackendParityReport where
  referenceBackend := reference.name
  candidateBackend := candidate.name
  routes := candidateResults.length
  idealUnavailableCount := candidateResults.countP RoutingResult.idealCandidateUnavailable
  checksum := routingResultsChecksum candidateResults

/-- Route with both backends, compare, report. -/
def assertParityBy (agree : List (RoutingResult Binary32) → List (RoutingResult Binary32) → Bool)
    (mismatchOf : List (RoutingResult Binary32) → List (RoutingResult Binary32) → BackendMismatch)
    (reference candidate : RouterBackend) (requests : List (RoutingRequest Binary32))
    (states : List (AgentRuntimeState Binary32)) : Except BackendParityError BackendParityReport :=
  match reference.routeBatch requests states with
  | .error source => .error (.referenceRoute reference.name source)
  | .ok referenceResults =>
    match candidate.routeBatch requests states with
    | .error source => .error (.candidateRoute candidate.name source)
    | .ok candidateResults =>
      if !agree referenceResults candidateResults then
        .error (.mismatch reference.name candidate.name
          (mismatchOf referenceResults candidateResults))
      else .ok (parityReport reference candidate candidateResults)

def assertBackendParity : RouterBackend → RouterBackend → List (RoutingRequest Binary32) →
    List (AgentRuntimeState Binary32) → Except BackendParityError BackendParityReport :=
  assertParityBy (listsMatch routingResultEq) firstMismatch

def assertBackendParityWithTolerance (reference candidate : RouterBackend)
    (requests : List (RoutingRequest Binary32)) (states : List (AgentRuntimeState Binary32))
    (tolerance : BackendParityTolerance) : Except BackendParityError BackendParityReport :=
  assertParityBy (routingResultsMatchWithTolerance tolerance) (firstTolerantMismatch tolerance)
    reference candidate requests states

/-! Epsilon. -/

/-- With an epsilon of zero, of either sign, close is equal. -/
theorem f32Close_zero {epsilon : Binary32} (h : epsilon.eq (.zero 24 253) = true)
    (left right : Binary32) : f32Close left right epsilon = left.eq right := by
  unfold f32Close
  split
  · rfl
  · rename_i hfinite
    rw [Bool.or_eq_true, not_or, Bool.not_eq_true, Bool.not_eq_true] at hfinite
    rw [BinaryFloat.le_of_eq_right h]
    exact BinaryFloat.abs_sub_le_zero (by decide) hfinite.1 hfinite.2

theorem f32Close_mono {epsilon epsilon' : Binary32} (h : epsilon.le epsilon' = true)
    {left right : Binary32} (hclose : f32Close left right epsilon = true) :
    f32Close left right epsilon' = true := by
  unfold f32Close at hclose ⊢
  split
  · rename_i hinfinite
    rw [if_pos hinfinite] at hclose
    exact hclose
  · rename_i hfinite
    rw [if_neg hfinite] at hclose
    exact BinaryFloat.le_trans hclose h

/-- A coarser comparison of the entries is a coarser comparison of the lists. -/
theorem listsMatch_mono {α : Type} {same same' : α → α → Bool}
    (h : ∀ left right, same left right = true → same' left right = true) {left right : List α}
    (hmatch : listsMatch same left right = true) : listsMatch same' left right = true := by
  unfold listsMatch at hmatch ⊢
  rw [Bool.and_eq_true, List.all_eq_true] at hmatch ⊢
  exact ⟨hmatch.1, fun p hp => h p.1 p.2 (hmatch.2 p hp)⟩

theorem candidateListsMatch_eq (tolerance : BackendParityTolerance) :
    candidateListsMatchWithTolerance tolerance =
      listsMatch (routeCandidateMatchesWithTolerance tolerance) := rfl

theorem routingResultsMatch_eq (tolerance : BackendParityTolerance) :
    routingResultsMatchWithTolerance tolerance =
      listsMatch (routingResultMatchesWithTolerance tolerance) := rfl

section Zero
variable {tolerance : BackendParityTolerance}
  (h : tolerance.scoreAbsEpsilon.eq (.zero 24 253) = true)
include h

theorem routeCandidateMatches_zero :
    routeCandidateMatchesWithTolerance tolerance = routeCandidateEq := by
  funext reference candidate
  unfold routeCandidateMatchesWithTolerance routeCandidateEq
  simp only [f32Close_zero h]
  ac_rfl

theorem debugMatches_zero :
    debugMatchesWithTolerance tolerance = optionsMatch routeDebugInfoEq := by
  funext reference candidate
  cases reference with
  | none => cases candidate <;> rfl
  | some reference =>
    cases candidate with
    | none => rfl
    | some candidate =>
      unfold debugMatchesWithTolerance optionsMatch routeDebugInfoEq
      rw [candidateListsMatch_eq, routeCandidateMatches_zero h]

theorem routingResultMatches_zero :
    routingResultMatchesWithTolerance tolerance = routingResultEq := by
  funext reference candidate
  unfold routingResultMatchesWithTolerance routingResultEq
  rw [debugMatches_zero h, candidateListsMatch_eq, routeCandidateMatches_zero h]
  ac_rfl

end Zero

section Mono
variable {tolerance tolerance' : BackendParityTolerance}
  (h : tolerance.scoreAbsEpsilon.le tolerance'.scoreAbsEpsilon = true)
include h

theorem routeCandidateMatches_mono {reference candidate : RouteCandidate Binary32}
    (hmatch : routeCandidateMatchesWithTolerance tolerance reference candidate = true) :
    routeCandidateMatchesWithTolerance tolerance' reference candidate = true := by
  unfold routeCandidateMatchesWithTolerance at hmatch ⊢
  simp only [Bool.and_eq_true] at hmatch ⊢
  obtain ⟨⟨⟨⟨⟨⟨hids, heffective⟩, hbase⟩, homega⟩, hqueue⟩, hlatency⟩, hcache⟩ := hmatch
  exact ⟨⟨⟨⟨⟨⟨hids, f32Close_mono h heffective⟩, f32Close_mono h hbase⟩, f32Close_mono h homega⟩,
    f32Close_mono h hqueue⟩, f32Close_mono h hlatency⟩, f32Close_mono h hcache⟩

theorem debugMatches_mono {reference candidate : Option (RouteDebugInfo Binary32)}
    (hmatch : debugMatchesWithTolerance tolerance reference candidate = true) :
    debugMatchesWithTolerance tolerance' reference candidate = true := by
  cases reference with
  | none =>
    cases candidate with
    | none => rfl
    | some candidate => cases hmatch
  | some reference =>
    cases candidate with
    | none => cases hmatch
    | some candidate =>
      unfold debugMatchesWithTolerance at hmatch ⊢
      rw [candidateListsMatch_eq] at hmatch ⊢
      exact listsMatch_mono (fun _ _ hpair => routeCandidateMatches_mono h hpair) hmatch

theorem routingResultMatches_mono {reference candidate : RoutingResult Binary32}
    (hmatch : routingResultMatchesWithTolerance tolerance reference candidate = true) :
    routingResultMatchesWithTolerance tolerance' reference candidate = true := by
  unfold routingResultMatchesWithTolerance at hmatch ⊢
  simp only [candidateListsMatch_eq, Bool.and_eq_true] at hmatch ⊢
  obtain ⟨⟨hfields, hcandidates⟩, hdebug⟩ := hmatch
  exact ⟨⟨hfields, listsMatch_mono (fun _ _ hpair => routeCandidateMatches_mono h hpair) hcandidates⟩,
    debugMatches_mono h hdebug⟩

end Mono

/-! The first mismatch. -/

/-- `i` is the least position where the lists disagree, or the shorter length when every
common position agrees and the lengths differ. -/
def FirstDisagreement {α : Type} (same : α → α → Bool) (left right : List α) (i : Nat) : Prop :=
  (∀ j < i, ∀ a b, left[j]? = some a → right[j]? = some b → same a b = true) ∧
  ((∃ a b, left[i]? = some a ∧ right[i]? = some b ∧ same a b = false) ∨
    i = min left.length right.length ∧ left.length ≠ right.length)

theorem firstMismatchBy_spec {α : Type} {same : α → α → Bool} {left right : List α}
    (h : listsMatch same left right = false) :
    FirstDisagreement same left right (firstMismatchBy same left right).firstMismatchIndex := by
  unfold firstMismatchBy
  cases hfind : (left.zip right).findIdx? fun p => !same p.1 p.2 with
  | some i =>
    obtain ⟨hi, hdiffer, hbefore⟩ := List.findIdx?_eq_some_iff_getElem.mp hfind
    show FirstDisagreement same left right i
    refine ⟨?_, Or.inl ?_⟩
    · intro j hj a b ha hb
      have hpair : (left.zip right)[j]? = some (a, b) := List.getElem?_zip_eq_some.mpr ⟨ha, hb⟩
      obtain ⟨hlt, hget⟩ := List.getElem?_eq_some_iff.mp hpair
      have hagree := hbefore j hj
      rw [hget] at hagree
      simpa using hagree
    · have hpair : (left.zip right)[i]? = some (left.zip right)[i] := List.getElem?_eq_getElem hi
      obtain ⟨ha, hb⟩ := List.getElem?_zip_eq_some.mp hpair
      exact ⟨_, _, ha, hb, by simpa using hdiffer⟩
  | none =>
    have hagree := List.findIdx?_eq_none_iff.mp hfind
    show FirstDisagreement same left right (min left.length right.length)
    refine ⟨?_, Or.inr ⟨rfl, ?_⟩⟩
    · intro j _ a b ha hb
      have hpair : (left.zip right)[j]? = some (a, b) := List.getElem?_zip_eq_some.mpr ⟨ha, hb⟩
      simpa using hagree (a, b) (List.mem_of_getElem? hpair)
    · -- with equal lengths the lists would match
      intro hlength
      have hall : listsMatch same left right = true := by
        unfold listsMatch
        rw [Bool.and_eq_true, beq_iff_eq, List.all_eq_true]
        refine ⟨hlength, ?_⟩
        intro p hp
        simpa using hagree p hp
      rw [hall] at h
      cases h

/-! The harnesses. -/

section Harness
variable {agree agree' : List (RoutingResult Binary32) → List (RoutingResult Binary32) → Bool}
  {mismatchOf mismatchOf' :
    List (RoutingResult Binary32) → List (RoutingResult Binary32) → BackendMismatch}
  {reference candidate : RouterBackend} {requests : List (RoutingRequest Binary32)}
  {states : List (AgentRuntimeState Binary32)}

/-- What accepts is the comparison of two routed batches. -/
theorem assertParityBy_ok_iff {report : BackendParityReport} :
    assertParityBy agree mismatchOf reference candidate requests states = .ok report ↔
      ∃ refs cands, reference.routeBatch requests states = .ok refs ∧
        candidate.routeBatch requests states = .ok cands ∧ agree refs cands = true ∧
        report = parityReport reference candidate cands := by
  unfold assertParityBy
  cases hrefs : reference.routeBatch requests states with
  | error source => simp
  | ok refs =>
    cases hcands : candidate.routeBatch requests states with
    | error source => simp
    | ok cands =>
      dsimp only
      rw [refuse_ok_iff, Bool.not_eq_true', Bool.not_eq_false]
      refine ⟨?_, ?_⟩
      · intro ⟨hagree, hreport⟩
        exact ⟨refs, cands, rfl, rfl, hagree, (Except.ok.inj hreport).symm⟩
      · intro ⟨refs', cands', hrefs', hcands', hagree, hreport⟩
        obtain rfl := Except.ok.inj hrefs'
        obtain rfl := Except.ok.inj hcands'
        exact ⟨hagree, by rw [hreport]⟩

theorem assertParityBy_mono
    (h : ∀ refs cands, agree refs cands = true → agree' refs cands = true)
    {report : BackendParityReport}
    (hok : assertParityBy agree mismatchOf reference candidate requests states = .ok report) :
    assertParityBy agree' mismatchOf' reference candidate requests states = .ok report := by
  obtain ⟨refs, cands, hrefs, hcands, hagree, hreport⟩ := assertParityBy_ok_iff.mp hok
  exact assertParityBy_ok_iff.mpr ⟨refs, cands, hrefs, hcands, h refs cands hagree, hreport⟩

theorem assertParityBy_mismatch {left right : String} {mismatch : BackendMismatch}
    (h : assertParityBy agree mismatchOf reference candidate requests states =
      .error (.mismatch left right mismatch)) :
    ∃ refs cands, reference.routeBatch requests states = .ok refs ∧
      candidate.routeBatch requests states = .ok cands ∧ agree refs cands = false ∧
      mismatch = mismatchOf refs cands := by
  unfold assertParityBy at h
  cases hrefs : reference.routeBatch requests states with
  | error source =>
    rw [hrefs] at h
    cases h
  | ok refs =>
    cases hcands : candidate.routeBatch requests states with
    | error source =>
      rw [hrefs, hcands] at h
      cases h
    | ok cands =>
      rw [hrefs, hcands] at h
      cases hagree : agree refs cands with
      | true =>
        simp [hagree] at h
      | false =>
        simp only [hagree, Bool.not_false, if_true, Except.error.injEq,
          BackendParityError.mismatch.injEq] at h
        exact ⟨refs, cands, rfl, rfl, hagree, h.2.2.symm⟩

end Harness

/-- The two parity harnesses, over scores of every kind: with an epsilon of zero the
tolerant one accepts what the exact one does, a larger epsilon accepts no less, and a
reported mismatch is the first disagreement of the harness's own comparison. -/
theorem parity_harnesses_consistent (reference candidate : RouterBackend)
    (requests : List (RoutingRequest Binary32)) (states : List (AgentRuntimeState Binary32)) :
    (∀ tolerance : BackendParityTolerance,
      tolerance.scoreAbsEpsilon.eq (.zero 24 253) = true → ∀ report,
        assertBackendParityWithTolerance reference candidate requests states tolerance =
          .ok report ↔
        assertBackendParity reference candidate requests states = .ok report) ∧
    (∀ tolerance tolerance' : BackendParityTolerance,
      tolerance.scoreAbsEpsilon.le tolerance'.scoreAbsEpsilon = true → ∀ report,
        assertBackendParityWithTolerance reference candidate requests states tolerance =
          .ok report →
        assertBackendParityWithTolerance reference candidate requests states tolerance' =
          .ok report) ∧
    (∀ left right mismatch,
      assertBackendParity reference candidate requests states =
        .error (.mismatch left right mismatch) →
      ∃ refs cands, reference.routeBatch requests states = .ok refs ∧
        candidate.routeBatch requests states = .ok cands ∧
        FirstDisagreement routingResultEq refs cands mismatch.firstMismatchIndex) ∧
    (∀ tolerance left right mismatch,
      assertBackendParityWithTolerance reference candidate requests states tolerance =
        .error (.mismatch left right mismatch) →
      ∃ refs cands, reference.routeBatch requests states = .ok refs ∧
        candidate.routeBatch requests states = .ok cands ∧
        FirstDisagreement (routingResultMatchesWithTolerance tolerance) refs cands
          mismatch.firstMismatchIndex) := by
  refine ⟨?_, ?_, ?_, ?_⟩
  · intro tolerance hzero report
    unfold assertBackendParityWithTolerance assertBackendParity
    rw [routingResultsMatch_eq, routingResultMatches_zero hzero]
    exact ⟨assertParityBy_mono fun _ _ h => h, assertParityBy_mono fun _ _ h => h⟩
  · intro tolerance tolerance' hle report
    apply assertParityBy_mono
    intro refs cands hmatch
    rw [routingResultsMatch_eq] at hmatch ⊢
    exact listsMatch_mono (fun _ _ hpair => routingResultMatches_mono hle hpair) hmatch
  · intro left right mismatch h
    obtain ⟨refs, cands, hrefs, hcands, hagree, rfl⟩ := assertParityBy_mismatch h
    exact ⟨refs, cands, hrefs, hcands, firstMismatchBy_spec hagree⟩
  · intro tolerance left right mismatch h
    obtain ⟨refs, cands, hrefs, hcands, hagree, rfl⟩ := assertParityBy_mismatch h
    exact ⟨refs, cands, hrefs, hcands, firstMismatchBy_spec hagree⟩

end QTom.Router
