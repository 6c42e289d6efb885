import QTom.Lib.Runs
import QTom.Loom.GradientSpace
import QTom.Router.Exact

/- The memory candidate report over exact arithmetic (`memoryCandidateReport_correct`).
   The scan is a guarded step whose guard reads the placement only, so it fails for a
   placement of the space with the wrong coordinate count and otherwise counts the
   placements of the space and collects those inside the radius, in list order. The
   candidates of one report agree on the space and its version, so the three sort keys
   tell any two apart: the sorted list forgets the placement order, and the budget cuts
   a prefix of it. -/
namespace QTom.Loom
open QTom.Lib QTom.Router

variable {K : Type} [Ring K] [LinearOrder K]

/-! The three-key order. -/

/-- `left` may stand before `right`: by distance, then memory node, then placement. -/
def NotAfter (left right : MemoryCandidate (WithTop K)) : Prop :=
  left.distanceSq < right.distanceSq ∨ left.distanceSq = right.distanceSq ∧
    (left.memoryNodeId < right.memoryNodeId ∨ left.memoryNodeId = right.memoryNodeId ∧
      left.placementId ≤ right.placementId)

theorem compareMemoryCandidate_eq (left right : MemoryCandidate (WithTop K)) :
    compareMemoryCandidate left right =
      ((F32.totalCmp left.distanceSq right.distanceSq).then
        (compare left.memoryNodeId right.memoryNodeId)).then
        (compare left.placementId right.placementId) := by
  unfold compareMemoryCandidate
  rw [Exact.partialCmp_eq]
  rfl

instance : Std.TransCmp (compareMemoryCandidate (F := WithTop K)) := by
  have hcmp : compareMemoryCandidate (F := WithTop K) = compareLex (compareLex
      (fun left right => F32.totalCmp left.distanceSq right.distanceSq)
      (compareOn MemoryCandidate.memoryNodeId)) (compareOn MemoryCandidate.placementId) := by
    funext left right
    exact compareMemoryCandidate_eq left right
  have _ := transCmp_comap (F32.totalCmp (F := WithTop K)) MemoryCandidate.distanceSq
  rw [hcmp]
  infer_instance

theorem notAfter_iff {left right : MemoryCandidate (WithTop K)} :
    (compareMemoryCandidate left right).isLE = true ↔ NotAfter left right := by
  unfold NotAfter
  rw [compareMemoryCandidate_eq, Ordering.isLE_then_iff_or, Ordering.then_eq_lt, Ordering.then_eq_eq,
    Exact.totalCmp_lt, Exact.totalCmp_eq, Nat.isLE_compare, compare_lt_iff_lt, compare_eq_iff_eq]
  tauto

/-- Candidates of one space and version that tie on the three keys are one candidate. -/
theorem eq_of_compareMemoryCandidate {left right : MemoryCandidate (WithTop K)}
    (hspace : left.gradientSpaceId = right.gradientSpaceId)
    (hversion : left.gradientSpaceVersion = right.gradientSpaceVersion)
    (h : compareMemoryCandidate left right = .eq) : left = right := by
  rw [compareMemoryCandidate_eq, Ordering.then_eq_eq, Ordering.then_eq_eq, Exact.totalCmp_eq,
    compare_eq_iff_eq, compare_eq_iff_eq] at h
  obtain ⟨⟨hdistance, hnode⟩, hplacement⟩ := h
  cases left
  cases right
  simp_all

/-! Distances. -/

/-- The squared distance of two points, by coordinates. -/
def squaredDistance (coordinates query : List (WithTop K)) : WithTop K :=
  ((coordinates.zip query).map Exact.square).sum

theorem placementDistanceSq_eq (coordinates query : List (WithTop K)) :
    placementDistanceSq coordinates query = squaredDistance coordinates query := by
  unfold placementDistanceSq squaredDistance
  exact List.sum_eq_foldl.symm

/-! The scan. -/

namespace GradientSpace
variable (space : GradientSpace (WithTop K)) (query : List (WithTop K)) (radiusSq : WithTop K)

/-- The placement does not stop the scan. -/
def Fits (placement : MemoryPlacement (WithTop K)) : Prop :=
  space.holds placement = true → placement.coordinates.length = space.axes.length

/-- The placement is of the space and inside the radius. -/
def inRadius (placement : MemoryPlacement (WithTop K)) : Bool :=
  space.holds placement && decide (squaredDistance placement.coordinates query ≤ radiusSq)

/-- One placement that fits, counted and collected. -/
def scanned (scan : CandidateScan (WithTop K)) (placement : MemoryPlacement (WithTop K)) :
    CandidateScan (WithTop K) where
  hardMaskedPlacements :=
    if space.holds placement then scan.hardMaskedPlacements + 1 else scan.hardMaskedPlacements
  candidates :=
    if space.inRadius query radiusSq placement then
      scan.candidates ++ [candidateOf query placement]
    else scan.candidates

theorem scanPlacement_guarded : Guarded (space.scanPlacement query radiusSq)
    (fun _ placement => space.Fits placement) (space.scanned query radiusSq) := by
  intro scan placement next
  have hok : ∀ {a b : CandidateScan (WithTop K)},
      (Except.ok a : Except LoomModelError _) = .ok b ↔ b = a := by
    intro a b
    rw [Except.ok.injEq]
    exact eq_comm
  show _ ↔ space.Fits placement ∧ _
  unfold scanPlacement scanned inRadius Fits
  by_cases hholds : space.holds placement = true
  · have hle : F32.le (candidateOf query placement).distanceSq radiusSq =
        decide (squaredDistance placement.coordinates query ≤ radiusSq) := by
      rw [Bool.eq_iff_iff, Exact.le_iff, decide_eq_true_iff]
      unfold candidateOf
      rw [placementDistanceSq_eq]
    rw [hholds, if_neg (by decide), refuse_ok_iff, not_not, forall_prop_of_true rfl]
    dsimp only
    rw [hle, hok, Bool.true_and, if_pos rfl]
  · -- another space or version: the scan goes on
    have hother : space.holds placement = false := Bool.eq_false_iff.mpr hholds
    rw [hother, if_pos (by decide), hok, Bool.false_and, if_neg Bool.false_ne_true,
      if_neg Bool.false_ne_true, and_iff_right fun h => absurd h Bool.false_ne_true]

/-- The scan fails on a placement that does not fit, always with the same error. -/
theorem scanPlacement_error {scan : CandidateScan (WithTop K)}
    {placement : MemoryPlacement (WithTop K)} {err : LoomModelError}
    (h : space.scanPlacement query radiusSq scan placement = .error err) :
    err = .invalidNumericField "placement.coordinates" "must match gradient axis count" := by
  unfold scanPlacement at h
  split at h
  · cases h
  · split at h
    · exact (Except.error.inj h).symm
    · cases h

/-- What a report says of a placement of the space. -/
def candidateFor (placement : MemoryPlacement (WithTop K)) : MemoryCandidate (WithTop K) where
  memoryNodeId := placement.memoryNodeId
  placementId := placement.placementId
  gradientSpaceId := space.gradientSpaceId
  gradientSpaceVersion := space.version
  distanceSq := squaredDistance placement.coordinates query

/-- The candidates of the placements inside the radius, in list order. -/
def matched (placements : List (MemoryPlacement (WithTop K))) :
    List (MemoryCandidate (WithTop K)) :=
  (placements.filter (space.inRadius query radiusSq)).map (space.candidateFor query)

variable {space query radiusSq}

theorem candidateOf_eq {placement : MemoryPlacement (WithTop K)}
    (h : space.holds placement = true) :
    candidateOf query placement = space.candidateFor query placement := by
  obtain ⟨hid, hversion⟩ := holds_iff.mp h
  unfold candidateOf candidateFor
  rw [hid, hversion, placementDistanceSq_eq]

theorem scanned_run (placements : List (MemoryPlacement (WithTop K))) :
    placements.foldl (space.scanned query radiusSq) ⟨0, []⟩ =
      ⟨placements.countP space.holds, space.matched query radiusSq placements⟩ := by
  have hcount := foldl_countP CandidateScan.hardMaskedPlacements space.holds
    (g := space.scanned query radiusSq) (fun _ _ => rfl) ⟨0, []⟩ placements
  have hcollect := foldl_collect_map CandidateScan.candidates (space.inRadius query radiusSq)
    (candidateOf query) (g := space.scanned query radiusSq) (fun _ _ => rfl) ⟨0, []⟩ placements
  have hmatched : (placements.filter (space.inRadius query radiusSq)).map (candidateOf query) =
      space.matched query radiusSq placements := by
    apply List.map_congr_left
    intro placement hplacement
    exact candidateOf_eq (Bool.and_eq_true_iff.mp (List.mem_filter.mp hplacement).2).1
  rw [Nat.zero_add] at hcount
  rw [List.nil_append, hmatched] at hcollect
  rw [← hcount, ← hcollect]

/-- The scan of placements that fit. -/
theorem scan_ok {placements : List (MemoryPlacement (WithTop K))}
    (h : ∀ placement ∈ placements, space.Fits placement) :
    placements.foldlM (space.scanPlacement query radiusSq) ⟨0, []⟩ =
      .ok ⟨placements.countP space.holds, space.matched query radiusSq placements⟩ := by
  apply (space.scanPlacement_guarded query radiusSq).run_iff.mpr
  refine ⟨(scanned_run placements).symm, ?_⟩
  intro pre placement post hsplit
  apply h
  rw [hsplit]
  exact List.mem_append_right _ List.mem_cons_self

/-- The scan of placements one of which does not fit. -/
theorem scan_error {placements : List (MemoryPlacement (WithTop K))}
    (h : ∃ placement ∈ placements, ¬ space.Fits placement) :
    placements.foldlM (space.scanPlacement query radiusSq) ⟨0, []⟩ =
      .error (.invalidNumericField "placement.coordinates" "must match gradient axis count") := by
  obtain ⟨bad, hbad, hnot⟩ := h
  cases hrun : placements.foldlM (space.scanPlacement query radiusSq) ⟨0, []⟩ with
  | ok scan =>
    obtain ⟨_, halong⟩ := (space.scanPlacement_guarded query radiusSq).run_iff.mp hrun
    obtain ⟨pre, post, hsplit⟩ := List.append_of_mem hbad
    exact absurd (halong pre bad post hsplit) hnot
  | error err =>
    obtain ⟨_, placement, _, scan, _, _, herr⟩ := foldlM_error hrun
    rw [space.scanPlacement_error query radiusSq herr]

/-- Candidates of the space tie on the three keys only with themselves. -/
theorem matched_inj (placements : List (MemoryPlacement (WithTop K))) :
    ∀ a ∈ space.matched query radiusSq placements, ∀ b ∈ space.matched query radiusSq placements,
      compareMemoryCandidate a b = .eq → a = b := by
  intro a ha b hb h
  obtain ⟨_, _, rfl⟩ := List.mem_map.mp ha
  obtain ⟨_, _, rfl⟩ := List.mem_map.mp hb
  exact eq_of_compareMemoryCandidate rfl rfl h

/-! The report. -/

/-- What a report owes its caller: the placements inside the radius, the least `budget`
of them in order, and how many there were at each stage. -/
structure Reported (space : GradientSpace (WithTop K)) (query : List (WithTop K))
    (radiusSq : WithTop K) (placements : List (MemoryPlacement (WithTop K)))
    (budget targetMinCandidates : Nat) (report : MemoryCandidateReport (WithTop K)) : Prop where
  candidates : ∃ beyond,
    (report.candidates ++ beyond).Perm (space.matched query radiusSq placements) ∧
    (report.candidates ++ beyond).Pairwise NotAfter
  own : ∀ c ∈ report.candidates,
    c.gradientSpaceId = space.gradientSpaceId ∧ c.gradientSpaceVersion = space.version
  total : report.totalPlacements = placements.length
  hardMasked : report.hardMaskedPlacements = placements.countP space.holds
  radiusMatched : report.radiusMatchedCandidates =
    placements.countP (space.inRadius query radiusSq)
  returned : report.returnedCandidates = report.candidates.length
  cut : report.returnedCandidates = min budget report.radiusMatchedCandidates
  targetMin : report.targetMinCandidates = targetMinCandidates
  targetMet : report.targetMet = true ↔ targetMinCandidates ≤ report.radiusMatchedCandidates

theorem reportOf_reported (placements : List (MemoryPlacement (WithTop K)))
    (budget targetMinCandidates : Nat) :
    Reported space query radiusSq placements budget targetMinCandidates
      (reportOf placements budget targetMinCandidates
        ⟨placements.countP space.holds, space.matched query radiusSq placements⟩) := by
  have hlength : (sortBy compareMemoryCandidate (space.matched query radiusSq placements)).length =
      placements.countP (space.inRadius query radiusSq) := by
    rw [length_sortBy, List.countP_eq_length_filter]
    exact List.length_map _
  refine ⟨?_, ?_, rfl, rfl, hlength, rfl, List.length_take, rfl, decide_eq_true_iff⟩
  · refine ⟨(sortBy compareMemoryCandidate (space.matched query radiusSq placements)).drop budget,
      ?_⟩
    show (List.take budget _ ++ _).Perm _ ∧ (List.take budget _ ++ _).Pairwise _
    rw [List.take_append_drop]
    refine ⟨sortBy_perm _, ?_⟩
    exact (sortBy_pairwise _).imp fun h => notAfter_iff.mp h
  · intro c hc
    obtain ⟨_, _, rfl⟩ := List.mem_map.mp (mem_sortBy.mp (List.mem_of_mem_take hc))
    exact ⟨rfl, rfl⟩

/-- The report of placements that fit. -/
theorem memoryCandidateReport_ok (hquery : query.length = space.axes.length) (hradius : 0 ≤ radiusSq)
    {placements : List (MemoryPlacement (WithTop K))}
    (h : ∀ placement ∈ placements, space.Fits placement) (budget targetMinCandidates : Nat) :
    space.memoryCandidateReport placements query radiusSq budget targetMinCandidates =
      .ok (reportOf placements budget targetMinCandidates
        ⟨placements.countP space.holds, space.matched query radiusSq placements⟩) := by
  unfold memoryCandidateReport
  rw [if_neg (not_not.mpr hquery), if_neg (by rw [Exact.lt_iff]; exact hradius.not_gt), scan_ok h]
  rfl

theorem memoryCandidateReport_error (hquery : query.length = space.axes.length)
    (hradius : 0 ≤ radiusSq) {placements : List (MemoryPlacement (WithTop K))}
    (h : ∃ placement ∈ placements, ¬ space.Fits placement) (budget targetMinCandidates : Nat) :
    space.memoryCandidateReport placements query radiusSq budget targetMinCandidates =
      .error (.invalidNumericField "placement.coordinates" "must match gradient axis count") := by
  unfold memoryCandidateReport
  rw [if_neg (not_not.mpr hquery), if_neg (by rw [Exact.lt_iff]; exact hradius.not_gt), scan_error h]
  rfl

/-- The order of the placements does not show in a report. -/
theorem reportOf_perm {placements placements' : List (MemoryPlacement (WithTop K))}
    (h : placements'.Perm placements) (budget targetMinCandidates : Nat) :
    reportOf placements' budget targetMinCandidates
        ⟨placements'.countP space.holds, space.matched query radiusSq placements'⟩ =
      reportOf placements budget targetMinCandidates
        ⟨placements.countP space.holds, space.matched query radiusSq placements⟩ := by
  have hmatched : (space.matched query radiusSq placements').Perm
      (space.matched query radiusSq placements) := (h.filter _).map _
  have hsorted := sortBy_eq_of_perm hmatched (matched_inj placements)
  unfold reportOf
  dsimp only
  rw [hsorted, h.countP_eq, h.length_eq]

/-- The memory candidate report, for a query of the right length and a non-negative
radius: what makes it fail, what it returns, and how two reports compare. -/
theorem memoryCandidateReport_correct (space : GradientSpace (WithTop K))
    {query : List (WithTop K)} {radiusSq : WithTop K} (hquery : query.length = space.axes.length)
    (hradius : 0 ≤ radiusSq) (placements : List (MemoryPlacement (WithTop K)))
    (budget targetMinCandidates : Nat) :
    ((∃ placement ∈ placements, space.holds placement = true ∧
        placement.coordinates.length ≠ space.axes.length) →
      space.memoryCandidateReport placements query radiusSq budget targetMinCandidates =
        .error (.invalidNumericField "placement.coordinates" "must match gradient axis count")) ∧
    ((¬ ∃ placement ∈ placements, space.holds placement = true ∧
        placement.coordinates.length ≠ space.axes.length) → ∃ report,
      space.memoryCandidateReport placements query radiusSq budget targetMinCandidates =
        .ok report ∧
      Reported space query radiusSq placements budget targetMinCandidates report) ∧
    (∀ placements', placements'.Perm placements →
      space.memoryCandidateReport placements' query radiusSq budget targetMinCandidates =
        space.memoryCandidateReport placements query radiusSq budget targetMinCandidates) ∧
    (∀ smaller report report', smaller ≤ budget →
      space.memoryCandidateReport placements query radiusSq budget targetMinCandidates =
        .ok report →
      space.memoryCandidateReport placements query radiusSq smaller targetMinCandidates =
        .ok report' → report'.candidates <+: report.candidates) ∧
    ((∀ placement ∈ placements, space.holds placement = true →
        ∃ placementId node coordinates placementEvidenceRef,
          space.placeMemoryNode placementId node coordinates placementEvidenceRef =
            .ok placement) →
      ∃ report, space.memoryCandidateReport placements query radiusSq budget
        targetMinCandidates = .ok report) := by
  have hbad : (∃ placement ∈ placements, space.holds placement = true ∧
      placement.coordinates.length ≠ space.axes.length) ↔
      ∃ placement ∈ placements, ¬ space.Fits placement := by
    simp only [Fits, Classical.not_imp, ne_eq]
  have hfits : (¬ ∃ placement ∈ placements, ¬ space.Fits placement) →
      ∀ placement ∈ placements, space.Fits placement := by
    intro hnone placement hplacement
    by_contra hnot
    exact hnone ⟨placement, hplacement, hnot⟩
  rw [hbad]
  refine ⟨?_, ?_, ?_, ?_, ?_⟩
  · intro h
    exact memoryCandidateReport_error hquery hradius h budget targetMinCandidates
  · intro h
    exact ⟨_, memoryCandidateReport_ok hquery hradius (hfits h) budget targetMinCandidates,
      reportOf_reported placements budget targetMinCandidates⟩
  · intro placements' hperm
    by_cases h : ∃ placement ∈ placements, ¬ space.Fits placement
    · have h' : ∃ placement ∈ placements', ¬ space.Fits placement := by
        obtain ⟨placement, hplacement, hnot⟩ := h
        exact ⟨placement, hperm.mem_iff.mpr hplacement, hnot⟩
      rw [memoryCandidateReport_error hquery hradius h,
        memoryCandidateReport_error hquery hradius h']
    · have h' : ∀ placement ∈ placements', space.Fits placement := by
        intro placement hplacement
        exact hfits h placement (hperm.mem_iff.mp hplacement)
      rw [memoryCandidateReport_ok hquery hradius (hfits h),
        memoryCandidateReport_ok hquery hradius h', reportOf_perm hperm]
  · intro smaller report report' hle hreport hreport'
    by_cases h : ∃ placement ∈ placements, ¬ space.Fits placement
    · rw [memoryCandidateReport_error hquery hradius h] at hreport
      cases hreport
    · rw [memoryCandidateReport_ok hquery hradius (hfits h)] at hreport hreport'
      obtain rfl := Except.ok.inj hreport
      obtain rfl := Except.ok.inj hreport'
      exact List.take_prefix_take_left hle
  · intro hplaced
    have h : ∀ placement ∈ placements, space.Fits placement := by
      intro placement hplacement hholds
      obtain ⟨_, _, _, _, hmade⟩ := hplaced placement hplacement hholds
      exact placeMemoryNode_length hmade
    exact ⟨_, memoryCandidateReport_ok hquery hradius h budget targetMinCandidates⟩

/-- Two axes, and placements at squared distances 5 and 2 and of another version. -/
def twoAxisSpace : GradientSpace (WithTop Int) :=
  ⟨44, "mock-memory", 3, [⟨1, "domain", "general", "specialized", 1⟩, ⟨2, "risk", "low", "high", 1⟩]⟩

def twoAxisPlacements : List (MemoryPlacement (WithTop Int)) :=
  [⟨9000, 1500, 44, 3, [1, 1 + 1], "inline://placement/9000"⟩,
    ⟨9001, 1501, 44, 3, [1, 1], "inline://placement/9001"⟩,
    ⟨9002, 1502, 44, 2, [0], "inline://placement/9002"⟩]

theorem memoryCandidateReport_correct_two : ∃ report,
    twoAxisSpace.memoryCandidateReport twoAxisPlacements [0, 0] ⊤ 1 2 = .ok report ∧
    Reported twoAxisSpace [0, 0] ⊤ twoAxisPlacements 1 2 report :=
  (memoryCandidateReport_correct twoAxisSpace
    (show ([0, 0] : List (WithTop Int)).length = twoAxisSpace.axes.length from rfl)
    (show (0 : WithTop Int) ≤ ⊤ from le_top) twoAxisPlacements 1 2).2.1 (by decide)

end GradientSpace
end QTom.Loom
