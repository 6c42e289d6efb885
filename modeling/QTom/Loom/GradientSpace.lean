import QTom.Lib.TopK
import QTom.Loom.TaskEnvelope
import QTom.Router.Score

/- Gradient spaces and the memory placed in them (`loom_model.rs`). A report looks at
   the placements of one space and version, keeps those inside the radius, sorts them
   and cuts them to the budget. `f32::partial_cmp` is read off `<` and `==`, and
   `sort_by` is the stable sort by its comparison. -/
namespace QTom.Loom
open QTom.Lib QTom.Router

structure GradientAxis (F : Type) where
  axisId : Nat
  name : String
  lowAnchor : String
  highAnchor : String
  confidence : F
  deriving DecidableEq, Repr

structure GradientSpace (F : Type) where
  gradientSpaceId : Nat
  name : String
  version : Nat
  axes : List (GradientAxis F)
  deriving DecidableEq, Repr

structure MemoryPlacement (F : Type) where
  placementId : Nat
  memoryNodeId : Nat
  gradientSpaceId : Nat
  gradientSpaceVersion : Nat
  coordinates : List F
  placementEvidenceRef : String
  deriving DecidableEq, Repr

structure MemoryCandidate (F : Type) where
  memoryNodeId : Nat
  placementId : Nat
  gradientSpaceId : Nat
  gradientSpaceVersion : Nat
  distanceSq : F
  deriving DecidableEq, Repr

structure MemoryCandidateReport (F : Type) where
  totalPlacements : Nat
  hardMaskedPlacements : Nat
  radiusMatchedCandidates : Nat
  returnedCandidates : Nat
  targetMinCandidates : Nat
  targetMet : Bool
  candidates : List (MemoryCandidate F)
  deriving DecidableEq, Repr

section Compare
variable {F : Type} [F32 F]

def compareMemoryCandidate (left right : MemoryCandidate F) : Ordering :=
  (((F32.partialCmp left.distanceSq right.distanceSq).getD .eq).then
    (compare left.memoryNodeId right.memoryNodeId)).then
    (compare left.placementId right.placementId)

/-- The sum of the squared coordinate differences. -/
def placementDistanceSq (coordinates queryCoordinates : List F) : F :=
  ((coordinates.zip queryCoordinates).map fun p =>
    let delta := F32.sub p.1 p.2
    F32.mul delta delta).foldl F32.add F32.zero

end Compare

namespace GradientSpace
variable {F : Type}

def placeMemoryNode (space : GradientSpace F) (placementId : Nat) (node : MemoryNode)
    (coordinates : List F) (placementEvidenceRef : String) :
    Except LoomModelError (MemoryPlacement F) :=
  if coordinates.length ≠ space.axes.length then
    .error (.invalidNumericField "coordinates" "must match gradient axis count")
  else do
    ensureNotEmpty "placement_evidence_ref" placementEvidenceRef
    return {
      placementId
      memoryNodeId := node.memoryNodeId
      gradientSpaceId := space.gradientSpaceId
      gradientSpaceVersion := space.version
      coordinates
      placementEvidenceRef }

/-- The placement is of this space and version. -/
def holds (space : GradientSpace F) (placement : MemoryPlacement F) : Bool :=
  placement.gradientSpaceId == space.gradientSpaceId &&
    placement.gradientSpaceVersion == space.version

theorem holds_iff {space : GradientSpace F} {placement : MemoryPlacement F} :
    space.holds placement = true ↔ placement.gradientSpaceId = space.gradientSpaceId ∧
      placement.gradientSpaceVersion = space.version := by
  unfold holds
  rw [Bool.and_eq_true, beq_iff_eq, beq_iff_eq]

/-- A node is placed with one coordinate for each axis. -/
theorem placeMemoryNode_length {space : GradientSpace F} {placementId : Nat} {node : MemoryNode}
    {coordinates : List F} {placementEvidenceRef : String} {placement : MemoryPlacement F}
    (h : space.placeMemoryNode placementId node coordinates placementEvidenceRef = .ok placement) :
    placement.coordinates.length = space.axes.length := by
  unfold placeMemoryNode at h
  rw [refuse_ok_iff, not_not] at h
  obtain ⟨hlen, hplaced⟩ := h
  obtain ⟨_, _, hplacement⟩ := bind_ok_iff.mp hplaced
  cases hplacement
  exact hlen

variable [F32 F]

def candidateOf (queryCoordinates : List F) (placement : MemoryPlacement F) : MemoryCandidate F where
  memoryNodeId := placement.memoryNodeId
  placementId := placement.placementId
  gradientSpaceId := placement.gradientSpaceId
  gradientSpaceVersion := placement.gradientSpaceVersion
  distanceSq := placementDistanceSq placement.coordinates queryCoordinates

/-- What the loop over the placements carries. -/
structure CandidateScan (F : Type) where
  hardMaskedPlacements : Nat
  candidates : List (MemoryCandidate F)

/-- The body of the loop over the placements. -/
def scanPlacement (space : GradientSpace F) (queryCoordinates : List F) (radiusSq : F)
    (scan : CandidateScan F) (placement : MemoryPlacement F) :
    Except LoomModelError (CandidateScan F) :=
  if !space.holds placement then .ok scan
  else if placement.coordinates.length ≠ space.axes.length then
    .error (.invalidNumericField "placement.coordinates" "must match gradient axis count")
  else
    let candidate := candidateOf queryCoordinates placement
    .ok {
      hardMaskedPlacements := scan.hardMaskedPlacements + 1
      candidates :=
        if F32.le candidate.distanceSq radiusSq then scan.candidates ++ [candidate]
        else scan.candidates }

/-- The report of a scan: sorted, counted, cut to the budget. -/
def reportOf (placements : List (MemoryPlacement F)) (budget targetMinCandidates : Nat)
    (scan : CandidateScan F) : MemoryCandidateReport F :=
  let candidates := sortBy compareMemoryCandidate scan.candidates
  { totalPlacements := placements.length
    hardMaskedPlacements := scan.hardMaskedPlacements
    radiusMatchedCandidates := candidates.length
    returnedCandidates := (candidates.take budget).length
    targetMinCandidates
    targetMet := decide (candidates.length ≥ targetMinCandidates)
    candidates := candidates.take budget }

def memoryCandidateReport (space : GradientSpace F) (placements : List (MemoryPlacement F))
    (queryCoordinates : List F) (radiusSq : F) (budget targetMinCandidates : Nat) :
    Except LoomModelError (MemoryCandidateReport F) :=
  if queryCoordinates.length ≠ space.axes.length then
    .error (.invalidNumericField "query_coordinates" "must match gradient axis count")
  else if F32.lt radiusSq F32.zero then
    .error (.invalidNumericField "radius_sq" "must be non-negative")
  else do
    let scan ← placements.foldlM (space.scanPlacement queryCoordinates radiusSq) ⟨0, []⟩
    return reportOf placements budget targetMinCandidates scan

end GradientSpace
end QTom.Loom
