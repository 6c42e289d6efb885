import QTom.Lib.Chunks

/- The router's data types (`types.rs`) and scoring (`score.rs`). `F32` is the
   arithmetic of f32 taken as fixed operations: nothing is assumed of them here,
   and a result that needs more says so. Ids, counts and availabilities are only
   compared and copied, so they are `Nat`. A `CompactCandidate` has the fields of a
   `RouteCandidate` and is the same type. -/
namespace QTom.Router
open QTom.Lib

/-- The f32 operations the router and the kernel use; `lt` and `eq` are `<` and
`==`, `totalCmp` is `f32::total_cmp`. -/
class F32 (F : Type) where
  zero : F
  one : F
  infinity : F
  add : F → F → F
  sub : F → F → F
  mul : F → F → F
  lt : F → F → Bool
  eq : F → F → Bool
  totalCmp : F → F → Ordering

/-- `left > right`. -/
def F32.gt {F : Type} [F32 F] (left right : F) : Bool := F32.lt right left

/-- `left <= right`. -/
def F32.le {F : Type} [F32 F] (left right : F) : Bool := F32.lt left right || F32.eq left right

/-- `f32::partial_cmp`: none when neither is below the other and they are not equal. -/
def F32.partialCmp {F : Type} [F32 F] (left right : F) : Option Ordering :=
  if F32.lt left right then some .lt
  else if F32.eq left right then some .eq
  else if F32.gt left right then some .gt
  else none

structure AgentLabels where
  modelProfile : Nat
  toolProfile : Nat
  mcpProfile : Nat
  memoryProfile : Nat
  costClass : Nat
  latencyClass : Nat
  deriving DecidableEq, Repr

structure AgentProfile (F : Type) where
  id : Nat
  vector : List F
  labels : AgentLabels
  deriving DecidableEq, Repr

structure AgentRuntimeState (F : Type) where
  queueDepthNorm : F
  latencyNorm : F
  cachePressureNorm : F
  availability : Nat
  deriving DecidableEq, Repr

def AgentRuntimeState.isAvailable {F : Type} (state : AgentRuntimeState F) : Bool :=
  state.availability != 0

structure RoutingRequest (F : Type) where
  taskId : Nat
  vector : List F
  k : Nat
  fallbackGeneralistId : Nat
  radiusMaxThreshold : F
  deriving DecidableEq, Repr

structure RouteCandidate (F : Type) where
  agentId : Nat
  effectiveDistance : F
  baseDistance : F
  omega : F
  queuePenalty : F
  latencyPenalty : F
  cachePenalty : F
  available : Bool
  deriving DecidableEq, Repr

abbrev CompactCandidate := RouteCandidate

structure RouteDebugInfo (F : Type) where
  observedCandidates : List (RouteCandidate F)
  deriving DecidableEq, Repr

structure RoutingResult (F : Type) where
  taskId : Nat
  availableCandidates : List (RouteCandidate F)
  usedFallback : Bool
  idealCandidateUnavailable : Bool
  debug : Option (RouteDebugInfo F)
  deriving DecidableEq, Repr

inductive RouteError where
  | emptyAgents
  | backendUnavailable (backend reason : String)
  | dimensionMismatch (expected actual : Nat) (context : String)
  | stateLengthMismatch (agents states : Nat)
  | bufferSizeOverflow (context : String)
  deriving DecidableEq, Repr

structure ScoreCoefficients (F : Type) where
  alphaQueue : F
  betaLatency : F
  gammaCache : F
  deriving DecidableEq, Repr

structure ScoreComponents (F : Type) where
  baseDistance : F
  effectiveDistance : F
  omega : F
  queuePenalty : F
  latencyPenalty : F
  cachePenalty : F
  available : Bool
  deriving DecidableEq, Repr

section Scoring
variable {F : Type} [F32 F]

/-- `sum += diff * diff` for one coordinate. -/
def addSquare (sum left right : F) : F :=
  let diff := F32.sub left right
  F32.add sum (F32.mul diff diff)

def distSq (lhs rhs : List F) : F :=
  (lhs.zip rhs).foldl (fun sum p => addSquare sum p.1 p.2) F32.zero

/-- The four running sums of `dist_sq_blocked`. -/
structure Lanes (F : Type) where
  sum0 : F
  sum1 : F
  sum2 : F
  sum3 : F

/-- One pair of blocks of four; `chunks_exact(4)` yields no others. -/
def Lanes.add (s : Lanes F) : List F × List F → Lanes F
  | ([l0, l1, l2, l3], [r0, r1, r2, r3]) =>
    ⟨addSquare s.sum0 l0 r0, addSquare s.sum1 l1 r1, addSquare s.sum2 l2 r2, addSquare s.sum3 l3 r3⟩
  | _ => s

/-- What `chunks_exact(4)` leaves over. -/
def remainder (xs : List F) : List F := xs.drop (xs.length / 4 * 4)

def distSqBlocked (lhs rhs : List F) : F :=
  let s := ((chunksExact 4 lhs).zip (chunksExact 4 rhs)).foldl Lanes.add
    ⟨F32.zero, F32.zero, F32.zero, F32.zero⟩
  ((remainder lhs).zip (remainder rhs)).foldl (fun sum p => addSquare sum p.1 p.2)
    (F32.add (F32.add s.sum0 s.sum1) (F32.add s.sum2 s.sum3))

def scoreComponentsForVector (taskVector agentVector : List F) (state : AgentRuntimeState F)
    (coefficients : ScoreCoefficients F) : ScoreComponents F :=
  let baseDistance := distSqBlocked taskVector agentVector
  let queuePenalty := F32.mul coefficients.alphaQueue state.queueDepthNorm
  let latencyPenalty := F32.mul coefficients.betaLatency state.latencyNorm
  let cachePenalty := F32.mul coefficients.gammaCache state.cachePressureNorm
  let omega := F32.add (F32.add (F32.add F32.one queuePenalty) latencyPenalty) cachePenalty
  let available := state.isAvailable
  let effectiveDistance := if available then F32.mul baseDistance omega else F32.infinity
  { baseDistance, effectiveDistance, omega, queuePenalty, latencyPenalty, cachePenalty, available }

def CompactCandidate.fromScore (agentId : Nat) (score : ScoreComponents F) : CompactCandidate F where
  agentId
  effectiveDistance := score.effectiveDistance
  baseDistance := score.baseDistance
  omega := score.omega
  queuePenalty := score.queuePenalty
  latencyPenalty := score.latencyPenalty
  cachePenalty := score.cachePenalty
  available := score.available

def scoreCompactCandidate (requestVector : List F) (coefficients : ScoreCoefficients F)
    (agentId : Nat) (agentVector : List F) (state : AgentRuntimeState F) : CompactCandidate F :=
  CompactCandidate.fromScore agentId
    (scoreComponentsForVector requestVector agentVector state coefficients)

/-- A state's share of the score, computed once for a block of requests. -/
structure RuntimeScoreFactors (F : Type) where
  omega : F
  queuePenalty : F
  latencyPenalty : F
  cachePenalty : F
  available : Bool

def RuntimeScoreFactors.fromState (state : AgentRuntimeState F)
    (coefficients : ScoreCoefficients F) : RuntimeScoreFactors F :=
  let queuePenalty := F32.mul coefficients.alphaQueue state.queueDepthNorm
  let latencyPenalty := F32.mul coefficients.betaLatency state.latencyNorm
  let cachePenalty := F32.mul coefficients.gammaCache state.cachePressureNorm
  { omega := F32.add (F32.add (F32.add F32.one queuePenalty) latencyPenalty) cachePenalty
    queuePenalty, latencyPenalty, cachePenalty
    available := state.isAvailable }

def scoreCompactCandidateWithFactors (requestVector : List F) (agentId : Nat)
    (agentVector : List F) (factors : RuntimeScoreFactors F) : CompactCandidate F :=
  let baseDistance := distSqBlocked requestVector agentVector
  { agentId
    effectiveDistance := if factors.available then F32.mul baseDistance factors.omega else F32.infinity
    baseDistance
    omega := factors.omega
    queuePenalty := factors.queuePenalty
    latencyPenalty := factors.latencyPenalty
    cachePenalty := factors.cachePenalty
    available := factors.available }

/-- Factoring the penalties out of the request loop computes the same score. -/
theorem score_with_factors (requestVector : List F) (coefficients : ScoreCoefficients F)
    (agentId : Nat) (agentVector : List F) (state : AgentRuntimeState F) :
    scoreCompactCandidateWithFactors requestVector agentId agentVector
        (RuntimeScoreFactors.fromState state coefficients) =
      scoreCompactCandidate requestVector coefficients agentId agentVector state := rfl

end Scoring

end QTom.Router
