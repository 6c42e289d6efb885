import Mathlib.Algebra.Group.Nat.Defs
import QTom.Lib.Runs
import QTom.Router.Score

/- Fixtures (`fixtures.rs`) and the shape a golden fixture must have (`golden.rs`).
   An f32 is its bit pattern. The generator draws from a linear congruential
   generator; what it does with a draw is f32 arithmetic, which the shape does not
   depend on, so that arithmetic is a parameter. Where a Vec cannot be as long as the
   config asks, the source panics and there is no fixture; the model still has one. -/
namespace QTom.Golden
open QTom.Lib QTom.Router

/-- An f32, as `to_bits` gives it. -/
abbrev F32Bits := BitVec 32

structure FixtureConfig where
  agentCount : Nat
  taskCount : Nat
  dimensions : Nat
  k : Nat
  seed : Nat
  deriving DecidableEq, Repr

structure Fixture where
  agents : List (AgentProfile F32Bits)
  states : List (AgentRuntimeState F32Bits)
  requests : List (RoutingRequest F32Bits)
  deriving DecidableEq, Repr

structure GoldenFixture where
  config : FixtureConfig
  fixture : Fixture
  deriving DecidableEq, Repr

/-! The shape. -/

/-- `GoldenFixtureError::Format`. -/
inductive GoldenFixtureError where
  | format (line : Nat) (message : String)
  deriving DecidableEq, Repr

def formatError {α : Type} (line : Nat) (message : String) : Except GoldenFixtureError α :=
  .error (.format line message)

def checkCount (what : String) (config fixture : Nat) : Except GoldenFixtureError Unit :=
  if fixture ≠ config then
    formatError 0 s!"{what} count mismatch: config={config}, fixture={fixture}"
  else .ok ()

def checkDimension (what : String) (id expected actual : Nat) : Except GoldenFixtureError Unit :=
  if actual ≠ expected then
    formatError 0 s!"{what} {id} dimension mismatch: expected {expected}, got {actual}"
  else .ok ()

def validateFixtureShape (config : FixtureConfig) (fixture : Fixture) :
    Except GoldenFixtureError Unit := do
  checkCount "agent" config.agentCount fixture.agents.length
  checkCount "state" config.agentCount fixture.states.length
  checkCount "request" config.taskCount fixture.requests.length
  fixture.agents.forM fun agent =>
    checkDimension "agent" agent.id config.dimensions agent.vector.length
  fixture.requests.forM fun request =>
    checkDimension "request" request.taskId config.dimensions request.vector.length

/-- The lengths of a fixture are the config's. -/
structure Fixture.Shaped (fixture : Fixture) (config : FixtureConfig) : Prop where
  agents : fixture.agents.length = config.agentCount
  states : fixture.states.length = config.agentCount
  requests : fixture.requests.length = config.taskCount
  agentVectors : ∀ agent ∈ fixture.agents, agent.vector.length = config.dimensions
  requestVectors : ∀ request ∈ fixture.requests, request.vector.length = config.dimensions

theorem checkCount_ok {what : String} {config fixture : Nat} :
    checkCount what config fixture = .ok () ↔ fixture = config := by
  rw [checkCount, formatError, refuse_ok_iff, not_not, and_iff_left rfl]

theorem checkDimension_ok {what : String} {id expected actual : Nat} :
    checkDimension what id expected actual = .ok () ↔ actual = expected := by
  rw [checkDimension, formatError, refuse_ok_iff, not_not, and_iff_left rfl]

/-- The shape check accepts exactly the shaped fixtures. -/
theorem validateFixtureShape_ok_iff {config : FixtureConfig} {fixture : Fixture} :
    validateFixtureShape config fixture = .ok () ↔ fixture.Shaped config := by
  simp only [validateFixtureShape, then_ok_iff, checkCount_ok]
  refine ⟨?_, ?_⟩
  · intro ⟨hagents, hstates, hrequests, hagentVectors, hrequestVectors⟩
    exact ⟨hagents, hstates, hrequests,
      fun agent h => checkDimension_ok.mp (forM_ok_iff.mp hagentVectors agent h),
      fun request h => checkDimension_ok.mp (forM_ok_iff.mp hrequestVectors request h)⟩
  · intro h
    exact ⟨h.agents, h.states, h.requests,
      forM_ok_iff.mpr fun agent ha => checkDimension_ok.mpr (h.agentVectors agent ha),
      forM_ok_iff.mpr fun request hr => checkDimension_ok.mpr (h.requestVectors request hr)⟩

/-! The generator. -/

/-- The f32 arithmetic of the generator; `ofU32` is `as f32`. -/
structure F32Arithmetic where
  ofU32 : BitVec 32 → F32Bits
  add : F32Bits → F32Bits → F32Bits
  sub : F32Bits → F32Bits → F32Bits
  mul : F32Bits → F32Bits → F32Bits
  div : F32Bits → F32Bits → F32Bits
  clamp : F32Bits → F32Bits → F32Bits → F32Bits

/-- The state of the generator. -/
abbrev Lcg := BitVec 64

namespace Lcg

def nextU32 : StateM Lcg (BitVec 32) := fun rng =>
  let state := rng * 6364136223846793005#64 + 1442695040888963407#64
  ((state >>> 32).setWidth 32, state)

variable (arithmetic : F32Arithmetic)

def nextF32 : StateM Lcg F32Bits := do
  let n ← nextU32
  return arithmetic.div (arithmetic.ofU32 n) (arithmetic.ofU32 0xffffffff#32)

/-- Scaled by 2.0 and shifted by 1.0. -/
def nextSignedF32 : StateM Lcg F32Bits := do
  let x ← nextF32 arithmetic
  return arithmetic.sub (arithmetic.mul x 0x40000000#32) 0x3f800000#32

end Lcg

section Generate
variable (arithmetic : F32Arithmetic)

def generateCenters (count dimensions : Nat) : StateM Lcg (List (List F32Bits)) :=
  (List.range count).mapM fun _ => (List.range dimensions).mapM fun _ => Lcg.nextF32 arithmetic

/-- Clamped between 0.0 and 1.0. -/
def jittered (center : List F32Bits) (scale : F32Bits) : StateM Lcg (List F32Bits) :=
  center.mapM fun value => do
    let signed ← Lcg.nextSignedF32 arithmetic
    return arithmetic.clamp (arithmetic.add value (arithmetic.mul signed scale)) 0#32 0x3f800000#32

/-- One turn of the agent loop; the jitter is 0.035. -/
def generateAgent (centers : List (List F32Bits)) (clusterCount idx : Nat) :
    StateM Lcg (AgentProfile F32Bits × AgentRuntimeState F32Bits) := do
  let cluster := idx % clusterCount
  let vector ← jittered arithmetic (centers[cluster]?.getD []) 0x3d0f5c29#32
  return (
    { id := idx % 2 ^ 32
      vector
      labels :=
        { modelProfile := 1
          toolProfile := cluster % 2 ^ 16
          mcpProfile := idx % 4
          memoryProfile := idx % 16
          costClass := idx % 3
          latencyClass := idx % 5 } },
    -- 0.45, 0.35 and 0.25
    { queueDepthNorm := if idx % 17 = 0 then 0x3ee66666#32 else 0#32
      latencyNorm := if idx % 19 = 0 then 0x3eb33333#32 else 0#32
      cachePressureNorm := if idx % 23 = 0 then 0x3e800000#32 else 0#32
      availability := if idx % 29 = 0 then 0 else 1 })

/-- One turn of the request loop; the jitter is 0.020 and the radius 10.0. -/
def generateRequest (centers : List (List F32Bits)) (clusterCount k taskIdx : Nat) :
    StateM Lcg (RoutingRequest F32Bits) := do
  let cluster := taskIdx % clusterCount
  let vector ← jittered arithmetic (centers[cluster]?.getD []) 0x3ca3d70a#32
  return {
    taskId := taskIdx
    vector, k
    fallbackGeneralistId := 0
    radiusMaxThreshold := 0x41200000#32 }

def generateFixture (config : FixtureConfig) : Fixture :=
  let clusterCount := min 8 (max config.agentCount 1)
  let generate : StateM Lcg Fixture := do
    let centers ← generateCenters arithmetic clusterCount config.dimensions
    let rows ← (List.range config.agentCount).mapM (generateAgent arithmetic centers clusterCount)
    let requests ← (List.range config.taskCount).mapM
      (generateRequest arithmetic centers clusterCount config.k)
    return { agents := rows.map Prod.fst, states := rows.map Prod.snd, requests }
  (generate.run (BitVec.ofNat 64 config.seed)).1

/-- What holds of each draw holds of a list of draws, one for each entry. -/
theorem forall₂_mapM {α β : Type} {P : α → β → Prop} {f : α → StateM Lcg β} {xs : List α}
    (h : ∀ x ∈ xs, ∀ rng, P x ((f x).run rng).1) (rng : Lcg) :
    List.Forall₂ P xs ((xs.mapM f).run rng).1 := by
  induction xs generalizing rng with
  | nil => exact List.Forall₂.nil
  | cons x xs ih =>
    rw [List.mapM_cons]
    exact List.Forall₂.cons (h x List.mem_cons_self rng)
      (ih (fun y hy => h y (List.mem_cons_of_mem x hy)) _)

theorem length_mapM {α β : Type} (f : α → StateM Lcg β) (xs : List α) (rng : Lcg) :
    ((xs.mapM f).run rng).1.length = xs.length :=
  (forall₂_mapM (P := fun _ _ => True) (fun _ _ _ => trivial) rng).length_eq.symm

theorem forall_mapM {α β : Type} {P : β → Prop} {f : α → StateM Lcg β} {xs : List α}
    (h : ∀ x ∈ xs, ∀ rng, P ((f x).run rng).1) (rng : Lcg) :
    ∀ y ∈ ((xs.mapM f).run rng).1, P y :=
  forall_right (forall₂_mapM (P := fun _ y => P y) h rng) fun _ _ hy => hy

theorem length_jittered (center : List F32Bits) (scale : F32Bits) (rng : Lcg) :
    ((jittered arithmetic center scale).run rng).1.length = center.length :=
  length_mapM _ center rng

/-- Centers of one dimension, and a cluster index within them. -/
structure Centers (centers : List (List F32Bits)) (clusterCount dimensions : Nat) : Prop where
  pos : 0 < clusterCount
  count : centers.length = clusterCount
  dimension : ∀ center ∈ centers, center.length = dimensions

theorem Centers.length {centers : List (List F32Bits)} {clusterCount dimensions : Nat}
    (h : Centers centers clusterCount dimensions) (idx : Nat) :
    (centers[idx % clusterCount]?.getD []).length = dimensions := by
  have hlt : idx % clusterCount < centers.length := by
    rw [h.count]
    exact Nat.mod_lt idx h.pos
  rw [List.getElem?_eq_getElem hlt]
  exact h.dimension _ (List.getElem_mem hlt)

theorem generateCenters_centers {count : Nat} (hpos : 0 < count) (dimensions : Nat) (rng : Lcg) :
    Centers ((generateCenters arithmetic count dimensions).run rng).1 count dimensions := by
  refine ⟨hpos, ?_, ?_⟩
  · exact (length_mapM _ (List.range count) rng).trans List.length_range
  · apply forall_mapM
    intro _ _ rng
    exact (length_mapM _ (List.range dimensions) rng).trans List.length_range

/-- Every generated fixture has its config's shape. -/
theorem generateFixture_shaped (config : FixtureConfig) :
    (generateFixture arithmetic config).Shaped config := by
  have hpos : 0 < min 8 (max config.agentCount 1) := by omega
  have hcenters := generateCenters_centers arithmetic hpos config.dimensions
    (BitVec.ofNat 64 config.seed)
  refine ⟨?_, ?_, ?_, ?_, ?_⟩
  · show (List.map Prod.fst _).length = _
    rw [List.length_map]
    exact (length_mapM _ (List.range config.agentCount) _).trans List.length_range
  · show (List.map Prod.snd _).length = _
    rw [List.length_map]
    exact (length_mapM _ (List.range config.agentCount) _).trans List.length_range
  · exact (length_mapM _ (List.range config.taskCount) _).trans List.length_range
  · intro agent hagent
    obtain ⟨row, hrow, rfl⟩ := List.mem_map.mp hagent
    exact forall_mapM (P := fun row => row.1.vector.length = config.dimensions)
      (fun idx _ rng => (length_jittered arithmetic _ _ rng).trans (hcenters.length idx)) _ row hrow
  · intro request hrequest
    exact forall_mapM (P := fun request => request.vector.length = config.dimensions)
      (fun taskIdx _ rng => (length_jittered arithmetic _ _ rng).trans (hcenters.length taskIdx)) _
      request hrequest

end Generate

end QTom.Golden
