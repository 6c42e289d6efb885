import QTom.Lib.Marking
import QTom.Lib.Odometer
import QTom.Router.Checked
import QTom.Router.TopKSpec

/- The grid index of the prefilter profile (`ProjectionGridIndex`). A projection of the
   agents' vectors onto a few dimensions is cut into `bins` per dimension, a cell for each
   choice of bins; the cells are stored with the first dimension running fastest. A query
   collects the cells in rings around the request's own cell and cuts what it has to the
   budget. What may panic is checked; a vector that takes no more bytes than one the caller
   holds is granted. The loop over the cells of a ring ends because every move lowers
   `Odometer.remaining` (`incrementCoords_remaining`). -/
namespace QTom.Bench
open QTom.Lib QTom.Router

/-- The f32 operations of the index: `as f32` of a usize, `floor() as usize` and what
`Iterator::sum` starts from. -/
class GridF32 (F : Type) extends F32 F where
  ofUsize : Nat → F
  floorToUsize : F → Nat
  sumStart : F

/-- `usize::saturating_add`. -/
def saturatingAdd (a b : Nat) : Nat := min (a + b) (2 ^ 64 - 1)

/-- `usize::checked_mul`. -/
def checkedMul (a b : Nat) : Option Nat := if a * b < 2 ^ 64 then some (a * b) else none

/-! Coordinates. -/

/-- The loop of `increment_coords` over the dimensions left. -/
def incrementFrom (coords mins maxes : List Nat) : List Nat → Checked (Option (List Nat))
  | [] => .ok none
  | dim :: dims => do
    let coord ← Checked.read coords dim
    let max ← Checked.read maxes dim
    if coord < max then
      let coord ← Checked.add coord 1
      let coords ← Checked.write coords dim coord
      let low ← Checked.range mins 0 dim
      return some (low ++ coords.drop dim)
    else incrementFrom coords mins maxes dims

/-- The coordinates after a move, none when there is none. -/
def incrementCoords (coords mins maxes : List Nat) : Checked (Option (List Nat)) :=
  incrementFrom coords mins maxes (List.range coords.length)

/-- `coords.iter().enumerate().any(..)`. -/
def anyBorder (mins maxes : List Nat) : List (Nat × Nat) → Checked Bool
  | [] => .ok false
  | (coord, dim) :: rest => do
    let min ← Checked.read mins dim
    if coord = min then return true
    else
      let max ← Checked.read maxes dim
      if coord = max then return true else anyBorder mins maxes rest

def onBorder (radius : Nat) (mins maxes coords : List Nat) : Checked Bool :=
  if radius = 0 then .ok true else anyBorder mins maxes coords.zipIdx

/-- `index += coord * stride; stride *= bins`. -/
def pushCoord (bins : Nat) (acc : Nat × Nat) (coord : Nat) : Checked (Nat × Nat) := do
  let term ← Checked.mul coord acc.2
  let index ← Checked.add acc.1 term
  let stride ← Checked.mul acc.2 bins
  return (index, stride)

/-- A move replaces the coordinates up to one that goes up. -/
theorem incrementFrom_some {coords mins maxes moved dims : List Nat}
    (h : incrementFrom coords mins maxes dims = .ok (some moved)) :
    ∃ before c rest low hi, coords = before ++ c :: rest ∧ moved = low ++ (c + 1) :: rest ∧
      low.length = before.length ∧ maxes[before.length]? = some hi ∧ c < hi := by
  induction dims with
  | nil => cases h
  | cons dim dims ih =>
    unfold incrementFrom at h
    obtain ⟨c, hread, h⟩ := bind_ok_iff.mp h
    obtain ⟨hi, hmax, h⟩ := bind_ok_iff.mp h
    split at h
    · rename_i hlt
      obtain ⟨_, hadd, h⟩ := bind_ok_iff.mp h
      obtain ⟨_, ⟨⟩⟩ := require_ok_iff.mp hadd
      obtain ⟨_, hwrite, h⟩ := bind_ok_iff.mp h
      obtain ⟨hdim, ⟨⟩⟩ := require_ok_iff.mp hwrite
      obtain ⟨_, hrange, h⟩ := bind_ok_iff.mp h
      obtain ⟨⟨_, hmins⟩, ⟨⟩⟩ := require_ok_iff.mp hrange
      obtain ⟨_, rfl⟩ := List.getElem?_eq_some_iff.mp (Checked.read_ok_iff.mp hread)
      have hbefore : (coords.take dim).length = dim := by
        rw [List.length_take, Nat.min_eq_left hdim.le]
      refine ⟨coords.take dim, coords[dim], coords.drop (dim + 1), mins.take dim, hi, ?_, ?_, ?_,
        ?_, hlt⟩
      · exact (List.take_append_drop dim coords).symm.trans
          (by rw [List.drop_eq_getElem_cons hdim])
      · have hset : (coords.set dim (coords[dim] + 1)).drop dim =
            (coords[dim] + 1) :: coords.drop (dim + 1) := by
          rw [List.drop_eq_getElem_cons (by rw [List.length_set]; exact hdim),
            List.getElem_set_self, List.drop_set_of_lt (Nat.lt_succ_self dim)]
        rw [← hset]
        exact (Option.some.inj (Except.ok.inj h)).symm
      · rw [hbefore, List.length_take, Nat.min_eq_left hmins]
      · rw [hbefore]
        exact Checked.read_ok_iff.mp hmax
    · exact ih h

/-- Every move leaves fewer. -/
theorem incrementCoords_remaining {coords mins maxes moved : List Nat}
    (h : incrementCoords coords mins maxes = .ok (some moved)) :
    Odometer.remaining maxes moved < Odometer.remaining maxes coords := by
  obtain ⟨before, c, rest, low, hi, rfl, rfl, hlow, hhi, hc⟩ := incrementFrom_some h
  exact Odometer.remaining_lt hlow hhi hc

/-! Cells. -/

/-- The number of cells, a product that has to fit usize. -/
def cellCount (bins : Nat) (dims : List Nat) : Checked Nat :=
  dims.foldlM (fun acc _ => Checked.expect (checkedMul acc bins)) 1

theorem cellCount_eq {bins count : Nat} {dims : List Nat} (h : cellCount bins dims = .ok count) :
    count = bins ^ dims.length := by
  have hrun : ∀ acc, dims.foldlM (fun acc _ => Checked.expect (checkedMul acc bins)) acc =
      .ok count → count = acc * bins ^ dims.length := by
    clear h
    induction dims with
    | nil =>
      intro acc h
      obtain rfl := Except.ok.inj h
      exact (Nat.mul_one _).symm
    | cons dim dims ih =>
      intro acc h
      obtain ⟨next, hnext, h⟩ := foldlM_cons_ok.mp h
      unfold checkedMul at hnext
      split at hnext
      · obtain rfl := Except.ok.inj hnext
        rw [ih _ h, List.length_cons, Nat.pow_succ', Nat.mul_assoc]
      · cases hnext
  rw [hrun 1 h, Nat.one_mul]

/-- `Vec<Vec<usize>>` with a cell for each choice of a bin in every dimension. -/
structure Cells (bins : Nat) (dims : List Nat) where
  lists : List (List Nat)
  count : lists.length = bins ^ dims.length
  fit : lists.length * 24 < 2 ^ 63

namespace Cells
variable {bins : Nat} {dims : List Nat}

theorem pow_lt (cells : Cells bins dims) : bins ^ dims.length < 2 ^ 63 := by
  have hfit := cells.fit
  rw [cells.count] at hfit
  omega

/-- `vec![Vec::new(); cell_count]`. -/
def empty (bins : Nat) (dims : List Nat) : Checked (Cells bins dims) :=
  match hcount : cellCount bins dims with
  | .error p => .error p
  | .ok count =>
    if hfit : count * 24 < 2 ^ 63 then
      .ok { lists := List.replicate count []
            count := by rw [List.length_replicate, cellCount_eq hcount]
            fit := by rw [List.length_replicate]; exact hfit }
    else .error .capacityOverflow

/-- `cells[cell].push(agent_index)`. -/
def push (cells : Cells bins dims) (cell agentIndex : Nat) : Checked (Cells bins dims) :=
  if cell < cells.lists.length then
    .ok { lists := cells.lists.modify cell (· ++ [agentIndex])
          count := by rw [List.length_modify]; exact cells.count
          fit := by rw [List.length_modify]; exact cells.fit }
  else .error .indexOutOfBounds

end Cells

section
variable {F : Type} [GridF32 F]

/-- `f32::clamp`. -/
def clamp (value min max : F) : F :=
  let value := if F32.lt value min then min else value
  if F32.gt value max then max else value

def projectVector (vector : List F) (dims : List Nat) : List F :=
  dims.map fun dim => vector[dim]?.getD F32.zero

def binForValue (value : F) (bins : Nat) : Checked Nat := do
  let scaled := GridF32.floorToUsize
    (F32.mul (clamp value F32.zero F32.one) (GridF32.ofUsize bins))
  let last ← Checked.sub bins 1
  return min scaled last

def cellForProjection (projection : List F) (bins : Nat) : Checked Nat := do
  let acc ← projection.foldlM (fun acc value => do
    let bin ← binForValue value bins
    pushCoord bins acc bin) (0, 1)
  return acc.1

def distSqDynamic (left right : List F) : F :=
  (left.zip right).foldl (fun sum p => addSquare sum p.1 p.2) GridF32.sumStart

/-- `select_nth_unstable_by(budget, compare)`, `truncate(budget)` and `sort_by(compare)`, where
`compare` orders by a distance and then by the index. The distance of every entry is read
once here; the source reads it in each comparison. -/
def trimCandidates (select : SelectNth (F × Nat)) (distance : Nat → Checked F) (budget : Nat)
    (out : List Nat) : Checked (List Nat) :=
  if budget < out.length then do
    let keyed ← out.mapM fun agentIndex => do
      let dist ← distance agentIndex
      return (dist, agentIndex)
    let selected := select.run compareSortKey budget keyed
    return (sortBy compareSortKey (selected.take budget)).map Prod.snd
  else .ok out

end

/-! The index. -/

structure ProjectionGridIndex (F : Type) where
  bins : Nat
  dims : List Nat
  cells : Cells bins dims
  projectedVectors : List (List F)
  binsPositive : 0 < bins
  dimsNonempty : dims ≠ []

namespace ProjectionGridIndex
variable {F : Type}

def cellIndex (index : ProjectionGridIndex F) (coords : List Nat) : Checked Nat := do
  let acc ← coords.foldlM (pushCoord index.bins) (0, 1)
  return acc.1

/-- One turn of the loop over a ring. -/
def collectCell (index : ProjectionGridIndex F) (radius : Nat) (mins maxes coords : List Nat)
    (s : Marks Nat) : Checked (Marks Nat) := do
  let border ← onBorder radius mins maxes coords
  if border then
    let cell ← index.cellIndex coords
    visitUnseen (Checked.read index.cells.lists) s cell
  else return s

/-- The loop over a ring, from `coords` on. -/
def collectFrom (index : ProjectionGridIndex F) (radius : Nat) (mins maxes coords : List Nat)
    (s : Marks Nat) : Checked (Marks Nat) := do
  let s ← index.collectCell radius mins maxes coords s
  match _hmoved : incrementCoords coords mins maxes with
  | .error p => .error p
  | .ok none => return s
  | .ok (some moved) => index.collectFrom radius mins maxes moved s
termination_by Odometer.remaining maxes coords
decreasing_by exact incrementCoords_remaining _hmoved

def ringMins (center : List Nat) (radius : Nat) : List Nat := center.map fun value => value - radius

def ringMaxes (index : ProjectionGridIndex F) (center : List Nat) (radius : Nat) :
    Checked (List Nat) :=
  center.mapM fun value => do
    let last ← Checked.sub index.bins 1
    return min (saturatingAdd value radius) last

def collectRadiusCells (index : ProjectionGridIndex F) (center : List Nat) (radius : Nat)
    (s : Marks Nat) : Checked (Marks Nat) := do
  let mins := ringMins center radius
  let maxes ← index.ringMaxes center radius
  index.collectFrom radius mins maxes mins s

/-- The loop over the radii left, stopped once the budget is met. -/
def collectRadii (index : ProjectionGridIndex F) (center : List Nat) (budget : Nat) :
    List Nat → Marks Nat → Checked (Marks Nat)
  | [], s => .ok s
  | radius :: radii, s => do
    let s ← index.collectRadiusCells center radius s
    if budget ≤ s.out.length then return s else index.collectRadii center budget radii s

variable [GridF32 F]

/-- One turn of the loop over the agents. -/
def place {bins : Nat} {dims : List Nat} (placed : Cells bins dims × List (List F))
    (row : AgentProfile F × Nat) : Checked (Cells bins dims × List (List F)) := do
  let projection := projectVector row.1.vector dims
  let cell ← cellForProjection projection bins
  let cells ← placed.1.push cell row.2
  return (cells, placed.2 ++ [projection])

def new (agents : List (AgentProfile F)) (bins : Nat) (dims : List Nat) :
    Checked (ProjectionGridIndex F) :=
  if hbins : 0 < bins then
    if hdims : dims ≠ [] then do
      let cells ← Cells.empty bins dims
      let placed ← agents.zipIdx.foldlM place (cells, [])
      return { bins, dims, cells := placed.1, projectedVectors := placed.2
               binsPositive := hbins, dimsNonempty := hdims }
    else .error .assertionFailed
  else .error .assertionFailed

def candidateIndices (select : SelectNth (F × Nat)) (index : ProjectionGridIndex F)
    (request : RoutingRequest F) (budget : Nat) : Checked (List Nat) := do
  let requestProjection := projectVector request.vector index.dims
  let center ← requestProjection.mapM fun value => binForValue value index.bins
  let seenCells := List.replicate index.cells.lists.length false
  let s ← index.collectRadii center budget (List.range index.bins) ⟨seenCells, []⟩
  trimCandidates select (fun agentIndex => do
    let projected ← Checked.read index.projectedVectors agentIndex
    return distSqDynamic requestProjection projected) budget s.out

def projectionDistance (index : ProjectionGridIndex F) (request : RoutingRequest F)
    (agentIndex : Nat) : Checked F := do
  let requestProjection := projectVector request.vector index.dims
  let projected ← Checked.read index.projectedVectors agentIndex
  return distSqDynamic requestProjection projected

end ProjectionGridIndex

end QTom.Bench
