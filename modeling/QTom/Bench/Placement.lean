import QTom.Bench.Rings

/- Where the agents are. `new` puts each agent into the cell of its projection
   (`new_built`), so the cells part the agents and whatever cells a query has seen, it has
   each of their agents once. The radii below `bins` reach every cell, and a query stops
   before only with its budget met: `candidateIndices_spec`. -/
namespace QTom.Bench
open QTom.Lib QTom.Router
variable {F : Type} [GridF32 F]

/-! Placing the agents. -/

/-- The bin of a value. -/
def binOf (bins : Nat) (value : F) : Nat :=
  min (GridF32.floorToUsize (F32.mul (clamp value F32.zero F32.one) (GridF32.ofUsize bins)))
    (bins - 1)

theorem binForValue_eq {bins : Nat} (hbins : 0 < bins) (value : F) :
    binForValue value bins = .ok (binOf bins value) := by
  unfold binForValue
  rw [Checked.sub_ok hbins]
  rfl

/-- The coordinates of the cell a vector belongs to. -/
def homeCoords (bins : Nat) (dims : List Nat) (vector : List F) : List Nat :=
  (projectVector vector dims).map (binOf bins)

theorem homeCoords_inGrid {bins : Nat} (hbins : 0 < bins) (dims : List Nat) (vector : List F) :
    InGrid bins dims (homeCoords bins dims vector) := by
  refine ⟨?_, ?_⟩
  · unfold homeCoords projectVector
    rw [List.length_map, List.length_map]
  · intro c hc
    obtain ⟨value, _, rfl⟩ := List.mem_map.mp hc
    exact Nat.lt_of_le_of_lt (Nat.min_le_right _ _) (Nat.sub_lt hbins Nat.one_pos)

theorem mapM_binForValue {bins : Nat} (hbins : 0 < bins) (dims : List Nat) (vector : List F) :
    ((projectVector vector dims).mapM fun value => binForValue value bins) =
      .ok (homeCoords bins dims vector) :=
  mapM_ok fun value _ => binForValue_eq hbins value

/-- The cell a vector belongs to. -/
def home (bins : Nat) (dims : List Nat) (vector : List F) : Nat :=
  Nat.ofDigits bins (homeCoords bins dims vector)

theorem cellForProjection_eq {bins : Nat} {dims : List Nat} (hbins : 0 < bins)
    (hfit : bins ^ dims.length < 2 ^ 63) (vector : List F) :
    cellForProjection (projectVector vector dims) bins = .ok (home bins dims vector) := by
  have hrun : (projectVector vector dims).foldlM (fun acc value => do
      let bin ← binForValue value bins
      pushCoord bins acc bin) (0, 1) =
      (homeCoords bins dims vector).foldlM (pushCoord bins) (0, 1) := by
    unfold homeCoords
    rw [List.foldlM_map]
    simp only [binForValue_eq hbins, Checked.ok_bind]
  unfold cellForProjection
  rw [hrun, foldlM_pushCoord_grid (homeCoords_inGrid hbins dims vector) hfit]
  rfl

theorem home_lt {bins : Nat} {dims : List Nat} (cells : Cells bins dims) (hbins : 0 < bins)
    (vector : List F) : home bins dims vector < cells.lists.length := by
  have hgrid := homeCoords_inGrid hbins dims vector
  rw [cells.count, ← hgrid.length]
  exact ofDigits_lt hgrid.lt

/-- The agents of a cell. -/
def residents (bins : Nat) (dims : List Nat) (rows : List (AgentProfile F × Nat)) (cell : Nat) :
    List Nat :=
  (rows.filter fun row => home bins dims row.1.vector = cell).map Prod.snd

/-- The loop over the agents adds to every cell its residents. -/
theorem foldlM_place {bins : Nat} {dims : List Nat} (hbins : 0 < bins)
    (rows : List (AgentProfile F × Nat)) (cells : Cells bins dims) (vectors : List (List F)) :
    ∃ cells' : Cells bins dims, rows.foldlM ProjectionGridIndex.place (cells, vectors) =
        .ok (cells', vectors ++ rows.map fun row => projectVector row.1.vector dims) ∧
      ∀ cell, cells'.lists[cell]? =
        cells.lists[cell]?.map (· ++ residents bins dims rows cell) := by
  induction rows generalizing cells vectors with
  | nil =>
    refine ⟨cells, ?_, ?_⟩
    · rw [List.map_nil, List.append_nil]
      rfl
    · intro cell
      cases cells.lists[cell]? with
      | none => rfl
      | some members => exact congrArg some (List.append_nil members).symm
  | cons row rows ih =>
    have hlt := home_lt cells hbins row.1.vector
    have hplace : ProjectionGridIndex.place (cells, vectors) row =
        (cells.push (home bins dims row.1.vector) row.2 >>= fun cells =>
          .ok (cells, vectors ++ [projectVector row.1.vector dims])) := by
      show (cellForProjection (projectVector row.1.vector dims) bins >>= _) = _
      rw [cellForProjection_eq hbins cells.pow_lt]
      rfl
    unfold Cells.push at hplace
    rw [if_pos hlt, Checked.ok_bind] at hplace
    obtain ⟨cells', hrun, hlists⟩ := ih _ (vectors ++ [projectVector row.1.vector dims])
    rw [List.foldlM_cons, hplace]
    refine ⟨cells', hrun.trans ?_, ?_⟩
    · rw [List.map_cons, List.append_assoc]
      rfl
    · intro cell
      rw [hlists cell]
      show ((cells.lists.modify (home bins dims row.1.vector) (· ++ [row.2]))[cell]?).map _ = _
      unfold residents
      rw [List.getElem?_modify, List.filter_cons]
      by_cases hcell : home bins dims row.1.vector = cell
      · cases cells.lists[cell]? with
        | none => rfl
        | some members => simp [hcell]
      · simp [hcell]

/-! The index that is built. -/

theorem cellCount_ok {bins : Nat} {dims : List Nat} (hbins : 0 < bins)
    (hfit : bins ^ dims.length < 2 ^ 64) : cellCount bins dims = .ok (bins ^ dims.length) := by
  have hrun : ∀ acc, acc * bins ^ dims.length < 2 ^ 64 →
      dims.foldlM (fun acc _ => Checked.expect (checkedMul acc bins)) acc =
        .ok (acc * bins ^ dims.length) := by
    clear hfit
    induction dims with
    | nil =>
      intro acc _
      exact congrArg Except.ok (Nat.mul_one acc).symm
    | cons dim dims ih =>
      intro acc hacc
      rw [List.length_cons, Nat.pow_succ', ← Nat.mul_assoc] at hacc
      have hmul : acc * bins < 2 ^ 64 :=
        Nat.lt_of_le_of_lt (Nat.le_mul_of_pos_right _ (Nat.pow_pos hbins)) hacc
      rw [List.foldlM_cons, checkedMul, if_pos hmul]
      refine (ih _ hacc).trans (congrArg Except.ok ?_)
      rw [List.length_cons, Nat.pow_succ', Nat.mul_assoc]
  refine (hrun 1 (by rw [Nat.one_mul]; exact hfit)).trans (congrArg Except.ok (Nat.one_mul _))

theorem empty_iff {bins : Nat} {dims : List Nat} (hbins : 0 < bins) :
    (∃ cells, Cells.empty bins dims = .ok cells) ↔ bins ^ dims.length * 24 < 2 ^ 63 := by
  refine ⟨?_, ?_⟩
  · intro ⟨cells, _⟩
    rw [← cells.count]
    exact cells.fit
  · intro hfit
    have hcount : cellCount bins dims = .ok (bins ^ dims.length) := cellCount_ok hbins (by omega)
    unfold Cells.empty
    split
    · rename_i p hp
      rw [hcount] at hp
      cases hp
    · rename_i count hok
      obtain rfl := Except.ok.inj (hcount.symm.trans hok)
      rw [dif_pos hfit]
      exact ⟨_, rfl⟩

theorem empty_lists {bins : Nat} {dims : List Nat} {cells : Cells bins dims}
    (h : Cells.empty bins dims = .ok cells) :
    cells.lists = List.replicate (bins ^ dims.length) [] := by
  unfold Cells.empty at h
  split at h
  · cases h
  · rename_i count hcount
    split at h
    · obtain rfl := cellCount_eq hcount
      rw [← Except.ok.inj h]
    · cases h

namespace ProjectionGridIndex

/-- Every cell holds its residents, in the order of the agents. -/
structure Built (agents : List (AgentProfile F)) (index : ProjectionGridIndex F) : Prop where
  projected : index.projectedVectors =
    agents.map fun agent => projectVector agent.vector index.dims
  members : ∀ cell < index.cellTotal,
    index.members cell = residents index.bins index.dims agents.zipIdx cell

theorem new_built {agents : List (AgentProfile F)} {bins : Nat} {dims : List Nat}
    {index : ProjectionGridIndex F} (h : new agents bins dims = .ok index) : Built agents index := by
  unfold new at h
  split at h
  · rename_i hbins
    split at h
    · rename_i hdims
      obtain ⟨cells, hcells, h⟩ := bind_ok_iff.mp h
      obtain ⟨cells', hrun, hlists⟩ := foldlM_place hbins agents.zipIdx cells []
      rw [hrun] at h
      obtain rfl := Except.ok.inj h
      refine ⟨?_, ?_⟩
      · calc [] ++ agents.zipIdx.map (fun row => projectVector row.1.vector dims)
            = (agents.zipIdx.map Prod.fst).map fun agent => projectVector agent.vector dims := by
              rw [List.nil_append, List.map_map]
              rfl
          _ = agents.map fun agent => projectVector agent.vector dims := by rw [List.zipIdx_map_fst]
      · intro cell hcell
        have hcount : cell < bins ^ dims.length := by
          rw [← cells'.count]
          exact hcell
        show cells'.lists.getD cell [] = residents bins dims agents.zipIdx cell
        rw [List.getD_eq_getElem?_getD, hlists, empty_lists hcells,
          List.getElem?_replicate, if_pos hcount]
        rfl
    · cases h
  · cases h

/-- When there is an index. -/
theorem new_returns_iff {agents : List (AgentProfile F)} {bins : Nat} {dims : List Nat} :
    (∃ index, new agents bins dims = .ok index) ↔
      0 < bins ∧ dims ≠ [] ∧ bins ^ dims.length * 24 < 2 ^ 63 := by
  unfold new
  by_cases hbins : 0 < bins
  · by_cases hdims : dims ≠ []
    · rw [dif_pos hbins, dif_pos hdims, and_iff_right hbins, and_iff_right hdims, ← empty_iff hbins]
      refine ⟨?_, ?_⟩
      · intro ⟨_, h⟩
        obtain ⟨cells, hcells, _⟩ := bind_ok_iff.mp h
        exact ⟨cells, hcells⟩
      · intro ⟨cells, hcells⟩
        obtain ⟨cells', hrun, _⟩ := foldlM_place hbins agents.zipIdx cells []
        rw [hcells, Checked.ok_bind, hrun]
        exact ⟨_, rfl⟩
    · rw [dif_pos hbins, dif_neg hdims]
      exact iff_of_false (fun h => (nomatch h)) fun h => hdims h.2.1
  · rw [dif_neg hbins]
    exact iff_of_false (fun h => (nomatch h)) fun h => hbins h.1

/-! What a query emits. -/

variable {agents : List (AgentProfile F)} {index : ProjectionGridIndex F}

namespace Built

/-- An agent's own cell. -/
def homeOf (index : ProjectionGridIndex F) (agent : AgentProfile F) : Nat :=
  home index.bins index.dims agent.vector

theorem mem_members (h : Built agents index) {cell i : Nat} (hcell : cell < index.cellTotal) :
    i ∈ index.members cell ↔ ∃ agent, agents[i]? = some agent ∧ homeOf index agent = cell := by
  rw [h.members cell hcell]
  unfold residents
  rw [List.mem_map]
  refine ⟨?_, ?_⟩
  · intro ⟨⟨agent, j⟩, hmem, hj⟩
    obtain rfl : j = i := hj
    obtain ⟨hrow, hhome⟩ := List.mem_filter.mp hmem
    exact ⟨agent, List.mem_zipIdx_iff_getElem?.mp hrow, of_decide_eq_true hhome⟩
  · intro ⟨agent, hget, hhome⟩
    exact ⟨(agent, i), List.mem_filter.mpr ⟨List.mem_zipIdx_iff_getElem?.mpr hget,
      decide_eq_true hhome⟩, rfl⟩

theorem nodup_members (h : Built agents index) {cell : Nat} (hcell : cell < index.cellTotal) :
    (index.members cell).Nodup := by
  have hrows : (agents.zipIdx.map Prod.snd).Nodup := by
    rw [List.zipIdx_map_snd]
    exact List.nodup_range'
  rw [h.members cell hcell]
  exact hrows.sublist (List.filter_sublist.map Prod.snd)

variable {order : List Nat} {s : Marks Nat}

/-- Whatever cells were seen, their agents are distinct. -/
theorem nodup_out (h : Built agents index) (hs : Marked index.members index.cellTotal order s) :
    s.out.Nodup := by
  rw [hs.out, List.nodup_flatMap]
  refine ⟨fun cell hcell => h.nodup_members (hs.lt hcell), ?_⟩
  refine hs.nodup.imp_of_mem ?_
  intro cell cell' hcell hcell' hne i hi hi'
  obtain ⟨agent, hget, hhome⟩ := (h.mem_members (hs.lt hcell)).mp hi
  obtain ⟨agent', hget', hhome'⟩ := (h.mem_members (hs.lt hcell')).mp hi'
  rw [hget] at hget'
  obtain rfl := Option.some.inj hget'
  exact hne (hhome.symm.trans hhome')

theorem mem_out (h : Built agents index) (hs : Marked index.members index.cellTotal order s)
    {i : Nat} : i ∈ s.out ↔ ∃ agent, agents[i]? = some agent ∧ homeOf index agent ∈ order := by
  rw [hs.out, List.mem_flatMap]
  refine ⟨?_, ?_⟩
  · intro ⟨cell, hcell, hi⟩
    obtain ⟨agent, hget, hhome⟩ := (h.mem_members (hs.lt hcell)).mp hi
    exact ⟨agent, hget, by rw [hhome]; exact hcell⟩
  · intro ⟨agent, hget, hcell⟩
    exact ⟨_, hcell, (h.mem_members (hs.lt hcell)).mpr ⟨agent, hget, rfl⟩⟩

theorem out_lt (h : Built agents index) (hs : Marked index.members index.cellTotal order s)
    {i : Nat} (hi : i ∈ s.out) : i < agents.length := by
  obtain ⟨agent, hget, _⟩ := (h.mem_out hs).mp hi
  exact (List.getElem?_eq_some_iff.mp hget).1

/-- With every agent's cell seen, every agent is out. -/
theorem out_perm (h : Built agents index) (hs : Marked index.members index.cellTotal order s)
    (hall : ∀ agent ∈ agents, homeOf index agent ∈ order) :
    s.out.Perm (List.range agents.length) := by
  rw [List.perm_ext_iff_of_nodup (h.nodup_out hs) List.nodup_range]
  intro i
  rw [List.mem_range]
  refine ⟨h.out_lt hs, ?_⟩
  intro hi
  exact (h.mem_out hs).mpr ⟨agents[i], List.getElem?_eq_getElem hi, hall _ (List.getElem_mem hi)⟩

end Built

end ProjectionGridIndex

/-! The cut to the budget. -/

theorem subperm_range {out : List Nat} {n : Nat} (hnodup : out.Nodup) (h : ∀ i ∈ out, i < n) :
    out.Subperm (List.range n) :=
  List.subperm_of_subset hnodup fun i hi => List.mem_range.mpr (h i hi)

theorem length_le_of_lt {out : List Nat} {n : Nat} (hnodup : out.Nodup) (h : ∀ i ∈ out, i < n) :
    out.length ≤ n := by
  have hle := (subperm_range hnodup h).length_le
  rw [List.length_range] at hle
  exact hle

/-- The candidates nearest by a distance, ties by index; all of them while they fit. -/
def nearest (dist : Nat → F) (budget : Nat) (out : List Nat) : List Nat :=
  if budget < out.length then
    (sortBy (fun left right => compareSortKey (dist left, left) (dist right, right)) out).take budget
  else out

theorem length_nearest (dist : Nat → F) (budget : Nat) (out : List Nat) :
    (nearest dist budget out).length = min budget out.length := by
  unfold nearest
  split
  · rw [List.length_take, length_sortBy]
  · omega

theorem nodup_nearest (dist : Nat → F) (budget : Nat) {out : List Nat} (h : out.Nodup) :
    (nearest dist budget out).Nodup := by
  unfold nearest
  split
  · exact ((sortBy_perm out).nodup_iff.mpr h).sublist (List.take_sublist _ _)
  · exact h

theorem nearest_subperm (dist : Nat → F) (budget : Nat) (out : List Nat) :
    (nearest dist budget out).Subperm out := by
  unfold nearest
  split
  · exact (List.take_sublist _ _).subperm.trans (sortBy_perm out).subperm
  · exact List.Subperm.refl out

variable [Std.TransCmp (F32.totalCmp (F := F))]

/-- Whatever the selection does with the rest, the nearest are kept. -/
theorem trimCandidates_eq (select : SelectNth (F × Nat)) {distance : Nat → Checked F}
    {dist : Nat → F} {out : List Nat} (hdist : ∀ i ∈ out, distance i = .ok (dist i)) (budget : Nat) :
    trimCandidates select distance budget out = .ok (nearest dist budget out) := by
  unfold trimCandidates nearest
  by_cases hbudget : budget < out.length
  · rw [if_pos hbudget, if_pos hbudget]
    have hkeyed : (out.mapM fun agentIndex => do
        let dist ← distance agentIndex
        return (dist, agentIndex)) = .ok (out.map fun i => (dist i, i)) := by
      apply mapM_ok
      intro i hi
      rw [hdist i hi]
      rfl
    have hinj : ∀ a ∈ out.map (fun i => (dist i, i)), ∀ b ∈ out.map (fun i => (dist i, i)),
        compareSortKey a b = .eq → a = b := by
      intro a ha b hb heq
      obtain ⟨i, _, rfl⟩ := List.mem_map.mp ha
      obtain ⟨j, _, rfl⟩ := List.mem_map.mp hb
      obtain rfl : i = j := compare_eq_iff_eq.mp (Ordering.then_eq_eq.mp heq).2
      rfl
    rw [hkeyed, Checked.ok_bind]
    refine congrArg Except.ok ?_
    rw [select.sort_take (by rw [List.length_map]; exact hbudget) hinj, ← map_sortBy, ← List.map_take,
      List.map_map]
    exact List.map_id' _
  · rw [if_neg hbudget, if_neg hbudget]

/-- Cut to the budget, distinct agents that were enough for it are just enough. -/
theorem trimCandidates_spec (select : SelectNth (F × Nat)) {distance : Nat → Checked F}
    {dist : Nat → F} {n budget : Nat} {out : List Nat} (hnodup : out.Nodup)
    (hlt : ∀ i ∈ out, i < n) (henough : min budget n ≤ out.length)
    (hdist : ∀ i < n, distance i = .ok (dist i)) :
    ∃ kept, trimCandidates select distance budget out = .ok kept ∧ kept.Nodup ∧
      (∀ i ∈ kept, i < n) ∧ kept.length = min budget n := by
  have hle := length_le_of_lt hnodup hlt
  refine ⟨_, trimCandidates_eq select (fun i hi => hdist i (hlt i hi)) budget,
    nodup_nearest dist budget hnodup, ?_, ?_⟩
  · intro i hi
    exact hlt i ((nearest_subperm dist budget out).subset hi)
  · rw [length_nearest]
    omega

namespace ProjectionGridIndex

/-- The distance of a request to an agent, in the dimensions of the index. -/
def distanceTo (index : ProjectionGridIndex F) (request : RoutingRequest F) (agentIndex : Nat) : F :=
  distSqDynamic (projectVector request.vector index.dims) (index.projectedVectors.getD agentIndex [])

omit [Std.TransCmp (F32.totalCmp (F := F))] in
theorem projectionDistance_eq {agents : List (AgentProfile F)} {index : ProjectionGridIndex F}
    (h : Built agents index) (request : RoutingRequest F) {i : Nat} (hi : i < agents.length) :
    index.projectionDistance request i = .ok (index.distanceTo request i) := by
  have hlt : i < index.projectedVectors.length := by
    rw [h.projected, List.length_map]
    exact hi
  unfold projectionDistance distanceTo
  rw [Checked.read_lt hlt, List.getD_eq_getElem?_getD, List.getElem?_eq_getElem hlt]
  rfl

/-- A built layer returns as many distinct agents as the budget asks for and there are. -/
theorem candidateIndices_spec {agents : List (AgentProfile F)} {index : ProjectionGridIndex F}
    (h : Built agents index) (select : SelectNth (F × Nat)) (request : RoutingRequest F)
    (budget : Nat) :
    ∃ out, index.candidateIndices select request budget = .ok out ∧ out.Nodup ∧
      (∀ i ∈ out, i < agents.length) ∧ out.length = min budget agents.length := by
  have hcenter := homeCoords_inGrid index.binsPositive index.dims request.vector
  obtain ⟨order, s, hrun, hs, _, hend⟩ := index.collectRadii_marked hcenter budget
    (List.range index.bins) (Marked.fresh index.members index.cellTotal)
  have henough : min budget agents.length ≤ s.out.length := by
    rcases hend with hbudget | hradii
    · exact Nat.le_trans (Nat.min_le_left _ _) hbudget
    · have hperm : s.out.Perm (List.range agents.length) := by
        apply h.out_perm hs
        intro agent _
        have hhome := homeCoords_inGrid index.binsPositive index.dims agent.vector
        obtain ⟨r, hr, hring⟩ := index.exists_onRing.mpr (index.inBall_all hcenter hhome)
        rw [Nat.sub_add_cancel index.binsPositive] at hr
        exact hradii r hr _ hring
      rw [hperm.length_eq, List.length_range]
      exact Nat.min_le_right _ _
  unfold candidateIndices
  dsimp only
  rw [mapM_binForValue index.binsPositive, Checked.ok_bind, hrun, Checked.ok_bind]
  exact trimCandidates_spec select (h.nodup_out hs) (fun _ hi => h.out_lt hs hi) henough
    fun _ hi => projectionDistance_eq h request hi

end ProjectionGridIndex

end QTom.Bench
