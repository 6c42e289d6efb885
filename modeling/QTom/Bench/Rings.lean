import QTom.Bench.GridIndex

/- Rings around a cell. The loop over a ring runs through the box of the coordinates
   within the radius, clipped to the grid (`collectFrom_run`), and collects the ones with a
   coordinate at either bound. On a clipped side these are not all new, but every new one is
   among them: what is first within a radius has a coordinate at exactly that distance,
   which no clipping has moved (`exists_ring`). So the radii up to `r` collect the cells
   within `r` of the centre, each once (`rings_collect_balls`). -/
namespace QTom.Bench
open QTom.Lib QTom.Router

/-! The coordinates of a ring. -/

/-- The coordinates of a cell. -/
structure InGrid (bins : Nat) (dims coords : List Nat) : Prop where
  length : coords.length = dims.length
  lt : ∀ c ∈ coords, c < bins

/-- No coordinate is further than `radius` from the centre's. -/
def Near (radius : Nat) (center coords : List Nat) : Prop :=
  List.Forall₂ (fun v c => v ≤ c + radius ∧ c ≤ v + radius) center coords

/-- The clipped bounds of a ring. -/
def ringBounds (bins radius : Nat) (center : List Nat) : List (Nat × Nat) :=
  center.map fun v => (v - radius, min (v + radius) (bins - 1))

/-- Some coordinate is at one of its bounds. -/
def Border (bounds : List (Nat × Nat)) (coords : List Nat) : Prop :=
  ∃ p ∈ bounds.zip coords, p.2 = p.1.1 ∨ p.2 = p.1.2

instance (bounds : List (Nat × Nat)) (coords : List Nat) : Decidable (Border bounds coords) :=
  inferInstanceAs (Decidable (∃ p ∈ bounds.zip coords, p.2 = p.1.1 ∨ p.2 = p.1.2))

section Coordinates
variable {bins radius : Nat} {center coords : List Nat} {bounds : List (Nat × Nat)}

theorem within_ringBounds (hbins : 0 < bins) :
    Odometer.Within (ringBounds bins radius center) coords ↔
      Near radius center coords ∧ ∀ c ∈ coords, c < bins := by
  induction center generalizing coords with
  | nil =>
    refine ⟨?_, fun h => ?_⟩
    · intro h
      cases h
      exact ⟨List.Forall₂.nil, fun _ hc => (nomatch hc)⟩
    · cases h.1
      exact List.Forall₂.nil
  | cons v center ih =>
    refine ⟨?_, ?_⟩
    · intro h
      cases h with
      | cons hc hrest =>
        obtain ⟨hnear, hlt⟩ := ih.mp hrest
        obtain ⟨hlo, hhi⟩ : v - radius ≤ _ ∧ _ ≤ min (v + radius) (bins - 1) := hc
        refine ⟨List.Forall₂.cons ⟨by omega, by omega⟩ hnear, ?_⟩
        exact List.forall_mem_cons.mpr ⟨by omega, hlt⟩
    · intro ⟨hnear, hlt⟩
      cases hnear with
      | cons hc hrest =>
        obtain ⟨hfirst, hlt⟩ := List.forall_mem_cons.mp hlt
        refine List.Forall₂.cons ⟨?_, ?_⟩ (ih.mpr ⟨hrest, hlt⟩)
        · show v - radius ≤ _
          omega
        · show _ ≤ min (v + radius) (bins - 1)
          omega

/-- Off the border of a ring the next smaller one is as good. -/
theorem near_of_not_border (h : Near (radius + 1) center coords) (hlt : ∀ c ∈ coords, c < bins)
    (hborder : ¬ Border (ringBounds bins (radius + 1) center) coords) :
    Near radius center coords := by
  induction h with
  | nil => exact List.Forall₂.nil
  | @cons v c center coords hc _ ih =>
    obtain ⟨hfirst, hlt⟩ := List.forall_mem_cons.mp hlt
    have hoff : ¬ (c = v - (radius + 1) ∨ c = min (v + (radius + 1)) (bins - 1)) :=
      fun hat => hborder ⟨_, List.mem_cons_self, hat⟩
    refine List.Forall₂.cons ?_ (ih hlt ?_)
    · omega
    · intro ⟨p, hp, hat⟩
      exact hborder ⟨p, List.mem_cons_of_mem _ hp, hat⟩

theorem Near.mono {radius' : Nat} (h : Near radius center coords) (hle : radius ≤ radius') :
    Near radius' center coords := by
  apply h.imp
  intro v c hc
  omega

/-- What is within a radius is on the border of a ring no wider. -/
theorem exists_ring (h : Near radius center coords) (hlt : ∀ c ∈ coords, c < bins) :
    ∃ r ≤ radius, Near r center coords ∧ (r = 0 ∨ Border (ringBounds bins r center) coords) := by
  induction radius with
  | zero => exact ⟨0, Nat.le_refl 0, h, Or.inl rfl⟩
  | succ radius ih =>
    by_cases hborder : Border (ringBounds bins (radius + 1) center) coords
    · exact ⟨radius + 1, Nat.le_refl _, h, Or.inr hborder⟩
    · obtain ⟨r, hr, hring⟩ := ih (near_of_not_border h hlt hborder)
      exact ⟨r, Nat.le_succ_of_le hr, hring⟩

/-! The functions on coordinates. -/

theorem border_cons {b : Nat × Nat} {c : Nat} :
    Border (b :: bounds) (c :: coords) ↔ (c = b.1 ∨ c = b.2) ∨ Border bounds coords := by
  unfold Border
  rw [List.zip_cons_cons]
  exact List.exists_mem_cons_iff _ _ _

/-- The entry at the dimension the loop has come to. -/
theorem read_behind (f : Nat × Nat → Nat) (before bounds : List (Nat × Nat)) (b : Nat × Nat) :
    Checked.read ((before ++ b :: bounds).map f) before.length = .ok (f b) := by
  rw [List.map_append, List.map_cons, ← List.length_map f]
  exact Checked.read_append _ _ _

theorem anyBorder_from (before : List (Nat × Nat)) (hlen : coords.length = bounds.length) :
    anyBorder ((before ++ bounds).map Prod.fst) ((before ++ bounds).map Prod.snd)
      (coords.zipIdx before.length) = .ok (decide (Border bounds coords)) := by
  induction coords generalizing before bounds with
  | nil =>
    obtain rfl := List.length_eq_zero_iff.mp hlen.symm
    rfl
  | cons c coords ih =>
    cases bounds with
    | nil => cases hlen
    | cons b bounds =>
      have hrest := ih (before ++ [b]) (Nat.succ.inj hlen)
      rw [List.append_assoc, List.length_append] at hrest
      rw [List.zipIdx_cons, anyBorder, read_behind, Checked.ok_bind]
      by_cases hlo : c = b.1
      · rw [if_pos hlo, decide_eq_true (border_cons.mpr (Or.inl (Or.inl hlo)))]
        rfl
      · rw [if_neg hlo, read_behind, Checked.ok_bind]
        by_cases hhi : c = b.2
        · rw [if_pos hhi, decide_eq_true (border_cons.mpr (Or.inl (Or.inr hhi)))]
          rfl
        · rw [if_neg hhi]
          refine hrest.trans (congrArg Except.ok ?_)
          rw [decide_eq_decide, border_cons, or_iff_right (not_or.mpr ⟨hlo, hhi⟩)]

theorem onBorder_eq (hlen : coords.length = bounds.length) :
    onBorder radius (bounds.map Prod.fst) (bounds.map Prod.snd) coords =
      .ok (decide (radius = 0 ∨ Border bounds coords)) := by
  unfold onBorder
  by_cases hradius : radius = 0
  · rw [if_pos hradius, decide_eq_true (Or.inl hradius)]
  · rw [if_neg hradius]
    refine (anyBorder_from [] hlen).trans (congrArg Except.ok ?_)
    rw [decide_eq_decide, or_iff_right hradius]

theorem incrementFrom_eq (before : List (Nat × Nat)) (passed : List Nat)
    (hpassed : passed.length = before.length) (hlen : coords.length = bounds.length)
    (hfit : ∀ b ∈ bounds, b.2 < 2 ^ 64) :
    incrementFrom (passed ++ coords) ((before ++ bounds).map Prod.fst)
        ((before ++ bounds).map Prod.snd) (List.range' before.length coords.length) =
      .ok ((Odometer.next bounds coords).map (before.map Prod.fst ++ ·)) := by
  induction coords generalizing before passed bounds with
  | nil =>
    obtain rfl := List.length_eq_zero_iff.mp hlen.symm
    rfl
  | cons c coords ih =>
    cases bounds with
    | nil => cases hlen
    | cons b bounds =>
      obtain ⟨hb, hfit⟩ := List.forall_mem_cons.mp hfit
      have hread : Checked.read (passed ++ c :: coords) before.length = .ok c := by
        rw [← hpassed]
        exact Checked.read_append passed coords c
      rw [List.length_cons, List.range'_succ, incrementFrom, hread, Checked.ok_bind, read_behind,
        Checked.ok_bind]
      by_cases hc : c < b.2
      · -- the coordinate goes up and the ones before it start over
        have hlow : Checked.range ((before ++ b :: bounds).map Prod.fst) 0 before.length =
            .ok (before.map Prod.fst) := by
          rw [List.map_append, ← List.length_map Prod.fst]
          exact Checked.range_append _ _
        rw [if_pos hc, Checked.add_ok (by omega), Checked.ok_bind, hlow, ← hpassed,
          Checked.write_append, Checked.ok_bind, Checked.ok_bind, List.drop_left, Odometer.next_up hc]
        rfl
      · have hrest := ih (before ++ [b]) (passed ++ [c]) (by simp [hpassed])
          (Nat.succ.inj hlen) hfit
        rw [List.append_assoc, List.append_assoc, List.length_append] at hrest
        rw [if_neg hc, Odometer.next_over hc]
        refine hrest.trans (congrArg Except.ok ?_)
        rw [Option.map_map, List.map_append]
        apply congrArg (fun f => Option.map f _)
        funext rest
        exact List.append_assoc _ _ _

theorem incrementCoords_eq (hlen : coords.length = bounds.length)
    (hfit : ∀ b ∈ bounds, b.2 < 2 ^ 64) :
    incrementCoords coords (bounds.map Prod.fst) (bounds.map Prod.snd) =
      .ok (Odometer.next bounds coords) := by
  unfold incrementCoords
  rw [List.range_eq_range']
  refine (incrementFrom_eq [] [] rfl hlen hfit).trans (congrArg Except.ok ?_)
  exact Option.map_id' 

end Coordinates

/-! The cell of some coordinates. -/

/-- The stride of the next dimension is above the index so far. -/
theorem pushCoord_ok {bins index stride c : Nat} (hindex : index < stride) (hc : c < bins)
    (hfit : stride * bins < 2 ^ 64) :
    pushCoord bins (index, stride) c = .ok (index + c * stride, stride * bins) ∧
      index + c * stride < stride * bins := by
  have hnext : index + c * stride < stride * bins := by
    calc index + c * stride < stride + c * stride := Nat.add_lt_add_right hindex _
      _ = stride * (c + 1) := by rw [Nat.mul_add, Nat.mul_one, Nat.mul_comm c, Nat.add_comm]
      _ ≤ stride * bins := Nat.mul_le_mul_left stride hc
  have hterm : c * stride < 2 ^ 64 := by omega
  have hsum : index + c * stride < 2 ^ 64 := by omega
  refine ⟨?_, hnext⟩
  unfold pushCoord
  rw [Checked.mul_ok hterm, Checked.ok_bind, Checked.add_ok hsum, Checked.ok_bind,
    Checked.mul_ok hfit]
  rfl

theorem foldlM_pushCoord {bins index stride : Nat} {coords : List Nat} (hindex : index < stride)
    (hlt : ∀ c ∈ coords, c < bins) (hfit : stride * bins ^ coords.length < 2 ^ 64) :
    coords.foldlM (pushCoord bins) (index, stride) =
      .ok (index + stride * Nat.ofDigits bins coords, stride * bins ^ coords.length) := by
  induction coords generalizing index stride with
  | nil => simp [pure, Except.pure]
  | cons c coords ih =>
    obtain ⟨hc, hlt⟩ := List.forall_mem_cons.mp hlt
    rw [List.length_cons, Nat.pow_succ', ← Nat.mul_assoc] at hfit
    have hpos : 0 < bins ^ coords.length := Nat.pow_pos (Nat.zero_lt_of_lt hc)
    obtain ⟨hpush, hnext⟩ := pushCoord_ok hindex hc
      (Nat.lt_of_le_of_lt (Nat.le_mul_of_pos_right _ hpos) hfit)
    rw [List.foldlM_cons, hpush]
    refine (ih hnext hlt hfit).trans (congrArg Except.ok (Prod.ext ?_ ?_))
    · show index + c * stride + stride * bins * Nat.ofDigits bins coords =
        index + stride * Nat.ofDigits bins (c :: coords)
      rw [Nat.ofDigits_cons, Nat.mul_add, Nat.mul_comm c, Nat.mul_assoc, Nat.add_assoc]
    · show stride * bins * bins ^ coords.length = stride * bins ^ (coords.length + 1)
      rw [Nat.pow_succ', Nat.mul_assoc]

theorem foldlM_pushCoord_grid {bins : Nat} {dims coords : List Nat} (h : InGrid bins dims coords)
    (hfit : bins ^ dims.length < 2 ^ 63) :
    coords.foldlM (pushCoord bins) (0, 1) =
      .ok (Nat.ofDigits bins coords, bins ^ dims.length) := by
  rw [← h.length] at hfit
  rw [foldlM_pushCoord Nat.one_pos h.lt (by omega), Nat.zero_add, Nat.one_mul, Nat.one_mul, h.length]

namespace ProjectionGridIndex
variable {F : Type} (index : ProjectionGridIndex F) {radius : Nat} {center coords : List Nat}

/-- How many cells there are. -/
abbrev cellTotal : Nat := index.cells.lists.length

/-- The number of the cell at some coordinates. -/
def cellAt (coords : List Nat) : Nat := Nat.ofDigits index.bins coords

theorem cellAt_lt (h : InGrid index.bins index.dims coords) : index.cellAt coords < index.cellTotal := by
  show _ < index.cells.lists.length
  rw [index.cells.count, ← h.length]
  exact ofDigits_lt h.lt

theorem cellAt_inj {coords' : List Nat} (h : InGrid index.bins index.dims coords)
    (h' : InGrid index.bins index.dims coords') (heq : index.cellAt coords = index.cellAt coords') :
    coords = coords' :=
  ofDigits_inj (h.length.trans h'.length.symm) h.lt h'.lt heq

theorem exists_cellAt {cell : Nat} (h : cell < index.cellTotal) :
    ∃ coords, InGrid index.bins index.dims coords ∧ index.cellAt coords = cell := by
  rw [show index.cellTotal = _ from index.cells.count] at h
  obtain ⟨coords, hlen, hlt, hcell⟩ := exists_ofDigits _ h
  exact ⟨coords, ⟨hlen, hlt⟩, hcell⟩

theorem bins_lt : index.bins < 2 ^ 63 := by
  have hpos : index.dims.length ≠ 0 := fun h => index.dimsNonempty (List.length_eq_zero_iff.mp h)
  calc index.bins ≤ index.bins ^ index.dims.length := Nat.le_self_pow hpos _
    _ < 2 ^ 63 := index.cells.pow_lt

theorem cellIndex_eq (h : InGrid index.bins index.dims coords) :
    index.cellIndex coords = .ok (index.cellAt coords) := by
  unfold cellIndex
  rw [foldlM_pushCoord_grid h index.cells.pow_lt]
  rfl

/-! The loop over a ring. -/

theorem ringMins_eq : ringMins center radius =
    (ringBounds index.bins radius center).map Prod.fst := by
  unfold ringMins ringBounds
  rw [List.map_map]
  rfl

theorem ringMaxes_eq : index.ringMaxes center radius =
    .ok ((ringBounds index.bins radius center).map Prod.snd) := by
  have hbins := index.bins_lt
  have hmax : ∀ v ∈ center, (do
      let last ← Checked.sub index.bins 1
      return min (saturatingAdd v radius) last) =
      (.ok (min (v + radius) (index.bins - 1)) : Checked Nat) := by
    intro v _
    rw [Checked.sub_ok index.binsPositive]
    refine congrArg Except.ok ?_
    show min (min (v + radius) (2 ^ 64 - 1)) (index.bins - 1) = min (v + radius) (index.bins - 1)
    omega
  unfold ringMaxes ringBounds
  rw [List.map_map]
  exact mapM_ok hmax

theorem collectFrom_step (mins maxes : List Nat) (s : Marks Nat) :
    index.collectFrom radius mins maxes coords s =
      (index.collectCell radius mins maxes coords s >>= fun s =>
        incrementCoords coords mins maxes >>= fun moved => match moved with
          | none => .ok s
          | some moved => index.collectFrom radius mins maxes moved s) := by
  rw [collectFrom]
  congr 1
  funext s
  split
  · rename_i h
    rw [h]
    rfl
  · rename_i h
    rw [h]
    rfl
  · rename_i h
    rw [h]
    rfl

/-- The loop visits what its moves visit. -/
theorem collectFrom_run {mins maxes : List Nat} {next : List Nat → Option (List Nat)}
    {run : List (List Nat)} (hrun : Visits next coords run)
    (hmove : ∀ coords ∈ run, incrementCoords coords mins maxes = .ok (next coords)) (s : Marks Nat) :
    index.collectFrom radius mins maxes coords s =
      run.foldlM (fun s coords => index.collectCell radius mins maxes coords s) s := by
  induction hrun generalizing s with
  | @stop coords hnext =>
    rw [collectFrom_step, hmove coords List.mem_cons_self, hnext]
    rfl
  | @step coords moved run hnext _ ih =>
    rw [collectFrom_step, hmove coords List.mem_cons_self, hnext, List.foldlM_cons]
    apply congrArg (index.collectCell radius mins maxes coords s >>= ·)
    funext s
    exact ih (fun coords hmem => hmove coords (List.mem_cons_of_mem _ hmem)) s

theorem mem_box_ring (hcenter : InGrid index.bins index.dims center) :
    coords ∈ Odometer.box (ringBounds index.bins radius center) ↔
      InGrid index.bins index.dims coords ∧ Near radius center coords := by
  rw [Odometer.mem_box, within_ringBounds index.binsPositive]
  refine ⟨?_, ?_⟩
  · intro ⟨hnear, hlt⟩
    exact ⟨⟨hnear.length_eq.symm.trans hcenter.length, hlt⟩, hnear⟩
  · intro ⟨hgrid, hnear⟩
    exact ⟨hnear, hgrid.lt⟩

theorem length_of_mem_ring
    (h : coords ∈ Odometer.box (ringBounds index.bins radius center)) :
    coords.length = (ringBounds index.bins radius center).length :=
  (Odometer.mem_box.mp h).length_eq.symm

/-- The moves of a ring are the odometer's: its bounds are usizes. -/
theorem incrementCoords_ring (h : coords ∈ Odometer.box (ringBounds index.bins radius center)) :
    incrementCoords coords ((ringBounds index.bins radius center).map Prod.fst)
        ((ringBounds index.bins radius center).map Prod.snd) =
      .ok (Odometer.next (ringBounds index.bins radius center) coords) := by
  apply incrementCoords_eq (index.length_of_mem_ring h)
  intro b hb
  obtain ⟨v, _, rfl⟩ := List.mem_map.mp hb
  have hbins := index.bins_lt
  show min (v + radius) (index.bins - 1) < 2 ^ 64
  omega

/-- Around a cell of the grid no bounds of a ring cross. -/
theorem visits_ring (hcenter : InGrid index.bins index.dims center) (radius : Nat) :
    Visits (Odometer.next (ringBounds index.bins radius center))
      ((ringBounds index.bins radius center).map Prod.fst)
      (Odometer.box (ringBounds index.bins radius center)) := by
  apply Odometer.visits_box
  intro b hb
  obtain ⟨v, hv, rfl⟩ := List.mem_map.mp hb
  have hlt := hcenter.lt v hv
  show v - radius ≤ min (v + radius) (index.bins - 1)
  omega

/-- What is emitted for a cell. -/
def members (cell : Nat) : List Nat := index.cells.lists.getD cell []

/-- The cells at the coordinates a ring collects. -/
def OnRing (center : List Nat) (radius cell : Nat) : Prop :=
  ∃ coords, InGrid index.bins index.dims coords ∧ Near radius center coords ∧
    (radius = 0 ∨ Border (ringBounds index.bins radius center) coords) ∧ cell = index.cellAt coords

/-- The cells within a radius. -/
def InBall (center : List Nat) (radius cell : Nat) : Prop :=
  ∃ coords, InGrid index.bins index.dims coords ∧ Near radius center coords ∧
    cell = index.cellAt coords

theorem collectCell_adds (radius : Nat) (hcoords : InGrid index.bins index.dims coords)
    {bounds : List (Nat × Nat)} (hlen : coords.length = bounds.length) :
    Adds index.members index.cellTotal
      (fun s => index.collectCell radius (bounds.map Prod.fst) (bounds.map Prod.snd) coords s)
      fun cell => (radius = 0 ∨ Border bounds coords) ∧ cell = index.cellAt coords := by
  have hlt := index.cellAt_lt hcoords
  unfold collectCell
  rw [onBorder_eq hlen, index.cellIndex_eq hcoords]
  by_cases hborder : radius = 0 ∨ Border bounds coords
  · rw [decide_eq_true hborder]
    refine (Adds.visit hlt ?_).congr fun cell => (and_iff_right hborder).symm
    rw [Checked.read_lt hlt, members, List.getD_eq_getElem?_getD, List.getElem?_eq_getElem hlt]
    rfl
  · rw [decide_eq_false hborder]
    exact Adds.skip.congr fun cell => (iff_of_false id fun h => hborder h.1)

/-- One radius adds the cells of its ring. -/
theorem collectRadiusCells_adds (hcenter : InGrid index.bins index.dims center) (radius : Nat) :
    Adds index.members index.cellTotal (fun s => index.collectRadiusCells center radius s)
      (index.OnRing center radius) := by
  have hloop : ∀ s, index.collectRadiusCells center radius s =
      (Odometer.box (ringBounds index.bins radius center)).foldlM (fun s coords =>
        index.collectCell radius ((ringBounds index.bins radius center).map Prod.fst)
          ((ringBounds index.bins radius center).map Prod.snd) coords s) s := by
    intro s
    unfold collectRadiusCells
    rw [index.ringMins_eq, ringMaxes_eq, Checked.ok_bind]
    exact index.collectFrom_run (index.visits_ring hcenter radius)
      (fun _ hmem => index.incrementCoords_ring hmem) s
  have hrun := Adds.run fun coords
      (hmem : coords ∈ Odometer.box (ringBounds index.bins radius center)) =>
    index.collectCell_adds radius ((index.mem_box_ring hcenter).mp hmem).1
      (index.length_of_mem_ring hmem)
  simp only [hloop]
  apply hrun.congr
  intro cell
  refine ⟨?_, ?_⟩
  · intro ⟨coords, hmem, hborder, hcell⟩
    obtain ⟨hgrid, hnear⟩ := (index.mem_box_ring hcenter).mp hmem
    exact ⟨coords, hgrid, hnear, hborder, hcell⟩
  · intro ⟨coords, hgrid, hnear, hborder, hcell⟩
    exact ⟨coords, (index.mem_box_ring hcenter).mpr ⟨hgrid, hnear⟩, hborder, hcell⟩

/-- Each ring lies within its radius, and together they leave nothing out. -/
theorem exists_onRing {cell : Nat} :
    (∃ r ∈ List.range (radius + 1), index.OnRing center r cell) ↔ index.InBall center radius cell := by
  refine ⟨?_, ?_⟩
  · intro ⟨r, hr, coords, hgrid, hnear, _, hcell⟩
    exact ⟨coords, hgrid, hnear.mono (Nat.le_of_lt_succ (List.mem_range.mp hr)), hcell⟩
  · intro ⟨coords, hgrid, hnear, hcell⟩
    obtain ⟨r, hr, hwithin, hborder⟩ := exists_ring hnear hgrid.lt
    exact ⟨r, List.mem_range.mpr (Nat.lt_succ_of_le hr), coords, hgrid, hwithin, hborder, hcell⟩

/-- The radii up to `radius`, on fresh marks. -/
def collectRings (center : List Nat) (radius : Nat) : Checked (Marks Nat) :=
  (List.range (radius + 1)).foldlM (fun s radius => index.collectRadiusCells center radius s)
    ⟨List.replicate index.cellTotal false, []⟩

theorem collectRings_marked (hcenter : InGrid index.bins index.dims center) (radius : Nat) :
    ∃ order s, index.collectRings center radius = .ok s ∧
      Marked index.members index.cellTotal order s ∧
      ∀ cell, cell ∈ order ↔ index.InBall center radius cell := by
  have hrun := Adds.run fun r (_ : r ∈ List.range (radius + 1)) =>
    index.collectRadiusCells_adds hcenter r
  obtain ⟨order, s, hs, hmarked, hmem⟩ := hrun [] _ (Marked.fresh index.members index.cellTotal)
  refine ⟨order, s, hs, hmarked, ?_⟩
  intro cell
  exact (hmem cell).trans ((or_iff_right List.not_mem_nil).trans index.exists_onRing)

/-- A query stops with its budget met or after every radius. -/
theorem collectRadii_marked (hcenter : InGrid index.bins index.dims center) (budget : Nat)
    (radii : List Nat) {order : List Nat} {s : Marks Nat}
    (hs : Marked index.members index.cellTotal order s) :
    ∃ order' s', index.collectRadii center budget radii s = .ok s' ∧
      Marked index.members index.cellTotal order' s' ∧ (∀ cell ∈ order, cell ∈ order') ∧
      (budget ≤ s'.out.length ∨ ∀ radius ∈ radii, ∀ cell, index.OnRing center radius cell →
        cell ∈ order') := by
  induction radii generalizing order s with
  | nil => exact ⟨order, s, rfl, hs, fun _ hcell => hcell, Or.inr fun _ hr => (nomatch hr)⟩
  | cons radius radii ih =>
    obtain ⟨order₁, s₁, hring, hs₁, hmem₁⟩ := index.collectRadiusCells_adds hcenter radius order s hs
    rw [collectRadii, show index.collectRadiusCells center radius s = .ok s₁ from hring,
      Checked.ok_bind]
    by_cases hbudget : budget ≤ s₁.out.length
    · rw [if_pos hbudget]
      exact ⟨order₁, s₁, rfl, hs₁, fun cell hcell => (hmem₁ cell).mpr (Or.inl hcell), Or.inl hbudget⟩
    · rw [if_neg hbudget]
      obtain ⟨order₂, s₂, hrest, hs₂, hkept, hend⟩ := ih hs₁
      refine ⟨order₂, s₂, hrest, hs₂, ?_, hend.imp_right ?_⟩
      · intro cell hcell
        exact hkept cell ((hmem₁ cell).mpr (Or.inl hcell))
      · intro hradii
        exact List.forall_mem_cons.mpr
          ⟨fun cell hcell => hkept cell ((hmem₁ cell).mpr (Or.inr hcell)), hradii⟩

/-- The radii below `bins` reach every cell. -/
theorem inBall_all (hcenter : InGrid index.bins index.dims center)
    (hcoords : InGrid index.bins index.dims coords) :
    index.InBall center (index.bins - 1) (index.cellAt coords) := by
  refine ⟨coords, hcoords, ?_, rfl⟩
  apply List.forall₂_iff_get.mpr
  refine ⟨hcenter.length.trans hcoords.length.symm, ?_⟩
  intro i hi hi'
  have hv := hcenter.lt _ (List.get_mem center ⟨i, hi⟩)
  have hc := hcoords.lt _ (List.get_mem coords ⟨i, hi'⟩)
  omega

/-- The moves of the loop over a ring. -/
def moves (mins maxes coords : List Nat) : Option (List Nat) :=
  match incrementCoords coords mins maxes with
  | .ok moved => moved
  | .error _ => none

/-- From the lower corner the loop over a ring runs through the box and stops. -/
theorem ring_run (hcenter : InGrid index.bins index.dims center) (radius : Nat) :
    ∃ maxes run, index.ringMaxes center radius = .ok maxes ∧
      Visits (moves (ringMins center radius) maxes) (ringMins center radius) run ∧
      ∀ coords ∈ run, InGrid index.bins index.dims coords ∧
        ∃ moved, incrementCoords coords (ringMins center radius) maxes = .ok moved := by
  rw [index.ringMins_eq]
  refine ⟨_, _, index.ringMaxes_eq, (index.visits_ring hcenter radius).congr ?_, ?_⟩
  · intro coords hmem
    unfold moves
    rw [index.incrementCoords_ring hmem]
  · intro coords hmem
    exact ⟨((index.mem_box_ring hcenter).mp hmem).1, _, index.incrementCoords_ring hmem⟩

/-- From any cell of any grid: at every radius the loop ends, with the cells it computes in
range; and after the radii up to any `radius` the seen cells are those within it, each of
which has had its agents emitted once. -/
theorem rings_collect_balls (hcenter : InGrid index.bins index.dims center) (radius : Nat) :
    (∃ maxes run, index.ringMaxes center radius = .ok maxes ∧
      Visits (moves (ringMins center radius) maxes) (ringMins center radius) run ∧
      ∀ coords ∈ run, (∃ moved, incrementCoords coords (ringMins center radius) maxes = .ok moved) ∧
        ∃ cell < index.cellTotal, index.cellIndex coords = .ok cell) ∧
    (∀ cell < index.cellTotal, ∃! coords, InGrid index.bins index.dims coords ∧
      index.cellIndex coords = .ok cell) ∧
    ∃ (s : Marks Nat) (order : List Nat), index.collectRings center radius = .ok s ∧
      s.seen.length = index.cellTotal ∧
      (∀ coords, InGrid index.bins index.dims coords → ∃ cell,
        index.cellIndex coords = .ok cell ∧ (s.seen[cell]? = some true ↔ Near radius center coords)) ∧
      order.Nodup ∧ (∀ cell, cell ∈ order ↔ s.seen[cell]? = some true) ∧
      s.out = order.flatMap index.members := by
  refine ⟨?_, ?_, ?_⟩
  · obtain ⟨maxes, run, hmaxes, hrun, hvisited⟩ := index.ring_run hcenter radius
    refine ⟨maxes, run, hmaxes, hrun, ?_⟩
    intro coords hmem
    obtain ⟨hgrid, hmoved⟩ := hvisited coords hmem
    exact ⟨hmoved, _, index.cellAt_lt hgrid, index.cellIndex_eq hgrid⟩
  · intro cell hcell
    obtain ⟨coords, hgrid, rfl⟩ := index.exists_cellAt hcell
    refine ⟨coords, ⟨hgrid, index.cellIndex_eq hgrid⟩, ?_⟩
    intro other ⟨hother, hsame⟩
    rw [index.cellIndex_eq hother] at hsame
    exact index.cellAt_inj hother hgrid (Except.ok.inj hsame)
  · obtain ⟨order, s, hs, hmarked, hball⟩ := index.collectRings_marked hcenter radius
    refine ⟨s, order, hs, hmarked.length, ?_, hmarked.nodup, fun cell => (hmarked.seen cell).symm,
      hmarked.out⟩
    intro coords hgrid
    refine ⟨_, index.cellIndex_eq hgrid, ?_⟩
    rw [hmarked.seen, hball]
    refine ⟨?_, fun hnear => ⟨coords, hgrid, hnear, rfl⟩⟩
    intro ⟨other, hother, hnear, hsame⟩
    rw [index.cellAt_inj hgrid hother hsame]
    exact hnear

/-- Two dimensions in thirds. -/
def thirds : ProjectionGridIndex Int where
  bins := 3
  dims := [0, 1]
  cells := ⟨[[4], [], [0, 2], [], [1], [], [3], [], []], rfl, by decide⟩
  projectedVectors := []
  binsPositive := by decide
  dimsNonempty := by decide

/-- Around a corner cell, where the ring is clipped on both sides. -/
theorem rings_collect_balls_corner :
    ∃ (s : Marks Nat) (order : List Nat), thirds.collectRings [0, 2] 1 = .ok s ∧
      s.seen.length = 9 ∧
      (∀ coords, InGrid 3 [0, 1] coords → ∃ cell, thirds.cellIndex coords = .ok cell ∧
        (s.seen[cell]? = some true ↔ Near 1 [0, 2] coords)) ∧
      order.Nodup ∧ (∀ cell, cell ∈ order ↔ s.seen[cell]? = some true) ∧
      s.out = order.flatMap thirds.members := by
  have hcenter : InGrid 3 [0, 1] [0, 2] := ⟨rfl, by decide⟩
  exact (rings_collect_balls thirds hcenter 1).2.2

end ProjectionGridIndex

end QTom.Bench
