import QTom.Router.Batch
import QTom.Router.Checked
import QTom.Router.Exact

/- Where routing can panic. The checked router is the plain one without the fields
   that say why its accesses are in range, and `raw` forgets those fields. So every
   checked operation returns the raw result of the plain one, and the one thing left
   that may panic is asking for a capacity: `k` above eight candidates at once, and a
   batch's results where they are reserved (`returns_normally_iff`). -/
namespace QTom.Router
open QTom.Lib

/-- `k` candidates fit the stack slots or a Vec. -/
def CapacityFits (k : Nat) : Prop := k ≤ stackTopKCap ∨ k * compactCandidateSize < 2 ^ 63

/-! Storage. -/

namespace TopKStorage
variable {α : Type}

def raw : TopKStorage α → RawStorage α
  | .stack slots => .stack slots.candidates slots.len
  | .heap candidates => .heap candidates

@[simp] theorem len_raw (s : TopKStorage α) : s.raw.len = s.len := by
  cases s <;> rfl

theorem new_raw (k : Nat) : Returns (RawStorage.new k) (CapacityFits k) (new k : TopKStorage α).raw := by
  unfold RawStorage.new new
  by_cases hk : k ≤ stackTopKCap
  · rw [if_pos hk, if_pos hk]
    exact (Returns.of_ok rfl).congr (iff_of_true trivial (Or.inl hk))
  · rw [if_neg hk, if_neg hk]
    refine Returns.congr ?_ (or_iff_right hk).symm
    exact (Returns.withCapacity compactCandidateSize k).bind_ok rfl

theorem candidate_raw (s : TopKStorage α) {idx : Nat} (h : idx < s.len) :
    s.raw.candidate idx = .ok (s.candidate idx h) := by
  cases s with
  | stack slots =>
    have hidx : idx < slots.len := h
    have hread : Checked.read slots.candidates idx = .ok (some (slots.candidate idx hidx)) := by
      rw [Checked.read_lt (slots.lt_size hidx)]
      unfold StackSlots.candidate
      rw [Option.some_get]
      rfl
    show (Checked.debugAssert (decide (idx < slots.len)) >>= fun _ =>
      Checked.read slots.candidates idx >>= Checked.expect) = _
    rw [Checked.debugAssert_ok (decide_eq_true hidx), Checked.ok_bind, hread]
    rfl
  | heap candidates => exact Checked.read_lt h

theorem push_raw (s : TopKStorage α) (h : s.HasRoom) (c : α) :
    s.raw.push c = .ok (s.push h c).raw := by
  cases s with
  | stack slots =>
    have hroom : slots.len < stackTopKCap := h
    have hlen : slots.len < slots.candidates.length := by
      rw [slots.size]
      exact hroom
    have hnext : slots.len + 1 < 2 ^ 64 := by
      have hcap : stackTopKCap = 8 := rfl
      omega
    show (Checked.debugAssert (decide (slots.len < stackTopKCap)) >>= fun _ =>
      Checked.write slots.candidates slots.len (some c) >>= fun candidates =>
        Checked.add slots.len 1 >>= fun len => .ok (RawStorage.stack candidates len)) = _
    rw [Checked.debugAssert_ok (decide_eq_true hroom), Checked.ok_bind, Checked.write_ok hlen,
      Checked.ok_bind, Checked.add_ok hnext]
    rfl
  | heap candidates => rfl

theorem replace_raw (s : TopKStorage α) {idx : Nat} (h : idx < s.len) (c : α) :
    s.raw.replace idx c = .ok (s.replace idx h c).raw := by
  cases s with
  | stack slots =>
    have hidx : idx < slots.len := h
    show (Checked.debugAssert (decide (idx < slots.len)) >>= fun _ =>
      Checked.write slots.candidates idx (some c) >>= fun candidates =>
        .ok (RawStorage.stack candidates slots.len)) = _
    rw [Checked.debugAssert_ok (decide_eq_true hidx), Checked.ok_bind,
      Checked.write_ok (slots.lt_size hidx)]
    rfl
  | heap candidates =>
    show (Checked.write candidates idx c >>= fun candidates => .ok (RawStorage.heap candidates)) = _
    rw [Checked.write_ok h]
    rfl

/-- Collecting set slots returns their candidates. -/
theorem foldlM_expect (slots : List (Option α)) (h : ∀ slot ∈ slots, slot.isSome = true)
    (out : List α) : slots.foldlM (fun out candidate => do
      let candidate ← Checked.expect candidate
      return out ++ [candidate]) out =
    (.ok (out ++ slots.pmap (fun slot hslot => slot.get hslot) h) : Checked (List α)) := by
  induction slots generalizing out with
  | nil => rw [List.pmap_nil, List.append_nil]; rfl
  | cons slot slots ih =>
    obtain ⟨c, rfl⟩ := Option.isSome_iff_exists.mp (h slot List.mem_cons_self)
    rw [List.foldlM_cons]
    show List.foldlM _ (out ++ [c]) slots = _
    rw [ih (fun s hs => h s (List.mem_cons_of_mem _ hs))]
    simp

theorem intoVec_raw (s : TopKStorage α) : s.raw.intoVec = .ok s.intoVec := by
  cases s with
  | stack slots =>
    have hcapacity : slots.len * compactCandidateSize < 2 ^ 63 := by
      have hbound : slots.len ≤ 8 := slots.bound
      show slots.len * 32 < 2 ^ 63
      omega
    show (Checked.withCapacity compactCandidateSize slots.len >>= fun out =>
      (slots.candidates.take slots.len).foldlM _ out) = _
    rw [(Returns.withCapacity compactCandidateSize slots.len).1 hcapacity, Checked.ok_bind,
      foldlM_expect _ slots.filled]
    rfl
  | heap candidates => rfl

end TopKStorage

/-! The bounded selection. -/

namespace BoundedTopK
variable {F : Type}

def raw (b : BoundedTopK F) : RawTopK F := ⟨b.k, b.sort, b.storage.raw, b.worstIdx⟩

theorem new_raw (k : Nat) (sort : CandidateSort) :
    Returns (RawTopK.new k sort) (CapacityFits k) (new k sort : BoundedTopK F).raw :=
  (TopKStorage.new_raw k).bind_ok rfl

theorem candidate_raw (b : BoundedTopK F) {idx : Nat} (h : idx < b.len) :
    b.raw.candidate idx = .ok (b.candidate idx h) :=
  b.storage.candidate_raw h

theorem pushCandidate_raw (b : BoundedTopK F) (h : b.len < b.k) (c : CompactCandidate F) :
    b.raw.pushCandidate c = .ok (b.pushCandidate h c).raw := by
  show (b.storage.raw.push c >>= fun storage => .ok { b.raw with storage }) = _
  rw [b.storage.push_raw (b.fits.hasRoom h)]
  rfl

theorem replaceCandidate_raw (b : BoundedTopK F) {idx : Nat} (h : idx < b.len)
    (c : CompactCandidate F) : b.raw.replaceCandidate idx c = .ok (b.replaceCandidate idx h c).raw := by
  show (b.storage.raw.replace idx c >>= fun storage => .ok { b.raw with storage }) = _
  rw [b.storage.replace_raw h]
  rfl

variable [F32 F]

theorem updateWorstAfterPush_raw (b : BoundedTopK F) (h : 0 < b.len) :
    b.raw.updateWorstAfterPush = .ok (b.updateWorstAfterPush h).raw := by
  have hsub : Checked.sub b.raw.len 1 = .ok (b.len - 1) := by
    show Checked.sub b.storage.raw.len 1 = _
    rw [TopKStorage.len_raw]
    exact Checked.sub_ok h
  unfold RawTopK.updateWorstAfterPush updateWorstAfterPush
  rw [hsub, Checked.ok_bind]
  cases hw : b.worstIdx with
  | none =>
    rw [worst_eq_none hw, show b.raw.worstIdx = none from hw]
    rfl
  | some idx =>
    rw [worst_eq_some hw, show b.raw.worstIdx = some idx from hw]
    dsimp only
    rw [b.candidate_raw (Nat.sub_lt h Nat.one_pos), Checked.ok_bind,
      b.candidate_raw (b.within idx hw), Checked.ok_bind]
    show (if compareCandidate b.sort _ _ = .gt then _ else _) = _
    split <;> rfl

theorem recomputeWorst_raw (b : BoundedTopK F) :
    b.raw.recomputeWorst = .ok b.recomputeWorst.raw := by
  have hcmp : ∀ left right : Fin b.len, (do
      let left ← b.raw.candidate left
      let right ← b.raw.candidate right
      return compareCandidate b.raw.sort left right) = (.ok (compareCandidate b.sort
        (b.candidate left left.isLt) (b.candidate right right.isLt)) : Checked Ordering) := by
    intro left right
    rw [b.candidate_raw left.isLt, Checked.ok_bind, b.candidate_raw right.isLt]
    rfl
  unfold RawTopK.recomputeWorst
  rw [show b.raw.len = b.len from b.storage.len_raw, ← List.map_coe_finRange_eq_range,
    Checked.maxBy_ok Fin.val hcmp]
  rfl

/-- The step: a push never panics. -/
theorem push_raw (b : BoundedTopK F) (c : CompactCandidate F) :
    b.raw.push c = .ok (b.push c).raw := by
  unfold RawTopK.push push
  rw [show b.raw.k = b.k from rfl, show b.raw.len = b.len from b.storage.len_raw]
  by_cases hk : b.k = 0
  · rw [if_pos hk, if_pos hk]
  · rw [if_neg hk, if_neg hk]
    by_cases hroom : b.len < b.k
    · rw [if_pos hroom, dif_pos hroom, b.pushCandidate_raw hroom, Checked.ok_bind]
      exact updateWorstAfterPush_raw _ _
    · rw [if_neg hroom, dif_neg hroom]
      cases hw : b.worstIdx with
      | none => rw [worst_eq_none hw, show b.raw.worstIdx = none from hw]
      | some idx =>
        rw [worst_eq_some hw, show b.raw.worstIdx = some idx from hw]
        dsimp only
        rw [b.candidate_raw (b.within idx hw), Checked.ok_bind]
        show (if compareCandidate b.sort _ _ = .lt then _ else _) = _
        split
        · rw [b.replaceCandidate_raw (b.within idx hw), Checked.ok_bind]
          exact recomputeWorst_raw _
        · rfl

theorem intoVec_raw (b : BoundedTopK F) : b.raw.intoVec = .ok b.intoVec := by
  show (b.storage.raw.intoVec >>= fun candidates => .ok (sortBy (compareCandidate b.sort) candidates)) = _
  rw [b.storage.intoVec_raw]
  rfl

end BoundedTopK

/-! Scoring. -/

section
variable {F : Type} [F32 F]

theorem addChecked_ok (s : Lanes F) {left right : List F} (hleft : left.length = 4)
    (hright : right.length = 4) : s.addChecked left right = .ok (s.add (left, right)) := by
  obtain ⟨l0, l1, l2, l3, rfl⟩ := List.length_eq_four.mp hleft
  obtain ⟨r0, r1, r2, r3, rfl⟩ := List.length_eq_four.mp hright
  rfl

theorem length_of_mem_chunksExact {α : Type} {n : Nat} {xs piece : List α}
    (h : piece ∈ chunksExact n xs) : piece.length = n := by
  obtain ⟨i, hi, rfl⟩ := List.mem_map.mp h
  exact length_slice (List.mem_range.mp hi)

theorem distSqBlockedChecked_ok {lhs rhs : List F} (h : lhs.length = rhs.length) :
    distSqBlockedChecked lhs rhs = .ok (distSqBlocked lhs rhs) := by
  have hlanes : ∀ s : Lanes F, ∀ p ∈ (chunksExact 4 lhs).zip (chunksExact 4 rhs),
      s.addChecked p.1 p.2 = .ok (s.add p) := by
    intro s p hp
    have hmem := List.of_mem_zip hp
    exact addChecked_ok s (length_of_mem_chunksExact hmem.1) (length_of_mem_chunksExact hmem.2)
  have hrun : ∀ s : Lanes F, ((chunksExact 4 lhs).zip (chunksExact 4 rhs)).foldlM
      (fun s p => s.addChecked p.1 p.2) s =
      .ok (((chunksExact 4 lhs).zip (chunksExact 4 rhs)).foldl Lanes.add s) :=
    Checked.foldlM_ok id hlanes
  unfold distSqBlockedChecked
  rw [Checked.debugAssert_ok (decide_eq_true h), Checked.ok_bind,
    Checked.chunksExact_ok (by decide), Checked.ok_bind, Checked.chunksExact_ok (by decide),
    Checked.ok_bind, hrun]
  rfl

theorem scoreCompactCandidateChecked_ok {requestVector agentVector : List F}
    (h : requestVector.length = agentVector.length) (coefficients : ScoreCoefficients F)
    (agentId : Nat) (state : AgentRuntimeState F) :
    scoreCompactCandidateChecked requestVector coefficients agentId agentVector state =
      .ok (scoreCompactCandidate requestVector coefficients agentId agentVector state) := by
  unfold scoreCompactCandidateChecked
  rw [Checked.debugAssert_ok (decide_eq_true h), Checked.ok_bind, distSqBlockedChecked_ok h]
  rfl

theorem scoreWithFactorsChecked_ok {requestVector agentVector : List F}
    (h : requestVector.length = agentVector.length) (agentId : Nat)
    (factors : RuntimeScoreFactors F) :
    scoreCompactCandidateWithFactorsChecked requestVector agentId agentVector factors =
      .ok (scoreCompactCandidateWithFactors requestVector agentId agentVector factors) := by
  unfold scoreCompactCandidateWithFactorsChecked
  rw [distSqBlockedChecked_ok h]
  rfl

end

/-! The route table. -/

/-- A Vec holds at most `isize::MAX` bytes, here of u32 and f32 entries. -/
structure AgentRouteTable.InMemory {F : Type} (t : AgentRouteTable F) : Prop where
  agentIds : t.agentIds.length * 4 < 2 ^ 63
  vectors : t.vectors.length * 4 < 2 ^ 63

namespace AgentRouteTable
variable {F : Type}

theorem agentIdChecked_ok (t : AgentRouteTable F) (index : Fin t.len) :
    t.agentIdChecked index = .ok (t.agentId index) :=
  Checked.read_lt index.isLt

/-- A row's slice lies in the packed vector, so its bounds are no more than its length. -/
theorem vectorChecked_ok {t : AgentRouteTable F} (h : t.InMemory) (index : Fin t.len) :
    t.vectorChecked index = .ok (t.vector index) := by
  have hstop : index.val * t.dimensions + t.dimensions ≤ t.vectors.length := by
    have hrow : (index.val + 1) * t.dimensions ≤ t.agentIds.length * t.dimensions :=
      Nat.mul_le_mul_right _ index.isLt
    rw [Nat.add_mul, Nat.one_mul] at hrow
    rw [t.packed]
    exact hrow
  have hmem := h.vectors
  unfold vectorChecked
  rw [Checked.mul_ok (by omega), Checked.ok_bind, Checked.add_ok (by omega), Checked.ok_bind,
    Checked.range_ok (Nat.le_add_right _ _) hstop, Nat.add_sub_cancel_left]
  rfl

end AgentRouteTable

/-! One request. -/

section
variable {F : Type} [F32 F]

/-- Either way of reading the rows, the checked scan pushes the candidates in row order. -/
theorem scanCandidatesChecked_eq {σ : Type} {v : List F} (coefficients : ScoreCoefficients F)
    {b : ValidatedBatch F} (hmem : b.routeTable.InMemory) (hv : v.length = b.routeTable.dimensions)
    (push : σ → CompactCandidate F → Checked σ) (init : σ) :
    scanCandidatesChecked v coefficients b.routeTable b.states push init =
      (b.candidates v coefficients).foldlM push init := by
  have hrow : ∀ index : Fin b.routeTable.len, v.length = (b.routeTable.vector index).length := by
    intro index
    rw [b.routeTable.length_vector, hv]
  unfold scanCandidatesChecked
  split
  · -- no coordinates: the rows are read by index
    apply Checked.foldlM_forall₂
    refine List.forall₂_iff_get.mpr ⟨?_, ?_⟩
    · rw [List.length_zipIdx, b.length_candidates, b.paired]
    · intro i hi hi' acc
      have hlen : i < b.routeTable.len := by
        rw [b.length_candidates] at hi'
        exact hi'
      rw [List.get_eq_getElem, List.get_eq_getElem, List.getElem_zipIdx,
        b.candidates_getElem v coefficients hi' hlen, Nat.zero_add]
      dsimp only
      rw [b.routeTable.agentIdChecked_ok ⟨i, hlen⟩, Checked.ok_bind,
        AgentRouteTable.vectorChecked_ok hmem ⟨i, hlen⟩, Checked.ok_bind,
        scoreCompactCandidateChecked_ok (hrow ⟨i, hlen⟩), Checked.ok_bind]
      rfl
  · -- otherwise they are zipped with the exact chunks of the packed vector
    rename_i hd
    rw [Checked.chunksExact_ok hd, Checked.ok_bind]
    apply Checked.foldlM_forall₂
    refine List.forall₂_iff_get.mpr ⟨?_, ?_⟩
    · rw [List.length_zip, List.length_zip, b.routeTable.length_chunksExact hd,
        b.length_candidates, b.paired]
      show min (min b.routeTable.len b.routeTable.len) b.routeTable.len = _
      omega
    · intro i hi hi' acc
      have hlen : i < b.routeTable.len := by
        rw [b.length_candidates] at hi'
        exact hi'
      rw [List.get_eq_getElem, List.get_eq_getElem, List.getElem_zip, List.getElem_zip,
        b.routeTable.chunksExact_getElem _ hlen, b.candidates_getElem v coefficients hi' hlen]
      dsimp only
      rw [scoreCompactCandidateChecked_ok (hrow ⟨i, hlen⟩), Checked.ok_bind]
      rfl

/-- A scan into selections whose pushes do not panic. -/
theorem scan_ok {σ τ : Type} {v : List F} (coefficients : ScoreCoefficients F)
    {b : ValidatedBatch F} (hmem : b.routeTable.InMemory) (hv : v.length = b.routeTable.dimensions)
    {push : σ → CompactCandidate F → Checked σ} {plain : τ → CompactCandidate F → τ} (raw : τ → σ)
    (h : ∀ t c, push (raw t) c = .ok (raw (plain t c))) (init : τ) :
    scanCandidatesChecked v coefficients b.routeTable b.states push (raw init) =
      .ok (raw (scanCandidates v coefficients b plain init)) := by
  rw [scanCandidatesChecked_eq coefficients hmem hv, scanCandidates_eq]
  exact Checked.foldlM_ok raw (fun t c _ => h t c) init

omit [F32 F] in
/-- Two selections that do not panic, filled by one scan. -/
theorem pushBothChecked_ok {σ τ σ' τ' : Type} {observe : σ → CompactCandidate F → Checked σ}
    {offer : τ → CompactCandidate F → Checked τ} {observe' : σ' → CompactCandidate F → σ'}
    {offer' : τ' → CompactCandidate F → τ'} {rawO : σ' → σ} {rawA : τ' → τ}
    (hobserve : ∀ s c, observe (rawO s) c = .ok (rawO (observe' s c)))
    (hoffer : ∀ t c, offer (rawA t) c = .ok (rawA (offer' t c))) (acc : σ' × τ')
    (c : CompactCandidate F) :
    pushBothChecked observe offer (Prod.map rawO rawA acc) c =
      .ok (Prod.map rawO rawA (pushBoth observe' offer' acc c)) := by
  unfold pushBothChecked pushBoth
  show (observe (rawO acc.1) c >>= fun observed =>
    (if c.available then offer (rawA acc.2) c else .ok (rawA acc.2)) >>= fun available =>
      .ok (observed, available)) = _
  rw [hobserve, Checked.ok_bind]
  split
  · rw [hoffer]
    rfl
  · rfl

namespace CpuRouter

theorem routeOneBestValidatedChecked_ok (router : CpuRouter F) {request : RoutingRequest F}
    {b : ValidatedBatch F} (hmem : b.routeTable.InMemory)
    (hv : request.vector.length = b.routeTable.dimensions) :
    router.routeOneBestValidatedChecked request b = .ok (router.routeOneBestValidated request b) := by
  unfold routeOneBestValidatedChecked
  rw [scanCandidatesChecked_eq router.coefficients hmem hv]
  unfold routeOneBestValidated
  rw [scanCandidates_eq]
  have hrun : ∀ init, (b.candidates request.vector router.coefficients).foldlM
      (fun acc c => (.ok (pushBoth BestCandidate.push BestCandidate.push acc c) :
        Checked (BestCandidate F × BestCandidate F))) init =
      .ok ((b.candidates request.vector router.coefficients).foldl
        (pushBoth BestCandidate.push BestCandidate.push) init) :=
    Checked.foldlM_ok id fun _ _ _ => rfl
  rw [hrun]
  rfl

/-- With debug output, after both capacities. -/
theorem routeOneValidatedChecked_debug {router : CpuRouter F} {request : RoutingRequest F}
    {b : ValidatedBatch F} (hmem : b.routeTable.InMemory)
    (hv : request.vector.length = b.routeTable.dimensions) (hk : request.k ≠ 1)
    (hdebug : router.debugObserved = true) :
    (do
      let scanned ← scanCandidatesChecked request.vector router.coefficients b.routeTable b.states
        (pushBothChecked RawTopK.push RawTopK.push)
        ((BoundedTopK.new request.k .observed).raw, (BoundedTopK.new request.k .available).raw)
      let observedCandidates ← scanned.1.intoVec
      let availableCandidates ← scanned.2.intoVec
      return .ok (finish request availableCandidates
        ((observedCandidates.head?.map fun candidate => !candidate.available).getD false)
        (some ⟨observedCandidates⟩))) =
      (.ok (router.routeOneValidated request b) : Checked (Except RouteError (RoutingResult F))) := by
  have hpush := pushBothChecked_ok (BoundedTopK.push_raw (F := F)) BoundedTopK.push_raw
  have hscan := scan_ok router.coefficients hmem hv (Prod.map BoundedTopK.raw BoundedTopK.raw) hpush
    (BoundedTopK.new request.k .observed, BoundedTopK.new request.k .available)
  rw [Prod.map_apply] at hscan
  rw [hscan, Checked.ok_bind]
  unfold routeOneValidated
  rw [if_neg hk, if_pos hdebug]
  dsimp only [Prod.map]
  rw [BoundedTopK.intoVec_raw, Checked.ok_bind, BoundedTopK.intoVec_raw]
  rfl

theorem routeOneValidatedChecked_plain {router : CpuRouter F} {request : RoutingRequest F}
    {b : ValidatedBatch F} (hmem : b.routeTable.InMemory)
    (hv : request.vector.length = b.routeTable.dimensions) (hk : request.k ≠ 1)
    (hdebug : ¬ router.debugObserved = true) :
    (do
      let scanned ← scanCandidatesChecked request.vector router.coefficients b.routeTable b.states
        (pushBothChecked (fun best candidate => .ok (BestCandidate.push best candidate)) RawTopK.push)
        (BestCandidate.new .observed (0 < request.k), (BoundedTopK.new request.k .available).raw)
      let availableCandidates ← scanned.2.intoVec
      return .ok (finish request availableCandidates scanned.1.idealCandidateUnavailable none)) =
      (.ok (router.routeOneValidated request b) : Checked (Except RouteError (RoutingResult F))) := by
  have hpush : ∀ acc c, pushBothChecked (fun best c => .ok (BestCandidate.push best c)) RawTopK.push
      (Prod.map id BoundedTopK.raw acc) c =
      .ok (Prod.map id BoundedTopK.raw (pushBoth (F := F) BestCandidate.push BoundedTopK.push acc c)) :=
    pushBothChecked_ok (fun _ _ => rfl) BoundedTopK.push_raw
  have hscan := scan_ok router.coefficients hmem hv (Prod.map id BoundedTopK.raw) hpush
    (BestCandidate.new .observed (0 < request.k), BoundedTopK.new request.k .available)
  rw [Prod.map_apply] at hscan
  rw [show BestCandidate.new .observed (0 < request.k) =
    id (BestCandidate.new .observed (0 < request.k) : BestCandidate F) from rfl, hscan, Checked.ok_bind]
  unfold routeOneValidated
  rw [if_neg hk, if_neg hdebug]
  dsimp only [Prod.map]
  rw [BoundedTopK.intoVec_raw]
  rfl

/-- One request returns exactly when its `k` fits. -/
theorem routeOneValidatedChecked_returns (router : CpuRouter F) {request : RoutingRequest F}
    {b : ValidatedBatch F} (hmem : b.routeTable.InMemory)
    (hv : request.vector.length = b.routeTable.dimensions) :
    Returns (router.routeOneValidatedChecked request b) (CapacityFits request.k)
      (router.routeOneValidated request b) := by
  unfold routeOneValidatedChecked
  by_cases hk : request.k = 1
  · rw [if_pos hk]
    have hfits : CapacityFits request.k := Or.inl (by rw [hk]; decide)
    refine Returns.congr (Returns.of_ok ?_) (iff_of_true trivial hfits)
    rw [routeOneBestValidatedChecked_ok router hmem hv, routeOneValidated, if_pos hk]
  · rw [if_neg hk]
    by_cases hdebug : router.debugObserved = true
    · refine ((BoundedTopK.new_raw request.k .available).bind ?_).congr (and_self_iff)
      rw [if_pos hdebug]
      exact (BoundedTopK.new_raw request.k .observed).bind_ok
        (routeOneValidatedChecked_debug hmem hv hk hdebug)
    · refine (BoundedTopK.new_raw request.k .available).bind_ok ?_
      rw [if_neg hdebug]
      exact routeOneValidatedChecked_plain hmem hv hk hdebug

end CpuRouter

/-! The blocked scan. -/

namespace ProductionAvailableAccumulator

def raw : ProductionAvailableAccumulator F → RawAvailableAccumulator F
  | .best winner => .best winner
  | .topK selection => .topK selection.raw

omit [F32 F] in
theorem new_raw (k : Nat) :
    Returns (RawAvailableAccumulator.new k) (CapacityFits k)
      (new k : ProductionAvailableAccumulator F).raw := by
  unfold RawAvailableAccumulator.new new
  by_cases hk : k = 1
  · rw [if_pos hk, if_pos hk]
    exact (Returns.of_ok rfl).congr (iff_of_true trivial (Or.inl (by rw [hk]; decide)))
  · rw [if_neg hk, if_neg hk]
    exact (BoundedTopK.new_raw k .available).bind_ok rfl

theorem push_raw (a : ProductionAvailableAccumulator F) (c : CompactCandidate F) :
    a.raw.push c = .ok (a.push c).raw := by
  cases a with
  | best winner => rfl
  | topK selection =>
    show (selection.raw.push c >>= fun selection => .ok (RawAvailableAccumulator.topK selection)) = _
    rw [selection.push_raw]
    rfl

theorem intoVec_raw (a : ProductionAvailableAccumulator F) : a.raw.intoVec = .ok a.intoVec := by
  cases a with
  | best winner => rfl
  | topK selection => exact selection.intoVec_raw

end ProductionAvailableAccumulator

namespace ProductionAccumulator

def raw (a : ProductionAccumulator F) : RawAccumulator F := ⟨a.observedBest, a.available.raw⟩

omit [F32 F] in
theorem new_raw (k : Nat) :
    Returns (RawAccumulator.new k) (CapacityFits k) (new k : ProductionAccumulator F).raw :=
  (ProductionAvailableAccumulator.new_raw k).bind_ok rfl

theorem push_raw (a : ProductionAccumulator F) (c : CompactCandidate F) :
    a.raw.push c = .ok (a.push c).raw := by
  unfold RawAccumulator.push push
  show ((if c.available then a.available.raw.push c else .ok a.available.raw) >>= fun available =>
    .ok (RawAccumulator.mk _ available)) = _
  split
  · rw [a.available.push_raw]
    rfl
  · rfl

theorem intoResult_raw (a : ProductionAccumulator F) (request : RoutingRequest F) :
    a.raw.intoResult request = .ok (a.intoResult request) := by
  show (a.available.raw.intoVec >>= fun candidates => .ok (finish request candidates _ none)) = _
  rw [a.available.intoVec_raw]
  rfl

end ProductionAccumulator

/-- One agent pushed into every request's accumulator. -/
theorem pushAgentToRequestBlock_raw {requests : List (RoutingRequest F)} {agentVector : List F}
    (hv : ∀ r ∈ requests, r.vector.length = agentVector.length)
    (accumulators : List (ProductionAccumulator F)) (agentId : Nat)
    (factors : RuntimeScoreFactors F) :
    pushAgentToRequestBlockChecked requests (accumulators.map ProductionAccumulator.raw) agentId
        agentVector factors =
      .ok ((pushAgentToRequestBlock requests accumulators agentId agentVector factors).map
        ProductionAccumulator.raw) := by
  unfold pushAgentToRequestBlockChecked pushAgentToRequestBlock
  rw [List.zip_map_right, ← List.map_uncurry_zip_eq_zipWith, List.map_map]
  apply Checked.mapM_map_ok
  intro pair hpair
  have hrequest := (List.of_mem_zip hpair).1
  dsimp only [Prod.map, id]
  rw [scoreWithFactorsChecked_ok (hv _ hrequest), Checked.ok_bind, pair.2.push_raw]
  rfl

/-- The blocked scan does not panic: its block ends, rows and states are in range. -/
theorem scanProductionRequestBlock_raw {requests : List (RoutingRequest F)}
    {accumulators : List (ProductionAccumulator F)} (hlen : requests.length = accumulators.length)
    (coefficients : ScoreCoefficients F) {b : ValidatedBatch F} (hmem : b.routeTable.InMemory)
    (hv : ∀ r ∈ requests, r.vector.length = b.routeTable.dimensions) :
    scanProductionRequestBlockChecked requests (accumulators.map ProductionAccumulator.raw)
        coefficients b.routeTable b.states =
      .ok ((scanProductionRequestBlock requests accumulators coefficients b).map
        ProductionAccumulator.raw) := by
  have hagent : ∀ accumulators : List (ProductionAccumulator F), ∀ index : Fin b.routeTable.len,
      (do
        let agentId ← b.routeTable.agentIdChecked index
        let agentVector ← b.routeTable.vectorChecked index
        let state ← Checked.read b.states index
        pushAgentToRequestBlockChecked requests (accumulators.map ProductionAccumulator.raw) agentId
          agentVector (.fromState state coefficients)) =
      (.ok ((pushAgentToRequestBlock requests accumulators (b.routeTable.agentId index)
        (b.routeTable.vector index) (.fromState (b.state index) coefficients)).map
          ProductionAccumulator.raw) : Checked (List (RawAccumulator F))) := by
    intro accumulators index
    have hstate : index.val < b.states.length := by
      rw [b.paired]
      exact index.isLt
    have hrow : ∀ r ∈ requests, r.vector.length = (b.routeTable.vector index).length := by
      intro r hr
      rw [b.routeTable.length_vector, hv r hr]
    rw [b.routeTable.agentIdChecked_ok, Checked.ok_bind, AgentRouteTable.vectorChecked_ok hmem,
      Checked.ok_bind, Checked.read_lt hstate, Checked.ok_bind, pushAgentToRequestBlock_raw hrow]
    rfl
  unfold scanProductionRequestBlockChecked
  rw [Checked.debugAssert_ok (decide_eq_true (by rw [List.length_map, hlen])), Checked.ok_bind]
  refine Checked.foldlM_ok (List.map ProductionAccumulator.raw) ?_ accumulators
  intro accumulators agentStart hstart
  -- a block starts below the table's length, far below the end of usize
  have hadd : agentStart + productionAgentBlock < 2 ^ 64 := by
    obtain ⟨i, hi, rfl⟩ := List.mem_map.mp hstart
    have hids := hmem.agentIds
    have hbelow : i * productionAgentBlock ≤ b.routeTable.agentIds.length :=
      mul_le_of_lt_divCeil (List.mem_range.mp hi)
    have hblock : productionAgentBlock = 256 := rfl
    omega
  rw [Checked.add_ok hadd, Checked.ok_bind]
  dsimp only
  rw [← map_val_block]
  exact Checked.foldlM_map_ok (List.map ProductionAccumulator.raw) Fin.val
    (fun accumulators index _ => hagent accumulators index) accumulators

namespace CpuRouter

/-- One block of requests returns exactly when every `k` fits. -/
theorem routeRequestBlockChecked_returns (router : CpuRouter F) {b : ValidatedBatch F}
    (hmem : b.routeTable.InMemory) {requestBlock : List (RoutingRequest F)}
    (hv : ∀ r ∈ requestBlock, r.vector.length = b.routeTable.dimensions) :
    Returns (router.routeRequestBlockChecked b requestBlock)
      (∀ r ∈ requestBlock, CapacityFits r.k)
      (List.zipWith (fun request accumulator => accumulator.intoResult request) requestBlock
        (scanProductionRequestBlock requestBlock
          (requestBlock.map fun request => ProductionAccumulator.new request.k)
          router.coefficients b)) := by
  have hnew : Returns (requestBlock.mapM fun request => RawAccumulator.new request.k)
      (∀ r ∈ requestBlock, CapacityFits r.k)
      (requestBlock.map fun request => (ProductionAccumulator.new (F := F) request.k).raw) :=
    Returns.mapM fun request _ => ProductionAccumulator.new_raw request.k
  refine hnew.bind_ok ?_
  have hraw : (requestBlock.map fun request => (ProductionAccumulator.new (F := F) request.k).raw) =
      (requestBlock.map fun request => ProductionAccumulator.new request.k).map
        ProductionAccumulator.raw := by
    rw [List.map_map]
    rfl
  rw [hraw, scanProductionRequestBlock_raw (List.length_map _).symm router.coefficients hmem hv,
    Checked.ok_bind, List.zip_map_right, ← List.map_uncurry_zip_eq_zipWith]
  apply Checked.mapM_map_ok
  intro pair _
  exact pair.2.intoResult_raw pair.1

/-- The blocked scan's entry: the reserved results, then the blocks. -/
theorem routeBatchValidatedProductionChecked_returns (router : CpuRouter F) {b : ValidatedBatch F}
    (hmem : b.routeTable.InMemory) {requests : List (RoutingRequest F)}
    (hv : ∀ r ∈ requests, r.vector.length = b.routeTable.dimensions) :
    Returns (router.routeBatchValidatedProductionChecked requests b)
      (requests.length * routingResultSize < 2 ^ 63 ∧ ∀ r ∈ requests, CapacityFits r.k)
      (router.routeBatchValidatedProduction requests b) := by
  have hmember : ∀ requestBlock ∈ chunks productionRequestBlock requests, ∀ r ∈ requestBlock,
      r ∈ requests := fun _ hblock _ hr => mem_of_mem_chunks hblock hr
  have hblocks : Returns ((chunks productionRequestBlock requests).mapM
      (router.routeRequestBlockChecked b))
      (∀ requestBlock ∈ chunks productionRequestBlock requests,
        ∀ r ∈ requestBlock, CapacityFits r.k) _ :=
    Returns.mapM fun requestBlock hblock =>
      router.routeRequestBlockChecked_returns hmem fun r hr => hv r (hmember _ hblock r hr)
  refine (Returns.withCapacity routingResultSize requests.length).bind ?_
  rw [Checked.chunks_ok (by decide), Checked.ok_bind]
  refine Returns.congr (hblocks.bind_ok ?_) (forall_mem_chunks (by decide))
  rw [List.nil_append, ← List.flatMap_def]
  rfl

/-- The results of a batch are reserved at once: by several workers, or by the blocked scan. -/
def ReservesResults (router : CpuRouter F) (b : ValidatedBatch F) (workerCount : Nat) : Prop :=
  workerCount ≠ 1 ∨ ¬ (router.debugObserved || b.routeTable.len < productionBlockedMinAgents) = true

/-- A worker's chunk returns exactly when every `k` fits, and the results where reserved. -/
theorem workerChunkChecked_returns (router : CpuRouter F) {b : ValidatedBatch F}
    (hmem : b.routeTable.InMemory) {requests : List (RoutingRequest F)}
    (hv : ∀ r ∈ requests, r.vector.length = b.routeTable.dimensions) :
    Returns (router.routeBatchValidatedWorkerChunkChecked requests b)
      ((∀ r ∈ requests, CapacityFits r.k) ∧
        (router.ReservesResults b 1 → requests.length * routingResultSize < 2 ^ 63))
      (router.routeBatchValidatedWorkerChunk requests b) := by
  unfold routeBatchValidatedWorkerChunkChecked
  by_cases hper : (router.debugObserved || b.routeTable.len < productionBlockedMinAgents) = true
  · have hfree : ¬ router.ReservesResults b 1 := by
      intro hreserves
      exact hreserves.elim (fun hone => hone rfl) fun hblocked => hblocked hper
    have hresult : ∀ request : RoutingRequest F, ∃ result,
        router.routeOneValidated request b = .ok result :=
      fun request => routeOneValidated_ok router request b
    choose result hresult using hresult
    have hchunk : router.routeBatchValidatedWorkerChunk requests b = .ok (requests.map result) := by
      rw [workerChunk_eq]
      exact mapM_ok fun request _ => hresult request
    rw [if_pos hper, hchunk]
    refine Returns.congr (Returns.collect fun request hr => ?_)
      (and_iff_left fun hreserves => absurd hreserves hfree).symm
    rw [← hresult request]
    exact router.routeOneValidatedChecked_returns hmem (hv request hr)
  · have hreserves : router.ReservesResults b 1 := Or.inr hper
    rw [if_neg hper, routeBatchValidatedWorkerChunk, if_neg hper]
    refine Returns.congr
      ((router.routeBatchValidatedProductionChecked_returns hmem hv).bind_ok rfl) ?_
    rw [and_comm, imp_iff_right hreserves]

/-- The threads return exactly when every `k` fits and the joined results do. -/
theorem routeBatchThreadsChecked_returns (router : CpuRouter F) {b : ValidatedBatch F}
    (hmem : b.routeTable.InMemory) {requests : List (RoutingRequest F)} (hne : requests ≠ [])
    (hv : ∀ r ∈ requests, r.vector.length = b.routeTable.dimensions) {workerCount : Nat}
    (hworkers : 0 < workerCount) :
    Returns (router.routeBatchThreadsChecked requests b workerCount)
      ((∀ r ∈ requests, CapacityFits r.k) ∧ requests.length * routingResultSize < 2 ^ 63)
      (((chunks (divCeil requests.length workerCount) requests).map fun chunk =>
        router.routeBatchValidatedWorkerChunk chunk b).foldlM
          (fun results chunkResults => return results ++ (← chunkResults)) []) := by
  have hsize : divCeil requests.length workerCount ≠ 0 := by
    intro hzero
    have hle := le_divCeil_mul hworkers requests.length
    rw [hzero, Nat.zero_mul] at hle
    exact hne (List.eq_nil_of_length_eq_zero (Nat.le_zero.mp hle))
  have hpartials : Returns ((chunks (divCeil requests.length workerCount) requests).mapM
      fun chunk => Checked.join (router.routeBatchValidatedWorkerChunkChecked chunk b))
      (∀ chunk ∈ chunks (divCeil requests.length workerCount) requests,
        (∀ r ∈ chunk, CapacityFits r.k) ∧
          (router.ReservesResults b 1 → chunk.length * routingResultSize < 2 ^ 63)) _ :=
    Returns.mapM fun chunk hchunk => Returns.join
      (router.workerChunkChecked_returns hmem fun r hr => hv r (mem_of_mem_chunks hchunk hr))
  unfold routeBatchThreadsChecked
  rw [Checked.divCeil_ok (by omega), Checked.ok_bind, Checked.chunks_ok hsize, Checked.ok_bind]
  refine Returns.congr (hpartials.bind ((Returns.withCapacity _ _).bind_ok rfl)) ?_
  refine ⟨?_, ?_⟩
  · intro ⟨hchunks, hresults⟩
    exact ⟨(forall_mem_chunks (Nat.pos_of_ne_zero hsize)).mp fun chunk hchunk => (hchunks chunk hchunk).1,
      hresults⟩
  · intro ⟨hall, hresults⟩
    refine ⟨fun chunk hchunk => ⟨fun r hr => hall r (mem_of_mem_chunks hchunk hr), fun _ => ?_⟩, hresults⟩
    -- a chunk is no longer than the batch
    have hle := length_le_of_mem_chunks hchunk
    exact Nat.lt_of_le_of_lt (Nat.mul_le_mul_right _ hle) hresults

theorem routeBatchWithWorkersChecked_returns {router : CpuRouter F}
    {states : List (AgentRuntimeState F)} {requests : List (RoutingRequest F)} {b : ValidatedBatch F}
    (hvalid : router.validateBatch requests states = .ok b) (hmem : b.routeTable.InMemory)
    (workers : Nat) :
    Returns (router.routeBatchWithWorkersChecked requests states workers)
      ((∀ r ∈ requests, CapacityFits r.k) ∧
        (router.ReservesResults b (min (max workers 1) requests.length) →
          requests.length * routingResultSize < 2 ^ 63))
      (router.routeBatchWithWorkers requests states workers) := by
  have hv := (validateBatch_ok hvalid).2.2
  unfold routeBatchWithWorkersChecked routeBatchWithWorkers
  by_cases hempty : requests = []
  · subst hempty
    refine (Returns.of_ok rfl).congr (iff_of_true trivial ⟨fun _ hr => (nomatch hr), fun _ => ?_⟩)
    exact Nat.two_pow_pos 63
  · have hisEmpty : ¬ requests.isEmpty = true := by
      rw [List.isEmpty_iff]
      exact hempty
    have hcount : 0 < min (max workers 1) requests.length := by
      have hlen := List.length_pos_iff.mpr hempty
      omega
    rw [if_neg hisEmpty, if_neg hisEmpty, hvalid]
    show Returns (if min (max workers 1) requests.length = 1 then _ else _) _
      (if min (max workers 1) requests.length = 1 then _ else _)
    by_cases hone : min (max workers 1) requests.length = 1
    · rw [if_pos hone, if_pos hone, hone]
      exact router.workerChunkChecked_returns hmem hv
    · rw [if_neg hone, if_neg hone]
      refine (router.routeBatchThreadsChecked_returns hmem hempty hv hcount).congr ?_
      rw [imp_iff_right (show router.ReservesResults b _ from Or.inl hone)]

/-- **When routing returns.** For a batch that is accepted, over a table in memory, routing one of
    its requests returns exactly when the request's `k` fits its storage: at most eight
    candidates, or a Vec of `k`. The batch returns exactly when all of them fit, and so do
    its results where they are reserved. No access is out of range, no unset slot is read. -/
theorem returns_normally_iff {router : CpuRouter F} {states : List (AgentRuntimeState F)}
    {requests : List (RoutingRequest F)} {b : ValidatedBatch F}
    (hvalid : router.validateBatch requests states = .ok b) (hmem : b.routeTable.InMemory)
    (workers : Nat) :
    (∀ request ∈ requests, (∃ r, router.routeOneChecked request states = .ok r) ↔
      CapacityFits request.k) ∧
    ((∃ r, router.routeBatchWithWorkersChecked requests states workers = .ok r) ↔
      (∀ request ∈ requests, CapacityFits request.k) ∧
        (router.ReservesResults b (min (max workers 1) requests.length) →
          requests.length * routingResultSize < 2 ^ 63)) := by
  refine ⟨?_, (routeBatchWithWorkersChecked_returns hvalid hmem workers).returns_iff⟩
  intro request hrequest
  have hv := (validateBatch_ok hvalid).2.2 request hrequest
  unfold routeOneChecked
  rw [validateRequest_of_batch hvalid hrequest]
  exact (router.routeOneValidatedChecked_returns hmem hv).returns_iff

end CpuRouter

end

/-- One agent without coordinates. -/
def lonelyTable : AgentRouteTable (WithTop Int) := ⟨[1], [], 0, rfl⟩

def lonelyRouter : CpuRouter (WithTop Int) := ⟨.ok lonelyTable, ⟨1, 1, 1⟩, true⟩

def lonelyStates : List (AgentRuntimeState (WithTop Int)) := [⟨0, 0, 0, 1⟩]

def lonelyBatch : ValidatedBatch (WithTop Int) := ⟨lonelyTable, lonelyStates, rfl⟩

def greedyRequest (k : Nat) : RoutingRequest (WithTop Int) := ⟨1, [], k, 99, 1⟩

theorem returns_normally_iff_nine :
    (∃ r, lonelyRouter.routeOneChecked (greedyRequest 9) lonelyStates = .ok r) ∧
    ∃ r, lonelyRouter.routeBatchWithWorkersChecked [greedyRequest 9] lonelyStates 4 = .ok r := by
  have hvalid : lonelyRouter.validateBatch [greedyRequest 9] lonelyStates = .ok lonelyBatch := rfl
  have hiff := CpuRouter.returns_normally_iff hvalid ⟨by decide, by decide⟩ 4
  have hfits : ∀ request ∈ [greedyRequest 9], CapacityFits request.k := by
    intro request hrequest
    rw [List.mem_singleton.mp hrequest]
    exact Or.inr (by decide)
  exact ⟨(hiff.1 _ List.mem_cons_self).mpr (hfits _ List.mem_cons_self),
    hiff.2.mpr ⟨hfits, fun _ => by decide⟩⟩

/-- A request for `usize::MAX` candidates is accepted and panics, alone and in a batch. -/
theorem greatest_k_panics :
    lonelyRouter.validateBatch [greedyRequest (2 ^ 64 - 1)] lonelyStates = .ok lonelyBatch ∧
    lonelyRouter.routeOneChecked (greedyRequest (2 ^ 64 - 1)) lonelyStates =
      .error .capacityOverflow ∧
    lonelyRouter.routeBatchWithWorkersChecked [greedyRequest (2 ^ 64 - 1)] lonelyStates 1 =
      .error .capacityOverflow ∧
    ¬ ∃ r, lonelyRouter.routeOneChecked (greedyRequest (2 ^ 64 - 1)) lonelyStates = .ok r := by
  have hone : lonelyRouter.routeOneChecked (greedyRequest (2 ^ 64 - 1)) lonelyStates =
      .error .capacityOverflow := rfl
  refine ⟨rfl, hone, rfl, ?_⟩
  intro ⟨r, hr⟩
  rw [hone] at hr
  cases hr

end QTom.Router
