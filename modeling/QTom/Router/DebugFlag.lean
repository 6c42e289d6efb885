import QTom.Router.RouteSpec
import QTom.Router.Slots

/- Routing with debug output and without. The two modes differ in how they find the
   nearest agent: with debug output it heads the observed selection, without it the
   first least candidate wins. A selection keeps ties in slot order, and a
   replacement may put a later candidate into an earlier slot, so between tied
   nearest agents of which one is available the flag can depend on the mode
   (`modes_agree`). Everything else is the same in both (`routeOneValidated_modes`). -/
namespace QTom.Router
open QTom.Lib
variable {F : Type}

def RoutingResult.withoutDebug (result : RoutingResult F) : RoutingResult F :=
  { result with debug := none }

/-! What is accepted. -/

/-- What `validate_request` asks: agents, of the request's dimension, and a state
for each. -/
structure Accepted (agents : List (AgentProfile F)) (states : List (AgentRuntimeState F))
    (request : RoutingRequest F) : Prop where
  nonempty : agents ≠ []
  paired : states.length = agents.length
  uniform : AgentRouteTable.Uniform request.vector.length agents

theorem foldlM_pushAgent_uniform {agents : List (AgentProfile F)} {t u : AgentRouteTable F}
    (h : agents.foldlM AgentRouteTable.pushAgent t = .ok u) :
    AgentRouteTable.Uniform t.dimensions agents := by
  induction agents generalizing t with
  | nil =>
    intro agent hagent
    cases hagent
  | cons first rest ih =>
    rw [List.foldlM_cons] at h
    by_cases hdim : first.vector.length ≠ t.dimensions
    · rw [AgentRouteTable.pushAgent, dif_pos hdim] at h
      cases h
    · rw [AgentRouteTable.pushAgent, dif_neg hdim] at h
      have hrest := ih h
      intro agent hagent
      rcases List.mem_cons.mp hagent with rfl | hagent
      · exact not_not.mp hdim
      · exact hrest agent hagent

theorem accepted_of_ok {agents : List (AgentProfile F)} {states : List (AgentRuntimeState F)}
    {request : RoutingRequest F} {coefficients : ScoreCoefficients F} {b : ValidatedBatch F}
    (h : (CpuRouter.new agents coefficients).validateRequest request states = .ok b) :
    Accepted agents states request := by
  obtain ⟨htable, hstates, hrequest⟩ := validateBatch_ok h
  have hdim := hrequest request List.mem_cons_self
  have hpaired := b.paired
  rw [hstates] at hpaired
  cases agents with
  | nil => cases h
  | cons first rest =>
    have huniform : AgentRouteTable.Uniform first.vector.length (first :: rest) :=
      foldlM_pushAgent_uniform htable
    have hexact := AgentRouteTable.fromAgents_uniform huniform (List.cons_ne_nil first rest)
    have hsame : AgentRouteTable.ofAgents _ _ huniform = b.routeTable :=
      Except.ok.inj (hexact.symm.trans htable)
    rw [← hsame] at hdim hpaired
    refine ⟨List.cons_ne_nil first rest, ?_, ?_⟩
    · rw [hpaired]
      exact List.length_map _
    · rw [hdim]
      exact huniform

section
variable [F32 F]

/-! The two modes over the scored agents. -/

/-- The available selection of either mode. -/
def availableSelection (k : Nat) (scored : List (CompactCandidate F)) :
    List (CompactCandidate F) :=
  if k = 1 then
    ((scored.filter RouteCandidate.available).foldl BestCandidate.push
      (.new .available true)).intoCandidate.toList
  else
    ((scored.filter RouteCandidate.available).foldl BoundedTopK.push (.new k .available)).intoVec

/-- The ideal flag of a mode. -/
def observedFlag (debugObserved : Bool) (k : Nat) (scored : List (CompactCandidate F)) : Bool :=
  if debugObserved = true ∧ k ≠ 1 then
    idealUnavailable (scored.foldl BoundedTopK.push (.new k .observed)).intoVec
  else
    (scored.foldl BestCandidate.push (.new .observed (0 < k))).idealCandidateUnavailable

theorem routeOneValidated_modes (router : CpuRouter F) (request : RoutingRequest F)
    (b : ValidatedBatch F) :
    (router.routeOneValidated request b).map RoutingResult.withoutDebug =
      .ok (finish request
        (availableSelection request.k (b.candidates request.vector router.coefficients))
        (observedFlag router.debugObserved request.k
          (b.candidates request.vector router.coefficients)) none) := by
  simp only [CpuRouter.routeOneValidated, CpuRouter.routeOneBestValidated, scanCandidates_eq,
    foldl_pushBoth, availableSelection, observedFlag]
  by_cases hk : request.k = 1
  · simp only [hk, if_true, ne_eq, not_true_eq_false, and_false, if_false]
    rfl
  · cases router.debugObserved with
    | true =>
      simp only [hk, if_false, if_true, ne_eq, not_false_eq_true, and_self]
      rfl
    | false =>
      simp only [hk, if_false, Bool.false_eq_true, false_and]
      rfl

/-- The two modes return the same error, or results that differ in `debug` at most. -/
def ModesAgree (agents : List (AgentProfile F)) (states : List (AgentRuntimeState F))
    (coefficients : ScoreCoefficients F) (request : RoutingRequest F) : Prop :=
  (((CpuRouter.new agents coefficients).withDebugObserved true).routeOne request states).map
      RoutingResult.withoutDebug =
    (((CpuRouter.new agents coefficients).withDebugObserved false).routeOne request states).map
      RoutingResult.withoutDebug

variable {agents : List (AgentProfile F)} {states : List (AgentRuntimeState F)}
  {request : RoutingRequest F} {coefficients : ScoreCoefficients F}

/-- Validation does not look at the mode. -/
theorem routeOne_mode (debugObserved : Bool) :
    ((CpuRouter.new agents coefficients).withDebugObserved debugObserved).routeOne request states =
      (do
        let b ← (CpuRouter.new agents coefficients).validateRequest request states
        ((CpuRouter.new agents coefficients).withDebugObserved debugObserved).routeOneValidated
          request b) := rfl

theorem modesAgree_of_rejected (h : ¬ Accepted agents states request) :
    ModesAgree agents states coefficients request := by
  rw [ModesAgree, routeOne_mode, routeOne_mode]
  cases hvalid : (CpuRouter.new agents coefficients).validateRequest request states with
  | error e => rfl
  | ok b => exact absurd (accepted_of_ok hvalid) h

/-- Accepted, the modes agree when they find the same ideal flag. -/
theorem modesAgree_iff_flags (h : Accepted agents states request) :
    ModesAgree agents states coefficients request ↔
      observedFlag true request.k (scoredAgents agents states request coefficients) =
        observedFlag false request.k (scoredAgents agents states request coefficients) := by
  have hvalid : (CpuRouter.new agents coefficients).validateRequest request states =
      .ok (batchOf h.uniform h.paired) := by
    apply validateBatch_uniform h.uniform h.nonempty h.paired _ coefficients true
    intro r hr
    rw [List.mem_singleton.mp hr]
  rw [ModesAgree, routeOne_mode, routeOne_mode, hvalid]
  show (CpuRouter.routeOneValidated _ request (batchOf h.uniform h.paired)).map _ =
    (CpuRouter.routeOneValidated _ request (batchOf h.uniform h.paired)).map _ ↔ _
  rw [routeOneValidated_modes, routeOneValidated_modes]
  show Except.ok (finish request (availableSelection request.k
      ((batchOf h.uniform h.paired).candidates request.vector coefficients))
      (observedFlag true request.k
        ((batchOf h.uniform h.paired).candidates request.vector coefficients)) none) =
    Except.ok (finish request (availableSelection request.k
      ((batchOf h.uniform h.paired).candidates request.vector coefficients))
      (observedFlag false request.k
        ((batchOf h.uniform h.paired).candidates request.vector coefficients)) none) ↔ _
  rw [candidates_batchOf h.uniform h.paired, Except.ok.injEq]
  refine ⟨fun heq => congrArg RoutingResult.idealCandidateUnavailable heq, ?_⟩
  intro hflag
  rw [hflag]

/-! The flag of each mode. -/

section Flags
variable [Std.TransCmp (F32.totalCmp (F := F))] {k : Nat} {scored : List (CompactCandidate F)}

/-- An enabled winner is the first of the least candidates. -/
theorem BestCandidate.run_firstLeast {b : BestCandidate F} (ht : b.trackIdeal = true)
    {seen : List (CompactCandidate F)} {best : CompactCandidate F} (hb : b.best = some best)
    (hfirst : FirstLeast (compareCandidate b.sort) seen best) (xs : List (CompactCandidate F)) :
    ∃ last, (xs.foldl push b).best = some last ∧
      FirstLeast (compareCandidate b.sort) (seen ++ xs) last := by
  induction xs generalizing b seen best with
  | nil => exact ⟨best, hb, by rw [List.append_nil]; exact hfirst⟩
  | cons x xs ih =>
    have ht' := (b.push_trackIdeal x).trans ht
    have hsort := b.push_sort x
    rw [List.foldl_cons, ← hsort, show seen ++ x :: xs = (seen ++ [x]) ++ xs by simp]
    by_cases hlt : compareCandidate b.sort x best = .lt
    · have hbest : (b.push x).best = some x := by rw [push_better ht hb hlt]
      exact ih ht' hbest (by rw [hsort]; exact hfirst.trade hlt)
    · have hbest : (b.push x).best = some best := by rw [push_worse hb hlt, hb]
      exact ih ht' hbest (by rw [hsort]; exact hfirst.keep (isLE_of_not_lt hlt))

/-- Without debug output the flag is the first least candidate's. -/
theorem observedFlag_false (hk : k ≠ 0) {best : CompactCandidate F}
    (hbest : FirstLeast (compareCandidate .observed) scored best) :
    observedFlag false k scored = !best.available := by
  cases scored with
  | nil =>
    obtain ⟨before, after, hnil, _⟩ := hbest
    cases before <;> cases hnil
  | cons c cs =>
    have hstart : FirstLeast (compareCandidate .observed) [c] c :=
      FirstLeast.head fun _ hb => (nomatch hb)
    obtain ⟨last, hlast, hfirst⟩ := BestCandidate.run_firstLeast
      (b := BestCandidate.push (.new .observed true) c) rfl rfl hstart cs
    rw [observedFlag, if_neg (by simp), decide_eq_true (Nat.pos_of_ne_zero hk),
      BestCandidate.idealCandidateUnavailable, List.foldl_cons, hlast, hbest.unique hfirst]
    rfl

/-- With debug output it is the one of the first least candidate of the slots. -/
theorem observedFlag_true (hk : k ≠ 1) {best : CompactCandidate F}
    (hbest : FirstLeast (compareCandidate .observed)
      (scored.foldl BoundedTopK.push (.new k .observed)).storage.intoVec best) :
    observedFlag true k scored = !best.available := by
  have hne : (scored.foldl BoundedTopK.push (.new k .observed)).storage.intoVec ≠ [] :=
    List.ne_nil_of_mem hbest.mem
  obtain ⟨first, hhead, hfirst⟩ := head?_sortBy_firstLeast (compareCandidate .observed) hne
  rw [observedFlag, if_pos ⟨rfl, hk⟩, idealUnavailable, BoundedTopK.intoVec,
    (BoundedTopK.run_fields _ scored).2]
  show ((sortBy (compareCandidate .observed) _).head?.map _).getD false = _
  rw [hhead, hbest.unique hfirst]
  rfl

/-- The slots hold candidates of the stream. -/
theorem mem_of_slots {a : CompactCandidate F}
    (ha : a ∈ (scored.foldl BoundedTopK.push (.new k .observed)).storage.intoVec) : a ∈ scored := by
  obtain ⟨_, _, rest, hrun⟩ := BoundedTopK.run_holds (BoundedTopK.new_holds k .observed) scored
  exact hrun.selection.perm.mem_iff.mp (List.mem_append_left rest ha)

/-- A least one of the slots is a least one of the stream. -/
theorem least_of_slots {a : CompactCandidate F}
    (ha : a ∈ (scored.foldl BoundedTopK.push (.new k .observed)).storage.intoVec)
    (hle : ∀ b ∈ (scored.foldl BoundedTopK.push (.new k .observed)).storage.intoVec,
      (compareCandidate .observed a b).isLE = true) :
    ∀ b ∈ scored, (compareCandidate .observed a b).isLE = true := by
  obtain ⟨_, hsort, rest, hrun⟩ := BoundedTopK.run_holds
    (BoundedTopK.new_holds k .observed) scored
  have hsel := hrun.selection
  rw [hsort] at hsel
  intro b hb
  rcases List.mem_append.mp (hsel.perm.mem_iff.mpr hb) with hb | hb
  · exact hle b hb
  · exact hsel.least a ha b hb

/-- The two modes find the same flag in whatever order the candidates come. -/
def FlagOrderFree (k : Nat) (scored : List (CompactCandidate F)) : Prop :=
  k ≤ 1 ∨ scored.length ≤ k ∨
    (∀ a ∈ scored, ∀ b ∈ scored, compareCandidate .observed a b = .eq) ∨
    ∀ a ∈ scored, ∀ b ∈ scored, (∀ c ∈ scored, (compareCandidate .observed a c).isLE = true) →
      (∀ c ∈ scored, (compareCandidate .observed b c).isLE = true) → a.available = b.available

theorem slots_ne_nil (hk : k ≠ 0) (hne : scored ≠ []) :
    (scored.foldl BoundedTopK.push (.new k .observed)).storage.intoVec ≠ [] := by
  obtain ⟨hk', _, rest, hrun⟩ := BoundedTopK.run_holds (BoundedTopK.new_holds k .observed) scored
  have hsel := hrun.selection
  intro hnil
  rw [hnil, hk'] at hsel
  have hrest : rest ≠ [] := by
    intro hrest
    have hperm := hsel.perm
    rw [hrest] at hperm
    exact hne hperm.nil_eq.symm
  exact hk (hsel.full hrest).symm

/-- The nearest candidates behind the first `k` that a selection of `k` has a slot for. -/
def lateNearest (k : Nat) (scored : List (CompactCandidate F)) : List (CompactCandidate F) :=
  ((scored.drop k).filter (isLeast (compareCandidate .observed) scored)).take
    (k - (scored.take k).countP (isLeast (compareCandidate .observed) scored))

/-- Candidates in an order that leaves the flag alone: the first one is a nearest one, or those
of the nearest that may overtake another are available as the first of them is. -/
def FlagKept (k : Nat) (scored : List (CompactCandidate F)) : Prop :=
  k ≤ 1 ∨
    (∃ first, scored.head? = some first ∧
      isLeast (compareCandidate .observed) scored first = true) ∨
    ∀ first, scored.find? (isLeast (compareCandidate .observed) scored) = some first →
      ∀ c ∈ lateNearest k scored, c.available = first.available

omit [Std.TransCmp (F32.totalCmp (F := F))] in
/-- Every order is such an order in the order-free cases. -/
theorem FlagOrderFree.kept (h : FlagOrderFree k scored) : FlagKept k scored := by
  rcases h with hsmall | hroom | htie | hsame
  · exact Or.inl hsmall
  · refine Or.inr (Or.inr ?_)
    intro first _ c hc
    rw [lateNearest, List.drop_eq_nil_of_le hroom, List.filter_nil, List.take_nil] at hc
    cases hc
  · cases scored with
    | nil => exact Or.inr (Or.inr fun _ hfirst => (nomatch hfirst))
    | cons c cs =>
      refine Or.inr (Or.inl ⟨c, rfl, isLeast_iff.mpr fun b hb => ?_⟩)
      rw [htie c List.mem_cons_self b hb]
      rfl
  · refine Or.inr (Or.inr ?_)
    intro first hfirst c hc
    obtain ⟨hdrop, hnear⟩ := List.mem_filter.mp (List.mem_of_mem_take hc)
    exact hsame c (List.mem_of_mem_drop hdrop) first (List.mem_of_find?_eq_some hfirst)
      (isLeast_iff.mp hnear) (isLeast_iff.mp (List.find?_some hfirst))

/-- A nearest candidate stands in the slots where it stood among the first `k`, or came later. -/
theorem slots_nearest {i : Nat} {c : CompactCandidate F}
    (hslot : (scored.foldl BoundedTopK.push (.new k .observed)).storage.intoVec[i]? = some c)
    (hnear : isLeast (compareCandidate .observed) scored c = true) :
    (scored.take k)[i]? = some c ∨ c ∈ lateNearest k scored := by
  by_cases hlen : scored.length ≤ k
  · rw [BoundedTopK.run_new .observed hlen] at hslot
    rw [List.take_of_length_le hlen]
    exact Or.inl hslot
  · have hfilled : (scored.take k).length = k := by
      rw [List.length_take]
      omega
    have hvec := BoundedTopK.run_new .observed (Nat.le_of_eq hfilled)
    obtain ⟨hk, hsort, rest, hholds⟩ :=
      BoundedTopK.run_holds (BoundedTopK.new_holds k .observed) (scored.take k)
    have hfull : ¬ ((scored.take k).foldl BoundedTopK.push (.new k .observed)).len <
        ((scored.take k).foldl BoundedTopK.push (.new k .observed)).k := by
      rw [BoundedTopK.len, ← TopKStorage.length_intoVec, hvec, hfilled, hk]
      exact Nat.lt_irrefl k
    rw [← List.take_append_drop k scored, List.foldl_append] at hslot
    have hplace := BoundedTopK.run_nearest hholds hsort hfull
      (fun x hx => List.mem_of_mem_drop hx) hslot hnear
    rw [hvec, hfilled] at hplace
    exact hplace

/-- A nearest candidate among the first `k` keeps its slot. -/
theorem slots_keep {i : Nat} {c : CompactCandidate F} (hc : (scored.take k)[i]? = some c)
    (hnear : isLeast (compareCandidate .observed) scored c = true) :
    (scored.foldl BoundedTopK.push (.new k .observed)).storage.intoVec[i]? = some c := by
  rw [← List.take_append_drop k scored, List.foldl_append]
  apply BoundedTopK.run_keeps
  · rw [BoundedTopK.run_new .observed (List.length_take_le k scored)]
    exact hc
  · intro x hx
    rw [(BoundedTopK.run_fields _ _).2]
    exact not_lt_of_isLE (isLeast_iff.mp hnear x (List.mem_of_mem_drop hx))

/-- The first nearest of the slots is the first nearest of all, or came later. -/
theorem first_of_slots {first best : CompactCandidate F}
    (hfirst : FirstLeast (compareCandidate .observed)
      (scored.foldl BoundedTopK.push (.new k .observed)).storage.intoVec first)
    (hbest : FirstLeast (compareCandidate .observed) scored best) :
    first = best ∨ first ∈ lateNearest k scored := by
  have hleast := least_of_slots hfirst.mem hfirst.least
  obtain ⟨i, hi, hearliest⟩ := hfirst.position
  obtain ⟨p, hp, hbefore⟩ := hbest.position
  rcases slots_nearest hi (isLeast_iff.mpr hleast) with hearly | hlate
  · rw [List.getElem?_take] at hearly
    split at hearly
    · rename_i hik
      -- the best stands no later, so it is among the first `k` too and keeps its slot
      have hpi : p ≤ i := hbefore i first hearly (not_lt_of_isLE (hleast best hbest.mem))
      have hpk : (scored.take k)[p]? = some best := by
        rw [List.getElem?_take, if_pos (by omega)]
        exact hp
      have hkept := slots_keep hpk (isLeast_iff.mpr hbest.least)
      have hip := hearliest p best hkept
        (not_lt_of_isLE (hbest.least first (mem_of_slots hfirst.mem)))
      obtain rfl := Nat.le_antisymm hpi hip
      rw [hi] at hkept
      exact Or.inl (Option.some.inj hkept)
    · cases hearly
  · exact Or.inr hlate

/-- In such an order the flag does not depend on the mode. -/
theorem flags_eq (h : FlagKept k scored) :
    observedFlag true k scored = observedFlag false k scored := by
  by_cases hone : k = 1
  · rw [observedFlag, observedFlag, if_neg fun hd => hd.2 hone, if_neg fun hd => hd.2 hone]
  by_cases hzero : k = 0
  · subst hzero
    have hkept : (scored.foldl BoundedTopK.push (.new 0 .observed)).storage.intoVec = [] :=
      BoundedTopK.run_take 0 .observed fun x _ a ha => (nomatch ha)
    rw [observedFlag, if_pos ⟨rfl, hone⟩, observedFlag, if_neg (by simp),
      BoundedTopK.intoVec, hkept]
    show false = (scored.foldl BestCandidate.push (.new .observed false)).idealCandidateUnavailable
    rw [BestCandidate.idealCandidateUnavailable, BestCandidate.best_disabled]
    rfl
  by_cases hne : scored = []
  · subst hne
    rw [observedFlag, if_pos ⟨rfl, hone⟩, observedFlag, if_neg (by simp), BoundedTopK.intoVec,
      List.foldl_nil, show (BoundedTopK.new k .observed : BoundedTopK F).storage.intoVec = [] from
        TopKStorage.intoVec_new k]
    rfl
  obtain ⟨first, _, hfirst⟩ :=
    head?_sortBy_firstLeast (compareCandidate .observed) (slots_ne_nil hzero hne)
  obtain ⟨best, _, hbest⟩ := head?_sortBy_firstLeast (compareCandidate .observed) hne
  rw [observedFlag_true hone hfirst, observedFlag_false hzero hbest]
  rcases h with hsmall | ⟨head, hhead, hnearest⟩ | hlate
  · omega
  · -- the first of all is first in the slots too
    have hstart : (scored.take k)[0]? = some head := by
      rw [List.getElem?_take, if_pos (Nat.pos_of_ne_zero hzero), ← List.head?_eq_getElem?]
      exact hhead
    have hkept := slots_keep hstart hnearest
    have hleast := isLeast_iff.mp hnearest
    have hhead_first : ∀ xs : List (CompactCandidate F), (∀ b ∈ xs, b ∈ scored) →
        xs[0]? = some head → FirstLeast (compareCandidate .observed) xs head := by
      intro xs hxs hx
      cases xs with
      | nil => cases hx
      | cons c cs =>
        obtain rfl := Option.some.inj hx
        exact FirstLeast.head fun b hb => hleast b (hxs b (List.mem_cons_of_mem c hb))
    rw [hfirst.unique (hhead_first _ (fun b hb => mem_of_slots hb) hkept),
      hbest.unique (hhead_first scored (fun b hb => hb) (by rw [← List.head?_eq_getElem?]; exact hhead))]
  · rcases first_of_slots hfirst hbest with rfl | hmem
    · rfl
    · rw [hlate best hbest.find? first hmem]

/-- A greatest candidate first, then a nearest one, `k - 2` others, and then a nearest
one of the other availability, which takes the first slot. -/
theorem flags_ne {w a b : CompactCandidate F} {filling rest : List (CompactCandidate F)}
    (hk : filling.length + 2 = k) (hscored : scored = w :: (a :: filling) ++ b :: rest)
    (hmax : ∀ c ∈ scored, (compareCandidate .observed c w).isLE = true)
    (ha : ∀ c ∈ scored, (compareCandidate .observed a c).isLE = true)
    (hb : ∀ c ∈ scored, (compareCandidate .observed b c).isLE = true)
    (haw : compareCandidate .observed a w = .lt) (hdiff : a.available ≠ b.available) :
    observedFlag true k scored ≠ observedFlag false k scored := by
  have hmem : ∀ c, c ∈ scored ↔ c ∈ w :: (a :: filling) ++ b :: rest := by
    intro c
    rw [hscored]
  have hbw : compareCandidate .observed b w = .lt := by
    have hba := hb a ((hmem a).mpr (by simp))
    exact Std.TransCmp.lt_of_isLE_of_lt hba haw
  have hslot : (scored.foldl BoundedTopK.push (.new k .observed)).storage.intoVec[0]? = some b := by
    rw [hscored]
    apply BoundedTopK.head_of_overtaking (by rw [List.length_cons]; omega) ?_ hbw
    · intro c hc hlt
      have hle := hb c ((hmem c).mpr (by simp [hc]))
      rw [cmp_swap (compareCandidate .observed), hlt] at hle
      cases hle
    · intro c hc
      exact Ordering.isLE_iff_ne_gt.mp
        (hmax c ((hmem c).mpr (List.mem_append_left _ (List.mem_cons_of_mem w hc))))
  have hon : FirstLeast (compareCandidate .observed)
      (scored.foldl BoundedTopK.push (.new k .observed)).storage.intoVec b := by
    have hin : ∀ c ∈ (scored.foldl BoundedTopK.push (.new k .observed)).storage.intoVec,
        c ∈ scored := fun c => mem_of_slots
    cases hslots : (scored.foldl BoundedTopK.push (.new k .observed)).storage.intoVec with
    | nil =>
      rw [hslots] at hslot
      cases hslot
    | cons first others =>
      rw [hslots] at hslot hin
      obtain rfl := Option.some.inj hslot
      exact FirstLeast.head fun c hc => hb c (hin c (List.mem_cons_of_mem _ hc))
  have hoff : FirstLeast (compareCandidate .observed) scored a := by
    refine ⟨[w], filling ++ b :: rest, by rw [hscored]; simp, ?_, ?_⟩
    · intro c hc
      rw [List.mem_singleton.mp hc]
      exact haw
    · intro c hc
      exact ha c ((hmem c).mpr (List.mem_cons_of_mem w (List.mem_cons_of_mem a hc)))
  rw [observedFlag_true (by omega) hon, observedFlag_false (by omega) hoff]
  intro heq
  exact hdiff (Bool.not_inj heq).symm

/-- Distinct entries of a list can be put first. -/
theorem exists_perm_append {α : Type} {first xs : List α} (hnodup : first.Nodup)
    (h : ∀ x ∈ first, x ∈ xs) : ∃ others, xs.Perm (first ++ others) := by
  obtain ⟨ys, hys, hsub⟩ := List.subperm_of_subset hnodup h
  obtain ⟨others, hperm⟩ := hsub.exists_perm_append
  exact ⟨others, hperm.trans (hys.append_right others)⟩

/-- `b` is put behind the first `m` of the others. -/
theorem perm_moved {α : Type} (w a b : α) (others : List α) (m : Nat) :
    (w :: (a :: others.take m) ++ b :: others.drop m).Perm (w :: a :: b :: others) := by
  show (w :: a :: (others.take m ++ b :: others.drop m)).Perm _
  apply List.Perm.cons
  apply List.Perm.cons
  refine List.perm_middle.trans ?_
  rw [List.take_append_drop]

/-- Not all tie, so the least are below the greatest. -/
theorem least_lt_greatest {xs : List (CompactCandidate F)} {a w : CompactCandidate F}
    (htie : ¬ ∀ c ∈ xs, ∀ d ∈ xs, compareCandidate .observed c d = .eq)
    (hmax : ∀ c ∈ xs, (compareCandidate .observed c w).isLE = true)
    (ha : ∀ c ∈ xs, (compareCandidate .observed a c).isLE = true)
    (hle : (compareCandidate .observed a w).isLE = true) :
    compareCandidate .observed a w = .lt := by
  rcases Ordering.isLE_iff_eq_lt_or_eq_eq.mp hle with hlt | heq
  · exact hlt
  · refine absurd ?_ htie
    intro c hc d hd
    have hwa : (compareCandidate .observed w a).isLE = true := by
      rw [cmp_swap (compareCandidate .observed), heq]
      rfl
    have hbelow : ∀ c ∈ xs, ∀ d ∈ xs, (compareCandidate .observed c d).isLE = true :=
      fun c hc d hd => Std.TransCmp.isLE_trans (hmax c hc) (Std.TransCmp.isLE_trans hwa (ha d hd))
    exact Std.OrientedCmp.isLE_antisymm (hbelow c hc d hd) (hbelow d hd c hc)

/-- Otherwise some order of the candidates' sources makes the flag depend on the mode. -/
theorem exists_order {ρ : Type} {rows : List ρ} {score : ρ → CompactCandidate F}
    (h : ¬ FlagOrderFree k (rows.map score)) :
    ∃ rows' : List ρ, rows'.Perm rows ∧
      observedFlag true k (rows'.map score) ≠ observedFlag false k (rows'.map score) := by
  simp only [FlagOrderFree, not_or] at h
  obtain ⟨hk, hlen, htie, hsame⟩ := h
  simp only [not_forall] at hsame
  obtain ⟨a, hamem, b, hbmem, ha, hb, hdiff⟩ := hsame
  obtain ⟨w, hw⟩ := Option.isSome_iff_exists.mp
    (maxBy_isSome (compareCandidate .observed) (List.ne_nil_of_mem hamem))
  obtain ⟨hwmem, hmax⟩ := maxBy_spec hw
  have haw := least_lt_greatest htie hmax ha (ha w hwmem)
  have hbw := least_lt_greatest htie hmax hb (hb w hwmem)
  -- the three are different rows
  have hirrefl : ∀ c : CompactCandidate F, compareCandidate .observed c c ≠ .lt := by
    intro c hlt
    have heq : compareCandidate .observed c c = .eq := Std.ReflCmp.compare_self
    rw [heq] at hlt
    cases hlt
  obtain ⟨rw', hrw, rfl⟩ := List.mem_map.mp hwmem
  obtain ⟨ra, hra, rfl⟩ := List.mem_map.mp hamem
  obtain ⟨rb, hrb, rfl⟩ := List.mem_map.mp hbmem
  have hnodup : [rw', ra, rb].Nodup := by
    have hwa : rw' ≠ ra := fun heq => hirrefl _ (heq ▸ haw)
    have hwb : rw' ≠ rb := fun heq => hirrefl _ (heq ▸ hbw)
    have hab : ra ≠ rb := fun heq => hdiff (by rw [heq])
    simp [hwa, hwb, hab]
  have hrows : ∀ r ∈ [rw', ra, rb], r ∈ rows := by simp [hrw, hra, hrb]
  obtain ⟨others, hperm⟩ := exists_perm_append hnodup hrows
  have hlen' : k < others.length + 3 := by
    have hcount := hperm.length_eq
    rw [List.length_map] at hlen
    simp only [List.length_append, List.length_cons, List.length_nil] at hcount
    omega
  have horder := (perm_moved rw' ra rb others (k - 2)).trans hperm.symm
  refine ⟨_, horder, ?_⟩
  have hmem := fun c => (horder.map score).mem_iff (a := c)
  have hmap : (rw' :: (ra :: others.take (k - 2)) ++ rb :: others.drop (k - 2)).map score =
      score rw' :: (score ra :: (others.take (k - 2)).map score) ++
        score rb :: (others.drop (k - 2)).map score := by simp
  refine flags_ne ?_ hmap (fun c hc => hmax c ((hmem c).mp hc))
    (fun c hc => ha c ((hmem c).mp hc)) (fun c hc => hb c ((hmem c).mp hc)) haw hdiff
  rw [List.length_map, List.length_take]
  omega

end Flags

/-! Orders of the agents. -/

/-- The same agents, each with its state, in another order. -/
structure Reordered (agents : List (AgentProfile F)) (states : List (AgentRuntimeState F))
    (agents' : List (AgentProfile F)) (states' : List (AgentRuntimeState F)) : Prop where
  agentCount : agents'.length = agents.length
  stateCount : states'.length = states.length
  rows : (agents'.zip states').Perm (agents.zip states)

theorem scoredAgents_zip (agents : List (AgentProfile F)) (states : List (AgentRuntimeState F)) :
    scoredAgents agents states request coefficients = (agents.zip states).map fun row =>
      scoreCompactCandidate request.vector coefficients row.1.id row.1.vector row.2 := by
  rw [scoredAgents, ← List.map_uncurry_zip_eq_zipWith]
  rfl

omit [F32 F] in
theorem Reordered.symm {agents' : List (AgentProfile F)} {states' : List (AgentRuntimeState F)}
    (h : Reordered agents states agents' states') : Reordered agents' states' agents states :=
  ⟨h.agentCount.symm, h.stateCount.symm, h.rows.symm⟩

omit [F32 F] in
/-- What is accepted does not depend on the order. -/
theorem Reordered.accepted {agents' : List (AgentProfile F)} {states' : List (AgentRuntimeState F)}
    (h : Reordered agents states agents' states') (haccepted : Accepted agents' states' request) :
    Accepted agents states request := by
  have hpaired : states.length = agents.length := by
    rw [← h.stateCount, ← h.agentCount]
    exact haccepted.paired
  have hagents : agents'.Perm agents := by
    have hperm := h.rows.map Prod.fst
    rw [List.map_fst_zip (Nat.le_of_eq haccepted.paired.symm),
      List.map_fst_zip (Nat.le_of_eq hpaired.symm)] at hperm
    exact hperm
  refine ⟨?_, hpaired, ?_⟩
  · intro hnil
    rw [hnil] at hagents
    exact haccepted.nonempty hagents.eq_nil
  · intro agent hagent
    exact haccepted.uniform agent (hagents.mem_iff.mpr hagent)

theorem FlagOrderFree.reorder {k : Nat} {scored scored' : List (CompactCandidate F)}
    (h : FlagOrderFree k scored) (hperm : scored'.Perm scored) : FlagOrderFree k scored' := by
  rcases h with hk | hlen | htie | hsame
  · exact Or.inl hk
  · exact Or.inr (Or.inl (by rw [hperm.length_eq]; exact hlen))
  · refine Or.inr (Or.inr (Or.inl ?_))
    intro a ha b hb
    exact htie a (hperm.mem_iff.mp ha) b (hperm.mem_iff.mp hb)
  · refine Or.inr (Or.inr (Or.inr ?_))
    intro a ha b hb hle hle'
    exact hsame a (hperm.mem_iff.mp ha) b (hperm.mem_iff.mp hb)
      (fun c hc => hle c (hperm.mem_iff.mpr hc)) fun c hc => hle' c (hperm.mem_iff.mpr hc)

variable [Std.TransCmp (F32.totalCmp (F := F))]

/-- The modes agree in an order that leaves the flag alone. -/
theorem modesAgree_of_kept (h : Accepted agents states request →
    FlagKept request.k (scoredAgents agents states request coefficients)) :
    ModesAgree agents states coefficients request := by
  by_cases haccepted : Accepted agents states request
  · rw [modesAgree_iff_flags haccepted]
    exact flags_eq (h haccepted)
  · exact modesAgree_of_rejected haccepted

/-- They agree in every order exactly in the order-free cases. -/
theorem modesAgree_reordered_iff :
    (∀ agents' states', Reordered agents states agents' states' →
      ModesAgree agents' states' coefficients request) ↔
    (Accepted agents states request →
      FlagOrderFree request.k (scoredAgents agents states request coefficients)) := by
  refine ⟨?_, ?_⟩
  · intro hagree haccepted
    by_contra hfree
    rw [scoredAgents_zip] at hfree
    obtain ⟨rows, hrows, hflags⟩ := exists_order hfree
    have hlength : rows.length = agents.length := by
      rw [hrows.length_eq, List.length_zip, haccepted.paired, Nat.min_self]
    have hzip : (rows.map Prod.fst).zip (rows.map Prod.snd) = rows := by
      rw [List.zip_map']
      exact List.map_id rows
    have hreordered : Reordered agents states (rows.map Prod.fst) (rows.map Prod.snd) := by
      refine ⟨?_, ?_, ?_⟩
      · rw [List.length_map, hlength]
      · rw [List.length_map, hlength, haccepted.paired]
      · rw [hzip]
        exact hrows
    have haccepted' := hreordered.symm.accepted haccepted
    have hsame := (modesAgree_iff_flags haccepted').mp (hagree _ _ hreordered)
    rw [scoredAgents_zip, hzip] at hsame
    exact hflags hsame
  · intro hfree agents' states' hreordered
    apply modesAgree_of_kept
    intro haccepted
    have hfree' := hfree (hreordered.accepted haccepted)
    rw [scoredAgents_zip] at hfree' ⊢
    exact (hfree'.reorder (hreordered.rows.map _)).kept

/-- Debug output changes nothing else if the call is rejected, or the first agent is one of the
nearest, or those of the nearest that come behind the first `k` and still find a slot are
available as the first of them is. It does so whatever the order of the agents exactly when
the call is rejected, or `k` is at most 1 or reaches the agents, or all agents tie, or the
nearest ones that tie are all available or all not. -/
theorem modes_agree (agents : List (AgentProfile F)) (states : List (AgentRuntimeState F))
    (coefficients : ScoreCoefficients F) (request : RoutingRequest F) :
    ((Accepted agents states request →
        FlagKept request.k (scoredAgents agents states request coefficients)) →
      ModesAgree agents states coefficients request) ∧
    ((∀ agents' states', Reordered agents states agents' states' →
        ModesAgree agents' states' coefficients request) ↔
      (Accepted agents states request →
        FlagOrderFree request.k (scoredAgents agents states request coefficients))) :=
  ⟨modesAgree_of_kept, modesAgree_reordered_iff⟩

omit [F32 F] [Std.TransCmp (F32.totalCmp (F := F))] in
theorem flag_withoutDebug (result : Except RouteError (RoutingResult F)) :
    (result.map RoutingResult.withoutDebug).map RoutingResult.idealCandidateUnavailable =
      result.map RoutingResult.idealCandidateUnavailable := by
  cases result <;> rfl

/-- Two agents of one id and place, one of them unavailable, behind a farther one. -/
def twinAgents : List (AgentProfile (WithTop Int)) :=
  [⟨5, [1], ⟨0, 0, 0, 0, 0, 0⟩⟩, ⟨1, [0], ⟨0, 0, 0, 0, 0, 0⟩⟩, ⟨1, [0], ⟨0, 0, 0, 0, 0, 0⟩⟩]

def twinStates : List (AgentRuntimeState (WithTop Int)) :=
  [⟨0, 0, 0, 1⟩, ⟨0, 0, 0, 0⟩, ⟨0, 0, 0, 1⟩]

def twinRequest (k : Nat) : RoutingRequest (WithTop Int) := ⟨1, [0], k, 99, 1⟩

/-- In this order the twins keep the first two slots. -/
def twinsFirstAgents : List (AgentProfile (WithTop Int)) :=
  [⟨1, [0], ⟨0, 0, 0, 0, 0, 0⟩⟩, ⟨1, [0], ⟨0, 0, 0, 0, 0, 0⟩⟩, ⟨5, [1], ⟨0, 0, 0, 0, 0, 0⟩⟩]

def twinsFirstStates : List (AgentRuntimeState (WithTop Int)) :=
  [⟨0, 0, 0, 0⟩, ⟨0, 0, 0, 1⟩, ⟨0, 0, 0, 1⟩]

theorem modes_agree_twins :
    ModesAgree twinsFirstAgents twinsFirstStates ⟨1, 1, 1⟩ (twinRequest 2) :=
  (modes_agree twinsFirstAgents twinsFirstStates ⟨1, 1, 1⟩ (twinRequest 2)).1
    fun _ => Or.inr (Or.inl ⟨_, rfl, by decide +kernel⟩)

/-- At k=2 the available twin takes the farther agent's slot, ahead of the other. -/
theorem debug_changes_flag : (AgentRouteTable.fromAgents twinAgents).isOk = true ∧
    (((CpuRouter.new twinAgents ⟨1, 1, 1⟩).withDebugObserved true).routeOne (twinRequest 2)
      twinStates).map RoutingResult.idealCandidateUnavailable = .ok false ∧
    (((CpuRouter.new twinAgents ⟨1, 1, 1⟩).withDebugObserved false).routeOne (twinRequest 2)
      twinStates).map RoutingResult.idealCandidateUnavailable = .ok true ∧
    ¬ ModesAgree twinAgents twinStates ⟨1, 1, 1⟩ (twinRequest 2) := by
  have hon : (((CpuRouter.new twinAgents ⟨1, 1, 1⟩).withDebugObserved true).routeOne
      (twinRequest 2) twinStates).map RoutingResult.idealCandidateUnavailable = .ok false := by
    decide +kernel
  have hoff : (((CpuRouter.new twinAgents ⟨1, 1, 1⟩).withDebugObserved false).routeOne
      (twinRequest 2) twinStates).map RoutingResult.idealCandidateUnavailable = .ok true := by
    decide +kernel
  refine ⟨by decide, hon, hoff, ?_⟩
  intro hagree
  have hflags := congrArg (Except.map RoutingResult.idealCandidateUnavailable) hagree
  rw [flag_withoutDebug, flag_withoutDebug, hon, hoff] at hflags
  cases hflags

end

end QTom.Router
