import Mathlib.Data.List.Basic
import Mathlib.Data.List.Forall2

/- Runs of a deterministic machine. `Reaches step init` is the set of states a
   step function reaches from `init` under inputs of any number and order;
   `Reaches.invariant` is its induction rule. A fallible step is one whose
   result is `Except`: `Guarded f P g` says that `f` performs the update `g`
   exactly when the guard `P` holds, and `Guarded.run_iff` reads a whole
   successful run off that: the final state is the fold of `g`, and every input
   met its guard in the state its predecessors left behind. -/
namespace QTom.Lib
universe u

/-- The states `step` reaches from `init`. -/
inductive Reaches {σ ι : Type*} (step : σ → ι → σ) (init : σ) : σ → Prop where
  | start : Reaches step init init
  | next {s : σ} (i : ι) : Reaches step init s → Reaches step init (step s i)

namespace Reaches
variable {σ ι : Type*} {step : σ → ι → σ} {init : σ}

/-- What holds at the start and is kept by every step holds in every reachable state. -/
theorem invariant {I : σ → Prop} (h0 : I init) (hs : ∀ s i, I s → I (step s i))
    {s : σ} (h : Reaches step init s) : I s := by
  induction h with
  | start => exact h0
  | next i _ ih => exact hs _ i ih

end Reaches

/-! Runs with outputs. -/

/-- What a machine returns at each input of a run, with the state it then is in. -/
def trace {σ ι ο : Type*} (step : σ → ι → ο × σ) (s : σ) : List ι → List (ο × σ)
  | [] => []
  | i :: inputs => step s i :: trace step (step s i).2 inputs

/-- What a relation gives of its right entries holds of a list of them. -/
theorem forall_right {α β : Type*} {R : α → β → Prop} {P : β → Prop} {as : List α}
    {bs : List β} (h : List.Forall₂ R as bs) (hR : ∀ a b, R a b → P b) : ∀ b ∈ bs, P b := by
  have hboth : List.Forall₂ (fun b a => P b ∧ R a b) bs as :=
    h.flip.imp fun b a hr => ⟨hR a b hr, hr⟩
  exact ((List.forall₂_and_left bs as).mp hboth).1

/-- Two machines that answer alike from related states do so along any run of the inputs. -/
theorem trace_forall₂ {σ τ ι ο : Type*} {f : σ → ι → ο × σ} {g : τ → ι → ο × τ} {R : σ → τ → Prop}
    {inputs : List ι}
    (hstep : ∀ i ∈ inputs, ∀ s t, R s t → (f s i).1 = (g t i).1 ∧ R (f s i).2 (g t i).2)
    {s : σ} {t : τ} (h : R s t) :
    List.Forall₂ (fun a b => a.1 = b.1 ∧ R a.2 b.2) (trace f s inputs) (trace g t inputs) := by
  induction inputs generalizing s t with
  | nil => exact List.Forall₂.nil
  | cons i inputs ih =>
    have hi := hstep i List.mem_cons_self s t h
    refine List.Forall₂.cons hi (ih ?_ hi.2)
    intro j hj
    exact hstep j (List.mem_cons_of_mem i hj)

/-! Fallible runs: a fold that stops at the first error. -/

section Fallible
variable {σ : Type u} {ι ε : Type*} {f : σ → ι → Except ε σ}

/-- What a test for success shows. -/
theorem exists_ok_of_isOk {ε α : Type*} {x : Except ε α} (h : x.isOk = true) : ∃ a, x = .ok a := by
  cases x with
  | error e => cases h
  | ok a => exact ⟨a, rfl⟩

theorem bind_ok_iff {α β : Type u} {x : Except ε α} {k : α → Except ε β} {b : β} :
    (x >>= k) = .ok b ↔ ∃ a, x = .ok a ∧ k a = .ok b := by
  cases x with
  | error e =>
    refine ⟨?_, ?_⟩
    · intro h; cases h
    · intro ⟨a, h, _⟩; cases h
  | ok a =>
    refine ⟨?_, ?_⟩
    · intro h; exact ⟨a, rfl, h⟩
    · intro ⟨a', h, hk⟩; cases h; exact hk

/-- A call with a known outcome, and what is done with it. -/
theorem bind_known_ok_iff {α β : Type u} {P : Prop} {x : Except ε α} {a : α}
    (h : ∀ b, x = .ok b ↔ P ∧ b = a) {k : α → Except ε β} {r : β} :
    (x >>= k) = .ok r ↔ P ∧ k a = .ok r := by
  rw [bind_ok_iff]
  refine ⟨?_, ?_⟩
  · intro ⟨b, hx, hr⟩
    obtain ⟨hP, rfl⟩ := (h b).mp hx
    exact ⟨hP, hr⟩
  · intro ⟨hP, hr⟩
    exact ⟨a, (h a).mpr ⟨hP, rfl⟩, hr⟩

/-- A call with a known outcome, its result wrapped. -/
theorem bind_pure_ok_iff {α β : Type u} {P : Prop} {x : Except ε α} {a : α}
    (h : ∀ b, x = .ok b ↔ P ∧ b = a) (k : α → β) {r : β} :
    (x >>= fun b => pure (k b)) = .ok r ↔ P ∧ r = k a := by
  rw [bind_known_ok_iff h]
  exact and_congr_right fun _ => ⟨fun hr => (Except.ok.inj hr).symm, fun hr => hr ▸ rfl⟩

/-- Going on when a test holds. -/
theorem require_ok_iff {α : Type u} {P : Prop} [Decidable P] {x : Except ε α} {e : ε} {a : α} :
    (if P then x else .error e) = .ok a ↔ P ∧ x = .ok a := by
  by_cases h : P
  · rw [if_pos h, and_iff_right h]
  · rw [if_neg h]
    exact ⟨fun he => (nomatch he), fun hboth => absurd hboth.1 h⟩

/-- Stopping when a test holds. -/
theorem refuse_ok_iff {α : Type u} {P : Prop} [Decidable P] {x : Except ε α} {e : ε} {a : α} :
    (if P then .error e else x) = .ok a ↔ ¬ P ∧ x = .ok a := by
  rw [← require_ok_iff (e := e), ite_not]

theorem bind_error {α β : Type u} {x : Except ε α} {k : α → Except ε β} {e : ε}
    (h : (x >>= k) = .error e) : x = .error e ∨ ∃ a, x = .ok a ∧ k a = .error e := by
  cases x with
  | error e' => cases h; exact Or.inl rfl
  | ok a => exact Or.inr ⟨a, rfl, h⟩

/-- Two checks in a row. -/
theorem then_ok_iff {β : Type} {x : Except ε Unit} {k : Except ε β} {b : β} :
    (x >>= fun _ => k) = .ok b ↔ x = .ok () ∧ k = .ok b := by
  rw [bind_ok_iff]
  exact ⟨fun ⟨_, hx, hk⟩ => ⟨hx, hk⟩, fun ⟨hx, hk⟩ => ⟨(), hx, hk⟩⟩

theorem foldlM_cons_ok {s t : σ} {x : ι} {xs : List ι} :
    (x :: xs).foldlM f s = .ok t ↔ ∃ u, f s x = .ok u ∧ xs.foldlM f u = .ok t := by
  rw [List.foldlM_cons, bind_ok_iff]

theorem foldlM_append_ok {s t : σ} {xs ys : List ι} :
    (xs ++ ys).foldlM f s = .ok t ↔ ∃ u, xs.foldlM f s = .ok u ∧ ys.foldlM f u = .ok t := by
  rw [List.foldlM_append, bind_ok_iff]

/-- A run that fails does so at some input, in the state the inputs before it left. -/
theorem foldlM_error {s : σ} {xs : List ι} {e : ε} (h : xs.foldlM f s = .error e) :
    ∃ pre x post t, xs = pre ++ x :: post ∧ pre.foldlM f s = .ok t ∧ f t x = .error e := by
  induction xs generalizing s with
  | nil => cases h
  | cons x xs ih =>
    rw [List.foldlM_cons] at h
    cases hx : f s x with
    | error e' =>
      rw [hx] at h
      cases h
      exact ⟨[], x, xs, s, rfl, rfl, hx⟩
    | ok u =>
      rw [hx] at h
      obtain ⟨pre, y, post, t, rfl, hpre, hy⟩ := ih h
      exact ⟨x :: pre, y, post, t, rfl, foldlM_cons_ok.mpr ⟨u, hx, hpre⟩, hy⟩

theorem mapM_ok {α β : Type u} {g : α → Except ε β} {h : α → β} {xs : List α}
    (hg : ∀ x ∈ xs, g x = .ok (h x)) : xs.mapM g = .ok (xs.map h) := by
  induction xs with
  | nil => rfl
  | cons x xs ih =>
    have hrest := ih fun y hy => hg y (List.mem_cons_of_mem x hy)
    rw [List.mapM_cons, hg x List.mem_cons_self, hrest]
    rfl

/-- Where every entry has a result, the results stand beside their entries. -/
theorem mapM_forall₂ {α β : Type u} {P : α → β → Prop} {g : α → Except ε β} {xs : List α}
    (h : ∀ x ∈ xs, ∃ y, g x = .ok y ∧ P x y) :
    ∃ ys, xs.mapM g = .ok ys ∧ List.Forall₂ P xs ys := by
  induction xs with
  | nil => exact ⟨[], rfl, List.Forall₂.nil⟩
  | cons x xs ih =>
    obtain ⟨y, hy, hp⟩ := h x List.mem_cons_self
    obtain ⟨ys, hys, hps⟩ := ih fun z hz => h z (List.mem_cons_of_mem x hz)
    refine ⟨y :: ys, ?_, List.Forall₂.cons hp hps⟩
    rw [List.mapM_cons, hy, hys]
    rfl

/-- A result of a mapped list comes from one of its entries. -/
theorem exists_of_mem_mapM_ok {α β : Type u} {g : α → Except ε β} {xs : List α} {ys : List β}
    (h : xs.mapM g = .ok ys) {y : β} (hy : y ∈ ys) : ∃ x ∈ xs, g x = .ok y := by
  induction xs generalizing ys with
  | nil =>
    cases h
    cases hy
  | cons x xs ih =>
    rw [List.mapM_cons] at h
    obtain ⟨b, hb, hrest⟩ := bind_ok_iff.mp h
    obtain ⟨bs, hbs, heq⟩ := bind_ok_iff.mp hrest
    obtain rfl := Except.ok.inj heq
    rcases List.mem_cons.mp hy with rfl | hy
    · exact ⟨x, List.mem_cons_self, hb⟩
    · obtain ⟨x', hx', hg⟩ := ih hbs hy
      exact ⟨x', List.mem_cons_of_mem x hx', hg⟩

/-- A list is mapped when each of its entries is. -/
theorem mapM_returns_iff {α β : Type u} {g : α → Except ε β} {xs : List α} :
    (∃ ys, xs.mapM g = .ok ys) ↔ ∀ x ∈ xs, ∃ y, g x = .ok y := by
  induction xs with
  | nil => exact iff_of_true ⟨[], rfl⟩ fun _ hx => (nomatch hx)
  | cons x xs ih =>
    rw [List.mapM_cons, List.forall_mem_cons, ← ih]
    refine ⟨?_, ?_⟩
    · intro ⟨_, h⟩
      obtain ⟨y, hy, h⟩ := bind_ok_iff.mp h
      obtain ⟨ys, hys, _⟩ := bind_ok_iff.mp h
      exact ⟨⟨y, hy⟩, ys, hys⟩
    · intro ⟨⟨y, hy⟩, ys, hys⟩
      rw [hy, hys]
      exact ⟨y :: ys, rfl⟩

theorem length_mapM_ok {α β : Type u} {g : α → Except ε β} {xs : List α} {ys : List β}
    (h : xs.mapM g = .ok ys) : ys.length = xs.length := by
  induction xs generalizing ys with
  | nil =>
    cases h
    rfl
  | cons x xs ih =>
    rw [List.mapM_cons] at h
    obtain ⟨y, _, h⟩ := bind_ok_iff.mp h
    obtain ⟨rest, hrest, h⟩ := bind_ok_iff.mp h
    cases h
    exact congrArg (· + 1) (ih hrest)

/-- Mapping a list piece by piece and joining the pieces in order is mapping the
list: the first failing piece fails where the list does. -/
theorem join_mapM {α β : Type u} (g : α → Except ε β) (pieces : List (List α)) (done : List β) :
    (pieces.map (List.mapM g)).foldlM (fun results piece => return results ++ (← piece)) done =
      (do
        let rest ← pieces.flatten.mapM g
        return done ++ rest) := by
  induction pieces generalizing done with
  | nil =>
    show _ = Except.ok (done ++ [])
    rw [List.append_nil]
    rfl
  | cons piece pieces ih =>
    rw [List.map_cons, List.foldlM_cons, List.flatten_cons, List.mapM_append]
    cases hpiece : piece.mapM g with
    | error e => rfl
    | ok us =>
      show List.foldlM _ (done ++ us) _ = _
      rw [ih]
      cases pieces.flatten.mapM g with
      | error e => rfl
      | ok vs =>
        show Except.ok (done ++ us ++ vs) = Except.ok (done ++ (us ++ vs))
        rw [List.append_assoc]

theorem forM_ok_iff {α : Type*} {g : α → Except ε Unit} {xs : List α} :
    forM xs g = .ok () ↔ ∀ x ∈ xs, g x = .ok () := by
  induction xs with
  | nil => simp [pure, Except.pure]
  | cons x xs ih =>
    rw [List.forM_cons, bind_ok_iff, List.forall_mem_cons, ← ih]
    refine ⟨?_, ?_⟩
    · intro ⟨_, h⟩; exact h
    · intro h; exact ⟨(), h⟩

theorem forM_error {α : Type*} {g : α → Except ε Unit} {xs : List α} {e : ε}
    (h : forM xs g = .error e) : ∃ x ∈ xs, g x = .error e := by
  induction xs with
  | nil => cases h
  | cons x xs ih =>
    rw [List.forM_cons] at h
    cases hx : g x with
    | error e' => rw [hx] at h; cases h; exact ⟨x, List.mem_cons_self, hx⟩
    | ok u =>
      rw [hx] at h
      obtain ⟨y, hy, he⟩ := ih h
      exact ⟨y, List.mem_cons_of_mem x hy, he⟩

/-- `f` is the update `g` behind the guard `P`. -/
def Guarded (f : σ → ι → Except ε σ) (P : σ → ι → Prop) (g : σ → ι → σ) : Prop :=
  ∀ s x t, f s x = .ok t ↔ P s x ∧ t = g s x

/-- Every input of the run meets `P` in the state the inputs before it lead to. -/
def Along (P : σ → ι → Prop) (g : σ → ι → σ) (s : σ) (xs : List ι) : Prop :=
  ∀ pre x post, xs = pre ++ x :: post → P (pre.foldl g s) x

theorem Along.nil {P : σ → ι → Prop} {g : σ → ι → σ} {s : σ} : Along P g s [] := by
  intro pre x post h
  simp at h

theorem Along.cons_iff {P : σ → ι → Prop} {g : σ → ι → σ} {s : σ} {x : ι} {xs : List ι} :
    Along P g s (x :: xs) ↔ P s x ∧ Along P g (g s x) xs := by
  refine ⟨?_, ?_⟩
  · intro h
    refine ⟨h [] x xs rfl, ?_⟩
    intro pre y post hxs
    exact h (x :: pre) y post (by rw [hxs]; rfl)
  · intro ⟨hx, h⟩ pre y post hxs
    cases pre with
    | nil => cases hxs; exact hx
    | cons z pre => cases hxs; exact h pre y post rfl

/-- A weaker guard holds along the same run. -/
theorem Along.mono {P Q : σ → ι → Prop} {g : σ → ι → σ} {s : σ} {xs : List ι}
    (h : Along P g s xs) (hPQ : ∀ t x, P t x → Q t x) : Along Q g s xs :=
  fun pre x post hxs => hPQ _ _ (h pre x post hxs)

/-- What an input meeting `P` keeps, a run along `P` keeps. -/
theorem Along.invariant {P : σ → ι → Prop} {g : σ → ι → σ} {I : σ → Prop}
    (hs : ∀ s x, P s x → I s → I (g s x)) {s : σ} {xs : List ι} (h : Along P g s xs) (h0 : I s) :
    I (xs.foldl g s) := by
  induction xs generalizing s with
  | nil => exact h0
  | cons x xs ih =>
    obtain ⟨hx, hrest⟩ := Along.cons_iff.mp h
    exact ih hrest (hs s x hx h0)

/-- The run of a guarded step: the final state is the fold of the update, and
    every input met the guard. -/
theorem Guarded.run_iff {P : σ → ι → Prop} {g : σ → ι → σ} (hf : Guarded f P g)
    {s t : σ} {xs : List ι} :
    xs.foldlM f s = .ok t ↔ t = xs.foldl g s ∧ Along P g s xs := by
  induction xs generalizing s with
  | nil =>
    refine ⟨?_, ?_⟩
    · intro h; cases h; exact ⟨rfl, Along.nil⟩
    · intro ⟨ht, _⟩; rw [ht]; rfl
  | cons x xs ih =>
    rw [foldlM_cons_ok, Along.cons_iff, List.foldl_cons]
    refine ⟨?_, ?_⟩
    · intro ⟨u, hu, hrun⟩
      obtain ⟨hP, rfl⟩ := (hf s x u).mp hu
      obtain ⟨ht, hrest⟩ := ih.mp hrun
      exact ⟨ht, hP, hrest⟩
    · intro ⟨ht, hP, hrest⟩
      exact ⟨g s x, (hf s x _).mpr ⟨hP, rfl⟩, ih.mpr ⟨ht, hrest⟩⟩

end Fallible

/-- A component every step advances by one on the inputs `p` picks counts them. -/
theorem foldl_countP {σ ι : Type*} {g : σ → ι → σ} (get : σ → Nat) (p : ι → Bool)
    (h : ∀ s x, get (g s x) = if p x then get s + 1 else get s) (s : σ) (xs : List ι) :
    get (xs.foldl g s) = get s + xs.countP p := by
  induction xs generalizing s with
  | nil => simp
  | cons x xs ih =>
    rw [List.foldl_cons, ih, h, List.countP_cons]
    cases p x <;> simp
    omega

/-- A component that collects images of the inputs `p` picks. -/
theorem foldl_collect_map {σ ι α : Type*} {g : σ → ι → σ} (get : σ → List α) (p : ι → Bool)
    (f : ι → α) (h : ∀ s x, get (g s x) = if p x then get s ++ [f x] else get s) (s : σ)
    (xs : List ι) : get (xs.foldl g s) = get s ++ (xs.filter p).map f := by
  induction xs generalizing s with
  | nil => simp
  | cons x xs ih =>
    rw [List.foldl_cons, ih, h, List.filter_cons]
    cases p x <;> simp

/-- A component that collects the inputs `p` picks is the filtered run. -/
theorem foldl_collect {σ ι : Type*} {g : σ → ι → σ} (get : σ → List ι) (p : ι → Bool)
    (h : ∀ s x, get (g s x) = if p x then get s ++ [x] else get s) (s : σ) (xs : List ι) :
    get (xs.foldl g s) = get s ++ xs.filter p := by
  rw [foldl_collect_map get p id h, List.map_id]

/-! A relation between the entries of a list, read off its splits. -/

theorem pairwise_iff_splits {α : Type*} {R : α → α → Prop} {xs : List α} :
    xs.Pairwise R ↔ ∀ pre x post, xs = pre ++ x :: post → ∀ y ∈ post, R x y := by
  refine ⟨fun h pre x post hxs y hy => ?_, fun h => ?_⟩
  · rw [hxs, List.pairwise_append] at h
    exact (List.pairwise_cons.mp h.2.1).1 y hy
  · induction xs with
    | nil => exact List.Pairwise.nil
    | cons x xs ih =>
      refine List.pairwise_cons.mpr ⟨h [] x xs rfl, ih ?_⟩
      intro pre y post hxs
      exact h (x :: pre) y post (by rw [hxs]; rfl)

theorem pairwise_of_splits {α : Type*} {R : α → α → Prop} {xs : List α}
    (h : ∀ pre x post, xs = pre ++ x :: post → ∀ y ∈ pre, R y x) : xs.Pairwise R := by
  apply pairwise_iff_splits.mpr
  intro pre x post hxs y hy
  obtain ⟨mid, rest, rfl⟩ := List.append_of_mem hy
  exact h (pre ++ x :: mid) y rest (by rw [hxs]; simp) x (by simp)

/-- A relation that only looks back along a list without repeats is well-founded. -/
theorem wellFounded_of_splits {α : Type*} [DecidableEq α] {R : α → α → Prop} {xs : List α}
    (hn : xs.Nodup) (h : ∀ a b, R a b → ∃ pre post, xs = pre ++ b :: post ∧ a ∈ pre) :
    WellFounded R := by
  apply Subrelation.wf (r := InvImage (· < ·) xs.idxOf) _ (InvImage.wf _ Nat.lt_wfRel.wf)
  intro a b hab
  obtain ⟨pre, post, rfl, ha⟩ := h a b hab
  have hb : b ∉ pre := by
    intro hb
    exact (List.nodup_append.mp hn).2.2 b hb b List.mem_cons_self rfl
  show List.idxOf a _ < List.idxOf b _
  rw [List.idxOf_append_of_mem ha, List.idxOf_append_of_notMem hb, List.idxOf_cons_self]
  have hlt := List.idxOf_lt_length_of_mem ha
  omega

/-- Where no two entries share a key, filtering by an entry's key leaves that entry. -/
theorem filter_key_eq {α κ : Type*} [DecidableEq κ] {key : α → κ} {xs : List α}
    (hn : (xs.map key).Nodup) {x : α} (hx : x ∈ xs) :
    xs.filter (fun y => decide (key y = key x)) = [x] := by
  induction xs with
  | nil => cases hx
  | cons y ys ih =>
    rw [List.map_cons, List.nodup_cons] at hn
    rcases List.mem_cons.mp hx with rfl | hmem
    · -- the key occurs nowhere after the first entry
      have hnone : ys.filter (fun y => decide (key y = key x)) = [] := by
        apply List.filter_eq_nil_iff.mpr
        intro y hy hkey
        apply hn.1
        rw [← of_decide_eq_true hkey]
        exact List.mem_map_of_mem hy
      rw [List.filter_cons_of_pos (by simp), hnone]
    · have hne : key y ≠ key x := by
        intro hkey
        apply hn.1
        rw [hkey]
        exact List.mem_map_of_mem hmem
      rw [List.filter_cons_of_neg (by simp [hne])]
      exact ih hn.2 hmem

/-- What only one entry's piece can hold is filtered out of that piece. -/
theorem filter_flatMap_of_unique {α β : Type*} {xs : List α} (hn : xs.Nodup) {x : α} (hx : x ∈ xs)
    {f : α → List β} {p : β → Bool} (h : ∀ y ∈ xs, ∀ b ∈ f y, p b = true → y = x) :
    (xs.flatMap f).filter p = (f x).filter p := by
  obtain ⟨pre, post, rfl⟩ := List.append_of_mem hx
  have hnot : x ∉ pre ++ post := by
    have hmid := (List.perm_middle.nodup_iff).mp hn
    exact (List.nodup_cons.mp hmid).1
  have hnone : ∀ ys : List α, (∀ y ∈ ys, y ∈ pre ++ post) → (ys.flatMap f).filter p = [] := by
    intro ys hys
    apply List.filter_eq_nil_iff.mpr
    intro b hb hp
    obtain ⟨y, hy, hb⟩ := List.mem_flatMap.mp hb
    have hyx := h y (by have := hys y hy; simp only [List.mem_append, List.mem_cons] at this ⊢; tauto)
      b hb hp
    exact hnot (hyx ▸ hys y hy)
  rw [List.flatMap_append, List.flatMap_cons, List.filter_append, List.filter_append,
    hnone pre fun y hy => List.mem_append_left _ hy, hnone post fun y hy => List.mem_append_right _ hy,
    List.nil_append, List.append_nil]

end QTom.Lib
