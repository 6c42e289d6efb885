import Mathlib.Algebra.Group.Nat.Defs
import QTom.Lib.Chunks
import QTom.Lib.Runs
import QTom.Lib.TopK

/- Programs that panic. A checked operation has the value of the plain one or stops
   with the reason it panics for: an index, a slice or a chunk size out of range, a
   capacity of more than `isize::MAX` bytes, usize arithmetic that overflows, an
   `expect` or a debug assertion that fails. `Returns x P a` says when a computation
   returns and what: the value `a` under `P`, and a panic otherwise. It composes by
   `bind`, so the condition of a whole program is read off its parts. Memory itself
   is not bounded: a capacity that may be asked for is granted. -/
namespace QTom.Lib
variable {α β σ ι ε : Type}

inductive PanicKind where
  | indexOutOfBounds
  | capacityOverflow
  | arithmeticOverflow
  | divisionByZero
  | chunkSizeZero
  | expectFailed
  | assertionFailed
  deriving DecidableEq, Repr

abbrev Checked (α : Type) := Except PanicKind α

/-! The operations. -/

namespace Checked

/-- `a + b` on usize. -/
def add (a b : Nat) : Checked Nat :=
  if a + b < 2 ^ 64 then .ok (a + b) else .error .arithmeticOverflow

/-- `a - b` on usize. -/
def sub (a b : Nat) : Checked Nat :=
  if b ≤ a then .ok (a - b) else .error .arithmeticOverflow

/-- `a * b` on usize. -/
def mul (a b : Nat) : Checked Nat :=
  if a * b < 2 ^ 64 then .ok (a * b) else .error .arithmeticOverflow

def divCeil (a b : Nat) : Checked Nat :=
  if b = 0 then .error .divisionByZero else .ok (Lib.divCeil a b)

/-- `xs[i]`. -/
def read (xs : List α) (i : Nat) : Checked α :=
  match xs[i]? with
  | some x => .ok x
  | none => .error .indexOutOfBounds

/-- `xs[i] = x`. -/
def write (xs : List α) (i : Nat) (x : α) : Checked (List α) :=
  if i < xs.length then .ok (xs.set i x) else .error .indexOutOfBounds

/-- `&xs[start..stop]`. -/
def range (xs : List α) (start stop : Nat) : Checked (List α) :=
  if start ≤ stop ∧ stop ≤ xs.length then .ok ((xs.drop start).take (stop - start))
  else .error .indexOutOfBounds

def chunks (n : Nat) (xs : List α) : Checked (List (List α)) :=
  if n = 0 then .error .chunkSizeZero else .ok (Lib.chunks n xs)

def chunksExact (n : Nat) (xs : List α) : Checked (List (List α)) :=
  if n = 0 then .error .chunkSizeZero else .ok (Lib.chunksExact n xs)

/-- `Vec::with_capacity(capacity)` for entries of `size` bytes. -/
def withCapacity (size capacity : Nat) : Checked (List α) :=
  if capacity * size < 2 ^ 63 then .ok [] else .error .capacityOverflow

def expect : Option α → Checked α
  | some x => .ok x
  | none => .error .expectFailed

def debugAssert (p : Bool) : Checked Unit :=
  if p then .ok () else .error .assertionFailed

/-- `handle.join().expect(..)`: a panic of the thread is one here. -/
def join : Checked α → Checked α
  | .ok x => .ok x
  | .error _ => .error .expectFailed

/-- `Iterator::max_by` with a comparison that may panic. -/
def maxBy (cmp : α → α → Checked Ordering) : List α → Checked (Option α)
  | [] => .ok none
  | x :: xs => do
    let m ← xs.foldlM (fun m y => do
      let order ← cmp m y
      return if order = .gt then m else y) x
    return some m

/-- Collecting fallible calls into one `Result`: the first error ends it. -/
def collect (f : ι → Checked (Except ε α)) : List ι → Checked (Except ε (List α))
  | [] => .ok (.ok [])
  | x :: xs => do
    match ← f x with
    | .error e => return .error e
    | .ok a =>
      match ← collect f xs with
      | .error e => return .error e
      | .ok as => return .ok (a :: as)

end Checked

/-! When they return. -/

namespace Checked

@[simp] theorem ok_bind (a : α) (k : α → Checked β) : ((Except.ok a : Checked α) >>= k) = k a := rfl

theorem add_ok {a b : Nat} (h : a + b < 2 ^ 64) : add a b = .ok (a + b) := if_pos h

theorem sub_ok {a b : Nat} (h : b ≤ a) : sub a b = .ok (a - b) := if_pos h

theorem mul_ok {a b : Nat} (h : a * b < 2 ^ 64) : mul a b = .ok (a * b) := if_pos h

theorem divCeil_ok {a b : Nat} (h : b ≠ 0) : divCeil a b = .ok (Lib.divCeil a b) := if_neg h

theorem read_ok {xs : List α} {i : Nat} {x : α} (h : xs[i]? = some x) : read xs i = .ok x := by
  unfold read
  rw [h]

theorem read_ok_iff {xs : List α} {i : Nat} {x : α} : read xs i = .ok x ↔ xs[i]? = some x := by
  refine ⟨?_, read_ok⟩
  intro h
  unfold read at h
  split at h
  · rename_i y hy
    rw [hy, Except.ok.inj h]
  · cases h

theorem read_lt {xs : List α} {i : Nat} (h : i < xs.length) : read xs i = .ok xs[i] :=
  read_ok (List.getElem?_eq_getElem h)

theorem write_ok {xs : List α} {i : Nat} (h : i < xs.length) (x : α) :
    write xs i x = .ok (xs.set i x) := if_pos h

theorem range_ok {xs : List α} {start stop : Nat} (h : start ≤ stop) (h' : stop ≤ xs.length) :
    range xs start stop = .ok ((xs.drop start).take (stop - start)) := if_pos ⟨h, h'⟩

/-- The entry behind a prefix. -/
theorem read_append (before rest : List α) (x : α) :
    read (before ++ x :: rest) before.length = .ok x := by
  apply read_ok
  rw [List.getElem?_append_right (Nat.le_refl _), Nat.sub_self]
  rfl

theorem write_append (before rest : List α) (x y : α) :
    write (before ++ x :: rest) before.length y = .ok (before ++ y :: rest) := by
  rw [write_ok (by simp), List.set_append_right _ _ (Nat.le_refl _), Nat.sub_self]
  rfl

theorem range_append (before rest : List α) :
    range (before ++ rest) 0 before.length = .ok before := by
  rw [range_ok (Nat.zero_le _) (by simp), List.drop_zero, Nat.sub_zero, List.take_left]

theorem chunks_ok {n : Nat} (h : n ≠ 0) (xs : List α) : chunks n xs = .ok (Lib.chunks n xs) :=
  if_neg h

theorem chunksExact_ok {n : Nat} (h : n ≠ 0) (xs : List α) :
    chunksExact n xs = .ok (Lib.chunksExact n xs) := if_neg h

theorem debugAssert_ok {p : Bool} (h : p = true) : debugAssert p = .ok () := if_pos h

/-- A fold whose steps go alike, entry by entry, is the fold over the other entries. -/
theorem foldlM_forall₂ {κ : Type} {f : σ → ι → Checked σ} {g : σ → κ → Checked σ} {xs : List ι}
    {ys : List κ} (h : List.Forall₂ (fun x y => ∀ s, f s x = g s y) xs ys) (s : σ) :
    xs.foldlM f s = ys.foldlM g s := by
  induction h generalizing s with
  | nil => rfl
  | cons hstep _ ih =>
    rw [List.foldlM_cons, List.foldlM_cons, hstep s]
    cases g s _ with
    | error p => rfl
    | ok s' => exact ih s'

/-- A fold none of whose steps panics, over a refined state and refined entries. -/
theorem foldlM_map_ok {τ κ : Type} {f : σ → ι → Checked σ} {g : τ → κ → τ} (raw : τ → σ) (v : κ → ι)
    {xs : List κ} (h : ∀ t, ∀ x ∈ xs, f (raw t) (v x) = .ok (raw (g t x))) (t : τ) :
    (xs.map v).foldlM f (raw t) = .ok (raw (xs.foldl g t)) := by
  induction xs generalizing t with
  | nil => rfl
  | cons x xs ih =>
    rw [List.map_cons, List.foldlM_cons, h t x List.mem_cons_self]
    exact ih (fun t y hy => h t y (List.mem_cons_of_mem x hy)) (g t x)

theorem foldlM_ok {τ : Type} {f : σ → ι → Checked σ} {g : τ → ι → τ} (raw : τ → σ) {xs : List ι}
    (h : ∀ t, ∀ x ∈ xs, f (raw t) x = .ok (raw (g t x))) (t : τ) :
    xs.foldlM f (raw t) = .ok (raw (xs.foldl g t)) := by
  have hrun := foldlM_map_ok raw id h t
  rw [List.map_id] at hrun
  exact hrun

theorem mapM_map_ok {κ : Type} {f : ι → Checked α} {g : κ → α} (v : κ → ι) {xs : List κ}
    (h : ∀ x ∈ xs, f (v x) = .ok (g x)) : (xs.map v).mapM f = .ok (xs.map g) := by
  induction xs with
  | nil => rfl
  | cons x xs ih =>
    rw [List.map_cons, List.mapM_cons, h x List.mem_cons_self,
      ih fun y hy => h y (List.mem_cons_of_mem x hy)]
    rfl

theorem maxBy_ok {f : β → β → Checked Ordering} {cmp : α → α → Ordering} (v : α → β)
    (h : ∀ a b, f (v a) (v b) = .ok (cmp a b)) (xs : List α) :
    maxBy f (xs.map v) = .ok ((Lib.maxBy cmp xs).map v) := by
  cases xs with
  | nil => rfl
  | cons x xs =>
    have hstep : ∀ m, ∀ y ∈ xs, (do
        let order ← f (v m) (v y)
        return if order = .gt then v m else v y) =
        (.ok (v (if cmp m y = .gt then m else y)) : Checked β) := by
      intro m y _
      rw [h m y, ok_bind]
      split <;> rfl
    rw [List.map_cons, maxBy, foldlM_map_ok v v hstep x]
    rfl

/-- Calls that do not panic, collected, are the calls one after another. -/
theorem collect_ok {f : ι → Checked (Except ε α)} {g : ι → Except ε α} {xs : List ι}
    (h : ∀ x ∈ xs, f x = .ok (g x)) : collect f xs = .ok (xs.mapM g) := by
  induction xs with
  | nil => rfl
  | cons x xs ih =>
    have hrest := ih fun y hy => h y (List.mem_cons_of_mem x hy)
    unfold collect
    rw [h x List.mem_cons_self, ok_bind, List.mapM_cons]
    cases g x with
    | error e => rfl
    | ok a =>
      dsimp only
      rw [hrest, ok_bind]
      cases xs.mapM g <;> rfl

/-- The calls behind the first error are not made, so these may panic. -/
theorem collect_returned {f : ι → Checked (Except ε α)} {g : ι → Except ε α} {xs : List ι}
    (h : ∀ x ∈ xs, ∀ v, f x = .ok v → v = g x) {v : Except ε (List α)}
    (hv : collect f xs = .ok v) : v = xs.mapM g := by
  induction xs generalizing v with
  | nil => exact (Except.ok.inj hv).symm
  | cons x xs ih =>
    have hrest := fun {v} => ih (v := v) fun y hy => h y (List.mem_cons_of_mem x hy)
    unfold collect at hv
    rw [List.mapM_cons]
    obtain ⟨first, hfirst, hv⟩ := bind_ok_iff.mp hv
    rw [← h x List.mem_cons_self first hfirst]
    cases first with
    | error e => exact (Except.ok.inj hv).symm
    | ok a =>
      obtain ⟨others, hothers, hv⟩ := bind_ok_iff.mp hv
      show _ = (xs.mapM g >>= fun as => pure (a :: as))
      rw [← hrest hothers]
      cases others with
      | error e => exact (Except.ok.inj hv).symm
      | ok as => exact (Except.ok.inj hv).symm

end Checked

/-- `x` returns `a` under `P` and panics otherwise. -/
def Returns (x : Checked α) (P : Prop) (a : α) : Prop :=
  (P → x = .ok a) ∧ (¬ P → ∃ p, x = .error p)

namespace Returns
variable {x : Checked α} {P Q : Prop} {a : α}

theorem of_ok (h : x = .ok a) : Returns x True a := ⟨fun _ => h, fun hfalse => absurd trivial hfalse⟩

theorem congr (h : Returns x P a) (hPQ : P ↔ Q) : Returns x Q a :=
  ⟨fun hQ => h.1 (hPQ.mpr hQ), fun hQ => h.2 fun hP => hQ (hPQ.mp hP)⟩

theorem bind {b : β} {k : α → Checked β} (h : Returns x P a) (hk : Returns (k a) Q b) :
    Returns (x >>= k) (P ∧ Q) b := by
  refine ⟨?_, ?_⟩
  · intro ⟨hP, hQ⟩
    rw [h.1 hP]
    exact hk.1 hQ
  · intro hnot
    by_cases hP : P
    · rw [h.1 hP]
      exact hk.2 fun hQ => hnot ⟨hP, hQ⟩
    · obtain ⟨p, hp⟩ := h.2 hP
      rw [hp]
      exact ⟨p, rfl⟩

/-- The rest returns whatever comes before it. -/
theorem bind_ok {b : β} {k : α → Checked β} (h : Returns x P a) (hk : k a = .ok b) :
    Returns (x >>= k) P b :=
  (h.bind (of_ok hk)).congr (and_iff_left trivial)

theorem mul (a b : Nat) : Returns (Checked.mul a b) (a * b < 2 ^ 64) (a * b) :=
  ⟨fun h => if_pos h, fun h => ⟨.arithmeticOverflow, if_neg h⟩⟩

theorem withCapacity (size capacity : Nat) :
    Returns (Checked.withCapacity size capacity : Checked (List α)) (capacity * size < 2 ^ 63) [] :=
  ⟨fun h => if_pos h, fun h => ⟨.capacityOverflow, if_neg h⟩⟩

theorem join (h : Returns x P a) : Returns (Checked.join x) P a := by
  refine ⟨?_, ?_⟩
  · intro hP
    rw [h.1 hP]
    rfl
  · intro hP
    obtain ⟨p, hp⟩ := h.2 hP
    rw [hp]
    exact ⟨_, rfl⟩

theorem mapM {f : ι → Checked α} {g : ι → α} {P : ι → Prop} {xs : List ι}
    (h : ∀ x ∈ xs, Returns (f x) (P x) (g x)) : Returns (xs.mapM f) (∀ x ∈ xs, P x) (xs.map g) := by
  induction xs with
  | nil => exact (of_ok rfl).congr (iff_of_true trivial fun _ hx => (nomatch hx))
  | cons x xs ih =>
    have hrest := ih fun y hy => h y (List.mem_cons_of_mem x hy)
    rw [List.mapM_cons]
    refine ((h x List.mem_cons_self).bind ?_).congr List.forall_mem_cons.symm
    exact hrest.bind_ok rfl

theorem collect {f : ι → Checked (Except ε α)} {g : ι → α} {P : ι → Prop} {xs : List ι}
    (h : ∀ x ∈ xs, Returns (f x) (P x) (.ok (g x))) :
    Returns (Checked.collect f xs) (∀ x ∈ xs, P x) (.ok (xs.map g)) := by
  induction xs with
  | nil => exact (of_ok rfl).congr (iff_of_true trivial fun _ hx => (nomatch hx))
  | cons x xs ih =>
    have hrest := ih fun y hy => h y (List.mem_cons_of_mem x hy)
    unfold Checked.collect
    refine ((h x List.mem_cons_self).bind ?_).congr List.forall_mem_cons.symm
    exact hrest.bind_ok rfl

/-- What it returns. -/
theorem returned (h : Returns x P a) {r : α} (hr : x = .ok r) : r = a := by
  by_cases hP : P
  · rw [h.1 hP] at hr
    exact (Except.ok.inj hr).symm
  · obtain ⟨p, hp⟩ := h.2 hP
    rw [hr] at hp
    cases hp

/-- A computation returns exactly under its condition. -/
theorem returns_iff (h : Returns x P a) : (∃ r, x = .ok r) ↔ P := by
  refine ⟨?_, fun hP => ⟨a, h.1 hP⟩⟩
  intro ⟨r, hr⟩
  by_contra hP
  obtain ⟨p, hp⟩ := h.2 hP
  rw [hr] at hp
  cases hp

end Returns

end QTom.Lib
