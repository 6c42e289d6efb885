/- Stateful computations that may stop with an error. What was done before the error
   stays done: a run returns its outcome beside the state it was reached in.
   `Triple P x Q E`: started where `P` holds, `x` ends where `Q` holds of its value or
   stops where `E` holds of its error. -/
namespace QTom.Lib
variable {σ τ ε δ α β : Type}

structure Attempt (σ ε α : Type) where
  run : σ → Except ε α × σ

namespace Attempt

/-- Going on from an outcome, unless it is an error. -/
def andThen (outcome : Except ε α × σ) (k : α → σ → Except ε β × σ) : Except ε β × σ :=
  match outcome with
  | (.ok a, s) => k a s
  | (.error e, s) => (.error e, s)

instance : Monad (Attempt σ ε) where
  pure a := ⟨fun s => (.ok a, s)⟩
  bind x k := ⟨fun s => andThen (x.run s) fun a s' => (k a).run s'⟩

/-- Stopping. -/
def fail (e : ε) : Attempt σ ε α := ⟨fun s => (.error e, s)⟩

/-- A step that cannot fail. -/
def act (f : σ → α × σ) : Attempt σ ε α := ⟨fun s => (.ok (f s).1, (f s).2)⟩

@[simp] theorem pure_run (a : α) (s : σ) : (pure a : Attempt σ ε α).run s = (.ok a, s) := rfl

@[simp] theorem fail_run (e : ε) (s : σ) : (fail e : Attempt σ ε α).run s = (.error e, s) := rfl

@[simp] theorem act_run (f : σ → α × σ) (s : σ) :
    (act f : Attempt σ ε α).run s = (.ok (f s).1, (f s).2) := rfl

@[simp] theorem bind_run (x : Attempt σ ε α) (k : α → Attempt σ ε β) (s : σ) :
    (x >>= k).run s = andThen (x.run s) fun a s' => (k a).run s' := rfl

@[simp] theorem andThen_ok (a : α) (s : σ) (k : α → σ → Except ε β × σ) :
    andThen (.ok a, s) k = k a s := rfl

@[simp] theorem andThen_error (e : ε) (s : σ) (k : α → σ → Except ε β × σ) :
    andThen (.error e, s) k = (.error e, s) := rfl

/-- The same computation under other errors. -/
def mapError (f : ε → δ) (x : Attempt σ ε α) : Attempt σ δ α :=
  ⟨fun s => ((x.run s).1.mapError f, (x.run s).2)⟩

@[simp] theorem ite_run {P : Prop} [Decidable P] (x y : Attempt σ ε α) (s : σ) :
    (if P then x else y).run s = if P then x.run s else y.run s := by
  split <;> rfl

/-! Pre- and postconditions. -/

/-- `Q` holds of a value and the state it is returned in, `E` of an error and its. -/
def Outcome (Q : α → σ → Prop) (E : ε → σ → Prop) : Except ε α × σ → Prop
  | (.ok a, s) => Q a s
  | (.error e, s) => E e s

def Triple (P : σ → Prop) (x : Attempt σ ε α) (Q : α → σ → Prop) (E : ε → σ → Prop) : Prop :=
  ∀ s, P s → Outcome Q E (x.run s)

namespace Triple
variable {P P' : σ → Prop} {Q Q' : α → σ → Prop} {E E' : ε → σ → Prop} {x : Attempt σ ε α}

theorem pure {a : α} (h : ∀ s, P s → Q a s) : Triple P (Pure.pure a) Q E := h

theorem fail {e : ε} (h : ∀ s, P s → E e s) : Triple P (Attempt.fail e : Attempt σ ε α) Q E := h

theorem act {f : σ → α × σ} (h : ∀ s, P s → Q (f s).1 (f s).2) : Triple P (Attempt.act f) Q E := h

/-- What the first computation leaves is what the second starts from. -/
theorem bind {R : α → σ → Prop} {k : α → Attempt σ ε β} {Q : β → σ → Prop}
    (hx : Triple P x R E) (hk : ∀ a, Triple (R a) (k a) Q E) : Triple P (x >>= k) Q E := by
  intro s hs
  have hfirst := hx s hs
  rw [bind_run]
  cases hrun : x.run s with
  | mk outcome s' =>
    rw [hrun] at hfirst
    cases outcome with
    | ok a => exact hk a s' hfirst
    | error e => exact hfirst

theorem weaken (h : Triple P x Q E) (hP : ∀ s, P' s → P s) (hQ : ∀ a s, Q a s → Q' a s)
    (hE : ∀ e s, E e s → E' e s) : Triple P' x Q' E' := by
  intro s hs
  have houtcome := h s (hP s hs)
  cases hrun : x.run s with
  | mk outcome s' =>
    rw [hrun] at houtcome
    cases outcome with
    | ok a => exact hQ a s' houtcome
    | error e => exact hE e s' houtcome

theorem returned (h : Triple P x Q E) {s : σ} (hs : P s) {a : α} (hok : (x.run s).1 = .ok a) :
    Q a (x.run s).2 := by
  have houtcome := h s hs
  unfold Outcome at houtcome
  split at houtcome
  · next a' s' hrun =>
    rw [hrun] at hok ⊢
    rw [← Except.ok.inj hok]
    exact houtcome
  · next e s' hrun =>
    rw [hrun] at hok
    cases hok

theorem stopped (h : Triple P x Q E) {s : σ} (hs : P s) {e : ε} (herror : (x.run s).1 = .error e) :
    E e (x.run s).2 := by
  have houtcome := h s hs
  unfold Outcome at houtcome
  split at houtcome
  · next a s' hrun =>
    rw [hrun] at herror
    cases herror
  · next e' s' hrun =>
    rw [hrun] at herror ⊢
    rw [← Except.error.inj herror]
    exact houtcome

/-- A fact of the precondition that is not about the state. -/
theorem given {p : Prop} (h : p → Triple P x Q E) : Triple (fun s => p ∧ P s) x Q E :=
  fun s hs => h hs.1 s hs.2

theorem ite {p : Prop} [Decidable p] {y : Attempt σ ε α} (hx : p → Triple P x Q E)
    (hy : ¬ p → Triple P y Q E) : Triple P (if p then x else y) Q E := by
  split
  · next hp => exact hx hp
  · next hp => exact hy hp

theorem mapError {f : ε → δ} {E : δ → σ → Prop} (h : Triple P x Q fun e => E (f e)) :
    Triple P (x.mapError f) Q E := by
  intro s hs
  have houtcome := h s hs
  show Outcome Q E ((x.run s).1.mapError f, (x.run s).2)
  cases hrun : x.run s with
  | mk outcome s' =>
    rw [hrun] at houtcome
    cases outcome with
    | ok a => exact houtcome
    | error e => exact houtcome

end Triple

end Attempt
end QTom.Lib
