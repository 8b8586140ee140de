import Mathlib.Logic.Basic

/-! # Programs with state and exceptions, seen through a view

`EStateM` keeps the state that a program had reached when it threw, as C++
does. `Yields` speaks of a program through a view of its state, so that what
the view leaves out (a log, say) need not be named in a specification.
-/

namespace RdmnetBroker.Library

set_option autoImplicit false

variable {ε σ τ α β : Type}

structure FieldRef (σ α : Type) where
  get : σ → α
  set : α → σ → σ
  get_set : ∀ a s, get (set a s) = a
  set_get : ∀ s, set (get s) s = s
  set_set : ∀ a b s, set a (set b s) = set a s

attribute [simp] FieldRef.get_set FieldRef.set_get FieldRef.set_set

/-- From every state with view `t` the program returns `a` and leaves the view `t'`. -/
def Yields (view : σ → τ) (m : EStateM ε σ α) (t : τ) (a : α) (t' : τ) : Prop :=
  ∀ s, view s = t → ∃ s', m s = .ok a s' ∧ view s' = t'

def Throws (view : σ → τ) (m : EStateM ε σ α) (t : τ) (e : ε) (t' : τ) : Prop :=
  ∀ s, view s = t → ∃ s', m s = .error e s' ∧ view s' = t'

variable {view : σ → τ} {t t' t'' : τ}

theorem Yields.pure (a : α) : Yields view (pure a : EStateM ε σ α) t a t :=
  fun s hs => ⟨s, rfl, hs⟩

theorem Yields.bind {m : EStateM ε σ α} {f : α → EStateM ε σ β} {a : α} {b : β}
    (hFirst : Yields view m t a t') (hSecond : Yields view (f a) t' b t'') :
    Yields view (m >>= f) t b t'' := by
  intro s hs
  obtain ⟨s₁, hRun, hs₁⟩ := hFirst s hs
  obtain ⟨s₂, hRest, hs₂⟩ := hSecond s₁ hs₁
  refine ⟨s₂, ?_, hs₂⟩
  change EStateM.bind m f s = _
  rw [EStateM.bind, hRun]
  exact hRest

theorem Throws.bind {m : EStateM ε σ α} {f : α → EStateM ε σ β} {a : α} {e : ε}
    (hFirst : Yields view m t a t') (hSecond : Throws view (f a) t' e t'') :
    Throws view (m >>= f) t e t'' := by
  intro s hs
  obtain ⟨s₁, hRun, hs₁⟩ := hFirst s hs
  obtain ⟨s₂, hRest, hs₂⟩ := hSecond s₁ hs₁
  refine ⟨s₂, ?_, hs₂⟩
  change EStateM.bind m f s = _
  rw [EStateM.bind, hRun]
  exact hRest

theorem Throws.bind_left {m : EStateM ε σ α} {f : α → EStateM ε σ β} {e : ε}
    (h : Throws view m t e t') : Throws view (m >>= f) t e t' := by
  intro s hs
  obtain ⟨s₁, hRun, hs₁⟩ := h s hs
  refine ⟨s₁, ?_, hs₁⟩
  change EStateM.bind m f s = _
  rw [EStateM.bind, hRun]

section Emits

variable {μ : Type} {out : σ → List μ} {m : EStateM ε σ α} {f : α → EStateM ε σ β}

/-- Whenever the program returns, it has appended some `ms` to the output, and `P` holds
of its result and `ms`. -/
def Emits (out : σ → List μ) (m : EStateM ε σ α) (P : α → List μ → Prop) : Prop :=
  ∀ s a s', m s = .ok a s' → ∃ ms, out s' = out s ++ ms ∧ P a ms

theorem Emits.pure {P : α → List μ → Prop} {a : α} (h : P a []) :
    Emits out (pure a : EStateM ε σ α) P := by
  intro s a' s' hRun
  cases hRun
  exact ⟨[], (List.append_nil _).symm, h⟩

theorem Emits.bind {P : α → List μ → Prop} {Q : β → List μ → Prop} (hFirst : Emits out m P)
    (hSecond : ∀ a ms, P a ms → Emits out (f a) fun b ms' => Q b (ms ++ ms')) :
    Emits out (m >>= f) Q := by
  intro s b s'' hRun
  change EStateM.bind m f s = _ at hRun
  unfold EStateM.bind at hRun
  split at hRun
  · rename_i a s' hFirstRun
    obtain ⟨ms, hOut, hP⟩ := hFirst s a s' hFirstRun
    obtain ⟨ms', hOut', hQ⟩ := hSecond a ms hP s' b s'' hRun
    exact ⟨ms ++ ms', by rw [hOut', hOut, List.append_assoc], hQ⟩
  · cases hRun

theorem Emits.ite {P : α → List μ → Prop} {p : Prop} [Decidable p] {n : EStateM ε σ α}
    (hThen : p → Emits out m P) (hElse : ¬ p → Emits out n P) : Emits out (if p then m else n) P := by
  split
  · rename_i hp
    exact hThen hp
  · rename_i hp
    exact hElse hp

/-- The program appends nothing. -/
def Silent (out : σ → List μ) (m : EStateM ε σ α) : Prop := Emits out m fun _ ms => ms = []

theorem Silent.out_eq {s s' : σ} {a : α} (h : Silent out m) (hRun : m s = .ok a s') : out s' = out s := by
  obtain ⟨ms, hOut, rfl⟩ := h s a s' hRun
  rw [hOut, List.append_nil]

theorem Silent.bind {Q : β → List μ → Prop} (hFirst : Silent out m) (hSecond : ∀ a, Emits out (f a) Q) :
    Emits out (m >>= f) Q := by
  refine Emits.bind hFirst fun a ms hNil => ?_
  rw [hNil]
  exact hSecond a

/-- The program appends nothing, and `R` holds of its result. -/
def Returns (out : σ → List μ) (m : EStateM ε σ α) (R : α → Prop) : Prop :=
  Emits out m fun a ms => ms = [] ∧ R a

theorem Returns.bind {R : α → Prop} {Q : β → List μ → Prop} (hFirst : Returns out m R)
    (hSecond : ∀ a, R a → Emits out (f a) Q) : Emits out (m >>= f) Q := by
  refine Emits.bind hFirst fun a ms ⟨hNil, hR⟩ => ?_
  rw [hNil]
  exact hSecond a hR

theorem Silent.throw {e : ε} : Silent out (throw e : EStateM ε σ α) := by
  intro s a s' hRun
  cases hRun

end Emits

section Mirrors

def mapState (g : σ → σ) : EStateM.Result ε σ α → EStateM.Result ε σ α
  | .ok a s => .ok a (g s)
  | .error e s => .error e (g s)

/-- From the state changed by `g` the second program does what the first one does. -/
def Mirrors (g : σ → σ) (m n : EStateM ε σ α) : Prop := ∀ s, n (g s) = mapState g (m s)

variable {g : σ → σ} {m n : EStateM ε σ α} {f h : α → EStateM ε σ β}

theorem Mirrors.pure (a : α) : Mirrors g (pure a : EStateM ε σ α) (pure a) := fun _ => rfl

theorem Mirrors.throw (e : ε) : Mirrors g (throw e : EStateM ε σ α) (throw e) := fun _ => rfl

theorem Mirrors.bind (hFirst : Mirrors g m n) (hSecond : ∀ a, Mirrors g (f a) (h a)) :
    Mirrors g (m >>= f) (n >>= h) := by
  intro s
  change EStateM.bind n h (g s) = mapState g (EStateM.bind m f s)
  unfold EStateM.bind
  rw [hFirst s]
  cases m s with
  | ok a s' => exact hSecond a s'
  | error e s' => rfl

theorem Mirrors.ite {p : Prop} [Decidable p] {m' n' : EStateM ε σ α} (hThen : Mirrors g m n)
    (hElse : Mirrors g m' n') : Mirrors g (if p then m else m') (if p then n else n') := by
  split
  · exact hThen
  · exact hElse

end Mirrors

end RdmnetBroker.Library
