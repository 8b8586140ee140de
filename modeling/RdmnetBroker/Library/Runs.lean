import Mathlib.Logic.Basic

/-! # Labelled systems and their runs

A system is a set of initial states and a labelled step relation. A run
records the labels of its steps, the latest first, so that "the most recent"
is a search from the head and an extension of a run is a `cons`.
-/

namespace RdmnetBroker.Library

set_option autoImplicit false

universe u v w

structure System (σ : Type u) (ε : Type v) where
  initial : σ → Prop
  next : σ → ε → σ → Prop

namespace System

variable {σ : Type u} {ε : Type v} {α : Type w} (S : System σ ε)

/-- `S.Run tr s`: some run of `S` has the labels `tr`, latest first, and ends in `s`. -/
inductive Run : List ε → σ → Prop
  | start {s : σ} : S.initial s → Run [] s
  | step {tr : List ε} {s s' : σ} {e : ε} : Run tr s → S.next s e s' → Run (e :: tr) s'

/-- The runs whose steps all meet `P`, a condition on the label and the state before the step. -/
def guard (P : σ → ε → Prop) : System σ ε where
  initial := S.initial
  next s e s' := P s e ∧ S.next s e s'

variable {S}

/-- The invariant rule: what holds at the start and survives every step from a
state that a run reaches holds after every run. -/
theorem Run.invariant {I : List ε → σ → Prop} (hStart : ∀ s, S.initial s → I [] s)
    (hStep : ∀ tr s e s', S.Run tr s → I tr s → S.next s e s' → I (e :: tr) s')
    {tr : List ε} {s : σ} (h : S.Run tr s) : I tr s := by
  induction h with
  | start h0 => exact hStart _ h0
  | step hRun hNext ih => exact hStep _ _ _ _ hRun ih hNext

theorem Run.of_guard {P : σ → ε → Prop} {tr : List ε} {s : σ} (h : (S.guard P).Run tr s) :
    S.Run tr s := by
  induction h with
  | start h0 => exact .start h0
  | step _ hNext ih => exact .step ih hNext.2

/-- When exactly the steps that meet `P` leave `f` alone, it is the same after every run of
such steps, and the next step keeps it if it is one of them and only then. -/
theorem Run.guard_eq_iff {P : σ → ε → Prop} (f : σ → α) {a : α} (hStart : ∀ s, S.initial s → f s = a)
    (hStep : ∀ s e s', S.next s e s' → (f s' = f s ↔ P s e)) {tr : List ε} {s : σ}
    (h : (S.guard P).Run tr s) : f s = a ∧ ∀ e s', S.next s e s' → (f s' = a ↔ P s e) := by
  have hSame : f s = a := by
    induction h with
    | start h0 => exact hStart _ h0
    | step _ hNext ih => rw [(hStep _ _ _ hNext.2).mpr hNext.1, ih]
  refine ⟨hSame, fun e s' hNext => ?_⟩
  rw [← hSame]
  exact hStep s e s' hNext

theorem Run.suffix {post pre : List ε} {s : σ} (h : S.Run (post ++ pre) s) :
    ∃ s', S.Run pre s' := by
  induction post generalizing s with
  | nil => exact ⟨s, h⟩
  | cons e post ih =>
    cases h with
    | step hRun _ => exact ih hRun

theorem Run.at_label {post pre : List ε} {e : ε} {s : σ} (h : S.Run (post ++ e :: pre) s) :
    ∃ s₁ s₂, S.Run pre s₁ ∧ S.next s₁ e s₂ := by
  obtain ⟨s₂, h⟩ := h.suffix
  cases h with
  | step hRun hNext => exact ⟨_, _, hRun, hNext⟩

/-- "From then on": a property of the labels made since some moment, and of the
state, holds after every extension of a run from that moment. -/
theorem Run.since {J : List ε → σ → Prop} {pre : List ε}
    (hStart : ∀ s, S.Run pre s → J [] s)
    (hStep : ∀ post s e s', S.Run (post ++ pre) s → J post s → S.next s e s' → J (e :: post) s')
    {post : List ε} {s : σ} (h : S.Run (post ++ pre) s) : J post s := by
  induction post generalizing s with
  | nil => exact hStart s h
  | cons e post ih =>
    cases h with
    | step hRun hNext => exact hStep _ _ _ _ hRun (ih hRun) hNext

theorem countP_cons_toNat (p : ε → Bool) (e : ε) (post : List ε) :
    (e :: post).countP p = (p e).toNat + post.countP p := by
  cases hp : p e <;> simp [hp, Nat.add_comm]

/-- The labels of a component that count are among those of its projected run. -/
theorem countP_le_countP_filterMap {δ : Type w} {g : δ → Option ε} {p : δ → Bool} {q : ε → Bool}
    (h : ∀ d, p d = true → (g d).any q = true) (post : List δ) :
    post.countP p ≤ (post.filterMap g).countP q := by
  induction post with
  | nil => exact Nat.le_refl 0
  | cons d post ih =>
    cases hp : p d with
    | false =>
      have hMono : (post.filterMap g).countP q ≤ ((d :: post).filterMap g).countP q :=
        ((List.sublist_cons_self d post).filterMap g).countP_le
      rw [List.countP_cons_of_neg (by simp [hp])]
      omega
    | true =>
      obtain ⟨e, hLabel, hq⟩ := (Option.any_eq_true _ _).mp (h d hp)
      rw [List.filterMap_cons_some hLabel, List.countP_cons_of_pos hp, List.countP_cons_of_pos hq]
      omega

/-- The ranking rule: when every step that counts takes the rank down and no other one
raises it, a stretch of a run has no more such steps than the rank at its start. -/
theorem Run.countP_add_rank_le {p : ε → Bool} {q : ε → Prop} (rank : σ → Nat) {n : Nat} {pre : List ε}
    (hStart : ∀ s, S.Run pre s → rank s ≤ n)
    (hStep : ∀ post s e s', S.Run (post ++ pre) s → q e → S.next s e s' →
      (p e).toNat + rank s' ≤ rank s)
    {post : List ε} {s : σ} (h : S.Run (post ++ pre) s) (hLabels : ∀ e ∈ post, q e) :
    post.countP p + rank s ≤ n := by
  induction post generalizing s with
  | nil => simpa using hStart s h
  | cons e post ih =>
    cases h with
    | step hRun hNext =>
      obtain ⟨hFirst, hRest⟩ := List.forall_mem_cons.mp hLabels
      have hBefore := ih hRun hRest
      have hRank := hStep _ _ _ _ hRun hFirst hNext
      rw [countP_cons_toNat]
      omega

/-- The system as it looks when only `f` of a label can be seen. -/
def relabel {δ : Type w} (S : System σ ε) (f : ε → δ) : System σ δ where
  initial := S.initial
  next s d s' := ∃ e, f e = d ∧ S.next s e s'

theorem Run.of_relabel {δ : Type w} {f : ε → δ} {tr : List δ} {s : σ} (h : (S.relabel f).Run tr s) :
    ∃ tr', tr'.map f = tr ∧ S.Run tr' s := by
  induction h with
  | start h0 => exact ⟨[], rfl, .start h0⟩
  | step _ hNext ih =>
    obtain ⟨tr', hMap, hRun⟩ := ih
    obtain ⟨e, rfl, hStep⟩ := hNext
    exact ⟨e :: tr', by rw [List.map_cons, hMap], .step hRun hStep⟩

/-- A system whose steps are steps of a component, or leave it alone, runs the component. -/
theorem Run.project {τ : Type u} {δ : Type v} {T : System τ δ} (f : τ → σ) (g : δ → Option ε)
    (hInitial : ∀ t, T.initial t → S.initial (f t))
    (hStep : ∀ t d t', T.next t d t' →
      (∃ e, g d = some e ∧ S.next (f t) e (f t')) ∨ g d = none ∧ f t' = f t)
    {tr : List δ} {t : τ} (h : T.Run tr t) : S.Run (tr.filterMap g) (f t) := by
  induction h with
  | start h0 => exact .start (hInitial _ h0)
  | step hRun hNext ih =>
    rcases hStep _ _ _ hNext with ⟨e, hLabel, hComponent⟩ | ⟨hLabel, hSame⟩
    · rw [List.filterMap_cons_some hLabel]
      exact .step ih hComponent
    · rw [List.filterMap_cons_none hLabel, hSame]
      exact ih

/-- The simulation rule: when every step from a state that a run reaches is matched by a
step from each related state, or keeps the relation without one, every run is matched by a run. -/
theorem Run.simulate {τ : Type u} {δ : Type v} {T : System τ δ} (R : τ → σ → Prop) (g : δ → Option ε)
    (hInitial : ∀ t, T.initial t → ∃ s, S.initial s ∧ R t s)
    (hStep : ∀ tr t d t' s, T.Run tr t → R t s → T.next t d t' →
      (∃ e s', g d = some e ∧ S.next s e s' ∧ R t' s') ∨ g d = none ∧ R t' s)
    {tr : List δ} {t : τ} (h : T.Run tr t) : ∃ s, S.Run (tr.filterMap g) s ∧ R t s := by
  induction h with
  | start h0 =>
    obtain ⟨s, hStart, hRelated⟩ := hInitial _ h0
    exact ⟨s, .start hStart, hRelated⟩
  | step hRun hNext ih =>
    obtain ⟨s, hMatched, hRelated⟩ := ih
    rcases hStep _ _ _ _ _ hRun hRelated hNext with ⟨e, s', hLabel, hMatch, hRelated'⟩ | ⟨hLabel, hRelated'⟩
    · rw [List.filterMap_cons_some hLabel]
      exact ⟨s', .step hMatched hMatch, hRelated'⟩
    · rw [List.filterMap_cons_none hLabel]
      exact ⟨s, hMatched, hRelated'⟩

def exec (step : σ → α → Option (ε × σ)) : σ → List α → Option (List ε × σ)
  | s, [] => some ([], s)
  | s, a :: as => do
    let (e, s₁) ← step s a
    let (tr, s₂) ← exec step s₁ as
    return (tr ++ [e], s₂)

theorem Run.append_exec {step : σ → α → Option (ε × σ)}
    (hStep : ∀ s a e s', step s a = some (e, s') → S.next s e s') {as : List α}
    {pre tr : List ε} {s s' : σ} (hRun : S.Run pre s) (h : exec step s as = some (tr, s')) :
    S.Run (tr ++ pre) s' := by
  induction as generalizing pre tr s with
  | nil =>
    cases h
    exact hRun
  | cons a as ih =>
    obtain ⟨⟨e, s₁⟩, hFirst, hRest⟩ := Option.bind_eq_some_iff.mp h
    obtain ⟨⟨tr₂, s₂⟩, hSecond, hResult⟩ := Option.bind_eq_some_iff.mp hRest
    cases hResult
    have hRun₁ : S.Run (e :: pre) s₁ := .step hRun (hStep s a e s₁ hFirst)
    simpa using ih hRun₁ hSecond

theorem Run.of_exec {step : σ → α → Option (ε × σ)}
    (hStep : ∀ s a e s', step s a = some (e, s') → S.next s e s') {as : List α}
    {tr : List ε} {s s' : σ} (h0 : S.initial s) (h : exec step s as = some (tr, s')) :
    S.Run tr s' := by
  simpa using Run.append_exec hStep (.start h0) h

theorem Run.exists_of_exec {step : σ → α → Option (ε × σ)}
    (hStep : ∀ s a e s', step s a = some (e, s') → S.next s e s') (as : List α)
    {P : List ε → σ → Prop} [∀ tr s, Decidable (P tr s)] {s : σ} (h0 : S.initial s)
    (h : (exec step s as).any (fun r => decide (P r.1 r.2)) = true) :
    ∃ tr s', S.Run tr s' ∧ P tr s' := by
  obtain ⟨⟨tr, s'⟩, hExec, hTest⟩ := (Option.any_eq_true _ _).mp h
  exact ⟨tr, s', Run.of_exec hStep h0 hExec, of_decide_eq_true hTest⟩

theorem Run.exists_append_exec {step : σ → α → Option (ε × σ)}
    (hStep : ∀ s a e s', step s a = some (e, s') → S.next s e s') {pre : List ε} {s : σ}
    (hRun : S.Run pre s) (as : List α) {P : List ε → σ → Prop} [∀ tr s, Decidable (P tr s)]
    (h : (exec step s as).any (fun r => decide (P r.1 r.2)) = true) :
    ∃ post s', S.Run (post ++ pre) s' ∧ P post s' := by
  obtain ⟨⟨post, s'⟩, hExec, hTest⟩ := (Option.any_eq_true _ _).mp h
  exact ⟨post, s', Run.append_exec hStep hRun hExec, of_decide_eq_true hTest⟩

theorem Run.exists_of_exec_guard {step : σ → α → Option (ε × σ)}
    (hStep : ∀ s a e s', step s a = some (e, s') → S.next s e s') {G : σ → ε → Prop}
    (check : σ → ε → Bool) (hCheck : ∀ s e, check s e = true → G s e) (as : List α)
    {P : List ε → σ → Prop} [∀ tr s, Decidable (P tr s)] {s : σ} (h0 : S.initial s)
    (h : (exec (fun s a => (step s a).filter fun r => check s r.1) s as).any
      (fun r => decide (P r.1 r.2)) = true) :
    ∃ tr s', (S.guard G).Run tr s' ∧ P tr s' := by
  refine Run.exists_of_exec (S := S.guard G) (fun s a e s' hNext => ?_) as h0 h
  obtain ⟨hSome, hPass⟩ := Option.filter_eq_some_iff.mp hNext
  exact ⟨hCheck s e hPass, hStep s a e s' hSome⟩

end System

end RdmnetBroker.Library
