import Mathlib.Logic.Function.Basic

/-! # Generations of a value in numbered slots

A store maps keys to values, and `slot` names a key for every number. Slot `0`
holds the latest generation. Before a new one is stored, the slots below a
number `m` are copied one up, the highest first. A copy may fail, and then
leaves anything in its target; the copies below it are not made.
-/

namespace RdmnetBroker.Library.Slots

set_option autoImplicit false

universe u v w w'

variable {κ : Type u} {β : Type v} {ε : Type w}

/-- `m` is the first number below `bound` that does not meet `occupied`, or the bound. -/
structure IsFirstFree (occupied : Nat → Prop) (bound m : Nat) : Prop where
  le_bound : m ≤ bound
  below : ∀ i < m, occupied i
  free : m < bound → ¬ occupied m

theorem IsFirstFree.unique {occupied : Nat → Prop} {bound m n : Nat}
    (hm : IsFirstFree occupied bound m) (hn : IsFirstFree occupied bound n) : m = n := by
  rcases Nat.lt_trichotomy m n with hLt | hEq | hLt
  · exact absurd (hn.below m hLt) (hm.free (Nat.lt_of_lt_of_le hLt hn.le_bound))
  · exact hEq
  · exact absurd (hm.below n hLt) (hn.free (Nat.lt_of_lt_of_le hLt hm.le_bound))

theorem exists_isFirstFree (occupied : Nat → Prop) (bound : Nat) :
    ∃ m, IsFirstFree occupied bound m := by
  induction bound with
  | zero =>
    refine ⟨0, Nat.le_refl 0, fun i hi => ?_, fun h => absurd h (Nat.lt_irrefl 0)⟩
    exact absurd hi (Nat.not_lt_zero i)
  | succ bound ih =>
    obtain ⟨m, hFree⟩ := ih
    rcases Nat.lt_or_eq_of_le hFree.le_bound with hLt | rfl
    · exact ⟨m, Nat.le_succ_of_le hFree.le_bound, hFree.below, fun _ => hFree.free hLt⟩
    · by_cases hOccupied : occupied m
      · refine ⟨m + 1, Nat.le_refl _, fun i hi => ?_, fun h => absurd h (Nat.lt_irrefl _)⟩
        rcases Nat.lt_succ_iff_lt_or_eq.mp hi with hLower | rfl
        · exact hFree.below i hLower
        · exact hOccupied
      · exact ⟨m, Nat.le_succ m, hFree.below, fun _ => hOccupied⟩

section Shift

variable [DecidableEq κ]

/-- Copy slot `m - 1` to slot `m`, then slot `m - 2` to slot `m - 1`, and so on. -/
def shiftUp (slot : Nat → κ) : Nat → (κ → Option β) → κ → Option β
  | 0, d => d
  | m + 1, d => shiftUp slot m (Function.update d (slot (m + 1)) (d (slot m)))

variable {slot : Nat → κ} {d : κ → Option β} {m : Nat}

theorem shiftUp_of_ne {k : κ} (h : ∀ i < m, k ≠ slot (i + 1)) : shiftUp slot m d k = d k := by
  induction m generalizing d with
  | zero => rfl
  | succ m ih =>
    rw [shiftUp, ih fun i hi => h i (Nat.lt_succ_of_lt hi)]
    exact Function.update_of_ne (h m (Nat.lt_succ_self m)) _ _

theorem shiftUp_succ (hSlot : Function.Injective slot) {i : Nat} (hi : i < m) :
    shiftUp slot m d (slot (i + 1)) = d (slot i) := by
  induction m generalizing d with
  | zero => exact absurd hi (Nat.not_lt_zero i)
  | succ m ih =>
    rw [shiftUp]
    rcases Nat.lt_succ_iff_lt_or_eq.mp hi with hLt | rfl
    · rw [ih hLt]
      exact Function.update_of_ne (fun h => by have := hSlot h; omega) _ _
    · rw [shiftUp_of_ne fun j hj h => by have := hSlot h; omega]
      exact Function.update_self _ _ _

end Shift

/-- Of the copies below `m`, made from the highest down, the first that fails, and how. -/
structure FirstFault {φ : Type w} (fault : Nat → Option φ) (m k : Nat) (x : φ) : Prop where
  lt : k < m
  fault_eq : fault k = some x
  above : ∀ j, k < j → j < m → fault j = none

theorem FirstFault.succ {φ : Type w} {fault : Nat → Option φ} {m k : Nat} {x : φ}
    (h : FirstFault fault m k x) (hNone : fault m = none) : FirstFault fault (m + 1) k x where
  lt := Nat.lt_succ_of_lt h.lt
  fault_eq := h.fault_eq
  above j hLow hHigh := by
    rcases Nat.lt_succ_iff_lt_or_eq.mp hHigh with hLt | rfl
    · exact h.above j hLow hLt
    · exact hNone

theorem FirstFault.cases_succ {φ : Type w} {fault : Nat → Option φ} {m k : Nat} {x : φ}
    (h : FirstFault fault (m + 1) k x) :
    k = m ∧ fault m = some x ∨ fault m = none ∧ FirstFault fault m k x := by
  rcases Nat.lt_succ_iff_lt_or_eq.mp h.lt with hLt | rfl
  · right
    refine ⟨h.above m hLt (Nat.lt_succ_self m), hLt, h.fault_eq, fun j hLow hHigh => ?_⟩
    exact h.above j hLow (Nat.lt_succ_of_lt hHigh)
  · exact .inl ⟨rfl, h.fault_eq⟩

theorem none_or_firstFault {φ : Type w} (fault : Nat → Option φ) (m : Nat) :
    (∀ j < m, fault j = none) ∨ ∃ k x, FirstFault fault m k x := by
  induction m with
  | zero => exact .inl fun j hj => absurd hj (Nat.not_lt_zero j)
  | succ m ih =>
    cases hFault : fault m with
    | some x =>
      refine .inr ⟨m, x, Nat.lt_succ_self m, hFault, fun j hLow hHigh => ?_⟩
      omega
    | none =>
      rcases ih with hNone | ⟨k, x, hFirst⟩
      · left
        intro j hj
        rcases Nat.lt_succ_iff_lt_or_eq.mp hj with hLt | rfl
        · exact hNone j hLt
        · exact hFault
      · exact .inr ⟨k, x, hFirst.succ hFault⟩

section ShiftUntil

variable [DecidableEq κ]

/-- Copy as `shiftUp` does, until a copy fails and leaves something in its target. -/
def shiftUntil (slot : Nat → κ) (fault : Nat → Option (ε × Option β)) :
    Nat → (κ → Option β) → Option ε × (κ → Option β)
  | 0, d => (none, d)
  | m + 1, d =>
    match fault m with
    | some (e, left) => (some e, Function.update d (slot (m + 1)) left)
    | none => shiftUntil slot fault m (Function.update d (slot (m + 1)) (d (slot m)))

variable {slot : Nat → κ} {fault : Nat → Option (ε × Option β)} {d : κ → Option β} {m : Nat}

theorem shiftUntil_fault {x : ε × Option β} (h : fault m = some x) :
    shiftUntil slot fault (m + 1) d = (some x.1, Function.update d (slot (m + 1)) x.2) := by
  rw [shiftUntil, h]

theorem shiftUntil_next (h : fault m = none) : shiftUntil slot fault (m + 1) d =
    shiftUntil slot fault m (Function.update d (slot (m + 1)) (d (slot m))) := by
  rw [shiftUntil, h]

theorem shiftUntil_of_none (h : ∀ j < m, fault j = none) :
    shiftUntil slot fault m d = (none, shiftUp slot m d) := by
  induction m generalizing d with
  | zero => rfl
  | succ m ih =>
    rw [shiftUntil_next (h m (Nat.lt_succ_self m)), ih fun j hj => h j (Nat.lt_succ_of_lt hj)]
    rfl

theorem shiftUntil_of_ne {key : κ} (h : ∀ i < m, key ≠ slot (i + 1)) :
    (shiftUntil slot fault m d).2 key = d key := by
  induction m generalizing d with
  | zero => rfl
  | succ m ih =>
    have hTop := h m (Nat.lt_succ_self m)
    cases hFault : fault m with
    | some x =>
      rw [shiftUntil_fault hFault]
      exact Function.update_of_ne hTop _ _
    | none =>
      rw [shiftUntil_next hFault, ih fun i hi => h i (Nat.lt_succ_of_lt hi)]
      exact Function.update_of_ne hTop _ _

/-- What the copies leave when the one from slot `k` is the first that fails. -/
structure StoppedAt (slot : Nat → κ) (m k : Nat) (left : Option β) (d d' : κ → Option β) : Prop where
  target : d' (slot (k + 1)) = left
  moved : ∀ j, k < j → j < m → d' (slot (j + 1)) = d (slot j)
  other : ∀ key, (∀ j, k ≤ j → j < m → key ≠ slot (j + 1)) → d' key = d key

theorem shiftUntil_stoppedAt (hSlot : Function.Injective slot) {k : Nat} {x : ε × Option β}
    (h : FirstFault fault m k x) : (shiftUntil slot fault m d).1 = some x.1 ∧
      StoppedAt slot m k x.2 d (shiftUntil slot fault m d).2 := by
  induction m generalizing d with
  | zero => exact absurd h.lt (Nat.not_lt_zero k)
  | succ m ih =>
    rcases h.cases_succ with ⟨rfl, hFault⟩ | ⟨hNone, hFirst⟩
    · rw [shiftUntil_fault hFault]
      refine ⟨rfl, Function.update_self _ _ _, fun j hLow hHigh => ?_, fun key hKey => ?_⟩
      · omega
      · exact Function.update_of_ne (hKey k (Nat.le_refl k) (Nat.lt_succ_self k)) _ _
    · rw [shiftUntil_next hNone]
      obtain ⟨hError, hRest⟩ := ih (d := Function.update d (slot (m + 1)) (d (slot m))) hFirst
      have hLt := hFirst.lt
      refine ⟨hError, hRest.target, fun j hLow hHigh => ?_, fun key hKey => ?_⟩
      · rcases Nat.lt_succ_iff_lt_or_eq.mp hHigh with hLower | rfl
        · rw [hRest.moved j hLow hLower]
          exact Function.update_of_ne (fun hEq => by have := hSlot hEq; omega) _ _
        · rw [hRest.other _ fun i _ hi hEq => by have := hSlot hEq; omega]
          exact Function.update_self _ _ _
      · rw [hRest.other key fun j hLow hHigh => hKey j hLow (Nat.lt_succ_of_lt hHigh)]
        exact Function.update_of_ne (hKey m (Nat.le_of_lt hLt) (Nat.lt_succ_self m)) _ _

/-- Every copy that is made, or fails, leaves its target as it was. -/
def CopiesKeep (slot : Nat → κ) (fault : Nat → Option (ε × Option β)) (m : Nat) (d : κ → Option β) : Prop :=
  ∀ j < m, (∀ i, j < i → i < m → fault i = none) →
    d (slot (j + 1)) = ((fault j).map Prod.snd).getD (d (slot j))

theorem shiftUntil_of_keep (h : CopiesKeep slot fault m d) : (shiftUntil slot fault m d).2 = d := by
  induction m with
  | zero => rfl
  | succ m ih =>
    have hTop := h m (Nat.lt_succ_self m) fun i hLow hHigh => by omega
    cases hFault : fault m with
    | some x =>
      rw [shiftUntil_fault hFault]
      rw [hFault] at hTop
      rw [show x.2 = d (slot (m + 1)) from hTop.symm, Function.update_eq_self]
    | none =>
      rw [shiftUntil_next hFault]
      rw [hFault] at hTop
      rw [show d (slot m) = d (slot (m + 1)) from hTop.symm, Function.update_eq_self]
      apply ih
      intro j hj hAbove
      apply h j (Nat.lt_succ_of_lt hj)
      intro i hLow hHigh
      rcases Nat.lt_succ_iff_lt_or_eq.mp hHigh with hLt | rfl
      · exact hAbove i hLow hLt
      · exact hFault

theorem shiftUntil_eq_self_iff (hSlot : Function.Injective slot) :
    (shiftUntil slot fault m d).2 = d ↔ CopiesKeep slot fault m d := by
  refine ⟨fun hSame j hj hAbove => ?_, shiftUntil_of_keep⟩
  cases hFault : fault j with
  | some x =>
    have hTarget := (shiftUntil_stoppedAt hSlot (d := d) ⟨hj, hFault, hAbove⟩).2.target
    rw [hSame] at hTarget
    exact hTarget
  | none =>
    rcases none_or_firstFault fault m with hNone | ⟨k, x, hFirst⟩
    · rw [shiftUntil_of_none hNone] at hSame
      exact (congrFun hSame _).symm.trans (shiftUp_succ hSlot hj)
    · have hLower : k < j := by
        rcases Nat.lt_trichotomy k j with hLt | rfl | hGt
        · exact hLt
        · rw [hFirst.fault_eq] at hFault
          cases hFault
        · have hNone := hAbove k hGt hFirst.lt
          rw [hFirst.fault_eq] at hNone
          cases hNone
      have hMoved := (shiftUntil_stoppedAt hSlot (d := d) hFirst).2.moved j hLower hj
      rw [hSame] at hMoved
      exact hMoved

end ShiftUntil

/-- The store holds the generations, the latest first, up to slot `bound`, and nothing else. -/
structure Holds (slot : Nat → κ) (bound : Nat) (generations : List β) (d : κ → Option β) : Prop where
  slot_eq : ∀ i ≤ bound, d (slot i) = generations[i]?
  other : ∀ k, (∀ i ≤ bound, k ≠ slot i) → d k = none

variable {slot : Nat → κ} {d : κ → Option β} {bound m : Nat}

theorem Holds.nil : Holds slot bound ([] : List β) fun _ => none where
  slot_eq _ _ := rfl
  other _ _ := rfl

theorem Holds.isFirstFree {generations : List β} (h : Holds slot bound generations d) :
    IsFirstFree (fun i => (d (slot i)).isSome) bound (min generations.length bound) where
  le_bound := Nat.min_le_right _ _
  below i hi := by
    rw [h.slot_eq i (by omega), List.getElem?_eq_getElem (by omega)]
    rfl
  free hLt := by
    rw [h.slot_eq _ (by omega), List.getElem?_eq_none (by omega)]
    exact Bool.false_ne_true

theorem Holds.push [DecidableEq κ] (hSlot : Function.Injective slot) {generations : List β}
    (h : Holds slot bound generations d) (x : β) :
    Holds slot bound (x :: generations)
      (Function.update (shiftUp slot (min generations.length bound) d) (slot 0) (some x)) where
  slot_eq i hi := by
    cases i with
    | zero => rw [Function.update_self, List.getElem?_cons_zero]
    | succ i =>
      rw [Function.update_of_ne (fun hEq => absurd (hSlot hEq) (Nat.succ_ne_zero i)),
        List.getElem?_cons_succ]
      rcases Nat.lt_or_ge i (min generations.length bound) with hLt | hGe
      · rw [shiftUp_succ hSlot hLt, h.slot_eq i (by omega)]
      · rw [shiftUp_of_ne fun j hj hEq => by have := hSlot hEq; omega, h.slot_eq _ hi,
          List.getElem?_eq_none (by omega), List.getElem?_eq_none (by omega)]
  other k hk := by
    rw [Function.update_of_ne (hk 0 (Nat.zero_le _)), shiftUp_of_ne fun i hi => hk (i + 1) (by omega)]
    exact h.other k hk

/-- The run rule: a step that stores one generation, taken for every input in turn. -/
theorem Holds.foldl {α : Type w} {τ : Type w'} (view : τ → κ → Option β) (step : τ → α → τ) (value : α → β)
    (hStep : ∀ t a generations, Holds slot bound generations (view t) →
      Holds slot bound (value a :: generations) (view (step t a)))
    {t : τ} {generations : List β} (h : Holds slot bound generations (view t)) (as : List α) :
    Holds slot bound ((as.map value).reverse ++ generations) (view (as.foldl step t)) := by
  induction as generalizing t generations with
  | nil => exact h
  | cons a as ih =>
    rw [List.map_cons, List.reverse_cons, List.append_assoc]
    exact ih (hStep t a generations h)

end RdmnetBroker.Library.Slots
