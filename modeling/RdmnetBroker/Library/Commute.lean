import Mathlib.Data.List.Pairwise
import Mathlib.Data.List.Perm.Basic

/-! # Sequences of commuting steps

A list of steps is run by `foldl`. Where the steps commute the order of the list
is immaterial; one step that does not commute with all others may be run first
when it commutes with those before it.
-/

namespace RdmnetBroker.Library

set_option autoImplicit false

universe u v

variable {σ : Type u} {α : Type v}

def Commutes (f : σ → α → σ) (a b : α) : Prop := ∀ s, f (f s a) b = f (f s b) a

variable {f : σ → α → σ} {x : α} {l before after before' after' : List α}

instance : Std.Symm (Commutes f) := ⟨fun _ _ h s => (h s).symm⟩

theorem foldl_move_front (h : ∀ b ∈ before, Commutes f x b) (s : σ) :
    (before ++ x :: after).foldl f s = (before ++ after).foldl f (f s x) := by
  induction before generalizing s with
  | nil => rfl
  | cons b before ih =>
    rw [List.cons_append, List.foldl_cons, ih fun c hc => h c (.tail _ hc), List.cons_append,
      List.foldl_cons, h b (.head _) s]

/-- Two orders of the same steps, in both of which `x` can be run first. -/
theorem foldl_eq_of_perm (hPerm : (before ++ x :: after).Perm (before' ++ x :: after'))
    (hBefore : ∀ b ∈ before, Commutes f x b) (hBefore' : ∀ b ∈ before', Commutes f x b)
    (hRest : ∀ a ∈ before ++ after, ∀ b ∈ before ++ after, Commutes f a b) (s : σ) :
    (before ++ x :: after).foldl f s = (before' ++ x :: after').foldl f s := by
  have hRestPerm : (before ++ after).Perm (before' ++ after') :=
    (List.perm_middle.symm.trans (hPerm.trans List.perm_middle)).cons_inv
  rw [foldl_move_front hBefore, foldl_move_front hBefore']
  exact hRestPerm.foldl_eq' (fun a ha b hb s => hRest a ha b hb s) (f s x)

/-- In a list without repetition, what `x` precedes is not before it. -/
theorem exists_split_of_precedes {y : α} (hNodup : l.Nodup) (h : [x, y].Sublist l) :
    ∃ before after, l = before ++ x :: after ∧ y ∉ before := by
  obtain ⟨first, second, rfl, hx, hy⟩ := List.cons_sublist_iff.mp h
  obtain ⟨before, after, rfl⟩ := List.append_of_mem hx
  refine ⟨before, after ++ second, by simp, fun hMem => ?_⟩
  rw [List.nodup_append] at hNodup
  exact hNodup.2.2 y (List.mem_append_left _ hMem) y (List.singleton_sublist.mp hy) rfl

end RdmnetBroker.Library
