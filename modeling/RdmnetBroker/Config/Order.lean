import Mathlib.Data.List.Nodup
import RdmnetBroker.Config.Load
import RdmnetBroker.Library.Commute

/-! # The order of the table

Two slots are independent when neither writes what the other writes or reads.
All pairs of slots are, except that the default service name carries the CID;
so the order of the table is immaterial as long as the CID comes first of these two.
-/

namespace RdmnetBroker

open Library

set_option autoImplicit false

namespace Slot

structure Independent (a b : Slot) : Prop where
  set_comm : ∀ x y c, a.field.set x (b.field.set y c) = b.field.set y (a.field.set x c)
  get_left : ∀ y c, a.field.get (b.field.set y c) = a.field.get c
  get_right : ∀ x c, b.field.get (a.field.set x c) = b.field.get c
  default_left : ∀ y c, a.default (b.field.set y c) = a.default c
  default_right : ∀ x c, b.default (a.field.set x c) = b.default c

variable {a b : Slot}

theorem Independent.value_left (h : Independent a b) (doc : Json) (y : b.α) (c : BrokerConfig) :
    a.value doc (b.field.set y c) = a.value doc c := by
  rw [value, value, h.default_left, h.get_left]

theorem Independent.value_right (h : Independent a b) (doc : Json) (x : a.α) (c : BrokerConfig) :
    b.value doc (a.field.set x c) = b.value doc c := by
  rw [value, value, h.default_right, h.get_right]

theorem Independent.store_comm (h : Independent a b) (doc : Json) :
    Commutes (fun c slot => slot.store doc c) a b := by
  intro c
  change b.field.set (b.value doc (a.field.set (a.value doc c) c)) (a.field.set (a.value doc c) c) =
    a.field.set (a.value doc (b.field.set (b.value doc c) c)) (b.field.set (b.value doc c) c)
  rw [h.value_left, h.value_right, h.set_comm]

theorem Independent.storeDefault_comm (h : Independent a b) :
    Commutes (fun c slot => slot.storeDefault c) a b := by
  intro c
  change b.field.set (b.default (a.field.set (a.default c) c)) (a.field.set (a.default c) c) =
    a.field.set (a.default (b.field.set (b.default c) c)) (b.field.set (b.default c) c)
  rw [h.default_left, h.default_right, h.set_comm]

end Slot

/-- The slots beside the CID write different fields, and no default reads a field of another. -/
theorem slots_tail_independent (L : Libraries) : (slots L).tail.Pairwise Slot.Independent := by
  simp only [slots, List.tail_cons, List.pairwise_cons, List.forall_mem_cons, List.not_mem_nil,
    false_implies, implies_true, and_true, List.Pairwise.nil]
  and_intros
  all_goals
    exact ⟨fun _ _ _ => rfl, fun _ _ => rfl, fun _ _ => rfl, fun _ _ => rfl, fun _ _ => rfl⟩

theorem cidSlot_independent (L : Libraries) :
    ∀ slot ∈ (slots L).tail, slot = serviceInstanceNameSlot L ∨ Slot.Independent (cidSlot L) slot := by
  simp only [slots, List.tail_cons, List.forall_mem_cons, List.not_mem_nil, false_implies, implies_true,
    and_true]
  refine ⟨.inr ?_, .inl trivial, .inr ?_, .inr ?_, .inr ?_, .inr ?_, .inr ?_, .inr ?_, .inr ?_, .inr ?_,
    .inr ?_, .inr ?_, .inr ?_, .inr ?_, .inr ?_⟩
  all_goals
    exact ⟨fun _ _ _ => rfl, fun _ _ => rfl, fun _ _ => rfl, fun _ _ => rfl, fun _ _ => rfl⟩

/-- The sum of the bytes of a pointer, which differs from entry to entry. -/
def pointerWeight (slot : Slot) : Nat := slot.entry.pointer.flatten.foldl (fun n b => n + b.toNat) 0

theorem pointerWeight_nodup (L : Libraries) : ((slots L).map pointerWeight).Nodup := by
  have hWeights : (slots L).map pointerWeight = [304, 322, 2848, 1928, 1164, 538, 1203, 1810, 953,
    1608, 1628, 2464, 1160, 1996, 2340, 1355] := rfl
  rw [hWeights]
  decide

theorem slots_nodup (L : Libraries) : (slots L).Nodup :=
  List.Nodup.of_map _ (pointerWeight_nodup L)

theorem eq_of_entry_eq {L : Libraries} {a b : Slot} (ha : a ∈ slots L) (hb : b ∈ slots L)
    (h : a.entry = b.entry) : a = b :=
  List.inj_on_of_nodup_map (pointerWeight_nodup L) ha hb (by rw [pointerWeight, h, pointerWeight])

/-- A permutation of the table that keeps the CID before the service name, as slots. -/
theorem exists_slots_of_perm {L : Libraries} {table : List Validator}
    (hPerm : table.Perm (kSettingsValidatorArray L))
    (hOrder : [cidEntry L, serviceInstanceNameEntry L].Sublist table) :
    ∃ before after, table = (before ++ cidSlot L :: after).map (·.entry) ∧
      (before ++ cidSlot L :: after).Perm (slots L) ∧ serviceInstanceNameSlot L ∉ before := by
  have hCid : cidSlot L ∈ slots L := .head _
  have hName : serviceInstanceNameSlot L ∈ slots L := .tail _ (.tail _ (.head _))
  obtain ⟨slots', rfl, hSlots⟩ : Relation.Comp (· = List.map (·.entry) ·) List.Perm table (slots L) := by
    rw [List.eq_map_comp_perm]
    exact hPerm
  obtain ⟨pair, hSublist, hPair⟩ := List.sublist_map_iff.mp hOrder
  obtain ⟨cid, rest, rfl, hCidEntry, hRest⟩ := List.map_eq_cons_iff.mp hPair.symm
  obtain ⟨name, rfl, hNameEntry⟩ := List.map_eq_singleton_iff.mp hRest
  have hMem : ∀ slot ∈ [cid, name], slot ∈ slots L := fun slot h => hSlots.subset (hSublist.subset h)
  cases eq_of_entry_eq (hMem cid (.head _)) hCid hCidEntry
  cases eq_of_entry_eq (hMem name (.tail _ (.head _))) hName hNameEntry
  obtain ⟨before, after, rfl, hBefore⟩ :=
    exists_split_of_precedes (hSlots.nodup_iff.mpr (slots_nodup L)) hSublist
  exact ⟨before, after, rfl, hSlots, hBefore⟩

/-- Any step that commutes on independent slots leaves the same, in the two orders. -/
theorem foldl_slots_eq {L : Libraries} {before after : List Slot}
    (hPerm : (before ++ cidSlot L :: after).Perm (slots L))
    (hBefore : serviceInstanceNameSlot L ∉ before) {f : BrokerConfig → Slot → BrokerConfig}
    (hf : ∀ a b, Slot.Independent a b → Commutes f a b) (c : BrokerConfig) :
    (before ++ cidSlot L :: after).foldl f c = (slots L).foldl f c := by
  have hTail : (before ++ after).Perm (slots L).tail :=
    (List.perm_middle.symm.trans hPerm).cons_inv
  have hCommutes : (slots L).tail.Pairwise (Commutes f) :=
    (slots_tail_independent L).imp fun h => hf _ _ h
  have hFirst : ∀ b ∈ before, Commutes f (cidSlot L) b := by
    intro b hb
    rcases cidSlot_independent L b (hTail.subset (List.mem_append_left _ hb)) with rfl | hIndependent
    · exact absurd hb hBefore
    · exact hf _ _ hIndependent
  have hRest : ∀ a ∈ before ++ after, ∀ b ∈ before ++ after, Commutes f a b :=
    fun a ha b hb => hCommutes.forall_of_forall (fun _ _ _ => rfl) (hTail.subset ha) (hTail.subset hb)
  have hSlots : slots L = [] ++ cidSlot L :: (slots L).tail := rfl
  rw [hSlots] at hPerm ⊢
  exact foldl_eq_of_perm hPerm hFirst nofun hRest c

theorem table_order_immaterial (L : Libraries) (table : List Validator)
    (hPerm : table.Perm (kSettingsValidatorArray L))
    (hOrder : [cidEntry L, serviceInstanceNameEntry L].Sublist table) :
    (∀ log c, c.current.isObject = true → ∃ res c', ConfigYields (validateCurrentWith table log) c res c' ∧
      ConfigYields (validateCurrent L log) c res c') ∧
    ∀ c, ∃ c', ConfigYields (setDefaultsFrom table) c () c' ∧ ConfigYields (setDefaults L) c () c' := by
  obtain ⟨before, after, rfl, hSlots, hBefore⟩ := exists_slots_of_perm hPerm hOrder
  refine ⟨fun log c hObject => ?_, fun c => ?_⟩
  · have hTable := validateCurrentWith_yields_store (before ++ cidSlot L :: after) log c hObject
    rw [foldl_slots_eq hSlots hBefore (fun a b h => h.store_comm c.current)] at hTable
    refine ⟨_, _, hTable, ?_⟩
    have hAny : ((before ++ cidSlot L :: after).map (·.setting.erase)).any (·.rejected c.current) =
        (Setting.all L).any (·.rejected c.current) := (hSlots.map _).any_eq
    rw [hAny]
    exact validateCurrent_yields_store L log c hObject
  · have hTable := Slot.defaultLoop_yields (before ++ cidSlot L :: after) c
    rw [foldl_slots_eq hSlots hBefore (fun a b h => h.storeDefault_comm)] at hTable
    exact ⟨_, hTable, Slot.defaultLoop_yields (slots L) c⟩

/-- A document with a scope and a port that is refused. -/
def stageDocument : Json :=
  .object [(bytes "listen_port", .numberUnsigned 80#64), (bytes "scope", .string (bytes "stage"))]

theorem table_order_immaterial_uid_first :
    (uidEntry :: cidEntry .sample :: (kSettingsValidatorArray .sample).drop 2).Perm
        (kSettingsValidatorArray .sample) ∧
      (∀ c : BrokerConfig, ∃ res c', ConfigYields (validateCurrentWith
          (uidEntry :: cidEntry .sample :: (kSettingsValidatorArray .sample).drop 2) true)
          { c with current := stageDocument } res c' ∧
        ConfigYields (validateCurrent .sample true) { c with current := stageDocument } res c') ∧
      ∀ c, ∃ c', ConfigYields
        (setDefaultsFrom (uidEntry :: cidEntry .sample :: (kSettingsValidatorArray .sample).drop 2))
        c () c' ∧ ConfigYields (setDefaults .sample) c () c' := by
  have hPerm : (uidEntry :: cidEntry .sample :: (kSettingsValidatorArray .sample).drop 2).Perm
      (kSettingsValidatorArray .sample) := .swap _ _ _
  have hOrder : [cidEntry .sample, serviceInstanceNameEntry .sample].Sublist
      (uidEntry :: cidEntry .sample :: (kSettingsValidatorArray .sample).drop 2) :=
    .cons _ (.cons_cons _ (.cons_cons _ (List.nil_sublist _)))
  obtain ⟨hValidate, hDefaults⟩ := table_order_immaterial .sample _ hPerm hOrder
  exact ⟨hPerm, fun c => hValidate true { c with current := stageDocument } rfl, hDefaults⟩

end RdmnetBroker
