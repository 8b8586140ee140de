import RdmnetBroker.Config.Rereads
import RdmnetBroker.Library.Utf8

/-! # Which values are accepted, and what is stored

The `uid` object by its grammar, and the integer settings by their intervals,
both over the mathematical values of the numbers: neither the conversion to
`int64_t` nor the narrowing casts let another number through. Overlong strings
are cut by bytes, which may leave a part of a character.
-/

namespace RdmnetBroker

open Library

set_option autoImplicit false

/-- What a `uid` object says: its type, the manufacturer ID and the device ID. -/
inductive UidFields
  | static (manufacturerId deviceId : Int)
  | dynamic (manufacturerId : Int)

namespace UidFields

def uid : UidFields → Uid
  | .static manufacturerId deviceId =>
    Uid.ofStatic (BitVec.ofInt 16 manufacturerId) (BitVec.ofInt 32 deviceId)
  | .dynamic manufacturerId => Uid.dynamicUidRequest (BitVec.ofInt 16 manufacturerId)

end UidFields

/-- The grammar of the `uid` object, over the three keys that it knows. -/
inductive DescribesUid (v : Json) : UidFields → Prop
  | static (m d : Int) : v.member? (bytes "type") = some (.string (bytes "static")) →
      (v.member? (bytes "manufacturer_id")).bind Json.intValue? = some m → 1 ≤ m → m ≤ 0x7fff →
      (v.member? (bytes "device_id")).bind Json.intValue? = some d → 0 ≤ d → d < 2 ^ 32 →
      DescribesUid v (.static m d)
  | dynamic (m : Int) : v.member? (bytes "type") = some (.string (bytes "dynamic")) →
      (v.member? (bytes "manufacturer_id")).bind Json.intValue? = some m → 1 ≤ m → m ≤ 0x7fff →
      v.member? (bytes "device_id") = none → DescribesUid v (.dynamic m)

theorem DescribesUid.decode {v : Json} {u : UidFields} (h : DescribesUid v u) :
    decodeUid v = some u.uid := by
  cases h with
  | static m d hType hManu hLow hHigh hDevice hDeviceLow hDeviceHigh =>
    have hRange : ¬ (m < 1 ∨ 0x7fff < m) := by omega
    have hDeviceRange : 0 ≤ d ∧ d ≤ 0xffffffff := by omega
    simp only [decodeUid, hType, hManu, uidOf, if_neg hRange, if_true, hDevice, if_pos hDeviceRange,
      UidFields.uid]
  | dynamic m hType hManu hLow hHigh hDevice =>
    have hRange : ¬ (m < 1 ∨ 0x7fff < m) := by omega
    have hStatic : bytes "dynamic" ≠ bytes "static" := by decide
    simp only [decodeUid, hType, hManu, uidOf, if_neg hRange, if_neg hStatic, if_true, hDevice,
      Option.isNone_none, UidFields.uid]

theorem describesUid_of_uidOf {v : Json} {type : Bytes} {m : Int} {x : Uid}
    (hType : v.member? (bytes "type") = some (.string type))
    (hManu : (v.member? (bytes "manufacturer_id")).bind Json.intValue? = some m)
    (h : uidOf type m (v.member? (bytes "device_id")) = some x) : ∃ u, DescribesUid v u := by
  unfold uidOf at h
  split at h
  · cases h
  · rename_i hRange
    split at h
    · rename_i hStatic
      subst hStatic
      split at h
      · rename_i d hDevice
        split at h
        · rename_i hDeviceRange
          exact ⟨_, .static m d hType hManu (by omega) (by omega) hDevice hDeviceRange.1 (by omega)⟩
        · cases h
      · cases h
    · split at h
      · rename_i hDynamic
        subst hDynamic
        split at h
        · rename_i hDevice
          exact ⟨_, .dynamic m hType hManu (by omega) (by omega) (Option.isNone_iff_eq_none.mp hDevice)⟩
        · cases h
      · cases h

theorem decodeUid_isSome_iff (v : Json) : (decodeUid v).isSome = true ↔ ∃ u, DescribesUid v u := by
  constructor
  · intro h
    obtain ⟨x, hDecode⟩ := Option.isSome_iff_exists.mp h
    unfold decodeUid at hDecode
    split at hDecode
    · rename_i type m hType hManu
      exact describesUid_of_uidOf hType hManu hDecode
    · cases hDecode
  · rintro ⟨u, hDescribes⟩
    rw [hDescribes.decode]
    rfl

/-- Bit 15 is free in a manufacturer ID, so a request keeps the ID apart from the mark. -/
theorem toNat_or_mark (x : BitVec 16) (h : x.toNat < 2 ^ 15) :
    (x ||| 0x8000#16).toNat = 2 ^ 15 + x.toNat := by
  rw [BitVec.or_comm, BitVec.toNat_or]
  exact (Nat.two_pow_add_eq_or_of_lt h 1).symm

theorem toNat_ofInt_manufacturer {m : Int} (hLow : 1 ≤ m) (hHigh : m ≤ 0x7fff) :
    ((BitVec.ofInt 16 m).toNat : Int) = m := by
  rw [BitVec.toNat_ofInt]
  omega

theorem toNat_ofInt_device {d : Int} (hLow : 0 ≤ d) (hHigh : d < 2 ^ 32) :
    ((BitVec.ofInt 32 d).toNat : Int) = d := by
  rw [BitVec.toNat_ofInt]
  omega

/-- A described UID is read back uniquely. -/
theorem DescribesUid.uid_inj {v v' : Json} {u u' : UidFields} (h : DescribesUid v u)
    (h' : DescribesUid v' u') (hUid : u.uid = u'.uid) : u = u' := by
  have hManufacturer := congrArg (fun x : Uid => x.manufacturerId.toNat) hUid
  have hDevice := congrArg (fun x : Uid => x.deviceId.toNat) hUid
  cases h with
  | static m d _ _ hLow hHigh _ hDeviceLow hDeviceHigh =>
    have hm := toNat_ofInt_manufacturer hLow hHigh
    have hd := toNat_ofInt_device hDeviceLow hDeviceHigh
    cases h' with
    | static m' d' _ _ hLow' hHigh' _ hDeviceLow' hDeviceHigh' =>
      have hm' := toNat_ofInt_manufacturer hLow' hHigh'
      have hd' := toNat_ofInt_device hDeviceLow' hDeviceHigh'
      simp only [UidFields.uid, Uid.ofStatic] at hManufacturer hDevice
      rw [show m = m' by omega, show d = d' by omega]
    | dynamic m' _ _ hLow' hHigh' =>
      have hm' := toNat_ofInt_manufacturer hLow' hHigh'
      simp only [UidFields.uid, Uid.ofStatic, Uid.dynamicUidRequest] at hManufacturer
      rw [toNat_or_mark _ (by omega)] at hManufacturer
      omega
  | dynamic m _ _ hLow hHigh =>
    have hm := toNat_ofInt_manufacturer hLow hHigh
    cases h' with
    | static m' d' _ _ hLow' hHigh' =>
      have hm' := toNat_ofInt_manufacturer hLow' hHigh'
      simp only [UidFields.uid, Uid.ofStatic, Uid.dynamicUidRequest] at hManufacturer
      rw [toNat_or_mark _ (by omega)] at hManufacturer
      omega
    | dynamic m' _ _ hLow' hHigh' =>
      have hm' := toNat_ofInt_manufacturer hLow' hHigh'
      simp only [UidFields.uid, Uid.dynamicUidRequest] at hManufacturer
      rw [toNat_or_mark _ (by omega), toNat_or_mark _ (by omega)] at hManufacturer
      rw [show m = m' by omega]

theorem ConfigYields.unique {α : Type} {m : ConfigM α} {c c₁ c₂ : BrokerConfig} {a₁ a₂ : α}
    (h₁ : ConfigYields m c a₁ c₁) (h₂ : ConfigYields m c a₂ c₂) : a₁ = a₂ ∧ c₁ = c₂ := by
  obtain ⟨s₁, hRun₁, rfl⟩ := h₁ ⟨c, []⟩ rfl
  obtain ⟨s₂, hRun₂, rfl⟩ := h₂ ⟨c, []⟩ rfl
  cases hRun₁.symm.trans hRun₂
  exact ⟨rfl, rfl⟩

theorem DescribesUid.stored {v : Json} {u : UidFields} (h : DescribesUid v u) (log : Bool)
    (c : BrokerConfig) : ConfigYields (validateAndStoreUid v log) c true (Field.uid.set u.uid c) := by
  have hYields := validateAndStoreUid_yields v log c
  rwa [h.decode] at hYields

theorem decodeUid_congr {v v' : Json}
    (h : ∀ key ∈ [bytes "type", bytes "manufacturer_id", bytes "device_id"],
      v.member? key = v'.member? key) : decodeUid v = decodeUid v' := by
  unfold decodeUid
  rw [h (bytes "type") (by simp), h (bytes "manufacturer_id") (by simp),
    h (bytes "device_id") (by simp)]

theorem validateAndStoreUid_grammar (v : Json) (log : Bool) (c : BrokerConfig) :
    ((∃ c', ConfigYields (validateAndStoreUid v log) c true c') ↔ ∃ u, DescribesUid v u) ∧
    ((∀ u, ¬ DescribesUid v u) → ConfigYields (validateAndStoreUid v log) c false c) ∧
    (∀ c' v' log' c₀ c₀', ConfigYields (validateAndStoreUid v log) c true c' →
      ConfigYields (validateAndStoreUid v' log') c₀ true c₀' →
        ∀ u u', DescribesUid v u → DescribesUid v' u' →
          (c'.settings.uid = c₀'.settings.uid ↔ u = u')) ∧
    ∀ v', (∀ key ∈ [bytes "type", bytes "manufacturer_id", bytes "device_id"],
        v.member? key = v'.member? key) →
      ∃ accepted c', ConfigYields (validateAndStoreUid v log) c accepted c' ∧
        ConfigYields (validateAndStoreUid v' log) c accepted c' := by
  have hYields := validateAndStoreUid_yields v log c
  refine ⟨⟨?_, ?_⟩, ?_, ?_, ?_⟩
  · rintro ⟨c', hAccepts⟩
    exact (decodeUid_isSome_iff v).mp (hYields.unique hAccepts).1
  · rintro ⟨u, hDescribes⟩
    exact ⟨_, hDescribes.stored log c⟩
  · intro hNone
    have hDecode : decodeUid v = none := by
      rw [← Option.not_isSome_iff_eq_none, decodeUid_isSome_iff]
      exact fun ⟨u, hDescribes⟩ => hNone u hDescribes
    rwa [hDecode] at hYields
  · intro c' v' log' c₀ c₀' hAccepts hAccepts' u u' hDescribes hDescribes'
    cases ((hDescribes.stored log c).unique hAccepts).2
    cases ((hDescribes'.stored log' c₀).unique hAccepts').2
    exact ⟨hDescribes.uid_inj hDescribes', fun h => congrArg UidFields.uid h⟩
  · intro v' hKeys
    have hYields' := validateAndStoreUid_yields v' log c
    rw [← decodeUid_congr hKeys] at hYields'
    exact ⟨_, _, hYields, hYields'⟩

def Json.isNumber (v : Json) : Bool := v.isNumberInteger || v.type == .numberFloat

/-- An entry of the table that is handled by `ValidateAndStoreInt`. -/
structure IntegerSetting where
  w : Nat
  width_le : w ≤ 32
  key : String
  field : FieldRef BrokerConfig (BitVec w)
  limits : BitVec w × BitVec w
  default : BitVec w
  current_frame : ∀ c a, (field.set a c).current = c.current

namespace IntegerSetting

def slot (s : IntegerSetting) : Slot :=
  intSlot s.width_le ("/" ++ s.key) [bytes s.key] s.field s.limits s.default fun a c => s.current_frame c a

def ofLimit (key : String) (field : FieldRef BrokerConfig (BitVec 32)) (default : BitVec 32)
    (current_frame : ∀ c a, (field.set a c).current = c.current) : IntegerSetting :=
  ⟨32, Nat.le_refl 32, key, field, (0, BitVec.allOnes 32), default, current_frame⟩

/-- An unsigned integer whose mathematical value is within the limits. -/
def Admits (s : IntegerSetting) (v : Json) : Prop :=
  ∃ n, v = .numberUnsigned n ∧ s.limits.1.toNat ≤ n.toNat ∧ n.toNat ≤ s.limits.2.toNat

end IntegerSetting

theorem sixteen_le : 16 ≤ 32 := by decide

def integerSettings : List IntegerSetting :=
  [⟨16, sixteen_le, "listen_port", Field.listenPort, (1024#16, 65535#16), 0#16, fun _ _ => rfl⟩,
    .ofLimit "max_connections" Field.connections 0 fun _ _ => rfl,
    .ofLimit "max_controllers" Field.controllers 0 fun _ _ => rfl,
    .ofLimit "max_controller_messages" Field.controllerMessages 500 fun _ _ => rfl,
    .ofLimit "max_devices" Field.devices 0 fun _ _ => rfl,
    .ofLimit "max_device_messages" Field.deviceMessages 500 fun _ _ => rfl,
    .ofLimit "max_reject_connections" Field.rejectConnections 1000 fun _ _ => rfl]

/-- The body of the loop of `ValidateCurrent` keeps the verdict. -/
def AcceptedBy (entry : Validator) (log : Bool) (c : BrokerConfig) : Prop :=
  ∀ res, ∃ c', ConfigYields (validateEntry log res entry) c res c'

theorem Slot.acceptedBy_iff (slot : Slot) (log : Bool) (c : BrokerConfig) :
    AcceptedBy slot.entry log c ↔ slot.setting.rejected c.current = false := by
  constructor
  · intro h
    obtain ⟨c', hAccepts⟩ := h .ok
    have hVerdict := ((slot.validateEntry_yields log .ok c).unique hAccepts).1
    cases hRejected : slot.setting.rejected c.current with
    | false => rfl
    | true =>
      rw [hRejected] at hVerdict
      cases hVerdict
  · intro hRejected res
    have hYields := slot.validateEntry_yields log res c
    rw [hRejected] at hYields
    exact ⟨_, hYields⟩

theorem Setting.rejected_of_lookup {α : Type} {setting : Setting α} {doc v : Json}
    (hLookup : doc.lookup setting.pointer = some v) : setting.rejected doc =
      (!v.isNull && (v.type != setting.type || (setting.decode v).isNone)) := by
  rw [rejected, hLookup]

theorem integerSettings_slots (L : Libraries) : integerSettings.map (·.slot) =
    ((slots L).drop 6).take 1 ++ ((slots L).drop 9).take 6 := rfl

theorem slot_mem_slots (L : Libraries) {s : IntegerSetting} (hs : s ∈ integerSettings) :
    s.slot ∈ slots L := by
  have hMem : s.slot ∈ integerSettings.map (·.slot) := List.mem_map_of_mem hs
  rw [integerSettings_slots L] at hMem
  rcases List.mem_append.mp hMem with hPort | hLimit
  · exact List.mem_of_mem_drop (List.mem_of_mem_take hPort)
  · exact List.mem_of_mem_drop (List.mem_of_mem_take hLimit)

theorem decodeInt_unsigned {w : Nat} (limits : BitVec w × BitVec w) (n : BitVec 64) :
    decodeInt limits (.numberUnsigned n) =
      if limits.1.toNat ≤ n.toNat ∧ n.toNat ≤ limits.2.toNat then some (n.setWidth w) else none := by
  simp [decodeInt, Json.intValue?]

theorem toNat_setWidth_of_le {w : Nat} {n : BitVec 64} {hi : BitVec w} (h : n.toNat ≤ hi.toNat) :
    (n.setWidth w).toNat = n.toNat := by
  rw [BitVec.toNat_setWidth]
  exact Nat.mod_eq_of_lt (lt_of_le_of_lt h hi.isLt)

/-- `ValidateAndStoreInt` at any width of at most 32 bits: an unsigned value is taken by
what it is, not by what a conversion makes of it. -/
theorem validateAndStoreInt_unsigned {w : Nat} (hw : w ≤ 32) (key : String) (n : BitVec 64)
    (field : FieldRef BrokerConfig (BitVec w)) (log : Bool) (limits : BitVec w × BitVec w)
    (c : BrokerConfig) :
    (limits.1.toNat ≤ n.toNat ∧ n.toNat ≤ limits.2.toNat →
      ∃ a : BitVec w, a.toNat = n.toNat ∧
        ConfigYields (validateAndStoreInt (some key) (.numberUnsigned n) field log limits) c true
          (field.set a c)) ∧
    (¬ (limits.1.toNat ≤ n.toNat ∧ n.toNat ≤ limits.2.toNat) →
      ConfigYields (validateAndStoreInt (some key) (.numberUnsigned n) field log limits) c false c) := by
  have hYields := validateAndStoreInt_yields hw key n field log limits c
  rw [decodeInt_unsigned] at hYields
  constructor
  · intro hIn
    rw [if_pos hIn] at hYields
    exact ⟨n.setWidth w, toNat_setWidth_of_le hIn.2, hYields⟩
  · intro hOut
    rwa [if_neg hOut] at hYields

namespace IntegerSetting

variable {s : IntegerSetting} {v : Json}

theorem Admits.type_eq (h : s.Admits v) : v.type = .numberUnsigned := by
  obtain ⟨n, rfl, -⟩ := h
  rfl

theorem decode_isSome_iff (hType : v.type = .numberUnsigned) :
    (s.slot.setting.decode v).isSome = true ↔ s.Admits v := by
  cases v with
  | numberUnsigned n =>
    change (decodeInt s.limits (.numberUnsigned n)).isSome = true ↔ _
    rw [decodeInt_unsigned]
    constructor
    · intro hSome
      split at hSome
      · rename_i hIn
        exact ⟨n, rfl, hIn⟩
      · cases hSome
    · rintro ⟨m, hEq, hIn⟩
      cases hEq
      rw [if_pos hIn]
      rfl
  | _ => cases hType

theorem rejected_eq_false_iff {doc : Json} (hLookup : doc.lookup [bytes s.key] = some v)
    (hNumber : v.isNumber = true) : s.slot.setting.rejected doc = false ↔ s.Admits v := by
  have hNull : v.isNull = false := by
    cases v <;> first | rfl | cases hNumber
  have hRejected : s.slot.setting.rejected doc =
      (v.type != .numberUnsigned || (s.slot.setting.decode v).isNone) := by
    have hPointer : doc.lookup s.slot.setting.pointer = some v := hLookup
    rw [Setting.rejected_of_lookup hPointer, hNull]
    rfl
  rw [hRejected]
  by_cases hType : v.type = .numberUnsigned
  · rw [← decode_isSome_iff hType, hType]
    cases s.slot.setting.decode v <;> simp
  · simp [hType, show ¬ s.Admits v from fun h => hType h.type_eq]

/-- What the document gives for the setting. -/
def documentValue (s : IntegerSetting) (doc : Json) : BitVec s.w :=
  ((⟨[bytes s.key], .numberUnsigned, decodeInt s.limits⟩ : Setting (BitVec s.w)).configured doc).getD
    s.default

theorem documentValue_of_admits {doc : Json} {n : BitVec 64}
    (hLookup : doc.lookup [bytes s.key] = some (.numberUnsigned n)) (h : s.Admits (.numberUnsigned n)) :
    (s.documentValue doc).toNat = n.toNat := by
  obtain ⟨m, hEq, hIn⟩ := h
  cases hEq
  have hValue : s.documentValue doc = n.setWidth s.w := by
    simp only [documentValue, Setting.configured, hLookup]
    rw [show (Json.numberUnsigned n).type = .numberUnsigned from rfl, if_pos rfl, decodeInt_unsigned,
      if_pos hIn]
    rfl
  rw [hValue]
  exact toNat_setWidth_of_le hIn.2

theorem documentValue_of_not_admits {doc : Json} (hLookup : doc.lookup [bytes s.key] = some v)
    (h : ¬ s.Admits v) : s.documentValue doc = s.default := by
  simp only [documentValue, Setting.configured, hLookup]
  split
  · rename_i hType
    have hDecode : ¬ (s.slot.setting.decode v).isSome = true := fun hSome =>
      h ((decode_isSome_iff hType).mp hSome)
    rw [Option.not_isSome_iff_eq_none] at hDecode
    rw [show decodeInt s.limits v = none from hDecode]
    rfl
  · rfl

end IntegerSetting

theorem field_documentConfig (L : Libraries) (doc : Json) (c : BrokerConfig) (interfaces : List Bytes) :
    ∀ s ∈ integerSettings,
      s.field.get (Field.listenInterfaces.set interfaces (documentConfig L doc c)) =
        s.documentValue doc := by
  simp only [integerSettings, List.forall_mem_cons, List.not_mem_nil, false_implies, implies_true,
    and_true]
  exact ⟨rfl, rfl, rfl, rfl, rfl, rfl, rfl⟩

theorem validateCurrent_integer (L : Libraries) (log : Bool) {s : IntegerSetting}
    (hs : s ∈ integerSettings) (c : BrokerConfig) (hObject : c.current.isObject = true) :
    ∃ c', ConfigYields (validateCurrent L log) c (documentResult L c.current) c' ∧
      s.field.get c' = s.documentValue c.current := by
  have hYields := validateCurrent_yields_store L log c hObject
  rw [slots_store_append] at hYields
  exact ⟨_, hYields, field_documentConfig L c.current c _ s hs⟩

theorem documentResult_of_rejected {L : Libraries} {slot : Slot} {doc : Json} (hSlot : slot ∈ slots L)
    (hRejected : slot.setting.rejected doc = true) : documentResult L doc = .invalidSetting := by
  have hAny : (Setting.all L).any (·.rejected doc) = true := by
    rw [← slots_settings, List.any_map, List.any_eq_true]
    exact ⟨slot, hSlot, (Slot.rejected_erase slot.setting doc).trans hRejected⟩
  rw [documentResult, if_pos hAny]

/-- Through the whole of `ValidateCurrent` for the seven settings, and through
`ValidateAndStoreInt` for any width and limits. -/
theorem integers_never_wrap (L : Libraries) (log : Bool) :
    (∀ s ∈ integerSettings, s.slot.entry ∈ kSettingsValidatorArray L ∧
      ∀ c v, c.current.isObject = true → c.current.lookup [bytes s.key] = some v → v.isNumber = true →
        (AcceptedBy s.slot.entry log c ↔ s.Admits v) ∧
        ∃ res c', ConfigYields (validateCurrent L log) c res c' ∧
          (∀ n, v = .numberUnsigned n → s.Admits v → (s.field.get c').toNat = n.toNat) ∧
          (¬ s.Admits v → s.field.get c' = s.default ∧ res = .invalidSetting)) ∧
    ∀ (w : Nat), w ≤ 32 → ∀ (key : String) (n : BitVec 64) (field : FieldRef BrokerConfig (BitVec w))
      (limits : BitVec w × BitVec w) (c : BrokerConfig),
      (limits.1.toNat ≤ n.toNat ∧ n.toNat ≤ limits.2.toNat →
        ∃ a : BitVec w, a.toNat = n.toNat ∧
          ConfigYields (validateAndStoreInt (some key) (.numberUnsigned n) field log limits) c true
            (field.set a c)) ∧
      (¬ (limits.1.toNat ≤ n.toNat ∧ n.toNat ≤ limits.2.toNat) →
        ConfigYields (validateAndStoreInt (some key) (.numberUnsigned n) field log limits) c false c) := by
  refine ⟨fun s hs => ⟨?_, fun c v hObject hLookup hNumber => ?_⟩, fun w hw key n field limits c =>
    validateAndStoreInt_unsigned hw key n field log limits c⟩
  · rw [← slots_entries]
    exact List.mem_map_of_mem (slot_mem_slots L hs)
  · have hIff := IntegerSetting.rejected_eq_false_iff hLookup hNumber
    refine ⟨(Slot.acceptedBy_iff _ log c).trans hIff, ?_⟩
    obtain ⟨c', hYields, hField⟩ := validateCurrent_integer L log hs c hObject
    refine ⟨_, c', hYields, ?_, fun hNot => ⟨?_, ?_⟩⟩
    · rintro n rfl hAdmits
      rw [hField]
      exact IntegerSetting.documentValue_of_admits hLookup hAdmits
    · rw [hField]
      exact IntegerSetting.documentValue_of_not_admits hLookup hNot
    · exact documentResult_of_rejected (slot_mem_slots L hs)
        (eq_true_of_ne_false fun hFalse => hNot (hIff.mp hFalse))

section Strings

variable (key : String) (str : Bytes) (field : FieldRef BrokerConfig Bytes) (maxSize : Nat) (log : Bool)
  (c : BrokerConfig)

/-- The string is stored, at most cut short, and what is stored is text. -/
def StoresText : Prop :=
  ∃ stored, ConfigYields (validateAndStoreString (some key) (.string str) field maxSize log true) c true
      (field.set stored c) ∧
    stored ≠ [] ∧ stored <+: str ∧ stored.length ≤ maxSize ∧ (str.length ≤ maxSize → stored = str) ∧
    Utf8.Valid stored

theorem validateAndStoreString_take (hStr : str ≠ []) :
    ConfigYields (validateAndStoreString (some key) (.string str) field maxSize log true) c true
      (field.set (str.take maxSize) c) := by
  have hDecode : decodeString maxSize true (.string str) = some (str.take maxSize) := by
    rw [decodeString, if_neg hStr]
    split
    · rename_i hFits
      rw [List.take_of_length_le hFits]
    · rfl
  have hYields := validateAndStoreString_yields key str field maxSize log true c
  rwa [hDecode] at hYields

theorem truncation_cuts_by_bytes (hSize : 4 ≤ maxSize) (hStr : str ≠ []) (hText : Utf8.Valid str) :
    ∃ stored, ConfigYields (validateAndStoreString (some key) (.string str) field maxSize log true) c
        true (field.set stored c) ∧
      stored ≠ [] ∧ stored <+: str ∧ stored.length ≤ maxSize ∧ (str.length ≤ maxSize → stored = str) ∧
      (Utf8.Valid stored ↔ ∀ b, str[maxSize]? = some b → b.IsUTF8FirstByte) := by
  refine ⟨str.take maxSize, validateAndStoreString_take key str field maxSize log c hStr, ?_,
    List.take_prefix _ _, ?_, List.take_of_length_le, Utf8.valid_take_iff hText⟩
  · intro hNil
    rcases List.take_eq_nil_iff.mp hNil with hZero | hEmpty
    · omega
    · exact hStr hEmpty
  · rw [List.length_take]
    omega

end Strings

theorem truncation_between_characters :
    ∃ stored, ConfigYields (validateAndStoreString (some "/dns_sd/model")
        (.string (Utf8.encode ['é', 'é', 'é'])) Field.model 4 true true) freshConfig true
        (Field.model.set stored freshConfig) ∧ Utf8.Valid stored := by
  obtain ⟨stored, hYields, -, -, -, -, hValid⟩ := truncation_cuts_by_bytes "/dns_sd/model"
    (Utf8.encode ['é', 'é', 'é']) Field.model 4 true freshConfig (by decide) (by decide) ⟨_, rfl⟩
  refine ⟨stored, hYields, hValid.mpr fun b hByte => ?_⟩
  cases hByte
  decide

/-- Of the last character, whose encoding has two bytes, one is kept. -/
theorem truncation_cuts_character :
    Utf8.encode ['a', 'a', 'a', 'é'] ≠ [] ∧ Utf8.Valid (Utf8.encode ['a', 'a', 'a', 'é']) ∧
      ¬ StoresText "/dns_sd/model" (Utf8.encode ['a', 'a', 'a', 'é']) Field.model 4 true freshConfig := by
  have hStr : Utf8.encode ['a', 'a', 'a', 'é'] ≠ [] := by decide
  have hText : Utf8.Valid (Utf8.encode ['a', 'a', 'a', 'é']) := ⟨_, rfl⟩
  refine ⟨hStr, hText, ?_⟩
  rintro ⟨stored, hYields, -, -, -, -, hValid⟩
  have hTake := validateAndStoreString_take "/dns_sd/model" (Utf8.encode ['a', 'a', 'a', 'é']) Field.model
    4 true freshConfig hStr
  have hStored := congrArg Field.model.get (hYields.unique hTake).2
  rw [Field.model.get_set, Field.model.get_set] at hStored
  rw [hStored] at hValid
  have hFirst := (Utf8.valid_take_iff hText).mp hValid 0xA9 (by decide)
  revert hFirst
  decide

end RdmnetBroker
