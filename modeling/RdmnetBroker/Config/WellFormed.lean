import RdmnetBroker.Config.Load

/-! # The settings of a file are well formed

Whatever a file holds, the settings that a load leaves are ones that the
broker library accepts: a value that is configured was accepted by its
decoding, and every default is acceptable too.
-/

namespace RdmnetBroker

set_option autoImplicit false

/-- A non-empty string that fits a padded length with its terminator. -/
def Fits (paddedLength : Nat) (s : Bytes) : Prop := s ≠ [] ∧ s.length ≤ paddedLength - 1

def Uid.WellFormed (uid : Uid) : Prop :=
  ∃ m : BitVec 16, 1 ≤ m.toNat ∧ m.toNat ≤ 0x7fff ∧
    ((∃ d, uid = Uid.ofStatic m d) ∨ uid = Uid.dynamicUidRequest m)

structure Settings.WellFormed (L : Libraries) (settings : Settings) : Prop where
  cid : settings.cid.isNull = false
  uid : settings.uid.WellFormed
  serviceInstanceName : Fits L.e133ServiceNameStringPaddedLength settings.dns.serviceInstanceName
  manufacturer : Fits L.e133ManufacturerStringPaddedLength settings.dns.manufacturer
  model : Fits L.e133ModelStringPaddedLength settings.dns.model
  scope : Fits L.e133ScopeStringPaddedLength settings.scope
  listenPort : settings.listenPort = 0 ∨
    1024 ≤ settings.listenPort.toNat ∧ settings.listenPort.toNat ≤ 65535

theorem Setting.configured_getD {α : Type} (setting : Setting α) (P : α → Prop) {a : α}
    (hDecode : ∀ v b, setting.decode v = some b → P b) (hDefault : P a) (doc : Json) :
    P ((setting.configured doc).getD a) := by
  cases hConfigured : setting.configured doc with
  | none => exact hDefault
  | some b =>
    unfold Setting.configured at hConfigured
    split at hConfigured
    · rename_i v _
      split at hConfigured
      · exact hDecode v b hConfigured
      · cases hConfigured
    · cases hConfigured

theorem decodeCid_wellFormed {L : Libraries} {v : Json} {u : Uuid} (h : decodeCid L v = some u) :
    u.isNull = false := by
  unfold decodeCid at h
  split at h
  · split at h
    · cases h
    · rename_i hNull
      cases h
      exact Bool.eq_false_iff.mpr hNull
  · cases h

theorem toNat_manufacturerId {m : Int} (hRange : ¬ (m < 1 ∨ 0x7fff < m)) :
    1 ≤ (BitVec.ofInt 16 m).toNat ∧ (BitVec.ofInt 16 m).toNat ≤ 0x7fff := by
  rw [BitVec.toNat_ofInt]
  omega

theorem uidOf_wellFormed {type : Bytes} {m : Int} {deviceId : Option Json} {u : Uid}
    (h : uidOf type m deviceId = some u) : u.WellFormed := by
  unfold uidOf at h
  split at h
  · cases h
  · rename_i hRange
    obtain ⟨hLow, hHigh⟩ := toNat_manufacturerId hRange
    refine ⟨BitVec.ofInt 16 m, hLow, hHigh, ?_⟩
    split at h
    · split at h
      · split at h
        · cases h
          exact .inl ⟨_, rfl⟩
        · cases h
      · cases h
    · split at h
      · split at h
        · cases h
          exact .inr rfl
        · cases h
      · cases h

theorem decodeUid_wellFormed {v : Json} {u : Uid} (h : decodeUid v = some u) : u.WellFormed := by
  unfold decodeUid at h
  split at h
  · exact uidOf_wellFormed h
  · cases h

theorem decodeString_fits {paddedLength : Nat} {truncationAllowed : Bool} {v : Json} {s : Bytes}
    (hLength : 1 < paddedLength) (h : decodeString (paddedLength - 1) truncationAllowed v = some s) :
    Fits paddedLength s := by
  unfold decodeString at h
  split at h
  · split at h
    · cases h
    · rename_i hNonempty
      split at h
      · cases h
        exact ⟨hNonempty, ‹_›⟩
      · split at h
        · cases h
          refine ⟨?_, List.length_take_le _ _⟩
          simp only [ne_eq, List.take_eq_nil_iff, hNonempty, or_false]
          omega
        · cases h
  · cases h

theorem decodeInt_listenPort {v : Json} {p : BitVec 16} (h : decodeInt (1024#16, 65535#16) v = some p) :
    1024 ≤ p.toNat ∧ p.toNat ≤ 65535 := by
  unfold decodeInt at h
  split at h
  · rename_i i _
    split at h
    · rename_i hRange
      cases h
      simp only [BitVec.toNat_ofNat] at hRange
      rw [BitVec.toNat_ofInt]
      omega
    · cases h
  · cases h

theorem decodeLogLevel_mem {L : Libraries} {v : Json} {mask : Int} (h : decodeLogLevel L v = some mask) :
    mask ∈ (kLogLevelOptions L).map Prod.snd := by
  unfold decodeLogLevel at h
  split at h
  · obtain ⟨p, hFind, rfl⟩ := Option.map_eq_some_iff.mp h
    exact List.mem_map_of_mem (List.mem_of_find?_eq_some hFind)
  · cases h

section Documented

variable {L : Libraries} {defaultCid : Uuid}

theorem defaultServiceInstanceName_fits (hL : L.Documented) (cid : Uuid) :
    Fits L.e133ServiceNameStringPaddedLength (defaultServiceInstanceName L cid) := by
  have hLength : (defaultServiceInstanceName L cid).length =
      (bytes "ETC RDMnet Broker ").length + 36 := by
    simp [defaultServiceInstanceName, hL.uuidToString_length]
  have hPrefix : (bytes "ETC RDMnet Broker ").length = 18 := by decide
  refine ⟨List.length_pos_iff.mp (by omega), ?_⟩
  rw [hLength, hPrefix, hL.serviceName_bound]
  decide

theorem manufacturer_fits (hL : L.Documented) : Fits L.e133ManufacturerStringPaddedLength (bytes "ETC") :=
  ⟨by decide, Nat.le_sub_one_of_lt hL.manufacturer_bound⟩

theorem model_fits (hL : L.Documented) :
    Fits L.e133ModelStringPaddedLength (bytes "RDMnet Broker Service") :=
  ⟨by decide, Nat.le_sub_one_of_lt hL.model_bound⟩

theorem Fits.one_lt {paddedLength : Nat} {s : Bytes} (h : Fits paddedLength s) : 1 < paddedLength := by
  have hPos := List.length_pos_iff.mpr h.1
  have hLe := h.2
  omega

theorem defaultScope_fits (hL : L.Documented) : Fits L.e133ScopeStringPaddedLength L.e133DefaultScope :=
  ⟨hL.defaultScope_ne_nil, Nat.le_sub_one_of_lt hL.defaultScope_bound⟩

theorem defaultUid_wellFormed : (Uid.dynamicUidRequest 0x6574#16).WellFormed :=
  ⟨0x6574#16, by decide, by decide, .inr rfl⟩

theorem defaultSettings_wellFormed (hL : L.Documented) (hCid : defaultCid.isNull = false) :
    (defaultSettings L defaultCid).WellFormed L where
  cid := hCid
  uid := defaultUid_wellFormed
  serviceInstanceName := defaultServiceInstanceName_fits hL defaultCid
  manufacturer := manufacturer_fits hL
  model := model_fits hL
  scope := defaultScope_fits hL
  listenPort := .inl rfl

theorem documentSettings_wellFormed (hL : L.Documented) (hCid : defaultCid.isNull = false) (doc : Json) :
    (documentSettings L defaultCid doc).WellFormed L where
  cid := (Setting.cid L).configured_getD (·.isNull = false) (fun _ _ h => decodeCid_wellFormed h) hCid doc
  uid := Setting.uid.configured_getD Uid.WellFormed (fun _ _ h => decodeUid_wellFormed h)
    defaultUid_wellFormed doc
  serviceInstanceName :=
    have hDefault := defaultServiceInstanceName_fits hL (((Setting.cid L).configured doc).getD defaultCid)
    (Setting.serviceInstanceName L).configured_getD (Fits _)
      (fun _ _ h => decodeString_fits hDefault.one_lt h) hDefault doc
  manufacturer := (Setting.manufacturer L).configured_getD (Fits _)
    (fun _ _ h => decodeString_fits (manufacturer_fits hL).one_lt h) (manufacturer_fits hL) doc
  model := (Setting.model L).configured_getD (Fits _)
    (fun _ _ h => decodeString_fits (model_fits hL).one_lt h) (model_fits hL) doc
  scope := (Setting.scope L).configured_getD (Fits _)
    (fun _ _ h => decodeString_fits (defaultScope_fits hL).one_lt h) (defaultScope_fits hL) doc
  listenPort := Setting.listenPort.configured_getD (fun p => p = 0 ∨ 1024 ≤ p.toNat ∧ p.toNat ≤ 65535)
    (fun _ _ h => .inr (decodeInt_listenPort h)) (.inl rfl) doc

theorem fileSettings_wellFormed (hL : L.Documented) (hCid : defaultCid.isNull = false) (file : ConfFile) :
    (fileSettings L defaultCid file).WellFormed L := by
  unfold fileSettings
  cases fileDocument? L file with
  | none => exact defaultSettings_wellFormed hL hCid
  | some doc => exact documentSettings_wellFormed hL hCid doc

theorem fileLogMask_mem (L : Libraries) (file : ConfFile) :
    fileLogMask L file ∈ (kLogLevelOptions L).map Prod.snd := by
  have hInfo : L.logUpto .info ∈ (kLogLevelOptions L).map Prod.snd := by simp [kLogLevelOptions]
  unfold fileLogMask
  cases fileDocument? L file with
  | none => exact hInfo
  | some doc =>
    exact (Setting.logLevel L).configured_getD (· ∈ (kLogLevelOptions L).map Prod.snd)
      (fun _ _ h => decodeLogLevel_mem h) hInfo doc

end Documented

end RdmnetBroker
