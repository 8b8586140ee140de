import RdmnetBroker.Config.Validators

/-! # The table of settings

A `Slot` is an entry of the table with the field it owns, the setting it
reads and the proof that it does so. One lemma says what the loop body does
with a slot; the loops over the table then follow by induction on the slots.
-/

namespace RdmnetBroker

open Library

set_option autoImplicit false

/-- An accepted value `a` makes the field `combine old a`: all slots but that of
the interfaces replace the old contents. -/
structure Slot where
  α : Type
  entry : Validator
  field : FieldRef BrokerConfig α
  setting : Setting α
  combine : α → α → α
  default : BrokerConfig → α
  pointer_eq : entry.pointer = setting.pointer
  type_eq : entry.type = setting.type
  type_ne_null : setting.type ≠ .null
  accepts : ∀ v log c a, v.type = setting.type → setting.decode v = some a →
    ConfigYields (entry.validateAndStore v log) c true (field.set (combine (field.get c) a) c)
  rejects : ∀ v log c, v.type = setting.type → setting.decode v = none →
    ∃ b, ConfigYields (entry.validateAndStore v log) c false (field.set b c)
  store_default : ∀ c, ConfigYields entry.storeDefault c () (field.set (default c) c)
  default_frame : ∀ b c, default (field.set b c) = default c
  current_frame : ∀ b c, (field.set b c).current = c.current

namespace Slot

def value (slot : Slot) (doc : Json) (c : BrokerConfig) : slot.α :=
  (slot.setting.configured doc).elim (slot.default c) (slot.combine (slot.field.get c))

def store (slot : Slot) (doc : Json) (c : BrokerConfig) : BrokerConfig :=
  slot.field.set (slot.value doc c) c

def storeDefault (slot : Slot) (c : BrokerConfig) : BrokerConfig :=
  slot.field.set (slot.default c) c

theorem validateEntry_yields (slot : Slot) (log : Bool) (res : ParseResult) (c : BrokerConfig) :
    ConfigYields (validateEntry log res slot.entry) c
      (if slot.setting.rejected c.current then .invalidSetting else res) (slot.store c.current c) := by
  rintro s rfl
  obtain ⟨sd, hDefaultRun, hDefaultConfig⟩ := slot.store_default s.config s rfl
  cases hLookup : s.config.current.lookup slot.setting.pointer with
  | none =>
    simp [validateEntry, Json.containsPointer, slot.pointer_eq, hLookup, store, value,
      Setting.configured, Setting.rejected, hDefaultRun, hDefaultConfig]
  | some v =>
    have hIndex : s.config.current.indexPointer slot.setting.pointer s = .ok v s := by
      simp [Json.indexPointer, hLookup]
    by_cases hNull : v.isNull = true
    · have hType : v.type ≠ slot.setting.type := by
        intro hEq
        exact slot.type_ne_null (hEq.symm.trans (by simpa [Json.isNull] using hNull))
      simp [validateEntry, Json.containsPointer, slot.pointer_eq, hLookup, hIndex, hNull, store, value,
        Setting.configured, Setting.rejected, hType, hDefaultRun, hDefaultConfig]
    · by_cases hType : v.type = slot.setting.type
      · cases hDecode : slot.setting.decode v with
        | some a =>
          obtain ⟨s', hRun, hConfig⟩ := slot.accepts v log s.config a hType hDecode s rfl
          simp [validateEntry, Json.containsPointer, slot.pointer_eq, slot.type_eq, hLookup, hIndex,
            hNull, store, value, Setting.configured, Setting.rejected, hType, hDecode, hRun, hConfig]
        | none =>
          obtain ⟨b, hYields⟩ := slot.rejects v log s.config hType hDecode
          obtain ⟨s', hRun, hConfig⟩ := hYields s rfl
          obtain ⟨s'', hRun', hConfig'⟩ := slot.store_default _ s' hConfig
          simp [validateEntry, Json.containsPointer, slot.pointer_eq, slot.type_eq, hLookup, hIndex,
            hNull, store, value, Setting.configured, Setting.rejected, hType, hDecode, hRun, hRun',
            hConfig', slot.default_frame]
      · obtain ⟨s', hRun, hConfig⟩ := slot.store_default s.config (s.logged log
          ⟨.notice, kValidationFailLogPrefix ++
            "The value for setting \"%s\" was of invalid type \"%s\"" ++
            kValidationFailLogPostfix, [.str slot.entry.pointerText, .str v.typeName]⟩) (by simp)
        simp [validateEntry, Json.containsPointer, slot.pointer_eq, slot.type_eq, hLookup, hIndex, hNull,
          store, value, Setting.configured, Setting.rejected, hType, hRun, hConfig]

theorem rejected_erase {α : Type} (setting : Setting α) (doc : Json) :
    setting.erase.rejected doc = setting.rejected doc := by
  cases hLookup : doc.lookup setting.pointer <;> simp [Setting.erase, Setting.rejected, hLookup]

theorem validateLoop_yields (slots : List Slot) (log : Bool) (doc : Json) (res : ParseResult)
    (c : BrokerConfig) (hDoc : c.current = doc) :
    ConfigYields ((slots.map (·.entry)).foldlM (validateEntry log) res) c
      (if (slots.map (·.setting.erase)).any (·.rejected doc) then .invalidSetting else res)
      (slots.foldl (fun c slot => slot.store doc c) c) := by
  induction slots generalizing res c with
  | nil => exact Yields.pure res
  | cons slot slots ih =>
    have hEntry := slot.validateEntry_yields log res c
    rw [hDoc] at hEntry
    have hRest := ih (if slot.setting.rejected doc then .invalidSetting else res) (slot.store doc c)
      ((slot.current_frame _ c).trans hDoc)
    have hVerdict : (if ((slot :: slots).map (·.setting.erase)).any (·.rejected doc)
        then ParseResult.invalidSetting else res) =
        if (slots.map (·.setting.erase)).any (·.rejected doc) then .invalidSetting
        else if slot.setting.rejected doc then .invalidSetting else res := by
      cases hRejected : slot.setting.rejected doc <;> simp [rejected_erase, hRejected]
    rw [hVerdict, List.map_cons, List.foldlM_cons]
    exact hEntry.bind hRest

theorem defaultLoop_yields (slots : List Slot) (c : BrokerConfig) :
    ConfigYields (setDefaultsFrom (slots.map (·.entry))) c ()
      (slots.foldl (fun c slot => slot.storeDefault c) c) := by
  induction slots generalizing c with
  | nil => exact Yields.pure ()
  | cons slot slots ih =>
    change ConfigYields
      (slot.entry.storeDefault >>= fun _ => setDefaultsFrom (slots.map (·.entry))) c () _
    exact (slot.store_default c).bind (ih _)

end Slot

theorem setField_yields {α : Type} (field : FieldRef BrokerConfig α) (a : α) (c : BrokerConfig) :
    ConfigYields (setField field a) c () (field.set a c) := by
  rintro s rfl
  exact ⟨_, rfl, rfl⟩

def Slot.ofYields {α : Type} (entry : Validator) (field : FieldRef BrokerConfig α) (setting : Setting α)
    (default : BrokerConfig → α) (pointer_eq : entry.pointer = setting.pointer)
    (type_eq : entry.type = setting.type) (type_ne_null : setting.type ≠ .null)
    (yields : ∀ v log c, v.type = setting.type →
      ConfigYields (entry.validateAndStore v log) c (setting.decode v).isSome
        ((setting.decode v).elim c fun a => field.set a c))
    (store_default : ∀ c, ConfigYields entry.storeDefault c () (field.set (default c) c))
    (default_frame : ∀ b c, default (field.set b c) = default c)
    (current_frame : ∀ b c, (field.set b c).current = c.current) : Slot where
  α := α
  entry := entry
  field := field
  setting := setting
  combine _ a := a
  default := default
  pointer_eq := pointer_eq
  type_eq := type_eq
  type_ne_null := type_ne_null
  accepts v log c a hv ha := by
    have h := yields v log c hv
    rwa [ha] at h
  rejects v log c hv hNone := by
    have h := yields v log c hv
    rw [hNone] at h
    exact ⟨field.get c, by simpa using h⟩
  store_default := store_default
  default_frame := default_frame
  current_frame := current_frame

/-- The CID is stored before it is checked, so a rejection leaves the rejected value. -/
def cidSlot (L : Libraries) : Slot where
  α := Uuid
  entry := cidEntry L
  field := Field.cid
  setting := Setting.cid L
  combine _ a := a
  default c := c.defaultCid
  pointer_eq := rfl
  type_eq := rfl
  type_ne_null := nofun
  accepts v log c a hv ha := by
    cases v with
    | string str =>
      have h := validateAndStoreCid_yields L str log c
      have hStored : L.uuidFromString str = a := by
        simp only [Setting.cid, decodeCid] at ha
        split at ha
        · cases ha
        · exact Option.some.inj ha
      rw [hStored, show decodeCid L (.string str) = some a from ha] at h
      exact h
    | _ => cases hv
  rejects v log c hv hNone := by
    cases v with
    | string str =>
      have h := validateAndStoreCid_yields L str log c
      rw [show decodeCid L (.string str) = none from hNone] at h
      exact ⟨_, h⟩
    | _ => cases hv
  store_default c := by
    rintro s rfl
    exact ⟨_, rfl, rfl⟩
  default_frame _ _ := rfl
  current_frame _ _ := rfl

def uidSlot : Slot :=
  .ofYields uidEntry Field.uid Setting.uid (fun _ => Uid.dynamicUidRequest 0x6574#16) rfl rfl nofun
    (fun v log c _ => validateAndStoreUid_yields v log c) (setField_yields _ _) (fun _ _ => rfl)
    fun _ _ => rfl

def stringSlot (key : String) (pointer : List Bytes) (field : FieldRef BrokerConfig Bytes)
    (maxSize : Nat) (truncationAllowed : Bool) (storeDefault : ConfigM Unit)
    (default : BrokerConfig → Bytes)
    (store_default : ∀ c, ConfigYields storeDefault c () (field.set (default c) c))
    (default_frame : ∀ b c, default (field.set b c) = default c)
    (current_frame : ∀ b c, (field.set b c).current = c.current) : Slot :=
  .ofYields (stringEntry key pointer field maxSize truncationAllowed storeDefault) field
    ⟨pointer, .string, decodeString maxSize truncationAllowed⟩ default rfl rfl nofun
    (fun v log c hv => by
      cases v with
      | string str => exact validateAndStoreString_yields key str field maxSize log truncationAllowed c
      | _ => cases hv)
    store_default default_frame current_frame

def serviceInstanceNameSlot (L : Libraries) : Slot :=
  stringSlot "/dns_sd/service_instance_name" [bytes "dns_sd", bytes "service_instance_name"]
    Field.serviceInstanceName (L.e133ServiceNameStringPaddedLength - 1) true
    (serviceInstanceNameEntry L).storeDefault (fun c => defaultServiceInstanceName L c.settings.cid)
    (fun c s hs => ⟨_, rfl, by subst hs; rfl⟩) (fun _ _ => rfl) fun _ _ => rfl

def manufacturerSlot (L : Libraries) : Slot :=
  stringSlot "/dns_sd/manufacturer" [bytes "dns_sd", bytes "manufacturer"] Field.manufacturer
    (L.e133ManufacturerStringPaddedLength - 1) true _ (fun _ => bytes "ETC")
    (setField_yields _ _) (fun _ _ => rfl) fun _ _ => rfl

def modelSlot (L : Libraries) : Slot :=
  stringSlot "/dns_sd/model" [bytes "dns_sd", bytes "model"] Field.model
    (L.e133ModelStringPaddedLength - 1) true _ (fun _ => bytes "RDMnet Broker Service")
    (setField_yields _ _) (fun _ _ => rfl) fun _ _ => rfl

def scopeSlot (L : Libraries) : Slot :=
  stringSlot "/scope" [bytes "scope"] Field.scope (L.e133ScopeStringPaddedLength - 1) false _
    (fun _ => L.e133DefaultScope) (setField_yields _ _) (fun _ _ => rfl) fun _ _ => rfl

def intSlot {w : Nat} (hw : w ≤ 32) (key : String) (pointer : List Bytes)
    (field : FieldRef BrokerConfig (BitVec w)) (limits : BitVec w × BitVec w) (default : BitVec w)
    (current_frame : ∀ b c, (field.set b c).current = c.current) : Slot :=
  .ofYields (intEntry key pointer field limits default) field
    ⟨pointer, .numberUnsigned, decodeInt limits⟩ (fun _ => default) rfl rfl nofun
    (fun v log c hv => by
      cases v with
      | numberUnsigned n => exact validateAndStoreInt_yields hw key n field log limits c
      | _ => cases hv)
    (setField_yields _ _) (fun _ _ => rfl) current_frame

def listenPortSlot : Slot :=
  intSlot (by decide) "/listen_port" [bytes "listen_port"] Field.listenPort (1024#16, 65535#16) 0#16
    fun _ _ => rfl

def listenInterfacesSlot : Slot where
  α := List Bytes
  entry := listenInterfacesEntry
  field := Field.listenInterfaces
  setting := Setting.listenInterfaces
  combine old names := old ++ names
  default _ := []
  pointer_eq := rfl
  type_eq := rfl
  type_ne_null := nofun
  accepts v log c a hv ha := by
    cases v with
    | array xs =>
      have h := storeInterfaces_yields log xs c
      rw [show xs.mapM stringOf? = some a from ha] at h
      exact h
    | _ => cases hv
  rejects v log c hv hNone := by
    cases v with
    | array xs =>
      have h := storeInterfaces_yields log xs c
      rw [show xs.mapM stringOf? = none from hNone] at h
      exact ⟨_, h⟩
    | _ => cases hv
  store_default := setField_yields _ _
  default_frame _ _ := rfl
  current_frame _ _ := rfl

def logLevelSlot (L : Libraries) : Slot :=
  .ofYields (logLevelEntry L) Field.logMask (Setting.logLevel L) (fun _ => L.logUpto .info) rfl rfl nofun
    (fun v log c hv => by
      cases v with
      | string str => exact validateAndStoreLogLevel_yields L str log c
      | _ => cases hv)
    (setField_yields _ _) (fun _ _ => rfl) fun _ _ => rfl

def limitSlot (name : String) (field : FieldRef BrokerConfig (BitVec 32)) (default : BitVec 32)
    (current_frame : ∀ b c, (field.set b c).current = c.current) : Slot :=
  intSlot le_rfl ("/" ++ name) [bytes name] field (0, BitVec.allOnes 32) default current_frame

def enableBrokerSlot : Slot :=
  .ofYields enableBrokerEntry Field.enableBroker Setting.enableBroker (fun _ => true) rfl rfl nofun
    (fun v log c hv => by
      cases v with
      | boolean b => exact fun s hs => ⟨_, rfl, by subst hs; rfl⟩
      | _ => cases hv)
    (setField_yields _ _) (fun _ _ => rfl) fun _ _ => rfl

def slots (L : Libraries) : List Slot :=
  [cidSlot L, uidSlot, serviceInstanceNameSlot L, manufacturerSlot L, modelSlot L, scopeSlot L,
    listenPortSlot, listenInterfacesSlot, logLevelSlot L,
    limitSlot "max_connections" Field.connections 0 fun _ _ => rfl,
    limitSlot "max_controllers" Field.controllers 0 fun _ _ => rfl,
    limitSlot "max_controller_messages" Field.controllerMessages 500 fun _ _ => rfl,
    limitSlot "max_devices" Field.devices 0 fun _ _ => rfl,
    limitSlot "max_device_messages" Field.deviceMessages 500 fun _ _ => rfl,
    limitSlot "max_reject_connections" Field.rejectConnections 1000 fun _ _ => rfl,
    enableBrokerSlot]

theorem slots_entries (L : Libraries) : (slots L).map (·.entry) = kSettingsValidatorArray L := rfl

theorem slots_settings (L : Libraries) : (slots L).map (·.setting.erase) = Setting.all L := rfl

end RdmnetBroker
