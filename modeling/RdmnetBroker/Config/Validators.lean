import RdmnetBroker.Config.Meaning

/-! # The validators meet the meaning of their settings

Each validator returns the verdict of its setting's decoding and, when it
accepts, stores the decoded value in its own field and nothing else. No
conversion can throw on a value of the table's type.
-/

namespace RdmnetBroker

open Library

set_option autoImplicit false

abbrev ConfigYields {α : Type} (m : ConfigM α) (c : BrokerConfig) (a : α) (c' : BrokerConfig) : Prop :=
  Yields ConfigState.config m c a c'

section Run

variable {α β : Type} (s : ConfigState)

@[simp] theorem pure_run (a : α) : (pure a : ConfigM α) s = .ok a s := rfl

@[simp] theorem bind_run (m : ConfigM α) (f : α → ConfigM β) :
    (m >>= f) s = match m s with
      | .ok a s' => f a s'
      | .error e s' => .error e s' := by
  change EStateM.bind m f s = _
  unfold EStateM.bind
  cases m s <;> rfl

@[simp] theorem map_run (g : α → β) (m : ConfigM α) :
    (g <$> m) s = match m s with
      | .ok a s' => .ok (g a) s'
      | .error e s' => .error e s' := by
  change EStateM.map g m s = _
  unfold EStateM.map
  cases m s <;> rfl

@[simp] theorem ite_run (p : Prop) [Decidable p] (m n : ConfigM α) :
    (if p then m else n) s = if p then m s else n s := by
  split <;> rfl

@[simp] theorem get_run : (get : ConfigM ConfigState) s = .ok s s := rfl

@[simp] theorem getField_run (field : FieldRef BrokerConfig α) :
    getField field s = .ok (field.get s.config) s := rfl

@[simp] theorem setField_run (field : FieldRef BrokerConfig α) (a : α) :
    setField field a s = .ok () { s with config := field.set a s.config } := rfl

@[simp] theorem setCurrent_run (v : Json) :
    setCurrent v s = .ok () { s with config := { s.config with current := v } } := rfl

def ConfigState.logged (log : Bool) (message : LogMessage) : ConfigState :=
  if log then { s with messages := s.messages ++ [message] } else s

@[simp] theorem logged_config (log : Bool) (message : LogMessage) :
    (s.logged log message).config = s.config := by
  cases log <;> rfl

@[simp] theorem logMessage_run (log : Bool) (priority : LogPriority) (format : String)
    (args : List LogArg) :
    logMessage log priority format args s = .ok () (s.logged log ⟨priority, format, args⟩) := by
  cases log <;> rfl

@[simp] theorem logParseError_run (log : Bool) (format : String) (args : List LogArg) :
    logParseError log format args s = .ok () (s.logged log
      ⟨.notice, kValidationFailLogPrefix ++ format ++ kValidationFailLogPostfix, args⟩) :=
  logMessage_run s log _ _ _

end Run

theorem getString_run (str : Bytes) (s : ConfigState) : (Json.string str).getString s = .ok str s := rfl

theorem index_run {v w : Json} {key : Bytes} (h : v.member? key = some w) (s : ConfigState) :
    v.index key s = .ok w s := by
  cases v with
  | object ms =>
    change ms.lookup key = some w at h
    simp [Json.index, h]
  | _ => cases h

theorem contains_eq (v : Json) (key : Bytes) : v.contains key = (v.member? key).isSome := by
  cases v <;> rfl

theorem validateAndStoreCid_yields (L : Libraries) (str : Bytes) (log : Bool) (c : BrokerConfig) :
    ConfigYields (validateAndStoreCid L (.string str) log) c (decodeCid L (.string str)).isSome
      (Field.cid.set (L.uuidFromString str) c) := by
  rintro s rfl
  cases hNull : (L.uuidFromString str).isNull <;>
    simp [validateAndStoreCid, decodeCid, getString_run, hNull]

theorem validateAndStoreString_yields (key : String) (str : Bytes) (field : FieldRef BrokerConfig Bytes)
    (maxSize : Nat) (log truncationAllowed : Bool) (c : BrokerConfig) :
    ConfigYields (validateAndStoreString (some key) (.string str) field maxSize log truncationAllowed) c
      (decodeString maxSize truncationAllowed (.string str)).isSome
      ((decodeString maxSize truncationAllowed (.string str)).elim c fun a => field.set a c) := by
  rintro s rfl
  by_cases hEmpty : str = []
  · simp [validateAndStoreString, decodeString, brokerAssertVerify, getString_run, hEmpty]
  · by_cases hLength : str.length ≤ maxSize
    · simp [validateAndStoreString, decodeString, brokerAssertVerify, getString_run, hEmpty, hLength,
        Nat.not_lt.mpr hLength]
    · cases truncationAllowed <;>
        simp [validateAndStoreString, decodeString, brokerAssertVerify, getString_run, hEmpty, hLength,
          Nat.lt_of_not_le hLength]

/-- Reading an unsigned value through `int64_t` keeps it below `2 ^ 63` and makes it
negative from there on, so a bound of at most 63 bits sees the mathematical value. -/
theorem toInt_between_iff (n : BitVec 64) (lo hi : Nat) (hHi : hi < 2 ^ 63) :
    ((lo : Int) ≤ n.toInt ∧ n.toInt ≤ hi) ↔ lo ≤ n.toNat ∧ n.toNat ≤ hi := by
  have hLt := n.isLt
  rw [BitVec.toInt_eq_toNat_cond]
  split <;> omega

theorem validateAndStoreInt_yields {w : Nat} (hw : w ≤ 32) (key : String) (n : BitVec 64)
    (field : FieldRef BrokerConfig (BitVec w)) (log : Bool) (limits : BitVec w × BitVec w)
    (c : BrokerConfig) :
    ConfigYields (validateAndStoreInt (some key) (.numberUnsigned n) field log limits) c
      (decodeInt limits (.numberUnsigned n)).isSome
      ((decodeInt limits (.numberUnsigned n)).elim c fun a => field.set a c) := by
  rintro s rfl
  have hHi : limits.2.toNat < 2 ^ 63 :=
    lt_of_lt_of_le limits.2.isLt (Nat.pow_le_pow_right (by omega) (by omega))
  have hIff := toInt_between_iff n limits.1.toNat limits.2.toNat hHi
  by_cases hIn : limits.1.toNat ≤ n.toNat ∧ n.toNat ≤ limits.2.toNat
  · have hInt := hIff.mpr hIn
    have hOut : ¬ (n.toInt < limits.1.toNat ∨ limits.2.toNat < n.toInt) := by omega
    simp [validateAndStoreInt, decodeInt, brokerAssertVerify, Json.getInt64, Json.intValue?, hIn, hOut]
  · have hOut : n.toInt < limits.1.toNat ∨ limits.2.toNat < n.toInt := by
      by_contra hNot
      exact hIn (hIff.mp (by omega))
    simp [validateAndStoreInt, decodeInt, brokerAssertVerify, Json.getInt64, Json.intValue?, hIn, hOut]

theorem storeInterfaces_yields (log : Bool) (xs : List Json) (c : BrokerConfig) :
    ConfigYields (storeInterfaces log xs) c (xs.mapM stringOf?).isSome
      (match xs.mapM stringOf? with
        | some names => Field.listenInterfaces.set (Field.listenInterfaces.get c ++ names) c
        | none => Field.listenInterfaces.set [] c) := by
  induction xs generalizing c with
  | nil =>
    rintro s rfl
    exact ⟨s, rfl, by simp⟩
  | cons x xs ih =>
    cases x with
    | string str =>
      rintro s rfl
      obtain ⟨s', hRun, hConfig⟩ := ih
        (Field.listenInterfaces.set (Field.listenInterfaces.get s.config ++ [str]) s.config)
        ⟨_, s.messages⟩ rfl
      cases hNames : xs.mapM stringOf? <;> rw [hNames] at hRun hConfig
      · exact ⟨s', by simpa [storeInterfaces, Json.type, getString_run, stringOf?, hNames] using hRun,
          by simpa [hNames, stringOf?] using hConfig⟩
      · exact ⟨s', by simpa [storeInterfaces, Json.type, getString_run, stringOf?, hNames] using hRun,
          by simpa [hNames, stringOf?] using hConfig⟩
    | _ =>
      rintro s rfl
      simp [storeInterfaces, Json.type, stringOf?]

theorem validateAndStoreLogLevel_yields (L : Libraries) (str : Bytes) (log : Bool) (c : BrokerConfig) :
    ConfigYields (validateAndStoreLogLevel L (.string str) log) c
      (decodeLogLevel L (.string str)).isSome
      ((decodeLogLevel L (.string str)).elim c fun mask => Field.logMask.set mask c) := by
  rintro s rfl
  cases hFind : (kLogLevelOptions L).find? (fun p => bytes p.1 = str) <;>
    simp [validateAndStoreLogLevel, decodeLogLevel, getString_run, hFind]

theorem getInt64_run {v : Json} {i : Int} (h : v.intValue? = some i) (s : ConfigState) :
    ∃ n : BitVec 64, v.getInt64 s = .ok n s ∧
      ∀ lo hi : Nat, hi < 2 ^ 63 → ((lo : Int) ≤ n.toInt ∧ n.toInt ≤ hi ↔ (lo : Int) ≤ i ∧ i ≤ hi) ∧
        ((lo : Int) ≤ i → i ≤ hi → ∀ w, n.setWidth w = BitVec.ofInt w i) := by
  cases v with
  | numberInteger n =>
    cases h
    refine ⟨n, rfl, fun lo hi _ => ⟨Iff.rfl, fun hLo hHi w => ?_⟩⟩
    rw [show n.toInt = n.toNat by rw [BitVec.toInt_eq_toNat_cond] at *; split at * <;> omega]
    simp
  | numberUnsigned n =>
    cases h
    refine ⟨n, rfl, fun lo hi hHi => ⟨?_, fun _ _ w => by simp⟩⟩
    have hIff := toInt_between_iff n lo hi hHi
    omega
  | _ => cases h

theorem isNumberInteger_eq (v : Json) : v.isNumberInteger = v.intValue?.isSome := by
  cases v <;> rfl

/-- The static branch of `ValidateAndStoreUid`. -/
def storeStaticUid (manufacturerId : BitVec 64) (val : Json) (log : Bool) : ConfigM Bool := do
  if !val.contains (bytes "device_id") then
    logParseError log
      "When \"/uid/type\" is \"static\", the \"uid\" object must contain a \"device_id\" field" []
    return false
  if !(← val.index (bytes "device_id")).isNumberInteger then
    logParseError log "The value for setting \"/uid/device_id\" was of invalid type \"%s\""
      [.str (← val.index (bytes "device_id")).typeName]
    return false
  let deviceId ← (← val.index (bytes "device_id")).getInt64
  if deviceId.toInt < 0 ∨ deviceId.toInt > 0xffffffff then
    logParseError log "Static UID: \"%lld\" is not a valid Device ID" [.int deviceId.toInt]
    return false
  setField Field.uid (Uid.ofStatic (manufacturerId.setWidth 16) (deviceId.setWidth 32))
  return true

/-- `ValidateAndStoreUid` once the type and the manufacturer ID are read. -/
def storeUid (type : Bytes) (manufacturerId : BitVec 64) (val : Json) (log : Bool) : ConfigM Bool := do
  if manufacturerId.toInt ≤ 0 ∨ manufacturerId.toInt ≥ 0x8000 then
    logParseError log "UID: \"%lld\" is not a valid Manufacturer ID" [.int manufacturerId.toInt]
    return false
  if type = bytes "static" then
    storeStaticUid manufacturerId val log
  else if type = bytes "dynamic" then
    if val.contains (bytes "device_id") then
      logParseError log
        "When \"/uid/type\" is \"dynamic\", the \"uid\" object must not contain a \"device_id\" field" []
      return false
    setField Field.uid (Uid.dynamicUidRequest (manufacturerId.setWidth 16))
    return true
  else
    logParseError log "The field \"/uid/type\" must be one of \"static\" or \"dynamic\"" []
    return false

theorem validateAndStoreUid_eq_storeUid {v m : Json} {type : Bytes} {i : Int} {n : BitVec 64}
    {s : ConfigState} (log : Bool) (hType : v.member? (bytes "type") = some (.string type))
    (hManu : v.member? (bytes "manufacturer_id") = some m) (hInt : m.intValue? = some i)
    (hGet : m.getInt64 s = .ok n s) : validateAndStoreUid v log s = storeUid type n v log s := by
  have hTypeAt := index_run hType
  have hManuAt := index_run hManu
  have hString : (Json.string type).isString = true := rfl
  simp [validateAndStoreUid, storeUid, storeStaticUid, contains_eq, isNumberInteger_eq, hType, hTypeAt,
    hString, hManu, hManuAt, hInt, hGet, getString_run]

theorem storeStaticUid_yields {v : Json} {i : Int} {n : BitVec 64} (log : Bool) (c : BrokerConfig)
    (hRange : ¬ (i < 1 ∨ 0x7fff < i)) (hWidth : n.setWidth 16 = BitVec.ofInt 16 i) :
    ConfigYields (storeStaticUid n v log) c
      (uidOf (bytes "static") i (v.member? (bytes "device_id"))).isSome
      ((uidOf (bytes "static") i (v.member? (bytes "device_id"))).elim c fun u => Field.uid.set u c) := by
  rintro s rfl
  cases hDev : v.member? (bytes "device_id") with
  | none => simp [storeStaticUid, uidOf, contains_eq, hRange, hDev]
  | some d =>
    have hDevAt := index_run hDev
    cases hDevInt : d.intValue? with
    | none =>
      simp [storeStaticUid, uidOf, contains_eq, isNumberInteger_eq, hRange, hDev, hDevAt, hDevInt]
    | some j =>
      obtain ⟨k, hDevGet, hDevBound⟩ := getInt64_run hDevInt s
      obtain ⟨hDevId, hDevWidth⟩ := hDevBound 0 0xffffffff (by decide)
      by_cases hDevRange : 0 ≤ j ∧ j ≤ 0xffffffff
      · have hGood : ¬ (k.toInt < 0 ∨ 0xffffffff < k.toInt) := by omega
        have hDevWidth := hDevWidth hDevRange.1 hDevRange.2 32
        simp [storeStaticUid, uidOf, contains_eq, isNumberInteger_eq, hRange, hWidth, hDev, hDevAt,
          hDevInt, hDevGet, hDevRange, hGood, hDevWidth]
      · have hBad : k.toInt < 0 ∨ 0xffffffff < k.toInt := by omega
        simp [storeStaticUid, uidOf, contains_eq, isNumberInteger_eq, hRange, hDev, hDevAt, hDevInt,
          hDevGet, hDevRange, hBad]

theorem storeUid_yields {v : Json} {type : Bytes} {i : Int} {n : BitVec 64} (log : Bool)
    (c : BrokerConfig) (hRange : 1 ≤ n.toInt ∧ n.toInt ≤ 0x7fff ↔ 1 ≤ i ∧ i ≤ 0x7fff)
    (hWidth : 1 ≤ i → i ≤ 0x7fff → n.setWidth 16 = BitVec.ofInt 16 i) :
    ConfigYields (storeUid type n v log) c (uidOf type i (v.member? (bytes "device_id"))).isSome
      ((uidOf type i (v.member? (bytes "device_id"))).elim c fun u => Field.uid.set u c) := by
  by_cases hBad : i < 1 ∨ 0x7fff < i
  · have hBad' : n.toInt ≤ 0 ∨ 0x8000 ≤ n.toInt := by omega
    rintro s rfl
    simp [storeUid, uidOf, hBad, hBad']
  · have hGood : ¬ (n.toInt ≤ 0 ∨ 0x8000 ≤ n.toInt) := by omega
    have hWidth := hWidth (by omega) (by omega)
    by_cases hStatic : type = bytes "static"
    · subst hStatic
      rintro s rfl
      simpa [storeUid, hGood] using storeStaticUid_yields log s.config hBad hWidth s rfl
    · rintro s rfl
      by_cases hDynamic : type = bytes "dynamic"
      · subst hDynamic
        cases hDev : v.member? (bytes "device_id") <;>
          simp [storeUid, uidOf, contains_eq, hBad, hGood, hStatic, hDev, hWidth]
      · simp [storeUid, uidOf, hBad, hGood, hStatic, hDynamic]

theorem validateAndStoreUid_yields (v : Json) (log : Bool) (c : BrokerConfig) :
    ConfigYields (validateAndStoreUid v log) c (decodeUid v).isSome
      ((decodeUid v).elim c fun u => Field.uid.set u c) := by
  rintro s rfl
  cases hType : v.member? (bytes "type") with
  | none => simp [validateAndStoreUid, decodeUid, contains_eq, hType]
  | some t =>
    have hTypeAt := index_run hType
    by_cases hString : t.isString = true
    swap
    · have hDecode : decodeUid v = none := by
        cases t <;> simp_all [decodeUid, Json.isString, Json.type]
      simp [validateAndStoreUid, hDecode, contains_eq, hType, hTypeAt, hString]
    obtain ⟨type, rfl⟩ : ∃ type, t = .string type := by
      cases t <;> simp_all [Json.isString, Json.type]
    cases hManu : v.member? (bytes "manufacturer_id") with
    | none => simp [validateAndStoreUid, decodeUid, contains_eq, hType, hTypeAt, hString, hManu]
    | some m =>
      cases hInt : m.intValue? with
      | none =>
        have hManuAt := index_run hManu
        simp [validateAndStoreUid, decodeUid, contains_eq, isNumberInteger_eq, hType, hTypeAt, hString,
          hManu, hManuAt, hInt]
      | some i =>
        obtain ⟨n, hGet, hBound⟩ := getInt64_run hInt s
        obtain ⟨hRange, hWidth⟩ := hBound 1 0x7fff (by decide)
        have hDecode : decodeUid v = uidOf type i (v.member? (bytes "device_id")) := by
          simp [decodeUid, hType, hManu, hInt]
        rw [hDecode, validateAndStoreUid_eq_storeUid log hType hManu hInt hGet]
        exact storeUid_yields log s.config hRange (fun hLow hHigh => hWidth hLow hHigh 16) s rfl

end RdmnetBroker
