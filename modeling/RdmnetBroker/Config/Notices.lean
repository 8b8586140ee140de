import RdmnetBroker.Config.Contract

/-! # What the validators tell the log

The notice that each validator owes to a value that it refuses, with its format and its
arguments as the source has them, and the setting that a reader of the log finds in it.
-/

namespace RdmnetBroker

open Library

set_option autoImplicit false

/-- What reaches the log when a logger may be missing. -/
def logged (log : Bool) (ms : List LogMessage) : List LogMessage := if log then ms else []

theorem bytes_append (s t : String) : bytes (s ++ t) = bytes s ++ bytes t := by
  simp [bytes]

theorem logged_append (log : Bool) (ms ms' : List LogMessage) :
    logged log (ms ++ ms') = logged log ms ++ logged log ms' := by
  cases log <;> rfl

theorem logged_messages (s : ConfigState) (log : Bool) (message : LogMessage) :
    (s.logged log message).messages = s.messages ++ logged log [message] := by
  cases log with
  | true => rfl
  | false => exact (List.append_nil _).symm

def rejection (format : String) (args : List LogArg) : LogMessage :=
  ⟨.notice, kValidationFailLogPrefix ++ format ++ kValidationFailLogPostfix, args⟩

def missing (pointerText : Bytes) : LogMessage :=
  ⟨.debug, "Configuration file: No value present for \"%s\", using default.", [.str pointerText]⟩

def mistyped (pointerText : Bytes) (v : Json) : LogMessage :=
  rejection "The value for setting \"%s\" was of invalid type \"%s\"" [.str pointerText, .str v.typeName]

def truncation (str : Bytes) (key : String) (maxSize : Nat) : LogMessage :=
  ⟨.notice, "Configuration file: Truncating overlong string \"%s\" for field \"%s\" to \"%s\".",
    [.str str, keyArg (some key), .str (str.take maxSize)]⟩

/-- What the conversion to `std::string` gives of a string. -/
def Json.asString : Json → Bytes
  | .string s => s
  | _ => []

/-- What the conversion to `int64_t` gives of a number: an unsigned value from `2 ^ 63` on
reads as a negative one. -/
def Json.asInt64 : Json → BitVec 64
  | .numberUnsigned n => n
  | .numberInteger i => i
  | .numberFloat v => BitVec.ofInt 64 (v.num.tdiv v.den)
  | _ => 0

def cidRefusal (v : Json) : LogMessage := rejection "\"%s\" is not a valid CID" [.str v.asString]

def uidValueRefusal (type : Bytes) (manufacturerId : BitVec 64) (deviceId : Option Json) : LogMessage :=
  if manufacturerId.toInt ≤ 0 ∨ manufacturerId.toInt ≥ 0x8000 then
    rejection "UID: \"%lld\" is not a valid Manufacturer ID" [.int manufacturerId.toInt]
  else if type = bytes "static" then
    match deviceId with
    | none =>
      rejection "When \"/uid/type\" is \"static\", the \"uid\" object must contain a \"device_id\" field" []
    | some d =>
      if d.isNumberInteger then
        rejection "Static UID: \"%lld\" is not a valid Device ID" [.int d.asInt64.toInt]
      else
        rejection "The value for setting \"/uid/device_id\" was of invalid type \"%s\"" [.str d.typeName]
  else if type = bytes "dynamic" then
    rejection
      "When \"/uid/type\" is \"dynamic\", the \"uid\" object must not contain a \"device_id\" field" []
  else
    rejection "The field \"/uid/type\" must be one of \"static\" or \"dynamic\"" []

def uidRefusal (v : Json) : LogMessage :=
  match v.member? (bytes "type") with
  | none => rejection "The \"uid\" object must contain a \"type\" field" []
  | some t =>
    if t.isString then
      match v.member? (bytes "manufacturer_id") with
      | none => rejection "The \"uid\" object must contain a \"manufacturer_id\" field" []
      | some m =>
        if m.isNumberInteger then uidValueRefusal t.asString m.asInt64 (v.member? (bytes "device_id"))
        else
          rejection "The value for setting \"/uid/manufacturer_id\" was of invalid type \"%s\""
            [.str m.typeName]
    else
      rejection "The value for setting \"/uid/type\" was of invalid type \"%s\"" [.str t.typeName]

def stringRefusal (key : String) (maxSize : Nat) (v : Json) : LogMessage :=
  if v.asString.isEmpty then
    rejection "Empty string is not allowed for field \"%s\"" [keyArg (some key)]
  else
    rejection "String value \"%s\" is too long for field \"%s\" of maximum length %zu"
      [.str v.asString, keyArg (some key), .int maxSize]

def intRefusal {w : Nat} (key : String) (limits : BitVec w × BitVec w) (v : Json) : LogMessage :=
  rejection ("Integer value \"%lld\" is outside allowable range [" ++ formatStringOf w ++ ", " ++
      formatStringOf w ++ "] for field \"%s\"")
    [.int v.asInt64.toInt, .int limits.1.toNat, .int limits.2.toNat, keyArg (some key)]

def interfacesRefusal : LogMessage :=
  rejection "The array field \"/listen_interfaces\" may only contain values of type \"string\"" []

def logLevelRefusal (L : Libraries) : LogMessage :=
  rejection ("The value for field \"/log_level\" must be one of " ++ getLogLevelOptions L) []

section Validators

variable {α β : Type}

abbrev ConfigSilent (m : ConfigM α) : Prop := Silent ConfigState.messages m

abbrev ConfigReturns (m : ConfigM α) (R : α → Prop) : Prop := Returns ConfigState.messages m R

/-- The program decides on a value: it tells `kept` of one that it takes, and `refusal` of one
that it does not. -/
abbrev Judges (log : Bool) (kept : List LogMessage) (refusal : LogMessage) (m : ConfigM Bool) : Prop :=
  Emits ConfigState.messages m fun taken ms => ms = logged log (if taken then kept else [refusal])

variable {log : Bool} {kept : List LogMessage} {refusal : LogMessage}

theorem getString_returns (v : Json) : ConfigReturns v.getString (· = v.asString) := by
  cases v with
  | string s => exact .pure ⟨rfl, rfl⟩
  | _ =>
    intro s a s' hRun
    cases hRun

theorem getInt64_returns (v : Json) : ConfigReturns v.getInt64 (· = v.asInt64) := by
  cases v with
  | numberInteger | numberUnsigned | numberFloat => exact .pure ⟨rfl, rfl⟩
  | _ =>
    intro s a s' hRun
    cases hRun

theorem getVector_silent (v : Json) : ConfigSilent v.getVector := by
  cases v with
  | array xs => exact .pure rfl
  | _ => exact .throw

theorem getBool_silent (v : Json) : ConfigSilent v.getBool := by
  cases v with
  | boolean b => exact .pure rfl
  | _ => exact .throw

theorem index_returns {v w : Json} {key : Bytes} (h : v.member? key = some w) :
    ConfigReturns (v.index key) (w = ·) := by
  intro s a s' hRun
  rw [index_run h] at hRun
  cases hRun
  exact ⟨[], (List.append_nil _).symm, rfl, rfl⟩

theorem get_silent : ConfigSilent get := by
  intro s a s' hRun
  cases hRun
  exact ⟨[], (List.append_nil _).symm, rfl⟩

theorem getField_silent (field : FieldRef BrokerConfig α) : ConfigSilent (getField field) := by
  intro s a s' hRun
  cases hRun
  exact ⟨[], (List.append_nil _).symm, rfl⟩

theorem setField_silent (field : FieldRef BrokerConfig α) (a : α) : ConfigSilent (setField field a) := by
  intro s a s' hRun
  cases hRun
  exact ⟨[], (List.append_nil _).symm, rfl⟩

theorem logMessage_emits (priority : LogPriority) (format : String) (args : List LogArg) :
    Emits ConfigState.messages (logMessage log priority format args) fun _ ms =>
      ms = logged log [⟨priority, format, args⟩] := by
  intro s a s' hRun
  rw [logMessage_run] at hRun
  cases hRun
  cases log with
  | true => exact ⟨_, rfl, rfl⟩
  | false => exact ⟨[], (List.append_nil _).symm, rfl⟩

theorem judges_reject {format : String} {args : List LogArg} (h : refusal = rejection format args) :
    Judges log kept refusal do
      logParseError log format args
      return false := by
  refine (logMessage_emits _ _ _).bind fun _ ms hLogged => .pure ?_
  rw [hLogged, List.append_nil, h]
  rfl

theorem judges_true : Judges log [] refusal (pure true) := by
  apply Emits.pure
  cases log <;> rfl

theorem judges_take (field : FieldRef BrokerConfig α) (a : α) :
    Judges log [] refusal do
      setField field a
      return true :=
  (setField_silent field a).bind fun _ => judges_true

theorem validateAndStoreCid_judges (L : Libraries) (v : Json) :
    Judges log [] (cidRefusal v) (validateAndStoreCid L v log) := by
  refine (getString_returns v).bind fun str _ => (setField_silent _ _).bind fun _ => ?_
  refine (getField_silent _).bind fun cid => .ite (fun _ => judges_true) fun _ => ?_
  refine (getString_returns v).bind fun text hText => judges_reject ?_
  rw [hText]
  rfl

/-- The string that is cut is read back from the setting for the message. -/
theorem judges_truncate (key : String) (str : Bytes) (field : FieldRef BrokerConfig Bytes) (maxSize : Nat) :
    Judges log [truncation str key maxSize] refusal do
      setField field (str.take maxSize)
      logMessage log .notice
        "Configuration file: Truncating overlong string \"%s\" for field \"%s\" to \"%s\"."
        [.str str, keyArg (some key), .str (← getField field)]
      return true := by
  intro s taken s' hRun
  have hStored : field.get (field.set (str.take maxSize) s.config) = str.take maxSize := field.get_set _ _
  simp only [bind_run, setField_run, getField_run, logMessage_run, pure_run, hStored] at hRun
  cases hRun
  exact ⟨_, logged_messages _ _ _, rfl⟩

def truncated (key : String) (maxSize : Nat) (truncationAllowed : Bool) : Json → List LogMessage
  | .string str =>
    if truncationAllowed && maxSize < str.length then [truncation str key maxSize] else []
  | _ => []

theorem validateAndStoreString_judges (key : String) (v : Json) (field : FieldRef BrokerConfig Bytes)
    (maxSize : Nat) (truncationAllowed : Bool) :
    Judges log (truncated key maxSize truncationAllowed v) (stringRefusal key maxSize v)
      (validateAndStoreString (some key) v field maxSize log truncationAllowed) := by
  cases v with
  | string str =>
    change Judges log _ _ (if str.isEmpty then _ else if str.length > maxSize then _ else _)
    refine .ite (fun hEmpty => judges_reject ?_) fun hSome => .ite (fun hLong => ?_) fun hShort => ?_
    · simp [stringRefusal, Json.asString, hEmpty]
    · cases truncationAllowed with
      | true =>
        have hKept : truncated key maxSize true (.string str) = [truncation str key maxSize] := by
          simp [truncated, hLong]
        rw [hKept]
        exact judges_truncate key str field maxSize
      | false =>
        apply judges_reject
        simp [stringRefusal, Json.asString, hSome]
    · have hKept : truncated key maxSize truncationAllowed (.string str) = [] := by
        simp [truncated, Nat.le_of_not_lt hShort]
      rw [hKept]
      exact judges_take _ _
  | _ =>
    intro s taken s' hRun
    cases hRun

theorem validateAndStoreInt_judges {w : Nat} (key : String) (v : Json)
    (field : FieldRef BrokerConfig (BitVec w)) (limits : BitVec w × BitVec w) :
    Judges log [] (intRefusal key limits v) (validateAndStoreInt (some key) v field log limits) := by
  refine (getInt64_returns v).bind fun n hValue => .ite (fun _ => judges_reject ?_) fun _ => judges_take _ _
  rw [hValue]
  rfl

theorem storeInterfaces_judges (xs : List Json) :
    Judges log [] interfacesRefusal (storeInterfaces log xs) := by
  induction xs with
  | nil => exact judges_true
  | cons x xs ih =>
    refine .ite (fun _ => ?_) fun _ => ?_
    · refine (logMessage_emits _ _ _).bind fun _ ms hLogged => (setField_silent _ _).bind fun _ => .pure ?_
      rw [hLogged, List.append_nil]
      rfl
    · refine (getField_silent _).bind fun names => (getString_returns x).bind fun str _ => ?_
      exact (setField_silent _ _).bind fun _ => ih

theorem validateAndStoreLogLevel_judges (L : Libraries) (v : Json) :
    Judges log [] (logLevelRefusal L) (validateAndStoreLogLevel L v log) := by
  refine (getString_returns v).bind fun level _ => ?_
  split
  · exact judges_reject rfl
  · exact judges_take _ _

theorem storeStaticUid_judges (type : Bytes) (n : BitVec 64) (v : Json) (hType : type = bytes "static")
    (hRange : ¬ (n.toInt ≤ 0 ∨ n.toInt ≥ 0x8000)) :
    Judges log [] (uidValueRefusal type n (v.member? (bytes "device_id"))) (storeStaticUid n v log) := by
  simp only [uidValueRefusal, if_neg hRange, if_pos hType, storeStaticUid, contains_eq]
  cases hDevice : v.member? (bytes "device_id") with
  | none => exact judges_reject rfl
  | some d =>
    have hDeviceAt := index_returns hDevice
    refine .ite (by simp) fun _ => hDeviceAt.bind ?_
    rintro _ rfl
    refine .ite (fun hNumber => hDeviceAt.bind ?_) fun hNumber => hDeviceAt.bind ?_
    · rintro _ rfl
      exact judges_reject (by simp_all)
    · rintro _ rfl
      refine (getInt64_returns _).bind ?_
      rintro _ rfl
      exact .ite (fun _ => judges_reject (by simp_all)) fun _ => judges_take _ _

theorem storeUid_judges (type : Bytes) (n : BitVec 64) (v : Json) :
    Judges log [] (uidValueRefusal type n (v.member? (bytes "device_id"))) (storeUid type n v log) := by
  refine .ite (fun hRange => judges_reject (if_pos hRange)) fun hRange => ?_
  refine .ite (fun hStatic => storeStaticUid_judges type n v hStatic hRange) fun hStatic => ?_
  simp only [uidValueRefusal, if_neg hRange, if_neg hStatic]
  refine .ite (fun hDynamic => .ite (fun _ => judges_reject (if_pos hDynamic)) fun _ => judges_take _ _) ?_
  exact fun hDynamic => judges_reject (if_neg hDynamic)

theorem validateAndStoreUid_judges (v : Json) : Judges log [] (uidRefusal v) (validateAndStoreUid v log) := by
  unfold validateAndStoreUid
  simp only [contains_eq]
  cases hType : v.member? (bytes "type") with
  | none => exact judges_reject (by simp [uidRefusal, hType])
  | some t =>
    have hTypeAt := index_returns hType
    refine .ite nofun fun _ => hTypeAt.bind ?_
    rintro _ rfl
    refine .ite (fun hString => hTypeAt.bind ?_) fun hString => ?_
    · rintro _ rfl
      exact judges_reject (by simp_all [uidRefusal])
    have hString : t.isString = true := by simpa using hString
    cases hManufacturer : v.member? (bytes "manufacturer_id") with
    | none => exact judges_reject (by simp [uidRefusal, hType, hString, hManufacturer])
    | some m =>
      have hManufacturerAt := index_returns hManufacturer
      refine .ite nofun fun _ => hManufacturerAt.bind ?_
      rintro _ rfl
      refine .ite (fun hNumber => hManufacturerAt.bind ?_) fun hNumber => ?_
      · rintro _ rfl
        exact judges_reject (by simp_all [uidRefusal])
      have hNumber : m.isNumberInteger = true := by simpa using hNumber
      have hRefusal : uidRefusal v =
          uidValueRefusal t.asString m.asInt64 (v.member? (bytes "device_id")) := by
        simp [uidRefusal, hType, hString, hManufacturer, hNumber]
      rw [hRefusal]
      refine hTypeAt.bind ?_
      rintro _ rfl
      refine (getString_returns t).bind ?_
      rintro _ rfl
      refine hManufacturerAt.bind ?_
      rintro _ rfl
      refine (getInt64_returns m).bind ?_
      rintro _ rfl
      have hStore : Judges log [] (uidValueRefusal t.asString m.asInt64 (v.member? (bytes "device_id")))
          (storeUid t.asString m.asInt64 v log) := storeUid_judges _ _ v
      simp only [storeUid, storeStaticUid, contains_eq] at hStore
      exact hStore

end Validators

/-- What a notice of a refused value is about: the setting that its format names, or the one
that an argument names. -/
inductive NoticeSubject
  | setting (pointerText : String)
  | arg (i : Nat)
  deriving DecidableEq

def rejectionFormats : List (String × NoticeSubject) :=
  [("The value for setting \"%s\" was of invalid type \"%s\"", .arg 0),
    ("\"%s\" is not a valid CID", .setting "/cid"),
    ("The \"uid\" object must contain a \"type\" field", .setting "/uid"),
    ("The value for setting \"/uid/type\" was of invalid type \"%s\"", .setting "/uid"),
    ("The \"uid\" object must contain a \"manufacturer_id\" field", .setting "/uid"),
    ("The value for setting \"/uid/manufacturer_id\" was of invalid type \"%s\"", .setting "/uid"),
    ("UID: \"%lld\" is not a valid Manufacturer ID", .setting "/uid"),
    ("When \"/uid/type\" is \"static\", the \"uid\" object must contain a \"device_id\" field",
      .setting "/uid"),
    ("The value for setting \"/uid/device_id\" was of invalid type \"%s\"", .setting "/uid"),
    ("Static UID: \"%lld\" is not a valid Device ID", .setting "/uid"),
    ("When \"/uid/type\" is \"dynamic\", the \"uid\" object must not contain a \"device_id\" field",
      .setting "/uid"),
    ("The field \"/uid/type\" must be one of \"static\" or \"dynamic\"", .setting "/uid"),
    ("Empty string is not allowed for field \"%s\"", .arg 0),
    ("String value \"%s\" is too long for field \"%s\" of maximum length %zu", .arg 1),
    ("Integer value \"%lld\" is outside allowable range [%hu, %hu] for field \"%s\"", .arg 3),
    ("Integer value \"%lld\" is outside allowable range [%u, %u] for field \"%s\"", .arg 3),
    ("The array field \"/listen_interfaces\" may only contain values of type \"string\"",
      .setting "/listen_interfaces"),
    ("The value for field \"/log_level\" must be one of \x7b\"alert\", \"crit\", \"debug\", " ++
      "\"emerg\", \"err\", \"info\", \"notice\", \"warning\"\x7d", .setting "/log_level")]

def noticeSubject? (format : String) : Option NoticeSubject :=
  (rejectionFormats.map fun p =>
    (kValidationFailLogPrefix ++ p.1 ++ kValidationFailLogPostfix, p.2)).lookup format

theorem noticeSubject?_wrapped (format : String) :
    noticeSubject? (kValidationFailLogPrefix ++ format ++ kValidationFailLogPostfix) =
      rejectionFormats.lookup format := by
  unfold noticeSubject?
  induction rejectionFormats with
  | nil => rfl
  | cons p formats ih =>
    obtain ⟨known, subject⟩ := p
    rw [List.map_cons, List.lookup_cons, List.lookup_cons, ih]
    by_cases hKnown : format = known
    · rw [hKnown, beq_self_eq_true, beq_self_eq_true]
    · have hWrapped : kValidationFailLogPrefix ++ format ++ kValidationFailLogPostfix ≠
          kValidationFailLogPrefix ++ known ++ kValidationFailLogPostfix := by
        rw [Ne, String.append_left_inj, String.append_right_inj]
        exact hKnown
      rw [beq_eq_false_iff_ne.mpr hWrapped, beq_eq_false_iff_ne.mpr hKnown]

/-- The setting whose value was refused, as a reader of the log finds it. -/
def LogMessage.subject? (m : LogMessage) : Option Bytes :=
  match noticeSubject? m.format with
  | some (NoticeSubject.setting pointerText) => some (bytes pointerText)
  | some (NoticeSubject.arg i) =>
    match m.args[i]? with
    | some (.str s) => some s
    | _ => none
  | none => none

section Subjects

variable {format key : String} {args : List LogArg}

theorem rejection_names {pointerText : String}
    (h : rejectionFormats.lookup format = some (.setting pointerText)) :
    (rejection format args).subject? = some (bytes pointerText) := by
  simp only [LogMessage.subject?, rejection, noticeSubject?_wrapped, h]

theorem rejection_names_arg (i : Nat) {s : Bytes} (h : rejectionFormats.lookup format = some (.arg i))
    (hArg : args[i]? = some (.str s)) : (rejection format args).subject? = some s := by
  simp only [LogMessage.subject?, rejection, noticeSubject?_wrapped, h, hArg]

theorem missing_subject (pointerText : Bytes) : (missing pointerText).subject? = none := by
  have hFormat : noticeSubject? "Configuration file: No value present for \"%s\", using default." = none := by
    decide +kernel
  simp only [LogMessage.subject?, missing, hFormat]

theorem truncation_subject (str : Bytes) (key : String) (maxSize : Nat) :
    (truncation str key maxSize).subject? = none := by
  have hFormat : noticeSubject?
      "Configuration file: Truncating overlong string \"%s\" for field \"%s\" to \"%s\"." = none := by
    decide +kernel
  simp only [LogMessage.subject?, truncation, hFormat]

theorem mistyped_subject (pointerText : Bytes) (v : Json) :
    (mistyped pointerText v).subject? = some pointerText :=
  rejection_names_arg 0 (by decide +kernel) rfl

theorem cidRefusal_subject (v : Json) : (cidRefusal v).subject? = some (bytes "/cid") :=
  rejection_names (by decide +kernel)

theorem uidRefusal_subject (v : Json) : (uidRefusal v).subject? = some (bytes "/uid") := by
  unfold uidRefusal uidValueRefusal
  repeat' split
  all_goals exact rejection_names (by decide +kernel)

theorem stringRefusal_subject (maxSize : Nat) (v : Json) :
    (stringRefusal key maxSize v).subject? = some (bytes key) := by
  unfold stringRefusal
  split
  · exact rejection_names_arg 0 (by decide +kernel) rfl
  · exact rejection_names_arg 1 (by decide +kernel) rfl

theorem intRefusal_subject {w : Nat} (hw : w = 16 ∨ w = 32) (limits : BitVec w × BitVec w) (v : Json) :
    (intRefusal key limits v).subject? = some (bytes key) := by
  rcases hw with rfl | rfl
  · exact rejection_names_arg 3 (by decide +kernel) rfl
  · exact rejection_names_arg 3 (by decide +kernel) rfl

theorem interfacesRefusal_subject : interfacesRefusal.subject? = some (bytes "/listen_interfaces") :=
  rejection_names (by decide +kernel)

theorem logLevelRefusal_subject (L : Libraries) :
    (logLevelRefusal L).subject? = some (bytes "/log_level") := by
  have hOptions : getLogLevelOptions L = "\x7b\"alert\", \"crit\", \"debug\", \"emerg\", \"err\", " ++
      "\"info\", \"notice\", \"warning\"\x7d" := by
    simp [getLogLevelOptions, kLogLevelOptions]
  rw [logLevelRefusal, hOptions]
  exact rejection_names (by decide +kernel)

end Subjects

end RdmnetBroker
