import RdmnetBroker.Libraries
import RdmnetBroker.Library.Effects

/-! # The configuration reader

`BrokerConfig` and the functions of `broker_config.cpp`, with the load that
`BrokerShell` builds on them. A `std::string&` or integer reference parameter
is a `FieldRef` into the configuration. What is passed to the logger is kept
beside the configuration, in order.
-/

namespace RdmnetBroker

open Library

set_option autoImplicit false

structure DnsSettings where
  serviceInstanceName : Bytes
  manufacturer : Bytes
  model : Bytes
  deriving DecidableEq

structure Limits where
  connections : BitVec 32
  controllers : BitVec 32
  controllerMessages : BitVec 32
  devices : BitVec 32
  deviceMessages : BitVec 32
  rejectConnections : BitVec 32
  deriving DecidableEq

/-- `rdmnet::Broker::Settings`, the fields that the configuration sets. -/
structure Settings where
  cid : Uuid
  uid : Uid
  dns : DnsSettings
  scope : Bytes
  listenPort : BitVec 16
  listenInterfaces : List Bytes
  limits : Limits
  deriving DecidableEq

structure BrokerConfig where
  settings : Settings
  logMask : Int
  enableBroker : Bool
  current : Json
  defaultCid : Uuid

inductive ParseResult
  | fileOpenErr | jsonParseErr | invalidSetting | ok
  deriving DecidableEq, Repr

structure ConfigState where
  config : BrokerConfig
  messages : List LogMessage

abbrev ConfigM := EStateM JsonException ConfigState

namespace Field

def ofSettings {α : Type} (get : Settings → α) (set : α → Settings → Settings)
    (get_set : ∀ a s, get (set a s) = a) (set_get : ∀ s, set (get s) s = s)
    (set_set : ∀ a b s, set a (set b s) = set a s) : FieldRef BrokerConfig α where
  get c := get c.settings
  set a c := { c with settings := set a c.settings }
  get_set a c := get_set a c.settings
  set_get c := by rw [set_get]
  set_set a b c := by rw [set_set]

def cid : FieldRef BrokerConfig Uuid :=
  ofSettings (·.cid) (fun a s => { s with cid := a }) (fun _ _ => rfl) (fun _ => rfl) fun _ _ _ => rfl

def uid : FieldRef BrokerConfig Uid :=
  ofSettings (·.uid) (fun a s => { s with uid := a }) (fun _ _ => rfl) (fun _ => rfl) fun _ _ _ => rfl

def serviceInstanceName : FieldRef BrokerConfig Bytes :=
  ofSettings (·.dns.serviceInstanceName)
    (fun a s => { s with dns := { s.dns with serviceInstanceName := a } })
    (fun _ _ => rfl) (fun _ => rfl) fun _ _ _ => rfl

def manufacturer : FieldRef BrokerConfig Bytes :=
  ofSettings (·.dns.manufacturer) (fun a s => { s with dns := { s.dns with manufacturer := a } })
    (fun _ _ => rfl) (fun _ => rfl) fun _ _ _ => rfl

def model : FieldRef BrokerConfig Bytes :=
  ofSettings (·.dns.model) (fun a s => { s with dns := { s.dns with model := a } })
    (fun _ _ => rfl) (fun _ => rfl) fun _ _ _ => rfl

def scope : FieldRef BrokerConfig Bytes :=
  ofSettings (·.scope) (fun a s => { s with scope := a }) (fun _ _ => rfl) (fun _ => rfl) fun _ _ _ => rfl

def listenPort : FieldRef BrokerConfig (BitVec 16) :=
  ofSettings (·.listenPort) (fun a s => { s with listenPort := a }) (fun _ _ => rfl) (fun _ => rfl)
    fun _ _ _ => rfl

def listenInterfaces : FieldRef BrokerConfig (List Bytes) :=
  ofSettings (·.listenInterfaces) (fun a s => { s with listenInterfaces := a })
    (fun _ _ => rfl) (fun _ => rfl) fun _ _ _ => rfl

def connections : FieldRef BrokerConfig (BitVec 32) :=
  ofSettings (·.limits.connections) (fun a s => { s with limits := { s.limits with connections := a } })
    (fun _ _ => rfl) (fun _ => rfl) fun _ _ _ => rfl

def controllers : FieldRef BrokerConfig (BitVec 32) :=
  ofSettings (·.limits.controllers) (fun a s => { s with limits := { s.limits with controllers := a } })
    (fun _ _ => rfl) (fun _ => rfl) fun _ _ _ => rfl

def controllerMessages : FieldRef BrokerConfig (BitVec 32) :=
  ofSettings (·.limits.controllerMessages)
    (fun a s => { s with limits := { s.limits with controllerMessages := a } })
    (fun _ _ => rfl) (fun _ => rfl) fun _ _ _ => rfl

def devices : FieldRef BrokerConfig (BitVec 32) :=
  ofSettings (·.limits.devices) (fun a s => { s with limits := { s.limits with devices := a } })
    (fun _ _ => rfl) (fun _ => rfl) fun _ _ _ => rfl

def deviceMessages : FieldRef BrokerConfig (BitVec 32) :=
  ofSettings (·.limits.deviceMessages)
    (fun a s => { s with limits := { s.limits with deviceMessages := a } })
    (fun _ _ => rfl) (fun _ => rfl) fun _ _ _ => rfl

def rejectConnections : FieldRef BrokerConfig (BitVec 32) :=
  ofSettings (·.limits.rejectConnections)
    (fun a s => { s with limits := { s.limits with rejectConnections := a } })
    (fun _ _ => rfl) (fun _ => rfl) fun _ _ _ => rfl

def logMask : FieldRef BrokerConfig Int where
  get c := c.logMask
  set a c := { c with logMask := a }
  get_set _ _ := rfl
  set_get _ := rfl
  set_set _ _ _ := rfl

def enableBroker : FieldRef BrokerConfig Bool where
  get c := c.enableBroker
  set a c := { c with enableBroker := a }
  get_set _ _ := rfl
  set_get _ := rfl
  set_set _ _ _ := rfl

end Field

def getField {α : Type} (field : FieldRef BrokerConfig α) : ConfigM α := do
  return field.get (← get).config

def setField {α : Type} (field : FieldRef BrokerConfig α) (a : α) : ConfigM Unit :=
  modify fun s => { s with config := field.set a s.config }

def setCurrent (v : Json) : ConfigM Unit :=
  modify fun s => { s with config := { s.config with current := v } }

/-- A call of a logger method; `log` says whether a logger was given. -/
def logMessage (log : Bool) (priority : LogPriority) (format : String) (args : List LogArg) :
    ConfigM Unit :=
  if log then modify fun s => { s with messages := s.messages ++ [⟨priority, format, args⟩] }
  else pure ()

def kValidationFailLogPrefix : String := "Invalid value found in configuration file: "

def kValidationFailLogPostfix : String := " (default will be used instead)."

def logParseError (log : Bool) (format : String) (args : List LogArg) : ConfigM Unit :=
  logMessage log .notice (kValidationFailLogPrefix ++ format ++ kValidationFailLogPostfix) args

/-- `BROKER_ASSERT_VERIFY(key_ptr, ...)` in the function `func`: a null pointer is
logged as critical and makes the check fail. -/
def brokerAssertVerify (keyPtr : Option String) (func : String) (line : Int) (log : Bool) :
    ConfigM Bool :=
  match keyPtr with
  | some _ => return true
  | none => do
    logMessage log .crit "ASSERTION \"%s\" FAILED (FILE: \"%s\" FUNCTION: \"%s\" LINE: %d)"
      [.str (bytes "key_ptr"), .str (bytes "broker_config.cpp"), .str (bytes func), .int line]
    return false

def keyArg (keyPtr : Option String) : LogArg := .str (bytes (keyPtr.getD ""))

def validateAndStoreCid (L : Libraries) (val : Json) (log : Bool) : ConfigM Bool := do
  setField Field.cid (L.uuidFromString (← val.getString))
  if !(← getField Field.cid).isNull then
    return true
  else
    logParseError log "\"%s\" is not a valid CID" [.str (← val.getString)]
    return false

def validateAndStoreUid (val : Json) (log : Bool) : ConfigM Bool := do
  if !val.contains (bytes "type") then
    logParseError log "The \"uid\" object must contain a \"type\" field" []
    return false
  if !(← val.index (bytes "type")).isString then
    logParseError log "The value for setting \"/uid/type\" was of invalid type \"%s\""
      [.str (← val.index (bytes "type")).typeName]
    return false
  if !val.contains (bytes "manufacturer_id") then
    logParseError log "The \"uid\" object must contain a \"manufacturer_id\" field" []
    return false
  if !(← val.index (bytes "manufacturer_id")).isNumberInteger then
    logParseError log "The value for setting \"/uid/manufacturer_id\" was of invalid type \"%s\""
      [.str (← val.index (bytes "manufacturer_id")).typeName]
    return false
  let type ← (← val.index (bytes "type")).getString
  let manufacturerId ← (← val.index (bytes "manufacturer_id")).getInt64
  if manufacturerId.toInt ≤ 0 ∨ manufacturerId.toInt ≥ 0x8000 then
    logParseError log "UID: \"%lld\" is not a valid Manufacturer ID" [.int manufacturerId.toInt]
    return false
  if type = bytes "static" then
    if !val.contains (bytes "device_id") then
      logParseError log
        "When \"/uid/type\" is \"static\", the \"uid\" object must contain a \"device_id\" field" []
      return false
    if !(← val.index (bytes "device_id")).isNumberInteger then
      logParseError log "The value for setting \"/uid/device_id\" was of invalid type \"%s\""
        [.str (← val.index (bytes "device_id")).typeName]
      return false
    let deviceId ← (← val.index (bytes "device_id")).getInt64
    if deviceId.toInt < 0 ∨ deviceId.toInt > 0xffffffff then
      logParseError log "Static UID: \"%lld\" is not a valid Device ID" [.int deviceId.toInt]
      return false
    setField Field.uid (Uid.ofStatic (manufacturerId.setWidth 16) (deviceId.setWidth 32))
    return true
  else if type = bytes "dynamic" then
    if val.contains (bytes "device_id") then
      logParseError log
        "When \"/uid/type\" is \"dynamic\", the \"uid\" object must not contain a \"device_id\" field" []
      return false
    setField Field.uid (Uid.dynamicUidRequest (manufacturerId.setWidth 16))
    return true
  else
    logParseError log "The field \"/uid/type\" must be one of \"static\" or \"dynamic\"" []
    return false

def validateAndStoreString (keyPtr : Option String) (val : Json) (string : FieldRef BrokerConfig Bytes)
    (maxSize : Nat) (log : Bool) (truncationAllowed : Bool := true) : ConfigM Bool := do
  if !(← brokerAssertVerify keyPtr "ValidateAndStoreString" 163 log) then
    return false
  let strVal ← val.getString
  if strVal.isEmpty then
    logParseError log "Empty string is not allowed for field \"%s\"" [keyArg keyPtr]
    return false
  if strVal.length > maxSize then
    if truncationAllowed then
      setField string (strVal.take maxSize)
      logMessage log .notice
        "Configuration file: Truncating overlong string \"%s\" for field \"%s\" to \"%s\"."
        [.str strVal, keyArg keyPtr, .str (← getField string)]
      return true
    else
      logParseError log "String value \"%s\" is too long for field \"%s\" of maximum length %zu"
        [.str strVal, keyArg keyPtr, .int maxSize]
      return false
  setField string strVal
  return true

def formatStringOf (w : Nat) : String := if w = 16 then "%hu" else "%u"

/-- `ValidateAndStoreInt` at an unsigned type of `w ≤ 32` bits: both sides of the
comparisons are promoted to `int64_t`. -/
def validateAndStoreInt {w : Nat} (keyPtr : Option String) (val : Json)
    (setting : FieldRef BrokerConfig (BitVec w)) (log : Bool)
    (limits : BitVec w × BitVec w := (0, BitVec.allOnes w)) : ConfigM Bool := do
  if !(← brokerAssertVerify keyPtr "ValidateAndStoreInt" 229 log) then
    return false
  let intVal ← val.getInt64
  if intVal.toInt < limits.1.toNat ∨ intVal.toInt > limits.2.toNat then
    logParseError log ("Integer value \"%lld\" is outside allowable range [" ++ formatStringOf w ++
      ", " ++ formatStringOf w ++ "] for field \"%s\"")
      [.int intVal.toInt, .int limits.1.toNat, .int limits.2.toNat, keyArg keyPtr]
    return false
  setField setting (intVal.setWidth w)
  return true

def storeInterfaces (log : Bool) : List Json → ConfigM Bool
  | [] => return true
  | listenInterface :: rest => do
    if listenInterface.type ≠ .string then
      logParseError log
        "The array field \"/listen_interfaces\" may only contain values of type \"string\"" []
      setField Field.listenInterfaces []
      return false
    setField Field.listenInterfaces
      ((← getField Field.listenInterfaces) ++ [← listenInterface.getString])
    storeInterfaces log rest

def validateAndStoreInterfaceList (val : Json) (log : Bool) : ConfigM Bool := do
  storeInterfaces log (← val.getVector)

/-- In the order of the `std::map`, which is that of the keys. -/
def kLogLevelOptions (L : Libraries) : List (String × Int) :=
  [("alert", L.logUpto .alert), ("crit", L.logUpto .crit), ("debug", L.logUpto .debug),
    ("emerg", L.logUpto .emerg), ("err", L.logUpto .err), ("info", L.logUpto .info),
    ("notice", L.logUpto .notice), ("warning", L.logUpto .warning)]

def getLogLevelOptions (L : Libraries) : String :=
  match kLogLevelOptions L with
  | [] => "\x7b\x7d"
  | first :: rest =>
    "\x7b" ++ rest.foldl (fun a b => a ++ ", \"" ++ b.1 ++ "\"") ("\"" ++ first.1 ++ "\"") ++ "\x7d"

def validateAndStoreLogLevel (L : Libraries) (val : Json) (log : Bool) : ConfigM Bool := do
  let logLevel ← val.getString
  match (kLogLevelOptions L).find? (fun p => bytes p.1 = logLevel) with
  | none =>
    logParseError log ("The value for field \"/log_level\" must be one of " ++ getLogLevelOptions L) []
    return false
  | some levelPair =>
    setField Field.logMask levelPair.2
    return true

def validateAndStoreEnableBroker (val : Json) : ConfigM Bool := do
  setField Field.enableBroker (← val.getBool)
  return true

structure Validator where
  pointer : List Bytes
  type : ValueType
  validateAndStore : Json → Bool → ConfigM Bool
  storeDefault : ConfigM Unit

def Validator.pointerText (v : Validator) : Bytes := v.pointer.flatMap (bytes "/" ++ ·)

def stringEntry (key : String) (pointer : List Bytes) (field : FieldRef BrokerConfig Bytes)
    (maxSize : Nat) (truncationAllowed : Bool) (storeDefault : ConfigM Unit) : Validator where
  pointer := pointer
  type := .string
  validateAndStore val log := validateAndStoreString (some key) val field maxSize log truncationAllowed
  storeDefault := storeDefault

def intEntry {w : Nat} (key : String) (pointer : List Bytes) (field : FieldRef BrokerConfig (BitVec w))
    (limits : BitVec w × BitVec w) (default : BitVec w) : Validator where
  pointer := pointer
  type := .numberUnsigned
  validateAndStore val log := validateAndStoreInt (some key) val field log limits
  storeDefault := setField field default

def limitEntry (name : String) (field : FieldRef BrokerConfig (BitVec 32)) (default : BitVec 32) :
    Validator :=
  intEntry ("/" ++ name) [bytes name] field (0, BitVec.allOnes 32) default

def cidEntry (L : Libraries) : Validator where
  pointer := [bytes "cid"]
  type := .string
  validateAndStore := validateAndStoreCid L
  storeDefault := do setField Field.cid (← get).config.defaultCid

def uidEntry : Validator where
  pointer := [bytes "uid"]
  type := .object
  validateAndStore := validateAndStoreUid
  storeDefault := setField Field.uid (Uid.dynamicUidRequest 0x6574#16)

def serviceInstanceNameEntry (L : Libraries) : Validator :=
  stringEntry "/dns_sd/service_instance_name" [bytes "dns_sd", bytes "service_instance_name"]
    Field.serviceInstanceName (L.e133ServiceNameStringPaddedLength - 1) true do
      setField Field.serviceInstanceName
        (bytes "ETC RDMnet Broker " ++ L.uuidToString (← getField Field.cid))

def manufacturerEntry (L : Libraries) : Validator :=
  stringEntry "/dns_sd/manufacturer" [bytes "dns_sd", bytes "manufacturer"] Field.manufacturer
    (L.e133ManufacturerStringPaddedLength - 1) true (setField Field.manufacturer (bytes "ETC"))

def modelEntry (L : Libraries) : Validator :=
  stringEntry "/dns_sd/model" [bytes "dns_sd", bytes "model"] Field.model
    (L.e133ModelStringPaddedLength - 1) true (setField Field.model (bytes "RDMnet Broker Service"))

def scopeEntry (L : Libraries) : Validator :=
  stringEntry "/scope" [bytes "scope"] Field.scope (L.e133ScopeStringPaddedLength - 1) false
    (setField Field.scope L.e133DefaultScope)

def listenPortEntry : Validator :=
  intEntry "/listen_port" [bytes "listen_port"] Field.listenPort (1024#16, 65535#16) 0#16

def listenInterfacesEntry : Validator where
  pointer := [bytes "listen_interfaces"]
  type := .array
  validateAndStore := validateAndStoreInterfaceList
  storeDefault := setField Field.listenInterfaces []

def logLevelEntry (L : Libraries) : Validator where
  pointer := [bytes "log_level"]
  type := .string
  validateAndStore := validateAndStoreLogLevel L
  storeDefault := setField Field.logMask (L.logUpto .info)

def enableBrokerEntry : Validator where
  pointer := [bytes "enable_broker"]
  type := .boolean
  validateAndStore val _ := validateAndStoreEnableBroker val
  storeDefault := setField Field.enableBroker true

def kSettingsValidatorArray (L : Libraries) : List Validator :=
  [cidEntry L, uidEntry, serviceInstanceNameEntry L, manufacturerEntry L, modelEntry L, scopeEntry L,
    listenPortEntry, listenInterfacesEntry, logLevelEntry L,
    limitEntry "max_connections" Field.connections 0,
    limitEntry "max_controllers" Field.controllers 0,
    limitEntry "max_controller_messages" Field.controllerMessages 500,
    limitEntry "max_devices" Field.devices 0,
    limitEntry "max_device_messages" Field.deviceMessages 500,
    limitEntry "max_reject_connections" Field.rejectConnections 1000,
    enableBrokerEntry]

def setDefaultsFrom (table : List Validator) : ConfigM Unit :=
  table.forM (·.storeDefault)

def setDefaults (L : Libraries) : ConfigM Unit := setDefaultsFrom (kSettingsValidatorArray L)

def validateEntry (log : Bool) (res : ParseResult) (setting : Validator) : ConfigM ParseResult := do
  let current := (← get).config.current
  if current.containsPointer setting.pointer then
    let val ← current.indexPointer setting.pointer
    if val.isNull then
      setting.storeDefault
      return res
    else if val.type ≠ setting.type then
      logParseError log "The value for setting \"%s\" was of invalid type \"%s\""
        [.str setting.pointerText, .str val.typeName]
      setting.storeDefault
      return .invalidSetting
    else if !(← setting.validateAndStore val log) then
      setting.storeDefault
      return .invalidSetting
    else
      return res
  else
    setting.storeDefault
    logMessage log .debug "Configuration file: No value present for \"%s\", using default."
      [.str setting.pointerText]
    return res

def validateCurrentWith (table : List Validator) (log : Bool) : ConfigM ParseResult := do
  if !(← get).config.current.isObject then
    return .jsonParseErr
  table.foldlM (validateEntry log) .ok

def validateCurrent (L : Libraries) (log : Bool) : ConfigM ParseResult :=
  validateCurrentWith (kSettingsValidatorArray L) log

def extractCurrent (L : Libraries) (stream : Bytes) : ConfigM Unit :=
  match L.extract stream with
  | .value v _ => setCurrent v
  | .throws e v => do
    setCurrent v
    throw e

/-- The one catch clause of `Read` is for `json::parse_error`. -/
def catchParseError (log : Bool) (e : JsonException) : ConfigM ParseResult :=
  match e.kind with
  | .parseError => do
    logMessage log .notice "Could not parse configuration file: %s" [.str e.what]
    return .jsonParseErr
  | _ => throw e

def read (L : Libraries) (stream : Bytes) (log : Bool) : ConfigM ParseResult :=
  tryCatch (do extractCurrent L stream; validateCurrent L log) (catchParseError log)

/-- What `GetConfFile` gives: the path, and the contents when the file could be opened. -/
structure ConfFile where
  path : Bytes
  content : Option Bytes
  deriving DecidableEq

def checkOpen (file : ConfFile) : ConfigM Unit := do
  if file.content.isNone then
    setField Field.enableBroker false
    if file.path.isEmpty then
      logMessage true .notice "Error opening configuration file." []
    else
      logMessage true .notice "Error opening configuration file located at path \"%s\"."
        [.str file.path]

/-- `LoadBrokerConfig` after `SetDefaults`. An unopened stream reads as an empty one. -/
def loadFrom (L : Libraries) (file : ConfFile) : ConfigM Unit := do
  checkOpen file
  logMessage true .info "Reading configuration file at %s..." [.str file.path]
  let parseRes ← read L (file.content.getD []) true
  if parseRes ≠ .ok ∧ parseRes ≠ .invalidSetting then
    setField Field.enableBroker false

def loadBrokerConfig (L : Libraries) (file : ConfFile) : ConfigM Unit := do
  setDefaults L
  loadFrom L file

end RdmnetBroker
