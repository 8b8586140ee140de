import RdmnetBroker.Config.Model

/-! # What a configuration document means

The abstract reading of a document, field by field and without state: a
setting is a pointer, a JSON type and a partial decoding of values. Nothing
here is taken from the order in which the service visits the settings.
-/

namespace RdmnetBroker

set_option autoImplicit false

/-- A setting of the document: where it is, its type, and how an accepted value reads. -/
structure Setting (α : Type) where
  pointer : List Bytes
  type : ValueType
  decode : Json → Option α

namespace Setting

variable {α : Type}

def configured (setting : Setting α) (doc : Json) : Option α :=
  match doc.lookup setting.pointer with
  | some v => if v.type = setting.type then setting.decode v else none
  | none => none

/-- A value is there, is not null, and is not acceptable. -/
def rejected (setting : Setting α) (doc : Json) : Bool :=
  match doc.lookup setting.pointer with
  | some v => !v.isNull && (v.type != setting.type || (setting.decode v).isNone)
  | none => false

end Setting

def decodeCid (L : Libraries) : Json → Option Uuid
  | .string s => if (L.uuidFromString s).isNull then none else some (L.uuidFromString s)
  | _ => none

def uidOf (type : Bytes) (manufacturerId : Int) (deviceId : Option Json) : Option Uid :=
  if manufacturerId < 1 ∨ 0x7fff < manufacturerId then none
  else if type = bytes "static" then
    match deviceId.bind Json.intValue? with
    | some d =>
      if 0 ≤ d ∧ d ≤ 0xffffffff then
        some (Uid.ofStatic (BitVec.ofInt 16 manufacturerId) (BitVec.ofInt 32 d))
      else none
    | none => none
  else if type = bytes "dynamic" then
    if deviceId.isNone then some (Uid.dynamicUidRequest (BitVec.ofInt 16 manufacturerId)) else none
  else none

def decodeUid (v : Json) : Option Uid :=
  match v.member? (bytes "type"), (v.member? (bytes "manufacturer_id")).bind Json.intValue? with
  | some (.string type), some m => uidOf type m (v.member? (bytes "device_id"))
  | _, _ => none

def decodeString (maxSize : Nat) (truncationAllowed : Bool) : Json → Option Bytes
  | .string s =>
    if s = [] then none
    else if s.length ≤ maxSize then some s
    else if truncationAllowed then some (s.take maxSize)
    else none
  | _ => none

def decodeInt {w : Nat} (limits : BitVec w × BitVec w) (v : Json) : Option (BitVec w) :=
  match v.intValue? with
  | some i => if limits.1.toNat ≤ i ∧ i ≤ limits.2.toNat then some (BitVec.ofInt w i) else none
  | none => none

def stringOf? : Json → Option Bytes
  | .string s => some s
  | _ => none

def decodeInterfaces : Json → Option (List Bytes)
  | .array xs => xs.mapM stringOf?
  | _ => none

def decodeLogLevel (L : Libraries) : Json → Option Int
  | .string s => ((kLogLevelOptions L).find? (fun p => bytes p.1 = s)).map Prod.snd
  | _ => none

def decodeBool : Json → Option Bool
  | .boolean b => some b
  | _ => none

namespace Setting

def cid (L : Libraries) : Setting Uuid := ⟨[bytes "cid"], .string, decodeCid L⟩

def uid : Setting Uid := ⟨[bytes "uid"], .object, decodeUid⟩

def serviceInstanceName (L : Libraries) : Setting Bytes where
  pointer := [bytes "dns_sd", bytes "service_instance_name"]
  type := .string
  decode := decodeString (L.e133ServiceNameStringPaddedLength - 1) true

def manufacturer (L : Libraries) : Setting Bytes where
  pointer := [bytes "dns_sd", bytes "manufacturer"]
  type := .string
  decode := decodeString (L.e133ManufacturerStringPaddedLength - 1) true

def model (L : Libraries) : Setting Bytes where
  pointer := [bytes "dns_sd", bytes "model"]
  type := .string
  decode := decodeString (L.e133ModelStringPaddedLength - 1) true

def scope (L : Libraries) : Setting Bytes where
  pointer := [bytes "scope"]
  type := .string
  decode := decodeString (L.e133ScopeStringPaddedLength - 1) false

def listenPort : Setting (BitVec 16) where
  pointer := [bytes "listen_port"]
  type := .numberUnsigned
  decode := decodeInt (1024#16, 65535#16)

def listenInterfaces : Setting (List Bytes) := ⟨[bytes "listen_interfaces"], .array, decodeInterfaces⟩

def logLevel (L : Libraries) : Setting Int := ⟨[bytes "log_level"], .string, decodeLogLevel L⟩

def limit (name : String) : Setting (BitVec 32) :=
  ⟨[bytes name], .numberUnsigned, decodeInt (0, BitVec.allOnes 32)⟩

def enableBroker : Setting Bool := ⟨[bytes "enable_broker"], .boolean, decodeBool⟩

def erase {α : Type} (setting : Setting α) : Setting Unit :=
  ⟨setting.pointer, setting.type, fun v => (setting.decode v).map fun _ => ()⟩

def all (L : Libraries) : List (Setting Unit) :=
  [(cid L).erase, uid.erase, (serviceInstanceName L).erase, (manufacturer L).erase, (model L).erase,
    (scope L).erase, listenPort.erase, listenInterfaces.erase, (logLevel L).erase,
    (limit "max_connections").erase, (limit "max_controllers").erase,
    (limit "max_controller_messages").erase, (limit "max_devices").erase,
    (limit "max_device_messages").erase, (limit "max_reject_connections").erase, enableBroker.erase]

end Setting

def defaultServiceInstanceName (L : Libraries) (cid : Uuid) : Bytes :=
  bytes "ETC RDMnet Broker " ++ L.uuidToString cid

/-- The settings that a document gives, by field. The default service name
carries the CID that the document ends up with. -/
def documentSettings (L : Libraries) (defaultCid : Uuid) (doc : Json) : Settings where
  cid := ((Setting.cid L).configured doc).getD defaultCid
  uid := (Setting.uid.configured doc).getD (Uid.dynamicUidRequest 0x6574#16)
  dns :=
    { serviceInstanceName := ((Setting.serviceInstanceName L).configured doc).getD
        (defaultServiceInstanceName L (((Setting.cid L).configured doc).getD defaultCid))
      manufacturer := ((Setting.manufacturer L).configured doc).getD (bytes "ETC")
      model := ((Setting.model L).configured doc).getD (bytes "RDMnet Broker Service") }
  scope := ((Setting.scope L).configured doc).getD L.e133DefaultScope
  listenPort := (Setting.listenPort.configured doc).getD 0
  listenInterfaces := (Setting.listenInterfaces.configured doc).getD []
  limits :=
    { connections := ((Setting.limit "max_connections").configured doc).getD 0
      controllers := ((Setting.limit "max_controllers").configured doc).getD 0
      controllerMessages := ((Setting.limit "max_controller_messages").configured doc).getD 500
      devices := ((Setting.limit "max_devices").configured doc).getD 0
      deviceMessages := ((Setting.limit "max_device_messages").configured doc).getD 500
      rejectConnections := ((Setting.limit "max_reject_connections").configured doc).getD 1000 }

def documentLogMask (L : Libraries) (doc : Json) : Int :=
  ((Setting.logLevel L).configured doc).getD (L.logUpto .info)

def documentEnableBroker (doc : Json) : Bool := (Setting.enableBroker.configured doc).getD true

def documentResult (L : Libraries) (doc : Json) : ParseResult :=
  if (Setting.all L).any (·.rejected doc) then .invalidSetting else .ok

def defaultSettings (L : Libraries) (defaultCid : Uuid) : Settings where
  cid := defaultCid
  uid := Uid.dynamicUidRequest 0x6574#16
  dns :=
    { serviceInstanceName := defaultServiceInstanceName L defaultCid
      manufacturer := bytes "ETC"
      model := bytes "RDMnet Broker Service" }
  scope := L.e133DefaultScope
  listenPort := 0
  listenInterfaces := []
  limits := ⟨0, 0, 500, 0, 500, 1000⟩

end RdmnetBroker
