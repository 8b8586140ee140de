import RdmnetBroker.Json

/-! # What the broker service takes from its libraries

Types with a documented representation (EtcPal UUIDs and timers, RDM UIDs) are
given by it. Functions and constants whose code is elsewhere are the fields of
`Libraries`; what the service relies on about them is `Libraries.Documented`.
-/

namespace RdmnetBroker

set_option autoImplicit false

/-- `etcpal::Uuid`: sixteen bytes, null when they are all zero. -/
structure Uuid where
  data : BitVec 128
  deriving DecidableEq, Repr

def Uuid.isNull (u : Uuid) : Bool := u.data == 0

structure Uid where
  manufacturerId : BitVec 16
  deviceId : BitVec 32
  deriving DecidableEq, Repr

namespace Uid

def ofStatic (manufacturerId : BitVec 16) (deviceId : BitVec 32) : Uid := ⟨manufacturerId, deviceId⟩

/-- Bit 15 of the manufacturer ID marks a request. -/
def dynamicUidRequest (manufacturerId : BitVec 16) : Uid := ⟨manufacturerId ||| 0x8000#16, 0⟩

end Uid

inductive LogPriority
  | emerg | alert | crit | err | warning | notice | info | debug
  deriving DecidableEq, Repr

inductive LogArg
  | str (s : Bytes)
  | int (i : Int)
  deriving DecidableEq

structure LogMessage where
  priority : LogPriority
  format : String
  args : List LogArg
  deriving DecidableEq

/-- `etcpal::Timer` on a 32-bit millisecond tick. -/
structure Timer where
  resetTime : BitVec 32
  interval : BitVec 32
  deriving DecidableEq, Repr

namespace Timer

def elapsed (t : Timer) (now : BitVec 32) : BitVec 32 := now - t.resetTime

def start (now interval : BitVec 32) : Timer := ⟨now, interval⟩

def getRemaining (t : Timer) (now : BitVec 32) : BitVec 32 :=
  if t.elapsed now < t.interval then t.interval - t.elapsed now else 0

def isExpired (t : Timer) (now : BitVec 32) : Bool :=
  t.interval == 0 || t.interval < t.elapsed now

end Timer

/-- How `stream >> json` ends: a value and the unread rest of the stream, or an
exception, with whatever the target holds by then. -/
inductive Extraction
  | value (v : Json) (rest : Bytes)
  | throws (e : JsonException) (partialValue : Json)

structure Libraries where
  /-- `operator>>(std::istream&, json&)` on the bytes of the stream. -/
  extract : Bytes → Extraction
  uuidFromString : Bytes → Uuid
  uuidToString : Uuid → Bytes
  /-- The macro `ETCPAL_LOG_UPTO`. -/
  logUpto : LogPriority → Int
  e133ServiceNameStringPaddedLength : Nat
  e133ManufacturerStringPaddedLength : Nat
  e133ModelStringPaddedLength : Nat
  e133ScopeStringPaddedLength : Nat
  e133DefaultScope : Bytes

def Extraction.throwsKind (x : Extraction) (kind : ExceptionKind) : Prop :=
  ∃ what v, x = .throws ⟨kind, what⟩ v

/-- The documented behaviour that the service relies on. -/
structure Libraries.Documented (L : Libraries) : Prop where
  extract_throws : ∀ text e v, L.extract text = .throws e v →
    e.kind = .parseError ∨ e.kind = .outOfRange
  extract_empty : (L.extract []).throwsKind .parseError
  uuidToString_length : ∀ u, (L.uuidToString u).length = 36
  serviceName_bound : L.e133ServiceNameStringPaddedLength = 64
  scope_bound : L.e133ScopeStringPaddedLength = 63
  manufacturer_bound : (bytes "ETC").length < L.e133ManufacturerStringPaddedLength
  model_bound : (bytes "RDMnet Broker Service").length < L.e133ModelStringPaddedLength
  defaultScope_ne_nil : L.e133DefaultScope ≠ []
  defaultScope_bound : L.e133DefaultScope.length < L.e133ScopeStringPaddedLength

def hexDigit (n : Nat) : UInt8 := UInt8.ofNat (if n < 10 then 48 + n else 87 + n)

def Uuid.text (u : Uuid) : Bytes :=
  let group (first count : Nat) : Bytes :=
    (List.range count).map fun i => hexDigit (u.data.toNat / 16 ^ (31 - (first + i)) % 16)
  group 0 8 ++ [45] ++ group 8 4 ++ [45] ++ group 12 4 ++ [45] ++ group 16 4 ++ [45] ++ group 20 12

/-- Some texts of configuration files and what the JSON library makes of them.
The literal `1e999` has no finite double. -/
def sampleTexts : List (Bytes × Extraction) :=
  [(bytes "\x7b\x7d", .value (.object []) []),
    (bytes "\x7b\"enable_broker\": false\x7d",
      .value (.object [(bytes "enable_broker", .boolean false)]) []),
    (bytes "\x7b\"scope\": \"stage\", \"listen_port\": 80\x7d",
      .value (.object [(bytes "listen_port", .numberUnsigned 80#64),
        (bytes "scope", .string (bytes "stage"))]) []),
    (bytes "\x7b\"listen_port\": 1e999\x7d", .throws ⟨.outOfRange,
      bytes "[json.exception.out_of_range.406] number overflow parsing '1e999'"⟩ (.object []))]

def Libraries.sample : Libraries where
  extract text := (sampleTexts.lookup text).getD (.throws ⟨.parseError,
    bytes "[json.exception.parse_error.101] parse error: unexpected end of input"⟩ .null)
  uuidFromString _ := ⟨0⟩
  uuidToString := Uuid.text
  logUpto
    | .emerg => 1
    | .alert => 3
    | .crit => 7
    | .err => 15
    | .warning => 31
    | .notice => 63
    | .info => 127
    | .debug => 255
  e133ServiceNameStringPaddedLength := 64
  e133ManufacturerStringPaddedLength := 250
  e133ModelStringPaddedLength := 250
  e133ScopeStringPaddedLength := 63
  e133DefaultScope := bytes "default"

theorem Libraries.sample_documented : Libraries.sample.Documented where
  extract_throws text e v h := by
    have hMem : ∀ p ∈ sampleTexts, ∀ e v, p.2 = .throws e v → e.kind = .outOfRange := by
      simp [sampleTexts]
    change (sampleTexts.lookup text).getD _ = _ at h
    cases hLookup : sampleTexts.lookup text with
    | none =>
      rw [hLookup] at h
      cases h
      exact .inl rfl
    | some x =>
      rw [hLookup] at h
      obtain ⟨l₁, l₂, hTexts, _⟩ := List.lookup_eq_some_iff.mp hLookup
      exact .inr (hMem (text, x) (by simp [hTexts]) e v h)
  extract_empty := ⟨_, _, rfl⟩
  uuidToString_length u := by simp [Libraries.sample, Uuid.text]
  serviceName_bound := rfl
  scope_bound := rfl
  manufacturer_bound := by decide
  model_bound := by decide
  defaultScope_ne_nil := by decide
  defaultScope_bound := by decide

end RdmnetBroker
