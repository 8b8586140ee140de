import Mathlib.Algebra.Group.Int.Defs
import Mathlib.Algebra.Group.Nat.Defs
import Mathlib.Data.Rat.Defs

/-! # JSON values

The part of `nlohmann::json` that the configuration reader uses: the values
that a text can yield, the type tests, the conversions with their exceptions,
and lookup by key and by JSON pointer. Text is bytes, as in `std::string`.
-/

namespace RdmnetBroker

set_option autoImplicit false

/-- A `std::string`. -/
abbrev Bytes := List UInt8

def bytes (s : String) : Bytes := s.toList.map fun c => UInt8.ofNat c.toNat

/-- `json::value_t`, less the two kinds that no text yields. -/
inductive ValueType
  | null | object | array | string | boolean | numberInteger | numberUnsigned | numberFloat
  deriving DecidableEq, Repr

/-- Integers have the 64 bits of `number_integer_t` and `number_unsigned_t`;
a float literal is kept by its exact value, which is finite. -/
inductive Json
  | null
  | object (members : List (Bytes × Json))
  | array (elements : List Json)
  | string (s : Bytes)
  | boolean (b : Bool)
  | numberInteger (i : BitVec 64)
  | numberUnsigned (n : BitVec 64)
  | numberFloat (v : Rat)

/-- The exception families of the library. `assertion` stands for a failed
`JSON_ASSERT`, the behaviour of a const `operator[]` on a missing key. -/
inductive ExceptionKind
  | parseError | invalidIterator | typeError | outOfRange | otherError | assertion
  deriving DecidableEq, Repr

structure JsonException where
  kind : ExceptionKind
  what : Bytes

namespace Json

def type : Json → ValueType
  | .null => .null
  | .object _ => .object
  | .array _ => .array
  | .string _ => .string
  | .boolean _ => .boolean
  | .numberInteger _ => .numberInteger
  | .numberUnsigned _ => .numberUnsigned
  | .numberFloat _ => .numberFloat

def typeName (v : Json) : Bytes :=
  match v.type with
  | .null => bytes "null"
  | .object => bytes "object"
  | .array => bytes "array"
  | .string => bytes "string"
  | .boolean => bytes "boolean"
  | .numberInteger | .numberUnsigned | .numberFloat => bytes "number"

def isNull (v : Json) : Bool := v.type == .null

def isObject (v : Json) : Bool := v.type == .object

def isString (v : Json) : Bool := v.type == .string

def isNumberInteger (v : Json) : Bool := v.type == .numberInteger || v.type == .numberUnsigned

def intValue? : Json → Option Int
  | .numberInteger i => some i.toInt
  | .numberUnsigned n => some n.toNat
  | _ => none

section Conversions

variable {σ : Type}

def typeError {α : Type} (expected : String) (v : Json) : EStateM JsonException σ α :=
  throw ⟨.typeError, bytes "[json.exception.type_error.302] type must be " ++ bytes expected ++
    bytes ", but is " ++ v.typeName⟩

def getString : Json → EStateM JsonException σ Bytes
  | .string s => pure s
  | v => typeError "string" v

/-- Conversion to `int64_t`: an unsigned value keeps its bits. -/
def getInt64 : Json → EStateM JsonException σ (BitVec 64)
  | .numberUnsigned n => pure n
  | .numberInteger i => pure i
  | .numberFloat v => pure (BitVec.ofInt 64 (v.num.tdiv v.den))
  | v => typeError "number" v

def getBool : Json → EStateM JsonException σ Bool
  | .boolean b => pure b
  | v => typeError "boolean" v

def getVector : Json → EStateM JsonException σ (List Json)
  | .array xs => pure xs
  | v => typeError "array" v

end Conversions

def contains : Json → Bytes → Bool
  | .object ms, key => (ms.lookup key).isSome
  | _, _ => false

def member? : Json → Bytes → Option Json
  | .object ms, key => ms.lookup key
  | _, _ => none

def index {σ : Type} (v : Json) (key : Bytes) : EStateM JsonException σ Json :=
  match v with
  | .object ms =>
    match ms.lookup key with
    | some w => pure w
    | none => throw ⟨.assertion, []⟩
  | _ => throw ⟨.typeError, bytes "[json.exception.type_error.305] cannot use operator[] with a " ++
      bytes "string argument with " ++ v.typeName⟩

def arrayIndex (token : Bytes) : Option Nat :=
  if token = bytes "0" then some 0
  else if token ≠ [] ∧ token.head? ≠ some 48 ∧ token.all (fun c => 48 ≤ c && c ≤ 57) then
    some (token.foldl (fun n c => 10 * n + (c.toNat - 48)) 0)
  else none

def lookup (v : Json) : List Bytes → Option Json
  | [] => some v
  | token :: tokens =>
    match v with
    | .object ms =>
      match ms.lookup token with
      | some w => w.lookup tokens
      | none => none
    | .array xs =>
      match arrayIndex token with
      | some i =>
        match xs[i]? with
        | some w => w.lookup tokens
        | none => none
      | none => none
    | _ => none

def containsPointer (v : Json) (pointer : List Bytes) : Bool := (v.lookup pointer).isSome

def indexPointer {σ : Type} (v : Json) (pointer : List Bytes) : EStateM JsonException σ Json :=
  match v.lookup pointer with
  | some w => pure w
  | none => throw ⟨.assertion, []⟩

end Json

end RdmnetBroker
