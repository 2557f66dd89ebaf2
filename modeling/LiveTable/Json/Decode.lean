import LiveTable.Json.Basic
set_option autoImplicit false

/-!
# Decoding values

How the types of this library are read from JSON values. No value is converted to another type: an
integer is not a double, a text is not a number. A record is given by the names of its fields or,
as an array, by their order; the case of an enumeration is given by its name.
-/

namespace LiveTable.Json

def flag? : Json → Option Bool
  | .bool flag => some flag
  | _ => none

def text? : Json → Option String
  | .text content => some content
  | _ => none

def natural? : Json → Option Nat
  | .number (.int value) => if 0 ≤ value then some value.toNat else none
  | _ => none

def word32? (v : Json) : Option UInt32 :=
  v.natural?.bind fun n => if h : n < UInt32.size then some (UInt32.ofNatLT n h) else none

def word64? (v : Json) : Option UInt64 :=
  v.natural?.bind fun n => if h : n < UInt64.size then some (UInt64.ofNatLT n h) else none

def items? : Json → Option (List Json)
  | .array items => some items
  | _ => none

def ofWord32 (n : UInt32) : Json := .number (.int n.toNat)

def ofWord64 (n : UInt64) : Json := .number (.int n.toNat)

def present (name : String) : Option Json → List (String × Json)
  | some v => [(name, v)]
  | none => []

/-- Whether a value stands for nothing: no value, a false flag, a zero of either kind, or a text, an
array or an object without content. -/
def isFalsy : Json → Bool
  | .null => true
  | .bool flag => !flag
  | .number (.int value) => value == 0
  | .number (.float value) => value == 0.0
  | .text content => content.isEmpty
  | .array items => items.isEmpty
  | .object fields => fields.isEmpty

variable {α : Type}

def required (decode : Json → Option α) (field : Option Json) : Option α := field.bind decode

/-- A field that may be missing or have no value. -/
def optional (decode : Json → Option α) : Option Json → Option (Option α)
  | none => some none
  | some .null => some none
  | some v => (decode v).map some

/-- A field that may be missing but not without a value. -/
def withDefault (fallback : α) (decode : Json → Option α) : Option Json → Option α
  | none => some fallback
  | some v => decode v

/-- The fields of a record in the given order: an object has some of them under their names, an
array has exactly all of them. -/
def record? (names : List String) : Json → Option (List (Option Json))
  | .object fields => some (names.map (Fields.get? · fields))
  | .array items => if items.length = names.length then some (items.map some) else none
  | _ => none

/-- The fields of a record all of which have defaults: as `record?`, but an array may end early. -/
def recordWithDefaults? (names : List String) : Json → Option (List (Option Json))
  | .object fields => some (names.map (Fields.get? · fields))
  | .array items =>
    if items.length ≤ names.length then
      some (items.map some ++ List.replicate (names.length - items.length) none)
    else none
  | _ => none

/-- The name of a case: as a text, or as the only field of an object, without a value. -/
def caseName? : Json → Option String
  | .text name => some name
  | .object [(name, .null)] => some name
  | _ => none

def case? (cases : List α) (name : α → String) (v : Json) : Option α :=
  v.caseName?.bind fun given => cases.find? fun a => name a = given

def list? (decode : Json → Option α) (v : Json) : Option (List α) :=
  v.items?.bind fun items => items.mapM decode

end LiveTable.Json
