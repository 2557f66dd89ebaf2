import LiveTable.Settings
import LiveTable.Yaml.Node
set_option autoImplicit false

/-!
# Settings files

Settings as a YAML mapping. A field that is not given has its default and unknown fields are passed
over, but no known field may be given twice. Only plain scalars are numbers, flags or nothing; any
scalar is a text.
-/

namespace LiveTable

namespace Yaml

def standardTag : String := "tag:yaml.org,2002:"

/-- The text of a scalar that may be something else than a text: a plain one, or a literal block
with the tag of what it is. -/
def bareText? (kind : String) : Node → Option String
  | .scalar _ .plain text => some text
  | .scalar (some tag) .literal text => if tag = standardTag ++ kind then some text else none
  | _ => none

def based? (base : Nat) (digits : List Char) : Option Nat :=
  if digits.isEmpty then none
  else digits.foldlM (fun n c => do
    let digit ← Text.hexValue? c
    if digit < base then some (n * base + digit) else none) 0

/-- The natural number that a plain text is: decimal without leading zeros, or in another base
behind its mark; a plus sign may stand before it. -/
def natural? (text : String) : Option Nat :=
  let digits :=
    match text.toList with
    | '+' :: rest => rest
    | cs => cs
  match digits with
  | '0' :: 'x' :: rest => based? 16 rest
  | '0' :: 'o' :: rest => based? 8 rest
  | '0' :: 'b' :: rest => based? 2 rest
  | ['0'] => some 0
  | '0' :: _ => none
  | _ => based? 10 digits

def isNull (text : String) : Bool :=
  text.isEmpty || text = "~" || text = "null" || text = "Null" || text = "NULL"

def Node.natural? (node : Node) : Option Nat := (bareText? "int" node).bind Yaml.natural?

def Node.flag? (node : Node) : Option Bool :=
  (bareText? "bool" node).bind fun text =>
    if text = "true" ∨ text = "True" ∨ text = "TRUE" then some true
    else if text = "false" ∨ text = "False" ∨ text = "FALSE" then some false
    else none

def Node.text? : Node → Option String
  | .scalar _ _ text => some text
  | _ => none

/-- The name of a case: a text without a tag of one's own, or such a tag on nothing. -/
def Node.caseName? : Node → Option String
  | .scalar (some tag) style text =>
    match tag.toList with
    | '!' :: name => if style = .plain ∧ isNull text then some (String.ofList name) else none
    | _ => some text
  | .scalar none _ text => some text
  | _ => none

def Node.entries? : Node → Option (List (Node × Node))
  | .mapping _ entries => some entries
  | .scalar _ .plain "" => some []
  | _ => none

/-- The fields of a mapping with the given names. Every key has to be a text, and the keys with
these names have to be different. -/
def Document.fields? (d : Document) (names : List String) (node : Node) :
    Option (List (String × Node)) := do
  let entries ← (d.resolve node).entries?
  let pairs ← entries.mapM fun (key, value) =>
    (d.resolve key).text?.map fun name => (name, d.resolve value)
  let known := pairs.filter fun pair => names.contains pair.1
  if (known.map Prod.fst).Nodup then some known else none

def field? (fields : List (String × Node)) (name : String) : Option Node := fields.lookup name

end Yaml

open Yaml (Node Document)

def SortOrder.ofNode? (d : Document) (node : Node) : Option SortOrder := do
  let fields ← d.fields? fieldNames node
  let column ← (Yaml.field? fields "column").bind Node.text?
  let ascending ← (Yaml.field? fields "ascending").bind Node.flag?
  return ⟨column, ascending⟩

namespace Settings

def batchSize? (node : Node) : Option UInt32 :=
  node.natural?.bind fun n => if h : n < UInt32.size then some (UInt32.ofNatLT n h) else none

def eventCapacity? (node : Node) : Option UInt64 :=
  node.natural?.bind fun n => if h : n < UInt64.size then some (UInt64.ofNatLT n h) else none

def policy? (node : Node) : Option DuplicatePolicy :=
  node.caseName?.bind fun name => DuplicatePolicy.all.find? fun policy => policy.name = name

/-- What a field is read as, or its default if it is not given. -/
def fieldOr {α : Type} (fallback : α) (decode : Node → Option α) : Option Node → Option α
  | none => some fallback
  | some node => decode node

/-- The settings that a document holds; an empty one leaves everything at its default. -/
def ofDocument? (d : Document) : Option Settings := do
  let fields ←
    match d.root with
    | some root => d.fields? fieldNames root
    | none => some []
  let field := Yaml.field? fields
  let batchSize ← fieldOr default.batchSize batchSize? (field "batchSize")
  let duplicatePolicy ← fieldOr default.duplicatePolicy policy? (field "duplicatePolicy")
  let hideXxx ← fieldOr default.hideXxx Node.flag? (field "hideXxx")
  let eventCapacity ← fieldOr default.eventCapacity eventCapacity? (field "eventCapacity")
  let defaultSort ← fieldOr default.defaultSort (SortOrder.ofNode? d) (field "defaultSort")
  return ⟨batchSize, duplicatePolicy, hideXxx, eventCapacity, defaultSort⟩

/-- The settings of a text, checked for use. -/
def ofText (text : String) : Except Failure Settings :=
  match (Document.ofText? text).bind ofDocument? with
  | none => .error (.config .notSettings)
  | some settings => settings.validate.map fun _ => settings

def ofFile : Option ByteArray → Except Failure Settings
  | none => .error (.config .noSuchFile)
  | some bytes =>
    match String.fromUTF8? bytes with
    | none => .error (.config .notText)
    | some text => ofText text

end Settings

end LiveTable
