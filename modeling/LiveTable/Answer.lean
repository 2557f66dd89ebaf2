import LiveTable.Item
set_option autoImplicit false

/-!
# Answers

What the backend and remote peers send back: answers to queries, which carry rows, and answers to
row edits, which carry a flag. Each kind of answer is read in two ways. `read` is for values that
arrive: an empty one means that there is no answer, and a fault is reported by its cause. `ofJson?`
is the plain record format, without the demand that rows have identities.
-/

namespace LiveTable

inductive Origin
  /-- The backend that the table queries. -/
  | backend
  /-- A remote peer that pushes rows of its own. -/
  | peer
deriving DecidableEq

namespace Origin

def all : List Origin := [backend, peer]

def name : Origin → String
  | backend => "local"
  | peer => "remote"

def toJson (origin : Origin) : Json := .text origin.name

def ofJson? : Json → Option Origin := Json.case? all name

end Origin

structure Answer where
  /-- The token of the epoch it answers, as echoed. -/
  token : Option String
  results : List Item
  /-- How many rows there are in all. -/
  total : Option UInt64
  /-- Whether the listing has changes that are not published. -/
  dirty : Option Bool
deriving DecidableEq

namespace Answer

def fieldNames : List String := ["uuid", "results", "total", "dirty"]

def toJson (a : Answer) : Json :=
  Json.ofPairs (Json.present "uuid" (a.token.map .text) ++
    ("results", .array (a.results.map Item.toJson)) ::
    (Json.present "total" (a.total.map Json.ofWord64) ++
      Json.present "dirty" (a.dirty.map .bool)))

def ofJson? (v : Json) : Option Answer :=
  match Json.record? fieldNames v with
  | some [token, results, total, dirty] => do
    let token ← Json.optional Json.text? token
    let results ← Json.required (Json.list? Item.ofJson?) results
    let total ← Json.optional Json.word64? total
    let dirty ← Json.optional Json.flag? dirty
    return ⟨token, results, total, dirty⟩
  | _ => none

def readToken : Option Json → Except Failure (Option String)
  | none | some .null => .ok none
  | some (.text token) => .ok (some token)
  | some other => .error (.malformed (.identifierNotText other))

/-- Reads the rows of an answer; the first faulty one is reported. -/
def readResults : Option Json → Except Failure (List Item)
  | some (.array items) => items.mapM Item.read
  | _ => .error (.malformed .noResults)

def readTotal : Option Json → Except Failure (Option UInt64)
  | none | some .null => .ok none
  | some v =>
    match v.word64? with
    | some total => .ok (some total)
    | none => .error (.malformed (.totalNotCount v))

def readDirty : Option Json → Except Failure (Option Bool)
  | none | some .null => .ok none
  | some (.bool dirty) => .ok (some dirty)
  | some other => .error (.malformed (.dirtyNotFlag other))

/-- Reads the fields of an answer; of several faults the first in the order of the fields counts. -/
def readFields (fields : Fields) : Except Failure Answer := do
  let token ← readToken (fields.get? "uuid")
  let results ← readResults (fields.get? "results")
  let total ← readTotal (fields.get? "total")
  let dirty ← readDirty (fields.get? "dirty")
  return ⟨token, results, total, dirty⟩

/-- Reads a value that arrived as an answer; an empty value is no answer. -/
def read (v : Json) : Except Failure (Option Answer) :=
  if v.isFalsy then .ok none
  else
    match v with
    | .object fields => (readFields fields).map some
    | _ => .error (.malformed .answerNotObject)

end Answer

structure EditAnswer where
  /-- Whether the listing has changes that are not published. -/
  dirty : Bool
deriving DecidableEq

namespace EditAnswer

def toJson (a : EditAnswer) : Json := Json.ofPairs [("dirty", .bool a.dirty)]

def ofJson? (v : Json) : Option EditAnswer :=
  match Json.record? ["dirty"] v with
  | some [dirty] => (Json.required Json.flag? dirty).map EditAnswer.mk
  | _ => none

def read (v : Json) : Except Failure (Option EditAnswer) :=
  if v.isFalsy then .ok none
  else
    match (v.get? "dirty").bind Json.flag? with
    | some dirty => .ok (some ⟨dirty⟩)
    | none => .error (.malformed .patchWithoutDirty)

end EditAnswer

end LiveTable
