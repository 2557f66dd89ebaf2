import LiveTable.Epoch
import LiveTable.SortOrder
import LiveTable.Window
set_option autoImplicit false

/-!
# Requests

What is handed to the transport: queries, which carry their parameters and no body, and row edits,
which carry a body and no parameters.
-/

namespace LiveTable

inductive Method
  | get
  | patch
deriving DecidableEq

namespace Method

def all : List Method := [get, patch]

def name : Method → String
  | get => "GET"
  | patch => "PATCH"

def toJson (method : Method) : Json := .text method.name

def ofJson? : Json → Option Method := Json.case? all name

end Method

structure Request where
  method : Method
  endpoint : String
  params : Fields
  body : Option Json
deriving DecidableEq

def Request.toJson (r : Request) : Json :=
  Json.ofPairs ([("method", r.method.toJson), ("endpoint", .text r.endpoint),
    ("params", .object r.params)] ++ Json.present "body" r.body)

/-- What a page of rows is asked for with. -/
structure Query where
  epoch : Epoch
  filter : String
  sort : SortOrder
  window : Window
  hideXxx : Bool
  /-- Further parameters, which take the place of the others of their names. -/
  extra : Fields

namespace Query

def baseParams (q : Query) : Fields :=
  Fields.ofList [
    ("uuid", .text q.epoch.token),
    ("filter", .text q.filter),
    ("sort_by", .text q.sort.column),
    ("sort_asc", .bool q.sort.ascending),
    ("first", Json.ofWord32 q.window.first),
    ("last", Json.ofWord32 q.window.last),
    ("hide_xxx", .bool q.hideXxx)]

def params (q : Query) : Fields := q.baseParams.overriddenBy q.extra

/-- A query as a value, which plain parameters always have. -/
def toValue (q : Query) : Except Failure Json := .ok (.object q.params)

/-- Makes the request for a query of its value, which has to be an object. -/
def encode (q : Query) (endpoint : String) : Except Failure Request :=
  match q.toValue with
  | .error failure => .error failure
  | .ok (.object params) => .ok ⟨.get, endpoint, params, none⟩
  | .ok _ => .error (.internal .queryNotObject)

def request (q : Query) (endpoint : String) : Request := ⟨.get, endpoint, q.params, none⟩

@[simp] theorem encode_eq_ok (q : Query) (endpoint : String) :
    q.encode endpoint = .ok (q.request endpoint) := rfl

end Query

/-- The stored attribute that a display column shows. -/
def attributeOf (column : String) : String :=
  if column = "category" then "tags" else if column = "name" then "title" else column

def Request.edit (endpoint field : String) (value : Json) : Request :=
  ⟨.patch, endpoint, [], some (.object [(field, value)])⟩

end LiveTable
