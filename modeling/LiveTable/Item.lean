import LiveTable.Json.Decode
import LiveTable.Failure
set_option autoImplicit false

/-!
# Items

An item is one row of a listing: an object with any fields. Some of its fields give it an identity,
under which later answers and row edits find it again.
-/

namespace LiveTable

inductive ItemKind
  | torrent
  | channel
  | unknown
deriving DecidableEq

namespace ItemKind

def all : List ItemKind := [torrent, channel, unknown]

def name : ItemKind → String
  | torrent => "torrent"
  | channel => "channel"
  | unknown => "unknown"

def toJson (kind : ItemKind) : Json := .text kind.name

def ofJson? : Json → Option ItemKind := Json.case? all name

/-- The kind that the type field of an item tells. -/
def ofField : Option Json → ItemKind
  | some (.text "torrent") => torrent
  | some (.text "channel") => channel
  | _ => unknown

end ItemKind

structure Item where
  fields : Fields
deriving DecidableEq

namespace Item

def get? (item : Item) (field : String) : Option Json := Fields.get? field item.fields

def set (item : Item) (field : String) (value : Json) : Item :=
  ⟨Fields.insert field value item.fields⟩

def text? (item : Item) (field : String) : Option String := (item.get? field).bind Json.text?

def scalarText? : Json → Option String
  | .text content => some content
  | .number value => some value.render
  | _ => none

/-- What an item is known by: its hash, or its number within its channel, or its number alone. -/
def identity? (item : Item) : Option String :=
  match item.text? "infohash" with
  | some hash => some hash
  | none =>
    match item.text? "public_key", (item.get? "id").bind scalarText? with
    | some key, some id => some (key ++ ":" ++ id)
    | none, some id => some id
    | _, none => none

/-- The key an item is filed under; items without identity share the empty one. -/
def key (item : Item) : String := item.identity?.getD ""

def kind (item : Item) : ItemKind := ItemKind.ofField (item.get? "type")

def toJson (item : Item) : Json := .object item.fields

/-- The item that a value is; it need not have an identity. -/
def ofJson? : Json → Option Item
  | .object fields => some ⟨fields⟩
  | _ => none

/-- Reads an item of an answer, which has to have an identity. -/
def read (v : Json) : Except Failure Item :=
  match ofJson? v with
  | none => .error (.malformed .itemNotObject)
  | some item =>
    if item.identity?.isSome then .ok item else .error (.malformed .itemWithoutIdentity)

@[simp] theorem ofJson?_toJson (item : Item) : ofJson? item.toJson = some item := rfl

end Item

end LiveTable
