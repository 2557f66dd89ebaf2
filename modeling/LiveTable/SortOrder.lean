import LiveTable.Json.Decode
set_option autoImplicit false

/-!
# Sort orders

The column a listing is sorted by, and which way.
-/

namespace LiveTable

structure SortOrder where
  column : String
  ascending : Bool
deriving DecidableEq

namespace SortOrder

def default : SortOrder := ⟨"name", true⟩

def fieldNames : List String := ["column", "ascending"]

def toJson (sort : SortOrder) : Json :=
  Json.ofPairs [("column", .text sort.column), ("ascending", .bool sort.ascending)]

def ofJson? (v : Json) : Option SortOrder :=
  match Json.record? fieldNames v with
  | some [column, ascending] => do
    let column ← Json.required Json.text? column
    let ascending ← Json.required Json.flag? ascending
    return ⟨column, ascending⟩
  | _ => none

end SortOrder

end LiveTable
