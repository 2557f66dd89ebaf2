import LiveTable.Rows
import LiveTable.SortOrder
import LiveTable.Text.Blank
set_option autoImplicit false

/-!
# Settings

What can be set for a table. A field that is not given has its default; a sort order has to be given
in full.
-/

namespace LiveTable

structure Settings where
  /-- How many rows are asked for at once. -/
  batchSize : UInt32
  duplicatePolicy : DuplicatePolicy
  hideXxx : Bool
  /-- How many events are kept for a slow subscriber. -/
  eventCapacity : UInt64
  defaultSort : SortOrder
deriving DecidableEq

namespace Settings

def default : Settings where
  batchSize := 50
  duplicatePolicy := .dropIncoming
  hideXxx := true
  eventCapacity := 256
  defaultSort := .default

def fieldNames : List String :=
  ["batchSize", "duplicatePolicy", "hideXxx", "eventCapacity", "defaultSort"]

def toJson (s : Settings) : Json :=
  Json.ofPairs [
    ("batchSize", Json.ofWord32 s.batchSize),
    ("duplicatePolicy", s.duplicatePolicy.toJson),
    ("hideXxx", .bool s.hideXxx),
    ("eventCapacity", Json.ofWord64 s.eventCapacity),
    ("defaultSort", s.defaultSort.toJson)]

def ofJson? (v : Json) : Option Settings :=
  match Json.recordWithDefaults? fieldNames v with
  | some [batchSize, duplicatePolicy, hideXxx, eventCapacity, defaultSort] => do
    let batchSize ← Json.withDefault default.batchSize Json.word32? batchSize
    let duplicatePolicy ←
      Json.withDefault default.duplicatePolicy DuplicatePolicy.ofJson? duplicatePolicy
    let hideXxx ← Json.withDefault default.hideXxx Json.flag? hideXxx
    let eventCapacity ← Json.withDefault default.eventCapacity Json.word64? eventCapacity
    let defaultSort ← Json.withDefault default.defaultSort SortOrder.ofJson? defaultSort
    return ⟨batchSize, duplicatePolicy, hideXxx, eventCapacity, defaultSort⟩
  | _ => none

/-- Checks settings for use; of several faults the first in the order of the fields counts. -/
def validate (s : Settings) : Except Failure Unit :=
  if s.batchSize < 2 then .error (.config (.batchTooSmall s.batchSize))
  else if s.eventCapacity = 0 then .error (.config .noEventCapacity)
  else if Text.isBlankText s.defaultSort.column then .error (.config .blankSortColumn)
  else .ok ()

end Settings

end LiveTable
