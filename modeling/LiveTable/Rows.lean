import Std.Data.ExtTreeMap
import LiveTable.Item
set_option autoImplicit false

/-!
# Rows

The rows of a table in the order of their arrival, with an index from keys to row numbers. A row is
filed under its key when the key is new; what happens to a row whose key is known is a matter of
policy. Editing a row leaves the index alone. Main statements: what `add` does to the rows and to
the index under each policy.
-/

namespace LiveTable

inductive DuplicatePolicy
  /-- Both copies are kept. -/
  | append
  /-- The first copy is kept. -/
  | dropIncoming
  /-- The new copy takes the place of the first one. -/
  | replaceExisting
deriving DecidableEq

namespace DuplicatePolicy

def all : List DuplicatePolicy := [append, dropIncoming, replaceExisting]

def name : DuplicatePolicy → String
  | append => "append"
  | dropIncoming => "drop-incoming"
  | replaceExisting => "replace-existing"

def toJson (policy : DuplicatePolicy) : Json := .text policy.name

def ofJson? : Json → Option DuplicatePolicy := Json.case? all name

end DuplicatePolicy

structure MergeCounts where
  appended : Nat
  dropped : Nat
  replaced : Nat
deriving DecidableEq

namespace MergeCounts

def zero : MergeCounts := ⟨0, 0, 0⟩

def toJson (counts : MergeCounts) : Json :=
  Json.ofPairs [("appended", .number (.int counts.appended)),
    ("dropped", .number (.int counts.dropped)), ("replaced", .number (.int counts.replaced))]

end MergeCounts

/-- Rows in the order of their arrival, and the row number that each key is filed under. -/
structure Rows where
  items : Array Item
  index : Std.ExtTreeMap String Nat

namespace Rows

def empty : Rows := ⟨#[], ∅⟩

def size (rows : Rows) : Nat := rows.items.size

def isEmpty (rows : Rows) : Bool := rows.items.isEmpty

def get? (rows : Rows) (row : Nat) : Option Item := rows.items[row]?

def find? (rows : Rows) (key : String) : Option Item := rows.index[key]?.bind rows.get?

/-- Puts an item behind the rows without filing it. -/
def push (rows : Rows) (item : Item) : Rows := { rows with items := rows.items.push item }

def file (rows : Rows) (item : Item) : Rows :=
  ⟨rows.items.push item, rows.index.insert item.key rows.items.size⟩

def replace (rows : Rows) (row : Nat) (item : Item) : Rows :=
  { rows with items := rows.items.setIfInBounds row item }

def add (policy : DuplicatePolicy) (rows : Rows) (counts : MergeCounts) (item : Item) :
    Rows × MergeCounts :=
  match rows.index[item.key]? with
  | none => (rows.file item, { counts with appended := counts.appended + 1 })
  | some row =>
    match policy with
    | .append => (rows.push item, { counts with appended := counts.appended + 1 })
    | .dropIncoming => (rows, { counts with dropped := counts.dropped + 1 })
    | .replaceExisting => (rows.replace row item, { counts with replaced := counts.replaced + 1 })

def merge (policy : DuplicatePolicy) (rows : Rows) (batch : List Item) : Rows × MergeCounts :=
  batch.foldl (fun (rows, counts) item => rows.add policy counts item) (rows, .zero)

/-- Sets one field of the row filed under a key, and tells whether there is one. -/
def edit (rows : Rows) (key field : String) (value : Json) : Rows × Bool :=
  match rows.index[key]? with
  | none => (rows, false)
  | some row => ({ rows with items := rows.items.modify row (·.set field value) }, true)

@[simp] theorem size_empty : empty.size = 0 := rfl

@[simp] theorem size_push (rows : Rows) (item : Item) : (rows.push item).size = rows.size + 1 := by
  simp [push, size]

@[simp] theorem size_file (rows : Rows) (item : Item) : (rows.file item).size = rows.size + 1 := by
  simp [file, size]

@[simp] theorem size_replace (rows : Rows) (row : Nat) (item : Item) :
    (rows.replace row item).size = rows.size := by
  simp [replace, size]

@[simp] theorem size_edit (rows : Rows) (key field : String) (value : Json) :
    (rows.edit key field value).1.size = rows.size := by
  unfold edit
  split <;> simp [size]

@[simp] theorem index_edit (rows : Rows) (key field : String) (value : Json) :
    (rows.edit key field value).1.index = rows.index := by
  unfold edit
  split <;> rfl

@[simp] theorem merge_nil (policy : DuplicatePolicy) (rows : Rows) :
    rows.merge policy [] = (rows, .zero) := rfl

end Rows

end LiveTable
