import LiveTable.Proofs.Rows.Keys
import Mathlib.Logic.ExistsUnique
set_option autoImplicit false

/-!
# Row numbers in the index

Whatever is merged, edited and cleared, in any order and under any policies, the index holds numbers
of rows, and no two keys have the same: `Rows.Numbered`. Keys need not be those of the rows, as an
edit may change the key of a row and leaves the index alone. As long as nothing is appended twice,
every row is in the index. Main statement: `index_numbers_rows`, by which moreover no row is looked
for that is not there.
-/

namespace LiveTable

namespace Rows

inductive Change
  | merge (policy : DuplicatePolicy) (batch : List Item)
  | edit (key field : String) (value : Json)
  | clear

def change (rows : Rows) : Change → Rows
  | .merge policy batch => (rows.merge policy batch).1
  | .edit key field value => (rows.edit key field value).1
  | .clear => empty

def changes (rows : Rows) (list : List Change) : Rows := list.foldl change rows

/-- The index holds numbers of rows, and each number once. -/
structure Numbered (rows : Rows) : Prop where
  inside : ∀ (key : String) (row : Nat), rows.index[key]? = some row → row < rows.size
  apart : ∀ (key other : String) (row : Nat), rows.index[key]? = some row →
    rows.index[other]? = some row → key = other

def Covered (rows : Rows) : Prop :=
  ∀ row, row < rows.size → ∃ key : String, rows.index[key]? = some row

/-! ## Rows that have to be there -/

def replace? (rows : Rows) (row : Nat) (item : Item) : Option Rows :=
  if row < rows.size then some (rows.replace row item) else none

/-- As `add`, where a row that is to be replaced has to be there. -/
def add? (policy : DuplicatePolicy) (rows : Rows) (counts : MergeCounts) (item : Item) :
    Option (Rows × MergeCounts) :=
  match rows.index[item.key]?, policy with
  | some row, .replaceExisting =>
    (rows.replace? row item).map (·, { counts with replaced := counts.replaced + 1 })
  | _, _ => some (rows.add policy counts item)

def merge? (policy : DuplicatePolicy) (rows : Rows) (batch : List Item) :
    Option (Rows × MergeCounts) :=
  batch.foldlM (fun before item => before.1.add? policy before.2 item) (rows, .zero)

def edit? (rows : Rows) (key field : String) (value : Json) : Option (Rows × Bool) :=
  match rows.index[key]? with
  | none => some (rows, false)
  | some row => if row < rows.size then some (rows.edit key field value) else none

variable {rows : Rows}

/-! ## What changes keep -/

theorem numbered_empty : empty.Numbered := by
  constructor
  · intro key row filed
    simp [empty] at filed
  · intro key other row filed
    simp [empty] at filed

private theorem covered_empty : empty.Covered := by
  intro row inside
  simp at inside

private theorem Numbered.of_same {next : Rows} (numbered : rows.Numbered)
    (index : next.index = rows.index) (size : rows.size ≤ next.size) : next.Numbered := by
  constructor
  · intro key row filed
    rw [index] at filed
    exact Nat.lt_of_lt_of_le (numbered.inside key row filed) size
  · rw [index]
    exact numbered.apart

private theorem Numbered.file (numbered : rows.Numbered) (item : Item) :
    (rows.file item).Numbered := by
  constructor
  · intro key row filed
    rw [index?_file] at filed
    rw [size_file]
    split at filed
    · cases filed
      omega
    · have inside := numbered.inside key row filed
      omega
  · intro key other row filed filed'
    rw [index?_file] at filed filed'
    -- The new number is that of no older row.
    split at filed <;> split at filed'
    · rename_i same same'
      exact same.symm.trans same'
    · cases filed
      exact absurd (numbered.inside other _ filed') (Nat.lt_irrefl _)
    · cases filed'
      exact absurd (numbered.inside key _ filed) (Nat.lt_irrefl _)
    · exact numbered.apart key other row filed filed'

private theorem Covered.file (covered : rows.Covered) {item : Item}
    (new : rows.index[item.key]? = none) :
    (rows.file item).Covered := by
  intro row inside
  rw [size_file] at inside
  by_cases last : row = rows.size
  · exact ⟨item.key, by rw [index?_file, if_pos rfl, last]⟩
  · obtain ⟨key, filed⟩ := covered row (by omega)
    have older : item.key ≠ key := by
      rintro rfl
      rw [new] at filed
      cases filed
    exact ⟨key, by rw [index?_file, if_neg older, filed]⟩

private theorem Numbered.add (numbered : rows.Numbered) (policy : DuplicatePolicy)
    (counts : MergeCounts) (item : Item) : (rows.add policy counts item).1.Numbered := by
  unfold Rows.add
  cases rows.index[item.key]? with
  | none => exact numbered.file item
  | some row =>
    cases policy with
    | append => exact numbered.of_same rfl (by simp)
    | dropIncoming => exact numbered
    | replaceExisting => exact numbered.of_same rfl (by simp)

private theorem Covered.add (covered : rows.Covered) {policy : DuplicatePolicy}
    (unique : policy ≠ .append)
    (counts : MergeCounts) (item : Item) : (rows.add policy counts item).1.Covered := by
  unfold Rows.add
  cases filed : rows.index[item.key]? with
  | none => exact covered.file filed
  | some row =>
    cases policy with
    | append => exact absurd rfl unique
    | dropIncoming => exact covered
    | replaceExisting =>
      intro place inside
      exact covered place (by simpa using inside)

theorem Numbered.change (numbered : rows.Numbered) (change : Change) :
    (rows.change change).Numbered := by
  cases change with
  | merge policy batch =>
    exact merge_keeps (fun _ item _ kept => kept.add policy .zero item) numbered
  | edit key field value => exact numbered.of_same (index_edit ..) (by simp [Rows.change])
  | clear => exact numbered_empty

private theorem Covered.change (covered : rows.Covered) {change : Change}
    (unique : ∀ policy batch, change = .merge policy batch → policy ≠ .append) :
    (rows.change change).Covered := by
  cases change with
  | merge policy batch =>
    have apart := unique policy batch rfl
    exact merge_keeps (fun _ item _ kept => kept.add apart .zero item) covered
  | edit key field value =>
    intro row inside
    rw [Rows.change, size_edit] at inside
    rw [Rows.change, index_edit]
    exact covered row inside
  | clear => exact covered_empty

theorem Numbered.changes (numbered : rows.Numbered) (list : List Change) :
    (rows.changes list).Numbered := by
  induction list generalizing rows with
  | nil => exact numbered
  | cons change list ih => exact ih (numbered.change change)

private theorem Covered.changes (covered : rows.Covered) {list : List Change}
    (unique : ∀ policy batch, .merge policy batch ∈ list → policy ≠ .append) :
    (rows.changes list).Covered := by
  induction list generalizing rows with
  | nil => exact covered
  | cons change list ih =>
    have first := covered.change fun policy batch same =>
      unique policy batch (same ▸ List.mem_cons_self)
    exact ih first fun policy batch member => unique policy batch (List.mem_cons_of_mem _ member)

/-! ## No row is looked for in vain -/

private theorem Numbered.add?_eq (numbered : rows.Numbered) (policy : DuplicatePolicy)
    (counts : MergeCounts) (item : Item) :
    rows.add? policy counts item = some (rows.add policy counts item) := by
  unfold add?
  split
  · rename_i row filed
    have inside := numbered.inside item.key row filed
    simp only [replace?, if_pos inside, Option.map_some, Rows.add, filed]
  · rfl

private theorem Numbered.merge?_eq (numbered : rows.Numbered) (policy : DuplicatePolicy)
    (batch : List Item) : rows.merge? policy batch = some (rows.merge policy batch) := by
  -- Any counts may have been reached when the rest of the batch is merged.
  have rest (before : Rows × MergeCounts) (kept : before.1.Numbered) :
      batch.foldlM (fun before item => before.1.add? policy before.2 item) before =
        some (batch.foldl (fun before item => before.1.add policy before.2 item) before) := by
    induction batch generalizing before with
    | nil => rfl
    | cons item batch ih =>
      rw [List.foldlM_cons, kept.add?_eq, List.foldl_cons]
      exact ih _ (kept.add policy before.2 item)
  exact rest (rows, .zero) numbered

private theorem Numbered.edit?_eq (numbered : rows.Numbered) (key field : String) (value : Json) :
    rows.edit? key field value = some (rows.edit key field value) := by
  unfold edit?
  cases filed : rows.index[key]? with
  | none => simp only [edit, filed]
  | some row => exact if_pos (numbered.inside key row filed)

private theorem Numbered.edits_iff (numbered : rows.Numbered) (key field : String) (value : Json) :
    (rows.edit key field value).2 = true ↔ ∃ item, rows.find? key = some item := by
  unfold edit find?
  cases filed : rows.index[key]? with
  | none => simp
  | some row =>
    have inside := numbered.inside key row filed
    simpa using ⟨_, Array.getElem?_eq_getElem inside⟩

/-- After any history of merges, edits and clearings the index numbers rows: its numbers are those
of rows, and no two keys have the same. If nothing was merged by appending copies, its keys and the
rows belong together one to one. No merge replaces and no edit sets a row that is not there, and an
edit finds a row exactly if a look-up does. -/
theorem index_numbers_rows (history : List Change) :
    let rows := empty.changes history
    rows.Numbered ∧
    ((∀ policy batch, .merge policy batch ∈ history → policy ≠ .append) →
      ∀ row, row < rows.size ↔ ∃! key : String, rows.index[key]? = some row) ∧
    (∀ policy batch, rows.merge? policy batch = some (rows.merge policy batch)) ∧
    ∀ key field value, rows.edit? key field value = some (rows.edit key field value) ∧
      ((rows.edit key field value).2 = true ↔ ∃ item, rows.find? key = some item) := by
  intro rows
  have numbered : rows.Numbered := numbered_empty.changes history
  refine ⟨numbered, ?_, numbered.merge?_eq, ?_⟩
  · intro unique row
    constructor
    · intro inside
      obtain ⟨key, filed⟩ := covered_empty.changes unique row inside
      exact ⟨key, filed, fun other filed' => numbered.apart other key row filed' filed⟩
    · rintro ⟨key, filed, -⟩
      exact numbered.inside key row filed
  · intro key field value
    exact ⟨numbered.edit?_eq key field value, numbered.edits_iff key field value⟩

/-- Rows are merged, one of them without an identity, then edited so that two of them have one
identity, and merged into again. -/
theorem index_numbers_rows_after_renaming :
    let row (hash : String) : Item := ⟨[("infohash", .text hash)]⟩
    let history : List Change := [.merge .dropIncoming [row "a", row "b", ⟨[]⟩],
      .edit "a" "infohash" (.text "b"), .merge .replaceExisting [row "b", row "c"]]
    let rows := empty.changes history
    rows.items.toList.map Item.key = ["b", "b", "", "c"] ∧
    (∀ policy batch, .merge policy batch ∈ history → policy ≠ .append) ∧
    ∀ place, place < rows.size ↔ ∃! key : String, rows.index[key]? = some place := by
  intro row history rows
  have unique : ∀ policy batch, .merge policy batch ∈ history → policy ≠ .append := by
    intro policy batch member
    simp only [history, List.mem_cons, Change.merge.injEq, reduceCtorEq, List.not_mem_nil] at member
    rcases member with ⟨rfl, -⟩ | absurd | ⟨rfl, -⟩ | absurd
    · decide
    · cases absurd
    · decide
    · cases absurd
  exact ⟨by decide +kernel, unique, (index_numbers_rows history).2.1 unique⟩

end Rows

end LiveTable
