import LiveTable.Rows
set_option autoImplicit false

/-!
# Keys and merging

What merging does to the index, under every policy: the index tells where each key stands first, by
`Rows.Keyed`, where items without an identity share one key. Main statements: `Keyed.merge`, and
`merge_keeps`, by which a batch keeps what every adding of an item keeps.
-/

namespace LiveTable

namespace Rows

/-! ## Batches -/

private theorem add_fst (policy : DuplicatePolicy) (rows : Rows) (counts : MergeCounts)
    (item : Item) :
    (rows.add policy counts item).1 = (rows.add policy .zero item).1 := by
  unfold add
  cases rows.index[item.key]? with
  | none => rfl
  | some row => cases policy <;> rfl

theorem merge_cons (policy : DuplicatePolicy) (rows : Rows) (item : Item) (batch : List Item) :
    (rows.merge policy (item :: batch)).1 =
      ((rows.add policy .zero item).1.merge policy batch).1 := by
  -- The induction needs any counts to start with, not only those that `merge` begins with.
  have uncounted (start : Rows × MergeCounts) :
      (batch.foldl (fun (before : Rows × MergeCounts) item =>
        before.1.add policy before.2 item) start).1 = (start.1.merge policy batch).1 := by
    induction batch generalizing start with
    | nil => rfl
    | cons next batch ih =>
      have first := ih (start.1.add policy start.2 next)
      have second := ih (start.1.add policy .zero next)
      rw [add_fst] at first
      exact first.trans second.symm
  exact uncounted _

theorem merge_append (policy : DuplicatePolicy) (rows : Rows) (first second : List Item) :
    (rows.merge policy (first ++ second)).1 =
      ((rows.merge policy first).1.merge policy second).1 := by
  induction first generalizing rows with
  | nil => rfl
  | cons item first ih => rw [List.cons_append, merge_cons, merge_cons, ih]

theorem merge_keeps {P : Rows → Prop} {policy : DuplicatePolicy} {batch : List Item}
    (keeps : ∀ rows, ∀ item ∈ batch, P rows → P (rows.add policy .zero item).1) {rows : Rows}
    (holds : P rows) : P (rows.merge policy batch).1 := by
  induction batch generalizing rows with
  | nil => exact holds
  | cons item batch ih =>
    rw [merge_cons]
    have added := keeps rows item List.mem_cons_self holds
    exact ih (fun rows other member => keeps rows other (List.mem_cons_of_mem _ member)) added

/-! ## Keys -/

def keys (rows : Rows) : List String := rows.items.toList.map Item.key

/-- The index has the number of the first row of each key. -/
def Keyed (rows : Rows) : Prop := ∀ key : String, rows.index[key]? = rows.keys.idxOf? key

variable {rows : Rows} {item : Item}

theorem index?_file (rows : Rows) (item : Item) (key : String) :
    (rows.file item).index[key]? =
      if item.key = key then some rows.size else rows.index[key]? := by
  simp [file, size, Std.ExtTreeMap.getElem?_insert]

@[simp] theorem keys_empty : empty.keys = [] := rfl

@[simp] theorem length_keys (rows : Rows) : rows.keys.length = rows.size := by simp [keys, size]

@[simp] theorem keys_push (rows : Rows) (item : Item) :
    (rows.push item).keys = rows.keys ++ [item.key] := by
  simp [keys, push]

@[simp] theorem keys_file (rows : Rows) (item : Item) :
    (rows.file item).keys = rows.keys ++ [item.key] := by
  simp [keys, file]

theorem keys_replace {row : Nat} (place : rows.keys.idxOf? item.key = some row) :
    (rows.replace row item).keys = rows.keys := by
  obtain ⟨inside, held, -⟩ := List.idxOf?_eq_some_iff.mp place
  have set : (rows.replace row item).keys = rows.keys.set row item.key := by
    simp [keys, replace]
  rw [set, ← held, List.set_getElem_self]

theorem keyed_empty : empty.Keyed := by
  intro key
  simp [empty, keys]

namespace Keyed

private theorem index?_of_new (keyed : rows.Keyed) {key : String} (new : key ∉ rows.keys) :
    rows.index[key]? = none := by
  rw [keyed key, List.idxOf?_eq_none_iff]
  exact new

theorem index?_of_known (keyed : rows.Keyed) {key : String} (known : key ∈ rows.keys) :
    ∃ row, rows.index[key]? = some row ∧ rows.keys.idxOf? key = some row := by
  obtain ⟨row, place⟩ := Option.isSome_iff_exists.mp (List.isSome_idxOf?.mpr known)
  exact ⟨row, (keyed key).trans place, place⟩

private theorem idxOf?_append (keyed : rows.Keyed) (key other : String) :
    (rows.keys ++ [key]).idxOf? other =
      rows.index[other]?.or (if key = other then some rows.size else none) := by
  rw [List.idxOf?, List.findIdx?_append, ← List.idxOf?, ← keyed other, length_keys]
  by_cases same : key = other <;> simp [same]

theorem file (keyed : rows.Keyed) (new : item.key ∉ rows.keys) : (rows.file item).Keyed := by
  intro other
  rw [keys_file, keyed.idxOf?_append, index?_file]
  by_cases same : item.key = other
  · simp [same, keyed.index?_of_new (same ▸ new)]
  · simp [same]

theorem push (keyed : rows.Keyed) (known : item.key ∈ rows.keys) : (rows.push item).Keyed := by
  intro other
  rw [keys_push, keyed.idxOf?_append]
  by_cases same : item.key = other
  · obtain ⟨row, filed, -⟩ := keyed.index?_of_known (same ▸ known)
    simp [Rows.push, filed]
  · simp [Rows.push, same]

private theorem replace (keyed : rows.Keyed) {row : Nat}
    (place : rows.keys.idxOf? item.key = some row) :
    (rows.replace row item).Keyed := by
  intro other
  rw [keys_replace place]
  exact keyed other

theorem add_of_new (keyed : rows.Keyed) (policy : DuplicatePolicy) (counts : MergeCounts)
    (new : item.key ∉ rows.keys) :
    rows.add policy counts item =
      (rows.file item, { counts with appended := counts.appended + 1 }) := by
  simp only [Rows.add, keyed.index?_of_new new]

theorem add (keyed : rows.Keyed) (policy : DuplicatePolicy) (counts : MergeCounts) (item : Item) :
    (rows.add policy counts item).1.Keyed := by
  by_cases known : item.key ∈ rows.keys
  · obtain ⟨row, filed, place⟩ := keyed.index?_of_known known
    simp only [Rows.add, filed]
    cases policy with
    | append => exact keyed.push known
    | dropIncoming => exact keyed
    | replaceExisting => exact keyed.replace place
  · rw [keyed.add_of_new policy counts known]
    exact keyed.file known

theorem merge (keyed : rows.Keyed) (policy : DuplicatePolicy) (batch : List Item) :
    (rows.merge policy batch).1.Keyed :=
  merge_keeps (fun _ item _ kept => kept.add policy .zero item) keyed

end Keyed

end Rows

end LiveTable
