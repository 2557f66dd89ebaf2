import LiveTable.Proofs.Rows.Index
import LiveTable.Proofs.Rows.Numbering
set_option autoImplicit false

/-!
# Merging by scanning

What the index saves: without one, the first row with the identity of an item has to be looked for
from the front. `scanAdd` and `scanMerge` do so. They come to the same as merging with the index as
long as the index is in step, which it is after any history of merges, clearings and edits that
leave the identity of the row they set; `Faithful` says so of a history. Main statement:
`merging_equals_scanning`.
-/

namespace LiveTable

namespace Rows

def scanAdd (policy : DuplicatePolicy) (items : List Item) (counts : MergeCounts) (item : Item) :
    List Item × MergeCounts :=
  match items.findIdx? fun row => row.identity? == item.identity? with
  | none => (items ++ [item], { counts with appended := counts.appended + 1 })
  | some place =>
    match policy with
    | .append => (items ++ [item], { counts with appended := counts.appended + 1 })
    | .dropIncoming => (items, { counts with dropped := counts.dropped + 1 })
    | .replaceExisting => (items.set place item, { counts with replaced := counts.replaced + 1 })

def scanMerge (policy : DuplicatePolicy) (items batch : List Item) : List Item × MergeCounts :=
  batch.foldl (fun before item => scanAdd policy before.1 before.2 item) (items, .zero)

/-- Only items with identities are merged, and an edit leaves the identity of the row it sets. -/
def Change.Keeps (rows : Rows) : Change → Prop
  | .merge _ batch => ∀ item ∈ batch, item.identity?.isSome
  | .edit key field value => ∀ item, rows.find? key = some item →
      (item.set field value).identity? = item.identity?
  | .clear => True

/-- Every change of a history does so, as the rows are when its turn comes. -/
def Faithful (rows : Rows) : List Change → Prop
  | [] => True
  | change :: rest => change.Keeps rows ∧ (rows.change change).Faithful rest

variable {rows : Rows} {item : Item} {policy : DuplicatePolicy} {batch : List Item}

private theorem Indexed.change (indexed : rows.Indexed) {change : Change}
    (keeps : change.Keeps rows) :
    (rows.change change).Indexed := by
  cases change with
  | merge policy batch => exact indexed.merge keeps
  | edit key field value => exact indexed.edit keeps
  | clear => exact indexed_empty

private theorem Indexed.changes (indexed : rows.Indexed) {history : List Change}
    (faithful : rows.Faithful history) : (rows.changes history).Indexed := by
  induction history generalizing rows with
  | nil => exact indexed
  | cons change rest ih => exact ih (indexed.change faithful.1) faithful.2

private theorem Indexed.index?_key (indexed : rows.Indexed) (identified : item.identity?.isSome) :
    rows.index[item.key]? =
      rows.items.toList.findIdx? fun row => row.identity? == item.identity? := by
  obtain ⟨id, has⟩ := Option.isSome_iff_exists.mp identified
  rw [Item.key_eq has, indexed.places id, identities, List.idxOf?, List.findIdx?_map, has]
  rfl

private theorem Indexed.add_eq_scanAdd (indexed : rows.Indexed) (identified : item.identity?.isSome)
    (policy : DuplicatePolicy) (counts : MergeCounts) :
    ((rows.add policy counts item).1.items.toList, (rows.add policy counts item).2) =
      scanAdd policy rows.items.toList counts item := by
  unfold Rows.add scanAdd
  rw [indexed.index?_key identified]
  cases rows.items.toList.findIdx? fun row => row.identity? == item.identity? with
  | none => simp [file]
  | some place => cases policy <;> simp [push, replace]

private theorem Indexed.merge_eq_scanMerge (indexed : rows.Indexed)
    (identified : ∀ item ∈ batch, item.identity?.isSome) (policy : DuplicatePolicy) :
    ((rows.merge policy batch).1.items.toList, (rows.merge policy batch).2) =
      scanMerge policy rows.items.toList batch := by
  -- The counts that have been reached so far take part in the induction.
  have rest (before : Rows × MergeCounts) (indexed : before.1.Indexed) :
      let after := batch.foldl (fun b item => b.1.add policy b.2 item) before
      (after.1.items.toList, after.2) =
        batch.foldl (fun b item => scanAdd policy b.1 b.2 item)
          (before.1.items.toList, before.2) := by
    induction batch generalizing before with
    | nil => rfl
    | cons item batch ih =>
      obtain ⟨first, others⟩ := List.forall_mem_cons.mp identified
      have adding := indexed.adding first policy before.2
      have next := ih others _ (indexed.of_adding first adding)
      rw [indexed.add_eq_scanAdd first] at next
      exact next
  exact rest (rows, .zero) indexed

/-- After any history of merges of items with identities, clearings, and edits that leave the
identity of the row they set, merging such items with the index and without it give the same rows
and the same counts, under each policy; and look-ups in the merged rows find what a scan finds. -/
theorem merging_equals_scanning {history : List Change} (faithful : empty.Faithful history)
    (policy : DuplicatePolicy) (identified : ∀ item ∈ batch, item.identity?.isSome) :
    let rows := empty.changes history
    let merged := rows.merge policy batch
    (merged.1.items.toList, merged.2) = scanMerge policy rows.items.toList batch ∧
      ∀ id, merged.1.find? id = merged.1.scan? id := by
  intro rows merged
  have indexed : rows.Indexed := indexed_empty.changes faithful
  exact ⟨indexed.merge_eq_scanMerge identified policy, (indexed.merge identified).find?_eq_scan?⟩

/-- Two copies of a row are kept, the first one is edited, and a third copy replaces it. -/
theorem merging_equals_scanning_after_edit :
    let row (hash name : String) : Item := ⟨[("infohash", .text hash), ("name", .text name)]⟩
    let history : List Change := [.merge .append [row "a" "x", row "b" "y", row "a" "z"],
      .edit "a" "name" (.text "w")]
    let rows := empty.changes history
    let merged := rows.merge .replaceExisting [row "a" "v", row "c" "u"]
    rows.items.toList = [row "a" "w", row "b" "y", row "a" "z"] ∧
    merged.1.items.toList = [row "a" "v", row "b" "y", row "a" "z", row "c" "u"] ∧
    (merged.1.items.toList, merged.2) =
      scanMerge .replaceExisting rows.items.toList [row "a" "v", row "c" "u"] ∧
    merged.1.find? "a" = merged.1.scan? "a" := by
  intro row history rows merged
  have loaded : (empty.change (.merge .append [row "a" "x", row "b" "y", row "a" "z"])).find? "a" =
      some (row "a" "x") := by decide +kernel
  have faithful : empty.Faithful history := by
    refine ⟨?_, ?_, trivial⟩
    · show ∀ item ∈ [row "a" "x", row "b" "y", row "a" "z"], item.identity?.isSome
      decide +kernel
    · intro item found
      have first : item = row "a" "x" := Option.some.inj (found.symm.trans loaded)
      rw [first]
      decide +kernel
  have identified : ∀ item ∈ [row "a" "v", row "c" "u"], item.identity?.isSome := by
    decide +kernel
  obtain ⟨equal, found⟩ := merging_equals_scanning faithful .replaceExisting identified
  exact ⟨by decide +kernel, by decide +kernel, equal, found "a"⟩

end Rows

end LiveTable
