import LiveTable.Proofs.Rows.ClosedForm
import LiveTable.Proofs.Rows.Growth
import LiveTable.Proofs.Rows.Numbering
set_option autoImplicit false

/-!
# Batches that come twice

Where one copy of each key is kept, a batch that is merged a second time right after the first finds
all its keys in the index. Dropping then drops all of it. Replacing passes through other rows on its
way, as a batch may have several items with one key; but each time the last of them stays in the row
that is filed under their key, by `get?_merge_replaceExisting`, and as row numbers belong to one key
each, no other row is touched. Main statements: `merge_again_dropIncoming` and
`merge_again_replaceExisting`.
-/

namespace LiveTable

namespace Rows

/-- Every item of a batch is filed under its key already. -/
def Knows (rows : Rows) (batch : List Item) : Prop :=
  ∀ item ∈ batch, ∃ row, rows.index[item.key]? = some row

variable {rows : Rows} {policy : DuplicatePolicy} {batch : List Item} {item : Item}
  {key : String} {row : Nat}

/-! ## One item -/

private theorem index?_add_of_ne (apart : item.key ≠ key) (policy : DuplicatePolicy)
    (counts : MergeCounts) : (rows.add policy counts item).1.index[key]? = rows.index[key]? := by
  unfold add
  cases rows.index[item.key]? with
  | none => rw [index?_file, if_neg apart]
  | some row => cases policy <;> rfl

private theorem exists_index?_add (rows : Rows) (policy : DuplicatePolicy) (counts : MergeCounts)
    (item : Item) : ∃ row, (rows.add policy counts item).1.index[item.key]? = some row := by
  unfold add
  cases filed : rows.index[item.key]? with
  | none => exact ⟨rows.size, by rw [index?_file, if_pos rfl]⟩
  | some row => cases policy <;> exact ⟨row, filed⟩

private theorem Numbered.get?_add_replaceExisting (numbered : rows.Numbered) (counts : MergeCounts)
    (filed : (rows.add .replaceExisting counts item).1.index[item.key]? = some row) :
    (rows.add .replaceExisting counts item).1.get? row = some item := by
  unfold Rows.add at filed ⊢
  cases place : rows.index[item.key]? with
  | none =>
    simp only [place, index?_file, if_pos] at filed ⊢
    cases filed
    simp [get?, Rows.file, size]
  | some older =>
    simp only [place] at filed ⊢
    cases place.symm.trans filed
    have inside : row < rows.items.size := numbered.inside item.key row place
    simp [get?, replace, inside]

private theorem Numbered.get?_add_of_ne (numbered : rows.Numbered) (apart : item.key ≠ key)
    (filed : rows.index[key]? = some row) (policy : DuplicatePolicy) :
    (rows.add policy .zero item).1.get? row = rows.get? row := by
  have inside : row < rows.items.size := numbered.inside key row filed
  have held : rows.get? row = some rows.items[row] := Array.getElem?_eq_getElem inside
  rw [held]
  refine (grows_add policy rows item).others row _ held ?_
  intro new member place
  rw [List.mem_singleton.mp member] at place
  exact apart (numbered.apart item.key key row place filed)

/-! ## A batch -/

private theorem knows_merge (policy : DuplicatePolicy) (rows : Rows) (batch : List Item) :
    (rows.merge policy batch).1.Knows batch := by
  induction batch generalizing rows with
  | nil => exact fun item member => absurd member List.not_mem_nil
  | cons item batch ih =>
    rw [merge_cons]
    intro known member
    rcases List.mem_cons.mp member with rfl | later
    · obtain ⟨row, filed⟩ := rows.exists_index?_add policy .zero known
      exact ⟨row, (grows_merge policy _ batch).index _ row filed⟩
    · exact ih _ known later

theorem Numbered.get?_merge_replaceExisting (numbered : rows.Numbered)
    (filed : (rows.merge .replaceExisting batch).1.index[key]? = some row)
    (known : key ∈ batch.map Item.key) :
    (rows.merge .replaceExisting batch).1.get? row = lastOfKey? key batch := by
  induction batch using List.reverseRecOn with
  | nil => cases known
  | append_singleton batch item ih =>
    have before : (rows.merge .replaceExisting batch).1.Numbered :=
      numbered.change (.merge .replaceExisting batch)
    rw [merge_append_singleton] at filed ⊢
    rw [lastOfKey?_append_singleton]
    by_cases same : item.key = key
    · subst same
      rw [if_pos rfl]
      exact before.get?_add_replaceExisting .zero filed
    · have earlier : key ∈ batch.map Item.key := by
        simpa [Ne.symm same] using known
      rw [index?_add_of_ne same] at filed
      rw [if_neg same, before.get?_add_of_ne same filed]
      exact ih filed earlier

private theorem Knows.init (knows : rows.Knows (batch ++ [item])) : rows.Knows batch :=
  fun other member => knows other (List.mem_append_left _ member)

theorem merge_last (policy : DuplicatePolicy) (rows : Rows) (batch : List Item) (item : Item) :
    rows.merge policy (batch ++ [item]) =
      (rows.merge policy batch).1.add policy (rows.merge policy batch).2 item := by
  rw [merge, List.foldl_append]
  rfl

private theorem merge_dropIncoming_of_knows (knows : rows.Knows batch) :
    rows.merge .dropIncoming batch = (rows, ⟨0, batch.length, 0⟩) := by
  induction batch using List.reverseRecOn with
  | nil => rfl
  | append_singleton batch item ih =>
    obtain ⟨row, filed⟩ := knows item (List.mem_append_right _ (List.mem_singleton_self item))
    rw [merge_last, ih knows.init, List.length_append]
    simp only [add, filed]
    rfl

private theorem merge_replaceExisting_of_knows (knows : rows.Knows batch) :
    (rows.merge .replaceExisting batch).1.index = rows.index ∧
      (rows.merge .replaceExisting batch).2 = ⟨0, 0, batch.length⟩ := by
  induction batch using List.reverseRecOn with
  | nil => exact ⟨rfl, rfl⟩
  | append_singleton batch item ih =>
    obtain ⟨row, filed⟩ := knows item (List.mem_append_right _ (List.mem_singleton_self item))
    obtain ⟨index, counts⟩ := ih knows.init
    rw [merge_last, List.length_append]
    simp only [add, index, filed, counts, replace]
    exact ⟨trivial, rfl⟩

/-! ## Twice -/

theorem merge_again_dropIncoming (rows : Rows) (batch : List Item) :
    (rows.merge .dropIncoming batch).1.merge .dropIncoming batch =
      ((rows.merge .dropIncoming batch).1, ⟨0, batch.length, 0⟩) :=
  merge_dropIncoming_of_knows (rows.knows_merge .dropIncoming batch)

theorem Numbered.merge_again_replaceExisting (numbered : rows.Numbered) (batch : List Item) :
    (rows.merge .replaceExisting batch).1.merge .replaceExisting batch =
      ((rows.merge .replaceExisting batch).1, ⟨0, 0, batch.length⟩) := by
  let once := (rows.merge .replaceExisting batch).1
  have numbered' : once.Numbered := numbered.change (.merge .replaceExisting batch)
  obtain ⟨index, counts⟩ :=
    merge_replaceExisting_of_knows (rows.knows_merge .replaceExisting batch)
  have size : (once.merge .replaceExisting batch).1.size = once.size := by
    rw [(merge_counts .replaceExisting once batch).2, counts, Nat.add_zero]
  have items (row : Nat) : (once.merge .replaceExisting batch).1.get? row = once.get? row := by
    by_cases filed : ∃ item ∈ batch, once.index[item.key]? = some row
    · obtain ⟨item, member, filed⟩ := filed
      have known : item.key ∈ batch.map Item.key := List.mem_map_of_mem member
      -- Both times the last item of the batch with this key is what stays.
      rw [numbered.get?_merge_replaceExisting filed known]
      exact numbered'.get?_merge_replaceExisting (index ▸ filed) known
    · cases held : once.get? row with
      | none =>
        have outside : once.size ≤ row := Array.getElem?_eq_none_iff.mp held
        exact Array.getElem?_eq_none_iff.mpr (Nat.le_trans (Nat.le_of_eq size) outside)
      | some item =>
        refine (grows_merge .replaceExisting once batch).others row item held ?_
        exact fun new member place => filed ⟨new, member, place⟩
  exact Prod.ext (eq_of_get? index items) counts

end Rows

end LiveTable
