import LiveTable.Proofs.Rows.Index
set_option autoImplicit false

/-!
# Merging slices of one list

Rows that are a beginning of a list, with one copy of each item, go on being one when a slice of
the list is merged that leaves no gap. Where the slice overlaps the rows, nothing is added. Main
statement: `Begins.merge_slice`.
-/

namespace LiveTable

namespace Rows

variable {policy : DuplicatePolicy} {rows next : Rows} {list : List Item} {start : Nat}

def Begins (rows : Rows) (list : List Item) : Prop := rows.items.toList = list.take rows.size

private theorem Begins.size_le (begins : rows.Begins list) : rows.size ≤ list.length := by
  have length := congrArg List.length begins
  simp only [Array.length_toList, List.length_take, size] at length ⊢
  omega

private theorem Begins.identities_eq (begins : rows.Begins list) :
    rows.identities = (list.map Item.identity?).take rows.size := by
  rw [identities, begins, List.map_take]

private theorem Begins.place_eq (begins : rows.Begins list)
    (distinct : (list.map Item.identity?).Nodup) (inside : start < list.length) {row : Nat}
    (held : rows.identities[row]? = some list[start].identity?) :
    row = start ∧ start < rows.size := by
  rw [begins.identities_eq, List.getElem?_take] at held
  split at held
  · rename_i earlier
    obtain ⟨bound, same⟩ := List.getElem?_eq_some_iff.mp held
    have inside' : start < (list.map Item.identity?).length := by simpa using inside
    have own : (list.map Item.identity?)[start] = list[start].identity? := by simp
    have here : row = start := (distinct.getElem_inj_iff).mp (same.trans own.symm)
    exact ⟨here, here ▸ earlier⟩
  · cases held

private theorem Begins.mem_identities_iff (begins : rows.Begins list)
    (distinct : (list.map Item.identity?).Nodup) (inside : start < list.length) :
    list[start].identity? ∈ rows.identities ↔ start < rows.size := by
  constructor
  · intro known
    obtain ⟨row, held⟩ := List.mem_iff_getElem?.mp known
    exact (begins.place_eq distinct inside held).2
  · intro earlier
    apply List.mem_iff_getElem?.mpr
    refine ⟨start, ?_⟩
    rw [begins.identities_eq, List.getElem?_take_of_lt earlier]
    simp [inside]

private theorem Begins.adding (begins : rows.Begins list) (unique : policy ≠ .append)
    (distinct : (list.map Item.identity?).Nodup) (inside : start < list.length)
    (reached : start ≤ rows.size) (adding : Adding policy rows list[start] next) :
    next.Begins list ∧ next.size = max rows.size (start + 1) := by
  have known_iff := begins.mem_identities_iff distinct inside
  cases adding with
  | filed new =>
    have last : start = rows.size := by
      rw [known_iff] at new
      omega
    subst last
    have added : (rows.file list[rows.size]).items.toList = list.take (rows.size + 1) := by
      rw [← List.take_append_getElem inside, ← begins]
      simp [file]
    exact ⟨by rw [Begins, size_file, added], by simp⟩
  | pushed _ appends => exact absurd appends unique
  | dropped known =>
    have earlier := known_iff.mp known
    exact ⟨begins, by omega⟩
  | @replaced row place _ =>
    obtain ⟨bound, same, -⟩ := List.idxOf?_eq_some_iff.mp place
    have known : rows.identities[row]? = some list[start].identity? := by
      rw [List.getElem?_eq_getElem bound, same]
    obtain ⟨rfl, earlier⟩ := begins.place_eq distinct inside known
    have held : rows.items.toList[row]? = some list[row] := by
      rw [begins, List.getElem?_take_of_lt earlier, List.getElem?_eq_getElem inside]
    obtain ⟨_, own⟩ := List.getElem?_eq_some_iff.mp held
    have kept : (rows.replace row list[row]).items.toList = rows.items.toList := by
      rw [replace, Array.toList_setIfInBounds, ← own, List.set_getElem_self]
    exact ⟨by rw [Begins, size_replace, kept, begins], by rw [size_replace]; omega⟩

/-- Merging a slice that starts in the rows or right behind them leaves a beginning of the list that
reaches to the end of the slice, or as far as it did before. -/
theorem Begins.merge_slice (begins : rows.Begins list) (indexed : rows.Indexed)
    (unique : policy ≠ .append) (distinct : (list.map Item.identity?).Nodup)
    (identified : ∀ item ∈ list, item.identity?.isSome) (reached : start ≤ rows.size)
    (count : Nat) :
    (rows.merge policy ((list.drop start).take count)).1.Begins list ∧
      (rows.merge policy ((list.drop start).take count)).1.size =
        max rows.size (min (start + count) list.length) := by
  -- One item on, the rest of the slice still starts in the rows or right behind them.
  induction count generalizing rows start with
  | zero =>
    have within := begins.size_le
    simp only [List.take_zero, merge_nil, begins, true_and]
    omega
  | succ count ih =>
    have within := begins.size_le
    by_cases inside : start < list.length
    · rw [List.drop_eq_getElem_cons inside, List.take_succ_cons, merge_cons]
      have known := identified list[start] (List.getElem_mem inside)
      have adding := indexed.adding known policy .zero
      obtain ⟨begins', size'⟩ := begins.adding unique distinct inside reached adding
      obtain ⟨begun, size''⟩ := ih begins' (indexed.of_adding known adding)
        (by omega : start + 1 ≤ _)
      exact ⟨begun, by omega⟩
    · rw [List.drop_eq_nil_of_le (by omega), List.take_nil, merge_nil]
      have full : rows.size = max rows.size (min (start + (count + 1)) list.length) := by omega
      exact ⟨begins, full⟩

end Rows

end LiveTable
