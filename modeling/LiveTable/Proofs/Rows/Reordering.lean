import LiveTable.Proofs.Rows.ClosedForm
import Mathlib.Algebra.GroupWithZero.Nat
import Mathlib.Data.List.Perm.Basic
set_option autoImplicit false

/-!
# Batches in another order

What merged rows owe to the order in which batches arrive. Where all copies are kept it is the order
of the rows. Where one copy of each key is kept, it is moreover which copy that is, but neither the
keys nor the number of rows, as `firstOfKeys` has the same keys for items in any order. If items
with one key are copies of one another, which one is kept makes no difference either. Main
statement: `arrival_order_moves_rows`.
-/

namespace LiveTable

def CopiesAgree (items : List Item) : Prop :=
  ∀ first ∈ items, ∀ second ∈ items, first.key = second.key → first = second

variable {items other : List Item}

private theorem CopiesAgree.find?_eq_some_iff (agree : CopiesAgree items) {key : String}
    {item : Item} :
    items.find? (fun held => held.key = key) = some item ↔ item ∈ items ∧ item.key = key := by
  constructor
  · intro found
    exact ⟨List.mem_of_find?_eq_some found, by simpa using List.find?_some found⟩
  · rintro ⟨member, rfl⟩
    cases search : items.find? (fun held => held.key = item.key) with
    | none =>
      have missing := List.find?_eq_none.mp search item member
      simp at missing
    | some first =>
      have same : first.key = item.key := by simpa using List.find?_some search
      rw [agree first (List.mem_of_find?_eq_some search) item member same]

private theorem CopiesAgree.of_perm (agree : CopiesAgree items) (reordered : items.Perm other) :
    CopiesAgree other := by
  intro first member second member'
  exact agree first (reordered.mem_iff.mpr member) second (reordered.mem_iff.mpr member')

private theorem CopiesAgree.find?_eq (agree : CopiesAgree items) (reordered : items.Perm other)
    (key : String) :
    items.find? (fun held => held.key = key) = other.find? fun held => held.key = key := by
  apply Option.ext
  intro item
  rw [agree.find?_eq_some_iff, (agree.of_perm reordered).find?_eq_some_iff, reordered.mem_iff]

private theorem CopiesAgree.lastOfKey?_eq (agree : CopiesAgree items) (reordered : items.Perm other)
    (key : String) : lastOfKey? key items = lastOfKey? key other := by
  have backwards : items.reverse.Perm other.reverse :=
    ((List.reverse_perm items).trans reordered).trans (List.reverse_perm other).symm
  exact (agree.of_perm (List.reverse_perm items).symm).find?_eq backwards key

private theorem lastOfKey?_append (key : String) (first second : List Item) :
    lastOfKey? key (first ++ second) = (lastOfKey? key second).or (lastOfKey? key first) := by
  rw [lastOfKey?, List.reverse_append, List.find?_append]
  rfl

private theorem mem_firstOfKeys_iff {item : Item} :
    item ∈ firstOfKeys items ↔ items.find? (fun held => held.key = item.key) = some item := by
  induction items with
  | nil => simp [firstOfKeys]
  | cons first rest ih =>
    rw [firstOfKeys, List.mem_cons, List.mem_filter, ih, List.find?_cons]
    by_cases same : first.key = item.key
    · simp [same, eq_comm]
    · have other : item ≠ first := fun equal => same (equal ▸ rfl)
      simp [same, other, Ne.symm same]

private theorem perm_keys_firstOfKeys (reordered : items.Perm other) :
    ((firstOfKeys items).map Item.key).Perm ((firstOfKeys other).map Item.key) := by
  rw [List.perm_ext_iff_of_nodup (nodup_keys_firstOfKeys items) (nodup_keys_firstOfKeys other)]
  intro key
  rw [mem_keys_firstOfKeys, mem_keys_firstOfKeys, (reordered.map Item.key).mem_iff]

private theorem CopiesAgree.perm_firstOfKeys (agree : CopiesAgree items)
    (reordered : items.Perm other) (earlier : List Item) :
    (firstOfKeys (earlier ++ items)).Perm (firstOfKeys (earlier ++ other)) := by
  have distinct (all : List Item) : (firstOfKeys all).Nodup :=
    .of_map Item.key (nodup_keys_firstOfKeys all)
  rw [List.perm_ext_iff_of_nodup (distinct _) (distinct _)]
  intro item
  rw [mem_firstOfKeys_iff, mem_firstOfKeys_iff, List.find?_append, List.find?_append,
    agree.find?_eq reordered]

namespace Rows

private theorem size_mergeBatches (policy : DuplicatePolicy) (rows : Rows)
    (batches : List (List Item)) :
    (rows.mergeBatches policy batches).1.size =
      rows.size + ((rows.mergeBatches policy batches).2.map MergeCounts.appended).sum := by
  induction batches generalizing rows with
  | nil => simp [mergeBatches]
  | cons batch rest ih =>
    have grown := (merge_counts policy rows batch).2
    have later := ih (rows.merge policy batch).1
    simp only [mergeBatches, Prod.map, id, List.map_cons, List.sum_cons]
    omega

private theorem mergeBatches_mergeBatches_fst (policy : DuplicatePolicy)
    (earlier later : List (List Item)) :
    ((empty.mergeBatches policy earlier).1.mergeBatches policy later).1 =
      (empty.merge policy (earlier.flatten ++ later.flatten)).1 := by
  rw [mergeBatches_fst, mergeBatches_fst, merge_append]

private theorem perm_merge_dropIncoming (earlier : List Item) (agree : CopiesAgree items)
    (reordered : items.Perm other) :
    (empty.merge .dropIncoming (earlier ++ items)).1.items.toList.Perm
      (empty.merge .dropIncoming (earlier ++ other)).1.items.toList := by
  rw [items_merge_dropIncoming, items_merge_dropIncoming]
  exact agree.perm_firstOfKeys reordered earlier

private theorem perm_merge_replaceExisting (earlier : List Item) (agree : CopiesAgree items)
    (reordered : items.Perm other) :
    (empty.merge .replaceExisting (earlier ++ items)).1.items.toList.Perm
      (empty.merge .replaceExisting (earlier ++ other)).1.items.toList := by
  have last (key : String) :
      lastOfKey? key (earlier ++ items) = lastOfKey? key (earlier ++ other) := by
    rw [lastOfKey?_append, lastOfKey?_append, agree.lastOfKey?_eq reordered]
  have keys := perm_keys_firstOfKeys (reordered.append_left earlier)
  have shown := keys.map fun key => lastOfKey? key (earlier ++ other)
  rw [List.map_map, List.map_map] at shown
  rw [← List.map_perm_map_iff (fun _ _ => Option.some.inj), items_merge_replaceExisting,
    items_merge_replaceExisting]
  simp only [last]
  exact shown

/-- Batches are merged into rows that come of merging under the same policy, in one order and in
another. Where all copies are kept, the rows are the same but for their order. Where one copy of
each key is kept, there are the same keys, as many rows, and as many items that were appended; and
if items of the batches with one key are the same item, then here too the rows are the same but for
their order. -/
theorem arrival_order_moves_rows (policy : DuplicatePolicy) (earlier : List (List Item))
    {batches permuted : List (List Item)} (reordered : batches.Perm permuted) :
    let rows := (empty.mergeBatches policy earlier).1
    let one := rows.mergeBatches policy batches
    let two := rows.mergeBatches policy permuted
    (policy = .append → one.1.items.toList.Perm two.1.items.toList) ∧
    (policy ≠ .append →
      (∀ key, key ∈ one.1.keys ↔ key ∈ two.1.keys) ∧ one.1.size = two.1.size ∧
      (one.2.map MergeCounts.appended).sum = (two.2.map MergeCounts.appended).sum ∧
      (CopiesAgree batches.flatten → one.1.items.toList.Perm two.1.items.toList)) := by
  intro rows one two
  have all := reordered.flatten.append_left earlier.flatten
  have first : one.1 = (empty.merge policy (earlier.flatten ++ batches.flatten)).1 :=
    mergeBatches_mergeBatches_fst policy earlier batches
  have second : two.1 = (empty.merge policy (earlier.flatten ++ permuted.flatten)).1 :=
    mergeBatches_mergeBatches_fst policy earlier permuted
  constructor
  · rintro rfl
    rw [first, second, items_merge_append, items_merge_append]
    exact all.append_left empty.items.toList
  · intro unique
    have keys : one.1.keys.Perm two.1.keys := by
      rw [first, second, keys_merge unique, keys_merge unique]
      exact perm_keys_firstOfKeys all
    have size : one.1.size = two.1.size := by
      rw [← length_keys, keys.length_eq, length_keys]
    have appended :
        (one.2.map MergeCounts.appended).sum = (two.2.map MergeCounts.appended).sum := by
      have grown : one.1.size = rows.size + (one.2.map MergeCounts.appended).sum :=
        size_mergeBatches policy rows batches
      have grown' : two.1.size = rows.size + (two.2.map MergeCounts.appended).sum :=
        size_mergeBatches policy rows permuted
      omega
    refine ⟨fun key => keys.mem_iff, size, appended, fun agree => ?_⟩
    rw [first, second]
    cases policy with
    | append => exact absurd rfl unique
    | dropIncoming => exact perm_merge_dropIncoming earlier.flatten agree reordered.flatten
    | replaceExisting => exact perm_merge_replaceExisting earlier.flatten agree reordered.flatten

/-- Two batches overlap each other and a row that is there already. In either order the row is
replaced and two are appended, and they stand in different places. -/
theorem arrival_order_moves_rows_of_overlapping :
    let row (hash name : String) : Item := ⟨[("infohash", .text hash), ("name", .text name)]⟩
    let first := [row "a" "new", row "b" "x"]
    let second := [row "c" "y", row "b" "x", row "a" "new"]
    let rows := (empty.mergeBatches .replaceExisting [[row "a" "old"]]).1
    let one := rows.mergeBatches .replaceExisting [first, second]
    let two := rows.mergeBatches .replaceExisting [second, first]
    one.1.items.toList = [row "a" "new", row "b" "x", row "c" "y"] ∧
    two.1.items.toList = [row "a" "new", row "c" "y", row "b" "x"] ∧
    one.2.map MergeCounts.appended = [1, 1] ∧ two.2.map MergeCounts.appended = [2, 0] ∧
    (∀ key, key ∈ one.1.keys ↔ key ∈ two.1.keys) ∧
    one.1.items.toList.Perm two.1.items.toList := by
  intro row first second rows one two
  have agree : CopiesAgree [first, second].flatten := by
    unfold CopiesAgree
    decide +kernel
  obtain ⟨keys, -, -, same⟩ := (arrival_order_moves_rows .replaceExisting [[row "a" "old"]]
    (List.Perm.swap second first [])).2 (by decide)
  exact ⟨by decide +kernel, by decide +kernel, by decide +kernel, by decide +kernel, keys,
    same agree⟩

end Rows

end LiveTable
