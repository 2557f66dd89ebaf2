import LiveTable.Proofs.Rows.Keys
import Mathlib.Data.List.Induction
import Mathlib.Data.List.Nodup
set_option autoImplicit false

/-!
# Merged rows in closed form

What batches leave behind that are merged one after the other into an empty table, said of all items
in the order of their arrival: everything, or the first item of each key, or the last item of each
key in the place of the first. The invariant is `Rows.Keyed`: the index tells where each key stands
first, where items without an identity share one key. Main statements: `items_merge_append`,
`items_merge_dropIncoming`, `items_merge_replaceExisting`, and `mergeBatches_counts_eq`, by which
what one policy drops another replaces.
-/

namespace LiveTable

def firstOfKeys : List Item → List Item
  | [] => []
  | item :: rest => item :: (firstOfKeys rest).filter fun other => other.key ≠ item.key

def lastOfKey? (key : String) (items : List Item) : Option Item :=
  items.reverse.find? fun item => item.key = key

theorem mem_keys_firstOfKeys {key : String} {items : List Item} :
    key ∈ (firstOfKeys items).map Item.key ↔ key ∈ items.map Item.key := by
  induction items with
  | nil => simp [firstOfKeys]
  | cons item rest ih =>
    by_cases same : key = item.key
    · simp [firstOfKeys, same]
    · have other :
          key ∈ ((firstOfKeys rest).filter fun other => other.key ≠ item.key).map Item.key ↔
            key ∈ (firstOfKeys rest).map Item.key := by
        simp only [List.mem_map, List.mem_filter, decide_eq_true_eq]
        constructor
        · rintro ⟨found, ⟨member, -⟩, rfl⟩
          exact ⟨found, member, rfl⟩
        · rintro ⟨found, member, rfl⟩
          exact ⟨found, ⟨member, same⟩, rfl⟩
      rw [firstOfKeys, List.map_cons, List.mem_cons, List.map_cons, List.mem_cons, other, ih]

theorem nodup_keys_firstOfKeys (items : List Item) : ((firstOfKeys items).map Item.key).Nodup := by
  induction items with
  | nil => exact List.nodup_nil
  | cons item rest ih =>
    rw [firstOfKeys, List.map_cons, List.nodup_cons]
    constructor
    · simp
    · exact ih.sublist (List.filter_sublist.map _)

private theorem firstOfKeys_append_singleton (items : List Item) (item : Item) :
    firstOfKeys (items ++ [item]) =
      if item.key ∈ items.map Item.key then firstOfKeys items else firstOfKeys items ++ [item] := by
  induction items with
  | nil => simp [firstOfKeys]
  | cons first rest ih =>
    rw [List.cons_append, firstOfKeys, ih]
    by_cases same : item.key = first.key
    · split <;> simp [firstOfKeys, same]
    · by_cases known : item.key ∈ rest.map Item.key
      · simp [firstOfKeys, same, known]
      · simp [firstOfKeys, same, known, List.filter_append]

theorem lastOfKey?_append_singleton (key : String) (items : List Item) (item : Item) :
    lastOfKey? key (items ++ [item]) =
      if item.key = key then some item else lastOfKey? key items := by
  by_cases same : item.key = key <;> simp [lastOfKey?, same]

namespace Rows

/-- Merges batches one after the other, and counts for each what happened to its items. -/
def mergeBatches (policy : DuplicatePolicy) (rows : Rows) :
    List (List Item) → Rows × List MergeCounts
  | [] => (rows, [])
  | batch :: rest =>
    let merged := rows.merge policy batch
    (merged.1.mergeBatches policy rest).map id (merged.2 :: ·)

variable {rows : Rows} {item : Item}

namespace Keyed

theorem keys_add (keyed : rows.Keyed) {policy : DuplicatePolicy} (unique : policy ≠ .append)
    (counts : MergeCounts) (item : Item) :
    (rows.add policy counts item).1.keys =
      if item.key ∈ rows.keys then rows.keys else rows.keys ++ [item.key] := by
  by_cases known : item.key ∈ rows.keys
  · obtain ⟨row, filed, place⟩ := keyed.index?_of_known known
    rw [if_pos known]
    simp only [Rows.add, filed]
    cases policy with
    | append => exact absurd rfl unique
    | dropIncoming => rfl
    | replaceExisting => exact keys_replace place
  · rw [if_neg known, keyed.add_of_new policy counts known, keys_file]

private theorem dropped_add (keyed : rows.Keyed) (counts : MergeCounts) (item : Item) :
    (rows.add .dropIncoming counts item).2.dropped =
      counts.dropped + if item.key ∈ rows.keys then 1 else 0 := by
  by_cases known : item.key ∈ rows.keys
  · obtain ⟨row, filed, -⟩ := keyed.index?_of_known known
    simp only [Rows.add, filed, if_pos known]
  · rw [keyed.add_of_new _ counts known, if_neg known]
    rfl

private theorem replaced_add (keyed : rows.Keyed) (counts : MergeCounts) (item : Item) :
    (rows.add .replaceExisting counts item).2.replaced =
      counts.replaced + if item.key ∈ rows.keys then 1 else 0 := by
  by_cases known : item.key ∈ rows.keys
  · obtain ⟨row, filed, -⟩ := keyed.index?_of_known known
    simp only [Rows.add, filed, if_pos known]
  · rw [keyed.add_of_new _ counts known, if_neg known]
    rfl

private theorem counts_eq {other : Rows} (keyed : rows.Keyed) (keyed' : other.Keyed)
    (same : rows.keys = other.keys) (batch : List Item) :
    (rows.merge .dropIncoming batch).1.keys = (other.merge .replaceExisting batch).1.keys ∧
      (rows.merge .dropIncoming batch).2.dropped =
        (other.merge .replaceExisting batch).2.replaced := by
  -- The induction is on what is still to be merged, after any counts that agree so far.
  have rest (before after : Rows × MergeCounts) (keyed : before.1.Keyed) (keyed' : after.1.Keyed)
      (same : before.1.keys = after.1.keys) (counts : before.2.dropped = after.2.replaced) :
      let dropping := batch.foldl (fun b item => b.1.add .dropIncoming b.2 item) before
      let replacing := batch.foldl (fun b item => b.1.add .replaceExisting b.2 item) after
      dropping.1.keys = replacing.1.keys ∧ dropping.2.dropped = replacing.2.replaced := by
    induction batch generalizing before after with
    | nil => exact ⟨same, counts⟩
    | cons item batch ih =>
      refine ih _ _ (keyed.add _ _ item) (keyed'.add _ _ item) ?_ ?_
      · rw [keyed.keys_add (by decide), keyed'.keys_add (by decide), same]
      · rw [keyed.dropped_add, keyed'.replaced_add, same, counts]
  exact rest (rows, .zero) (other, .zero) keyed keyed' same rfl

end Keyed

/-! ## Batches as one -/

theorem merge_append_singleton (policy : DuplicatePolicy) (rows : Rows) (items : List Item)
    (item : Item) :
    (rows.merge policy (items ++ [item])).1 =
      ((rows.merge policy items).1.add policy .zero item).1 := by
  rw [merge_append, merge_cons, merge_nil]

theorem mergeBatches_fst (policy : DuplicatePolicy) (rows : Rows) (batches : List (List Item)) :
    (rows.mergeBatches policy batches).1 = (rows.merge policy batches.flatten).1 := by
  induction batches generalizing rows with
  | nil => rfl
  | cons batch rest ih =>
    rw [List.flatten_cons, merge_append, ← ih]
    rfl

/-! ## Closed forms -/

private theorem items_add_append (rows : Rows) (counts : MergeCounts) (item : Item) :
    (rows.add .append counts item).1.items = rows.items.push item := by
  unfold add
  split <;> rfl

theorem items_merge_append (rows : Rows) (items : List Item) :
    (rows.merge .append items).1.items.toList = rows.items.toList ++ items := by
  induction items generalizing rows with
  | nil => simp
  | cons item items ih =>
    rw [merge_cons, ih, items_add_append]
    simp

theorem keys_merge {policy : DuplicatePolicy} (unique : policy ≠ .append) (items : List Item) :
    (empty.merge policy items).1.keys = (firstOfKeys items).map Item.key := by
  induction items using List.reverseRecOn with
  | nil => rfl
  | append_singleton items item ih =>
    have keyed := keyed_empty.merge policy items
    rw [merge_append_singleton, keyed.keys_add unique, ih, firstOfKeys_append_singleton]
    simp only [mem_keys_firstOfKeys]
    split <;> simp

theorem items_merge_dropIncoming (items : List Item) :
    (empty.merge .dropIncoming items).1.items.toList = firstOfKeys items := by
  induction items using List.reverseRecOn with
  | nil => rfl
  | append_singleton items item ih =>
    have keyed := keyed_empty.merge .dropIncoming items
    have keys := keys_merge (by decide : DuplicatePolicy.dropIncoming ≠ .append) items
    have known_iff : item.key ∈ items.map Item.key ↔
        item.key ∈ (empty.merge .dropIncoming items).1.keys := by
      rw [keys, mem_keys_firstOfKeys]
    rw [merge_append_singleton, firstOfKeys_append_singleton]
    by_cases known : item.key ∈ (empty.merge .dropIncoming items).1.keys
    · obtain ⟨row, filed, -⟩ := keyed.index?_of_known known
      rw [if_pos (known_iff.mpr known)]
      simp only [add, filed]
      exact ih
    · rw [if_neg (mt known_iff.mp known), keyed.add_of_new _ _ known]
      simp [file, ih]

private theorem mem_add_replaceExisting (keyed : rows.Keyed) (counts : MergeCounts) (item : Item) :
    item ∈ (rows.add .replaceExisting counts item).1.items.toList ∧
      ∀ held ∈ (rows.add .replaceExisting counts item).1.items.toList,
        held ∈ rows.items.toList ∨ held = item := by
  by_cases known : item.key ∈ rows.keys
  · obtain ⟨row, filed, place⟩ := keyed.index?_of_known known
    obtain ⟨inside, -, -⟩ := List.idxOf?_eq_some_iff.mp place
    rw [length_keys] at inside
    simp only [add, filed, replace, Array.toList_setIfInBounds]
    exact ⟨List.mem_set inside item, fun held member => List.mem_or_eq_of_mem_set member⟩
  · rw [keyed.add_of_new _ counts known]
    simp [file]

theorem items_merge_replaceExisting (items : List Item) :
    (empty.merge .replaceExisting items).1.items.toList.map some =
      (firstOfKeys items).map fun first => lastOfKey? first.key items := by
  have unique : DuplicatePolicy.replaceExisting ≠ .append := by decide
  have latest : ∀ held ∈ (empty.merge .replaceExisting items).1.items.toList,
      lastOfKey? held.key items = some held := by
    induction items using List.reverseRecOn with
    | nil => simp [empty]
    | append_singleton items item ih =>
      have keyed := keyed_empty.merge .replaceExisting items
      have keys := keys_merge unique (items ++ [item])
      rw [merge_append_singleton] at keys ⊢
      obtain ⟨present, older⟩ := mem_add_replaceExisting keyed .zero item
      have distinct := nodup_keys_firstOfKeys (items ++ [item])
      rw [← keys] at distinct
      intro held member
      rw [lastOfKey?_append_singleton]
      by_cases same : item.key = held.key
      · rw [if_pos same, List.inj_on_of_nodup_map distinct present member same]
      · rw [if_neg same]
        rcases older held member with before | rfl
        · exact ih held before
        · exact absurd rfl same
  have keys := keys_merge unique items
  calc (empty.merge .replaceExisting items).1.items.toList.map some
      = (empty.merge .replaceExisting items).1.items.toList.map
          fun held => lastOfKey? held.key items :=
        List.map_congr_left fun held member => (latest held member).symm
    _ = (empty.merge .replaceExisting items).1.keys.map (lastOfKey? · items) := by
        simp [Rows.keys]
    _ = (firstOfKeys items).map fun first => lastOfKey? first.key items := by
        simp [keys]

/-! ## Counts -/

theorem merge_counts (policy : DuplicatePolicy) (rows : Rows) (batch : List Item) :
    let merged := rows.merge policy batch
    merged.2.appended + merged.2.dropped + merged.2.replaced = batch.length ∧
      merged.1.size = rows.size + merged.2.appended := by
  have rest (before : Rows × MergeCounts) :
      let after := batch.foldl (fun b item => b.1.add policy b.2 item) before
      after.2.appended + after.2.dropped + after.2.replaced =
          before.2.appended + before.2.dropped + before.2.replaced + batch.length ∧
        after.1.size + before.2.appended = before.1.size + after.2.appended := by
    induction batch generalizing before with
    | nil => simp
    | cons item batch ih =>
      obtain ⟨total, size⟩ := ih (before.1.add policy before.2 item)
      have one : (before.1.add policy before.2 item).2.appended +
            (before.1.add policy before.2 item).2.dropped +
            (before.1.add policy before.2 item).2.replaced =
          before.2.appended + before.2.dropped + before.2.replaced + 1 ∧
        (before.1.add policy before.2 item).1.size + before.2.appended =
          before.1.size + (before.1.add policy before.2 item).2.appended := by
        unfold add
        cases before.1.index[item.key]? with
        | none => simp; omega
        | some row => cases policy <;> simp <;> omega
      simp only [List.foldl_cons, List.length_cons]
      omega
  simpa [merge, MergeCounts.zero] using rest (rows, .zero)

theorem mergeBatches_counts_eq {other : Rows} (keyed : rows.Keyed) (keyed' : other.Keyed)
    (same : rows.keys = other.keys) (batches : List (List Item)) :
    (rows.mergeBatches .dropIncoming batches).2.map MergeCounts.dropped =
      (other.mergeBatches .replaceExisting batches).2.map MergeCounts.replaced := by
  induction batches generalizing rows other with
  | nil => rfl
  | cons batch rest ih =>
    obtain ⟨keys, counts⟩ := keyed.counts_eq keyed' same batch
    have later := ih (keyed.merge .dropIncoming batch) (keyed'.merge .replaceExisting batch) keys
    simp only [mergeBatches, Prod.map, id, List.map_cons, counts, later]

end Rows

end LiveTable
