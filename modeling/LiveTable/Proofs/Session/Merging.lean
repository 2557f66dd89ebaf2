import LiveTable.Proofs.Rows.ClosedForm
import LiveTable.Proofs.Session.Handling
set_option autoImplicit false

/-!
# What answers leave in the table

A session merges the rows of its answers one after the other, whoever sent them. Main statement:
`merged_batches_in_closed_form`, which says for each policy what that comes to.
-/

namespace LiveTable

namespace Session

def absorbAll (s : Session) (answers : List (Answer × Origin)) : Session :=
  answers.foldl (fun s answer => s.absorb answer.1 answer.2) s

private theorem rows_absorbAll (s : Session) (answers : List (Answer × Origin)) :
    (s.absorbAll answers).rows = (s.rows.mergeBatches s.settings.duplicatePolicy
      (answers.map fun answer => answer.1.results)).1 := by
  induction answers generalizing s with
  | nil => rfl
  | cons answer answers ih =>
    have settings := (s.sameQueries_absorb answer.1 answer.2).settings
    have next := ih (s.absorb answer.1 answer.2)
    rw [settings, rows_absorb] at next
    exact next

/-- Batches are merged into an empty table. Appending keeps all items; dropping keeps the first item
of each key; replacing shows the last item of each key where its first one stood. The latter two
therefore show the same keys, and batch by batch the one drops as many items as the other replaces.
Every item of a batch is appended, dropped or replaced, and the rows grow by those that are
appended. Who sent the items has no influence. -/
theorem merged_batches_in_closed_form (batches : List (List Item)) :
    let all := batches.flatten
    let appending := Rows.empty.mergeBatches .append batches
    let dropping := Rows.empty.mergeBatches .dropIncoming batches
    let replacing := Rows.empty.mergeBatches .replaceExisting batches
    appending.1.items.toList = all ∧
    dropping.1.items.toList = firstOfKeys all ∧
    replacing.1.items.toList.map some =
      (firstOfKeys all).map (fun first => lastOfKey? first.key all) ∧
    replacing.1.keys = dropping.1.keys ∧ replacing.1.size = dropping.1.size ∧
    dropping.2.map MergeCounts.dropped = replacing.2.map MergeCounts.replaced ∧
    (∀ (policy : DuplicatePolicy) (rows : Rows) (batch : List Item),
      let merged := rows.merge policy batch
      merged.2.appended + merged.2.dropped + merged.2.replaced = batch.length ∧
        merged.1.size = rows.size + merged.2.appended) ∧
    ∀ (s : Session) (answers : List (Answer × Origin)),
      (s.absorbAll answers).rows = (s.rows.mergeBatches s.settings.duplicatePolicy
        (answers.map fun answer => answer.1.results)).1 := by
  intro all appending dropping replacing
  have keys : replacing.1.keys = dropping.1.keys := by
    simp only [replacing, dropping, Rows.mergeBatches_fst]
    rw [Rows.keys_merge (by decide), Rows.keys_merge (by decide)]
  have size : replacing.1.size = dropping.1.size := by
    rw [← Rows.length_keys, keys, Rows.length_keys]
  refine ⟨?_, ?_, ?_, keys, size, ?_, Rows.merge_counts, rows_absorbAll⟩
  · simpa [appending, all, Rows.mergeBatches_fst, Rows.empty] using
      Rows.items_merge_append Rows.empty all
  · rw [Rows.mergeBatches_fst]
    exact Rows.items_merge_dropIncoming all
  · rw [Rows.mergeBatches_fst]
    exact Rows.items_merge_replaceExisting all
  · exact Rows.mergeBatches_counts_eq Rows.keyed_empty Rows.keyed_empty rfl batches

end Session

end LiveTable
