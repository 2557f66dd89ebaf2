import LiveTable.Proofs.Rows.Growth
import LiveTable.Proofs.Session.Intake
set_option autoImplicit false

/-!
# Tables within an epoch

Between two starts of epochs a table only grows: no row goes away or moves, and what the index says
of rows stays true. Main statement: `table_only_grows_within_epoch`, which also says of which rows
the content may change.
-/

namespace LiveTable

namespace Session

variable {s : Session} {fresh : Epoch} {identity column : String} {value : Json}

private theorem rows_patchField_cases (s : Session) (fresh : Epoch) (identity column : String)
    (value : Json) :
    (s.act fresh (.patchField identity column value)).rows = s.rows ∨
      (s.act fresh (.patchField identity column value)).rows =
        (s.rows.edit identity (attributeOf column) value).1 := by
  simp only [act, patchField]
  split
  · exact .inl rfl
  · exact .inr rfl

/-- An edit writes one field of the row that is filed under the identity. -/
structure EditsField (s next : Session) (identity field : String) : Prop where
  size : next.rows.size = s.rows.size
  index : next.rows.index = s.rows.index
  elsewhere : ∀ row, s.rows.index[identity]? ≠ some row → next.rows.get? row = s.rows.get? row
  others : ∀ row name, name ≠ field →
    (next.rows.get? row).bind (Item.get? · name) = (s.rows.get? row).bind (Item.get? · name)

private theorem editsField_patchField (s : Session) (fresh : Epoch) (identity column : String)
    (value : Json) :
    s.EditsField (s.act fresh (.patchField identity column value)) identity
      (attributeOf column) := by
  rcases s.rows_patchField_cases fresh identity column value with same | edited
  · exact ⟨by rw [same], by rw [same], fun _ _ => by rw [same], fun _ _ _ => by rw [same]⟩
  · constructor
    · rw [edited, Rows.size_edit]
    · rw [edited, Rows.index_edit]
    · intro row elsewhere
      rw [edited, Rows.get?_edit_of_ne elsewhere]
    · intro row name other
      rw [edited, Rows.field_edit_of_ne other.symm]

/-- An action that starts no epoch takes no row away, and what the index says stays true. An edit
keeps the number of rows and writes one field of one row at most. Any other action leaves the rows
at the beginning of the table as they are, unless items replace others; then it leaves those alone
that are not filed under the identity of an item it takes in. -/
theorem table_only_grows_within_epoch (s : Session) (fresh : Epoch) (action : Action)
    (within : ¬ s.Starts fresh action) :
    let next := s.act fresh action
    s.rows.size ≤ next.rows.size ∧
    (∀ (id : String) (row : Nat), s.rows.index[id]? = some row →
      next.rows.index[id]? = some row) ∧
    (∀ identity column value, action = .patchField identity column value →
      s.EditsField next identity (attributeOf column)) ∧
    ((∀ identity column value, action ≠ .patchField identity column value) →
      (s.settings.duplicatePolicy ≠ .replaceExisting →
        s.rows.items.toList <+: next.rows.items.toList) ∧
      ∀ row item, s.rows.get? row = some item →
        (∀ intake ∈ s.intakes action, ∀ new ∈ intake.items,
          (new.identity?.bind fun id => s.rows.index[id]?) ≠ some row) →
        next.rows.get? row = some item) := by
  intro next
  by_cases edits : ∃ identity column value, action = .patchField identity column value
  · obtain ⟨identity, column, value, rfl⟩ := edits
    have edited := s.editsField_patchField fresh identity column value
    refine ⟨Nat.le_of_eq edited.size.symm, ?_, ?_, fun other => absurd rfl (other _ _ _)⟩
    · intro id row entry
      rw [edited.index]
      exact entry
    · rintro _ _ _ ⟨⟩
      exact edited
  · have unedited : ∀ identity column value, action ≠ .patchField identity column value :=
      fun identity column value same => edits ⟨identity, column, value, same⟩
    have grows := Rows.grows_merge s.settings.duplicatePolicy s.rows
      ((s.intakes action).flatMap Intake.items)
    rw [← rows_act within unedited] at grows
    refine ⟨grows.size, grows.index, fun _ _ _ same => absurd same (unedited _ _ _), fun _ => ?_⟩
    refine ⟨grows.kept, ?_⟩
    intro row item held spared
    refine grows.others row item held ?_
    intro new merged
    obtain ⟨intake, taken, member⟩ := List.mem_flatMap.mp merged
    -- Items that are merged have identities, so that these are what they are filed under.
    obtain ⟨id, known⟩ := Option.isSome_iff_exists.mp (identified_of_mem_takes taken new member)
    have apart := spared intake taken new member
    simpa [known, Item.key] using apart

theorem table_only_grows_within_epoch_by_push :
    let row (hash name : String) : Json :=
      .object [("infohash", .text hash), ("name", .text name)]
    let batch (rows : List Json) : Json := .object [("results", .array rows)]
    let settings : Settings := { Settings.default with duplicatePolicy := .replaceExisting }
    let s := (initial (.search none) settings).run [(⟨1#128⟩, .refresh),
      (⟨2#128⟩, .onResponse (batch [row "a" "one", row "b" "two"]) .backend),
      (⟨3#128⟩, .push (batch [row "a" "other", row "c" "three"]))]
    let next := s.act ⟨4#128⟩ .processNext
    ¬ s.Starts ⟨4#128⟩ .processNext ∧ next.rows.size = 3 ∧
      s.rows.get? 0 ≠ next.rows.get? 0 ∧ next.rows.index["a"]? = some 0 ∧
      s.rows.get? 1 = some ⟨[("infohash", .text "b"), ("name", .text "two")]⟩ ∧
      next.rows.get? 1 = some ⟨[("infohash", .text "b"), ("name", .text "two")]⟩ := by
  intro row batch settings s next
  have within : ¬ s.Starts ⟨4#128⟩ .processNext := by
    intro starts
    cases starts
  obtain ⟨-, index, -, rest⟩ := table_only_grows_within_epoch s ⟨4#128⟩ .processNext within
  obtain ⟨-, kept⟩ := rest (by simp)
  have first : s.rows.index["a"]? = some 0 := by decide +kernel
  have second : s.rows.get? 1 = some ⟨[("infohash", .text "b"), ("name", .text "two")]⟩ := by
    decide +kernel
  have spared : ∀ intake ∈ s.intakes .processNext, ∀ new ∈ intake.items,
      (new.identity?.bind fun id => s.rows.index[id]?) ≠ some 1 := by decide +kernel
  refine ⟨within, by decide +kernel, by decide +kernel, index "a" 0 first, second, ?_⟩
  exact kept 1 _ second spared

end Session

end LiveTable
