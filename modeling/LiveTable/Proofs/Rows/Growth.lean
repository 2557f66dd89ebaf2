import LiveTable.Proofs.Rows.Keys
set_option autoImplicit false

/-!
# Growing rows

What happens to rows that are there already. Merging takes no row away and moves none: it puts rows
behind the others, and under one of the policies items in the place of rows that are filed under
their keys. `Grows` says so, and an index entry that has been made stands. An edit sets one field of
one row. Main statements: `grows_merge`, `mem_merge`, `get?_edit_of_ne` and `field_edit_of_ne`.
-/

namespace LiveTable

namespace Rows

/-- Later rows that have come of earlier ones by merging some items. -/
structure Grows (policy : DuplicatePolicy) (batch : List Item) (rows later : Rows) : Prop where
  size : rows.size ≤ later.size
  index : ∀ (key : String) (row : Nat), rows.index[key]? = some row → later.index[key]? = some row
  filed : ∀ (key : String) (row : Nat), later.index[key]? = some row →
    rows.index[key]? = some row ∨ rows.size ≤ row
  kept : policy ≠ .replaceExisting → rows.items.toList <+: later.items.toList
  others : ∀ (row : Nat) (item : Item), rows.get? row = some item →
    (∀ new ∈ batch, rows.index[new.key]? ≠ some row) → later.get? row = some item

variable {policy : DuplicatePolicy} {batch more : List Item} {rows later last : Rows}

theorem eq_of_get? (index : rows.index = later.index)
    (items : ∀ row, rows.get? row = later.get? row) : rows = later := by
  obtain ⟨_, _⟩ := rows
  obtain ⟨_, _⟩ := later
  have same := Array.ext_getElem? items
  cases index
  cases same
  rfl

private theorem lt_size_of_get? {row : Nat} {item : Item} (held : rows.get? row = some item) :
    row < rows.size := by
  obtain ⟨inside, -⟩ := Array.getElem?_eq_some_iff.mp held
  exact inside

namespace Grows

private theorem refl (policy : DuplicatePolicy) (batch : List Item) (rows : Rows) :
    Grows policy batch rows rows :=
  ⟨Nat.le_refl _, fun _ _ => id, fun _ _ => .inl, fun _ => List.prefix_refl _,
    fun _ _ held _ => held⟩

private theorem trans (first : Grows policy batch rows later)
    (second : Grows policy more later last) :
    Grows policy (batch ++ more) rows last := by
  refine ⟨Nat.le_trans first.size second.size, ?_, ?_, ?_, ?_⟩
  · intro key row entry
    exact second.index key row (first.index key row entry)
  · intro key row entry
    rcases second.filed key row entry with older | newer
    · exact first.filed key row older
    · have larger := first.size
      exact .inr (by omega)
  · intro keeps
    exact (first.kept keeps).trans (second.kept keeps)
  · intro row item held spared
    have between : later.get? row = some item :=
      first.others row item held fun new member => spared new (List.mem_append_left _ member)
    refine second.others row item between ?_
    intro new member entry
    -- An entry that was made in between is one for a row further behind.
    rcases first.filed new.key row entry with older | newer
    · exact spared new (List.mem_append_right _ member) older
    · have inside := lt_size_of_get? held
      omega

end Grows

private theorem get?_of_prefix (kept : rows.items.toList <+: later.items.toList) {row : Nat}
    {item : Item} (held : rows.get? row = some item) : later.get? row = some item := by
  have inside : row < rows.items.toList.length := lt_size_of_get? held
  obtain ⟨behind, same⟩ := kept
  rw [get?, ← Array.getElem?_toList] at held ⊢
  rw [← same, List.getElem?_append_left inside]
  exact held

private theorem grows_file (policy : DuplicatePolicy) {item : Item}
    (new : rows.index[item.key]? = none) :
    Grows policy [item] rows (rows.file item) := by
  have kept : rows.items.toList <+: (rows.file item).items.toList := by simp [file]
  refine ⟨by simp, ?_, ?_, fun _ => kept, fun _ _ held _ => get?_of_prefix kept held⟩
  · intro key row entry
    have other : item.key ≠ key := by
      intro same
      rw [← same, new] at entry
      cases entry
    rw [index?_file, if_neg other]
    exact entry
  · intro key row entry
    rw [index?_file] at entry
    split at entry
    · cases entry
      exact .inr (Nat.le_refl _)
    · exact .inl entry

private theorem grows_push (policy : DuplicatePolicy) (rows : Rows) (item : Item) :
    Grows policy [item] rows (rows.push item) := by
  have kept : rows.items.toList <+: (rows.push item).items.toList := by simp [push]
  exact ⟨by simp, fun _ _ => id, fun _ _ => .inl, fun _ => kept,
    fun _ _ held _ => get?_of_prefix kept held⟩

private theorem grows_replace {item : Item} {row : Nat} (place : rows.index[item.key]? = some row) :
    Grows .replaceExisting [item] rows (rows.replace row item) := by
  refine ⟨by simp, fun _ _ => id, fun _ _ => .inl, fun keeps => absurd rfl keeps, ?_⟩
  intro other held same spared
  have elsewhere : row ≠ other := by
    intro here
    exact spared item (List.mem_singleton_self item) (here ▸ place)
  rw [get?, replace, Array.getElem?_setIfInBounds_ne elsewhere]
  exact same

theorem grows_add (policy : DuplicatePolicy) (rows : Rows) (item : Item) :
    Grows policy [item] rows (rows.add policy .zero item).1 := by
  unfold add
  cases place : rows.index[item.key]? with
  | none => exact grows_file policy place
  | some row =>
    cases policy with
    | append => exact grows_push .append rows item
    | dropIncoming => exact .refl .dropIncoming [item] rows
    | replaceExisting => exact grows_replace place

theorem grows_merge (policy : DuplicatePolicy) (rows : Rows) (batch : List Item) :
    Grows policy batch rows (rows.merge policy batch).1 := by
  induction batch generalizing rows with
  | nil => exact .refl policy [] rows
  | cons item batch ih =>
    rw [merge_cons]
    have first := grows_add policy rows item
    have rest := ih (rows.add policy .zero item).1
    exact first.trans rest

/-! ## Where rows come from -/

private theorem mem_replace {item new : Item} {row : Nat}
    (member : item ∈ (rows.replace row new).items.toList) :
    item = new ∨ item ∈ rows.items.toList := by
  rw [replace, Array.toList_setIfInBounds] at member
  exact (List.mem_or_eq_of_mem_set member).symm

private theorem mem_add {item new : Item}
    (member : item ∈ (rows.add policy .zero new).1.items.toList) :
    item = new ∨ item ∈ rows.items.toList := by
  have behind : item ∈ (rows.push new).items.toList → item = new ∨ item ∈ rows.items.toList := by
    intro pushed
    rw [push, Array.toList_push] at pushed
    rcases List.mem_append.mp pushed with older | newer
    · exact .inr older
    · exact .inl (List.mem_singleton.mp newer)
  unfold add at member
  cases place : rows.index[new.key]? with
  | none =>
    rw [place] at member
    exact behind member
  | some row =>
    rw [place] at member
    cases policy with
    | append => exact behind member
    | dropIncoming => exact .inr member
    | replaceExisting => exact mem_replace member

theorem mem_merge {item : Item} (member : item ∈ (rows.merge policy batch).1.items.toList) :
    item ∈ batch ∨ item ∈ rows.items.toList := by
  induction batch generalizing rows with
  | nil => exact .inr member
  | cons new batch ih =>
    rw [merge_cons] at member
    rcases ih member with later | added
    · exact .inl (List.mem_cons_of_mem _ later)
    · rcases mem_add added with rfl | older
      · exact .inl List.mem_cons_self
      · exact .inr older

/-! ## Edits -/

variable {key field : String} {value : Json} {row : Nat}

theorem get?_edit_of_ne (elsewhere : rows.index[key]? ≠ some row) :
    (rows.edit key field value).1.get? row = rows.get? row := by
  unfold edit
  cases place : rows.index[key]? with
  | none => rfl
  | some edited =>
    have other : edited ≠ row := fun same => elsewhere (same ▸ place)
    simp only [get?, Array.getElem?_modify, if_neg other]

theorem get?_edit_of_filed (filed : rows.index[key]? = some row) :
    (rows.edit key field value).1.get? row = (rows.get? row).map (Item.set · field value) := by
  simp only [edit, filed, get?, Array.getElem?_modify, if_true]

theorem field_edit_of_ne {name : String} (other : field ≠ name) :
    ((rows.edit key field value).1.get? row).bind (Item.get? · name) =
      (rows.get? row).bind (Item.get? · name) := by
  by_cases place : rows.index[key]? = some row
  · rw [get?_edit_of_filed place]
    cases rows.get? row with
    | none => rfl
    | some item => exact Fields.get?_insert_of_ne other value item.fields
  · rw [get?_edit_of_ne place]

end Rows

end LiveTable
