import LiveTable.Proofs.Rows.Keys
import Mathlib.Data.List.Nodup
set_option autoImplicit false

/-!
# The index of rows

`Rows.Indexed` is what the index is for: each row has an identity, and the index tells where each
identity stands first. It is `Rows.Keyed` of rows that have identities, by `indexed_iff_keyed`.
Merging keeps it, under every policy, and so does an edit that leaves the identity of its row. Under
the policies that know one copy of each item, identities stay distinct. Main statements:
`Indexed.find?_eq_scan?`, `Indexed.merge`, `nodup_merge` and `Indexed.edit`.
-/

namespace LiveTable

theorem Item.key_eq {item : Item} {id : String} (has : item.identity? = some id) :
    item.key = id := by
  simp [Item.key, has]

namespace Rows

def identities (rows : Rows) : List (Option String) := rows.items.toList.map Item.identity?

/-- The first row with an identity, found by going through the rows. -/
def scan? (rows : Rows) (id : String) : Option Item :=
  rows.items.toList.find? fun item => item.identity? == some id

/-- Every row has an identity, and the index has the number of the first row of each. -/
structure Indexed (rows : Rows) : Prop where
  identified : none ∉ rows.identities
  places : ∀ id, rows.index[id]? = rows.identities.idxOf? (some id)

theorem identity?_of_scan? {rows : Rows} {id : String} {item : Item}
    (found : rows.scan? id = some item) : item.identity? = some id := by
  have passes := List.find?_some found
  simpa using passes

variable {rows : Rows} {id : String}

theorem Indexed.find?_eq_scan? (indexed : rows.Indexed) (id : String) :
    rows.find? id = rows.scan? id := by
  have place : rows.index[id]? =
      rows.items.toList.findIdx? fun item => item.identity? == some id := by
    rw [indexed.places id, identities, List.idxOf?, List.findIdx?_map]
    rfl
  rw [scan?, List.find?_eq_bind_findIdx?_getElem?, find?, place]
  simp only [Array.getElem?_toList]
  rfl

private theorem identities_eq_keys (identified : none ∉ rows.identities) :
    rows.identities = rows.keys.map some := by
  rw [identities, keys, List.map_map]
  refine List.map_congr_left fun item member => ?_
  cases has : item.identity? with
  | none => exact absurd (List.mem_map.mpr ⟨item, member, has⟩) identified
  | some id => simp [Item.key_eq has]

theorem indexed_iff_keyed : rows.Indexed ↔ none ∉ rows.identities ∧ rows.Keyed := by
  have place (id : String) : (rows.keys.map some).idxOf? (some id) = rows.keys.idxOf? id := by
    simp [List.idxOf?, List.findIdx?_map, Function.comp_def]
  constructor
  · intro indexed
    refine ⟨indexed.identified, fun id => ?_⟩
    rw [indexed.places id, identities_eq_keys indexed.identified, place]
  · rintro ⟨identified, keyed⟩
    refine ⟨identified, fun id => ?_⟩
    rw [identities_eq_keys identified, place]
    exact keyed id

private theorem Indexed.keyed (indexed : rows.Indexed) :
    rows.Keyed := (indexed_iff_keyed.mp indexed).2

private theorem Indexed.mem_keys_iff (indexed : rows.Indexed) {item : Item}
    (identified : item.identity?.isSome) :
    item.key ∈ rows.keys ↔ item.identity? ∈ rows.identities := by
  obtain ⟨id, has⟩ := Option.isSome_iff_exists.mp identified
  rw [identities_eq_keys indexed.identified, has, Item.key_eq has]
  simp

/-! ## Merging -/

@[simp] theorem identities_empty : empty.identities = [] := rfl

@[simp] theorem identities_push (rows : Rows) (item : Item) :
    (rows.push item).identities = rows.identities ++ [item.identity?] := by
  simp [identities, push]

@[simp] theorem identities_file (rows : Rows) (item : Item) :
    (rows.file item).identities = rows.identities ++ [item.identity?] := by
  simp [identities, file]

private theorem identities_replace {rows : Rows} {row : Nat} {item : Item}
    (place : rows.identities.idxOf? item.identity? = some row) :
    (rows.replace row item).identities = rows.identities := by
  obtain ⟨inside, held, -⟩ := List.idxOf?_eq_some_iff.mp place
  have set : (rows.replace row item).identities = rows.identities.set row item.identity? := by
    simp [identities, replace]
  rw [set, ← held, List.set_getElem_self]

inductive Adding (policy : DuplicatePolicy) (rows : Rows) (item : Item) : Rows → Prop
  | filed (new : item.identity? ∉ rows.identities) : Adding policy rows item (rows.file item)
  | pushed (known : item.identity? ∈ rows.identities) (appends : policy = .append) :
      Adding policy rows item (rows.push item)
  | dropped (known : item.identity? ∈ rows.identities) (drops : policy = .dropIncoming) :
      Adding policy rows item rows
  | replaced {row : Nat} (place : rows.identities.idxOf? item.identity? = some row)
      (replaces : policy = .replaceExisting) : Adding policy rows item (rows.replace row item)

theorem Indexed.adding {rows : Rows} (indexed : rows.Indexed) {item : Item}
    (identified : item.identity?.isSome) (policy : DuplicatePolicy) (counts : MergeCounts) :
    Adding policy rows item (rows.add policy counts item).1 := by
  obtain ⟨id, has⟩ := Option.isSome_iff_exists.mp identified
  have place : rows.index[item.key]? = rows.identities.idxOf? item.identity? := by
    rw [Item.key_eq has, has, indexed.places id]
  unfold add
  cases found : rows.index[item.key]? with
  | none =>
    rw [place] at found
    exact .filed (List.idxOf?_eq_none_iff.mp found)
  | some row =>
    rw [place] at found
    have known : item.identity? ∈ rows.identities := by
      rw [← List.isSome_idxOf?, found]
      rfl
    cases policy with
    | append => exact .pushed known rfl
    | dropIncoming => exact .dropped known rfl
    | replaceExisting => exact .replaced found rfl

theorem indexed_empty : empty.Indexed := by
  constructor
  · simp
  · intro id
    simp [empty, identities]

private theorem Indexed.of_same {rows next : Rows} (indexed : rows.Indexed)
    (index : next.index = rows.index) (identities : next.identities = rows.identities) :
    next.Indexed := by
  constructor
  · rw [identities]
    exact indexed.identified
  · intro id
    rw [index, identities]
    exact indexed.places id

theorem Indexed.of_adding {policy : DuplicatePolicy} {rows next : Rows} {item : Item}
    (indexed : rows.Indexed) (identified : item.identity?.isSome)
    (adding : Adding policy rows item next) : next.Indexed := by
  obtain ⟨id, has⟩ := Option.isSome_iff_exists.mp identified
  have known_iff := indexed.mem_keys_iff identified
  have added : none ∉ rows.identities ++ [item.identity?] := by
    simp [has, indexed.identified]
  cases adding with
  | filed new =>
    refine indexed_iff_keyed.mpr ⟨?_, indexed.keyed.file (mt known_iff.mp new)⟩
    rw [identities_file]
    exact added
  | pushed known =>
    refine indexed_iff_keyed.mpr ⟨?_, indexed.keyed.push (known_iff.mpr known)⟩
    rw [identities_push]
    exact added
  | dropped => exact indexed
  | replaced place => exact indexed.of_same rfl (identities_replace place)

theorem Indexed.merge {policy : DuplicatePolicy} {rows : Rows} {batch : List Item}
    (indexed : rows.Indexed) (identified : ∀ item ∈ batch, item.identity?.isSome) :
    (rows.merge policy batch).1.Indexed := by
  refine merge_keeps ?_ indexed
  intro rows item member held
  exact held.of_adding (identified item member) (held.adding (identified item member) policy .zero)

private theorem Adding.nodup {policy : DuplicatePolicy} {rows next : Rows} {item : Item}
    (adding : Adding policy rows item next) (unique : policy ≠ .append)
    (distinct : rows.identities.Nodup) : next.identities.Nodup := by
  cases adding with
  | filed new =>
    rw [identities_file, ← List.concat_eq_append]
    exact List.Nodup.concat new distinct
  | pushed _ appends => exact absurd appends unique
  | dropped => exact distinct
  | replaced place =>
    rw [identities_replace place]
    exact distinct

theorem nodup_merge {policy : DuplicatePolicy} {rows : Rows} {batch : List Item}
    (indexed : rows.Indexed) (identified : ∀ item ∈ batch, item.identity?.isSome)
    (unique : policy ≠ .append) (distinct : rows.identities.Nodup) :
    (rows.merge policy batch).1.identities.Nodup := by
  have both : (rows.merge policy batch).1.Indexed ∧
      (rows.merge policy batch).1.identities.Nodup := by
    refine merge_keeps (P := fun rows => rows.Indexed ∧ rows.identities.Nodup) ?_
      ⟨indexed, distinct⟩
    rintro rows item member ⟨held, apart⟩
    have adding := held.adding (identified item member) policy .zero
    exact ⟨held.of_adding (identified item member) adding, adding.nodup unique apart⟩
  exact both.2

/-! ## Editing -/

theorem find?_edit_self {rows : Rows} {id field : String} {value : Json} {item : Item}
    (found : rows.find? id = some item) :
    (rows.edit id field value).1.find? id = some (item.set field value) := by
  unfold find? at found ⊢
  unfold edit
  cases filed : rows.index[id]? with
  | none => simp [filed] at found
  | some row =>
    simp only [filed, Option.bind_some, get?] at found ⊢
    simp [Array.getElem?_modify, found]

theorem identities_edit {rows : Rows} {id field : String} {value : Json}
    (keeps : ∀ item, rows.find? id = some item →
      (item.set field value).identity? = item.identity?) :
    (rows.edit id field value).1.identities = rows.identities := by
  unfold edit
  cases filed : rows.index[id]? with
  | none => rfl
  | some row =>
    apply List.ext_getElem?
    intro place
    simp only [identities, List.getElem?_map, Array.getElem?_toList, Array.getElem?_modify]
    by_cases here : row = place
    · subst here
      cases held : rows.items[row]? with
      | none => simp
      | some item =>
        have found : rows.find? id = some item := by simp [find?, filed, get?, held]
        simp [keeps item found]
    · simp [here]

theorem Indexed.edit {rows : Rows} {id field : String} {value : Json} (indexed : rows.Indexed)
    (keeps : ∀ item, rows.find? id = some item →
      (item.set field value).identity? = item.identity?) :
    (rows.edit id field value).1.Indexed :=
  indexed.of_same (index_edit ..) (identities_edit keeps)

end Rows

end LiveTable
