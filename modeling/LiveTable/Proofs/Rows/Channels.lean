import LiveTable.Proofs.Item.Identity
import LiveTable.Proofs.Rows.Redelivery
set_option autoImplicit false

/-!
# Rows of channels

In a table that has been merged of rows of channels only, rows are filed under their channel and
their number: an item is dropped when one with the same channel and number came before it, and in no
other case. Main statement: `channel_identities_never_collide`.
-/

namespace LiveTable

def Item.OfChannel (item : Item) : Prop := ∃ publicKey id, item.InChannel publicKey id

namespace Rows

/-- Rows that come of merging items of one sort into an empty table, under any policies. -/
inductive MergedFrom (P : Item → Prop) : Rows → Prop
  | empty : MergedFrom P .empty
  | merge {rows : Rows} (policy : DuplicatePolicy) {batch : List Item} (merged : MergedFrom P rows)
    (fit : ∀ item ∈ batch, P item) : MergedFrom P (rows.merge policy batch).1

/-- An item that comes behind others in a batch is dropped: the rows stay as these have left them,
and one item more is counted as dropped. -/
def Drops (rows : Rows) (before : List Item) (item : Item) : Prop :=
  let earlier := rows.merge .dropIncoming before
  rows.merge .dropIncoming (before ++ [item]) =
    (earlier.1, { earlier.2 with dropped := earlier.2.dropped + 1 })

def Files (rows : Rows) (before : List Item) (item : Item) : Prop :=
  let earlier := rows.merge .dropIncoming before
  rows.merge .dropIncoming (before ++ [item]) =
    (earlier.1.file item, { earlier.2 with appended := earlier.2.appended + 1 })

variable {P : Item → Prop} {rows : Rows} {before : List Item} {item : Item}

namespace MergedFrom

private theorem keyed (merged : rows.MergedFrom P) : rows.Keyed := by
  induction merged with
  | empty => exact keyed_empty
  | merge policy _ _ ih => exact ih.merge policy _

private theorem fits (merged : rows.MergedFrom P) : ∀ row ∈ rows.items.toList, P row := by
  induction merged with
  | empty => exact fun row member => absurd member List.not_mem_nil
  | merge policy _ fit ih =>
    intro row member
    rcases mem_merge member with new | old
    · exact fit row new
    · exact ih row old

end MergedFrom

namespace Keyed

private theorem mem_keys_merge (keyed : rows.Keyed) {batch : List Item} {key : String} :
    key ∈ (rows.merge .dropIncoming batch).1.keys ↔
      key ∈ rows.keys ∨ key ∈ batch.map Item.key := by
  induction batch generalizing rows with
  | nil => simp
  | cons item batch ih =>
    have added := keyed.keys_add (by decide : DuplicatePolicy.dropIncoming ≠ .append) .zero item
    rw [merge_cons, ih (keyed.add .dropIncoming .zero item), added, List.map_cons, List.mem_cons]
    split <;> grind

private theorem drops_or_files (keyed : rows.Keyed) (before : List Item) (item : Item) :
    (item.key ∈ (rows.items.toList ++ before).map Item.key ∧ rows.Drops before item) ∨
      (item.key ∉ (rows.items.toList ++ before).map Item.key ∧ rows.Files before item) := by
  have earlier := keyed.merge .dropIncoming before
  rw [List.map_append, List.mem_append, ← keys, ← keyed.mem_keys_merge, Drops, Files, merge_last]
  by_cases known : item.key ∈ (rows.merge .dropIncoming before).1.keys
  · obtain ⟨row, filed, -⟩ := earlier.index?_of_known known
    exact .inl ⟨known, by simp only [Rows.add, filed]⟩
  · exact .inr ⟨known, earlier.add_of_new .dropIncoming _ known⟩

end Keyed

private theorem not_drops_of_files (files : rows.Files before item) : ¬ rows.Drops before item := by
  intro drops
  have counts := congrArg (fun merged => merged.2.dropped) (files.symm.trans drops)
  simp at counts

variable {publicKey : String} {id : Int}

private theorem mem_keys_iff_exists {items : List Item} (channels : ∀ row ∈ items, row.OfChannel)
    (channel : item.InChannel publicKey id) :
    item.key ∈ items.map Item.key ↔ ∃ row ∈ items, row.InChannel publicKey id := by
  rw [List.mem_map]
  constructor
  · rintro ⟨row, member, same⟩
    obtain ⟨publicKey', id', other⟩ := channels row member
    obtain ⟨rfl, rfl⟩ := (other.key_eq_iff channel).mp same
    exact ⟨row, member, other⟩
  · rintro ⟨row, member, other⟩
    exact ⟨row, member, (other.key_eq_iff channel).mpr ⟨rfl, rfl⟩⟩

/-- Rows of channels have one identity exactly when they have the same channel and number, which is
neither a hash without colons nor a number alone. So a table of such rows drops an item of a batch
exactly when its channel and number came before, and files it otherwise. -/
theorem channel_identities_never_collide :
    (∀ (item other : Item) (p q : String) (m n : Int), item.InChannel p m → other.InChannel q n →
      (item.identity? = other.identity? ↔ p = q ∧ m = n)) ∧
    (∀ (item other : Item) (p hash : String) (m : Int), item.InChannel p m →
      other.text? "infohash" = some hash → ':' ∉ hash.toList →
      item.identity? ≠ other.identity?) ∧
    (∀ (item other : Item) (p : String) (m n : Int), item.InChannel p m →
      other.text? "infohash" = none → other.text? "public_key" = none →
      other.get? "id" = some (.number (.int n)) → item.identity? ≠ other.identity?) ∧
    ∀ (rows : Rows) (before : List Item) (item : Item) (p : String) (m : Int),
      rows.MergedFrom Item.OfChannel → (∀ row ∈ before, row.OfChannel) → item.InChannel p m →
      (rows.Drops before item ↔ ∃ row ∈ rows.items.toList ++ before, row.InChannel p m) ∧
      (rows.Files before item ↔ ¬ ∃ row ∈ rows.items.toList ++ before, row.InChannel p m) := by
  refine ⟨fun _ _ _ _ _ _ row row' => row.identity?_eq_iff row',
    fun _ _ _ _ _ row => row.identity?_ne_of_hash,
    fun _ _ _ _ _ row => row.identity?_ne_of_number, ?_⟩
  intro rows before item p m merged channels channel
  have all : ∀ row ∈ rows.items.toList ++ before, row.OfChannel := by
    intro row member
    exact (List.mem_append.mp member).elim (merged.fits row) (channels row)
  rw [← mem_keys_iff_exists all channel]
  rcases merged.keyed.drops_or_files before item with ⟨known, drops⟩ | ⟨new, files⟩
  · have other : ¬ rows.Files before item := fun files => not_drops_of_files files drops
    simp only [known, drops, other, not_true_eq_false, and_self]
  · have other := not_drops_of_files files
    simp only [new, files, other, not_false_eq_true, and_self]

theorem channel_identities_never_collide_of_colons :
    let first : Item := ⟨[("id", .number (.int (-1))), ("public_key", .text "a:2")]⟩
    let second : Item := ⟨[("id", .number (.int 2)), ("public_key", .text "a")]⟩
    let torrent : Item := ⟨[("infohash", .text "a")]⟩
    let numbered : Item := ⟨[("id", .number (.int 2))]⟩
    let rows := (empty.merge .append [first]).1
    first.identity? ≠ second.identity? ∧ first.identity? ≠ torrent.identity? ∧
      first.identity? ≠ numbered.identity? ∧ rows.Drops [second] first ∧ rows.Files [] second := by
  intro first second torrent numbered rows
  obtain ⟨same, hashed, unowned, merging⟩ := channel_identities_never_collide
  have left : first.InChannel "a:2" (-1) := ⟨rfl, rfl, rfl⟩
  have right : second.InChannel "a" 2 := ⟨rfl, rfl, rfl⟩
  have merged : rows.MergedFrom Item.OfChannel :=
    .merge .append .empty fun row member => List.mem_singleton.mp member ▸ ⟨_, _, left⟩
  have batch : ∀ row ∈ [second], row.OfChannel :=
    fun row member => List.mem_singleton.mp member ▸ ⟨_, _, right⟩
  have held : rows.items.toList = [first] := items_merge_append empty [first]
  refine ⟨?_, ?_, ?_, ?_, ?_⟩
  · exact mt (same _ _ _ _ _ _ left right).mp (by decide)
  · exact hashed _ _ _ "a" _ left rfl (by decide)
  · exact unowned _ _ _ _ 2 left rfl rfl rfl
  · refine (merging rows [second] first _ _ merged batch left).1.mpr ⟨first, ?_, left⟩
    exact List.mem_append_left _ (held ▸ List.mem_singleton_self first)
  · refine (merging rows [] second _ _ merged (by simp) right).2.mpr ?_
    rintro ⟨row, member, channel⟩
    obtain rfl : row = first := by simpa [held] using member
    exact absurd channel.channel (by decide)

end Rows

end LiveTable
