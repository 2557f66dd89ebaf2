import LiveTable.Session.Action
import Mathlib.Data.List.Perm.Basic
set_option autoImplicit false

/-!
# What can be done with selected rows

Rows are selected by a list of row numbers, which may come in any order and more than once, and of
which some may have no row. What the target offers depends on the numbers in range only, and on how
many they are, not on their order. `Offers` says what is offered where anything is. Main statement:
`actions_depend_on_selected_rows`.
-/

namespace LiveTable

private theorem Rows.get?_eq_none_iff {rows : Rows} {row : Nat} :
    rows.get? row = none ↔ rows.size ≤ row := by
  simp [get?, size]

private theorem Item.kind_eq_torrent_iff {item : Item} :
    item.kind = .torrent ↔ item.get? "type" = some (.text "torrent") := by
  unfold Item.kind ItemKind.ofField
  split <;> simp_all

namespace Target

variable {target : Target} {selected other : List Item}

theorem mem_eligibleActions_iff {action : RowAction} :
    action ∈ target.eligibleActions selected ↔
      target.hasRowActions = true ∧ selected ≠ [] ∧
        ((selected.length = 1 ∧ (action = .download ∨ action = .play)) ∨
        (target.isOwned = true ∧ action = .removeFromOwnedListing) ∨
        (target.isOwned = false ∧ (∃ item ∈ selected, item.kind = .torrent) ∧
          action = .addToOwnedListing)) := by
  have use : action ∈ (if selected.length = 1 then [RowAction.download, .play] else []) ↔
      selected.length = 1 ∧ (action = .download ∨ action = .play) := by
    split_ifs with single <;> simp [single]
  have move : action ∈ (if target.isOwned then [RowAction.removeFromOwnedListing]
        else if selected.any (·.kind = .torrent) then [.addToOwnedListing] else []) ↔
      (target.isOwned = true ∧ action = .removeFromOwnedListing) ∨
        (target.isOwned = false ∧ (∃ item ∈ selected, item.kind = .torrent) ∧
          action = .addToOwnedListing) := by
    have torrents : selected.any (·.kind = .torrent) = true ↔
        ∃ item ∈ selected, item.kind = .torrent := by simp
    rw [← torrents]
    split_ifs <;> simp [*]
  by_cases nothing : (!target.hasRowActions || selected.isEmpty) = true
  · rw [eligibleActions, if_pos nothing]
    simp only [Bool.or_eq_true, Bool.not_eq_true', List.isEmpty_iff] at nothing
    rcases nothing with none | none <;> simp [none]
  · rw [eligibleActions, if_neg nothing, List.mem_append, use, move]
    simp only [Bool.or_eq_true, Bool.not_eq_true', List.isEmpty_iff, not_or,
      Bool.not_eq_false] at nothing
    simp [nothing]

private theorem eligibleActions_perm (reordered : selected.Perm other) :
    target.eligibleActions selected = target.eligibleActions other := by
  have counts : selected.length = other.length := reordered.length_eq
  have empties : selected.isEmpty = other.isEmpty := reordered.isEmpty_eq
  have torrents : selected.any (·.kind = .torrent) = other.any (·.kind = .torrent) :=
    reordered.any_eq
  rw [eligibleActions, eligibleActions, counts, empties, torrents]

private theorem eligibleActions_sublist (target : Target) (selected : List Item) :
    (target.eligibleActions selected).Sublist RowAction.all := by
  unfold eligibleActions
  split_ifs <;> decide

private theorem hasRowActions_eq_false_iff :
    target.hasRowActions = false ↔ ∃ subscribed, target = .filteredListing subscribed := by
  cases target <;> simp [hasRowActions]

private theorem isOwned_iff :
    target.isOwned = true ↔ ∃ excludeDeleted, target = .ownedListing excludeDeleted := by
  cases target <;> simp [isOwned]

end Target

namespace Session

variable {s : Session} {rows other : List Nat}

def inRange (s : Session) (rows : List Nat) : List Nat := rows.filter (· < s.rows.size)

/-- What is offered for listed rows where anything is: to use the row if it is a single one, to take
rows out of the caller's own listing, and to put rows into it from elsewhere if there is a torrent
among them. -/
structure Offers (s : Session) (rows : List Nat) (offered : List RowAction) : Prop where
  download : .download ∈ offered ↔ (s.inRange rows).length = 1
  play : .play ∈ offered ↔ (s.inRange rows).length = 1
  remove : .removeFromOwnedListing ∈ offered ↔
    ∃ excludeDeleted, s.target = .ownedListing excludeDeleted
  add : .addToOwnedListing ∈ offered ↔
    (¬ ∃ excludeDeleted, s.target = .ownedListing excludeDeleted) ∧
      ∃ row ∈ rows, ∃ item, s.rows.get? row = some item ∧
        item.get? "type" = some (.text "torrent")

private theorem selection_inRange (s : Session) (rows : List Nat) :
    s.selection (s.inRange rows) = s.selection rows := by
  rw [selection, inRange, List.filterMap_filter]
  apply List.filterMap_congr
  intro row _
  by_cases there : row < s.rows.size
  · simp [there]
  · simp [there, Rows.get?_eq_none_iff.mpr (Nat.not_lt.mp there)]

private theorem length_selection (s : Session) (rows : List Nat) :
    (s.selection rows).length = (s.inRange rows).length := by
  rw [selection, List.length_filterMap_eq_countP, inRange, ← List.countP_eq_length_filter]
  congr 1
  funext row
  rw [Bool.eq_iff_iff, Option.isSome_iff_ne_none, ne_eq, Rows.get?_eq_none_iff, Nat.not_le,
    decide_eq_true_iff]

private theorem selection_eq_nil_iff : s.selection rows = [] ↔ ∀ row ∈ rows, s.rows.size ≤ row := by
  simp only [selection, List.filterMap_eq_nil_iff, Rows.get?_eq_none_iff]

private theorem torrent_selected_iff :
    (∃ item ∈ s.selection rows, item.kind = .torrent) ↔
      ∃ row ∈ rows, ∃ item, s.rows.get? row = some item ∧
        item.get? "type" = some (.text "torrent") := by
  simp only [selection, List.mem_filterMap, Item.kind_eq_torrent_iff]
  constructor
  · rintro ⟨item, ⟨row, listed, found⟩, torrent⟩
    exact ⟨row, listed, item, found, torrent⟩
  · rintro ⟨row, listed, item, found, torrent⟩
    exact ⟨item, ⟨row, listed, found⟩, torrent⟩

private theorem eligibleActions_of_perm_inRange
    (reordered : (s.inRange rows).Perm (s.inRange other)) :
    s.eligibleActions rows = s.eligibleActions other := by
  have selected : (s.selection rows).Perm (s.selection other) := by
    rw [← s.selection_inRange rows, ← s.selection_inRange other]
    exact reordered.filterMap _
  exact Target.eligibleActions_perm selected

private theorem inRange_insert (front back : List Nat) {row : Nat} (beyond : s.rows.size ≤ row) :
    s.inRange (front ++ row :: back) = s.inRange (front ++ back) := by
  simp [inRange, beyond]

private theorem offers_eligibleActions (offering : s.target.hasRowActions = true)
    (listed : s.selection rows ≠ []) : s.Offers rows (s.eligibleActions rows) := by
  have offered (action : RowAction) : action ∈ s.eligibleActions rows ↔ _ :=
    Target.mem_eligibleActions_iff
  simp only [offering, ne_eq, listed, not_false_eq_true, true_and] at offered
  refine ⟨?_, ?_, ?_, ?_⟩
  · simp [offered, length_selection]
  · simp [offered, length_selection]
  · simp [offered, Target.isOwned_iff]
  · rw [offered, ← torrent_selected_iff, ← Target.isOwned_iff]
    simp

/-- What can be done depends on the rows that are selected, not on how they are listed: neither the
order of the numbers nor those without a row make a difference. Nothing can be done with channels
or with no rows; what is offered otherwise is said by `Offers`. The order in which actions are
offered is fixed, no action is offered twice, and rows are never both put into the caller's own
listing and taken out of it. -/
theorem actions_depend_on_selected_rows (s : Session) (rows : List Nat) :
    (∀ other, rows.Perm other → s.eligibleActions other = s.eligibleActions rows) ∧
    (∀ front back row, rows = front ++ back → s.rows.size ≤ row →
      s.eligibleActions (front ++ row :: back) = s.eligibleActions rows) ∧
    (∀ subscribed, s.target = .filteredListing subscribed → s.eligibleActions rows = []) ∧
    ((∀ row ∈ rows, s.rows.size ≤ row) → s.eligibleActions rows = []) ∧
    ((∀ subscribed, s.target ≠ .filteredListing subscribed) →
      (∃ row ∈ rows, row < s.rows.size) → s.Offers rows (s.eligibleActions rows)) ∧
    (s.eligibleActions rows).Sublist
      [.download, .play, .addToOwnedListing, .removeFromOwnedListing] ∧
    (s.eligibleActions rows).Nodup ∧
    ¬ (.addToOwnedListing ∈ s.eligibleActions rows ∧
      .removeFromOwnedListing ∈ s.eligibleActions rows) := by
  have ordered := s.target.eligibleActions_sublist (s.selection rows)
  refine ⟨?_, ?_, ?_, ?_, ?_, ordered, ordered.nodup (by decide), ?_⟩
  · intro other reordered
    exact (eligibleActions_of_perm_inRange (reordered.filter _)).symm
  · rintro front back row rfl beyond
    apply eligibleActions_of_perm_inRange
    rw [inRange_insert front back beyond]
  · rintro subscribed listing
    simp [eligibleActions, Target.eligibleActions, listing, Target.hasRowActions]
  · intro beyond
    have none : s.selection rows = [] := selection_eq_nil_iff.mpr beyond
    simp [eligibleActions, Target.eligibleActions, none]
  · rintro other ⟨row, member, there⟩
    apply offers_eligibleActions
    · rw [← Bool.not_eq_false, Target.hasRowActions_eq_false_iff]
      rintro ⟨subscribed, listing⟩
      exact other subscribed listing
    · intro none
      exact Nat.not_le.mpr there (selection_eq_nil_iff.mp none row member)
  · rintro ⟨added, removed⟩
    have own : s.target.isOwned = true := by
      simpa using (Target.mem_eligibleActions_iff.mp removed).2.2
    have foreign := (Target.mem_eligibleActions_iff.mp added).2.2
    simp [own] at foreign

/-- A search has found a channel and a torrent. The torrent is listed once, once with numbers that
have no row, and twice; channels found by a listing are listed as well. -/
theorem actions_depend_on_selected_rows_of_search :
    let v : Json := .object [("results", .array [
      .object [("infohash", .text "a"), ("type", .text "channel")],
      .object [("infohash", .text "b"), ("type", .text "torrent")]])]
    let found (target : Target) := (initial target .default).act ⟨1#128⟩ (.onResponse v .peer)
    let s := found (.search none)
    let t := found (.filteredListing true)
    (s.eligibleActions [1] = [.download, .play, .addToOwnedListing] ∧
      s.eligibleActions ([7] ++ 9 :: [1]) = s.eligibleActions [7, 1] ∧
      s.eligibleActions [1, 7] = s.eligibleActions [7, 1]) ∧
    (s.Offers [1, 1] (s.eligibleActions [1, 1]) ∧
      s.eligibleActions [1, 1] = [.addToOwnedListing]) ∧
    s.eligibleActions [2, 3] = [] ∧ t.eligibleActions [0] = [] := by
  intro v found s t
  have size : s.rows.size = 2 := by decide +kernel
  refine ⟨⟨by decide +kernel, ?_, ?_⟩, ⟨?_, by decide +kernel⟩, ?_, ?_⟩
  · exact (actions_depend_on_selected_rows s [7, 1]).2.1 [7] [1] 9 rfl (by simp [size])
  · exact (actions_depend_on_selected_rows s [7, 1]).1 [1, 7] (.swap 1 7 [])
  · refine (actions_depend_on_selected_rows s [1, 1]).2.2.2.2.1 ?_ ⟨1, by simp, by simp [size]⟩
    rintro subscribed ⟨⟩
  · exact (actions_depend_on_selected_rows s [2, 3]).2.2.2.1 (by simp [size])
  · exact (actions_depend_on_selected_rows t [0]).2.2.1 true rfl

end Session

end LiveTable
