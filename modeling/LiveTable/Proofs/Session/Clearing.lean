import LiveTable.Proofs.Session.Question
set_option autoImplicit false

/-!
# Changes of epoch

An epoch that is started begins with nothing shown. The first query of a table may also be sent
without starting an epoch; it then belongs to a first epoch, and what answers have put into the
table before stays. There is no third way, by `epoch_change_cases`. Main statement: a change of
epoch leaves nothing shown exactly if it is not such a first query over rows or a row count.
-/

namespace LiveTable

namespace Session

structure Blank (s : Session) : Prop where
  rows : s.rows.isEmpty = true
  total : s.total = none

/-- The first query is sent without starting an epoch, though something is shown. -/
structure Inherits (s : Session) (fresh : Epoch) (action : Action) : Prop where
  first : s.epoch? = none
  pages : s.Pages fresh action
  shown : ¬ s.Blank

variable {s : Session} {fresh : Epoch} {action : Action}

private theorem epoch?_queryListing (s : Session) (fresh : Epoch) (window : Window)
    (extra : Fields) :
    (s.queryListing fresh window extra).epoch? = some (s.epoch?.getD fresh) := by
  rw [epoch?, epochs_queryListing]
  rfl

private theorem Pages.of_first (pages : s.Pages fresh action) (first : s.epoch? = none) :
    (s.act fresh action).epoch? = some fresh ∧ (s.act fresh action).rows = s.rows ∧
      (s.act fresh action).total = s.total := by
  obtain ⟨window, extra, same, -⟩ := pages.act_eq_queryListing
  rw [same]
  refine ⟨?_, rfl, rfl⟩
  rw [epoch?_queryListing, first]
  rfl

theorem epoch_change_cases (s : Session) (fresh : Epoch) (action : Action) :
    (s.act fresh action).epoch? = s.epoch? ∨
    s.Starts fresh action ∧ (s.act fresh action).Blank ∨
    s.epoch? = none ∧ s.Pages fresh action := by
  have queried (window : Window) (extra : Fields) :
      (s.queryListing fresh window extra).epoch? = s.epoch? ∨ s.epoch? = none := by
    rw [epoch?_queryListing]
    cases s.epoch? <;> simp
  have step := s.step fresh action
  generalize s.act fresh action = next at step ⊢
  cases step with
  | listing demand wellFormed =>
    exact .inr (.inl ⟨.of_demand demand wellFormed, rfl, rfl⟩)
  | preview has => exact .inr (.inl ⟨.of_preview has, rfl, rfl⟩)
  | @dispatch extra =>
    rcases queried s.window extra with same | first
    · exact .inl same
    · exact .inr (.inr ⟨first, .dispatch⟩)
  | @turn _ window _ scrolled _ _ _ done =>
    have pages : s.Pages fresh action := by
      rcases scrolled with rfl | rfl
      · exact .continueQuery done
      · exact .scroll done
    rcases queried window [] with same | first
    · exact .inl same
    · exact .inr (.inr ⟨first, pages⟩)
  | respond => exact .inl (s.sameQueries_absorb _ _).epoch?
  | @process _ messages rest =>
    have same := sameQueries_handleAll { s with inbox := rest } messages
    exact .inl same.epoch?
  | _ => exact .inl rfl

/-- A change of epoch leaves nothing shown, unless it comes of a first query that is sent without
starting an epoch while rows or a row count are shown. -/
theorem change_of_epoch_clears_iff (s : Session) (fresh : Epoch) (action : Action) :
    ((s.act fresh action).epoch? ≠ s.epoch? → (s.act fresh action).Blank) ↔
      ¬ s.Inherits fresh action := by
  constructor
  · intro clears inherits
    obtain ⟨newest, rows, total⟩ := inherits.pages.of_first inherits.first
    have changed : (s.act fresh action).epoch? ≠ s.epoch? := by
      rw [newest, inherits.first]
      exact Option.some_ne_none fresh
    have blank := clears changed
    exact inherits.shown ⟨rows ▸ blank.rows, total ▸ blank.total⟩
  · intro kept changed
    rcases s.epoch_change_cases fresh action with same | ⟨-, blank⟩ | ⟨first, pages⟩
    · exact absurd same changed
    · exact blank
    · obtain ⟨-, rows, total⟩ := pages.of_first first
      have blank : s.Blank := by
        by_contra shown
        exact kept ⟨first, pages, shown⟩
      exact ⟨rows ▸ blank.rows, total ▸ blank.total⟩

/-- An answer comes before there has been a query, and the first query leaves its rows in place. -/
theorem first_query_inherits : ¬ ∀ (s : Session) (fresh : Epoch) (action : Action), Reachable s →
    (s.act fresh action).epoch? ≠ s.epoch? → (s.act fresh action).Blank := by
  intro clears
  let v : Json := .object [("results", .array [.object [("infohash", .text "a")]]),
    ("total", .number (.int 1))]
  let s := (initial (.search none) .default).act ⟨1#128⟩ (.onResponse v .backend)
  have opened : Reachable (initial (.search none) .default) :=
    .opened (begin_default _)
  have changed : (s.act ⟨2#128⟩ (.dispatch [])).epoch? ≠ s.epoch? := by decide +kernel
  have blank := clears s ⟨2#128⟩ (.dispatch []) (opened.act _ _) changed
  have shown : (s.act ⟨2#128⟩ (.dispatch [])).rows.isEmpty = false := by decide +kernel
  rw [blank.rows] at shown
  cases shown

end Session

end LiveTable
