import LiveTable.Proofs.Rows.Redelivery
import LiveTable.Proofs.Session.Admission
set_option autoImplicit false

/-!
# Answers that come twice

Where one copy of each row is kept, an answer that is admitted can be handed over again at once: it
is admitted again, and nothing but the log is another after that. Rows of a session come of merges,
edits and clearings, by `Reachable.grown`, so that what holds of rows after any history holds of
them. Main statement: `redelivery_changes_nothing`.
-/

namespace LiveTable

namespace Session

variable {s t next : Session}

/-! ## The history of a table -/

def Grown (s : Session) : Prop := ∃ history, s.rows = Rows.empty.changes history

namespace Grown

private theorem of_rows (grown : s.Grown) (rows : t.rows = s.rows) : t.Grown := by
  obtain ⟨history, same⟩ := grown
  exact ⟨history, rows.trans same⟩

private theorem of_empty (cleared : s.rows = .empty) : s.Grown := ⟨[], cleared⟩

private theorem of_change (grown : s.Grown) (change : Rows.Change)
    (rows : t.rows = s.rows.change change) :
    t.Grown := by
  obtain ⟨history, same⟩ := grown
  refine ⟨history ++ [change], ?_⟩
  rw [rows, same, Rows.changes, Rows.changes, List.foldl_append]
  rfl

private theorem absorb (grown : s.Grown) (answer : Answer) (origin : Origin) :
    (s.absorb answer origin).Grown :=
  grown.of_change (.merge s.settings.duplicatePolicy answer.results) (s.rows_absorb answer origin)

private theorem of_handling {message : Message} (grown : s.Grown)
    (handling : Handling s message next) :
    next.Grown := by
  cases handling with
  | ignored => exact grown
  | absorbed => exact grown.absorb _ _
  | dirtied => exact grown.of_rows rfl
  | failed => exact grown.of_rows rfl

theorem step {fresh : Epoch} {action : Action} (grown : s.Grown) (step : Step s fresh action next) :
    next.Grown := by
  cases step with
  | idle => exact grown
  | listing => exact of_empty rfl
  | preview => exact of_empty rfl
  | dispatch => exact grown.of_rows rfl
  | turn => exact grown.of_rows rfl
  | @edit identity column value =>
    exact grown.of_change (.edit identity (attributeOf column) value) rfl
  | respond => exact grown.absorb _ _
  | respondEdit => exact grown.of_rows rfl
  | select => exact grown.of_rows rfl
  | answer => exact grown.of_rows rfl
  | push => exact grown.of_rows rfl
  | @process _ messages rest =>
    have emptied : { s with inbox := rest }.Grown := grown.of_rows rfl
    exact handleAll_keeps (fun s message _ grown => grown.of_handling (s.handling message)) emptied

end Grown

theorem Reachable.grown (reachable : Reachable s) : s.Grown := by
  induction reachable with
  | opened opening =>
    rw [begin_eq_opened opening]
    exact .of_empty rfl
  | @act s fresh action _ ih => exact ih.step (s.step fresh action)

private theorem Reachable.numbered (reachable : Reachable s) : s.rows.Numbered := by
  obtain ⟨history, same⟩ := reachable.grown
  rw [same]
  exact Rows.numbered_empty.changes history

/-! ## Handing over again -/

variable {v : Json} {answer : Answer} {origin : Origin}

private theorem exists_answer_of_admitted (admitted : (s.onResponse v origin).2 = .ok true) :
    ∃ answer, ∀ t, s.SameQueries t →
      t.onResponse v origin = (t.absorb answer origin, .ok true) := by
  unfold onResponse at admitted
  rcases s.consider_cases v origin none with
    (same | ⟨failure, same⟩) | ⟨answer, accepted, read, valid, -⟩
  · rw [same] at admitted
    cases admitted
  · rw [same] at admitted
    cases admitted
  · refine ⟨answer, fun t same => ?_⟩
    have accepted' : t.accepts (echo? v) none = true := by
      rw [accepts, same.epoch?]
      exact accepted
    have valid' : t.target.validate answer origin = .ok () := by rw [same.target, valid]
    rw [echo?] at accepted'
    simp only [onResponse, consider, accepted', read, valid', if_true]

private theorem rows_absorb_twice (numbered : s.rows.Numbered)
    (unique : s.settings.duplicatePolicy ≠ .append) (answer : Answer) (origin : Origin) :
    ((s.absorb answer origin).absorb answer origin).rows = (s.absorb answer origin).rows := by
  have settings := (s.sameQueries_absorb answer origin).settings
  rw [rows_absorb, rows_absorb, settings]
  cases policy : s.settings.duplicatePolicy with
  | append => exact absurd policy unique
  | dropIncoming => rw [Rows.merge_again_dropIncoming]
  | replaceExisting => rw [numbered.merge_again_replaceExisting]

/-- Where one copy of each key is kept, merging a batch a second time right after the first changes
neither the rows nor the index, whatever was merged, edited and cleared before, and drops or
replaces all of it. Accordingly an answer that a session admits is admitted again, and changes
neither the rows and their index, nor the count of the backend, nor what is known of unpublished
changes, nor anything that queries are made of. -/
theorem redelivery_changes_nothing :
    (∀ (history : List Rows.Change) (batch : List Item),
      let rows := Rows.empty.changes history
      let dropping := (rows.merge .dropIncoming batch).1
      let replacing := (rows.merge .replaceExisting batch).1
      dropping.merge .dropIncoming batch = (dropping, ⟨0, batch.length, 0⟩) ∧
        replacing.merge .replaceExisting batch = (replacing, ⟨0, 0, batch.length⟩)) ∧
    ∀ s : Session, Reachable s → s.settings.duplicatePolicy ≠ .append →
      ∀ (v : Json) (origin : Origin), (s.onResponse v origin).2 = .ok true →
        let once := (s.onResponse v origin).1
        let twice := (once.onResponse v origin).1
        (once.onResponse v origin).2 = .ok true ∧ twice.rows = once.rows ∧
          twice.total = once.total ∧ twice.editSession = once.editSession ∧
          once.SameQueries twice := by
  constructor
  · intro history batch rows dropping replacing
    have numbered : rows.Numbered := Rows.numbered_empty.changes history
    exact ⟨rows.merge_again_dropIncoming batch, numbered.merge_again_replaceExisting batch⟩
  · intro s reachable unique v origin admitted once twice
    obtain ⟨answer, admits⟩ := exists_answer_of_admitted admitted
    have first : once = s.absorb answer origin := congrArg Prod.fst (admits s (.refl s))
    have again : once.onResponse v origin = (once.absorb answer origin, .ok true) := by
      rw [first]
      exact admits _ (s.sameQueries_absorb answer origin)
    have second : twice = once.absorb answer origin := congrArg Prod.fst again
    have before := s.admitted_absorb answer origin
    have after := once.admitted_absorb answer origin
    rw [← first] at before
    rw [← second] at after
    refine ⟨congrArg Prod.snd again, ?_, ?_, ?_, after.toSameQueries⟩
    · rw [second, first]
      exact rows_absorb_twice reachable.numbered unique answer origin
    · rw [after.total, before.total]
      cases origin <;> cases answer.total <;> rfl
    · rw [after.editSession, before.editSession, before.target]
      cases s.target.isOwned <;> cases answer.dirty <;> rfl

/-- A row has got another hash by an edit. Two items that replace it come in one answer, together
with a new one, and the answer comes twice. -/
theorem redelivery_changes_nothing_after_edit :
    let row (hash name : String) : Json :=
      .object [("infohash", .text hash), ("name", .text name)]
    let batch (rows : List Json) : Json :=
      .object [("dirty", .bool true), ("results", .array rows), ("total", .number (.int 9))]
    let first := initial (.ownedListing true) ⟨50, .replaceExisting, true, 256, .default⟩
    let s := first.run [(⟨1#128⟩, .refresh),
      (⟨2#128⟩, .onResponse (batch [row "a" "one", row "b" "two"]) .backend),
      (⟨3#128⟩, .patchField "a" "infohash" (.text "z"))]
    let v := batch [row "a" "x", row "c" "three", row "a" "y"]
    let once := (s.onResponse v .backend).1
    let twice := (once.onResponse v .backend).1
    s.rows.items.toList.map Item.identity? = [some "z", some "b"] ∧
    (s.onResponse v .backend).2 = .ok true ∧
    once.rows.items.toList.map (Item.text? · "name") = [some "y", some "two", some "three"] ∧
    (once.onResponse v .backend).2 = .ok true ∧ twice.rows = once.rows ∧
    once.total = some 9 ∧ twice.total = once.total ∧ twice.log.size = once.log.size + 3 := by
  intro row batch first s v once twice
  have opening : begin (.ownedListing true) ⟨50, .replaceExisting, true, 256, .default⟩ =
      .opened first :=
    begin_of_room _ rfl (by decide +kernel)
  have opened : Reachable first := .opened opening
  have admitted : (s.onResponse v .backend).2 = .ok true := by decide +kernel
  obtain ⟨again, rows, total, -, -⟩ := redelivery_changes_nothing.2 s (opened.run _)
    (by decide +kernel) v .backend admitted
  exact ⟨by decide +kernel, admitted, by decide +kernel, again, rows, by decide +kernel, total,
    by decide +kernel⟩

end Session

end LiveTable
