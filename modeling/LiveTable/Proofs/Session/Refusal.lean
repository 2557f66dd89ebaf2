import LiveTable.Proofs.Session.Step
set_option autoImplicit false

/-!
# Refused calls

A call that comes back with a failure has changed nothing: every check is made before the first
change. `Fails` holds of the calls that come back with a failure, and `Refuses` says why they do,
without a look at the operations. Main statements: `fails_iff_refuses`, and
`failing_calls_change_nothing`, by which moreover five of the calls cannot fail.
-/

namespace LiveTable

namespace Session

/-- The owner's calls that come back with a failure. What is wrong with a message in the inbox is no
failure of the call that handles it. -/
inductive Fails (s : Session) (fresh : Epoch) : Action → Failure → Prop
  | resetAndQuery {window : Option Window} {failure : Failure}
      (failed : (s.resetAndQuery fresh window).2 = .error failure) :
      Fails s fresh (.resetAndQuery window) failure
  | refresh {failure : Failure} (failed : (s.refresh fresh).2 = .error failure) :
      Fails s fresh .refresh failure
  | setSort {sort : SortOrder} {failure : Failure}
      (failed : (s.setSort fresh sort).2 = .error failure) : Fails s fresh (.setSort sort) failure
  | setFilterText {text : String} {failure : Failure}
      (failed : (s.setFilterText fresh text).2 = .error failure) :
      Fails s fresh (.setFilterText text) failure
  | fetchPreview {failure : Failure} (failed : (s.fetchPreview fresh).2 = .error failure) :
      Fails s fresh .fetchPreview failure
  | dispatch {extra : Fields} {failure : Failure}
      (failed : (s.query fresh extra).2 = .error failure) :
      Fails s fresh (.dispatch extra) failure
  | continueQuery {failure : Failure} (failed : (s.continueQuery fresh).2 = .error failure) :
      Fails s fresh .continueQuery failure
  | scroll {atBottom : Bool} {failure : Failure}
      (failed : (s.scroll fresh atBottom).2 = .error failure) :
      Fails s fresh (.scroll atBottom) failure
  | patchField {identity column : String} {value : Json} {failure : Failure}
      (failed : (s.patchField identity column value).2 = .error failure) :
      Fails s fresh (.patchField identity column value) failure
  | onResponse {v : Json} {origin : Origin} {failure : Failure}
      (failed : (s.onResponse v origin).2 = .error failure) :
      Fails s fresh (.onResponse v origin) failure
  | onEditResponse {v : Json} {failure : Failure}
      (failed : (s.onEditResponse v).2 = .error failure) : Fails s fresh (.onEditResponse v) failure

/-- Why calls are refused. -/
inductive Refuses (s : Session) : Action → Failure → Prop
  /-- The window counts from zero or has no width. -/
  | window {w : Window} (ill : ¬ w.WellFormed) :
      Refuses s (.resetAndQuery (some w)) (.internal (.window w.first w.last))
  /-- There are rows, but no row numbers for a page behind them. -/
  | page {action : Action} {w : Window} (scrolled : action = .continueQuery ∨ action = .scroll true)
      (loaded : s.rows.isEmpty = false)
      (next : Window.following s.rows.size s.settings.batchSize = w) (ill : ¬ w.WellFormed) :
      Refuses s action (.internal (.window w.first w.last))
  | preview {failure : Failure} (lacks : s.target.preview = .error failure) :
      Refuses s .fetchPreview failure
  | edit {identity column : String} {value : Json} {failure : Failure}
      (fixed : s.target.editEndpoint identity = .error failure) :
      Refuses s (.patchField identity column value) failure
  /-- The answer is one of the current epoch, but it cannot be read. -/
  | answer {v : Json} {origin : Origin} {failure : Failure}
      (accepted : s.accepts (echo? v) none = true) (unreadable : Answer.read v = .error failure) :
      Refuses s (.onResponse v origin) failure
  /-- The answer lacks what those of the target have to carry. -/
  | lacking {v : Json} {origin : Origin} {answer : Answer} {failure : Failure}
      (accepted : s.accepts (echo? v) none = true) (read : Answer.read v = .ok (some answer))
      (invalid : s.target.validate answer origin = .error failure) :
      Refuses s (.onResponse v origin) failure
  | editAnswer {v : Json} {failure : Failure} (unreadable : EditAnswer.read v = .error failure) :
      Refuses s (.onEditResponse v) failure

variable {s : Session} {fresh : Epoch} {action : Action} {failure : Failure}

theorem checked_eq_error {w : Window} :
    w.checked = .error failure ↔ ¬ w.WellFormed ∧ failure = .internal (.window w.first w.last) := by
  unfold Window.checked
  split
  · simp_all
  · simp_all [eq_comm]

theorem map_some_eq_error {outcome : Except Failure Ticket} :
    outcome.map some = .error failure ↔ outcome = .error failure := by
  cases outcome <;> simp [Except.map]

/-! ## When calls fail -/

private theorem resetAndQuery_eq_error {window : Option Window} :
    (s.resetAndQuery fresh window).2 = .error failure ↔
      s.Refuses (.resetAndQuery window) failure := by
  cases window with
  | none =>
    constructor
    · intro failed
      cases failed
    · intro refused
      cases refused with
      | page scrolled => simp at scrolled
  | some w =>
    have mapped : (some w).mapM Window.checked = w.checked.map some := rfl
    have failing : (s.resetAndQuery fresh (some w)).2 = .error failure ↔
        w.checked = .error failure := by
      unfold resetAndQuery
      rw [mapped]
      cases w.checked <;> simp [Except.map]
    rw [failing, checked_eq_error]
    constructor
    · rintro ⟨ill, rfl⟩
      exact .window ill
    · intro refused
      cases refused with
      | window ill => exact ⟨ill, rfl⟩
      | page scrolled => simp at scrolled

private theorem continueQuery_eq_error
    (scrolled : action = .continueQuery ∨ action = .scroll true) :
    (s.continueQuery fresh).2 = .error failure ↔ s.Refuses action failure := by
  have failing : (s.continueQuery fresh).2 = .error failure ↔ s.rows.isEmpty = false ∧
      (Window.following s.rows.size s.settings.batchSize).checked = .error failure := by
    unfold continueQuery
    cases s.rows.isEmpty with
    | true => simp
    | false =>
      cases (Window.following s.rows.size s.settings.batchSize).checked <;>
        simp [map_some_eq_error]
  rw [failing, checked_eq_error]
  constructor
  · rintro ⟨loaded, ill, rfl⟩
    exact .page scrolled loaded rfl ill
  · intro refused
    cases refused with
    | page _ loaded next ill =>
      subst next
      exact ⟨loaded, ill, rfl⟩
    | _ => simp at scrolled

private theorem fetchPreview_eq_error :
    (s.fetchPreview fresh).2 = .error failure ↔ s.target.preview = .error failure := by
  unfold fetchPreview
  cases s.target.preview <;> simp

private theorem patchField_eq_error {identity column : String} {value : Json} :
    (s.patchField identity column value).2 = .error failure ↔
      s.target.editEndpoint identity = .error failure := by
  unfold patchField
  cases s.target.editEndpoint identity <;> simp

private theorem onEditResponse_eq_error {v : Json} :
    (s.onEditResponse v).2 = .error failure ↔ EditAnswer.read v = .error failure := by
  unfold onEditResponse
  rcases EditAnswer.read v with _ | _ | _ <;> simp

private theorem onResponse_eq_error {v : Json} {origin : Origin} :
    (s.onResponse v origin).2 = .error failure ↔ s.Refuses (.onResponse v origin) failure := by
  constructor
  · intro failed
    unfold onResponse consider at failed
    split at failed
    · rename_i accepted
      split at failed
      · rename_i unreadable
        cases failed
        exact .answer accepted unreadable
      · cases failed
      · rename_i answer read
        split at failed
        · rename_i invalid
          cases failed
          exact .lacking accepted read invalid
        · cases failed
    · cases failed
  · intro refused
    unfold onResponse consider
    rw [← echo?]
    cases refused with
    | page scrolled => simp at scrolled
    | answer accepted unreadable => rw [if_pos accepted, unreadable]
    | lacking accepted read invalid =>
      rw [if_pos accepted, read]
      simp only [invalid]

theorem fails_iff_refuses : s.Fails fresh action failure ↔ s.Refuses action failure := by
  constructor
  · intro fails
    cases fails with
    | resetAndQuery failed => exact resetAndQuery_eq_error.mp failed
    | refresh failed => cases failed
    | setSort failed => cases failed
    | setFilterText failed => cases failed
    | fetchPreview failed => exact .preview (fetchPreview_eq_error.mp failed)
    | dispatch failed => exact absurd failed (s.query_ne_error _ _ _)
    | continueQuery failed => exact (continueQuery_eq_error (.inl rfl)).mp failed
    | @scroll atBottom _ failed =>
      cases atBottom with
      | false => cases failed
      | true => exact (continueQuery_eq_error (.inr rfl)).mp failed
    | patchField failed => exact .edit (patchField_eq_error.mp failed)
    | onResponse failed => exact onResponse_eq_error.mp failed
    | onEditResponse failed => exact .editAnswer (onEditResponse_eq_error.mp failed)
  · intro refused
    cases refused with
    | window ill => exact .resetAndQuery (resetAndQuery_eq_error.mpr (.window ill))
    | page scrolled loaded next ill =>
      have failed : (s.continueQuery fresh).2 = .error _ :=
        (continueQuery_eq_error scrolled).mpr (.page scrolled loaded next ill)
      rcases scrolled with rfl | rfl
      · exact .continueQuery failed
      · exact .scroll failed
    | preview lacks => exact .fetchPreview (fetchPreview_eq_error.mpr lacks)
    | edit fixed => exact .patchField (patchField_eq_error.mpr fixed)
    | answer accepted unreadable =>
      exact .onResponse (onResponse_eq_error.mpr (.answer accepted unreadable))
    | lacking accepted read invalid =>
      exact .onResponse (onResponse_eq_error.mpr (.lacking accepted read invalid))
    | editAnswer unreadable => exact .onEditResponse (onEditResponse_eq_error.mpr unreadable)

/-! ## What they leave behind -/

private theorem continueQuery_of_error (failed : (s.continueQuery fresh).2 = .error failure) :
    (s.continueQuery fresh).1 = s := by
  rcases s.continueQuery_cases fresh with
    (same | ⟨_, same⟩) | ⟨_, _, -, -, -, same⟩
  · rw [same]
  · rw [same]
  · rw [same] at failed
    cases failed

private theorem onResponse_of_error {v : Json} {origin : Origin}
    (failed : (s.onResponse v origin).2 = .error failure) : (s.onResponse v origin).1 = s := by
  unfold onResponse at failed ⊢
  rcases s.consider_cases v origin none with
    (same | ⟨_, same⟩) | ⟨_, -, -, -, same⟩
  · rw [same]
  · rw [same]
  · rw [same] at failed
    cases failed

theorem Fails.act_eq (fails : s.Fails fresh action failure) : s.act fresh action = s := by
  cases fails with
  | resetAndQuery failed =>
    simp only [act]
    unfold Session.resetAndQuery at failed ⊢
    split at failed
    · rfl
    · cases failed
  | refresh failed => cases failed
  | setSort failed => cases failed
  | setFilterText failed => cases failed
  | fetchPreview failed =>
    rw [fetchPreview_eq_error] at failed
    simp only [act, Session.fetchPreview, failed]
  | dispatch failed => exact absurd failed (s.query_ne_error _ _ _)
  | continueQuery failed => exact continueQuery_of_error failed
  | @scroll atBottom _ failed =>
    cases atBottom with
    | false => rfl
    | true => exact continueQuery_of_error failed
  | patchField failed =>
    rw [patchField_eq_error] at failed
    simp only [act, Session.patchField, failed]
  | onResponse failed => exact onResponse_of_error failed
  | onEditResponse failed =>
    rw [onEditResponse_eq_error] at failed
    simp only [act, Session.onEditResponse, failed]

def Grants (s : Session) (result : Session × Except Failure Ticket) : Prop :=
  ∃ next ticket, result = (next, .ok ticket) ∧ next.wire = s.wire.push ticket.request

private theorem grants_sendQuery (s : Session) (fresh : Epoch) (endpoint filter : String)
    (extra : Fields) : s.Grants (s.sendQuery fresh endpoint filter extra) := by
  rw [sendQuery, Query.encode_eq_ok]
  exact ⟨_, _, rfl, rfl⟩

private theorem grants_query (s : Session) (fresh : Epoch) (extra : Fields) :
    s.Grants (s.query fresh extra) := s.grants_sendQuery fresh _ _ _

private theorem grants_resetAndQuery (s : Session) (fresh : Epoch) :
    s.Grants (s.resetAndQuery fresh none) := (s.startEpoch fresh none).grants_query fresh []

/-- Calls come back with failures for the stated reasons only, and then leave everything as it was:
the table, what queries are made of, the inbox, the log and the wire. Sorting, filtering,
refreshing, starting at the first page and dispatching never fail, whatever they are given. -/
theorem failing_calls_change_nothing (s : Session) (fresh : Epoch) :
    (∀ action failure, (s.Fails fresh action failure ↔ s.Refuses action failure) ∧
      (s.Fails fresh action failure → s.act fresh action = s)) ∧
    (∀ sort, s.Grants (s.setSort fresh sort)) ∧
    (∀ text, s.Grants (s.setFilterText fresh text)) ∧
    s.Grants (s.refresh fresh) ∧
    s.Grants (s.resetAndQuery fresh none) ∧
    ∀ extra, s.Grants (s.query fresh extra) ∧
      s.query fresh extra = (s.dispatch fresh extra).map id .ok := by
  refine ⟨?_, ?_, ?_, s.grants_resetAndQuery fresh, s.grants_resetAndQuery fresh,
    fun extra => ⟨s.grants_query fresh extra, rfl⟩⟩
  · intro action failure
    exact ⟨fails_iff_refuses, Fails.act_eq⟩
  · exact fun sort => grants_resetAndQuery { s with sort := sort } fresh
  · exact fun text => grants_resetAndQuery { s with filterText := s.target.boundFilter text } fresh

theorem failing_calls_change_nothing_in_bad_batch :
    let row (hash : String) : Json := .object [("infohash", .text hash)]
    let batch (rows : List Json) : Json := .object [("results", .array rows)]
    let bad : Json := batch [row "a", row "b", row "c", .object [("name", .text "d")]]
    let s := ((initial (.search none) .default).act ⟨1#128⟩ .refresh).act ⟨2#128⟩
      (.onResponse (batch [row "a"]) .backend)
    s.rows.size = 1 ∧ (s.onResponse bad .backend).2 = .error (.malformed .itemWithoutIdentity) ∧
      s.act ⟨3#128⟩ (.onResponse bad .backend) = s := by
  intro row batch bad s
  have failed : (s.onResponse bad .backend).2 = .error (.malformed .itemWithoutIdentity) := rfl
  have unchanged := ((failing_calls_change_nothing s ⟨3#128⟩).1 _ _).2 (.onResponse failed)
  exact ⟨by decide +kernel, failed, unchanged⟩

end Session

end LiveTable
