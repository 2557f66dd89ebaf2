import LiveTable.Proofs.Session.Handling
set_option autoImplicit false

/-!
# Steps

What an action does to a session, said once for all invariants: `Step` has a case for each way in
which an action can go, and `step` says that there are no others. `Starts` holds of the actions by
which the owner starts an epoch without being refused.
-/

namespace LiveTable

namespace Session

/-- What an action that asks for a new epoch of the table's own listing asks for: the sort order,
the filter text and the window. -/
def demand? (s : Session) : Action → Option (SortOrder × String × Option Window)
  | .resetAndQuery window => some (s.sort, s.filterText, window)
  | .refresh => some (s.sort, s.filterText, none)
  | .setSort sort => some (sort, s.filterText, none)
  | .setFilterText text => some (s.sort, s.target.boundFilter text, none)
  | _ => none

def startListing (s : Session) (fresh : Epoch) (sort : SortOrder) (text : String)
    (window : Option Window) : Session :=
  (({ s with sort := sort, filterText := text }.startEpoch fresh window).query fresh []).1

def startPreview (s : Session) (fresh : Epoch) (preview : Target.Preview) : Session :=
  ((s.startEpoch fresh none).sendQuery fresh preview.endpoint (Filter.compile preview.filterSource)
    preview.extra).1

def queryListing (s : Session) (fresh : Epoch) (window : Window) (extra : Fields) : Session :=
  ({ s with window := window }.query fresh extra).1

@[simp] theorem pending_startListing (s : Session) (fresh : Epoch) (sort : SortOrder)
    (text : String) (window : Option Window) :
    (s.startListing fresh sort text window).pending =
      s.pending ++ [⟨s.wire.size, .page fresh⟩] := rfl

@[simp] theorem pending_startPreview (s : Session) (fresh : Epoch) (preview : Target.Preview) :
    (s.startPreview fresh preview).pending = s.pending ++ [⟨s.wire.size, .page fresh⟩] := rfl

theorem epochs_queryListing (s : Session) (fresh : Epoch) (window : Window) (extra : Fields) :
    (s.queryListing fresh window extra).epochs = s.epoch?.getD fresh :: s.epochs.tail := by
  cases epochs : s.epochs <;>
    simp [queryListing, query, sendQuery, perform, epoch?, epochs]

theorem epochs_queryListing_current (s : Session) (fresh : Epoch) (window : Window)
    (extra : Fields) {epoch : Epoch} (newest : s.epoch? = some epoch) :
    (s.queryListing fresh window extra).epochs = s.epochs := by
  obtain ⟨older, listed⟩ := List.head?_eq_some_iff.mp newest
  rw [epochs_queryListing, newest, listed]
  rfl

@[simp] theorem pending_queryListing (s : Session) (fresh : Epoch) (window : Window)
    (extra : Fields) :
    (s.queryListing fresh window extra).pending =
      s.pending ++ [⟨s.wire.size, .page (s.epoch?.getD fresh)⟩] := rfl

/-- The ways in which an action can go. -/
inductive Step (s : Session) (fresh : Epoch) : Action → Session → Prop
  /-- The action is refused, or there is nothing to do. -/
  | idle {action : Action} : Step s fresh action s
  | listing {action : Action} {sort : SortOrder} {text : String} {window : Option Window}
      (demand : s.demand? action = some (sort, text, window))
      (wellFormed : ∀ w, window = some w → w.WellFormed) :
      Step s fresh action (s.startListing fresh sort text window)
  | preview {preview : Target.Preview} (has : s.target.preview = .ok preview) :
      Step s fresh .fetchPreview (s.startPreview fresh preview)
  | dispatch {extra : Fields} :
      Step s fresh (.dispatch extra) (s.queryListing fresh s.window extra)
  /-- A page is turned. -/
  | turn {action : Action} {window : Window} {ticket : Ticket}
      (scrolled : action = .continueQuery ∨ action = .scroll true)
      (loaded : s.rows.isEmpty = false)
      (next : Window.following s.rows.size s.settings.batchSize = window)
      (wellFormed : window.WellFormed) (done : (s.continueQuery fresh).2 = .ok (some ticket)) :
      Step s fresh action (s.queryListing fresh window [])
  | edit {identity column : String} {value : Json} {endpoint : String}
      (editable : s.target.editEndpoint identity = .ok endpoint) :
      Step s fresh (.patchField identity column value)
        ({ s with rows := (s.rows.edit identity (attributeOf column) value).1 }.perform
          (.edit endpoint (attributeOf column) value) (.edit identity))
  /-- The owner hands over an answer to a query, and it is merged. -/
  | respond {v : Json} {origin : Origin} {answer : Answer}
      (accepted : s.accepts (echo? v) none = true) (read : Answer.read v = .ok (some answer))
      (valid : s.target.validate answer origin = .ok ()) :
      Step s fresh (.onResponse v origin) (s.absorb answer origin)
  /-- The owner hands over the answer to an edit. -/
  | respondEdit {v : Json} {answer : EditAnswer} (read : EditAnswer.read v = .ok (some answer)) :
      Step s fresh (.onEditResponse v) (s.setDirty answer.dirty)
  | select {rows : List Nat} {item : Option Item} :
      Step s fresh (.selectRows rows) (s.emit (.selectionChanged item))
  | answer {number : Nat} {outcome : Except String Json} {request : OpenRequest}
      (found : s.pending.find? (·.number = number) = some request) :
      Step s fresh (.answer number outcome)
        ({ s with pending := s.pending.filter (·.number ≠ number) }.post
          (OpenRequest.message request outcome))
  | push {v : Json} : Step s fresh (.push v) (s.push v)
  /-- Messages that wait are handled, the oldest first. -/
  | process {action : Action} {messages rest : List Message}
      (processing : action = .processNext ∨ action = .processPending)
      (waiting : s.inbox = messages ++ rest) :
      Step s fresh action ({ s with inbox := rest }.handleAll messages)

theorem checked_eq_ok {w passed : Window} : w.checked = .ok passed ↔ w = passed ∧ w.WellFormed := by
  unfold Window.checked
  split <;> simp_all

theorem mapM_checked_eq_ok {window passed : Option Window}
    (checked : window.mapM Window.checked = .ok passed) :
    window = passed ∧ ∀ w, window = some w → w.WellFormed := by
  cases window with
  | none =>
    cases checked
    exact ⟨rfl, by simp⟩
  | some w =>
    have mapped : (some w).mapM Window.checked = w.checked.map some := rfl
    rw [mapped] at checked
    cases alone : w.checked with
    | error failure =>
      rw [alone] at checked
      cases checked
    | ok other =>
      rw [alone] at checked
      cases checked
      obtain ⟨rfl, wellFormed⟩ := checked_eq_ok.mp alone
      exact ⟨rfl, fun _ same => Option.some.inj same ▸ wellFormed⟩

theorem mapM_checked_of_wellFormed {window : Option Window}
    (wellFormed : ∀ w, window = some w → w.WellFormed) :
    window.mapM Window.checked = .ok window := by
  cases window with
  | none => rfl
  | some w =>
    have alone : w.checked = .ok w := checked_eq_ok.mpr ⟨rfl, wellFormed w rfl⟩
    show w.checked.map some = .ok (some w)
    rw [alone]
    rfl

theorem continueQuery_cases (s : Session) (fresh : Epoch) :
    (s.continueQuery fresh = (s, .ok none) ∨
      ∃ failure, s.continueQuery fresh = (s, .error failure)) ∨
    ∃ window ticket, s.rows.isEmpty = false ∧
      Window.following s.rows.size s.settings.batchSize = window ∧ window.WellFormed ∧
      s.continueQuery fresh = (s.queryListing fresh window [], .ok (some ticket)) := by
  unfold continueQuery
  split
  · exact .inl (.inl rfl)
  · rename_i loaded
    split
    · exact .inl (.inr ⟨_, rfl⟩)
    · rename_i window checked
      obtain ⟨next, wellFormed⟩ := checked_eq_ok.mp checked
      exact .inr ⟨window, _, by simpa using loaded, next, next ▸ wellFormed, rfl⟩

theorem continueQuery_eq_some {s : Session} {fresh : Epoch} {ticket : Ticket}
    (done : (s.continueQuery fresh).2 = .ok (some ticket)) :
    (Window.following s.rows.size s.settings.batchSize).WellFormed ∧
      ticket.window = Window.following s.rows.size s.settings.batchSize ∧
      ticket.epoch = s.epoch?.getD fresh ∧
      (s.continueQuery fresh).1 =
        s.queryListing fresh (Window.following s.rows.size s.settings.batchSize) [] := by
  rcases s.continueQuery_cases fresh with
    (same | ⟨_, same⟩) | ⟨window, _, loaded, rfl, wellFormed, same⟩
  · rw [same] at done
    cases done
  · rw [same] at done
    cases done
  · have checked := checked_eq_ok.mpr ⟨rfl, wellFormed⟩
    refine ⟨wellFormed, ?_, ?_, congrArg Prod.fst same⟩
    all_goals
      simp only [continueQuery, loaded, checked] at done
      cases done
      rfl

private theorem step_continueQuery (s : Session) (fresh : Epoch) {action : Action}
    (scrolled : action = .continueQuery ∨ action = .scroll true) :
    Step s fresh action (s.continueQuery fresh).1 := by
  rcases s.continueQuery_cases fresh with
    (same | ⟨failure, same⟩) | ⟨window, ticket, loaded, next, wellFormed, same⟩
  · rw [same]
    exact .idle
  · rw [same]
    exact .idle
  · rw [same]
    exact .turn scrolled loaded next wellFormed (congrArg Prod.snd same)

theorem step (s : Session) (fresh : Epoch) (action : Action) :
    Step s fresh action (s.act fresh action) := by
  cases action with
  | resetAndQuery window =>
    simp only [act, resetAndQuery]
    split
    · exact .idle
    · rename_i checked
      obtain ⟨rfl, wellFormed⟩ := mapM_checked_eq_ok checked
      exact .listing rfl wellFormed
  | refresh => exact .listing (rfl : s.demand? _ = some (_, _, none)) (by simp)
  | setSort sort => exact .listing (rfl : s.demand? _ = some (_, _, none)) (by simp)
  | setFilterText text => exact .listing (rfl : s.demand? _ = some (_, _, none)) (by simp)
  | fetchPreview =>
    simp only [act, fetchPreview]
    split
    · exact .idle
    · rename_i has
      exact .preview has
  | dispatch extra => exact .dispatch
  | continueQuery => exact s.step_continueQuery fresh (.inl rfl)
  | scroll atBottom =>
    cases atBottom with
    | false => exact .idle
    | true => exact s.step_continueQuery fresh (.inr rfl)
  | patchField identity column value =>
    simp only [act, patchField]
    split
    · exact .idle
    · rename_i editable
      exact .edit editable
  | onResponse v origin =>
    simp only [act, onResponse]
    rcases s.consider_cases v origin none with
      (same | ⟨failure, same⟩) | ⟨answer, accepted, read, valid, same⟩
    · rw [same]
      exact .idle
    · rw [same]
      exact .idle
    · rw [same]
      exact .respond accepted read valid
  | onEditResponse v =>
    simp only [act, onEditResponse]
    split
    · exact .idle
    · exact .idle
    · rename_i read
      exact .respondEdit read
  | selectRows rows => exact .select
  | answer number outcome =>
    simp only [act, answer?]
    cases found : s.pending.find? (·.number = number) with
    | none => exact .idle
    | some request => exact .answer found
  | push v => exact .push
  | processNext =>
    simp only [act, processNext]
    split
    · exact .idle
    · rename_i message rest waiting
      have oldest : s.inbox = [message] ++ rest := waiting
      exact .process (.inl rfl) oldest
  | processPending =>
    simp only [act, processPending_eq]
    exact .process (.inr rfl) (by simp)

/-! ## Starting epochs -/

/-- The actions by which the owner starts an epoch without being refused. -/
inductive Starts (s : Session) (fresh : Epoch) : Action → Prop
  | resetAndQuery {window : Option Window} {ticket : Ticket}
      (done : (s.resetAndQuery fresh window).2 = .ok ticket) :
      Starts s fresh (.resetAndQuery window)
  | refresh {ticket : Ticket} (done : (s.refresh fresh).2 = .ok ticket) : Starts s fresh .refresh
  | setSort {sort : SortOrder} {ticket : Ticket} (done : (s.setSort fresh sort).2 = .ok ticket) :
      Starts s fresh (.setSort sort)
  | setFilterText {text : String} {ticket : Ticket}
      (done : (s.setFilterText fresh text).2 = .ok ticket) : Starts s fresh (.setFilterText text)
  | fetchPreview {ticket : Ticket} (done : (s.fetchPreview fresh).2 = .ok ticket) :
      Starts s fresh .fetchPreview

theorem Starts.act_eq {s : Session} {fresh : Epoch} {action : Action}
    (starts : s.Starts fresh action) :
    (∃ sort text window, s.demand? action = some (sort, text, window) ∧
      s.act fresh action = s.startListing fresh sort text window) ∨
    ∃ preview, s.target.preview = .ok preview ∧
      s.act fresh action = s.startPreview fresh preview := by
  cases starts with
  | resetAndQuery done =>
    simp only [act]
    unfold Session.resetAndQuery at done ⊢
    split at done
    · cases done
    · rename_i checked
      obtain ⟨rfl, -⟩ := mapM_checked_eq_ok checked
      exact .inl ⟨_, _, _, rfl, rfl⟩
  | refresh => exact .inl ⟨_, _, none, rfl, rfl⟩
  | setSort => exact .inl ⟨_, _, none, rfl, rfl⟩
  | setFilterText => exact .inl ⟨_, _, none, rfl, rfl⟩
  | fetchPreview done =>
    simp only [act]
    unfold Session.fetchPreview at done ⊢
    split at done
    · cases done
    · rename_i has
      exact .inr ⟨_, has, rfl⟩

theorem Starts.epochs {s : Session} {fresh : Epoch} {action : Action}
    (starts : s.Starts fresh action) : (s.act fresh action).epochs = fresh :: s.epochs := by
  rcases starts.act_eq with ⟨_, _, _, -, same⟩ | ⟨_, -, same⟩
  · rw [same]
    rfl
  · rw [same]
    rfl

theorem Starts.rows {s : Session} {fresh : Epoch} {action : Action}
    (starts : s.Starts fresh action) : (s.act fresh action).rows = .empty := by
  rcases starts.act_eq with ⟨_, _, _, -, same⟩ | ⟨_, -, same⟩
  · rw [same]
    rfl
  · rw [same]
    rfl

theorem Starts.of_demand {s : Session} {fresh : Epoch} {action : Action} {sort : SortOrder}
    {text : String} {window : Option Window}
    (demand : s.demand? action = some (sort, text, window))
    (wellFormed : ∀ w, window = some w → w.WellFormed) : s.Starts fresh action := by
  cases action with
  | resetAndQuery asked =>
    cases demand
    have done : ∃ ticket, (s.resetAndQuery fresh window).2 = .ok ticket := by
      simp only [Session.resetAndQuery, mapM_checked_of_wellFormed wellFormed]
      exact ⟨_, rfl⟩
    obtain ⟨ticket, done⟩ := done
    exact .resetAndQuery done
  | refresh => exact .refresh rfl
  | setSort sort => exact .setSort rfl
  | setFilterText text => exact .setFilterText rfl
  | _ => cases demand

theorem Starts.of_preview {s : Session} {fresh : Epoch} {preview : Target.Preview}
    (has : s.target.preview = .ok preview) : s.Starts fresh .fetchPreview := by
  have done : ∃ ticket, (s.fetchPreview fresh).2 = .ok ticket := by
    simp only [Session.fetchPreview, has]
    exact ⟨_, rfl⟩
  obtain ⟨ticket, done⟩ := done
  exact .fetchPreview done

end Session

end LiveTable
