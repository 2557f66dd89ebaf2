import LiveTable.Proofs.Answer.Read
import LiveTable.Proofs.Rows.Keys
import LiveTable.Proofs.Session.Telling
set_option autoImplicit false

/-!
# What a session takes in

Answers to queries that are merged, and answers to edits: everything else that arrives is stale,
empty or at fault, and changes nothing but the log. `intakes` lists what an action takes in, and
`intakesOf` what a run does, each message as the session stands when its turn comes. Main
statements: `rows_act`, by which the rows within an epoch are those of merging what is taken in, and
`editSession_run`, by which a session knows of unpublished changes what it was told last.
-/

namespace LiveTable

/-- Something that has arrived and is neither stale nor empty nor at fault. -/
inductive Intake
  | page (answer : Answer) (origin : Origin)
  | edit (answer : EditAnswer)

namespace Intake

def items : Intake → List Item
  | page answer _ => answer.results
  | edit _ => []

/-- Whose word it is; edits are answered by the backend only. -/
def origin : Intake → Origin
  | page _ origin => origin
  | edit _ => .backend

/-- What is told of unpublished changes, as far as the target minds it. -/
def dirty? (target : Target) : Intake → Option Bool
  | page answer _ => target.dirtyAfter answer
  | edit answer => some answer.dirty

end Intake

namespace Session

/-- What a message brings: an answer to a query counts if considering it says so. -/
def intake? (s : Session) : Message → Option Intake
  | .page captured origin (.ok v) =>
    match (s.consider v origin captured).2, Answer.read v with
    | .ok true, .ok (some answer) => some (.page answer origin)
    | _, _ => none
  | .edit _ (.ok v) =>
    match EditAnswer.read v with
    | .ok (some answer) => some (.edit answer)
    | _ => none
  | _ => none

def takes (s : Session) : List Message → List Intake
  | [] => []
  | message :: rest => (s.intake? message).toList ++ (s.handle message).1.takes rest

/-- The messages that an action handles. What the owner hands over is like a message that answers no
request. -/
def handled (s : Session) : Action → List Message
  | .onResponse v origin => [.page none origin (.ok v)]
  | .onEditResponse v => [.edit "" (.ok v)]
  | .processNext => s.inbox.take 1
  | .processPending => s.inbox
  | _ => []

def intakes (s : Session) (action : Action) : List Intake := s.takes (s.handled action)

def intakesOf (s : Session) : List (Epoch × Action) → List Intake
  | [] => []
  | (fresh, action) :: steps => s.intakes action ++ (s.act fresh action).intakesOf steps

variable {s : Session} {fresh : Epoch} {action : Action} {message : Message}

/-! ## Single messages -/

inductive Taking (s : Session) : Option Intake → Session → Prop
  | page {v : Json} {answer : Answer} {origin : Origin} (read : Answer.read v = .ok (some answer)) :
      Taking s (some (.page answer origin)) (s.absorb answer origin)
  | edit {answer : EditAnswer} : Taking s (some (.edit answer)) (s.setDirty answer.dirty)
  | nothing {next : Session} (rows : next.rows = s.rows)
      (editSession : next.editSession = s.editSession) : Taking s none next

private theorem rows_report (s : Session) (epoch : Option Epoch) (outcome : Except Failure Bool) :
    (s.report epoch outcome).1.rows = s.rows := by
  cases outcome <;> rfl

private theorem editSession_report (s : Session) (epoch : Option Epoch)
    (outcome : Except Failure Bool) :
    (s.report epoch outcome).1.editSession = s.editSession := by
  cases outcome <;> rfl

private theorem taking (s : Session) (message : Message) :
    s.Taking (s.intake? message) (s.handle message).1 := by
  match message with
  | .page captured origin (.ok v) =>
    rcases s.consider_cases v origin captured with
      (same | ⟨failure, same⟩) | ⟨answer, -, read, -, same⟩
    · simp only [intake?, handle, same]
      exact .nothing rfl rfl
    · simp only [intake?, handle, same]
      exact .nothing rfl rfl
    · simp only [intake?, handle, same, read]
      exact .page read
  | .page (some epoch) origin (.error reason) =>
    simp only [intake?, handle]
    split
    · exact .nothing (rows_report ..) (editSession_report ..)
    · exact .nothing rfl rfl
  | .page none origin (.error reason) => exact .nothing rfl rfl
  | .edit identity (.ok v) =>
    rcases read : EditAnswer.read v with failure | _ | answer
    · simp only [intake?, handle, onEditResponse, read]
      exact .nothing rfl rfl
    · simp only [intake?, handle, onEditResponse, read]
      exact .nothing rfl rfl
    · simp only [intake?, handle, onEditResponse, read]
      exact .edit
  | .edit identity (.error reason) => exact .nothing rfl rfl

private theorem rows_handle (s : Session) (message : Message) :
    (s.handle message).1.rows = (s.rows.merge s.settings.duplicatePolicy
      ((s.intake? message).toList.flatMap Intake.items)).1 := by
  have taking := s.taking message
  generalize s.intake? message = intake, (s.handle message).1 = next at taking ⊢
  cases taking with
  | page => simp [Intake.items]
  | edit => simp [Intake.items, setDirty, emit, emitFor]
  | nothing rows => simp [rows]

private theorem editSession_handle (s : Session) (message : Message) :
    (s.handle message).1.editSession =
      ((s.intake? message).bind (Intake.dirty? s.target)).or s.editSession := by
  have taking := s.taking message
  generalize s.intake? message = intake, (s.handle message).1 = next at taking ⊢
  cases taking with
  | page => exact s.editSession_absorb _ _
  | edit => rfl
  | nothing _ editSession => exact editSession

private theorem identified_of_intake? {intake : Intake} (taken : s.intake? message = some intake) :
    ∀ item ∈ intake.items, item.identity?.isSome := by
  have taking := s.taking message
  rw [taken] at taking
  generalize (s.handle message).1 = next at taking
  cases taking with
  | page read => exact Answer.identified_of_read read
  | edit => simp [Intake.items]

/-! ## Messages one after the other -/

private theorem rows_handleAll (s : Session) (messages : List Message) :
    (s.handleAll messages).rows = (s.rows.merge s.settings.duplicatePolicy
      ((s.takes messages).flatMap Intake.items)).1 := by
  induction messages generalizing s with
  | nil => rfl
  | cons message rest ih =>
    have settings := (s.sameQueries_handle message).settings
    rw [handleAll_cons, ih, settings, rows_handle, ← Rows.merge_append, ← List.flatMap_append]
    rfl

private theorem editSession_handleAll (s : Session) (messages : List Message) :
    (s.handleAll messages).editSession =
      ((s.takes messages).filterMap (Intake.dirty? s.target)).getLast?.or s.editSession := by
  induction messages generalizing s with
  | nil => rfl
  | cons message rest ih =>
    have target := (s.sameQueries_handle message).target
    rw [handleAll_cons, ih, target, editSession_handle, takes, List.filterMap_append,
      List.getLast?_append, Option.or_assoc]
    -- An answer without a flag leaves to the earlier ones what is known.
    cases s.intake? message with
    | none => rfl
    | some intake => cases told : intake.dirty? s.target <;> simp [told]

theorem takes_withInbox (s : Session) (inbox : List Message) (messages : List Message) :
    { s with inbox := inbox }.takes messages = s.takes messages := by
  induction messages generalizing s with
  | nil => rfl
  | cons message rest ih =>
    have same : { s with inbox := inbox }.intake? message = s.intake? message := by
      match message with
      | .page captured origin (.ok v) =>
        have considered := (unseen_withInbox inbox).consider s v origin captured
        simp only [intake?, considered, Prod.map, id]
      | .page captured origin (.error reason) => rfl
      | .edit identity (.ok v) => rfl
      | .edit identity (.error reason) => rfl
    simp only [takes, same, handle_withInbox, ih]

/-! ## Actions and runs -/

theorem act_processNext (s : Session) (fresh : Epoch) :
    s.act fresh .processNext =
      { s with inbox := s.inbox.drop 1 }.handleAll (s.inbox.take 1) := by
  simp only [act, processNext]
  cases waiting : s.inbox with
  | nil =>
    have idle : { s with inbox := [] } = s := by rw [← waiting]
    exact idle.symm
  | cons message rest => rfl

theorem nil_of_handled_nil (none : s.handled action = [])
    (processing : action = .processNext ∨ action = .processPending) {messages rest : List Message}
    (waiting : s.inbox = messages ++ rest) : messages = [] ∧ rest = [] := by
  have empty : s.inbox = [] := by
    rcases processing with rfl | rfl
    · simpa [handled] using none
    · exact none
  rw [empty] at waiting
  exact List.append_eq_nil_iff.mp waiting.symm

private theorem act_cases_of_handled_nil (fresh : Epoch) (none : s.handled action = []) :
    (s.act fresh action).editSession = s.editSession ∧
      ((s.act fresh action).rows = s.rows ∨ s.Starts fresh action ∨
        ∃ identity column value, action = .patchField identity column value) := by
  have step := s.step fresh action
  generalize s.act fresh action = next at step ⊢
  cases step with
  | listing demand wellFormed => exact ⟨rfl, .inr (.inl (.of_demand demand wellFormed))⟩
  | preview has => exact ⟨rfl, .inr (.inl (.of_preview has))⟩
  | edit => exact ⟨rfl, .inr (.inr ⟨_, _, _, rfl⟩)⟩
  | respond => cases none
  | respondEdit => cases none
  | process processing waiting =>
    obtain ⟨rfl, rfl⟩ := nil_of_handled_nil none processing waiting
    exact ⟨rfl, .inl rfl⟩
  | _ => exact ⟨rfl, .inl rfl⟩

private theorem act_cases_of_handled (s : Session) (fresh : Epoch) (action : Action) :
    ∃ rest, (s.act fresh action).editSession =
        ({ s with inbox := rest }.handleAll (s.handled action)).editSession ∧
      ((s.act fresh action).rows =
          ({ s with inbox := rest }.handleAll (s.handled action)).rows ∨
        s.Starts fresh action ∨
        ∃ identity column value, action = .patchField identity column value) := by
  cases action with
  | onResponse v origin =>
    exact ⟨s.inbox, (editSession_report ..).symm, .inl (rows_report ..).symm⟩
  | onEditResponse v =>
    exact ⟨s.inbox, (editSession_report ..).symm, .inl (rows_report ..).symm⟩
  | processNext =>
    rw [act_processNext]
    exact ⟨_, rfl, .inl rfl⟩
  | processPending =>
    simp only [act, processPending_eq]
    exact ⟨_, rfl, .inl rfl⟩
  | _ => exact ⟨s.inbox, act_cases_of_handled_nil fresh rfl⟩

theorem rows_act (within : ¬ s.Starts fresh action)
    (unedited : ∀ identity column value, action ≠ .patchField identity column value) :
    (s.act fresh action).rows =
      (s.rows.merge s.settings.duplicatePolicy ((s.intakes action).flatMap Intake.items)).1 := by
  obtain ⟨rest, -, same | starts | ⟨_, _, _, edits⟩⟩ := s.act_cases_of_handled fresh action
  · rw [same, rows_handleAll, takes_withInbox]
    rfl
  · exact absurd starts within
  · exact absurd edits (unedited _ _ _)

theorem editSession_act (s : Session) (fresh : Epoch) (action : Action) :
    (s.act fresh action).editSession =
      ((s.intakes action).filterMap (Intake.dirty? s.target)).getLast?.or s.editSession := by
  obtain ⟨rest, same, -⟩ := s.act_cases_of_handled fresh action
  rw [same, editSession_handleAll, takes_withInbox]
  rfl

theorem editSession_run (s : Session) (steps : List (Epoch × Action)) :
    (s.run steps).editSession =
      ((s.intakesOf steps).filterMap (Intake.dirty? s.target)).getLast?.or s.editSession := by
  induction steps generalizing s with
  | nil => rfl
  | cons step steps ih =>
    have target := (s.extends_act step.1 step.2).target
    rw [run_cons, ih, target, editSession_act, intakesOf, List.filterMap_append,
      List.getLast?_append, Option.or_assoc]

theorem identified_of_mem_takes {messages : List Message} {intake : Intake}
    (taken : intake ∈ s.takes messages) : ∀ item ∈ intake.items, item.identity?.isSome := by
  induction messages generalizing s with
  | nil => cases taken
  | cons message rest ih =>
    rcases List.mem_append.mp taken with first | later
    · exact identified_of_intake? (Option.mem_toList.mp first)
    · exact ih later

end Session

end LiveTable
