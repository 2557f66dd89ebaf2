import LiveTable.Session.Action
set_option autoImplicit false

/-!
# Handling messages

What a message does to a session, said once for all invariants: `Handling` has a case for each way
in which a message can be handled, and `handling` says that there are no others. No message changes
what queries are made of, by `sameQueries_handle`. Changes that handling does not see, such as to
the inbox, commute with it, by `Unseen.handle`. Emptying the inbox is handling its messages one
after the other, by `processPending_eq`.
-/

namespace LiveTable

namespace Session

def echo? (v : Json) : Option String := (v.get? "uuid").bind Json.text?

/-! ## What answers leave alone -/

/-- Sessions that differ at most in the table, in what the backend told of the listing, and in the
log. -/
structure SameQueries (s t : Session) : Prop where
  target : t.target = s.target
  settings : t.settings = s.settings
  epochs : t.epochs = s.epochs
  window : t.window = s.window
  filterText : t.filterText = s.filterText
  sort : t.sort = s.sort
  inbox : t.inbox = s.inbox
  wire : t.wire = s.wire
  pending : t.pending = s.pending
  latestQuery : t.latestQuery = s.latestQuery

namespace SameQueries

theorem refl (s : Session) : s.SameQueries s := ⟨rfl, rfl, rfl, rfl, rfl, rfl, rfl, rfl, rfl, rfl⟩

private theorem trans {s t u : Session} (first : s.SameQueries t) (second : t.SameQueries u) :
    s.SameQueries u where
  target := second.target.trans first.target
  settings := second.settings.trans first.settings
  epochs := second.epochs.trans first.epochs
  window := second.window.trans first.window
  filterText := second.filterText.trans first.filterText
  sort := second.sort.trans first.sort
  inbox := second.inbox.trans first.inbox
  wire := second.wire.trans first.wire
  pending := second.pending.trans first.pending
  latestQuery := second.latestQuery.trans first.latestQuery

theorem epoch? {s t : Session} (same : s.SameQueries t) : t.epoch? = s.epoch? :=
  congrArg List.head? same.epochs

end SameQueries

theorem sameQueries_emit (s : Session) (event : Event) : s.SameQueries (s.emit event) :=
  ⟨rfl, rfl, rfl, rfl, rfl, rfl, rfl, rfl, rfl, rfl⟩

theorem sameQueries_setDirty (s : Session) (dirty : Bool) : s.SameQueries (s.setDirty dirty) :=
  ⟨rfl, rfl, rfl, rfl, rfl, rfl, rfl, rfl, rfl, rfl⟩

theorem sameQueries_noteTotal (s : Session) (origin : Origin) (total : Option UInt64) :
    s.SameQueries (s.noteTotal origin total) := by
  unfold noteTotal
  split
  · exact ⟨rfl, rfl, rfl, rfl, rfl, rfl, rfl, rfl, rfl, rfl⟩
  · exact .refl s

private theorem sameQueries_noteDirty (s : Session) (dirty : Option Bool) :
    s.SameQueries (s.noteDirty dirty) := by
  cases dirty with
  | none => exact .refl s
  | some dirty => exact s.sameQueries_setDirty dirty

theorem sameQueries_absorb (s : Session) (answer : Answer) (origin : Origin) :
    s.SameQueries (s.absorb answer origin) := by
  have merged : s.SameQueries (s.mergeRows answer.results) :=
    ⟨rfl, rfl, rfl, rfl, rfl, rfl, rfl, rfl, rfl, rfl⟩
  exact ((merged.trans (sameQueries_noteTotal _ _ _)).trans (sameQueries_emit _ _)).trans
    (sameQueries_noteDirty _ _)

/-! ## What an absorbed answer puts into the table -/

@[simp] theorem rows_noteTotal (s : Session) (origin : Origin) (total : Option UInt64) :
    (s.noteTotal origin total).rows = s.rows := by
  unfold noteTotal
  split <;> rfl

@[simp] theorem rows_noteDirty (s : Session) (dirty : Option Bool) :
    (s.noteDirty dirty).rows = s.rows := by
  cases dirty <;> rfl

@[simp] theorem rows_absorb (s : Session) (answer : Answer) (origin : Origin) :
    (s.absorb answer origin).rows =
      (s.rows.merge s.settings.duplicatePolicy answer.results).1 := by
  simp [absorb, emit, emitFor, mergeRows]

@[simp] theorem total_noteDirty (s : Session) (dirty : Option Bool) :
    (s.noteDirty dirty).total = s.total := by
  cases dirty <;> rfl

@[simp] theorem total_absorb_backend (s : Session) (answer : Answer) :
    (s.absorb answer .backend).total = answer.total.or s.total := by
  cases total : answer.total <;> simp [absorb, noteTotal, total, emit, emitFor, mergeRows]

/-! ## Messages -/

/-- The ways in which a message can be handled. -/
inductive Handling (s : Session) : Message → Session → Prop
  /-- The message is stale or empty. -/
  | ignored {message : Message} : Handling s message s
  /-- An answer to a query is merged. -/
  | absorbed {v : Json} {origin : Origin} {captured : Option Epoch} {answer : Answer}
      (accepted : s.accepts (echo? v) captured = true) (read : Answer.read v = .ok (some answer))
      (valid : s.target.validate answer origin = .ok ()) :
      Handling s (.page captured origin (.ok v)) (s.absorb answer origin)
  /-- The answer to an edit tells of unpublished changes. -/
  | dirtied {identity : String} {v : Json} {answer : EditAnswer}
      (read : EditAnswer.read v = .ok (some answer)) :
      Handling s (.edit identity (.ok v)) (s.setDirty answer.dirty)
  /-- A failure is told about, in the current epoch. -/
  | failed {message : Message} (failure : Failure) :
      Handling s message (s.emit (.requestFailed failure))

theorem consider_cases (s : Session) (v : Json) (origin : Origin) (captured : Option Epoch) :
    (s.consider v origin captured = (s, .ok false) ∨
      ∃ failure, s.consider v origin captured = (s, .error failure)) ∨
    ∃ answer, s.accepts (echo? v) captured = true ∧ Answer.read v = .ok (some answer) ∧
      s.target.validate answer origin = .ok () ∧
      s.consider v origin captured = (s.absorb answer origin, .ok true) := by
  unfold consider
  split
  · rename_i accepted
    split
    · exact .inl (.inr ⟨_, rfl⟩)
    · exact .inl (.inl rfl)
    · rename_i answer read
      split
      · exact .inl (.inr ⟨_, rfl⟩)
      · rename_i valid
        exact .inr ⟨answer, accepted, read, valid, rfl⟩
  · exact .inl (.inl rfl)

theorem handling (s : Session) (message : Message) : Handling s message (s.handle message).1 := by
  unfold handle
  split
  · rename_i captured origin v
    rcases s.consider_cases v origin captured with
      (same | ⟨failure, same⟩) | ⟨answer, accepted, read, valid, same⟩
    · rw [same]
      exact .ignored
    · rw [same]
      simp only [report, Option.or_self]
      exact .failed failure
    · rw [same]
      exact .absorbed accepted read valid
  · rename_i epoch _ reason
    split
    · rename_i current
      simp only [report, ← current, Option.or_self]
      exact .failed _
    · exact .ignored
  · exact .failed _
  · rename_i identity v
    unfold onEditResponse
    split
    · simp only [report, Option.or_self]
      exact .failed _
    · exact .ignored
    · rename_i answer read
      exact .dirtied read
  · simp only [report, Option.or_self]
    exact .failed _

private theorem Handling.sameQueries {s next : Session} {message : Message}
    (handling : Handling s message next) : s.SameQueries next := by
  cases handling with
  | ignored => exact .refl s
  | absorbed => exact s.sameQueries_absorb _ _
  | dirtied => exact s.sameQueries_setDirty _
  | failed => exact s.sameQueries_emit _

theorem sameQueries_handle (s : Session) (message : Message) :
    s.SameQueries (s.handle message).1 := (s.handling message).sameQueries

def handleAll (s : Session) (messages : List Message) : Session :=
  messages.foldl (fun s message => (s.handle message).1) s

@[simp] theorem handleAll_nil (s : Session) : s.handleAll [] = s := rfl

@[simp] theorem handleAll_cons (s : Session) (message : Message) (messages : List Message) :
    s.handleAll (message :: messages) = (s.handle message).1.handleAll messages := rfl

theorem handleAll_append (s : Session) (first second : List Message) :
    s.handleAll (first ++ second) = (s.handleAll first).handleAll second := List.foldl_append

theorem handleAll_keeps {P : Session → Prop} {messages : List Message}
    (keeps : ∀ s, ∀ message ∈ messages, P s → P (s.handle message).1) {s : Session} (holds : P s) :
    P (s.handleAll messages) := by
  induction messages generalizing s with
  | nil => exact holds
  | cons message messages ih =>
    have first := keeps s message List.mem_cons_self holds
    exact ih (fun s other member => keeps s other (List.mem_cons_of_mem _ member)) first

theorem sameQueries_handleAll (s : Session) (messages : List Message) :
    s.SameQueries (s.handleAll messages) :=
  handleAll_keeps (P := s.SameQueries)
    (fun t message _ same => same.trans (t.sameQueries_handle message)) (.refl s)

/-! ## The inbox -/

/-- A change to sessions that handling does not see, and does not undo. -/
structure Unseen (change : Session → Session) : Prop where
  target (s : Session) : (change s).target = s.target
  epoch? (s : Session) : (change s).epoch? = s.epoch?
  mergeRows (s : Session) (batch : List Item) :
    (change s).mergeRows batch = change (s.mergeRows batch)
  total (s : Session) (total : Option UInt64) :
    { change s with total := total } = change { s with total := total }
  editSession (s : Session) (dirty : Option Bool) :
    { change s with editSession := dirty } = change { s with editSession := dirty }
  emitFor (s : Session) (epoch : Option Epoch) (event : Event) :
    (change s).emitFor epoch event = change (s.emitFor epoch event)

namespace Unseen

variable {change : Session → Session}

theorem emit (unseen : Unseen change) (s : Session) (event : Event) :
    (change s).emit event = change (s.emit event) := by
  simp only [Session.emit, unseen.epoch?, unseen.emitFor]

private theorem setDirty (unseen : Unseen change) (s : Session) (dirty : Bool) :
    (change s).setDirty dirty = change (s.setDirty dirty) := by
  simp only [Session.setDirty, unseen.editSession, unseen.emit]

private theorem noteTotal (unseen : Unseen change) (s : Session) (origin : Origin)
    (total : Option UInt64) :
    (change s).noteTotal origin total = change (s.noteTotal origin total) := by
  unfold Session.noteTotal
  split
  · simp only [unseen.total, unseen.emit]
  · rfl

private theorem noteDirty (unseen : Unseen change) (s : Session) (dirty : Option Bool) :
    (change s).noteDirty dirty = change (s.noteDirty dirty) := by
  cases dirty with
  | none => rfl
  | some dirty => exact unseen.setDirty s dirty

private theorem absorb (unseen : Unseen change) (s : Session) (answer : Answer) (origin : Origin) :
    (change s).absorb answer origin = change (s.absorb answer origin) := by
  simp only [Session.absorb, unseen.target, unseen.mergeRows, unseen.noteTotal, unseen.emit,
    unseen.noteDirty]

theorem consider (unseen : Unseen change) (s : Session) (v : Json) (origin : Origin)
    (captured : Option Epoch) :
    (change s).consider v origin captured = (s.consider v origin captured).map change id := by
  have accepts : (change s).accepts = s.accepts := by
    funext token captured
    simp only [Session.accepts, unseen.epoch?]
  simp only [Session.consider, accepts, unseen.target, unseen.absorb]
  cases s.accepts ((v.get? "uuid").bind Json.text?) captured with
  | false => rfl
  | true =>
    simp only [if_true]
    rcases Answer.read v with failure | _ | answer
    · rfl
    · rfl
    · simp only
      cases s.target.validate answer origin <;> rfl

theorem onEditResponse (unseen : Unseen change) (s : Session) (v : Json) :
    (change s).onEditResponse v = (s.onEditResponse v).map change id := by
  simp only [Session.onEditResponse, unseen.setDirty]
  split <;> rfl

private theorem report (unseen : Unseen change) (s : Session) (epoch : Option Epoch)
    (outcome : Except Failure Bool) :
    (change s).report epoch outcome = (s.report epoch outcome).map change id := by
  cases outcome with
  | ok admitted => rfl
  | error failure => simp only [Session.report, unseen.epoch?, unseen.emitFor, Prod.map, id]

theorem handle (unseen : Unseen change) (s : Session) (message : Message) :
    (change s).handle message = (s.handle message).map change id := by
  unfold Session.handle
  split
  · simp only [unseen.consider, unseen.epoch?, unseen.report, Prod.map, id]
  · simp only [unseen.epoch?, unseen.report]
    split <;> rfl
  · simp only [unseen.report]
  · simp only [unseen.onEditResponse, unseen.epoch?, unseen.report, Prod.map, id]
  · simp only [unseen.epoch?, unseen.report]

theorem handleAll (unseen : Unseen change) (s : Session) (messages : List Message) :
    (change s).handleAll messages = change (s.handleAll messages) := by
  induction messages generalizing s with
  | nil => rfl
  | cons message messages ih =>
    rw [handleAll_cons, handleAll_cons, unseen.handle]
    exact ih _

end Unseen

theorem unseen_withWaiting (inbox : List Message) (pending : List OpenRequest) :
    Unseen fun s => { s with inbox := inbox, pending := pending } :=
  ⟨fun _ => rfl, fun _ => rfl, fun _ _ => rfl, fun _ _ => rfl, fun _ _ => rfl, fun _ _ _ => rfl⟩

theorem unseen_withInbox (inbox : List Message) : Unseen fun s => { s with inbox := inbox } :=
  ⟨fun _ => rfl, fun _ => rfl, fun _ _ => rfl, fun _ _ => rfl, fun _ _ => rfl, fun _ _ _ => rfl⟩

theorem handle_withInbox (s : Session) (inbox : List Message) (message : Message) :
    { s with inbox := inbox }.handle message =
      ({ (s.handle message).1 with inbox := inbox }, (s.handle message).2) :=
  (unseen_withInbox inbox).handle s message

private theorem drain_eq {s : Session} {messages : List Message} (waiting : s.inbox = messages) :
    s.drain messages.length = ({ s with inbox := [] }.handleAll messages, messages.length) := by
  induction messages generalizing s with
  | nil =>
    have empty : { s with inbox := [] } = s := by rw [← waiting]
    rw [empty]
    rfl
  | cons message rest ih =>
    have next : { s with inbox := rest }.handle message =
        ({ (s.handle message).1 with inbox := rest }, (s.handle message).2) :=
      s.handle_withInbox rest message
    have drained := ih (s := { (s.handle message).1 with inbox := rest }) rfl
    simp only [List.length_cons, drain, processNext, waiting, next, drained, handleAll_cons,
      handle_withInbox, Prod.map, id]

theorem processPending_eq (s : Session) :
    s.processPending = ({ s with inbox := [] }.handleAll s.inbox, s.inbox.length) := drain_eq rfl

end Session

end LiveTable
