import LiveTable.Proofs.Session.Delivery
import LiveTable.Proofs.Session.Logging
set_option autoImplicit false

/-!
# One message at a time

Processing takes the oldest message and has one of three outcomes. What is dropped changes nothing;
what fails is told once and changes nothing else, not even later on, by `goesOnAs_emit`; and what
succeeds tells of no failure. `handle_outcomes` says so of every message. Main statement:
`no_failure_hidden_or_invented`.
-/

namespace LiveTable

/-- Messages as they come to wait: outcomes of requests, and rows that peers push. -/
inductive Message.Posted : Message → Prop
  | answered (request : OpenRequest) (outcome : Except String Json) :
      Posted (Session.OpenRequest.message request outcome)
  | pushed (v : Json) : Posted (.page none .peer (.ok v))

/-- What is told of a message that succeeds: of an answer to a query that it is complete, once, and
of an answer to an edit nothing but whether there are unpublished changes. -/
inductive Message.Succeeds : Message → List Event → Prop
  | page {captured : Option Epoch} {origin : Origin} {v : Json} {answer : Answer}
      {events : List Event} (read : Answer.read v = .ok (some answer))
      (once : events.filter (·.name = "queryComplete") = [.queryComplete answer origin])
      (faultless : ∀ failure, .requestFailed failure ∉ events) :
      Succeeds (.page captured origin (.ok v)) events
  | edit {identity : String} {v : Json} {answer : EditAnswer}
      (read : EditAnswer.read v = .ok (some answer)) :
      Succeeds (.edit identity (.ok v)) [.dirtyChanged answer.dirty]

namespace Session

variable {s t : Session} {fresh : Epoch} {action : Action} {message : Message}
  {rest : List Message}

/-! ## What waits -/

theorem posted_of_step (posted : ∀ message ∈ s.inbox, message.Posted)
    (step : Step s fresh action t) : ∀ message ∈ t.inbox, message.Posted := by
  -- What is new in an inbox comes of an outcome or a push; processing only takes away.
  cases step with
  | respond => rwa [(s.sameQueries_absorb _ _).inbox]
  | @answer number outcome request =>
    intro message waits
    rcases List.mem_append.mp waits with older | newer
    · exact posted message older
    · rw [List.mem_singleton.mp newer]
      exact .answered request outcome
  | @push v =>
    intro message waits
    rcases List.mem_append.mp waits with older | newer
    · exact posted message older
    · rw [List.mem_singleton.mp newer]
      exact .pushed v
  | @process _ messages rest _ waiting =>
    rw [(sameQueries_handleAll _ messages).inbox]
    exact fun message later => posted message (waiting ▸ List.mem_append_right messages later)
  | _ => exact posted

private theorem Reachable.posted (reachable : Reachable s) :
    ∀ message ∈ s.inbox, message.Posted := by
  induction reachable with
  | opened opening =>
    rw [begin_eq_opened opening]
    exact fun message waits => absurd waits List.not_mem_nil
  | @act s fresh action _ ih => exact posted_of_step ih (s.step fresh action)

/-! ## Outcomes -/

private theorem succeeds_news {v : Json} {answer : Answer}
    (read : Answer.read v = .ok (some answer))
    (s : Session) (origin : Origin) (captured : Option Epoch) :
    (Message.page captured origin (.ok v)).Succeeds (s.news answer origin) := by
  refine .page read ?_ ?_
  · cases origin <;> cases total : answer.total <;> cases dirty : s.target.dirtyAfter answer <;>
      simp [news, Answer.countNews, total, dirty, Event.name]
  · intro failure
    cases origin <;> cases total : answer.total <;> cases dirty : s.target.dirtyAfter answer <;>
      simp [news, Answer.countNews, total, dirty]

/-- What handling a message does to a session, by its outcome. -/
inductive Outcome (s : Session) (message : Message) : Session × Except Failure Bool → Prop
  | dropped : Outcome s message (s, .ok false)
  | failed (failure : Failure) :
      Outcome s message (s.emit (.requestFailed failure), .error failure)
  | succeeded {next : Session} {events : List Event} (tells : s.Tells events next)
      (succeeds : message.Succeeds events) : Outcome s message (next, .ok true)

private theorem outcome_handle (s : Session) (message : Message) :
    s.Outcome message (s.handle message) := by
  match message with
  | .page captured origin (.ok v) =>
    rw [handle_page]
    rcases s.consider_cases v origin captured with
      (same | ⟨failure, same⟩) | ⟨answer, -, read, -, same⟩
    · rw [same]
      exact .dropped
    · rw [same]
      exact .failed failure
    · rw [same]
      exact .succeeded (s.tells_absorb answer origin) (succeeds_news read s origin captured)
  | .page (some epoch) _ (.error reason) =>
    simp only [handle]
    split
    · rename_i current
      simp only [report, ← current, Option.or_self]
      exact .failed _
    · exact .dropped
  | .page none _ (.error reason) => exact .failed _
  | .edit identity (.ok v) =>
    rw [handle_edit]
    rcases read : EditAnswer.read v with failure | _ | answer
    · simp only [onEditResponse, read]
      exact .failed failure
    · simp only [onEditResponse, read]
      exact .dropped
    · simp only [onEditResponse, read]
      exact .succeeded (s.tells_setDirty answer.dirty) (.edit read)
  | .edit _ (.error reason) =>
    simp only [handle, report, Option.or_self]
    exact .failed _

namespace Outcome

variable {result : Session × Except Failure Bool}

private theorem of_dropped (outcome : s.Outcome message result) (dropped : result.2 = .ok false) :
    result.1 = s := by
  cases outcome with
  | dropped => rfl
  | failed => cases dropped
  | succeeded => cases dropped

private theorem of_failed (outcome : s.Outcome message result) {failure : Failure}
    (failed : result.2 = .error failure) : result.1 = s.emit (.requestFailed failure) := by
  cases outcome with
  | dropped => cases failed
  | failed =>
    cases failed
    rfl
  | succeeded => cases failed

private theorem of_succeeded (outcome : s.Outcome message result)
    (succeeded : result.2 = .ok true) :
    ∃ events, s.Tells events result.1 ∧ message.Succeeds events := by
  cases outcome with
  | dropped => cases succeeded
  | failed => cases succeeded
  | succeeded tells succeeds => exact ⟨_, tells, succeeds⟩

end Outcome

private theorem Reachable.captured_of_failed (reachable : Reachable s) {captured : Option Epoch}
    {origin : Origin} {reason : String}
    (waits : .page captured origin (.error reason) ∈ s.inbox) : ∃ epoch, captured = some epoch := by
  have posted := reachable.posted _ waits
  generalize failed : Message.page captured origin (.error reason) = message at posted
  -- Peers push values, so a failure can only be the outcome of a request.
  cases posted with
  | answered request outcome =>
    obtain ⟨number, epoch | identity⟩ := request
    · cases failed
      exact ⟨epoch, rfl⟩
    · cases failed
  | pushed v => cases failed

private theorem handle_failed_page (s : Session) (epoch : Epoch) (origin : Origin)
    (reason : String) :
    (s.handle (.page (some epoch) origin (.error reason))).2 =
      if s.epoch? = some epoch then .error (.transport reason) else .ok false := by
  simp only [handle]
  split <;> rfl

/-- Processing takes the oldest message. If it is dropped, nothing else changes; if it fails, that
is told once, and whatever happens from then on happens as if the message had not been there; and if
it succeeds, no failure is told. The failure of a request is a failure, except that of a query whose
epoch has passed. -/
theorem no_failure_hidden_or_invented (reachable : Reachable s)
    (waiting : s.inbox = message :: rest) :
    ∃ next outcome, s.processNext = some (next, outcome) ∧ next.inbox = rest ∧
      let left := { s with inbox := rest }
      (outcome = .ok false → next = left) ∧
      (∀ failure, outcome = .error failure →
        next = left.emit (.requestFailed failure) ∧
        (Event.requestFailed failure).payload = Json.ofPairs
          [("code", .text failure.code),
            ("reason", .text (failure.code ++ ": " ++ failure.detail))] ∧
        left.GoesOnAs 1 next) ∧
      (outcome = .ok true → ∃ events, left.Tells events next ∧ message.Succeeds events) ∧
      (∀ identity reason, message = .edit identity (.error reason) →
        outcome = .error (.transport reason)) ∧
      (∀ captured origin reason, message = .page captured origin (.error reason) →
        ∃ epoch, captured = some epoch ∧
          outcome = if s.epoch? = some epoch then .error (.transport reason) else .ok false) ∧
      ∀ reason, (Failure.transport reason).code = "TRANSPORT_FAILURE" := by
  let left := { s with inbox := rest }
  have processed : s.processNext = some (left.handle message) := by
    simp only [processNext, waiting, left]
  refine ⟨(left.handle message).1, (left.handle message).2, processed,
    (left.sameQueries_handle message).inbox, ?_, ?_, ?_, ?_, ?_, fun _ => rfl⟩
  · exact (left.outcome_handle message).of_dropped
  · intro failure failed
    have told := (left.outcome_handle message).of_failed failed
    rw [told]
    exact ⟨rfl, rfl, left.goesOnAs_emit _⟩
  · exact (left.outcome_handle message).of_succeeded
  · rintro identity reason rfl
    rfl
  · rintro captured origin reason rfl
    obtain ⟨epoch, rfl⟩ := reachable.captured_of_failed (waiting ▸ List.mem_cons_self)
    exact ⟨epoch, rfl, left.handle_failed_page epoch origin reason⟩

/-- Of two queries of one epoch, the first finds its connection refused and the second is answered
without rows. Both are told about. -/
theorem no_failure_hidden_or_invented_of_refused_connection :
    let v : Json := .object [("results", .null)]
    let failed : Message := .page (some ⟨1#128⟩) .backend (.error "connection refused")
    let malformed : Message := .page (some ⟨1#128⟩) .backend (.ok v)
    let failure : Failure := .transport "connection refused"
    let unread : Failure := .malformed .noResults
    let asked := ((initial (.search none) .default).act ⟨1#128⟩ .refresh).act ⟨2#128⟩ (.dispatch [])
    let s := (asked.act ⟨3#128⟩ (.answer 0 (.error "connection refused"))).act ⟨4#128⟩
      (.answer 1 (.ok v))
    let t := s.act ⟨5#128⟩ .processNext
    s.inbox = [failed, malformed] ∧
    (∃ next, s.processNext = some (next, .error failure) ∧ next.inbox = [malformed] ∧
      next = { s with inbox := [malformed] }.emit (.requestFailed failure) ∧
      { s with inbox := [malformed] }.GoesOnAs 1 next) ∧
    t.inbox = [malformed] ∧
    ∃ last, t.processNext = some (last, .error unread) ∧ last.inbox = [] ∧
      last = { t with inbox := [] }.emit (.requestFailed unread) ∧
      { t with inbox := [] }.GoesOnAs 1 last := by
  intro v failed malformed failure unread asked s t
  have opened : Reachable (initial (.search none) .default) := .opened (begin_default _)
  have reachable : Reachable s :=
    (((opened.act ⟨1#128⟩ .refresh).act ⟨2#128⟩ (.dispatch [])).act ⟨3#128⟩ _).act ⟨4#128⟩ _
  have waiting : s.inbox = [failed, malformed] := rfl
  have left : t.inbox = [malformed] := rfl
  refine ⟨waiting, ?first, left, ?second⟩
  case first =>
    obtain ⟨next, outcome, processed, emptied, -, fails, -, -, queries, -⟩ :=
      no_failure_hidden_or_invented reachable waiting
    obtain ⟨epoch, captured, decided⟩ := queries _ _ _ rfl
    have current : s.epoch? = some epoch := captured
    rw [if_pos current] at decided
    obtain ⟨told, -, goesOn⟩ := fails failure decided
    exact ⟨next, decided ▸ processed, emptied, told, goesOn⟩
  case second =>
    obtain ⟨last, outcome, processed, emptied, -, fails, -⟩ :=
      no_failure_hidden_or_invented (reachable.act ⟨5#128⟩ .processNext) left
    have decided : t.processNext.map Prod.snd = some (.error unread) := rfl
    rw [processed] at decided
    obtain ⟨told, -, goesOn⟩ := fails unread (Option.some.inj decided)
    exact ⟨last, Option.some.inj decided ▸ processed, emptied, told, goesOn⟩

end Session

end LiveTable
