import LiveTable.Proofs.Answer.RoundTrip
import LiveTable.Proofs.Session.Admission
import LiveTable.Proofs.Session.Intake
set_option autoImplicit false

/-!
# What is told of what is taken in

An answer is told of when it is merged, and a flag when it is noted; so the log lists both in the
order in which a run takes them in, and nothing else of their kind. `Publishes` says so of single
messages, of actions and of runs, by `publishes_run`. Main statement: `published_answers_read_back`,
by which whatever answer has been told of can be written, and is read as the same answer by any
session that has not started.
-/

namespace LiveTable

def Intake.answer? : Intake → Option Answer
  | page answer _ => some answer
  | edit _ => none

namespace Session

/-- What is told of from one session to another: the answers and flags of what is taken in. -/
structure Publishes (s : Session) (taken : List Intake) (t : Session) : Prop where
  answers : t.told.filterMap Event.merged? =
    s.told.filterMap Event.merged? ++ taken.filterMap Intake.answer?
  flags : t.told.filterMap Event.dirty? =
    s.told.filterMap Event.dirty? ++ taken.filterMap (Intake.dirty? s.target)

variable {s t u : Session} {fresh : Epoch} {action : Action} {taken : List Intake}

namespace Publishes

private theorem nothing (log : t.log = s.log) : s.Publishes [] t := by
  constructor <;> simp [told, log]

private theorem of_log (published : s.Publishes taken t) (log : u.log = t.log) :
    s.Publishes taken u := by
  have same : u.told = t.told := by rw [told, told, log]
  exact ⟨same ▸ published.answers, same ▸ published.flags⟩

private theorem aside (published : s.Publishes taken t) {event : Event}
    (told : u.told = t.told ++ [event])
    (unmerged : event.merged? = none) (clean : event.dirty? = none) : s.Publishes taken u := by
  constructor
  · rw [told, List.filterMap_append, published.answers]
    simp [unmerged]
  · rw [told, List.filterMap_append, published.flags]
    simp [clean]

private theorem trans {more : List Intake} (first : s.Publishes taken t)
    (target : t.target = s.target)
    (second : t.Publishes more u) : s.Publishes (taken ++ more) u := by
  constructor
  · rw [second.answers, first.answers, List.filterMap_append, List.append_assoc]
  · rw [second.flags, first.flags, target, List.filterMap_append, List.append_assoc]

end Publishes

/-! ## Messages -/

private theorem told_emitFor (s : Session) (epoch : Option Epoch) (event : Event) :
    (s.emitFor epoch event).told = s.told ++ [event] := by
  simp [told, emitFor]

private theorem publishes_absorb (s : Session) (answer : Answer) (origin : Origin) :
    s.Publishes [.page answer origin] (s.absorb answer origin) := by
  have told := (s.tells_absorb answer origin).told
  constructor
  · rw [told, List.filterMap_append, filterMap_merged?_news]
    rfl
  · rw [told, List.filterMap_append, filterMap_dirty?_news]
    cases dirty : s.target.dirtyAfter answer <;> simp [Intake.dirty?, dirty]

private theorem publishes_setDirty (s : Session) (answer : EditAnswer) :
    s.Publishes [.edit answer] (s.setDirty answer.dirty) := by
  have told := (s.tells_setDirty answer.dirty).told
  constructor
  · rw [told, List.filterMap_append]
    rfl
  · rw [told, List.filterMap_append]
    rfl

private theorem publishes_consider (s : Session) (v : Json) (origin : Origin)
    (captured : Option Epoch) :
    s.Publishes (s.intake? (.page captured origin (.ok v))).toList
      (s.consider v origin captured).1 := by
  rcases s.consider_cases v origin captured with
    (same | ⟨failure, same⟩) | ⟨answer, -, read, -, same⟩
  · simp only [intake?, same]
    exact .nothing rfl
  · simp only [intake?, same]
    exact .nothing rfl
  · simp only [intake?, same, read]
    exact s.publishes_absorb answer origin

private theorem publishes_onEditResponse (s : Session) (identity : String) (v : Json) :
    s.Publishes (s.intake? (.edit identity (.ok v))).toList (s.onEditResponse v).1 := by
  rcases read : EditAnswer.read v with failure | _ | answer
  · simp only [intake?, onEditResponse, read]
    exact .nothing rfl
  · simp only [intake?, onEditResponse, read]
    exact .nothing rfl
  · simp only [intake?, onEditResponse, read]
    exact s.publishes_setDirty answer

private theorem Publishes.report (published : s.Publishes taken t) (epoch : Option Epoch)
    (outcome : Except Failure Bool) : s.Publishes taken (t.report epoch outcome).1 := by
  cases outcome with
  | ok admitted => exact published
  | error failure => exact published.aside (t.told_emitFor _ _) rfl rfl

private theorem publishes_handle (s : Session) (message : Message) :
    s.Publishes (s.intake? message).toList (s.handle message).1 := by
  have silent : s.Publishes [] s := .nothing rfl
  match message with
  | .page captured origin (.ok v) => exact (s.publishes_consider v origin captured).report _ _
  | .page (some epoch) origin (.error reason) =>
    simp only [intake?, handle]
    split
    · exact silent.report _ _
    · exact silent
  | .page none origin (.error reason) => exact silent.report _ _
  | .edit identity (.ok v) => exact (s.publishes_onEditResponse identity v).report _ _
  | .edit identity (.error reason) => exact silent.report _ _

private theorem publishes_handleAll (s : Session) (messages : List Message) :
    s.Publishes (s.takes messages) (s.handleAll messages) := by
  induction messages generalizing s with
  | nil => exact .nothing rfl
  | cons message rest ih =>
    exact (s.publishes_handle message).trans (s.sameQueries_handle message).target (ih _)

private theorem publishes_handleAll_withInbox (s : Session) (inbox messages : List Message) :
    s.Publishes (s.takes messages) ({ s with inbox := inbox }.handleAll messages) := by
  obtain ⟨answers, flags⟩ := publishes_handleAll { s with inbox := inbox } messages
  rw [takes_withInbox] at answers flags
  exact ⟨answers, flags⟩

/-! ## Actions and runs -/

private theorem publishes_act_of_handled_nil (fresh : Epoch) (none : s.handled action = []) :
    s.Publishes [] (s.act fresh action) := by
  have silent : s.Publishes [] s := .nothing rfl
  have step := s.step fresh action
  generalize s.act fresh action = next at step ⊢
  cases step with
  | respond => cases none
  | respondEdit => cases none
  | select => exact silent.aside (s.told_emitFor _ _) rfl rfl
  | process processing waiting =>
    obtain ⟨rfl, rfl⟩ := nil_of_handled_nil none processing waiting
    exact silent.of_log rfl
  | _ => exact silent.of_log rfl

theorem publishes_act (s : Session) (fresh : Epoch) (action : Action) :
    s.Publishes (s.intakes action) (s.act fresh action) := by
  cases action with
  | onResponse v origin =>
    have single : s.intakes (.onResponse v origin) =
        (s.intake? (.page none origin (.ok v))).toList := List.append_nil _
    rw [single]
    exact s.publishes_consider v origin none
  | onEditResponse v =>
    have single : s.intakes (.onEditResponse v) = (s.intake? (.edit "" (.ok v))).toList :=
      List.append_nil _
    rw [single]
    exact s.publishes_onEditResponse "" v
  | processNext =>
    rw [act_processNext]
    exact s.publishes_handleAll_withInbox _ _
  | processPending =>
    simp only [act, processPending_eq]
    exact s.publishes_handleAll_withInbox _ _
  | _ => exact publishes_act_of_handled_nil fresh rfl

/-- The log tells of the answers and flags that a run takes in, in their order. -/
theorem publishes_run (s : Session) (steps : List (Epoch × Action)) :
    s.Publishes (s.intakesOf steps) (s.run steps) := by
  induction steps generalizing s with
  | nil => exact .nothing rfl
  | cons step steps ih =>
    have target := (s.extends_act step.1 step.2).target
    exact (s.publishes_act step.1 step.2).trans target (ih _)

private theorem identified_of_mem_intakesOf {steps : List (Epoch × Action)} {intake : Intake}
    (taken : intake ∈ s.intakesOf steps) : ∀ item ∈ intake.items, item.identity?.isSome := by
  induction steps generalizing s with
  | nil => cases taken
  | cons step steps ih =>
    rcases List.mem_append.mp taken with first | later
    · exact identified_of_mem_takes first
    · exact ih later

theorem told_of_begin {target : Target} {settings : Settings} {allocates : Nat → Bool}
    (opening : begin target settings allocates = .opened s) : s.told = [] := by
  rw [begin_eq_opened opening]
  rfl

private theorem exists_page_of_told {target : Target} {settings : Settings} {allocates : Nat → Bool}
    (opening : begin target settings allocates = .opened s) {steps : List (Epoch × Action)}
    {answer : Answer} {origin : Origin} (told : .queryComplete answer origin ∈ (s.run steps).told) :
    ∃ sender, .page answer sender ∈ s.intakesOf steps := by
  have merged : answer ∈ (s.run steps).told.filterMap Event.merged? :=
    List.mem_filterMap.mpr ⟨_, told, rfl⟩
  rw [(s.publishes_run steps).answers, told_of_begin opening] at merged
  obtain ⟨intake, taken, same⟩ := List.mem_filterMap.mp merged
  cases intake with
  | page found sender =>
    cases same
    exact ⟨sender, taken⟩
  | edit => cases same

private theorem Reachable.identified_of_told (reachable : Reachable s) {answer : Answer}
    {origin : Origin} (told : .queryComplete answer origin ∈ s.told) :
    ∀ item ∈ answer.results, item.identity?.isSome := by
  obtain ⟨_, _, _, first, steps, opening, rfl⟩ := reachable_iff_run.mp reachable
  obtain ⟨sender, taken⟩ := exists_page_of_told opening told
  exact identified_of_mem_intakesOf taken

private theorem onResponse_of_read {v : Json} {answer : Answer} (unstarted : t.epoch? = none)
    (read : Answer.read v = .ok (some answer)) (sender : Origin) :
    (t.Lacks answer sender →
      t.onResponse v sender = (t, .error (.malformed .listingWithoutDirty))) ∧
    (¬ t.Lacks answer sender →
      ∃ next, t.onResponse v sender = (next, .ok true) ∧ t.Admitted answer sender next) := by
  have current : ¬ t.Foreign v := by
    rintro ⟨epoch, token, newest, -⟩
    rw [unstarted] at newest
    cases newest
  have considered := onResponse_of_not_foreign current sender
  rw [read] at considered
  rcases t.validate_cases answer sender with ⟨lacks, invalid⟩ | ⟨passes, valid⟩
  · simp only [invalid] at considered
    exact ⟨fun _ => considered, fun passes => absurd lacks passes⟩
  · simp only [valid] at considered
    exact ⟨fun lacks => absurd lacks passes,
      fun _ => ⟨_, considered, t.admitted_absorb answer sender⟩⟩

/-- An answer whose rows have identities reads back from how it is written. Whatever answer a
session has told of is such an answer; it can be handed, as it stands in the event, to any session
without an epoch, which admits it as that answer, or refuses it for a flag that it lacks. What has
been read reads back after it has been written again, so that writing again what has been read
changes nothing the second time. Answers to edits read back, too. -/
theorem published_answers_read_back :
    (∀ answer : Answer, (∀ item ∈ answer.results, item.identity?.isSome) →
      Answer.read answer.toJson = .ok (some answer)) ∧
    (∀ (s : Session) (e : Envelope) (answer : Answer) (origin : Origin), Reachable s →
      e ∈ s.log.toList → e.event = .queryComplete answer origin →
      e.event.payload.get? "response" = some answer.toJson ∧
      Answer.read answer.toJson = .ok (some answer) ∧
      ∀ (t : Session) (sender : Origin), t.epoch? = none →
        (t.Lacks answer sender → t.onResponse answer.toJson sender =
          (t, .error (.malformed .listingWithoutDirty))) ∧
        (¬ t.Lacks answer sender → ∃ next, t.onResponse answer.toJson sender = (next, .ok true) ∧
          t.Admitted answer sender next)) ∧
    (∀ v answer, Answer.read v = .ok (some answer) →
      Answer.read answer.toJson = .ok (some answer)) ∧
    (∀ v w, Answer.normalize v = .ok (some w) → Answer.normalize w = .ok (some w)) ∧
    ∀ v answer, EditAnswer.read v = .ok (some answer) →
      EditAnswer.read answer.toJson = .ok (some answer) := by
  refine ⟨fun _ => Answer.read_toJson, ?_, fun _ _ => Answer.read_toJson_of_read,
    fun _ _ => Answer.normalize_eq_of_normalize, fun _ answer _ => answer.read_toJson⟩
  intro s e answer origin reachable logged event
  have told : .queryComplete answer origin ∈ s.told := List.mem_map.mpr ⟨e, logged, event⟩
  have read := Answer.read_toJson (reachable.identified_of_told told)
  refine ⟨?_, read, fun t sender unstarted => onResponse_of_read unstarted read sender⟩
  rw [event]
  simp [Event.payload, Json.ofPairs, Json.get?, Fields.get?]

/-- A peer's answer with an unknown field and without a token is told of. In the caller's own
listing it lacks a flag, unless it comes from a peer again. -/
theorem published_answers_read_back_of_peer :
    let row : Fields := [("infohash", .text "a"), ("size", .number (.int 3))]
    let v : Json := .object [("page", .number (.int 1)), ("results", .array [.object row]),
      ("total", .number (.int 18446744073709551615)), ("uuid", .null)]
    let answer : Answer := ⟨none, [⟨row⟩], some 18446744073709551615, none⟩
    let s := (initial (.search none) .default).run [(⟨1#128⟩, .refresh), (⟨2#128⟩, .push v),
      (⟨3#128⟩, .processNext)]
    let e : Envelope := ⟨1, some ⟨1#128⟩, .queryComplete answer .peer⟩
    let t := initial (.ownedListing true) .default
    let told : EditAnswer := ⟨false⟩
    s.log = #[e] ∧ e.event.payload.get? "response" = some answer.toJson ∧
    Answer.read answer.toJson = .ok (some answer) ∧
    t.onResponse answer.toJson .backend = (t, .error (.malformed .listingWithoutDirty)) ∧
    (∃ next, t.onResponse answer.toJson .peer = (next, .ok true) ∧
      t.Admitted answer .peer next) ∧
    answer.toJson ≠ v ∧ Answer.normalize answer.toJson = .ok (some answer.toJson) ∧
    EditAnswer.read told.toJson = .ok (some told) := by
  intro row v answer s e t told
  have opened : Reachable (initial (.search none) .default) :=
    .opened (begin_default _)
  have log : s.log = #[e] := by decide +kernel
  have logged : e ∈ s.log.toList := by
    rw [log]
    exact List.mem_singleton_self e
  have written : answer.WrittenAs v := ⟨.inr rfl, rfl, by decide +kernel, rfl, .inl rfl⟩
  have read : Answer.read v = .ok (some answer) :=
    Answer.read_eq_ok_iff_writtenAs.mpr ⟨written.not_void, written⟩
  obtain ⟨-, events, answers, normal, edits⟩ := published_answers_read_back
  obtain ⟨response, -, sessions⟩ := events s e answer .peer (opened.run _) logged rfl
  have lacks : t.Lacks answer .backend := ⟨rfl, rfl, rfl⟩
  have passes : ¬ t.Lacks answer .peer := fun lacks => Origin.noConfusion lacks.backend
  have once : Answer.normalize v = .ok (some answer.toJson) :=
    Answer.normalize_eq_some_iff.mpr ⟨answer, read, rfl⟩
  exact ⟨log, response, answers v answer read, (sessions t .backend rfl).1 lacks,
    (sessions t .peer rfl).2 passes, by decide +kernel, normal v answer.toJson once,
    edits told.toJson told rfl⟩

end Session

end LiveTable
