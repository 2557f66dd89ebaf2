import LiveTable.Proofs.Session.Admission
import LiveTable.Proofs.Session.Booking
set_option autoImplicit false

/-!
# Answers by way of the inbox

An answer that waits in the inbox is treated like one that the owner hands over, with two
differences: a failure is told, by `tellingFailure`, as nobody else would hear of it; and an answer
to a query that echoes no token is taken to name the epoch in which the query left. Main statement:
`inbox_agrees_with_calls`.
-/

namespace LiveTable

namespace Session

/-- What becomes of a call that a message brings about: a failure is told, behind all else. -/
def tellingFailure (called : Session × Except Failure Bool) : Session × Except Failure Bool :=
  match called.2 with
  | .ok _ => called
  | .error failure => (called.1.emit (.requestFailed failure), called.2)

def close (s : Session) (number : Nat) : Session :=
  { s with pending := s.pending.filter (·.number ≠ number) }

variable {s : Session} {v : Json} {epoch : Epoch} {origin : Origin}

/-! ## Handling and calling -/

theorem handle_page (s : Session) (v : Json) (origin : Origin) (captured : Option Epoch) :
    s.handle (.page captured origin (.ok v)) = tellingFailure (s.consider v origin captured) := by
  rcases s.consider_cases v origin captured with (same | ⟨failure, same⟩) | ⟨_, -, -, -, same⟩
  · simp only [handle, same, report, tellingFailure]
  · simp only [handle, same, report, tellingFailure, Option.or_self, emit]
  · simp only [handle, same, report, tellingFailure]

theorem handle_edit (s : Session) (identity : String) (v : Json) :
    s.handle (.edit identity (.ok v)) = tellingFailure (s.onEditResponse v) := by
  rcases read : EditAnswer.read v with failure | _ | answer
  · simp only [handle, onEditResponse, read, report, tellingFailure, Option.or_self, emit]
  · simp only [handle, onEditResponse, read, report, tellingFailure]
  · simp only [handle, onEditResponse, read, report, tellingFailure]

private theorem consider_captured (named : s.epoch? = some epoch ∨ ∃ token, echo? v = some token)
    (origin : Origin) : s.consider v origin (some epoch) = s.onResponse v origin := by
  have same : s.accepts (echo? v) (some epoch) = s.accepts (echo? v) none := by
    unfold accepts
    rcases named with current | ⟨token, echoed⟩
    · rw [current]
      cases echo? v <;> simp
    · rw [echoed]
  simp only [onResponse, consider]
  rw [← echo?, same]

private theorem consider_of_tokenless (reachable : Reachable s) {number : Nat}
    (asked : ⟨number, .page epoch⟩ ∈ s.pending)
    (unnamed : ¬ (s.epoch? = some epoch ∨ ∃ token, echo? v = some token)) (origin : Origin) :
    s.consider v origin (some epoch) = (s, .ok false) := by
  obtain ⟨passed, silent⟩ := not_or.mp unnamed
  have tokenless : echo? v = none := by
    cases echoed : echo? v with
    | none => rfl
    | some token => exact absurd ⟨token, echoed⟩ silent
  -- There is a current epoch, as the query left in one.
  obtain ⟨current, newest⟩ : ∃ current, s.epoch? = some current := by
    have known := reachable.traced number epoch asked
    cases epochs : s.epochs with
    | nil =>
      rw [epochs] at known
      cases known
    | cons current older => exact ⟨current, by rw [epoch?, epochs]; rfl⟩
  have other : epoch ≠ current := fun same => passed (same ▸ newest)
  have stale : s.accepts (echo? v) (some epoch) = false := by
    simp only [accepts, newest, tokenless]
    exact decide_eq_false other
  exact if_neg (Bool.eq_false_iff.mp stale)

/-! ## Posting -/

private theorem processNext_push (empty : s.inbox = []) (v : Json) :
    (s.push v).processNext = some (s.handle (.page none .peer (.ok v))) := by
  have emptied : { s with inbox := [] } = s := by rw [← empty]
  simp only [push, post, processNext, empty, List.nil_append]
  rw [emptied]

private theorem processNext_answer (reachable : Reachable s) (empty : s.inbox = []) {number : Nat}
    {purpose : Purpose} (asked : ⟨number, purpose⟩ ∈ s.pending) (v : Json) (fresh : Epoch) :
    (s.act fresh (.answer number (.ok v))).processNext =
      some ((s.handle (OpenRequest.message ⟨number, purpose⟩ (.ok v))).map
        (·.close number) id) := by
  have found : s.pending.find? (·.number = number) = some ⟨number, purpose⟩ :=
    reachable.booked.find?_eq asked
  have framed := (unseen_withWaiting [] (s.pending.filter (·.number ≠ number))).handle s
    (OpenRequest.message ⟨number, purpose⟩ (.ok v))
  have same := s.sameQueries_handle (OpenRequest.message ⟨number, purpose⟩ (.ok v))
  have emptied := same.inbox.trans empty
  simp only [act, answer?, found, Option.map_some, Option.getD_some, post, processNext, empty,
    List.nil_append, framed, Prod.map, id, close, same.pending, emptied]

/-- Whatever is pushed or comes of an open request while nothing waits, and is processed then, goes
as if the owner had handed it over, but for a last event that tells of a failure; and the request is
no longer open. Only an answer to a query of a past epoch that echoes no token is dropped. -/
theorem inbox_agrees_with_calls (reachable : Reachable s) (empty : s.inbox = []) (v : Json) :
    (s.push v).processNext = some (tellingFailure (s.onResponse v .peer)) ∧
    (∀ (number : Nat) (epoch fresh : Epoch), ⟨number, .page epoch⟩ ∈ s.pending →
      let processed := (s.act fresh (.answer number (.ok v))).processNext
      let named := s.epoch? = some epoch ∨ ∃ token, v.get? "uuid" = some (.text token)
      (named → processed =
        some ((tellingFailure (s.onResponse v .backend)).map (·.close number) id)) ∧
      (¬ named → processed = some (s.close number, .ok false))) ∧
    (∀ (number : Nat) (identity : String) (fresh : Epoch),
      ⟨number, .edit identity⟩ ∈ s.pending →
      (s.act fresh (.answer number (.ok v))).processNext =
        some ((tellingFailure (s.onEditResponse v)).map (·.close number) id)) ∧
    ∀ failure : Failure, (Event.requestFailed failure).payload =
      Json.ofPairs [("code", .text failure.code), ("reason", .text failure.message)] := by
  refine ⟨?_, ?_, ?_, fun _ => rfl⟩
  · rw [processNext_push empty, handle_page]
    rfl
  · intro number epoch fresh asked processed named
    have handled : processed = some
        ((tellingFailure (s.consider v .backend (some epoch))).map (·.close number) id) := by
      rw [← handle_page]
      exact processNext_answer reachable empty asked v fresh
    simp only [named, ← echo?_eq_some_iff]
    rw [handled]
    constructor
    · intro named
      rw [consider_captured named]
    · intro unnamed
      rw [consider_of_tokenless reachable asked unnamed]
      rfl
  · intro number identity fresh asked
    rw [← handle_edit]
    exact processNext_answer reachable empty asked v fresh

/-- A table has been refreshed while its first query was open. What has no rows and no token is
dropped as the answer to the first query, and is a fault as that to the second one. -/
theorem inbox_agrees_with_calls_of_two_queries :
    let v : Json := .object [("results", .null)]
    let failure : Failure := .malformed .noResults
    let s := ((initial (.search none) .default).act ⟨1#128⟩ .refresh).act ⟨2#128⟩ .refresh
    s.inbox = [] ∧ (∃ number, ⟨number, .page ⟨1#128⟩⟩ ∈ s.pending) ∧
    (s.act ⟨3#128⟩ (.answer 0 (.ok v))).processNext = some (s.close 0, .ok false) ∧
    (s.act ⟨3#128⟩ (.answer 1 (.ok v))).processNext =
      some ((s.emit (.requestFailed failure)).close 1, .error failure) ∧
    (s.push v).processNext = some (s.emit (.requestFailed failure), .error failure) := by
  intro v failure s
  have opened : Reachable (initial (.search none) .default) :=
    .opened (begin_default _)
  have reachable : Reachable s := (opened.act ⟨1#128⟩ .refresh).act ⟨2#128⟩ .refresh
  have late : ⟨0, .page ⟨1#128⟩⟩ ∈ s.pending := List.mem_cons_self
  have current : ⟨1, .page ⟨2#128⟩⟩ ∈ s.pending :=
    List.mem_cons_of_mem _ (List.mem_singleton_self _)
  have unnamed : ¬ (s.epoch? = some ⟨1#128⟩ ∨ ∃ token, v.get? "uuid" = some (.text token)) := by
    rintro (same | ⟨token, echoed⟩)
    · exact absurd same (by decide)
    · cases echoed
  obtain ⟨pushed, queries, -⟩ := inbox_agrees_with_calls reachable rfl v
  exact ⟨rfl, ⟨0, late⟩, (queries 0 ⟨1#128⟩ ⟨3#128⟩ late).2 unnamed,
    (queries 1 ⟨2#128⟩ ⟨3#128⟩ current).1 (.inl rfl), pushed⟩

end Session

end LiveTable
