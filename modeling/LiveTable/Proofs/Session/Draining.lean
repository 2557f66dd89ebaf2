import LiveTable.Proofs.Session.Handling
set_option autoImplicit false

/-!
# Emptying the inbox

Handling a message puts none into the inbox, so that handling one after the other comes to an end.
`processTimes` makes a number of single calls, each of which has to find a message; `Drains` is the
loop that goes on until none waits, without a limit. Main statement: `draining_is_stepping`, by
which emptying the inbox is either of the two.
-/

namespace LiveTable

namespace Session

/-- The session after some calls of `processNext`, and what they gave back, if each found a message
to handle. -/
def processTimes (s : Session) : (calls : Nat) → Option (Session × List (Except Failure Bool))
  | 0 => some (s, [])
  | calls + 1 =>
    s.processNext.bind fun (next, outcome) =>
      (next.processTimes calls).map fun (last, outcomes) => (last, outcome :: outcomes)

/-- Messages are handled for as long as one waits, and counted. -/
inductive Drains : Session → Session → Nat → Prop
  | done {s : Session} (empty : s.processNext = none) : Drains s s 0
  | next {s next last : Session} {outcome : Except Failure Bool} {count : Nat}
      (processed : s.processNext = some (next, outcome)) (rest : Drains next last count) :
      Drains s last (count + 1)

variable {s next last : Session} {outcome : Except Failure Bool}
  {outcomes : List (Except Failure Bool)}

/-! ## Single calls -/

private theorem inbox_handle (s : Session) (message : Message) :
    (s.handle message).1.inbox = s.inbox :=
  (s.sameQueries_handle message).inbox

theorem processNext_eq_none_iff : s.processNext = none ↔ s.inbox = [] := by
  unfold processNext
  cases s.inbox <;> simp

private theorem inbox_of_processNext (processed : s.processNext = some (next, outcome)) :
    ∃ message, s.inbox = message :: next.inbox := by
  cases waiting : s.inbox with
  | nil =>
    rw [processNext_eq_none_iff.mpr waiting] at processed
    cases processed
  | cons message rest =>
    have handled : s.processNext = some ({ s with inbox := rest }.handle message) := by
      simp only [processNext, waiting]
    have same : { s with inbox := rest }.handle message = (next, outcome) :=
      Option.some.inj (handled.symm.trans processed)
    have left : next.inbox = rest := by
      have kept := inbox_handle { s with inbox := rest } message
      rwa [same] at kept
    exact ⟨message, by rw [left]⟩

private theorem exists_processNext {message : Message} {rest : List Message}
    (waiting : s.inbox = message :: rest) :
    ∃ next outcome, s.processNext = some (next, outcome) ∧ next.inbox = rest := by
  cases processed : s.processNext with
  | none =>
    rw [processNext_eq_none_iff.mp processed] at waiting
    cases waiting
  | some result =>
    obtain ⟨oldest, same⟩ := inbox_of_processNext processed
    rw [waiting] at same
    exact ⟨result.1, result.2, rfl, (List.cons.inj same).2.symm⟩

/-! ## Loops -/

private theorem processPending_of_none (empty : s.processNext = none) :
    s.processPending = (s, 0) := by
  have nothing := processNext_eq_none_iff.mp empty
  rw [processPending, nothing]
  rfl

theorem processPending_of_some (processed : s.processNext = some (next, outcome)) :
    s.processPending = next.processPending.map id (· + 1) := by
  obtain ⟨message, waiting⟩ := inbox_of_processNext processed
  simp only [processPending, waiting, List.length_cons, drain, processed]

private theorem count_processPending (s : Session) : s.processPending.2 = s.inbox.length := by
  rw [processPending_eq]

private theorem drains_iff {count : Nat} :
    s.Drains last count ↔ (last, count) = s.processPending := by
  constructor
  · intro drains
    induction drains with
    | done empty => exact (processPending_of_none empty).symm
    | next processed _ ih => rw [processPending_of_some processed, ← ih, Prod.map, id]
  · -- As many messages are handled as wait, so the induction is on their number.
    generalize length : s.inbox.length = n
    induction n generalizing s last count with
    | zero =>
      intro ended
      have empty := processNext_eq_none_iff.mpr (List.length_eq_zero_iff.mp length)
      rw [processPending_of_none empty] at ended
      cases ended
      exact .done empty
    | succ n ih =>
      intro ended
      obtain ⟨message, rest, waiting⟩ := List.exists_cons_of_length_eq_add_one length
      obtain ⟨next, outcome, processed, left⟩ := exists_processNext waiting
      have fewer : next.inbox.length = n := by
        rw [waiting, List.length_cons, Nat.add_right_cancel_iff] at length
        rw [left, length]
      rw [processPending_of_some processed] at ended
      cases ended
      exact .next processed (ih fewer rfl)

private theorem exists_processTimes {calls : Nat} (enough : calls ≤ s.inbox.length) :
    ∃ last outcomes, s.processTimes calls = some (last, outcomes) ∧ outcomes.length = calls := by
  induction calls generalizing s with
  | zero => exact ⟨s, [], rfl, rfl⟩
  | succ calls ih =>
    obtain ⟨message, rest, waiting⟩ : ∃ message rest, s.inbox = message :: rest := by
      cases inbox : s.inbox with
      | nil => simp [inbox] at enough
      | cons message rest => exact ⟨message, rest, rfl⟩
    obtain ⟨next, outcome, processed, left⟩ := exists_processNext waiting
    have more : calls ≤ next.inbox.length := by
      rw [waiting, List.length_cons] at enough
      rw [left]
      omega
    obtain ⟨last, outcomes, stepped, length⟩ := ih more
    refine ⟨last, outcome :: outcomes, ?_, by rw [List.length_cons, length]⟩
    simp only [processTimes, processed, stepped, Option.bind_some, Option.map_some]

theorem processPending_of_processTimes {calls : Nat}
    (stepped : s.processTimes calls = some (last, outcomes)) :
    s.processPending = last.processPending.map id (· + calls) := by
  induction calls generalizing s outcomes with
  | zero =>
    cases stepped
    rfl
  | succ calls ih =>
    obtain ⟨⟨next, outcome⟩, processed, rest⟩ := Option.bind_eq_some_iff.mp stepped
    obtain ⟨⟨stop, others⟩, later, same⟩ := Option.map_eq_some_iff.mp rest
    cases same
    rw [processPending_of_some processed, ih later]
    simp only [Prod.map, id, Nat.add_assoc]

theorem processTimes_of_ahead {ahead rest : List Message} (waiting : s.inbox = ahead ++ rest) :
    ∃ outcomes, s.processTimes ahead.length =
      some ({ s with inbox := rest }.handleAll ahead, outcomes) := by
  induction ahead generalizing s with
  | nil =>
    have same : { s with inbox := rest } = s := by rw [← List.nil_append rest, ← waiting]
    exact ⟨[], by rw [same]; rfl⟩
  | cons message ahead ih =>
    obtain ⟨outcomes, later⟩ := ih (s := { (s.handle message).1 with inbox := ahead ++ rest }) rfl
    refine ⟨(s.handle message).2 :: outcomes, ?_⟩
    simp only [List.length_cons, processTimes, processNext, waiting, List.cons_append,
      handle_withInbox, Option.bind_some, later, Option.map_some, handleAll_cons]

private theorem processPending_of_processTimes_length
    (stepped : s.processTimes s.inbox.length = some (last, outcomes)) :
    s.processPending = (last, s.inbox.length) ∧ last.inbox = [] := by
  have split := processPending_of_processTimes stepped
  have waiting : last.inbox.length = 0 := by
    have counted := congrArg Prod.snd split
    rw [count_processPending, Prod.map_snd, count_processPending] at counted
    omega
  have empty : last.inbox = [] := List.length_eq_zero_iff.mp waiting
  rw [split, processPending_of_none (processNext_eq_none_iff.mpr empty)]
  exact ⟨by simp only [Prod.map, id, Nat.zero_add], empty⟩

private theorem exists_processTimes_processPending {calls : Nat} (enough : calls ≤ s.inbox.length) :
    ∃ mid before, s.processTimes calls = some (mid, before) ∧
      mid.processPending = (s.processPending.1, s.inbox.length - calls) := by
  obtain ⟨mid, before, stepped, -⟩ := exists_processTimes enough
  have split := processPending_of_processTimes stepped
  have counted := count_processPending s
  refine ⟨mid, before, stepped, ?_⟩
  rw [split, Prod.map_snd] at counted
  rw [split]
  refine Prod.ext rfl ?_
  show mid.processPending.2 = s.inbox.length - calls
  omega

/-- Handling a message leaves the inbox as it is. Emptying the inbox handles as many messages as
wait and leaves none. It leads to the very session, the log included, that as many single calls lead
to, each of which finds a message; and so does emptying it after some of these calls. The loop that
goes on for as long as a message waits ends, and ends nowhere else. -/
theorem draining_is_stepping (s : Session) :
    (∀ message, (s.handle message).1.inbox = s.inbox) ∧
    ∃ last outcomes, s.processPending = (last, s.inbox.length) ∧ last.inbox = [] ∧
      s.processTimes s.inbox.length = some (last, outcomes) ∧
      outcomes.length = s.inbox.length ∧ last.processNext = none ∧
      (∀ calls, calls ≤ s.inbox.length → ∃ mid before,
        s.processTimes calls = some (mid, before) ∧
          mid.processPending = (last, s.inbox.length - calls)) ∧
      ∀ final count, s.Drains final count ↔ final = last ∧ count = s.inbox.length := by
  refine ⟨s.inbox_handle, ?_⟩
  obtain ⟨last, outcomes, stepped, length⟩ :=
    exists_processTimes (Nat.le_refl s.inbox.length)
  obtain ⟨drained, empty⟩ := processPending_of_processTimes_length stepped
  refine ⟨last, outcomes, drained, empty, stepped, length, processNext_eq_none_iff.mpr empty,
    ?partly, ?loop⟩
  case partly =>
    intro calls enough
    have partly := exists_processTimes_processPending enough
    rwa [drained] at partly
  case loop =>
    intro final count
    rw [drains_iff, drained, Prod.mk.injEq]

/-- Rows that a peer pushes wait before rows of another epoch, rows that cannot be read, a query
that failed and the answer to an edit. -/
theorem draining_is_stepping_of_mixture :
    let rows (hash : String) : String × Json :=
      ("results", .array [.object [("infohash", .text hash)]])
    let steps : List (Epoch × Action) := [(⟨1#128⟩, .refresh),
      (⟨2#128⟩, .patchField "a" "name" (.text "one")), (⟨3#128⟩, .push (.object [rows "a"])),
      (⟨4#128⟩, .push (.object [rows "b", ("uuid", .text "other")])),
      (⟨5#128⟩, .push (.object [("results", .null)])), (⟨6#128⟩, .answer 0 (.error "timeout")),
      (⟨7#128⟩, .answer 1 (.ok (.object [("dirty", .bool true)])))]
    let s := (initial (.ownedListing true) .default).run steps
    s.inbox.length = 5 ∧ s.processPending.1.rows.size = 1 ∧ s.processPending.1.log.size = 4 ∧
      s.processPending.1.editSession = some true ∧
      ∃ last outcomes mid before, s.processPending = (last, 5) ∧
        s.processTimes 5 = some (last, outcomes) ∧ outcomes.length = 5 ∧
        s.processTimes 2 = some (mid, before) ∧ mid.processPending = (last, 3) := by
  intro rows steps s
  have waiting : s.inbox.length = 5 := by decide +kernel
  obtain ⟨-, last, outcomes, drained, -, stepped, length, -, partly, -⟩ := draining_is_stepping s
  rw [waiting] at drained stepped length partly
  obtain ⟨mid, before, two, rest⟩ := partly 2 (by decide)
  exact ⟨waiting, by decide +kernel, by decide +kernel, by decide +kernel, last, outcomes, mid,
    before, drained, stepped, length, two, rest⟩

end Session

end LiveTable
