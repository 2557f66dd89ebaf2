import LiveTable.Proofs.Session.Handling
set_option autoImplicit false

/-!
# Leftovers

What past epochs leave behind: answers and failures of their queries, and what peers push with a
token of theirs. `Message.isLeftover` looks at the token only; `Message.isInert` also asks that the
query left in a past epoch. Main statements: once an epoch is current that is not past, an inert
message changes nothing, by `handle_of_inert`, and a list of messages does what the others of it do,
by `handleAll_others`.
-/

namespace LiveTable

/-- A value that echoes no token, or one that names no epoch but past ones. -/
def Session.outdated (past : List Epoch) (v : Json) : Bool :=
  ((echo? v).bind Epoch.ofText?).all (· ∈ past)

namespace Message

def captured? : Message → Option Epoch
  | page epoch _ _ => epoch
  | edit _ _ => none

/-- What may come of a query of a past epoch: an answer that is outdated, or a failure. Rows that
come on no request are outdated if they echo a token and that is. -/
def isLeftover (past : List Epoch) : Message → Bool
  | page (some _) _ (.ok v) => Session.outdated past v
  | page (some _) _ (.error _) => true
  | page none _ (.ok v) => (Session.echo? v).isSome && Session.outdated past v
  | page none _ (.error _) => false
  | edit _ _ => false

/-- A leftover whose query, if there is one, left in a past epoch. -/
def isInert (past : List Epoch) (message : Message) : Bool :=
  message.isLeftover past && message.captured?.all (· ∈ past)

theorem isInert_iff {past : List Epoch} {message : Message} :
    message.isInert past ↔ message.isLeftover past ∧
      ∀ epoch, message.captured? = some epoch → epoch ∈ past := by
  cases captured : message.captured? <;> simp [isInert, captured]

end Message

namespace Session

variable {past : List Epoch} {current : Epoch} {s : Session}

private theorem accepts_eq_false (newest : s.epoch? = some current) (new : current ∉ past)
    {captured : Option Epoch} {origin : Origin} {v : Json}
    (inert : (Message.page captured origin (.ok v)).isInert past) :
    s.accepts (echo? v) captured = false := by
  obtain ⟨leftover, asked⟩ := Message.isInert_iff.mp inert
  have outdated : outdated past v := by
    cases captured with
    | some epoch => exact leftover
    | none => exact (Bool.and_eq_true_iff.mp leftover).2
  unfold accepts
  rw [newest]
  cases echoed : echo? v with
  | some token =>
    have other : Epoch.ofText? token ≠ some current := by
      intro named
      simp only [Session.outdated, echoed, Option.bind_some, named, Option.all_some,
        decide_eq_true_eq] at outdated
      exact new outdated
    exact decide_eq_false other
  | none =>
    cases captured with
    | some epoch =>
      have passed : epoch ≠ current := fun same => new (same ▸ asked epoch rfl)
      exact decide_eq_false passed
    | none => simp [Message.isLeftover, echoed] at leftover

theorem consider_of_inert (newest : s.epoch? = some current) (new : current ∉ past)
    {captured : Option Epoch} {origin : Origin} {v : Json}
    (inert : (Message.page captured origin (.ok v)).isInert past) :
    s.consider v origin captured = (s, .ok false) :=
  if_neg (Bool.eq_false_iff.mp (accepts_eq_false newest new inert))

theorem handle_of_inert (newest : s.epoch? = some current) (new : current ∉ past)
    {message : Message} (inert : message.isInert past) : s.handle message = (s, .ok false) := by
  have asked := (Message.isInert_iff.mp inert).2
  match message, inert, asked with
  | .page captured origin (.ok v), inert, _ =>
    simp only [handle, consider_of_inert newest new inert, report]
  | .page (some epoch) _ (.error reason), _, asked =>
    have stale : s.epoch? ≠ some epoch := by
      rw [newest]
      exact fun same => new (Option.some.inj same ▸ asked epoch rfl)
    simp only [handle, if_neg stale]

def mail (s : Session) (past : List Epoch) : List Message :=
  s.inbox.filter fun message => !message.isInert past

theorem handleAll_others (newest : s.epoch? = some current) (new : current ∉ past)
    (messages : List Message) :
    s.handleAll messages = s.handleAll (messages.filter fun message => !message.isInert past) := by
  induction messages generalizing s with
  | nil => rfl
  | cons message messages ih =>
    have lasts := (s.sameQueries_handle message).epoch?.trans newest
    cases inert : message.isInert past with
    | true =>
      have skipped : (s.handle message).1 = s := by rw [handle_of_inert newest new inert]
      rw [List.filter_cons_of_neg (by simp [inert]), handleAll_cons, skipped]
      exact ih newest
    | false =>
      rw [List.filter_cons_of_pos (by simp [inert]), handleAll_cons, handleAll_cons]
      exact ih lasts

end Session

end LiveTable
