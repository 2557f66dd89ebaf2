import LiveTable.Proofs.Session.Leftover
import LiveTable.Proofs.Session.Replica
import LiveTable.Proofs.Session.Ticket
set_option autoImplicit false

/-!
# Sessions that go on alike

Two sessions are compared from a moment of each on. What they have sent, told and left open since is
counted from there, and inert messages do not count as mail. `Paired` says that all this and what
queries are made of are the same, `Alike` that the tables are too and that an epoch is current that
is not past. Each operation leads from sessions that are alike to such again; starting an epoch does
so from paired ones. Main statement: `Alike.act`, by which this holds of every action, the answers
being those to the same requests since.
-/

namespace LiveTable

def OpenRequest.behind? (before : Nat) (request : OpenRequest) : Option OpenRequest :=
  if before ≤ request.number then some ⟨request.number - before, request.purpose⟩ else none

/-- An action as it is after some requests: answers are to requests behind those. -/
def Action.shifted (before : Nat) : Action → Action
  | .answer number outcome => .answer (before + number) outcome
  | action => action

namespace Session

variable {past : List Epoch} {first second third s s' t t' u : Session} {events : List Event}

/-! ## What has happened since -/

def sentSince (s first : Session) : List Request := s.wire.toList.drop first.wire.size

def openSince (s first : Session) : List OpenRequest :=
  s.pending.filterMap (OpenRequest.behind? first.wire.size)

/-- The events that have been sent since, with the epochs that they are stamped with. -/
def toldSince (s first : Session) : List (Option Epoch × Event) :=
  (s.log.toList.drop first.log.size).map fun e => (e.epoch, e.event)

/-- Nothing has been taken back since, and what is open of older requests was open then. -/
structure Since (first s : Session) : Prop where
  kept : first.Extends s
  older : ∀ request ∈ s.pending, request.number < first.wire.size → request ∈ first.pending

namespace Since

theorem refl (s : Session) : s.Since s := ⟨.refl s, fun _ member _ => member⟩

theorem size_wire (since : first.Since s) : first.wire.size ≤ s.wire.size := by
  simpa using since.kept.wire.length_le

private theorem size_log (since : first.Since s) : first.log.size ≤ s.log.size := by
  simpa using since.kept.log.length_le

private theorem of_subset (since : first.Since s) (kept : s.Extends t)
    (pending : t.pending ⊆ s.pending) :
    first.Since t :=
  ⟨since.kept.trans kept, fun request member => since.older request (pending member)⟩

private theorem of_tells (since : first.Since s) (same : s.SameQueries t)
    (tells : s.Tells events t) :
    first.Since t := by
  refine since.of_subset ⟨same.target, same.settings, ?_, ?_, ?_⟩ ?_
  · simp [same.epochs]
  · simp [tells.log]
  · simp [same.wire]
  · simp [same.pending]

private theorem perform (since : first.Since s) (request : Request) (purpose : Purpose) :
    first.Since (s.perform request purpose) := by
  refine ⟨since.kept.trans ?_, ?_⟩
  · exact ⟨rfl, rfl, List.suffix_refl _, List.prefix_refl _, by simp [Session.perform]⟩
  · intro unanswered member below
    rcases List.mem_append.mp member with old | new
    · exact since.older unanswered old below
    · rw [List.mem_singleton.mp new] at below
      exact absurd since.size_wire (Nat.not_le.mpr below)

private theorem length_sentSince (since : first.Since s) :
    (s.sentSince first).length + first.wire.size = s.wire.size := by
  have := since.size_wire
  simp only [sentSince, List.length_drop, Array.length_toList]
  omega

private theorem sentSince_perform (since : first.Since s) (request : Request) (purpose : Purpose) :
    (s.perform request purpose).sentSince first = s.sentSince first ++ [request] := by
  simp only [sentSince, Session.perform, Array.toList_push]
  exact List.drop_append_of_le_length (by simpa using since.size_wire)

private theorem openSince_perform (since : first.Since s) (request : Request) (purpose : Purpose) :
    (s.perform request purpose).openSince first =
      s.openSince first ++ [⟨(s.sentSince first).length, purpose⟩] := by
  have place : s.wire.size - first.wire.size = (s.sentSince first).length := by
    have := since.length_sentSince
    omega
  simp [openSince, Session.perform, OpenRequest.behind?, since.size_wire, place]

private theorem toldSince_of_tells (since : first.Since s) (tells : s.Tells events t) :
    t.toldSince first = s.toldSince first ++ events.map fun event => (s.epoch?, event) := by
  have stamped : (s.envelopes events).map (fun e => (e.epoch, e.event)) =
      events.map fun event => (s.epoch?, event) := by
    apply List.ext_getElem?
    intro place
    cases held : events[place]? <;> simp [envelopes, List.getElem?_mapIdx, held]
  have behind : (s.log.toList ++ s.envelopes events).drop first.log.size =
      s.log.toList.drop first.log.size ++ s.envelopes events :=
    List.drop_append_of_le_length (by simpa using since.size_log)
  rw [toldSince, tells.log, behind, List.map_append, stamped]
  rfl

end Since

private theorem find?_openSince (s first : Session) (number : Nat) :
    (s.openSince first).find? (·.number = number) =
      (s.pending.find? (·.number = first.wire.size + number)).map (⟨number, ·.purpose⟩) := by
  unfold openSince
  induction s.pending with
  | nil => rfl
  | cons request rest ih =>
    by_cases place : request.number = first.wire.size + number
    · simp [OpenRequest.behind?, place]
    · by_cases behind : first.wire.size ≤ request.number
      · have apart : request.number - first.wire.size ≠ number := by omega
        simp [OpenRequest.behind?, place, behind, apart, ih]
      · simp [OpenRequest.behind?, place, behind, ih]

private theorem filterMap_behind?_filter (before number : Nat) (requests : List OpenRequest) :
    (requests.filter (·.number ≠ before + number)).filterMap (OpenRequest.behind? before) =
      (requests.filterMap (OpenRequest.behind? before)).filter (·.number ≠ number) := by
  induction requests with
  | nil => rfl
  | cons request rest ih =>
    by_cases place : request.number = before + number
    · simpa [OpenRequest.behind?, place] using ih
    · by_cases behind : before ≤ request.number
      · have apart : request.number - before ≠ number := by omega
        simpa [OpenRequest.behind?, place, behind, apart] using ih
      · simpa [OpenRequest.behind?, place, behind] using ih

theorem filterMap_behind?_filter_of_lt {before number : Nat} (older : number < before)
    (requests : List OpenRequest) :
    (requests.filter (·.number ≠ number)).filterMap (OpenRequest.behind? before) =
      requests.filterMap (OpenRequest.behind? before) := by
  induction requests with
  | nil => rfl
  | cons request rest ih =>
    by_cases place : request.number = number
    · simpa [OpenRequest.behind?, place, Nat.not_le.mpr older] using ih
    · simp only [place, ne_eq, not_false_eq_true, decide_true, List.filter_cons_of_pos,
        List.filterMap_cons]
      rw [ih]

/-! ## Pairs of sessions -/

def Expects (s : Session) (past : List Epoch) : Prop :=
  ∃ message rest, s.inbox = message :: rest ∧ message.isInert past = false

/-- Sessions that are set up alike, and that since some sessions have done the same. -/
structure Paired (past : List Epoch) (first second s t : Session) : Prop where
  left : first.Since s
  right : second.Since t
  target : s.target = t.target
  settings : s.settings = t.settings
  filterText : s.filterText = t.filterText
  sort : s.sort = t.sort
  mail : s.mail past = t.mail past
  sent : s.sentSince first = t.sentSince second
  opened : s.openSince first = t.openSince second
  told : s.toldSince first = t.toldSince second

/-- Paired sessions with the same table, in an epoch that is not past. -/
structure Alike (past : List Epoch) (first second s t : Session) : Prop
    extends Paired past first second s t where
  rows : s.rows = t.rows
  total : s.total = t.total
  window : s.window = t.window
  epoch : s.epoch? = t.epoch?
  current : ∃ epoch, s.epoch? = some epoch ∧ epoch ∉ past

theorem Paired.startEpoch (paired : Paired past first second s t) {fresh : Epoch}
    (new : fresh ∉ past) (window : Option Window) :
    Alike past first second (s.startEpoch fresh window) (t.startEpoch fresh window) where
  left := paired.left.of_subset (s.extends_startEpoch fresh window) (List.Subset.refl _)
  right := paired.right.of_subset (t.extends_startEpoch fresh window) (List.Subset.refl _)
  target := paired.target
  settings := paired.settings
  filterText := paired.filterText
  sort := paired.sort
  mail := paired.mail
  sent := paired.sent
  opened := paired.opened
  told := paired.told
  rows := rfl
  total := rfl
  window := by simp only [Session.startEpoch, paired.settings]
  epoch := rfl
  current := ⟨fresh, rfl, new⟩

namespace Alike

theorem symm (alike : Alike past first second s t) : Alike past second first t s where
  left := alike.right
  right := alike.left
  target := alike.target.symm
  settings := alike.settings.symm
  filterText := alike.filterText.symm
  sort := alike.sort.symm
  mail := alike.mail.symm
  sent := alike.sent.symm
  opened := alike.opened.symm
  told := alike.told.symm
  rows := alike.rows.symm
  total := alike.total.symm
  window := alike.window.symm
  epoch := alike.epoch.symm
  current := alike.epoch ▸ alike.current

theorem trans (alike : Alike past first second s t) (other : Alike past second third t u) :
    Alike past first third s u where
  left := alike.left
  right := other.right
  target := alike.target.trans other.target
  settings := alike.settings.trans other.settings
  filterText := alike.filterText.trans other.filterText
  sort := alike.sort.trans other.sort
  mail := alike.mail.trans other.mail
  sent := alike.sent.trans other.sent
  opened := alike.opened.trans other.opened
  told := alike.told.trans other.told
  rows := alike.rows.trans other.rows
  total := alike.total.trans other.total
  window := alike.window.trans other.window
  epoch := alike.epoch.trans other.epoch
  current := alike.current

/-! ### What the owner changes -/

private theorem withSort (alike : Alike past first second s t) (sort : SortOrder) :
    Alike past first second { s with sort := sort } { t with sort := sort } :=
  { alike with
    left := alike.left.of_subset (.of_eq rfl rfl rfl rfl rfl) (List.Subset.refl _)
    right := alike.right.of_subset (.of_eq rfl rfl rfl rfl rfl) (List.Subset.refl _)
    sort := rfl }

private theorem withFilterText (alike : Alike past first second s t) {text text' : String}
    (same : text = text') :
    Alike past first second { s with filterText := text } { t with filterText := text' } :=
  { alike with
    left := alike.left.of_subset (.of_eq rfl rfl rfl rfl rfl) (List.Subset.refl _)
    right := alike.right.of_subset (.of_eq rfl rfl rfl rfl rfl) (List.Subset.refl _)
    filterText := same }

private theorem withWindow (alike : Alike past first second s t) (window : Window) :
    Alike past first second { s with window := window } { t with window := window } :=
  { alike with
    left := alike.left.of_subset (.of_eq rfl rfl rfl rfl rfl) (List.Subset.refl _)
    right := alike.right.of_subset (.of_eq rfl rfl rfl rfl rfl) (List.Subset.refl _)
    window := rfl }

private theorem withRows (alike : Alike past first second s t) {rows rows' : Rows}
    (same : rows = rows') :
    Alike past first second { s with rows := rows } { t with rows := rows' } :=
  { alike with
    left := alike.left.of_subset (.of_eq rfl rfl rfl rfl rfl) (List.Subset.refl _)
    right := alike.right.of_subset (.of_eq rfl rfl rfl rfl rfl) (List.Subset.refl _)
    rows := same }

theorem withWaiting (alike : Alike past first second s t) {inbox inbox' : List Message}
    {pending pending' : List OpenRequest} (fewer : pending ⊆ s.pending)
    (fewer' : pending' ⊆ t.pending)
    (opened : pending.filterMap (OpenRequest.behind? first.wire.size) =
      pending'.filterMap (OpenRequest.behind? second.wire.size))
    (mail : inbox.filter (fun message => !message.isInert past) =
      inbox'.filter fun message => !message.isInert past) :
    Alike past first second { s with inbox := inbox, pending := pending }
      { t with inbox := inbox', pending := pending' } :=
  { alike with
    left := alike.left.of_subset (.of_eq rfl rfl rfl rfl rfl) fewer
    right := alike.right.of_subset (.of_eq rfl rfl rfl rfl rfl) fewer'
    opened := opened
    mail := mail }

/-! ### Queries and edits -/

private theorem perform (alike : Alike past first second s t) {request request' : Request}
    {purpose purpose' : Purpose} (requests : request = request') (purposes : purpose = purpose') :
    Alike past first second (s.perform request purpose) (t.perform request' purpose') :=
  { alike with
    left := alike.left.perform request purpose
    right := alike.right.perform request' purpose'
    sent := by
      rw [alike.left.sentSince_perform, alike.right.sentSince_perform, alike.sent, requests]
    opened := by
      rw [alike.left.openSince_perform, alike.right.openSince_perform, alike.opened, alike.sent,
        purposes] }

private theorem withLatest (alike : Alike past first second s t) {epochs epochs' : List Epoch}
    (lasts : epochs = s.epochs) (lasts' : epochs' = t.epochs) (latest latest' : Option Nat) :
    Alike past first second { s with epochs := epochs, latestQuery := latest }
      { t with epochs := epochs', latestQuery := latest' } := by
  subst lasts lasts'
  exact { alike with
    left := alike.left.of_subset (.of_eq rfl rfl rfl rfl rfl) (List.Subset.refl _)
    right := alike.right.of_subset (.of_eq rfl rfl rfl rfl rfl) (List.Subset.refl _) }

private theorem sendQuery (alike : Alike past first second s t) (fresh : Epoch)
    (endpoint filter : String) (extra : Fields) :
    Alike past first second (s.sendQuery fresh endpoint filter extra).1
        (t.sendQuery fresh endpoint filter extra).1 ∧
      (s.sendQuery fresh endpoint filter extra).2 =
        (t.sendQuery fresh endpoint filter extra).2 := by
  -- As an epoch is current, the query starts none.
  have lasting {u : Session} (has : ∃ epoch, u.epoch? = some epoch ∧ epoch ∉ past)
      (epoch : Epoch) : (if u.epochs.isEmpty then [epoch] else u.epochs) = u.epochs := by
    obtain ⟨current, newest, -⟩ := has
    obtain ⟨older, listed⟩ := List.head?_eq_some_iff.mp newest
    simp [listed]
  have noted := alike.withLatest (lasting alike.current (s.epoch?.getD fresh))
    (lasting alike.symm.current (t.epoch?.getD fresh)) (some s.wire.size) (some t.wire.size)
  have queries : (⟨s.epoch?.getD fresh, filter, s.sort, s.window, s.settings.hideXxx, extra⟩ :
      Query) = ⟨t.epoch?.getD fresh, filter, t.sort, t.window, t.settings.hideXxx, extra⟩ := by
    rw [alike.epoch, alike.sort, alike.window, alike.settings]
  have purposes : Purpose.page (s.epoch?.getD fresh) = .page (t.epoch?.getD fresh) := by
    rw [alike.epoch]
  refine ⟨noted.perform (congrArg (Query.request · endpoint) queries) purposes, ?_⟩
  simp only [Session.sendQuery, Query.encode_eq_ok, alike.epoch, alike.sort, alike.window,
    alike.settings]

theorem query (alike : Alike past first second s t) (fresh : Epoch) (extra : Fields) :
    Alike past first second (s.query fresh extra).1 (t.query fresh extra).1 ∧
      (s.query fresh extra).2 = (t.query fresh extra).2 := by
  simp only [Session.query, ← alike.target, ← alike.filterText]
  exact alike.sendQuery fresh _ _ _

private theorem resetAndQuery (alike : Alike past first second s t) {fresh : Epoch}
    (new : fresh ∉ past) (window : Option Window) :
    Alike past first second (s.resetAndQuery fresh window).1 (t.resetAndQuery fresh window).1 ∧
      (s.resetAndQuery fresh window).2 = (t.resetAndQuery fresh window).2 := by
  unfold Session.resetAndQuery
  cases window.mapM Window.checked with
  | error failure => exact ⟨alike, rfl⟩
  | ok window => exact (alike.startEpoch new window).query fresh []

private theorem continueQuery (alike : Alike past first second s t) (fresh : Epoch) :
    Alike past first second (s.continueQuery fresh).1 (t.continueQuery fresh).1 ∧
      (s.continueQuery fresh).2 = (t.continueQuery fresh).2 := by
  have loaded : t.rows.isEmpty = s.rows.isEmpty := by rw [alike.rows]
  have next : Window.following t.rows.size t.settings.batchSize =
      Window.following s.rows.size s.settings.batchSize := by
    rw [alike.rows, alike.settings]
  unfold Session.continueQuery
  rw [loaded, next]
  cases s.rows.isEmpty with
  | true => exact ⟨alike, rfl⟩
  | false =>
    cases (Window.following s.rows.size s.settings.batchSize).checked with
    | error failure => exact ⟨alike, rfl⟩
    | ok window =>
      obtain ⟨sent, tickets⟩ := (alike.withWindow window).query fresh []
      exact ⟨sent, congrArg (Except.map some) tickets⟩

private theorem fetchPreview (alike : Alike past first second s t) {fresh : Epoch}
    (new : fresh ∉ past) :
    Alike past first second (s.fetchPreview fresh).1 (t.fetchPreview fresh).1 ∧
      (s.fetchPreview fresh).2 = (t.fetchPreview fresh).2 := by
  simp only [Session.fetchPreview, ← alike.target]
  cases s.target.preview with
  | error failure => exact ⟨alike, rfl⟩
  | ok preview => exact (alike.startEpoch new none).sendQuery fresh _ _ _

private theorem patchField (alike : Alike past first second s t) (identity column : String)
    (value : Json) :
    Alike past first second (s.patchField identity column value).1
      (t.patchField identity column value).1 := by
  have edited : (s.rows.edit identity (attributeOf column) value).1 =
      (t.rows.edit identity (attributeOf column) value).1 := by
    rw [alike.rows]
  have editable : t.target.editEndpoint identity = s.target.editEndpoint identity := by
    rw [alike.target]
  unfold Session.patchField
  rw [editable]
  cases s.target.editEndpoint identity with
  | error failure => exact alike
  | ok endpoint => exact (alike.withRows edited).perform rfl rfl

/-! ### Answers -/

private theorem of_tells (alike : Alike past first second s t) (same : s.SameQueries s')
    (same' : t.SameQueries t') (tells : s.Tells events s') (tells' : t.Tells events t')
    (rows : s'.rows = t'.rows) (total : s'.total = t'.total) :
    Alike past first second s' t' where
  left := alike.left.of_tells same tells
  right := alike.right.of_tells same' tells'
  target := same.target.trans (alike.target.trans same'.target.symm)
  settings := same.settings.trans (alike.settings.trans same'.settings.symm)
  filterText := same.filterText.trans (alike.filterText.trans same'.filterText.symm)
  sort := same.sort.trans (alike.sort.trans same'.sort.symm)
  mail := by
    simp only [Session.mail, same.inbox, same'.inbox]
    exact alike.mail
  sent := by
    simp only [sentSince, same.wire, same'.wire]
    exact alike.sent
  opened := by
    simp only [openSince, same.pending, same'.pending]
    exact alike.opened
  told := by
    rw [alike.left.toldSince_of_tells tells, alike.right.toldSince_of_tells tells', alike.told,
      alike.epoch]
  rows := rows
  total := total
  window := same.window.trans (alike.window.trans same'.window.symm)
  epoch := same.epoch?.trans (alike.epoch.trans same'.epoch?.symm)
  current := same.epoch? ▸ alike.current

private theorem emit (alike : Alike past first second s t) {event event' : Event}
    (same : event = event') : Alike past first second (s.emit event) (t.emit event') := by
  subst same
  exact alike.of_tells (s.sameQueries_emit event) (t.sameQueries_emit event) (s.tells_emit event)
    (t.tells_emit event) alike.rows alike.total

private theorem setDirty (alike : Alike past first second s t) (dirty : Bool) :
    Alike past first second (s.setDirty dirty) (t.setDirty dirty) :=
  alike.of_tells (s.sameQueries_setDirty dirty) (t.sameQueries_setDirty dirty)
    (s.tells_setDirty dirty) (t.tells_setDirty dirty) alike.rows alike.total

private theorem absorb (alike : Alike past first second s t) (answer : Answer) (origin : Origin) :
    Alike past first second (s.absorb answer origin) (t.absorb answer origin) := by
  have news : t.news answer origin = s.news answer origin := by
    simp only [Session.news, alike.target]
  refine alike.of_tells (s.sameQueries_absorb answer origin) (t.sameQueries_absorb answer origin)
    (s.tells_absorb answer origin) (news ▸ t.tells_absorb answer origin) ?_ ?_
  · rw [rows_absorb, rows_absorb, alike.rows, alike.settings]
  · rw [total_absorb, total_absorb, alike.total]

private theorem consider (alike : Alike past first second s t) (v : Json) (origin : Origin)
    (captured : Option Epoch) :
    Alike past first second (s.consider v origin captured).1 (t.consider v origin captured).1 ∧
      (s.consider v origin captured).2 = (t.consider v origin captured).2 := by
  have accepts : t.accepts = s.accepts := by
    funext token captured
    simp only [Session.accepts, alike.epoch]
  simp only [Session.consider, accepts, ← alike.target]
  repeat' split
  · exact ⟨alike, rfl⟩
  · exact ⟨alike, rfl⟩
  · exact ⟨alike, rfl⟩
  · exact ⟨alike.absorb _ _, rfl⟩
  · exact ⟨alike, rfl⟩

private theorem onEditResponse (alike : Alike past first second s t) (v : Json) :
    Alike past first second (s.onEditResponse v).1 (t.onEditResponse v).1 ∧
      (s.onEditResponse v).2 = (t.onEditResponse v).2 := by
  unfold Session.onEditResponse
  split
  · exact ⟨alike, rfl⟩
  · exact ⟨alike, rfl⟩
  · exact ⟨alike.setDirty _, rfl⟩

private theorem report (alike : Alike past first second s t) (outcome : Except Failure Bool) :
    Alike past first second (s.report s.epoch? outcome).1 (t.report t.epoch? outcome).1 := by
  cases outcome with
  | ok admitted => exact alike
  | error failure =>
    simp only [Session.report, Option.or_self]
    exact alike.emit rfl

private theorem handle (alike : Alike past first second s t) (message : Message) :
    Alike past first second (s.handle message).1 (t.handle message).1 := by
  match message with
  | .page captured origin (.ok v) =>
    obtain ⟨considered, same⟩ := alike.consider v origin captured
    have lasts (u : Session) : (u.consider v origin captured).1.epoch? = u.epoch? := by
      rcases u.consider_cases v origin captured with (same | ⟨_, same⟩) | ⟨answer, -, -, -, same⟩
      · rw [same]
      · rw [same]
      · rw [same]
        exact (u.sameQueries_absorb answer origin).epoch?
    simp only [Session.handle, same, ← lasts s, ← lasts t]
    exact considered.report _
  | .page (some epoch) _ (.error reason) =>
    simp only [Session.handle, ← alike.epoch]
    split
    · rename_i current
      have told := alike.report (.error (.transport reason))
      rw [← alike.epoch, current] at told
      exact told
    · exact alike
  | .page none _ (.error reason) => exact alike.emit rfl
  | .edit _ (.ok v) =>
    obtain ⟨taken, same⟩ := alike.onEditResponse v
    have lasts (u : Session) : (u.onEditResponse v).1.epoch? = u.epoch? := by
      unfold Session.onEditResponse
      split <;> rfl
    simp only [Session.handle, same, ← lasts s, ← lasts t]
    exact taken.report _
  | .edit _ (.error reason) => exact alike.report (.error (.transport reason))

/-! ### Messages -/

private theorem handleAll (alike : Alike past first second s t) (messages : List Message) :
    Alike past first second (s.handleAll messages) (t.handleAll messages) := by
  induction messages generalizing s t with
  | nil => exact alike
  | cons message messages ih => exact ih (alike.handle message)

private theorem processPending (alike : Alike past first second s t) :
    Alike past first second s.processPending.1 t.processPending.1 := by
  obtain ⟨current, newest, new⟩ := alike.current
  have newest' : t.epoch? = some current := alike.epoch ▸ newest
  have emptied := alike.withWaiting (List.Subset.refl _) (List.Subset.refl _) alike.opened
    (rfl : List.filter _ [] = _)
  rw [processPending_eq, processPending_eq,
    handleAll_others (s := { s with inbox := [] }) newest new s.inbox,
    handleAll_others (s := { t with inbox := [] }) newest' new t.inbox]
  have mail := alike.mail
  unfold Session.mail at mail
  rw [mail]
  exact emptied.handleAll _

private theorem processNext (alike : Alike past first second s t) (expects : s.Expects past)
    (expects' : t.Expects past) (fresh : Epoch) :
    Alike past first second (s.act fresh .processNext) (t.act fresh .processNext) := by
  obtain ⟨message, rest, waiting, counts⟩ := expects
  obtain ⟨message', rest', waiting', counts'⟩ := expects'
  have mail := alike.mail
  simp only [Session.mail, waiting, waiting', List.filter_cons, counts, counts', Bool.not_false,
    if_true, List.cons.injEq] at mail
  obtain ⟨rfl, others⟩ := mail
  have taken := alike.withWaiting (List.Subset.refl _) (List.Subset.refl _) alike.opened others
  simp only [act, Session.processNext, waiting, waiting', Option.map_some, Option.getD_some]
  exact taken.handle message

/-! ### Outcomes -/

private theorem post (alike : Alike past first second s t) (message : Message) :
    Alike past first second (s.post message) (t.post message) := by
  refine alike.withWaiting (List.Subset.refl _) (List.Subset.refl _) alike.opened ?_
  rw [List.filter_append, List.filter_append]
  exact congrArg (· ++ _) alike.mail

private theorem answer (alike : Alike past first second s t) (number : Nat)
    (outcome : Except String Json) (fresh : Epoch) :
    Alike past first second (s.act fresh (.answer (first.wire.size + number) outcome))
      (t.act fresh (.answer (second.wire.size + number) outcome)) := by
  have found := s.find?_openSince first number
  have found' := t.find?_openSince second number
  rw [← alike.opened] at found'
  have same := found.symm.trans found'
  simp only [act, answer?]
  cases asked : s.pending.find? (·.number = first.wire.size + number) with
  | none =>
    cases asked' : t.pending.find? (·.number = second.wire.size + number) with
    | none => exact alike
    | some request' => simp [asked, asked'] at same
  | some request =>
    cases asked' : t.pending.find? (·.number = second.wire.size + number) with
    | none => simp [asked, asked'] at same
    | some request' =>
      have purposes : request.purpose = request'.purpose := by simpa [asked, asked'] using same
      have messages : OpenRequest.message request outcome =
          OpenRequest.message request' outcome := by
        simp only [OpenRequest.message, purposes]
      have closed : Alike past first second
          { s with pending := s.pending.filter (·.number ≠ first.wire.size + number) }
          { t with pending := t.pending.filter (·.number ≠ second.wire.size + number) } := by
        refine alike.withWaiting List.filter_sublist.subset List.filter_sublist.subset ?_ alike.mail
        rw [filterMap_behind?_filter, filterMap_behind?_filter]
        exact congrArg (List.filter _) alike.opened
      simp only [Option.map_some, Option.getD_some, messages]
      exact closed.post _

/-- Whatever the owner does, and whatever comes of the same requests since, sessions that are alike
stay so, and the owner gets the same back. -/
theorem act (alike : Alike past first second s t) {fresh : Epoch} (new : fresh ∉ past)
    {action : Action} (expects : action = .processNext → s.Expects past ∧ t.Expects past) :
    Alike past first second (s.act fresh (action.shifted first.wire.size))
        (t.act fresh (action.shifted second.wire.size)) ∧
      s.reply? fresh (action.shifted first.wire.size) =
        t.reply? fresh (action.shifted second.wire.size) := by
  cases action with
  | resetAndQuery window =>
    obtain ⟨sent, replies⟩ := alike.resetAndQuery new window
    exact ⟨sent, congrArg (some ∘ Except.map some) replies⟩
  | refresh =>
    obtain ⟨sent, replies⟩ := alike.resetAndQuery new none
    exact ⟨sent, congrArg (some ∘ Except.map some) replies⟩
  | setSort sort =>
    obtain ⟨sent, replies⟩ := (alike.withSort sort).resetAndQuery new none
    exact ⟨sent, congrArg (some ∘ Except.map some) replies⟩
  | setFilterText text =>
    have bound : s.target.boundFilter text = t.target.boundFilter text := by rw [alike.target]
    obtain ⟨sent, replies⟩ := (alike.withFilterText bound).resetAndQuery new none
    exact ⟨sent, congrArg (some ∘ Except.map some) replies⟩
  | fetchPreview =>
    obtain ⟨sent, replies⟩ := alike.fetchPreview new
    exact ⟨sent, congrArg (some ∘ Except.map some) replies⟩
  | dispatch extra =>
    obtain ⟨sent, replies⟩ := alike.query fresh extra
    exact ⟨sent, congrArg (some ∘ Except.map some) replies⟩
  | continueQuery =>
    obtain ⟨sent, replies⟩ := alike.continueQuery fresh
    exact ⟨sent, congrArg some replies⟩
  | scroll atBottom =>
    cases atBottom with
    | false => exact ⟨alike, rfl⟩
    | true =>
      obtain ⟨sent, replies⟩ := alike.continueQuery fresh
      exact ⟨sent, congrArg some replies⟩
  | patchField identity column value => exact ⟨alike.patchField identity column value, rfl⟩
  | onResponse v origin => exact ⟨(alike.consider v origin none).1, rfl⟩
  | onEditResponse v => exact ⟨(alike.onEditResponse v).1, rfl⟩
  | selectRows rows =>
    have shown : (s.selectRows rows).2 = (t.selectRows rows).2 := by
      simp only [selectRows, alike.rows]
    exact ⟨alike.emit (congrArg Event.selectionChanged shown), rfl⟩
  | answer number outcome => exact ⟨alike.answer number outcome fresh, rfl⟩
  | push v => exact ⟨alike.post _, rfl⟩
  | processNext => exact ⟨alike.processNext (expects rfl).1 (expects rfl).2 fresh, rfl⟩
  | processPending => exact ⟨alike.processPending, rfl⟩

end Alike

end Session

end LiveTable
