import LiveTable.Proofs.Session.Telling
set_option autoImplicit false

/-!
# Tables from logs

Whoever has followed the events of a table knows the table. Since the last start of an epoch, the
rows are what merging the answers told of in the current epoch gives, and the row count is the last
one told in it; older events are told apart by their stamps only, as starting an epoch tells
nothing. `Mirrored` is the invariant of an epoch, as long as no row is edited. Main statement:
`log_determines_table`.
-/

namespace LiveTable

def Rows.mergeAnswers (policy : DuplicatePolicy) (rows : Rows) (answers : List Answer) : Rows :=
  answers.foldl (fun rows answer => (rows.merge policy answer.results).1) rows

private theorem Rows.mergeAnswers_append (policy : DuplicatePolicy) (rows : Rows)
    (first second : List Answer) :
    rows.mergeAnswers policy (first ++ second) =
      (rows.mergeAnswers policy first).mergeAnswers policy second := List.foldl_append

namespace Session

variable {s t : Session} {events : List Event}

theorem total_absorb (s : Session) (answer : Answer) (origin : Origin) :
    (s.absorb answer origin).total =
      ((answer.countNews origin).filterMap Event.counted?).getLast?.or s.total := by
  cases origin with
  | backend =>
    rw [total_absorb_backend]
    cases counted : answer.total <;> simp [Answer.countNews, Event.counted?, counted]
  | peer => simp [absorb, noteTotal, emit, emitFor, mergeRows, Answer.countNews]

private theorem filterMap_counted?_news (s : Session) (answer : Answer) (origin : Origin) :
    (s.news answer origin).filterMap Event.counted? =
      (answer.countNews origin).filterMap Event.counted? := by
  cases dirty : s.target.dirtyAfter answer <;>
    simp [news, List.filterMap_cons, Event.counted?, dirty]

theorem filterMap_merged?_news (s : Session) (answer : Answer) (origin : Origin) :
    (s.news answer origin).filterMap Event.merged? = [answer] := by
  have uncounted : (answer.countNews origin).filterMap Event.merged? = [] := by
    cases origin <;> cases total : answer.total <;> simp [Answer.countNews, Event.merged?, total]
  cases dirty : s.target.dirtyAfter answer <;>
    simp [news, uncounted, List.filterMap_cons, Event.merged?, dirty]

/-- There is an epoch, and what has been told in it gives the table. -/
structure Mirrored (s : Session) : Prop where
  started : ∃ epoch, s.epoch? = some epoch
  rows : s.rows = Rows.empty.mergeAnswers s.settings.duplicatePolicy
    (s.toldNow.filterMap Event.merged?)
  total : s.total = (s.toldNow.filterMap Event.counted?).getLast?

namespace Mirrored

private theorem of_tells (mirrored : s.Mirrored) (tells : s.Tells events t)
    (same : t.epoch? = s.epoch?) (settings : t.settings = s.settings)
    (rows : t.rows = s.rows.mergeAnswers s.settings.duplicatePolicy
      (events.filterMap Event.merged?))
    (total : t.total = (events.filterMap Event.counted?).getLast?.or s.total) : t.Mirrored := by
  have now := tells.toldNow same
  constructor
  · rw [same]
    exact mirrored.started
  · rw [rows, settings, now, List.filterMap_append, Rows.mergeAnswers_append, ← mirrored.rows]
  · rw [total, now, List.filterMap_append, List.getLast?_append, mirrored.total]

private theorem of_same (mirrored : s.Mirrored) (sent : t.sent = s.sent) (log : t.log = s.log)
    (same : t.epoch? = s.epoch?) (settings : t.settings = s.settings) (rows : t.rows = s.rows)
    (total : t.total = s.total) : t.Mirrored :=
  mirrored.of_tells (.nothing sent log) same settings rows total

private theorem of_aside (mirrored : s.Mirrored) {event : Event} (tells : s.Tells [event] t)
    (same : t.epoch? = s.epoch?) (settings : t.settings = s.settings) (rows : t.rows = s.rows)
    (total : t.total = s.total) (unmerged : event.merged? = none)
    (uncounted : event.counted? = none) : t.Mirrored := by
  refine mirrored.of_tells tells same settings ?_ ?_
  · simp only [List.filterMap_cons, unmerged]
    exact rows
  · simp only [List.filterMap_cons, uncounted]
    exact total

private theorem absorb (mirrored : s.Mirrored) (answer : Answer) (origin : Origin) :
    (s.absorb answer origin).Mirrored := by
  have same := s.sameQueries_absorb answer origin
  refine mirrored.of_tells (s.tells_absorb answer origin) same.epoch? same.settings ?_ ?_
  · rw [rows_absorb, filterMap_merged?_news]
    rfl
  · rw [total_absorb, filterMap_counted?_news]

private theorem of_handling {message : Message} (mirrored : s.Mirrored)
    (handling : Handling s message t) :
    t.Mirrored := by
  cases handling with
  | ignored => exact mirrored
  | absorbed => exact mirrored.absorb _ _
  | dirtied => exact mirrored.of_aside (s.tells_setDirty _) rfl rfl rfl rfl rfl rfl
  | failed => exact mirrored.of_aside (s.tells_emit _) rfl rfl rfl rfl rfl rfl

private theorem of_start {fresh : Epoch} (recorded : s.Recorded) (new : fresh ∉ s.epochs)
    (epochs : t.epochs = fresh :: s.epochs) (log : t.log = s.log) (rows : t.rows = .empty)
    (total : t.total = none) : t.Mirrored := by
  have newest : t.epoch? = some fresh := by
    rw [epoch?, epochs]
    rfl
  have silent : t.toldNow = [] := by
    rw [toldNow, log, newest, List.map_eq_nil_iff, List.filter_eq_nil_iff]
    intro e member stamp
    exact new (recorded.stamped e member fresh (of_decide_eq_true stamp))
  constructor
  · exact ⟨fresh, newest⟩
  · rw [rows, silent]
    rfl
  · rw [total, silent]
    rfl

private theorem queryListing (mirrored : s.Mirrored) (fresh : Epoch) (window : Window)
    (extra : Fields) :
    (s.queryListing fresh window extra).Mirrored := by
  obtain ⟨epoch, newest⟩ := mirrored.started
  have lasts := s.epochs_queryListing_current fresh window extra newest
  exact mirrored.of_same rfl rfl (congrArg List.head? lasts) rfl rfl rfl

private theorem of_starts {fresh : Epoch} {action : Action} (recorded : s.Recorded)
    (starts : s.Starts fresh action) (new : fresh ∉ s.epochs) : (s.act fresh action).Mirrored := by
  rcases starts.act_eq with ⟨sort, text, window, -, same⟩ | ⟨preview, -, same⟩
  · rw [same]
    exact of_start recorded new rfl rfl rfl rfl
  · rw [same]
    exact of_start recorded new rfl rfl rfl rfl

theorem step {fresh : Epoch} {action : Action} (mirrored : s.Mirrored) (recorded : s.Recorded)
    (step : Step s fresh action t) (distinct : t.epochs.Nodup)
    (unedited : ∀ identity column value, action ≠ .patchField identity column value) :
    t.Mirrored := by
  cases step with
  | idle => exact mirrored
  | listing => exact of_start recorded (List.nodup_cons.mp distinct).1 rfl rfl rfl rfl
  | preview => exact of_start recorded (List.nodup_cons.mp distinct).1 rfl rfl rfl rfl
  | dispatch => exact mirrored.queryListing _ _ _
  | turn => exact mirrored.queryListing _ _ _
  | edit => exact absurd rfl (unedited _ _ _)
  | respond => exact mirrored.absorb _ _
  | respondEdit => exact mirrored.of_aside (s.tells_setDirty _) rfl rfl rfl rfl rfl rfl
  | select => exact mirrored.of_aside (s.tells_emit _) rfl rfl rfl rfl rfl rfl
  | answer => exact mirrored.of_same rfl rfl rfl rfl rfl rfl
  | push => exact mirrored.of_same rfl rfl rfl rfl rfl rfl
  | @process _ messages rest =>
    have emptied : { s with inbox := rest }.Mirrored :=
      mirrored.of_same rfl rfl rfl rfl rfl rfl
    exact handleAll_keeps (fun s message _ held => held.of_handling (s.handling message)) emptied

theorem run {steps : List (Epoch × Action)} (mirrored : s.Mirrored) (reachable : Reachable s)
    (distinct : (s.run steps).epochs.Nodup)
    (unedited : ∀ step ∈ steps, ∀ identity column value,
      step.2 ≠ .patchField identity column value) : (s.run steps).Mirrored := by
  induction steps generalizing s with
  | nil => exact mirrored
  | cons step steps ih =>
    obtain ⟨fresh, action⟩ := step
    have kept := (extends_run (s.act fresh action) steps).epochs
    have apart : (s.act fresh action).epochs.Nodup := distinct.sublist kept.sublist
    have own := unedited (fresh, action) List.mem_cons_self
    have next := mirrored.step reachable.recorded (s.step fresh action) apart own
    exact ih next (reachable.act fresh action) distinct fun step member =>
      unedited step (List.mem_cons_of_mem _ member)

end Mirrored

/-- The log is numbered in its order. From the start of an epoch on, as long as no row is edited,
the table is what its log tells: the rows are those of the answers told of in the current epoch,
merged into an empty table, and the row count is the last one told in it. What the backend said of
unpublished changes is the last that was told at all. -/
theorem log_determines_table {later : Session} (reachable : Reachable s) {fresh : Epoch}
    {action : Action} (starts : s.Starts fresh action) {after : List (Epoch × Action)}
    (unedited : ∀ step ∈ after, ∀ identity column value,
      step.2 ≠ .patchField identity column value)
    (moment : later = (s.act fresh action).run after) (distinct : later.epochs.Nodup) :
    later.log.toList.map Envelope.seq = List.range' 1 later.log.size ∧
    later.rows = Rows.empty.mergeAnswers later.settings.duplicatePolicy
      (later.toldNow.filterMap Event.merged?) ∧
    later.total = (later.toldNow.filterMap Event.counted?).getLast? ∧
    later.editSession = (later.told.filterMap Event.dirty?).getLast? := by
  subst moment
  have started := reachable.act fresh action
  have kept := (extends_run (s.act fresh action) after).epochs
  have apart : (s.act fresh action).epochs.Nodup := distinct.sublist kept.sublist
  have new : fresh ∉ s.epochs := by
    rw [starts.epochs] at apart
    exact (List.nodup_cons.mp apart).1
  have mirrored := (Mirrored.of_starts reachable.recorded starts new).run started distinct unedited
  have recorded := (started.run after).recorded
  have size := congrArg List.length recorded.numbered
  simp only [List.length_map, Array.length_toList, List.length_range'] at size
  refine ⟨?_, mirrored.rows, mirrored.total, recorded.dirty⟩
  rw [size]
  exact recorded.numbered

/-- The caller's own listing had been shown before its first query. It is refreshed, and the answer
and what a peer pushes are handled together. -/
theorem log_determines_refreshed_table :
    let row (hash : String) : Json := .object [("infohash", .text hash)]
    let early : Json := .object [("dirty", .bool true), ("results", .array [row "a"])]
    let answer : Json := .object [("dirty", .bool false), ("results", .array [row "b"]),
      ("total", .number (.int 1))]
    let s := (initial (.ownedListing true) .default).act ⟨1#128⟩ (.onResponse early .backend)
    let after : List (Epoch × Action) := [(⟨3#128⟩, .answer 0 (.ok answer)),
      (⟨4#128⟩, .push (.object [("results", .array [row "a", row "b"])])),
      (⟨5#128⟩, .processPending)]
    let later := (s.act ⟨2#128⟩ .refresh).run after
    later.epochs.Nodup ∧ later.told.length = 6 ∧ later.toldNow.length = 4 ∧
      later.rows.items.toList.map Item.key = ["b", "a"] ∧ later.total = some 1 ∧
      later.rows = Rows.empty.mergeAnswers later.settings.duplicatePolicy
        (later.toldNow.filterMap Event.merged?) ∧
      later.total = (later.toldNow.filterMap Event.counted?).getLast? ∧
      later.editSession = (later.told.filterMap Event.dirty?).getLast? := by
  intro row early answer s after later
  have opened : Reachable (initial (.ownedListing true) .default) :=
    .opened (begin_default _)
  have distinct : later.epochs.Nodup := by decide +kernel
  have unedited : ∀ step ∈ after, ∀ identity column value,
      step.2 ≠ .patchField identity column value := by
    simp [after]
  have told := log_determines_table (opened.act ⟨1#128⟩ (.onResponse early .backend))
    (Starts.refresh rfl : s.Starts ⟨2#128⟩ .refresh) unedited rfl distinct
  exact ⟨distinct, by decide +kernel, by decide +kernel, by decide +kernel, by decide +kernel,
    told.2⟩

end Session

end LiveTable
