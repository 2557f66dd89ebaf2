import LiveTable.Proofs.Rows.Growth
import LiveTable.Proofs.Session.Publishing
set_option autoImplicit false

/-!
# Who writes

A session writes only by editing rows, which every target but the caller's own listing refuses. So
no edit is ever asked for and no answer to one arrives: `ReadOnly` is the invariant. Main statement:
`only_owned_listings_write`, by which moreover the rows of such a session are items of answers as
they came.
-/

namespace LiveTable

private theorem Target.editEndpoint_of_not_isOwned {target : Target}
    (foreign : target.isOwned = false) (identity : String) :
    target.editEndpoint identity = .error (.unsupported (.readOnlyRows target.name)) := by
  simp [editEndpoint, foreign]

private theorem Intake.dirty?_page_of_not_isOwned {target : Target}
    (foreign : target.isOwned = false)
    (answer : Answer) (origin : Origin) : (page answer origin).dirty? target = none := by
  simp [dirty?, Target.dirtyAfter, foreign]

private theorem Target.preview_eq_error {target : Target}
    (unscoped : ∀ publicKey channelId, target ≠ .parentScoped publicKey channelId) :
    target.preview = .error (.unsupported (.noPreview target.name)) := by
  cases target with
  | parentScoped publicKey channelId => exact absurd rfl (unscoped publicKey channelId)
  | search => rfl
  | filteredListing => rfl
  | ownedListing => rfl

namespace Session

variable {s t : Session} {fresh : Epoch} {action : Action}

/-- Only queries have been sent, and no answer to anything else is waited for or waits. -/
structure ReadOnly (s : Session) : Prop where
  sent : ∀ request ∈ s.wire.toList, request.method = .get ∧ request.body = none
  asked : ∀ request ∈ s.pending, ∃ epoch, request.purpose = .page epoch
  waiting : ∀ message ∈ s.inbox, ∃ captured origin outcome, message = .page captured origin outcome

namespace ReadOnly

private theorem of_sameQueries (readOnly : s.ReadOnly) (same : s.SameQueries t) : t.ReadOnly := by
  constructor
  · rw [same.wire]
    exact readOnly.sent
  · rw [same.pending]
    exact readOnly.asked
  · rw [same.inbox]
    exact readOnly.waiting

private theorem query (readOnly : s.ReadOnly) {q : Query} {endpoint : String} {epoch : Epoch}
    (wire : t.wire = s.wire.push (q.request endpoint))
    (pending : t.pending = s.pending ++ [⟨s.wire.size, .page epoch⟩]) (inbox : t.inbox = s.inbox) :
    t.ReadOnly := by
  constructor
  · intro request member
    rw [wire, Array.toList_push] at member
    rcases List.mem_append.mp member with older | newer
    · exact readOnly.sent request older
    · rw [List.mem_singleton.mp newer]
      exact ⟨rfl, rfl⟩
  · intro request member
    rw [pending] at member
    rcases List.mem_append.mp member with older | newer
    · exact readOnly.asked request older
    · rw [List.mem_singleton.mp newer]
      exact ⟨epoch, rfl⟩
  · rw [inbox]
    exact readOnly.waiting

private theorem post (readOnly : s.ReadOnly) (captured : Option Epoch) (origin : Origin)
    (outcome : Except String Json) : (s.post (.page captured origin outcome)).ReadOnly := by
  refine ⟨readOnly.sent, readOnly.asked, ?_⟩
  intro message member
  rcases List.mem_append.mp member with older | newer
  · exact readOnly.waiting message older
  · exact ⟨captured, origin, outcome, List.mem_singleton.mp newer⟩

theorem step (readOnly : s.ReadOnly) (foreign : s.target.isOwned = false)
    (step : Step s fresh action t) : t.ReadOnly := by
  cases step with
  | idle => exact readOnly
  | listing => exact readOnly.query rfl (pending_startListing ..) rfl
  | preview => exact readOnly.query rfl (pending_startPreview ..) rfl
  | dispatch => exact readOnly.query rfl (pending_queryListing ..) rfl
  | turn => exact readOnly.query rfl (pending_queryListing ..) rfl
  | edit editable =>
    rw [Target.editEndpoint_of_not_isOwned foreign] at editable
    cases editable
  | respond => exact readOnly.of_sameQueries (s.sameQueries_absorb _ _)
  | respondEdit => exact readOnly.of_sameQueries (s.sameQueries_setDirty _)
  | select => exact readOnly.of_sameQueries (s.sameQueries_emit _)
  | @answer number outcome request found =>
    have left : ReadOnly { s with pending := s.pending.filter (·.number ≠ number) } :=
      ⟨readOnly.sent, fun other member => readOnly.asked other (List.mem_filter.mp member).1,
        readOnly.waiting⟩
    obtain ⟨epoch, purpose⟩ := readOnly.asked request (List.mem_of_find?_eq_some found)
    simp only [OpenRequest.message, purpose]
    exact left.post _ _ _
  | push => exact readOnly.post _ _ _
  | @process _ messages rest _ waiting =>
    have emptied : ReadOnly { s with inbox := rest } :=
      ⟨readOnly.sent, readOnly.asked, fun message later =>
        readOnly.waiting message (waiting ▸ List.mem_append_right messages later)⟩
    exact emptied.of_sameQueries (sameQueries_handleAll _ messages)

theorem run (readOnly : s.ReadOnly) (foreign : s.target.isOwned = false)
    (steps : List (Epoch × Action)) : (s.run steps).ReadOnly := by
  induction steps generalizing s with
  | nil => exact readOnly
  | cons step steps ih =>
    have target := (s.extends_act step.1 step.2).target
    exact ih (readOnly.step foreign (s.step step.1 step.2)) (target ▸ foreign)

private theorem initial (target : Target) (settings : Settings) :
    (initial target settings).ReadOnly :=
  ⟨by simp [Session.initial], by simp [Session.initial], by simp [Session.initial]⟩

end ReadOnly

/-! ## What is taken in -/

private theorem exists_page_of_mem_takes {messages : List Message}
    (pages : ∀ message ∈ messages, ∃ captured origin outcome,
      message = .page captured origin outcome)
    {intake : Intake} (taken : intake ∈ s.takes messages) :
    ∃ answer origin, intake = .page answer origin := by
  induction messages generalizing s with
  | nil => cases taken
  | cons message rest ih =>
    rcases List.mem_append.mp taken with first | later
    · obtain ⟨captured, origin, outcome, rfl⟩ := pages message List.mem_cons_self
      have brought := Option.mem_toList.mp first
      cases outcome with
      | error reason => cases brought
      | ok v =>
        simp only [intake?] at brought
        split at brought
        · rename_i answer _ _
          cases brought
          exact ⟨answer, origin, rfl⟩
        · cases brought
    · exact ih (fun other member => pages other (List.mem_cons_of_mem _ member)) later

private theorem ReadOnly.exists_page_of_mem_intakes (readOnly : s.ReadOnly)
    (unanswered : ∀ v, action ≠ .onEditResponse v) {intake : Intake}
    (taken : intake ∈ s.intakes action) : ∃ answer origin, intake = .page answer origin := by
  refine exists_page_of_mem_takes ?_ taken
  intro message member
  cases action with
  | onResponse v origin => exact ⟨none, origin, .ok v, List.mem_singleton.mp member⟩
  | onEditResponse v => exact absurd rfl (unanswered v)
  | processNext => exact readOnly.waiting message (List.mem_of_mem_take member)
  | processPending => exact readOnly.waiting message member
  | _ => cases member

private theorem ReadOnly.exists_page_of_mem_intakesOf {steps : List (Epoch × Action)}
    (readOnly : s.ReadOnly) (foreign : s.target.isOwned = false)
    (unanswered : ∀ step ∈ steps, ∀ v, step.2 ≠ .onEditResponse v) {intake : Intake}
    (taken : intake ∈ s.intakesOf steps) : ∃ answer origin, intake = .page answer origin := by
  induction steps generalizing s with
  | nil => cases taken
  | cons step steps ih =>
    rcases List.mem_append.mp taken with first | later
    · exact readOnly.exists_page_of_mem_intakes (unanswered step List.mem_cons_self) first
    · have target := (s.extends_act step.1 step.2).target
      have next := readOnly.step foreign (s.step step.1 step.2)
      exact ih next (target ▸ foreign)
        (fun other member => unanswered other (List.mem_cons_of_mem _ member)) later

private theorem ReadOnly.filterMap_dirty?_intakesOf {steps : List (Epoch × Action)}
    (readOnly : s.ReadOnly) (foreign : s.target.isOwned = false)
    (unanswered : ∀ step ∈ steps, ∀ v, step.2 ≠ .onEditResponse v) :
    (s.intakesOf steps).filterMap (Intake.dirty? s.target) = [] := by
  refine List.filterMap_eq_nil_iff.mpr ?_
  intro intake taken
  obtain ⟨answer, origin, rfl⟩ := readOnly.exists_page_of_mem_intakesOf foreign unanswered taken
  exact Intake.dirty?_page_of_not_isOwned foreign answer origin

/-! ## Where rows come from -/

private theorem patchField_of_not_isOwned (foreign : s.target.isOwned = false)
    (identity column : String) (value : Json) :
    s.patchField identity column value =
      (s, .error (.unsupported (.readOnlyRows s.target.name))) := by
  unfold patchField
  rw [Target.editEndpoint_of_not_isOwned foreign]

theorem mem_rows_act (foreign : s.target.isOwned = false) {item : Item}
    (member : item ∈ (s.act fresh action).rows.items.toList) :
    (∃ intake ∈ s.intakes action, item ∈ intake.items) ∨ item ∈ s.rows.items.toList := by
  by_cases starts : s.Starts fresh action
  · rw [starts.rows] at member
    cases member
  by_cases edits : ∃ identity column value, action = .patchField identity column value
  · obtain ⟨identity, column, value, rfl⟩ := edits
    rw [act, patchField_of_not_isOwned foreign] at member
    exact .inr member
  · rw [rows_act starts fun _ _ _ same => edits ⟨_, _, _, same⟩] at member
    rcases Rows.mem_merge member with taken | held
    · exact .inl (List.mem_flatMap.mp taken)
    · exact .inr held

theorem mem_rows_run (foreign : s.target.isOwned = false) {steps : List (Epoch × Action)}
    {item : Item} (member : item ∈ (s.run steps).rows.items.toList) :
    (∃ intake ∈ s.intakesOf steps, item ∈ intake.items) ∨ item ∈ s.rows.items.toList := by
  induction steps generalizing s with
  | nil => exact .inr member
  | cons step steps ih =>
    have target := (s.extends_act step.1 step.2).target
    rcases ih (target ▸ foreign) member with ⟨intake, taken, brought⟩ | held
    · exact .inl ⟨intake, List.mem_append_right _ taken, brought⟩
    · rcases mem_rows_act foreign held with ⟨intake, taken, brought⟩ | older
      · exact .inl ⟨intake, List.mem_append_left _ taken, brought⟩
      · exact .inr older

private theorem exists_merged_of_mem_rows {target : Target} {settings : Settings}
    {allocates : Nat → Bool}
    (opening : begin target settings allocates = .opened s) (foreign : s.target.isOwned = false)
    {steps : List (Epoch × Action)} {item : Item}
    (member : item ∈ (s.run steps).rows.items.toList) :
    ∃ answer origin, .page answer origin ∈ s.intakesOf steps ∧
      answer ∈ (s.run steps).told.filterMap Event.merged? ∧ item ∈ answer.results := by
  rcases mem_rows_run foreign member with ⟨intake, taken, brought⟩ | held
  · cases intake with
    | page answer origin =>
      refine ⟨answer, origin, taken, ?_, brought⟩
      rw [(s.publishes_run steps).answers]
      exact List.mem_append_right _ (List.mem_filterMap.mpr ⟨_, taken, rfl⟩)
    | edit => cases brought
  · rw [begin_eq_opened opening] at held
    cases held

/-- A session of a listing that is not the caller's own sends nothing but queries, whatever happens
to it, and refuses edits. Unless the owner hands over an answer to an edit, no event tells of
unpublished changes, and none are known of. Every row is an item of an answer that has been merged
and told of, as it came. In any listing but a channel's, asking for a preview is refused and changes
nothing. -/
theorem only_owned_listings_write {target : Target} {settings : Settings} {allocates : Nat → Bool}
    {first : Session}
    {steps : List (Epoch × Action)} (opening : begin target settings allocates = .opened first)
    (foreign : target.isOwned = false)
    (unanswered : ∀ step ∈ steps, ∀ v, step.2 ≠ .onEditResponse v) :
    let last := first.run steps
    (∀ request ∈ last.wire.toList, request.method = .get ∧ request.body = none) ∧
    (∀ e ∈ last.log.toList, ∀ dirty, e.event ≠ .dirtyChanged dirty) ∧
    last.editSession = none ∧
    (∀ item ∈ last.rows.items.toList, ∃ answer origin,
      .page answer origin ∈ first.intakesOf steps ∧
        answer ∈ last.told.filterMap Event.merged? ∧ item ∈ answer.results) ∧
    (∀ identity column value, last.patchField identity column value =
      (last, .error (.unsupported (.readOnlyRows target.name)))) ∧
    ∀ (s : Session) (fresh : Epoch),
      (∀ publicKey channelId, s.target ≠ .parentScoped publicKey channelId) →
      s.fetchPreview fresh = (s, .error (.unsupported (.noPreview s.target.name))) := by
  intro last
  have start : first = initial target settings := begin_eq_opened opening
  have own : first.target = target := by rw [start]; rfl
  have silent : first.told = [] := told_of_begin opening
  have readOnly : first.ReadOnly := start ▸ .initial target settings
  rw [← own] at foreign
  have clean := readOnly.filterMap_dirty?_intakesOf foreign unanswered
  refine ⟨(readOnly.run foreign steps).sent, ?told, ?known,
    fun _ => exists_merged_of_mem_rows opening foreign, ?edits, ?previews⟩
  case told =>
    intro e logged dirty event
    have flags := (first.publishes_run steps).flags
    rw [silent, clean] at flags
    have flag : dirty ∈ last.told.filterMap Event.dirty? :=
      List.mem_filterMap.mpr ⟨_, List.mem_map_of_mem logged, by rw [event]; rfl⟩
    rw [flags] at flag
    cases flag
  case known =>
    have unknown : first.editSession = none := by rw [start]; rfl
    have known := first.editSession_run steps
    rw [clean, unknown] at known
    exact known
  case edits =>
    have kept : last.target = first.target := (first.extends_run steps).target
    intro identity column value
    rw [patchField_of_not_isOwned (kept ▸ foreign), kept, own]
  case previews =>
    intro s fresh unscoped
    rw [fetchPreview, Target.preview_eq_error unscoped]

/-- Search results come with a flag, from the backend and from a peer, and an edit of one of them is
attempted; a page behind them cannot be had. -/
theorem only_owned_listings_write_of_search :
    let row (hash : String) : Json := .object [("infohash", .text hash)]
    let v (hash : String) : Json :=
      .object [("dirty", .bool true), ("results", .array [row hash])]
    let a : Item := ⟨[("infohash", .text "a")]⟩
    let b : Item := ⟨[("infohash", .text "b")]⟩
    let first := initial (.search none) .default
    let steps : List (Epoch × Action) := [(⟨1#128⟩, .refresh), (⟨2#128⟩, .answer 0 (.ok (v "a"))),
      (⟨3#128⟩, .push (v "b")), (⟨4#128⟩, .processPending),
      (⟨5#128⟩, .patchField "a" "name" (.text "other")), (⟨6#128⟩, .continueQuery),
      (⟨7#128⟩, .answer 1 (.error "timeout")), (⟨8#128⟩, .processNext)]
    let last := first.run steps
    last.rows.items = #[a, b] ∧ last.wire.size = 2 ∧ last.log.size = 3 ∧
    (∀ request ∈ last.wire.toList, request.method = .get ∧ request.body = none) ∧
    (∀ e ∈ last.log.toList, ∀ dirty, e.event ≠ .dirtyChanged dirty) ∧
    last.editSession = none ∧
    (∃ answer origin, .page answer origin ∈ first.intakesOf steps ∧
      answer ∈ last.told.filterMap Event.merged? ∧ b ∈ answer.results) ∧
    last.patchField "b" "name" .null = (last, .error (.unsupported (.readOnlyRows "search"))) ∧
    last.fetchPreview ⟨9#128⟩ = (last, .error (.unsupported (.noPreview "search"))) := by
  intro row v a b first steps
  have opening : begin (.search none) .default = .opened first := begin_default _
  have unanswered : ∀ step ∈ steps, ∀ v, step.2 ≠ .onEditResponse v := by
    simp [steps]
  have rows : (first.run steps).rows.items = #[a, b] := by decide +kernel
  have held : b ∈ (first.run steps).rows.items.toList := by
    rw [rows]
    exact List.mem_cons_of_mem _ List.mem_cons_self
  have target : (first.run steps).target = .search none := (first.extends_run steps).target
  obtain ⟨sent, told, known, origins, edits, previews⟩ :=
    only_owned_listings_write opening rfl unanswered
  have preview := previews (first.run steps) ⟨9#128⟩ (by simp [target])
  rw [target] at preview
  exact ⟨rows, by decide +kernel, by decide +kernel, sent, told, known, origins b held,
    edits "b" "name" .null, preview⟩

end Session

end LiveTable
