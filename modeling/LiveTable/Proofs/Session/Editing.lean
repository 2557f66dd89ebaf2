import LiveTable.Proofs.Rows.Index
import LiveTable.Proofs.Session.Alike
import LiveTable.Proofs.Session.Booking
import LiveTable.Proofs.Session.Growth
set_option autoImplicit false

/-!
# Edits of rows

An edit of a row in the caller's own listing does two things: it sets one field of the row that is
found under an identity, by `Rows.Sets`, and it sends one request, with the same field and the same
value. What comes of the request is a message about an edit, whatever happens in between, by
`Since.run`; and messages about edits leave the table alone. Main statement:
`patch_edits_one_field`.
-/

namespace LiveTable

private theorem Item.get?_set (item : Item) (field name : String) (value : Json) :
    (item.set field value).get? name = if field = name then some value else item.get? name :=
  Fields.get?_insert field name value item.fields

private theorem Target.editEndpoint_of_isOwned {target : Target} (owned : target.isOwned = true)
    (identity : String) :
    target.editEndpoint identity = .ok ("mychannel/torrents/" ++ identity) := by
  have address : ownedEndpoint ++ "/" = "mychannel/torrents/" := by decide
  rw [editEndpoint, if_pos owned, address]

namespace Rows

/-- One field of the row that is found under an identity is set, and nothing else. -/
structure Sets (rows : Rows) (identity field : String) (value : Json) (next : Rows) : Prop where
  size : next.size = rows.size
  index : next.index = rows.index
  found : ∀ item, rows.find? identity = some item →
    next.find? identity = some (item.set field value) ∧
      ∃ row, rows.index[identity]? = some row ∧ rows.get? row = some item ∧
        next.get? row = some (item.set field value) ∧
        ∀ other, other ≠ row → next.get? other = rows.get? other
  missing : rows.find? identity = none → next = rows

variable {rows : Rows} {identity field : String} {value : Json}

private theorem edit_of_find?_eq_none (missing : rows.find? identity = none) :
    (rows.edit identity field value).1 = rows := by
  refine eq_of_get? (rows.index_edit identity field value) fun row => ?_
  by_cases filed : rows.index[identity]? = some row
  · have absent : rows.get? row = none := by
      rw [find?, filed] at missing
      exact missing
    rw [get?_edit_of_filed filed, absent]
    rfl
  · exact get?_edit_of_ne filed

private theorem sets_edit (rows : Rows) (identity field : String) (value : Json) :
    rows.Sets identity field value (rows.edit identity field value).1 where
  size := rows.size_edit identity field value
  index := rows.index_edit identity field value
  found := by
    intro item found
    refine ⟨find?_edit_self found, ?_⟩
    obtain ⟨row, filed, held⟩ := Option.bind_eq_some_iff.mp found
    refine ⟨row, filed, held, ?_, ?_⟩
    · rw [get?_edit_of_filed filed, held]
      rfl
    · intro other apart
      apply get?_edit_of_ne
      rw [filed]
      exact fun same => apart (Option.some.inj same).symm
  missing := edit_of_find?_eq_none

end Rows

namespace Session

variable {first s t : Session} {fresh : Epoch} {action : Action}

/-! ## What comes of a request -/

theorem mem_pending_of_step (step : Step s fresh action t) {request : OpenRequest}
    (member : request ∈ t.pending) : request ∈ s.pending ∨ s.wire.size ≤ request.number := by
  have sent {purpose : Purpose} (asked : request ∈ s.pending ++ [⟨s.wire.size, purpose⟩]) :
      request ∈ s.pending ∨ s.wire.size ≤ request.number := by
    rcases List.mem_append.mp asked with older | newer
    · exact .inl older
    · exact .inr (List.mem_singleton.mp newer ▸ Nat.le_refl _)
  cases step with
  | listing => exact sent member
  | preview => exact sent member
  | dispatch => exact sent member
  | turn => exact sent member
  | edit => exact sent member
  | respond => exact .inl ((s.sameQueries_absorb _ _).pending ▸ member)
  | answer => exact .inl (List.mem_filter.mp member).1
  | @process _ messages =>
    rw [(sameQueries_handleAll _ messages).pending] at member
    exact .inl member
  | _ => exact .inl member

theorem Since.act (since : first.Since s) (fresh : Epoch) (action : Action) :
    first.Since (s.act fresh action) := by
  refine ⟨since.kept.trans (s.extends_act fresh action), ?_⟩
  intro request member below
  rcases mem_pending_of_step (s.step fresh action) member with older | newer
  · exact since.older request older below
  · have := since.size_wire
    omega

theorem Since.run (since : first.Since s) (steps : List (Epoch × Action)) :
    first.Since (s.run steps) := by
  induction steps generalizing s with
  | nil => exact since
  | cons step steps ih => exact ih (since.act step.1 step.2)

private theorem Booked.inbox_answer? (booked : s.Booked) {request : OpenRequest}
    (asked : request ∈ s.pending) (steps : List (Epoch × Action)) {outcome : Except String Json}
    {after : Session} (answered : (s.run steps).answer? request.number outcome = some after) :
    after.inbox = (s.run steps).inbox ++ [OpenRequest.message request outcome] := by
  obtain ⟨found, search, rfl⟩ := Option.map_eq_some_iff.mp answered
  have number : found.number = request.number := by simpa using List.find?_some search
  have earlier : found ∈ s.pending := by
    refine ((Since.refl s).run steps).older found (List.mem_of_find?_eq_some search) ?_
    rw [number]
    exact booked.sent request asked
  have same : found = request := List.inj_on_of_nodup_map booked.distinct earlier asked number
  rw [same]
  rfl

/-- The same rows are shown, of the same count, epoch and window. -/
structure SameTable (s t : Session) : Prop where
  rows : t.rows = s.rows
  total : t.total = s.total
  epoch? : t.epoch? = s.epoch?
  window : t.window = s.window

private theorem sameTable_onEditResponse (s : Session) (v : Json) :
    s.SameTable (s.onEditResponse v).1 := by
  unfold onEditResponse
  split
  · exact ⟨rfl, rfl, rfl, rfl⟩
  · exact ⟨rfl, rfl, rfl, rfl⟩
  · exact ⟨rfl, rfl, rfl, rfl⟩

private theorem sameTable_handle_edit (s : Session) (identity : String)
    (outcome : Except String Json) :
    s.SameTable (s.handle (.edit identity outcome)).1 := by
  have handling := s.handling (.edit identity outcome)
  generalize (s.handle (.edit identity outcome)).1 = next at handling
  cases handling with
  | ignored => exact ⟨rfl, rfl, rfl, rfl⟩
  | dirtied => exact ⟨rfl, rfl, rfl, rfl⟩
  | failed => exact ⟨rfl, rfl, rfl, rfl⟩

private theorem patchField_of_isOwned (owned : s.target.isOwned = true) (identity column : String)
    (value : Json) :
    s.patchField identity column value =
      ({ s with rows := (s.rows.edit identity (attributeOf column) value).1 }.perform
        (.edit ("mychannel/torrents/" ++ identity) (attributeOf column) value) (.edit identity),
        .ok (.edit ("mychannel/torrents/" ++ identity) (attributeOf column) value)) := by
  unfold patchField
  rw [Target.editEndpoint_of_isOwned owned]

/-- The owner of a listing edits one column of a row. One request is sent, which writes the
attribute of the column and nothing else. The same attribute is set in the row that is found under
the identity, if there is one; no other field, no other row and nothing else of the session is
touched but the list of open requests. Whatever happens then, what is posted as the outcome of the
request is about this edit; and whenever such a message is processed, or an answer to an edit is
handed over, rows, count, epoch and window stay as they are. -/
theorem patch_edits_one_field (reachable : Reachable s) (owned : s.target.isOwned = true)
    (identity column : String) (value : Json) :
    let field := attributeOf column
    let next := (s.patchField identity column value).1
    (s.patchField identity column value).2 = .ok ⟨.patch, "mychannel/torrents/" ++ identity, [],
      some (.object [(field, value)])⟩ ∧
    next.wire = s.wire.push ⟨.patch, "mychannel/torrents/" ++ identity, [],
      some (.object [(field, value)])⟩ ∧
    s.rows.Sets identity field value next.rows ∧
    (∀ (item : Item) (name : String), (item.set field value).get? name =
      if field = name then some value else item.get? name) ∧
    next = { s with rows := next.rows, wire := next.wire, pending := next.pending } ∧
    ∀ steps : List (Epoch × Action),
      let later := next.run steps
      (∀ outcome after, later.answer? s.wire.size outcome = some after →
        after.inbox = later.inbox ++ [.edit identity outcome]) ∧
      (∀ outcome rest, later.inbox = .edit identity outcome :: rest →
        ∃ processed result, later.processNext = some (processed, result) ∧
          later.SameTable processed) ∧
      ∀ v, later.SameTable (later.onEditResponse v).1 := by
  intro field next
  have patched := s.patchField_of_isOwned owned identity column value
  have edited : next = { s with rows := (s.rows.edit identity field value).1 }.perform
      (.edit ("mychannel/torrents/" ++ identity) field value) (.edit identity) :=
    congrArg Prod.fst patched
  have acted : Reachable next := reachable.act ⟨0#128⟩ (.patchField identity column value)
  have asked : ⟨s.wire.size, .edit identity⟩ ∈ next.pending := by
    rw [edited]
    exact List.mem_append_right _ (List.mem_singleton_self _)
  refine ⟨congrArg Prod.snd patched, by rw [edited]; rfl, ?_, fun item name => item.get?_set ..,
    by rw [edited]; rfl, ?_⟩
  · rw [edited]
    exact s.rows.sets_edit identity field value
  · intro steps later
    refine ⟨fun outcome after => acted.booked.inbox_answer? asked steps, ?_,
      later.sameTable_onEditResponse⟩
    intro outcome rest waiting
    let left := { later with inbox := rest }
    obtain ⟨rows, total, epoch, window⟩ := left.sameTable_handle_edit identity outcome
    refine ⟨(left.handle (.edit identity outcome)).1, (left.handle (.edit identity outcome)).2, ?_,
      ⟨rows, total, epoch, window⟩⟩
    simp only [processNext, waiting, left]

/-- Two copies of a row are loaded, and one is given a category. The answer to the edit comes after
a refresh. -/
theorem patch_edits_one_field_of_copies :
    let row (name : String) : Json := .object [("infohash", .text "a"), ("name", .text name)]
    let v : Json := .object [("dirty", .bool false), ("results", .array [row "one", row "two"])]
    let first := initial (.ownedListing true) ⟨50, .append, true, 256, .default⟩
    let s := first.run [(⟨1#128⟩, .refresh), (⟨2#128⟩, .onResponse v .backend)]
    let next := (s.patchField "a" "category" (.text "x")).1
    let told : Json := .object [("dirty", .bool true)]
    let later := next.run [(⟨3#128⟩, .refresh), (⟨4#128⟩, .answer 1 (.ok told))]
    s.target.isOwned = true ∧
    next.wire = s.wire.push ⟨.patch, "mychannel/torrents/a", [],
      some (.object [("tags", .text "x")])⟩ ∧
    next.rows.find? "a" =
      some ⟨[("infohash", .text "a"), ("name", .text "one"), ("tags", .text "x")]⟩ ∧
    next.rows.get? 1 = s.rows.get? 1 ∧ later.inbox = [.edit "a" (.ok told)] ∧
    ∃ processed result, later.processNext = some (processed, result) ∧
      processed.rows = later.rows ∧ processed.epoch? = later.epoch? := by
  intro row v first s next told later
  have opening : begin (.ownedListing true) ⟨50, .append, true, 256, .default⟩ =
      .opened first :=
    begin_of_room _ rfl (by decide +kernel)
  have reachable : Reachable s := (Reachable.opened opening).run _
  have found : s.rows.find? "a" = some ⟨[("infohash", .text "a"), ("name", .text "one")]⟩ := by
    decide +kernel
  have waiting : later.inbox = [.edit "a" (.ok told)] := rfl
  obtain ⟨-, wire, sets, -, -, runs⟩ :=
    patch_edits_one_field reachable rfl "a" "category" (.text "x")
  obtain ⟨edited, place, filed, -, -, others⟩ := sets.found _ found
  have elsewhere : 1 ≠ place := by
    have top : s.rows.index["a"]? = some 0 := by decide +kernel
    rw [top] at filed
    cases filed
    decide
  obtain ⟨processed, result, taken, same⟩ :=
    (runs [(⟨3#128⟩, .refresh), (⟨4#128⟩, .answer 1 (.ok told))]).2.1 _ _ waiting
  exact ⟨rfl, wire, edited, others 1 elsewhere, waiting, processed, result, taken, same.rows,
    same.epoch?⟩

end Session

end LiveTable
