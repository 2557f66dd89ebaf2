import LiveTable.Proofs.Session.Question
import LiveTable.Proofs.Session.Refusal
import Mathlib.Data.String.Basic
set_option autoImplicit false

/-!
# Tickets

Eight calls of the owner may have a query sent. Each that does comes back with a ticket, which tells
what is on the wire; each that does not leaves everything as it was. `Ticket.Matches` says what a
ticket has to do with the session after the call: every parameter is the caller's, or else the
target's, or else one that all queries have, and those are made of the session as it is then. All
calls go through `sendQuery`, by `reply?_eq_ticket`. Main statement: `tickets_match_wire`.
-/

namespace LiveTable

/-! ## Fields in their order -/

namespace Fields

def Sorted (fields : Fields) : Prop := (fields.map Prod.fst).Pairwise (· < ·)

private theorem sorted_nil : Sorted [] := List.Pairwise.nil

private theorem sorted_cons {name : String} {value : Json} {rest : Fields} :
    Sorted ((name, value) :: rest) ↔ (∀ field ∈ rest, name < field.1) ∧ Sorted rest := by
  simp [Sorted]

private theorem eq_or_mem_of_mem_insert {name : String} {value : Json} {fields : Fields}
    {field : String × Json} (member : field ∈ insert name value fields) :
    field = (name, value) ∨ field ∈ fields := by
  induction fields with
  | nil => exact .inl (List.mem_singleton.mp member)
  | cons first rest ih =>
    rw [insert] at member
    split at member
    · rcases List.mem_cons.mp member with new | old
      · exact .inl new
      · exact .inr (List.mem_cons_of_mem _ old)
    · split at member
      · exact List.mem_cons.mp member
      · rcases List.mem_cons.mp member with same | later
        · exact .inr (same ▸ List.mem_cons_self)
        · exact (ih later).imp id (List.mem_cons_of_mem _)

private theorem Sorted.insert {fields : Fields} (sorted : Sorted fields) (name : String)
    (value : Json) :
    Sorted (insert name value fields) := by
  induction fields with
  | nil => simp [Fields.insert, Sorted]
  | cons first rest ih =>
    obtain ⟨key, old⟩ := first
    obtain ⟨least, sorted⟩ := sorted_cons.mp sorted
    rw [Fields.insert]
    split
    · rename_i same
      exact sorted_cons.mpr ⟨same ▸ least, sorted⟩
    · rename_i other
      split
      · rename_i before
        refine sorted_cons.mpr ⟨?_, sorted_cons.mpr ⟨least, sorted⟩⟩
        intro field member
        rcases List.mem_cons.mp member with rfl | later
        · exact before
        · exact lt_trans before (least field later)
      · rename_i behind
        refine sorted_cons.mpr ⟨?_, ih sorted⟩
        intro field member
        rcases eq_or_mem_of_mem_insert member with rfl | old
        · exact lt_of_le_of_ne (not_lt.mp behind) other
        · exact least field old

private theorem sorted_ofList (pairs : List (String × Json)) : Sorted (ofList pairs) := by
  induction pairs with
  | nil => exact sorted_nil
  | cons pair rest ih => exact ih.insert pair.1 pair.2

private theorem Sorted.overriddenBy {base : Fields} (sorted : Sorted base) (upper : Fields) :
    Sorted (base.overriddenBy upper) := by
  induction upper with
  | nil => exact sorted
  | cons field rest ih => exact ih.insert field.1 field.2

end Fields

/-! ## What a query is made of -/

def Action.extra : Action → Fields
  | .dispatch extra => extra
  | _ => []

namespace Session

/-- The parameters that the target gives: those of the preview, or those of its listing. -/
def targetExtra (s : Session) : Action → Fields
  | .fetchPreview => [("metadata_type", .text "torrent")]
  | _ => s.target.extraParams

def endpointOf (s : Session) : Action → String
  | .fetchPreview => "search"
  | _ => s.target.endpoint

/-- The text that a query is filtered by: the key of the channel for its preview. -/
def filterSource (s : Session) : Action → String
  | .fetchPreview =>
    match s.target with
    | .parentScoped publicKey _ => publicKey
    | _ => ""
  | _ => s.filterText

def commonParams (s : Session) (epoch : Epoch) (filterSource : String) : Fields :=
  [("uuid", .text epoch.token), ("filter", .text (Filter.compile filterSource)),
    ("sort_by", .text s.sort.column), ("sort_asc", .bool s.sort.ascending),
    ("first", Json.ofWord32 s.window.first), ("last", Json.ofWord32 s.window.last),
    ("hide_xxx", .bool s.settings.hideXxx)]

/-- What the owner gets back from a call that may have a query sent: a ticket, or nothing, or a
failure. -/
def reply? (s : Session) (fresh : Epoch) : Action → Option (Except Failure (Option Ticket))
  | .resetAndQuery window => some ((s.resetAndQuery fresh window).2.map some)
  | .refresh => some ((s.refresh fresh).2.map some)
  | .setSort sort => some ((s.setSort fresh sort).2.map some)
  | .setFilterText text => some ((s.setFilterText fresh text).2.map some)
  | .fetchPreview => some ((s.fetchPreview fresh).2.map some)
  | .dispatch extra => some ((s.query fresh extra).2.map some)
  | .continueQuery => some (s.continueQuery fresh).2
  | .scroll atBottom => some (s.scroll fresh atBottom).2
  | _ => none

end Session

/-- A ticket of an action tells what the action has put on the wire, and that is a query of the
epoch and the window that are then the current ones. -/
structure Ticket.Matches (ticket : Ticket) (s : Session) (action : Action) (next : Session) :
    Prop where
  wire : next.wire = s.wire.push ticket.request
  method : ticket.request.method = .get
  endpoint : ticket.request.endpoint = next.endpointOf action
  body : ticket.request.body = none
  epoch : next.epoch? = some ticket.epoch
  window : next.window = ticket.window
  params : ∀ name, Fields.get? name ticket.request.params =
    ((Fields.get? name action.extra).or (Fields.get? name (next.targetExtra action))).or
      (Fields.get? name (next.commonParams ticket.epoch (next.filterSource action)))
  sorted : Fields.Sorted ticket.request.params

namespace Session

variable {s : Session} {fresh : Epoch} {action : Action} {ticket : Ticket}

theorem get?_targetExtra (s : Session) (action : Action) {name : String}
    (common : name ∉ ["metadata_type", "subscribed", "exclude_deleted"]) :
    Fields.get? name (s.targetExtra action) = none := by
  cases action with
  | fetchPreview =>
    have other : "metadata_type" ≠ name := fun same => common (by simp [← same])
    simp [targetExtra, Fields.get?, other]
  | _ => exact s.target.get?_extraParams common

private theorem epoch?_sendQuery (s : Session) (fresh : Epoch) (endpoint filter : String)
    (extra : Fields) :
    (s.sendQuery fresh endpoint filter extra).1.epoch? = some (s.epoch?.getD fresh) := by
  cases epochs : s.epochs <;> simp [sendQuery, perform, epoch?, epochs]

/-- The query that a session sends for an action, once it has made its own changes for it. -/
def sendFor (s : Session) (fresh : Epoch) (action : Action) :
    Session × Except Failure Ticket :=
  s.sendQuery fresh (s.endpointOf action) (Filter.compile (s.filterSource action))
    ((s.targetExtra action).overriddenBy action.extra)

private theorem matches_sendFor (s : Session) (fresh : Epoch) (action : Action) :
    ∃ ticket : Ticket, (s.sendFor fresh action).2 = .ok ticket ∧
      ticket.Matches s action (s.sendFor fresh action).1 := by
  let query : Query := ⟨s.epoch?.getD fresh, Filter.compile (s.filterSource action), s.sort,
    s.window, s.settings.hideXxx, (s.targetExtra action).overriddenBy action.extra⟩
  refine ⟨⟨s.epoch?.getD fresh, s.window, query.request (s.endpointOf action)⟩, rfl, ?_⟩
  exact {
    wire := rfl
    method := rfl
    endpoint := by cases action <;> rfl
    body := rfl
    epoch := s.epoch?_sendQuery fresh _ _ _
    window := rfl
    params := by
      intro name
      have common : (s.sendFor fresh action).1.commonParams (s.epoch?.getD fresh)
            ((s.sendFor fresh action).1.filterSource action) =
          s.commonParams (s.epoch?.getD fresh) (s.filterSource action) := by
        cases action <;> rfl
      have own : (s.sendFor fresh action).1.targetExtra action = s.targetExtra action := by
        cases action <;> rfl
      rw [common, own]
      show Fields.get? name (Fields.overriddenBy _ _) = _
      rw [Fields.get?_overriddenBy, Fields.get?_overriddenBy, Query.baseParams,
        Fields.get?_ofList]
      rfl
    sorted := (Fields.sorted_ofList _).overriddenBy _ }

private theorem map_some_eq_ok {outcome : Except Failure Ticket} :
    outcome.map some = .ok (some ticket) ↔ outcome = .ok ticket := by
  cases outcome <;> simp [Except.map]

private theorem map_some_ne_ok_none {outcome : Except Failure Ticket} :
    outcome.map some ≠ .ok none := by
  cases outcome <;> simp [Except.map]

private theorem resetAndQuery_eq_ok {window : Option Window}
    (done : (s.resetAndQuery fresh window).2 = .ok ticket) :
    (s.startEpoch fresh window).query fresh [] =
      ((s.resetAndQuery fresh window).1, .ok ticket) := by
  unfold resetAndQuery at done ⊢
  split at done
  · cases done
  · rename_i checked
    obtain ⟨rfl, -⟩ := mapM_checked_eq_ok checked
    exact Prod.ext rfl done

private theorem continueQuery_eq_ok (done : (s.continueQuery fresh).2 = .ok (some ticket)) :
    ∃ window, { s with window := window }.query fresh [] =
      ((s.continueQuery fresh).1, .ok ticket) := by
  unfold continueQuery at done ⊢
  split at done
  · cases done
  · split at done
    · cases done
    · rename_i loaded _ window _
      refine ⟨window, Prod.ext ?_ (map_some_eq_ok.mp done)⟩
      simp only [if_neg loaded]
      rfl

private theorem fetchPreview_eq_ok (done : (s.fetchPreview fresh).2 = .ok ticket) :
    (s.startEpoch fresh none).sendFor fresh .fetchPreview =
      ((s.fetchPreview fresh).1, .ok ticket) := by
  unfold fetchPreview at done ⊢
  cases target : s.target with
  | parentScoped publicKey channelId =>
    simp only [target, Target.preview] at done ⊢
    have key : (s.startEpoch fresh none).filterSource .fetchPreview = publicKey := by
      simp [filterSource, startEpoch, target]
    rw [← done, sendFor, key]
    rfl
  | _ =>
    simp only [target, Target.preview] at done
    cases done

theorem reply?_eq_ticket (granted : s.reply? fresh action = some (.ok (some ticket))) :
    ∃ t : Session, t.wire = s.wire ∧
      t.sendFor fresh action = (s.act fresh action, .ok ticket) := by
  cases action with
  | resetAndQuery window =>
    have done := map_some_eq_ok.mp (Option.some.inj granted)
    exact ⟨s.startEpoch fresh window, rfl, resetAndQuery_eq_ok done⟩
  | refresh =>
    have done := map_some_eq_ok.mp (Option.some.inj granted)
    exact ⟨s.startEpoch fresh none, rfl, resetAndQuery_eq_ok done⟩
  | setSort sort =>
    have done := map_some_eq_ok.mp (Option.some.inj granted)
    exact ⟨startEpoch { s with sort := sort } fresh none, rfl, resetAndQuery_eq_ok done⟩
  | setFilterText text =>
    have done := map_some_eq_ok.mp (Option.some.inj granted)
    exact ⟨startEpoch { s with filterText := s.target.boundFilter text } fresh none, rfl,
      resetAndQuery_eq_ok done⟩
  | fetchPreview =>
    have done := map_some_eq_ok.mp (Option.some.inj granted)
    exact ⟨s.startEpoch fresh none, rfl, fetchPreview_eq_ok done⟩
  | dispatch extra =>
    have done := map_some_eq_ok.mp (Option.some.inj granted)
    exact ⟨s, rfl, Prod.ext rfl done⟩
  | continueQuery =>
    obtain ⟨window, same⟩ := continueQuery_eq_ok (Option.some.inj granted)
    exact ⟨{ s with window := window }, rfl, same⟩
  | scroll atBottom =>
    cases atBottom with
    | false => cases granted
    | true =>
      obtain ⟨window, same⟩ := continueQuery_eq_ok (Option.some.inj granted)
      exact ⟨{ s with window := window }, rfl, same⟩
  | _ => cases granted

theorem matches_of_reply? (granted : s.reply? fresh action = some (.ok (some ticket))) :
    ticket.Matches s action (s.act fresh action) := by
  obtain ⟨t, wire, same⟩ := reply?_eq_ticket granted
  obtain ⟨sent, done, matched⟩ := t.matches_sendFor fresh action
  rw [same] at done matched
  cases done
  exact { matched with wire := wire ▸ matched.wire }

private theorem fails_of_reply? {failure : Failure}
    (failed : s.reply? fresh action = some (.error failure)) : s.Fails fresh action failure := by
  cases action with
  | resetAndQuery window => exact .resetAndQuery (map_some_eq_error.mp (Option.some.inj failed))
  | refresh => exact .refresh (map_some_eq_error.mp (Option.some.inj failed))
  | setSort sort => exact .setSort (map_some_eq_error.mp (Option.some.inj failed))
  | setFilterText text => exact .setFilterText (map_some_eq_error.mp (Option.some.inj failed))
  | fetchPreview => exact .fetchPreview (map_some_eq_error.mp (Option.some.inj failed))
  | dispatch extra => exact .dispatch (map_some_eq_error.mp (Option.some.inj failed))
  | continueQuery => exact .continueQuery (Option.some.inj failed)
  | scroll atBottom => exact .scroll (Option.some.inj failed)
  | _ => cases failed

private theorem continueQuery_of_none (none : (s.continueQuery fresh).2 = .ok none) :
    (s.continueQuery fresh).1 = s := by
  rcases s.continueQuery_cases fresh with
    (same | ⟨_, same⟩) | ⟨_, _, -, -, -, same⟩
  · rw [same]
  · rw [same]
  · rw [same] at none
    cases none

private theorem act_eq_of_reply? {reply : Except Failure (Option Ticket)}
    (replied : s.reply? fresh action = some reply)
    (ungranted : ∀ ticket, reply ≠ .ok (some ticket)) : s.act fresh action = s := by
  rcases reply with failure | _ | ticket
  · exact (fails_of_reply? replied).act_eq
  · cases action with
    | continueQuery => exact continueQuery_of_none (Option.some.inj replied)
    | scroll atBottom =>
      cases atBottom with
      | false => rfl
      | true => exact continueQuery_of_none (Option.some.inj replied)
    | resetAndQuery | refresh | setSort | setFilterText | fetchPreview | dispatch =>
      exact absurd (Option.some.inj replied) map_some_ne_ok_none
    | _ => cases replied
  · exact absurd rfl (ungranted ticket)

/-- A call that comes back with a ticket has handed exactly one request to the transport, which is
the ticket's. Unless the caller gives such parameters of its own, the request has the token of the
ticket's epoch and the bounds of its window. A call that comes back without a ticket has changed
nothing at all. -/
theorem tickets_match_wire (s : Session) (fresh : Epoch) (action : Action) :
    (∀ ticket, s.reply? fresh action = some (.ok (some ticket)) →
      ticket.Matches s action (s.act fresh action) ∧
      ((∀ name ∈ ["uuid", "first", "last"], Fields.get? name action.extra = none) →
        Fields.get? "uuid" ticket.request.params = some (.text ticket.epoch.token) ∧
        Fields.get? "first" ticket.request.params = some (Json.ofWord32 ticket.window.first) ∧
        Fields.get? "last" ticket.request.params = some (Json.ofWord32 ticket.window.last))) ∧
    ∀ reply, s.reply? fresh action = some reply → (∀ ticket, reply ≠ .ok (some ticket)) →
      s.act fresh action = s := by
  refine ⟨?_, fun reply => act_eq_of_reply?⟩
  intro ticket granted
  have sent := matches_of_reply? granted
  refine ⟨sent, ?_⟩
  intro free
  have common (name : String) (bound : name ∈ ["uuid", "first", "last"]) :
      Fields.get? name ticket.request.params =
        Fields.get? name ((s.act fresh action).commonParams ticket.epoch
          ((s.act fresh action).filterSource action)) := by
    have apart : name ∉ ["metadata_type", "subscribed", "exclude_deleted"] := by
      rintro added
      simp only [List.mem_cons, List.not_mem_nil, or_false] at bound added
      rcases bound with rfl | rfl | rfl <;> simp at added
    rw [sent.params, free name bound, get?_targetExtra _ _ apart, Option.none_or, Option.none_or]
  refine ⟨?_, ?_, ?_⟩
  · rw [common "uuid" (by simp)]
    rfl
  · rw [common "first" (by simp), ← sent.window]
    rfl
  · rw [common "last" (by simp), ← sent.window]
    rfl

/-- Channels are filtered, and queried once more by size; the scroll on the empty table asks for
nothing. -/
theorem tickets_match_wire_of_channels :
    let s := (initial (.filteredListing true) .default).act ⟨1#128⟩ (.setFilterText "Big Buck")
    let bySize : Action := .dispatch [("sort_by", .text "size")]
    (∃ ticket, s.reply? ⟨2#128⟩ bySize = some (.ok (some ticket)) ∧
      ticket.Matches s bySize (s.act ⟨2#128⟩ bySize) ∧
      Fields.get? "uuid" ticket.request.params = some (.text (Epoch.token ⟨1#128⟩)) ∧
      Fields.get? "filter" ticket.request.params = some (.text "\"big\"* AND \"buck\"*") ∧
      Fields.get? "sort_by" ticket.request.params = some (.text "size") ∧
      Fields.get? "subscribed" ticket.request.params = some (.bool true)) ∧
    s.reply? ⟨2#128⟩ (.scroll true) = some (.ok none) ∧ s.act ⟨2#128⟩ (.scroll true) = s := by
  intro s bySize
  have granted : s.reply? ⟨2#128⟩ bySize =
      some (.ok (some (s.dispatch ⟨2#128⟩ [("sort_by", .text "size")]).2)) := rfl
  have ignored : s.reply? ⟨2#128⟩ (.scroll true) = some (.ok none) := rfl
  obtain ⟨sent, common⟩ := (tickets_match_wire s ⟨2#128⟩ bySize).1 _ granted
  obtain ⟨uuid, -, -⟩ := common (by decide)
  refine ⟨⟨_, granted, sent, uuid, ?_, ?_, ?_⟩, ignored, ?_⟩
  · decide +kernel
  · decide +kernel
  · decide +kernel
  · exact (tickets_match_wire s ⟨2#128⟩ (.scroll true)).2 _ ignored (by simp)

end Session

end LiveTable
