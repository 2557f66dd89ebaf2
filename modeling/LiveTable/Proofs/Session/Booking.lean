import LiveTable.Proofs.Session.Superseded
import Mathlib.Data.List.Nodup
set_option autoImplicit false

/-!
# Where messages come from

Open requests have numbers of their own, and whatever waits was asked for in an epoch that there has
been: `Booked` is the invariant. Main statement: `Booked.isInert`, by which in a reachable session
all leftovers are inert as soon as its own epochs are past.
-/

namespace LiveTable

namespace Session

variable {past : List Epoch} {s t : Session}

/-- Open requests have numbers of their own, and what waits was asked for in epochs that there have
been. -/
structure Booked (s : Session) : Prop where
  distinct : (s.pending.map OpenRequest.number).Nodup
  sent : ∀ request ∈ s.pending, request.number < s.wire.size
  asked : ∀ message ∈ s.inbox, ∀ epoch, message.captured? = some epoch → epoch ∈ s.epochs

namespace Booked

private theorem of_sameQueries (booked : s.Booked) (same : s.SameQueries t) : t.Booked := by
  constructor
  · rw [same.pending]
    exact booked.distinct
  · rw [same.pending, same.wire]
    exact booked.sent
  · rw [same.inbox, same.epochs]
    exact booked.asked

private theorem of_perform (booked : s.Booked) {purpose : Purpose}
    (pending : t.pending = s.pending ++ [⟨s.wire.size, purpose⟩])
    (wire : t.wire.size = s.wire.size + 1) (inbox : t.inbox = s.inbox)
    (kept : ∀ epoch ∈ s.epochs, epoch ∈ t.epochs) : t.Booked := by
  constructor
  · rw [pending, List.map_append, List.nodup_append]
    refine ⟨booked.distinct, List.pairwise_singleton _ _, ?_⟩
    intro number older other newer
    obtain ⟨request, member, rfl⟩ := List.mem_map.mp older
    rw [List.mem_singleton.mp newer]
    exact Nat.ne_of_lt (booked.sent request member)
  · intro request member
    rw [pending] at member
    rw [wire]
    rcases List.mem_append.mp member with older | newer
    · exact Nat.lt_succ_of_lt (booked.sent request older)
    · cases List.mem_singleton.mp newer
      exact Nat.lt_succ_self _
  · intro message member epoch captured
    rw [inbox] at member
    exact kept epoch (booked.asked message member epoch captured)

private theorem queryListing (booked : s.Booked) (fresh : Epoch) (window : Window)
    (extra : Fields) :
    (s.queryListing fresh window extra).Booked := by
  have kept := (extends_query { s with window := window } fresh extra).epochs
  exact booked.of_perform (pending_queryListing ..) (Array.size_push _) rfl fun _ => (kept.subset ·)

theorem step {fresh : Epoch} {action : Action} (booked : s.Booked) (traced : s.Traced)
    (step : Step s fresh action t) : t.Booked := by
  cases step with
  | idle => exact booked
  | listing =>
    exact booked.of_perform (pending_startListing ..) (Array.size_push _) rfl
      fun _ => List.mem_cons_of_mem _
  | preview =>
    exact booked.of_perform (pending_startPreview ..) (Array.size_push _) rfl
      fun _ => List.mem_cons_of_mem _
  | dispatch => exact booked.queryListing _ _ _
  | turn => exact booked.queryListing _ _ _
  | edit => exact booked.of_perform rfl (Array.size_push _) rfl fun _ => id
  | respond => exact booked.of_sameQueries (s.sameQueries_absorb _ _)
  | respondEdit => exact booked.of_sameQueries (s.sameQueries_setDirty _)
  | select => exact booked.of_sameQueries (s.sameQueries_emit _)
  | @answer number outcome request found =>
    have member := List.mem_of_find?_eq_some found
    constructor
    · exact booked.distinct.sublist (List.filter_sublist.map _)
    · exact fun request member => booked.sent request (List.mem_filter.mp member).1
    · intro message waits epoch captured
      rcases List.mem_append.mp waits with older | newer
      · exact booked.asked message older epoch captured
      · rw [List.mem_singleton.mp newer] at captured
        match request, member, captured with
        | ⟨number, .page _⟩, member, rfl => exact traced number epoch member
  | push =>
    refine ⟨booked.distinct, booked.sent, ?_⟩
    intro message waits epoch captured
    rcases List.mem_append.mp waits with older | newer
    · exact booked.asked message older epoch captured
    · rw [List.mem_singleton.mp newer] at captured
      cases captured
  | @process _ messages rest _ waiting =>
    have emptied : { s with inbox := rest }.Booked :=
      ⟨booked.distinct, booked.sent, fun message later =>
        booked.asked message (waiting ▸ List.mem_append_right messages later)⟩
    exact emptied.of_sameQueries (sameQueries_handleAll _ messages)

theorem find?_eq (booked : s.Booked) {request : OpenRequest} (asked : request ∈ s.pending) :
    s.pending.find? (·.number = request.number) = some request := by
  cases search : s.pending.find? (·.number = request.number) with
  | none =>
    have missing := List.find?_eq_none.mp search request asked
    simp at missing
  | some found =>
    have place : found.number = request.number := by simpa using List.find?_some search
    have member := List.mem_of_find?_eq_some search
    rw [List.inj_on_of_nodup_map booked.distinct member asked place]

private theorem initial (target : Target) (settings : Settings) :
    (initial target settings).Booked :=
  ⟨List.nodup_nil, by simp [Session.initial], by simp [Session.initial]⟩

end Booked

theorem Reachable.booked (reachable : Reachable s) : s.Booked := by
  induction reachable with
  | opened opening =>
    rw [begin_eq_opened opening]
    exact .initial _ _
  | @act s fresh action earlier ih => exact ih.step earlier.traced (s.step fresh action)

theorem Booked.isInert (booked : s.Booked) (within : s.epochs ⊆ past) {message : Message}
    (waits : message ∈ s.inbox) (leftover : message.isLeftover past) : message.isInert past := by
  refine Message.isInert_iff.mpr ⟨leftover, ?_⟩
  exact fun epoch captured => within (booked.asked message waits epoch captured)

end Session

end LiveTable
