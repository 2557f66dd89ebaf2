import LiveTable.Proofs.Epoch.Token
import LiveTable.Proofs.Session.Leftover
import LiveTable.Proofs.Session.Step
set_option autoImplicit false

/-!
# Superseded answers

Once a newer epoch has started, nothing that comes of an older query has any effect. The invariant
behind it is `Traced`: every open query belongs to an epoch that there has been. An epoch that is
replaced stays replaced, by `head?_ne_of_suffix`, so that what it asked for is stale for ever. Main
statement: whatever comes of a query changes nothing once an epoch has been started after it.
-/

namespace LiveTable

namespace Session

def Traced (s : Session) : Prop :=
  ∀ number epoch, ⟨number, .page epoch⟩ ∈ s.pending → epoch ∈ s.epochs

namespace Traced

private theorem of_sameQueries {s t : Session} (traced : s.Traced) (same : s.SameQueries t) :
    t.Traced := by
  intro number epoch asked
  rw [same.pending] at asked
  rw [same.epochs]
  exact traced number epoch asked

private theorem of_query {s t : Session} {newest : Epoch} {place : Nat} (traced : s.Traced)
    (pending : t.pending = s.pending ++ [⟨place, .page newest⟩]) (current : newest ∈ t.epochs)
    (kept : ∀ epoch ∈ s.epochs, epoch ∈ t.epochs) : t.Traced := by
  intro number epoch asked
  rw [pending] at asked
  rcases List.mem_append.mp asked with older | newer
  · exact kept epoch (traced number epoch older)
  · cases List.mem_singleton.mp newer
    exact current

private theorem queryListing {s : Session} (traced : s.Traced) (fresh : Epoch) (window : Window)
    (extra : Fields) : (s.queryListing fresh window extra).Traced := by
  refine traced.of_query (pending_queryListing ..) ?_ ?_
  · rw [epochs_queryListing]
    exact List.mem_cons_self
  · exact fun epoch past =>
      (extends_query { s with window := window } fresh extra).epochs.subset past

theorem step {s next : Session} {fresh : Epoch} {action : Action} (traced : s.Traced)
    (step : Step s fresh action next) : next.Traced := by
  cases step with
  | idle => exact traced
  | listing =>
    exact traced.of_query (pending_startListing ..) List.mem_cons_self
      fun _ => List.mem_cons_of_mem _
  | preview =>
    exact traced.of_query (pending_startPreview ..) List.mem_cons_self
      fun _ => List.mem_cons_of_mem _
  | dispatch => exact traced.queryListing _ _ _
  | turn => exact traced.queryListing _ _ _
  | edit =>
    intro number epoch asked
    rcases List.mem_append.mp asked with older | newer
    · exact traced number epoch older
    · cases List.mem_singleton.mp newer
  | respond => exact traced.of_sameQueries (s.sameQueries_absorb _ _)
  | respondEdit => exact traced.of_sameQueries (s.sameQueries_setDirty _)
  | select => exact traced.of_sameQueries (s.sameQueries_emit _)
  | answer =>
    intro number epoch asked
    exact traced number epoch (List.mem_filter.mp asked).1
  | push => exact traced
  | process =>
    rename_i messages rest processing waiting
    have emptied : { s with inbox := rest }.Traced := traced
    exact emptied.of_sameQueries (sameQueries_handleAll _ messages)

private theorem initial (target : Target) (settings : Settings) :
    (initial target settings).Traced := by
  intro number epoch asked
  cases asked

end Traced

theorem Reachable.traced {s : Session} (reachable : Reachable s) : s.Traced := by
  induction reachable with
  | opened opening =>
    rw [begin_eq_opened opening]
    exact Traced.initial _ _
  | @act s fresh action _ ih => exact ih.step (s.step fresh action)

theorem head?_ne_of_suffix {fresh past : Epoch} {older epochs : List Epoch}
    (replaced : fresh :: older <:+ epochs) (distinct : epochs.Nodup) (member : past ∈ older) :
    epochs.head? ≠ some past := by
  obtain ⟨newer, rfl⟩ := replaced
  obtain ⟨-, rest, apart⟩ := List.nodup_append.mp distinct
  cases newer with
  | nil =>
    intro same
    have same : fresh = past := Option.some.inj same
    exact (List.nodup_cons.mp rest).1 (same ▸ member)
  | cons newest newer =>
    intro same
    have same : newest = past := Option.some.inj same
    exact apart newest List.mem_cons_self past (List.mem_cons_of_mem _ member) same

/-- An answer that echoes no token, or one that no epoch but the given one recognises. -/
def Echoes (epoch : Epoch) (v : Json) : Prop :=
  ∀ token, echo? v = some token → ∀ other : Epoch, other.matchesToken token → other = epoch

private theorem Echoes.of_matchesToken {epoch : Epoch} {v : Json} {token : String}
    (echoed : echo? v = some token) (own : epoch.matchesToken token) : Echoes epoch v := by
  intro token' echoed' other recognised
  rw [echoed] at echoed'
  cases echoed'
  exact Epoch.eq_of_matchesToken own recognised

private theorem Echoes.outdated {epoch : Epoch} {v : Json} (echo : Echoes epoch v) :
    outdated [epoch] v := by
  unfold Session.outdated
  cases named : (echo? v).bind Epoch.ofText? with
  | none => rfl
  | some other =>
    obtain ⟨token, echoed, named⟩ := Option.bind_eq_some_iff.mp named
    have own : other = epoch := echo token echoed other (decide_eq_true named)
    simp [own]

theorem handle_of_superseded {s : Session} {number : Nat} {epoch current : Epoch}
    {outcome : Except String Json} (newest : s.epoch? = some current) (passed : current ≠ epoch)
    (echo : ∀ v, outcome = .ok v → Echoes epoch v) :
    s.handle (OpenRequest.message ⟨number, .page epoch⟩ outcome) = (s, .ok false) := by
  have new : current ∉ [epoch] := by simpa using passed
  refine handle_of_inert newest new (Message.isInert_iff.mpr ⟨?_, ?_⟩)
  · cases outcome with
    | error reason => rfl
    | ok v => exact (echo v rfl).outdated
  · rintro _ ⟨⟩
    exact List.mem_singleton_self epoch

private theorem processPending_of_superseded {s : Session} {number : Nat} {epoch current : Epoch}
    {outcome : Except String Json} {ahead rest : List Message} (newest : s.epoch? = some current)
    (passed : current ≠ epoch) (echo : ∀ v, outcome = .ok v → Echoes epoch v)
    (waiting : s.inbox = ahead ++ OpenRequest.message ⟨number, .page epoch⟩ outcome :: rest) :
    s.processPending = { s with inbox := ahead ++ rest }.processPending.map id (· + 1) := by
  have reached : ({ s with inbox := [] }.handleAll ahead).epoch? = some current :=
    (sameQueries_handleAll { s with inbox := [] } ahead).epoch?.trans newest
  have skipped : ({ s with inbox := [] }.handleAll ahead).handle
      (OpenRequest.message ⟨number, .page epoch⟩ outcome) =
        ({ s with inbox := [] }.handleAll ahead, .ok false) :=
    handle_of_superseded reached passed echo
  simp only [processPending_eq, waiting, handleAll_append, handleAll_cons, skipped, Prod.map, id]
  simp only [List.length_append, List.length_cons, Nat.add_assoc]

/-- Whatever comes of a query after a newer epoch has started, in any order and at any later moment,
has no effect, unless it echoes the token of another epoch. The epochs before the newer one never
become current again. -/
theorem superseded_never_lands {s : Session} (reachable : Reachable s) {number : Nat}
    {epoch : Epoch} (asked : ⟨number, .page epoch⟩ ∈ s.pending)
    (between after : List (Epoch × Action)) {fresh : Epoch} {action : Action}
    (starts : (s.run between).Starts fresh action) {later : Session}
    (moment : later = ((s.run between).act fresh action).run after)
    (distinct : later.epochs.Nodup) {outcome : Except String Json}
    (echo : ∀ v, outcome = .ok v → Echoes epoch v) {message : Message}
    (answers : message = OpenRequest.message ⟨number, .page epoch⟩ outcome) :
    later.epoch? ≠ some epoch ∧
    (∀ past ∈ (s.run between).epochs, later.epoch? ≠ some past) ∧
    later.handle message = (later, .ok false) ∧
    (∀ rest, later.inbox = message :: rest →
      later.processNext = some ({ later with inbox := rest }, .ok false)) ∧
    (∀ ahead rest, later.inbox = ahead ++ message :: rest →
      later.processPending =
        { later with inbox := ahead ++ rest }.processPending.map id (· + 1)) := by
  -- Epochs are only put in front, so the older ones stay behind the one that has been started.
  have replaced : fresh :: (s.run between).epochs <:+ later.epochs := by
    rw [moment, ← starts.epochs]
    exact (extends_run _ after).epochs
  have never : ∀ past ∈ (s.run between).epochs, later.epoch? ≠ some past :=
    fun _ => head?_ne_of_suffix replaced distinct
  have stale : later.epoch? ≠ some epoch :=
    never epoch ((extends_run s between).epochs.subset (reachable.traced number epoch asked))
  obtain ⟨current, newest⟩ : ∃ current, later.epoch? = some current := by
    obtain ⟨newer, same⟩ := replaced
    cases newer with
    | nil => exact ⟨fresh, by rw [epoch?, ← same]; rfl⟩
    | cons current newer => exact ⟨current, by rw [epoch?, ← same]; rfl⟩
  have passed : current ≠ epoch := fun same => stale (same ▸ newest)
  subst answers
  refine ⟨stale, never, handle_of_superseded newest passed echo, ?_, ?_⟩
  · intro rest waiting
    have newest' : { later with inbox := rest }.epoch? = some current := newest
    have skipped : { later with inbox := rest }.handle
        (OpenRequest.message ⟨number, .page epoch⟩ outcome) =
          ({ later with inbox := rest }, .ok false) :=
      handle_of_superseded newest' passed echo
    simp only [processNext, waiting, skipped]
  · exact fun ahead rest => processPending_of_superseded newest passed echo

/-- A table was refreshed while its first query was open. The late answer has no readable rows and
echoes the first epoch in another layout. -/
theorem superseded_never_lands_after_refresh :
    let first : Epoch := ⟨0xa#128⟩
    let v : Json := .object [("results", .null), ("uuid", .text first.hyphenated)]
    let s := (initial (.search none) .default).act first .refresh
    let later := (s.act ⟨2#128⟩ .refresh).run [(⟨3#128⟩, .answer 0 (.ok v))]
    ⟨0, .page first⟩ ∈ s.pending ∧ later.epochs.Nodup ∧ Echoes first v ∧
      later.processNext = some ({ later with inbox := [] }, .ok false) := by
  intro first v s later
  have opened : Reachable (initial (.search none) .default) :=
    .opened (begin_default _)
  have reachable : Reachable s := opened.act first .refresh
  have asked : ⟨0, .page first⟩ ∈ s.pending := List.mem_singleton.mpr rfl
  have starts : (s.run []).Starts ⟨2#128⟩ .refresh := .refresh rfl
  have distinct : later.epochs.Nodup := by decide
  have echo : Echoes first v :=
    Echoes.of_matchesToken (rfl : echo? v = some first.hyphenated) (by decide +kernel)
  have answers : ∀ u, (.ok v : Except String Json) = .ok u → Echoes first u :=
    fun _ same => Except.ok.inj same ▸ echo
  have landed := superseded_never_lands reachable asked [] [(⟨3#128⟩, .answer 0 (.ok v))] starts rfl
    distinct answers rfl
  exact ⟨asked, distinct, echo, landed.2.2.2.1 [] rfl⟩

end Session

end LiveTable
