import LiveTable.Proofs.Answer.Serves
import LiveTable.Proofs.Rows.Slice
import LiveTable.Proofs.Session.Draining
import LiveTable.Proofs.Session.Question
import LiveTable.Proofs.Session.Superseded
set_option autoImplicit false

/-!
# Paging through a listing

A table that pages through the listing of a backend always shows a beginning of it, whatever the
order in which pages are asked for, answered, lost and asked for again. The invariant is `Loaded`:
no query of the current epoch asks for rows beyond those right behind the loaded ones, and what
waits in the inbox answers queries that have been sent. Main statement: the rows are a beginning of
the listing at every moment, and each answer of the current epoch extends it to its window's end.
-/

namespace LiveTable

/-- A window that starts in the loaded rows or right behind them. -/
structure Window.Reaches (w : Window) (loaded : Nat) : Prop where
  positive : 1 ≤ w.first.toNat
  reached : w.first.toNat ≤ loaded + 1

private theorem Window.Reaches.mono {w : Window} {loaded more : Nat} (reaches : w.Reaches loaded)
    (grown : loaded ≤ more) : w.Reaches more :=
  ⟨reaches.positive, Nat.le_trans reaches.reached (by omega)⟩

private theorem Window.reaches_following (loaded : Nat) (batch : UInt32) :
    (following loaded batch).Reaches loaded := by
  constructor
  · simp only [following, toNat_rowNumber, UInt32.size]
    omega
  · simp only [following, toNat_rowNumber]
    omega

private theorem Serves.echo? {list : List Item} {epoch : Epoch} {r : Request} {v : Json}
    (serves : Serves list r v) (carries : Session.CarriesToken epoch r) :
    Session.echo? v = none ∨ Session.echo? v = some epoch.token := by
  rcases serves.token with absent | own
  · left
    simp [Session.echo?, absent]
  · right
    simp [Session.echo?, own, carries.2, Json.text?]

private theorem Serves.echoes {list : List Item} {epoch : Epoch} {r : Request} {v : Json}
    (serves : Serves list r v) (carries : Session.CarriesToken epoch r) :
    Session.Echoes epoch v := by
  intro token echoed other recognised
  rcases serves.echo? carries with absent | own
  · rw [absent] at echoed
    cases echoed
  · rw [own] at echoed
    rw [← Option.some.inj echoed, Epoch.matchesToken_token] at recognised
    exact (of_decide_eq_true recognised).symm

namespace Session

/-! ## What pages through a listing -/

/-- What the owner and a backend that serves a listing do while the table is paged. -/
inductive Paging (list : List Item) (s : Session) : Action → Prop
  | resetAndQuery : Paging list s (.resetAndQuery none)
  | refresh : Paging list s .refresh
  | dispatch : Paging list s (.dispatch [])
  | continueQuery : Paging list s .continueQuery
  | scroll {atBottom : Bool} : Paging list s (.scroll atBottom)
  | answered {number : Nat} {v : Json}
      (serves : ∀ r, s.wire[number]? = some r → Serves list r v) :
      Paging list s (.answer number (.ok v))
  | failed {number : Nat} {reason : String} : Paging list s (.answer number (.error reason))
  | processNext : Paging list s .processNext
  | processPending : Paging list s .processPending

inductive Paged (list : List Item) : Session → List (Epoch × Action) → Prop
  | nil {s : Session} : Paged list s []
  | cons {s : Session} {fresh : Epoch} {action : Action} {steps : List (Epoch × Action)}
      (paging : s.Paging list action) (rest : Paged list (s.act fresh action) steps) :
      Paged list s ((fresh, action) :: steps)

/-! ## The invariant -/

inductive Expected (list : List Item) (wire : Array Request) : Message → Prop
  | answered {epoch : Epoch} {r : Request} {v : Json} (sent : r ∈ wire)
      (carries : CarriesToken epoch r) (serves : Serves list r v) :
      Expected list wire (.page (some epoch) .backend (.ok v))
  | failed {epoch : Epoch} {reason : String} :
      Expected list wire (.page (some epoch) .backend (.error reason))

/-- Queries carry tokens of epochs that there have been, and what is open or waits is about them. -/
structure Tracked (list : List Item) (s : Session) : Prop where
  known : s.Known
  pending : ∀ request ∈ s.pending, ∃ epoch r, request.purpose = .page epoch ∧
    s.wire[request.number]? = some r ∧ CarriesToken epoch r
  inbox : ∀ message ∈ s.inbox, Expected list s.wire message

/-- The rows are a beginning of the listing, and no query of the current epoch leaves a gap. -/
structure Loaded (list : List Item) (s : Session) : Prop where
  tracked : s.Tracked list
  unique : s.settings.duplicatePolicy ≠ .append
  indexed : s.rows.Indexed
  begins : s.rows.Begins list
  total : ∀ total, s.total = some total → total.toNat = list.length
  started : ∃ epoch, s.epoch? = some epoch
  window : s.window.Reaches s.rows.size
  asked : ∀ epoch, s.epoch? = some epoch → ∀ r ∈ s.wire, CarriesToken epoch r →
    ∃ w, r.window? = some w ∧ w.Reaches s.rows.size

/-- The oldest message is an answer to a query of an epoch, and it is merged: the table then shows
the listing up to the end of the window that was asked for, or as far as it did before. -/
structure Lands (list : List Item) (s : Session) (epoch : Epoch) (v : Json) (next : Session) :
    Prop where
  merged : s.processNext = some (next, .ok true)
  asked : ∃ r ∈ s.wire, CarriesToken epoch r ∧ Serves list r v
  size : ∀ r ∈ s.wire, CarriesToken epoch r → Serves list r v → ∃ w, r.window? = some w ∧
    next.rows.size = max s.rows.size (min (w.last.toNat - 1) list.length)

variable {list : List Item} {s t : Session}

private theorem Expected.mono {wire more : Array Request} {message : Message}
    (expected : Expected list wire message) (kept : ∀ r ∈ wire, r ∈ more) :
    Expected list more message := by
  cases expected with
  | answered sent carries serves => exact .answered (kept _ sent) carries serves
  | failed => exact .failed

theorem window?_listingRequest (s : Session) (epoch : Epoch) :
    (s.listingRequest epoch).window? = some s.window :=
  Query.window?_request _ _ (s.target.get?_extraParams (by decide))
    (s.target.get?_extraParams (by decide))

namespace Tracked

private theorem of_sameQueries (tracked : s.Tracked list) (same : s.SameQueries t) :
    t.Tracked list := by
  constructor
  · unfold Known
    rw [same.wire, same.epochs]
    exact tracked.known
  · rw [same.pending, same.wire]
    exact tracked.pending
  · rw [same.inbox, same.wire]
    exact tracked.inbox

private theorem of_query {epoch : Epoch} {r : Request} (tracked : s.Tracked list)
    (carries : CarriesToken epoch r) (current : epoch ∈ t.epochs)
    (kept : ∀ past ∈ s.epochs, past ∈ t.epochs) (wire : t.wire = s.wire.push r)
    (pending : t.pending = s.pending ++ [⟨s.wire.size, .page epoch⟩]) (inbox : t.inbox = s.inbox) :
    t.Tracked list := by
  constructor
  · exact tracked.known.of_query carries current kept wire
  · intro request asked
    rw [pending] at asked
    rw [wire]
    rcases List.mem_append.mp asked with older | newer
    · obtain ⟨past, q, purpose, place, carried⟩ := tracked.pending request older
      have before : request.number < s.wire.size := (Array.getElem?_eq_some_iff.mp place).1
      refine ⟨past, q, purpose, ?_, carried⟩
      rw [Array.getElem?_push_lt before, ← place, Array.getElem?_eq_getElem before]
    · cases List.mem_singleton.mp newer
      exact ⟨epoch, r, rfl, Array.getElem?_push_size, carries⟩
  · intro message waits
    rw [inbox] at waits
    rw [wire]
    exact (tracked.inbox message waits).mono fun q sent => Array.mem_push_of_mem _ sent

private theorem startListing (tracked : s.Tracked list)
    (unique : s.settings.duplicatePolicy ≠ .append)
    {fresh : Epoch} (new : fresh ∉ s.epochs) (sort : SortOrder) (text : String) :
    (s.startListing fresh sort text none).Loaded list := by
  have carries : CarriesToken fresh ((s.startListing fresh sort text none).listingRequest fresh) :=
    ⟨rfl, get?_uuid_listingRequest _ _⟩
  have sent : (s.startListing fresh sort text none).wire =
      s.wire.push ((s.startListing fresh sort text none).listingRequest fresh) := rfl
  have first : (s.startListing fresh sort text none).window.Reaches 0 :=
    Window.reaches_following 0 _
  refine ⟨?_, unique, Rows.indexed_empty, rfl, ?_, ⟨fresh, rfl⟩, first, ?_⟩
  · exact tracked.of_query carries List.mem_cons_self (fun _ => List.mem_cons_of_mem _) sent rfl rfl
  · intro total told
    cases told
  · intro epoch newest r asked carried
    cases newest
    rw [sent] at asked
    rcases Array.mem_push.mp asked with older | rfl
    · -- An older query carries the token of an older epoch.
      exact absurd (tracked.known.mem_epochs older carried) new
    · exact ⟨_, window?_listingRequest _ _, first⟩

end Tracked

namespace Loaded

private theorem grow (loaded : s.Loaded list) (same : s.SameQueries t) (indexed : t.rows.Indexed)
    (begins : t.rows.Begins list) (larger : s.rows.size ≤ t.rows.size)
    (total : ∀ total, t.total = some total → total.toNat = list.length) : t.Loaded list := by
  refine ⟨loaded.tracked.of_sameQueries same, ?_, indexed, begins, total, ?_, ?_, ?_⟩
  · rw [same.settings]
    exact loaded.unique
  · rw [same.epoch?]
    exact loaded.started
  · rw [same.window]
    exact loaded.window.mono larger
  · intro epoch newest r sent carried
    rw [same.epoch?] at newest
    rw [same.wire] at sent
    obtain ⟨w, asks, reaches⟩ := loaded.asked epoch newest r sent carried
    exact ⟨w, asks, reaches.mono larger⟩

private theorem queryListing (loaded : s.Loaded list) (fresh : Epoch) {window : Window}
    (reaches : window.Reaches s.rows.size) : (s.queryListing fresh window []).Loaded list := by
  obtain ⟨epoch, newest⟩ := loaded.started
  have sent := s.wire_queryListing_current fresh window newest
  have epochs := s.epochs_queryListing_current fresh window [] newest
  have current : (s.queryListing fresh window []).epoch? = some epoch := by
    rw [epoch?, epochs]
    exact newest
  have carries : CarriesToken epoch ({ s with window := window }.listingRequest epoch) :=
    ⟨rfl, get?_uuid_listingRequest _ _⟩
  refine ⟨?_, loaded.unique, loaded.indexed, loaded.begins, loaded.total, ⟨epoch, current⟩, reaches,
    ?_⟩
  · refine loaded.tracked.of_query carries ?_ ?_ sent ?_ rfl
    · rw [epochs]
      exact List.mem_of_mem_head? newest
    · intro past member
      rw [epochs]
      exact member
    · rw [pending_queryListing, newest]
      rfl
  · intro other newest' r asked carried
    rw [current] at newest'
    cases newest'
    rw [sent] at asked
    rcases Array.mem_push.mp asked with older | rfl
    · exact loaded.asked epoch newest r older carried
    · exact ⟨window, window?_listingRequest _ _, reaches⟩

/-- An answer to a query of the current epoch is merged, and the table then shows the listing up to
the end of the query's window, or as far as it did before. -/
theorem absorb (loaded : s.Loaded list) (listing : Listing list) {epoch : Epoch} {r : Request}
    {v : Json} (newest : s.epoch? = some epoch) (sent : r ∈ s.wire)
    (carries : CarriesToken epoch r) (serves : Serves list r v) :
    ∃ next w, s.handle (.page (some epoch) .backend (.ok v)) = (next, .ok true) ∧
      next.Loaded list ∧ r.window? = some w ∧
      next.rows.size = max s.rows.size (min (w.last.toNat - 1) list.length) := by
  obtain ⟨w, asks, positive, reached⟩ := loaded.asked epoch newest r sent carries
  obtain ⟨answer, read, results, ⟨total, counted, number⟩, dirty⟩ :=
    serves.read listing asks carries.2
  have accepted : s.accepts (Session.echo? v) (some epoch) = true := by
    unfold accepts
    rw [newest]
    rcases serves.echo? carries with absent | own
    · simp [absent]
    · simp [own]
  have valid : s.target.validate answer .backend = .ok () := if_neg fun bad => dirty bad.2.2
  have considered : s.consider v .backend (some epoch) = (s.absorb answer .backend, .ok true) := by
    unfold consider
    rw [← Session.echo?, if_pos accepted, read]
    simp only [valid]
  have handled : s.handle (.page (some epoch) .backend (.ok v)) =
      (s.absorb answer .backend, .ok true) := by
    simp only [Session.handle, considered, report]
  have same := s.sameQueries_absorb answer .backend
  have indexed : (s.absorb answer .backend).rows.Indexed := by
    rw [rows_absorb]
    exact loaded.indexed.merge (Answer.identified_of_read read)
  obtain ⟨begins, size⟩ := loaded.begins.merge_slice loaded.indexed loaded.unique listing.distinct
    listing.identified (by omega : w.first.toNat - 1 ≤ s.rows.size) (w.last.toNat - w.first.toNat)
  rw [← Window.slice, ← results, ← rows_absorb] at begins size
  have further : (s.absorb answer .backend).rows.size =
      max s.rows.size (min (w.last.toNat - 1) list.length) := by
    -- A window may also end before it starts; its slice is then empty.
    rw [size]
    omega
  refine ⟨_, w, handled, loaded.grow same indexed begins (by omega) ?_, asks, further⟩
  intro told noted
  rw [total_absorb_backend, counted] at noted
  cases noted
  exact number

private theorem handle (loaded : s.Loaded list) (listing : Listing list) {message : Message}
    (expected : Expected list s.wire message) : (s.handle message).1.Loaded list := by
  cases expected with
  | @answered epoch r v sent carries serves =>
    by_cases newest : s.epoch? = some epoch
    · obtain ⟨next, w, handled, later, -, -⟩ := loaded.absorb listing newest sent carries serves
      rw [handled]
      exact later
    · obtain ⟨current, shown⟩ := loaded.started
      have passed : current ≠ epoch := by
        rintro rfl
        exact newest shown
      have stale : s.handle (OpenRequest.message ⟨0, .page epoch⟩ (.ok v)) = (s, .ok false) :=
        handle_of_superseded shown passed fun _ same => Except.ok.inj same ▸ serves.echoes carries
      have dropped : s.handle (.page (some epoch) .backend (.ok v)) = (s, .ok false) := stale
      rw [dropped]
      exact loaded
  | failed =>
    simp only [Session.handle]
    split
    · exact loaded.grow ⟨rfl, rfl, rfl, rfl, rfl, rfl, rfl, rfl, rfl, rfl⟩ loaded.indexed
        loaded.begins (Nat.le_refl _) loaded.total
    · exact loaded

private theorem handleAll (loaded : s.Loaded list) (listing : Listing list)
    {messages : List Message} (expected : ∀ message ∈ messages, Expected list s.wire message) :
    (s.handleAll messages).Loaded list := by
  have both : (s.handleAll messages).Loaded list ∧ (s.handleAll messages).wire = s.wire := by
    refine handleAll_keeps (P := fun t => t.Loaded list ∧ t.wire = s.wire) ?_ ⟨loaded, rfl⟩
    rintro t message member ⟨held, wire⟩
    have answers := expected message member
    rw [← wire] at answers
    exact ⟨held.handle listing answers, (t.sameQueries_handle message).wire.trans wire⟩
  exact both.1

private theorem with_mail (loaded : s.Loaded list) {pending : List OpenRequest}
    {inbox : List Message} (fewer : ∀ request ∈ pending, request ∈ s.pending)
    (expected : ∀ message ∈ inbox, Expected list s.wire message) :
    { s with pending := pending, inbox := inbox }.Loaded list :=
  ⟨⟨loaded.tracked.known, fun request asked => loaded.tracked.pending request (fewer request asked),
      expected⟩, loaded.unique, loaded.indexed, loaded.begins, loaded.total, loaded.started,
    loaded.window, loaded.asked⟩

private theorem expected_message (loaded : s.Loaded list) {request : OpenRequest}
    {outcome : Except String Json} (asked : request ∈ s.pending)
    (serves : ∀ v, outcome = .ok v → ∀ r, s.wire[request.number]? = some r → Serves list r v) :
    Expected list s.wire (OpenRequest.message request outcome) := by
  obtain ⟨epoch, r, purpose, place, carries⟩ := loaded.tracked.pending request asked
  simp only [OpenRequest.message, purpose]
  cases outcome with
  | error reason => exact .failed
  | ok v => exact .answered (Array.mem_of_getElem? place) carries (serves v rfl r place)

private theorem lands (loaded : s.Loaded list) (listing : Listing list) {epoch : Epoch}
    {origin : Origin} {v : Json} {rest : List Message} (newest : s.epoch? = some epoch)
    (waiting : s.inbox = .page (some epoch) origin (.ok v) :: rest) :
    ∃ next, s.Lands list epoch v next := by
  have expected := loaded.tracked.inbox
  rw [waiting] at expected
  cases expected _ List.mem_cons_self with
  | @answered _ r _ sent carries serves =>
    have emptied : { s with inbox := rest }.Loaded list :=
      loaded.with_mail (fun _ => id) fun message member =>
        expected message (List.mem_cons_of_mem _ member)
    obtain ⟨next, _, handled, -, -, -⟩ := emptied.absorb listing newest sent carries serves
    refine ⟨next, ?_, ⟨r, sent, carries, serves⟩, ?_⟩
    · simp only [processNext, waiting, handled]
    · intro other sent' carries' serves'
      obtain ⟨next', w, handled', -, asks, size⟩ :=
        emptied.absorb listing newest sent' carries' serves'
      rw [handled] at handled'
      cases handled'
      exact ⟨w, asks, size⟩

private theorem lands_draining (loaded : s.Loaded list) (listing : Listing list) {epoch : Epoch}
    {origin : Origin} {v : Json} {ahead rest : List Message} (newest : s.epoch? = some epoch)
    (waiting : s.inbox = ahead ++ .page (some epoch) origin (.ok v) :: rest) :
    ∃ mid outcomes next, s.processTimes ahead.length = some (mid, outcomes) ∧
      mid.Lands list epoch v next ∧
      s.processPending = next.processPending.map id (· + (ahead.length + 1)) := by
  have expected := loaded.tracked.inbox
  rw [waiting] at expected
  have emptied : { s with inbox := .page (some epoch) origin (.ok v) :: rest }.Loaded list :=
    loaded.with_mail (fun _ => id) fun message member =>
      expected message (List.mem_append_right _ member)
  have same := sameQueries_handleAll
    { s with inbox := .page (some epoch) origin (.ok v) :: rest } ahead
  obtain ⟨next, lands⟩ := (emptied.handleAll listing fun message member =>
    expected message (List.mem_append_left _ member)).lands listing
      (same.epoch?.trans newest) same.inbox
  obtain ⟨outcomes, stepped⟩ := processTimes_of_ahead waiting
  refine ⟨_, outcomes, next, stepped, lands, ?_⟩
  rw [processPending_of_processTimes stepped, processPending_of_some lands.merged]
  simp only [Prod.map, id, Nat.add_assoc, Nat.add_comm 1]

theorem step {next : Session} {fresh : Epoch} {action : Action} (loaded : s.Loaded list)
    (listing : Listing list) (paging : s.Paging list action) (step : Step s fresh action next)
    (distinct : next.epochs.Nodup) : next.Loaded list := by
  cases step with
  | idle => exact loaded
  | @listing _ sort text window demand _ =>
    have first : window = none := by
      cases paging <;> simp_all [demand?]
    subst first
    exact loaded.tracked.startListing loaded.unique (List.nodup_cons.mp distinct).1 sort text
  | preview => cases paging
  | dispatch =>
    cases paging
    exact loaded.queryListing fresh loaded.window
  | turn _ _ next =>
    subst next
    exact loaded.queryListing fresh (Window.reaches_following _ _)
  | edit => cases paging
  | respond => cases paging
  | respondEdit => cases paging
  | select => cases paging
  | @answer number outcome request found =>
    have asked := List.mem_of_find?_eq_some found
    have place : request.number = number := by simpa using List.find?_some found
    have expected : Expected list s.wire (OpenRequest.message request outcome) := by
      refine loaded.expected_message asked ?_
      rintro v rfl
      rw [place]
      cases paging with
      | answered serves => exact serves
    refine loaded.with_mail (fun _ member => (List.mem_filter.mp member).1) ?_
    intro message member
    rcases List.mem_append.mp member with older | newer
    · exact loaded.tracked.inbox message older
    · rw [List.mem_singleton.mp newer]
      exact expected
  | push => cases paging
  | @process _ messages rest processing waiting =>
    have expected : ∀ message ∈ s.inbox, Expected list s.wire message := loaded.tracked.inbox
    rw [waiting] at expected
    have emptied : { s with inbox := rest }.Loaded list :=
      loaded.with_mail (fun _ => id) fun message member =>
        expected message (List.mem_append_right _ member)
    exact emptied.handleAll listing fun message member =>
      expected message (List.mem_append_left _ member)

theorem run {steps : List (Epoch × Action)} (paged : Paged list s steps) (loaded : s.Loaded list)
    (listing : Listing list) (distinct : (s.run steps).epochs.Nodup) :
    (s.run steps).Loaded list := by
  induction paged with
  | nil => exact loaded
  | @cons s fresh action steps paging _ ih =>
    have kept := (extends_run (s.act fresh action) steps).epochs
    have apart := distinct.sublist kept.sublist
    exact ih (loaded.step listing paging (s.step fresh action) apart) distinct

end Loaded

private theorem Tracked.initial (target : Target) (settings : Settings) :
    (initial target settings).Tracked list :=
  ⟨.initial target settings, by simp [Session.initial], by simp [Session.initial]⟩

/-- A table that pages through a listing shows a beginning of it at every moment, and knows either
no row count or that of the listing. The next answer, if it is one of the current epoch, is merged:
the table then shows the listing up to the end of the window that was asked for, or as far as it did
before. So is every other answer of the current epoch that waits, when emptying the inbox comes to
it. -/
theorem paging_shows_beginning {target : Target} {settings : Settings} {allocates : Nat → Bool}
    {first : Session} (opening : begin target settings allocates = .opened first)
    (unique : settings.duplicatePolicy ≠ .append) (listing : Listing list) (start : Epoch)
    {steps : List (Epoch × Action)}
    (paged : Paged list (first.act start (.resetAndQuery none)) steps)
    (moment : s = (first.act start (.resetAndQuery none)).run steps)
    (distinct : s.epochs.Nodup) :
    s.rows.items.toList <+: list ∧
    (∀ total, s.total = some total → total.toNat = list.length) ∧
    (∀ epoch origin v rest, s.epoch? = some epoch →
      s.inbox = .page (some epoch) origin (.ok v) :: rest → ∃ next, s.Lands list epoch v next) ∧
    ∀ epoch origin v ahead rest, s.epoch? = some epoch →
      s.inbox = ahead ++ .page (some epoch) origin (.ok v) :: rest →
      ∃ mid outcomes next, s.processTimes ahead.length = some (mid, outcomes) ∧
        mid.Lands list epoch v next ∧
        s.processPending = next.processPending.map id (· + (ahead.length + 1)) := by
  have began : (first.act start (.resetAndQuery none)).Loaded list := by
    rw [begin_eq_opened opening]
    exact (Tracked.initial target settings).startListing unique (by simp [initial]) _ _
  have loaded : s.Loaded list := by
    rw [moment] at distinct ⊢
    exact began.run paged listing distinct
  have shown : s.rows.items.toList <+: list := by
    rw [loaded.begins]
    exact List.take_prefix _ _
  exact ⟨shown, loaded.total, fun _ _ _ _ => loaded.lands listing,
    fun _ _ _ _ _ => loaded.lands_draining listing⟩

/-- The rows of a listing of two are asked for one by one, and the answer with the second waits. -/
theorem paging_shows_beginning_of_two_rows :
    let a : Item := ⟨[("infohash", .text "a")]⟩
    let b : Item := ⟨[("infohash", .text "b")]⟩
    let page (row : Item) : Json := .object [("dirty", .bool false),
      ("results", .array [row.toJson]), ("total", .number (.int 2))]
    let started := (initial (.search none) ⟨2, .replaceExisting, true, 256, .default⟩).act ⟨1#128⟩
      (.resetAndQuery none)
    let turned := ((started.act ⟨2#128⟩ (.answer 0 (.ok (page a)))).act ⟨3#128⟩ .processNext).act
      ⟨4#128⟩ .continueQuery
    let s := turned.act ⟨5#128⟩ (.answer 1 (.ok (page b)))
    Listing [a, b] ∧ s.epochs.Nodup ∧ s.rows.items.toList = [a] ∧
      ∃ next, s.processNext = some (next, .ok true) ∧ next.rows.size = 2 := by
  intro a b page started turned s
  have opening : begin (.search none) ⟨2, .replaceExisting, true, 256, .default⟩ =
      .opened (initial (.search none) ⟨2, .replaceExisting, true, 256, .default⟩) :=
    begin_of_room _ rfl (by decide +kernel)
  have listing : Listing [a, b] := ⟨by decide, by decide, by decide⟩
  have served (t : Session) (number : Nat) (row : Item)
      (request : t.wire[number]? = some (t.listingRequest ⟨1#128⟩))
      (slice : t.window.slice [a, b] = [row]) :
      ∀ r, t.wire[number]? = some r → Serves [a, b] r (page row) := by
    intro r sent
    rw [request] at sent
    cases sent
    refine ⟨?_, rfl, ⟨false, rfl⟩, .inl rfl⟩
    intro w asks
    rw [window?_listingRequest] at asks
    cases asks
    rw [slice]
    rfl
  have one := served started 0 a rfl (by decide +kernel)
  have request : turned.wire[1]? = some (turned.listingRequest ⟨1#128⟩) := by decide +kernel
  have two := served turned 1 b request (by decide +kernel)
  have asked : turned.pending.find? (·.number = 1) = some ⟨1, .page ⟨1#128⟩⟩ := by decide +kernel
  have read : turned.inbox = [] := List.isEmpty_iff.mp (by decide +kernel)
  have posted : s = { turned with
      pending := turned.pending.filter (·.number ≠ 1)
      inbox := [.page (some ⟨1#128⟩) .backend (.ok (page b))] } := by
    simp only [s, act, answer?, asked, post, read]
    rfl
  have distinct : s.epochs.Nodup := by decide +kernel
  have paged : Paged [a, b] started [(⟨2#128⟩, .answer 0 (.ok (page a))), (⟨3#128⟩, .processNext),
      (⟨4#128⟩, .continueQuery), (⟨5#128⟩, .answer 1 (.ok (page b)))] :=
    .cons (.answered one) (.cons .processNext (.cons .continueQuery (.cons (.answered two) .nil)))
  have moment : s = started.run [(⟨2#128⟩, .answer 0 (.ok (page a))), (⟨3#128⟩, .processNext),
      (⟨4#128⟩, .continueQuery), (⟨5#128⟩, .answer 1 (.ok (page b)))] := by
    simp only [run_cons, run_nil, s, turned]
  obtain ⟨-, -, landed, -⟩ :=
    paging_shows_beginning opening (by decide) listing ⟨1#128⟩ paged moment distinct
  obtain ⟨next, processed, -, size⟩ := landed ⟨1#128⟩ .backend (page b) []
    (by decide +kernel) (by rw [posted])
  have sent : turned.listingRequest ⟨1#128⟩ ∈ s.wire := by
    rw [posted]
    exact Array.mem_of_getElem? request
  obtain ⟨w, asks, reached⟩ := size _ sent ⟨rfl, get?_uuid_listingRequest _ _⟩ (two _ request)
  rw [window?_listingRequest] at asks
  cases asks
  refine ⟨listing, distinct, by decide +kernel, next, processed, ?_⟩
  rw [reached]
  decide +kernel

end Session

end LiveTable
