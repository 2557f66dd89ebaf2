import LiveTable.Proofs.Session.Telling
set_option autoImplicit false

/-!
# Numbers and stamps of events

Events are numbered from one in the order in which they are sent, and each is stamped with the epoch
that is current when it is sent, also those that tell of a failed request. Nothing is sent while the
epoch changes, so the epoch before an action and the one after it are both the stamp. Main
statement: `events_numbered_and_stamped`, which also says what a subscriber finds.
-/

namespace LiveTable

namespace Session

variable {s t : Session} {fresh : Epoch} {action : Action} {events : List Event}

/-! ## What actions send -/

private theorem exists_tells_handle (s : Session) (message : Message) :
    ∃ events, s.Tells events (s.handle message).1 := by
  have handling := s.handling message
  generalize (s.handle message).1 = next at handling ⊢
  cases handling with
  | ignored => exact ⟨[], .nothing rfl rfl⟩
  | absorbed => exact ⟨_, s.tells_absorb _ _⟩
  | dirtied => exact ⟨_, s.tells_setDirty _⟩
  | failed => exact ⟨_, s.tells_emit _⟩

private theorem exists_tells_handleAll (s : Session) (messages : List Message) :
    ∃ events, s.Tells events (s.handleAll messages) := by
  induction messages generalizing s with
  | nil => exact ⟨[], .nothing rfl rfl⟩
  | cons message rest ih =>
    obtain ⟨first, tells⟩ := s.exists_tells_handle message
    obtain ⟨more, tells'⟩ := ih (s.handle message).1
    exact ⟨first ++ more, tells.trans (s.sameQueries_handle message).epoch? tells'⟩

theorem exists_tells_act (s : Session) (fresh : Epoch) (action : Action) :
    ∃ events, s.Tells events (s.act fresh action) ∧
      (events ≠ [] → (s.act fresh action).epoch? = s.epoch?) := by
  have step := s.step fresh action
  generalize s.act fresh action = next at step ⊢
  cases step with
  | respond => exact ⟨_, s.tells_absorb _ _, fun _ => (s.sameQueries_absorb _ _).epoch?⟩
  | respondEdit => exact ⟨_, s.tells_setDirty _, fun _ => rfl⟩
  | select => exact ⟨_, s.tells_emit _, fun _ => rfl⟩
  | @process _ messages rest =>
    -- The epoch stays the same between two messages, so that their events have one stamp.
    obtain ⟨events, tells⟩ := exists_tells_handleAll { s with inbox := rest } messages
    have same := sameQueries_handleAll { s with inbox := rest } messages
    exact ⟨events, ⟨tells.sent, tells.log⟩, fun _ => same.epoch?⟩
  | _ => exact ⟨[], .nothing rfl rfl, fun some => absurd rfl some⟩

/-! ## The log -/

private theorem Reachable.size_log (reachable : Reachable s) : s.log.size = s.sent := by
  have numbered := congrArg List.length reachable.recorded.numbered
  simpa using numbered

private theorem Reachable.seq_eq (reachable : Reachable s) {place : Nat} {e : Envelope}
    (logged : s.log[place]? = some e) : e.seq = place + 1 := by
  -- Both sides of the invariant are lists; the number is what the right one has at this place.
  have numbered := congrArg (·[place]?) reachable.recorded.numbered
  have inside : place < s.sent := by
    rw [← reachable.size_log]
    exact (Array.getElem?_eq_some_iff.mp logged).1
  simp only [List.getElem?_map, Array.getElem?_toList, logged, Option.map_some] at numbered
  rw [List.getElem?_range' inside] at numbered
  have same := Option.some.inj numbered
  omega

/-- An event was sent by an action, in the epoch that was current before it and after it. -/
structure SentBy (s next : Session) (place : Nat) (e : Envelope) : Prop where
  behind : s.log.size ≤ place
  before : place < next.log.size
  stamp : e.epoch = s.epoch?
  lasting : e.epoch = next.epoch?

private theorem logged_act_cases {place : Nat} {e : Envelope}
    (logged : (s.act fresh action).log[place]? = some e) :
    s.log[place]? = some e ∨ SentBy s (s.act fresh action) place e := by
  obtain ⟨events, tells, lasts⟩ := s.exists_tells_act fresh action
  have inside : place < (s.act fresh action).log.size := (Array.getElem?_eq_some_iff.mp logged).1
  rw [← Array.getElem?_toList, tells.log] at logged
  by_cases older : place < s.log.size
  · rw [List.getElem?_append_left older, Array.getElem?_toList] at logged
    exact .inl logged
  · have behind : s.log.size ≤ place := Nat.le_of_not_lt older
    rw [List.getElem?_append_right behind] at logged
    have sent : e ∈ s.envelopes events := List.mem_of_getElem? logged
    have stamp := epoch_of_mem_envelopes sent
    have some : events ≠ [] := by
      rintro rfl
      simp [envelopes] at sent
    exact .inr ⟨behind, inside, stamp, stamp.trans (lasts some).symm⟩

private theorem logged_run_cases {steps : List (Epoch × Action)} {place : Nat} {e : Envelope}
    (logged : (s.run steps).log[place]? = some e) :
    s.log[place]? = some e ∨ ∃ before fresh action after,
      steps = before ++ (fresh, action) :: after ∧
      SentBy (s.run before) ((s.run before).act fresh action) place e := by
  induction steps generalizing s with
  | nil => exact .inl logged
  | cons step rest ih =>
    obtain ⟨fresh, action⟩ := step
    rw [run_cons] at logged
    rcases ih logged with first | ⟨before, fresh', action', after, rfl, sent⟩
    · rcases logged_act_cases first with older | sent
      · exact .inl older
      · exact .inr ⟨[], fresh, action, rest, rfl, sent⟩
    · exact .inr ⟨(fresh, action) :: before, fresh', action', after, rfl, sent⟩

private theorem Reachable.receive_eq (reachable : Reachable s) (subscription : Subscription) :
    let found := s.receive subscription
    found.1.lost = s.log.size - subscription.position -
        s.settings.eventCapacity.toNat.nextPowerOfTwo ∧
      found.1.events = s.log.toList.drop (subscription.position + found.1.lost) ∧
      found.1.events.map Envelope.seq =
        List.range' (subscription.position + found.1.lost + 1) found.1.events.length ∧
      found.2 = s.subscribe := by
  intro found
  refine ⟨rfl, rfl, ?_, rfl⟩
  show (s.log.toList.drop (subscription.position + found.1.lost)).map Envelope.seq = _
  rw [List.map_drop, reachable.recorded.numbered, List.drop_range']
  have length : found.1.events.length = s.sent - (subscription.position + found.1.lost) := by
    rw [← reachable.size_log]
    exact List.length_drop
  rw [length, Nat.mul_one, Nat.add_comm 1]

private theorem log_append_receive {steps : List (Epoch × Action)}
    (kept : (s.run steps).log.size ≤ s.log.size + s.settings.eventCapacity.toNat.nextPowerOfTwo) :
    s.log.toList ++ ((s.run steps).receive s.subscribe).1.events = (s.run steps).log.toList := by
  obtain ⟨more, longer⟩ := (s.extends_run steps).log
  have none : ((s.run steps).receive s.subscribe).1.lost = 0 := by
    simp only [receive, Subscription.receive, subscribe, Subscription.bufferSize,
      (s.extends_run steps).settings]
    omega
  have found : ((s.run steps).receive s.subscribe).1.events =
      (s.run steps).log.toList.drop (s.log.size +
        ((s.run steps).receive s.subscribe).1.lost) := rfl
  rw [found, none, ← longer, Nat.add_zero, ← Array.length_toList, List.drop_left]

/-- The events of a run are numbered from one, whoever listens, and each is stamped with the epoch
that was current when it was sent. Whenever a subscriber looks, it finds all events from its place
on but for those that the buffer does not hold any more, and they have consecutive numbers. Between
two looks nothing is left out unless more has been sent than the buffer holds. -/
theorem events_numbered_and_stamped {target : Target} {settings : Settings}
    {allocates : Nat → Bool} {first : Session}
    (opening : begin target settings allocates = .opened first) (steps : List (Epoch × Action)) :
    let last := first.run steps
    let kept := last.settings.eventCapacity.toNat.nextPowerOfTwo
    (∀ place e, last.log[place]? = some e →
      e.seq = place + 1 ∧ ∃ before fresh action after,
        steps = before ++ (fresh, action) :: after ∧
        SentBy (first.run before) ((first.run before).act fresh action) place e) ∧
    ∀ subscription : Subscription,
      let found := last.receive subscription
      found.1.lost = last.log.size - subscription.position - kept ∧
      found.1.events = last.log.toList.drop (subscription.position + found.1.lost) ∧
      found.1.events.map Envelope.seq =
          List.range' (subscription.position + found.1.lost + 1) found.1.events.length ∧
      found.2 = last.subscribe ∧
      ∀ more, (last.run more).log.size ≤ last.log.size + kept →
        last.log.toList ++ ((last.run more).receive found.2).1.events =
          (last.run more).log.toList := by
  intro last kept
  have reachable : Reachable last := (Reachable.opened opening).run steps
  constructor
  · intro place e logged
    refine ⟨reachable.seq_eq logged, ?_⟩
    rcases logged_run_cases logged with older | sent
    · rw [begin_eq_opened opening] at older
      simp [initial] at older
    · exact sent
  · intro subscription found
    obtain ⟨lost, events, seq, next⟩ := reachable.receive_eq subscription
    exact ⟨lost, events, seq, next, fun more => log_append_receive⟩

/-- Of two queries in a row the first fails late and the second in time. The next query fails as
well. Where one event is kept, a subscriber from the start has lost the first event, and one that
has looked in between has lost none. -/
theorem events_numbered_and_stamped_of_failures :
    let settings : Settings := ⟨50, .dropIncoming, true, 1, .default⟩
    let first := initial (.search none) settings
    let steps : List (Epoch × Action) := [(⟨1#128⟩, .refresh), (⟨2#128⟩, .refresh),
      (⟨3#128⟩, .answer 0 (.error "late")), (⟨3#128⟩, .answer 1 (.error "down")),
      (⟨3#128⟩, .processPending), (⟨3#128⟩, .refresh)]
    let more : List (Epoch × Action) := [(⟨4#128⟩, .answer 2 (.error "down")),
      (⟨4#128⟩, .processNext)]
    let e : Envelope := ⟨1, some ⟨2#128⟩, .requestFailed (.transport "down")⟩
    let e' : Envelope := ⟨2, some ⟨3#128⟩, .requestFailed (.transport "down")⟩
    let looked := (first.run steps).receive first.subscribe
    begin (.search none) settings = .opened first ∧ (first.run steps).epoch? = some ⟨3#128⟩ ∧
      (first.run steps).log = #[e] ∧
      (∃ before fresh action after, steps = before ++ (fresh, action) :: after ∧
        SentBy (first.run before) ((first.run before).act fresh action) 0 e) ∧
      looked.1.events.map Envelope.seq = [1] ∧
      [e] ++ (((first.run steps).run more).receive looked.2).1.events = [e, e'] ∧
      ((first.run (steps ++ more)).receive first.subscribe).1.lost = 1 := by
  intro settings first steps more e e' looked
  have passes : Settings.validate ⟨50, .dropIncoming, true, 1, .default⟩ = .ok () := rfl
  have opening : begin (.search none) settings = .opened first :=
    begin_of_room _ passes (by decide +kernel)
  have log : (first.run steps).log = #[e] := by decide +kernel
  have longer : ((first.run steps).run more).log = #[e, e'] := by decide +kernel
  obtain ⟨events, found⟩ := events_numbered_and_stamped opening steps
  obtain ⟨-, -, received, -, again⟩ := found first.subscribe
  have logged : (first.run steps).log[0]? = some e := by
    rw [log]
    rfl
  refine ⟨opening, by decide +kernel, log, (events 0 e logged).2, ?_, ?_, ?_⟩
  · rw [received]
    decide +kernel
  · have looks := again more (by rw [log, longer]; decide +kernel)
    rwa [log, longer] at looks
  · obtain ⟨lost, -⟩ := (events_numbered_and_stamped opening (steps ++ more)).2 first.subscribe
    rw [lost]
    decide +kernel

end Session

end LiveTable
