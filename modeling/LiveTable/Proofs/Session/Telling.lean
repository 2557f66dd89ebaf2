import LiveTable.Proofs.Session.Step
set_option autoImplicit false

/-!
# What a session tells

Which events an action sends, and what can be read off the log. `Tells` holds of two sessions if the
later one has sent certain events beyond those of the earlier one; `tells_absorb` says which events
an answer gives rise to. Main statement: `Reachable.recorded`, by which events are numbered in the
order of the log, are stamped with epochs that there have been, and tell what the backend last said
of unpublished changes.
-/

namespace LiveTable

namespace Event

def merged? : Event → Option Answer
  | queryComplete answer _ => some answer
  | _ => none

def counted? : Event → Option UInt64
  | countChanged total => some total
  | _ => none

def dirty? : Event → Option Bool
  | dirtyChanged dirty => some dirty
  | _ => none

end Event

def Answer.countNews (answer : Answer) : Origin → List Event
  | .backend => (answer.total.map Event.countChanged).toList
  | .peer => []

namespace Session

def told (s : Session) : List Event := s.log.toList.map Envelope.event

def toldNow (s : Session) : List Event :=
  (s.log.toList.filter fun e => e.epoch = s.epoch?).map Envelope.event

def envelopes (s : Session) (events : List Event) : List Envelope :=
  events.mapIdx fun place event => ⟨s.sent + place + 1, s.epoch?, event⟩

/-- The later session has sent some events more. -/
structure Tells (s : Session) (events : List Event) (later : Session) : Prop where
  sent : later.sent = s.sent + events.length
  log : later.log.toList = s.log.toList ++ s.envelopes events

variable {s t u : Session} {events : List Event}

private theorem map_event_envelopes (s : Session) (events : List Event) :
    (s.envelopes events).map Envelope.event = events := by
  apply List.ext_getElem?
  intro place
  cases held : events[place]? <;> simp [envelopes, List.getElem?_mapIdx, held]

private theorem map_seq_envelopes (s : Session) (events : List Event) :
    (s.envelopes events).map Envelope.seq = List.range' (s.sent + 1) events.length := by
  apply List.ext_getElem
  · simp [envelopes]
  · intro place _ inside
    simp only [envelopes, List.getElem_map, List.getElem_mapIdx, List.getElem_range']
    omega

theorem epoch_of_mem_envelopes {e : Envelope} (member : e ∈ s.envelopes events) :
    e.epoch = s.epoch? := by
  obtain ⟨place, inside, rfl⟩ := List.mem_mapIdx.mp member
  rfl

namespace Tells

theorem nothing (sent : t.sent = s.sent) (log : t.log = s.log) : s.Tells [] t := by
  constructor
  · simp [sent]
  · simp [log, envelopes]

theorem trans {more : List Event} (first : s.Tells events t) (same : t.epoch? = s.epoch?)
    (second : t.Tells more u) : s.Tells (events ++ more) u := by
  constructor
  · rw [second.sent, first.sent, List.length_append]
    omega
  · have further : t.envelopes more =
        more.mapIdx fun place event => ⟨s.sent + (place + events.length) + 1, s.epoch?, event⟩ := by
      rw [envelopes, same, first.sent]
      congr 1
      funext place event
      congr 1
      omega
    rw [second.log, first.log, further, List.append_assoc, envelopes, envelopes,
      List.mapIdx_append]

theorem told (tells : s.Tells events t) : t.told = s.told ++ events := by
  rw [Session.told, tells.log, List.map_append, map_event_envelopes]
  rfl

theorem toldNow (tells : s.Tells events t) (same : t.epoch? = s.epoch?) :
    t.toldNow = s.toldNow ++ events := by
  have current : (s.envelopes events).filter (fun e => e.epoch = s.epoch?) =
      s.envelopes events := by
    apply List.filter_eq_self.mpr
    intro e member
    exact decide_eq_true (epoch_of_mem_envelopes member)
  rw [Session.toldNow, tells.log, same, List.filter_append, current, List.map_append,
    map_event_envelopes]
  rfl

end Tells

/-! ## What operations tell -/

theorem tells_emit (s : Session) (event : Event) : s.Tells [event] (s.emit event) := by
  constructor
  · rfl
  · simp [emit, emitFor, envelopes]

private theorem tells_noteTotal (s : Session) (answer : Answer) (origin : Origin) :
    s.Tells (answer.countNews origin) (s.noteTotal origin answer.total) := by
  cases origin with
  | peer => exact .nothing rfl rfl
  | backend =>
    cases counted : answer.total with
    | none =>
      simp only [Answer.countNews, counted]
      exact .nothing rfl rfl
    | some total =>
      simp only [Answer.countNews, counted]
      exact ⟨rfl, (tells_emit { s with total := some total } _).log⟩

private theorem tells_noteDirty (s : Session) (dirty : Option Bool) :
    s.Tells (dirty.map Event.dirtyChanged).toList (s.noteDirty dirty) := by
  cases dirty with
  | none => exact .nothing rfl rfl
  | some dirty => exact ⟨rfl, (tells_emit { s with editSession := some dirty } _).log⟩

def news (s : Session) (answer : Answer) (origin : Origin) : List Event :=
  answer.countNews origin ++ .queryComplete answer origin ::
    ((s.target.dirtyAfter answer).map Event.dirtyChanged).toList

theorem tells_absorb (s : Session) (answer : Answer) (origin : Origin) :
    s.Tells (s.news answer origin) (s.absorb answer origin) := by
  let merged := s.mergeRows answer.results
  let counted := merged.noteTotal origin answer.total
  have counts : s.Tells (answer.countNews origin) counted :=
    ⟨(tells_noteTotal merged answer origin).sent, (tells_noteTotal merged answer origin).log⟩
  have same : counted.epoch? = s.epoch? := (merged.sameQueries_noteTotal origin _).epoch?
  have completes := counts.trans same (counted.tells_emit (.queryComplete answer origin))
  have all := completes.trans same (tells_noteDirty _ (s.target.dirtyAfter answer))
  rw [news, List.append_cons]
  exact all

theorem tells_setDirty (s : Session) (dirty : Bool) :
    s.Tells [.dirtyChanged dirty] (s.setDirty dirty) := s.tells_noteDirty (some dirty)

/-! ## What is told of a run -/

theorem editSession_absorb (s : Session) (answer : Answer) (origin : Origin) :
    (s.absorb answer origin).editSession = (s.target.dirtyAfter answer).or s.editSession := by
  have counted (t : Session) (total : Option UInt64) :
      (t.noteTotal origin total).editSession = t.editSession := by
    unfold noteTotal
    split <;> rfl
  cases dirty : s.target.dirtyAfter answer <;>
    simp [absorb, noteDirty, setDirty, emit, emitFor, mergeRows, counted, dirty]

theorem filterMap_dirty?_news (s : Session) (answer : Answer) (origin : Origin) :
    (s.news answer origin).filterMap Event.dirty? = (s.target.dirtyAfter answer).toList := by
  have uncounted : (answer.countNews origin).filterMap Event.dirty? = [] := by
    cases origin <;> cases total : answer.total <;> simp [Answer.countNews, Event.dirty?, total]
  cases dirty : s.target.dirtyAfter answer <;>
    simp [news, uncounted, List.filterMap_cons, Event.dirty?, dirty]

/-- The log is in order, and what the backend said of unpublished changes can be read off it. -/
structure Recorded (s : Session) : Prop where
  numbered : s.log.toList.map Envelope.seq = List.range' 1 s.sent
  stamped : ∀ e ∈ s.log.toList, ∀ epoch, e.epoch = some epoch → epoch ∈ s.epochs
  dirty : s.editSession = (s.told.filterMap Event.dirty?).getLast?

namespace Recorded

private theorem of_tells (recorded : s.Recorded) (tells : s.Tells events t)
    (kept : s.epochs ⊆ t.epochs)
    (dirty : t.editSession = (events.filterMap Event.dirty?).getLast?.or s.editSession) :
    t.Recorded := by
  constructor
  · rw [tells.log, List.map_append, map_seq_envelopes, recorded.numbered, tells.sent,
      Nat.add_comm s.sent 1, List.range'_append_1]
  · intro e member epoch stamp
    rw [tells.log] at member
    rcases List.mem_append.mp member with older | newer
    · exact kept (recorded.stamped e older epoch stamp)
    · rw [epoch_of_mem_envelopes newer] at stamp
      exact kept (List.mem_of_mem_head? stamp)
  · rw [dirty, tells.told, List.filterMap_append, List.getLast?_append, recorded.dirty]

private theorem of_same (recorded : s.Recorded) (sent : t.sent = s.sent) (log : t.log = s.log)
    (kept : s.epochs ⊆ t.epochs) (dirty : t.editSession = s.editSession) : t.Recorded :=
  recorded.of_tells (.nothing sent log) kept dirty

private theorem emit (recorded : s.Recorded) {event : Event} (silent : event.dirty? = none) :
    (s.emit event).Recorded := by
  refine recorded.of_tells (s.tells_emit event) (List.Subset.refl _) ?_
  simp only [List.filterMap_cons, silent]
  rfl

private theorem setDirty (recorded : s.Recorded) (dirty : Bool) : (s.setDirty dirty).Recorded :=
  recorded.of_tells (s.tells_setDirty dirty) (List.Subset.refl _) rfl

private theorem absorb (recorded : s.Recorded) (answer : Answer) (origin : Origin) :
    (s.absorb answer origin).Recorded := by
  refine recorded.of_tells (s.tells_absorb answer origin) ?_ ?_
  · rw [(s.sameQueries_absorb answer origin).epochs]
    exact List.Subset.refl _
  · rw [editSession_absorb, filterMap_dirty?_news]
    cases s.target.dirtyAfter answer <;> rfl

private theorem of_handling {message : Message} (recorded : s.Recorded)
    (handling : Handling s message t) :
    t.Recorded := by
  cases handling with
  | ignored => exact recorded
  | absorbed => exact recorded.absorb _ _
  | dirtied => exact recorded.setDirty _
  | failed => exact recorded.emit rfl

theorem step {fresh : Epoch} {action : Action} (recorded : s.Recorded)
    (step : Step s fresh action t) : t.Recorded := by
  cases step with
  | idle => exact recorded
  | listing => exact recorded.of_same rfl rfl (List.subset_cons_self _ _) rfl
  | preview => exact recorded.of_same rfl rfl (List.subset_cons_self _ _) rfl
  | dispatch => exact recorded.of_same rfl rfl (s.extends_query _ _).epochs.subset rfl
  | @turn _ window =>
    have kept := (extends_query { s with window := window } fresh []).epochs
    exact recorded.of_same rfl rfl kept.subset rfl
  | edit => exact recorded.of_same rfl rfl (List.Subset.refl _) rfl
  | respond => exact recorded.absorb _ _
  | respondEdit => exact recorded.setDirty _
  | select => exact recorded.emit rfl
  | answer => exact recorded.of_same rfl rfl (List.Subset.refl _) rfl
  | push => exact recorded.of_same rfl rfl (List.Subset.refl _) rfl
  | @process _ messages rest =>
    have emptied : { s with inbox := rest }.Recorded :=
      recorded.of_same rfl rfl (List.Subset.refl _) rfl
    exact handleAll_keeps (fun s message _ held => held.of_handling (s.handling message)) emptied

private theorem initial (target : Target) (settings : Settings) :
    (initial target settings).Recorded :=
  ⟨rfl, by simp [Session.initial], rfl⟩

end Recorded

theorem Reachable.recorded (reachable : Reachable s) : s.Recorded := by
  induction reachable with
  | opened opening =>
    rw [begin_eq_opened opening]
    exact .initial _ _
  | @act s fresh action _ ih => exact ih.step (s.step fresh action)

end Session

end LiveTable
