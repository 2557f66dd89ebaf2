import LiveTable.Session
set_option autoImplicit false

/-!
# Actions

What can happen to a session: operations of its owner, outcomes of its requests, rows that peers
push, and the processing of the inbox. A run is a list of actions, each with the epoch that it
starts if it starts one. `Session.Reachable` holds of the sessions that runs lead to; that the
epochs of a run are pairwise distinct is said by `s.epochs.Nodup` of the session `s` at its end.
Main statements: no action changes the target or the settings, and an action only adds to the
epochs, the log and the wire.
-/

namespace LiveTable

inductive Action
  | resetAndQuery (window : Option Window)
  | refresh
  | setSort (sort : SortOrder)
  | setFilterText (text : String)
  | fetchPreview
  | dispatch (extra : Fields)
  | continueQuery
  | scroll (atBottom : Bool)
  | patchField (identity column : String) (value : Json)
  | onResponse (v : Json) (origin : Origin)
  | onEditResponse (v : Json)
  | selectRows (rows : List Nat)
  /-- The outcome of a request, if one of that number is open. -/
  | answer (number : Nat) (outcome : Except String Json)
  /-- Rows that a peer pushes. -/
  | push (v : Json)
  | processNext
  | processPending

namespace Session

theorem begin_eq_opened_iff {target : Target} {settings : Settings} {allocates : Nat → Bool}
    {s : Session} :
    begin target settings allocates = .opened s ↔
      settings.validate = .ok () ∧
      (settings.eventCapacity.toNat ≤ Subscription.largestCapacity ∧
        allocates (Subscription.bufferSize settings.eventCapacity.toNat)) ∧
      initial target settings = s := by
  unfold begin
  split
  · simp_all
  · split <;> simp_all

theorem begin_eq_opened {target : Target} {settings : Settings} {allocates : Nat → Bool}
    {s : Session} (opening : begin target settings allocates = .opened s) :
    s = initial target settings := (begin_eq_opened_iff.mp opening).2.2.symm

theorem begin_of_room {settings : Settings} (target : Target)
    (passes : settings.validate = .ok ())
    (room : settings.eventCapacity.toNat ≤ Subscription.largestCapacity ∧
      Subscription.addressable (Subscription.bufferSize settings.eventCapacity.toNat)) :
    begin target settings = .opened (initial target settings) :=
  begin_eq_opened_iff.mpr ⟨passes, room, rfl⟩

theorem begin_default (target : Target) :
    begin target .default = .opened (initial target .default) :=
  begin_of_room target rfl (by decide +kernel)

/-- The session after an action, which starts the fresh epoch if it starts one. -/
def act (s : Session) (fresh : Epoch) : Action → Session
  | .resetAndQuery window => (s.resetAndQuery fresh window).1
  | .refresh => (s.refresh fresh).1
  | .setSort sort => (s.setSort fresh sort).1
  | .setFilterText text => (s.setFilterText fresh text).1
  | .fetchPreview => (s.fetchPreview fresh).1
  | .dispatch extra => (s.query fresh extra).1
  | .continueQuery => (s.continueQuery fresh).1
  | .scroll atBottom => (s.scroll fresh atBottom).1
  | .patchField identity column value => (s.patchField identity column value).1
  | .onResponse v origin => (s.onResponse v origin).1
  | .onEditResponse v => (s.onEditResponse v).1
  | .selectRows rows => (s.selectRows rows).1
  | .answer number outcome => (s.answer? number outcome).getD s
  | .push v => s.push v
  | .processNext => (s.processNext.map Prod.fst).getD s
  | .processPending => s.processPending.1

def run (s : Session) (steps : List (Epoch × Action)) : Session :=
  steps.foldl (fun s step => s.act step.1 step.2) s

inductive Reachable : Session → Prop
  | opened {target : Target} {settings : Settings} {allocates : Nat → Bool} {s : Session} :
      begin target settings allocates = .opened s → Reachable s
  | act {s : Session} (fresh : Epoch) (action : Action) :
      Reachable s → Reachable (s.act fresh action)

@[simp] theorem run_nil (s : Session) : s.run [] = s := rfl

@[simp] theorem run_cons (s : Session) (fresh : Epoch) (action : Action)
    (steps : List (Epoch × Action)) :
    s.run ((fresh, action) :: steps) = (s.act fresh action).run steps := rfl

theorem run_append (s : Session) (first second : List (Epoch × Action)) :
    s.run (first ++ second) = (s.run first).run second := List.foldl_append

theorem Reachable.run {s : Session} (reachable : Reachable s) (steps : List (Epoch × Action)) :
    Reachable (s.run steps) := by
  induction steps generalizing s with
  | nil => exact reachable
  | cons step steps ih => exact ih (reachable.act step.1 step.2)

/-- Whatever is reachable is reached by one run from an opened session. -/
theorem reachable_iff_run {s : Session} :
    Reachable s ↔ ∃ target settings allocates first steps,
      begin target settings allocates = .opened first ∧ s = first.run steps := by
  constructor
  · intro reachable
    induction reachable with
    | opened opening => exact ⟨_, _, _, _, [], opening, rfl⟩
    | act fresh action _ ih =>
      obtain ⟨_, _, _, first, steps, opening, rfl⟩ := ih
      exact ⟨_, _, _, first, steps ++ [(fresh, action)], opening, by simp [run_append]⟩
  · rintro ⟨target, settings, allocates, first, steps, opening, rfl⟩
    exact (Reachable.opened opening).run steps

/-! ## What actions leave alone -/

/-- What the later of two sessions keeps of the earlier one. -/
structure Extends (s later : Session) : Prop where
  target : later.target = s.target
  settings : later.settings = s.settings
  epochs : s.epochs <:+ later.epochs
  log : s.log.toList <+: later.log.toList
  wire : s.wire.toList <+: later.wire.toList

namespace Extends

theorem of_eq {s later : Session} (target : later.target = s.target)
    (settings : later.settings = s.settings) (epochs : later.epochs = s.epochs)
    (log : later.log = s.log) (wire : later.wire = s.wire) : s.Extends later :=
  ⟨target, settings, by simp [epochs], by simp [log], by simp [wire]⟩

theorem refl (s : Session) : s.Extends s := .of_eq rfl rfl rfl rfl rfl

theorem trans {s t u : Session} (first : s.Extends t) (second : t.Extends u) : s.Extends u :=
  ⟨second.target.trans first.target, second.settings.trans first.settings,
    first.epochs.trans second.epochs, first.log.trans second.log, first.wire.trans second.wire⟩

end Extends

theorem extends_emitFor (s : Session) (epoch : Option Epoch) (event : Event) :
    s.Extends (s.emitFor epoch event) :=
  ⟨rfl, rfl, List.suffix_refl _, by simp [emitFor], List.prefix_refl _⟩

theorem extends_setDirty (s : Session) (dirty : Bool) : s.Extends (s.setDirty dirty) :=
  ⟨rfl, rfl, List.suffix_refl _, by simp [setDirty, emit, emitFor], List.prefix_refl _⟩

theorem extends_startEpoch (s : Session) (fresh : Epoch) (window : Option Window) :
    s.Extends (s.startEpoch fresh window) :=
  ⟨rfl, rfl, List.suffix_cons _ _, List.prefix_refl _, List.prefix_refl _⟩

theorem extends_sendQuery (s : Session) (fresh : Epoch) (endpoint filter : String)
    (extra : Fields) : s.Extends (s.sendQuery fresh endpoint filter extra).1 := by
  refine ⟨rfl, rfl, ?_, List.prefix_refl _, by simp [sendQuery, perform]⟩
  cases epochs : s.epochs <;> simp [sendQuery, perform, epochs]

theorem extends_query (s : Session) (fresh : Epoch) (extra : Fields) :
    s.Extends (s.query fresh extra).1 := s.extends_sendQuery _ _ _ _

theorem extends_resetAndQuery (s : Session) (fresh : Epoch) (window : Option Window) :
    s.Extends (s.resetAndQuery fresh window).1 := by
  unfold resetAndQuery
  split
  · exact .refl s
  · exact (s.extends_startEpoch _ _).trans (extends_query _ _ _)

theorem extends_continueQuery (s : Session) (fresh : Epoch) :
    s.Extends (s.continueQuery fresh).1 := by
  unfold continueQuery
  split
  · exact .refl s
  · split
    · exact .refl s
    · rename_i window _
      exact Extends.trans (t := { s with window := window }) (.of_eq rfl rfl rfl rfl rfl)
        (extends_query _ _ _)

theorem extends_absorb (s : Session) (answer : Answer) (origin : Origin) :
    s.Extends (s.absorb answer origin) := by
  have merged : s.Extends (s.mergeRows answer.results) := .of_eq rfl rfl rfl rfl rfl
  have counted (t : Session) : t.Extends (t.noteTotal origin answer.total) := by
    unfold noteTotal
    split
    · exact ⟨rfl, rfl, List.suffix_refl _, by simp [emit, emitFor], List.prefix_refl _⟩
    · exact .refl t
  have dirtied (t : Session) (dirty : Option Bool) : t.Extends (t.noteDirty dirty) := by
    cases dirty
    · exact .refl t
    · exact extends_setDirty _ _
  exact ((merged.trans (counted _)).trans (extends_emitFor _ _ _)).trans (dirtied _ _)

theorem extends_consider (s : Session) (v : Json) (origin : Origin) (captured : Option Epoch) :
    s.Extends (s.consider v origin captured).1 := by
  unfold consider
  repeat' split
  all_goals first | exact .refl s | exact extends_absorb _ _ _

theorem extends_onEditResponse (s : Session) (v : Json) : s.Extends (s.onEditResponse v).1 := by
  unfold onEditResponse
  split
  · exact .refl s
  · exact .refl s
  · exact extends_setDirty _ _

theorem extends_report (s : Session) (epoch : Option Epoch) (outcome : Except Failure Bool) :
    s.Extends (s.report epoch outcome).1 := by
  cases outcome
  · exact extends_emitFor _ _ _
  · exact .refl s

theorem extends_handle (s : Session) (message : Message) : s.Extends (s.handle message).1 := by
  unfold handle
  split
  · exact (s.extends_consider _ _ _).trans (extends_report _ _ _)
  · split
    · exact extends_report _ _ _
    · exact .refl s
  · exact extends_report _ _ _
  · exact (s.extends_onEditResponse _).trans (extends_report _ _ _)
  · exact extends_report _ _ _

theorem extends_processNext (s : Session) :
    s.Extends ((s.processNext.map Prod.fst).getD s) := by
  unfold processNext
  split
  · exact .refl s
  · rename_i message rest _
    exact Extends.trans (t := { s with inbox := rest }) (.of_eq rfl rfl rfl rfl rfl)
      (extends_handle _ _)

theorem extends_drain (s : Session) (limit : Nat) : s.Extends (s.drain limit).1 := by
  induction limit generalizing s with
  | zero => exact .refl s
  | succ limit ih =>
    have first := s.extends_processNext
    unfold drain
    split
    · exact .refl s
    · rename_i processed
      rw [processed] at first
      exact first.trans (ih _)

/-- Whatever happens, target and settings stay, and nothing of the past is taken back. -/
theorem extends_act (s : Session) (fresh : Epoch) (action : Action) :
    s.Extends (s.act fresh action) := by
  cases action with
  | resetAndQuery window => exact s.extends_resetAndQuery fresh window
  | refresh => exact s.extends_resetAndQuery fresh none
  | setSort sort =>
    exact Extends.trans (t := { s with sort := sort }) (.of_eq rfl rfl rfl rfl rfl)
      (extends_resetAndQuery _ _ _)
  | setFilterText text =>
    exact Extends.trans (t := { s with filterText := s.target.boundFilter text })
      (.of_eq rfl rfl rfl rfl rfl) (extends_resetAndQuery _ _ _)
  | fetchPreview =>
    simp only [act, fetchPreview]
    split
    · exact .refl s
    · exact (s.extends_startEpoch fresh none).trans (extends_sendQuery _ _ _ _ _)
  | dispatch extra => exact s.extends_query fresh extra
  | continueQuery => exact s.extends_continueQuery fresh
  | scroll atBottom =>
    simp only [act, scroll]
    split
    · exact s.extends_continueQuery fresh
    · exact .refl s
  | patchField identity column value =>
    simp only [act, patchField]
    split
    · exact .refl s
    · exact ⟨rfl, rfl, List.suffix_refl _, List.prefix_refl _, by simp [perform]⟩
  | onResponse v origin => exact s.extends_consider v origin none
  | onEditResponse v => exact s.extends_onEditResponse v
  | selectRows rows => exact s.extends_emitFor _ _
  | answer number outcome =>
    simp only [act, answer?]
    cases s.pending.find? (·.number = number) with
    | none => exact .refl s
    | some request => exact .of_eq rfl rfl rfl rfl rfl
  | push v => exact .of_eq rfl rfl rfl rfl rfl
  | processNext => exact s.extends_processNext
  | processPending => exact s.extends_drain _

theorem extends_run (s : Session) (steps : List (Epoch × Action)) : s.Extends (s.run steps) := by
  induction steps generalizing s with
  | nil => exact .refl s
  | cons step steps ih => exact (s.extends_act step.1 step.2).trans (ih _)

theorem Reachable.validate_settings {s : Session} (reachable : Reachable s) :
    s.settings.validate = .ok () := by
  induction reachable with
  | opened opening =>
    obtain ⟨passes, -, rfl⟩ := begin_eq_opened_iff.mp opening
    exact passes
  | @act s fresh action _ ih => rw [(s.extends_act fresh action).settings]; exact ih

end Session

end LiveTable
