import LiveTable.Proofs.Session.Ticket
set_option autoImplicit false

/-!
# The log is only written

No operation looks at the events that have been sent, nor at their number. `behind` puts other
events before all of a session's own, and every operation commutes with it: for what messages do
this is `unseen_behind`. Main statements: `run_behind`, by which a run does the same and gives the
same back whatever has been told before, and `goesOnAs_emit`, by which one event more shifts the
numbers of the later ones and does nothing else.
-/

namespace LiveTable

def Envelope.later (places : Nat) (e : Envelope) : Envelope := { e with seq := places + e.seq }

inductive Reply
  /-- What a call that may have a query sent gives back, or nothing if something happens outside. -/
  | queried (outcome : Option (Except Failure (Option Ticket)))
  | edited (outcome : Except Failure Request)
  | considered (outcome : Except Failure Bool)
  | shown (item : Option Item)
  | processed (outcome : Option (Except Failure Bool))
  | counted (handled : Nat)

namespace Session

def reply (s : Session) (fresh : Epoch) : Action → Reply
  | .patchField identity column value => .edited (s.patchField identity column value).2
  | .onResponse v origin => .considered (s.onResponse v origin).2
  | .onEditResponse v => .considered (s.onEditResponse v).2
  | .selectRows rows => .shown (s.selectRows rows).2
  | .processNext => .processed (s.processNext.map Prod.snd)
  | .processPending => .counted s.processPending.2
  | action => .queried (s.reply? fresh action)

def returns (s : Session) : List (Epoch × Action) → List Reply
  | [] => []
  | (fresh, action) :: steps => s.reply fresh action :: (s.act fresh action).returns steps

/-- The session with other events before all that it has told. -/
def behind (sent : Nat) (log : Array Envelope) (s : Session) : Session :=
  { s with sent := sent + s.sent, log := log ++ s.log.map (Envelope.later sent) }

/-- The session as if it had told nothing yet. -/
def silent (s : Session) : Session := { s with sent := 0, log := #[] }

variable (s : Session) (sent : Nat) (log : Array Envelope) (fresh : Epoch)

@[simp] theorem behind_silent : s.silent.behind s.sent s.log = s := by
  simp [behind, silent]

/-! ## Operations -/

theorem unseen_behind : Unseen (behind sent log) where
  target _ := rfl
  epoch? _ := rfl
  mergeRows _ _ := rfl
  total _ _ := rfl
  editSession _ _ := rfl
  emitFor s epoch event := by
    simp [behind, emitFor, Envelope.later, Nat.add_assoc]

private theorem resetAndQuery_behind (window : Option Window) :
    (s.behind sent log).resetAndQuery fresh window =
      (s.resetAndQuery fresh window).map (behind sent log) id := by
  unfold resetAndQuery
  cases window.mapM Window.checked <;> rfl

private theorem continueQuery_behind :
    (s.behind sent log).continueQuery fresh =
      (s.continueQuery fresh).map (behind sent log) id := by
  have loaded : (s.behind sent log).rows = s.rows := rfl
  have settings : (s.behind sent log).settings = s.settings := rfl
  unfold continueQuery
  rw [loaded, settings]
  cases s.rows.isEmpty with
  | true => rfl
  | false => cases (Window.following s.rows.size s.settings.batchSize).checked <;> rfl

private theorem fetchPreview_behind :
    (s.behind sent log).fetchPreview fresh =
      (s.fetchPreview fresh).map (behind sent log) id := by
  have target : (s.behind sent log).target = s.target := rfl
  unfold fetchPreview
  rw [target]
  cases s.target.preview <;> rfl

private theorem patchField_behind (identity column : String) (value : Json) :
    (s.behind sent log).patchField identity column value =
      (s.patchField identity column value).map (behind sent log) id := by
  have target : (s.behind sent log).target = s.target := rfl
  unfold patchField
  rw [target]
  cases s.target.editEndpoint identity <;> rfl

private theorem selectRows_behind (rows : List Nat) :
    (s.behind sent log).selectRows rows = (s.selectRows rows).map (behind sent log) id :=
  congrArg (·, _) ((unseen_behind sent log).emit s _)

private theorem answer?_behind (number : Nat) (outcome : Except String Json) :
    (s.behind sent log).answer? number outcome =
      (s.answer? number outcome).map (behind sent log) := by
  have pending : (s.behind sent log).pending = s.pending := rfl
  unfold answer?
  rw [pending]
  cases s.pending.find? (·.number = number) <;> rfl

private theorem processNext_behind :
    (s.behind sent log).processNext =
      s.processNext.map (Prod.map (behind sent log) id) := by
  have inbox : (s.behind sent log).inbox = s.inbox := rfl
  unfold processNext
  rw [inbox]
  cases s.inbox with
  | nil => rfl
  | cons message rest =>
    exact congrArg some ((unseen_behind sent log).handle { s with inbox := rest } message)

private theorem processPending_behind :
    (s.behind sent log).processPending = s.processPending.map (behind sent log) id := by
  rw [processPending_eq, processPending_eq]
  exact congrArg (·, _) ((unseen_behind sent log).handleAll { s with inbox := [] } s.inbox)

/-! ## Actions and runs -/

private theorem act_behind (action : Action) :
    (s.behind sent log).act fresh action = (s.act fresh action).behind sent log ∧
      (s.behind sent log).reply fresh action = s.reply fresh action := by
  cases action with
  | resetAndQuery window =>
    have same := s.resetAndQuery_behind sent log fresh window
    simp only [act, reply, reply?, same]
    exact ⟨rfl, rfl⟩
  | refresh =>
    have same : (s.behind sent log).refresh fresh = (s.refresh fresh).map (behind sent log) id :=
      s.resetAndQuery_behind sent log fresh none
    simp only [act, reply, reply?, same]
    exact ⟨rfl, rfl⟩
  | setSort sort =>
    have same : (s.behind sent log).setSort fresh sort =
        (s.setSort fresh sort).map (behind sent log) id :=
      resetAndQuery_behind { s with sort := sort } sent log fresh none
    simp only [act, reply, reply?, same]
    exact ⟨rfl, rfl⟩
  | setFilterText text =>
    have same : (s.behind sent log).setFilterText fresh text =
        (s.setFilterText fresh text).map (behind sent log) id :=
      resetAndQuery_behind { s with filterText := s.target.boundFilter text } sent log fresh none
    simp only [act, reply, reply?, same]
    exact ⟨rfl, rfl⟩
  | fetchPreview =>
    simp only [act, reply, reply?, fetchPreview_behind]
    exact ⟨rfl, rfl⟩
  | dispatch extra => exact ⟨rfl, rfl⟩
  | continueQuery =>
    simp only [act, reply, reply?, continueQuery_behind]
    exact ⟨rfl, rfl⟩
  | scroll atBottom =>
    cases atBottom with
    | false => exact ⟨rfl, rfl⟩
    | true =>
      simp only [act, reply, reply?, scroll, if_true, continueQuery_behind]
      exact ⟨rfl, rfl⟩
  | patchField identity column value =>
    simp only [act, reply, patchField_behind]
    exact ⟨rfl, rfl⟩
  | onResponse v origin =>
    simp only [act, reply, onResponse, (unseen_behind sent log).consider]
    exact ⟨rfl, rfl⟩
  | onEditResponse v =>
    simp only [act, reply, (unseen_behind sent log).onEditResponse]
    exact ⟨rfl, rfl⟩
  | selectRows rows =>
    simp only [act, reply, selectRows_behind]
    exact ⟨rfl, rfl⟩
  | answer number outcome =>
    refine ⟨?_, rfl⟩
    simp only [act, answer?_behind]
    cases s.answer? number outcome <;> rfl
  | push v => exact ⟨rfl, rfl⟩
  | processNext =>
    simp only [act, reply, processNext_behind]
    cases s.processNext <;> exact ⟨rfl, rfl⟩
  | processPending =>
    simp only [act, reply, processPending_behind]
    exact ⟨rfl, rfl⟩

theorem run_behind (steps : List (Epoch × Action)) :
    (s.behind sent log).run steps = (s.run steps).behind sent log ∧
      (s.behind sent log).returns steps = s.returns steps := by
  induction steps generalizing s with
  | nil => exact ⟨rfl, rfl⟩
  | cons step steps ih =>
    obtain ⟨fresh, action⟩ := step
    obtain ⟨same, replies⟩ := s.act_behind sent log fresh action
    obtain ⟨runs, returns⟩ := ih (s.act fresh action)
    rw [run_cons, run_cons, same, runs, Session.returns, Session.returns, same, replies, returns]
    exact ⟨rfl, rfl⟩

/-! ## Subscribers -/

private theorem extract_log_behind :
    (s.behind sent log).log.extract log.size = s.log.map (Envelope.later sent) := by
  have whole : (s.log.map (Envelope.later sent)).extract 0 s.log.size =
      s.log.map (Envelope.later sent) := Array.extract_eq_self_of_le (by simp)
  have size : (s.behind sent log).log.size = log.size + s.log.size := by simp [behind]
  rw [size]
  exact Array.extract_append_right.trans whole

private theorem receive_behind (place : Nat) :
    ((s.behind sent log).receive ⟨log.size + place⟩).1 =
      ⟨(s.receive ⟨place⟩).1.lost, (s.receive ⟨place⟩).1.events.map (Envelope.later sent)⟩ := by
  have lost : log.size + s.log.size - (log.size + place) = s.log.size - place := by omega
  simp [receive, Subscription.receive, behind, lost, Nat.add_assoc, List.drop_append]

/-- From the second session on everything happens as from the first one, and is told with numbers
that are higher by some places. -/
structure GoesOnAs (places : Nat) (s t : Session) : Prop where
  returns (steps : List (Epoch × Action)) : t.returns steps = s.returns steps
  run (steps : List (Epoch × Action)) : t.run steps =
    { s.run steps with
      sent := (s.run steps).sent + places
      log := t.log ++ ((s.run steps).log.extract s.log.size).map (Envelope.later places) }
  /-- Who subscribes from then on receives the same. -/
  receive (steps more : List (Epoch × Action)) :
    let heard := ((s.run (steps ++ more)).receive (s.run steps).subscribe).1
    ((t.run (steps ++ more)).receive (t.run steps).subscribe).1 =
      ⟨heard.lost, heard.events.map (Envelope.later places)⟩

private theorem later_comp_later (first second : Nat) :
    Envelope.later second ∘ Envelope.later first = Envelope.later (first + second) := by
  funext e
  simp only [Function.comp, Envelope.later, Envelope.mk.injEq, and_true]
  omega

private theorem run_eq_behind (steps : List (Epoch × Action)) :
    s.run steps = (s.silent.run steps).behind s.sent s.log ∧
      s.returns steps = s.silent.returns steps := by
  have same := s.silent.run_behind s.sent s.log steps
  rwa [behind_silent] at same

private theorem goesOnAs_of_silent {t : Session} {places : Nat} (same : t.silent = s.silent)
    (more : t.sent = s.sent + places) : s.GoesOnAs places t := by
  -- Both runs are that of the silent session, each behind what had been told before.
  have runs (steps : List (Epoch × Action)) :
      t.run steps = (s.silent.run steps).behind (s.sent + places) t.log ∧
        t.returns steps = s.silent.returns steps := by
    rw [← more, ← same]
    exact t.run_eq_behind steps
  constructor
  · intro steps
    rw [(runs steps).2, (s.run_eq_behind steps).2]
  · intro steps
    rw [(runs steps).1, (s.run_eq_behind steps).1, extract_log_behind]
    simp [behind, later_comp_later, Nat.add_right_comm]
  · intro steps more heard
    have subscribed (u : Session) (n : Nat) (l : Array Envelope) :
        (u.behind n l).subscribe = ⟨l.size + u.log.size⟩ := by
      simp [subscribe, behind]
    simp only [heard, (runs _).1, (s.run_eq_behind _).1, subscribed, receive_behind, List.map_map,
      later_comp_later]

/-- An event that has been sent in between only shifts the numbers of the later ones. -/
theorem goesOnAs_emit (event : Event) : s.GoesOnAs 1 (s.emit event) :=
  s.goesOnAs_of_silent rfl rfl

end Session

end LiveTable
