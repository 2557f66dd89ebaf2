import LiveTable.Proofs.Session.Intake
import LiveTable.Proofs.Session.Replica
set_option autoImplicit false

/-!
# What peers bring about

What a peer pushes is considered like an answer of the backend, and its origin is asked for at each
effect but one. So it changes the rows and nothing else, unless it carries a flag for the caller's
own listing: the flag is taken for the word of the backend. Main statement:
`peers_influence_only_rows_iff`.
-/

namespace LiveTable

/-- An event that may come of what a peer pushes: rows are merged, or there is a fault. -/
def Event.FromPeer : Event → Prop
  | queryComplete _ origin => origin = .peer
  | requestFailed _ => True
  | _ => False

namespace Session

/-- At most the rows differ, and nothing is told but what may come of a peer's push. -/
structure OnlyRows (s next : Session) : Prop extends SameQueries s next where
  total : next.total = s.total
  editSession : next.editSession = s.editSession
  tells : ∃ events, s.Tells events next ∧ ∀ event ∈ events, event.FromPeer

/-- A value is an answer of the current epoch with a flag, and the table shows the caller's own
listing. -/
structure Flags (s : Session) (v : Json) (dirty : Bool) : Prop where
  owned : s.target.isOwned = true
  current : s.accepts (echo? v) none = true
  flagged : ∃ answer, Answer.read v = .ok (some answer) ∧ answer.dirty = some dirty

/-- Something is taken in on the word of `origin` that tells of unpublished changes. -/
def Reports (s : Session) (steps : List (Epoch × Action)) (origin : Origin) : Prop :=
  ∃ intake ∈ s.intakesOf steps, intake.origin = origin ∧ intake.dirty? s.target ≠ none

variable {s next : Session} {v : Json} {dirty : Bool}

/-! ## Single pushes -/

private theorem Tells.unique {events others : List Event} (tells : s.Tells events next)
    (tells' : s.Tells others next) : events = others := by
  have same : s.told ++ events = s.told ++ others := tells.told.symm.trans tells'.told
  exact List.append_cancel_left same

private theorem handle_push_cases (s : Session) (v : Json) :
    let next := (s.handle (.page none .peer (.ok v))).1
    next = s ∨ (∃ failure, next = s.emit (.requestFailed failure)) ∨
      ∃ answer, s.accepts (echo? v) none = true ∧ Answer.read v = .ok (some answer) ∧
        next = s.absorb answer .peer := by
  intro next
  rcases s.consider_cases v .peer none with
    (same | ⟨failure, same⟩) | ⟨answer, accepted, read, -, same⟩
  · have ignored : next = s := by
      simp only [next, handle, same, report]
    exact .inl ignored
  · have failed : next = s.emit (.requestFailed failure) := by
      simp only [next, handle, same, report, Option.or_self, emit]
    exact .inr (.inl ⟨failure, failed⟩)
  · have absorbed : next = s.absorb answer .peer := by
      simp only [next, handle, same, report]
    exact .inr (.inr ⟨answer, accepted, read, absorbed⟩)

private theorem total_handle_push (s : Session) (v : Json) :
    (s.handle (.page none .peer (.ok v))).1.total = s.total := by
  rcases s.handle_push_cases v with same | ⟨failure, same⟩ | ⟨answer, -, -, same⟩
  · rw [same]
  · rw [same]
    rfl
  · rw [same, total_absorb]
    rfl

private theorem onlyRows_absorb_iff (s : Session) (answer : Answer) :
    OnlyRows s (s.absorb answer .peer) ↔ s.target.dirtyAfter answer = none := by
  have tells := s.tells_absorb answer .peer
  constructor
  · intro only
    obtain ⟨events, tells', allowed⟩ := only.tells
    cases told : s.target.dirtyAfter answer with
    | none => rfl
    | some dirty =>
      have news : events = s.news answer .peer := tells'.unique tells
      -- The log shows what was told, so the flag's event cannot be left out.
      have mentioned : Event.dirtyChanged dirty ∈ events := by
        simp [news, Session.news, told]
      exact (allowed _ mentioned).elim
  · intro silent
    refine ⟨s.sameQueries_absorb answer .peer, ?_, ?_, _, tells, ?_⟩
    · exact total_absorb s answer .peer
    · rw [editSession_absorb, silent]
      rfl
    · intro event told
      simp only [news, silent, Answer.countNews, Option.map_none, Option.toList_none,
        List.nil_append, List.mem_singleton] at told
      rw [told]
      rfl

private theorem Flags.handle_push (flags : s.Flags v dirty) :
    ∃ answer, s.target.dirtyAfter answer = some dirty ∧
      (s.handle (.page none .peer (.ok v))).1 = s.absorb answer .peer := by
  obtain ⟨answer, read, flagged⟩ := flags.flagged
  have minded : s.target.dirtyAfter answer = some dirty := by
    simp [Target.dirtyAfter, flags.owned, flagged]
  -- Only answers of the backend have to carry a flag.
  have valid : s.target.validate answer .peer = .ok () := by
    simp [Target.validate]
  refine ⟨answer, minded, ?_⟩
  have accepted := flags.current
  rw [echo?] at accepted
  simp only [handle, consider, accepted, if_true, read, valid, report]

private theorem flags_of_dirtyAfter {answer : Answer} (accepted : s.accepts (echo? v) none = true)
    (read : Answer.read v = .ok (some answer))
    (minded : s.target.dirtyAfter answer = some dirty) : s.Flags v dirty := by
  unfold Target.dirtyAfter at minded
  split at minded
  · rename_i owned
    exact ⟨owned, accepted, answer, read, minded⟩
  · cases minded

private theorem onlyRows_handle_push_iff (s : Session) (v : Json) :
    OnlyRows s (s.handle (.page none .peer (.ok v))).1 ↔ ∀ dirty, ¬ s.Flags v dirty := by
  constructor
  · intro only dirty flags
    obtain ⟨answer, minded, same⟩ := flags.handle_push
    rw [same, onlyRows_absorb_iff, minded] at only
    cases only
  · intro unflagged
    rcases s.handle_push_cases v with same | ⟨failure, same⟩ | ⟨answer, accepted, read, same⟩
    · rw [same]
      exact ⟨.refl s, rfl, rfl, [], .nothing rfl rfl, by simp⟩
    · rw [same]
      refine ⟨s.sameQueries_emit _, rfl, rfl, _, s.tells_emit _, ?_⟩
      intro event told
      rw [List.mem_singleton.mp told]
      trivial
    · rw [same, onlyRows_absorb_iff]
      cases minded : s.target.dirtyAfter answer with
      | none => rfl
      | some dirty => exact absurd (flags_of_dirtyAfter accepted read minded) (unflagged dirty)

private theorem Flags.editSession_handle_push (flags : s.Flags v dirty) :
    (s.handle (.page none .peer (.ok v))).1.editSession = some dirty := by
  obtain ⟨answer, minded, same⟩ := flags.handle_push
  rw [same, editSession_absorb, minded]
  rfl

/-! ## Runs -/

theorem editSession_run_ne_none_iff (s : Session) (steps : List (Epoch × Action))
    (unknown : s.editSession = none) :
    (s.run steps).editSession ≠ none ↔ s.Reports steps .backend ∨ s.Reports steps .peer := by
  rw [editSession_run, unknown, Option.or_none, Ne, List.getLast?_eq_none_iff,
    List.filterMap_eq_nil_iff]
  constructor
  · intro told
    obtain ⟨intake, told⟩ := Classical.not_forall.mp told
    obtain ⟨taken, tells⟩ := Classical.not_imp.mp told
    cases whose : intake.origin with
    | backend => exact .inl ⟨intake, taken, whose, tells⟩
    | peer => exact .inr ⟨intake, taken, whose, tells⟩
  · rintro (⟨intake, taken, -, tells⟩ | ⟨intake, taken, -, tells⟩) silent
    · exact tells (silent intake taken)
    · exact tells (silent intake taken)

/-- Whatever a peer pushes changes the rows at most, unless it is an answer of the current epoch for
the caller's own listing and carries a flag; then the flag is believed. Queries and the row count
are the same in any case. What is known of unpublished changes has been told by the backend or so
by a peer. -/
theorem peers_influence_only_rows_iff {target : Target} {settings : Settings}
    {allocates : Nat → Bool} {first : Session}
    (opening : begin target settings allocates = .opened first) (steps : List (Epoch × Action)) :
    let s := first.run steps
    (∀ (fresh : Epoch) (v : Json) (rest : List Message),
      s.inbox = .page none .peer (.ok v) :: rest →
      let waiting := { s with inbox := rest }
      let next := s.act fresh .processNext
      waiting.SameQueries next ∧ next.total = s.total ∧
        (OnlyRows waiting next ↔ ∀ dirty, ¬ s.Flags v dirty) ∧
        ∀ dirty, s.Flags v dirty → next.editSession = some dirty) ∧
    (s.editSession ≠ none ↔ first.Reports steps .backend ∨ first.Reports steps .peer) := by
  intro s
  constructor
  · intro fresh v rest inbox waiting next
    have handled : next = (waiting.handle (.page none .peer (.ok v))).1 := by
      simp only [next, act, processNext, inbox, Option.map_some, Option.getD_some, waiting]
    have flags (dirty : Bool) : waiting.Flags v dirty ↔ s.Flags v dirty :=
      ⟨fun flags => ⟨flags.owned, flags.current, flags.flagged⟩,
        fun flags => ⟨flags.owned, flags.current, flags.flagged⟩⟩
    rw [handled]
    refine ⟨waiting.sameQueries_handle _, waiting.total_handle_push v, ?_, ?_⟩
    · simp only [onlyRows_handle_push_iff, flags]
    · intro dirty flagged
      exact ((flags dirty).mpr flagged).editSession_handle_push
  · have unknown : first.editSession = none := by
      rw [begin_eq_opened opening]
      rfl
    exact first.editSession_run_ne_none_iff steps unknown

theorem peers_influence_only_rows_of_unflagged :
    let first := initial (.ownedListing true) .default
    let v : Json := .object [("results", .array [.object [("infohash", .text "a")]]),
      ("total", .number (.int 7))]
    let steps : List (Epoch × Action) := [(⟨1#128⟩, .refresh), (⟨1#128⟩, .push v)]
    let s := first.run steps
    let next := s.act ⟨2#128⟩ .processNext
    begin (.ownedListing true) .default = .opened first ∧
      s.inbox = [.page none .peer (.ok v)] ∧ OnlyRows { s with inbox := [] } next ∧
      next.rows.size = 1 ∧ ¬ first.Reports steps .peer := by
  intro first v steps s next
  have opening : begin (.ownedListing true) .default = .opened first := begin_default _
  obtain ⟨pushes, reports⟩ := peers_influence_only_rows_iff opening steps
  obtain ⟨-, -, only, -⟩ := pushes ⟨2#128⟩ v [] rfl
  have unflagged : ∀ dirty, ¬ s.Flags v dirty := by
    rintro dirty ⟨-, -, answer, read, flagged⟩
    have none : Answer.readDirty (v.get? "dirty") = .ok answer.dirty :=
      (Answer.read_eq_ok_iff.mp read).2.2.2.2
    rw [flagged] at none
    cases none
  refine ⟨opening, rfl, only.mpr unflagged, by decide +kernel, ?_⟩
  intro told
  exact reports.mpr (.inr told) rfl

/-- A peer tells of unpublished changes, and is believed. -/
theorem peer_tells_of_changes : ¬ ∀ (s : Session) (fresh : Epoch) (v : Json)
    (rest : List Message), Reachable s → s.inbox = .page none .peer (.ok v) :: rest →
    OnlyRows { s with inbox := rest } (s.act fresh .processNext) := by
  intro only
  let v : Json := .object [("results", .array []), ("dirty", .bool true)]
  let first := initial (.ownedListing true) .default
  let s := first.run [(⟨1#128⟩, .refresh), (⟨1#128⟩, .push v)]
  have opened : Reachable first := .opened (begin_default _)
  have rows := only s ⟨2#128⟩ v [] (opened.run _) rfl
  have told : (s.act ⟨2#128⟩ .processNext).editSession = some true := by decide +kernel
  rw [rows.editSession] at told
  cases told

end Session

end LiveTable
