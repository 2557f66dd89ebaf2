import LiveTable.Proofs.Answer.Read
import LiveTable.Proofs.Session.Replica
set_option autoImplicit false

/-!
# What becomes of an answer

An answer that the owner hands over is dropped if it names another epoch than the current one, or if
it is empty; it is refused if it is not written as an answer, or lacks what the target demands;
otherwise it is admitted. The cases are told apart in this order, by what stands in the value.
`Admitted` says all that an admitted answer changes. Main statement: `admission_is_decided`.
-/

namespace LiveTable

namespace Session

/-- There is a current epoch, and a value carries a token that does not name it. -/
def Foreign (s : Session) (v : Json) : Prop :=
  ∃ current token, s.epoch? = some current ∧ v.get? "uuid" = some (.text token) ∧
    Epoch.ofText? token ≠ some current

/-- The backend has to tell of unpublished changes in the caller's own listing, and does not. -/
structure Lacks (s : Session) (answer : Answer) (origin : Origin) : Prop where
  owned : s.target.isOwned = true
  backend : origin = .backend
  silent : answer.dirty = none

/-- What an admitted answer changes: the rows are merged, the backend's row count is noted, and so
is the flag of the caller's own listing; each of these is told, the count first. -/
structure Admitted (s : Session) (answer : Answer) (origin : Origin) (next : Session) : Prop
    extends SameQueries s next where
  rows : next.rows = (s.rows.merge s.settings.duplicatePolicy answer.results).1
  total : next.total = if origin = .backend then answer.total.or s.total else s.total
  editSession : next.editSession =
    if s.target.isOwned then answer.dirty.or s.editSession else s.editSession
  tells : s.Tells
    ((if origin = .backend then answer.total.toList.map .countChanged else []) ++
      [.queryComplete answer origin] ++
      if s.target.isOwned then answer.dirty.toList.map .dirtyChanged else []) next

variable {s : Session} {v : Json} {answer : Answer} {origin : Origin}

theorem echo?_eq_some_iff {token : String} :
    echo? v = some token ↔ v.get? "uuid" = some (.text token) := by
  unfold echo?
  cases v.get? "uuid" with
  | none => simp
  | some content => cases content <;> simp [Json.text?]

private theorem accepts_iff_not_foreign : s.accepts (echo? v) none = true ↔ ¬ s.Foreign v := by
  have foreign_iff : s.Foreign v ↔ ∃ current token, s.epoch? = some current ∧
      echo? v = some token ∧ current.matchesToken token = false := by
    simp only [Foreign, echo?_eq_some_iff, Epoch.matchesToken, decide_eq_false_iff_not, ne_eq]
  rw [foreign_iff]
  unfold accepts
  cases s.epoch? with
  | none => simp
  | some current => cases echo? v <;> simp

theorem validate_cases (s : Session) (answer : Answer) (origin : Origin) :
    (s.Lacks answer origin ∧
      s.target.validate answer origin = .error (.malformed .listingWithoutDirty)) ∨
    (¬ s.Lacks answer origin ∧ s.target.validate answer origin = .ok ()) := by
  unfold Target.validate
  split
  · rename_i lacking
    exact .inl ⟨⟨lacking.1, lacking.2.1, lacking.2.2⟩, rfl⟩
  · rename_i full
    exact .inr ⟨fun lacks => full ⟨lacks.owned, lacks.backend, lacks.silent⟩, rfl⟩

theorem admitted_absorb (s : Session) (answer : Answer) (origin : Origin) :
    s.Admitted answer origin (s.absorb answer origin) where
  toSameQueries := s.sameQueries_absorb answer origin
  rows := s.rows_absorb answer origin
  total := by
    rw [total_absorb]
    cases origin <;> cases counted : answer.total <;>
      simp [Answer.countNews, Event.counted?, counted]
  editSession := by
    rw [editSession_absorb, Target.dirtyAfter]
    split <;> simp
  tells := by
    have tells := s.tells_absorb answer origin
    have counts : answer.countNews origin =
        if origin = .backend then answer.total.toList.map .countChanged else [] := by
      cases origin <;> cases total : answer.total <;> simp [Answer.countNews, total]
    have dirties : ((s.target.dirtyAfter answer).map Event.dirtyChanged).toList =
        if s.target.isOwned then answer.dirty.toList.map .dirtyChanged else [] := by
      unfold Target.dirtyAfter
      split <;> cases answer.dirty <;> simp
    rw [news, counts, dirties, List.append_cons] at tells
    exact tells

private theorem onResponse_of_foreign (foreign : s.Foreign v) (origin : Origin) :
    s.onResponse v origin = (s, .ok false) :=
  if_neg (mt accepts_iff_not_foreign.mp (not_not_intro foreign))

theorem onResponse_of_not_foreign (current : ¬ s.Foreign v) (origin : Origin) :
    s.onResponse v origin =
      match Answer.read v with
      | .error failure => (s, .error failure)
      | .ok none => (s, .ok false)
      | .ok (some answer) =>
        match s.target.validate answer origin with
        | .error failure => (s, .error failure)
        | .ok () => (s.absorb answer origin, .ok true) :=
  if_pos (accepts_iff_not_foreign.mpr current)

/-- The owner hands over a value. If it carries a token and there is an epoch that this does not
name, nothing changes. Otherwise, if it is empty, nothing changes either. Otherwise, if it is not
written as an answer, or as one that lacks what the target demands, it is malformed, and nothing
changes. Otherwise it is admitted, and all that changes is said by `Admitted`. -/
theorem admission_is_decided (s : Session) (v : Json) (origin : Origin) :
    (s.Foreign v → s.onResponse v origin = (s, .ok false)) ∧
    (¬ s.Foreign v → v.Void → s.onResponse v origin = (s, .ok false)) ∧
    (¬ s.Foreign v → ¬ v.Void → (∀ answer, answer.WrittenAs v → s.Lacks answer origin) →
      ∃ failure, s.onResponse v origin = (s, .error failure) ∧
        failure.code = "MALFORMED_RESPONSE") ∧
    (¬ s.Foreign v → ¬ v.Void → ∀ answer, answer.WrittenAs v → ¬ s.Lacks answer origin →
      ∃ next, s.onResponse v origin = (next, .ok true) ∧ s.Admitted answer origin next) := by
  refine ⟨fun foreign => onResponse_of_foreign foreign origin, ?_, ?_, ?_⟩
  · intro current void
    rw [onResponse_of_not_foreign current, Answer.read_eq_ok_none_iff.mpr void]
  · intro current full lacking
    rw [onResponse_of_not_foreign current]
    rcases read : Answer.read v with failure | _ | answer
    · obtain ⟨cause, rfl⟩ := Answer.malformed_of_read read
      exact ⟨_, rfl, rfl⟩
    · exact absurd (Answer.read_eq_ok_none_iff.mp read) full
    · have lacks := lacking answer (Answer.read_eq_ok_iff_writtenAs.mp read).2
      rcases s.validate_cases answer origin with ⟨-, refused⟩ | ⟨passes, -⟩
      · simp only [refused]
        exact ⟨_, rfl, rfl⟩
      · exact absurd lacks passes
  · intro current full answer written passes
    have read := Answer.read_eq_ok_iff_writtenAs.mpr ⟨full, written⟩
    rcases s.validate_cases answer origin with ⟨lacks, -⟩ | ⟨-, valid⟩
    · exact absurd lacks passes
    · rw [onResponse_of_not_foreign current, read]
      simp only [valid]
      exact ⟨_, rfl, s.admitted_absorb answer origin⟩

/-- The caller's own listing has been queried. An answer without readable rows echoes something that
names no epoch, a peer counts less than no rows, and the backend sends a row, a count and a flag. -/
theorem admission_is_decided_of_owned_listing :
    let rows : Json := .array [.object [("infohash", .text "a")]]
    let stale : Json := .object [("results", .null), ("uuid", .text "x")]
    let miscounted : Json := .object [("results", rows), ("total", .number (.int (-1)))]
    let full : Json := .object [("dirty", .bool false), ("results", rows),
      ("total", .number (.int 7))]
    let answer : Answer := ⟨none, [⟨[("infohash", .text "a")]⟩], some 7, some false⟩
    let s := (initial (.ownedListing true) .default).act ⟨1#128⟩ .refresh
    s.onResponse stale .backend = (s, .ok false) ∧
    (∃ failure, s.onResponse miscounted .peer = (s, .error failure) ∧
      failure.code = "MALFORMED_RESPONSE") ∧
    ∃ next, s.onResponse full .backend = (next, .ok true) ∧ s.Admitted answer .backend next := by
  intro rows stale miscounted full answer s
  have foreign : s.Foreign stale := ⟨⟨1#128⟩, "x", rfl, rfl, by decide⟩
  have tokenless (v : Json) (absent : v.get? "uuid" = none) : ¬ s.Foreign v := by
    rintro ⟨_, _, -, named, -⟩
    rw [absent] at named
    cases named
  have uncounted : ∀ answer : Answer, answer.WrittenAs miscounted → s.Lacks answer .peer := by
    intro answer written
    have held := written.total
    cases total : answer.total with
    | none => simp [total, Json.Holds, miscounted, Json.get?, Fields.get?] at held
    | some n =>
      rw [total] at held
      have same : (.number (.int (-1)) : Json) = Json.ofWord64 n := Option.some.inj held
      simp only [Json.ofWord64, Json.number.injEq, Number.int.injEq] at same
      omega
  have written : answer.WrittenAs full :=
    ⟨.inl rfl, rfl, by decide +kernel, rfl, rfl⟩
  have told : ¬ s.Lacks answer .backend := by
    intro lacks
    cases lacks.silent
  have filled {v : Json} (content : v.isFalsy = false) : ¬ v.Void := by
    rw [← Json.isFalsy_iff_void, content]
    decide
  refine ⟨(admission_is_decided s stale .backend).1 foreign, ?_, ?_⟩
  · exact (admission_is_decided s miscounted .peer).2.2.1 (tokenless _ rfl) (filled rfl)
      uncounted
  · exact (admission_is_decided s full .backend).2.2.2 (tokenless _ rfl) (filled rfl) answer
      written told

end Session

end LiveTable
