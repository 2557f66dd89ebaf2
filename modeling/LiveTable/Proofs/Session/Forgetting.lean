import LiveTable.Proofs.Session.Alike
import LiveTable.Proofs.Session.Booking
import Mathlib.Data.List.Nodup
set_option autoImplicit false

/-!
# An epoch forgets what was before it

Two sessions that are set up alike start the same epoch. From then on their owners do the same, and
the same comes of the requests that are sent from then on, but each session may also receive what
its own past has left behind: `Interleaves` says how a run is put together of common actions and
such asides. An aside changes nothing that counts, by `Aside.alike`. Main statement:
`epoch_start_forgets`, by which the histories before the epoch make no difference.
-/

namespace LiveTable

namespace Session

variable {past : List Epoch} {first second s t : Session} {fresh : Epoch} {action : Action}
  {common steps others : List (Epoch × Action)}

/-- What the owner gets back from those calls of a run that may have a query sent. -/
def replies (s : Session) : List (Epoch × Action) → List (Except Failure (Option Ticket))
  | [] => []
  | (fresh, action) :: steps =>
    (s.reply? fresh action).toList ++ (s.act fresh action).replies steps

/-- What past epochs have left behind comes in, or is processed. The session has been `first`. -/
inductive Aside (past : List Epoch) (first s : Session) : Action → Prop
  /-- The outcome of a query that was open then. -/
  | answer {number : Nat} {epoch : Epoch} {outcome : Except String Json}
      (asked : ⟨number, .page epoch⟩ ∈ first.pending)
      (leftover : (Message.page (some epoch) .backend outcome).isLeftover past) :
      Aside past first s (.answer number outcome)
  | push {v : Json} (leftover : (Message.page none .peer (.ok v)).isLeftover past) :
      Aside past first s (.push v)
  /-- The owner hands over rows. -/
  | respond {v : Json} {origin : Origin}
      (leftover : (Message.page none origin (.ok v)).isLeftover past) :
      Aside past first s (.onResponse v origin)
  | processNext (inert : ∀ message, s.inbox.head? = some message → message.isInert past) :
      Aside past first s .processNext
  | processPending (inert : ∀ message ∈ s.inbox, message.isInert past) :
      Aside past first s .processPending

/-- A run does the common actions in their order, with asides between them. Common outcomes are
those of requests that have been sent since the session was `first`, numbered from there, and the
epochs that common actions may start are not past. -/
inductive Interleaves (past : List Epoch) (first : Session) :
    Session → List (Epoch × Action) → List (Epoch × Action) → Prop
  | done {s : Session} : Interleaves past first s [] []
  | aside {s : Session} {fresh : Epoch} {action : Action} {common steps : List (Epoch × Action)}
      (aside : Aside past first s action)
      (rest : Interleaves past first (s.act fresh action) common steps) :
      Interleaves past first s common ((fresh, action) :: steps)
  | common {s : Session} {fresh : Epoch} {action : Action} {common steps : List (Epoch × Action)}
      (new : fresh ∉ past) (expects : action = .processNext → s.Expects past)
      (rest : Interleaves past first (s.act fresh (action.shifted first.wire.size)) common steps) :
      Interleaves past first s ((fresh, action) :: common)
        ((fresh, action.shifted first.wire.size) :: steps)

/-! ## Asides -/

private theorem Aside.reply?_eq (aside : Aside past first s action) (fresh : Epoch) :
    s.reply? fresh action = none := by
  cases aside <;> rfl

private theorem Alike.itself (alike : Alike past first second s t) : Alike past first first s s :=
  alike.trans alike.symm

private theorem Alike.withInert (alike : Alike past first first s s) {inbox : List Message}
    {pending : List OpenRequest} (fewer : pending ⊆ s.pending)
    (opened : pending.filterMap (OpenRequest.behind? first.wire.size) = s.openSince first)
    (mail : inbox.filter (fun message => !message.isInert past) = s.mail past) :
    Alike past first first s { s with inbox := inbox, pending := pending } :=
  alike.withWaiting (List.Subset.refl _) fewer opened.symm mail.symm

private theorem Alike.aside_answer (alike : Alike past first first s s)
    (reachable : Reachable first)
    (within : first.epochs ⊆ past) {number : Nat} {epoch : Epoch} {outcome : Except String Json}
    (asked : ⟨number, .page epoch⟩ ∈ first.pending)
    (leftover : (Message.page (some epoch) .backend outcome).isLeftover past) (fresh : Epoch) :
    Alike past first first s (s.act fresh (.answer number outcome)) := by
  have older : number < first.wire.size := reachable.booked.sent _ asked
  simp only [Session.act, answer?]
  cases found : s.pending.find? (·.number = number) with
  | none => exact alike
  | some request =>
    have place : request.number = number := by simpa using List.find?_some found
    have earlier : request ∈ first.pending :=
      alike.left.older request (List.mem_of_find?_eq_some found) (place ▸ older)
    have same : request = ⟨number, .page epoch⟩ :=
      List.inj_on_of_nodup_map reachable.booked.distinct earlier asked place
    have inert : (Message.page (some epoch) .backend outcome).isInert past := by
      refine Message.isInert_iff.mpr ⟨leftover, ?_⟩
      rintro _ ⟨⟩
      exact within (reachable.traced number epoch asked)
    subst same
    refine alike.withInert List.filter_sublist.subset ?_ ?_
    · exact filterMap_behind?_filter_of_lt older s.pending
    · rw [List.filter_append, OpenRequest.message, List.filter_cons_of_neg (by simp [inert])]
      exact List.append_nil _

theorem Aside.alike (aside : Aside past first s action) (reachable : Reachable first)
    (within : first.epochs ⊆ past) (alike : Alike past first first s s) (fresh : Epoch) :
    Alike past first first s (s.act fresh action) := by
  obtain ⟨current, newest, new⟩ := alike.current
  have inert_of {origin : Origin} {v : Json}
      (leftover : (Message.page none origin (.ok v)).isLeftover past) :
      (Message.page none origin (.ok v)).isInert past :=
    Message.isInert_iff.mpr ⟨leftover, by simp [Message.captured?]⟩
  cases aside with
  | answer asked leftover => exact alike.aside_answer reachable within asked leftover fresh
  | push leftover =>
    refine alike.withInert (List.Subset.refl _) rfl ?_
    rw [List.filter_append, List.filter_cons_of_neg (by simp [inert_of leftover])]
    exact List.append_nil _
  | respond leftover =>
    simp only [act, onResponse, consider_of_inert newest new (inert_of leftover)]
    exact alike
  | processNext inert =>
    simp only [act, Session.processNext]
    cases waiting : s.inbox with
    | nil => exact alike
    | cons message rest =>
      have skipped := inert message (by rw [waiting]; rfl)
      have handled := handle_of_inert (s := { s with inbox := rest }) newest new skipped
      simp only [Option.map_some, Option.getD_some, handled]
      refine alike.withInert (List.Subset.refl _) rfl ?_
      rw [mail, waiting, List.filter_cons_of_neg (by simp [skipped])]
  | processPending inert =>
    have skipped : s.inbox.filter (fun message => !message.isInert past) = [] := by
      simpa using inert
    simp only [act, processPending_eq,
      handleAll_others (s := { s with inbox := [] }) newest new s.inbox, skipped, handleAll_nil]
    exact alike.withInert (List.Subset.refl _) rfl skipped.symm

/-! ## Runs -/

private theorem Interleaves.alike_of_nil (interleaved : Interleaves past second t common others)
    (ended : common = []) (reachable : Reachable second) (within : second.epochs ⊆ past)
    (alike : Alike past first second s t) :
    Alike past first second s (t.run others) ∧ t.replies others = [] := by
  induction interleaved with
  | done => exact ⟨alike, rfl⟩
  | @aside t fresh _ _ steps aside _ ih =>
    have next := alike.trans (aside.alike reachable within alike.symm.itself fresh)
    obtain ⟨same, silent⟩ := ih ended next
    refine ⟨same, ?_⟩
    rw [replies, aside.reply?_eq, silent]
    rfl
  | common => cases ended

private theorem Interleaves.exists_next (interleaved : Interleaves past second t common others)
    {later : List (Epoch × Action)} (left : common = (fresh, action) :: later)
    (reachable : Reachable second) (within : second.epochs ⊆ past)
    (alike : Alike past first second s t) :
    ∃ u rest, Alike past first second s u ∧ (action = .processNext → u.Expects past) ∧
      Interleaves past second (u.act fresh (action.shifted second.wire.size)) later rest ∧
      t.run others = (u.act fresh (action.shifted second.wire.size)).run rest ∧
      t.replies others = (u.reply? fresh (action.shifted second.wire.size)).toList ++
        (u.act fresh (action.shifted second.wire.size)).replies rest := by
  induction interleaved with
  | done => cases left
  | @aside t own _ _ steps aside _ ih =>
    have next := alike.trans (aside.alike reachable within alike.symm.itself own)
    obtain ⟨u, rest, same, expects, further, ends, replied⟩ := ih left next
    refine ⟨u, rest, same, expects, further, ends, ?_⟩
    rw [replies, aside.reply?_eq, replied]
    rfl
  | @common t _ _ _ steps _ expects rest =>
    cases left
    exact ⟨t, steps, alike, expects, rest, rfl, rfl⟩

/-- Runs with the same common actions keep sessions alike, and the owners get the same back. -/
theorem Interleaves.alike (interleaved : Interleaves past first s common steps)
    (other : Interleaves past second t common others) (reachable : Reachable first)
    (reachable' : Reachable second) (within : first.epochs ⊆ past) (within' : second.epochs ⊆ past)
    (alike : Alike past first second s t) :
    Alike past first second (s.run steps) (t.run others) ∧
      s.replies steps = t.replies others := by
  -- The second run is wherever its asides have left it; `exists_next` takes it past them.
  induction interleaved generalizing t others with
  | done =>
    obtain ⟨same, silent⟩ := other.alike_of_nil rfl reachable' within' alike
    exact ⟨same, silent.symm⟩
  | @aside s fresh _ _ steps aside _ ih =>
    have next := (aside.alike reachable within alike.itself fresh).symm.trans alike
    obtain ⟨same, replied⟩ := ih other next
    refine ⟨same, ?_⟩
    rw [replies, aside.reply?_eq, ← replied]
    rfl
  | @common s fresh action later steps new expects _ ih =>
    obtain ⟨u, rest, close, expects', further, ends, replied⟩ :=
      other.exists_next rfl reachable' within' alike
    obtain ⟨next, reply⟩ := close.act new fun same => ⟨expects same, expects' same⟩
    obtain ⟨same, replied'⟩ := ih further next
    rw [ends, replied, replies, reply, replied']
    exact ⟨same, rfl⟩

/-! ## The start of the epoch -/

private theorem Paired.of_leftovers (reachable : Reachable s) (reachable' : Reachable t)
    (within : s.epochs ⊆ past) (within' : t.epochs ⊆ past)
    (waiting : ∀ message ∈ s.inbox, message.isLeftover past)
    (waiting' : ∀ message ∈ t.inbox, message.isLeftover past)
    (target : s.target = t.target) (settings : s.settings = t.settings)
    (filterText : s.filterText = t.filterText) (sort : s.sort = t.sort) :
    Paired past s t s t := by
  have noMail {u : Session} (booked : u.Booked) (within : u.epochs ⊆ past)
      (waiting : ∀ message ∈ u.inbox, message.isLeftover past) : u.mail past = [] := by
    refine List.filter_eq_nil_iff.mpr fun message member => ?_
    simp [booked.isInert within member (waiting message member)]
  have noneOpen {u : Session} (booked : u.Booked) : u.openSince u = [] := by
    refine List.filterMap_eq_nil_iff.mpr fun request member => ?_
    exact if_neg (Nat.not_le.mpr (booked.sent request member))
  have noneSent (u : Session) : u.sentSince u = [] := by simp [sentSince]
  have noneTold (u : Session) : u.toldSince u = [] := by simp [toldSince]
  exact {
    left := .refl s
    right := .refl t
    target := target
    settings := settings
    filterText := filterText
    sort := sort
    mail := by
      rw [noMail reachable.booked within waiting, noMail reachable'.booked within' waiting']
    sent := by rw [noneSent, noneSent]
    opened := by rw [noneOpen reachable.booked, noneOpen reachable'.booked]
    told := by rw [noneTold, noneTold] }

private theorem Paired.resetAndQuery (paired : Paired past first second s t) (new : fresh ∉ past)
    {window : Option Window} (wellFormed : ∀ w, window = some w → w.WellFormed) :
    Alike past first second (s.resetAndQuery fresh window).1 (t.resetAndQuery fresh window).1 ∧
      (s.resetAndQuery fresh window).2 = (t.resetAndQuery fresh window).2 := by
  simp only [Session.resetAndQuery, mapM_checked_of_wellFormed wellFormed]
  exact (paired.startEpoch new window).query fresh []

/-- Two sessions with the same target and settings, sorted and filtered alike, start the same epoch
at the same window. Nothing waits in them but outcomes of past queries and what peers pushed with a
token. From then on both do the common actions and receive what comes of them, and between these
such leftovers of their own. Then both owners get the same tickets back, the tables are the same,
and the same has been told and asked for since. -/
theorem epoch_start_forgets (reachable : Reachable s) (reachable' : Reachable t)
    (target : s.target = t.target) (settings : s.settings = t.settings)
    (filterText : s.filterText = t.filterText) (sort : s.sort = t.sort)
    (within : s.epochs ⊆ past) (within' : t.epochs ⊆ past)
    (waiting : ∀ message ∈ s.inbox, message.isLeftover past)
    (waiting' : ∀ message ∈ t.inbox, message.isLeftover past) (new : fresh ∉ past)
    {window : Option Window} (wellFormed : ∀ w, window = some w → w.WellFormed)
    (interleaved : Interleaves past s (s.act fresh (.resetAndQuery window)) common steps)
    (interleaved' : Interleaves past t (t.act fresh (.resetAndQuery window)) common others)
    {later later' : Session} (moment : later = s.run ((fresh, .resetAndQuery window) :: steps))
    (moment' : later' = t.run ((fresh, .resetAndQuery window) :: others)) :
    s.replies ((fresh, .resetAndQuery window) :: steps) =
      t.replies ((fresh, .resetAndQuery window) :: others) ∧
    later.rows = later'.rows ∧
    (∀ identity, later.rows.find? identity = later'.rows.find? identity) ∧
    later.total = later'.total ∧ later.window = later'.window ∧ later.epoch? = later'.epoch? ∧
    later.toldSince s = later'.toldSince t ∧ later.sentSince s = later'.sentSince t := by
  have paired : Paired past s t s t :=
    .of_leftovers reachable reachable' within within' waiting waiting' target settings filterText
      sort
  obtain ⟨started, ticket⟩ := paired.resetAndQuery new wellFormed
  obtain ⟨alike, replied⟩ :=
    interleaved.alike interleaved' reachable reachable' within within' started
  subst moment moment'
  refine ⟨?_, alike.rows, ?_, alike.total, alike.window, alike.epoch, alike.told, alike.sent⟩
  · rw [replies, replies, replied, reply?, reply?, ticket]
  · intro identity
    exact congrArg (Rows.find? · identity) alike.rows

/-- One session was refreshed while its first query was open, the other had not asked for anything
yet. The first one's late answer comes in before the answer to the common query. -/
theorem epoch_start_forgets_late_answer :
    let page (token : Epoch) (hash : String) : Json := .object [
      ("results", .array [.object [("infohash", .text hash)]]), ("total", .number (.int 1)),
      ("uuid", .text token.token)]
    let t := initial (.search none) .default
    let s := t.act ⟨1#128⟩ .refresh
    let common : List (Epoch × Action) :=
      [(⟨3#128⟩, .answer 0 (.ok (page ⟨2#128⟩ "b"))), (⟨4#128⟩, .processNext),
        (⟨5#128⟩, .continueQuery)]
    let steps : List (Epoch × Action) :=
      [(⟨3#128⟩, .answer 0 (.ok (page ⟨1#128⟩ "a"))),
        (⟨3#128⟩, .answer 1 (.ok (page ⟨2#128⟩ "b"))), (⟨4#128⟩, .processNext),
        (⟨4#128⟩, .processNext), (⟨5#128⟩, .continueQuery)]
    let later := s.run ((⟨2#128⟩, .resetAndQuery none) :: steps)
    let later' := t.run ((⟨2#128⟩, .resetAndQuery none) :: common)
    s.replies ((⟨2#128⟩, .resetAndQuery none) :: steps) =
      t.replies ((⟨2#128⟩, .resetAndQuery none) :: common) ∧
    later.rows.items.toList.map Item.key = ["b"] ∧ later.rows = later'.rows ∧
    later.total = some 1 ∧ (later.toldSince s).length = 2 ∧
    later.toldSince s = later'.toldSince t := by
  intro page t s common steps later later'
  have opened : Reachable t := .opened (begin_default _)
  have empty : s.inbox = [] := rfl
  have empty' : t.inbox = [] := rfl
  have reachable : Reachable s := opened.act ⟨1#128⟩ .refresh
  have interleaved :
      Interleaves [⟨1#128⟩] s (s.act ⟨2#128⟩ (.resetAndQuery none)) common steps := by
    refine .aside (.answer (List.mem_singleton.mpr rfl) (by decide +kernel)) ?_
    refine .common (by decide) nofun ?_
    refine .aside (.processNext ?_) ?_
    · rintro _ ⟨⟩
      decide +kernel
    refine .common (by decide) (fun _ => ⟨_, _, rfl, by decide +kernel⟩) ?_
    exact .common (by decide) nofun .done
  have interleaved' :
      Interleaves [⟨1#128⟩] t (t.act ⟨2#128⟩ (.resetAndQuery none)) common common := by
    refine .common (by decide) nofun ?_
    refine .common (by decide) (fun _ => ⟨_, _, rfl, by decide +kernel⟩) ?_
    exact .common (by decide) nofun .done
  have forgotten := epoch_start_forgets reachable opened rfl rfl rfl rfl
    (List.Subset.refl _) (List.nil_subset _) (by simp [empty]) (by simp [empty']) (by decide)
    (by simp) interleaved interleaved' rfl rfl
  exact ⟨forgotten.1, by decide +kernel, forgotten.2.1, by decide +kernel, by decide +kernel,
    forgotten.2.2.2.2.2.2.1⟩

end Session

end LiveTable
