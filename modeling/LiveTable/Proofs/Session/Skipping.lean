import LiveTable.Proofs.Rows.Growth
import LiveTable.Proofs.Rows.Index
import LiveTable.Proofs.Session.Clearing
import LiveTable.Proofs.Session.Paging
import LiveTable.Proofs.Window.Coverage
set_option autoImplicit false

/-!
# Positions that are skipped

Turning the page asks for what follows the loaded rows, and rows count as loaded whoever they came
from. As long as the rows do not go beyond the page that was asked for last, the pages of an epoch
follow each other without a gap; where they do, positions of the listing are skipped, and they stay
skipped. `Trailing` is the invariant of an epoch that no explicit window is asked for in. Main
statement: turning the page leaves no position out exactly if the rows have not gone beyond the
last page at this and at every earlier turn of the epoch.
-/

namespace LiveTable

namespace Session

def windowsSince (s : Session) (place : Nat) : List Window :=
  (s.wire.toList.drop place).filterMap Request.window?

inductive Turns (s : Session) (fresh : Epoch) : Action → Ticket → Prop
  | continueQuery {ticket : Ticket} (done : (s.continueQuery fresh).2 = .ok (some ticket)) :
      Turns s fresh .continueQuery ticket
  | scroll {atBottom : Bool} {ticket : Ticket}
      (done : (s.scroll fresh atBottom).2 = .ok (some ticket)) :
      Turns s fresh (.scroll atBottom) ticket

/-- Nothing in a run starts an epoch, and no query is given a window of its own. -/
structure Lasting (first : Session) (steps : List (Epoch × Action)) : Prop where
  keeps : ∀ before fresh action after, steps = before ++ (fresh, action) :: after →
    ¬ (first.run before).Starts fresh action
  plain : ∀ step ∈ steps, ∀ extra, step.2 = .dispatch extra →
    Fields.get? "first" extra = none ∧ Fields.get? "last" extra = none

/-- Whenever the page was turned in a run, the rows had not gone beyond the last page. -/
def Tight (first : Session) (steps : List (Epoch × Action)) : Prop :=
  ∀ before fresh action ticket after, steps = before ++ (fresh, action) :: after →
    (first.run before).Turns fresh action ticket →
    (first.run before).rows.size < (first.run before).window.last.toNat

variable {s t first : Session} {fresh : Epoch} {action : Action} {ticket : Ticket}
  {steps : List (Epoch × Action)} {place : Nat} {gapless : Prop}

/-! ## Turning the page -/

private theorem Turns.eq (turns : s.Turns fresh action ticket) :
    (Window.following s.rows.size s.settings.batchSize).WellFormed ∧
      ticket.window = Window.following s.rows.size s.settings.batchSize ∧
      ticket.epoch = s.epoch?.getD fresh ∧
      s.act fresh action =
        s.queryListing fresh (Window.following s.rows.size s.settings.batchSize) [] := by
  cases turns with
  | continueQuery done => exact continueQuery_eq_some done
  | @scroll atBottom _ done =>
    cases atBottom with
    | false => cases done
    | true => exact continueQuery_eq_some done

private theorem exists_turns (loaded : s.rows.isEmpty = false)
    (wellFormed : (Window.following s.rows.size s.settings.batchSize).WellFormed) :
    ∃ ticket, s.Turns fresh .continueQuery ticket ∧
      ticket.window = Window.following s.rows.size s.settings.batchSize := by
  have checked := checked_eq_ok.mpr ⟨rfl, wellFormed⟩
  have done : ∃ ticket, (s.continueQuery fresh).2 = .ok (some ticket) := by
    simp only [continueQuery, loaded, checked]
    exact ⟨_, rfl⟩
  obtain ⟨ticket, done⟩ := done
  exact ⟨ticket, .continueQuery done, (continueQuery_eq_some done).2.1⟩

private theorem window?_queryListing (s : Session) (fresh : Epoch) (window : Window)
    {extra : Fields} (plain : Fields.get? "first" extra = none ∧ Fields.get? "last" extra = none) :
    ∃ r, (s.queryListing fresh window extra).wire = s.wire.push r ∧ r.window? = some window := by
  refine ⟨_, rfl, Query.window?_request _ _ ?_ ?_⟩
  · simp [Fields.get?_overriddenBy, plain.1, s.target.get?_extraParams]
  · simp [Fields.get?_overriddenBy, plain.2, s.target.get?_extraParams]

private theorem windowsSince_of_push {r : Request} (sent : place ≤ s.wire.size)
    (wire : t.wire = s.wire.push r) :
    t.windowsSince place = s.windowsSince place ++ r.window?.toList := by
  have behind : (s.wire.toList ++ [r]).drop place = s.wire.toList.drop place ++ [r] :=
    List.drop_append_of_le_length (by simpa using sent)
  rw [windowsSince, wire, Array.toList_push, behind, List.filterMap_append]
  cases window : r.window? <;> simp [windowsSince, window]

/-! ## The invariant -/

/-- The queries from some place of the wire on are those of one page after the other, and they leave
out no position before the current page exactly under the given condition. -/
structure Trailing (s : Session) (place : Nat) (gapless : Prop) : Prop where
  sent : place ≤ s.wire.size
  trail : Window.Trail (s.windowsSince place) s.window s.settings.batchSize s.rows.size
  covered : Window.CoverBelow (s.windowsSince place) s.window.first.toNat ↔ gapless

namespace Trailing

private theorem of_same (trailing : s.Trailing place gapless) (settings : t.settings = s.settings)
    (window : t.window = s.window) (grown : s.rows.size ≤ t.rows.size) (wire : t.wire = s.wire) :
    t.Trailing place gapless := by
  have same : t.windowsSince place = s.windowsSince place := by
    rw [windowsSince, wire]
    rfl
  constructor
  · rw [wire]
    exact trailing.sent
  · rw [same, window, settings]
    exact trailing.trail.mono grown
  · rw [same, window]
    exact trailing.covered

private theorem of_sameQueries (trailing : s.Trailing place gapless) (same : s.SameQueries t)
    (grown : s.rows.size ≤ t.rows.size) : t.Trailing place gapless :=
  trailing.of_same same.settings same.window grown same.wire

private theorem aside (trailing : s.Trailing place gapless) {r : Request}
    (wire : t.wire = s.wire.push r)
    (pageless : r.window? = none) (settings : t.settings = s.settings)
    (window : t.window = s.window) (grown : s.rows.size ≤ t.rows.size) :
    t.Trailing place gapless := by
  have same : t.windowsSince place = s.windowsSince place := by
    rw [windowsSince_of_push trailing.sent wire, pageless]
    simp
  constructor
  · rw [wire, Array.size_push]
    exact Nat.le_succ_of_le trailing.sent
  · rw [same, window, settings]
    exact trailing.trail.mono grown
  · rw [same, window]
    exact trailing.covered

private theorem again (trailing : s.Trailing place gapless) (fresh : Epoch) {extra : Fields}
    (plain : Fields.get? "first" extra = none ∧ Fields.get? "last" extra = none) :
    (s.queryListing fresh s.window extra).Trailing place gapless := by
  obtain ⟨r, wire, window⟩ := s.window?_queryListing fresh s.window plain
  have asked : (s.queryListing fresh s.window extra).windowsSince place =
      s.windowsSince place ++ [s.window] := by
    rw [windowsSince_of_push trailing.sent wire, window]
    rfl
  constructor
  · rw [wire, Array.size_push]
    exact Nat.le_succ_of_le trailing.sent
  · rw [asked]
    exact trailing.trail.again
  · rw [asked]
    exact (Window.CoverBelow.append_of_mem trailing.trail.asked).trans trailing.covered

private theorem turn (trailing : s.Trailing place gapless) (turns : s.Turns fresh action ticket) :
    (s.act fresh action).Trailing place (gapless ∧ s.rows.size < s.window.last.toNat) := by
  obtain ⟨wellFormed, -, -, turned⟩ := turns.eq
  rw [turned]
  have plain : Fields.get? "first" [] = none ∧ Fields.get? "last" [] = none := ⟨rfl, rfl⟩
  obtain ⟨r, wire, window⟩ := s.window?_queryListing fresh
    (Window.following s.rows.size s.settings.batchSize) plain
  have asked := windowsSince_of_push trailing.sent wire
  rw [window] at asked
  constructor
  · rw [wire, Array.size_push]
    exact Nat.le_succ_of_le trailing.sent
  · rw [asked]
    exact trailing.trail.turn
  · rw [asked, ← trailing.covered]
    exact (Window.CoverBelow.append_of_le (Nat.le_refl _)).trans
      (trailing.trail.coverBelow_following_iff wellFormed)

private theorem absorb (trailing : s.Trailing place gapless) (answer : Answer) (origin : Origin) :
    (s.absorb answer origin).Trailing place gapless := by
  refine trailing.of_sameQueries (s.sameQueries_absorb answer origin) ?_
  rw [rows_absorb]
  exact (Rows.grows_merge _ _ _).size

private theorem of_handling {message : Message} (trailing : s.Trailing place gapless)
    (handling : Handling s message t) : t.Trailing place gapless := by
  cases handling with
  | ignored => exact trailing
  | absorbed => exact trailing.absorb _ _
  | dirtied => exact trailing.of_same rfl rfl (Nat.le_refl _) rfl
  | failed => exact trailing.of_same rfl rfl (Nat.le_refl _) rfl

private theorem pass (trailing : s.Trailing place gapless) (step : Step s fresh action t)
    (keeps : ¬ s.Starts fresh action) (stays : ∀ ticket, ¬ s.Turns fresh action ticket)
    (plain : ∀ extra, action = .dispatch extra →
      Fields.get? "first" extra = none ∧ Fields.get? "last" extra = none) :
    t.Trailing place gapless := by
  cases step with
  | idle => exact trailing
  | listing demand wellFormed => exact absurd (.of_demand demand wellFormed) keeps
  | preview has => exact absurd (.of_preview has) keeps
  | dispatch => exact trailing.again fresh (plain _ rfl)
  | turn scrolled _ _ _ done =>
    rcases scrolled with rfl | rfl
    · exact absurd (.continueQuery done) (stays _)
    · exact absurd (.scroll done) (stays _)
  | @edit identity column value =>
    -- An edit goes over the wire too, but it asks for no page.
    have kept := s.rows.size_edit identity (attributeOf column) value
    exact trailing.aside rfl rfl rfl rfl (Nat.le_of_eq kept.symm)
  | respond => exact trailing.absorb _ _
  | respondEdit => exact trailing.of_same rfl rfl (Nat.le_refl _) rfl
  | select => exact trailing.of_same rfl rfl (Nat.le_refl _) rfl
  | answer => exact trailing.of_same rfl rfl (Nat.le_refl _) rfl
  | push => exact trailing.of_same rfl rfl (Nat.le_refl _) rfl
  | @process _ messages rest =>
    have emptied : { s with inbox := rest }.Trailing place gapless :=
      trailing.of_same rfl rfl (Nat.le_refl _) rfl
    exact handleAll_keeps (P := fun s => s.Trailing place gapless)
      (fun s message _ held => held.of_handling (s.handling message)) emptied

end Trailing

/-! ## Runs -/

private theorem split_snoc {α : Type} {steps before after : List α} {step last : α}
    (split : steps ++ [last] = before ++ step :: after) :
    (before = steps ∧ step = last) ∨ ∃ rest, steps = before ++ step :: rest := by
  rcases List.eq_nil_or_concat after with rfl | ⟨rest, other, rfl⟩
  · obtain ⟨same, alone⟩ := List.append_inj' split rfl
    exact .inl ⟨same.symm, (List.singleton_inj.mp alone).symm⟩
  · have outer : steps ++ [last] = (before ++ step :: rest) ++ [other] := by simpa using split
    exact .inr ⟨rest, (List.append_inj' outer rfl).1⟩

private theorem tight_nil : first.Tight [] := by
  intro before fresh action ticket after split
  simp at split

private theorem tight_snoc : first.Tight (steps ++ [(fresh, action)]) ↔ first.Tight steps ∧
    ∀ ticket, (first.run steps).Turns fresh action ticket →
      (first.run steps).rows.size < (first.run steps).window.last.toNat := by
  constructor
  · intro tight
    refine ⟨?_, fun ticket => tight steps fresh action ticket [] rfl⟩
    intro before next turn ticket after split
    exact tight before next turn ticket (after ++ [(fresh, action)]) (by simp [split])
  · rintro ⟨earlier, now⟩ before next turn ticket after split turns
    rcases split_snoc split with ⟨rfl, same⟩ | ⟨rest, inside⟩
    · cases same
      exact now ticket turns
    · exact earlier before next turn ticket rest inside turns

private theorem Lasting.of_forall
    (aside : ∀ step ∈ steps, ∀ s : Session, s.demand? step.2 = none ∧ step.2 ≠ .fetchPreview)
    (plain : ∀ step ∈ steps, ∀ extra, step.2 = .dispatch extra →
      Fields.get? "first" extra = none ∧ Fields.get? "last" extra = none) :
    first.Lasting steps := by
  refine ⟨?_, plain⟩
  intro before fresh action after split starts
  have member : (fresh, action) ∈ steps := by simp [split]
  obtain ⟨undemanded, unpreviewed⟩ := aside (fresh, action) member (first.run before)
  cases starts with
  | fetchPreview => exact unpreviewed rfl
  | _ => cases undemanded

private theorem tight_snoc_of_turns (turns : (first.run steps).Turns fresh action ticket) :
    first.Tight (steps ++ [(fresh, action)]) ↔ first.Tight steps ∧
      (first.run steps).rows.size < (first.run steps).window.last.toNat :=
  tight_snoc.trans (and_congr_right fun _ => ⟨fun now => now ticket turns, fun now _ _ => now⟩)

private theorem Lasting.of_snoc (lasting : first.Lasting (steps ++ [(fresh, action)])) :
    first.Lasting steps := by
  constructor
  · intro before next other after split
    exact lasting.keeps before next other (after ++ [(fresh, action)]) (by simp [split])
  · exact fun step member => lasting.plain step (List.mem_append_left _ member)

private theorem Lasting.epoch? (lasting : first.Lasting steps) {epoch : Epoch}
    (newest : first.epoch? = some epoch) : (first.run steps).epoch? = some epoch := by
  induction steps using List.reverseRecOn with
  | nil => exact newest
  | append_singleton steps step ih =>
    obtain ⟨fresh, action⟩ := step
    have current := ih lasting.of_snoc
    rw [run_append]
    show ((first.run steps).act fresh action).epoch? = some epoch
    rcases (first.run steps).epoch_change_cases fresh action with
      same | ⟨starts, -⟩ | ⟨none, -⟩
    · rw [same, current]
    · exact absurd starts (lasting.keeps steps fresh action [] rfl)
    · rw [current] at none
      cases none

private theorem Trailing.of_first {t : Session} {r : Request} (wire : t.wire = s.wire.push r)
    (page : r.window? = some t.window) (first : t.window = Window.firstPage t.settings.batchSize)
    (rows : t.rows.size = 0) : t.Trailing s.wire.size True := by
  have before : s.windowsSince s.wire.size = [] := by
    rw [windowsSince, List.drop_of_length_le (Nat.le_of_eq Array.length_toList)]
    rfl
  have asked : t.windowsSince s.wire.size = [Window.firstPage t.settings.batchSize] := by
    rw [windowsSince_of_push (Nat.le_refl _) wire, before, page, first]
    rfl
  constructor
  · simp [wire]
  · rw [asked, first, rows]
    exact .first _
  · -- There is no position before the first page.
    have nothing : t.window.first.toNat ≤ 1 := by
      rw [first, Window.firstPage, Window.toNat_first_following]
      exact Nat.min_le_left _ _
    refine iff_true_intro fun position positive below => ?_
    omega

private theorem Starts.trailing {start : Epoch} {opening : Action} (starts : s.Starts start opening)
    (plain : ∀ w, opening ≠ .resetAndQuery (some w)) :
    (s.act start opening).Trailing s.wire.size True := by
  rcases starts.act_eq with ⟨sort, text, window, demand, same⟩ | ⟨preview, has, same⟩
  · have first : window = none := by
      cases opening with
      | resetAndQuery asked =>
        cases demand
        cases window with
        | none => rfl
        | some w => exact absurd rfl (plain w)
      | refresh => cases demand; rfl
      | setSort => cases demand; rfl
      | setFilterText => cases demand; rfl
      | _ => cases demand
    subst first
    rw [same]
    have wire : (s.startListing start sort text none).wire =
        s.wire.push ((s.startListing start sort text none).listingRequest start) := rfl
    exact .of_first wire (window?_listingRequest _ _) rfl rfl
  · rw [same]
    have free := (Target.preview_eq_ok has).2
    have page : (s.previewRequest start preview).window? =
        some (s.startPreview start preview).window :=
      Query.window?_request _ _ (free _ (by decide)) (free _ (by decide))
    exact .of_first (s.wire_startPreview start preview) page rfl rfl

/-- As long as an epoch lasts, the pages before the current one leave no position out exactly if the
rows had not gone beyond the last page whenever the page was turned. -/
theorem Trailing.run (trailing : first.Trailing place True) (lasting : first.Lasting steps) :
    (first.run steps).Trailing place (first.Tight steps) := by
  induction steps using List.reverseRecOn with
  | nil =>
    rw [iff_true_intro (first.tight_nil)]
    exact trailing
  | append_singleton steps step ih =>
    obtain ⟨fresh, action⟩ := step
    have earlier := ih lasting.of_snoc
    rw [run_append]
    show ((first.run steps).act fresh action).Trailing place _
    -- Only a turn of the page puts a condition of its own to those of the earlier turns.
    by_cases turned : ∃ ticket, (first.run steps).Turns fresh action ticket
    · obtain ⟨ticket, turns⟩ := turned
      rw [tight_snoc_of_turns turns]
      exact earlier.turn turns
    · have tight : first.Tight (steps ++ [(fresh, action)]) ↔ first.Tight steps :=
        tight_snoc.trans (and_iff_left fun ticket turns => absurd ⟨ticket, turns⟩ turned)
      rw [tight]
      exact earlier.pass (step _ fresh action) (lasting.keeps steps fresh action [] rfl)
        (fun ticket turns => turned ⟨ticket, turns⟩)
        (lasting.plain (fresh, action) (by simp))

/-- After an epoch has started at its first page, turning the page leaves no position before the new
page out exactly if the rows have not gone beyond the last page at this and at every earlier turn
of the epoch. -/
theorem earlier_positions_asked_iff {start : Epoch} {opening : Action} {turn : Action}
    (starts : s.Starts start opening) (plain : ∀ w, opening ≠ .resetAndQuery (some w))
    (lasting : (s.act start opening).Lasting steps)
    (turns : ((s.act start opening).run steps).Turns fresh turn ticket) :
    ticket.epoch = start ∧
      ((∀ position, 1 ≤ position → position < ticket.window.first.toNat →
          ∃ w ∈ ((s.act start opening).run steps).windowsSince s.wire.size, w.Covers position) ↔
        (s.act start opening).Tight (steps ++ [(fresh, turn)])) := by
  obtain ⟨wellFormed, window, epoch, -⟩ := turns.eq
  have newest : (s.act start opening).epoch? = some start := by
    rw [Session.epoch?, starts.epochs]
    rfl
  constructor
  · rw [epoch, lasting.epoch? newest]
    rfl
  · have trailing := (starts.trailing plain).run lasting
    rw [window, tight_snoc_of_turns turns, ← trailing.covered]
    exact trailing.trail.coverBelow_following_iff wellFormed

/-- Of a page of three positions the backend has one row and a peer another, and the next page
starts behind them. -/
theorem earlier_positions_asked_before_third :
    let settings : Settings := ⟨4, .dropIncoming, true, 256, .default⟩
    let row (hash : String) : Json := .object [("infohash", .text hash)]
    let page (hash : String) : Json := .object [("results", .array [row hash])]
    let s := initial (.search none) settings
    let t := (s.act ⟨1#128⟩ (.resetAndQuery none)).run
      [(⟨2#128⟩, .answer 0 (.ok (page "a"))), (⟨3#128⟩, .push (page "b")),
        (⟨4#128⟩, .processPending)]
    ∃ ticket, t.Turns ⟨5#128⟩ .continueQuery ticket ∧ ticket.epoch = ⟨1#128⟩ ∧
      ticket.window = ⟨3, 6⟩ ∧ ∀ position, 1 ≤ position → position < ticket.window.first.toNat →
        ∃ w ∈ t.windowsSince s.wire.size, w.Covers position := by
  intro settings row page s t
  let start : Epoch := ⟨1#128⟩
  let steps : List (Epoch × Action) := [(⟨2#128⟩, .answer 0 (.ok (page "a"))),
    (⟨3#128⟩, .push (page "b")), (⟨4#128⟩, .processPending)]
  have lasting : (s.act start (.resetAndQuery none)).Lasting steps :=
    .of_forall (by simp [steps, demand?]) (by simp [steps])
  obtain ⟨ticket, turns, window⟩ : ∃ ticket, t.Turns ⟨5#128⟩ .continueQuery ticket ∧
      ticket.window = Window.following t.rows.size t.settings.batchSize :=
    exists_turns (by decide +kernel) (by decide +kernel)
  obtain ⟨epoch, asked⟩ := earlier_positions_asked_iff
    (.resetAndQuery rfl : s.Starts start (.resetAndQuery none)) (by simp) lasting turns
  have before : (s.act start (.resetAndQuery none)).Tight steps := by
    intro before fresh action ticket after split turned
    have member : (fresh, action) ∈ steps := by simp [split]
    cases turned <;> simp [steps] at member
  have now : t.rows.size < t.window.last.toNat := by decide +kernel
  refine ⟨ticket, turns, epoch, ?_, asked.mpr (tight_snoc.mpr ⟨before, fun _ _ => now⟩)⟩
  rw [window]
  decide +kernel

/-- After the first page has landed a peer pushes a row. The next page starts behind it, and the
second position is never asked for. -/
theorem peers_rows_skip_positions :
    ¬ ∀ (settings : Settings) (s : Session) (start : Epoch) (steps : List (Epoch × Action))
      (fresh : Epoch) (ticket : Ticket), begin (.search none) settings = .opened s →
      (s.act start (.resetAndQuery none)).Lasting steps →
      ((s.act start (.resetAndQuery none)).run steps).Turns fresh .continueQuery ticket →
      ∀ position, 1 ≤ position → position < ticket.window.first.toNat →
        ∃ w ∈ ((s.act start (.resetAndQuery none)).run steps).windowsSince s.wire.size,
          w.Covers position := by
  intro asked
  let settings : Settings := ⟨2, .dropIncoming, true, 256, .default⟩
  let start : Epoch := ⟨1#128⟩
  let row (hash : String) : Json := .object [("infohash", .text hash)]
  let page (hash : String) : Json := .object [("results", .array [row hash])]
  let pushed : Json := .object [("results", .array [row "b"]), ("uuid", .text start.token)]
  let s := initial (.search none) settings
  let steps : List (Epoch × Action) := [(⟨2#128⟩, .answer 0 (.ok (page "a"))),
    (⟨3#128⟩, .processNext), (⟨4#128⟩, .push pushed), (⟨5#128⟩, .processNext)]
  let t := (s.act start (.resetAndQuery none)).run steps
  have opening : begin (.search none) settings = .opened s :=
    begin_of_room _ (by decide +kernel) (by decide +kernel)
  have lasting : (s.act start (.resetAndQuery none)).Lasting steps :=
    .of_forall (by simp [steps, demand?]) (by simp [steps])
  obtain ⟨ticket, turns, window⟩ : ∃ ticket, t.Turns ⟨6#128⟩ .continueQuery ticket ∧
      ticket.window = Window.following t.rows.size t.settings.batchSize :=
    exists_turns (by decide +kernel) (by decide +kernel)
  have behind : 2 < ticket.window.first.toNat := by
    rw [window]
    decide +kernel
  have windows : t.windowsSince s.wire.size = [⟨1, 2⟩] := by decide +kernel
  obtain ⟨w, member, covers⟩ := asked settings s start steps ⟨6#128⟩ ticket opening lasting turns
    2 (by decide) behind
  have only : w = ⟨1, 2⟩ := List.mem_singleton.mp (windows ▸ member)
  rw [only] at covers
  exact absurd covers.2 (by decide)

end Session

end LiveTable
