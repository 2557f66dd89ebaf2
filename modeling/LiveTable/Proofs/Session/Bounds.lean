import LiveTable.Proofs.Session.Ticket
import LiveTable.Proofs.Window.Coverage
set_option autoImplicit false

/-!
# Bounds of pages

Row numbers end, and settings that pass ask for at least two rows at once. So the page behind the
loaded rows is well formed up to the last row but two and starts right behind them, and whatever
window a session has or asks for is well formed. Main statement: `page_windows_never_wrap`.
-/

namespace LiveTable

namespace Window

variable {loaded : Nat} {batch : UInt32}

theorem wellFormed_following_iff :
    (following loaded batch).WellFormed ↔ 2 ≤ batch ∧ loaded ≤ 2 ^ 32 - 3 := by
  have first := toNat_first_following loaded batch
  have last := toNat_last_following loaded batch
  have two : 2 ≤ batch ↔ 2 ≤ batch.toNat := UInt32.le_iff_toNat_le
  have positive : 1 ≤ (following loaded batch).first ↔
      1 ≤ (following loaded batch).first.toNat := UInt32.le_iff_toNat_le
  have width : (following loaded batch).first < (following loaded batch).last ↔
      (following loaded batch).first.toNat < (following loaded batch).last.toNat :=
    UInt32.lt_iff_toNat_lt
  rw [WellFormed, two, positive, width, first, last, UInt32.size]
  omega

private theorem first_following_of_full (wellFormed : (following loaded batch).WellFormed) :
    let w := following loaded batch
    (following (loaded + (w.last.toNat - w.first.toNat)) batch).first = w.last := by
  intro w
  -- The first row of a well-formed page is exact; the last one may be cut off.
  have first := wellFormed.following.1
  have last := toNat_last_following loaded batch
  have width := UInt32.lt_iff_toNat_lt.mp wellFormed.2
  apply UInt32.toNat_inj.mp
  rw [toNat_first_following]
  simp only [w, first, last, UInt32.size] at width ⊢
  omega

end Window

namespace Session

variable {s t : Session} {fresh : Epoch} {action : Action}

private theorem Reachable.two_le_batchSize (reachable : Reachable s) :
    2 ≤ s.settings.batchSize := by
  have passes := reachable.validate_settings
  unfold Settings.validate at passes
  split at passes
  · cases passes
  · rename_i large
    exact UInt32.not_lt.mp large

private theorem wellFormed_firstPage {batch : UInt32} (two : 2 ≤ batch) :
    (Window.firstPage batch).WellFormed :=
  Window.wellFormed_following_iff.mpr ⟨two, Nat.zero_le _⟩

theorem wellFormed_window_of_step (two : 2 ≤ s.settings.batchSize)
    (wellFormed : s.window.WellFormed) (step : Step s fresh action t) : t.window.WellFormed := by
  cases step with
  | @listing _ _ _ window _ given =>
    cases window with
    | none => exact wellFormed_firstPage two
    | some w => exact given w rfl
  | preview => exact wellFormed_firstPage two
  | turn _ _ _ next => exact next
  | respond =>
    rw [(s.sameQueries_absorb _ _).window]
    exact wellFormed
  | @process _ messages rest =>
    rw [(sameQueries_handleAll { s with inbox := rest } messages).window]
    exact wellFormed
  | _ => exact wellFormed

private theorem Reachable.wellFormed_window (reachable : Reachable s) : s.window.WellFormed := by
  induction reachable with
  | @opened target settings allocates s opening =>
    have two := (Reachable.opened opening).two_le_batchSize
    rw [begin_eq_opened opening] at two ⊢
    exact wellFormed_firstPage two
  | @act s fresh action earlier ih =>
    exact wellFormed_window_of_step earlier.two_le_batchSize ih (s.step fresh action)

private theorem continueQuery_of_loaded (reachable : Reachable s) (fresh : Epoch)
    (loaded : s.rows.isEmpty = false) :
    (2 ^ 32 - 3 < s.rows.size → ∃ failure, (s.continueQuery fresh).2 = .error failure) ∧
    (s.rows.size ≤ 2 ^ 32 - 3 → ∃ ticket, (s.continueQuery fresh).2 = .ok (some ticket)) := by
  have two := reachable.two_le_batchSize
  have asks : (s.continueQuery fresh).2 =
      (Window.following s.rows.size s.settings.batchSize).checked.bind fun w =>
        ({ s with window := w }.query fresh []).2.map some := by
    simp only [continueQuery, loaded]
    cases (Window.following s.rows.size s.settings.batchSize).checked <;> rfl
  rw [asks]
  constructor
  · intro many
    have ill : ¬ (Window.following s.rows.size s.settings.batchSize).WellFormed := by
      intro wellFormed
      have few := (Window.wellFormed_following_iff.mp wellFormed).2
      omega
    rw [checked_eq_error.mpr ⟨ill, rfl⟩]
    exact ⟨_, rfl⟩
  · intro few
    have wellFormed := Window.wellFormed_following_iff.mpr ⟨two, few⟩
    rw [checked_eq_ok.mpr ⟨rfl, wellFormed⟩]
    exact ⟨_, rfl⟩

structure Turned (s next : Session) (ticket : Ticket) : Prop where
  window : ticket.window = Window.following s.rows.size s.settings.batchSize
  first : ticket.window.first.toNat = s.rows.size + 1
  asked : Fields.get? "first" ticket.request.params = some (Json.ofWord32 ticket.window.first)
  sent : next.wire = s.wire.push ticket.request
  epoch : ∀ epoch, s.epoch? = some epoch → ticket.epoch = epoch ∧ next.epoch? = some epoch

private theorem turned_of_continueQuery {ticket : Ticket}
    (done : (s.continueQuery fresh).2 = .ok (some ticket)) :
    s.Turned (s.act fresh .continueQuery) ticket := by
  obtain ⟨wellFormed, window, epoch, -⟩ := continueQuery_eq_some done
  have replied : s.reply? fresh .continueQuery = some (.ok (some ticket)) := congrArg some done
  have sent := matches_of_reply? replied
  refine ⟨window, ?_, ?_, sent.wire, ?_⟩
  · rw [window]
    exact wellFormed.following.1
  · have apart : "first" ∉ ["metadata_type", "subscribed", "exclude_deleted"] := by decide
    rw [sent.params, get?_targetExtra _ _ apart, ← sent.window]
    rfl
  · intro current newest
    have same : ticket.epoch = current := by rw [epoch, newest, Option.getD_some]
    exact ⟨same, same ▸ sent.epoch⟩

/-- The page behind some rows is well formed exactly if the settings ask for two rows or more and
the rows end before the last row number but two; it then starts right behind them and is cut off at
the last row number. Once it has come in full, the next one starts where it ends. In a reachable
session no other windows occur than well-formed ones, and turning the page fails for lack of row
numbers only. -/
theorem page_windows_never_wrap (s : Session) (reachable : Reachable s) (fresh : Epoch) :
    (∀ (loaded : Nat) (batch : UInt32),
      (2 ≤ batch → loaded ≤ 2 ^ 32 - 3 → ∃ w, (Window.following loaded batch).checked = .ok w ∧
        w.first.toNat = loaded + 1 ∧ w.last.toNat = min (loaded + batch.toNat) (2 ^ 32 - 1)) ∧
      (batch < 2 ∨ 2 ^ 32 - 3 < loaded →
        ∃ failure, (Window.following loaded batch).checked = .error failure) ∧
      ∀ w, (Window.following loaded batch).checked = .ok w →
        (Window.following (loaded + (w.last.toNat - w.first.toNat)) batch).first = w.last) ∧
    s.window.WellFormed ∧
    (∀ action ticket, s.reply? fresh action = some (.ok (some ticket)) →
      ticket.window.WellFormed) ∧
    (s.rows.isEmpty = false →
      ((∃ failure, (s.continueQuery fresh).2 = .error failure) ↔ 2 ^ 32 - 3 < s.rows.size) ∧
      (s.rows.size ≤ 2 ^ 32 - 3 → ∃ ticket, (s.continueQuery fresh).2 = .ok (some ticket) ∧
        s.Turned (s.act fresh .continueQuery) ticket)) := by
  refine ⟨?_, reachable.wellFormed_window, ?_, ?_⟩
  · intro loaded batch
    refine ⟨?_, ?_, ?_⟩
    · intro two few
      have wellFormed := Window.wellFormed_following_iff.mpr ⟨two, few⟩
      exact ⟨_, checked_eq_ok.mpr ⟨rfl, wellFormed⟩, wellFormed.following.1,
        Window.toNat_last_following loaded batch⟩
    · intro outside
      have ill : ¬ (Window.following loaded batch).WellFormed := by
        intro wellFormed
        obtain ⟨two, few⟩ := Window.wellFormed_following_iff.mp wellFormed
        rcases outside with small | many
        · exact UInt32.not_lt.mpr two small
        · omega
      exact ⟨_, checked_eq_error.mpr ⟨ill, rfl⟩⟩
    · intro w passed
      obtain ⟨rfl, wellFormed⟩ := checked_eq_ok.mp passed
      exact Window.first_following_of_full wellFormed
  · intro action ticket granted
    rw [← (matches_of_reply? granted).window]
    exact (reachable.act fresh action).wellFormed_window
  · intro loaded
    obtain ⟨fails, turns⟩ := continueQuery_of_loaded reachable fresh loaded
    refine ⟨⟨?_, fails⟩, ?_⟩
    · rintro ⟨failure, failed⟩
      by_contra few
      obtain ⟨ticket, done⟩ := turns (Nat.le_of_not_lt few)
      rw [done] at failed
      cases failed
    · intro few
      obtain ⟨ticket, done⟩ := turns few
      exact ⟨ticket, done, turned_of_continueQuery done⟩

theorem page_windows_never_wrap_after_first_page :
    let row (hash : String) : Json := .object [("infohash", .text hash)]
    let v : Json := .object [("results", .array [row "a", row "b"])]
    let s := (initial (.search none) ⟨3, .dropIncoming, true, 256, .default⟩).run
      [(⟨1#128⟩, .refresh), (⟨2#128⟩, .answer 0 (.ok v)), (⟨3#128⟩, .processNext)]
    s.rows.size = 2 ∧ s.window = ⟨1, 3⟩ ∧ s.window.WellFormed ∧
      ∃ ticket, (s.continueQuery ⟨4#128⟩).2 = .ok (some ticket) ∧
        s.Turned (s.act ⟨4#128⟩ .continueQuery) ticket ∧ ticket.window.WellFormed ∧
        ticket.window.first = s.window.last := by
  intro row v s
  have opened : Reachable (initial (.search none) ⟨3, .dropIncoming, true, 256, .default⟩) :=
    .opened (begin_of_room _ rfl (by decide +kernel))
  obtain ⟨pages, wellFormed, tickets, turning⟩ :=
    page_windows_never_wrap s (opened.run _) ⟨4#128⟩
  have size : s.rows.size = 2 := by decide +kernel
  have window : s.window = ⟨1, 3⟩ := by decide +kernel
  have few : s.rows.size ≤ 2 ^ 32 - 3 := by simp [size]
  obtain ⟨ticket, done, turned⟩ := (turning (by decide +kernel)).2 few
  have granted : s.reply? ⟨4#128⟩ .continueQuery = some (.ok (some ticket)) := congrArg some done
  have full : (Window.following 2 3).first = 3 := (pages 0 3).2.2 ⟨1, 3⟩ rfl
  refine ⟨size, window, wellFormed, ticket, done, turned, tickets _ ticket granted, ?_⟩
  rw [turned.window, window, size]
  exact full

end Session

end LiveTable
