import LiveTable.Proofs.Session.Bounds
import LiveTable.Settings.Document
set_option autoImplicit false

/-!
# Opening a session

A session is opened with settings that pass. Settings pass if their first page is well formed, there
is room for an event, and there is a column to sort by; settings that come of a text or a file have
passed. Nothing is asked about the other end of the room for events, although no buffer can be made
for more than half of the largest word, nor for more slots than there is memory for. What can be
allocated is left open: `begin` is told of it. Main statement: `opening_is_decided`.
-/

namespace LiveTable

private theorem Subscription.largestCapacity_eq : largestCapacity = (UInt64.size - 1) / 2 := rfl

namespace Settings

variable {s : Settings}

theorem validate_eq_ok_iff :
    s.validate = .ok () ↔ (Window.firstPage s.batchSize).WellFormed ∧ 1 ≤ s.eventCapacity.toNat ∧
      Text.isBlankText s.defaultSort.column = false := by
  have page : (Window.firstPage s.batchSize).WellFormed ↔ 2 ≤ s.batchSize := by
    rw [Window.firstPage, Window.wellFormed_following_iff, and_iff_left (Nat.zero_le _)]
  have room : 1 ≤ s.eventCapacity.toNat ↔ s.eventCapacity ≠ 0 := by
    rw [ne_eq, ← UInt64.toNat_inj, UInt64.toNat_zero, Nat.one_le_iff_ne_zero]
  rw [page, room, ← UInt32.not_lt, validate]
  split_ifs <;> simp_all

private theorem validate_of_ofText {text : String} (read : ofText text = .ok s) :
    s.validate = .ok () := by
  unfold ofText at read
  split at read
  · cases read
  · rename_i settings _
    cases passes : settings.validate with
    | error failure => simp [passes, Except.map] at read
    | ok =>
      simp only [passes, Except.map, Except.ok.injEq] at read
      rw [← read, passes]

private theorem validate_of_ofFile {file : Option ByteArray} (read : ofFile file = .ok s) :
    s.validate = .ok () := by
  unfold ofFile at read
  split at read
  · cases read
  · split at read
    · cases read
    · exact validate_of_ofText read

end Settings

namespace Session

variable {target : Target} {settings : Settings} {allocates : Nat → Bool}

private theorem begin_eq_refused_iff {failure : Failure} :
    begin target settings allocates = .refused failure ↔ settings.validate = .error failure := by
  unfold begin
  split <;> rename_i validated
  · simp [validated]
  · split <;> simp [validated]

private theorem begin_of_validate (passes : settings.validate = .ok ()) :
    begin target settings allocates =
      if settings.eventCapacity.toNat ≤ Subscription.largestCapacity ∧
          allocates (Subscription.bufferSize settings.eventCapacity.toNat) then
        .opened (initial target settings)
      else .bufferTooLarge := by
  unfold begin
  rw [passes]

/-- Settings pass exactly if their first page is well formed and there is room for an event and a
column to sort by; those of a text or a file always pass. A session is refused exactly for settings
that do not pass, with what is wrong with them. With settings that pass it is opened exactly if the
room for events does not go beyond half of the largest word and the slots that it is rounded up to
can be allocated; otherwise there is no buffer. -/
theorem opening_is_decided (target : Target) (settings : Settings) (allocates : Nat → Bool) :
    (∀ text, Settings.ofText text = .ok settings → settings.validate = .ok ()) ∧
    (∀ file, Settings.ofFile file = .ok settings → settings.validate = .ok ()) ∧
    (settings.validate = .ok () ↔
      (Window.firstPage settings.batchSize).WellFormed ∧ 1 ≤ settings.eventCapacity.toNat ∧
        Text.isBlankText settings.defaultSort.column = false) ∧
    (∀ failure, begin target settings allocates = .refused failure ↔
      settings.validate = .error failure) ∧
    (settings.validate = .ok () →
      (begin target settings allocates = .opened (initial target settings) ↔
        settings.eventCapacity.toNat ≤ (UInt64.size - 1) / 2 ∧
          allocates settings.eventCapacity.toNat.nextPowerOfTwo = true) ∧
      (begin target settings allocates = .bufferTooLarge ↔
        (UInt64.size - 1) / 2 < settings.eventCapacity.toNat ∨
          allocates settings.eventCapacity.toNat.nextPowerOfTwo = false)) := by
  refine ⟨fun _ => Settings.validate_of_ofText, fun _ => Settings.validate_of_ofFile,
    Settings.validate_eq_ok_iff, fun _ => begin_eq_refused_iff, ?_⟩
  intro passes
  rw [begin_of_validate passes, ← Subscription.largestCapacity_eq, Subscription.bufferSize,
    ← Nat.not_le, ← Bool.not_eq_true, ← not_and_or]
  split_ifs with room <;> simp [room]

/-- With room for a thousand events a session is opened. Room for the most events that may be asked
for has no addresses, and for one more there is no buffer whatever can be allocated. -/
theorem opening_is_decided_of_thousand :
    let text := "batchSize: 4294967295\neventCapacity: 1000\n"
    let settings : Settings := ⟨4294967295, .dropIncoming, true, 1000, .default⟩
    let target : Target := .search none
    (Settings.ofText text = .ok settings ∧ Settings.ofFile (some text.toUTF8) = .ok settings ∧
      settings.validate = .ok () ∧ (Window.firstPage settings.batchSize).WellFormed ∧
      begin target settings = .opened (initial target settings)) ∧
    begin target { settings with eventCapacity := 9223372036854775807 } = .bufferTooLarge ∧
    begin target { settings with eventCapacity := 9223372036854775808 } (fun _ => true) =
      .bufferTooLarge ∧
    begin target { settings with batchSize := 1 } = .refused (.config (.batchTooSmall 1)) := by
  intro text settings target
  obtain ⟨texts, files, checked, -, opens⟩ :=
    opening_is_decided target settings Subscription.addressable
  have read : Settings.ofText text = .ok settings := by decide +kernel
  have stored : Settings.ofFile (some text.toUTF8) = .ok settings := by decide +kernel
  have passes : settings.validate = .ok () := texts text read
  refine ⟨⟨read, stored, files _ stored, (checked.mp passes).1, ?_⟩, ?_, ?_, ?_⟩
  · exact (opens passes).1.mpr (by decide +kernel)
  · obtain ⟨-, -, -, -, opens⟩ := opening_is_decided target
      { settings with eventCapacity := 9223372036854775807 } Subscription.addressable
    exact (opens (by decide +kernel)).2.mpr (.inr (by decide +kernel))
  · obtain ⟨-, -, -, -, opens⟩ := opening_is_decided target
      { settings with eventCapacity := 9223372036854775808 } (fun _ => true)
    exact (opens (by decide +kernel)).2.mpr (.inl (by decide +kernel))
  · obtain ⟨-, -, -, refused, -⟩ := opening_is_decided target { settings with batchSize := 1 }
      Subscription.addressable
    exact (refused _).mpr (by decide +kernel)

/-- Whatever can be allocated, settings pass that ask for a buffer larger than any that can be
made. -/
theorem not_all_passing_settings_open : ¬ ∃ allocates : Nat → Bool,
    ∀ (target : Target) (settings : Settings), settings.validate = .ok () →
      ∃ s, begin target settings allocates = .opened s := by
  rintro ⟨allocates, opens⟩
  let settings : Settings := ⟨50, .dropIncoming, true, 9223372036854775808, .default⟩
  have passes : settings.validate = .ok () := by decide +kernel
  obtain ⟨s, opened⟩ := opens (.search none) settings passes
  obtain ⟨-, ⟨small, -⟩, -⟩ := begin_eq_opened_iff.mp opened
  exact absurd small (by decide)

end Session

end LiveTable
