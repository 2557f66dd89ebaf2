import LiveTable.Window
set_option autoImplicit false

/-!
# Positions in windows

Which positions of a listing lie in the windows of pages that were asked for one after the other.
`Trail` holds of such windows with the last of them. Main statement:
`Trail.coverBelow_following_iff`, by which the page after the loaded rows leaves no position out
exactly if the last page did not and the rows have not gone beyond it.
-/

namespace LiveTable

namespace Window

def Covers (w : Window) (position : Nat) : Prop :=
  w.first.toNat ≤ position ∧ position < w.last.toNat

/-- Every position before a bound lies in one of some windows. -/
def CoverBelow (windows : List Window) (bound : Nat) : Prop :=
  ∀ position, 1 ≤ position → position < bound → ∃ w ∈ windows, w.Covers position

variable {windows : List Window} {current w : Window} {batch : UInt32} {loaded bound : Nat}

theorem CoverBelow.append_of_mem (asked : w ∈ windows) :
    CoverBelow (windows ++ [w]) bound ↔ CoverBelow windows bound := by
  have same : ∀ other, other ∈ windows ++ [w] ↔ other ∈ windows := by
    intro other
    constructor
    · intro member
      rcases List.mem_append.mp member with older | newer
      · exact older
      · rw [List.mem_singleton.mp newer]
        exact asked
    · exact List.mem_append_left _
  simp only [CoverBelow, same]

theorem CoverBelow.append_of_le (behind : bound ≤ w.first.toNat) :
    CoverBelow (windows ++ [w]) bound ↔ CoverBelow windows bound := by
  constructor
  · intro covered position positive before
    obtain ⟨other, member, covers⟩ := covered position positive before
    rcases List.mem_append.mp member with older | newer
    · exact ⟨other, older, covers⟩
    · rw [List.mem_singleton.mp newer] at covers
      have reached := covers.1
      omega
  · intro covered position positive before
    obtain ⟨other, member, covers⟩ := covered position positive before
    exact ⟨other, List.mem_append_left _ member, covers⟩

theorem toNat_first_following (loaded : Nat) (batch : UInt32) :
    (following loaded batch).first.toNat = min (loaded + 1) (UInt32.size - 1) :=
  toNat_rowNumber _

theorem toNat_last_following (loaded : Nat) (batch : UInt32) :
    (following loaded batch).last.toNat = min (loaded + batch.toNat) (UInt32.size - 1) :=
  toNat_rowNumber _

theorem WellFormed.following (wellFormed : (following loaded batch).WellFormed) :
    (following loaded batch).first.toNat = loaded + 1 ∧ 2 ≤ batch.toNat := by
  have width := UInt32.lt_iff_toNat_lt.mp wellFormed.2
  rw [toNat_first_following, toNat_last_following] at width
  rw [toNat_first_following]
  omega

/-- Windows of pages that were asked for one after the other, each behind the rows that were loaded
by then; the last one is the current one. -/
structure Trail (windows : List Window) (current : Window) (batch : UInt32) (loaded : Nat) :
    Prop where
  page : ∃ earlier ≤ loaded, current = following earlier batch
  asked : current ∈ windows
  farthest : ∀ w ∈ windows, w.last.toNat ≤ current.last.toNat

namespace Trail

theorem first (batch : UInt32) : Trail [firstPage batch] (firstPage batch) batch 0 := by
  refine ⟨⟨0, Nat.le_refl 0, rfl⟩, List.mem_singleton_self _, ?_⟩
  intro w member
  obtain rfl := List.mem_singleton.mp member
  exact Nat.le_refl _

theorem mono (trail : Trail windows current batch loaded) {more : Nat} (grown : loaded ≤ more) :
    Trail windows current batch more := by
  obtain ⟨earlier, before, same⟩ := trail.page
  exact ⟨⟨earlier, Nat.le_trans before grown, same⟩, trail.asked, trail.farthest⟩

theorem again (trail : Trail windows current batch loaded) :
    Trail (windows ++ [current]) current batch loaded := by
  refine ⟨trail.page, List.mem_append_left _ trail.asked, ?_⟩
  intro w member
  rcases List.mem_append.mp member with older | newer
  · exact trail.farthest w older
  · obtain rfl := List.mem_singleton.mp newer
    exact Nat.le_refl _

theorem turn (trail : Trail windows current batch loaded) :
    Trail (windows ++ [following loaded batch]) (following loaded batch) batch loaded := by
  refine ⟨⟨loaded, Nat.le_refl _, rfl⟩, by simp, ?_⟩
  intro w member
  rcases List.mem_append.mp member with older | newer
  · obtain ⟨earlier, before, rfl⟩ := trail.page
    have within := trail.farthest w older
    rw [toNat_last_following] at within ⊢
    omega
  · obtain rfl := List.mem_singleton.mp newer
    exact Nat.le_refl _

/-- All positions before the page after the loaded rows have been asked for exactly if those before
the current page have been, and the current page reaches beyond the loaded rows. -/
theorem coverBelow_following_iff (trail : Trail windows current batch loaded)
    (wellFormed : (following loaded batch).WellFormed) :
    CoverBelow windows (following loaded batch).first.toNat ↔
      CoverBelow windows current.first.toNat ∧ loaded < current.last.toNat := by
  obtain ⟨behind, width⟩ := wellFormed.following
  obtain ⟨earlier, before, same⟩ := trail.page
  have starts : current.first.toNat ≤ loaded + 1 := by
    rw [same, toNat_first_following]
    omega
  have ends : 1 ≤ current.last.toNat := by
    rw [same, toNat_last_following, UInt32.size]
    omega
  rw [behind]
  constructor
  · intro covered
    refine ⟨fun position positive below => covered position positive (by omega), ?_⟩
    -- Otherwise the position at the end of the current page is one that no window reaches.
    refine Nat.lt_of_not_le fun beyond => ?_
    obtain ⟨w, member, covers⟩ := covered current.last.toNat ends (by omega)
    have within := trail.farthest w member
    have reached := covers.2
    omega
  · rintro ⟨covered, reached⟩ position positive below
    by_cases earlier : position < current.first.toNat
    · exact covered position positive earlier
    · exact ⟨current, trail.asked, by omega, by omega⟩

end Trail

end Window

end LiveTable
