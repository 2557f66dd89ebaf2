import LiveTable.Proofs.Epoch.Token
import LiveTable.Text.Blank
set_option autoImplicit false

/-!
# Layouts

An epoch recognises its digits in the four layouts and nothing else. Digits and the scheme are read
in letters of either case, so that a text is compared in small letters: `Spells` says that a text is
an epoch in a layout, and `matchesToken_iff` that an epoch recognises what spells it. The layouts
differ in length by more than one character and have their hyphens at fixed places, see
`length_write` and `hyphens_write`. Main statement: `matchesToken_is_exact`.
-/

namespace LiveTable

namespace Epoch

variable {cs digits : List Char}

/-! ## Groups -/

private theorem hyphenate_groups {a b c d e : List Char} (ha : a.length = 8) (hb : b.length = 4)
    (hc : c.length = 4) (hd : d.length = 4) :
    hyphenate (a ++ b ++ c ++ d ++ e) = a ++ '-' :: b ++ '-' :: c ++ '-' :: d ++ '-' :: e := by
  simp (disch := omega) [hyphenate, List.drop_append, List.drop_of_length_le, ha, hb, hc]

private theorem unhyphenate?_groups {a b c d e : List Char} (ha : a.length = 8) (hb : b.length = 4)
    (hc : c.length = 4) (hd : d.length = 4) (he : e.length = 12) :
    unhyphenate? (a ++ '-' :: b ++ '-' :: c ++ '-' :: d ++ '-' :: e) =
      some (a ++ b ++ c ++ d ++ e) := by
  rw [unhyphenate?, if_pos]
  · simp (disch := omega) [List.drop_append, List.drop_of_length_le, ha, hb, hc, hd]
  · refine ⟨by simp [ha, hb, hc, hd, he], ?_, ?_, ?_, ?_⟩ <;>
      simp (disch := omega) [List.getElem?_append_right, List.getElem?_cons_zero, ha, hb, hc, hd]

private theorem drop_eq_group (start count : Nat) {c : Char} (held : cs[start + count]? = some c) :
    cs.drop start = (cs.drop start).take count ++ c :: cs.drop (start + count + 1) := by
  obtain ⟨inside, rfl⟩ := List.getElem?_eq_some_iff.mp held
  rw [← List.drop_eq_getElem_cons inside, ← List.drop_drop, List.take_append_drop]

theorem unhyphenate?_eq_some_iff :
    unhyphenate? cs = some digits ↔ digits.length = 32 ∧ cs = hyphenate digits := by
  constructor
  · intro read
    unfold unhyphenate? at read
    split at read
    · rename_i shape
      obtain ⟨length, first, second, third, fourth⟩ := shape
      have groups := drop_eq_group 0 8 first
      rw [drop_eq_group 9 4 second, drop_eq_group 14 4 third, drop_eq_group 19 4 fourth] at groups
      cases read
      rw [hyphenate_groups]
      · constructor
        · simp [length]
        · simpa using groups
      all_goals simp [length]
    · cases read
  · rintro ⟨length, rfl⟩
    have groups : digits = digits.take 8 ++ (digits.drop 8).take 4 ++ (digits.drop 12).take 4 ++
        (digits.drop 16).take 4 ++ digits.drop 20 := by
      have rest (start count : Nat) :
          digits.drop start = (digits.drop start).take count ++ digits.drop (start + count) := by
        rw [← List.drop_drop, List.take_append_drop]
      conv_lhs => rw [← List.take_append_drop 8 digits, rest 8 4, rest 12 4, rest 16 4]
      simp
    rw [groups, hyphenate_groups, unhyphenate?_groups]
    all_goals simp [length]

/-! ## Letter case -/

private theorem unhyphenate?_map_toLower (cs : List Char) :
    unhyphenate? (cs.map Char.toLower) = (unhyphenate? cs).map (List.map Char.toLower) := by
  have hyphen (i : Nat) : (cs.map Char.toLower)[i]? = some '-' ↔ cs[i]? = some '-' := by
    simp [Text.toLower_eq_iff]
  unfold unhyphenate?
  simp only [hyphen, List.length_map]
  split <;> simp

theorem map_toLower_hyphenate (digits : List Char) :
    (hyphenate digits).map Char.toLower = hyphenate (digits.map Char.toLower) := by
  have hyphen : '-'.toLower = '-' := by decide
  simp [hyphenate, hyphen]

private theorem map_toLower_write (layout : Layout) (digits : List Char) :
    (layout.write digits).map Char.toLower = layout.write (digits.map Char.toLower) := by
  have braces : '\x7b'.toLower = '\x7b' ∧ '\x7d'.toLower = '\x7d' := by decide
  have small : scheme.map Char.toLower = scheme := by decide
  cases layout <;> simp [Layout.write, map_toLower_hyphenate, braces, small]

/-! ## Layouts -/

theorem unbrace?_eq_some_iff {inner : List Char} :
    unbrace? cs = some inner ↔ cs = '\x7b' :: inner ++ ['\x7d'] := by
  unfold unbrace?
  split
  · rename_i rest
    split
    · rename_i closed
      obtain ⟨start, rfl⟩ := List.getLast?_eq_some_iff.mp closed
      simp
    · rename_i unclosed
      simp only [reduceCtorEq, List.cons_append, List.cons.injEq, true_and, false_iff]
      rintro rfl
      simp at unclosed
  · rename_i other
    simp only [reduceCtorEq, List.cons_append, false_iff]
    rintro rfl
    exact other _ rfl

theorem unscheme?_eq_some_iff {rest : List Char} :
    unscheme? cs = some rest ↔ ∃ front, front.map Char.toLower = scheme ∧ cs = front ++ rest := by
  unfold unscheme?
  constructor
  · intro read
    split at read
    · cases read
      exact ⟨_, by assumption, (List.take_append_drop _ _).symm⟩
    · cases read
  · rintro ⟨front, small, rfl⟩
    have length : front.length = scheme.length := by rw [← small, List.length_map]
    simp [← length, small]

private theorem length_scheme : scheme.length = 9 := rfl

private theorem length_hyphenate (length : digits.length = 32) :
    (hyphenate digits).length = 36 := by
  simp [hyphenate, length]

private theorem exists_layout_of_digits? (read : digits? cs = some digits) :
    digits.length = 32 ∧
      ∃ layout : Layout, cs.map Char.toLower = layout.write (digits.map Char.toLower) := by
  unfold digits? at read
  split at read
  · cases read
    exact ⟨by assumption, .plain, rfl⟩
  · obtain ⟨length, rfl⟩ := unhyphenate?_eq_some_iff.mp read
    exact ⟨length, .hyphenated, map_toLower_write .hyphenated digits⟩
  · obtain ⟨inner, braced, hyphened⟩ := Option.bind_eq_some_iff.mp read
    obtain ⟨length, rfl⟩ := unhyphenate?_eq_some_iff.mp hyphened
    obtain rfl := unbrace?_eq_some_iff.mp braced
    exact ⟨length, .braced, map_toLower_write .braced digits⟩
  · obtain ⟨rest, named, hyphened⟩ := Option.bind_eq_some_iff.mp read
    obtain ⟨length, rfl⟩ := unhyphenate?_eq_some_iff.mp hyphened
    obtain ⟨front, small, rfl⟩ := unscheme?_eq_some_iff.mp named
    refine ⟨length, .resourceName, ?_⟩
    rw [List.map_append, small, map_toLower_hyphenate]
    rfl
  · cases read

private theorem exists_digits?_of_layout {layout : Layout} (length : digits.length = 32)
    (laid : cs.map Char.toLower = layout.write digits) :
    ∃ given, digits? cs = some given ∧ given.map Char.toLower = digits := by
  have size (cs : List Char) (same : cs.map Char.toLower = hyphenate digits) : cs.length = 36 := by
    rw [← length_hyphenate length, ← same, List.length_map]
  -- Hyphens have no case, so they can be taken out before letters are made small.
  have grouped (cs : List Char) (same : cs.map Char.toLower = hyphenate digits) :
      ∃ given, unhyphenate? cs = some given ∧ given.map Char.toLower = digits := by
    apply Option.map_eq_some_iff.mp
    rw [← unhyphenate?_map_toLower, same, unhyphenate?_eq_some_iff]
    exact ⟨length, rfl⟩
  cases layout with
  | plain =>
    have short : cs.length = 32 := by rw [← length, ← List.length_map, laid, Layout.write]
    exact ⟨cs, by simp [digits?, short], laid⟩
  | hyphenated =>
    obtain ⟨given, read, small⟩ := grouped cs laid
    exact ⟨given, by simp [digits?, size cs laid, read], small⟩
  | braced =>
    obtain ⟨front, back, rfl, opened, closed⟩ := List.map_eq_append_iff.mp laid
    obtain ⟨c, inner, rfl, left, same⟩ := List.map_eq_cons_iff.mp opened
    obtain ⟨d, rfl, right⟩ := List.map_eq_singleton_iff.mp closed
    obtain rfl : c = '\x7b' := (Text.toLower_eq_iff (.inr (by decide))).mp left
    obtain rfl : d = '\x7d' := (Text.toLower_eq_iff (.inr (by decide))).mp right
    obtain ⟨given, read, small⟩ := grouped inner same
    have braced : unbrace? ('\x7b' :: (inner ++ ['\x7d'])) = some inner :=
      unbrace?_eq_some_iff.mpr rfl
    exact ⟨given, by simp [digits?, size inner same, braced, read], small⟩
  | resourceName =>
    obtain ⟨front, rest, rfl, named, same⟩ := List.map_eq_append_iff.mp laid
    obtain ⟨given, read, small⟩ := grouped rest same
    have spelled : unscheme? (front ++ rest) = some rest :=
      unscheme?_eq_some_iff.mpr ⟨front, named, rfl⟩
    have nine : front.length = 9 := by rw [← length_scheme, ← named, List.length_map]
    exact ⟨given, by simp [digits?, nine, size rest same, spelled, read], small⟩

/-- A text is an epoch in a layout, in letters of either case. -/
def Spells (text : String) (layout : Layout) (e : Epoch) : Prop :=
  text.toList.map Char.toLower = layout.write e.digits

variable {e : Epoch} {layout : Layout} {text : String}

private theorem length_digits (e : Epoch) : e.digits.length = 32 := Text.length_hexDigits 32 _

theorem toLower_digits (e : Epoch) : e.digits.map Char.toLower = e.digits := by
  obtain ⟨-, small⟩ := Text.toLower_of_readHex? e.readHex?_digits
  rw [small, length_digits]
  rfl

theorem ofText?_eq_some_iff : ofText? text = some e ↔ ∃ layout, Spells text layout e := by
  constructor
  · intro named
    obtain ⟨given, read, rest⟩ := Option.bind_eq_some_iff.mp named
    obtain ⟨value, number, same⟩ := Option.map_eq_some_iff.mp rest
    obtain ⟨length, layout, laid⟩ := exists_layout_of_digits? read
    obtain ⟨bound, small⟩ := Text.toLower_of_readHex? number
    rw [length] at bound small
    obtain rfl : e = ⟨BitVec.ofNat 128 value⟩ := same.symm
    have whole : (BitVec.ofNat 128 value).toNat = value := by
      rw [BitVec.toNat_ofNat]
      exact Nat.mod_eq_of_lt bound
    refine ⟨layout, ?_⟩
    rw [Spells, laid, small, digits, whole]
  · rintro ⟨layout, laid⟩
    obtain ⟨given, read, small⟩ := exists_digits?_of_layout e.length_digits laid
    have number : Text.readHex? 0 given = some e.value.toNat := by
      rw [← Text.readHex?_map_toLower, small, readHex?_digits]
    simp [ofText?, read, number]

theorem matchesToken_iff : e.matchesToken text ↔ ∃ layout, Spells text layout e := by
  rw [← ofText?_eq_some_iff, matchesToken, decide_eq_true_eq]

private theorem spells_token (e : Epoch) : Spells e.token .plain e := by
  simp [Spells, token, Layout.write, toLower_digits]

/-! ## Shapes -/

def Layout.size : Layout → Nat
  | plain => 32
  | hyphenated => 36
  | braced => 38
  | resourceName => 45

def Layout.hyphens : Layout → List Nat
  | plain => []
  | hyphenated => [8, 13, 18, 23]
  | braced => [9, 14, 19, 24]
  | resourceName => [17, 22, 27, 32]

theorem length_write (layout : Layout) (length : digits.length = 32) :
    (layout.write digits).length = layout.size := by
  have hyphened := length_hyphenate length
  cases layout with
  | plain => exact length
  | hyphenated => exact hyphened
  | braced => simp [Layout.write, Layout.size, hyphened]
  | resourceName => simp [Layout.write, Layout.size, hyphened, length_scheme]

private theorem hyphen_iff {front rest : List Char} (clean : '-' ∉ front) (i : Nat) :
    (front ++ '-' :: rest)[i]? = some '-' ↔
      i = front.length ∨ front.length < i ∧ rest[i - front.length - 1]? = some '-' := by
  rcases Nat.lt_trichotomy i front.length with before | rfl | behind
  · have absent : front[i]? ≠ some '-' := fun held => clean (List.mem_of_getElem? held)
    rw [List.getElem?_append_left before]
    simp only [absent, false_iff]
    omega
  · simp
  · have other : i ≠ front.length := Nat.ne_of_gt behind
    rw [List.getElem?_append_right (Nat.le_of_lt behind), List.getElem?_cons,
      if_neg (Nat.sub_ne_zero_of_lt behind)]
    simp [other, behind]

private theorem hyphens_of_groups {front b c d back : List Char} (hf : '-' ∉ front) (hb : '-' ∉ b)
    (hc : '-' ∉ c) (hd : '-' ∉ d) (he : '-' ∉ back) (lb : b.length = 4) (lc : c.length = 4)
    (ld : d.length = 4) (i : Nat) :
    (front ++ '-' :: (b ++ '-' :: (c ++ '-' :: (d ++ '-' :: back))))[i]? = some '-' ↔
      i = front.length ∨ i = front.length + 5 ∨ i = front.length + 10 ∨ i = front.length + 15 := by
  have absent (j : Nat) : back[j]? ≠ some '-' := fun held => he (List.mem_of_getElem? held)
  rw [hyphen_iff hf, hyphen_iff hb, hyphen_iff hc, hyphen_iff hd, lb, lc, ld]
  simp only [absent, and_false, or_false]
  omega

theorem hyphens_write (layout : Layout) (length : digits.length = 32) (clean : '-' ∉ digits)
    (i : Nat) : (layout.write digits)[i]? = some '-' ↔ i ∈ layout.hyphens := by
  have taken (start count : Nat) : '-' ∉ (digits.drop start).take count :=
    fun member => clean (List.mem_of_mem_drop (List.mem_of_mem_take member))
  have groups (front back : List Char) (hf : '-' ∉ front) (hb : '-' ∉ back) :
      (front ++ hyphenate digits ++ back)[i]? = some '-' ↔
        i = front.length + 8 ∨ i = front.length + 13 ∨ i = front.length + 18 ∨
          i = front.length + 23 := by
    have first : '-' ∉ front ++ digits.take 8 := by
      rw [List.mem_append, not_or]
      exact ⟨hf, taken 0 8⟩
    have last : '-' ∉ digits.drop 20 ++ back := by
      rw [List.mem_append, not_or]
      exact ⟨fun member => clean (List.mem_of_mem_drop member), hb⟩
    have split := hyphens_of_groups first (taken 8 4) (taken 12 4) (taken 16 4) last
      (by simp [length]) (by simp [length]) (by simp [length]) i
    simpa [hyphenate, length, Nat.add_assoc] using split
  cases layout with
  | plain =>
    have absent : digits[i]? ≠ some '-' := fun held => clean (List.mem_of_getElem? held)
    simpa [Layout.write, Layout.hyphens] using absent
  | hyphenated => simpa [Layout.write, Layout.hyphens] using groups [] [] (by simp) (by simp)
  | braced =>
    simpa [Layout.write, Layout.hyphens] using groups ['\x7b'] ['\x7d'] (by decide) (by decide)
  | resourceName =>
    simpa [Layout.write, Layout.hyphens, length_scheme] using groups scheme [] (by decide) (by simp)

/-! ## Characters -/

def marks : List Char := '-' :: '\x7b' :: '\x7d' :: scheme

private theorem mem_write {c : Char} (member : c ∈ layout.write digits) :
    c ∈ digits ∨ c ∈ marks := by
  have grouped (held : c ∈ hyphenate digits) : c ∈ digits ∨ c = '-' := by
    simp only [hyphenate, List.mem_append, List.mem_cons] at held
    grind [List.mem_of_mem_take, List.mem_of_mem_drop]
  cases layout with
  | plain => exact .inl member
  | hyphenated => exact (grouped member).imp_right fun same => by simp [marks, same]
  | braced =>
    simp only [Layout.write, List.mem_append, List.mem_cons, List.not_mem_nil, or_false] at member
    grind [marks]
  | resourceName =>
    simp only [Layout.write, List.mem_append] at member
    grind [marks]

private theorem hyphen_notMem_digits (e : Epoch) : '-' ∉ e.digits := by
  have other : ∀ digit < 16, '-' ≠ Nat.digitChar digit := by decide
  intro member
  obtain ⟨digit, bound, same⟩ := Text.mem_hexDigits member
  exact other digit bound same

private theorem isBlank_of_mem_write {c : Char} (member : c ∈ layout.write e.digits) :
    Text.isBlank c = false := by
  have digits : ∀ digit < 16, Text.isBlank (Nat.digitChar digit) = false := by decide
  have others : marks.any Text.isBlank = false := by decide
  rcases mem_write member with held | held
  · obtain ⟨digit, bound, rfl⟩ := Text.mem_hexDigits held
    exact digits digit bound
  · exact Bool.not_eq_true _ ▸ List.any_eq_false.mp others c held

/-! ## Recognised texts -/

private theorem isBlank_of_spells {c : Char} (spelled : Spells text layout e)
    (member : c ∈ text.toList) :
    Text.isBlank c = false := by
  by_contra blank
  have small : c.toLower = c := Text.toLower_of_isBlank (Bool.not_eq_false _ ▸ blank)
  have written : c ∈ layout.write e.digits := by
    rw [← spelled, ← small]
    exact List.mem_map_of_mem member
  exact blank (isBlank_of_mem_write written)

private theorem length_of_spells (spelled : Spells text layout e) :
    text.toList.length = layout.size := by
  rw [← length_write layout e.length_digits, ← spelled, List.length_map]

private theorem hyphens_of_spells (spelled : Spells text layout e) (i : Nat) :
    text.toList[i]? = some '-' ↔ i ∈ layout.hyphens := by
  rw [← hyphens_write layout e.length_digits e.hyphen_notMem_digits, ← spelled]
  simp [Text.toLower_eq_iff]

private theorem size_ne_succ (layout other : Layout) : layout.size ≠ other.size + 1 := by
  cases layout <;> cases other <;> decide

/-- An epoch recognises its spellings in the four layouts, in letters of either case, and nothing
else. What it recognises is recognised by no other epoch, has no blank characters, has its hyphens
at the places of its layout, and is recognised by no epoch with a character more or less. -/
theorem matchesToken_is_exact :
    (∀ a b : Epoch, a.matchesToken b.token ↔ a = b) ∧
      (∀ (a b : Epoch) (layout : Layout) (text : String), Spells text layout b →
        (a.matchesToken text ↔ a = b)) ∧
      (∀ (a : Epoch) (text : String), a.matchesToken text →
        (∀ c ∈ text.toList, Text.isBlank c = false) ∧
          ∃ layout, Spells text layout a ∧ text.toList.length = layout.size ∧
            ∀ i, text.toList[i]? = some '-' ↔ i ∈ layout.hyphens) ∧
      (∀ (a b : Epoch) (text : String), a.matchesToken text → b.matchesToken text → a = b) ∧
      ∀ (a b : Epoch) (before after : List Char) (c : Char),
        a.matchesToken (String.ofList (before ++ c :: after)) →
          ¬ b.matchesToken (String.ofList (before ++ after)) := by
  have unique {a b : Epoch} {text : String} (first : a.matchesToken text)
      (second : b.matchesToken text) : a = b := eq_of_matchesToken second first
  have spelled (a b : Epoch) (layout : Layout) (text : String) (laid : Spells text layout b) :
      a.matchesToken text ↔ a = b := by
    have named : b.matchesToken text := matchesToken_iff.mpr ⟨layout, laid⟩
    constructor
    · exact fun matched => unique matched named
    · rintro rfl
      exact named
  refine ⟨fun a b => spelled a b .plain b.token b.spells_token, spelled, ?_,
    fun _ _ _ => unique, ?_⟩
  · intro a text matched
    obtain ⟨layout, laid⟩ := matchesToken_iff.mp matched
    exact ⟨fun c => isBlank_of_spells laid, layout, laid, length_of_spells laid,
      hyphens_of_spells laid⟩
  · intro a b before after c matched shorter
    obtain ⟨layout, laid⟩ := matchesToken_iff.mp matched
    obtain ⟨other, left⟩ := matchesToken_iff.mp shorter
    have long := length_of_spells laid
    have short := length_of_spells left
    simp only [String.toList_ofList, List.length_append, List.length_cons] at long short
    exact size_ne_succ layout other (by omega)

def counting : Epoch := ⟨0x0123456789abcdef0123456789abcdef#128⟩

theorem matchesToken_is_exact_of_braces :
    Spells "\x7b01234567-89AB-cdef-0123-456789ABcdef\x7d" .braced counting ∧
      counting.matchesToken "\x7b01234567-89AB-cdef-0123-456789ABcdef\x7d" ∧
      ¬ counting.matchesToken "01234567-89AB-cdef-0123-456789ABcdef\x7d" := by
  obtain ⟨-, spelled, -, -, shorter⟩ := matchesToken_is_exact
  have laid : Spells "\x7b01234567-89AB-cdef-0123-456789ABcdef\x7d" .braced counting := by
    unfold Spells
    decide +kernel
  have matched := (spelled counting counting .braced _ laid).mpr rfl
  exact ⟨laid, matched, shorter counting counting [] _ _ matched⟩

/-- The scheme need not be written in small letters. -/
theorem not_all_matched_in_layout :
    ¬ ∀ (a : Epoch) (text : String), a.matchesToken text →
      ∃ (layout : Layout) (digits : List Char),
        digits.map Char.toLower = a.digits ∧ text.toList = layout.write digits := by
  intro exact
  have matched : counting.matchesToken "URN:UUID:01234567-89ab-cdef-0123-456789abcdef" := by
    decide +kernel
  obtain ⟨layout, digits, small, written⟩ := exact _ _ matched
  have length : digits.length = 32 := by rw [← length_digits counting, ← small, List.length_map]
  have long := congrArg List.length written
  have first := congrArg List.head? written
  rw [length_write layout length] at long
  cases layout with
  | resourceName => cases first
  | plain | hyphenated | braced => cases long

end Epoch

end LiveTable
