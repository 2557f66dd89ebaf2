import LiveTable.Text.Blank
import LiveTable.Text.Hex
import Mathlib.Algebra.Group.Nat.Defs
import Mathlib.Data.List.Induction
import Mathlib.Tactic.SplitIfs
set_option autoImplicit false

/-!
# Hexadecimal digits

The written digits of a number are read back as its last digits, and what is read as a number is how
it is written, apart from letter case. Main statements: `readHex?_hexDigits`, `readHex?_map_toLower`
and `toLower_of_readHex?`.
-/

namespace LiveTable.Text

/-! ## Letter case -/

private theorem toNat_toLower (c : Char) :
    c.toLower.toNat = if 65 ≤ c.toNat ∧ c.toNat ≤ 90 then c.toNat + 32 else c.toNat := by
  have upper : (c.val ≥ 'A'.val ∧ c.val ≤ 'Z'.val) ↔ 65 ≤ c.toNat ∧ c.toNat ≤ 90 := Iff.rfl
  unfold Char.toLower
  by_cases letter : c.val ≥ 'A'.val ∧ c.val ≤ 'Z'.val
  · have small := (upper.mp letter).2
    have sum : (c.val + ('a'.val - 'A'.val)).toNat = c.toNat + 32 := by
      rw [UInt32.toNat_add, Char.toNat_val]
      show (c.toNat + 32) % 2 ^ 32 = c.toNat + 32
      omega
    rw [dif_pos letter, if_pos (upper.mp letter)]
    exact sum
  · rw [dif_neg letter, if_neg (mt upper.mpr letter)]

theorem toLower_eq_iff {c mark : Char} (symbol : mark.toNat < 65 ∨ 122 < mark.toNat) :
    c.toLower = mark ↔ c = mark := by
  rw [← Char.toNat_inj, ← Char.toNat_inj, toNat_toLower]
  split <;> omega

theorem toLower_of_isBlank {c : Char} (blank : isBlank c) : c.toLower = c := by
  have symbol : ¬ (65 ≤ c.toNat ∧ c.toNat ≤ 90) := by
    simp only [isBlank, Bool.or_eq_true, Bool.and_eq_true, decide_eq_true_eq, beq_iff_eq] at blank
    omega
  rw [← Char.toNat_inj, toNat_toLower, if_neg symbol]

/-! ## Digits -/

private theorem hexValue?_eq (c : Char) :
    hexValue? c =
      if 48 ≤ c.toNat ∧ c.toNat ≤ 57 then some (c.toNat - 48)
      else if 97 ≤ c.toNat ∧ c.toNat ≤ 102 then some (c.toNat - 97 + 10)
      else if 65 ≤ c.toNat ∧ c.toNat ≤ 70 then some (c.toNat - 65 + 10)
      else none := rfl

private theorem hexValue?_toLower (c : Char) : hexValue? c.toLower = hexValue? c := by
  rw [hexValue?_eq, hexValue?_eq, toNat_toLower]
  by_cases letter : 65 ≤ c.toNat ∧ c.toNat ≤ 90
  · rw [if_pos letter]
    grind
  · rw [if_neg letter]

private theorem hexValue?_digitChar :
    ∀ digit < 16, hexValue? (Nat.digitChar digit) = some digit := by
  decide

private theorem toNat_digitChar :
    ∀ digit < 16, (Nat.digitChar digit).toNat = if digit < 10 then digit + 48 else digit + 87 := by
  decide

private theorem toLower_of_hexValue? {c : Char} {digit : Nat} (read : hexValue? c = some digit) :
    digit < 16 ∧ c.toLower = Nat.digitChar digit := by
  rw [hexValue?_eq] at read
  have bound : digit < 16 := by
    split_ifs at read <;> cases read <;> omega
  refine ⟨bound, ?_⟩
  rw [← Char.toNat_inj, toNat_toLower, toNat_digitChar digit bound]
  split_ifs at read <;> cases read <;> split_ifs <;> omega

theorem mem_hexDigits {c : Char} {count value : Nat} (member : c ∈ hexDigits count value) :
    ∃ digit < 16, c = Nat.digitChar digit := by
  induction count generalizing value with
  | zero => cases member
  | succ count ih =>
    rcases List.mem_append.mp member with earlier | last
    · exact ih earlier
    · exact ⟨value % 16, Nat.mod_lt _ (by omega), List.mem_singleton.mp last⟩

/-! ## Numbers -/

private theorem readHex?_append (before : Nat) (digits rest : List Char) :
    readHex? before (digits ++ rest) =
      (readHex? before digits).bind fun value => readHex? value rest := by
  induction digits generalizing before with
  | nil => rfl
  | cons c digits ih =>
    cases value : hexValue? c with
    | none => simp [readHex?, value]
    | some digit => simp [readHex?, value, ih]

theorem readHex?_hexDigits (before count value : Nat) :
    readHex? before (hexDigits count value) =
      some (before * 16 ^ count + value % 16 ^ count) := by
  induction count generalizing value with
  | zero => simp [hexDigits, readHex?, Nat.mod_one]
  | succ count ih =>
    have last : hexValue? (Nat.digitChar (value % 16)) = some (value % 16) :=
      hexValue?_digitChar _ (Nat.mod_lt _ (by omega))
    have split : value % 16 ^ (count + 1) = value % 16 + 16 * (value / 16 % 16 ^ count) := by
      rw [Nat.pow_succ', Nat.mod_mul]
    have shift : before * 16 ^ (count + 1) = before * 16 ^ count * 16 := by
      rw [Nat.pow_succ, Nat.mul_assoc]
    rw [hexDigits, readHex?_append, ih]
    simp only [Option.bind_some, readHex?, last, split, shift, Option.some.injEq]
    omega

theorem readHex?_map_toLower (before : Nat) (cs : List Char) :
    readHex? before (cs.map Char.toLower) = readHex? before cs := by
  induction cs generalizing before with
  | nil => rfl
  | cons c cs ih => simp only [List.map_cons, readHex?, hexValue?_toLower, ih]

/-- What is read as a number is how the number is written, in letters of either case. -/
theorem toLower_of_readHex? {cs : List Char} {value : Nat} (read : readHex? 0 cs = some value) :
    value < 16 ^ cs.length ∧ cs.map Char.toLower = hexDigits cs.length value := by
  -- Digits are written from the last one on, so the induction takes the last one off.
  induction cs using List.reverseRecOn generalizing value with
  | nil =>
    cases read
    exact ⟨Nat.one_pos, rfl⟩
  | append_singleton cs c ih =>
    rw [readHex?_append, Option.bind_eq_some_iff] at read
    obtain ⟨first, earlier, last⟩ := read
    obtain ⟨digit, here, rest⟩ := Option.bind_eq_some_iff.mp last
    obtain ⟨bound, lower⟩ := toLower_of_hexValue? here
    obtain ⟨before, same⟩ := ih earlier
    obtain rfl : first * 16 + digit = value := Option.some.inj rest
    have quotient : (first * 16 + digit) / 16 = first := by omega
    have remainder : (first * 16 + digit) % 16 = digit := by omega
    constructor
    · rw [List.length_append, List.length_singleton, Nat.pow_succ]
      omega
    · rw [List.map_append, List.length_append, List.length_singleton, hexDigits, quotient,
        remainder, same, List.map_singleton, lower]

end LiveTable.Text
