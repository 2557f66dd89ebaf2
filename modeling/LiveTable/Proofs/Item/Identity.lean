import LiveTable.Item
import Mathlib.Data.List.Basic
set_option autoImplicit false

/-!
# Identities of channel rows

The identity of a row of a channel is the key of the channel and the number of the row with a colon
between them. The key may have colons, the number has none, so that the last colon tells where the
key ends. Main statements: `InChannel.identity?_eq_iff`, `InChannel.identity?_ne_of_hash` and
`InChannel.identity?_ne_of_number`.
-/

namespace LiveTable

namespace Text

/-! ## Printed integers -/

private theorem toList_repr (n : Int) :
    (Int.repr n).toList = (if n < 0 then ['-'] else []) ++ Nat.toDigits 10 n.natAbs := by
  cases n with
  | ofNat n => simp [Int.repr]
  | negSucc n => simp [Int.repr, Int.negSucc_lt_zero]

theorem mark_notMem_toDigits {mark : Char} (symbol : mark.isDigit = false) (n : Nat) :
    mark ∉ Nat.toDigits 10 n := by
  intro member
  have digit := Nat.isDigit_of_mem_toDigits (by decide) (by decide) member
  simp [symbol] at digit

theorem toDigits_injective : Function.Injective (Nat.toDigits 10) := by
  have reads : Function.LeftInverse (Nat.ofDigitChars 10 · 0) (Nat.toDigits 10) :=
    fun _ => Nat.ofDigitChars_ten_toDigits
  exact reads.injective

private theorem minus_mem_repr_iff (n : Int) : '-' ∈ (Int.repr n).toList ↔ n < 0 := by
  have digits : '-' ∉ Nat.toDigits 10 n.natAbs := mark_notMem_toDigits (by decide) _
  rw [toList_repr]
  split_ifs with negative <;> simp [negative, digits]

private theorem repr_injective : Function.Injective Int.repr := by
  intro m n same
  have signs : m < 0 ↔ n < 0 := by rw [← minus_mem_repr_iff, same, minus_mem_repr_iff]
  have chars := congrArg String.toList same
  simp only [toList_repr, signs] at chars
  have digits : m.natAbs = n.natAbs := toDigits_injective (List.append_cancel_left chars)
  omega

private theorem colon_notMem_repr (n : Int) : ':' ∉ (Int.repr n).toList := by
  have digits : ':' ∉ Nat.toDigits 10 n.natAbs := mark_notMem_toDigits (by decide) _
  rw [toList_repr]
  split_ifs <;> simp [digits]

theorem eq_of_last_separator {separator : Char} {front front' back back' : List Char}
    (clean : separator ∉ back) (clean' : separator ∉ back')
    (same : front ++ separator :: back = front' ++ separator :: back') :
    front = front' ∧ back = back' := by
  obtain ⟨between, longer, rest⟩ | ⟨between, longer, rest⟩ := List.append_eq_append_iff.mp same
  · cases between with
    | nil => exact ⟨by simpa using longer.symm, (List.cons.inj rest).2⟩
    | cons c between =>
      obtain ⟨-, rfl⟩ := List.cons.inj rest
      simp at clean
  · cases between with
    | nil => exact ⟨by simpa using longer, (List.cons.inj rest).2.symm⟩
    | cons c between =>
      obtain ⟨-, rfl⟩ := List.cons.inj rest
      simp at clean'

end Text

/-! ## Identities -/

namespace Item

/-- A row without a hash that has the key of a channel and an integer for its number in it. -/
structure InChannel (item : Item) (publicKey : String) (id : Int) : Prop where
  unhashed : item.text? "infohash" = none
  channel : item.text? "public_key" = some publicKey
  number : item.get? "id" = some (.number (.int id))

namespace InChannel

variable {item other : Item} {publicKey publicKey' : String} {id id' : Int}

private theorem identity?_eq (row : item.InChannel publicKey id) :
    item.identity? = some (publicKey ++ ":" ++ Int.repr id) := by
  simp [identity?, row.unhashed, row.channel, row.number, scalarText?, Number.render]

theorem identity?_eq_iff (row : item.InChannel publicKey id)
    (row' : other.InChannel publicKey' id') :
    item.identity? = other.identity? ↔ publicKey = publicKey' ∧ id = id' := by
  rw [row.identity?_eq, row'.identity?_eq, Option.some.injEq]
  constructor
  · intro same
    have chars := congrArg String.toList same
    simp only [String.toList_append] at chars
    obtain ⟨keys, numbers⟩ := Text.eq_of_last_separator (Text.colon_notMem_repr id)
      (Text.colon_notMem_repr id') (by simpa using chars)
    exact ⟨String.toList_inj.mp keys, Text.repr_injective (String.toList_inj.mp numbers)⟩
  · rintro ⟨rfl, rfl⟩
    rfl

theorem key_eq_iff (row : item.InChannel publicKey id) (row' : other.InChannel publicKey' id') :
    item.key = other.key ↔ publicKey = publicKey' ∧ id = id' := by
  rw [← row.identity?_eq_iff row', Item.key, Item.key, row.identity?_eq, row'.identity?_eq]
  simp

theorem identity?_ne_of_hash (row : item.InChannel publicKey id) {hash : String}
    (hashed : other.text? "infohash" = some hash) (clean : ':' ∉ hash.toList) :
    item.identity? ≠ other.identity? := by
  have identity : other.identity? = some hash := by simp [identity?, hashed]
  rw [row.identity?_eq, identity, ne_eq, Option.some.injEq]
  rintro rfl
  simp at clean

theorem identity?_ne_of_number (row : item.InChannel publicKey id)
    (unhashed : other.text? "infohash" = none) (unowned : other.text? "public_key" = none)
    (number : other.get? "id" = some (.number (.int id'))) :
    item.identity? ≠ other.identity? := by
  have identity : other.identity? = some (Int.repr id') := by
    simp [identity?, unhashed, unowned, number, scalarText?, Number.render]
  rw [row.identity?_eq, identity, ne_eq, Option.some.injEq]
  intro same
  have clean := Text.colon_notMem_repr id'
  rw [← same] at clean
  simp at clean

end InChannel

end Item

end LiveTable
