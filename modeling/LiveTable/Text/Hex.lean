set_option autoImplicit false

/-!
# Hexadecimal text

Numbers as runs of hexadecimal digits: written with small letters and a fixed number of digits,
read with letters of either case.
-/

namespace LiveTable.Text

def hexValue? (c : Char) : Option Nat :=
  if '0' ≤ c ∧ c ≤ '9' then some (c.toNat - '0'.toNat)
  else if 'a' ≤ c ∧ c ≤ 'f' then some (c.toNat - 'a'.toNat + 10)
  else if 'A' ≤ c ∧ c ≤ 'F' then some (c.toNat - 'A'.toNat + 10)
  else none

def hexDigits : (count : Nat) → (value : Nat) → List Char
  | 0, _ => []
  | count + 1, value => hexDigits count (value / 16) ++ [Nat.digitChar (value % 16)]

/-- The number that a run of hexadecimal digits stands for after the digits of `before`. -/
def readHex? (before : Nat) : List Char → Option Nat
  | [] => some before
  | c :: rest => (hexValue? c).bind fun digit => readHex? (before * 16 + digit) rest

@[simp] theorem length_hexDigits (count value : Nat) : (hexDigits count value).length = count := by
  induction count generalizing value with
  | zero => rfl
  | succ count ih => simp [hexDigits, ih]

example : hexDigits 4 0x1f = ['0', '0', '1', 'f'] := by decide

example : readHex? 0 ['F', 'f'] = some 255 := by decide

end LiveTable.Text
