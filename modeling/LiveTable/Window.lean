import LiveTable.Failure
import LiveTable.Json.Decode
set_option autoImplicit false

/-!
# Page windows

The rows `first`, `first + 1`, …, `last - 1` of a listing, counted from one. Row numbers have 32
bits and stop at the largest.
-/

namespace LiveTable

structure Window where
  first : UInt32
  last : UInt32
deriving DecidableEq, Repr

namespace Window

/-- A window is well formed when it counts from one and has a width. -/
def WellFormed (w : Window) : Prop := 1 ≤ w.first ∧ w.first < w.last

instance (w : Window) : Decidable w.WellFormed := inferInstanceAs (Decidable (_ ∧ _))

def checked (w : Window) : Except Failure Window :=
  if w.WellFormed then .ok w else .error (.internal (.window w.first w.last))

/-- The row number nearest to a natural number. -/
def rowNumber (n : Nat) : UInt32 :=
  UInt32.ofNatLT (min n (UInt32.size - 1)) (by simp only [UInt32.size]; omega)

/-- The page after `loaded` rows; near the largest row number it may be empty. -/
def following (loaded : Nat) (batch : UInt32) : Window :=
  ⟨rowNumber (loaded + 1), rowNumber (loaded + batch.toNat)⟩

def firstPage (batch : UInt32) : Window := following 0 batch

def toJson (w : Window) : Json :=
  Json.ofPairs [("first", Json.ofWord32 w.first), ("last", Json.ofWord32 w.last)]

/-- The window that a value is; it need not be well formed. -/
def ofJson? (v : Json) : Option Window :=
  match Json.record? ["first", "last"] v with
  | some [first, last] => do
    let first ← Json.required Json.word32? first
    let last ← Json.required Json.word32? last
    return ⟨first, last⟩
  | _ => none

@[simp] theorem toNat_rowNumber (n : Nat) :
    (rowNumber n).toNat = min n (UInt32.size - 1) := by
  simp [rowNumber]

example : following 2 50 = ⟨3, 52⟩ := by decide

example : following UInt32.size 50 = ⟨2 ^ 32 - 1, 2 ^ 32 - 1⟩ := by decide

end Window

end LiveTable
