set_option autoImplicit false

/-!
# Shortest decimals

The decimal of fewest digits that lies nearer to a double than to any of its neighbours, and of
those the nearest to the double itself. All steps are exact arithmetic on natural numbers.
-/

namespace LiveTable

/-- The number `digits · 10 ^ exponent`. -/
structure Decimal where
  digits : Nat
  exponent : Int
deriving DecidableEq, Repr

namespace Decimal

/-- A positive quotient of natural numbers. -/
structure Ratio where
  numerator : Nat
  denominator : Nat

def Ratio.timesTenPow (r : Ratio) : Int → Ratio
  | .ofNat n => ⟨r.numerator * Nat.pow 10 n, r.denominator⟩
  | .negSucc n => ⟨r.numerator, r.denominator * Nat.pow 10 (n + 1)⟩

def digitCount (n : Nat) : Nat := (Nat.toDigits 10 n).length

/-- The exponent of the least power of ten above a positive quotient. -/
def Ratio.magnitude (r : Ratio) : Int :=
  if r.denominator ≤ r.numerator then digitCount (r.numerator / r.denominator)
  else
    let atLeast : Nat := (r.denominator + r.numerator - 1) / r.numerator
    1 - (digitCount (atLeast - 1) : Int)

/-- A double's size as `significand · 2 ^ exponent`, and whether the gap to the next smaller
double is half of the gap to the next larger one. -/
structure Binary where
  significand : Nat
  exponent : Int
  narrowBelow : Bool

def Binary.ofFloat (x : Float) : Binary :=
  let bits := x.toBits.toNat % Nat.pow 2 63
  let stored : Nat := bits / Nat.pow 2 52
  let fraction : Nat := bits % Nat.pow 2 52
  if stored = 0 then ⟨fraction, -1074, false⟩
  else ⟨Nat.pow 2 52 + fraction, stored - 1075, fraction = 0 ∧ stored ≠ 1⟩

def Ratio.ofBinary (n : Nat) : (e : Int) → Ratio
  | .ofNat e => ⟨n * Nat.pow 2 e, 1⟩
  | .negSucc e => ⟨n, Nat.pow 2 (e + 1)⟩

/-- The reals that are read as a double: from four times the significand the bounds lie at most
two quarters away, and they belong to the interval when the significand is even. -/
structure Interval where
  low : Nat
  value : Nat
  high : Nat
  unit : Int
  closed : Bool

def Interval.ofBinary (b : Binary) : Interval where
  low := 4 * b.significand - (if b.narrowBelow then 1 else 2)
  value := 4 * b.significand
  high := 4 * b.significand + 2
  unit := b.exponent - 2
  closed := b.significand % 2 = 0

def Interval.admits (i : Interval) (n : Nat) (k : Int) : Bool :=
  let low := (Ratio.ofBinary i.low i.unit).timesTenPow (-k)
  let high := (Ratio.ofBinary i.high i.unit).timesTenPow (-k)
  if i.closed then
    decide (low.numerator ≤ n * low.denominator ∧ n * high.denominator ≤ high.numerator)
  else
    decide (low.numerator < n * low.denominator ∧ n * high.denominator < high.numerator)

/-- The multiple of `10 ^ k` that represents the interval, if one lies in it: only the two
neighbours of the value count, the nearer one first and at a tie the even one. -/
def Interval.onGrid? (i : Interval) (k : Int) : Option Nat :=
  let scaled := (Ratio.ofBinary i.value i.unit).timesTenPow (-k)
  let below := scaled.numerator / scaled.denominator
  let rest := scaled.numerator % scaled.denominator
  match i.admits below k && below != 0, i.admits (below + 1) k with
  | true, true =>
    if 2 * rest < scaled.denominator ∨ (2 * rest = scaled.denominator ∧ below % 2 = 0) then
      some below
    else some (below + 1)
  | true, false => some below
  | false, true => some (below + 1)
  | false, false => none

/-- The point of the first grid, from the coarsest, that has one in the interval. -/
def Interval.shortest (i : Interval) : (grids : Nat) → (k : Int) → Decimal
  | 0, k => ⟨((i.onGrid? k).getD 0), k⟩
  | grids + 1, k =>
    match i.onGrid? k with
    | some n => ⟨n, k⟩
    | none => i.shortest grids (k - 1)

/-- The shortest decimal that reads back as the size of a finite double; zero has no digits. -/
def ofFloat (x : Float) : Decimal :=
  let b := Binary.ofFloat x
  if b.significand = 0 then ⟨0, 0⟩
  else
    let i := Interval.ofBinary b
    i.shortest 17 (Ratio.ofBinary i.value i.unit).magnitude

example : ofFloat 0.3 = ⟨3, -1⟩ := by decide +kernel

example : ofFloat (0.1 + 0.2) = ⟨30000000000000004, -17⟩ := by decide +kernel

example : ofFloat 5e-324 = ⟨5, -324⟩ := by decide +kernel

end Decimal

end LiveTable
