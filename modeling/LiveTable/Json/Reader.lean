import LiveTable.Json.Basic
import LiveTable.Text.Hex
set_option autoImplicit false

/-!
# Reading JSON

A text holds one value with blanks around its parts. Arrays and objects nest at most 127 deep. Of
two fields with one name the later one counts.
-/

namespace LiveTable

/-! ## Numbers -/

namespace Number

def largestWord : Nat := UInt64.size - 1

structure Digits where
  significand : Nat
  /-- How many digits went into the significand. -/
  taken : Nat
  /-- How many digits followed after the significand was full. -/
  skipped : Nat
  rest : List Char

/-- Appends a run of decimal digits to a significand while it stays within 64 bits. -/
def collectDigits (significand taken : Nat) : List Char → Digits
  | [] => ⟨significand, taken, 0, []⟩
  | c :: rest =>
    if c.isDigit then
      let next := significand * 10 + (c.toNat - '0'.toNat)
      if next ≤ largestWord then collectDigits next (taken + 1) rest
      else
        let more := rest.takeWhile Char.isDigit
        ⟨significand, taken, more.length + 1, rest.drop more.length⟩
    else ⟨significand, taken, 0, c :: rest⟩

def tenPow (n : Nat) : Float := Float.ofScientific 1 false n

/-- A double times a power of ten, rounded once up to `10 ^ ±308`; smaller powers divide by
`10 ^ 308` first. No number is read from what grows past the largest double. -/
def scale? (x : Float) (exponent : Int) : Option Float :=
  if exponent.natAbs ≤ 308 then
    if 0 ≤ exponent then
      let scaled := x * tenPow exponent.natAbs
      if scaled.isInf then none else some scaled
    else some (x / tenPow exponent.natAbs)
  else if x == 0.0 then some x
  else if 0 ≤ exponent then none
  else scale? (x / tenPow 308) (exponent + 308)
termination_by exponent.natAbs
decreasing_by omega

def float? (negative : Bool) (significand : Nat) (exponent : Int) : Option Number :=
  (scale? significand.toUInt64.toFloat exponent).map fun x => .float (if negative then -x else x)

def readExponent (cs : List Char) : Option (Int × List Char) :=
  let (negative, cs) :=
    match cs with
    | '+' :: rest => (false, rest)
    | '-' :: rest => (true, rest)
    | _ => (false, cs)
  match cs.takeWhile Char.isDigit with
  | [] => none
  | digits =>
    let size : Nat := Nat.ofDigitChars 10 digits 0
    some (if negative then -(size : Int) else size, cs.drop digits.length)

def readScaled (negative : Bool) (significand : Nat) (exponent : Int) (cs : List Char) :
    Option (Number × List Char) :=
  match cs with
  | 'e' :: rest | 'E' :: rest => do
    let (power, rest) ← readExponent rest
    let number ← float? negative significand (exponent + power)
    return (number, rest)
  | _ => do
    let number ← float? negative significand exponent
    return (number, cs)

/-- Reads what follows the sign of a number: a whole part without leading zeros, then at most a
fraction and an exponent. A whole number that fits in 64 bits is an integer, except for minus
zero. -/
def readUnsigned (negative : Bool) (cs : List Char) : Option (Number × List Char) :=
  match cs with
  | c :: rest =>
    if !c.isDigit ∨ (c = '0' ∧ (rest.head?.map Char.isDigit).getD false) then none
    else
      let whole := collectDigits 0 0 cs
      match whole.rest with
      | '.' :: after =>
        let fraction := collectDigits whole.significand 0 after
        if fraction.taken + fraction.skipped = 0 then none
        else
          readScaled negative fraction.significand ((whole.skipped : Int) - fraction.taken)
            fraction.rest
      | 'e' :: _ | 'E' :: _ => readScaled negative whole.significand whole.skipped whole.rest
      | _ =>
        if whole.skipped ≠ 0 then readScaled negative whole.significand whole.skipped whole.rest
        else if !negative then some (.int whole.significand, whole.rest)
        else if whole.significand = 0 ∨ Nat.pow 2 63 < whole.significand then
          readScaled negative whole.significand 0 whole.rest
        else some (.int (-(whole.significand : Int)), whole.rest)
  | [] => none

def read : List Char → Option (Number × List Char)
  | '-' :: rest => readUnsigned true rest
  | cs => readUnsigned false cs

end Number

namespace Json

/-! ## Texts -/

def isBlank (c : Char) : Bool := c = ' ' || c = '\n' || c = '\t' || c = '\r'

def readUnit (cs : List Char) : Option (Nat × List Char) :=
  if cs.length < 4 then none
  else (Text.readHex? 0 (cs.take 4)).map fun unit => (unit, cs.drop 4)

/-- Reads the character of a `u` escape; the two halves of a surrogate pair make one character and
neither may stand alone. -/
def readEscapedUnit (cs : List Char) : Option (Char × List Char) := do
  let (unit, rest) ← readUnit cs
  if 0xD800 ≤ unit ∧ unit < 0xDC00 then
    match rest with
    | '\\' :: 'u' :: rest =>
      let (low, rest) ← readUnit rest
      if 0xDC00 ≤ low ∧ low < 0xE000 then
        return (Char.ofNat (0x10000 + (unit - 0xD800) * 0x400 + (low - 0xDC00)), rest)
      else none
    | _ => none
  else if 0xDC00 ≤ unit ∧ unit < 0xE000 then none
  else return (Char.ofNat unit, rest)

def readEscaped : List Char → Option (Char × List Char)
  | '"' :: rest => some ('"', rest)
  | '\\' :: rest => some ('\\', rest)
  | '/' :: rest => some ('/', rest)
  | 'b' :: rest => some ('\x08', rest)
  | 'f' :: rest => some ('\x0c', rest)
  | 'n' :: rest => some ('\n', rest)
  | 'r' :: rest => some ('\r', rest)
  | 't' :: rest => some ('\t', rest)
  | 'u' :: rest => readEscapedUnit rest
  | _ => none

/-- Reads a text up to its closing quote; control characters have to be escaped. The number of
steps is bounded by `fuel`. -/
def readText : (fuel : Nat) → (written : List Char) → List Char → Option (String × List Char)
  | 0, _, _ => none
  | _ + 1, _, [] => none
  | _ + 1, written, '"' :: rest => some (String.ofList written.reverse, rest)
  | fuel + 1, written, '\\' :: rest => do
    let (c, rest) ← readEscaped rest
    readText fuel (c :: written) rest
  | fuel + 1, written, c :: rest =>
    if c.toNat < 0x20 then none else readText fuel (c :: written) rest

/-! ## Values -/

def deepest : Nat := 127

mutual

/-- Reads a value after blanks; `depth` more levels may be opened. -/
def readValue (fuel depth : Nat) (cs : List Char) : Option (Json × List Char) :=
  match fuel with
  | 0 => none
  | fuel + 1 =>
    match cs.dropWhile isBlank with
    | 'n' :: 'u' :: 'l' :: 'l' :: rest => some (.null, rest)
    | 't' :: 'r' :: 'u' :: 'e' :: rest => some (.bool true, rest)
    | 'f' :: 'a' :: 'l' :: 's' :: 'e' :: rest => some (.bool false, rest)
    | '"' :: rest => (readText fuel [] rest).map fun (content, rest) => (.text content, rest)
    | '[' :: rest =>
      match depth with
      | 0 => none
      | depth + 1 =>
        match rest.dropWhile isBlank with
        | ']' :: rest => some (.array [], rest)
        | rest => readItems fuel depth [] rest
    | '\x7b' :: rest =>
      match depth with
      | 0 => none
      | depth + 1 =>
        match rest.dropWhile isBlank with
        | '\x7d' :: rest => some (.object [], rest)
        | rest => readFields fuel depth [] rest
    | rest => (Number.read rest).map fun (value, rest) => (.number value, rest)

def readItems (fuel depth : Nat) (before : List Json) (cs : List Char) :
    Option (Json × List Char) :=
  match fuel with
  | 0 => none
  | fuel + 1 =>
    match readValue fuel depth cs with
    | none => none
    | some (item, rest) =>
      match rest.dropWhile isBlank with
      | ',' :: rest => readItems fuel depth (item :: before) rest
      | ']' :: rest => some (.array (item :: before).reverse, rest)
      | _ => none

def readFields (fuel depth : Nat) (before : Fields) (cs : List Char) :
    Option (Json × List Char) :=
  match fuel with
  | 0 => none
  | fuel + 1 =>
    match cs.dropWhile isBlank with
    | '"' :: rest =>
      match readText fuel [] rest with
      | none => none
      | some (name, rest) =>
        match rest.dropWhile isBlank with
        | ':' :: rest =>
          match readValue fuel depth rest with
          | none => none
          | some (value, rest) =>
            match rest.dropWhile isBlank with
            | ',' :: rest => readFields fuel depth (Fields.insert name value before) rest
            | '\x7d' :: rest => some (.object (Fields.insert name value before), rest)
            | _ => none
        | _ => none
    | _ => none

end

def parse? (text : String) : Option Json :=
  let cs := text.toList
  match readValue (2 * cs.length + 2) deepest cs with
  | some (value, rest) => if rest.all isBlank then some value else none
  | none => none

example : parse? "[1, -0, \"\\u00e9\"]" =
    some (.array [.number (.int 1), .number (.float (-0.0)), .text "é"]) := by decide +kernel

example : parse? "01" = none := by decide +kernel

end Json

end LiveTable
