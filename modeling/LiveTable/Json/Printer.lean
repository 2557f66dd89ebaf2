import LiveTable.Json.Basic
import LiveTable.Decimal.Shortest
set_option autoImplicit false

/-!
# Writing JSON

The compact text of a value: no blanks, the fields of an object in their order, and escapes only
where a text could not be read back without them.
-/

namespace LiveTable

structure NumberFormat where
  /-- The largest number of digits that may stand before the point. -/
  mostBefore : Int
  /-- The largest number of zeros that may stand between the point and the first digit. -/
  mostZeros : Int
  /-- The sign of a positive exponent. -/
  positiveSign : String

namespace NumberFormat

/-- Doubles are positional below `10 ^ 16` and from `10 ^ -5` up, always with a fraction;
exponents carry their sign. -/
def json : NumberFormat := ⟨16, 4, "+"⟩

private def zeros (n : Int) : String := String.ofList (List.replicate n.toNat '0')

def render (format : NumberFormat) (d : Decimal) : String :=
  let digits := Nat.toDigits 10 d.digits
  let point := (digits.length : Int) + d.exponent
  let text := String.ofList digits
  if 0 ≤ d.exponent ∧ point ≤ format.mostBefore then text ++ zeros d.exponent ++ ".0"
  else if 0 < point ∧ point ≤ format.mostBefore then
    String.ofList (digits.take point.toNat) ++ "." ++ String.ofList (digits.drop point.toNat)
  else if -format.mostZeros ≤ point ∧ point ≤ 0 then "0." ++ zeros (-point) ++ text
  else
    let power := point - 1
    let fraction := if digits.length = 1 then "" else "." ++ String.ofList (digits.drop 1)
    let sign := if power < 0 then "-" else format.positiveSign
    String.ofList (digits.take 1) ++ fraction ++ "e" ++ sign ++ Nat.repr power.natAbs

end NumberFormat

def renderFloat (x : Float) : String :=
  let sign := if x.toBits.toNat < Nat.pow 2 63 then "" else "-"
  let d := Decimal.ofFloat x
  sign ++ (if d.digits = 0 then "0.0" else NumberFormat.json.render d)

def Number.render : Number → String
  | .int value => Int.repr value
  | .float value => renderFloat value

namespace Json

def escapeChar (c : Char) : String :=
  match c with
  | '"' => "\\\""
  | '\\' => "\\\\"
  | '\n' => "\\n"
  | '\r' => "\\r"
  | '\t' => "\\t"
  | '\x08' => "\\b"
  | '\x0c' => "\\f"
  | c =>
    if c.toNat < 0x20 then
      "\\u00" ++ String.ofList [Nat.digitChar (c.toNat / 16), Nat.digitChar (c.toNat % 16)]
    else c.toString

def quote (content : String) : String :=
  content.foldl (fun written c => written ++ escapeChar c) "\"" ++ "\""

mutual

def render : Json → String
  | .null => "null"
  | .bool true => "true"
  | .bool false => "false"
  | .number value => value.render
  | .text content => quote content
  | .array items => "[" ++ ",".intercalate (renderItems items) ++ "]"
  | .object fields => "\x7b" ++ ",".intercalate (renderFields fields) ++ "\x7d"

def renderItems : List Json → List String
  | [] => []
  | item :: rest => item.render :: renderItems rest

def renderFields : List (String × Json) → List String
  | [] => []
  | (name, value) :: rest => (quote name ++ ":" ++ value.render) :: renderFields rest

end

example : renderFloat 0.00001 = "0.00001" := by decide +kernel

example : renderFloat 1e-7 = "1e-7" := by decide +kernel

example : renderFloat 1e15 = "1000000000000000.0" := by decide +kernel

example : renderFloat 18446744073709551616 = "1.8446744073709552e+19" := by decide +kernel

end Json

end LiveTable
