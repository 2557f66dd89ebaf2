import LiveTable.Text.Hex
import LiveTable.Yaml.Cursor
set_option autoImplicit false

/-!
# Scalars of YAML

The texts of plain, quoted and block scalars. A gap between words is kept as it is within a line;
one that spans lines becomes a space for one line end, and the further line ends otherwise.
-/

namespace LiveTable.Yaml

def foldGap (gap : List Char) : List Char :=
  match gap.filter isBreak with
  | [] => gap
  | ['\n'] => [' ']
  | '\n' :: more => more
  | breaks => breaks

/-! ## Plain scalars -/

def isFlowIndicator (c : Char) : Bool := c = ',' || c = '[' || c = ']' || c = '\x7b' || c = '\x7d'

/-- The characters of a plain scalar up to the next gap or the end of the scalar. Within a flow
collection a colon must not come right before a delimiter. -/
def plainWord (inFlow : Bool) : List Char → Option (List Char)
  | [] => some []
  | c :: rest =>
    if isGap c then some []
    else if inFlow && c = ':' && (rest.head?.map fun n => isFlowIndicator n || n = '?').getD false
      then none
    else if (c = ':' && startsGap rest) || (inFlow && isFlowIndicator c) then some []
    else (plainWord inFlow rest).map (c :: ·)

/-- A plain scalar that has been read: its text, whether the gap after it spans lines, and the place
after that gap. -/
structure PlainScalar where
  text : List Char
  endsLine : Bool
  after : Cursor

/-- Whether no tab stands left of the indentation in the later lines of a gap. -/
def tabsIndented (indent : Nat) (c : Cursor) (spansLines : Bool) : List Char → Bool
  | [] => true
  | x :: xs =>
    if isBreak x then tabsIndented indent c.skipBreak true xs
    else
      !(spansLines && x = '\t' && c.column < indent) && tabsIndented indent (c.skip 1) spansLines xs

/-- Reads a plain scalar on from a place, behind a text, which is kept in reverse, and a gap. Its
later lines have to be indented at least by `indent`, unless it stands in a flow collection. -/
def readPlain (inFlow : Bool) (indent : Nat) :
    (fuel : Nat) → (text gap : List Char) → Cursor → Option PlainScalar
  | 0, _, _, _ => none
  | fuel + 1, text, gap, c => do
    if c.startsDocument || c.peek? = some '#' then return ⟨text.reverse, gap.any isBreak, c⟩
    let word ← plainWord inFlow c.rest
    let c := c.skip word.length
    let (text, gap) := if word.isEmpty then (text, gap)
      else (word.reverse ++ ((foldGap gap).reverse ++ text), [])
    let next := c.rest.takeWhile isGap
    if next.isEmpty then return ⟨text.reverse, gap.any isBreak, c⟩
    if !tabsIndented indent c false next then none
    let c := c.skipOver next
    if !inFlow && c.column < indent then return ⟨text.reverse, next.any isBreak, c⟩
    readPlain inFlow indent fuel text next c

/-! ## Quoted scalars -/

def escapedChar? : Char → Option Char
  | '0' => some '\x00'
  | 'a' => some '\x07'
  | 'b' => some '\x08'
  | 't' | '\t' => some '\t'
  | 'n' => some '\n'
  | 'v' => some '\x0b'
  | 'f' => some '\x0c'
  | 'r' => some '\r'
  | 'e' => some '\x1b'
  | ' ' => some ' '
  | '"' => some '"'
  | '/' => some '/'
  | '\\' => some '\\'
  | 'N' => some '\u0085'
  | '_' => some '\u00a0'
  | 'L' => some '\u2028'
  | 'P' => some '\u2029'
  | _ => none

def escapeLength? : Char → Option Nat
  | 'x' => some 2
  | 'u' => some 4
  | 'U' => some 8
  | _ => none

/-- Reads what follows a backslash: the character it stands for and how many characters it takes. -/
def readEscape : List Char → Option (Char × Nat)
  | [] => none
  | c :: rest =>
    match escapedChar? c, escapeLength? c with
    | some x, _ => some (x, 1)
    | none, some count => do
      let digits := rest.take count
      if digits.length < count then none
      let n ← Text.readHex? 0 digits
      if h : n.isValidChar then return (Char.ofNatAux n h, count + 1) else none
    | none, none => none

/-- Reads a quoted scalar on from a place behind a text, which is kept in reverse; the scalar ends
with the quote. -/
def readQuoted (quote : Char) :
    (fuel : Nat) → (text : List Char) → Cursor → Option (List Char × Cursor)
  | 0, _, _ => none
  | fuel + 1, text, c =>
    if c.startsDocument then none
    else
      match c.rest with
      | [] => none
      | x :: rest =>
        if isGap x then
          let gap := c.rest.takeWhile isGap
          readQuoted quote fuel ((foldGap gap).reverse ++ text) (c.skipOver gap)
        else if x = quote then
          if quote = '\'' && rest.head? = some quote then
            readQuoted quote fuel (quote :: text) (c.skip 2)
          else some (text.reverse, c.skip 1)
        else if quote = '"' && x = '\\' then
          if (rest.head?.map isBreak).getD false then
            let gap := rest.drop 1 |>.takeWhile isGap
            readQuoted quote fuel ((gap.filter isBreak).reverse ++ text)
              ((c.skip 1).skipBreak.skipOver gap)
          else do
            let (escaped, count) ← readEscape rest
            readQuoted quote fuel (escaped :: text) (c.skip (count + 1))
        else readQuoted quote fuel (x :: text) (c.skip 1)

/-! ## Block scalars -/

/-- What is done with the line ends behind the last line of a block. -/
inductive Chomping
  | clip
  | strip
  | keep
deriving DecidableEq

def chomping? : Option Char → Option Chomping
  | some '+' => some .keep
  | some '-' => some .strip
  | _ => none

def readIncrement (c : Cursor) : Option (Option Nat × Cursor) :=
  match c.peek? with
  | some x =>
    if x = '0' then none
    else if x.isDigit then some (some (x.toNat - '0'.toNat), c.skip 1)
    else some (none, c)
  | none => some (none, c)

/-- Reads the signs behind the indicator of a block, in either order. -/
def readBlockHeader (c : Cursor) : Option (Chomping × Option Nat × Cursor) := do
  match chomping? c.peek? with
  | some chomping =>
    let (increment, c) ← readIncrement (c.skip 1)
    return (chomping, increment, c)
  | none =>
    let (increment, c) ← readIncrement c
    match increment, chomping? c.peek? with
    | some _, some chomping => return (chomping, increment, c.skip 1)
    | _, _ => return (.clip, increment, c)

/-- Passes over the indentation and the empty lines before a line of a block. As long as the
indentation is not known, the deepest line tells it. -/
def readBlockGap (indent : Option Nat) :
    (fuel : Nat) → (breaks : List Char) → (deepest : Nat) → Cursor →
      Option (List Char × Nat × Cursor)
  | 0, _, _, _ => none
  | fuel + 1, breaks, deepest, c =>
    let spaces := (c.ahead (· = ' ')).length
    let c := c.skip (match indent with
      | none => spaces
      | some n => min spaces (n - c.column))
    let deepest := max deepest c.column
    if ((indent.map fun n => decide (c.column < n)).getD true) && c.peek? = some '\t' then none
    else
      match c.peek? with
      | some x =>
        if isBreak x then readBlockGap indent fuel (breaks ++ [x]) deepest c.skipBreak
        else some (breaks, deepest, c)
      | none => some (breaks, deepest, c)

/-- The state between two lines of a block: the text, which is kept in reverse, the line end of the
last line, the empty lines after it, and whether the last line began with a blank. -/
structure BlockText where
  text : List Char
  leadingBreak : List Char
  trailingBreaks : List Char
  leadingBlank : Bool

def readBlockLines (isLiteral : Bool) (indent : Nat) :
    (fuel : Nat) → BlockText → Cursor → Option (BlockText × Cursor)
  | 0, _, _ => none
  | fuel + 1, b, c =>
    if c.column ≠ indent ∨ c.rest = [] then some (b, c)
    else
      let blankFirst := (c.peek?.map isBlank).getD false
      let joined :=
        if !isLiteral && b.leadingBreak = ['\n'] && !b.leadingBlank && !blankFirst then
          if b.trailingBreaks.isEmpty then [' '] else []
        else b.leadingBreak
      let line := c.ahead fun _ => true
      let c := c.skip line.length
      let lineEnd := c.rest.take 1
      let c := if lineEnd.isEmpty then c else c.skipBreak
      match readBlockGap (some indent) fuel [] 0 c with
      | none => none
      | some (breaks, _, c) =>
        readBlockLines isLiteral indent fuel
          ⟨(joined ++ b.trailingBreaks ++ line).reverse ++ b.text, lineEnd, breaks, blankFirst⟩ c

def readBlock (isLiteral : Bool) (parentIndent : Int) (c : Cursor) :
    Option (List Char × Cursor) := do
  let (chomping, increment, c) ← readBlockHeader c
  let c := c.skipWhile isBlank
  let c := if c.peek? = some '#' then c.skipLine else c
  if !(c.peek?.map isBreak).getD true then none
  let c := if c.rest.isEmpty then c else c.skipBreak
  let given := increment.map fun n => (if 0 ≤ parentIndent then parentIndent + n else n).toNat
  let (breaks, deepest, c) ← readBlockGap given (c.rest.length + 1) [] 0 c
  let indent := given.getD (max (max deepest (parentIndent + 1).toNat) 1)
  let (b, c) ← readBlockLines isLiteral indent (c.rest.length + 1) ⟨[], [], breaks, false⟩ c
  let tail := (if chomping = .strip then [] else b.leadingBreak) ++
    (if chomping = .keep then b.trailingBreaks else [])
  return (b.text.reverse ++ tail, c)

end LiveTable.Yaml
