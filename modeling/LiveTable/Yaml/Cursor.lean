set_option autoImplicit false

/-!
# A place in a YAML text

What lies ahead of a place, and where the place is. Line ends are single characters here:
`normalize` has put them into one form.
-/

namespace LiveTable.Yaml

def isBreak (c : Char) : Bool := c = '\n' || c = '\u2028' || c = '\u2029'

def isBlank (c : Char) : Bool := c = ' ' || c = '\t'

def isGap (c : Char) : Bool := isBlank c || isBreak c

def startsGap (cs : List Char) : Bool := (cs.head?.map isGap).getD true

/-- Gives all line ends one form, except for the two separators, which keep theirs. -/
def normalize : List Char → List Char
  | [] => []
  | '\r' :: '\n' :: rest => '\n' :: normalize rest
  | c :: rest => (if c = '\r' ∨ c = '\u0085' then '\n' else c) :: normalize rest

def isAllowed (c : Char) : Bool :=
  let n := c.toNat
  n == 0x9 || n == 0xA || n == 0xD || (0x20 ≤ n && n ≤ 0x7E) || n == 0x85 ||
    (0xA0 ≤ n && n ≤ 0xD7FF) || (0xE000 ≤ n && n ≤ 0xFFFD) || 0x10000 ≤ n

structure Cursor where
  rest : List Char
  /-- How many lines lie before. -/
  line : Nat
  /-- How many characters of the line lie before. -/
  column : Nat
  /-- How many octets of the line lie before. -/
  offset : Nat

namespace Cursor

def start (cs : List Char) : Cursor := ⟨cs, 0, 0, 0⟩

def skip (c : Cursor) (count : Nat) : Cursor :=
  { c with
    rest := c.rest.drop count
    column := c.column + count
    offset := (c.rest.take count).foldl (fun offset x => offset + x.utf8Size) c.offset }

def skipBreak (c : Cursor) : Cursor := ⟨c.rest.drop 1, c.line + 1, 0, 0⟩

def skipOver (c : Cursor) : List Char → Cursor
  | [] => c
  | x :: xs => (if isBreak x then c.skipBreak else c.skip 1).skipOver xs

def ahead (c : Cursor) (test : Char → Bool) : List Char :=
  c.rest.takeWhile fun x => !isBreak x && test x

def skipWhile (c : Cursor) (test : Char → Bool) : Cursor := c.skip (c.ahead test).length

def skipLine (c : Cursor) : Cursor := c.skipWhile fun _ => true

def peek? (c : Cursor) : Option Char := c.rest.head?

/-- The place after the mark of byte order that a line may begin with. The mark takes a column. -/
def skipMark (c : Cursor) : Cursor :=
  if c.column = 0 ∧ c.peek? = some '\ufeff' then c.skip 1 else c

def startsMarker (c : Cursor) (mark : Char) : Bool :=
  c.column == 0 && c.rest.take 3 == [mark, mark, mark] && startsGap (c.rest.drop 3)

def startsDocument (c : Cursor) : Bool := c.startsMarker '-' || c.startsMarker '.'

end Cursor

end LiveTable.Yaml
