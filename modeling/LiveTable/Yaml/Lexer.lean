import LiveTable.Yaml.Scalar
import LiveTable.Yaml.Token
set_option autoImplicit false

/-!
# From YAML texts to tokens

Blocks are opened and closed by indentation. Whether a scalar is the key of a mapping shows only at
the colon behind it, so the place of a possible key is remembered and the tokens before it are put
in later. Such a key has to stand in one line, not more than 1024 octets before its colon.
-/

namespace LiveTable.Yaml

structure PossibleKey where
  /-- How many tokens stand before it. -/
  tokenCount : Nat
  line : Nat
  column : Nat
  offset : Nat
  /-- Whether nothing else can stand here. -/
  isRequired : Bool

structure Lexer where
  cursor : Cursor
  tokens : Array Token
  /-- The indentation of the innermost block. -/
  indent : Int
  /-- The indentations of the blocks around it. -/
  outerIndents : List Int
  /-- The place where a key of the innermost collection may have begun. -/
  possibleKey : Option PossibleKey
  /-- The same for the collections around it, for every flow collection that is open. -/
  outerKeys : List (Option PossibleKey)
  /-- Whether a key may begin here. -/
  keyAllowed : Bool

namespace Lexer

def start (cs : List Char) : Lexer := ⟨.start cs, #[], -1, [], none, [], true⟩

def inFlow (l : Lexer) : Bool := !l.outerKeys.isEmpty

def emit (l : Lexer) (token : Token) : Lexer := { l with tokens := l.tokens.push token }

def emitFor (l : Lexer) (count : Nat) (token : Token) : Lexer :=
  { l with cursor := l.cursor.skip count }.emit token

def insertAt (l : Lexer) (place : Nat) (token : Token) : Lexer :=
  { l with tokens := l.tokens.insertIdxIfInBounds place token }

/-! ## Possible keys -/

/-- Forgets a possible key that the text has passed by, unless it had to be one. -/
def expire (c : Cursor) (key : Option PossibleKey) : Option (Option PossibleKey) :=
  match key with
  | none => some none
  | some k =>
    if k.line < c.line ∨ k.offset + 1024 < c.offset then if k.isRequired then none else some none
    else some (some k)

def expireKeys (l : Lexer) : Option Lexer := do
  let possibleKey ← expire l.cursor l.possibleKey
  let outerKeys ← l.outerKeys.mapM (expire l.cursor)
  return { l with possibleKey := possibleKey, outerKeys := outerKeys }

def dropKey (l : Lexer) : Option Lexer :=
  if (l.possibleKey.map (·.isRequired)).getD false then none
  else some { l with possibleKey := none }

def saveKey (l : Lexer) : Option Lexer := do
  if !l.keyAllowed then return l
  let isRequired := !l.inFlow && l.indent = l.cursor.column
  let l ← l.dropKey
  let c := l.cursor
  let key : PossibleKey := ⟨l.tokens.size, c.line, c.column, c.offset, isRequired⟩
  return { l with possibleKey := some key }

/-! ## Blocks -/

/-- Opens a block if the given column is indented further than the innermost one. Its token goes to
the given place. -/
def openBlock (l : Lexer) (column place : Nat) (token : Token) : Lexer :=
  if !l.inFlow && l.indent < column then
    { l with indent := column, outerIndents := l.indent :: l.outerIndents }.insertAt place token
  else l

/-- Closes blocks given by their indentations, from the innermost, as long as they are indented
further than the given column. -/
def closeFrom (column : Int) (l : Lexer) : List Int → Lexer
  | [] => l
  | outer :: rest =>
    if column < l.indent then
      closeFrom column { l.emit .blockEnd with indent := outer, outerIndents := rest } rest
    else l

def closeBlocks (l : Lexer) (column : Int) : Lexer :=
  if l.inFlow then l else closeFrom column l l.outerIndents

/-! ## Tokens -/

/-- Passes over blanks, comments and line ends. A tab may not stand where a key may begin. -/
def skipGaps : (fuel : Nat) → Lexer → Lexer
  | 0, l => l
  | fuel + 1, l =>
    let tabs := l.inFlow || !l.keyAllowed
    let c := l.cursor.skipMark.skipWhile fun x => x = ' ' || (tabs && x = '\t')
    let c := if c.peek? = some '#' then c.skipLine else c
    if (c.peek?.map isBreak).getD false then
      skipGaps fuel { l with cursor := c.skipBreak, keyAllowed := l.keyAllowed || !l.inFlow }
    else { l with cursor := c }

def fetchEnd (l : Lexer) : Option Lexer := do
  let l ← (l.closeBlocks (-1)).dropKey
  return l.emit .streamEnd

def fetchDocumentMark (l : Lexer) (token : Token) : Option Lexer := do
  let l ← (l.closeBlocks (-1)).dropKey
  return { l.emitFor 3 token with keyAllowed := false }

def fetchFlowStart (l : Lexer) (token : Token) : Option Lexer := do
  let l ← l.saveKey
  return { l.emitFor 1 token with
    outerKeys := l.possibleKey :: l.outerKeys
    possibleKey := none
    keyAllowed := true }

def fetchFlowEnd (l : Lexer) (token : Token) : Option Lexer := do
  let l ← l.dropKey
  let l := { l.emitFor 1 token with keyAllowed := false }
  match l.outerKeys with
  | [] => return l
  | key :: rest => return { l with possibleKey := key, outerKeys := rest }

def fetchFlowEntry (l : Lexer) : Option Lexer := do
  let l ← l.dropKey
  return { l.emitFor 1 .flowEntry with keyAllowed := true }

def fetchBlockEntry (l : Lexer) : Option Lexer := do
  if !l.inFlow && !l.keyAllowed then none
  let l ← (l.openBlock l.cursor.column l.tokens.size .blockSequenceStart).dropKey
  return { l.emitFor 1 .blockEntry with keyAllowed := true }

def fetchKey (l : Lexer) : Option Lexer := do
  if !l.inFlow && !l.keyAllowed then none
  let l ← (l.openBlock l.cursor.column l.tokens.size .blockMappingStart).dropKey
  return { l.emitFor 1 .key with keyAllowed := !l.inFlow }

/-- The colon before a value. If a key may have begun before it, it has. -/
def fetchValue (l : Lexer) : Option Lexer :=
  match l.possibleKey with
  | some key =>
    let l := (l.insertAt key.tokenCount .key).openBlock key.column key.tokenCount .blockMappingStart
    some { l.emitFor 1 .value with possibleKey := none, keyAllowed := false }
  | none =>
    if !l.inFlow && !l.keyAllowed then none
    else
      let l := l.openBlock l.cursor.column l.tokens.size .blockMappingStart
      some { l.emitFor 1 .value with keyAllowed := !l.inFlow }

def fetchName (l : Lexer) (token : String → Token) : Option Lexer := do
  let l ← l.saveKey
  let name := (l.cursor.skip 1).ahead isNameChar
  let l := { l.emitFor (name.length + 1) (token (String.ofList name)) with keyAllowed := false }
  let closed := startsGap l.cursor.rest ||
    (l.cursor.peek?.map fun c => "?:,]\x7d%@\x60".toList.contains c).getD false
  if name.isEmpty || !closed then none
  return l

def fetchTag (l : Lexer) : Option Lexer := do
  let l ← l.saveKey
  let (handle, suffix, after) ← Tag.read l.cursor
  if !(startsGap after.rest || (l.inFlow && after.peek? = some ',')) then none
  return { { l with cursor := after }.emit (.tag handle suffix) with keyAllowed := false }

def fetchBlockScalar (l : Lexer) (isLiteral : Bool) : Option Lexer := do
  let l ← l.dropKey
  let (text, after) ← readBlock isLiteral l.indent (l.cursor.skip 1)
  let style : ScalarStyle := if isLiteral then .literal else .folded
  return { { l with cursor := after }.emit (.scalar (String.ofList text) style) with
    keyAllowed := true }

def fetchQuoted (fuel : Nat) (l : Lexer) (quote : Char) : Option Lexer := do
  let l ← l.saveKey
  let (text, after) ← readQuoted quote fuel [] (l.cursor.skip 1)
  return { { l with cursor := after }.emit (.scalar (String.ofList text) .quoted) with
    keyAllowed := false }

def fetchPlain (fuel : Nat) (l : Lexer) : Option Lexer := do
  let l ← l.saveKey
  let scalar ← readPlain l.inFlow (l.indent + 1).toNat fuel [] [] l.cursor
  return { { l with cursor := scalar.after }.emit (.scalar (String.ofList scalar.text) .plain) with
    keyAllowed := scalar.endsLine }

def readVersion (c : Cursor) : Option (Token × Cursor) := do
  let c := c.skipWhile isBlank
  let major := c.ahead Char.isDigit
  let c := c.skip major.length
  if major.isEmpty || 9 < major.length || c.peek? ≠ some '.' then none
  let c := c.skip 1
  let minor := c.ahead Char.isDigit
  if minor.isEmpty || 9 < minor.length then none
  return (.versionDirective (Nat.ofDigitChars 10 major 0) (Nat.ofDigitChars 10 minor 0),
    c.skip minor.length)

def readTagMeaning (c : Cursor) : Option (Token × Cursor) := do
  let (handle, c) ← Tag.readHandle (c.skipWhile isBlank)
  if handle ≠ ['!'] && (handle.length < 2 || handle.getLast? ≠ some '!') then none
  if !(c.peek?.map isBlank).getD false then none
  let c := c.skipWhile isBlank
  let meaning := c.ahead (isTagChar true)
  let c := c.skip meaning.length
  if meaning.isEmpty || !startsGap c.rest then none
  return (.tagDirective (String.ofList handle) (← Tag.ofChars? meaning), c)

def fetchDirective (l : Lexer) : Option Lexer := do
  let l ← (l.closeBlocks (-1)).dropKey
  let name := (l.cursor.skip 1).ahead isNameChar
  let c := l.cursor.skip (name.length + 1)
  if !startsGap c.rest then none
  let (token, c) ←
    if name = "YAML".toList then readVersion c
    else if name = "TAG".toList then readTagMeaning c
    else none
  let c := c.skipWhile isBlank
  let c := if c.peek? = some '#' then c.skipLine else c
  if !(c.peek?.map isBreak).getD true then none
  let c := if c.rest.isEmpty then c else c.skipBreak
  return { { l with cursor := c }.emit token with keyAllowed := false }

def startsPlain (inFlow : Bool) : List Char → Bool
  | [] => false
  | c :: rest =>
    !(isGap c || "-?:,[]\x7b\x7d#&*!|>'\"%@\x60".toList.contains c) ||
      (c = '-' && !(rest.head?.map isBlank).getD false) ||
      (!inFlow && (c = '?' || c = ':') && !startsGap rest)

/-- Reads the tokens at the next place that is not a gap. The fuel is enough if it is more than the
number of characters ahead. -/
def fetch (fuel : Nat) (l : Lexer) : Option Lexer := do
  let l ← (skipGaps fuel l).expireKeys
  let l := l.closeBlocks l.cursor.column
  match l.cursor.rest with
  | [] => l.fetchEnd
  | c :: rest =>
    if l.cursor.column = 0 ∧ c = '%' then l.fetchDirective
    else if l.cursor.startsMarker '-' then l.fetchDocumentMark .documentStart
    else if l.cursor.startsMarker '.' then l.fetchDocumentMark .documentEnd
    else if c = '[' then l.fetchFlowStart .flowSequenceStart
    else if c = '\x7b' then l.fetchFlowStart .flowMappingStart
    else if c = ']' then l.fetchFlowEnd .flowSequenceEnd
    else if c = '\x7d' then l.fetchFlowEnd .flowMappingEnd
    else if c = ',' then l.fetchFlowEntry
    else if c = '-' ∧ startsGap rest then l.fetchBlockEntry
    else if c = '?' ∧ (l.inFlow ∨ startsGap rest) then l.fetchKey
    else if c = ':' ∧ (l.inFlow ∨ startsGap rest) then l.fetchValue
    else if c = '*' then l.fetchName .alias
    else if c = '&' then l.fetchName .anchor
    else if c = '!' then l.fetchTag
    else if c = '|' ∧ !l.inFlow then l.fetchBlockScalar true
    else if c = '>' ∧ !l.inFlow then l.fetchBlockScalar false
    else if c = '\'' ∨ c = '"' then l.fetchQuoted fuel c
    else if startsPlain l.inFlow (c :: rest) then l.fetchPlain fuel
    else none

/-- Reads tokens to the end of the text. Each fetch but the last passes over some character. -/
def fetchAll : (fuel : Nat) → Lexer → Option (List Token)
  | 0, _ => none
  | fuel + 1, l => do
    let l ← l.fetch fuel
    if l.tokens.back? = some .streamEnd then return l.tokens.toList
    fetchAll fuel l

end Lexer

def tokens? (text : String) : Option (List Token) :=
  let cs := text.toList
  if cs.all isAllowed then Lexer.fetchAll (cs.length + 2) (.start (normalize cs)) else none

example : tokens? "a: [1]" = some [.blockMappingStart, .key, .scalar "a" .plain, .value,
    .flowSequenceStart, .scalar "1" .plain, .flowSequenceEnd, .blockEnd, .streamEnd] := by
  decide +kernel

end LiveTable.Yaml
