import LiveTable.Yaml.Lexer
set_option autoImplicit false

/-!
# Nodes of YAML

The tree that a YAML text describes. A node that is used again is an alias, which leads to the table
of the nodes with anchors; since a node may contain an alias to itself, the table stands beside the
tree. An anchor is numbered by how many names there were before it. A name that is given again is
not a further name, so its second node and the next name share a number, and every alias with that
number leads to the last node of the document that has it.
-/

namespace LiveTable.Yaml

inductive Node
  | scalar (tag : Option String) (style : ScalarStyle) (text : String)
  | sequence (tag : Option String) (items : List Node)
  | mapping (tag : Option String) (entries : List (Node × Node))
  | alias (number : Nat)

namespace Node

def empty : Node := .scalar none .plain ""

instance : Inhabited Node := ⟨empty⟩

structure State where
  tokens : List Token
  /-- The meanings of the handles of tags. -/
  handles : List (String × Tag)
  /-- The names of anchors with the numbers that they have at present. -/
  anchors : List (String × Nat)
  /-- The places of the anchored nodes by their numbers, the latest first. -/
  places : List (Nat × Nat)
  /-- The nodes with anchors in the order in which they begin. -/
  anchored : Array Node

abbrev Reader := StateT State Option

def next : Reader Token := do
  match (← get).tokens with
  | token :: _ => return token
  | [] => failure

def pass : Reader Unit := modify fun s => { s with tokens := s.tokens.drop 1 }

def expect (token : Token) : Reader Unit := do
  if (← next) = token then pass else failure

/-- What the handles of tags mean unless a directive tells otherwise. -/
def defaultHandles : List (String × Tag) :=
  [("!", .ofText "!"), ("!!", .ofText "tag:yaml.org,2002:")]

def resolveTag (handle : String) (suffix : Tag) : Reader Tag := do
  if handle.isEmpty then return suffix
  match ((← get).handles ++ defaultHandles).find? (·.1 = handle) with
  | some (_, meaning) => return meaning.append suffix
  | none => failure

structure Properties where
  anchor : Option String
  tag : Option Tag

def readTag : Reader (Option Tag) := do
  match ← next with
  | .tag handle suffix =>
    pass
    return some (← resolveTag handle suffix)
  | _ => return none

def readAnchor : Reader (Option String) := do
  match ← next with
  | .anchor name =>
    pass
    return some name
  | _ => return none

def readProperties : Reader Properties := do
  match ← readAnchor with
  | some name => return ⟨some name, ← readTag⟩
  | none =>
    let tag ← readTag
    if tag.isSome then return ⟨← readAnchor, tag⟩ else return ⟨none, none⟩

/-- Makes an anchor known before its node is read, and gives the place of the node. -/
def declare (anchor : Option String) : Reader (Option Nat) := do
  match anchor with
  | none => return none
  | some name =>
    let s ← get
    let number := s.anchors.length
    let place := s.anchored.size
    set { s with
      anchors := (name, number) :: s.anchors.filter (·.1 ≠ name)
      places := (number, place) :: s.places
      anchored := s.anchored.push empty }
    return some place

def file (place : Option Nat) (node : Node) : Reader Node := do
  if let some n := place then
    modify fun s => { s with anchored := s.anchored.setIfInBounds n node }
  return node

def readAlias (name : String) : Reader Node := do
  match (← get).anchors.find? (·.1 = name) with
  | some (_, number) => return .alias number
  | none => failure

mutual

/-- Reads a node. Only in a block may it be a block collection, and only behind a key may the
entries of a sequence stand without a block of their own. -/
def read (fuel : Nat) (inBlock afterKey : Bool) : Reader Node :=
  match fuel with
  | 0 => failure
  | fuel + 1 => do
    if let .alias name ← next then
      pass
      return ← readAlias name
    let properties ← readProperties
    let tag := properties.tag.bind Tag.text?
    let token ← next
    let known := properties.anchor.isSome || properties.tag.isSome
    if token = .blockEntry && afterKey then
      let place ← declare properties.anchor
      file place (.sequence tag (← readEntries fuel false []))
    else
      match token with
      | .scalar text style =>
        pass
        let place ← declare properties.anchor
        file place (.scalar tag style text)
      | .flowSequenceStart =>
        pass
        let place ← declare properties.anchor
        file place (.sequence tag (← readFlowItems fuel []))
      | .flowMappingStart =>
        pass
        let place ← declare properties.anchor
        file place (.mapping tag (← readFlowEntries fuel []))
      | .blockSequenceStart =>
        if !inBlock then failure
        pass
        let place ← declare properties.anchor
        file place (.sequence tag (← readEntries fuel true []))
      | .blockMappingStart =>
        if !inBlock then failure
        pass
        let place ← declare properties.anchor
        file place (.mapping tag (← readPairs fuel []))
      | _ =>
        if !known then failure
        let place ← declare properties.anchor
        file place (.scalar tag .plain "")

/-- Reads the entries of a block sequence behind those of `before`. One with a block of its own ends
with the block. -/
def readEntries (fuel : Nat) (ownBlock : Bool) (before : List Node) : Reader (List Node) :=
  match fuel with
  | 0 => failure
  | fuel + 1 => do
    match ← next with
    | .blockEntry =>
      pass
      let token ← next
      let isEmpty := token = .blockEntry || token = .blockEnd ||
        (!ownBlock && (token = .key || token = .value))
      let node ← if isEmpty then pure empty else read fuel true false
      readEntries fuel ownBlock (node :: before)
    | .blockEnd =>
      if ownBlock then pass
      return before.reverse
    | _ => if ownBlock then failure else return before.reverse

def readPairs (fuel : Nat) (before : List (Node × Node)) : Reader (List (Node × Node)) :=
  match fuel with
  | 0 => failure
  | fuel + 1 => do
    match ← next with
    | .blockEnd =>
      pass
      return before.reverse
    | .key =>
      pass
      let token ← next
      let key ←
        if token = .key || token = .value || token = .blockEnd then pure empty
        else read fuel true true
      if (← next) = .value then
        pass
        let token ← next
        let value ←
          if token = .key || token = .value || token = .blockEnd then pure empty
          else read fuel true true
        readPairs fuel ((key, value) :: before)
      else readPairs fuel ((key, empty) :: before)
    | _ => failure

/-- Reads the entries of a flow sequence behind those of `before`, which are in reverse. An entry
may be a mapping with a single entry. -/
def readFlowItems (fuel : Nat) (before : List Node) : Reader (List Node) :=
  match fuel with
  | 0 => failure
  | fuel + 1 => do
    let token ← next
    if token = .flowSequenceEnd then
      pass
      return before.reverse
    if !before.isEmpty then expect .flowEntry
    match ← next with
    | .flowSequenceEnd =>
      pass
      return before.reverse
    | .key =>
      pass
      let token ← next
      let key ←
        if token = .value || token = .flowEntry || token = .flowSequenceEnd then do
          pass
          pure empty
        else read fuel false false
      let value ←
        if (← next) = .value then do
          pass
          let token ← next
          if token = .flowEntry || token = .flowSequenceEnd then pure empty
          else read fuel false false
        else pure empty
      readFlowItems fuel (.mapping none [(key, value)] :: before)
    | _ =>
      let node ← read fuel false false
      readFlowItems fuel (node :: before)

/-- Reads the entries of a flow mapping behind those of `before`, which are in reverse. A node that
no question mark or colon makes a key has no value. -/
def readFlowEntries (fuel : Nat) (before : List (Node × Node)) : Reader (List (Node × Node)) :=
  match fuel with
  | 0 => failure
  | fuel + 1 => do
    let token ← next
    if token = .flowMappingEnd then
      pass
      return before.reverse
    if !before.isEmpty then expect .flowEntry
    match ← next with
    | .flowMappingEnd =>
      pass
      return before.reverse
    | .key =>
      pass
      let token ← next
      let key ←
        if token = .value || token = .flowEntry || token = .flowMappingEnd then pure empty
        else read fuel false false
      let value ←
        if (← next) = .value then do
          pass
          let token ← next
          if token = .flowEntry || token = .flowMappingEnd then pure empty
          else read fuel false false
        else pure empty
      readFlowEntries fuel ((key, value) :: before)
    | _ =>
      let key ← read fuel false false
      readFlowEntries fuel ((key, empty) :: before)

end

end Node

/-- A document: its tree, if anything is written, and the nodes with anchors, which are found by way
of their numbers. -/
structure Document where
  root : Option Node
  places : List (Nat × Nat)
  anchored : Array Node

namespace Document

open Node (Reader next pass expect)

/-- The node behind an alias; other nodes stand for themselves. -/
def resolve (d : Document) : Node → Node
  | .alias number => ((d.places.lookup number).bind (d.anchored[·]?)).getD Node.empty
  | node => node

/-- Reads the directives before a document: at most one version, and every handle once. -/
def readDirectives : (fuel : Nat) → (versioned : Bool) → Reader Unit
  | 0, _ => failure
  | fuel + 1, versioned => do
    match ← next with
    | .versionDirective major minor =>
      if versioned || major ≠ 1 || (minor ≠ 1 && minor ≠ 2) then failure
      pass
      readDirectives fuel true
    | .tagDirective handle meaning =>
      if (← get).handles.any (·.1 = handle) then failure
      pass
      modify fun s => { s with handles := s.handles ++ [(handle, meaning)] }
      readDirectives fuel versioned
    | _ => return

def readEnd : (fuel : Nat) → Reader Unit
  | 0 => failure
  | fuel + 1 => do
    match ← next with
    | .documentEnd =>
      pass
      readEnd fuel
    | .streamEnd => return
    | _ => failure

def readRoot (fuel : Nat) : Reader (Option Node) := do
  match ← next with
  | .streamEnd => return none
  | .versionDirective _ _ | .tagDirective _ _ | .documentStart =>
    readDirectives fuel false
    expect .documentStart
    let token ← next
    let root ←
      match token with
      | .versionDirective _ _ | .tagDirective _ _ | .documentStart | .documentEnd | .streamEnd =>
        pure Node.empty
      | _ => Node.read fuel true false
    readEnd fuel
    return some root
  | _ =>
    let root ← Node.read fuel true false
    readEnd fuel
    return some root

def ofText? (text : String) : Option Document := do
  let tokens ← tokens? text
  let (root, s) ← (readRoot (4 * tokens.length + 4)).run ⟨tokens, [], [], [], #[]⟩
  return ⟨root, s.places, s.anchored⟩

end Document

end LiveTable.Yaml
