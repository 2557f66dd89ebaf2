import LiveTable.Yaml.Tag
set_option autoImplicit false

/-!
# Tokens of YAML

The pieces that a YAML text is made of, with the blocks that its indentation opens and closes made
explicit.
-/

namespace LiveTable.Yaml

inductive ScalarStyle
  | plain
  /-- Between quotes of either kind. -/
  | quoted
  /-- A block whose lines are kept. -/
  | literal
  /-- A block whose lines are joined. -/
  | folded
deriving DecidableEq, Repr

inductive Token
  | versionDirective (major minor : Nat)
  | tagDirective (handle : String) (meaning : Tag)
  | documentStart
  | documentEnd
  | blockSequenceStart
  | blockMappingStart
  | blockEnd
  | flowSequenceStart
  | flowSequenceEnd
  | flowMappingStart
  | flowMappingEnd
  | blockEntry
  | flowEntry
  | key
  | value
  | alias (name : String)
  | anchor (name : String)
  | tag (handle : String) (suffix : Tag)
  | scalar (text : String) (style : ScalarStyle)
  | streamEnd
deriving DecidableEq, Repr

end LiveTable.Yaml
