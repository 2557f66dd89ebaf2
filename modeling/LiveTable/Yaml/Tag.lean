import LiveTable.Text.Hex
import LiveTable.Yaml.Cursor
set_option autoImplicit false

/-!
# Tags of YAML

A tag stands before a node and says what the node is. It is written in a few plain characters, and
percent signs introduce the octets that these cannot write. The octets of a tag end before the first
zero, and a tag whose octets are no text says nothing.
-/

namespace LiveTable.Yaml

def isNameChar (c : Char) : Bool := c.isAlphanum || c = '_' || c = '-'

/-- Whether a character may stand in the suffix of a tag; in a full tag and in a directive some more
may. -/
def isTagChar (full : Bool) (c : Char) : Bool :=
  isNameChar c || ";/?:@&=+$.!~*'()%".toList.contains c || (full && ",[]".toList.contains c)

structure Tag where
  octets : List UInt8
deriving DecidableEq, Repr

namespace Tag

def ofText (text : String) : Tag := ⟨text.toUTF8.toList⟩

def text? (tag : Tag) : Option String := String.fromUTF8? ⟨tag.octets.toArray⟩

def append (first second : Tag) : Tag := ⟨first.octets ++ second.octets⟩

/-- How many octets follow the given one in the sequence that it begins. -/
def following? (octet : UInt8) : Option Nat :=
  if octet < 0x80 then some 0
  else if octet < 0xC0 then none
  else if octet < 0xE0 then some 1
  else if octet < 0xF0 then some 2
  else if octet < 0xF8 then some 3
  else none

/-- The octets that some characters stand for, when `missing` octets of a sequence that has begun
are still to come. The octets of one sequence are all introduced by percent signs. -/
def octets? (missing : Nat) : List Char → Option (List UInt8)
  | [] => if missing = 0 then some [] else none
  | '%' :: a :: b :: rest => do
    let octet := (← Text.readHex? 0 [a, b]).toUInt8
    let missing ←
      match missing with
      | 0 => following? octet
      | n + 1 => if 0x80 ≤ octet ∧ octet < 0xC0 then some n else none
    return octet :: (← octets? missing rest)
  | '%' :: _ => none
  | c :: rest => if missing = 0 then (octets? 0 rest).map (c.toNat.toUInt8 :: ·) else none

def ofChars? (cs : List Char) : Option Tag :=
  (octets? 0 cs).map fun octets => ⟨octets.takeWhile (· ≠ 0)⟩

/-- Reads the handle of a tag: an exclamation mark, or a name between two. -/
def readHandle (c : Cursor) : Option (List Char × Cursor) :=
  if c.peek? = some '!' then
    let name := (c.skip 1).ahead isNameChar
    let after := c.skip (name.length + 1)
    if after.peek? = some '!' then some ('!' :: name ++ ['!'], after.skip 1)
    else some ('!' :: name, after)
  else none

/-- Reads a tag: its handle, which may be empty, its suffix and the place behind it. -/
def read (c : Cursor) : Option (String × Tag × Cursor) :=
  if (c.skip 1).peek? = some '<' then do
    let suffix := (c.skip 2).ahead (isTagChar true)
    let after := c.skip (suffix.length + 2)
    if suffix.isEmpty || after.peek? ≠ some '>' then none
    return ("", ← ofChars? suffix, after.skip 1)
  else do
    let (handle, after) ← readHandle c
    let rest := after.ahead (isTagChar false)
    let after := after.skip rest.length
    if 1 < handle.length && handle.getLast? = some '!' then
      if rest.isEmpty then none
      return (String.ofList handle, ← ofChars? rest, after)
    else
      let suffix ← ofChars? (handle.drop 1 ++ rest)
      return if suffix.octets.isEmpty then ("", ofText "!", after) else ("!", suffix, after)

example : ofChars? "int%00eger".toList = some (ofText "int") := by decide +kernel

example : ofChars? "%C3%a9".toList = some (ofText "é") := by decide +kernel

example : (ofChars? "%C0%80".toList).map text? = some none := by decide +kernel

example : ofChars? "%C3x".toList = none := by decide +kernel

end Tag

end LiveTable.Yaml
