import LiveTable.Json.Decode
import LiveTable.Text.Hex
set_option autoImplicit false

/-!
# Query epochs

An epoch names one logical query by 128 bits. Its token has 32 hexadecimal digits. An echoed token
is recognised in four layouts and with letters of either case; any other text names no epoch.
-/

namespace LiveTable

structure Epoch where
  value : BitVec 128
deriving DecidableEq

namespace Epoch

def digits (e : Epoch) : List Char := Text.hexDigits 32 e.value.toNat

/-- Groups of 8, 4, 4, 4 and 12 digits with hyphens between them. -/
def hyphenate (digits : List Char) : List Char :=
  digits.take 8 ++ '-' :: (digits.drop 8).take 4 ++ '-' :: (digits.drop 12).take 4 ++
    '-' :: (digits.drop 16).take 4 ++ '-' :: digits.drop 20

def scheme : List Char := "urn:uuid:".toList

/-- The layouts an epoch can be written in. -/
inductive Layout
  | plain
  | hyphenated
  | braced
  | resourceName
deriving DecidableEq

def Layout.write (layout : Layout) (digits : List Char) : List Char :=
  match layout with
  | plain => digits
  | hyphenated => hyphenate digits
  | braced => '\x7b' :: hyphenate digits ++ ['\x7d']
  | resourceName => scheme ++ hyphenate digits

/-- An epoch as it is sent and shown. -/
def token (e : Epoch) : String := String.ofList e.digits

/-- An epoch as it is stored. -/
def hyphenated (e : Epoch) : String := String.ofList (hyphenate e.digits)

/-- Takes the hyphens out of 36 characters that have them at their places. -/
def unhyphenate? (cs : List Char) : Option (List Char) :=
  if cs.length = 36 ∧ cs[8]? = some '-' ∧ cs[13]? = some '-' ∧ cs[18]? = some '-' ∧
      cs[23]? = some '-' then
    some (cs.take 8 ++ (cs.drop 9).take 4 ++ (cs.drop 14).take 4 ++ (cs.drop 19).take 4 ++
      cs.drop 24)
  else none

def unbrace? : List Char → Option (List Char)
  | '\x7b' :: rest => if rest.getLast? = some '\x7d' then some rest.dropLast else none
  | _ => none

/-- What follows the scheme, which may be written in letters of either case. -/
def unscheme? (cs : List Char) : Option (List Char) :=
  if (cs.take scheme.length).map Char.toLower = scheme then some (cs.drop scheme.length) else none

/-- The digits of a text in one of the layouts, which are told apart by their lengths. -/
def digits? (cs : List Char) : Option (List Char) :=
  match cs.length with
  | 32 => some cs
  | 36 => unhyphenate? cs
  | 38 => (unbrace? cs).bind unhyphenate?
  | 45 => (unscheme? cs).bind unhyphenate?
  | _ => none

def ofText? (text : String) : Option Epoch :=
  (digits? text.toList).bind fun digits =>
    (Text.readHex? 0 digits).map fun value => ⟨BitVec.ofNat 128 value⟩

def matchesToken (e : Epoch) (text : String) : Bool := ofText? text = some e

def toJson (e : Epoch) : Json := .text e.hyphenated

def ofJson? (v : Json) : Option Epoch := v.text?.bind ofText?

example : ofText? "URN:uuid:01234567-89ab-CDEF-0123-456789abcdef" =
    some ⟨0x0123456789abcdef0123456789abcdef#128⟩ := by decide +kernel

example : ofText? "0123456789abcdef0123456789abcdef0" = none := by decide

example : (Epoch.mk 0x0123456789abcdef0123456789abcdef#128).hyphenated =
    "01234567-89ab-cdef-0123-456789abcdef" := by decide +kernel

end Epoch

end LiveTable
