import LiveTable.Json.Printer
set_option autoImplicit false

/-!
# Failures

What can go wrong in a table, as causes. A failure has a code, which names its kind, and a message,
which is the code followed by the wording of the cause.
-/

namespace LiveTable

inductive Malformed
  | answerNotObject
  | identifierNotText (found : Json)
  | noResults
  | itemNotObject
  | itemWithoutIdentity
  | totalNotCount (found : Json)
  | dirtyNotFlag (found : Json)
  | listingWithoutDirty
  | patchWithoutDirty
  /-- A fault that another component describes. -/
  | reported (detail : String)
deriving DecidableEq

inductive Unsupported
  | readOnlyRows (table : String)
  | noPreview (table : String)
  /-- A limit that another component describes. -/
  | reported (detail : String)
deriving DecidableEq

inductive SettingFault
  | batchTooSmall (size : UInt32)
  | noEventCapacity
  | blankSortColumn
  | noSuchFile
  | notText
  | notSettings
  /-- A fault that another component describes. -/
  | reported (detail : String)
deriving DecidableEq

inductive Broken
  | window (first last : UInt32)
  | queryNotObject
  /-- A fault that another component describes. -/
  | reported (detail : String)
deriving DecidableEq

inductive Failure
  | transport (reason : String)
  | malformed (cause : Malformed)
  | unsupported (cause : Unsupported)
  | config (cause : SettingFault)
  | internal (cause : Broken)
deriving DecidableEq

def Malformed.detail : Malformed → String
  | answerNotObject => "query response is not an object"
  | identifierNotText found => "uuid must be a string, got " ++ found.render
  | noResults => "query response has no results list"
  | itemNotObject => "result item is not an object"
  | itemWithoutIdentity => "result item has no identity field"
  | totalNotCount found => "total must be a count, got " ++ found.render
  | dirtyNotFlag found => "dirty must be a boolean, got " ++ found.render
  | listingWithoutDirty => "owned listing response has no dirty flag"
  | patchWithoutDirty => "patch response has no dirty flag"
  | reported detail => detail

def Unsupported.detail : Unsupported → String
  | readOnlyRows table => table ++ " rows are read-only"
  | noPreview table => table ++ " has no preview"
  | reported detail => detail

def SettingFault.detail : SettingFault → String
  | batchTooSmall size => "batchSize must be at least 2, got " ++ Nat.repr size.toNat
  | noEventCapacity => "eventCapacity must be positive"
  | blankSortColumn => "defaultSort.column cannot be empty"
  | noSuchFile => "No such file or directory (os error 2)"
  | notText => "stream did not contain valid UTF-8"
  | notSettings => "the text does not describe settings"
  | reported detail => detail

def Broken.detail : Broken → String
  | window first last =>
    "invalid pagination window [" ++ Nat.repr first.toNat ++ ", " ++ Nat.repr last.toNat ++ ")"
  | queryNotObject => "query parameters did not serialize to an object"
  | reported detail => detail

namespace Failure

def code : Failure → String
  | transport _ => "TRANSPORT_FAILURE"
  | malformed _ => "MALFORMED_RESPONSE"
  | unsupported _ => "UNSUPPORTED"
  | config _ => "CONFIG_INVALID"
  | internal _ => "INTERNAL"

def detail : Failure → String
  | transport reason => reason
  | malformed cause => cause.detail
  | unsupported cause => cause.detail
  | config cause => cause.detail
  | internal cause => cause.detail

def message (failure : Failure) : String := failure.code ++ ": " ++ failure.detail

/-- The reason of a transport failure that callers added context to, the last one first. -/
def layeredReason (root : String) (context : List String) : String :=
  ": ".intercalate (context.reverse ++ [root])

end Failure

end LiveTable
