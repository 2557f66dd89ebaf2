import LiveTable.Answer
import LiveTable.Text.LowerCase
set_option autoImplicit false

/-!
# Targets

The four kinds of listings that a table can show. A target fixes where its rows are asked for and
with which further parameters, what its answers have to carry, and what can be done with its rows.
-/

namespace LiveTable

inductive RowAction
  | download
  | play
  | addToOwnedListing
  | removeFromOwnedListing
deriving DecidableEq

namespace RowAction

def all : List RowAction := [download, play, addToOwnedListing, removeFromOwnedListing]

def name : RowAction → String
  | download => "download"
  | play => "play"
  | addToOwnedListing => "add-to-owned-listing"
  | removeFromOwnedListing => "remove-from-owned-listing"

def toJson (action : RowAction) : Json := .text action.name

def ofJson? : Json → Option RowAction := Json.case? all name

end RowAction

/-- The listing that a table shows. -/
inductive Target
  /-- A search over everything, possibly for one type of rows only. -/
  | search (metadataType : Option String)
  /-- The channels, all of them or those subscribed to. -/
  | filteredListing (subscribed : Bool)
  /-- The rows of one channel. -/
  | parentScoped (publicKey : String) (channelId : UInt64)
  /-- The rows of the caller's own channel, which can be edited. -/
  | ownedListing (excludeDeleted : Bool)
deriving DecidableEq

namespace Target

def name : Target → String
  | search _ => "search"
  | filteredListing _ => "filtered-listing"
  | parentScoped _ _ => "parent-scoped"
  | ownedListing _ => "owned-listing"

def isOwned : Target → Bool
  | ownedListing _ => true
  | _ => false

def searchEndpoint : String := "search"

def channelsEndpoint : String := "metadata/channels"

def ownedEndpoint : String := "mychannel/torrents"

def endpoint : Target → String
  | search _ => searchEndpoint
  | filteredListing _ => channelsEndpoint
  | parentScoped publicKey channelId =>
    channelsEndpoint ++ "/" ++ publicKey ++ "/" ++ Nat.repr channelId.toNat ++ "/torrents"
  | ownedListing _ => ownedEndpoint

/-- The parameters of a target beyond those of every query. -/
def extraParams : Target → Fields
  | search (some metadataType) => [("metadata_type", .text metadataType)]
  | search none => []
  | filteredListing subscribed => [("subscribed", .bool subscribed)]
  | parentScoped _ _ => []
  | ownedListing excludeDeleted => [("exclude_deleted", .bool excludeDeleted)]

/-- Whether filter texts are put into small letters; searches keep them as typed. -/
def bindsFilterInput : Target → Bool
  | search _ => false
  | _ => true

def boundFilter (target : Target) (text : String) : String :=
  if target.bindsFilterInput then Text.toLower text else text

def hasRowActions : Target → Bool
  | filteredListing _ => false
  | _ => true

/-- Checks what a target's answers need beyond the common shape: the backend has to tell whether the
caller's own listing has unpublished changes. -/
def validate (target : Target) (answer : Answer) (origin : Origin) : Except Failure Unit :=
  if target.isOwned ∧ origin = .backend ∧ answer.dirty = none then
    .error (.malformed .listingWithoutDirty)
  else .ok ()

/-- What an admitted answer says about unpublished changes. -/
def dirtyAfter (target : Target) (answer : Answer) : Option Bool :=
  if target.isOwned then answer.dirty else none

def editEndpoint (target : Target) (identity : String) : Except Failure String :=
  if target.isOwned then .ok (ownedEndpoint ++ "/" ++ identity)
  else .error (.unsupported (.readOnlyRows target.name))

/-- A one-time query beside a target's own. -/
structure Preview where
  endpoint : String
  filterSource : String
  extra : Fields
deriving DecidableEq

/-- The preview of a channel: a search for the torrents that match its key. -/
def preview : Target → Except Failure Preview
  | parentScoped publicKey _ =>
    .ok ⟨searchEndpoint, publicKey, [("metadata_type", .text "torrent")]⟩
  | other => .error (.unsupported (.noPreview other.name))

def eligibleActions (target : Target) (selected : List Item) : List RowAction :=
  if !target.hasRowActions || selected.isEmpty then []
  else
    (if selected.length = 1 then [.download, .play] else []) ++
    (if target.isOwned then [.removeFromOwnedListing]
      else if selected.any (·.kind = .torrent) then [.addToOwnedListing]
      else [])

def toJson (target : Target) : Json :=
  Json.ofPairs (("kind", .text target.name) ::
    match target with
    | search metadataType => [("metadataType", (metadataType.map Json.text).getD .null)]
    | filteredListing subscribed => [("subscribed", .bool subscribed)]
    | parentScoped publicKey channelId =>
      [("publicKey", .text publicKey), ("channelId", Json.ofWord64 channelId)]
    | ownedListing excludeDeleted => [("excludeDeleted", .bool excludeDeleted)])

def fieldNames? (kind : String) : Option (List String) :=
  if kind = "search" then some ["metadataType"]
  else if kind = "filtered-listing" then some ["subscribed"]
  else if kind = "parent-scoped" then some ["publicKey", "channelId"]
  else if kind = "owned-listing" then some ["excludeDeleted"]
  else none

def ofFields? (kind : String) (fields : List (Option Json)) : Option Target :=
  match fields with
  | [field] =>
    if kind = "search" then (Json.optional Json.text? field).map search
    else if kind = "filtered-listing" then (Json.required Json.flag? field).map filteredListing
    else if kind = "owned-listing" then (Json.required Json.flag? field).map ownedListing
    else none
  | [publicKey, channelId] =>
    if kind = "parent-scoped" then do
      let publicKey ← Json.required Json.text? publicKey
      let channelId ← Json.required Json.word64? channelId
      return parentScoped publicKey channelId
    else none
  | _ => none

/-- The target that a value is: an object with the name of the kind among its fields, or an array
that begins with it. Only the one field of a search may be missing from an array. -/
def ofJson? : Json → Option Target
  | .object fields => do
    let kind ← (Fields.get? "kind" fields).bind Json.text?
    let names ← fieldNames? kind
    ofFields? kind (names.map (Fields.get? · fields))
  | .array (.text kind :: items) => do
    let names ← fieldNames? kind
    if items.length = names.length then ofFields? kind (items.map some)
    else if kind = "search" ∧ items = [] then ofFields? kind [none]
    else none
  | _ => none

end Target

end LiveTable
