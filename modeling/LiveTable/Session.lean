import LiveTable.Event
import LiveTable.Filter
import LiveTable.Request
import LiveTable.Settings
import LiveTable.Target
set_option autoImplicit false

/-!
# Sessions

A session drives one table. Its owner starts queries, turns pages and edits rows; requests stay open
until they are answered, and answers wait in the inbox until they are processed. Every query belongs
to an epoch. Starting an epoch clears the table, and answers that belong to another epoch are
dropped before their shape is looked at.

An operation that may start an epoch is given the fresh epoch to start. An operation gives back the
session after it and its outcome.
-/

namespace LiveTable

inductive Purpose
  /-- A page of rows for the epoch that was current when the request left. -/
  | page (epoch : Epoch)
  /-- The edit of a row. -/
  | edit (identity : String)
deriving DecidableEq

structure OpenRequest where
  number : Nat
  purpose : Purpose
deriving DecidableEq

/-- A message in the inbox: the answer to a query or an edit, or why there is none. Rows that a peer
pushes belong to no request. -/
inductive Message
  | page (epoch : Option Epoch) (origin : Origin) (outcome : Except String Json)
  | edit (identity : String) (outcome : Except String Json)

structure Ticket where
  epoch : Epoch
  window : Window
  request : Request
deriving DecidableEq

def Ticket.toJson (t : Ticket) : Json :=
  Json.ofPairs [("epoch", .text t.epoch.token), ("window", t.window.toJson),
    ("request", t.request.toJson)]

/-- The state of a table and of everything that it is in contact with. -/
structure Session where
  target : Target
  settings : Settings
  rows : Rows
  /-- The epochs that there have been, the current one first. -/
  epochs : List Epoch
  window : Window
  filterText : String
  sort : SortOrder
  /-- How many rows the backend has in all. -/
  total : Option UInt64
  /-- Whether the caller's own listing has unpublished changes, once the backend has told. -/
  editSession : Option Bool
  /-- How many events have been sent. -/
  sent : Nat
  /-- The events that have been sent. -/
  log : Array Envelope
  inbox : List Message
  /-- The requests handed to the transport; a request's number is its place. -/
  wire : Array Request
  /-- The requests that are not answered yet. -/
  pending : List OpenRequest
  /-- The number of the latest query. -/
  latestQuery : Option Nat

inductive Opening
  | opened (session : Session)
  | refused (failure : Failure)
  /-- There is no buffer for as many events as the settings demand, and the program ends. -/
  | bufferTooLarge

namespace Session

def initial (target : Target) (settings : Settings) : Session where
  target := target
  settings := settings
  rows := .empty
  epochs := []
  window := Window.firstPage settings.batchSize
  filterText := ""
  sort := settings.defaultSort
  total := none
  editSession := none
  sent := 0
  log := #[]
  inbox := []
  wire := #[]
  pending := []
  latestQuery := none

/-- Opens a session, unless the settings do not pass. Its event buffer has to be within the largest
capacity, and there has to be memory for the slots of the buffer; `allocates` tells of a number of
slots whether there is. -/
def begin (target : Target) (settings : Settings)
    (allocates : Nat → Bool := Subscription.addressable) : Opening :=
  match settings.validate with
  | .error failure => .refused failure
  | .ok () =>
    if settings.eventCapacity.toNat ≤ Subscription.largestCapacity ∧
        allocates (Subscription.bufferSize settings.eventCapacity.toNat) then
      .opened (initial target settings)
    else .bufferTooLarge

/-! ## Views -/

def epoch? (s : Session) : Option Epoch := s.epochs.head?

/-- Whether the latest query is still open. -/
def inFlight (s : Session) : Bool :=
  match s.latestQuery with
  | some number => s.pending.any (·.number = number)
  | none => false

/-- The rows with the given numbers, as far as there are such rows. -/
def selection (s : Session) (rows : List Nat) : List Item := rows.filterMap s.rows.get?

def eligibleActions (s : Session) (rows : List Nat) : List RowAction :=
  s.target.eligibleActions (s.selection rows)

def subscribe (s : Session) : Subscription := ⟨s.log.size⟩

def receive (s : Session) (subscription : Subscription) :
    Subscription.Received × Subscription :=
  subscription.receive s.settings.eventCapacity.toNat s.log

/-! ## Events -/

def emitFor (s : Session) (epoch : Option Epoch) (event : Event) : Session :=
  { s with sent := s.sent + 1, log := s.log.push ⟨s.sent + 1, epoch, event⟩ }

def emit (s : Session) (event : Event) : Session := s.emitFor s.epoch? event

def setDirty (s : Session) (dirty : Bool) : Session :=
  { s with editSession := some dirty }.emit (.dirtyChanged dirty)

/-! ## Queries -/

def perform (s : Session) (request : Request) (purpose : Purpose) : Session :=
  { s with wire := s.wire.push request, pending := s.pending ++ [⟨s.wire.size, purpose⟩] }

/-- Starts an epoch with an empty table, at the given window or at the first page. -/
def startEpoch (s : Session) (fresh : Epoch) (window : Option Window) : Session :=
  { s with
    epochs := fresh :: s.epochs
    rows := .empty
    total := none
    window := window.getD (Window.firstPage s.settings.batchSize) }

/-- Sends a query for the present window, in the current epoch or in a fresh one if there has been
none. The epoch is there before the request is made. -/
def sendQuery (s : Session) (fresh : Epoch) (endpoint filter : String) (extra : Fields) :
    Session × Except Failure Ticket :=
  let epoch := s.epoch?.getD fresh
  let next := { s with epochs := if s.epochs.isEmpty then [epoch] else s.epochs }
  let query : Query := ⟨epoch, filter, s.sort, s.window, s.settings.hideXxx, extra⟩
  match query.encode endpoint with
  | .error failure => (next, .error failure)
  | .ok request =>
    ({ next with latestQuery := some s.wire.size }.perform request (.page epoch),
      .ok ⟨epoch, s.window, request⟩)

@[simp] theorem sendQuery_ne_error (s : Session) (fresh : Epoch) (endpoint filter : String)
    (extra : Fields) (failure : Failure) :
    (s.sendQuery fresh endpoint filter extra).2 ≠ .error failure := by
  simp [sendQuery]

/-- Queries the target; the given parameters take the place of others of their names. -/
def query (s : Session) (fresh : Epoch) (extra : Fields) : Session × Except Failure Ticket :=
  s.sendQuery fresh s.target.endpoint (Filter.compile s.filterText)
    (s.target.extraParams.overriddenBy extra)

@[simp] theorem query_ne_error (s : Session) (fresh : Epoch) (extra : Fields)
    (failure : Failure) : (s.query fresh extra).2 ≠ .error failure :=
  s.sendQuery_ne_error fresh _ _ _ failure

/-- Queries the target, which always gives a ticket. -/
def dispatch (s : Session) (fresh : Epoch) (extra : Fields) : Session × Ticket :=
  match sent : s.query fresh extra with
  | (next, .ok ticket) => (next, ticket)
  | (_, .error failure) =>
    absurd (congrArg Prod.snd sent) (s.query_ne_error fresh extra failure)

/-- Starts an epoch and queries its first page, or a given window if that is well formed. -/
def resetAndQuery (s : Session) (fresh : Epoch) (window : Option Window) :
    Session × Except Failure Ticket :=
  match window.mapM Window.checked with
  | .error failure => (s, .error failure)
  | .ok window => (s.startEpoch fresh window).query fresh []

/-- Queries the page after the rows that are there; without rows there is nothing to continue. -/
def continueQuery (s : Session) (fresh : Epoch) : Session × Except Failure (Option Ticket) :=
  if s.rows.isEmpty then (s, .ok none)
  else
    match (Window.following s.rows.size s.settings.batchSize).checked with
    | .error failure => (s, .error failure)
    | .ok window =>
      ({ s with window := window }.query fresh []).map id (Except.map some)

def scroll (s : Session) (fresh : Epoch) (atBottom : Bool) :
    Session × Except Failure (Option Ticket) :=
  if atBottom then s.continueQuery fresh else (s, .ok none)

def setSort (s : Session) (fresh : Epoch) (sort : SortOrder) : Session × Except Failure Ticket :=
  { s with sort := sort }.resetAndQuery fresh none

def setFilterText (s : Session) (fresh : Epoch) (text : String) :
    Session × Except Failure Ticket :=
  { s with filterText := s.target.boundFilter text }.resetAndQuery fresh none

def refresh (s : Session) (fresh : Epoch) : Session × Except Failure Ticket :=
  s.resetAndQuery fresh none

def fetchPreview (s : Session) (fresh : Epoch) : Session × Except Failure Ticket :=
  match s.target.preview with
  | .error failure => (s, .error failure)
  | .ok preview =>
    (s.startEpoch fresh none).sendQuery fresh preview.endpoint
      (Filter.compile preview.filterSource) preview.extra

/-- Edits one column of a row, at once in the table and by a request to the backend. -/
def patchField (s : Session) (identity column : String) (value : Json) :
    Session × Except Failure Request :=
  match s.target.editEndpoint identity with
  | .error failure => (s, .error failure)
  | .ok endpoint =>
    let field := attributeOf column
    let request := Request.edit endpoint field value
    ({ s with rows := (s.rows.edit identity field value).1 }.perform request (.edit identity),
      .ok request)

/-! ## Answers -/

/-- Whether an answer belongs to the current epoch: its token decides, without one the epoch its
request left in, and without either it does. -/
def accepts (s : Session) (token : Option String) (captured : Option Epoch) : Bool :=
  match s.epoch? with
  | none => true
  | some current =>
    match token, captured with
    | some token, _ => current.matchesToken token
    | none, some captured => captured = current
    | none, none => true

def mergeRows (s : Session) (batch : List Item) : Session :=
  { s with rows := (s.rows.merge s.settings.duplicatePolicy batch).1 }

/-- Notes how many rows there are in all, which only the backend knows. -/
def noteTotal (s : Session) (origin : Origin) (total : Option UInt64) : Session :=
  match origin, total with
  | .backend, some total => { s with total := some total }.emit (.countChanged total)
  | _, _ => s

def noteDirty (s : Session) : Option Bool → Session
  | some dirty => s.setDirty dirty
  | none => s

def absorb (s : Session) (answer : Answer) (origin : Origin) : Session :=
  (((s.mergeRows answer.results).noteTotal origin answer.total).emit
    (.queryComplete answer origin)).noteDirty (s.target.dirtyAfter answer)

/-- Merges an answer of the current epoch and drops any other; tells whether it was merged. -/
def consider (s : Session) (v : Json) (origin : Origin) (captured : Option Epoch) :
    Session × Except Failure Bool :=
  if s.accepts ((v.get? "uuid").bind Json.text?) captured then
    match Answer.read v with
    | .error failure => (s, .error failure)
    | .ok none => (s, .ok false)
    | .ok (some answer) =>
      match s.target.validate answer origin with
      | .error failure => (s, .error failure)
      | .ok () => (s.absorb answer origin, .ok true)
  else (s, .ok false)

def onResponse (s : Session) (v : Json) (origin : Origin) : Session × Except Failure Bool :=
  s.consider v origin none

def onEditResponse (s : Session) (v : Json) : Session × Except Failure Bool :=
  match EditAnswer.read v with
  | .error failure => (s, .error failure)
  | .ok none => (s, .ok false)
  | .ok (some answer) => (s.setDirty answer.dirty, .ok true)

def report (s : Session) (epoch : Option Epoch) :
    Except Failure Bool → Session × Except Failure Bool
  | .ok admitted => (s, .ok admitted)
  | .error failure => (s.emitFor (epoch.or s.epoch?) (.requestFailed failure), .error failure)

/-- Handles a message. The failure of a query whose epoch has passed is of no interest. -/
def handle (s : Session) : Message → Session × Except Failure Bool
  | .page epoch origin (.ok v) =>
    let considered := s.consider v origin epoch
    considered.1.report s.epoch? considered.2
  | .page (some epoch) _ (.error reason) =>
    if s.epoch? = some epoch then s.report (some epoch) (.error (.transport reason))
    else (s, .ok false)
  | .page none _ (.error reason) => s.report none (.error (.transport reason))
  | .edit _ (.ok v) =>
    let taken := s.onEditResponse v
    taken.1.report s.epoch? taken.2
  | .edit _ (.error reason) => s.report s.epoch? (.error (.transport reason))

/-! ## Inbox -/

def post (s : Session) (message : Message) : Session := { s with inbox := s.inbox ++ [message] }

def OpenRequest.message (request : OpenRequest) (outcome : Except String Json) : Message :=
  match request.purpose with
  | .page epoch => .page (some epoch) .backend outcome
  | .edit identity => .edit identity outcome

def answer? (s : Session) (number : Nat) (outcome : Except String Json) : Option Session :=
  (s.pending.find? (·.number = number)).map fun request =>
    { s with pending := s.pending.filter (·.number ≠ number) }.post
      (OpenRequest.message request outcome)

def push (s : Session) (v : Json) : Session := s.post (.page none .peer (.ok v))

def processNext (s : Session) : Option (Session × Except Failure Bool) :=
  match s.inbox with
  | [] => none
  | message :: rest => some ({ s with inbox := rest }.handle message)

/-- Handles messages until none waits or `limit` are handled, and counts them. -/
def drain (s : Session) : (limit : Nat) → Session × Nat
  | 0 => (s, 0)
  | limit + 1 =>
    match s.processNext with
    | none => (s, 0)
    | some (next, _) => (next.drain limit).map id (· + 1)

def processPending (s : Session) : Session × Nat := s.drain s.inbox.length

/-- Shows the details of the first of some rows; those of a channel are hidden. -/
def selectRows (s : Session) (rows : List Nat) : Session × Option Item :=
  let item := (rows.head?.bind s.rows.get?).filter (·.kind ≠ .channel)
  (s.emit (.selectionChanged item), item)

end Session

structure Feed where
  session : Option Session

def Feed.push (feed : Feed) (v : Json) : Feed × Bool :=
  match feed.session with
  | some session => (⟨some (session.push v)⟩, true)
  | none => (feed, false)

end LiveTable
