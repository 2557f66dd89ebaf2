import LiveTable.Answer
import LiveTable.Epoch
set_option autoImplicit false

/-!
# Events

What a table tells its subscribers. Events are numbered from one and stamped with the epoch that is
current when they are sent. A subscriber reads on from where it stands; of events that it is late
for only as many are kept as the buffer holds.
-/

namespace LiveTable

inductive Event
  | queryComplete (answer : Answer) (origin : Origin)
  | countChanged (total : UInt64)
  | requestFailed (failure : Failure)
  | dirtyChanged (dirty : Bool)
  | selectionChanged (item : Option Item)
deriving DecidableEq

namespace Event

def name : Event → String
  | queryComplete _ _ => "queryComplete"
  | countChanged _ => "countChanged"
  | requestFailed _ => "requestFailed"
  | dirtyChanged _ => "dirtyChanged"
  | selectionChanged _ => "selectionChanged"

def countLabel (total : UInt64) : String := Nat.repr total.toNat ++ " results"

def payload : Event → Json
  | queryComplete answer origin =>
    Json.ofPairs [("response", answer.toJson), ("origin", origin.toJson)]
  | countChanged total =>
    Json.ofPairs [("total", Json.ofWord64 total), ("label", .text (countLabel total))]
  | requestFailed failure =>
    Json.ofPairs [("code", .text failure.code), ("reason", .text failure.message)]
  | dirtyChanged dirty => Json.ofPairs [("dirty", .bool dirty)]
  | selectionChanged item => Json.ofPairs [("item", (item.map Item.toJson).getD .null)]

def toJson (event : Event) : Json :=
  Json.ofPairs [("type", .text event.name), ("payload", event.payload)]

end Event

structure Envelope where
  seq : Nat
  epoch : Option Epoch
  event : Event
deriving DecidableEq

def Envelope.toJson (e : Envelope) : Json :=
  Json.ofPairs [("seq", .number (.int e.seq)), ("epoch", (e.epoch.map Epoch.toJson).getD .null),
    ("event", e.event.toJson)]

structure Subscription where
  position : Nat
deriving DecidableEq

namespace Subscription

def largestCapacity : Nat := Nat.pow 2 63 - 1

/-- How many events a buffer of some capacity holds: the next power of two. All of them have their
slot from the start. -/
def bufferSize (capacity : Nat) : Nat := capacity.nextPowerOfTwo

/-- Whether so many slots have addresses: an object takes less than 2 ^ 63 octets, and a slot at
least 2 ^ 7 and less than 2 ^ 8. -/
def addressable (slots : Nat) : Bool := slots ≤ Nat.pow 2 55

/-- What a subscriber finds: how many events were lost to it, and those that follow. -/
structure Received where
  lost : Nat
  events : List Envelope

/-- Reads everything up to the end of the log, less what a buffer of `capacity` no longer holds. -/
def receive (s : Subscription) (capacity : Nat) (log : Array Envelope) : Received × Subscription :=
  let lost := log.size - s.position - bufferSize capacity
  (⟨lost, log.toList.drop (s.position + lost)⟩, ⟨log.size⟩)

end Subscription

end LiveTable
