/-
# Event buses

A bus hands every published event to every subscriber.  It keeps the latest events, as many
as the least power of two that is not below its capacity; a subscriber that falls further
behind is told how many events it missed and goes on with the oldest one kept.
-/
import JobSupervision.Text.Inspect

namespace JobSupervision

/-- The place of one subscriber. -/
structure Subscription where
  /-- The number by which the bus knows the subscriber. -/
  id : Nat
  /-- How many of the published events are behind the subscriber. -/
  position : Nat
deriving DecidableEq, Repr

/-- What a subscriber gets when it asks for the next event. -/
inductive Received (α : Type) where
  /-- The next event. -/
  | event (event : α)
  /-- So many events were missed. -/
  | lagged (missed : Nat)
  /-- There is no further event. -/
  | empty
deriving DecidableEq, Repr

/-- A bus with its latest events and its subscribers. -/
structure EventBus (α : Type) where
  /-- The capacity it was made with. -/
  capacity : Nat
  /-- How many events were published. -/
  published : Nat
  /-- The latest events, newest first. -/
  recent : List α
  /-- The subscribers. -/
  subscribers : List Subscription
  /-- The number that the next subscriber gets. -/
  nextId : Nat
deriving Repr

namespace EventBus

variable {α : Type}

/-- The greatest capacity. -/
def greatestCapacity : Nat := 0x7fffffffffffffff

/-- The least power of two that is not below a number. -/
def powerAbove (n : Nat) : Nat := if n ≤ 1 then 1 else Nat.pow 2 (Nat.log2 (n - 1) + 1)

/-- A bus of some capacity; nothing and more than the greatest capacity are none. -/
def create? (capacity : Nat) : Option (EventBus α) :=
  if 0 < capacity ∧ capacity ≤ greatestCapacity then some ⟨capacity, 0, [], [], 0⟩ else none

/-- How many events are kept. -/
def retained (bus : EventBus α) : Nat := powerAbove bus.capacity

/-- How many subscribers there are. -/
def subscriberCount (bus : EventBus α) : Nat := bus.subscribers.length

/-- Publishes an event. -/
def publish (bus : EventBus α) (event : α) : EventBus α :=
  { bus with
    published := bus.published + 1
    recent := (event :: bus.recent).take bus.retained }

/-- Publishes events one after the other. -/
def publishAll (bus : EventBus α) (events : List α) : EventBus α := events.foldl publish bus

/-- Adds a subscriber that gets the events published from now on. -/
def subscribe (bus : EventBus α) : Nat × EventBus α :=
  (bus.nextId,
    { bus with
      subscribers := ⟨bus.nextId, bus.published⟩ :: bus.subscribers
      nextId := bus.nextId + 1 })

/-- Removes a subscriber. -/
def unsubscribe (bus : EventBus α) (id : Nat) : EventBus α :=
  { bus with subscribers := bus.subscribers.filter (·.id ≠ id) }

/-- The place of a subscriber. -/
def position? (bus : EventBus α) (id : Nat) : Option Nat :=
  (bus.subscribers.find? (·.id = id)).map (·.position)

/-- Moves a subscriber to a place. -/
def moveTo (bus : EventBus α) (id position : Nat) : EventBus α :=
  { bus with
    subscribers := bus.subscribers.map fun s =>
      if s.id = id then { s with position := position } else s }

/-- The published event of a number, counted from zero, if it is still kept. -/
def event? (bus : EventBus α) (number : Nat) : Option α :=
  if number < bus.published then bus.recent[bus.published - 1 - number]? else none

/-- The next event of a subscriber. -/
def receive (bus : EventBus α) (id : Nat) : Received α × EventBus α :=
  match bus.position? id with
  | none => (.empty, bus)
  | some position =>
    if bus.published ≤ position then (.empty, bus)
    else
      match bus.event? position with
      | some e => (.event e, bus.moveTo id (position + 1))
      | none =>
        let oldest := bus.published - bus.recent.length
        (.lagged (oldest - position), bus.moveTo id oldest)

/-- Everything that a subscriber can get now.  The fuel bounds the answers. -/
def drainFuel : Nat → EventBus α → Nat → List (Received α) × EventBus α
  | 0, bus, _ => ([], bus)
  | fuel + 1, bus, id =>
    match bus.receive id with
    | (.empty, bus) => ([], bus)
    | (r, bus) =>
      let (rs, bus) := drainFuel fuel bus id
      (r :: rs, bus)

/-- Everything that a subscriber can get now: at most one note about missed events and the
events kept. -/
def drain (bus : EventBus α) (id : Nat) : List (Received α) × EventBus α :=
  drainFuel (bus.recent.length + 2) bus id

/-- The inspection text. -/
def inspect (bus : EventBus α) : String :=
  Text.inspectRecord "ContainerEventBus"
    [("capacity", toString bus.capacity), ("subscribers", toString bus.subscriberCount)]

@[simp] theorem published_publish (bus : EventBus α) (event : α) :
    (bus.publish event).published = bus.published + 1 := rfl

end EventBus

end JobSupervision
