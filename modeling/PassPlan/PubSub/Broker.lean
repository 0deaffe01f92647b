/-!
A broker that hands published events to every subscription. Each subscription has a buffer of
fixed size; an event that finds a buffer full is dropped for that subscription and counted.
Ending a subscription or closing the broker closes its channel: what is buffered can still be
read, nothing more arrives. Subscribing to a closed broker gives a channel that is already
closed.
-/
namespace PassPlan.PubSub

/-- An event: its type and its payload. -/
structure Event (α : Type) where
  type : String
  payload : α
deriving Repr

/-- One subscription: the events waiting to be read, and whether its channel is closed. -/
structure Subscription (α : Type) where
  pending : List (Event α) := []
  closed : Bool := false
deriving Repr

/-- The broker: the buffer size, the subscriptions in the order they were made, whether it is
closed, and how many deliveries were dropped. -/
structure Broker (α : Type) where
  capacity : Nat := 64
  subs : List (Subscription α) := []
  shut : Bool := false
  /-- Counted without bound: an unsigned 64-bit counter would wrap only after 2^64 drops, which
  no run makes. -/
  dropped : Nat := 0
deriving Repr

/-- What a receive that does not wait finds on a channel. -/
inductive Received (α : Type) where
  /-- The oldest event still buffered. -/
  | event (e : Event α)
  /-- Nothing buffered, and the channel is closed. -/
  | closed
  /-- Nothing buffered yet. -/
  | empty
deriving Repr

namespace Broker

variable {α : Type}

/-- A broker whose subscriptions buffer a given number of events. -/
def withBuffer (n : Nat) : Broker α := { capacity := n }

/-- Makes a subscription; its number is its place in the order. -/
def subscribe (b : Broker α) : Broker α × Nat :=
  ({ b with subs := b.subs ++ [{ closed := b.shut }] }, b.subs.length)

/-- Delivers an event to one subscription, or counts it dropped when the buffer is full. -/
def deliver (capacity : Nat) (e : Event α) : Subscription α × Nat → Subscription α × Nat
  | (s, dropped) =>
    if s.closed then (s, dropped)
    else if s.pending.length < capacity then ({ s with pending := s.pending ++ [e] }, dropped)
    else (s, dropped + 1)

/-- Delivers an event to one more subscription, before those already done, counting a drop. -/
def deliverTo (capacity : Nat) (e : Event α) (s : Subscription α) :
    List (Subscription α) × Nat → List (Subscription α) × Nat
  | (acc, dropped) =>
    let (s, dropped) := deliver capacity e (s, dropped)
    (s :: acc, dropped)

/-- Publishes an event to every open subscription; a closed broker ignores it. -/
def publish (b : Broker α) (type : String) (payload : α) : Broker α :=
  if b.shut then b
  else
    let (subs, dropped) := b.subs.foldr (deliverTo b.capacity ⟨type, payload⟩) ([], b.dropped)
    { b with subs, dropped }

/-- Ends a subscription: its channel closes. -/
def cancel (b : Broker α) (i : Nat) : Broker α :=
  { b with subs := b.subs.modify i fun s => { s with closed := true } }

/-- Closes the broker and every subscription's channel. -/
def close (b : Broker α) : Broker α :=
  { b with shut := true, subs := b.subs.map fun s => { s with closed := true } }

/-- How many subscriptions are still open. -/
def count (b : Broker α) : Nat := (b.subs.filter fun s => !s.closed).length

/-- Reads what a subscription has buffered, without waiting: the events and whether its
channel is closed. -/
def drain (b : Broker α) (i : Nat) : Broker α × List (Event α) × Bool :=
  match b.subs[i]? with
  | some s => ({ b with subs := b.subs.set i { s with pending := [] } }, s.pending, s.closed)
  | none => (b, [], true)

/-- Receives from a subscription's channel without waiting: the oldest buffered event first,
and once nothing is buffered, whether the channel is closed. An unknown subscription reads as
closed, as in `drain`. -/
def receive (b : Broker α) (i : Nat) : Broker α × Received α :=
  match b.subs[i]? with
  | some s =>
    match s.pending with
    | e :: rest => ({ b with subs := b.subs.set i { s with pending := rest } }, .event e)
    | [] => (b, if s.closed then .closed else .empty)
  | none => (b, .closed)

end Broker
end PassPlan.PubSub
