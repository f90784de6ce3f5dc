/-! # Replaying streams

A stream keeps its current state and tells every subscriber about each change, in the order in which
they subscribed. A new subscriber is told the current state at once. Numbers of subscribers are never
used twice: they are natural numbers, so that the overflow of a counter of 64 bits, which 2 ^ 64
subscriptions would bring about, is left out.
-/

namespace PhoneKey

/-- A state and what led to it. -/
structure Change (State Reason : Type) where
  state : State
  reason : Reason
deriving DecidableEq, Repr, Inhabited

/-- Reasons with one that stands for a replay of the current state. -/
class Replayable (Reason : Type) where
  initial : Reason

/-- Those who listen to a stream, in the order in which they subscribed. -/
structure Audience where
  members : List Nat
  next : Nat
deriving DecidableEq, Repr, Inhabited

namespace Audience

def empty : Audience := ⟨[], 0⟩

/-- Adds a subscriber and answers with its number. -/
def join (audience : Audience) : Nat × Audience :=
  (audience.next, ⟨audience.members ++ [audience.next], audience.next + 1⟩)

/-- Removes a subscriber and tells whether there was one of that number. -/
def leave (audience : Audience) (member : Nat) : Bool × Audience :=
  let remaining := audience.members.filter (· != member)
  (remaining.length != audience.members.length, { audience with members := remaining })

/-- What each subscriber is told. -/
def tell {α : Type} (audience : Audience) (news : α) : List (Nat × α) :=
  audience.members.map fun member => (member, news)

end Audience

structure ChangeStream (State : Type) where
  state : State
  audience : Audience
deriving DecidableEq, Repr, Inhabited

namespace ChangeStream

variable {State Reason : Type}

def new (state : State) : ChangeStream State := ⟨state, .empty⟩

/-- The current state as a new subscriber is told it. -/
def current [Replayable Reason] (stream : ChangeStream State) : Change State Reason :=
  ⟨stream.state, Replayable.initial⟩

def subscribe [Replayable Reason] (stream : ChangeStream State) :
    (Nat × Change State Reason) × ChangeStream State :=
  let (member, audience) := stream.audience.join
  ((member, stream.current), { stream with audience })

def unsubscribe (stream : ChangeStream State) (member : Nat) : Bool × ChangeStream State :=
  let (present, audience) := stream.audience.leave member
  (present, { stream with audience })

def publish (stream : ChangeStream State) (change : Change State Reason) :
    List (Nat × Change State Reason) × ChangeStream State :=
  (stream.audience.tell change, { stream with state := change.state })

/-- The printed form, given the printed state. -/
def describe (stream : ChangeStream State) (state : String) : String :=
  "ChangeSubject \x7b state: " ++ state ++ ", subscribers: " ++
    toString stream.audience.members.length ++ " \x7d"

end ChangeStream

/-- A stream of plain values, which tells only values that differ from the one before. -/
structure ValueStream (Value : Type) where
  value : Value
  audience : Audience
deriving DecidableEq, Repr, Inhabited

namespace ValueStream

variable {Value : Type}

def new (value : Value) : ValueStream Value := ⟨value, .empty⟩

def subscribe (stream : ValueStream Value) : (Nat × Value) × ValueStream Value :=
  let (member, audience) := stream.audience.join
  ((member, stream.value), { stream with audience })

def unsubscribe (stream : ValueStream Value) (member : Nat) : Bool × ValueStream Value :=
  let (present, audience) := stream.audience.leave member
  (present, { stream with audience })

def set [DecidableEq Value] (stream : ValueStream Value) (value : Value) :
    List (Nat × Value) × ValueStream Value :=
  if stream.value = value then ([], stream)
  else (stream.audience.tell value, { stream with value })

/-- The printed form, given the printed value. -/
def describe (stream : ValueStream Value) (value : String) : String :=
  "ValueSubject \x7b value: " ++ value ++ ", subscribers: " ++
    toString stream.audience.members.length ++ " \x7d"

end ValueStream

end PhoneKey
