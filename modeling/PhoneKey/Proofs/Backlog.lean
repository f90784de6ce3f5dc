import Mathlib.Data.List.DropRight
import PhoneKey.Backlog
import PhoneKey.Proofs.Run

/-! # What goes in comes out

A queue is followed through any sequence of operations. Nothing gets past its limit, an element is refused
exactly by a full queue, and whatever was accepted since the queue was last cleared either came out or is still
held, in the order in which it went in. What carries this is that an operation other than clearing moves elements
from the accepted ones to the held ones and from there to those that came out, and makes up none.
-/

namespace PhoneKey

namespace Backlog

variable {α : Type}

/-- What can be done with a queue. -/
inductive Input (α : Type) where
  | enqueue (item : α)
  | dequeue
  | clear
deriving DecidableEq, Repr

/-- What an input comes to. -/
inductive Event (α : Type) where
  /-- An element is offered, and refused for a reason or accepted. -/
  | offered (item : α) (refusal? : Option BacklogError)
  /-- An element is asked for, and given if there is one. -/
  | taken (item? : Option α)
  | cleared
deriving DecidableEq, Repr

/-- A queue that refuses an element, or has none to give, stays as it is. -/
def act (queue : Backlog α) : Input α → Turn (Backlog α) (Event α)
  | .enqueue item =>
    match queue.enqueue item with
    | .ok next => .report next (.offered item none)
    | .error cause => .report queue (.offered item (some cause))
  | .dequeue =>
    match queue.dequeue? with
    | some (item, next) => .report next (.taken (some item))
    | none => .report queue (.taken none)
  | .clear => .report queue.clear .cleared

/-- A queue through a sequence of operations. -/
def run (queue : Backlog α) (inputs : List (Input α)) : Turn (Backlog α) (Event α) :=
  Turn.forEach act queue inputs

namespace Event

/-- The input that came to this. -/
def input : Event α → Input α
  | .offered item _ => .enqueue item
  | .taken _ => .dequeue
  | .cleared => .clear

def isClear : Event α → Bool
  | .cleared => true
  | _ => false

def accepted? : Event α → Option α
  | .offered item none => some item
  | _ => none

def taken? : Event α → Option α
  | .taken item? => item?
  | _ => none

end Event

/-- The elements that were accepted, in order. -/
def accepted (events : List (Event α)) : List α := events.filterMap Event.accepted?

/-- The elements that came out, in order. -/
def taken (events : List (Event α)) : List α := events.filterMap Event.taken?

/-- What happened since the queue was last cleared. -/
def sinceClear (events : List (Event α)) : List (Event α) := events.rtakeWhile fun event => !event.isClear

/-- A queue keeps its limit and its order. -/
structure Fifo (capacity : Nat) (inputs : List (Input α)) (events : List (Event α)) (queue : Backlog α) : Prop where
  /-- Everything that is done shows. -/
  complete : events.map Event.input = inputs
  bounded : queue.items.length ≤ capacity
  /-- Exactly a full queue refuses an element. -/
  refuses : ∀ item, queue.enqueue item = .error .maximumElementsReached ↔ queue.items.length = capacity
  /-- A queue that refuses an element shows it and does not change. -/
  unchanged : ∀ item, queue.items.length = capacity →
    queue.act (.enqueue item) = .report queue (.offered item (some .maximumElementsReached))
  /-- Exactly an empty queue has no element to give. -/
  gives : queue.dequeue? = none ↔ queue.items = []
  /-- What came out, followed by what is held, is what was accepted. -/
  ordered : taken (sinceClear events) ++ queue.items = accepted (sinceClear events)

/-- What an operation shows and what it leaves. -/
inductive Acted (queue : Backlog α) : Event α → Backlog α → Prop
  | accepts {item : α} (room : queue.items.length < queue.capacity) :
      Acted queue (.offered item none) { queue with items := queue.items ++ [item] }
  | refuses {item : α} (full : queue.capacity ≤ queue.items.length) :
      Acted queue (.offered item (some .maximumElementsReached)) queue
  | gives {item : α} {rest : List α} (first : queue.items = item :: rest) :
      Acted queue (.taken (some item)) { queue with items := rest }
  | lacks (empty : queue.items = []) : Acted queue (.taken none) queue
  | clears : Acted queue .cleared queue.clear

variable {queue next : Backlog α} {item : α} {event : Event α} {events : List (Event α)}

private theorem acted (queue : Backlog α) (input : Input α) :
    ∃ event next, queue.act input = .report next event ∧ event.input = input ∧ Acted queue event next := by
  cases input with
  | enqueue item =>
    cases offered : queue.enqueue item with
    | ok next =>
      obtain ⟨room, rfl⟩ := enqueue_eq_ok_iff.mp offered
      exact ⟨_, _, by simp only [act, offered], rfl, .accepts room⟩
    | error cause =>
      obtain ⟨full, rfl⟩ := enqueue_eq_error_iff.mp offered
      exact ⟨_, _, by simp only [act, offered], rfl, .refuses full⟩
  | dequeue =>
    cases held : queue.items with
    | nil => exact ⟨_, _, by simp only [act, dequeue?, held], rfl, .lacks held⟩
    | cons item rest => exact ⟨_, _, by simp only [act, dequeue?, held], rfl, .gives held⟩
  | clear => exact ⟨_, _, rfl, rfl, .clears⟩

theorem accepted_append (first second : List (Event α)) :
    accepted (first ++ second) = accepted first ++ accepted second := List.filterMap_append

theorem taken_append (first second : List (Event α)) :
    taken (first ++ second) = taken first ++ taken second := List.filterMap_append

theorem Acted.capacity (acted : Acted queue event next) : next.capacity = queue.capacity := by
  cases acted <;> rfl

theorem Acted.bounded (acted : Acted queue event next) (bounded : queue.items.length ≤ queue.capacity) :
    next.items.length ≤ next.capacity := by
  cases acted with
  | accepts room =>
    rw [List.length_append]
    exact room
  | refuses full => exact bounded
  | gives first =>
    rw [first] at bounded
    exact Nat.le_of_succ_le bounded
  | lacks empty => exact bounded
  | clears => exact Nat.zero_le _

/-- No element is lost or made up by anything but clearing. -/
theorem Acted.conserves (acted : Acted queue event next) (kept : event.isClear = false) :
    queue.items ++ accepted [event] = taken [event] ++ next.items := by
  cases acted with
  | accepts room => rfl
  | refuses full => exact List.append_nil _
  | gives first => exact (List.append_nil _).trans first
  | lacks empty => exact List.append_nil _
  | clears => cases kept

theorem Acted.ordered (acted : Acted queue event next)
    (ordered : taken (sinceClear events) ++ queue.items = accepted (sinceClear events)) :
    taken (sinceClear (events ++ [event])) ++ next.items = accepted (sinceClear (events ++ [event])) := by
  cases clears : event.isClear with
  | true =>
    -- A new stretch begins, in which nothing was accepted and nothing came out yet.
    have emptied : next.items = [] := by
      cases acted with
      | clears => rfl
      | _ => cases clears
    rw [sinceClear, List.rtakeWhile_concat_neg _ _ _ (by simp [clears]), emptied]
    rfl
  | false =>
    rw [sinceClear, List.rtakeWhile_concat_pos _ _ _ (by simp [clears]), ← sinceClear, taken_append, accepted_append,
      List.append_assoc, ← acted.conserves clears, ← List.append_assoc, ordered]

private theorem act_of_full (full : queue.capacity ≤ queue.items.length) (item : α) :
    queue.act (.enqueue item) = .report queue (.offered item (some .maximumElementsReached)) := by
  have refused : queue.enqueue item = .error .maximumElementsReached := enqueue_eq_error_iff.mpr ⟨full, rfl⟩
  simp only [act, refused]

/-- What every operation keeps. -/
structure Keeps (capacity : Nat) (events : List (Event α)) (queue : Backlog α) : Prop where
  ordered : taken (sinceClear events) ++ queue.items = accepted (sinceClear events)
  bounded : queue.items.length ≤ queue.capacity
  capacity : queue.capacity = capacity

/-- A queue that never holds too much is full exactly if it holds as much as it may. -/
theorem Keeps.full_iff {capacity : Nat} (keeps : Keeps capacity events queue) :
    queue.capacity ≤ queue.items.length ↔ queue.items.length = capacity := by
  rw [← keeps.capacity]
  exact ⟨Nat.le_antisymm keeps.bounded, fun full => full.ge⟩

theorem keeps_of_run (capacity : Nat) (inputs : List (Input α)) :
    Keeps capacity ((new capacity).run inputs).reports ((new capacity).run inputs).state := by
  induction inputs using List.reverseRecOn with
  | nil => exact ⟨rfl, Nat.zero_le _, rfl⟩
  | append_singleton inputs input ih =>
    rw [run, Turn.reports_forEach_concat, Turn.state_forEach_concat, ← run]
    obtain ⟨event, next, done, -, acted⟩ := acted ((new capacity).run inputs).state input
    rw [done]
    exact ⟨acted.ordered ih.ordered, acted.bounded ih.bounded, acted.capacity.trans ih.capacity⟩

theorem complete_run (queue : Backlog α) (inputs : List (Input α)) :
    (queue.run inputs).reports.map Event.input = inputs := by
  induction inputs using List.reverseRecOn with
  | nil => rfl
  | append_singleton inputs input ih =>
    rw [run, Turn.reports_forEach_concat, ← run]
    obtain ⟨event, next, done, same, -⟩ := acted (queue.run inputs).state input
    rw [done, List.map_append, ih]
    exact congrArg (inputs ++ [·]) same

/-- Whatever is done with a queue, it keeps its limit and its order. -/
theorem fifo_of_run (capacity : Nat) (inputs : List (Input α)) :
    Fifo capacity inputs ((new capacity).run inputs).reports ((new capacity).run inputs).state := by
  have keeps := keeps_of_run capacity inputs
  exact {
    complete := complete_run (new capacity) inputs
    bounded := keeps.bounded.trans_eq keeps.capacity
    refuses := fun item => by rw [enqueue_eq_error_iff, keeps.full_iff, and_iff_left rfl]
    unchanged := fun item full => act_of_full (keeps.full_iff.mpr full) item
    gives := dequeue?_eq_none_iff
    ordered := keeps.ordered }

example :
    ((new 2).run [.enqueue 1, .enqueue 2, .enqueue 3, .dequeue, .enqueue 4, .clear, .dequeue, .enqueue 5]).reports =
      [.offered 1 none, .offered 2 none, .offered 3 (some .maximumElementsReached), .taken (some 1),
        .offered 4 none, .cleared, .taken none, .offered 5 none] := by
  decide

end Backlog

end PhoneKey
