import PhoneKey.Error

/-! # A queue with a limit

A full queue refuses the newest element and keeps the ones it has, in the order they came.
-/

namespace PhoneKey

structure Backlog (α : Type) where
  items : List α
  capacity : Nat
deriving DecidableEq, Repr

namespace Backlog

variable {α : Type}

def new (capacity : Nat) : Backlog α := ⟨[], capacity⟩

def enqueue (queue : Backlog α) (item : α) : Except BacklogError (Backlog α) :=
  if queue.capacity ≤ queue.items.length then .error .maximumElementsReached
  else .ok { queue with items := queue.items ++ [item] }

/-- The oldest element and the queue without it. -/
def dequeue? (queue : Backlog α) : Option (α × Backlog α) :=
  match queue.items with
  | [] => none
  | item :: rest => some (item, { queue with items := rest })

def clear (queue : Backlog α) : Backlog α := { queue with items := [] }

variable {queue next : Backlog α} {item : α}

theorem enqueue_eq_ok_iff :
    queue.enqueue item = .ok next ↔
      queue.items.length < queue.capacity ∧ next = { queue with items := queue.items ++ [item] } := by
  rw [enqueue]
  split
  · next full => simp [Nat.not_lt.mpr full]
  · next room => simp [Nat.not_le.mp room, eq_comm]

theorem enqueue_eq_error_iff {cause : BacklogError} :
    queue.enqueue item = .error cause ↔
      queue.capacity ≤ queue.items.length ∧ cause = .maximumElementsReached := by
  rw [enqueue]
  split
  · next full => simp [full]
  · next room => simp [room]

theorem dequeue?_eq_none_iff : queue.dequeue? = none ↔ queue.items = [] := by
  rw [dequeue?]
  split
  · next empty => simp [empty]
  · next first => simp [first]

end Backlog

end PhoneKey
