/-! # Repeating timers

A timer does not run by itself: its owner asks from time to time whether it is due. It fires at most
once for a question and the next interval starts at the question, so a late question never leads to a
burst of firings. Times and intervals are durations in whole milliseconds, taken as natural numbers: the
overflow of a deadline is left out.
-/

namespace PhoneKey

structure Timer where
  interval : Nat
  deadline? : Option Nat
deriving DecidableEq, Repr, Inhabited

namespace Timer

/-- A stopped timer. -/
def new (interval : Nat) : Timer := ⟨interval, none⟩

def start (timer : Timer) (now : Nat) : Timer := { timer with deadline? := some (now + timer.interval) }

def stop (timer : Timer) : Timer := { timer with deadline? := none }

/-- Whether the timer is due; if so the next interval starts now. -/
def poll (timer : Timer) (now : Nat) : Bool × Timer :=
  match timer.deadline? with
  | some deadline => if deadline ≤ now then (true, timer.start now) else (false, timer)
  | none => (false, timer)

end Timer

end PhoneKey
