import PhoneKey.Timer

/-! # Polling a timer

A timer that is asked in time starts again at the time of the question, and stays as it is when it is asked
too early. In either case its next deadline lies ahead.
-/

namespace PhoneKey

namespace Timer

variable {timer : Timer} {deadline now : Nat}

theorem interval_poll (timer : Timer) (now : Nat) : (timer.poll now).2.interval = timer.interval := by
  rw [poll]
  split
  · split <;> rfl
  · rfl

theorem poll_of_deadline (waits : timer.deadline? = some deadline) (now : Nat) :
    timer.poll now = if deadline ≤ now then (true, timer.start now) else (false, timer) := by
  simp only [poll, waits]

theorem poll_eq_true_iff (timer : Timer) (now : Nat) :
    (timer.poll now).1 = true ↔ ∃ deadline, timer.deadline? = some deadline ∧ deadline ≤ now := by
  cases waits : timer.deadline? with
  | none => simp [poll, waits]
  | some deadline => by_cases due : deadline ≤ now <;> simp [poll, waits, due]

/-- What a timer is after a question depends on the answer only. -/
theorem poll_eq (timer : Timer) (now : Nat) :
    timer.poll now = if (timer.poll now).1 then (true, timer.start now) else (false, timer) := by
  cases waits : timer.deadline? with
  | none => simp [poll, waits]
  | some deadline => by_cases due : deadline ≤ now <;> simp [poll, waits, due]

theorem lt_deadline_poll (positive : 0 < timer.interval) (waits : (timer.poll now).2.deadline? = some deadline) :
    now < deadline := by
  cases armed : timer.deadline? with
  | none =>
    simp only [poll, armed] at waits
    cases waits
  | some due =>
    rw [poll_of_deadline armed] at waits
    split at waits
    · cases waits
      exact Nat.lt_add_of_pos_right positive
    · next early =>
      cases armed.symm.trans waits
      exact Nat.not_le.mp early

end Timer

end PhoneKey
