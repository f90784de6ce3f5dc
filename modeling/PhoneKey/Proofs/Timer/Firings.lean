import Mathlib.Data.List.Pairwise
import PhoneKey.Proofs.Run
import PhoneKey.Proofs.Timer

/-! # When a timer fires

Whatever its owner does with a timer and however late the questions come, its answers follow from its history:
a timer that runs fires at a question exactly if a whole interval has passed since it was last started or fired.
The invariant behind this says which deadline a history leaves. Everything else follows from the answers alone:
firings keep their distance, so that a window of time has room for few of them, and none comes between a stop
and the next start.
-/

namespace PhoneKey

namespace Timer

/-- What the owner of a timer does. -/
inductive Input where
  | start (now : Nat)
  | stop
  | poll (now : Nat)
deriving DecidableEq, Repr

/-- What an input comes to. -/
inductive Event where
  | started (now : Nat)
  | stopped
  /-- A question, and whether the timer fired at it. -/
  | polled (now : Nat) (fired : Bool)
deriving DecidableEq, Repr

def act (timer : Timer) : Input → Turn Timer Event
  | .start now => .report (timer.start now) (.started now)
  | .stop => .report timer.stop .stopped
  | .poll now => .report (timer.poll now).2 (.polled now (timer.poll now).1)

/-- A timer in the hands of its owner. -/
def run (timer : Timer) (inputs : List Input) : Turn Timer Event := Turn.forEach act timer inputs

/-- The time that an input comes with, if it comes with one. -/
def Input.time? : Input → Option Nat
  | .start now | .poll now => some now
  | .stop => none

/-- Inputs in the order of time. -/
def Timely (inputs : List Input) : Prop := (inputs.filterMap Input.time?).Pairwise (· ≤ ·)

instance (inputs : List Input) : Decidable (Timely inputs) := inferInstanceAs (Decidable (List.Pairwise _ _))

namespace Event

/-- The input that came to this. -/
def input : Event → Input
  | .started now => .start now
  | .stopped => .stop
  | .polled now _ => .poll now

def start? : Event → Option Nat
  | .started now => some now
  | _ => none

def firing? : Event → Option Nat
  | .polled now true => some now
  | _ => none

/-- Whether a timer runs after an event, given whether it ran before. -/
def running (before : Bool) : Event → Bool
  | .started _ => true
  | .stopped => false
  | .polled _ _ => before

end Event

/-- Whether a timer was started and not stopped since. -/
def running (events : List Event) : Bool := events.foldl Event.running false

/-- The times at which a timer was started. -/
def starts (events : List Event) : List Nat := events.filterMap Event.start?

/-- The times at which a timer fired. -/
def firings (events : List Event) : List Nat := events.filterMap Event.firing?

/-- The later of the last start and the last firing of a timer that was started. -/
def renewal (events : List Event) : Nat := max ((starts events).getLastD 0) ((firings events).getLastD 0)

/-- Questions are answered with yes exactly if the timer runs and a whole interval has passed since it was last
started or fired. -/
def Answers (interval : Nat) (events : List Event) : Prop :=
  ∀ earlier now fired, earlier ++ [.polled now fired] <+: events →
    (fired = true ↔ running earlier = true ∧ renewal earlier + interval ≤ now)

/-- A timer fires as its history says. -/
structure Regular (interval : Nat) (inputs : List Input) (events : List Event) : Prop where
  /-- Everything that is done shows. -/
  complete : events.map Event.input = inputs
  answers : Answers interval events
  /-- Any two firings are at least an interval apart. -/
  apart : (firings events).Pairwise fun earlier later => earlier + interval ≤ later
  /-- However late the questions come, a window of time has at most one firing more than whole intervals. -/
  sparse : ∀ first window, ((firings events).filter fun now => first ≤ now ∧ now ≤ first + window).length ≤
    1 + window / interval
  /-- Nothing fires between a stop and the next start. -/
  silent : ∀ earlier quiet, earlier ++ .stopped :: quiet <+: events → (∀ now, .started now ∉ quiet) →
    firings quiet = []

variable {interval now : Nat} {timer : Timer} {inputs : List Input} {events : List Event}

/-! ### What follows from the answers -/

/-- Times that are an interval apart are few in a window. -/
theorem length_le_of_apart {times : List Nat} {first window : Nat} (positive : 0 < interval)
    (apart : times.Pairwise fun earlier later => earlier + interval ≤ later)
    (within : ∀ now ∈ times, first ≤ now ∧ now ≤ first + window) :
    times.length ≤ 1 + window / interval := by
  induction times generalizing first window with
  | nil => exact Nat.zero_le _
  | cons now rest ih =>
    obtain ⟨ahead, others⟩ := List.pairwise_cons.mp apart
    obtain ⟨begun, -⟩ := within now List.mem_cons_self
    cases rest with
    | nil => exact Nat.le_add_right 1 _
    | cons next rest =>
      have following := ahead next List.mem_cons_self
      have inside := (within next (List.mem_cons_of_mem _ List.mem_cons_self)).2
      have room : interval ≤ window := by omega
      -- What comes after the first time lies in a window that begins an interval later.
      have fewer : (next :: rest).length ≤ 1 + (window - interval) / interval := by
        refine @ih (first + interval) (window - interval) others fun later member => ?_
        have far := ahead later member
        have last := (within later (List.mem_cons_of_mem _ member)).2
        omega
      rw [List.length_cons, Nat.div_eq_sub_div positive room]
      omega

theorem starts_append (first second : List Event) : starts (first ++ second) = starts first ++ starts second :=
  List.filterMap_append

theorem firings_append (first second : List Event) :
    firings (first ++ second) = firings first ++ firings second := List.filterMap_append

theorem running_concat (events : List Event) (event : Event) :
    running (events ++ [event]) = event.running (running events) := by
  rw [running, List.foldl_append]
  rfl

/-- Firings that are an interval apart come no later than the last of them. -/
theorem le_renewal_of_apart (apart : (firings events).Pairwise fun earlier later => earlier + interval ≤ later)
    (fired : now ∈ firings events) : now ≤ renewal events := by
  have sorted : (firings events).Pairwise (· ≤ ·) := apart.imp (Nat.le_trans (Nat.le_add_right ..))
  have last : (firings events).getLastD 0 = (firings events).getLast (List.ne_nil_of_mem fired) := by
    rw [List.getLastD_eq_getLast?, List.getLast?_eq_some_getLast (List.ne_nil_of_mem fired), Option.getD_some]
  calc
    now ≤ (firings events).getLast (List.ne_nil_of_mem fired) := sorted.rel_getLast fired
    _ = (firings events).getLastD 0 := last.symm
    _ ≤ renewal events := Nat.le_max_right ..

/-- A firing comes a whole interval after every earlier one, since it does so after the last of them. -/
theorem Answers.apart (answers : Answers interval events) :
    (firings events).Pairwise fun earlier later => earlier + interval ≤ later := by
  induction events using List.reverseRecOn with
  | nil => exact .nil
  | append_singleton events event ih =>
    have before := ih fun earlier now fired part => answers earlier now fired (part.trans (List.prefix_append ..))
    rw [firings_append]
    cases event with
    | polled now fired =>
      cases fired with
      | true =>
        refine List.pairwise_append.mpr ⟨before, List.pairwise_singleton _ now, fun earlier fired later last => ?_⟩
        obtain rfl : later = now := List.mem_singleton.mp last
        have due := ((answers events later true (List.prefix_refl _)).mp rfl).2
        exact Nat.le_trans (Nat.add_le_add_right (le_renewal_of_apart before fired) interval) due
      | false => exact (List.append_nil _).symm ▸ before
    | _ => exact (List.append_nil _).symm ▸ before

private theorem Answers.sparse (positive : 0 < interval) (answers : Answers interval events)
    (first window : Nat) :
    ((firings events).filter fun now => first ≤ now ∧ now ≤ first + window).length ≤ 1 + window / interval :=
  length_le_of_apart positive (answers.apart.filter _)
    fun now member => by simpa using (List.mem_filter.mp member).2

/-- A timer that was stopped stays so until it is started. -/
theorem running_stopped {earlier quiet : List Event} (unstarted : ∀ now, .started now ∉ quiet) :
    running (earlier ++ .stopped :: quiet) = false := by
  induction quiet using List.reverseRecOn with
  | nil => simp [running, Event.running]
  | append_singleton quiet event ih =>
    have before := ih fun now listed => unstarted now (List.mem_append_left _ listed)
    rw [← List.cons_append, ← List.append_assoc, running_concat, before]
    cases event with
    | started now => exact absurd (List.mem_append_right _ (List.mem_singleton_self _)) (unstarted now)
    | _ => rfl

private theorem Answers.silent (answers : Answers interval events) {earlier quiet : List Event}
    (part : earlier ++ .stopped :: quiet <+: events) (unstarted : ∀ now, .started now ∉ quiet) :
    firings quiet = [] := by
  refine List.filterMap_eq_nil_iff.mpr fun event member => ?_
  obtain ⟨before, after, rfl⟩ := List.append_of_mem member
  have idle : running (earlier ++ .stopped :: before) = false :=
    running_stopped fun now listed => unstarted now (List.mem_append_left _ listed)
  cases event with
  | polled now fired =>
    have asked : (earlier ++ .stopped :: before) ++ [.polled now fired] <+: events := by
      refine List.IsPrefix.trans ⟨after, ?_⟩ part
      simp
    cases fired with
    | true => exact absurd ((answers _ now true asked).mp rfl).1 (by simp [idle])
    | false => rfl
  | _ => rfl

/-! ### The deadline that a history leaves -/

/-- What a timer makes of its history: if it runs, it waits for the end of the interval since it was last started
or fired. -/
structure Follows (interval : Nat) (events : List Event) (timer : Timer) : Prop where
  deadline : timer.deadline? = if running events then some (renewal events + interval) else none
  interval : timer.interval = interval

private theorem follows_new (interval : Nat) : Follows interval [] (new interval) := ⟨rfl, rfl⟩

/-- A timer that follows its history answers according to it. -/
theorem Follows.fires_iff (follows : Follows interval events timer) (now : Nat) :
    (timer.poll now).1 = true ↔ running events = true ∧ renewal events + interval ≤ now := by
  rw [poll_eq_true_iff, follows.deadline]
  cases running events <;> simp

private theorem renewal_started (passed : renewal events ≤ now) :
    renewal (events ++ [.started now]) = now := by
  have unfired : firings [.started now] = [] := rfl
  rw [renewal, starts_append, firings_append, unfired, List.append_nil]
  exact (congrArg (max · _) List.getLastD_concat).trans (Nat.max_eq_left (Nat.max_le.mp passed).2)

private theorem renewal_fired (passed : renewal events ≤ now) :
    renewal (events ++ [.polled now true]) = now := by
  have unstarted : starts [.polled now true] = [] := rfl
  rw [renewal, starts_append, firings_append, unstarted, List.append_nil]
  exact (congrArg (max _) List.getLastD_concat).trans (Nat.max_eq_right (Nat.max_le.mp passed).1)

private theorem renewal_unfired (events : List Event) (now : Nat) :
    renewal (events ++ [.polled now false]) = renewal events := by
  have unstarted : starts [.polled now false] = [] := rfl
  have unfired : firings [.polled now false] = [] := rfl
  rw [renewal, starts_append, firings_append, unstarted, unfired, List.append_nil, List.append_nil, renewal]

/-- A timer goes on following its history, if no input comes before the last start or firing. -/
theorem Follows.act (follows : Follows interval events timer) (input : Input)
    (passed : ∀ now, input.time? = some now → renewal events ≤ now) :
    Follows interval (events ++ (timer.act input).reports) (timer.act input).state := by
  cases input with
  | start now =>
    refine ⟨?_, follows.interval⟩
    simp only [Timer.act, Turn.report, running_concat, Event.running, renewal_started (passed now rfl), if_true]
    rw [start, follows.interval]
  | stop =>
    refine ⟨?_, follows.interval⟩
    simp only [Timer.act, Turn.report, running_concat, Event.running]
    rfl
  | poll now =>
    have fires := follows.fires_iff now
    have polled := timer.poll_eq now
    simp only [Timer.act, Turn.report]
    -- A firing begins a new interval, and any other question leaves timer and history as they were.
    cases due : (timer.poll now).1 with
    | true =>
      rw [due, if_pos rfl] at polled
      have runs := (fires.mp due).1
      refine ⟨?_, by rw [polled]; exact follows.interval⟩
      simp only [polled, running_concat, Event.running, runs, renewal_fired (passed now rfl), if_true]
      rw [start, follows.interval]
    | false =>
      rw [due, if_neg Bool.false_ne_true] at polled
      refine ⟨?_, by rw [polled]; exact follows.interval⟩
      simp only [polled, running_concat, Event.running, renewal_unfired]
      exact follows.deadline

/-! ### Runs -/

theorem Answers.concat (answers : Answers interval events) {event : Event}
    (last : ∀ now fired, event = .polled now fired →
      (fired = true ↔ running events = true ∧ renewal events + interval ≤ now)) :
    Answers interval (events ++ [event]) := by
  intro earlier now fired part
  rcases List.prefix_concat_iff.mp part with whole | before
  · obtain ⟨rfl, same⟩ := List.append_inj' whole rfl
    exact last now fired (List.singleton_inj.mp same).symm
  · exact answers earlier now fired before

theorem complete_run (timer : Timer) (inputs : List Input) :
    (timer.run inputs).reports.map Event.input = inputs := by
  induction inputs generalizing timer with
  | nil => rfl
  | cons input rest ih =>
    have following := ih (timer.act input).state
    cases input <;> exact congrArg (List.cons _) following

private theorem Event.time?_of_start? {event : Event} (started : event.start? = some now) :
    event.input.time? = some now := by
  cases event with
  | started time => exact started
  | _ => cases started

private theorem Event.time?_of_firing? {event : Event} (fired : event.firing? = some now) :
    event.input.time? = some now := by
  cases event with
  | polled time due =>
    cases due with
    | true => exact fired
    | false => cases fired
  | _ => cases fired

section

variable (passed : ∀ time ∈ (events.map Event.input).filterMap Input.time?, time ≤ now)
include passed

/-- Whatever is picked from a history comes no later than the inputs. -/
theorem getLastD_le {pick : Event → Option Nat}
    (timed : ∀ {event time}, pick event = some time → event.input.time? = some time) :
    (events.filterMap pick).getLastD 0 ≤ now := by
  rcases List.mem_cons.mp (@List.getLastD_mem_cons _ (events.filterMap pick) 0) with none | listed
  · rw [none]
    exact Nat.zero_le now
  · obtain ⟨event, member, picked⟩ := List.mem_filterMap.mp listed
    exact passed _ (List.mem_filterMap.mpr ⟨event.input, List.mem_map_of_mem member, timed picked⟩)

private theorem renewal_le : renewal events ≤ now :=
  Nat.max_le.mpr ⟨getLastD_le passed Event.time?_of_start?, getLastD_le passed Event.time?_of_firing?⟩

end

theorem follows_of_run (interval : Nat) (timely : Timely inputs) :
    Follows interval ((new interval).run inputs).reports ((new interval).run inputs).state := by
  induction inputs using List.reverseRecOn with
  | nil => exact follows_new interval
  | append_singleton inputs input ih =>
    obtain ⟨before, passed⟩ := timesOrdered_concat_iff.mp timely
    rw [run, Turn.reports_forEach_concat, Turn.state_forEach_concat]
    refine (ih before).act input fun now timed => renewal_le ?_
    rw [complete_run]
    exact passed now timed

theorem answers_of_run (interval : Nat) (timely : Timely inputs) :
    Answers interval ((new interval).run inputs).reports := by
  induction inputs using List.reverseRecOn with
  | nil => exact fun earlier now fired part => absurd (List.prefix_nil.mp part) (by simp)
  | append_singleton inputs input ih =>
    have before : Timely inputs := (timesOrdered_concat_iff.mp timely).1
    rw [run, Turn.reports_forEach_concat]
    cases input with
    | poll now =>
      refine (ih before).concat fun asked fired same => ?_
      cases same
      exact (follows_of_run interval before).fires_iff now
    | _ => exact (ih before).concat nofun

/-- With inputs in the order of time, a timer whose interval is not zero fires as its history says. -/
theorem regular_of_run (interval : Nat) (inputs : List Input) (positive : 0 < interval) (timely : Timely inputs) :
    Regular interval inputs ((new interval).run inputs).reports := by
  have answers := answers_of_run interval timely
  exact {
    complete := complete_run (new interval) inputs
    answers := answers
    apart := answers.apart
    sparse := answers.sparse positive
    silent := fun _ _ part unstarted => answers.silent part unstarted }

/-- A timer is asked late, started again while it runs, asked while it is stopped, and started again. -/
def restartedInputs : List Input :=
  [.start 0, .poll 99, .poll 1000, .poll 1050, .start 1060, .poll 1100, .poll 1160, .stop, .poll 5000, .start 5000,
    .poll 5099, .poll 5100]

theorem regular_restarted :
    0 < 100 ∧ Timely restartedInputs ∧ firings ((new 100).run restartedInputs).reports = [1000, 1160, 5100] ∧
      Regular 100 restartedInputs ((new 100).run restartedInputs).reports := by
  have timely : Timely restartedInputs := by decide
  exact ⟨by decide, timely, by decide, regular_of_run 100 restartedInputs (by decide) timely⟩

end Timer

end PhoneKey
