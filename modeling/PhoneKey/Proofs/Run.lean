import Mathlib.Data.List.Induction
import PhoneKey.Effect

/-! # Runs

A run gives inputs to a state, one after the other. Its calls keep the state that each input found, so
that a statement about the end of a run can name the call that something goes back to. What every
call preserves together with the calls before it holds at the end of every run.
-/

namespace PhoneKey

/-- One input of a run and the state that it found. -/
structure Call (State Input : Type) where
  before : State
  input : Input

/-- Inputs are in the order of time with one more exactly if they are without it and none of them is later. -/
theorem timesOrdered_concat_iff {Input : Type} {time? : Input → Option Nat} {inputs : List Input} {input : Input} :
    ((inputs ++ [input]).filterMap time?).Pairwise (· ≤ ·) ↔
      (inputs.filterMap time?).Pairwise (· ≤ ·) ∧
        ∀ now, time? input = some now → ∀ earlier ∈ inputs.filterMap time?, earlier ≤ now := by
  rw [List.filterMap_append, List.pairwise_append]
  cases timed : time? input <;> simp [timed]

namespace Turn

variable {State Report Input : Type} (step : State → Input → Turn State Report)

/-- The calls of a run, first to last. -/
def calls (state : State) : List Input → List (Call State Input)
  | [] => []
  | input :: rest => ⟨state, input⟩ :: calls (step state input).state rest

@[simp] theorem after_nil (turn : Turn State Report) : turn.after [] = turn := rfl

theorem after_report (effects : List Effect) (state : State) (news : Report) :
    (report state news).after effects = ⟨state, [news], effects⟩ := by
  simp [after, report]

theorem andThen_idle (turn : Turn State Report) : turn.andThen idle = turn := by
  simp [andThen, idle]

theorem andThen_assoc (turn : Turn State Report) (next last : State → Turn State Report) :
    (turn.andThen next).andThen last = turn.andThen fun state => (next state).andThen last := by
  simp [andThen, List.append_assoc]

/-- What follows a turn depends on the state in which the turn ended. -/
theorem andThen_congr {turn : Turn State Report} {next other : State → Turn State Report}
    (same : next turn.state = other turn.state) : turn.andThen next = turn.andThen other := by
  simp only [andThen, same]

@[simp] theorem forEach_nil (state : State) : forEach step state [] = idle state := rfl

theorem forEach_cons (state : State) (input : Input) (rest : List Input) :
    forEach step state (input :: rest) =
      (step state input).andThen fun next => forEach step next rest := rfl

theorem forEach_singleton (state : State) (input : Input) :
    forEach step state [input] = step state input := andThen_idle (step state input)

/-- A run goes on from the state in which its first part ended. -/
theorem forEach_append (state : State) (first second : List Input) :
    forEach step state (first ++ second) =
      (forEach step state first).andThen fun next => forEach step next second := by
  induction first generalizing state with
  | nil => rfl
  | cons input rest ih =>
    rw [List.cons_append, forEach_cons, forEach_cons, andThen_assoc]
    congr 1
    funext next
    exact ih next

theorem state_forEach_append (state : State) (first second : List Input) :
    (forEach step state (first ++ second)).state =
      (forEach step (forEach step state first).state second).state := by
  rw [forEach_append]
  rfl

theorem calls_append (state : State) (first second : List Input) :
    calls step state (first ++ second) =
      calls step state first ++ calls step (forEach step state first).state second := by
  induction first generalizing state with
  | nil => rfl
  | cons input rest ih =>
    rw [List.cons_append, calls, calls, ih]
    rfl

/-- The last call of a run found the state in which the run before it ended. -/
theorem calls_concat (state : State) (inputs : List Input) (input : Input) :
    calls step state (inputs ++ [input]) =
      calls step state inputs ++ [⟨(forEach step state inputs).state, input⟩] := by
  rw [calls_append]
  rfl

/-- What a call of a run found is what an earlier part of the run led to. -/
theorem before_of_mem_calls {state : State} {inputs : List Input} {call : Call State Input}
    (made : call ∈ calls step state inputs) :
    ∃ earlier later, inputs = earlier ++ call.input :: later ∧
      call.before = (forEach step state earlier).state := by
  induction inputs generalizing state with
  | nil => cases made
  | cons input rest ih =>
    rcases List.mem_cons.mp made with rfl | later
    · exact ⟨[], rest, rfl, rfl⟩
    · obtain ⟨earlier, last, rfl, found⟩ := ih later
      exact ⟨input :: earlier, last, rfl, found⟩

/-- Where the calls of a run are split, its inputs are split too. -/
theorem calls_eq_append {state : State} {inputs : List Input} {first second : List (Call State Input)}
    (split : calls step state inputs = first ++ second) :
    ∃ earlier later, inputs = earlier ++ later ∧ first = calls step state earlier ∧
      second = calls step (forEach step state earlier).state later := by
  induction first generalizing state inputs with
  | nil => exact ⟨[], inputs, rfl, rfl, split.symm⟩
  | cons call rest ih =>
    cases inputs with
    | nil => cases split
    | cons input remaining =>
      obtain ⟨same, split⟩ := List.cons_eq_cons.mp split
      obtain ⟨earlier, later, rfl, rfl, rfl⟩ := ih split
      exact ⟨input :: earlier, later, rfl, congrArg (· :: _) same.symm, rfl⟩

/-- The call at which the calls of a run are split found what the calls before it led to. -/
theorem calls_eq_append_cons {state : State} {inputs : List Input} {first later : List (Call State Input)}
    {call : Call State Input} (split : calls step state inputs = first ++ call :: later) :
    ∃ earlier rest, first = calls step state earlier ∧ call.before = (forEach step state earlier).state ∧
      first ++ [call] = calls step state (earlier ++ [call.input]) ∧
      later = calls step (step call.before call.input).state rest := by
  obtain ⟨earlier, remaining, -, rfl, following⟩ := calls_eq_append step split
  cases remaining with
  | nil => cases following
  | cons input rest =>
    obtain ⟨rfl, rfl⟩ := List.cons_eq_cons.mp following
    exact ⟨earlier, rest, rfl, rfl, (calls_concat step state earlier input).symm, rfl⟩

theorem state_forEach_concat (state : State) (inputs : List Input) (input : Input) :
    (forEach step state (inputs ++ [input])).state =
      (step (forEach step state inputs).state input).state := by
  rw [state_forEach_append, forEach_singleton]

theorem reports_forEach_concat (state : State) (inputs : List Input) (input : Input) :
    (forEach step state (inputs ++ [input])).reports =
      (forEach step state inputs).reports ++ (step (forEach step state inputs).state input).reports := by
  rw [forEach_append]
  simp only [forEach_singleton]
  rfl

theorem effects_forEach_concat (state : State) (inputs : List Input) (input : Input) :
    (forEach step state (inputs ++ [input])).effects =
      (forEach step state inputs).effects ++ (step (forEach step state inputs).state input).effects := by
  rw [forEach_append]
  simp only [forEach_singleton]
  rfl

/-- What holds at the start and is kept by every call, given the calls before it, holds of every run. -/
theorem run_induction {motive : List (Call State Input) → State → Prop} {start : State}
    (base : motive [] start)
    (advance : ∀ before state input, motive before state →
      motive (before ++ [⟨state, input⟩]) (step state input).state)
    (inputs : List Input) : motive (calls step start inputs) (forEach step start inputs).state := by
  induction inputs using List.reverseRecOn with
  | nil => exact base
  | append_singleton inputs input ih =>
    rw [calls_concat, state_forEach_concat]
    exact advance _ _ _ ih

end Turn

end PhoneKey
