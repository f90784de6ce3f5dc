import PhoneKey.Effect

/-! # Watching effects

Whoever watches effects remembers a state. Whether each effect fits the state that is remembered when it
comes can be told piece by piece.
-/

namespace PhoneKey

variable {State : Type} {watch : State → List Effect → State} {fits : State → Effect → Prop} {state : State}

/-- Every effect fits the state that the effects before it led to. -/
def Watched (watch : State → List Effect → State) (fits : State → Effect → Prop) (state : State)
    (effects : List Effect) : Prop :=
  ∀ earlier effect later, effects = earlier ++ effect :: later → fits (watch state earlier) effect

namespace Watched

theorem of_forall {effects : List Effect} (fitting : ∀ effect ∈ effects, ∀ state, fits state effect) :
    Watched watch fits state effects := by
  rintro earlier effect later rfl
  exact fitting effect (by simp) _

theorem single {effect : Effect} (fitting : fits (watch state []) effect) : Watched watch fits state [effect] := by
  intro earlier other later split
  cases earlier with
  | nil =>
    cases split
    exact fitting
  | cons first rest => simp at split

theorem append {first second : List Effect}
    (composes : ∀ state first second, watch state (first ++ second) = watch (watch state first) second)
    (early : Watched watch fits state first) (late : Watched watch fits (watch state first) second) :
    Watched watch fits state (first ++ second) := by
  intro earlier effect later split
  rcases List.append_eq_append_iff.mp split with ⟨middle, rfl, rest⟩ | ⟨middle, rfl, rest⟩
  · rw [composes]
    exact late middle effect later rest
  · cases middle with
    | nil =>
      have last := late [] effect later rest.symm
      rwa [← composes, List.append_nil, List.append_nil] at last
    | cons head tail =>
      obtain ⟨rfl, _⟩ := List.cons.inj rest
      exact early earlier effect tail rfl

end Watched

end PhoneKey
