import PhoneKey.Proofs.Simulation.Bench

/-! # What observers of a bench hear

The journal of a bench notes what the subscribers of each stream are told. Who subscribed to the grants hears
of every change that is published of them, once and in order, and of nothing else.
-/

namespace PhoneKey

/-- The change of the grants that an effect publishes. -/
def Effect.grantChange? : Effect → Option GrantChange
  | .announce (.grants change) => some change
  | _ => none

/-- What effects publish on the stream of grants. -/
def grantChanges (effects : List Effect) : List GrantChange := effects.filterMap Effect.grantChange?

/-- The change of the grants that a subscriber was told. -/
def Heard.grantChange? (subscriber : Nat) : Heard → Option GrantChange
  | .delivery ⟨other, .grants change⟩ => if other = subscriber then some change else none
  | _ => none

/-- What a subscriber was told of the grants. -/
def grantsHeard (subscriber : Nat) (journal : List Heard) : List GrantChange :=
  journal.filterMap (Heard.grantChange? subscriber)

/-- Whether somebody subscribed to the grants, once. -/
def Broadcast.Lists (broadcast : Broadcast) (subscriber : Nat) : Prop :=
  broadcast.grants.audience.members.count subscriber = 1

/-- Whether no observer hears of an effect. -/
def Effect.isUnheard : Effect → Bool
  | .radio _ => true
  | .attempt _ _ _ => true
  | _ => false

theorem grantChanges_of_unheard {effects : List Effect} (unheard : effects.all Effect.isUnheard = true) :
    grantChanges effects = [] := by
  rw [grantChanges, List.filterMap_eq_nil_iff]
  intro effect member
  have silent := List.all_eq_true.mp unheard effect member
  cases effect with
  | announce news => cases silent
  | _ => rfl

theorem grantChanges_append (first second : List Effect) :
    grantChanges (first ++ second) = grantChanges first ++ grantChanges second := List.filterMap_append

variable {subscriber : Nat}

/-- A change of the grants reaches every member of the audience as often as it is listed. -/
theorem grantsHeard_publish (broadcast : Broadcast) (change : GrantChange) :
    grantsHeard subscriber ((broadcast.publish (.grants change)).1.map .delivery) =
      List.replicate (broadcast.grants.audience.members.count subscriber) change := by
  simp only [Broadcast.publish, Broadcast.spread, ChangeStream.publish, Audience.tell, List.map_map,
    grantsHeard]
  induction broadcast.grants.audience.members with
  | nil => rfl
  | cons member rest ih =>
    by_cases same : member = subscriber
    · simp_all [Heard.grantChange?, List.replicate_succ]
    · simp_all [Heard.grantChange?]

/-- Other news are told to nobody as changes of the grants. -/
theorem grantsHeard_publish_of_other (broadcast : Broadcast) {news : Announcement}
    (other : ∀ change, news ≠ .grants change) :
    grantsHeard subscriber ((broadcast.publish news).1.map .delivery) = [] ∧
      (broadcast.publish news).2.grants = broadcast.grants := by
  cases news with
  | grants change => exact absurd rfl (other change)
  | bluetooth on =>
    refine ⟨?_, rfl⟩
    simp only [Broadcast.publish, ValueStream.set]
    split <;> simp [grantsHeard, Heard.grantChange?]
  | _ => exact ⟨by simp [grantsHeard, Broadcast.publish, Broadcast.spread, Heard.grantChange?], rfl⟩

namespace Bench

variable {Layer : Type}

/-- Who subscribed to the grants hears of an effect what it publishes of them, and stays subscribed. -/
theorem grantsHeard_perform (bench : Bench Layer) (effect : Effect)
    (listed : bench.broadcast.Lists subscriber) :
    (bench.perform effect).broadcast.Lists subscriber ∧
      grantsHeard subscriber (bench.perform effect).journal =
        grantsHeard subscriber bench.journal ++ grantChanges [effect] := by
  cases effect with
  | announce news =>
    have heard : grantsHeard subscriber (bench.perform (.announce news)).journal =
        grantsHeard subscriber bench.journal ++
          grantsHeard subscriber ((bench.broadcast.publish news).1.map .delivery) := List.filterMap_append
    by_cases concerned : ∃ change, news = .grants change
    · obtain ⟨change, rfl⟩ := concerned
      refine ⟨listed, ?_⟩
      rw [heard, grantsHeard_publish, listed]
      rfl
    · have other : ∀ change, news ≠ .grants change := fun change same => concerned ⟨change, same⟩
      obtain ⟨silent, same⟩ := @grantsHeard_publish_of_other subscriber bench.broadcast news other
      have unlisted : grantChanges [.announce news] = [] := by
        cases news with
        | grants change => exact absurd rfl (other change)
        | _ => rfl
      refine ⟨?_, by rw [heard, silent, unlisted]⟩
      rw [Broadcast.Lists, perform, same]
      exact listed
  | telemetry event => exact ⟨listed, List.filterMap_append⟩
  | radio call => exact ⟨listed, (List.append_nil _).symm⟩
  | attempt request state outstanding => exact ⟨listed, (List.append_nil _).symm⟩

/-- Who subscribed to the grants is still subscribed after any effects, and has heard what they published. -/
theorem grantsHeard_foldl_perform (effects : List Effect) (bench : Bench Layer)
    (listed : bench.broadcast.Lists subscriber) :
    (effects.foldl perform bench).broadcast.Lists subscriber ∧
      grantsHeard subscriber (effects.foldl perform bench).journal =
        grantsHeard subscriber bench.journal ++ grantChanges effects := by
  induction effects generalizing bench with
  | nil => exact ⟨listed, (List.append_nil _).symm⟩
  | cons effect rest ih =>
    obtain ⟨still, heard⟩ := bench.grantsHeard_perform effect listed
    obtain ⟨last, following⟩ := ih (bench.perform effect) still
    refine ⟨last, ?_⟩
    rw [List.foldl_cons, following, heard, List.append_assoc, ← grantChanges_append]
    rfl

/-- What nobody hears of changes layer and radio only. -/
theorem later_of_unheard {effects : List Effect} (unheard : effects.all Effect.isUnheard = true)
    (bench : Bench Layer) (layer : Layer) (radio : Radio) :
    bench.later layer radio effects = { bench with layer, radio } := by
  induction effects generalizing bench with
  | nil => rfl
  | cons effect rest ih =>
    rw [List.all_cons, Bool.and_eq_true] at unheard
    cases effect with
    | radio call => exact ih unheard.2 (bench.perform (.radio call))
    | attempt request state outstanding => exact ih unheard.2 bench
    | _ => cases unheard.1

theorem grantsHeard_later (bench : Bench Layer) (layer : Layer) (radio : Radio) (effects : List Effect)
    (listed : bench.broadcast.Lists subscriber) :
    (bench.later layer radio effects).broadcast.Lists subscriber ∧
      grantsHeard subscriber (bench.later layer radio effects).journal =
        grantsHeard subscriber bench.journal ++ grantChanges effects :=
  grantsHeard_foldl_perform effects bench listed

end Bench

end PhoneKey
