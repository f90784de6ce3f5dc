import Mathlib.Data.Finset.Basic
import Mathlib.Data.Finset.Dedup
import PhoneKey.Discovery
import PhoneKey.Proofs.Discovery.Sightings
import PhoneKey.Proofs.Run

/-! # Discovery tells what it does

The reason of a published change tells exactly how the state differs from the one before it. Whoever
follows the reasons knows at any time which peers are known and whether discovery is on, and a peer that is
known is known with its latest report.
-/

namespace PhoneKey

/-- What the reasons of changes are about: the peers that are known and whether discovery is on. -/
@[ext] structure Roster where
  known : Finset Uuid
  enabled : Bool

namespace Roster

/-- The roster after a change, if a change of that reason is possible. -/
def follow? (roster : Roster) : DiscoveryReason → Option Roster
  | .initial => none
  | .discovered sorcId =>
    if sorcId ∈ roster.known then none else some { roster with known := insert sorcId roster.known }
  | .rediscovered sorcId => if sorcId ∈ roster.known then some roster else none
  | .lost sorcIds =>
    if sorcIds ≠ [] ∧ sorcIds.toFinset ⊆ roster.known then
      some { roster with known := roster.known \ sorcIds.toFinset }
    else none
  | .disconnect sorcId | .disconnected sorcId =>
    if sorcId ∈ roster.known then some { roster with known := roster.known.erase sorcId } else none
  | .reset => some { roster with known := ∅ }
  | .started => if roster.enabled then none else some { roster with enabled := true }
  | .stopped => if roster.enabled then some { roster with enabled := false } else none

end Roster

/-- The peer that was reported. -/
def DiscoveryReason.reported? : DiscoveryReason → Option Uuid
  | .discovered sorcId | .rediscovered sorcId => some sorcId
  | _ => none

/-- What an effect publishes about discovery. -/
def Effect.discovery? : Effect → Option DiscoveryChange
  | .announce (.discovery change) => some change
  | _ => none

namespace DiscoveryState

variable {before between after : DiscoveryState} {sorcId : Uuid}

def roster (state : DiscoveryState) : Roster := ⟨(state.sightings.map (·.sorcId)).toFinset, state.enabled⟩

private theorem mem_known {state : DiscoveryState} :
    sorcId ∈ state.roster.known ↔ state.contains sorcId = true := by
  simp [roster, contains_iff]

private theorem roster_insert (state : DiscoveryState) (sighting : Sighting) :
    (state.insert sighting).roster = { state.roster with known := Insert.insert sighting.sorcId state.roster.known } := by
  refine Roster.ext (Finset.ext fun sorcId => ?_) rfl
  rw [Finset.mem_insert, mem_known, mem_known, contains, find?_insert]
  by_cases hit : sighting.sorcId = sorcId
  · simp [hit]
  · simp [hit, contains, Ne.symm hit]

private theorem roster_eraseAll (state : DiscoveryState) (gone : List Uuid) :
    (state.eraseAll gone).roster = { state.roster with known := state.roster.known \ gone.toFinset } := by
  refine Roster.ext (Finset.ext fun sorcId => ?_) rfl
  rw [Finset.mem_sdiff, List.mem_toFinset, mem_known, mem_known, contains, find?_eraseAll]
  by_cases listed : sorcId ∈ gone <;> simp [listed, contains]

/-- A change differs from the state before it as its reason tells: the roster goes on as the reason says, and
no sighting is touched but the one of a reported peer. -/
structure Explains (before : DiscoveryState) (change : DiscoveryChange) : Prop where
  follows : before.roster.follow? change.reason = some change.state.roster
  keeps : ∀ sorcId, change.reason.reported? ≠ some sorcId → change.state.contains sorcId = true →
    change.state.find? sorcId = before.find? sorcId

/-- Changes that lead from one state to another, each of them told by its reason. -/
inductive Account : DiscoveryState → List DiscoveryChange → DiscoveryState → Prop
  | nil (state : DiscoveryState) : Account state [] state
  | cons {before after : DiscoveryState} {change : DiscoveryChange} {rest : List DiscoveryChange}
      (explains : before.Explains change) (remaining : Account change.state rest after) :
      Account before (change :: rest) after

theorem Account.append {first second : List DiscoveryChange} (early : Account before first between)
    (late : Account between second after) : Account before (first ++ second) after := by
  induction early with
  | nil => exact late
  | cons explains _ ih => exact .cons explains (ih late)

/-- What is left of the roster stays as it was. -/
theorem explains_eraseAll {reason : DiscoveryReason} {gone : List Uuid}
    (follows : before.roster.follow? reason =
      some { before.roster with known := before.roster.known \ gone.toFinset }) :
    before.Explains ⟨before.eraseAll gone, reason⟩ where
  follows := by rw [follows, roster_eraseAll]
  keeps sorcId _ left := by
    rw [contains, find?_eraseAll] at left
    rw [find?_eraseAll, if_neg]
    intro listed
    rw [if_pos listed] at left
    cases left

private theorem explains_insert (before : DiscoveryState) (sighting : Sighting) :
    before.Explains ⟨before.insert sighting, if before.contains sighting.sorcId then .rediscovered sighting.sorcId
      else .discovered sighting.sorcId⟩ := by
  cases known : before.contains sighting.sorcId with
  | true =>
    have member := mem_known.mpr known
    refine ⟨?_, fun other different _ => ?_⟩
    · simp [Roster.follow?, member, roster_insert]
    · rw [find?_insert, if_neg fun same => different (congrArg some same)]
  | false =>
    have absent : sighting.sorcId ∉ before.roster.known := by simp [mem_known, known]
    refine ⟨?_, fun other different _ => ?_⟩
    · simp [Roster.follow?, absent, roster_insert]
    · rw [find?_insert, if_neg fun same => different (congrArg some same)]

/-- A change of the same reason that is told the same sighting of a reported peer leads to the same state. -/
theorem Explains.determines {reason : DiscoveryReason} {other : DiscoveryState}
    (explains : before.Explains ⟨after, reason⟩) (explained : before.Explains ⟨other, reason⟩)
    (reported : ∀ sorcId, reason.reported? = some sorcId → after.find? sorcId = other.find? sorcId)
    (ordered : after.Ordered) (arranged : other.Ordered) : after = other := by
  have rosters : after.roster = other.roster :=
    Option.some.inj (explains.follows.symm.trans explained.follows)
  have alike (sorcId : Uuid) : after.contains sorcId = other.contains sorcId := by
    rw [Bool.eq_iff_iff, ← mem_known, ← mem_known, rosters]
  have same (sorcId : Uuid) : after.find? sorcId = other.find? sorcId := by
    by_cases told : reason.reported? = some sorcId
    · exact reported sorcId told
    · cases known : after.contains sorcId with
      | true =>
        exact (explains.keeps sorcId told known).trans
          (explained.keeps sorcId told ((alike sorcId).symm.trans known)).symm
      | false =>
        rw [contains_eq_false_iff.mp known, contains_eq_false_iff.mp ((alike sorcId).symm.trans known)]
  have sightings := ordered.sightings_eq arranged same
  have enabled : after.enabled = other.enabled := congrArg Roster.enabled rosters
  cases after
  cases other
  cases sightings
  cases enabled
  rfl

end DiscoveryState

namespace Discovery

open DiscoveryState

/-- What can happen to discovery. -/
inductive Input where
  | start (now : Nat)
  | stop
  | sighted (sorcId : Uuid) (rssi : Int16) (now : Nat)
  | sweep (now : Nat) (inTouch : Option Uuid)
  | forget (sorcId : Uuid) (requested : Bool)
  | reset
  | tick (now : Nat) (inTouch : Option Uuid)

def act (discovery : Discovery) : Input → DiscoveryTurn
  | .start now => (discovery.start now).2
  | .stop => discovery.stop.2
  | .sighted sorcId rssi now => discovery.sighted sorcId rssi now
  | .sweep now inTouch => discovery.sweep now inTouch
  | .forget sorcId requested => discovery.forget sorcId requested
  | .reset => discovery.reset
  | .tick now inTouch => discovery.tick now inTouch

def run (discovery : Discovery) (inputs : List Input) : DiscoveryTurn := Turn.forEach act discovery inputs

def history (discovery : Discovery) (inputs : List Input) : List (Call Discovery Input) :=
  Turn.calls act discovery inputs

/-- The changes that are published, first to last. -/
def changes (effects : List Effect) : List DiscoveryChange := effects.filterMap Effect.discovery?

theorem changes_append (first second : List Effect) :
    changes (first ++ second) = changes first ++ changes second := List.filterMap_append

/-- The report that discovery accepts, as it is kept. -/
def accepted? (discovery : Discovery) : Input → Option Sighting
  | .sighted sorcId rssi now => if discovery.state.enabled then some ⟨sorcId, now, rssi⟩ else none
  | _ => none

variable {discovery : Discovery} {input : Input} {sorcId : Uuid} {sighting : Sighting}

/-! ### One call -/

/-- What a call does. A sweep may come with a poll of the timer, which stays armed or stopped as it was. -/
inductive Step (discovery : Discovery) : Input → DiscoveryTurn → Prop
  | starts {now : Nat} (off : discovery.state.enabled = false) :
      Step discovery (.start now) (publish { discovery with sweepTimer := discovery.sweepTimer.start now }
        { discovery.state with enabled := true } .started)
  | stops (on : discovery.state.enabled = true) :
      Step discovery .stop (publish { discovery with sweepTimer := discovery.sweepTimer.stop }
        { discovery.state with enabled := false } .stopped)
  | accepts {sorcId : Uuid} {rssi : Int16} {now : Nat} (on : discovery.state.enabled = true) :
      Step discovery (.sighted sorcId rssi now) (discovery.publish (discovery.state.insert ⟨sorcId, now, rssi⟩)
        (if discovery.state.contains sorcId then .rediscovered sorcId else .discovered sorcId))
  | loses {input : Input} {now : Nat} {inTouch : Option Uuid} {sweepTimer : Timer} {lost : List Uuid}
      (sweeps : input = .sweep now inTouch ∨ input = .tick now inTouch)
      (kept : sweepTimer.deadline?.isSome = discovery.sweepTimer.deadline?.isSome) (nonempty : lost ≠ [])
      (known : ∀ sorcId ∈ lost, discovery.state.contains sorcId = true)
      (spared : ∀ sorcId ∈ lost, inTouch ≠ some sorcId) :
      Step discovery input
        (publish { discovery with sweepTimer } (discovery.state.eraseAll lost) (.lost lost))
  | forgets {sorcId : Uuid} {requested : Bool} (known : discovery.state.contains sorcId = true) :
      Step discovery (.forget sorcId requested) (discovery.publish (discovery.state.erase sorcId)
        (if requested then .disconnect sorcId else .disconnected sorcId))
  | resets : Step discovery .reset discovery.reset
  | passes {input : Input} {sweepTimer : Timer} (unreported : discovery.accepted? input = none)
      (kept : sweepTimer.deadline?.isSome = discovery.sweepTimer.deadline?.isSome) :
      Step discovery input (.idle { discovery with sweepTimer })

private theorem unreported_of_sweeps {now : Nat} {inTouch : Option Uuid}
    (sweeps : input = .sweep now inTouch ∨ input = .tick now inTouch) : discovery.accepted? input = none := by
  rcases sweeps with rfl | rfl <;> rfl

private theorem sweep_step {sweepTimer : Timer} {now : Nat} {inTouch : Option Uuid}
    (sweeps : input = .sweep now inTouch ∨ input = .tick now inTouch)
    (kept : sweepTimer.deadline?.isSome = discovery.sweepTimer.deadline?.isSome) :
    Step discovery input (sweep { discovery with sweepTimer } now inTouch) := by
  simp only [sweep]
  split
  · exact .passes (unreported_of_sweeps sweeps) kept
  · next some =>
    exact .loses sweeps kept (by simpa using some) (fun sorcId member => (of_mem_outdated member).1)
      fun sorcId member => (of_mem_outdated member).2

theorem tick_step (discovery : Discovery) (now : Nat) (inTouch : Option Uuid) :
    Step discovery (.tick now inTouch) (discovery.tick now inTouch) := by
  unfold tick Timer.poll
  cases deadline : discovery.sweepTimer.deadline? with
  | none => exact .passes rfl rfl
  | some due =>
    by_cases passed : due ≤ now
    · simp only [passed, if_true]
      exact sweep_step (.inr rfl) (by rw [deadline]; rfl)
    · simp only [passed, if_false]
      exact .passes rfl rfl

theorem act_step (discovery : Discovery) (input : Input) : Step discovery input (discovery.act input) := by
  cases input with
  | start now =>
    cases on : discovery.state.enabled with
    | true => simpa [act, start, on] using @Step.passes discovery (.start now) _ rfl rfl
    | false => simpa [act, start, on] using @Step.starts discovery now on
  | stop =>
    cases on : discovery.state.enabled with
    | true => simpa [act, stop, on] using Step.stops on
    | false => simpa [act, stop, on] using @Step.passes discovery .stop _ rfl rfl
  | sighted sorcId rssi now =>
    simp only [act, sighted]
    split
    · next on => exact .accepts on
    · next off => exact .passes (if_neg off) rfl
  | sweep now inTouch => exact sweep_step (.inl rfl) rfl
  | forget sorcId requested =>
    simp only [act, forget]
    split
    · next known => exact .forgets known
    · exact .passes rfl rfl
  | reset => exact .resets
  | tick now inTouch => exact tick_step discovery now inTouch

variable {turn : DiscoveryTurn}

/-- What a call publishes: nothing, and the state stays, or one change, which names a reported peer exactly if
the call is an accepted report. -/
theorem Step.publishes (step : Step discovery input turn) :
    (turn.effects = [] ∧ turn.state.state = discovery.state ∧ discovery.accepted? input = none) ∨
      ∃ reason, turn.effects = [.announce (.discovery ⟨turn.state.state, reason⟩)] ∧
        discovery.state.Explains ⟨turn.state.state, reason⟩ ∧
        reason.reported? = (discovery.accepted? input).map (·.sorcId) := by
  cases step with
  | starts off =>
    refine .inr ⟨.started, rfl, ⟨?_, fun _ _ _ => rfl⟩, rfl⟩
    simp [publish, Roster.follow?, roster, off]
  | stops on =>
    refine .inr ⟨.stopped, rfl, ⟨?_, fun _ _ _ => rfl⟩, rfl⟩
    simp [publish, Roster.follow?, roster, on]
  | @accepts sorcId rssi now on =>
    refine .inr ⟨_, rfl, explains_insert discovery.state ⟨sorcId, now, rssi⟩, ?_⟩
    rw [accepted?, if_pos on]
    split <;> rfl
  | @loses _ _ _ _ lost sweeps kept nonempty known spared =>
    have included : lost.toFinset ⊆ discovery.state.roster.known := fun sorcId member =>
      mem_known.mpr (known sorcId (List.mem_toFinset.mp member))
    exact .inr ⟨.lost lost, rfl, explains_eraseAll (if_pos ⟨nonempty, included⟩),
      by rw [unreported_of_sweeps sweeps]; rfl⟩
  | @forgets sorcId requested known =>
    have member := mem_known.mpr known
    refine .inr ⟨_, rfl, ?_, by cases requested <;> rfl⟩
    rw [erase_eq_eraseAll]
    refine explains_eraseAll ?_
    cases requested <;> simp [Roster.follow?, member, Finset.erase_eq]
  | resets => exact .inr ⟨.reset, rfl, ⟨rfl, fun _ _ known => absurd known Bool.false_ne_true⟩, rfl⟩
  | passes unreported kept => exact .inl ⟨rfl, rfl, unreported⟩

private theorem Step.account (step : Step discovery input turn) :
    Account discovery.state (changes turn.effects) turn.state.state := by
  obtain ⟨silent, same, -⟩ | ⟨reason, told, explains, -⟩ := step.publishes
  · rw [silent, same]
    exact .nil _
  · rw [told]
    exact .cons explains (.nil _)

private theorem Step.keeps (step : Step discovery input turn)
    (accepted : discovery.accepted? input = some sighting) :
    turn.state.state = discovery.state.insert sighting := by
  cases step with
  | accepts on =>
    rw [accepted?, if_pos on] at accepted
    cases accepted
    rfl
  | loses sweeps => cases (unreported_of_sweeps sweeps).symm.trans accepted
  | passes unreported => cases unreported.symm.trans accepted
  | _ => cases accepted

/-- A sighting that is kept is the accepted report of the call, or it was kept before and the call reports
another peer or none. -/
theorem Step.found (step : Step discovery input turn) (found : turn.state.state.find? sorcId = some sighting) :
    discovery.accepted? input = some sighting ∨ discovery.state.find? sorcId = some sighting ∧
      ∀ report, discovery.accepted? input = some report → report.sorcId ≠ sorcId := by
  cases accepted : discovery.accepted? input with
  | some report =>
    rw [step.keeps accepted, find?_insert] at found
    split at found
    · exact .inl found
    · next apart => exact .inr ⟨found, fun other same => Option.some.inj same ▸ apart⟩
  | none =>
    refine .inr ⟨?_, fun report same => nomatch same⟩
    obtain ⟨-, same, -⟩ | ⟨reason, -, explains, reported⟩ := step.publishes
    · exact same ▸ found
    · have unnamed : reason.reported? ≠ some sorcId := by simp [reported, accepted]
      exact (explains.keeps sorcId unnamed (by simp [contains, found])).symm.trans found

theorem Step.ordered (step : Step discovery input turn) (ordered : discovery.state.Ordered) :
    turn.state.state.Ordered := by
  cases step with
  | accepts on => exact ordered.insert _
  | loses sweeps kept nonempty known spared => exact ordered.eraseAll _
  | forgets known => exact ordered.erase _
  | resets => exact List.Pairwise.nil
  | _ => exact ordered

/-- The sweep timer is armed if and only if discovery is on. -/
def Armed (discovery : Discovery) : Prop := discovery.sweepTimer.deadline?.isSome = discovery.state.enabled

private theorem Step.armed (step : Step discovery input turn) (armed : discovery.Armed) :
    turn.state.Armed := by
  cases step with
  | starts off => exact rfl
  | stops on => exact rfl
  | loses sweeps kept nonempty known spared => exact kept.trans armed
  | passes unreported kept => exact kept.trans armed
  | _ => exact armed

/-! ### Runs -/

/-- The sighting is the latest report that was accepted of its peer since the peer was last unknown. -/
def Latest (history : List (Call Discovery Input)) (sighting : Sighting) : Prop :=
  ∃ earlier call later, history = earlier ++ call :: later ∧
    call.before.accepted? call.input = some sighting ∧
    ∀ next ∈ later, next.before.state.contains sighting.sorcId = true ∧
      ∀ report, next.before.accepted? next.input = some report → report.sorcId ≠ sighting.sorcId

theorem Latest.concat {history : List (Call Discovery Input)} (latest : Latest history sighting)
    (found : discovery.state.find? sighting.sorcId = some sighting)
    (passed : ∀ report, discovery.accepted? input = some report → report.sorcId ≠ sighting.sorcId) :
    Latest (history ++ [⟨discovery, input⟩]) sighting := by
  obtain ⟨earlier, call, later, rfl, accepted, since⟩ := latest
  refine ⟨earlier, call, later ++ [⟨discovery, input⟩], by simp, accepted, fun next member => ?_⟩
  rcases List.mem_append.mp member with early | last
  · exact since next early
  · cases List.mem_singleton.mp last
    exact ⟨by simp [contains, found], passed⟩

theorem ordered_of_run (config : Config) (inputs : List Input) : ((new config).run inputs).state.state.Ordered :=
  Turn.run_induction act (motive := fun _ discovery => discovery.state.Ordered) ordered_empty
    (fun _ discovery input ordered => (act_step discovery input).ordered ordered) inputs

theorem armed_of_run (config : Config) (inputs : List Input) : ((new config).run inputs).state.Armed :=
  Turn.run_induction act (motive := fun _ discovery => discovery.Armed) (rfl : (new config).Armed)
    (fun _ discovery input armed => (act_step discovery input).armed armed) inputs

theorem latest_of_run (config : Config) (inputs : List Input) : ∀ sorcId sighting,
    ((new config).run inputs).state.state.find? sorcId = some sighting →
      Latest ((new config).history inputs) sighting := by
  have base : ∀ sorcId sighting, (new config).state.find? sorcId = some sighting → Latest [] sighting :=
    fun _ _ found => nomatch found
  refine Turn.run_induction act (motive := fun history discovery => ∀ sorcId sighting,
    discovery.state.find? sorcId = some sighting → Latest history sighting)
    base (fun history discovery input known sorcId sighting found => ?_) inputs
  rcases (act_step discovery input).found found with accepted | ⟨kept, passed⟩
  · exact ⟨history, ⟨discovery, input⟩, [], rfl, accepted, fun _ none => nomatch none⟩
  · cases sorcId_of_find? kept
    exact (known _ sighting kept).concat kept passed

theorem account_of_run (config : Config) (inputs : List Input) :
    Account .empty (changes ((new config).run inputs).effects) ((new config).run inputs).state.state := by
  induction inputs using List.reverseRecOn with
  | nil => exact .nil _
  | append_singleton inputs input ih =>
    rw [run, Turn.effects_forEach_concat, Turn.state_forEach_concat, changes_append]
    exact ih.append (act_step _ input).account

/-- What a run of discovery comes to, given its calls and what it published. -/
structure Truthful (history : List (Call Discovery Input)) (published : List DiscoveryChange)
    (discovery : Discovery) : Prop where
  /-- No peer is kept twice. -/
  ordered : discovery.state.Ordered
  /-- Whoever is known is kept with its latest report. -/
  latest : ∀ sorcId sighting, discovery.state.find? sorcId = some sighting →
    sighting.sorcId = sorcId ∧ Latest history sighting
  /-- Each change differs from the state before it as its reason tells, and nothing changes in between. -/
  told : Account .empty published discovery.state
  armed : discovery.Armed

/-- What one call of discovery comes to. -/
structure Candid (discovery : Discovery) (input : Input) (turn : DiscoveryTurn) : Prop where
  /-- While discovery is on, a report is kept and published. -/
  accepts : ∀ sorcId rssi now, input = .sighted sorcId rssi now → discovery.state.enabled = true →
    turn.state.state.find? sorcId = some ⟨sorcId, now, rssi⟩ ∧
      ∃ reason, changes turn.effects = [⟨turn.state.state, reason⟩] ∧ reason.reported? = some sorcId
  /-- While it is off, a report is ignored. -/
  ignores : ∀ sorcId rssi now, input = .sighted sorcId rssi now → discovery.state.enabled = false →
    turn = .idle discovery
  told : Account discovery.state (changes turn.effects) turn.state.state
  silent : changes turn.effects = [] → turn.state.state = discovery.state

theorem candid_act (discovery : Discovery) (input : Input) : Candid discovery input (discovery.act input) where
  accepts sorcId rssi now reported on := by
    subst reported
    have step := act_step discovery (.sighted sorcId rssi now)
    have accepted : discovery.accepted? (.sighted sorcId rssi now) = some ⟨sorcId, now, rssi⟩ := if_pos on
    constructor
    · rw [step.keeps accepted, find?_insert, if_pos rfl]
    · obtain ⟨-, -, unreported⟩ | ⟨reason, told, -, named⟩ := step.publishes
      · cases unreported.symm.trans accepted
      · exact ⟨reason, by rw [told]; rfl, by rw [named, accepted]; rfl⟩
  ignores sorcId rssi now reported off := by
    subst reported
    simp [act, sighted, off]
  told := (act_step discovery input).account
  silent quiet := by
    obtain ⟨-, same, -⟩ | ⟨reason, told, -, -⟩ := (act_step discovery input).publishes
    · exact same
    · rw [told] at quiet
      cases quiet

/-- In every run discovery tells exactly what it does. -/
theorem truthful_of_run (config : Config) (inputs : List Input) :
    Truthful ((new config).history inputs) (changes ((new config).run inputs).effects)
        ((new config).run inputs).state ∧
      ∀ call ∈ (new config).history inputs, Candid call.before call.input (call.before.act call.input) := by
  have latest := latest_of_run config inputs
  exact ⟨⟨ordered_of_run config inputs, fun sorcId sighting found =>
    ⟨sorcId_of_find? found, latest sorcId sighting found⟩, account_of_run config inputs,
    armed_of_run config inputs⟩, fun call _ => candid_act call.before call.input⟩

end Discovery

end PhoneKey
