import PhoneKey.Proofs.Config
import PhoneKey.Proofs.Discovery.Actions
import PhoneKey.Proofs.Timer

/-! # Sightings age

A look for outdated sightings drops exactly those that are older than the window, but for the peer that the
phone is in touch with. Looks come at most one interval apart while discovery is ticked, so a tick leaves no
sighting older than window and interval together, unless the latest look spared it or nothing was reported of
its peer since discovery was turned on. What carries this from call to call is the deadline of the timer: it
lies at most one interval behind the latest look or start, whichever it was.
-/

namespace PhoneKey

namespace DiscoveryState

variable {state : DiscoveryState} {window now : Nat} {inTouch : Option Uuid}

private theorem Ordered.outdated (ordered : state.Ordered) :
    (state.outdated window now inTouch).Pairwise fun earlier later => earlier.toNat < later.toNat :=
  List.pairwise_map.mpr (ordered.filter _)

/-- What is left when the outdated are gone: a peer has one sighting only, so it is gone with its peer exactly
if it is outdated itself. -/
theorem Ordered.eraseAll_outdated (ordered : state.Ordered) :
    (state.eraseAll (state.outdated window now inTouch)).sightings =
      state.sightings.filter fun sighting => inTouch = some sighting.sorcId ∨ now - sighting.seenAt ≤ window := by
  refine List.filter_congr fun sighting kept => ?_
  rw [decide_eq_decide, mem_outdated_iff]
  constructor
  · intro stays
    by_contra goes
    obtain ⟨other, old⟩ := not_or.mp goes
    exact stays ⟨sighting, kept, rfl, Nat.not_le.mp old, other⟩
  · rintro stays ⟨found, member, same, old, other⟩
    have unique := ordered.find?_of_mem member
    rw [same, ordered.find?_of_mem kept] at unique
    cases unique
    exact stays.elim other (Nat.not_le.mpr old)

end DiscoveryState

namespace Discovery

open DiscoveryState

/-- What a look for outdated sightings does at some time, while the phone is in touch with a peer or with
none. -/
structure Sweeps (window now : Nat) (inTouch : Option Uuid) (before : Discovery) (turn : DiscoveryTurn) : Prop where
  /-- Exactly the outdated sightings of other peers go, and nothing else changes. -/
  keeps : turn.state = { before with
    state := { before.state with
      sightings := before.state.sightings.filter fun sighting =>
        inTouch = some sighting.sorcId ∨ now - sighting.seenAt ≤ window } }
  /-- Exactly their peers are published as lost, in order and at once, and nothing is published of none. -/
  tells : ∃ lost : List Uuid,
    (∀ sorcId, sorcId ∈ lost ↔ ∃ sighting ∈ before.state.sightings, sighting.sorcId = sorcId ∧
      window < now - sighting.seenAt ∧ inTouch ≠ some sorcId) ∧
    (lost.Pairwise fun earlier later => earlier.toNat < later.toNat) ∧
    turn.effects = if lost = [] then [] else [.announce (.discovery ⟨turn.state.state, .lost lost⟩)]

private theorem sweeps_sweep {discovery : Discovery} (ordered : discovery.state.Ordered) (now : Nat)
    (inTouch : Option Uuid) :
    Sweeps discovery.window now inTouch discovery (discovery.sweep now inTouch) := by
  have left := @Ordered.eraseAll_outdated _ discovery.window now inTouch ordered
  have sorted := @Ordered.outdated _ discovery.window now inTouch ordered
  have listed := fun sorcId => @mem_outdated_iff discovery.state sorcId discovery.window now inTouch
  rw [sweep]
  generalize discovery.state.outdated discovery.window now inTouch = lost at left sorted listed
  cases lost with
  | nil =>
    have same : discovery.state.eraseAll [] = discovery.state := by simp [eraseAll]
    rw [same] at left
    exact ⟨by rw [← left]; rfl, [], listed, sorted, rfl⟩
  | cons sorcId rest => exact ⟨by rw [← left]; rfl, sorcId :: rest, listed, sorted, rfl⟩

/-! ### Time and the timer -/

/-- The time that an input comes with, if it comes with one. -/
def Input.time? : Input → Option Nat
  | .start now | .sighted _ _ now | .sweep now _ | .tick now _ => some now
  | .stop | .forget _ _ | .reset => none

/-- Inputs in the order of time. -/
def Timely (inputs : List Input) : Prop := (inputs.filterMap Input.time?).Pairwise (· ≤ ·)

instance (inputs : List Input) : Decidable (Timely inputs) := inferInstanceAs (Decidable (List.Pairwise _ _))

/-- Whether a call turns discovery on. -/
def starts (call : Call Discovery Input) : Bool :=
  match call.input with
  | .start _ => !call.before.state.enabled
  | _ => false

/-- The time of the look for outdated sightings that a call comes to, and whom the phone is in touch with. -/
def look? (call : Call Discovery Input) : Option (Nat × Option Uuid) :=
  match call.input with
  | .sweep now inTouch => some (now, inTouch)
  | .tick now inTouch => if (call.before.sweepTimer.poll now).1 then some (now, inTouch) else none
  | _ => none

variable {config : Config} {discovery : Discovery} {input : Input} {inputs : List Input} {deadline now : Nat}
  {sighting : Sighting} {history : List (Call Discovery Input)}

@[simp] theorem sweepTimer_sweep (discovery : Discovery) (now : Nat) (inTouch : Option Uuid) :
    (discovery.sweep now inTouch).state.sweepTimer = discovery.sweepTimer := by
  rw [sweep]
  split <;> rfl

@[simp] theorem window_sweep (discovery : Discovery) (now : Nat) (inTouch : Option Uuid) :
    (discovery.sweep now inTouch).state.window = discovery.window := by
  rw [sweep]
  split <;> rfl

/-- A tick that comes too early changes nothing; any other starts the timer again and looks. -/
theorem tick_eq (discovery : Discovery) (now : Nat) (inTouch : Option Uuid) :
    discovery.tick now inTouch =
      if (discovery.sweepTimer.poll now).1 then
        sweep { discovery with sweepTimer := discovery.sweepTimer.start now } now inTouch
      else .idle discovery := by
  have polled := discovery.sweepTimer.poll_eq now
  cases due : (discovery.sweepTimer.poll now).1 with
  | true =>
    rw [due, if_pos rfl] at polled
    simp [tick, polled]
  | false =>
    rw [due, if_neg Bool.false_ne_true] at polled
    simp [tick, polled]

@[simp] theorem sweepTimer_tick (discovery : Discovery) (now : Nat) (inTouch : Option Uuid) :
    (discovery.tick now inTouch).state.sweepTimer = (discovery.sweepTimer.poll now).2 := by
  rcases outcome : discovery.sweepTimer.poll now with ⟨due, sweepTimer⟩
  cases due with
  | true => simp [tick, outcome]
  | false => simp [tick, outcome, Turn.idle]

/-- What a configuration sets: the window and the interval of the looks. -/
structure Configured (config : Config) (discovery : Discovery) : Prop where
  window : discovery.window = config.sorcOutdatedDuration.toNat
  interval : discovery.sweepTimer.interval = config.removeOutdatedInterval.toNat

theorem Configured.act (configured : Configured config discovery) (input : Input) :
    Configured config (discovery.act input).state := by
  obtain ⟨window, interval⟩ := configured
  cases input with
  | start now =>
    simp only [Discovery.act, start]
    split <;> exact ⟨window, interval⟩
  | stop =>
    simp only [Discovery.act, stop]
    split <;> exact ⟨window, interval⟩
  | sighted sorcId rssi now =>
    simp only [Discovery.act, sighted]
    split <;> exact ⟨window, interval⟩
  | sweep now inTouch => exact ⟨by simpa [Discovery.act] using window, by simpa [Discovery.act] using interval⟩
  | forget sorcId requested =>
    simp only [Discovery.act, forget]
    split <;> exact ⟨window, interval⟩
  | reset => exact ⟨window, interval⟩
  | tick now inTouch =>
    rw [Discovery.act, tick_eq]
    split
    · exact ⟨by rw [window_sweep]; exact window, by rw [sweepTimer_sweep]; exact interval⟩
    · exact ⟨window, interval⟩

theorem configured_of_inputs (config : Config) (inputs : List Input) :
    Configured config ((new config).run inputs).state :=
  Turn.run_induction Discovery.act (motive := fun _ discovery => Configured config discovery) ⟨rfl, rfl⟩
    (fun _ _ input configured => configured.act input) inputs

/-- The deadline after a call was there before it, or the call started the timer: it turned discovery on, or it
was a tick that looked. -/
theorem deadline_act (waits : (discovery.act input).state.sweepTimer.deadline? = some deadline) :
    discovery.sweepTimer.deadline? = some deadline ∧ starts ⟨discovery, input⟩ = false ∨
      ∃ now, input.time? = some now ∧ deadline = now + discovery.sweepTimer.interval ∧
        (starts ⟨discovery, input⟩ = true ∨ (look? ⟨discovery, input⟩).isSome = true) := by
  cases input with
  | start now =>
    cases on : discovery.state.enabled with
    | true => exact .inl ⟨by simpa [act, start, on, Turn.idle] using waits, by simp [starts, on]⟩
    | false =>
      simp only [act, start, on, Bool.false_eq_true, if_false] at waits
      cases waits
      exact .inr ⟨now, rfl, rfl, .inl (by simp [starts, on])⟩
  | stop =>
    refine .inl ⟨?_, rfl⟩
    simp only [act, stop] at waits
    split at waits
    · cases waits
    · exact waits
  | sighted sorcId rssi now =>
    refine .inl ⟨?_, rfl⟩
    simp only [act, sighted] at waits
    split at waits <;> exact waits
  | sweep now inTouch => exact .inl ⟨by simpa [act] using waits, rfl⟩
  | forget sorcId requested =>
    refine .inl ⟨?_, rfl⟩
    simp only [act, forget] at waits
    split at waits <;> exact waits
  | reset => exact .inl ⟨waits, rfl⟩
  | tick now inTouch =>
    rw [act, tick_eq] at waits
    split at waits
    · next due =>
      rw [sweepTimer_sweep] at waits
      cases waits
      exact .inr ⟨now, rfl, rfl, .inr (by simp [look?, due])⟩
    · exact .inl ⟨waits, rfl⟩

private theorem le_of_timely (timely : Timely (inputs ++ [input])) (timed : input.time? = some now) :
    ∀ earlier ∈ (inputs ++ [input]).filterMap Input.time?, earlier ≤ now := by
  rw [List.filterMap_append, List.filterMap_cons_some timed, List.forall_mem_append]
  exact ⟨(timesOrdered_concat_iff.mp timely).2 now timed, by simp⟩

/-- The timer was started at the time of an input. -/
theorem deadline_of_run (config : Config) (inputs : List Input)
    (waits : ((new config).run inputs).state.sweepTimer.deadline? = some deadline) :
    ∃ started ∈ inputs.filterMap Input.time?, deadline = started + config.removeOutdatedInterval.toNat := by
  induction inputs using List.reverseRecOn with
  | nil => cases waits
  | append_singleton inputs input ih =>
    rw [run, Turn.state_forEach_concat] at waits
    rcases deadline_act waits with ⟨same, -⟩ | ⟨now, timed, rfl, -⟩
    · obtain ⟨started, member, late⟩ := ih same
      exact ⟨started, by simp [member], late⟩
    · exact ⟨now, by simp [timed], congrArg (now + ·) (configured_of_inputs config inputs).interval⟩

/-! ### Why an old sighting is kept -/

/-- The latest look found the sighting outdated and spared it, as that of the peer that the phone was in touch
with then. -/
def Spared (window : Nat) (history : List (Call Discovery Input)) (sighting : Sighting) : Prop :=
  ∃ earlier call later now, history = earlier ++ call :: later ∧
    look? call = some (now, some sighting.sorcId) ∧ sighting ∈ call.before.state.sightings ∧
    window < now - sighting.seenAt ∧ ∀ next ∈ later, look? next = none

/-- The peer was last reported before discovery was last turned on. -/
def Unseen (history : List (Call Discovery Input)) (sighting : Sighting) : Prop :=
  ∃ earlier call later, history = earlier ++ call :: later ∧ starts call = true ∧ Latest earlier sighting ∧
    ∀ next ∈ later, starts next = false ∧
      ∀ report, next.before.accepted? next.input = some report → report.sorcId ≠ sighting.sorcId

/-- Why a sighting may still be kept while the timer waits: it will not be too old by its deadline, or no look
concerns it. -/
def Excused (config : Config) (history : List (Call Discovery Input)) (deadline : Nat) (sighting : Sighting) :
    Prop :=
  deadline ≤ sighting.seenAt + config.sorcOutdatedDuration.toNat + config.removeOutdatedInterval.toNat ∨
    Spared config.sorcOutdatedDuration.toNat history sighting ∨ Unseen history sighting

theorem Spared.concat {window : Nat} {call : Call Discovery Input} (spared : Spared window history sighting)
    (blind : look? call = none) : Spared window (history ++ [call]) sighting := by
  obtain ⟨earlier, look, later, now, rfl, looks, kept, old, since⟩ := spared
  refine ⟨earlier, look, later ++ [call], now, by simp, looks, kept, old, ?_⟩
  exact List.forall_mem_append.mpr ⟨since, List.forall_mem_singleton.mpr blind⟩

theorem Unseen.concat {call : Call Discovery Input} (unseen : Unseen history sighting)
    (running : starts call = false)
    (unreported : ∀ report, call.before.accepted? call.input = some report → report.sorcId ≠ sighting.sorcId) :
    Unseen (history ++ [call]) sighting := by
  obtain ⟨earlier, start, later, rfl, started, latest, since⟩ := unseen
  refine ⟨earlier, start, later ++ [call], by simp, started, latest, ?_⟩
  exact List.forall_mem_append.mpr ⟨since, List.forall_mem_singleton.mpr ⟨running, unreported⟩⟩

private theorem time?_of_accepted (accepted : discovery.accepted? input = some sighting) :
    input.time? = some sighting.seenAt := by
  cases input with
  | sighted sorcId rssi now =>
    simp only [accepted?] at accepted
    split at accepted
    · cases accepted
      rfl
    · cases accepted
  | _ => cases accepted

/-- A sighting is kept from a report of the call, or from before. -/
theorem kept_act (ordered : discovery.state.Ordered) (kept : sighting ∈ (discovery.act input).state.state.sightings) :
    discovery.accepted? input = some sighting ∨ sighting ∈ discovery.state.sightings ∧
      ∀ report, discovery.accepted? input = some report → report.sorcId ≠ sighting.sorcId := by
  have step := act_step discovery input
  exact (step.found ((step.ordered ordered).find?_of_mem kept)).imp_right
    (And.imp_left List.mem_of_find?_eq_some)

/-- Behind a look, no sighting is outdated but the one of the peer that the phone is in touch with. -/
theorem kept_of_look {inTouch : Option Uuid} (ordered : discovery.state.Ordered)
    (looks : look? ⟨discovery, input⟩ = some (now, inTouch))
    (kept : sighting ∈ (discovery.act input).state.state.sightings) :
    input.time? = some now ∧ (inTouch = some sighting.sorcId ∨ now - sighting.seenAt ≤ discovery.window) := by
  cases input with
  | sweep time peer =>
    cases looks
    rw [act, (sweeps_sweep ordered _ _).keeps] at kept
    exact ⟨rfl, by simpa using (List.mem_filter.mp kept).2⟩
  | tick time peer =>
    simp only [look?] at looks
    split at looks
    · next due =>
      cases looks
      rw [act, tick_eq, if_pos due, (sweeps_sweep (by exact ordered) _ _).keeps] at kept
      exact ⟨rfl, by simpa using (List.mem_filter.mp kept).2⟩
    · cases looks
  | _ => cases looks

/-- A call leaves every sighting with an excuse: a report is fresh, a look spares what it leaves or finds it
fresh enough for the next one, a start makes all sightings unseen, and any other call changes none of it. -/
theorem excused_act (configured : Configured config discovery) (ordered : discovery.state.Ordered)
    (latest : ∀ sighting ∈ discovery.state.sightings, Latest history sighting)
    (excused : ∀ deadline, discovery.sweepTimer.deadline? = some deadline →
      ∀ sighting ∈ discovery.state.sightings, Excused config history deadline sighting)
    (soon : ∀ now, input.time? = some now → deadline ≤ now + config.removeOutdatedInterval.toNat)
    (waits : (discovery.act input).state.sweepTimer.deadline? = some deadline)
    (kept : sighting ∈ (discovery.act input).state.state.sightings) :
    Excused config (history ++ [⟨discovery, input⟩]) deadline sighting := by
  rcases kept_act ordered kept with accepted | ⟨before, unreported⟩
  · have fresh := soon sighting.seenAt (time?_of_accepted accepted)
    exact .inl (by omega)
  · cases looks : look? ⟨discovery, input⟩ with
    | some look =>
      obtain ⟨now, inTouch⟩ := look
      obtain ⟨timed, spared⟩ := kept_of_look ordered looks kept
      have ahead := soon now timed
      rw [configured.window] at spared
      by_cases old : config.sorcOutdatedDuration.toNat < now - sighting.seenAt
      · obtain rfl : inTouch = some sighting.sorcId := spared.resolve_right (Nat.not_le.mpr old)
        exact .inr (.inl ⟨history, _, [], now, rfl, looks, before, old, nofun⟩)
      · exact .inl (by omega)
    | none =>
      rcases deadline_act waits with ⟨same, running⟩ | ⟨now, -, -, started | looked⟩
      · exact (excused deadline same sighting before).imp_right
          (Or.imp (·.concat looks) (·.concat running unreported))
      · exact .inr (.inr ⟨history, _, [], rfl, started, latest sighting before, nofun⟩)
      · simp [looks] at looked

theorem excused_of_run (config : Config) (timely : Timely inputs) :
    ∀ deadline, ((new config).run inputs).state.sweepTimer.deadline? = some deadline →
      ∀ sighting ∈ ((new config).run inputs).state.state.sightings,
        Excused config ((new config).history inputs) deadline sighting := by
  induction inputs using List.reverseRecOn with
  | nil => exact fun _ waits => nomatch waits
  | append_singleton inputs input ih =>
    intro deadline waits sighting kept
    have earlier : Timely inputs := (timesOrdered_concat_iff.mp timely).1
    have ordered := ordered_of_run config inputs
    have soon : ∀ now, input.time? = some now → deadline ≤ now + config.removeOutdatedInterval.toNat := by
      intro now timed
      obtain ⟨started, member, rfl⟩ := deadline_of_run config (inputs ++ [input]) waits
      exact Nat.add_le_add_right (le_of_timely timely timed started member) _
    rw [run, Turn.state_forEach_concat] at waits kept
    rw [history, Turn.calls_concat]
    refine excused_act (configured_of_inputs config inputs) ordered ?_ (ih earlier) soon waits kept
    exact fun sighting kept => latest_of_run config inputs _ _ (ordered.find?_of_mem kept)

/-- How sightings age in a run of discovery. -/
structure Ages (config : Config) (inputs : List Input) : Prop where
  /-- At any time, a look drops exactly the outdated and publishes exactly their peers. -/
  looks : ∀ now inTouch, Sweeps config.sorcOutdatedDuration.toNat now inTouch ((new config).run inputs).state
    (((new config).run inputs).state.sweep now inTouch)
  /-- Behind a tick while discovery is on, a sighting as old as window and interval together was spared by the
  latest look, which may be that of this tick, or its peer was not reported since discovery was turned on. -/
  ticks : ∀ earlier now inTouch, inputs = earlier ++ [.tick now inTouch] →
    ((new config).run inputs).state.state.enabled = true →
      ∀ sighting ∈ ((new config).run inputs).state.state.sightings,
        config.sorcOutdatedDuration.toNat + config.removeOutdatedInterval.toNat ≤ now - sighting.seenAt →
          Spared config.sorcOutdatedDuration.toNat ((new config).history inputs) sighting ∨
            Unseen ((new config).history inputs) sighting

/-- With a usable configuration and inputs in the order of time, sightings age exactly and in time. -/
theorem ages_of_run (config : Config) (inputs : List Input) (valid : config.check = .ok ())
    (timely : Timely inputs) : Ages config inputs := by
  have configured := configured_of_inputs config inputs
  refine ⟨fun now inTouch => ?_, ?_⟩
  · rw [← configured.window]
    exact sweeps_sweep (ordered_of_run config inputs) now inTouch
  · rintro earlier now inTouch rfl on sighting kept old
    have armed := armed_of_run config (earlier ++ [.tick now inTouch])
    rw [Armed, on] at armed
    obtain ⟨deadline, waits⟩ := Option.isSome_iff_exists.mp armed
    have positive := (Config.usable_of_check valid).sweeps
    have ahead : now < deadline := by
      rw [run, Turn.state_forEach_concat, act, sweepTimer_tick] at waits
      exact Timer.lt_deadline_poll ((configured_of_inputs config earlier).interval ▸ positive) waits
    refine (excused_of_run config timely deadline waits sighting kept).resolve_left fun fresh => ?_
    omega

/-- Two peers are reported once. The phone is in touch with one of them when the first look comes, and with
none any more just before the next. -/
def ageingInputs : List Input :=
  [.start 0, .sighted ⟨.zero⟩ (-60) 0, .sighted Config.standardService (-60) 0, .tick 6000 (some ⟨.zero⟩),
    .tick 7999 none]

/-- The peer that was spared is still kept, at almost eight seconds of age. -/
theorem ages_spared :
    Config.standard.check = .ok () ∧ Timely ageingInputs ∧
      ((new .standard).run ageingInputs).state.state = ⟨[⟨⟨.zero⟩, 0, -60⟩], true⟩ ∧
      Ages .standard ageingInputs := by
  have timely : Timely ageingInputs := by decide
  exact ⟨rfl, timely, by decide +kernel, ages_of_run .standard ageingInputs rfl timely⟩

end Discovery

end PhoneKey
