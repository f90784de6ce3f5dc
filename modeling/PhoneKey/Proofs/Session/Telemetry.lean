import PhoneKey.Proofs.Session.Publications

/-! # Telemetry mirrors the streams

What telemetry is told can be worked out from the streams alone. Whoever follows the publications about the
connection and about grants in order, and remembers the connection that was published last, can write down
every event, with its peer and its place among the others.
-/

namespace PhoneKey

/-- What an effect tells telemetry. -/
def Effect.telemetry? : Effect → Option TelemetryEvent
  | .telemetry event => some event
  | _ => none

/-- What a session publishes on its two streams. -/
inductive Publication where
  | connection (change : SessionChange)
  | grants (change : GrantChange)

/-- What an effect publishes on the streams of a session. -/
def Effect.publication? : Effect → Option Publication
  | .announce (.connection change) => some (.connection change)
  | .announce (.grants change) => some (.grants change)
  | _ => none

private theorem Effect.silent_of_isLower {effect : Effect} (lower : effect.isLower = true) :
    effect.publication? = none ∧ effect.telemetry? = none := by
  cases effect with
  | announce news => cases news <;> trivial
  | telemetry event => cases lower
  | _ => exact ⟨rfl, rfl⟩

namespace Publication

/-- The connection that is published after a publication. -/
def shows (state : SessionState) : Publication → SessionState
  | .connection change => change.state
  | .grants _ => state

/-- The events that a publication stands for, given the connection that was published before. What is
published of grants concerns the peer that is connected, so there has to be one. -/
def events? (state : SessionState) : Publication → Option (List TelemetryEvent)
  | .connection ⟨after, .connectingFailed sorcId failure⟩ =>
    some [.connectionChanged state after, .connectingFailed sorcId failure]
  | .connection ⟨after, .connectionLost loss⟩ =>
    state.sorcId?.map fun sorcId => [.connectionChanged state after, .connectionLost sorcId loss]
  | .connection ⟨after, _⟩ => some [.connectionChanged state after]
  | .grants ⟨_, .requested grant accepted⟩ =>
    state.peer?.map fun sorcId => [.grantRequested sorcId grant accepted]
  | .grants ⟨_, .answered response⟩ =>
    state.peer?.map fun sorcId => [.grantAnswered sorcId response.grant response.status]
  | .grants ⟨_, .failed failure⟩ => state.peer?.map fun sorcId => [.grantFailed sorcId failure]
  | .grants ⟨_, .reset⟩ => some []
  | .grants ⟨_, .initial⟩ => none

/-- The events that publications stand for, one publication after the other. -/
def translate? (state : SessionState) : List Publication → Option (List TelemetryEvent)
  | [] => some []
  | publication :: rest => do
    let events ← publication.events? state
    let following ← translate? (publication.shows state) rest
    return events ++ following

theorem translate?_append {before : SessionState} {first second : List Publication}
    {events following : List TelemetryEvent} (early : translate? before first = some events)
    (late : translate? (first.foldl shows before) second = some following) :
    translate? before (first ++ second) = some (events ++ following) := by
  induction first generalizing before events with
  | nil =>
    cases early
    exact late
  | cons publication rest ih =>
    simp only [translate?, Option.bind_eq_bind, Option.bind_eq_some_iff, Option.pure_def,
      Option.some.injEq] at early
    obtain ⟨here, told, remaining, translated, rfl⟩ := early
    have further := ih translated late
    simp [translate?, told, further]

end Publication

namespace Session

open Publication

/-- What telemetry is told, first to last. -/
def telemetry (effects : List Effect) : List TelemetryEvent := effects.filterMap Effect.telemetry?

/-- What is published on the streams of connections and of grants, first to last. -/
def publications (effects : List Effect) : List Publication := effects.filterMap Effect.publication?

theorem telemetry_append (first second : List Effect) :
    telemetry (first ++ second) = telemetry first ++ telemetry second := List.filterMap_append

theorem publications_append (first second : List Effect) :
    publications (first ++ second) = publications first ++ publications second := List.filterMap_append

/-- Telemetry is told what is published, while the published connection goes from one state to another. -/
structure Mirrors (before : SessionState) (effects : List Effect) (after : SessionState) : Prop where
  told : translate? before (publications effects) = some (telemetry effects)
  shown : (publications effects).foldl shows before = after

variable {defaultMtu now : Nat} {answer : Option GrantResponse} {session : Session} {turn : SessionTurn}
  {before between after : SessionState} {sorcId : Uuid}

theorem Mirrors.append {first second : List Effect} (early : Mirrors before first between)
    (late : Mirrors between second after) : Mirrors before (first ++ second) after where
  told := by
    rw [publications_append, telemetry_append]
    exact translate?_append early.told (early.shown ▸ late.told)
  shown := by rw [publications_append, List.foldl_append, early.shown, late.shown]

theorem mirrors_nil (state : SessionState) : Mirrors state [] state := ⟨rfl, rfl⟩

private theorem mirrors_of_silent (state : SessionState) {effects : List Effect}
    (silent : ∀ effect ∈ effects, effect.publication? = none ∧ effect.telemetry? = none) :
    Mirrors state effects state := by
  have unpublished : publications effects = [] :=
    List.filterMap_eq_nil_iff.mpr fun effect member => (silent effect member).1
  have untold : telemetry effects = [] :=
    List.filterMap_eq_nil_iff.mpr fun effect member => (silent effect member).2
  constructor
  · rw [unpublished, untold, translate?]
  · rw [unpublished, List.foldl_nil]

/-- What the channel does is no matter of telemetry. -/
theorem mirrors_lower {lower : Turn Channel ChannelReport} (settled : Settled defaultMtu session)
    (served : session.Lower lower) : Mirrors session.state lower.effects session.state :=
  mirrors_of_silent _ fun effect member => Effect.silent_of_isLower (served.effects settled effect member)

/-- A change of the connection is told as it is published. It can be lost only if there is one. -/
theorem mirrors_publish (state : SessionState) {reason : SessionReason}
    (engaged : ∀ loss, reason = .connectionLost loss → session.state.sorcId? = some sorcId) :
    Mirrors session.state (session.publish state reason).effects state := by
  cases reason with
  | connectionLost loss =>
    have known := engaged loss rfl
    constructor
    · simp [publish, endTelemetry, known, publications, telemetry, List.filterMap_cons, translate?, events?,
        Effect.publication?, Effect.telemetry?]
    · simp [publish, endTelemetry, known, publications, List.filterMap_cons, shows, Effect.publication?]
  | _ => exact ⟨rfl, rfl⟩

private theorem mirrors_advance {state : SessionState} {reason : SessionReason}
    (advance : Channel.Advance session.state state reason) :
    Mirrors session.state (session.publish state reason).effects state := by
  refine @mirrors_publish session default state reason fun loss same => ?_
  subst same
  generalize session.state = before at advance
  nomatch advance

private theorem mirrors_establish (session : Session) (now : Nat) (sorcId : Uuid) :
    Mirrors session.state (session.establish now sorcId).effects (.connected sorcId) := ⟨rfl, rfl⟩

private theorem mirrors_finish (session : Session) (reason : SessionReason)
    (engaged : session.state.sorcId? = some sorcId) :
    Mirrors session.state (session.finish reason).effects .disconnected := by
  have forgets : Mirrors session.state session.reset.effects session.state := ⟨rfl, rfl⟩
  exact forgets.append (@mirrors_publish session.reset.state sorcId .disconnected reason fun _ _ => engaged)

/-- A request that is tried is no matter of telemetry. -/
theorem mirrors_forward (session : Session) (request : Request) (rest : List Request) :
    Mirrors session.state (session.forward request rest).2.effects session.state := by
  obtain ⟨lower, same, silent⟩ := effects_forward session request rest
  refine mirrors_of_silent _ fun effect member => ?_
  rw [same] at member
  rcases List.mem_cons.mp member with rfl | below
  · exact ⟨rfl, rfl⟩
  · exact Effect.silent_of_isLower (silent effect below)

private theorem mirrors_surrender (failure : RequestFailure) (connected : session.state = .connected sorcId) :
    Mirrors session.state (session.surrender failure).effects session.state := by
  have told : (session.surrender failure).effects =
      [.announce (.grants ⟨[], .failed failure⟩), .telemetry (.grantFailed sorcId failure)] := by
    simp [surrender, publishGrants, tell, Turn.andThen, connected, ConnectionState.sorcId?]
  rw [told, connected]
  exact ⟨rfl, rfl⟩

private theorem mirrors_settle {response : GrantResponse}
    (connected : session.state = .connected response.sorcId) :
    Mirrors session.state (session.settle response).effects session.state := by
  rw [connected]
  exact ⟨rfl, rfl⟩

private theorem mirrors_register (grant : UInt16) (accepted : Bool) (openGrants : OpenGrants)
    (connected : session.state = .connected sorcId) :
    Mirrors session.state (session.register sorcId grant accepted openGrants).effects session.state := by
  rw [connected]
  exact ⟨rfl, rfl⟩

theorem exists_connected (connected : session.state.isConnected = true) :
    ∃ sorcId, session.state = .connected sorcId := by
  cases state : session.state with
  | connected sorcId => exact ⟨sorcId, rfl⟩
  | _ => cases state ▸ connected

/-- Every move tells telemetry what it publishes. -/
theorem Move.mirrors (move : Move now answer session turn) (settled : Settled defaultMtu session) :
    Mirrors session.state turn.effects turn.state.state := by
  cases move with
  | passes served news => exact mirrors_lower settled served
  | hears served news => exact mirrors_lower settled served
  | advances served news advance reached => exact (mirrors_lower settled served).append (mirrors_advance advance)
  | @establishes lower sorcId served news opening reached =>
    exact (mirrors_lower settled served).append (mirrors_establish (session.adopt lower).state now sorcId)
  | ends served news engaged reached => exact (mirrors_lower settled served).append (mirrors_finish _ _ engaged)
  | @recoils lower state reason sorcId failure served news advance engaged reached =>
    have advances : Mirrors session.state ((session.adopt lower).andThen (publish · state reason)).effects
        state := (mirrors_lower settled served).append (mirrors_advance advance)
    exact advances.append (mirrors_finish { session with channel := lower.state, state } _
      (advance.engaged engaged))
  | answers brought connected => exact mirrors_settle connected
  | abandons failure waiting =>
    obtain ⟨sorcId, connected⟩ := exists_connected (connected_of_waiting settled (by simp [waiting]))
    exact mirrors_surrender failure connected
  | sends connected free waiting taken => exact mirrors_forward session _ _
  | drops connected free waiting refused => exact mirrors_forward session _ _
  | breaks connected free waiting refused =>
    obtain ⟨sorcId, connected⟩ := exists_connected connected
    exact (mirrors_forward session _ _).append (mirrors_surrender _ connected)
  | accepts connected room => exact mirrors_register _ true _ connected
  | declines connected full => exact mirrors_register _ false _ connected
  | _ => exact mirrors_nil _

private theorem Moves.mirrors (moves : Moves now answer session turn) (settled : Settled defaultMtu session) :
    Mirrors session.state turn.effects turn.state.state := by
  induction moves with
  | nil session => exact mirrors_nil _
  | cons first rest ih => exact (first.mirrors settled).append (ih (first.settled settled))

theorem mirrors_of_run (handset : Handset) (defaultMtu : Nat) (config : Config) (inputs : List Input) :
    Mirrors .disconnected ((fresh handset defaultMtu config).run inputs).effects
      ((fresh handset defaultMtu config).run inputs).state.state := by
  induction inputs using List.reverseRecOn with
  | nil => exact mirrors_nil _
  | append_singleton inputs input ih =>
    have settled := settled_of_run handset defaultMtu config inputs
    rw [run, Turn.effects_forEach_concat, Turn.state_forEach_concat]
    exact ih.append ((act_moves settled input).mirrors settled)

/-- The events of a run are those that its publications stand for, and they come in the same order. -/
theorem telemetry_mirrors_publications (handset : Handset) (defaultMtu : Nat) (config : Config)
    (inputs : List Input) :
    translate? .disconnected (publications ((fresh handset defaultMtu config).run inputs).effects) =
      some (telemetry ((fresh handset defaultMtu config).run inputs).effects) :=
  (mirrors_of_run handset defaultMtu config inputs).told

end Session

end PhoneKey
