import PhoneKey.Proofs.Session.Layers
import PhoneKey.Proofs.Session.Publications

/-! # How a connection ends

An attempt that ends by itself has failed and a connection that ends by itself was lost: the end that is
published, and what telemetry is told about it, names the phase in which the session was. There is one
exception. The link takes itself for connected while the handshake still runs, so that an attempt whose
peer goes away during the handshake is published as a connection that was lost.
-/

namespace PhoneKey

/-- Whether a connection in this state can end for this reason. -/
def SessionReason.Names (before : SessionState) : SessionReason → Prop
  | .connectingFailed sorcId _ => ∃ stage, before = .connecting sorcId stage
  | .connectionLost _ => before.isConnected = true
  | _ => True

private theorem Channel.Advance.names {before after state : SessionState} {reason : SessionReason}
    (advance : Advance before after reason) : SessionReason.Names state reason := by
  cases advance <;> trivial

/-- The stage of an attempt that fails as soon as it has come to it. -/
theorem Channel.Advance.opening {before after : SessionState} {reason : SessionReason} {sorcId : Uuid}
    (advance : Advance before after reason) (engaged : before.sorcId? = some sorcId) :
    ∃ stage, after = .connecting sorcId stage := by
  cases advance with
  | dials other => cases engaged
  | reaches other =>
    cases engaged
    exact ⟨_, rfl⟩
  | opens other =>
    cases engaged
    exact ⟨_, rfl⟩

/-- Whether what an effect tells about an end fits the state of the session before it. -/
def Effect.Names (before : SessionState) : Effect → Prop
  | .announce (.connection change) => SessionReason.Names before change.reason
  | .telemetry (.connectingFailed sorcId _) => ∃ stage, before = .connecting sorcId stage
  | .telemetry (.connectionLost sorcId _) => before = .connected sorcId
  | _ => True

namespace Channel

variable {defaultMtu : Nat} {channel : Channel} {input : Input} {turn : Turn Channel ChannelReport}

/-- How a channel can end in a call: it is told to, the radio reports that the peer of its link is gone, or
an attempt fails. -/
inductive EndsBy (channel : Channel) : Input → SessionReason → Prop
  | asked {sorcId : Uuid} (cause : EndCause) (engaged : channel.state.sorcId? = some sorcId) :
      EndsBy channel (.close cause) (cause.reason sorcId)
  | lost {event : RadioEvent} (engaged : channel.state.sorcId? = some event.sorcId)
      (linked : channel.link.state.isConnected = true) :
      EndsBy channel (.radioEvent event) (.connectionLost .physicalConnectionLost)
  | fails {input : Input} {sorcId : Uuid} {stage : SessionStage} (failure : ConnectFailure)
      (opening : channel.state = .connecting sorcId stage) :
      EndsBy channel input (.connectingFailed sorcId failure)

/-- An attempt whose link is not up yet is one to reach the peer. -/
theorem Lawful.opening {sorcId : Uuid} (lawful : Lawful defaultMtu channel)
    (engaged : channel.state.sorcId? = some sorcId) (down : channel.link.state.isConnected = false) :
    ∃ stage, channel.state = .connecting sorcId stage := by
  cases lawful with
  | atRest handset => cases engaged
  | dialling handset credentials =>
    cases engaged
    exact ⟨_, rfl⟩
  | settling handset credentials default underway =>
    cases engaged
    exact ⟨_, rfl⟩
  | proving handset credentials default limit begun underway pending => cases down
  | secured handset credentials default limit underway => cases down

private theorem Grounds.endsBy {sorcId : Uuid} {cause : EndCause} {lower : List Effect}
    (grounds : Grounds channel input sorcId cause lower) (lawful : Lawful defaultMtu channel) :
    EndsBy channel input (cause.reason sorcId) := by
  cases grounds with
  | asked cause engaged => exact .asked cause engaged
  | @radio _ event failure engaged phase =>
    cases linked : channel.link.state.isConnected with
    | true =>
      rw [linked, if_pos rfl] at phase
      rw [phase]
      exact .lost engaged linked
    | false =>
      rw [linked, if_neg Bool.false_ne_true] at phase
      obtain ⟨stage, opening⟩ := lawful.opening engaged linked
      rw [phase]
      exact .fails _ opening
  | limit handset line credentials input => exact .fails _ rfl
  | handshake handset line credentials handshake pendingKey inFlight input cause => exact .fails _ rfl
  | outdated handset line credentials handshake pendingKey inFlight input => exact .fails _ rfl

/-- The reason of an end fits the state of the channel, given that those from above and from the radio do. -/
theorem EndsBy.names {reason : SessionReason} (ends : EndsBy channel input reason)
    (asked : ∀ cause sorcId, input = .close cause →
      SessionReason.Names channel.state (cause.reason sorcId))
    (lost : ∀ event, input = .radioEvent event → channel.state.sorcId? = some event.sorcId →
      channel.link.state.isConnected = true → channel.state.isConnected = true) :
    SessionReason.Names channel.state reason := by
  cases ends with
  | asked cause engaged => exact asked cause _ rfl
  | lost engaged linked => exact lost _ rfl engaged linked
  | fails failure opening => exact ⟨_, opening⟩

/-- A report of the end goes back to one of the ways to end. -/
theorem Transition.endsBy {reason : SessionReason} (transition : Transition defaultMtu channel input turn)
    (lawful : Lawful defaultMtu channel)
    (told : turn.reports = [.connectionChanged ⟨.disconnected, reason⟩]) :
    EndsBy channel input reason := by
  cases transition with
  | ends grounds =>
    simp only [ended, List.cons.injEq, ChannelReport.connectionChanged.injEq, Change.mk.injEq] at told
    exact told.1.2 ▸ grounds.endsBy lawful
  | breaksOff confirmed closed grounds =>
    simp only [Turn.after, ended, List.cons.injEq, ChannelReport.connectionChanged.injEq,
      Change.mk.injEq] at told
    exact told.1.2 ▸ grounds.endsBy lawful
  | givesUp received kind spoken =>
    simp only [Turn.after, ended, List.cons.injEq, ChannelReport.connectionChanged.injEq,
      Change.mk.injEq] at told
    exact told.1.2 ▸ .fails _ rfl
  | _ => simp [Turn.idle, Turn.report] at told

end Channel

namespace Session

variable {defaultMtu now : Nat} {session : Session} {turn : SessionTurn} {before : SessionState}

/-- Every end that effects tell of names the phase in which the session was. -/
def Named (before : SessionState) (effects : List Effect) : Prop :=
  ∀ earlier effect later, effects = earlier ++ effect :: later → effect.Names (shown before earlier)

private theorem Effect.names_of_quiet {effect : Effect} (quiet : effect.isConnection = false) :
    effect.Names before := by
  cases effect with
  | announce news => cases news <;> trivial
  | telemetry event => cases event <;> trivial
  | _ => trivial

private theorem named_of_quiet {effects : List Effect}
    (quiet : ∀ effect ∈ effects, effect.isConnection = false) : Named before effects := by
  rintro earlier effect later rfl
  exact Effect.names_of_quiet (quiet effect (by simp))

theorem Named.append {first second : List Effect} (early : Named before first)
    (late : Named (shown before first) second) : Named before (first ++ second) := by
  intro earlier effect later split
  rcases List.append_eq_append_iff.mp split with ⟨middle, rfl, rest⟩ | ⟨middle, rfl, rest⟩
  · rw [shown_append]
    exact late middle effect later rest
  · cases middle with
    | nil =>
      rw [List.append_nil] at late
      exact late [] effect later rest.symm
    | cons head tail =>
      obtain ⟨rfl, _⟩ := List.cons.inj rest
      exact early earlier effect tail rfl

private theorem named_singleton {effect : Effect} (names : effect.Names before) : Named before [effect] := by
  intro earlier other later split
  obtain ⟨rfl, rfl, rfl⟩ := List.append_eq_singleton_iff.mp split.symm |>.resolve_right (by simp)
  exact names

/-- What is published names the phase if its reason does. -/
theorem named_publish (state : SessionState) {reason : SessionReason}
    (names : SessionReason.Names session.state reason) :
    Named session.state (session.publish state reason).effects := by
  have announced : Named session.state [.announce (.connection ⟨state, reason⟩)] := named_singleton names
  have changed : Named session.state [.telemetry (.connectionChanged session.state state)] :=
    named_singleton trivial
  cases reason with
  | connectingFailed sorcId failure =>
    have told : Named session.state [.telemetry (.connectingFailed sorcId failure)] :=
      named_singleton names
    exact changed.append (told.append announced)
  | connectionLost loss =>
    cases connected : session.state with
    | connected sorcId =>
      rw [connected] at changed announced
      have told : Named (.connected sorcId) [.telemetry (.connectionLost sorcId loss)] :=
        named_singleton rfl
      simp only [publish, endTelemetry, connected]
      exact changed.append (told.append announced)
    | disconnected => rw [connected] at names; cases names
    | connecting sorcId stage => rw [connected] at names; cases names
  | _ => exact changed.append announced

private theorem named_establish (session : Session) (now : Nat) (sorcId : Uuid) :
    Named session.state (session.establish now sorcId).effects := by
  refine @named_publish { session with .. } (.connected sorcId) (.established sorcId) ?_
  trivial

private theorem named_finish {reason : SessionReason} (names : SessionReason.Names session.state reason) :
    Named session.state (session.finish reason).effects := by
  have forgotten : Named session.state session.reset.effects := named_of_quiet (quiet_publishGrants _ _ _)
  exact forgotten.append (@named_publish session.reset.state .disconnected reason names)

/-- What a session publishes because of its channel names the phase if the end of the channel does. -/
theorem named_absorb (settled : Settled defaultMtu session) {lower : Turn Channel ChannelReport}
    (served : session.Lower lower)
    (ends : ∀ reason, lower.reports = [.connectionChanged ⟨.disconnected, reason⟩] →
      SessionReason.Names session.state reason) :
    Named session.state (session.absorb now lower).effects := by
  have outcome : Absorbed now session lower (session.absorb now lower) := absorbed settled served
  have below : ∀ effect ∈ lower.effects, effect.isConnection = false :=
    fun effect member => Effect.isConnection_of_isLower (served.effects settled effect member)
  have adopted : Named session.state lower.effects := named_of_quiet below
  have same : shown session.state lower.effects = session.state := shown_of_quiet _ below
  generalize session.absorb now lower = turn at outcome ⊢
  cases outcome with
  | nothing reports => exact adopted
  | advances reports advance reached =>
    refine adopted.append ?_
    rw [same]
    exact @named_publish (session.adopt lower).state _ _ advance.names
  | establishes reports opening reached =>
    refine adopted.append ?_
    rw [same]
    exact named_establish (session.adopt lower).state now _
  | ends reports engaged reached =>
    refine adopted.append ?_
    rw [same]
    exact @named_finish (session.adopt lower).state _ (ends _ reports)
  | @recoils state reason sorcId failure reports advance engaged reached =>
    refine (adopted.append ?_).append ?_
    · rw [same]
      exact @named_publish (session.adopt lower).state _ _ advance.names
    · simp only [shown_append, shown_publish]
      exact @named_finish (publish (session.adopt lower).state state reason).state _
        (advance.opening engaged)
  | sent reports => exact adopted
  | fails reports => exact adopted.append (named_of_quiet (serving_giveUp _ _).quiet)
  | hears reports => exact adopted.append (named_of_quiet (serving_messageReceived _ _).quiet)
  | mishears reports => exact adopted.append (named_of_quiet (serving_giveUp _ _).quiet)

/-- The radio reports that the peer is gone while the handshake runs. -/
def Interrupts (session : Session) (input : Input) : Prop :=
  ∃ event, input.action = .radioEvent event ∧ session.state = .connecting event.sorcId .challenging ∧
    ∀ sorcId, event ≠ .connected sorcId

/-- What is published for an input of the channel names the phase, given that the reasons from above and
from the radio do. -/
theorem named_absorb_act (settled : Settled defaultMtu session) (input : Channel.Input)
    (unsent : ∀ message, input ≠ .send message)
    (asked : ∀ cause sorcId, input = .close cause →
      SessionReason.Names session.state (cause.reason sorcId))
    (lost : ∀ event, input = .radioEvent event → session.state.sorcId? = some event.sorcId →
      session.channel.link.state.isConnected = true → session.state.isConnected = true) :
    Named session.state (session.absorb now (session.channel.act input)).effects := by
  refine named_absorb settled ⟨input, unsent, rfl⟩ ?_
  intro reason told
  have ends := (Channel.act_transition settled.lawful input).endsBy settled.lawful told
  rw [settled.agrees] at asked lost ⊢
  exact ends.names asked lost

private theorem named_radioEvent (settled : Settled defaultMtu session) (event : RadioEvent)
    (calm : ¬ session.Interrupts ⟨now, .radioEvent event⟩) :
    Named session.state (session.radioEvent now event).effects := by
  by_cases reached : ∃ sorcId, event = .connected sorcId ∧
      session.channel.link.state ≠ .connecting sorcId .physical
  · obtain ⟨sorcId, rfl, stale⟩ := reached
    rw [radioEvent, Channel.radioEvent, Link.radioEvent_of_stale stale]
    exact named_of_quiet (by simp [absorb, Channel.absorb, Turn.idle, Turn.after])
  · refine named_absorb_act settled (.radioEvent event) (by simp) (by simp) ?_
    rintro _ ⟨⟩ engaged linked
    have inStep := settled.lawful.inStep
    rw [← settled.agrees] at inStep
    generalize state : session.state = upper at inStep engaged ⊢
    generalize below : session.channel.link.state = lower at inStep linked
    cases inStep with
    | secured sorcId => rfl
    | proving sorcId =>
      -- Only that the peer was reached is no end, and no news either as the link is up.
      refine absurd ⟨event, rfl, state.trans ?_, ?_⟩ calm
      · cases engaged
        rfl
      · rintro other rfl
        exact reached ⟨other, rfl, by simp [below]⟩
    | disconnected => cases linked
    | dialling sorcId => cases linked
    | settling sorcId => cases linked

private theorem named_tick (settled : Settled defaultMtu session) :
    Named session.state (session.tick now).effects := by
  cases connected : session.state.isConnected with
  | false =>
    simp only [tick, connected]
    exact named_of_quiet (quiet_idle session)
  | true =>
    simp only [tick, connected, if_true]
    split
    · have checked : Settled defaultMtu { session with checkTimer := (session.checkTimer.poll now).2 } :=
        settled.of_connected connected rfl rfl
      refine named_absorb_act checked (.close (.protocol .heartbeatTimedOut)) (by simp) ?_ (by simp)
      rintro _ sorcId ⟨⟩
      exact connected
    · split
      · exact named_of_quiet (serving_serve _).quiet
      · exact named_of_quiet (quiet_idle _)

/-- Every call but an interruption names the phase that it ends. -/
theorem named_act (settled : Settled defaultMtu session) (input : Input)
    (calm : ¬ session.Interrupts input) : Named session.state (session.act input).effects := by
  obtain ⟨now, action⟩ := input
  cases action with
  | connect credentials =>
    simp only [act, connect]
    split
    · exact named_absorb_act settled (.connect credentials) (by simp) (by simp) (by simp)
    · exact named_of_quiet (quiet_idle session)
  | disconnect =>
    refine named_absorb_act settled (.close .userRequested) (by simp) ?_ (by simp)
    rintro _ sorcId ⟨⟩
    trivial
  | requestGrant grant => exact named_of_quiet (quiet_requestGrant session grant)
  | radioEvent event => exact named_radioEvent settled event calm
  | confirm result => exact named_absorb_act settled (.confirm result) (by simp) (by simp) (by simp)
  | receive result => exact named_absorb_act settled (.receive result) (by simp) (by simp) (by simp)
  | tick => exact named_tick settled

/-- All that happens when the peer goes away during the handshake. -/
def interruption (sorcId : Uuid) : List Effect :=
  [.announce (.link ⟨.disconnected, .connectionLost .physicalConnectionLost⟩),
    .announce (.channel ⟨.disconnected, .connectionLost .physicalConnectionLost⟩),
    .announce (.grants ⟨[], .reset⟩),
    .telemetry (.connectionChanged (.connecting sorcId .challenging) .disconnected),
    .telemetry (.connectionLost sorcId .physicalConnectionLost),
    .announce (.connection ⟨.disconnected, .connectionLost .physicalConnectionLost⟩)]

private theorem effects_of_interrupts (settled : Settled defaultMtu session) {input : Input}
    (interrupts : session.Interrupts input) :
    ∃ sorcId, session.state = .connecting sorcId .challenging ∧
      (session.act input).effects = interruption sorcId := by
  obtain ⟨now, action⟩ := input
  obtain ⟨event, rfl, proving, lost⟩ := interrupts
  have linked : session.channel.link.state = .connected event.sorcId := by
    have inStep := settled.lawful.inStep
    rw [← settled.agrees, proving] at inStep
    generalize session.channel.link.state = lower at inStep ⊢
    cases inStep
    rfl
  have lower : session.channel.radioEvent event =
      Channel.ended session.channel.link.handset defaultMtu event.sorcId (.radio .connectionLost)
        (Channel.linkEndEffects event.sorcId (.radio .connectionLost)) :=
    Channel.radioEvent_of_lost settled.lawful lost (by rw [linked]; rfl) (by rw [linked]; rfl)
  have engaged : session.state.sorcId? = some event.sorcId := by rw [proving]; rfl
  have ends := @channelChanged_end
    { session with channel := Channel.atRest session.channel.link.handset defaultMtu } now event.sorcId engaged
    (.connectionLost .physicalConnectionLost)
  have whole : (session.act ⟨now, .radioEvent event⟩).effects =
      Channel.linkEndEffects event.sorcId (.radio .connectionLost) ++
        [.announce (.channel ⟨.disconnected, .connectionLost .physicalConnectionLost⟩)] ++
      (channelChanged { session with channel := Channel.atRest session.channel.link.handset defaultMtu } now
        ⟨.disconnected, .connectionLost .physicalConnectionLost⟩).effects := by
    simp only [act, radioEvent, absorb, lower, Channel.ended, Turn.forEach_singleton]
    rfl
  refine ⟨event.sorcId, proving, ?_⟩
  rw [whole, ends]
  simp only [finish, reset, publishGrants, publish, endTelemetry, proving]
  rfl

/-- How the ends that a call publishes relate to the state that was published before. -/
structure NamesEnds (session : Session) (before : SessionState) (input : Input) : Prop where
  named : ¬ session.Interrupts input → Named before (session.act input).effects
  /-- An attempt was interrupted, and the end is published as that of a connection. -/
  interrupted : session.Interrupts input → ∃ sorcId, before = .connecting sorcId .challenging ∧
    (session.act input).effects = interruption sorcId

/-- After any inputs, every further call publishes and tells telemetry ends that fit the state published
last, but for the end of an attempt that is interrupted during the handshake. -/
theorem namesEnds_of_run (handset : Handset) (defaultMtu : Nat) (config : Config) (inputs : List Input)
    (input : Input) :
    NamesEnds ((fresh handset defaultMtu config).run inputs).state
      (shown .disconnected ((fresh handset defaultMtu config).run inputs).effects) input := by
  have settled := settled_of_run handset defaultMtu config inputs
  rw [shown_of_run]
  exact ⟨named_act settled input, effects_of_interrupts settled⟩

/-- The phone waits for the proof of a peer that has told its limit. -/
def challengingInputs : List Input :=
  [⟨0, .connect Channel.zeroCredentials⟩, ⟨0, .radioEvent (.connected ⟨.zero⟩)⟩,
    ⟨0, .receive (.ok [0x30, 0, 2, 0, 0x07, 200])⟩]

/-- No connection was ever established, and one is published as lost. -/
theorem lost_while_challenging :
    let session := fresh (Channel.zeroHandset 8) 200 .standard
    let before := shown .disconnected (session.run challengingInputs).effects
    before = .connecting ⟨.zero⟩ .challenging ∧
      .announce (.connection ⟨.disconnected, .connectionLost .physicalConnectionLost⟩) ∈
        ((session.run challengingInputs).state.act ⟨0, .radioEvent (.connectionLost ⟨.zero⟩)⟩).effects := by
  decide +kernel

end Session

end PhoneKey
