import PhoneKey.Proofs.Session.Endings

/-! # The course of a connection

An attempt comes up in four steps that are published one by one, and wherever it has come to it ends
with one publication. What a session publishes is a sequence of such attempts, and the channel under it
publishes the same changes. The end says that it was asked for exactly if it was.
-/

namespace PhoneKey

/-- The change of the connection of a session that an effect announces. -/
def Effect.connectionChange? : Effect → Option SessionChange
  | .announce (.connection change) => some change
  | _ => none

/-- The change of a channel that an effect announces. -/
def Effect.channelChange? : Effect → Option SessionChange
  | .announce (.channel change) => some change
  | _ => none

def ChannelReport.change? : ChannelReport → Option SessionChange
  | .connectionChanged change => some change
  | _ => none

/-- What the stream of connections publishes. -/
def connectionChanges (effects : List Effect) : List SessionChange :=
  effects.filterMap Effect.connectionChange?

/-- What the stream of the channel publishes. -/
def channelChanges (effects : List Effect) : List SessionChange :=
  effects.filterMap Effect.channelChange?

/-- The changes that a channel reports to the session. -/
def reportedChanges (reports : List ChannelReport) : List SessionChange :=
  reports.filterMap ChannelReport.change?

theorem EndCause.reason_eq_disconnect_iff (cause : EndCause) (sorcId : Uuid) :
    cause.reason sorcId = (.disconnect : SessionReason) ↔ cause = .userRequested := by
  constructor
  · intro same
    cases cause with
    | userRequested => rfl
    | radio failure => cases failure <;> cases same
    | protocol failure => cases failure <;> cases same
  · rintro rfl
    rfl

theorem mem_reportedChanges {reports : List ChannelReport} {change : SessionChange} :
    change ∈ reportedChanges reports ↔ .connectionChanged change ∈ reports := by
  rw [reportedChanges, List.mem_filterMap]
  constructor
  · rintro ⟨report, listed, same⟩
    cases report with
    | connectionChanged other =>
      cases same
      exact listed
    | messageSent result => cases same
    | messageReceived result => cases same
  · intro listed
    exact ⟨_, listed, rfl⟩

/-- A change of a connection: the next step of an attempt, or the end. -/
inductive Passage : SessionState → SessionChange → Prop
  | advances {before after : SessionState} {reason : SessionReason}
      (advance : Channel.Advance before after reason) : Passage before ⟨after, reason⟩
  | establishes (sorcId : Uuid) :
      Passage (.connecting sorcId .challenging) ⟨.connected sorcId, .established sorcId⟩
  | ends {before : SessionState} {sorcId : Uuid} (engaged : before.sorcId? = some sorcId)
      (cause : EndCause) : Passage before ⟨.disconnected, cause.reason sorcId⟩

/-- Changes each of which is possible in the state that the one before led to. -/
inductive Course : SessionState → List SessionChange → SessionState → Prop
  | nil (state : SessionState) : Course state [] state
  | cons {before after : SessionState} {change : SessionChange} {rest : List SessionChange} :
      Passage before change → Course change.state rest after → Course before (change :: rest) after

/-- The steps of an attempt, one after the other. -/
def steps (sorcId : Uuid) : List SessionChange :=
  [⟨.connecting sorcId .physical, .entered sorcId .physical⟩,
   ⟨.connecting sorcId .transport, .entered sorcId .transport⟩,
   ⟨.connecting sorcId .challenging, .entered sorcId .challenging⟩,
   ⟨.connected sorcId, .established sorcId⟩]

/-- The steps that lead to a state. -/
def route : SessionState → List SessionChange
  | .disconnected => []
  | .connecting sorcId .physical => (steps sorcId).take 1
  | .connecting sorcId .transport => (steps sorcId).take 2
  | .connecting sorcId .challenging => (steps sorcId).take 3
  | .connected sorcId => steps sorcId

/-- All that is published of an attempt that has ended: the steps to the state that it came to, and one
end. -/
def Attempt (changes : List SessionChange) : Prop :=
  ∃ state sorcId cause, state.sorcId? = some sorcId ∧
    changes = route state ++ [⟨.disconnected, EndCause.reason cause sorcId⟩]

section

variable {before middle after : SessionState} {first second : List SessionChange}

theorem Passage.course {change : SessionChange} (passage : Passage before change) :
    Course before [change] change.state := .cons passage (.nil change.state)

theorem Course.append (early : Course before first middle) (late : Course middle second after) :
    Course before (first ++ second) after := by
  induction early with
  | nil state => exact late
  | cons passage _ ih => exact .cons passage (ih late)

theorem route_advance {reason : SessionReason} (advance : Channel.Advance before after reason) :
    route before ++ [⟨after, reason⟩] = route after := by
  cases advance <;> rfl

/-- A course is a sequence of attempts that ended, the first of which may have begun before, and what was
published of the one under way. -/
theorem Course.attempts (course : Course before first after) :
    ∃ attempts : List (List SessionChange), route before ++ first = attempts.flatten ++ route after ∧
      ∀ attempt ∈ attempts, Attempt attempt := by
  induction course with
  | nil state => exact ⟨[], by simp⟩
  | @cons before after change rest passage course ih =>
    obtain ⟨attempts, whole, ended⟩ := ih
    rw [List.append_cons]
    cases passage with
    | advances advance =>
      rw [route_advance advance]
      exact ⟨attempts, whole, ended⟩
    | establishes sorcId => exact ⟨attempts, whole, ended⟩
    | @ends _ sorcId engaged cause =>
      refine ⟨(route before ++ [⟨.disconnected, cause.reason sorcId⟩]) :: attempts, ?_, ?_⟩
      · rw [List.flatten_cons, List.append_assoc _ attempts.flatten, ← whole, route, List.nil_append]
      · exact List.forall_mem_cons.mpr ⟨⟨before, sorcId, cause, engaged, rfl⟩, ended⟩

end

theorem Effect.connectionChange?_of_quiet {effect : Effect} (quiet : effect.isConnection = false) :
    effect.connectionChange? = none := by
  cases effect with
  | announce news => cases news <;> trivial
  | _ => rfl

theorem Effect.channelChange?_of_serving {effect : Effect} (serving : effect.isServing = true) :
    effect.channelChange? = none := by
  cases effect with
  | announce news => cases news <;> trivial
  | _ => rfl

theorem connectionChanges_append (first second : List Effect) :
    connectionChanges (first ++ second) = connectionChanges first ++ connectionChanges second :=
  List.filterMap_append

theorem channelChanges_append (first second : List Effect) :
    channelChanges (first ++ second) = channelChanges first ++ channelChanges second :=
  List.filterMap_append

theorem connectionChanges_of_quiet {effects : List Effect}
    (quiet : ∀ effect ∈ effects, effect.isConnection = false) : connectionChanges effects = [] :=
  List.filterMap_eq_nil_iff.mpr fun effect member => Effect.connectionChange?_of_quiet (quiet effect member)

theorem channelChanges_of_serving {effects : List Effect}
    (serving : ∀ effect ∈ effects, effect.isServing = true) : channelChanges effects = [] :=
  List.filterMap_eq_nil_iff.mpr fun effect member => Effect.channelChange?_of_serving (serving effect member)

namespace Channel

variable {defaultMtu : Nat} {channel : Channel} {input : Input} {turn : Turn Channel ChannelReport}

private theorem channelChanges_link (change : LinkChange) (rest : List Effect) :
    channelChanges (.announce (.link change) :: rest) = channelChanges rest := rfl

private theorem channelChanges_start (link : Link) (message : Bytes) :
    channelChanges (link.start message).effects = [] := by
  rcases Link.effects_start link message with silent | ⟨frame, accepted, same, _⟩
  · rw [silent]
    rfl
  · rw [same]
    rfl

private theorem channelChanges_ended {sorcId : Uuid} {cause : EndCause} {lower : List Effect}
    (grounds : Grounds channel input sorcId cause lower) (handset : Handset) :
    channelChanges (ended handset defaultMtu sorcId cause lower).effects =
      [⟨.disconnected, cause.reason sorcId⟩] := by
  cases grounds <;> rfl

theorem Grounds.input_of_asked {sorcId : Uuid} {cause : EndCause} {lower : List Effect}
    (grounds : Grounds channel input sorcId cause lower) (asked : cause = .userRequested) :
    input = .close .userRequested := by
  cases grounds with
  | asked cause engaged => rw [asked]
  | _ => cases asked

/-- A channel publishes what it reports. -/
theorem Transition.publishes (transition : Transition defaultMtu channel input turn) :
    channelChanges turn.effects = reportedChanges turn.reports := by
  cases transition with
  | asks asked taken =>
    rw [channelChanges_append, channelChanges_link, asked, channelChanges_start]
    rfl
  | asksInVain asked refused =>
    simp only [channelChanges_append, channelChanges_link, asked, channelChanges_start]
    rfl
  | ends grounds => exact channelChanges_ended grounds _
  | breaksOff confirmed closed grounds =>
    rw [Turn.after, channelChanges_append, channelChanges_ended grounds]
    rfl
  | opens received kind told limit spoken taken =>
    rw [channelChanges_append, spoken, channelChanges_start]
    rfl
  | opensInVain received spoken refused =>
    simp only [channelChanges_append, spoken, channelChanges_start]
    rfl
  | replies received reply spoken taken => exact spoken ▸ channelChanges_start _ _
  | givesUp received kind spoken =>
    rw [Turn.after, channelChanges_append, spoken, channelChanges_start]
    rfl
  | seals spoken taken => exact spoken ▸ channelChanges_start _ _
  | refuses spoken refused => exact spoken ▸ channelChanges_start _ _
  | _ => rfl

/-- A channel says that its end was asked for only when it is told to end for this cause. -/
theorem Transition.asked (transition : Transition defaultMtu channel input turn) {change : SessionChange}
    (told : .connectionChanged change ∈ turn.reports) (reason : change.reason = .disconnect) :
    input = .close .userRequested := by
  have ended : ∀ {channel : Channel} {sorcId : Uuid} {cause : EndCause} {lower : List Effect},
      Grounds channel input sorcId cause lower → change = ⟨.disconnected, cause.reason sorcId⟩ →
        input = .close .userRequested := by
    rintro channel sorcId cause lower grounds rfl
    exact grounds.input_of_asked ((EndCause.reason_eq_disconnect_iff cause sorcId).mp reason)
  cases transition with
  | ends grounds => exact ended grounds (by simpa [Channel.ended] using told)
  | breaksOff confirmed closed grounds =>
    exact ended grounds (by simpa [Turn.after, Channel.ended] using told)
  | givesUp received kind spoken =>
    have same := by simpa [Turn.after, Channel.ended] using told
    rw [same] at reason
    cases reason
  | _ => grind [Turn.idle, Turn.report]

/-- A channel that the user ends reports this, unless there is nothing to end. -/
theorem Lawful.reportedChanges_close (lawful : Lawful defaultMtu channel) :
    reportedChanges (channel.close .userRequested).reports =
      if channel.state.isDisconnected then [] else [⟨.disconnected, .disconnect⟩] := by
  cases peer : channel.state.sorcId? with
  | none =>
    have rests : channel.state.isDisconnected = true := by
      cases state : channel.state <;> simp_all [ConnectionState.sorcId?, ConnectionState.isDisconnected]
    rw [close, if_pos rests, if_pos rests]
    rfl
  | some sorcId =>
    obtain ⟨linked, default⟩ := lawful.engaged peer
    rw [close_of_engaged channel peer linked default, Link.isDisconnected_of_engaged peer]
    rfl

end Channel

namespace Session

variable {defaultMtu now : Nat} {answer : Option GrantResponse} {session : Session} {turn : SessionTurn}

theorem connectionChanges_publish (session : Session) (state : SessionState) (reason : SessionReason) :
    connectionChanges (session.publish state reason).effects = [⟨state, reason⟩] := by
  rw [publish, connectionChanges_append]
  cases reason with
  | connectionLost loss => cases session.state <;> rfl
  | _ => rfl

theorem channelChanges_publish (session : Session) (state : SessionState) (reason : SessionReason) :
    channelChanges (session.publish state reason).effects = [] := by
  rw [publish, channelChanges_append]
  cases reason with
  | connectionLost loss => cases session.state <;> rfl
  | _ => rfl

theorem connectionChanges_finish (session : Session) (reason : SessionReason) :
    connectionChanges (session.finish reason).effects = [⟨.disconnected, reason⟩] :=
  (connectionChanges_append _ _).trans (connectionChanges_publish session.reset.state .disconnected reason)

theorem channelChanges_finish (session : Session) (reason : SessionReason) :
    channelChanges (session.finish reason).effects = [] :=
  (channelChanges_append _ _).trans (channelChanges_publish session.reset.state .disconnected reason)

/-- What is published in a turn leads from the state before it to the one after it, on the stream of the
session and on that of its channel alike. -/
structure Tells (before : SessionState) (turn : SessionTurn) : Prop where
  course : Course before (connectionChanges turn.effects) turn.state.state
  mirrored : channelChanges turn.effects = connectionChanges turn.effects

theorem Tells.andThen {before : SessionState} {next : Session → SessionTurn} (first : Tells before turn)
    (second : Tells turn.state.state (next turn.state)) : Tells before (turn.andThen next) where
  course := by
    rw [Turn.andThen, connectionChanges_append]
    exact first.course.append second.course
  mirrored := by
    rw [Turn.andThen, connectionChanges_append, channelChanges_append, first.mirrored, second.mirrored]

theorem tells_of_serving {before : SessionState} (serving : Serving turn)
    (kept : turn.state.state = before) : Tells before turn where
  course := by
    rw [connectionChanges_of_quiet serving.quiet, kept]
    exact .nil before
  mirrored := by rw [connectionChanges_of_quiet serving.quiet, channelChanges_of_serving serving]

theorem tells_idle (session : Session) : Tells session.state (.idle session) :=
  tells_of_serving (serving_idle session) rfl

/-- What the session publishes of its channel is what the channel published. -/
theorem tells_of_lower (settled : Settled defaultMtu session) {lower : Turn Channel ChannelReport}
    (served : session.Lower lower) {told : List Effect} {changes : List SessionChange}
    (effects : turn.effects = lower.effects ++ told)
    (reported : reportedChanges lower.reports = changes) (published : connectionChanges told = changes)
    (silent : channelChanges told = []) (course : Course session.state changes turn.state.state) :
    Tells session.state turn := by
  have quiet : connectionChanges lower.effects = [] := connectionChanges_of_quiet fun effect member =>
    Effect.isConnection_of_isLower (served.effects settled effect member)
  have mirrored : channelChanges lower.effects = changes := by
    obtain ⟨input, _, rfl⟩ := served
    exact (Channel.act_transition settled.lawful input).publishes.trans reported
  constructor
  · rw [effects, connectionChanges_append, quiet, published]
    exact course
  · rw [effects, connectionChanges_append, channelChanges_append, quiet, published, mirrored, silent,
      List.append_nil, List.nil_append]

private theorem tells_of_adopted (settled : Settled defaultMtu session) {lower : Turn Channel ChannelReport}
    (served : session.Lower lower) (effects : turn.effects = lower.effects)
    (reported : reportedChanges lower.reports = []) (kept : turn.state.state = session.state) :
    Tells session.state turn := by
  refine tells_of_lower settled served (effects.trans (List.append_nil _).symm) reported rfl rfl ?_
  rw [kept]
  exact .nil session.state

theorem Move.tells (move : Move now answer session turn) (settled : Settled defaultMtu session) :
    Tells session.state turn := by
  cases move with
  | passes served news =>
    refine tells_of_adopted settled served rfl ?_ rfl
    rcases news with none | ⟨result, sent⟩ | ⟨cause, received⟩
    · rw [none]
      rfl
    · rw [sent]
      rfl
    · rw [received]
      rfl
  | hears served news =>
    refine tells_of_adopted settled served rfl ?_ rfl
    rw [news]
    rfl
  | advances served news advance reached =>
    exact tells_of_lower settled served rfl (congrArg _ news) (connectionChanges_publish _ _ _)
      (channelChanges_publish _ _ _) (Passage.advances advance).course
  | establishes served news opening reached =>
    refine tells_of_lower settled served rfl (congrArg _ news) (connectionChanges_publish _ _ _)
      (channelChanges_publish _ _ _) ?_
    rw [opening]
    exact (Passage.establishes _).course
  | ends served news engaged reached =>
    exact tells_of_lower settled served rfl (congrArg _ news) (connectionChanges_finish _ _)
      (channelChanges_finish _ _) (Passage.ends engaged _).course
  | @recoils lower state reason sorcId failure served news advance engaged reached =>
    refine tells_of_lower settled served (List.append_assoc _ _ _) (congrArg _ news) ?_ ?_ ?_
    · rw [connectionChanges_append, connectionChanges_publish, connectionChanges_finish]
      rfl
    · rw [channelChanges_append, channelChanges_publish, channelChanges_finish]
      rfl
    · have failed : (EndCause.ofConnectFailure failure).reason sorcId =
          (.connectingFailed sorcId failure : SessionReason) := by
        simp only [EndCause.reason, EndCause.kind_ofConnectFailure]
      have last := (Passage.ends (advance.engaged engaged) (.ofConnectFailure failure)).course
      rw [failed] at last
      exact .cons (.advances advance) last
  | answers brought connected => exact tells_of_serving (serving_settle session _) rfl
  | abandons failure waiting => exact tells_of_serving (serving_surrender session failure) rfl
  | sends connected free waiting taken => exact tells_of_serving (serving_dispatch _ _) rfl
  | drops connected free waiting refused => exact tells_of_serving (serving_dispatch _ _) rfl
  | breaks connected free waiting refused =>
    exact tells_of_serving (Serving.andThen (serving_dispatch _ _) (serving_surrender _ _)) rfl
  | accepts connected room => exact ⟨.nil _, rfl⟩
  | declines connected full => exact ⟨.nil _, rfl⟩
  | _ => exact ⟨.nil _, rfl⟩

theorem Moves.tells (moves : Moves now answer session turn) (settled : Settled defaultMtu session) :
    Tells session.state turn := by
  induction moves with
  | nil session => exact tells_idle session
  | cons first rest ih => exact (first.tells settled).andThen (ih (first.settled settled))

/-- What a session publishes of its connection is what its channel reports. -/
theorem connectionChanges_absorb (settled : Settled defaultMtu session)
    {lower : Turn Channel ChannelReport} (served : session.Lower lower) :
    connectionChanges (session.absorb now lower).effects = reportedChanges lower.reports := by
  have outcome : Absorbed now session lower (session.absorb now lower) := absorbed settled served
  have below : connectionChanges lower.effects = [] := connectionChanges_of_quiet fun effect member =>
    Effect.isConnection_of_isLower (served.effects settled effect member)
  have above : ∀ told, connectionChanges (lower.effects ++ told) = connectionChanges told := by
    intro told
    rw [connectionChanges_append, below, List.nil_append]
  generalize session.absorb now lower = turn at outcome ⊢
  cases outcome with
  | nothing reports => rw [reports]; exact below
  | advances reports advance reached =>
    rw [reports]
    exact (above _).trans (connectionChanges_publish _ _ _)
  | establishes reports opening reached =>
    rw [reports]
    exact (above _).trans (connectionChanges_publish _ _ _)
  | ends reports engaged reached =>
    rw [reports]
    exact (above _).trans (connectionChanges_finish _ _)
  | @recoils state reason sorcId failure reports advance engaged reached =>
    rw [reports]
    refine (connectionChanges_append _ _).trans ?_
    rw [connectionChanges_finish]
    exact congrArg (· ++ _) ((above _).trans (connectionChanges_publish _ _ _))
  | sent reports => rw [reports]; exact below
  | fails reports =>
    rw [reports]
    exact (above _).trans (connectionChanges_of_quiet (serving_giveUp _ _).quiet)
  | hears reports =>
    rw [reports]
    exact (above _).trans (connectionChanges_of_quiet (serving_messageReceived _ _).quiet)
  | mishears reports =>
    rw [reports]
    exact (above _).trans (connectionChanges_of_quiet (serving_giveUp _ _).quiet)

/-- A call publishes that the end was asked for exactly if it asks for it. -/
theorem asked_act (settled : Settled defaultMtu session) (input : Input) {change : SessionChange}
    (told : change ∈ connectionChanges (session.act input).effects) :
    change.reason = .disconnect ↔ input.action = .disconnect := by
  have outcome : Outcome defaultMtu session input (session.act input) := act_outcome settled input
  generalize session.act input = turn at outcome told
  cases outcome with
  | asks asked =>
    rw [connectionChanges_of_quiet (quiet_requestGrant session _)] at told
    cases told
  | serves serving other =>
    rw [connectionChanges_of_quiet serving.quiet] at told
    cases told
  | absorbs lower settled unsent closes other =>
    rw [connectionChanges_absorb settled ⟨lower, unsent, rfl⟩, mem_reportedChanges] at told
    rw [← closes]
    constructor
    · exact (Channel.act_transition settled.lawful lower).asked told
    · rintro rfl
      have closed := mem_reportedChanges.mpr told
      rw [Channel.act, settled.lawful.reportedChanges_close] at closed
      split at closed
      · cases closed
      · rw [List.mem_singleton.mp closed]

/-- The user ends an attempt or a connection with one publication. -/
theorem connectionChanges_disconnect (settled : Settled defaultMtu session) (now : Nat) :
    connectionChanges (session.disconnect now).effects =
      if session.state.isDisconnected then [] else [⟨.disconnected, .disconnect⟩] := by
  have reported : connectionChanges (session.disconnect now).effects =
      reportedChanges (session.channel.close .userRequested).reports :=
    connectionChanges_absorb settled ⟨.close .userRequested, by simp, rfl⟩
  rw [reported, settled.lawful.reportedChanges_close, settled.agrees]

/-- What a session and its channel have published of the connection after some inputs. -/
structure Recorded (session : Session) (inputs : List Input) : Prop where
  course : Course .disconnected (connectionChanges (session.run inputs).effects)
    (session.run inputs).state.state
  /-- The attempts, each of them with all its steps and one end, and the steps of the one under way. -/
  attempts : ∃ attempts : List (List SessionChange),
    connectionChanges (session.run inputs).effects =
      attempts.flatten ++ route (session.run inputs).state.state ∧
    ∀ attempt ∈ attempts, Attempt attempt
  mirrored : channelChanges (session.run inputs).effects = connectionChanges (session.run inputs).effects
  asked : ∀ call ∈ session.history inputs,
    ∀ change ∈ connectionChanges (call.before.act call.input).effects,
      (change.reason = .disconnect ↔ call.input.action = .disconnect)
  ends : ∀ call ∈ session.history inputs, call.input.action = .disconnect →
    connectionChanges (call.before.act call.input).effects =
      if call.before.state.isDisconnected then [] else [⟨.disconnected, .disconnect⟩]

/-- Whatever inputs arrive, what is published of the connection of a session is a sequence of attempts,
each with its steps in order and with one end that says whether it was asked for; the channel publishes
the same. -/
theorem recorded_of_run (handset : Handset) (defaultMtu : Nat) (config : Config) (inputs : List Input) :
    Recorded (fresh handset defaultMtu config) inputs := by
  have tells : Tells .disconnected ((fresh handset defaultMtu config).run inputs) := by
    induction inputs using List.reverseRecOn with
    | nil => exact tells_idle (fresh handset defaultMtu config)
    | append_singleton inputs input ih =>
      have settled := settled_of_run handset defaultMtu config inputs
      have last := (act_moves settled input).tells settled
      rw [run, Turn.forEach_append]
      refine ih.andThen ?_
      rw [Turn.forEach_singleton]
      exact last
  refine ⟨tells.course, tells.course.attempts, tells.mirrored, ?_, ?_⟩
  · intro call made change told
    exact asked_act (settled_of_mem_history made) call.input told
  · rintro ⟨session, now, action⟩ made rfl
    exact connectionChanges_disconnect (settled_of_mem_history made) now

/-- The user gives up during the handshake, and what the radio reports afterwards comes too late. -/
example :
    let late := [⟨0, .disconnect⟩, ⟨0, .radioEvent (.connectionLost ⟨.zero⟩)⟩, ⟨0, .disconnect⟩]
    connectionChanges
        ((fresh (Channel.zeroHandset 8) 200 .standard).run (challengingInputs ++ late)).effects =
      (steps ⟨.zero⟩).take 3 ++ [⟨.disconnected, .disconnect⟩] := by
  decide +kernel

end Session

end PhoneKey
