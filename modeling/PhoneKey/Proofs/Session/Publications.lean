import PhoneKey.Proofs.Session.Calls

/-! # What a session publishes

A channel calls the radio and announces its own changes and those of its link. The session adds the
requests that it tries, its grants and the changes of its connection. The last come only with a change
of the channel: whatever is done about requests says nothing about the connection.
-/

namespace PhoneKey

/-- Whether an effect is one of a channel or of its link. -/
def Effect.isLower : Effect → Bool
  | .radio _ => true
  | .announce (.link _) => true
  | .announce (.channel _) => true
  | _ => false

/-- Whether an effect tells of the connection of a session. -/
def Effect.isConnection : Effect → Bool
  | .announce (.connection _) => true
  | .telemetry (.connectionChanged _ _) => true
  | .telemetry (.connectingFailed _ _) => true
  | .telemetry (.connectionLost _ _) => true
  | _ => false

/-- Whether an effect is one of serving the requests that were accepted: a request that is tried, a frame
that is written for it, and what became of grants. -/
def Effect.isServing : Effect → Bool
  | .announce (.grants ⟨_, .answered _⟩) => true
  | .announce (.grants ⟨_, .failed _⟩) => true
  | .telemetry (.grantAnswered _ _ _) => true
  | .telemetry (.grantFailed _ _) => true
  | .attempt _ _ _ => true
  | .radio _ => true
  | _ => false

theorem Effect.isConnection_of_isLower {effect : Effect} (lower : effect.isLower = true) :
    effect.isConnection = false := by
  cases effect with
  | announce news => cases news <;> trivial
  | telemetry event => cases lower
  | _ => rfl

private theorem Effect.isConnection_of_isServing {effect : Effect} (serving : effect.isServing = true) :
    effect.isConnection = false := by
  cases effect with
  | announce news => cases news <;> trivial
  | telemetry event => cases event <;> trivial
  | _ => rfl

private theorem Link.lower_start (link : Link) (message : Bytes) :
    ∀ effect ∈ (link.start message).effects, effect.isLower = true := by
  rcases effects_start link message with silent | ⟨frame, accepted, same, _⟩
  · simp [silent]
  · simp [same, Effect.isLower]

namespace Channel

variable {defaultMtu : Nat} {channel : Channel} {input : Input} {turn : Turn Channel ChannelReport}

private theorem Grounds.lower {sorcId : Uuid} {cause : EndCause} {lower : List Effect}
    (grounds : Grounds channel input sorcId cause lower) : ∀ effect ∈ lower, effect.isLower = true := by
  cases grounds <;> simp [hangUpEffects, linkEndEffects, Effect.isLower]

private theorem lower_ended {sorcId : Uuid} {cause : EndCause} {lower : List Effect}
    (grounds : Grounds channel input sorcId cause lower) (handset : Handset) :
    ∀ effect ∈ (ended handset defaultMtu sorcId cause lower).effects, effect.isLower = true := by
  have below := grounds.lower
  simp only [ended, List.forall_mem_append, List.forall_mem_singleton]
  exact ⟨below, rfl⟩

/-- All effects of a channel are radio calls and announcements of channel and link. -/
theorem Transition.lower (transition : Transition defaultMtu channel input turn) :
    ∀ effect ∈ turn.effects, effect.isLower = true := by
  have offered := Link.lower_start
  cases transition with
  | asks asked taken =>
    simp only [List.forall_mem_append, List.forall_mem_cons, asked]
    exact ⟨⟨rfl, offered _ _⟩, rfl, by simp⟩
  | asksInVain asked refused =>
    simp only [List.forall_mem_append, List.forall_mem_cons, asked, linkEndEffects]
    exact ⟨⟨⟨rfl, offered _ _⟩, rfl, rfl, by simp⟩, rfl, rfl, by simp⟩
  | ends grounds => exact lower_ended grounds _
  | breaksOff confirmed closed grounds =>
    simp only [Turn.after, List.forall_mem_append, List.forall_mem_singleton]
    exact ⟨rfl, lower_ended grounds _⟩
  | opens received kind told limit spoken taken =>
    simp only [List.forall_mem_append, spoken]
    exact ⟨by simp [openingEffects, Effect.isLower], offered _ _⟩
  | opensInVain received spoken refused =>
    simp only [List.forall_mem_append, spoken]
    exact ⟨⟨⟨by simp [openingEffects, Effect.isLower], offered _ _⟩,
      by simp [hangUpEffects, Effect.isLower]⟩, by simp [Effect.isLower]⟩
  | replies received reply spoken taken => exact spoken ▸ offered _ _
  | givesUp received kind spoken =>
    simp only [Turn.after, ended, List.forall_mem_append, spoken]
    exact ⟨offered _ _, by simp [hangUpEffects, Effect.isLower], by simp [Effect.isLower]⟩
  | seals spoken taken => exact spoken ▸ offered _ _
  | refuses spoken refused => exact spoken ▸ offered _ _
  | _ => simp [Turn.idle, Turn.report, Effect.isLower]

/-- All that a message asks for is that the radio writes a frame. -/
theorem radio_offer (channel : Channel) (message : Message) :
    ∀ effect ∈ (channel.offer message).effects, ∃ call, effect = .radio call := by
  have whole : (channel.offer message).effects =
      (channel.link.offer (channel.protection.protect message).1).effects := rfl
  rw [whole, Link.offer]
  split
  · rcases Link.effects_start channel.link (channel.protection.protect message).1 with
      silent | ⟨frame, accepted, same, _⟩
    · simp [silent]
    · simp [same]
  · simp

end Channel

namespace Session

variable {defaultMtu now : Nat} {answer : Option GrantResponse} {session : Session} {turn : SessionTurn}

theorem Lower.effects {lower : Turn Channel ChannelReport} (served : session.Lower lower)
    (settled : Settled defaultMtu session) : ∀ effect ∈ lower.effects, effect.isLower = true := by
  obtain ⟨input, _, rfl⟩ := served
  exact (Channel.act_transition settled.lawful input).lower

/-- A request that is given to the channel is noted, and then the channel does what it does. -/
theorem effects_forward (session : Session) (request : Request) (rest : List Request) :
    ∃ lower, (session.forward request rest).2.effects =
        .attempt request session.state session.outstanding :: lower ∧
      ∀ effect ∈ lower, effect.isLower = true := by
  refine ⟨_, rfl, ?_⟩
  intro effect member
  obtain ⟨call, rfl⟩ := Channel.radio_offer _ _ effect member
  rfl

/-- The state of a session after some effects, as its stream of connections announces it. -/
def shown (state : SessionState) : List Effect → SessionState
  | [] => state
  | .announce (.connection change) :: rest => shown change.state rest
  | _ :: rest => shown state rest

theorem shown_append (state : SessionState) (first second : List Effect) :
    shown state (first ++ second) = shown (shown state first) second := by
  fun_induction shown state first with
  | case1 state => rfl
  | case2 state change rest ih => exact ih
  | case3 state effect rest other ih =>
    rw [List.cons_append, shown, ih]
    exact other

theorem shown_of_quiet (state : SessionState) {effects : List Effect}
    (quiet : ∀ effect ∈ effects, effect.isConnection = false) : shown state effects = state := by
  fun_induction shown state effects with
  | case1 state => rfl
  | case2 state change rest ih => cases quiet _ List.mem_cons_self
  | case3 state effect rest other ih => exact ih fun later member => quiet later (List.mem_cons_of_mem _ member)

theorem shown_publish (before : SessionState) (session : Session) (state : SessionState)
    (reason : SessionReason) : shown before (session.publish state reason).effects = state := by
  have told : shown before (.telemetry (.connectionChanged session.state state) ::
      endTelemetry session.state reason) = before := by
    cases reason with
    | connectionLost loss => cases session.state <;> rfl
    | _ => rfl
  rw [publish, shown_append, told]
  rfl

/-- A turn that says nothing about the connection. -/
def Quiet (turn : SessionTurn) : Prop := ∀ effect ∈ turn.effects, effect.isConnection = false

theorem quiet_idle (session : Session) : Quiet (.idle session) := by simp [Quiet, Turn.idle]

theorem Quiet.andThen {next : Session → SessionTurn} (first : Quiet turn) (second : Quiet (next turn.state)) :
    Quiet (turn.andThen next) := by
  intro effect member
  rcases List.mem_append.mp member with early | late
  · exact first effect early
  · exact second effect late

theorem quiet_publishGrants (session : Session) (openGrants : OpenGrants) (reason : GrantReason) :
    Quiet (session.publishGrants openGrants reason) := by
  simp [Quiet, publishGrants, Effect.isConnection]

/-- A turn that serves requests that were accepted, and does nothing else. -/
def Serving (turn : SessionTurn) : Prop := ∀ effect ∈ turn.effects, effect.isServing = true

theorem Serving.quiet (serving : Serving turn) : Quiet turn := fun effect member =>
  Effect.isConnection_of_isServing (serving effect member)

theorem serving_idle (session : Session) : Serving (.idle session) := by simp [Serving, Turn.idle]

theorem Serving.andThen {next : Session → SessionTurn} (first : Serving turn)
    (second : Serving (next turn.state)) : Serving (turn.andThen next) := by
  intro effect member
  rcases List.mem_append.mp member with early | late
  · exact first effect early
  · exact second effect late

theorem serving_surrender (session : Session) (failure : RequestFailure) :
    Serving (session.surrender failure) := by
  refine Serving.andThen ?_ ?_
  · simp [Serving, publishGrants, Effect.isServing]
  · simp [Serving, tell, Effect.isServing]

theorem serving_dispatch (session : Session) (request : Request) :
    Serving (session.dispatch request).2 := by
  intro effect member
  rcases List.mem_cons.mp member with rfl | below
  · rfl
  · obtain ⟨call, rfl⟩ := Channel.radio_offer session.channel request.message effect below
    rfl

private theorem serving_probe (session : Session) : Serving session.probe := by
  rw [probe]
  split
  · exact serving_dispatch session .heartbeat
  · exact serving_idle session

private theorem serving_abandonGrant (session : Session) (failure : RequestFailure) :
    Serving (session.abandonGrant failure) := (serving_surrender session failure).andThen (serving_probe _)

private theorem serving_drain (session : Session) (requests : List Request) :
    Serving (session.drain requests) := by
  induction requests generalizing session with
  | nil => exact serving_idle session
  | cons request rest ih =>
    have sent : Serving (session.forward request rest).2 := serving_dispatch _ request
    rw [drain_cons]
    split
    · exact sent
    · cases request with
      | heartbeat => exact sent.andThen (ih _)
      | grant number => exact sent.andThen (serving_abandonGrant _ _)

theorem serving_serve (session : Session) : Serving session.serve := by
  rw [serve]
  split
  · exact serving_drain session _
  · exact serving_idle session

theorem serving_giveUp (session : Session) (failure : RequestFailure) :
    Serving (session.giveUp failure) := by
  rw [giveUp]
  split
  · exact serving_idle session
  · exact serving_serve _
  · exact serving_abandonGrant session failure

theorem serving_settle (session : Session) (response : GrantResponse) :
    Serving (session.settle response) := by
  refine Serving.andThen ?_ ?_
  · simp [Serving, Effect.isServing]
  · simp [Serving, publishGrants, Effect.isServing]

private theorem serving_grantAnswered (session : Session) (response : GrantResponse) :
    Serving (session.grantAnswered response) :=
  (serving_settle session response).andThen (serving_serve _)

/-- A message of an established channel concerns requests only. -/
theorem serving_messageReceived (session : Session) (message : Message) :
    Serving (session.messageReceived message) := by
  rw [messageReceived]
  split
  · exact serving_serve _
  · split
    · exact serving_idle session
    · split
      · exact serving_grantAnswered session _
      · exact serving_giveUp session _
  · exact serving_idle session

/-- Publishing a change concerns nothing but the connection. -/
theorem isConnection_publish (session : Session) (state : SessionState) (reason : SessionReason) :
    ∀ effect ∈ (session.publish state reason).effects, effect.isConnection = true := by
  cases reason with
  | connectionLost loss =>
    cases before : session.state <;>
      simp [publish, endTelemetry, ConnectionState.sorcId?, before, Effect.isConnection]
  | _ => simp [publish, endTelemetry, Effect.isConnection]

/-- What happens on account of the channel: its own effects, those of serving requests, news of the
connection, and that every grant is forgotten. -/
theorem mem_absorb (settled : Settled defaultMtu session) {lower : Turn Channel ChannelReport}
    (served : session.Lower lower) {effect : Effect} (member : effect ∈ (session.absorb now lower).effects) :
    effect ∈ lower.effects ∨ effect.isServing = true ∨ effect.isConnection = true ∨
      effect = .announce (.grants ⟨[], .reset⟩) := by
  have outcome : Absorbed now session lower (session.absorb now lower) := absorbed settled served
  have finished : ∀ {next : Session} {reason : SessionReason}, effect ∈ (next.finish reason).effects →
      effect.isConnection = true ∨ effect = .announce (.grants ⟨[], .reset⟩) := by
    intro next reason listed
    rcases List.mem_append.mp listed with forgotten | told
    · exact .inr (List.mem_singleton.mp forgotten)
    · exact .inl (isConnection_publish _ _ _ effect told)
  generalize session.absorb now lower = turn at outcome member
  cases outcome with
  | nothing reports => exact .inl member
  | advances reports advance reached =>
    exact (List.mem_append.mp member).imp_right fun told =>
      .inr (.inl (isConnection_publish _ _ _ effect told))
  | establishes reports opening reached =>
    exact (List.mem_append.mp member).imp_right fun told =>
      .inr (.inl (isConnection_publish _ _ _ effect told))
  | ends reports engaged reached =>
    exact (List.mem_append.mp member).imp_right fun told => .inr (finished told)
  | recoils reports advance engaged reached =>
    rcases List.mem_append.mp member with early | told
    · exact (List.mem_append.mp early).imp_right fun told =>
        .inr (.inl (isConnection_publish _ _ _ effect told))
    · exact .inr (.inr (finished told))
  | sent reports => exact .inl member
  | fails reports =>
    exact (List.mem_append.mp member).imp_right fun told => .inl (serving_giveUp _ _ effect told)
  | hears reports =>
    exact (List.mem_append.mp member).imp_right fun told => .inl (serving_messageReceived _ _ effect told)
  | mishears reports =>
    exact (List.mem_append.mp member).imp_right fun told => .inl (serving_giveUp _ _ effect told)

theorem quiet_requestGrant (session : Session) (grant : UInt16) : Quiet (session.requestGrant grant).2 := by
  rw [requestGrant]
  split
  · exact quiet_idle session
  · refine Quiet.andThen (Quiet.andThen (quiet_publishGrants _ _ _) ?_) (serving_serve _).quiet
    simp [Quiet, Effect.isConnection]

/-- What a call comes down to: a request for a grant, serving the requests that were accepted, or taking
over what the channel does. -/
inductive Outcome (defaultMtu : Nat) (session : Session) (input : Input) : SessionTurn → Prop
  | asks {grant : UInt16} (asked : input.action = .requestGrant grant) :
      Outcome defaultMtu session input (session.requestGrant grant).2
  | serves {turn : SessionTurn} (serving : Serving turn)
      (other : ∀ grant, input.action ≠ .requestGrant grant) : Outcome defaultMtu session input turn
  /-- The timers may have been looked at before. -/
  | absorbs {checked : Session} (lower : Channel.Input) (settled : Settled defaultMtu checked)
      (unsent : ∀ message, lower ≠ .send message)
      (closes : lower = .close .userRequested ↔ input.action = .disconnect)
      (other : ∀ grant, input.action ≠ .requestGrant grant) :
      Outcome defaultMtu session input (checked.absorb input.now (checked.channel.act lower))

private theorem tick_outcome (settled : Settled defaultMtu session) (now : Nat) :
    Outcome defaultMtu session ⟨now, .tick⟩ (session.tick now) := by
  cases connected : session.state.isConnected with
  | false =>
    simp only [tick, connected]
    exact .serves (serving_idle session) (by simp)
  | true =>
    simp only [tick, connected, if_true]
    split
    · have checked : Settled defaultMtu { session with checkTimer := (session.checkTimer.poll now).2 } :=
        settled.of_connected connected rfl rfl
      exact .absorbs (.close (.protocol .heartbeatTimedOut)) checked (by simp) (by simp) (by simp)
    · split
      · exact .serves (serving_serve _) (by simp)
      · exact .serves (serving_idle _) (by simp)

theorem act_outcome (settled : Settled defaultMtu session) (input : Input) :
    Outcome defaultMtu session input (session.act input) := by
  obtain ⟨now, action⟩ := input
  cases action with
  | connect credentials =>
    simp only [act, connect]
    split
    · exact .absorbs (.connect credentials) settled (by simp) (by simp) (by simp)
    · exact .serves (serving_idle session) (by simp)
  | disconnect => exact .absorbs (.close .userRequested) settled (by simp) (by simp) (by simp)
  | requestGrant grant => exact .asks rfl
  | radioEvent event => exact .absorbs (.radioEvent event) settled (by simp) (by simp) (by simp)
  | confirm result => exact .absorbs (.confirm result) settled (by simp) (by simp) (by simp)
  | receive result => exact .absorbs (.receive result) settled (by simp) (by simp) (by simp)
  | tick => exact tick_outcome settled now

/-- Every move shows on the stream the state that it leads to. -/
theorem Move.shown (move : Move now answer session turn) (settled : Settled defaultMtu session) :
    shown session.state turn.effects = turn.state.state := by
  have lower : ∀ {below : Turn Channel ChannelReport}, session.Lower below →
      Session.shown session.state below.effects = session.state := fun served =>
    shown_of_quiet _ fun effect member =>
      Effect.isConnection_of_isLower (served.effects settled effect member)
  cases move with
  | passes served news => exact lower served
  | hears served news => exact lower served
  | advances served news advance reached => exact (shown_append _ _ _).trans (shown_publish _ _ _ _)
  | establishes served news opening reached => exact (shown_append _ _ _).trans (shown_publish _ _ _ _)
  | ends served news engaged reached =>
    exact (shown_append _ _ _).trans ((shown_append _ _ _).trans (shown_publish _ _ _ _))
  | recoils served news advance engaged reached =>
    exact (shown_append _ _ _).trans ((shown_append _ _ _).trans (shown_publish _ _ _ _))
  | abandons failure waiting => exact shown_of_quiet _ (serving_surrender session failure).quiet
  | sends connected free waiting taken => exact shown_of_quiet _ (serving_dispatch _ _).quiet
  | drops connected free waiting refused => exact shown_of_quiet _ (serving_dispatch _ _).quiet
  | breaks connected free waiting refused =>
    exact shown_of_quiet _ (Serving.andThen (serving_dispatch _ _) (serving_surrender _ _)).quiet
  | _ => rfl

theorem Moves.shown (moves : Moves now answer session turn) (settled : Settled defaultMtu session) :
    shown session.state turn.effects = turn.state.state := by
  induction moves with
  | nil session => rfl
  | cons first rest ih =>
    rw [Turn.andThen, shown_append, first.shown settled]
    exact ih (first.settled settled)

/-- After any inputs the stream of connections shows the state of the session. -/
theorem shown_of_run (handset : Handset) (defaultMtu : Nat) (config : Config) (inputs : List Input) :
    shown .disconnected ((fresh handset defaultMtu config).run inputs).effects =
      ((fresh handset defaultMtu config).run inputs).state.state := by
  induction inputs using List.reverseRecOn with
  | nil => rfl
  | append_singleton inputs input ih =>
    have settled := settled_of_run handset defaultMtu config inputs
    rw [run, Turn.effects_forEach_concat, Turn.state_forEach_concat, shown_append]
    exact ih.symm ▸ (act_moves settled input).shown settled

end Session

end PhoneKey
