import PhoneKey.Proofs.Session.Moves

/-! # Every call is a sequence of moves

The functions of a session are taken apart here once. A grant that the peer answers is settled in the
only call whose message is a readable answer; that message is worked out from the session as the call
found it.
-/

namespace PhoneKey.Session

variable {defaultMtu now : Nat} {answer : Option GrantResponse} {session : Session} {turn : SessionTurn}

namespace Moves

theorem single (move : Move now answer session turn) : Moves now answer session turn := by
  have whole : turn = turn.andThen fun _ => .idle turn.state := (Turn.andThen_idle turn).symm
  rw [whole]
  exact .cons move (.nil _)

theorem andThen (next : Session → SessionTurn) (moves : Moves now answer session turn)
    (following : Moves now answer turn.state (next turn.state)) :
    Moves now answer session (turn.andThen next) := by
  have only : turn.andThen next = turn.andThen fun _ => next turn.state := rfl
  rw [only]
  generalize next turn.state = last at following ⊢
  induction moves with
  | nil session => simpa [Turn.andThen, Turn.idle] using following
  | cons first rest ih =>
    rw [Turn.andThen_assoc]
    exact .cons first (ih rfl following)

end Moves

/-- The answer to a grant that reports of the channel carry. -/
def answerIn? (session : Session) : List ChannelReport → Option GrantResponse
  | [.messageReceived (.ok message)] =>
    if message.id = .serviceGrantTrigger then
      session.state.peer?.bind fun sorcId => Grant.response? sorcId message.payload
    else none
  | _ => none

/-- The answer to a grant that a call brings, as far as it can be read. -/
def answer? (session : Session) (input : Input) : Option GrantResponse :=
  match input.action with
  | .receive result => session.answerIn? (session.channel.receive result).reports
  | _ => none

/-- A request that the channel refuses leaves nothing outstanding. -/
theorem forward_refused {request : Request} {rest : List Request}
    (refused : (session.forward request rest).1 = false) :
    (session.forward request rest).2.state.outstanding = none := by
  simp only [forward, dispatch] at refused ⊢
  simp [refused]

/-- A request that has passed through an empty queue leaves it empty. -/
theorem forward_queued (empty : session.queue.items = []) {queue : Backlog Request}
    (same : queue.capacity = session.queue.capacity) (request : Request) :
    forward { session with queue } request [] = session.dispatch request := by
  have restored : { queue with items := [] } = session.queue := by
    rw [← empty]
    cases queue
    cases same
    rfl
  simp only [forward, restored]

/-- A sign of life is asked for once nothing is outstanding or queued. -/
theorem probe_moves (connected : session.state.isConnected = true) (free : session.outstanding = none)
    (empty : session.queue.items = []) : Moves now answer session session.probe := by
  rw [probe]
  cases room : session.queue.enqueue .heartbeat with
  | error cause => exact .nil session
  | ok queue =>
    have queues : Move now answer session (.idle { session with queue }) :=
      .queues connected (by simp [free]) (by simp [empty]) room
    obtain ⟨_, rfl⟩ := Backlog.enqueue_eq_ok_iff.mp room
    have passed := @forward_queued session empty
      { session.queue with items := session.queue.items ++ [.heartbeat] } rfl .heartbeat
    refine (Moves.single queues).andThen (fun _ => (session.dispatch .heartbeat).2) ?_
    rw [← passed]
    apply Moves.single
    cases outcome : (session.dispatch .heartbeat).1 with
    | true => exact .sends connected free (by simp [Turn.idle, empty]) (passed ▸ outcome)
    | false => exact .drops connected free (by simp [Turn.idle, empty]) (passed ▸ outcome)

private theorem abandonGrant_moves {failure : RequestFailure} (connected : session.state.isConnected = true)
    (surrenders : Moves now answer session (session.surrender failure)) :
    Moves now answer session (session.abandonGrant failure) := by
  rw [abandonGrant_eq]
  exact surrenders.andThen probe (probe_moves connected rfl rfl)

/-- The first of the queued requests is sent, or the rest follows from what its refusal leaves. -/
theorem drain_cons (request : Request) (rest : List Request) :
    session.drain (request :: rest) =
      if (session.forward request rest).1 then (session.forward request rest).2
      else
        match request with
        | .heartbeat => (session.forward request rest).2.andThen (drain · rest)
        | .grant _ => (session.forward request rest).2.andThen (abandonGrant · .sendingFailed) := rfl

/-- A connected session that waits for nothing drains its queue. -/
theorem serve_of_ready (connected : session.state.isConnected = true) (free : session.outstanding = none) :
    session.serve = session.drain session.queue.items := by
  simp only [serve, free, connected, Option.isNone_none, Bool.and_self, if_true]

theorem serve_of_waiting {request : Request} (waiting : session.outstanding = some request) :
    session.serve = .idle session := by
  simp [serve, waiting]

theorem serve_of_empty (empty : session.queue.items = []) : session.serve = .idle session := by
  simp only [serve, empty, drain, ite_self]

/-- A heartbeat finds room in an empty queue. -/
theorem queueHeartbeat_of_empty (free : session.outstanding = none) (empty : session.queue.items = [])
    (spacious : 0 < session.queue.capacity) :
    session.queueHeartbeat = { session with queue := { session.queue with items := [.heartbeat] } } := by
  simp [queueHeartbeat, free, empty, Backlog.enqueue, Nat.not_le.mpr spacious]

private theorem drain_moves (connected : session.state.isConnected = true) (free : session.outstanding = none)
    {requests : List Request} (waiting : session.queue.items = requests) :
    Moves now answer session (session.drain requests) := by
  induction requests generalizing session with
  | nil => exact .nil session
  | cons request rest ih =>
    rw [drain_cons]
    cases outcome : (session.forward request rest).1 with
    | true =>
      rw [if_pos rfl]
      exact .single (.sends connected free waiting outcome)
    | false =>
      rw [if_neg Bool.false_ne_true]
      cases request with
      | heartbeat =>
        exact (Moves.single (.drops connected free waiting outcome)).andThen (drain · rest)
          (ih connected (forward_refused outcome) rfl)
      | grant number =>
        have breaks : Moves now answer session _ := .single (.breaks connected free waiting outcome)
        have whole := breaks.andThen probe (probe_moves connected rfl rfl)
        rw [Turn.andThen_assoc] at whole
        exact whole

theorem serve_moves : Moves now answer session session.serve := by
  rw [serve]
  split
  · next ready =>
    obtain ⟨free, connected⟩ := (Bool.and_eq_true _ _).mp ready
    exact drain_moves connected (by simpa using free) rfl
  · exact .nil session

theorem giveUp_moves (settled : Settled defaultMtu session) (failure : RequestFailure) :
    Moves now answer session (session.giveUp failure) := by
  rw [giveUp]
  split
  · exact .nil session
  · next waiting => exact (Moves.single (.releases waiting)).andThen serve serve_moves
  · next grant waiting =>
    have connected := connected_of_waiting settled (by simp [waiting])
    exact abandonGrant_moves connected (.single (.abandons failure waiting))

private theorem messageReceived_moves (settled : Settled defaultMtu session) (message : Message)
    (brought : session.answerIn? [.messageReceived (.ok message)] = answer) :
    Moves now answer session (session.messageReceived message) := by
  rw [messageReceived]
  split
  · next kind =>
    by_cases waiting : session.outstanding = some .heartbeat
    · simp only [waiting, if_true]
      exact (Moves.single (.releases waiting)).andThen serve serve_moves
    · simp only [waiting, if_false]
      exact serve_moves
  · next kind =>
    cases state : session.state with
    | disconnected => exact .nil session
    | connecting sorcId stage => exact .nil session
    | connected sorcId =>
      simp only [answerIn?, kind, if_true, state, ConnectionState.peer?, Option.bind_some] at brought ⊢
      cases read : Grant.response? sorcId message.payload with
      | none => exact giveUp_moves settled _
      | some response =>
        rw [read] at brought
        simp only [grantAnswered_eq]
        have connected : session.state = .connected response.sorcId := by
          rw [state, Grant.sorcId_of_response? read]
        exact (Moves.single (.answers brought.symm connected)).andThen serve serve_moves
  · exact .nil session

private theorem channelChanged_advance (now : Nat) {before after : SessionState} {reason : SessionReason}
    (advance : Channel.Advance before after reason) :
    session.channelChanged now ⟨after, reason⟩ = session.publish after reason := by
  cases advance <;> rfl

theorem channelChanged_end (now : Nat) {sorcId : Uuid} (engaged : session.state.sorcId? = some sorcId)
    (reason : SessionReason) :
    session.channelChanged now ⟨.disconnected, reason⟩ = session.finish reason := by
  have alive : session.state.isDisconnected = false := by
    cases state : session.state <;> simp_all [ConnectionState.sorcId?, ConnectionState.isDisconnected]
  simp only [channelChanged, alive, Bool.false_eq_true, if_false, finish]

/-- What a session makes of the news of its channel. -/
inductive Absorbed (now : Nat) (session : Session) (lower : Turn Channel ChannelReport) :
    SessionTurn → Prop
  | nothing (reports : lower.reports = []) : Absorbed now session lower (session.adopt lower)
  | advances {state : SessionState} {reason : SessionReason}
      (reports : lower.reports = [.connectionChanged ⟨state, reason⟩])
      (advance : Channel.Advance session.state state reason) (reached : lower.state.state = state) :
      Absorbed now session lower ((session.adopt lower).andThen (publish · state reason))
  | establishes {sorcId : Uuid}
      (reports : lower.reports = [.connectionChanged ⟨.connected sorcId, .established sorcId⟩])
      (opening : session.state = .connecting sorcId .challenging)
      (reached : lower.state.state = .connected sorcId) :
      Absorbed now session lower ((session.adopt lower).andThen (establish · now sorcId))
  | ends {sorcId : Uuid} {cause : EndCause}
      (reports : lower.reports = [.connectionChanged ⟨.disconnected, cause.reason sorcId⟩])
      (engaged : session.state.sorcId? = some sorcId) (reached : lower.state.state = .disconnected) :
      Absorbed now session lower ((session.adopt lower).andThen (finish · (cause.reason sorcId)))
  | recoils {state : SessionState} {reason : SessionReason} {sorcId : Uuid} {failure : ConnectFailure}
      (reports : lower.reports = [.connectionChanged ⟨state, reason⟩,
        .connectionChanged ⟨.disconnected, .connectingFailed sorcId failure⟩])
      (advance : Channel.Advance session.state state reason)
      (engaged : session.state.sorcId? = some sorcId) (reached : lower.state.state = .disconnected) :
      Absorbed now session lower (((session.adopt lower).andThen (publish · state reason)).andThen
        (finish · (.connectingFailed sorcId failure)))
  | sent {message : Message} (reports : lower.reports = [.messageSent (.ok message)]) :
      Absorbed now session lower (session.adopt lower)
  | fails {cause : ChannelError} (reports : lower.reports = [.messageSent (.error cause)]) :
      Absorbed now session lower ((session.adopt lower).andThen (giveUp · .sendingFailed))
  | hears {message : Message} (reports : lower.reports = [.messageReceived (.ok message)]) :
      Absorbed now session lower
        ((adopt { session with lastHeard := now } lower).andThen (messageReceived · message))
  | mishears {cause : ChannelError} (reports : lower.reports = [.messageReceived (.error cause)]) :
      Absorbed now session lower ((session.adopt lower).andThen (giveUp · .receivedInvalidData))

theorem absorbed (settled : Settled defaultMtu session) {lower : Turn Channel ChannelReport}
    (served : session.Lower lower) : Absorbed now session lower (session.absorb now lower) := by
  have whole : session.absorb now lower = (session.adopt lower).andThen fun next =>
    Turn.forEach (channelReported now) next lower.reports := rfl
  obtain ⟨_, news⟩ := settled.lower served
  rw [whole]
  generalize reports : lower.reports = told at news ⊢
  generalize reached : lower.state.state = after at news
  generalize before : session.state = state at news
  cases news with
  | nothing state => exact (congrArg _ (Turn.andThen_idle _)).mpr (.nothing reports)
  | advances advance =>
    refine (congrArg _ ?_).mpr (.advances reports (before ▸ advance) reached)
    apply Turn.andThen_congr
    rw [Turn.forEach_singleton]
    exact channelChanged_advance now advance
  | establishes sorcId =>
    simp only [Turn.forEach_singleton]
    exact .establishes reports before reached
  | ends engaged cause =>
    subst before
    refine (congrArg _ ?_).mpr (.ends reports engaged reached)
    apply Turn.andThen_congr
    rw [Turn.forEach_singleton]
    exact @channelChanged_end (session.adopt lower).state now _ engaged _
  | recoils advance engaged failure =>
    subst before
    refine (congrArg _ ?_).mpr (.recoils reports advance engaged reached)
    rw [Turn.andThen_assoc]
    apply Turn.andThen_congr
    rw [Turn.forEach_cons]
    refine (congrArg (Turn.andThen · _) (channelChanged_advance now advance)).trans ?_
    apply Turn.andThen_congr
    rw [Turn.forEach_singleton]
    exact channelChanged_end now (advance.engaged engaged) _
  | sent sorcId result =>
    simp only [Turn.forEach_singleton]
    cases result with
    | ok message => exact (congrArg _ (Turn.andThen_idle _)).mpr (.sent reports)
    | error cause => exact .fails reports
  | received sorcId result =>
    simp only [Turn.forEach_singleton]
    cases result with
    | ok message => exact .hears reports
    | error cause => exact .mishears reports

theorem absorb_moves (settled : Settled defaultMtu session) {lower : Turn Channel ChannelReport}
    (served : session.Lower lower) (brought : session.answerIn? lower.reports = answer) :
    Moves now answer session (session.absorb now lower) := by
  have outcome : Absorbed now session lower (session.absorb now lower) := absorbed settled served
  generalize session.absorb now lower = turn at outcome ⊢
  cases outcome with
  | nothing reports => exact .single (.passes served (.inl reports))
  | advances reports advance reached => exact .single (.advances served reports advance reached)
  | establishes reports opening reached => exact .single (.establishes served reports opening reached)
  | ends reports engaged reached => exact .single (.ends served reports engaged reached)
  | recoils reports advance engaged reached =>
    exact .single (.recoils served reports advance engaged reached)
  | sent reports => exact .single (.passes served (.inr (.inl ⟨_, reports⟩)))
  | fails reports =>
    have passes : Move now answer session (session.adopt lower) := .passes served (.inr (.inl ⟨_, reports⟩))
    exact (Moves.single passes).andThen (giveUp · .sendingFailed) (giveUp_moves (passes.settled settled) _)
  | @hears message reports =>
    have hears : Move now answer session (adopt { session with lastHeard := now } lower) :=
      .hears served reports
    rw [reports] at brought
    exact (Moves.single hears).andThen (messageReceived · message)
      (messageReceived_moves (hears.settled settled) message brought)
  | mishears reports =>
    have passes : Move now answer session (session.adopt lower) := .passes served (.inr (.inr ⟨_, reports⟩))
    exact (Moves.single passes).andThen (giveUp · .receivedInvalidData)
      (giveUp_moves (passes.settled settled) _)

/-- Without an answer, as a call that is not about what the radio received has none. -/
theorem absorb_moves_of_other (settled : Settled defaultMtu session) (input : Channel.Input)
    (unsent : ∀ message, input ≠ .send message) (unheard : ∀ result, input ≠ .receive result) :
    Moves now none session (session.absorb now (session.channel.act input)) := by
  refine absorb_moves settled ⟨input, unsent, rfl⟩ ?_
  unfold answerIn?
  split
  · next message told =>
    obtain ⟨raw, same⟩ := (Channel.act_transition settled.lawful input).receives told
    exact absurd same (unheard raw)
  · rfl

/-- A request for a grant is queued if there is room for it, and published in either case. -/
theorem requestGrant_of_connected {sorcId : Uuid} (connected : session.state = .connected sorcId)
    (grant : UInt16) :
    session.requestGrant grant =
      match session.queue.enqueue (.grant grant) with
      | .ok queue => (true,
          (register { session with queue } sorcId grant true (session.openGrants ++ [grant])).andThen serve)
      | .error _ => (false, (session.register sorcId grant false session.openGrants).andThen serve) := by
  have peer : session.state.peer? = some sorcId := by rw [connected]; rfl
  simp only [requestGrant, peer]
  cases session.queue.enqueue (.grant grant) <;> rfl

theorem requestGrant_of_closed (closed : session.state.isConnected = false) (grant : UInt16) :
    session.requestGrant grant = (false, .idle session) := by
  have alone : session.state.peer? = none := by
    cases state : session.state with
    | disconnected => rfl
    | connecting sorcId stage => rfl
    | connected sorcId => rw [state] at closed; cases closed
  simp only [requestGrant, alone]

theorem requestGrant_moves (grant : UInt16) : Moves now answer session (session.requestGrant grant).2 := by
  cases state : session.state with
  | disconnected =>
    rw [requestGrant_of_closed (by rw [state]; rfl)]
    exact .nil session
  | connecting sorcId stage =>
    rw [requestGrant_of_closed (by rw [state]; rfl)]
    exact .nil session
  | connected sorcId =>
    rw [requestGrant_of_connected state]
    cases room : session.queue.enqueue (.grant grant) with
    | ok queue => exact (Moves.single (.accepts state room)).andThen serve serve_moves
    | error cause => exact (Moves.single (.declines state room)).andThen serve serve_moves

theorem queueHeartbeat_moves (connected : session.state.isConnected = true) :
    Moves now answer session (.idle session.queueHeartbeat) := by
  rw [queueHeartbeat]
  split
  · exact .nil session
  · next spare =>
    obtain ⟨elsewhere, single⟩ := not_or.mp spare
    cases room : session.queue.enqueue .heartbeat with
    | ok queue => exact .single (.queues connected elsewhere single room)
    | error cause => exact .nil session

/-- A heartbeat that is due is queued and sent if nothing is outstanding. -/
theorem heartbeat_moves (connected : session.state.isConnected = true) :
    Moves now answer session session.queueHeartbeat.serve :=
  (queueHeartbeat_moves connected).andThen serve serve_moves

private theorem tick_moves (settled : Settled defaultMtu session) :
    Moves now none session (session.tick now) := by
  cases connected : session.state.isConnected with
  | false =>
    simp only [tick, connected]
    exact .nil session
  | true =>
    have checks : Move now none session
      (.idle { session with checkTimer := (session.checkTimer.poll now).2 }) := .checks connected
    have beats : Move now none { session with checkTimer := (session.checkTimer.poll now).2 } _ :=
      .beats connected
    have polls := (Moves.single checks).andThen
      (fun next => .idle { next with heartbeatTimer := (next.heartbeatTimer.poll now).2 }) (.single beats)
    simp only [tick, connected, if_true]
    split
    · refine (Moves.single checks).andThen (close · now (.protocol .heartbeatTimedOut)) ?_
      exact absorb_moves_of_other (checks.settled settled) (.close _) (by simp) (by simp)
    · split
      · exact polls.andThen (fun next => next.queueHeartbeat.serve) (heartbeat_moves connected)
      · exact polls

/-- Every call of a session is a sequence of moves. -/
theorem act_moves (settled : Settled defaultMtu session) (input : Input) :
    Moves input.now (session.answer? input) session (session.act input) := by
  obtain ⟨now, action⟩ := input
  cases action with
  | connect credentials =>
    simp only [act, answer?, connect]
    split
    · exact absorb_moves_of_other settled (.connect credentials) (by simp) (by simp)
    · exact .nil session
  | disconnect => exact absorb_moves_of_other settled (.close .userRequested) (by simp) (by simp)
  | requestGrant grant => exact requestGrant_moves grant
  | radioEvent event => exact absorb_moves_of_other settled (.radioEvent event) (by simp) (by simp)
  | confirm result => exact absorb_moves_of_other settled (.confirm result) (by simp) (by simp)
  | receive result => exact absorb_moves settled ⟨.receive result, by simp, rfl⟩ rfl
  | tick => exact tick_moves settled

theorem Settled.act (settled : Settled defaultMtu session) (input : Input) :
    Settled defaultMtu (session.act input).state :=
  (act_moves settled input).settled settled

/-- What holds of a fresh session and is kept by every call of a settled one holds of every run. -/
theorem settled_run_induction {handset : Handset} {config : Config}
    {motive : List (Call Session Input) → Session → Prop}
    (base : motive [] (fresh handset defaultMtu config))
    (advance : ∀ calls session input, Settled defaultMtu session → motive calls session →
      motive (calls ++ [⟨session, input⟩]) (session.act input).state)
    (inputs : List Input) :
    motive ((fresh handset defaultMtu config).history inputs)
      ((fresh handset defaultMtu config).run inputs).state := by
  have both : Settled defaultMtu ((fresh handset defaultMtu config).run inputs).state ∧
      motive ((fresh handset defaultMtu config).history inputs)
        ((fresh handset defaultMtu config).run inputs).state := by
    apply Turn.run_induction Session.act
      (motive := fun calls session => Settled defaultMtu session ∧ motive calls session)
    · exact ⟨settled_fresh handset defaultMtu config, base⟩
    · rintro calls session input ⟨settled, kept⟩
      exact ⟨settled.act input, advance _ _ input settled kept⟩
  exact both.2

/-- After any inputs session and channel are in step. -/
theorem settled_of_run (handset : Handset) (defaultMtu : Nat) (config : Config) (inputs : List Input) :
    Settled defaultMtu ((fresh handset defaultMtu config).run inputs).state := by
  apply settled_run_induction (motive := fun _ session => Settled defaultMtu session)
  · exact settled_fresh handset defaultMtu config
  · intro calls session input settled _
    exact settled.act input

/-- Every call of a run finds a session that earlier inputs led to. -/
theorem before_of_mem_history {handset : Handset} {config : Config} {inputs : List Input}
    {call : Call Session Input} (made : call ∈ (fresh handset defaultMtu config).history inputs) :
    ∃ earlier, call.before = ((fresh handset defaultMtu config).run earlier).state := by
  obtain ⟨earlier, _, _, found⟩ := Turn.before_of_mem_calls Session.act made
  exact ⟨earlier, found⟩

theorem settled_of_mem_history {handset : Handset} {config : Config} {inputs : List Input}
    {call : Call Session Input} (made : call ∈ (fresh handset defaultMtu config).history inputs) :
    Settled defaultMtu call.before := by
  obtain ⟨earlier, found⟩ := before_of_mem_history made
  rw [found]
  exact settled_of_run handset defaultMtu config earlier

end PhoneKey.Session
