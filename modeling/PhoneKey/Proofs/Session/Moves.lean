import PhoneKey.Session
import PhoneKey.Proofs.Channel.News

/-! # Moves of a session

Whatever a session does in a call is a sequence of the moves listed here. Each move leaves session,
channel and link in step, so that an invariant needs to be shown for single moves only. A move may go
back to what the peer answered; which answer that is, if any, is fixed for the whole call.
-/

namespace PhoneKey.Session

/-- A command, a report of the radio, or the passing of time. -/
inductive Action where
  | connect (credentials : Credentials)
  | disconnect
  | requestGrant (grant : UInt16)
  | radioEvent (event : RadioEvent)
  | confirm (result : Except LinkError Unit)
  | receive (result : Except LinkError Bytes)
  | tick

structure Input where
  now : Nat
  action : Action

def act (session : Session) (input : Input) : SessionTurn :=
  match input.action with
  | .connect credentials => session.connect input.now credentials
  | .disconnect => session.disconnect input.now
  | .requestGrant grant => (session.requestGrant grant).2
  | .radioEvent event => session.radioEvent input.now event
  | .confirm result => session.confirm input.now result
  | .receive result => session.receive input.now result
  | .tick => session.tick input.now

/-- What a session does with inputs that come one after the other. -/
def run (session : Session) (inputs : List Input) : SessionTurn := Turn.forEach act session inputs

/-- The calls of a run. -/
def history (session : Session) (inputs : List Input) : List (Call Session Input) :=
  Turn.calls act session inputs

/-- A session that was just built over a handset. -/
def fresh (handset : Handset) (defaultMtu : Nat) (config : Config) : Session :=
  .new (Channel.atRest handset defaultMtu) config

/-- What the channel does with an input that is not a message of the session. -/
def Lower (session : Session) (lower : Turn Channel ChannelReport) : Prop :=
  ∃ input, (∀ message, input ≠ .send message) ∧ session.channel.act input = lower

/-- Takes over what the channel did, without its news. -/
def adopt (session : Session) (lower : Turn Channel ChannelReport) : SessionTurn :=
  ⟨{ session with channel := lower.state }, [], lower.effects⟩

/-- Gives a queued request to the channel, given those behind it. -/
def forward (session : Session) (request : Request) (rest : List Request) : Bool × SessionTurn :=
  dispatch { session with queue := { session.queue with items := rest } } request

/-- Settles the oldest open grant with an answer. -/
def settle (session : Session) (response : GrantResponse) : SessionTurn :=
  let outstanding := match session.outstanding with
    | some (.grant _) => none
    | other => other
  let answered : SessionTurn := ⟨{ session with outstanding }, [],
    [.telemetry (.grantAnswered response.sorcId response.grant response.status)]⟩
  answered.andThen fun next => next.publishGrants next.openGrants.tail (.answered response)

/-- Gives up every grant. -/
def surrender (session : Session) (failure : RequestFailure) : SessionTurn :=
  (publishGrants { session with outstanding := none, queue := session.queue.clear } []
    (.failed failure)).andThen (tell · (.grantFailed · failure))

/-- Publishes what became of a request for a grant. -/
def register (session : Session) (sorcId : Uuid) (grant : UInt16) (accepted : Bool)
    (openGrants : OpenGrants) : SessionTurn :=
  (session.publishGrants openGrants (.requested grant accepted)).andThen
    fun next => ⟨next, [], [.telemetry (.grantRequested sorcId grant accepted)]⟩

/-- The connection is established. -/
def establish (session : Session) (now : Nat) (sorcId : Uuid) : SessionTurn :=
  publish
    { session with
      lastHeard := now
      heartbeatTimer := session.heartbeatTimer.start now
      checkTimer := session.checkTimer.start now }
    (.connected sorcId) (.established sorcId)

/-- Forgets the connection for a reason. -/
def finish (session : Session) (reason : SessionReason) : SessionTurn :=
  session.reset.andThen (publish · .disconnected reason)

theorem grantAnswered_eq (session : Session) (response : GrantResponse) :
    session.grantAnswered response = (session.settle response).andThen serve := rfl

theorem abandonGrant_eq (session : Session) (failure : RequestFailure) :
    session.abandonGrant failure = (session.surrender failure).andThen probe := rfl

inductive Move (now : Nat) (answer : Option GrantResponse) : Session → SessionTurn → Prop
  /-- The channel went on by itself, or failed to send or to read something. -/
  | passes {session : Session} {lower : Turn Channel ChannelReport} (served : session.Lower lower)
      (news : lower.reports = [] ∨ (∃ result, lower.reports = [.messageSent result]) ∨
        ∃ cause, lower.reports = [.messageReceived (.error cause)]) :
      Move now answer session (session.adopt lower)
  | hears {session : Session} {lower : Turn Channel ChannelReport} {message : Message}
      (served : session.Lower lower) (news : lower.reports = [.messageReceived (.ok message)]) :
      Move now answer session (adopt { session with lastHeard := now } lower)
  | advances {session : Session} {lower : Turn Channel ChannelReport} {state : SessionState}
      {reason : SessionReason} (served : session.Lower lower)
      (news : lower.reports = [.connectionChanged ⟨state, reason⟩])
      (advance : Channel.Advance session.state state reason) (reached : lower.state.state = state) :
      Move now answer session ((session.adopt lower).andThen (publish · state reason))
  | establishes {session : Session} {lower : Turn Channel ChannelReport} {sorcId : Uuid}
      (served : session.Lower lower)
      (news : lower.reports = [.connectionChanged ⟨.connected sorcId, .established sorcId⟩])
      (opening : session.state = .connecting sorcId .challenging)
      (reached : lower.state.state = .connected sorcId) :
      Move now answer session ((session.adopt lower).andThen (establish · now sorcId))
  | ends {session : Session} {lower : Turn Channel ChannelReport} {sorcId : Uuid} {cause : EndCause}
      (served : session.Lower lower)
      (news : lower.reports = [.connectionChanged ⟨.disconnected, cause.reason sorcId⟩])
      (engaged : session.state.sorcId? = some sorcId) (reached : lower.state.state = .disconnected) :
      Move now answer session ((session.adopt lower).andThen (finish · (cause.reason sorcId)))
  | recoils {session : Session} {lower : Turn Channel ChannelReport} {state : SessionState}
      {reason : SessionReason} {sorcId : Uuid} {failure : ConnectFailure}
      (served : session.Lower lower)
      (news : lower.reports = [.connectionChanged ⟨state, reason⟩,
        .connectionChanged ⟨.disconnected, .connectingFailed sorcId failure⟩])
      (advance : Channel.Advance session.state state reason)
      (engaged : session.state.sorcId? = some sorcId) (reached : lower.state.state = .disconnected) :
      Move now answer session (((session.adopt lower).andThen (publish · state reason)).andThen
        (finish · (.connectingFailed sorcId failure)))
  /-- A heartbeat was answered, or it failed. -/
  | releases {session : Session} (waiting : session.outstanding = some .heartbeat) :
      Move now answer session (.idle { session with outstanding := none })
  | answers {session : Session} {response : GrantResponse} (brought : answer = some response)
      (connected : session.state = .connected response.sorcId) :
      Move now answer session (session.settle response)
  | abandons {session : Session} {grant : UInt16} (failure : RequestFailure)
      (waiting : session.outstanding = some (.grant grant)) :
      Move now answer session (session.surrender failure)
  | queues {session : Session} {queue : Backlog Request} (connected : session.state.isConnected = true)
      (spare : session.outstanding ≠ some .heartbeat) (single : .heartbeat ∉ session.queue.items)
      (room : session.queue.enqueue .heartbeat = .ok queue) :
      Move now answer session (.idle { session with queue })
  | sends {session : Session} {request : Request} {rest : List Request}
      (connected : session.state.isConnected = true) (free : session.outstanding = none)
      (waiting : session.queue.items = request :: rest) (taken : (session.forward request rest).1 = true) :
      Move now answer session (session.forward request rest).2
  | drops {session : Session} {rest : List Request} (connected : session.state.isConnected = true)
      (free : session.outstanding = none) (waiting : session.queue.items = .heartbeat :: rest)
      (refused : (session.forward .heartbeat rest).1 = false) :
      Move now answer session (session.forward .heartbeat rest).2
  /-- A queued grant that the channel refuses takes the others with it. -/
  | breaks {session : Session} {grant : UInt16} {rest : List Request}
      (connected : session.state.isConnected = true) (free : session.outstanding = none)
      (waiting : session.queue.items = .grant grant :: rest)
      (refused : (session.forward (.grant grant) rest).1 = false) :
      Move now answer session
        ((session.forward (.grant grant) rest).2.andThen (surrender · .sendingFailed))
  | accepts {session : Session} {grant : UInt16} {sorcId : Uuid} {queue : Backlog Request}
      (connected : session.state = .connected sorcId)
      (room : session.queue.enqueue (.grant grant) = .ok queue) :
      Move now answer session
        (register { session with queue } sorcId grant true (session.openGrants ++ [grant]))
  | declines {session : Session} {grant : UInt16} {sorcId : Uuid} {cause : BacklogError}
      (connected : session.state = .connected sorcId)
      (full : session.queue.enqueue (.grant grant) = .error cause) :
      Move now answer session (session.register sorcId grant false session.openGrants)
  | checks {session : Session} (connected : session.state.isConnected = true) :
      Move now answer session (.idle { session with checkTimer := (session.checkTimer.poll now).2 })
  | beats {session : Session} (connected : session.state.isConnected = true) :
      Move now answer session (.idle { session with heartbeatTimer := (session.heartbeatTimer.poll now).2 })

/-- One move after the other. -/
inductive Moves (now : Nat) (answer : Option GrantResponse) : Session → SessionTurn → Prop
  | nil (session : Session) : Moves now answer session (.idle session)
  | cons {session : Session} {turn next : SessionTurn} (first : Move now answer session turn)
      (rest : Moves now answer turn.state next) : Moves now answer session (turn.andThen fun _ => next)

/-- What holds of a session while it is not connected. -/
structure Vacant (session : Session) : Prop where
  outstanding : session.outstanding = none
  queue : session.queue.items = []
  openGrants : session.openGrants = []
  heartbeatTimer : session.heartbeatTimer.deadline? = none
  checkTimer : session.checkTimer.deadline? = none

/-- Session and channel are in step. -/
structure Settled (defaultMtu : Nat) (session : Session) : Prop where
  lawful : Channel.Lawful defaultMtu session.channel
  agrees : session.state = session.channel.state
  vacant : session.state.isConnected = false → session.Vacant

section

variable {defaultMtu now : Nat} {answer : Option GrantResponse} {session : Session} {turn : SessionTurn}

theorem settled_fresh (handset : Handset) (defaultMtu : Nat) (config : Config) :
    Settled defaultMtu (fresh handset defaultMtu config) where
  lawful := .atRest handset
  agrees := rfl
  vacant _ := ⟨rfl, rfl, rfl, rfl, rfl⟩

theorem Settled.lower (settled : Settled defaultMtu session) {lower : Turn Channel ChannelReport}
    (served : session.Lower lower) :
    Channel.Lawful defaultMtu lower.state ∧
      Channel.News session.state lower.state.state lower.reports := by
  obtain ⟨input, other, rfl⟩ := served
  refine ⟨Channel.lawful_of_transition settled.lawful (Channel.act_transition settled.lawful input), ?_⟩
  rw [settled.agrees]
  exact settled.lawful.news fun message same => absurd same (other message)

/-- News that are not about the connection leave its state alone. -/
theorem state_of_quiet {before after : SessionState} {reports : List ChannelReport}
    (news : Channel.News before after reports)
    (quiet : ∀ change, .connectionChanged change ∉ reports) : after = before := by
  cases news with
  | nothing state => rfl
  | sent sorcId result => rfl
  | received sorcId result => rfl
  | advances advance => exact absurd List.mem_cons_self (quiet _)
  | establishes sorcId => exact absurd List.mem_cons_self (quiet _)
  | ends engaged cause => exact absurd List.mem_cons_self (quiet _)
  | recoils advance engaged failure => exact absurd List.mem_cons_self (quiet _)

/-- A message of a connected session takes the channel from one lawful state to another. -/
theorem Settled.forward (settled : Settled defaultMtu session)
    (connected : session.state.isConnected = true) (request : Request) (rest : List Request) :
    Settled defaultMtu (session.forward request rest).2.state := by
  have linked : session.channel.state.isConnected = true := settled.agrees ▸ connected
  have sent := Channel.act_send_of_connected linked request.message
  have next := Channel.lawful_of_transition settled.lawful
    (Channel.act_transition settled.lawful (.send request.message))
  rw [sent] at next
  refine ⟨next, settled.agrees, ?_⟩
  intro closed
  cases connected.symm.trans closed

theorem connected_of_waiting (settled : Settled defaultMtu session)
    (waiting : session.outstanding ≠ none) : session.state.isConnected = true := by
  cases connected : session.state.isConnected with
  | true => rfl
  | false => exact absurd (settled.vacant connected).outstanding waiting

/-- A change of the requests and timers of a connected session leaves it in step. -/
theorem Settled.of_connected (settled : Settled defaultMtu session)
    (connected : session.state.isConnected = true) {next : Session}
    (channel : next.channel = session.channel) (state : next.state = session.state) :
    Settled defaultMtu next where
  lawful := channel ▸ settled.lawful
  agrees := by rw [state, channel, settled.agrees]
  vacant closed := by rw [state, connected] at closed; cases closed

/-- Every move keeps session and channel in step. -/
theorem Move.settled (move : Move now answer session turn) (settled : Settled defaultMtu session) :
    Settled defaultMtu turn.state := by
  cases move with
  | @passes lower served news =>
    obtain ⟨lawful, told⟩ := settled.lower served
    have same : lower.state.state = session.state := by
      apply state_of_quiet told
      intro change listed
      rcases news with none | ⟨result, sent⟩ | ⟨cause, received⟩ <;> simp_all
    exact ⟨lawful, same.symm, fun closed => { settled.vacant closed with }⟩
  | @hears lower message served news =>
    obtain ⟨lawful, told⟩ := settled.lower served
    have same : lower.state.state = session.state :=
      state_of_quiet told fun change listed => by simp [news] at listed
    exact ⟨lawful, same.symm, fun closed => { settled.vacant closed with }⟩
  | advances served news advance reached =>
    exact ⟨(settled.lower served).1, reached.symm, fun _ => { settled.vacant advance.closed with }⟩
  | establishes served news opening reached =>
    exact ⟨(settled.lower served).1, reached.symm, nofun⟩
  | ends served news engaged reached =>
    exact ⟨(settled.lower served).1, reached.symm, fun _ => ⟨rfl, rfl, rfl, rfl, rfl⟩⟩
  | recoils served news advance engaged reached =>
    exact ⟨(settled.lower served).1, reached.symm, fun _ => ⟨rfl, rfl, rfl, rfl, rfl⟩⟩
  | releases waiting =>
    exact settled.of_connected (connected_of_waiting settled (by simp [waiting])) rfl rfl
  | answers brought connected => exact settled.of_connected (by rw [connected]; rfl) rfl rfl
  | abandons failure waiting =>
    exact settled.of_connected (connected_of_waiting settled (by simp [waiting])) rfl rfl
  | queues connected spare single room => exact settled.of_connected connected rfl rfl
  | sends connected free waiting taken => exact settled.forward connected _ _
  | drops connected free waiting refused => exact settled.forward connected _ _
  | breaks connected free waiting refused =>
    exact (settled.forward connected _ _).of_connected connected rfl rfl
  | accepts connected room => exact settled.of_connected (by rw [connected]; rfl) rfl rfl
  | declines connected full => exact settled.of_connected (by rw [connected]; rfl) rfl rfl
  | checks connected => exact settled.of_connected connected rfl rfl
  | beats connected => exact settled.of_connected connected rfl rfl

theorem Moves.settled (moves : Moves now answer session turn) (settled : Settled defaultMtu session) :
    Settled defaultMtu turn.state := by
  induction moves with
  | nil session => exact settled
  | cons first rest ih => exact ih (first.settled settled)

end

end PhoneKey.Session
