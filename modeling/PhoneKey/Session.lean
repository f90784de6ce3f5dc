import PhoneKey.Backlog
import PhoneKey.Channel
import PhoneKey.Config
import PhoneKey.Session.Request
import PhoneKey.Timer

/-! # The session

A session keeps one request on its way at a time and queues the others. The peer's answer makes room
for the next one. A grant that fails takes the queue with it and a heartbeat asks whether the peer is
still there; when nothing was heard for too long the session ends.
-/

namespace PhoneKey

structure Session where
  channel : Channel
  state : SessionState
  /-- Grants that were accepted and not answered yet, oldest first. -/
  openGrants : OpenGrants
  queue : Backlog Request
  /-- The request whose answer the session waits for. -/
  outstanding : Option Request
  heartbeatTimer : Timer
  checkTimer : Timer
  heartbeatTimeout : Nat
  /-- When the session came up or the latest readable message arrived. -/
  lastHeard : Nat

/-- A session reports to nobody: what happens shows on the streams and in telemetry. -/
abbrev SessionTurn := Turn Session Empty

namespace Session

def new (channel : Channel) (config : Config) : Session where
  channel
  state := .disconnected
  openGrants := []
  queue := .new config.maxEnqueuedMessages.toNat
  outstanding := none
  heartbeatTimer := .new config.heartbeatInterval.toNat
  checkTimer := .new config.heartbeatTimeout.toNat
  heartbeatTimeout := config.heartbeatTimeout.toNat
  lastHeard := 0

/-- What telemetry is told about a connection that ended by itself. -/
def endTelemetry (before : SessionState) : SessionReason → List Effect
  | .connectingFailed sorcId failure => [.telemetry (.connectingFailed sorcId failure)]
  | .connectionLost loss => (before.sorcId?.map fun sorcId =>
      Effect.telemetry (.connectionLost sorcId loss)).toList
  | _ => []

def publish (session : Session) (state : SessionState) (reason : SessionReason) : SessionTurn :=
  ⟨{ session with state }, [], .telemetry (.connectionChanged session.state state) ::
    endTelemetry session.state reason ++ [.announce (.connection ⟨state, reason⟩)]⟩

def publishGrants (session : Session) (openGrants : OpenGrants) (reason : GrantReason) : SessionTurn :=
  ⟨{ session with openGrants }, [], [.announce (.grants ⟨openGrants, reason⟩)]⟩

/-- Tells telemetry about something that concerns the peer of the connection. -/
def tell (session : Session) (event : Uuid → TelemetryEvent) : SessionTurn :=
  ⟨session, [], (session.state.sorcId?.map fun sorcId => Effect.telemetry (event sorcId)).toList⟩

/-- Gives a request to the channel and tells whether it was taken. -/
def dispatch (session : Session) (request : Request) : Bool × SessionTurn :=
  let offered := session.channel.offer request.message
  let outstanding := if offered.refusal.isNone then some request else none
  (offered.refusal.isNone,
    ⟨{ session with channel := offered.channel, outstanding }, [],
      .attempt request session.state session.outstanding :: offered.effects⟩)

/-- Asks for a sign of life, given that nothing is outstanding and nothing is queued. -/
def probe (session : Session) : SessionTurn :=
  match session.queue.enqueue .heartbeat with
  | .ok _ => (session.dispatch .heartbeat).2
  | .error _ => .idle session

/-- Gives up the outstanding grant and every queued request. -/
def abandonGrant (session : Session) (failure : RequestFailure) : SessionTurn :=
  ((publishGrants { session with outstanding := none, queue := session.queue.clear } []
    (.failed failure)).andThen (tell · (.grantFailed · failure))).andThen probe

/-- Sends the first of the queued requests that the channel takes. -/
def drain (session : Session) : List Request → SessionTurn
  | [] => .idle session
  | request :: rest =>
    let (taken, sent) := dispatch { session with queue := { session.queue with items := rest } } request
    if taken then sent
    else
      match request with
      | .heartbeat => (drain sent.state rest).after sent.effects
      | .grant _ => (sent.state.abandonGrant .sendingFailed).after sent.effects

/-- Sends a queued request if nothing is outstanding. -/
def serve (session : Session) : SessionTurn :=
  if session.outstanding.isNone && session.state.isConnected then session.drain session.queue.items
  else .idle session

/-- Queues a heartbeat unless one is on its way or the queue is full. -/
def queueHeartbeat (session : Session) : Session :=
  if session.outstanding = some .heartbeat ∨ .heartbeat ∈ session.queue.items then session
  else
    match session.queue.enqueue .heartbeat with
    | .ok queue => { session with queue }
    | .error _ => session

/-- Gives up the outstanding request. A heartbeat that failed is left to the check for silence. -/
def giveUp (session : Session) (failure : RequestFailure) : SessionTurn :=
  match session.outstanding with
  | none => .idle session
  | some .heartbeat => serve { session with outstanding := none }
  | some (.grant _) => session.abandonGrant failure

/-- The peer answered a grant. It answers in order, so the oldest open grant is settled. -/
def grantAnswered (session : Session) (response : GrantResponse) : SessionTurn :=
  let outstanding := match session.outstanding with
    | some (.grant _) => none
    | other => other
  let answered : SessionTurn := ⟨{ session with outstanding }, [],
    [.telemetry (.grantAnswered response.sorcId response.grant response.status)]⟩
  (answered.andThen fun next => next.publishGrants next.openGrants.tail (.answered response)).andThen
    serve

def messageReceived (session : Session) (message : Message) : SessionTurn :=
  match message.id with
  | .heartbeatResponse =>
    let outstanding := if session.outstanding = some .heartbeat then none else session.outstanding
    serve { session with outstanding }
  | .serviceGrantTrigger =>
    match session.state.peer? with
    | none => .idle session
    | some sorcId =>
      match Grant.response? sorcId message.payload with
      | some response => session.grantAnswered response
      | none => session.giveUp .receivedInvalidData
  | _ => .idle session

/-- Forgets every request and stops the timers. -/
def reset (session : Session) : SessionTurn :=
  publishGrants
    { session with
      heartbeatTimer := session.heartbeatTimer.stop
      checkTimer := session.checkTimer.stop
      outstanding := none
      queue := session.queue.clear }
    [] .reset

def channelChanged (session : Session) (now : Nat) (change : SessionChange) : SessionTurn :=
  match change.state with
  | .connecting _ _ => session.publish change.state change.reason
  | .connected _ =>
    publish
      { session with
        lastHeard := now
        heartbeatTimer := session.heartbeatTimer.start now
        checkTimer := session.checkTimer.start now }
      change.state change.reason
  | .disconnected =>
    if session.state.isDisconnected then .idle session
    else session.reset.andThen (publish · change.state change.reason)

def channelReported (now : Nat) (session : Session) : ChannelReport → SessionTurn
  | .connectionChanged change => session.channelChanged now change
  | .messageSent (.ok _) => .idle session
  | .messageSent (.error _) => session.giveUp .sendingFailed
  | .messageReceived (.ok message) => messageReceived { session with lastHeard := now } message
  | .messageReceived (.error _) => session.giveUp .receivedInvalidData

/-- Takes over what the channel did. -/
def absorb (session : Session) (now : Nat) (lower : Turn Channel ChannelReport) : SessionTurn :=
  (Turn.forEach (channelReported now) { session with channel := lower.state } lower.reports).after
    lower.effects

/-- Starts to connect, from the start or again while the radio has not answered for the same peer. -/
def connect (session : Session) (now : Nat) (credentials : Credentials) : SessionTurn :=
  if Channel.admits session.state credentials.token.sorcId then
    session.absorb now (session.channel.connect credentials)
  else .idle session

def close (session : Session) (now : Nat) (cause : EndCause) : SessionTurn :=
  session.absorb now (session.channel.close cause)

def disconnect (session : Session) (now : Nat) : SessionTurn := session.close now .userRequested

/-- Asks for a grant and tells whether there was room for the request. Without a connection nothing
happens. -/
def requestGrant (session : Session) (grant : UInt16) : Bool × SessionTurn :=
  match session.state.peer? with
  | none => (false, .idle session)
  | some sorcId =>
    let (accepted, queue) := match session.queue.enqueue (.grant grant) with
      | .ok queue => (true, queue)
      | .error _ => (false, session.queue)
    let openGrants := if accepted then session.openGrants ++ [grant] else session.openGrants
    (accepted, ((publishGrants { session with queue } openGrants (.requested grant accepted)).andThen
      fun next => ⟨next, [], [.telemetry (.grantRequested sorcId grant accepted)]⟩).andThen serve)

def radioEvent (session : Session) (now : Nat) (event : RadioEvent) : SessionTurn :=
  session.absorb now (session.channel.radioEvent event)

def confirm (session : Session) (now : Nat) (result : Except LinkError Unit) : SessionTurn :=
  session.absorb now (session.channel.confirm result)

def receive (session : Session) (now : Nat) (result : Except LinkError Bytes) : SessionTurn :=
  session.absorb now (session.channel.receive result)

/-- Looks at the timers: silence for too long ends the session, otherwise a heartbeat may be due. -/
def tick (session : Session) (now : Nat) : SessionTurn :=
  if session.state.isConnected then
    let (checkDue, checkTimer) := session.checkTimer.poll now
    let checked := { session with checkTimer }
    if checkDue && session.heartbeatTimeout ≤ now - session.lastHeard then
      checked.close now (.protocol .heartbeatTimedOut)
    else
      let (heartbeatDue, heartbeatTimer) := checked.heartbeatTimer.poll now
      let polled := { checked with heartbeatTimer }
      if heartbeatDue then polled.queueHeartbeat.serve else .idle polled
  else .idle session

end Session

end PhoneKey
