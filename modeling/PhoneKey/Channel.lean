import PhoneKey.Envelope
import PhoneKey.Link

/-! # The secure channel

Once the link is up, phone and peer prove to each other that they hold the access key. From the
moment the last proof has been written, every message is sealed under the session key. While the
handshake runs, messages travel in clear and only those of the handshake are acted on.
-/

namespace PhoneKey

/-- What the phone presents to a peer. -/
structure Credentials where
  token : LeaseToken
  blob : LeaseBlob

structure Channel where
  link : Link
  state : SessionState
  credentials : Option Credentials
  handshake : Option Handshake
  protection : Protection
  /-- The session key, until the message that completes the handshake has been written. -/
  pendingKey : Option Block
  /-- The message that the link is sending. -/
  inFlight : Option Message
  /-- Why the peer was rejected, while the rejection is being sent. -/
  rejection : Option HandshakeError

/-- What the channel tells the layer above. -/
inductive ChannelReport where
  | connectionChanged (change : SessionChange)
  | messageSent (result : Except ChannelError Message)
  | messageReceived (result : Except ChannelError Message)

namespace Channel

def new (link : Link) : Channel := ⟨link, .disconnected, none, none, .clear, none, none, none⟩

def isChallenging (channel : Channel) : Bool :=
  match channel.state with
  | .connecting _ .challenging => true
  | _ => false

/-- Whether an attempt to reach the peer may start, or start again. -/
def admits (state : SessionState) (sorcId : Uuid) : Bool :=
  state.isDisconnected || state.isAt sorcId .physical

def publish (channel : Channel) (state : SessionState) (reason : SessionReason) :
    Turn Channel ChannelReport :=
  ⟨{ channel with state }, [.connectionChanged ⟨state, reason⟩], [.announce (.channel ⟨state, reason⟩)]⟩

/-- Forgets everything about a connection. -/
def forget (channel : Channel) : Channel := { new channel.link with state := channel.state }

/-- Back to the start after the connection has gone. -/
def finish (channel : Channel) (cause : EndCause) : Turn Channel ChannelReport :=
  match channel.state.sorcId? with
  | none => .idle channel
  | some sorcId => channel.forget.publish .disconnected (cause.reason sorcId)

/-- Drops the connection for a cause, whatever the link says about it. -/
def close (channel : Channel) (cause : EndCause) : Turn Channel ChannelReport :=
  if channel.state.isDisconnected then .idle channel
  else
    let lower := channel.link.disconnect
    (finish { channel with link := lower.state } cause).after lower.effects

def disconnect (channel : Channel) : Turn Channel ChannelReport := channel.close .userRequested

/-- Ends the handshake; without a cause if its traffic was lost. -/
def abortHandshake (channel : Channel) (cause : Option HandshakeError) : Turn Channel ChannelReport :=
  channel.close (.protocol (.handshakeFailed cause))

/-- What became of a message that the channel was to send: it is under way unless it was refused. -/
structure Offer where
  refusal : Option LinkError
  channel : Channel
  effects : List Effect

/-- Protects a message and gives it to the link. A package that is under way already stays the one in
flight. -/
def offer (channel : Channel) (message : Message) : Offer :=
  let (data, protection) := channel.protection.protect message
  let offered := channel.link.offer data
  let inFlight := match offered.refusal with
    | none => some message
    | some .sendingInProgress => channel.inFlight
    | some _ => none
  ⟨offered.refusal, { channel with link := offered.link, protection, inFlight }, offered.effects⟩

/-- A message could not be sent. -/
def sendFailed (channel : Channel) (cause : LinkError) : Turn Channel ChannelReport :=
  match channel.state with
  | .connecting _ .challenging => channel.abortHandshake channel.rejection
  | .connected _ => .report channel (.messageSent (.error (.link cause)))
  | _ => .idle channel

def transmit (channel : Channel) (message : Message) : Turn Channel ChannelReport :=
  let offered := channel.offer message
  match offered.refusal with
  | none => ⟨offered.channel, [], offered.effects⟩
  | some cause => (offered.channel.sendFailed cause).after offered.effects

/-- Sends one message over an established connection. -/
def send (channel : Channel) (message : Message) : Turn Channel ChannelReport :=
  if channel.state.isConnected then channel.transmit message
  else .report channel (.messageSent (.error (.link .notConnected)))

/-- The counter of the blob at hand. -/
def heldCounter? (channel : Channel) : Option UInt32 :=
  channel.credentials.map fun credentials => credentials.blob.counter

/-- Sends the blob at hand, which has to be readable. -/
def pushBlob (channel : Channel) : Turn Channel ChannelReport :=
  match channel.credentials with
  | none => channel.abortHandshake none
  | some credentials =>
    match Payload.blob credentials.blob.data with
    | .ok payload => channel.transmit ⟨.ltBlob, payload⟩
    | .error _ => channel.abortHandshake none

/-- The peer did not take the challenge without a blob at least as new as its own. -/
def blobNeeded (channel : Channel) (latest : Option UInt32) : Turn Channel ChannelReport :=
  let ours := channel.heldCounter?.getD 0
  if latest.any (ours < ·) then channel.close (.protocol .blobOutdated) else channel.pushBlob

/-- Opens the handshake once the link is up. -/
def openHandshake (channel : Channel) (sorcId : Uuid) : Turn Channel ChannelReport :=
  match channel.credentials with
  | none => channel.abortHandshake (some .cipherNotInitialised)
  | some credentials =>
    let (nonce, handset) := channel.link.handset.drawNonce
    let (opening, handshake) := (Handshake.new credentials.token nonce).start
    let ready := { channel with link := { channel.link with handset } }
    (ready.publish (.connecting sorcId .challenging) (.entered sorcId .challenging)).andThen
      fun next => transmit { next with handshake := some handshake } opening

/-- What the outcome of a handshake message leads to. -/
def follow (channel : Channel) : Except HandshakeError Handshake.Step → Turn Channel ChannelReport
  | .ok (.send message) => channel.transmit message
  | .ok (.finished response sessionKey) =>
    transmit { channel with pendingKey := some sessionKey } response
  | .ok (.needsBlob latest) => channel.blobNeeded latest
  | .ok (.rejected response cause) =>
    (transmit { channel with rejection := some cause } response).andThen (abortHandshake · (some cause))
  | .error cause => channel.abortHandshake (some cause)

/-- Takes a message that arrived while the handshake runs. -/
def handshakeMessage (channel : Channel) (message : Message) : Turn Channel ChannelReport :=
  match message.id with
  | .challengeSorcResponse | .badChallengeSorcResponse | .ltAck =>
    match channel.handshake with
    | none => channel.abortHandshake (some .noChallengeMessage)
    | some handshake =>
      let (step, next, nonces) := handshake.respond channel.link.handset.nonces message
      let handset := { channel.link.handset with nonces }
      follow { channel with handshake := some next, link := { channel.link with handset } } step
  | .ltBlobRequest =>
    if channel.heldCounter?.any (Payload.blobRequestCounter message.payload < ·) then channel.pushBlob
    else .idle channel
  | _ => .idle channel

/-- The message that completes the handshake was written: from here on everything is sealed. -/
def enableSealing (channel : Channel) (key : Block) : Turn Channel ChannelReport :=
  match channel.state.sorcId? with
  | none => .idle channel
  | some sorcId =>
    publish { channel with protection := .sealed (.new key .toSorc), handshake := none }
      (.connected sorcId) (.established sorcId)

def linkChanged (channel : Channel) (change : LinkChange) : Turn Channel ChannelReport :=
  match change.state with
  | .connecting _ .physical => .idle channel
  | .connecting sorcId .requestingMtu =>
    if channel.state.isAt sorcId .physical then
      channel.publish (.connecting sorcId .transport) (.entered sorcId .transport)
    else .idle channel
  | .connected sorcId =>
    if channel.state.isAt sorcId .transport then channel.openHandshake sorcId
    else .idle channel
  | .disconnected =>
    match change.reason with
    | .connectingFailed _ failure => channel.finish (.ofConnectFailure failure)
    | .connectionLost loss => channel.finish (.ofConnectionLoss loss)
    | _ => channel.finish .userRequested

/-- The link has sent the message in flight, or gave it up. -/
def dataSent (channel : Channel) (result : Except LinkError Bytes) : Turn Channel ChannelReport :=
  match result with
  | .error cause =>
    if cause = .sendingInProgress then channel.sendFailed cause
    else sendFailed { channel with inFlight := none } cause
  | .ok _ =>
    match channel.state with
    | .connecting _ .challenging =>
      match channel.pendingKey with
      | none => .idle { channel with inFlight := none }
      | some key => enableSealing { channel with inFlight := none, pendingKey := none } key
    | .connected _ =>
      match channel.inFlight with
      | none => .idle channel
      | some message => .report { channel with inFlight := none } (.messageSent (.ok message))
    | _ => .idle channel

/-- The link received a message, or failed to. -/
def dataReceived (channel : Channel) (result : Except LinkError Bytes) : Turn Channel ChannelReport :=
  match channel.state with
  | .connecting _ .challenging =>
    match result with
    | .ok data => channel.handshakeMessage (.ofBytes data)
    | .error _ => channel.abortHandshake none
  | .connected _ =>
    match result with
    | .ok data =>
      let (message, protection) := channel.protection.unprotect data
      .report { channel with protection }
        (.messageReceived (if message.isValid then .ok message else .error .decryptionFailed))
    | .error cause => .report channel (.messageReceived (.error (.link cause)))
  | _ => .idle channel

def linkReported (channel : Channel) : LinkReport → Turn Channel ChannelReport
  | .connectionChanged change => channel.linkChanged change
  | .dataSent result => channel.dataSent result
  | .dataReceived result => channel.dataReceived result

/-- Takes over what the link did. -/
def absorb (channel : Channel) (lower : Turn Link LinkReport) : Turn Channel ChannelReport :=
  (Turn.forEach linkReported { channel with link := lower.state } lower.reports).after lower.effects

/-- Starts to connect to the token's peer with the credentials at hand. They replace those of an attempt
that still waits for the radio. -/
def connect (channel : Channel) (credentials : Credentials) : Turn Channel ChannelReport :=
  let sorcId := credentials.token.sorcId
  if admits channel.state sorcId then
    let ready := { channel with credentials := some credentials }
    let opened : Turn Channel ChannelReport :=
      if channel.state.isDisconnected then
        ready.publish (.connecting sorcId .physical) (.entered sorcId .physical)
      else .idle ready
    opened.andThen fun next => next.absorb (next.link.connect sorcId)
  else .idle channel

def radioEvent (channel : Channel) (event : RadioEvent) : Turn Channel ChannelReport :=
  channel.absorb (channel.link.radioEvent event)

def confirm (channel : Channel) (result : Except LinkError Unit) : Turn Channel ChannelReport :=
  channel.absorb (channel.link.confirm result)

def receive (channel : Channel) (result : Except LinkError Bytes) : Turn Channel ChannelReport :=
  channel.absorb (channel.link.receive result)

end Channel

end PhoneKey
