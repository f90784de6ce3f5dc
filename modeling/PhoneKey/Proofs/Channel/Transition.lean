import PhoneKey.Proofs.Channel.Phases
import PhoneKey.Proofs.Envelope
import PhoneKey.Proofs.Handshake

/-! # Transitions of a channel

A lawful channel answers every input with one of the transitions listed here, each with the state it
leads to, its reports and its effects. What a channel does is looked up nowhere else: an invariant is
kept if every transition keeps it, and a run does only what some transition does.
-/

namespace PhoneKey.Channel

/-- The link was told to hang up. -/
def hangUpEffects : List Effect := [.radio .disconnect, .announce (.link ⟨.disconnected, .disconnect⟩)]

/-- The link ended by itself. -/
def linkEndEffects (sorcId : Uuid) (cause : EndCause) : List Effect :=
  [.announce (.link ⟨.disconnected, cause.reason sorcId⟩)]

/-- The end of a connection, after what happened at the link. -/
def ended (handset : Handset) (defaultMtu : Nat) (sorcId : Uuid) (cause : EndCause) (lower : List Effect) :
    Turn Channel ChannelReport where
  state := atRest handset defaultMtu
  reports := [.connectionChanged ⟨.disconnected, cause.reason sorcId⟩]
  effects := lower ++ [.announce (.channel ⟨.disconnected, cause.reason sorcId⟩)]

/-- Why a connection ends in a call, and what the link does about it. -/
inductive Grounds : Channel → Input → Uuid → EndCause → List Effect → Prop
  | asked {channel : Channel} {sorcId : Uuid} (cause : EndCause)
      (engaged : channel.state.sorcId? = some sorcId) :
      Grounds channel (.close cause) sorcId cause hangUpEffects
  | radio {channel : Channel} {event : RadioEvent} {failure : RadioFailure}
      (engaged : channel.state.sorcId? = some event.sorcId)
      (phase : failure = if channel.link.state.isConnected then .connectionLost else .connectingFailed) :
      Grounds channel (.radioEvent event) event.sorcId (.radio failure)
        (linkEndEffects event.sorcId (.radio failure))
  /-- The peer's limit could not be settled. -/
  | limit (handset : Handset) (line : Line) (credentials : Credentials) (input : Input) :
      Grounds (settling handset line credentials) input credentials.token.sorcId
        (.protocol .invalidMtuResponse)
        (.radio .disconnect :: linkEndEffects credentials.token.sorcId (.protocol .invalidMtuResponse))
  | handshake (handset : Handset) (line : Line) (credentials : Credentials) (handshake : Handshake)
      (pendingKey : Option Block) (inFlight : Option Message) (input : Input)
      (cause : Option HandshakeError) :
      Grounds (proving handset line credentials handshake pendingKey inFlight) input
        credentials.token.sorcId (.protocol (.handshakeFailed cause)) hangUpEffects
  | outdated (handset : Handset) (line : Line) (credentials : Credentials) (handshake : Handshake)
      (pendingKey : Option Block) (inFlight : Option Message) (input : Input) :
      Grounds (proving handset line credentials handshake pendingKey inFlight) input
        credentials.token.sorcId (.protocol .blobOutdated) hangUpEffects

/-- What the peer's message makes the phone say while the handshake runs: the handset, the handshake and
the pending key as they are then, and the message. -/
inductive Reply (credentials : Credentials) (handset : Handset) (handshake : Handshake)
    (pendingKey : Option Block) (arrived : Message) :
    Handset → Handshake → Option Block → Message → Prop
  | pushes {payload : Bytes} (kind : arrived.id ≠ .ltAck)
      (readable : Payload.blob credentials.blob.data = .ok payload) :
      Reply credentials handset handshake pendingKey arrived handset handshake pendingKey
        ⟨.ltBlob, payload⟩
  | renews (kind : arrived.id = .ltAck) :
      Reply credentials handset handshake pendingKey arrived
        { handset with nonces := handset.nonces.draw.2 } (handshake.renew handset.nonces.draw.1).2
        pendingKey (handshake.renew handset.nonces.draw.1).1
  | answers {b1 b2 : Block} (kind : arrived.id = .challengeSorcResponse)
      (read : Payload.sorcResponse arrived.payload = .ok (b1, b2))
      (proof : b2 = handshake.cipher.encrypt (handshake.nonce.rotate.xor b1)) :
      Reply credentials handset handshake pendingKey arrived handset handshake
        (some (Handshake.sessionKey (handshake.sorcNonce b1) handshake.nonce)) (handshake.response b1 b2)

/-- The messages that the phone says while the handshake runs. -/
def spokenInHandshake : List MessageId :=
  [.challengePhone, .challengePhoneResponse, .badChallengePhoneResponse, .ltBlob]

/-- The link over which a handshake opens: the peer's limit is settled and a nonce drawn. -/
def openingLink (handset : Handset) (line : Line) (credentials : Credentials) (mtu : Nat) : Link :=
  ⟨handset.drawNonce.2, line.dropSending.2.withMtu mtu, .connected credentials.token.sorcId⟩

/-- The first message of a handshake and the handshake that it opens. -/
def opening (handset : Handset) (credentials : Credentials) : Message × Handshake :=
  (Handshake.new credentials.token handset.drawNonce.1).start

/-- The effects of a link that settled the limit, and of the handshake that opens over it. -/
def openingEffects (sorcId : Uuid) : List Effect :=
  [.announce (.link ⟨.connected sorcId, .established sorcId⟩),
   .announce (.channel ⟨.connecting sorcId .challenging, .entered sorcId .challenging⟩)]

/-- The message that stays in flight after another one, or this one, could not be sent. -/
def inFlightAfter (inFlight : Option Message) (cause : LinkError) : Option Message :=
  if cause = .sendingInProgress then inFlight else none

inductive Transition (defaultMtu : Nat) : Channel → Input → Turn Channel ChannelReport → Prop
  | idle {channel : Channel} {input : Input} (quiet : ¬ channel.Chooses input) :
      Transition defaultMtu channel input (.idle channel)
  /-- Without a connection nothing is sent. -/
  | unconnected {channel : Channel} (message : Message) (closed : channel.state.isConnected = false) :
      Transition defaultMtu channel (.send message)
        (.report channel (.messageSent (.error (.link .notConnected))))
  | dials (handset : Handset) (credentials : Credentials) :
      Transition defaultMtu (atRest handset defaultMtu) (.connect credentials)
        ⟨dialling handset defaultMtu credentials,
          [.connectionChanged ⟨.connecting credentials.token.sorcId .physical,
            .entered credentials.token.sorcId .physical⟩],
          [.announce (.channel ⟨.connecting credentials.token.sorcId .physical,
              .entered credentials.token.sorcId .physical⟩),
            .announce (.link ⟨.connecting credentials.token.sorcId .physical,
              .entered credentials.token.sorcId .physical⟩),
            .radio (.connect credentials.token.sorcId)]⟩
  | redials (handset : Handset) {earlier credentials : Credentials}
      (same : earlier.token.sorcId = credentials.token.sorcId) :
      Transition defaultMtu (dialling handset defaultMtu earlier) (.connect credentials)
        ⟨dialling handset defaultMtu credentials, [], [.radio (.connect credentials.token.sorcId)]⟩
  | asks {handset : Handset} {credentials : Credentials} {offered : Link.Offer}
      (asked : offered = Link.start ⟨handset, .new defaultMtu,
        .connecting credentials.token.sorcId .requestingMtu⟩ limitRequest.toBytes)
      (taken : offered.refusal = none) :
      Transition defaultMtu (dialling handset defaultMtu credentials)
        (.radioEvent (.connected credentials.token.sorcId))
        ⟨settling offered.link.handset offered.link.line credentials,
          [.connectionChanged ⟨.connecting credentials.token.sorcId .transport,
            .entered credentials.token.sorcId .transport⟩],
          .announce (.link ⟨.connecting credentials.token.sorcId .requestingMtu,
            .entered credentials.token.sorcId .requestingMtu⟩) :: offered.effects ++
          [.announce (.channel ⟨.connecting credentials.token.sorcId .transport,
            .entered credentials.token.sorcId .transport⟩)]⟩
  | asksInVain {handset : Handset} {credentials : Credentials} {offered : Link.Offer} {cause : LinkError}
      (asked : offered = Link.start ⟨handset, .new defaultMtu,
        .connecting credentials.token.sorcId .requestingMtu⟩ limitRequest.toBytes)
      (refused : offered.refusal = some cause) :
      Transition defaultMtu (dialling handset defaultMtu credentials)
        (.radioEvent (.connected credentials.token.sorcId))
        ⟨atRest offered.link.handset defaultMtu,
          [.connectionChanged ⟨.connecting credentials.token.sorcId .transport,
            .entered credentials.token.sorcId .transport⟩,
           .connectionChanged ⟨.disconnected,
            .connectingFailed credentials.token.sorcId .invalidMtuResponse⟩],
          .announce (.link ⟨.connecting credentials.token.sorcId .requestingMtu,
            .entered credentials.token.sorcId .requestingMtu⟩) :: offered.effects ++
          .radio .disconnect :: linkEndEffects credentials.token.sorcId (.protocol .invalidMtuResponse) ++
          [.announce (.channel ⟨.connecting credentials.token.sorcId .transport,
            .entered credentials.token.sorcId .transport⟩),
           .announce (.channel ⟨.disconnected,
            .connectingFailed credentials.token.sorcId .invalidMtuResponse⟩)]⟩
  | ends {channel : Channel} {input : Input} {sorcId : Uuid} {cause : EndCause} {lower : List Effect}
      (grounds : Grounds channel input sorcId cause lower) :
      Transition defaultMtu channel input (ended channel.link.handset defaultMtu sorcId cause lower)
  /-- The next frame of the package under way is written, in whatever phase. -/
  | proceeds {channel : Channel} {frame : Bytes} {line : Line}
      (confirmed : channel.link.line.confirm = (.next frame, line)) :
      Transition defaultMtu channel (.confirm (.ok ()))
        ⟨{ channel with link := ⟨channel.link.handset.answerWrite.2, line, channel.link.state⟩ }, [],
          [.radio (.write frame true)]⟩
  /-- The next frame was declined before messages were sealed, which ends the attempt. -/
  | breaksOff {channel : Channel} {frame : Bytes} {line : Line} {sorcId : Uuid} {cause : EndCause}
      {lower : List Effect} (confirmed : channel.link.line.confirm = (.next frame, line))
      (closed : channel.state.isConnected = false)
      (grounds : Grounds channel (.confirm (.ok ())) sorcId cause lower) :
      Transition defaultMtu channel (.confirm (.ok ()))
        ((ended channel.link.handset.answerWrite.2 defaultMtu sorcId cause lower).after
          [.radio (.write frame false)])
  /-- A frame was taken in that completes no message, or one that means nothing here. -/
  | collects {channel : Channel} {raw : Bytes} {result : Option Bytes} {line : Line}
      (listening : channel.link.isSettling = true ∨ channel.link.state.isConnected = true)
      (received : channel.link.line.receive raw = (.ok result, line))
      (quiet : ¬ channel.Chooses (.receive (.ok raw))) :
      Transition defaultMtu channel (.receive (.ok raw))
        ⟨{ channel with link := { channel.link with line } }, [], []⟩
  /-- A message of the attempt has been written and the next step is the peer's. -/
  | waits {channel : Channel} {message : Bytes} {line : Line}
      (confirmed : channel.link.line.confirm = (.complete message, line))
      (closed : channel.state.isConnected = false) (keyless : channel.pendingKey = none) :
      Transition defaultMtu channel (.confirm (.ok ()))
        ⟨{ channel with link := { channel.link with line }, inFlight := none }, [], []⟩
  | opens {handset : Handset} {line next : Line} {credentials : Credentials} {raw data : Bytes} {mtu : Nat}
      {offered : Link.Offer} (received : line.receive raw = (.ok (some data), next))
      (kind : (Message.ofBytes data).id = .mtuReceive)
      (told : Payload.mtu? (Message.ofBytes data).payload = some mtu) (limit : Frame.headerSize < mtu)
      (spoken : offered = (openingLink handset next credentials mtu).start
        (opening handset credentials).1.toBytes)
      (taken : offered.refusal = none) :
      Transition defaultMtu (settling handset line credentials) (.receive (.ok raw))
        ⟨proving offered.link.handset offered.link.line credentials (opening handset credentials).2 none
            (some (opening handset credentials).1),
          [.connectionChanged ⟨.connecting credentials.token.sorcId .challenging,
            .entered credentials.token.sorcId .challenging⟩],
          openingEffects credentials.token.sorcId ++ offered.effects⟩
  | opensInVain {handset : Handset} {line next : Line} {credentials : Credentials} {raw data : Bytes}
      {mtu : Nat} {offered : Link.Offer} {cause : LinkError}
      (received : line.receive raw = (.ok (some data), next))
      (spoken : offered = (openingLink handset next credentials mtu).start
        (opening handset credentials).1.toBytes)
      (refused : offered.refusal = some cause) :
      Transition defaultMtu (settling handset line credentials) (.receive (.ok raw))
        ⟨atRest offered.link.handset defaultMtu,
          [.connectionChanged ⟨.connecting credentials.token.sorcId .challenging,
            .entered credentials.token.sorcId .challenging⟩,
           .connectionChanged ⟨.disconnected,
            .connectingFailed credentials.token.sorcId (.handshakeFailed none)⟩],
          openingEffects credentials.token.sorcId ++ offered.effects ++ hangUpEffects ++
            [.announce (.channel ⟨.disconnected,
              .connectingFailed credentials.token.sorcId (.handshakeFailed none)⟩)]⟩
  | replies {handset heard : Handset} {line next : Line} {credentials : Credentials}
      {handshake following : Handshake} {pendingKey key : Option Block} {inFlight : Option Message}
      {raw data : Bytes} {message : Message} {offered : Link.Offer}
      (received : line.receive raw = (.ok (some data), next))
      (reply : Reply credentials handset handshake pendingKey (.ofBytes data) heard following key message)
      (spoken : offered =
        Link.start ⟨heard, next, .connected credentials.token.sorcId⟩ message.toBytes)
      (taken : offered.refusal = none) :
      Transition defaultMtu (proving handset line credentials handshake pendingKey inFlight)
        (.receive (.ok raw))
        ⟨proving offered.link.handset offered.link.line credentials following key (some message), [],
          offered.effects⟩
  /-- The handshake ends with a message that could not be sent, or with one that rejects the peer. -/
  | givesUp {handset heard : Handset} {line next : Line} {credentials : Credentials}
      {handshake : Handshake} {pendingKey : Option Block} {inFlight : Option Message} {raw data : Bytes}
      {message : Message} {offered : Link.Offer} {cause : Option HandshakeError}
      (received : line.receive raw = (.ok (some data), next))
      (kind : message.id ∈ spokenInHandshake)
      (spoken : offered =
        Link.start ⟨heard, next, .connected credentials.token.sorcId⟩ message.toBytes) :
      Transition defaultMtu (proving handset line credentials handshake pendingKey inFlight)
        (.receive (.ok raw))
        ((ended offered.link.handset defaultMtu credentials.token.sorcId
          (.protocol (.handshakeFailed cause)) hangUpEffects).after offered.effects)
  | establishes {handset : Handset} {line next : Line} {credentials : Credentials}
      {handshake : Handshake} {key : Block} {inFlight : Option Message} {message : Bytes}
      (confirmed : line.confirm = (.complete message, next)) :
      Transition defaultMtu (proving handset line credentials handshake (some key) inFlight)
        (.confirm (.ok ()))
        ⟨secured handset next credentials (.new key .toSorc) none,
          [.connectionChanged ⟨.connected credentials.token.sorcId,
            .established credentials.token.sorcId⟩],
          [.announce (.channel ⟨.connected credentials.token.sorcId,
            .established credentials.token.sorcId⟩)]⟩
  | seals {handset : Handset} {line : Line} {credentials : Credentials} {context : SealingContext}
      {inFlight : Option Message} {message : Message} {offered : Link.Offer}
      (spoken : offered = Link.start ⟨handset, line, .connected credentials.token.sorcId⟩
        (context.encrypt message.toBytes).1)
      (taken : offered.refusal = none) :
      Transition defaultMtu (secured handset line credentials context inFlight) (.send message)
        ⟨secured offered.link.handset offered.link.line credentials (context.encrypt message.toBytes).2
          (some message), [], offered.effects⟩
  /-- A refused message has moved the outgoing chain all the same. -/
  | refuses {handset : Handset} {line : Line} {credentials : Credentials} {context : SealingContext}
      {inFlight : Option Message} {message : Message} {offered : Link.Offer} {cause : LinkError}
      (spoken : offered = Link.start ⟨handset, line, .connected credentials.token.sorcId⟩
        (context.encrypt message.toBytes).1)
      (refused : offered.refusal = some cause) :
      Transition defaultMtu (secured handset line credentials context inFlight) (.send message)
        ⟨secured offered.link.handset line credentials (context.encrypt message.toBytes).2
          (inFlightAfter inFlight cause), [.messageSent (.error (.link cause))], offered.effects⟩
  | delivers {handset : Handset} {line next : Line} {credentials : Credentials}
      {context : SealingContext} {message : Message} {data : Bytes}
      (confirmed : line.confirm = (.complete data, next)) :
      Transition defaultMtu (secured handset line credentials context (some message)) (.confirm (.ok ()))
        ⟨secured handset next credentials context none, [.messageSent (.ok message)], []⟩
  | loses {handset : Handset} {line : Line} {credentials : Credentials} {context : SealingContext}
      {inFlight : Option Message} (cause : LinkError) (sending : line.sending ≠ none) :
      Transition defaultMtu (secured handset line credentials context inFlight) (.confirm (.error cause))
        ⟨secured handset line.dropSending.2 credentials context (inFlightAfter inFlight cause),
          [.messageSent (.error (.link cause))], []⟩
  | declines {handset : Handset} {line next : Line} {credentials : Credentials}
      {context : SealingContext} {inFlight : Option Message} {frame : Bytes}
      (confirmed : line.confirm = (.next frame, next)) :
      Transition defaultMtu (secured handset line credentials context inFlight) (.confirm (.ok ()))
        ⟨secured handset.answerWrite.2 line.dropSending.2 credentials context none,
          [.messageSent (.error (.link .writeFailed))], [.radio (.write frame false)]⟩
  | hears {handset : Handset} {line next : Line} {credentials : Credentials}
      {context following : SealingContext} {inFlight : Option Message} {raw data : Bytes}
      {message : Message} (received : line.receive raw = (.ok (some data), next))
      (unprotected : Protection.Unprotected context data message following) :
      Transition defaultMtu (secured handset line credentials context inFlight) (.receive (.ok raw))
        ⟨secured handset next credentials following inFlight,
          [.messageReceived (if message.isValid then .ok message else .error .decryptionFailed)], []⟩
  | mishears {handset : Handset} {line next : Line} {credentials : Credentials}
      {context : SealingContext} {inFlight : Option Message} (cause : LinkError)
      (result : Except LinkError Bytes) (kept : next = { line with receiving := next.receiving }) :
      Transition defaultMtu (secured handset line credentials context inFlight) (.receive result)
        ⟨secured handset next credentials context inFlight,
          [.messageReceived (.error (.link cause))], []⟩

end PhoneKey.Channel
