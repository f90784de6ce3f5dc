import PhoneKey.Effect
import PhoneKey.Line
import PhoneKey.Message.Payload

/-! # The radio link

A link connects the radio to one peer, asks it how many bytes it takes at once, and then carries
whole messages. Reports of the radio about any other peer are stale and dropped.
-/

namespace PhoneKey

structure Link where
  handset : Handset
  line : Line
  state : LinkState

/-- What the link tells the layer above. -/
inductive LinkReport where
  | connectionChanged (change : LinkChange)
  | dataSent (result : Except LinkError Bytes)
  | dataReceived (result : Except LinkError Bytes)

/-- What the radio tells about its connection. -/
inductive RadioEvent where
  | connected (sorcId : Uuid)
  | connectingFailed (sorcId : Uuid)
  | disconnected (sorcId : Uuid)
  | connectionLost (sorcId : Uuid)
deriving DecidableEq, Repr, Inhabited

def RadioEvent.sorcId : RadioEvent → Uuid
  | .connected sorcId => sorcId
  | .connectingFailed sorcId => sorcId
  | .disconnected sorcId => sorcId
  | .connectionLost sorcId => sorcId

namespace Link

def new (handset : Handset) (defaultMtu : Nat) : Link := ⟨handset, .new defaultMtu, .disconnected⟩

def mtu (link : Link) : Nat := link.line.mtu

def isSettling (link : Link) : Bool :=
  match link.state with
  | .connecting _ .requestingMtu => true
  | _ => false

def publish (link : Link) (state : LinkState) (reason : LinkReason) : Turn Link LinkReport :=
  ⟨{ link with state }, [.connectionChanged ⟨state, reason⟩], [.announce (.link ⟨state, reason⟩)]⟩

/-- What became of a message that the link was to send: it is under way unless it was refused. -/
structure Offer where
  refusal : Option LinkError
  link : Link
  effects : List Effect

/-- Writes a frame of the package under way; a refused write gives the package up. -/
def write (link : Link) (frame : Bytes) : Offer :=
  let (accepted, handset) := link.handset.answerWrite
  let effects := [.radio (.write frame accepted)]
  if accepted then ⟨none, { link with handset }, effects⟩
  else ⟨some .writeFailed, { link with handset, line := link.line.dropSending.2 }, effects⟩

/-- Writes the first frame of a message, whatever the state. -/
def start (link : Link) (message : Bytes) : Offer :=
  match link.line.launch message with
  | .error cause => ⟨some cause, link, []⟩
  | .ok (frame, line) => write { link with line } frame

/-- Starts to send a message over an established connection. -/
def offer (link : Link) (message : Bytes) : Offer :=
  if link.state.isConnected then link.start message else ⟨some .notConnected, link, []⟩

/-- Back to the start after the connection has gone. -/
def finish (link : Link) (cause : EndCause) : Turn Link LinkReport :=
  match link.state.sorcId? with
  | none => .idle link
  | some sorcId => publish { link with line := link.line.reset } .disconnected (cause.reason sorcId)

/-- Drops the connection for a cause. -/
def close (link : Link) (cause : EndCause) : Turn Link LinkReport :=
  if link.state.isDisconnected then .idle link else (link.finish cause).after [.radio .disconnect]

def disconnect (link : Link) : Turn Link LinkReport := link.close .userRequested

/-- Starts to connect. The radio is asked again while it has not answered for the same peer. -/
def connect (link : Link) (sorcId : Uuid) : Turn Link LinkReport :=
  let call := [.radio (.connect sorcId)]
  if link.state.isDisconnected then
    (link.publish (.connecting sorcId .physical) (.entered sorcId .physical)).andThen
      fun next => ⟨next, [], call⟩
  else if link.state.isAt sorcId .physical then ⟨link, [], call⟩
  else .idle link

/-- Sends one message; that it arrived is reported later. -/
def send (link : Link) (message : Bytes) : Turn Link LinkReport :=
  let offered := link.offer message
  match offered.refusal with
  | none => ⟨offered.link, [], offered.effects⟩
  | some cause => ⟨offered.link, [.dataSent (.error cause)], offered.effects⟩

/-- A limit that cannot be settled ends the attempt. -/
def failMtu (link : Link) : Turn Link LinkReport := link.close (.protocol .invalidMtuResponse)

/-- Asks the peer for its limit. -/
def askMtu (link : Link) : Turn Link LinkReport :=
  let offered := link.start (Message.empty .mtuRequest).toBytes
  match offered.refusal with
  | none => ⟨offered.link, [], offered.effects⟩
  | some _ => offered.link.failMtu.after offered.effects

def radioEvent (link : Link) (event : RadioEvent) : Turn Link LinkReport :=
  if link.state.sorcId? = some event.sorcId then
    match event with
    | .connected sorcId =>
      if link.state.isAt sorcId .physical then
        (link.publish (.connecting sorcId .requestingMtu) (.entered sorcId .requestingMtu)).andThen
          askMtu
      else .idle link
    | _ => link.finish (.radio (if link.state.isConnected then .connectionLost else .connectingFailed))
  else .idle link

/-- A package was given up. -/
def sendFailed (link : Link) (cause : LinkError) : Turn Link LinkReport :=
  if link.isSettling then link.failMtu else .report link (.dataSent (.error cause))

/-- The radio finished the frame that was written last, or failed to. -/
def confirm (link : Link) (result : Except LinkError Unit) : Turn Link LinkReport :=
  match result with
  | .error cause =>
    let (wasSending, line) := link.line.dropSending
    if wasSending then sendFailed { link with line } cause else .idle link
  | .ok () =>
    match link.line.confirm with
    | (.idle, _) => .idle link
    | (.next frame, line) =>
      let offered := write { link with line } frame
      match offered.refusal with
      | none => ⟨offered.link, [], offered.effects⟩
      | some cause => (offered.link.sendFailed cause).after offered.effects
    | (.complete message, line) =>
      if link.isSettling then .idle { link with line }
      else .report { link with line } (.dataSent (.ok message))

/-- A message that arrived while the limit is being settled. The answer may come before the request
was confirmed, which then no longer counts as under way. -/
def mtuReceived (link : Link) (sorcId : Uuid) (message : Message) : Turn Link LinkReport :=
  if message.id = .mtuReceive then
    match Payload.mtu? message.payload with
    | some mtu =>
      if Frame.headerSize < mtu then
        publish { link with line := link.line.dropSending.2.withMtu mtu } (.connected sorcId)
          (.established sorcId)
      else link.failMtu
    | none => link.failMtu
  else .idle link

/-- A frame arrived, or the radio failed to read one. -/
def receive (link : Link) (result : Except LinkError Bytes) : Turn Link LinkReport :=
  let (message, line) := match result with
    | .ok raw => link.line.receive raw
    | .error cause => (.error cause, link.line.dropReceiving)
  let next := { link with line }
  match link.state, message with
  | .connecting _ .requestingMtu, .ok none => .idle next
  | .connecting sorcId .requestingMtu, .ok (some data) => next.mtuReceived sorcId (.ofBytes data)
  | .connecting _ .requestingMtu, .error _ => next.failMtu
  | .connected _, .ok none => .idle next
  | .connected _, .ok (some data) => .report next (.dataReceived (.ok data))
  | .connected _, .error cause => .report next (.dataReceived (.error cause))
  | _, _ => .idle link

end Link

end PhoneKey
