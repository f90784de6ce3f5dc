import PhoneKey.ChangeStream
import PhoneKey.Error
import PhoneKey.Uuid

/-! # Connections

The link, the secure channel and the session each have a connection state of the same shape; they
differ in the stages on the way to a connection. A cause ends a connection and decides the reason
that is published with the end.
-/

namespace PhoneKey

inductive ConnectionState (Stage : Type) where
  | disconnected
  | connecting (sorcId : Uuid) (stage : Stage)
  | connected (sorcId : Uuid)
deriving DecidableEq, Repr, Inhabited

namespace ConnectionState

variable {Stage : Type}

/-- The peer that a state is about. -/
def sorcId? : ConnectionState Stage → Option Uuid
  | .disconnected => none
  | .connecting sorcId _ => some sorcId
  | .connected sorcId => some sorcId

def peer? : ConnectionState Stage → Option Uuid
  | .connected sorcId => some sorcId
  | _ => none

def isDisconnected : ConnectionState Stage → Bool
  | .disconnected => true
  | _ => false

def isConnected : ConnectionState Stage → Bool
  | .connected _ => true
  | _ => false

/-- Whether a state is a given stage on the way to a given peer. -/
def isAt [DecidableEq Stage] (state : ConnectionState Stage) (sorcId : Uuid) (stage : Stage) :
    Bool :=
  state = .connecting sorcId stage

/-- The printed form, given the names of the stages. -/
def describe (stageName : Stage → String) : ConnectionState Stage → String
  | .disconnected => "disconnected"
  | .connecting _ stage => "connecting(" ++ stageName stage ++ ")"
  | .connected _ => "connected"

end ConnectionState

/-- Stages of the link. -/
inductive LinkStage where
  | physical
  | requestingMtu
deriving DecidableEq, Repr, Inhabited

def LinkStage.name : LinkStage → String
  | .physical => "Physical"
  | .requestingMtu => "RequestingMtu"

/-- Stages of the secure channel and the session: the radio link comes up, the link settles its limit,
and the handshake runs. -/
inductive SessionStage where
  | physical
  | transport
  | challenging
deriving DecidableEq, Repr, Inhabited

def SessionStage.name : SessionStage → String
  | .physical => "Physical"
  | .transport => "Transport"
  | .challenging => "Challenging"

abbrev LinkState := ConnectionState LinkStage

abbrev SessionState := ConnectionState SessionStage

/-- Why a connection did not come about. -/
inductive ConnectFailure where
  | physicalConnectingFailed
  | invalidMtuResponse
  /-- The handshake failed; without a cause if its traffic could not be sent or received. -/
  | handshakeFailed (cause : Option HandshakeError)
  | blobOutdated
deriving DecidableEq, Repr, Inhabited

def ConnectFailure.describe : ConnectFailure → String
  | .physicalConnectingFailed => "PhysicalConnectingFailed"
  | .invalidMtuResponse => "InvalidMtuResponse"
  | .handshakeFailed none => "ChallengeFailed(None)"
  | .handshakeFailed (some cause) => "ChallengeFailed(Some(" ++ cause.name ++ "))"
  | .blobOutdated => "BlobOutdated"

/-- Why an established connection ended without being asked to. -/
inductive ConnectionLoss where
  | physicalConnectionLost
  | heartbeatTimedOut
deriving DecidableEq, Repr, Inhabited

def ConnectionLoss.name : ConnectionLoss → String
  | .physicalConnectionLost => "PhysicalConnectionLost"
  | .heartbeatTimedOut => "HeartbeatTimedOut"

/-- Why a connection state changed. -/
inductive ConnectionReason (Stage : Type) where
  /-- The current state is replayed. -/
  | initial
  /-- The way to a peer came to a stage; its first stage opens the attempt. -/
  | entered (sorcId : Uuid) (stage : Stage)
  | established (sorcId : Uuid)
  | connectingFailed (sorcId : Uuid) (failure : ConnectFailure)
  | disconnect
  | connectionLost (loss : ConnectionLoss)
deriving DecidableEq, Repr, Inhabited

instance {Stage : Type} : Replayable (ConnectionReason Stage) := ⟨.initial⟩

abbrev LinkReason := ConnectionReason LinkStage

abbrev SessionReason := ConnectionReason SessionStage

abbrev LinkChange := Change LinkState LinkReason

abbrev SessionChange := Change SessionState SessionReason

/-- Failures that the radio reports. -/
inductive RadioFailure where
  | connectingFailed
  | connectionLost
deriving DecidableEq, Repr, Inhabited

def RadioFailure.name : RadioFailure → String
  | .connectingFailed => "ConnectingFailed"
  | .connectionLost => "ConnectionLost"

/-- Reasons of the layers above the radio to give up. -/
inductive StackFailure where
  | invalidMtuResponse
  | handshakeFailed (cause : Option HandshakeError)
  | blobOutdated
  | heartbeatTimedOut
deriving DecidableEq, Repr, Inhabited

def StackFailure.describe : StackFailure → String
  | .invalidMtuResponse => "InvalidMtuResponse"
  | .handshakeFailed none => "ChallengeFailed(None)"
  | .handshakeFailed (some cause) => "ChallengeFailed(Some(" ++ cause.name ++ "))"
  | .blobOutdated => "BlobOutdated"
  | .heartbeatTimedOut => "HeartbeatTimedOut"

/-- What ends a connection. -/
inductive EndCause where
  | userRequested
  | radio (failure : RadioFailure)
  | protocol (failure : StackFailure)
deriving DecidableEq, Repr, Inhabited

/-- The kind of reason that is published with the end of a connection. -/
inductive EndKind where
  | disconnect
  | connectingFailed (failure : ConnectFailure)
  | connectionLost (loss : ConnectionLoss)
deriving DecidableEq, Repr, Inhabited

namespace EndCause

def kind : EndCause → EndKind
  | .userRequested => .disconnect
  | .radio .connectingFailed => .connectingFailed .physicalConnectingFailed
  | .radio .connectionLost => .connectionLost .physicalConnectionLost
  | .protocol .invalidMtuResponse => .connectingFailed .invalidMtuResponse
  | .protocol (.handshakeFailed cause) => .connectingFailed (.handshakeFailed cause)
  | .protocol .blobOutdated => .connectingFailed .blobOutdated
  | .protocol .heartbeatTimedOut => .connectionLost .heartbeatTimedOut

def ofConnectFailure : ConnectFailure → EndCause
  | .physicalConnectingFailed => .radio .connectingFailed
  | .invalidMtuResponse => .protocol .invalidMtuResponse
  | .handshakeFailed cause => .protocol (.handshakeFailed cause)
  | .blobOutdated => .protocol .blobOutdated

def ofConnectionLoss : ConnectionLoss → EndCause
  | .physicalConnectionLost => .radio .connectionLost
  | .heartbeatTimedOut => .protocol .heartbeatTimedOut

/-- The cause of an end that nobody asked for. -/
def ofKind? : EndKind → Option EndCause
  | .disconnect => none
  | .connectingFailed failure => some (ofConnectFailure failure)
  | .connectionLost loss => some (ofConnectionLoss loss)

/-- The reason that is published with the end of a connection to a peer. -/
def reason {Stage : Type} (cause : EndCause) (sorcId : Uuid) : ConnectionReason Stage :=
  match cause.kind with
  | .disconnect => .disconnect
  | .connectingFailed failure => .connectingFailed sorcId failure
  | .connectionLost loss => .connectionLost loss

def describe : EndCause → String
  | .userRequested => "user requested"
  | .radio failure => "transport: " ++ failure.name
  | .protocol failure => "protocol: " ++ failure.describe

@[simp] theorem kind_ofConnectFailure (failure : ConnectFailure) :
    (ofConnectFailure failure).kind = .connectingFailed failure := by cases failure <;> rfl

@[simp] theorem kind_ofConnectionLoss (loss : ConnectionLoss) :
    (ofConnectionLoss loss).kind = .connectionLost loss := by cases loss <;> rfl

end EndCause

end PhoneKey
