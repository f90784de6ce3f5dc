import PhoneKey.Handshake
import PhoneKey.Connection
import PhoneKey.Discovery.Sightings
import PhoneKey.Grant.Progress
import PhoneKey.Session.Request
import PhoneKey.Telemetry

/-! # Turns and their effects

The stack never calls out. A turn takes the state to the next one and lists, in order, what was
asked of the radio, announced on the streams and told to telemetry, and which requests were tried;
reports go to the layer above.
What the surroundings will answer, whether a write is accepted and which nonce is drawn, is known
to the state beforehand as the handset under the stack.
-/

namespace PhoneKey

/-- What is asked of the radio. -/
inductive RadioCall where
  | connect (sorcId : Uuid)
  | disconnect
  /-- A refused write has no effect on the radio. -/
  | write (frame : Bytes) (accepted : Bool)
  | scan (on : Bool)
deriving DecidableEq, Repr, Inhabited

/-- News on one of the streams. -/
inductive Announcement where
  | link (change : LinkChange)
  | channel (change : SessionChange)
  | connection (change : SessionChange)
  | grants (change : GrantChange)
  | discovery (change : DiscoveryChange)
  | bluetooth (on : Bool)
deriving DecidableEq, Repr, Inhabited

inductive Effect where
  | radio (call : RadioCall)
  | announce (news : Announcement)
  | telemetry (event : TelemetryEvent)
  /-- The session, in a state and with what was outstanding, gave a request to the channel, which may
  refuse it. -/
  | attempt (request : Request) (state : SessionState) (outstanding : Option Request)
deriving DecidableEq, Repr, Inhabited

/-- The device under the stack: its answers to the writes to come and its random nonces. -/
structure Handset where
  /-- Whether the radio accepts the write of that number from now on. -/
  accepts : Nat → Bool
  nonces : Nonces

namespace Handset

/-- The radio's answer to the next write. -/
def answerWrite (handset : Handset) : Bool × Handset :=
  (handset.accepts 0, { handset with accepts := fun index => handset.accepts (index + 1) })

def drawNonce (handset : Handset) : Block × Handset :=
  let (nonce, nonces) := handset.nonces.draw
  (nonce, { handset with nonces })

end Handset

/-- The outcome of one call: the next state, reports for the layer above, and effects. -/
structure Turn (State Report : Type) where
  state : State
  reports : List Report
  effects : List Effect

namespace Turn

variable {State Report Input : Type}

/-- Nothing happens. -/
def idle (state : State) : Turn State Report := ⟨state, [], []⟩

def report (state : State) (news : Report) : Turn State Report := ⟨state, [news], []⟩

/-- A turn with effects that came before it. -/
def after (effects : List Effect) (turn : Turn State Report) : Turn State Report :=
  { turn with effects := effects ++ turn.effects }

def andThen (turn : Turn State Report) (next : State → Turn State Report) : Turn State Report :=
  let following := next turn.state
  ⟨following.state, turn.reports ++ following.reports, turn.effects ++ following.effects⟩

/-- One turn for each input, in order. -/
def forEach (step : State → Input → Turn State Report) (state : State) : List Input → Turn State Report
  | [] => idle state
  | input :: rest => (step state input).andThen fun next => forEach step next rest

end Turn

end PhoneKey
