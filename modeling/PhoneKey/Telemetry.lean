import PhoneKey.Connection
import PhoneKey.Grant

/-! # Telemetry

Flat reports about connections and grants for whoever does not follow the streams, and the line that
a log gets for each.
-/

namespace PhoneKey

inductive TelemetryEvent where
  | connectionChanged (before after : SessionState)
  | connectingFailed (sorcId : Uuid) (failure : ConnectFailure)
  | connectionLost (sorcId : Uuid) (loss : ConnectionLoss)
  | grantRequested (sorcId : Uuid) (grant : UInt16) (accepted : Bool)
  | grantAnswered (sorcId : Uuid) (grant : UInt16) (status : GrantStatus)
  | grantFailed (sorcId : Uuid) (failure : RequestFailure)
deriving DecidableEq, Repr, Inhabited

namespace TelemetryEvent

/-- What a log says about the event. -/
def logText : TelemetryEvent → String
  | .connectionChanged before after =>
    "CONN | " ++ before.describe SessionStage.name ++ " -> " ++ after.describe SessionStage.name
  | .connectingFailed sorcId failure =>
    "CONN | connecting to " ++ sorcId.text ++ " failed: " ++ failure.describe
  | .connectionLost sorcId loss => "CONN | lost " ++ sorcId.text ++ ": " ++ loss.name
  | .grantRequested sorcId grant accepted =>
    "GRANT | request id=" ++ toString grant.toNat ++ " sorc=" ++ sorcId.text ++ " " ++
      if accepted then "queued" else "rejected (queue full)"
  | .grantAnswered sorcId grant status =>
    "GRANT | response id=" ++ toString grant.toNat ++ " sorc=" ++ sorcId.text ++ " status=" ++ status.name
  | .grantFailed sorcId failure => "GRANT | request to " ++ sorcId.text ++ " failed: " ++ failure.name

/-- Every event is worth a line for information. -/
def logLine (event : TelemetryEvent) : String := "INFO " ++ event.logText

end TelemetryEvent

end PhoneKey
