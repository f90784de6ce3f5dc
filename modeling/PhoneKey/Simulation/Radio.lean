import PhoneKey.Effect
import PhoneKey.Simulation.Sorc

/-! # A simulated radio

Writes are parked until the simulation takes them to the peer. Dropping the connection drops what is
parked and makes the peer forget the link.
-/

namespace PhoneKey

structure Radio where
  sorc : Sorc
  /-- Frames that were written and not taken to the peer yet, oldest first. -/
  parked : List Bytes
  connects : List Uuid
  disconnects : Nat
  scanning : Bool
  /-- Whether every write is refused. -/
  failsWrites : Bool
deriving DecidableEq, Repr, Inhabited

namespace Radio

def new (sorc : Sorc) : Radio := ⟨sorc, [], [], 0, false, false⟩

/-- Does what the stack asked for. -/
def apply (radio : Radio) : RadioCall → Radio
  | .connect sorcId => { radio with connects := radio.connects ++ [sorcId] }
  | .disconnect =>
    { radio with disconnects := radio.disconnects + 1, parked := [], sorc := radio.sorc.forgetLink }
  | .write frame accepted => if accepted then { radio with parked := radio.parked ++ [frame] } else radio
  | .scan on => { radio with scanning := on }

/-- The oldest parked frame and the radio without it. -/
def nextWrite? (radio : Radio) : Option (Bytes × Radio) :=
  match radio.parked with
  | [] => none
  | frame :: rest => some (frame, { radio with parked := rest })

end Radio

end PhoneKey
