import PhoneKey.Broadcast
import PhoneKey.Phone
import PhoneKey.Simulation.Radio

/-! # The bench

A bench joins a stack, or its lower layers alone, to a simulated radio and peer. It keeps the clock,
the notifications on their way to the phone, and a journal of everything the observers heard. Phone
and peer draw their nonces from one source.
-/

namespace PhoneKey

/-- A layer that a bench can drive, with what it reports upwards. -/
class Drivable (Layer : Type) (Report : outParam Type) where
  handset : Layer → Handset
  withHandset : Layer → Handset → Layer
  radioEvent : Layer → Nat → RadioEvent → Turn Layer Report
  confirm : Layer → Nat → Except LinkError Unit → Turn Layer Report
  receive : Layer → Nat → Except LinkError Bytes → Turn Layer Report
  disconnect : Layer → Nat → Turn Layer Report
  tick : Layer → Nat → Turn Layer Report

instance : Drivable Link LinkReport where
  handset link := link.handset
  withHandset link handset := { link with handset }
  radioEvent link _ event := link.radioEvent event
  confirm link _ result := link.confirm result
  receive link _ result := link.receive result
  disconnect link _ := link.disconnect
  tick link _ := .idle link

instance : Drivable Channel ChannelReport where
  handset channel := channel.link.handset
  withHandset channel handset := { channel with link := { channel.link with handset } }
  radioEvent channel _ event := channel.radioEvent event
  confirm channel _ result := channel.confirm result
  receive channel _ result := channel.receive result
  disconnect channel _ := channel.disconnect
  tick channel _ := .idle channel

instance : Drivable Session Empty where
  handset session := Drivable.handset session.channel
  withHandset session handset := { session with channel := Drivable.withHandset session.channel handset }
  radioEvent := Session.radioEvent
  confirm := Session.confirm
  receive := Session.receive
  disconnect := Session.disconnect
  tick := Session.tick

instance : Drivable Phone Empty where
  handset phone := Drivable.handset phone.session
  withHandset phone handset := { phone with session := Drivable.withHandset phone.session handset }
  radioEvent := Phone.radioEvent
  confirm := Phone.confirm
  receive := Phone.receive
  disconnect := Phone.disconnect
  tick := Phone.tick

/-- What an observer heard. -/
inductive Heard where
  | delivery (delivery : Delivery)
  | telemetry (event : TelemetryEvent)
deriving DecidableEq, Repr, Inhabited

structure Bench (Layer : Type) where
  layer : Layer
  radio : Radio
  broadcast : Broadcast
  clock : Nat
  /-- Notifications that the peer sent and the phone has not got yet, oldest first. -/
  inbox : List Bytes
  journal : List Heard

/-- One write that was taken to the peer: the frame, the peer's answers, and what the layer reported. -/
structure Exchange (Report : Type) where
  written : Bytes
  replies : List Bytes
  reports : List Report

namespace Bench

variable {Layer Report : Type}

def new (layer : Layer) (sorc : Sorc) : Bench Layer := ⟨layer, .new sorc, .new, 0, [], []⟩

/-- Adds a subscriber to a stream. -/
def subscribe (bench : Bench Layer) (topic : Topic) : Bench Layer :=
  let (replay, broadcast) := bench.broadcast.subscribe topic
  { bench with broadcast, journal := bench.journal ++ [.delivery replay] }

/-- Lets one effect of the stack happen. -/
def perform (bench : Bench Layer) : Effect → Bench Layer
  | .radio call => { bench with radio := bench.radio.apply call }
  | .announce news =>
    let (heard, broadcast) := bench.broadcast.publish news
    { bench with broadcast, journal := bench.journal ++ heard.map .delivery }
  | .telemetry event => { bench with journal := bench.journal ++ [.telemetry event] }
  | .attempt _ _ _ => bench

/-- Advances the clock. -/
def wait (bench : Bench Layer) (duration : Nat) : Bench Layer :=
  { bench with clock := bench.clock + duration }

/-- The journal so far, and the bench with an empty one. -/
def takeJournal (bench : Bench Layer) : List Heard × Bench Layer :=
  (bench.journal, { bench with journal := [] })

/-- The layer over a radio that takes writes as the simulated one does now. -/
def ready [Drivable Layer Report] (bench : Bench Layer) : Layer :=
  let handset := Drivable.handset bench.layer
  Drivable.withHandset bench.layer { handset with accepts := fun _ => !bench.radio.failsWrites }

/-- Lets the layer take a turn at the time of the clock. -/
def act [Drivable Layer Report] (bench : Bench Layer) (turn : Layer → Nat → Turn Layer Report) :
    List Report × Bench Layer :=
  let taken := turn bench.ready bench.clock
  (taken.reports, taken.effects.foldl perform { bench with layer := taken.state })

/-- Takes a frame to the peer and answers with what the peer sends back. -/
def reach [Drivable Layer Report] (bench : Bench Layer) (frame : Bytes) : List Bytes × Bench Layer :=
  let handset := Drivable.handset bench.layer
  let (replies, sorc, nonces) := bench.radio.sorc.receive handset.nonces frame
  (replies,
    { bench with
      layer := Drivable.withHandset bench.layer { handset with nonces }
      radio := { bench.radio with sorc } })

/-- Gives notifications to the phone, oldest first. -/
def notifyPhone [Drivable Layer Report] (bench : Bench Layer) : List Bytes → List Report × Bench Layer
  | [] => ([], bench)
  | frame :: rest =>
    let (reports, next) := bench.act fun layer now => Drivable.receive layer now (.ok frame)
    let (following, last) := next.notifyPhone rest
    (reports ++ following, last)

/-- Takes the oldest parked write to the peer, confirms it, and brings back the answers. -/
def exchange? [Drivable Layer Report] (bench : Bench Layer) : Option (Exchange Report × Bench Layer) :=
  match bench.radio.nextWrite? with
  | none => none
  | some (written, radio) =>
    let (replies, reached) := reach { bench with radio } written
    let (sentReports, sent) := reached.act fun layer now => Drivable.confirm layer now (.ok ())
    let (receivedReports, last) := sent.notifyPhone replies
    some (⟨written, replies, sentReports ++ receivedReports⟩, last)

/-- Exchanges writes and answers until nothing is parked, at most so many times. -/
def settle [Drivable Layer Report] (bench : Bench Layer) : Nat → List (Exchange Report) × Bench Layer
  | 0 => ([], bench)
  | limit + 1 =>
    match bench.exchange? with
    | none => ([], bench)
    | some (exchange, next) =>
      let (following, last) := next.settle limit
      (exchange :: following, last)

/-- Lets time pass in steps, with a tick after each, until the bench has settled. -/
def run [Drivable Layer Report] (bench : Bench Layer) (duration limit : Nat) :
    Nat → List (List (Exchange Report)) × Bench Layer
  | 0 => ([], bench)
  | times + 1 =>
    let (_, ticked) := (bench.wait duration).act Drivable.tick
    let (exchanges, settled) := ticked.settle limit
    let (following, last) := settled.run duration limit times
    (exchanges :: following, last)

/-- Takes the oldest parked write to the peer; the answers wait in the inbox. -/
def takeToSorc [Drivable Layer Report] (bench : Bench Layer) : Option Bytes × Bench Layer :=
  match bench.radio.nextWrite? with
  | none => (none, bench)
  | some (written, radio) =>
    let (replies, reached) := reach { bench with radio } written
    (some written, { reached with inbox := reached.inbox ++ replies })

/-- Loses the oldest parked write. -/
def loseWrite (bench : Bench Layer) : Option Bytes × Bench Layer :=
  match bench.radio.nextWrite? with
  | none => (none, bench)
  | some (written, radio) => (some written, { bench with radio })

/-- Loses the oldest notification. -/
def loseReply (bench : Bench Layer) : Option Bytes × Bench Layer :=
  (bench.inbox.head?, { bench with inbox := bench.inbox.tail })

/-- Gives the oldest notification to the phone, with one byte spoilt if asked for. -/
def deliver? [Drivable Layer Report] (bench : Bench Layer) (spoil : Option (Nat × UInt8)) :
    Option (List Report) × Bench Layer :=
  match bench.inbox with
  | [] => (none, bench)
  | frame :: rest =>
    let raw := match spoil with
      | some (index, mask) => Bytes.flipAt frame index mask
      | none => frame
    let (reports, next) := act { bench with inbox := rest } fun layer now =>
      Drivable.receive layer now (.ok raw)
    (some reports, next)

/-- Frames that the peer sends by itself wait in the inbox. -/
def send (bench : Bench Layer) (send : Sorc → List Bytes × Sorc) :
    List Bytes × Bench Layer :=
  let (frames, sorc) := send bench.radio.sorc
  (frames, { bench with radio := { bench.radio with sorc }, inbox := bench.inbox ++ frames })

/-- Makes the peer forget the link. -/
def forgetLink (bench : Bench Layer) : Bench Layer :=
  { bench with radio := { bench.radio with sorc := bench.radio.sorc.forgetLink } }

/-- Makes the radio refuse every write, or take them again. -/
def setFailing (bench : Bench Layer) (failsWrites : Bool) : Bench Layer :=
  { bench with radio := { bench.radio with failsWrites } }

end Bench

end PhoneKey
