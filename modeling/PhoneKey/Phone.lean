import PhoneKey.Discovery
import PhoneKey.Session

/-! # The phone

Everything an application needs in one place: the session, discovery and the state of Bluetooth. A
peer whose connection ends is dropped from discovery.
-/

namespace PhoneKey

structure Phone where
  session : Session
  discovery : Discovery
  bluetooth : Bool
  config : Config

abbrev PhoneTurn := Turn Phone Empty

namespace Phone

/-- A phone with a usable configuration. Bluetooth counts as off until the radio tells otherwise. -/
def make (handset : Handset) (config : Config) : Except ConfigError Phone :=
  config.check.map fun _ =>
    { session := .new (.new (.new handset config.defaultMtu.toNat)) config
      discovery := .new config
      bluetooth := false
      config }

def state (phone : Phone) : SessionState := phone.session.state

/-- Lets the session take a turn. -/
def inSession (phone : Phone) (turn : SessionTurn) : PhoneTurn :=
  ⟨{ phone with session := turn.state }, [], turn.effects⟩

/-- Lets discovery take a turn. -/
def inDiscovery (phone : Phone) (turn : DiscoveryTurn) : PhoneTurn :=
  ⟨{ phone with discovery := turn.state }, [], turn.effects⟩

/-- Turns scanning on or off. -/
def scan (phone : Phone) (on : Bool) : PhoneTurn := ⟨phone, [], [.radio (.scan on)]⟩

def beginDiscovery (phone : Phone) (now : Nat) : PhoneTurn :=
  (phone.inDiscovery (phone.discovery.start now).2).andThen fun next =>
    if next.bluetooth then next.scan true else .idle next

def endDiscovery (phone : Phone) : PhoneTurn :=
  (phone.scan false).andThen fun next => next.inDiscovery next.discovery.stop.2

/-- Drops the peer that the phone was in touch with if the connection is gone. -/
def forgetEnded (before : SessionState) (requested : Bool) (phone : Phone) : PhoneTurn :=
  match before.sorcId? with
  | some sorcId =>
    if phone.state.isDisconnected then phone.inDiscovery (phone.discovery.forget sorcId requested)
    else .idle phone
  | none => .idle phone

/-- A turn of the session that may end the connection. -/
def connectionTurn (phone : Phone) (requested : Bool) (turn : SessionTurn) : PhoneTurn :=
  (phone.inSession turn).andThen (forgetEnded phone.state requested)

def connect (phone : Phone) (now : Nat) (credentials : Credentials) : PhoneTurn :=
  phone.connectionTurn false (phone.session.connect now credentials)

def disconnect (phone : Phone) (now : Nat) : PhoneTurn :=
  phone.connectionTurn true (phone.session.disconnect now)

/-- Asks for a grant and tells whether the request was accepted. -/
def requestGrant (phone : Phone) (grant : UInt16) : Bool × PhoneTurn :=
  let (accepted, turn) := phone.session.requestGrant grant
  (accepted, phone.inSession turn)

/-- Bluetooth was turned on or off. -/
def bluetoothChanged (phone : Phone) (on : Bool) : PhoneTurn :=
  let announced : PhoneTurn := ⟨{ phone with bluetooth := on }, [], [.announce (.bluetooth on)]⟩
  announced.andThen fun next =>
    if on then if next.discovery.state.enabled then next.scan true else .idle next
    else next.inDiscovery next.discovery.reset

/-- A peer was reported. -/
def sighted (phone : Phone) (sorcId : Uuid) (rssi : Int16) (now : Nat) : PhoneTurn :=
  phone.inDiscovery (phone.discovery.sighted sorcId rssi now)

/-- An advertisement arrived; data that names no peer is ignored. -/
def advertised (phone : Phone) (data : Bytes) (rssi : Int16) (now : Nat) : PhoneTurn :=
  match Sighting.sorcOfAdvertisement? data with
  | some sorcId => phone.sighted sorcId rssi now
  | none => .idle phone

def radioEvent (phone : Phone) (now : Nat) (event : RadioEvent) : PhoneTurn :=
  phone.connectionTurn false (phone.session.radioEvent now event)

def confirm (phone : Phone) (now : Nat) (result : Except LinkError Unit) : PhoneTurn :=
  phone.connectionTurn false (phone.session.confirm now result)

def receive (phone : Phone) (now : Nat) (result : Except LinkError Bytes) : PhoneTurn :=
  phone.connectionTurn false (phone.session.receive now result)

/-- Lets the timers of the session and of discovery fire. -/
def tick (phone : Phone) (now : Nat) : PhoneTurn :=
  (phone.connectionTurn false (phone.session.tick now)).andThen fun next =>
    next.inDiscovery (next.discovery.tick now next.state.sorcId?)

end Phone

end PhoneKey
