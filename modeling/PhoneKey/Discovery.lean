import PhoneKey.Config
import PhoneKey.Effect
import PhoneKey.Timer

/-! # Discovery

While discovery is on, reports of advertising peers are kept; a peer that was not reported for too
long is lost, unless the phone is in touch with it. Turning discovery off keeps what is known.
-/

namespace PhoneKey

structure Discovery where
  state : DiscoveryState
  sweepTimer : Timer
  /-- How long a sighting stays fresh. -/
  window : Nat
deriving DecidableEq, Repr, Inhabited

abbrev DiscoveryTurn := Turn Discovery Empty

namespace Discovery

def new (config : Config) : Discovery :=
  ⟨.empty, .new config.removeOutdatedInterval.toNat, config.sorcOutdatedDuration.toNat⟩

def publish (discovery : Discovery) (state : DiscoveryState) (reason : DiscoveryReason) : DiscoveryTurn :=
  ⟨{ discovery with state }, [], [.announce (.discovery ⟨state, reason⟩)]⟩

/-- Turns discovery on and tells whether it was off. -/
def start (discovery : Discovery) (now : Nat) : Bool × DiscoveryTurn :=
  if discovery.state.enabled then (false, .idle discovery)
  else (true, publish { discovery with sweepTimer := discovery.sweepTimer.start now }
    { discovery.state with enabled := true } .started)

/-- Turns discovery off and tells whether it was on. -/
def stop (discovery : Discovery) : Bool × DiscoveryTurn :=
  if discovery.state.enabled then
    (true, publish { discovery with sweepTimer := discovery.sweepTimer.stop }
      { discovery.state with enabled := false } .stopped)
  else (false, .idle discovery)

/-- A peer was reported. -/
def sighted (discovery : Discovery) (sorcId : Uuid) (rssi : Int16) (now : Nat) : DiscoveryTurn :=
  if discovery.state.enabled then
    discovery.publish (discovery.state.insert ⟨sorcId, now, rssi⟩)
      (if discovery.state.contains sorcId then .rediscovered sorcId else .discovered sorcId)
  else .idle discovery

/-- Drops outdated sightings, except of the peer that the phone is in touch with. -/
def sweep (discovery : Discovery) (now : Nat) (inTouch : Option Uuid) : DiscoveryTurn :=
  let lost := discovery.state.outdated discovery.window now inTouch
  if lost.isEmpty then .idle discovery
  else discovery.publish (discovery.state.eraseAll lost) (.lost lost)

/-- Drops a peer whose connection ended, on request or by itself. -/
def forget (discovery : Discovery) (sorcId : Uuid) (requested : Bool) : DiscoveryTurn :=
  if discovery.state.contains sorcId then
    discovery.publish (discovery.state.erase sorcId)
      (if requested then .disconnect sorcId else .disconnected sorcId)
  else .idle discovery

/-- Drops every sighting; discovery stays on or off. -/
def reset (discovery : Discovery) : DiscoveryTurn :=
  discovery.publish { discovery.state with sightings := [] } .reset

/-- Looks for outdated sightings when the time has come. -/
def tick (discovery : Discovery) (now : Nat) (inTouch : Option Uuid) : DiscoveryTurn :=
  let (due, sweepTimer) := discovery.sweepTimer.poll now
  let polled := { discovery with sweepTimer }
  if due then polled.sweep now inTouch else .idle polled

end Discovery

end PhoneKey
