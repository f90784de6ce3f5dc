import PhoneKey.ChangeStream
import PhoneKey.Uuid

/-! # Sightings

Peers that advertise themselves are kept with the time and strength of their latest report, in
ascending order of their identifiers and at most once each.
-/

namespace PhoneKey

/-- The latest report of a peer. -/
structure Sighting where
  sorcId : Uuid
  seenAt : Nat
  /-- Signal strength. -/
  rssi : Int16
deriving DecidableEq, Repr, Inhabited

namespace Sighting

/-- The peer that advertises with the given data, which has to be exactly its identifier. -/
def sorcOfAdvertisement? (data : Bytes) : Option Uuid := Uuid.ofBytes? data

/-- Whether more than `window` has passed since the report. -/
def isOutdated (sighting : Sighting) (window now : Nat) : Bool := window < now - sighting.seenAt

end Sighting

structure DiscoveryState where
  sightings : List Sighting
  enabled : Bool
deriving DecidableEq, Repr, Inhabited

/-- Why the state of discovery changed. -/
inductive DiscoveryReason where
  | initial
  | discovered (sorcId : Uuid)
  /-- A known peer was reported again. -/
  | rediscovered (sorcId : Uuid)
  /-- Peers that were not reported for too long. -/
  | lost (sorcIds : List Uuid)
  /-- The peer was left on request. -/
  | disconnect (sorcId : Uuid)
  /-- The connection to the peer ended by itself. -/
  | disconnected (sorcId : Uuid)
  | reset
  | started
  | stopped
deriving DecidableEq, Repr, Inhabited

instance : Replayable DiscoveryReason := ⟨.initial⟩

abbrev DiscoveryChange := Change DiscoveryState DiscoveryReason

namespace DiscoveryState

def empty : DiscoveryState := ⟨[], false⟩

def find? (state : DiscoveryState) (sorcId : Uuid) : Option Sighting :=
  state.sightings.find? (·.sorcId = sorcId)

def contains (state : DiscoveryState) (sorcId : Uuid) : Bool := (state.find? sorcId).isSome

/-- Puts a sighting in its place, instead of an earlier one of the same peer. -/
def place (sighting : Sighting) : List Sighting → List Sighting
  | [] => [sighting]
  | other :: rest =>
    if sighting.sorcId = other.sorcId then sighting :: rest
    else if sighting.sorcId.toNat < other.sorcId.toNat then sighting :: other :: rest
    else other :: place sighting rest

def insert (state : DiscoveryState) (sighting : Sighting) : DiscoveryState :=
  { state with sightings := place sighting state.sightings }

def erase (state : DiscoveryState) (sorcId : Uuid) : DiscoveryState :=
  { state with sightings := state.sightings.filter (·.sorcId ≠ sorcId) }

/-- Peers that are outdated, except the one that the phone is in touch with. -/
def outdated (state : DiscoveryState) (window now : Nat) (inTouch : Option Uuid) : List Uuid :=
  (state.sightings.filter fun sighting =>
    sighting.isOutdated window now && inTouch ≠ some sighting.sorcId).map (·.sorcId)

def eraseAll (state : DiscoveryState) (sorcIds : List Uuid) : DiscoveryState :=
  { state with sightings := state.sightings.filter fun sighting => sighting.sorcId ∉ sorcIds }

end DiscoveryState

end PhoneKey
