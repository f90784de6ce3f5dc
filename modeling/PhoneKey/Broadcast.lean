import PhoneKey.Effect

/-! # Broadcast

The streams that observers subscribe to, with their subscribers. Every announcement goes to the
subscribers of its stream; the state of Bluetooth is told only when it differs from the one before.
-/

namespace PhoneKey

/-- The streams, from the link up to the whole phone. -/
inductive Topic where
  | link
  | channel
  | connection
  | grants
  | discovery
  | bluetooth
deriving DecidableEq, Repr, Inhabited

structure Broadcast where
  link : ChangeStream LinkState
  channel : ChangeStream SessionState
  connection : ChangeStream SessionState
  grants : ChangeStream OpenGrants
  discovery : ChangeStream DiscoveryState
  bluetooth : ValueStream Bool
deriving DecidableEq, Repr, Inhabited

/-- News for one subscriber of a stream. -/
structure Delivery where
  subscriber : Nat
  news : Announcement
deriving DecidableEq, Repr, Inhabited

namespace Broadcast

/-- Streams of a stack that was just built. -/
def new : Broadcast :=
  ⟨.new .disconnected, .new .disconnected, .new .disconnected, .new [], .new .empty, .new false⟩

/-- Adds a subscriber to a stream, given how its news are announced. -/
def join {State Reason : Type} [Replayable Reason] (announce : Change State Reason → Announcement)
    (stream : ChangeStream State) : Delivery × ChangeStream State :=
  let (news, joined) : (Nat × Change State Reason) × ChangeStream State := stream.subscribe
  (⟨news.1, announce news.2⟩, joined)

/-- Adds a subscriber, who is told the current state at once. -/
def subscribe (broadcast : Broadcast) (topic : Topic) : Delivery × Broadcast :=
  match topic with
  | .link =>
    let (replay, link) := join Announcement.link broadcast.link
    (replay, { broadcast with link })
  | .channel =>
    let (replay, channel) := join Announcement.channel broadcast.channel
    (replay, { broadcast with channel })
  | .connection =>
    let (replay, connection) := join Announcement.connection broadcast.connection
    (replay, { broadcast with connection })
  | .grants =>
    let (replay, grants) := join Announcement.grants broadcast.grants
    (replay, { broadcast with grants })
  | .discovery =>
    let (replay, discovery) := join Announcement.discovery broadcast.discovery
    (replay, { broadcast with discovery })
  | .bluetooth =>
    let ((subscriber, on), bluetooth) := broadcast.bluetooth.subscribe
    (⟨subscriber, .bluetooth on⟩, { broadcast with bluetooth })

/-- Tells a stream's subscribers about a change, given how it is announced. -/
def spread {State Reason : Type} (announce : Change State Reason → Announcement)
    (stream : ChangeStream State) (change : Change State Reason) : List Delivery × ChangeStream State :=
  let (news, told) := stream.publish change
  (news.map fun (subscriber, change) => ⟨subscriber, announce change⟩, told)

def publish (broadcast : Broadcast) (news : Announcement) : List Delivery × Broadcast :=
  match news with
  | .link change =>
    let (heard, link) := spread .link broadcast.link change
    (heard, { broadcast with link })
  | .channel change =>
    let (heard, channel) := spread .channel broadcast.channel change
    (heard, { broadcast with channel })
  | .connection change =>
    let (heard, connection) := spread .connection broadcast.connection change
    (heard, { broadcast with connection })
  | .grants change =>
    let (heard, grants) := spread .grants broadcast.grants change
    (heard, { broadcast with grants })
  | .discovery change =>
    let (heard, discovery) := spread .discovery broadcast.discovery change
    (heard, { broadcast with discovery })
  | .bluetooth on =>
    let (news, bluetooth) := broadcast.bluetooth.set on
    (news.map fun (subscriber, on) => ⟨subscriber, .bluetooth on⟩, { broadcast with bluetooth })

end Broadcast

end PhoneKey
