import PhoneKey.Proofs.Envelope.Reflection
import PhoneKey.Proofs.Session.Grants
import PhoneKey.Proofs.Session.Progress

/-! # Heartbeats that come back

A phone opens whatever was sealed from the start that it expects. A heartbeat of its own that is returned
to it then is a message like any other, and the phone takes it for a sign of life of its peer.
-/

namespace PhoneKey.Session

variable {defaultMtu : Nat} {session : Session}

/-- A heartbeat that the phone sealed from the start at which it now expects its peer counts as heard. -/
def CountsReflected (session : Session) : Prop :=
  ∀ now context raw line, session.channel.protection = .sealed context →
    session.channel.link.line.receive raw = (.ok (some
      (({ context with sealStart := context.openStart } : SealingContext).encrypt
        Channel.heartbeat.toBytes).1), line) →
    (session.act ⟨now, .receive (.ok raw)⟩).state.lastHeard = now

private theorem countsReflected_of_settled (settled : Settled defaultMtu session) :
    session.CountsReflected := by
  intro now context raw line sealed received
  have opened := @SealingContext.decrypt_encrypt { context with sealStart := context.openStart } context
    rfl rfl Channel.heartbeat.toBytes
  have secured : ∃ handset lane credentials inFlight,
      session.channel = Channel.secured handset lane credentials context inFlight := by
    have lawful := settled.lawful
    generalize session.channel = channel at lawful sealed
    cases lawful with
    | secured handset credentials default limit underway =>
      cases sealed
      exact ⟨_, _, _, _, rfl⟩
    | _ => cases sealed
  obtain ⟨handset, lane, credentials, inFlight, same⟩ := secured
  rw [same] at received
  have heard : (Channel.secured handset lane credentials context inFlight).receive (.ok raw) = _ :=
    Channel.receive_secured_message handset credentials inFlight received opened rfl
  have whole : session.act ⟨now, .receive (.ok raw)⟩ =
      session.absorb now (session.channel.receive (.ok raw)) := rfl
  rw [whole, same, heard, absorb_heard]
  rfl

/-- However an end of a session is used and whatever a phone goes through, the direction of an envelope is
not looked at: what an end sealed itself is refused only if its code is wrong for the start that is expected,
and a heartbeat of the phone that comes back in step counts as a sign of life. -/
theorem undirected_of_runs (key : Block) (direction : Direction)
    (operations : List SealingContext.Operation) (handset : Handset) (defaultMtu : Nat) (config : Config)
    (inputs : List Input) :
    SealingContext.Undirected ((SealingContext.new key direction).use operations).state
        ((SealingContext.new key direction).uses operations) ∧
      ((fresh handset defaultMtu config).run inputs).state.CountsReflected :=
  ⟨SealingContext.undirected_of_use key direction operations,
    countsReflected_of_settled (settled_of_run handset defaultMtu config inputs)⟩

/-- A phone has sent a heartbeat and hears it again. -/
def reflectingInputs : List Input :=
  let envelope := ((Channel.zeroSession .toSorc).encrypt Channel.heartbeat.toBytes).1
  strayInputs.take 7 ++
    [⟨2000, .confirm (.ok ())⟩,
     ⟨3000, .receive (.ok (Frame.toBytes ⟨.single, 0, 0, UInt16.ofNat envelope.length, envelope⟩))⟩]

/-- A new end opens its own first envelope, whose header names its own direction, and a phone counts its own
heartbeat. -/
theorem own_heartbeat_opens :
    let context := SealingContext.new .zero .toSorc
    let envelope := (context.encrypt Channel.heartbeat.toBytes).1
    let following := (context.use [.encrypt Channel.heartbeat.toBytes]).state
    following.named? envelope = some following.outgoing.toByte ∧
      following.decrypt envelope =
        .ok (Channel.heartbeat.toBytes, { following with openStart := following.sealStart }) ∧
      ((fresh (Channel.zeroHandset 8) 200 .standard).run reflectingInputs).state.lastHeard = 3000 := by
  intro context envelope following
  refine ⟨?_, ?_, ?_⟩
  · decide +kernel
  · exact @SealingContext.decrypt_encrypt context following rfl rfl Channel.heartbeat.toBytes
  · decide +kernel

end PhoneKey.Session
