import PhoneKey.Proofs.Channel.Progress
import PhoneKey.Proofs.Simulation.Bench
import PhoneKey.Proofs.Simulation.Sorc

/-! # Messages over a bench

A channel over a simulated radio sends a message frame by frame. The peer answers it once the last frame
has arrived, and the phone hears the answer with its last frame; in a handshake it goes on from there.
-/

namespace PhoneKey

/-- The writes of frames, all of them accepted. -/
def Effect.writes (frames : List Frame) : List Effect :=
  frames.map fun frame => .radio (.write frame.toBytes true)

namespace Bench

section

variable {Layer Report : Type} [Drivable Layer Report] {bench : Bench Layer} {radio : Radio} {sorc : Sorc}
  {last : Frame} {opening : List Frame}

/-- The peer collects the frames of a package until its last one is parked. -/
theorem leads_collected {layer : List Frame → Layer}
    (confirms : ∀ now frame opening, Drivable.confirm (layer (frame :: (opening ++ [last]))) now (.ok ()) =
      ⟨layer (opening ++ [last]), [], Effect.writes [opening.headD last]⟩)
    (settled : ∀ frames, Drivable.withHandset (layer frames) (Drivable.handset (layer frames)) = layer frames)
    (prepared : ∀ frames radio, radio.failsWrites = false → Prepared (layer frames) radio)
    (takes : radio.failsWrites = false)
    (leaves : ∀ frame ∈ opening, frame.type.closes = false) (plain : ∀ frame ∈ opening, frame.flags = 0)
    {assembler : Assembler} (carrying : bench.layer = layer (opening ++ [last]))
    (waiting : bench.radio =
      { radio with sorc := { sorc with assembler }, parked := [(opening.headD last).toBytes] }) :
    Leads bench []
      (· = bench.later (layer [last])
        { radio with sorc := { sorc with assembler := assembler.gather opening }, parked := [last.toBytes] }
        (Effect.writes (opening ++ [last]).tail)) := by
  -- On the frames still to come; the peer's assembler has those that went before.
  induction opening generalizing bench assembler with
  | nil =>
    have same : bench = bench.later (layer [last])
        { radio with sorc := { sorc with assembler }, parked := [last.toBytes] } [] := by
      rw [List.nil_append] at carrying
      rw [later, ← carrying]
      exact congrArg (fun radio => { bench with radio }) waiting
    exact .here same
  | cons frame rest ih =>
    have taken := @Sorc.receive_leaves { sorc with assembler } (Drivable.handset bench.layer).nonces frame
      (leaves frame (by simp)) (plain frame (by simp))
    have drawn : Drivable.withHandset bench.layer (Drivable.handset bench.layer) =
        layer (frame :: (rest ++ [last])) := by
      rw [carrying]
      exact settled _
    have exchanged := @leads_exchange _ _ _ bench { radio with sorc := { sorc with assembler } } _ _ _ _ _ _ []
      _ (· = _) waiting taken drawn (prepared _ _ takes) (confirms bench.clock frame rest)
      fun between same => ⟨rfl, same⟩
    refine exchanged.append ?_
    rintro next rfl
    refine (ih (fun frame member => leaves frame (by simp [member]))
      (fun frame member => plain frame (by simp [member])) rfl rfl).imp ?_
    rintro last rfl
    rw [later_later]
    cases rest <;> rfl

/-- The phone collects the frames of a package and hears its message with the last one. -/
theorem notify_collected {layer : Assembler → Layer} (assembler : Assembler) {turn : Turn Layer Report}
    (gathers : ∀ now receiving frame, frame.type.closes = false → frame.flags = 0 →
      Drivable.receive (layer receiving) now (.ok (Frame.toBytes frame)) =
        ⟨layer (receiving.append frame.payload), [], []⟩)
    (prepared : ∀ receiving, Prepared (layer receiving) bench.radio)
    (leaves : ∀ frame ∈ opening, frame.type.closes = false) (plain : ∀ frame ∈ opening, frame.flags = 0)
    (heard : Drivable.receive (layer (assembler.gather opening)) bench.clock (.ok last.toBytes) = turn)
    (listening : bench.layer = layer assembler) :
    bench.notifyPhone ((opening ++ [last]).map Frame.toBytes) =
      (turn.reports, bench.later turn.state (bench.radio.perform turn.effects) turn.effects) := by
  induction opening generalizing bench assembler with
  | nil =>
    have told := @act_of_prepared _ _ _ bench (listening ▸ prepared assembler) turn
      (fun layer now => Drivable.receive layer now (.ok last.toBytes)) (listening ▸ heard)
    simp only [List.nil_append, List.map_singleton, notifyPhone, told, List.append_nil]
  | cons frame rest ih =>
    have collected := gathers bench.clock assembler frame (leaves frame (by simp)) (plain frame (by simp))
    have told := @act_of_prepared _ _ _ bench (listening ▸ prepared assembler) _
      (fun layer now => Drivable.receive layer now (.ok frame.toBytes)) (listening ▸ collected)
    have following := @ih (bench.later (layer (assembler.append frame.payload)) bench.radio [])
      (assembler.append frame.payload) prepared (fun frame member => leaves frame (by simp [member]))
      (fun frame member => plain frame (by simp [member])) heard rfl
    have none : Radio.perform bench.radio [] = bench.radio := rfl
    rw [later_later, radio_later] at following
    simp only [List.cons_append, List.map_cons, notifyPhone, told, none, following, List.nil_append]

end

variable {bench : Bench Channel} {channel : Channel} {nonces : Nonces} {line : Line} {radio : Radio}
  {sorc : Sorc} {message : Bytes} {last : Frame} {opening : List Frame} {defaultMtu mtu : Nat}

theorem prepared_of_willing (willing : channel.link.handset = .willing nonces)
    (takes : radio.failsWrites = false) : Prepared channel radio := by
  obtain ⟨⟨handset, line, state⟩, _⟩ := channel
  obtain rfl : handset = .willing nonces := willing
  rw [Prepared, takes]
  rfl

/-- The peer collects the frames of a package until its last one is parked. -/
theorem leads_last (takes : radio.failsWrites = false)
    (leaves : ∀ frame ∈ opening, frame.type.closes = false) (plain : ∀ frame ∈ opening, frame.flags = 0)
    {assembler : Assembler}
    (stands : Stands bench (channel.onLine nonces (line.carrying message (opening ++ [last])))
      { radio with sorc := { sorc with assembler }, parked := [(opening.headD last).toBytes] }) :
    Leads bench []
      (Stands · (channel.onLine nonces (line.carrying message [last]))
        { radio with
          sorc := { sorc with assembler := assembler.gather opening }
          parked := [last.toBytes] }) := by
  have collected := @leads_collected _ _ _ bench radio sorc last opening
    (fun frames => channel.onLine nonces (line.carrying message frames))
    (fun _ _ opening => Channel.confirm_carrying opening) (fun _ => rfl)
    (fun _ _ => prepared_of_willing rfl) takes leaves plain assembler stands.layer_eq stands.radio_eq
  refine collected.imp ?_
  rintro next rfl
  exact ⟨rfl, rfl, prepared_of_willing rfl takes⟩

/-- The phone collects the frames of a package and hears its message with the last one. -/
theorem notify_package {answer : Bytes} {turn : Turn Channel ChannelReport}
    (takes : radio.failsWrites = false)
    (listening : channel.link.isSettling = true ∨ channel.link.state.isConnected = true)
    (whole : Frame.Whole answer opening last)
    (heard : ∀ raw receiving, Line.receive ⟨defaultMtu, mtu, none, receiving⟩ raw =
        (.ok (some answer), .resting defaultMtu mtu) →
      (channel.onLine nonces ⟨defaultMtu, mtu, none, receiving⟩).receive (.ok raw) = turn)
    (prepared : Prepared turn.state (radio.perform turn.effects))
    (stands : Stands bench (channel.onLine nonces (.resting defaultMtu mtu)) radio) :
    (bench.notifyPhone ((opening ++ [last]).map Frame.toBytes)).1 = turn.reports ∧
      Stands (bench.notifyPhone ((opening ++ [last]).map Frame.toBytes)).2 turn.state
        (radio.perform turn.effects) := by
  have taken := @Line.receive_last { Line.resting defaultMtu mtu with receiving := .gather .empty opening }
    answer last opening whole rfl
  obtain ⟨same, rfl, _⟩ := stands
  have told := notify_collected .empty
    (fun _ receiving _ => Channel.receive_leaves nonces (.resting defaultMtu mtu) receiving listening)
    (fun _ => prepared_of_willing rfl takes) whole.leaves
    (fun frame member => whole.plain frame (List.mem_append_left _ member)) (heard _ _ taken) same
  rw [told]
  exact ⟨rfl, rfl, rfl, prepared⟩

/-- The channel has begun to send a message to the peer over a radio that takes every write, and the first
frame is parked. -/
structure Speaks (bench : Bench Channel) (channel : Channel) (nonces : Nonces) (line : Line) (radio : Radio)
    (sorc : Sorc) (message : Message) : Prop where
  takes : radio.failsWrites = false
  parked : ∃ opening last, Frame.Whole message.toBytes opening last ∧
    Stands bench (channel.onLine nonces (line.carrying message.toBytes (opening ++ [last])))
      { radio with sorc, parked := [(opening.headD last).toBytes] }

/-- Without a session, the peer answers a message with one that its limit lets through. -/
structure Replies (sorc : Sorc) (nonces : Nonces) (message answer : Message) (next : Sorc) (rest : Nonces) :
    Prop where
  respond : Sorc.respond { sorc with received := sorc.received ++ [message] } nonces message =
    (some answer, next, rest)
  clear : next.session = none
  room : Frame.headerSize < next.profile.mtu.toNat
  fits : answer.toBytes.length ≤ maxMessageLength

namespace Speaks

variable {profile : SorcProfile} {handshake : Option SorcHandshake} {received : List Message}
  {message answer : Message} {next : Sorc} {rest : Nonces} {turn : Turn Channel ChannelReport}

/-- The last frame of the package is parked, and the peer has collected the others. -/
private theorem leads (speaks : Speaks bench channel nonces (.resting defaultMtu mtu) radio
      ⟨profile, handshake, none, .empty, received⟩ message) :
    ∃ opening last, Frame.Whole message.toBytes opening last ∧
      Leads bench []
        (Stands · (channel.onLine nonces ((Line.resting defaultMtu mtu).carrying message.toBytes [last]))
          { radio with
            sorc := ⟨profile, handshake, none, .gather .empty opening, received⟩
            parked := [last.toBytes] }) := by
  obtain ⟨opening, last, whole, stands⟩ := speaks.parked
  refine ⟨opening, last, whole, ?_⟩
  exact @leads_last bench channel nonces (.resting defaultMtu mtu) radio
    ⟨profile, handshake, none, .empty, received⟩ message.toBytes last opening speaks.takes whole.leaves
    (fun frame member => whole.plain frame (List.mem_append_left _ member)) .empty stands

/-- A message after which nothing is brought back. -/
private theorem unheard {reply : Option Message} {quiet : Sorc}
    (speaks : Speaks bench channel nonces (.resting defaultMtu mtu) radio
      ⟨profile, handshake, none, .empty, received⟩ message)
    (responded : Sorc.respond ⟨profile, handshake, none, .empty, received ++ [message]⟩ nonces message =
      (reply, quiet, rest)) (mute : quiet.sayAny reply = ([], next))
    (confirmed : ∀ last, (channel.onLine rest ((Line.resting defaultMtu mtu).carrying message.toBytes
      [last])).confirm (.ok ()) = turn)
    (prepared : Prepared turn.state (Radio.perform { radio with sorc := next, parked := [] } turn.effects)) :
    Leads bench turn.reports
      (Stands · turn.state (Radio.perform { radio with sorc := next, parked := [] } turn.effects)) := by
  obtain ⟨opening, last, whole, leads⟩ := speaks.leads
  refine leads.append fun between stands => ?_
  have taken := @Sorc.receive_last ⟨profile, handshake, none, .gather .empty opening, received⟩ nonces last
    opening message reply quiet rest whole rfl rfl responded
  rw [mute] at taken
  have exchanged := Stands.exchange
    { radio with sorc := ⟨profile, handshake, none, .gather .empty opening, received⟩ } stands taken rfl
    (prepared_of_willing rfl speaks.takes) (fun _ => confirmed last) prepared
    fun _ between => between.notify_nil
  rwa [List.append_nil] at exchanged

/-- A message that the peer keeps to itself. -/
theorem unanswered
    (speaks : Speaks bench channel nonces (.resting defaultMtu mtu) radio
      ⟨profile, handshake, none, .empty, received⟩ message)
    (silent : Sorc.respond ⟨profile, handshake, none, .empty, received ++ [message]⟩ nonces message =
      (none, next, rest))
    (confirmed : ∀ last, (channel.onLine rest ((Line.resting defaultMtu mtu).carrying message.toBytes
      [last])).confirm (.ok ()) = turn)
    (prepared : Prepared turn.state (Radio.perform { radio with sorc := next, parked := [] } turn.effects)) :
    Leads bench turn.reports
      (Stands · turn.state (Radio.perform { radio with sorc := next, parked := [] } turn.effects)) :=
  speaks.unheard silent rfl confirmed prepared

/-- The peer's own limit leaves it no room for an answer. -/
theorem unanswered_of_narrow
    (speaks : Speaks bench channel nonces (.resting defaultMtu mtu) radio
      ⟨profile, handshake, none, .empty, received⟩ message)
    (responded : Sorc.respond ⟨profile, handshake, none, .empty, received ++ [message]⟩ nonces message =
      (some answer, next, rest))
    (clear : next.session = none) (narrow : next.profile.mtu.toNat ≤ Frame.headerSize)
    (confirmed : ∀ last, (channel.onLine rest ((Line.resting defaultMtu mtu).carrying message.toBytes
      [last])).confirm (.ok ()) = turn)
    (prepared : Prepared turn.state (Radio.perform { radio with sorc := next, parked := [] } turn.effects)) :
    Leads bench turn.reports
      (Stands · turn.state (Radio.perform { radio with sorc := next, parked := [] } turn.effects)) :=
  speaks.unheard responded (Sorc.say_narrow clear narrow) confirmed prepared

/-- A message that the peer answers, up to what the phone does with the answer. -/
theorem answered (after : Channel)
    (speaks : Speaks bench channel nonces (.resting defaultMtu mtu) radio
      ⟨profile, handshake, none, .empty, received⟩ message)
    (replies : Replies ⟨profile, handshake, none, .empty, received⟩ nonces message answer next rest)
    (confirmed : ∀ last, (channel.onLine rest ((Line.resting defaultMtu mtu).carrying message.toBytes
      [last])).confirm (.ok ()) = .idle (after.onLine rest (.resting defaultMtu mtu)))
    (listening : after.link.isSettling = true ∨ after.link.state.isConnected = true)
    (heard : ∀ raw receiving, Line.receive ⟨defaultMtu, mtu, none, receiving⟩ raw =
        (.ok (some answer.toBytes), .resting defaultMtu mtu) →
      (after.onLine rest ⟨defaultMtu, mtu, none, receiving⟩).receive (.ok raw) = turn)
    (prepared : Prepared turn.state (Radio.perform { radio with sorc := next, parked := [] } turn.effects)) :
    Leads bench turn.reports
      (Stands · turn.state (Radio.perform { radio with sorc := next, parked := [] } turn.effects)) := by
  obtain ⟨opening, last, whole, leads⟩ := speaks.leads
  refine leads.append fun between stands => ?_
  have size : 0 < Frame.sizeForMtu next.profile.mtu.toNat := Nat.sub_pos_of_lt replies.room
  obtain ⟨first, final, cut, package⟩ := Frame.split_whole size replies.fits
  have taken := @Sorc.receive_last ⟨profile, handshake, none, .gather .empty opening, received⟩ nonces last
    opening message (some answer) next rest whole rfl rfl replies.respond
  simp only [Sorc.sayAny, Sorc.say_clear replies.clear cut] at taken
  exact Stands.exchange
    { radio with sorc := ⟨profile, handshake, none, .gather .empty opening, received⟩ } stands taken rfl
    (prepared_of_willing rfl speaks.takes) (fun _ => confirmed last) (prepared_of_willing rfl speaks.takes)
    fun _ between => notify_package speaks.takes listening package heard prepared between

variable {credentials : Credentials} {begun : Handshake} {inFlight : Option Message}

/-- A message of the handshake that the peer answers with another one. -/
theorem proceeds
    (speaks : Speaks bench (.proving (.willing nonces) line credentials begun none inFlight) nonces
      (.resting defaultMtu mtu) radio ⟨profile, handshake, none, .empty, received⟩ message)
    (replies : Replies ⟨profile, handshake, none, .empty, received⟩ nonces message answer next rest)
    (follows : (Channel.proving (.willing rest) (.resting defaultMtu mtu) credentials begun none
      none).handshakeMessage answer = turn)
    (prepared : Prepared turn.state (Radio.perform { radio with sorc := next, parked := [] } turn.effects)) :
    Leads bench turn.reports
      (Stands · turn.state (Radio.perform { radio with sorc := next, parked := [] } turn.effects)) := by
  refine speaks.answered (.proving (.willing rest) (.resting defaultMtu mtu) credentials begun none none)
    replies (fun last => ?_) (.inr rfl) (fun raw receiving taken => ?_) prepared
  · exact Channel.confirm_proving_last (.willing rest) credentials begun none inFlight
  · exact (Channel.receive_proving_message (.willing rest) credentials begun none none taken).trans follows

/-- The phone goes on with a message of its own. -/
theorem continues {key : Option Block} {renewed : Handshake} {following : Nonces} {spoken : Message}
    (speaks : Speaks bench (.proving (.willing nonces) line credentials begun none inFlight) nonces
      (.resting defaultMtu mtu) radio ⟨profile, handshake, none, .empty, received⟩ message)
    (replies : Replies ⟨profile, handshake, none, .empty, received⟩ nonces message answer next rest)
    (limit : Frame.headerSize < mtu) (fits : spoken.toBytes.length ≤ maxMessageLength)
    (follows : (Channel.proving (.willing rest) (.resting defaultMtu mtu) credentials begun none
        none).handshakeMessage answer =
      (Channel.proving (.willing following) (.resting defaultMtu mtu) credentials renewed key
        none).transmit spoken) :
    Leads bench []
      (Speaks ·
        (.proving (.willing following) (.resting defaultMtu mtu) credentials renewed key (some spoken))
        following (.resting defaultMtu mtu) radio next spoken) := by
  have size : 0 < Frame.sizeForMtu mtu := Nat.sub_pos_of_lt limit
  obtain ⟨opening, last, cut, whole⟩ := Frame.split_whole size fits
  have sent := @Channel.transmit_willing (.resting defaultMtu mtu) last spoken opening following credentials
    renewed key none rfl cut
  have leads := speaks.proceeds replies (follows.trans sent) (prepared_of_willing rfl speaks.takes)
  exact leads.imp fun next stands => ⟨speaks.takes, opening, last, whole, stands⟩

end Speaks

end Bench

end PhoneKey
