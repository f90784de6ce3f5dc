import PhoneKey.Proofs.Session.Clockwork
import PhoneKey.Proofs.Session.Publications
import PhoneKey.Proofs.Session.Renewal
import PhoneKey.Proofs.Simulation.Bench

/-! # A session over the bench of its channel

While nothing but changes of the connection is reported, a session follows its channel: on a bench with the
session the radio and the channel go through what they go through on a bench with the channel alone. How often
the radio was asked to connect or to drop a connection, and what the peer has received, make no difference.
-/

namespace PhoneKey

namespace Sorc

variable (sorc : Sorc) (received : List Message)

/-- What a peer says does not depend on what it received before. -/
theorem say_received (message : Message) :
    say { sorc with received } message =
      ((sorc.say message).1, { (sorc.say message).2 with received }) := by
  obtain ⟨profile, handshake, session, assembler, earlier⟩ := sorc
  cases session <;> rfl

private theorem meetChallenge_received (nonces : Nonces) (payload : Bytes) :
    meetChallenge { sorc with received } nonces payload =
      ((sorc.meetChallenge nonces payload).1, { (sorc.meetChallenge nonces payload).2.1 with received },
        (sorc.meetChallenge nonces payload).2.2) := by
  simp only [meetChallenge]
  split
  · rfl
  · rfl
  · split
    · rfl
    · cases opening? payload <;> rfl

private theorem verify_received (payload : Bytes) :
    verify { sorc with received } payload = { sorc.verify payload with received } := by
  obtain ⟨profile, handshake, session, assembler, earlier⟩ := sorc
  cases handshake with
  | none => rfl
  | some handshake =>
    have same : accepts ⟨profile, some handshake, session, assembler, received⟩ handshake payload =
        accepts ⟨profile, some handshake, session, assembler, earlier⟩ handshake payload := rfl
    simp only [verify, same]
    cases accepts ⟨profile, some handshake, session, assembler, earlier⟩ handshake payload <;> rfl

private theorem respond_received (nonces : Nonces) (message : Message) :
    respond { sorc with received } nonces message =
      ((sorc.respond nonces message).1, { (sorc.respond nonces message).2.1 with received },
        (sorc.respond nonces message).2.2) := by
  simp only [respond]
  split
  · rfl
  · exact meetChallenge_received sorc received nonces message.payload
  · rw [verify_received]
  · rfl
  · rfl
  · rfl
  · rfl

private theorem open?_received (data : Bytes) :
    open? { sorc with received } data =
      (sorc.open? data).map fun (message, opened) => (message, { opened with received }) := by
  obtain ⟨profile, handshake, session, assembler, earlier⟩ := sorc
  cases session with
  | none => rfl
  | some context =>
    simp only [open?]
    cases context.decrypt data <;> rfl

/-- Nor does what it makes of a frame. -/
theorem receive_received (nonces : Nonces) (raw : Bytes) :
    ∃ later, receive { sorc with received } nonces raw =
      ((sorc.receive nonces raw).1, { (sorc.receive nonces raw).2.1 with received := later },
        (sorc.receive nonces raw).2.2) := by
  simp only [receive]
  cases Frame.ofBytes raw with
  | error cause => exact ⟨received, rfl⟩
  | ok frame =>
    dsimp only
    cases (sorc.assembler.push frame).1 with
    | none => exact ⟨received, rfl⟩
    | some data =>
      simp only [Option.bind_some]
      have opens := open?_received { sorc with assembler := (sorc.assembler.push frame).2 } received data
      rw [opens]
      cases open? { sorc with assembler := (sorc.assembler.push frame).2 } data with
      | none => exact ⟨received, rfl⟩
      | some taken =>
        obtain ⟨message, opened⟩ := taken
        refine ⟨received ++ [message], ?_⟩
        have responds := respond_received { opened with received := opened.received ++ [message] }
          (received ++ [message]) nonces message
        dsimp only [Option.map_some] at responds ⊢
        rw [responds]
        generalize respond { opened with received := opened.received ++ [message] } nonces message = answer
        obtain ⟨reply, next, rest⟩ := answer
        cases reply with
        | none => rfl
        | some reply => simp only [say_received]

end Sorc

/-- Radios between which the stack sees no difference. -/
def Radio.Like (radio other : Radio) : Prop :=
  other = { radio with
    connects := other.connects
    disconnects := other.disconnects
    scanning := other.scanning
    sorc := { radio.sorc with received := other.sorc.received } }

namespace Radio.Like

variable {radio other : Radio}

theorem parked (like : radio.Like other) : other.parked = radio.parked := by rw [like]

theorem failsWrites (like : radio.Like other) : other.failsWrites = radio.failsWrites := by
  rw [like]

theorem sorc (like : radio.Like other) : other.sorc = { radio.sorc with received := other.sorc.received } :=
  congrArg Radio.sorc like

private theorem apply (like : radio.Like other) (call : RadioCall) :
    (radio.apply call).Like (other.apply call) := by
  rw [like]
  cases call with
  | write frame accepted => cases accepted <;> rfl
  | _ => rfl

private theorem perform (like : radio.Like other) (effects : List Effect) :
    (radio.perform effects).Like (other.perform effects) := by
  induction effects generalizing radio other with
  | nil => exact like
  | cons effect rest ih =>
    cases effect with
    | radio call => exact ih (like.apply call)
    | _ => exact ih like

end Radio.Like

/-- What asks nothing of the radio leaves it as it was. -/
theorem Radio.perform_append_of_silent (radio : Radio) (first : List Effect) {second : List Effect}
    (silent : ∀ effect ∈ second, ∀ call, effect ≠ .radio call) :
    radio.perform (first ++ second) = radio.perform first := by
  rw [perform, perform, List.foldl_append]
  generalize first.foldl _ radio = reached
  induction second with
  | nil => rfl
  | cons effect rest ih =>
    have still := silent effect List.mem_cons_self
    cases effect with
    | radio call => exact absurd rfl (still call)
    | _ => exact ih fun other member => silent other (List.mem_cons_of_mem _ member)

/-- A lawful channel is lawful over any device. -/
theorem Channel.Lawful.withHandset {defaultMtu : Nat} {channel : Channel} (lawful : Lawful defaultMtu channel)
    (handset : Handset) : Lawful defaultMtu (Drivable.withHandset channel handset) := by
  cases lawful with
  | atRest _ => exact .atRest handset
  | dialling _ credentials => exact .dialling handset credentials
  | settling _ credentials default underway => exact .settling handset credentials default underway
  | proving _ credentials default limit begun underway pending =>
    exact .proving handset credentials default limit begun underway pending
  | secured _ credentials default limit underway => exact .secured handset credentials default limit underway

namespace Session

variable {config : Config} {now : Nat} {session : Session}

/-- A session that was asked for nothing and knows only of the connection; if it is connected, then since
now. -/
structure Attends (config : Config) (now : Nat) (session : Session) : Prop where
  settled : Settled config.defaultMtu.toNat session
  configured : Configured config session
  free : session.outstanding = none
  empty : session.queue.items = []
  unlisted : session.openGrants = []
  since : session.state.isConnected = true →
    session.lastHeard = now ∧ session.heartbeatTimer.deadline? = some (now + session.heartbeatTimer.interval) ∧
      session.checkTimer.deadline? = some (now + session.checkTimer.interval)

private theorem Attends.withHandset (attends : Attends config now session) (handset : Handset) :
    Attends config now (Drivable.withHandset session handset) where
  settled :=
    { lawful := attends.settled.lawful.withHandset handset
      agrees := attends.settled.agrees
      vacant := fun closed => { attends.settled.vacant closed with } }
  configured := { attends.configured with }
  free := attends.free
  empty := attends.empty
  unlisted := attends.unlisted
  since := attends.since

/-- What a session makes of changes of the connection: it keeps to its channel, and asks nothing more of the
radio. -/
structure Keeps (config : Config) (now : Nat) (lower : Turn Channel ChannelReport) (turn : SessionTurn) :
    Prop where
  attends : Attends config now turn.state
  channel : turn.state.channel = lower.state
  effects : ∀ radio : Radio, radio.perform turn.effects = radio.perform lower.effects

private theorem silent_publish (session : Session) (state : SessionState) (reason : SessionReason) :
    ∀ effect ∈ (session.publish state reason).effects, ∀ call, effect ≠ .radio call := by
  rintro effect member call rfl
  cases isConnection_publish session state reason _ member

private theorem silent_finish (session : Session) (reason : SessionReason) :
    ∀ effect ∈ (session.finish reason).effects, ∀ call, effect ≠ .radio call := by
  rintro effect member call rfl
  rcases List.mem_append.mp member with forgotten | told
  · simp [reset, publishGrants] at forgotten
  · exact silent_publish _ _ _ _ told call rfl

private theorem Attends.absorb (attends : Attends config now session) {lower : Turn Channel ChannelReport}
    (served : session.Lower lower) {changes : List SessionChange}
    (told : lower.reports = changes.map .connectionChanged) :
    Keeps config now lower (session.absorb now lower) := by
  have moves : Moves now _ session (session.absorb now lower) := absorb_moves attends.settled served rfl
  have unheard : ∀ result, .messageReceived result ∉ lower.reports := by simp [told]
  have unsent : ∀ result, .messageSent result ∉ lower.reports := by simp [told]
  have outcome : Absorbed now session lower (session.absorb now lower) := absorbed attends.settled served
  generalize session.absorb now lower = turn at moves outcome ⊢
  have settled := moves.settled attends.settled
  have configured := moves.configured attends.configured
  have kept := attends.free
  cases outcome with
  | nothing reports =>
    exact ⟨{ attends with settled, configured }, rfl, fun _ => rfl⟩
  | advances reports advance reached =>
    refine ⟨{ attends with settled, configured, since := fun connected => ?_ }, rfl, fun radio => ?_⟩
    · cases advance.unfinished.symm.trans connected
    · exact radio.perform_append_of_silent _ (silent_publish _ _ _)
  | establishes reports opening reached =>
    refine ⟨{ attends with settled, configured, since := fun _ => ⟨rfl, rfl, rfl⟩ }, rfl, fun radio => ?_⟩
    exact radio.perform_append_of_silent _ (silent_publish _ _ _)
  | ends reports engaged reached =>
    refine ⟨⟨settled, configured, rfl, rfl, rfl, nofun⟩, rfl, fun radio => ?_⟩
    exact radio.perform_append_of_silent _ (silent_finish _ _)
  | recoils reports advance engaged reached =>
    refine ⟨⟨settled, configured, rfl, rfl, rfl, nofun⟩, rfl, fun radio => ?_⟩
    refine (radio.perform_append_of_silent _ (silent_finish _ _)).trans ?_
    exact radio.perform_append_of_silent _ (silent_publish _ _ _)
  | sent reports => exact absurd (reports ▸ List.mem_singleton_self _) (unsent _)
  | fails reports => exact absurd (reports ▸ List.mem_singleton_self _) (unsent _)
  | hears reports => exact absurd (reports ▸ List.mem_singleton_self _) (unheard _)
  | mishears reports => exact absurd (reports ▸ List.mem_singleton_self _) (unheard _)

end Session

namespace Bench

/-- A bench with a session and one with its channel alone, between which the channel sees no difference. -/
structure Shadows (config : Config) (now : Nat) (upper : Bench Session) (lower : Bench Channel) : Prop where
  attends : upper.layer.Attends config now
  channel : upper.layer.channel = lower.layer
  radio : lower.radio.Like upper.radio
  clock : upper.clock = now

namespace Shadows

variable {config : Config} {now : Nat} {upper : Bench Session} {lower last : Bench Channel}
  {changes : List SessionChange}

private theorem ready (shadows : Shadows config now upper lower) :
    Session.Attends config now upper.ready ∧ upper.ready.channel = lower.ready := by
  refine ⟨shadows.attends.withHandset _, ?_⟩
  have handset : Drivable.handset upper.layer = Drivable.handset lower.layer :=
    congrArg Drivable.handset shadows.channel
  simp only [Bench.ready, handset, shadows.radio.failsWrites]
  exact congrArg (Drivable.withHandset · _) shadows.channel

/-- The session follows its channel through a turn. -/
theorem act (shadows : Shadows config now upper lower) (input : Channel.Input)
    (unsent : ∀ message, input ≠ .send message) {turn : Session → Nat → SessionTurn}
    (absorbs : turn upper.ready now = upper.ready.absorb now (upper.ready.channel.act input))
    (told : (lower.act fun channel _ => channel.act input).1 = changes.map .connectionChanged) :
    Shadows config now (upper.act turn).2 (lower.act fun channel _ => channel.act input).2 := by
  obtain ⟨attends, channel⟩ := shadows.ready
  have reported : (upper.ready.channel.act input).reports = changes.map .connectionChanged := by
    rw [channel]
    exact told
  have keeps := attends.absorb ⟨input, unsent, rfl⟩ reported
  rw [← absorbs] at keeps
  rw [channel] at keeps
  have taken : (upper.act turn).2 =
      (turn upper.ready now).effects.foldl perform { upper with layer := (turn upper.ready now).state } := by
    rw [Bench.act, shadows.clock]
  rw [taken, Bench.act]
  refine ⟨?_, ?_, ?_, ?_⟩
  · rw [layer_foldl_perform]
    exact keeps.attends
  · rw [layer_foldl_perform, layer_foldl_perform]
    exact keeps.channel
  · rw [radio_foldl_perform, radio_foldl_perform, keeps.effects]
    exact shadows.radio.perform _
  · rw [clock_foldl_perform]
    exact shadows.clock

/-- Without a connection nothing else but its changes is reported. -/
theorem act_of_closed (shadows : Shadows config now upper lower) (input : Channel.Input)
    (unsent : ∀ message, input ≠ .send message) {turn : Session → Nat → SessionTurn}
    (absorbs : turn upper.ready now = upper.ready.absorb now (upper.ready.channel.act input))
    (closed : lower.layer.state.isConnected = false) :
    Shadows config now (upper.act turn).2 (lower.act fun channel _ => channel.act input).2 := by
  obtain ⟨attends, channel⟩ := shadows.ready
  have state : upper.ready.state = lower.layer.state :=
    shadows.attends.settled.agrees.trans (congrArg Channel.state shadows.channel)
  obtain ⟨changes, reports⟩ :=
    Session.changes_of_closed (attends.settled.lower ⟨input, unsent, rfl⟩).2 (state ▸ closed)
  rw [channel] at reports
  exact shadows.act input unsent absorbs reports

/-- Nothing of the session is missing when a frame is taken to the peer. -/
theorem reach (shadows : Shadows config now upper lower) (frame : Bytes) :
    (upper.reach frame).1 = (lower.reach frame).1 ∧
      Shadows config now (upper.reach frame).2 (lower.reach frame).2 := by
  have handset : Drivable.handset upper.layer = Drivable.handset lower.layer :=
    congrArg Drivable.handset shadows.channel
  obtain ⟨later, taken⟩ := lower.radio.sorc.receive_received upper.radio.sorc.received
    (Drivable.handset lower.layer).nonces frame
  rw [← shadows.radio.sorc] at taken
  simp only [Bench.reach, handset, taken]
  refine ⟨trivial, shadows.attends.withHandset _, ?_, ?_, shadows.clock⟩
  · exact congrArg (Drivable.withHandset · _) shadows.channel
  · rw [Radio.Like, shadows.radio]

private theorem receive (shadows : Shadows config now upper lower) (frame : Bytes)
    (told : (lower.act fun channel now => Drivable.receive channel now (.ok frame)).1 =
      changes.map .connectionChanged) :
    Shadows config now (upper.act fun session now => Drivable.receive session now (.ok frame)).2
      (lower.act fun channel now => Drivable.receive channel now (.ok frame)).2 :=
  shadows.act (.receive (.ok frame)) (by simp) rfl told

private theorem confirm (shadows : Shadows config now upper lower)
    (told : (lower.act fun channel now => Drivable.confirm channel now (.ok ())).1 =
      changes.map .connectionChanged) :
    Shadows config now (upper.act fun session now => Drivable.confirm session now (.ok ())).2
      (lower.act fun channel now => Drivable.confirm channel now (.ok ())).2 :=
  shadows.act (.confirm (.ok ())) (by simp) rfl told

private theorem notify (shadows : Shadows config now upper lower) {frames : List Bytes}
    (told : (lower.notifyPhone frames).1 = changes.map .connectionChanged) :
    Shadows config now (upper.notifyPhone frames).2 (lower.notifyPhone frames).2 := by
  induction frames generalizing upper lower changes with
  | nil => exact shadows
  | cons frame rest ih =>
    obtain ⟨first, following, rfl, early, late⟩ := List.append_eq_map_iff.mp told
    exact ih (shadows.receive frame early.symm) late.symm

/-- An exchange in which only changes of the connection are reported is one of the session too. -/
theorem exchange (shadows : Shadows config now upper lower) {exchange : Exchange ChannelReport}
    (exchanged : lower.exchange? = some (exchange, last))
    (told : exchange.reports = changes.map .connectionChanged) :
    ∃ other reached, upper.exchange? = some (other, reached) ∧ Shadows config now reached last := by
  cases parked : lower.radio.parked with
  | nil => simp [exchange?, Radio.nextWrite?, parked] at exchanged
  | cons written rest =>
    have waiting : upper.radio.parked = written :: rest := shadows.radio.parked.trans parked
    have taken : Shadows config now { upper with radio := { upper.radio with parked := rest } }
        { lower with radio := { lower.radio with parked := rest } } := by
      refine ⟨shadows.attends, shadows.channel, ?_, shadows.clock⟩
      rw [Radio.Like, shadows.radio]
    obtain ⟨replies, reached⟩ := taken.reach written
    simp only [exchange?, Radio.nextWrite?, parked, Option.some.injEq, Prod.mk.injEq] at exchanged
    obtain ⟨rfl, rfl⟩ := exchanged
    obtain ⟨first, following, rfl, early, late⟩ := List.append_eq_map_iff.mp told
    have sent := reached.confirm early.symm
    have received := sent.notify late.symm
    simp only [exchange?, Radio.nextWrite?, waiting, replies]
    exact ⟨_, _, rfl, received⟩

/-- The session follows its channel through exchanges. -/
theorem exchanges (shadows : Shadows config now upper lower) {exchanges : List (Exchange ChannelReport)}
    (path : Exchanges lower exchanges last)
    (told : exchanges.flatMap Exchange.reports = changes.map .connectionChanged) :
    ∃ others reached, Exchanges upper others reached ∧ Shadows config now reached last := by
  induction path generalizing upper changes with
  | nil bench => exact ⟨[], upper, .nil upper, shadows⟩
  | cons exchanged _ ih =>
    rw [List.flatMap_cons] at told
    obtain ⟨first, following, rfl, early, late⟩ := List.append_eq_map_iff.mp told
    obtain ⟨other, next, others, shadows⟩ := shadows.exchange exchanged early.symm
    obtain ⟨rest, reached, path, shadows⟩ := ih shadows late.symm
    exact ⟨other :: rest, reached, .cons others path, shadows⟩

end Shadows

end Bench

end PhoneKey
