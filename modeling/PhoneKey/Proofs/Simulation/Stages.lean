import PhoneKey.Proofs.Channel.Writes
import PhoneKey.Proofs.Session.Progress
import PhoneKey.Proofs.Simulation.Answers

/-! # Stages of a connection

Phone and peer go through the same stages whatever the order in which writes, confirmations and
notifications happen. A stage says what the phone waits for and what the peer will have made of everything
that is on its way; it does not say how far that has come.
-/

namespace PhoneKey

/-- The stage of a session, given the frames that are going to reach the phone and the peer as it will be
when it has taken every frame. The phone launches fewer messages than the rank says before it has to be asked
again. -/
inductive Stage (defaultMtu : Nat) (credentials : Credentials) (profile : SorcProfile) :
    Nat → Session → List Bytes → Sorc → Prop
  | rest {session : Session} {peer : Sorc} {nonces : Nonces}
      (channel : session.channel = .atRest (.willing nonces) defaultMtu) (listens : peer.Listens none) :
      Stage defaultMtu credentials profile 0 session [] peer
  | dialling {session : Session} {peer : Sorc} {nonces : Nonces}
      (channel : session.channel = .dialling (.willing nonces) defaultMtu credentials)
      (listens : peer.Listens none) : Stage defaultMtu credentials profile 0 session [] peer
  | settling {session : Session} {frames : List Bytes} {peer : Sorc} {nonces : Nonces}
      {sending : Option Package} {receiving : Assembler}
      (channel : session.channel =
        .settling (.willing nonces) ⟨defaultMtu, defaultMtu, sending, receiving⟩ credentials)
      (brief : ∀ package, sending = some package → package.pending.tail = [])
      (awaits : Awaits receiving frames (Message.toBytes ⟨.mtuReceive, [profile.mtu, 0]⟩))
      (listens : peer.Listens none) : Stage defaultMtu credentials profile 4 session frames peer
  | proving {rank : Nat} {session : Session} {frames : List Bytes} {peer : Sorc} {nonces : Nonces}
      {sending : Option Package} {receiving : Assembler} {nonce : Block} {inFlight : Option Message}
      {answer : Message}
      (channel : session.channel =
        .proving (.willing nonces) ⟨defaultMtu, profile.mtu.toNat, sending, receiving⟩ credentials
          (credentials.token.begin nonce) none inFlight)
      (vacant : sending = none → inFlight = none) (awaits : Awaits receiving frames answer.toBytes)
      (answers : Answers credentials profile nonce peer rank answer) (listens : peer.Listens none) :
      Stage defaultMtu credentials profile rank session frames peer
  /-- The peer wants a blob that is newer than the phone's. -/
  | waiting {session : Session} {peer : Sorc} {nonces : Nonces} {nonce : Block}
      (channel : session.channel =
        .proving (.willing nonces) ⟨defaultMtu, profile.mtu.toNat, none, .empty⟩ credentials
          (credentials.token.begin nonce) none none)
      (outdated : profile.Outdates credentials.blob.counter) (listens : peer.Listens none) :
      Stage defaultMtu credentials profile 0 session [] peer
  /-- The answer to the peer's proof is being written. -/
  | sealing {session : Session} {peer : Sorc} {nonces : Nonces} {package : Package} {nonce key : Block}
      {inFlight : Option Message}
      (channel : session.channel =
        .proving (.willing nonces) ⟨defaultMtu, profile.mtu.toNat, some package, .empty⟩ credentials
          (credentials.token.begin nonce) (some key) inFlight)
      (listens : peer.Listens (some (.new key .toPhone))) :
      Stage defaultMtu credentials profile 0 session [] peer
  | idle {session : Session} {peer : Sorc} {nonces : Nonces} {inFlight : Option Message}
      {ours theirs : SealingContext}
      (channel : session.channel =
        .secured (.willing nonces) ⟨defaultMtu, profile.mtu.toNat, none, .empty⟩ credentials ours inFlight)
      (free : session.outstanding = none) (listens : peer.Listens (some theirs))
      (inStep : ours.InStep theirs) : Stage defaultMtu credentials profile 0 session [] peer
  | asking {rank : Nat} {session : Session} {frames : List Bytes} {peer : Sorc} {nonces : Nonces}
      {sending : Option Package} {receiving : Assembler} {inFlight : Option Message} {data : Bytes}
      {ours after theirs : SealingContext} {request : Request}
      (channel : session.channel =
        .secured (.willing nonces) ⟨defaultMtu, profile.mtu.toNat, sending, receiving⟩ credentials ours
          inFlight)
      (waiting : session.outstanding = some request) (queued : session.queue.items.length = rank)
      (awaits : Awaits receiving frames data)
      (opens : ours.decrypt data = .ok ((profile.answer request).toBytes, after))
      (listens : peer.Listens (some theirs)) (inStep : after.InStep theirs) :
      Stage defaultMtu credentials profile rank session frames peer

/-- A turn of the session that keeps the connection and comes to a stage, after the peer has taken what the
turn launches. -/
structure Leads (defaultMtu : Nat) (credentials : Credentials) (profile : SorcProfile) (session : Session)
    (turn : SessionTurn) (prospect : Prospect) (launched : List Bytes) (rank : Nat) : Prop where
  smooth : session.Smooth profile.response turn launched
  stage : Stage defaultMtu credentials profile rank turn.state (prospect.takeAll launched).frames
    (prospect.takeAll launched).peer

/-- How a session gets on without being asked to: an attempt that has come to the peer goes on or is
completed. -/
def SessionState.GetsOn (before after : SessionState) : Prop :=
  after = before ∨ ∃ sorcId stage, before = .connecting sorcId stage ∧ stage ≠ .physical ∧
    (after = .connecting sorcId .challenging ∨ after = .connected sorcId)

namespace SessionState.GetsOn

variable {first second third : SessionState}

theorem refl (state : SessionState) : state.GetsOn state := .inl rfl

theorem trans (earlier : first.GetsOn second) (later : second.GetsOn third) : first.GetsOn third := by
  rcases earlier with rfl | ⟨sorcId, stage, rfl, underway, rfl | rfl⟩
  · exact later
  · rcases later with rfl | ⟨other, _, same, _, reached⟩
    · exact .inr ⟨sorcId, stage, rfl, underway, .inl rfl⟩
    · cases same
      exact .inr ⟨sorcId, stage, rfl, underway, reached⟩
  · rcases later with rfl | ⟨other, _, same, _, reached⟩
    · exact .inr ⟨sorcId, stage, rfl, underway, .inr rfl⟩
    · cases same

end SessionState.GetsOn

namespace Session

variable {answer : UInt16 → GrantResponse} {session : Session} {now : Nat}

private theorem confirm_of_free (free : session.channel.link.line.sending = none) :
    session.confirm now (.ok ()) = .idle session := by
  rw [confirm, Channel.confirm, Link.confirm_of_free free, Turn.idle, Channel.absorb_silent, absorb_silent]
  rfl

/-- The next frame of a package is written as soon as the one before is confirmed. -/
theorem confirm_next {channel : Channel} {line : Line} {message : Bytes} {frame last : Frame}
    {opening : List Frame} {nonces : Nonces}
    (carrying : session.channel =
      channel.onLine nonces (line.carrying message (frame :: (opening ++ [last])))) :
    session.confirm now (.ok ()) =
      ⟨{ session with channel := channel.onLine nonces (line.carrying message (opening ++ [last])) }, [],
        [.radio (.write (opening.headD last).toBytes true)]⟩ := by
  rw [confirm, carrying, Channel.confirm_carrying, absorb_silent]

/-- The writing of a package goes on. -/
theorem smooth_next {channel : Channel} {line : Line} {message : Bytes} {frame last : Frame}
    {opening : List Frame} {nonces : Nonces}
    (carrying : session.channel =
      channel.onLine nonces (line.carrying message (frame :: (opening ++ [last])))) :
    Smooth answer session
      ⟨{ session with channel := channel.onLine nonces (line.carrying message (opening ++ [last])) }, [],
        [.radio (.write (opening.headD last).toBytes true)]⟩ [] := by
  refine .of_harmless rfl rfl ?_ ?_
  · rw [carrying]
    cases opening <;> simp [Effect.written?, Line.unwritten, Channel.onLine, Line.carrying]
  · intro _
    exact .inl (by simp [Effect.written?])

end Session

namespace Stage

variable {defaultMtu rank : Nat} {credentials : Credentials} {profile : SorcProfile} {session : Session}
  {frames : List Bytes} {peer : Sorc} {nonces : Nonces}

/-- Which frames of a package are written already does not matter for the stage. -/
theorem confirm_next {message : Bytes} {frame last : Frame} {opening : List Frame}
    (stage : Stage defaultMtu credentials profile rank session frames peer)
    (sending : session.channel.link.line.sending = some ⟨message, frame :: (opening ++ [last])⟩) :
    ∃ (channel : Channel) (nonces : Nonces) (line : Line),
      session.channel = channel.onLine nonces
        (line.carrying message (frame :: (opening ++ [last]))) ∧
      Stage defaultMtu credentials profile rank
        { session with channel := channel.onLine nonces (line.carrying message (opening ++ [last])) }
        frames peer := by
  cases stage with
  | rest channel listens => simp [channel, Channel.atRest, Channel.new, Link.new, Line.new] at sending
  | dialling channel listens => simp [channel, Channel.dialling, Channel.new, Line.new] at sending
  | settling channel brief awaits listens =>
    rw [channel] at sending
    cases sending
    have short := brief _ rfl
    simp at short
  | @proving _ _ _ _ heard _ receiving nonce inFlight answer channel vacant awaits answers listens =>
    rw [channel] at sending
    cases sending
    exact ⟨.proving (.willing heard) (.resting defaultMtu profile.mtu.toNat) credentials
        (credentials.token.begin nonce) none inFlight, heard,
      ⟨defaultMtu, profile.mtu.toNat, none, receiving⟩, channel,
      .proving rfl (by simp) awaits answers listens⟩
  | waiting channel outdated listens => simp [channel, Channel.proving] at sending
  | @sealing _ _ heard _ nonce key inFlight channel listens =>
    rw [channel] at sending
    cases sending
    exact ⟨.proving (.willing heard) (.resting defaultMtu profile.mtu.toNat) credentials
        (credentials.token.begin nonce) (some key) inFlight, heard,
      .resting defaultMtu profile.mtu.toNat, channel, .sealing rfl listens⟩
  | idle channel free listens inStep => simp [channel, Channel.secured] at sending
  | @asking _ _ _ _ heard _ receiving inFlight _ ours _ _ _ channel waiting queued awaits opens listens
      inStep =>
    rw [channel] at sending
    cases sending
    exact ⟨.secured (.willing heard) (.resting defaultMtu profile.mtu.toNat) credentials ours inFlight,
      heard, ⟨defaultMtu, profile.mtu.toNat, none, receiving⟩, channel,
      .asking rfl waiting queued awaits opens listens inStep⟩

/-- What holds of a turn in which the radio confirmed a write. -/
structure Confirms (defaultMtu : Nat) (credentials : Credentials) (profile : SorcProfile)
    (session : Session) (turn : SessionTurn) (prospect : Prospect) (rank : Nat) : Prop where
  leads : Leads defaultMtu credentials profile session turn prospect [] rank
  getsOn : session.state.GetsOn turn.state.state
  keeps : Account.Keeps turn.effects
  /-- Who waits for a confirmation still has written something. -/
  waits : turn.state.channel.link.line.sending.isSome = true →
    turn.effects.filterMap Effect.written? ≠ []

private theorem Confirms.of_free {turn : SessionTurn} {prospect : Prospect}
    (leads : Leads defaultMtu credentials profile session turn prospect [] rank)
    (getsOn : session.state.GetsOn turn.state.state) (keeps : Account.Keeps turn.effects)
    (free : turn.state.channel.link.line.sending = none) :
    Confirms defaultMtu credentials profile session turn prospect rank := by
  refine ⟨leads, getsOn, keeps, ?_⟩
  intro waiting
  simp [free] at waiting

/-- The last frame of a package was confirmed. -/
theorem confirm_last {message : Bytes} {last : Frame} (now : Nat) (nonces : Nonces)
    (stage : Stage defaultMtu credentials profile rank session frames peer)
    (settled : Session.Settled defaultMtu session)
    (sending : session.channel.link.line.sending = some ⟨message, [last]⟩) :
    Confirms defaultMtu credentials profile session (session.confirm now (.ok ()))
      ⟨frames, peer, nonces⟩ rank := by
  cases stage with
  | rest channel listens => simp [channel, Channel.atRest, Channel.new, Link.new, Line.new] at sending
  | dialling channel listens => simp [channel, Channel.dialling, Channel.new, Line.new] at sending
  | @settling _ _ _ heard _ receiving channel brief awaits listens =>
    rw [channel] at sending
    cases sending
    have confirmed := @Channel.confirm_settling_last ⟨defaultMtu, defaultMtu, none, receiving⟩ message last
      (.willing heard) credentials
    rw [Line.carrying] at confirmed
    rw [Session.confirm, channel, confirmed, Turn.idle, Session.absorb_silent]
    refine .of_free ⟨Session.Smooth.quiet rfl rfl ?_ (.inl rfl) rfl, .settling rfl (by simp) awaits listens⟩
      (.refl _) (.of_harmless rfl) rfl
    rw [channel]
    rfl
  | @proving _ _ _ _ heard _ receiving nonce inFlight answer channel vacant awaits answers listens =>
    rw [channel] at sending
    cases sending
    have confirmed := @Channel.confirm_proving_last ⟨defaultMtu, profile.mtu.toNat, none, receiving⟩ message
      last (.willing heard) credentials (credentials.token.begin nonce) none inFlight
    rw [Line.carrying] at confirmed
    rw [Session.confirm, channel, confirmed]
    simp only [Turn.idle, Session.absorb_silent]
    refine .of_free ⟨Session.Smooth.quiet rfl rfl ?_ (.inl rfl) rfl,
      .proving rfl (fun _ => rfl) awaits answers listens⟩ (.refl _) (.of_harmless rfl) rfl
    rw [channel]
    rfl
  | waiting channel outdated listens => simp [channel, Channel.proving] at sending
  | @sealing _ _ heard _ nonce key inFlight channel listens =>
    rw [channel] at sending
    cases sending
    have opening : session.state = .connecting credentials.token.sorcId .challenging := by
      rw [settled.agrees, channel]
      rfl
    have confirmed := @Channel.confirm_proving_last (.resting defaultMtu profile.mtu.toNat) message last
      (.willing heard) credentials (credentials.token.begin nonce) (some key) inFlight
    rw [Line.carrying, Line.resting] at confirmed
    rw [Session.confirm, channel, confirmed]
    simp only [Session.absorb_established]
    have free : session.outstanding = none := (settled.vacant (by rw [opening]; rfl)).outstanding
    refine .of_free ⟨Session.Smooth.quiet rfl rfl ?_ (.inl rfl) rfl, .idle rfl free listens (.fresh key)⟩
      (.inr ⟨_, _, opening, by simp, .inr rfl⟩) (.of_harmless rfl) rfl
    rw [channel]
    rfl
  | idle channel free listens inStep => simp [channel, Channel.secured] at sending
  | @asking _ _ _ _ heard _ receiving inFlight _ ours _ _ _ channel waiting queued awaits opens listens
      inStep =>
    rw [channel] at sending
    cases sending
    have confirmed := @Channel.confirm_secured_last ⟨defaultMtu, profile.mtu.toNat, none, receiving⟩ last
      (.willing heard) credentials ours inFlight message
    rw [Line.carrying] at confirmed
    rw [Session.confirm, channel, confirmed, Session.absorb_sent]
    refine .of_free ⟨Session.Smooth.quiet rfl rfl ?_ (.inl rfl) rfl,
      .asking rfl waiting queued awaits opens listens inStep⟩ (.refl _) (.of_harmless rfl) rfl
    rw [channel]
    rfl

/-- A confirmation does not change what the phone waits for, but for the one that completes the handshake. -/
theorem confirm (now : Nat) (nonces : Nonces)
    (stage : Stage defaultMtu credentials profile rank session frames peer)
    (settled : Session.Settled defaultMtu session) :
    Confirms defaultMtu credentials profile session (session.confirm now (.ok ()))
      ⟨frames, peer, nonces⟩ rank := by
  cases sending : session.channel.link.line.sending with
  | none =>
    rw [Session.confirm_of_free sending]
    exact .of_free ⟨.idle session, stage⟩ (.refl _) (.of_harmless rfl) sending
  | some package =>
    obtain ⟨message, pending⟩ := package
    have unfinished := (settled.lawful.underway sending).unfinished
    cases pending with
    | nil => exact absurd rfl unfinished
    | cons frame rest =>
      rcases List.eq_nil_or_concat' rest with rfl | ⟨opening, last, rfl⟩
      · exact stage.confirm_last now nonces settled sending
      · obtain ⟨channel, heard, line, carrying, next⟩ := stage.confirm_next sending
        rw [Session.confirm_next carrying]
        refine ⟨⟨Session.smooth_next carrying, next⟩, .refl _, .of_harmless rfl, ?_⟩
        intro _
        simp [Effect.written?]

end Stage

end PhoneKey
