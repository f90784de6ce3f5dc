import PhoneKey.Proofs.Channel.Reachable
import PhoneKey.Proofs.Config
import PhoneKey.Proofs.Simulation.Messages

/-! # Honest handshakes complete

A channel and an honest peer exchange the messages of a handshake until nothing is parked, whatever their
limits. They end with the session key of their nonces; a blob that the peer asks for is pushed on the way.
-/

namespace PhoneKey

namespace Bench

/-- The radio after it was asked to connect. -/
def joined (credentials : Credentials) (profile : SorcProfile) : Radio :=
  ⟨.new profile, [], [credentials.token.sorcId], 0, false, false⟩

/-- A channel at rest is asked to connect, and the radio reports that the peer is there. -/
def attempt (handset : Handset) (defaultMtu : Nat) (credentials : Credentials) (profile : SorcProfile) :
    Bench Channel :=
  let fresh := Bench.new (Channel.atRest handset defaultMtu) (Sorc.new profile)
  let dialled := (fresh.act fun channel _ => channel.connect credentials).2
  (dialled.act fun channel _ => channel.radioEvent (.connected profile.sorcId)).2

/-- The phone has begun to send the challenge with a nonce, and these messages went before it. -/
def Challenges (bench : Bench Channel) (defaultMtu : Nat) (credentials : Credentials) (profile : SorcProfile)
    (received : List Message) (nonce : Block) (nonces : Nonces) : Prop :=
  Speaks bench
    (.proving (.willing nonces) (.resting defaultMtu profile.mtu.toNat) credentials
      (credentials.token.begin nonce) none (some (credentials.token.challenge nonce)))
    nonces (.resting defaultMtu profile.mtu.toNat) (joined credentials profile)
    ⟨profile, none, none, .empty, received⟩ (credentials.token.challenge nonce)

variable {bench : Bench Channel} {handset : Handset} {credentials : Credentials} {profile : SorcProfile}
  {received : List Message} {nonce : Block} {nonces : Nonces} {defaultMtu : Nat}

/-- The attempt stands where the report leaves it that the peer is there. -/
theorem attempt_stands {reached : Turn Channel ChannelReport}
    (same : profile.sorcId = credentials.token.sorcId)
    (reports : (Channel.dialling (.willing handset.nonces) defaultMtu credentials).radioEvent
      (.connected credentials.token.sorcId) = reached)
    (prepared : Prepared reached.state ((joined credentials profile).perform reached.effects)) :
    Stands (attempt handset defaultMtu credentials profile) reached.state
      ((joined credentials profile).perform reached.effects) := by
  -- The bench makes the radio take writes before each turn, whatever the handset said about them.
  have dialled : Stands
      ((Bench.new (Channel.atRest handset defaultMtu) (.new profile)).act
        fun channel _ => channel.connect credentials).2
      (.dialling (.willing handset.nonces) defaultMtu credentials) (joined credentials profile) :=
    ⟨rfl, rfl, rfl⟩
  rw [← same] at reports
  exact (dialled.act (fun channel _ => channel.radioEvent (.connected profile.sorcId)) (fun _ => reports)
    prepared).2

theorem attempt_speaks (limit : Frame.headerSize < defaultMtu)
    (same : profile.sorcId = credentials.token.sorcId) :
    Speaks (attempt handset defaultMtu credentials profile)
      (.settling (.willing handset.nonces) (.resting defaultMtu defaultMtu) credentials) handset.nonces
      (.resting defaultMtu defaultMtu) (joined credentials profile) (.new profile) Channel.limitRequest := by
  have size : 0 < Frame.sizeForMtu defaultMtu := Nat.sub_pos_of_lt limit
  obtain ⟨opening, last, cut, whole⟩ := @Frame.split_whole Channel.limitRequest.toBytes _ size (by decide)
  have reached := Channel.radioEvent_reached handset.nonces credentials cut
  exact ⟨rfl, opening, last, whole, attempt_stands same reached (prepared_of_willing rfl rfl)⟩

/-- The peer tells its limit, and the handshake opens under it. -/
theorem attempt_challenges_of_room (limit : Frame.headerSize < defaultMtu)
    (same : profile.sorcId = credentials.token.sorcId) (room : Frame.headerSize < profile.mtu.toNat)
    (fits : (credentials.token.challenge (handset.nonces.nth 0)).toBytes.length ≤ maxMessageLength) :
    Leads (attempt handset defaultMtu credentials profile)
      [.connectionChanged ⟨.connecting credentials.token.sorcId .challenging,
        .entered credentials.token.sorcId .challenging⟩]
      (Challenges · defaultMtu credentials profile [Channel.limitRequest] (handset.nonces.nth 0)
        handset.nonces.draw.2) := by
  have size : 0 < Frame.sizeForMtu profile.mtu.toNat := Nat.sub_pos_of_lt room
  obtain ⟨opening, last, cut, whole⟩ := Frame.split_whole size fits
  have told := (attempt_speaks limit same).answered
    (.settling (.willing handset.nonces) (.resting defaultMtu defaultMtu) credentials)
    ⟨Sorc.respond_limitRequest, rfl, room, by simp [Message.toBytes, maxMessageLength]⟩
    (fun last => Channel.confirm_settling_last (.willing handset.nonces) credentials) (.inl rfl)
    (fun raw receiving taken => Channel.receive_limit handset.nonces credentials taken room rfl cut)
    (prepared_of_willing rfl rfl)
  exact told.imp fun next stands => ⟨rfl, opening, last, whole, stands⟩

/-- A peer that is content with the blob proves that it holds the key, and the phone's answer completes the
handshake. -/
theorem Challenges.completes
    (challenges : Challenges bench defaultMtu credentials profile received nonce nonces)
    (honest : profile.Honest credentials.token)
    (unrequired : profile.requiredBlob = none) (unrequested : profile.requestedBlob = none) :
    Leads bench
      [.connectionChanged ⟨.connected credentials.token.sorcId, .established credentials.token.sorcId⟩]
      (Stands ·
        (.secured (.willing nonces.draw.2) (.resting defaultMtu profile.mtu.toNat) credentials
          (.new (Handshake.sessionKey nonces.draw.1 nonce) .toSorc) none)
        { joined credentials profile with
          sorc := ⟨profile, none, some (.new (Handshake.sessionKey nonces.draw.1 nonce) .toPhone), .empty,
            received ++ [credentials.token.challenge nonce] ++
              [(credentials.token.begin nonce).reply nonces.draw.1]⟩ }) := by
  have proves : Replies ⟨profile, none, none, .empty, received⟩ nonces (credentials.token.challenge nonce)
      ((credentials.token.begin nonce).proof nonces.draw.1) _ nonces.draw.2 :=
    ⟨Sorc.respond_challenge honest nonce unrequired unrequested, rfl, honest.room,
      by simp [Message.toBytes, Handshake.proof, maxMessageLength]⟩
  have proven := Speaks.continues challenges proves honest.room
    (by simp [Message.toBytes, Handshake.reply, Handshake.response, maxMessageLength])
    (Channel.handshakeMessage_proof (.willing nonces.draw.2) (.resting defaultMtu profile.mtu.toNat)
      credentials (credentials.token.begin nonce) nonces.draw.1)
  refine proven.append fun next speaks => ?_
  -- The session key is in force once the last frame of the phone's answer has been confirmed.
  exact speaks.unanswered (Sorc.respond_reply honest.key rfl)
    (fun last => Channel.confirm_proving_last (.willing nonces.draw.2) credentials _ _ _)
    (prepared_of_willing rfl rfl)

private theorem replies_of_required {least : UInt32} (room : Frame.headerSize < profile.mtu.toNat)
    (required : profile.requiredBlob = some least) :
    Replies ⟨profile, none, none, .empty, received⟩ nonces (credentials.token.challenge nonce)
      ⟨.badChallengeSorcResponse, 0 :: Bytes.bigEndian 4 least.toNat⟩
      ⟨profile, none, none, .empty, received ++ [credentials.token.challenge nonce]⟩ nonces :=
  ⟨Sorc.respond_requiring credentials.token nonce required, rfl, room,
    by simp [Message.toBytes, maxMessageLength]⟩

private theorem replies_of_requested {known : UInt32} (room : Frame.headerSize < profile.mtu.toNat)
    (unrequired : profile.requiredBlob = none) (requested : profile.requestedBlob = some known) :
    Replies ⟨profile, none, none, .empty, received⟩ nonces (credentials.token.challenge nonce)
      ⟨.ltBlobRequest, Bytes.littleEndian 4 known.toNat⟩
      ⟨profile, none, none, .empty, received ++ [credentials.token.challenge nonce]⟩ nonces :=
  ⟨Sorc.respond_requesting credentials.token nonce unrequired requested, rfl, room,
    by simp [Message.toBytes, maxMessageLength]⟩

/-- What a peer that wants the blob answers to a challenge makes the phone push it. -/
theorem answer_of_wants (room : Frame.headerSize < profile.mtu.toNat)
    (wants : profile.Wants credentials.blob.counter) :
    ∃ answer : Message,
      Replies ⟨profile, none, none, .empty, received⟩ nonces (credentials.token.challenge nonce) answer
        ⟨profile, none, none, .empty, received ++ [credentials.token.challenge nonce]⟩ nonces ∧
      ∀ (line : Line) (begun : Handshake),
        (Channel.proving (.willing nonces) line credentials begun none none).handshakeMessage answer =
          (Channel.proving (.willing nonces) line credentials begun none none).pushBlob := by
  rcases wants with ⟨least, required, enough⟩ | ⟨unrequired, known, requested, newer⟩
  · refine ⟨_, replies_of_required room required, fun line begun => ?_⟩
    rw [Channel.handshakeMessage_rejection, if_neg (UInt32.not_lt.mpr enough)]
  · refine ⟨_, replies_of_requested room unrequired requested, fun line begun => ?_⟩
    rw [Channel.handshakeMessage_request, if_pos newer]

/-- A peer that wants the blob gets it, and the handshake opens anew. -/
theorem Challenges.pushes_of_room {payload : Bytes}
    (challenges : Challenges bench defaultMtu credentials profile received nonce nonces)
    (room : Frame.headerSize < profile.mtu.toNat) (wants : profile.Wants credentials.blob.counter)
    (readable : Payload.blob credentials.blob.data = .ok payload)
    (blobFits : (Message.toBytes ⟨.ltBlob, payload⟩).length ≤ maxMessageLength)
    (fits : (credentials.token.challenge (nonces.nth 0)).toBytes.length ≤ maxMessageLength) :
    Leads bench []
      (Challenges · defaultMtu credentials profile.satisfied
        (received ++ [credentials.token.challenge nonce] ++ [⟨.ltBlob, payload⟩]) (nonces.nth 0)
        nonces.draw.2) := by
  obtain ⟨answer, replies, pushes⟩ := answer_of_wants room wants
  have pushed := Speaks.continues challenges replies room blobFits
    ((pushes _ _).trans (Channel.pushBlob_readable _ _ credentials _ readable))
  refine pushed.append fun next speaks => ?_
  have acknowledged : Replies
      ⟨profile, none, none, .empty, received ++ [credentials.token.challenge nonce]⟩ nonces
      ⟨.ltBlob, payload⟩ (.empty .ltAck) _ nonces :=
    ⟨Sorc.respond_blob payload, rfl, room,
      by simp [Message.toBytes, Message.empty, maxMessageLength]⟩
  -- The two radios differ in the profile of a peer that `Speaks` replaces.
  have renewed := speaks.continues acknowledged room fits
    (Channel.handshakeMessage_ack (.willing nonces) _ credentials _)
  exact renewed.imp fun last speaks => ⟨speaks.takes, speaks.parked⟩

/-- A peer that requires a newer blob than the phone has ends the attempt. -/
theorem Challenges.ends_of_room {counter : UInt32}
    (challenges : Challenges bench defaultMtu credentials profile received nonce nonces)
    (room : Frame.headerSize < profile.mtu.toNat) (required : profile.requiredBlob = some counter)
    (newer : credentials.blob.counter < counter) :
    Leads bench
      [.connectionChanged ⟨.disconnected, .connectingFailed credentials.token.sorcId .blobOutdated⟩]
      (Stands · (.atRest (.willing nonces) defaultMtu)
        { joined credentials profile with
          disconnects := 1
          sorc := ⟨profile, none, none, .empty, received ++ [credentials.token.challenge nonce]⟩ }) := by
  have closed := @Channel.handshakeMessage_rejection (.willing nonces) (.resting defaultMtu profile.mtu.toNat)
    credentials (credentials.token.begin nonce) none counter
  have hungUp := @Channel.close_of_engaged defaultMtu
    (.proving (.willing nonces) (.resting defaultMtu profile.mtu.toNat) credentials
      (credentials.token.begin nonce) none none) credentials.token.sorcId rfl rfl rfl
    (.protocol .blobOutdated)
  rw [if_pos newer, hungUp] at closed
  exact Speaks.proceeds challenges (replies_of_required room required) closed (prepared_of_willing rfl rfl)

/-- A peer that requests a newer blob than the phone has is left without an answer. -/
theorem Challenges.waits_of_room {counter : UInt32}
    (challenges : Challenges bench defaultMtu credentials profile received nonce nonces)
    (room : Frame.headerSize < profile.mtu.toNat) (unrequired : profile.requiredBlob = none)
    (requested : profile.requestedBlob = some counter) (older : credentials.blob.counter ≤ counter) :
    Leads bench []
      (Stands ·
        (.proving (.willing nonces) (.resting defaultMtu profile.mtu.toNat) credentials
          (credentials.token.begin nonce) none none)
        { joined credentials profile with
          sorc := ⟨profile, none, none, .empty, received ++ [credentials.token.challenge nonce]⟩ }) := by
  have ignored := @Channel.handshakeMessage_request (.willing nonces) (.resting defaultMtu profile.mtu.toNat)
    credentials (credentials.token.begin nonce) none counter
  rw [if_neg (UInt32.not_lt.mpr older)] at ignored
  exact Speaks.proceeds challenges (replies_of_requested room unrequired requested) ignored
    (prepared_of_willing rfl rfl)

/-- Phone and peer hold the session key of their nonces, and these messages have reached the peer. -/
def Completes (bench : Bench Channel) (sorcId : Uuid) (sorcNonce phoneNonce : Block)
    (received : List Message) : Prop :=
  ∃ last, bench.Settles
      [.connectionChanged ⟨.connecting sorcId .challenging, .entered sorcId .challenging⟩,
        .connectionChanged ⟨.connected sorcId, .established sorcId⟩] last ∧
    last.layer.state = .connected sorcId ∧
    last.layer.protection = .sealed (.new (Handshake.sessionKey sorcNonce phoneNonce) .toSorc) ∧
    last.radio.sorc.session = some (.new (Handshake.sessionKey sorcNonce phoneNonce) .toPhone) ∧
    last.radio.sorc.received = received

/-- The attempt has failed because the peer knows a newer blob. -/
def IsOutdated (bench : Bench Channel) (sorcId : Uuid) (received : List Message) : Prop :=
  ∃ last, bench.Settles
      [.connectionChanged ⟨.connecting sorcId .challenging, .entered sorcId .challenging⟩,
        .connectionChanged ⟨.disconnected, .connectingFailed sorcId .blobOutdated⟩] last ∧
    last.layer.state = .disconnected ∧ last.radio.sorc.received = received

/-- The phone waits for the peer to go on with the handshake. -/
def Waits (bench : Bench Channel) (sorcId : Uuid) (received : List Message) : Prop :=
  ∃ last, bench.Settles
      [.connectionChanged ⟨.connecting sorcId .challenging, .entered sorcId .challenging⟩] last ∧
    last.layer.state = .connecting sorcId .challenging ∧ last.radio.sorc.received = received

/-- An attempt at an honest peer completes if the peer asks for no blob or the phone's blob is new enough for
it; the blob is then pushed once, and the handshake opens a second time. -/
theorem attempt_settles {config : Config} {payload : Bytes} (valid : config.check = .ok ())
    (handset : Handset) (credentials : Credentials) (profile : SorcProfile)
    (honest : profile.Honest credentials.token) (readable : Payload.blob credentials.blob.data = .ok payload)
    (blobFits : (Message.toBytes ⟨.ltBlob, payload⟩).length ≤ maxMessageLength)
    (fits : (credentials.token.challenge (handset.nonces.nth 0)).toBytes.length ≤ maxMessageLength) :
    let bench := attempt handset config.defaultMtu.toNat credentials profile
    let token := credentials.token
    let nonce := handset.nonces.nth
    (profile.requiredBlob = none → profile.requestedBlob = none →
      bench.Completes token.sorcId (nonce 1) (nonce 0)
        [Channel.limitRequest, token.challenge (nonce 0), (token.begin (nonce 0)).reply (nonce 1)]) ∧
    (profile.Wants credentials.blob.counter →
      bench.Completes token.sorcId (nonce 2) (nonce 1)
        [Channel.limitRequest, token.challenge (nonce 0), ⟨.ltBlob, payload⟩, token.challenge (nonce 1),
          (token.begin (nonce 1)).reply (nonce 2)]) ∧
    (∀ counter, profile.requiredBlob = some counter → credentials.blob.counter < counter →
      bench.IsOutdated token.sorcId [Channel.limitRequest, token.challenge (nonce 0)]) ∧
    (∀ counter, profile.requiredBlob = none → profile.requestedBlob = some counter →
      credentials.blob.counter ≤ counter →
      bench.Waits token.sorcId [Channel.limitRequest, token.challenge (nonce 0)]) := by
  intro bench token nonce
  have opened :=
    attempt_challenges_of_room (Config.usable_of_check valid).room honest.sorcId honest.room fits
  refine ⟨fun unrequired unrequested => ?_, fun wants => ?_, fun counter required newer => ?_,
    fun counter unrequired requested older => ?_⟩
  · have leads := opened.append fun next challenges => challenges.completes honest unrequired unrequested
    obtain ⟨last, settles, layer, radio⟩ := leads.settles rfl
    refine ⟨last, settles, ?_⟩
    rw [layer, radio]
    exact ⟨rfl, rfl, rfl, rfl⟩
  · -- The second challenge is as long as the first.
    have fitting := (credentials.token.length_challenge (nonce 0) (nonce 1)) ▸ fits
    have pushed := opened.append fun next challenges =>
      challenges.pushes_of_room honest.room wants readable blobFits fitting
    have leads := pushed.append fun next challenges => challenges.completes honest.satisfied rfl rfl
    obtain ⟨last, settles, layer, radio⟩ := leads.settles rfl
    refine ⟨last, settles, ?_⟩
    rw [layer, radio]
    exact ⟨rfl, rfl, rfl, rfl⟩
  · have leads := opened.append fun next challenges =>
      challenges.ends_of_room honest.room required newer
    obtain ⟨last, settles, layer, radio⟩ := leads.settles rfl
    refine ⟨last, settles, ?_⟩
    rw [layer, radio]
    exact ⟨rfl, rfl⟩
  · have leads := opened.append fun next challenges =>
      challenges.waits_of_room honest.room unrequired requested older
    obtain ⟨last, settles, layer, radio⟩ := leads.settles rfl
    refine ⟨last, settles, ?_⟩
    rw [layer, radio]
    exact ⟨rfl, rfl⟩

/-- The peer requires the third blob and gets the fifth. -/
theorem attempt_completes_requiring :
    let credentials : Credentials := ⟨Channel.zeroCredentials.token, ⟨5, "AQID"⟩⟩
    let profile := { SorcProfile.ofToken credentials.token with requiredBlob := some 3 }
    (attempt (Channel.zeroHandset 0) Config.standard.defaultMtu.toNat credentials profile).Completes
      credentials.token.sorcId .zero .zero
      [Channel.limitRequest, credentials.token.challenge .zero, ⟨.ltBlob, [1, 2, 3]⟩,
        credentials.token.challenge .zero, (credentials.token.begin .zero).reply .zero] := by
  intro credentials profile
  have readable : Payload.blob credentials.blob.data = .ok [1, 2, 3] := by decide +kernel
  have fits : (credentials.token.challenge .zero).toBytes.length ≤ maxMessageLength := by decide +kernel
  have honest : profile.Honest credentials.token := ⟨rfl, rfl, by decide, rfl, rfl⟩
  have settled := @attempt_settles .standard [1, 2, 3] rfl (Channel.zeroHandset 0) credentials profile honest
    readable (by decide) fits
  exact settled.2.1 (.inl ⟨3, rfl, by decide⟩)

end Bench

end PhoneKey
