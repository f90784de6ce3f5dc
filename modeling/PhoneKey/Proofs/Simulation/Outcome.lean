import PhoneKey.Proofs.Simulation.Handshake
import PhoneKey.Proofs.Simulation.Prospect

/-! # How an attempt comes out

Whatever limits there are, whatever blob the peer asks for and whatever it makes of its proof, an attempt at a
peer of the token settles: there is no connection, or the peer is honest and both ends hold one session key.
-/

namespace PhoneKey

/-- A message that is too long for a package is refused before anything is written. -/
theorem Link.start_long (link : Link) {message : Bytes} (long : maxMessageLength < message.length) :
    ∃ cause, link.start message = ⟨some cause, link, []⟩ := by
  have refused : ∃ cause, link.line.launch message = .error cause := by
    cases busy : link.line.isBusy with
    | true => exact ⟨_, by simp [Line.launch, busy]; rfl⟩
    | false =>
      cases size : Frame.sizeForMtu link.line.mtu <;>
        exact ⟨_, by simp [Line.launch, busy, Package.make, size, Frame.split, long, Except.map]; rfl⟩
  obtain ⟨cause, refused⟩ := refused
  exact ⟨cause, by simp only [start, refused]⟩

/-- Without room for payload in a frame nothing is written. -/
theorem Link.start_narrow (link : Link) (message : Bytes) (narrow : link.line.mtu ≤ Frame.headerSize) :
    ∃ cause, link.start message = ⟨some cause, link, []⟩ := by
  have size : Frame.sizeForMtu link.line.mtu = 0 := Nat.sub_eq_zero_of_le narrow
  have refused : ∃ cause, link.line.launch message = .error cause := by
    cases busy : link.line.isBusy with
    | true => exact ⟨_, by simp [Line.launch, busy]; rfl⟩
    | false => exact ⟨_, by simp [Line.launch, busy, Package.make, size, Frame.split, Except.map]; rfl⟩
  obtain ⟨cause, refused⟩ := refused
  exact ⟨cause, by simp only [start, refused]⟩

namespace Channel

variable {defaultMtu : Nat} {line : Line}

/-- A message of the handshake that is too long ends the attempt. -/
theorem transmit_long {message : Message} (long : maxMessageLength < message.toBytes.length)
    (default : line.defaultMtu = defaultMtu) (handset : Handset) (credentials : Credentials)
    (handshake : Handshake) (key : Option Block) (inFlight : Option Message) :
    (proving handset line credentials handshake key inFlight).transmit message =
      ended handset defaultMtu credentials.token.sorcId (.protocol (.handshakeFailed none)) hangUpEffects := by
  obtain ⟨cause, refused⟩ :=
    Link.start_long ⟨handset, line, .connected credentials.token.sorcId⟩ long
  rcases transmit_proving default handset credentials handshake key inFlight refused.symm with
    ⟨taken, _⟩ | ⟨_, sent⟩
  · cases taken
  · exact sent

/-- A blob that cannot be read ends the attempt. -/
theorem pushBlob_unreadable {credentials : Credentials} {cause : LeaseError}
    (unreadable : Payload.blob credentials.blob.data = .error cause) (default : line.defaultMtu = defaultMtu)
    (handset : Handset) (handshake : Handshake) (key : Option Block) (inFlight : Option Message) :
    (proving handset line credentials handshake key inFlight).pushBlob =
      ended handset defaultMtu credentials.token.sorcId (.protocol (.handshakeFailed none)) hangUpEffects := by
  have closed := close_of_engaged (proving handset line credentials handshake key inFlight)
    rfl rfl default (.protocol (.handshakeFailed none))
  simp only [pushBlob, proving, unreadable] at closed ⊢
  exact closed

/-- The peer tells its limit, and the message that would open the handshake is too long. -/
theorem receive_limit_long {next : Line} {raw : Bytes} {mtu : UInt8} {rest : Bytes}
    (default : line.defaultMtu = defaultMtu) (nonces : Nonces) (credentials : Credentials)
    (received : line.receive raw = (.ok (some (Message.toBytes ⟨.mtuReceive, mtu :: rest⟩)), next))
    (limit : Frame.headerSize < mtu.toNat)
    (long : maxMessageLength < (opening (.willing nonces) credentials).1.toBytes.length) :
    (settling (.willing nonces) line credentials).receive (.ok raw) =
      ⟨atRest (.willing nonces.draw.2) defaultMtu,
        [.connectionChanged ⟨.connecting credentials.token.sorcId .challenging,
          .entered credentials.token.sorcId .challenging⟩,
         .connectionChanged ⟨.disconnected,
          .connectingFailed credentials.token.sorcId (.handshakeFailed none)⟩],
        openingEffects credentials.token.sorcId ++ hangUpEffects ++
          [.announce (.channel ⟨.disconnected,
            .connectingFailed credentials.token.sorcId (.handshakeFailed none)⟩)]⟩ := by
  have lower : (settling (.willing nonces) line credentials).link.receive (.ok raw) =
      Link.publish ⟨.willing nonces, next.dropSending.2.withMtu mtu.toNat,
          .connecting credentials.token.sorcId .requestingMtu⟩
        (.connected credentials.token.sorcId) (.established credentials.token.sorcId) := by
    simp [settling, new, Link.receive, received, Link.mtuReceived, Payload.mtu?, limit]
  have same : (next.dropSending.2.withMtu mtu.toNat).defaultMtu = defaultMtu := by
    obtain ⟨receiving, rfl⟩ := Line.receive_frame received
    exact default
  have sent := transmit_long long same (.willing nonces.draw.2) credentials
    (opening (.willing nonces) credentials).2 none none
  rw [receive, lower, Link.publish, absorb_report]
  erw [linkReported_of_settled]
  rw [Turn.andThen]
  erw [sent]
  rfl

/-- A proof that does not hold ends the attempt, whether the peer was told or not. -/
theorem handshakeMessage_spoilt {mtu : Nat} {payload : Bytes} {handshake : Handshake}
    (limit : Frame.headerSize < mtu)
    (spoilt : ∀ b1 b2, Payload.sorcResponse payload = .ok (b1, b2) →
      b2 ≠ handshake.cipher.encrypt (handshake.nonce.rotate.xor b1))
    (nonces : Nonces) (credentials : Credentials) :
    ∃ cause effects, (proving (.willing nonces) (.resting defaultMtu mtu) credentials handshake none
        none).handshakeMessage ⟨.challengeSorcResponse, payload⟩ =
      (ended (.willing nonces) defaultMtu credentials.token.sorcId (.protocol (.handshakeFailed (some cause)))
        hangUpEffects).after effects := by
  have checks : (proving (.willing nonces) (.resting defaultMtu mtu) credentials handshake none
      none).handshakeMessage ⟨.challengeSorcResponse, payload⟩ =
      (proving (.willing nonces) (.resting defaultMtu mtu) credentials handshake none none).follow
        (handshake.answer payload) := rfl
  have outcome := handshake.answered payload
  rw [checks]
  generalize handshake.answer payload = step at outcome ⊢
  cases outcome with
  | unreadable cause =>
    exact ⟨cause, [], @close_of_engaged defaultMtu
      (proving (.willing nonces) (.resting defaultMtu mtu) credentials handshake none none) _ rfl rfl rfl _⟩
  | rejects =>
    have size : 0 < Frame.sizeForMtu mtu := Nat.sub_pos_of_lt limit
    obtain ⟨opening, last, cut, _⟩ :=
      @Frame.split_whole (Message.toBytes (.empty .badChallengePhoneResponse)) _ size (by decide)
    have started := @Link.start_willing (.resting defaultMtu mtu) _ opening last nonces
      (.connected credentials.token.sorcId) rfl cut
    exact ⟨_, _, follow_rejected rfl _ _ _ none none _ started.symm⟩
  | accepts read holds => exact absurd holds (spoilt _ _ read)

/-- The peer was reached, and the default limit leaves no room to ask for another one. -/
theorem radioEvent_narrow (narrow : defaultMtu ≤ Frame.headerSize) (handset : Handset)
    (credentials : Credentials) :
    (dialling handset defaultMtu credentials).radioEvent (.connected credentials.token.sorcId) =
      ⟨atRest handset defaultMtu,
        [.connectionChanged ⟨.connecting credentials.token.sorcId .transport,
          .entered credentials.token.sorcId .transport⟩,
         .connectionChanged ⟨.disconnected,
          .connectingFailed credentials.token.sorcId .invalidMtuResponse⟩],
        [.announce (.link ⟨.connecting credentials.token.sorcId .requestingMtu,
            .entered credentials.token.sorcId .requestingMtu⟩),
         .radio .disconnect,
         .announce (.link ⟨.disconnected, .connectingFailed credentials.token.sorcId .invalidMtuResponse⟩),
         .announce (.channel ⟨.connecting credentials.token.sorcId .transport,
            .entered credentials.token.sorcId .transport⟩),
         .announce (.channel ⟨.disconnected,
            .connectingFailed credentials.token.sorcId .invalidMtuResponse⟩)]⟩ := by
  obtain ⟨cause, refused⟩ := Link.start_narrow
    ⟨handset, .new defaultMtu, .connecting credentials.token.sorcId .requestingMtu⟩ limitRequest.toBytes
    narrow
  have upper : { settling handset (.new defaultMtu) credentials with
        link := .new handset defaultMtu }.linkReported
      (.connectionChanged ⟨.disconnected,
        .connectingFailed credentials.token.sorcId .invalidMtuResponse⟩) =
      ended handset defaultMtu credentials.token.sorcId (.protocol .invalidMtuResponse) [] :=
    linkReported_of_ended rfl rfl (.protocol .invalidMtuResponse)
  have reached : (dialling handset defaultMtu credentials).link =
    ⟨handset, .new defaultMtu, .connecting credentials.token.sorcId .physical⟩ := rfl
  rw [radioEvent, reached, Link.radioEvent_of_unasked refused.symm rfl, absorb_pair,
    linkReported_of_reached, Turn.andThen]
  erw [upper]
  rfl

end Channel

namespace Bench

variable {bench : Bench Channel} {handset : Handset} {credentials : Credentials} {profile : SorcProfile}
  {received : List Message} {nonce : Block} {nonces : Nonces} {defaultMtu : Nat}

/-- How an attempt comes out: there is no connection and nothing on its way, or the peer is honest, both ends
hold one key, and the peer has got the blob if it asked for one. -/
def ComesOut (defaultMtu : Nat) (credentials : Credentials) (profile : SorcProfile) (last : Bench Channel) :
    Prop :=
  last.layer.state.isConnected = false ∧ last.radio.parked = [] ∨
  profile.Honest credentials.token ∧ ∃ nonces key later received, profile.Remains later ∧
    Stands last
      (.secured (.willing nonces) (.resting defaultMtu profile.mtu.toNat) credentials (.new key .toSorc) none)
      { joined credentials profile with sorc := ⟨later, none, some (.new key .toPhone), .empty, received⟩ }

/-- A bench comes out by exchanges in which nothing but changes of the connection is reported. -/
def Resolves (bench : Bench Channel) (defaultMtu : Nat) (credentials : Credentials) (profile : SorcProfile) :
    Prop :=
  ∃ changes : List SessionChange,
    Leads bench (changes.map .connectionChanged) (ComesOut defaultMtu credentials profile)

/-- There is no connection, and nothing is on its way. -/
theorem ComesOut.of_stands {channel : Channel} {radio : Radio} (stands : Stands bench channel radio)
    (closed : channel.state.isConnected = false) (quiet : radio.parked = []) :
    ComesOut defaultMtu credentials profile bench := by
  left
  rw [stands.layer_eq, stands.radio_eq]
  exact ⟨closed, quiet⟩

/-- Whatever was written before, hanging up takes it back. -/
theorem ComesOut.of_ended {handset : Handset} {radio : Radio} {sorcId : Uuid} {cause : EndCause}
    {before : List Effect}
    (stands : Stands bench (.atRest handset defaultMtu)
      (radio.perform ((Channel.ended handset defaultMtu sorcId cause Channel.hangUpEffects).after
        before).effects)) : ComesOut defaultMtu credentials profile bench := by
  refine .of_stands stands rfl ?_
  rw [Radio.perform, Turn.after, List.foldl_append]
  rfl

private theorem Leads.resolves {changes : List SessionChange}
    (leads : Leads bench (changes.map .connectionChanged) (Resolves · defaultMtu credentials profile)) :
    Resolves bench defaultMtu credentials profile := by
  obtain ⟨exchanges, next, path, told, following, rest⟩ := leads
  have first : Leads bench (changes.map .connectionChanged) (· = next) := ⟨exchanges, next, path, told, rfl⟩
  refine ⟨changes ++ following, ?_⟩
  rw [List.map_append]
  exact first.append fun _ same => same ▸ rest

/-- What a peer wants that has got the blob is the same as before. -/
theorem Resolves.of_satisfied (resolves : Resolves bench defaultMtu credentials profile.satisfied) :
    Resolves bench defaultMtu credentials profile := by
  obtain ⟨changes, leads⟩ := resolves
  refine ⟨changes, leads.imp fun last comesOut => ?_⟩
  rcases comesOut with gone | ⟨honest, nonces, key, later, received, remains, stands⟩
  · exact .inl gone
  · exact .inr ⟨⟨honest.sorcId, honest.key, honest.room, honest.whole, honest.proves⟩,
      nonces, key, later, received, .trans (.inr rfl) remains, stands⟩

/-- A peer that wants no blob completes the handshake if it is honest, and is turned away otherwise. -/
theorem Challenges.resolves_of_content
    (challenges : Challenges bench defaultMtu credentials profile received nonce nonces)
    (shares : profile.Shares credentials.token) (room : Frame.headerSize < profile.mtu.toNat)
    (unrequired : profile.requiredBlob = none) (unrequested : profile.requestedBlob = none) :
    Resolves bench defaultMtu credentials profile := by
  by_cases spoils : profile.corrupts = true ∨ profile.forges = true
  · obtain ⟨payload, handshake, rest, responded, short, spoilt⟩ := @Sorc.respond_spoilt
      ⟨profile, none, none, .empty, received ++ [credentials.token.challenge nonce]⟩ nonces credentials.token
      shares.key spoils nonce unrequired unrequested
    have replies : Replies ⟨profile, none, none, .empty, received⟩ nonces (credentials.token.challenge nonce)
        ⟨.challengeSorcResponse, payload⟩ _ rest :=
      ⟨responded, rfl, room, by
        simp only [Message.toBytes, List.length_cons, maxMessageLength, Block.size] at short ⊢
        omega⟩
    obtain ⟨cause, effects, told⟩ := @Channel.handshakeMessage_spoilt defaultMtu profile.mtu.toNat payload
      (credentials.token.begin nonce) room spoilt rest credentials
    refine ⟨[⟨.disconnected, .connectingFailed credentials.token.sorcId (.handshakeFailed (some cause))⟩], ?_⟩
    have ended := Speaks.proceeds challenges replies told
      (prepared_of_willing rfl (Radio.failsWrites_perform _ _))
    exact ended.imp fun last stands => .of_ended stands
  · obtain ⟨whole, proves⟩ := not_or.mp spoils
    have honest : profile.Honest credentials.token :=
      ⟨shares.sorcId, shares.key, room, Bool.eq_false_of_not_eq_true whole, Bool.eq_false_of_not_eq_true proves⟩
    refine ⟨[⟨.connected credentials.token.sorcId, .established credentials.token.sorcId⟩], ?_⟩
    have completes := challenges.completes honest unrequired unrequested
    exact completes.imp fun last stands => .inr ⟨honest, _, _, profile, _, .refl profile, stands⟩

/-- A peer that wants the blob gets it, unless the blob cannot be read or is too long. -/
theorem Challenges.resolves_of_wants
    (challenges : Challenges bench defaultMtu credentials profile received nonce nonces)
    (shares : profile.Shares credentials.token) (room : Frame.headerSize < profile.mtu.toNat)
    (wants : profile.Wants credentials.blob.counter)
    (fits : (credentials.token.challenge nonce).toBytes.length ≤ maxMessageLength) :
    Resolves bench defaultMtu credentials profile := by
  obtain ⟨answer, replies, pushes⟩ := answer_of_wants room wants
  have fails : Channel.pushBlob (.proving (.willing nonces) (.resting defaultMtu profile.mtu.toNat)
        credentials (credentials.token.begin nonce) none none) =
      Channel.ended (.willing nonces) defaultMtu credentials.token.sorcId
        (.protocol (.handshakeFailed none)) Channel.hangUpEffects →
      Resolves bench defaultMtu credentials profile := by
    intro failed
    refine ⟨[⟨.disconnected, .connectingFailed credentials.token.sorcId (.handshakeFailed none)⟩], ?_⟩
    have ended := Speaks.proceeds challenges replies ((pushes _ _).trans failed) (prepared_of_willing rfl rfl)
    exact ended.imp fun last stands => .of_stands stands rfl rfl
  cases readable : Payload.blob credentials.blob.data with
  | error cause => exact fails (Channel.pushBlob_unreadable readable rfl _ _ none none)
  | ok payload =>
    by_cases blobFits : (Message.toBytes ⟨.ltBlob, payload⟩).length ≤ maxMessageLength
    · have fitting := (credentials.token.length_challenge nonce (nonces.nth 0)) ▸ fits
      have pushed := challenges.pushes_of_room room wants readable blobFits fitting
      refine @Leads.resolves _ credentials profile defaultMtu [] (pushed.imp fun next challenges => ?_)
      exact (challenges.resolves_of_content ⟨shares.sorcId, shares.key⟩ room rfl rfl).of_satisfied
    · have sent := @Channel.pushBlob_readable (.willing nonces) (.resting defaultMtu profile.mtu.toNat)
        credentials (credentials.token.begin nonce) none payload readable
      exact fails (sent.trans (Channel.transmit_long (Nat.not_le.mp blobFits) rfl _ _ _ none none))

private theorem Challenges.resolves
    (challenges : Challenges bench defaultMtu credentials profile received nonce nonces)
    (shares : profile.Shares credentials.token) (room : Frame.headerSize < profile.mtu.toNat)
    (fits : (credentials.token.challenge nonce).toBytes.length ≤ maxMessageLength) :
    Resolves bench defaultMtu credentials profile := by
  cases required : profile.requiredBlob with
  | some least =>
    by_cases enough : least ≤ credentials.blob.counter
    · exact challenges.resolves_of_wants shares room (.inl ⟨least, required, enough⟩) fits
    · refine ⟨[⟨.disconnected, .connectingFailed credentials.token.sorcId .blobOutdated⟩], ?_⟩
      have ends := challenges.ends_of_room room required (UInt32.not_le.mp enough)
      exact ends.imp fun last stands => .of_stands stands rfl rfl
  | none =>
    cases requested : profile.requestedBlob with
    | none => exact challenges.resolves_of_content shares room required requested
    | some known =>
      by_cases newer : known < credentials.blob.counter
      · exact challenges.resolves_of_wants shares room (.inr ⟨required, known, requested, newer⟩) fits
      · have waits := challenges.waits_of_room room required requested (UInt32.not_lt.mp newer)
        exact ⟨[], waits.imp fun last stands => .of_stands stands rfl rfl⟩

/-- Every attempt at a peer of the token comes out. -/
theorem attempt_resolves (handset : Handset) (defaultMtu : Nat) (shares : profile.Shares credentials.token) :
    Resolves (attempt handset defaultMtu credentials profile) defaultMtu credentials profile := by
  by_cases limit : Frame.headerSize < defaultMtu
  · have speaks := @attempt_speaks handset credentials profile defaultMtu limit shares.sorcId
    by_cases room : Frame.headerSize < profile.mtu.toNat
    · by_cases fits : (credentials.token.challenge (handset.nonces.nth 0)).toBytes.length ≤ maxMessageLength
      · have opened := attempt_challenges_of_room limit shares.sorcId room fits
        refine @Leads.resolves _ credentials profile defaultMtu [_] (opened.imp fun next challenges => ?_)
        exact challenges.resolves shares room fits
      · have closed := fun raw receiving taken => @Channel.receive_limit_long defaultMtu
          ⟨defaultMtu, defaultMtu, none, receiving⟩ (.resting defaultMtu defaultMtu) raw profile.mtu [0] rfl
          handset.nonces credentials taken room (Nat.not_le.mp fits)
        have told := speaks.answered
          (.settling (.willing handset.nonces) (.resting defaultMtu defaultMtu) credentials)
          ⟨Sorc.respond_limitRequest, rfl, room, by simp [Message.toBytes, maxMessageLength]⟩
          (fun last => Channel.confirm_settling_last (.willing handset.nonces) credentials) (.inl rfl)
          closed (prepared_of_willing rfl rfl)
        exact ⟨[_, _], told.imp fun last stands => .of_stands stands rfl rfl⟩
    · have told := speaks.unanswered_of_narrow Sorc.respond_limitRequest rfl (Nat.not_lt.mp room)
        (fun last => Channel.confirm_settling_last (.willing handset.nonces) credentials)
        (prepared_of_willing rfl rfl)
      exact ⟨[], told.imp fun last stands => .of_stands stands rfl rfl⟩
  · have ended := Channel.radioEvent_narrow (Nat.not_lt.mp limit) (.willing handset.nonces) credentials
    have stands := @attempt_stands handset credentials profile defaultMtu _ shares.sorcId ended
      (prepared_of_willing rfl rfl)
    exact ⟨[], .here (.of_stands stands rfl rfl)⟩

end Bench

end PhoneKey
