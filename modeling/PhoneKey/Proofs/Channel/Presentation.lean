import PhoneKey.Proofs.Channel.Writes

/-! # What is said with some credentials

Until a session is established, the phone says nothing but what its credentials determine, up to the nonces
that it draws and the blocks that the peer chooses: who it is, that it holds the key of the token, and the
blob. Every frame that is written on the way carries such a message for the credentials that the channel
holds.
-/

namespace PhoneKey.Channel

variable {defaultMtu : Nat} {channel : Channel} {input : Input} {turn : Turn Channel ChannelReport}
  {credentials : Credentials}

/-- The messages that the phone says with some credentials before a session is established. -/
inductive Presents (credentials : Credentials) : Message → Prop
  | asks : Presents credentials limitRequest
  | challenges (nonce : Block) : Presents credentials (Handshake.new credentials.token nonce).start.1
  | answers (nonce b1 b2 : Block) :
      Presents credentials ((Handshake.new credentials.token nonce).start.2.response b1 b2)
  | rejects : Presents credentials (.empty .badChallengePhoneResponse)
  | pushes {payload : Bytes} (readable : Payload.blob credentials.blob.data = .ok payload) :
      Presents credentials ⟨.ltBlob, payload⟩

/-- Whatever effects write is a part of a message that is said with the credentials. -/
def Voices (credentials : Credentials) (effects : List Effect) : Prop :=
  ∀ frame accepted, .radio (.write frame accepted) ∈ effects →
    ∃ message, Presents credentials message ∧ Frame.Carries frame message.toBytes

/-- Until a session is established, the package under way is said with the credentials that are held. -/
def Speaks (channel : Channel) : Prop :=
  channel.state.isConnected = false → ∀ package, channel.link.line.sending = some package →
    ∃ credentials message, channel.credentials = some credentials ∧ Presents credentials message ∧
      package.message = message.toBytes

private theorem voices_of_silent {effects : List Effect}
    (silent : ∀ frame accepted, .radio (.write frame accepted) ∉ effects) : Voices credentials effects :=
  fun frame accepted written => absurd written (silent frame accepted)

theorem Voices.append {first second : List Effect} (early : Voices credentials first)
    (late : Voices credentials second) : Voices credentials (first ++ second) :=
  fun frame accepted written =>
    (List.mem_append.mp written).elim (early frame accepted) (late frame accepted)

private theorem voices_start {message : Message} (presents : Presents credentials message) (link : Link) :
    Voices credentials (link.start message.toBytes).effects := by
  intro frame accepted written
  rcases Link.effects_start link message.toBytes with silent | ⟨first, answer, same, opens⟩
  · simp [silent] at written
  · rw [same] at written
    cases List.mem_singleton.mp written
    exact ⟨message, presents, opens.carries⟩

private theorem voices_hangUp : Voices credentials hangUpEffects := voices_of_silent (by simp [hangUpEffects])

private theorem voices_ended {lower : List Effect} (voices : Voices credentials lower) (handset : Handset)
    (sorcId : Uuid) (cause : EndCause) :
    Voices credentials (ended handset defaultMtu sorcId cause lower).effects :=
  voices.append (voices_of_silent (by simp))

section

variable {line : Line} {handset : Handset} {nonce : Block} {pendingKey : Option Block}
  {inFlight : Option Message}

/-- A message that is said with the credentials is all that sending it writes. -/
theorem voices_transmit {message : Message} (presents : Presents credentials message) (handset : Handset)
    (line : Line) (handshake : Handshake) (pendingKey : Option Block) (inFlight : Option Message) :
    Voices credentials
      ((proving handset line credentials handshake pendingKey inFlight).transmit message).effects := by
  have spoken := voices_start presents ⟨handset, line, .connected credentials.token.sorcId⟩
  rcases @transmit_proving line.defaultMtu line _ message rfl handset credentials handshake pendingKey inFlight
    rfl with ⟨_, sent⟩ | ⟨_, sent⟩
  · rw [sent]
    exact spoken
  · rw [sent]
    exact spoken.append (voices_ended voices_hangUp _ _ _)

private theorem voices_abort (handset : Handset) (line : Line) (handshake : Handshake)
    (pendingKey : Option Block) (inFlight : Option Message) (cause : EndCause) :
    Voices credentials
      ((proving handset line credentials handshake pendingKey inFlight).close cause).effects := by
  rw [@close_of_engaged line.defaultMtu (proving handset line credentials handshake pendingKey inFlight)
    credentials.token.sorcId rfl rfl rfl]
  exact voices_ended voices_hangUp _ _ _

private theorem voices_pushBlob (handset : Handset) (line : Line) (handshake : Handshake)
    (pendingKey : Option Block) (inFlight : Option Message) :
    Voices credentials
      (proving handset line credentials handshake pendingKey inFlight).pushBlob.effects := by
  cases readable : Payload.blob credentials.blob.data with
  | error cause =>
    simp only [pushBlob, proving, readable]
    exact voices_abort handset line handshake pendingKey inFlight _
  | ok payload =>
    simp only [pushBlob, proving, readable]
    exact voices_transmit (.pushes readable) handset line handshake pendingKey inFlight

/-- A proof of the peer is answered or rejected. -/
theorem voices_answer (payload : Bytes) :
    Voices credentials ((proving handset line credentials (Handshake.new credentials.token nonce).start.2
      pendingKey inFlight).follow ((Handshake.new credentials.token nonce).start.2.answer payload)).effects := by
  have outcome := (Handshake.new credentials.token nonce).start.2.answered payload
  generalize (Handshake.new credentials.token nonce).start.2.answer payload = step at outcome ⊢
  cases outcome with
  | unreadable cause => exact voices_abort handset line _ pendingKey inFlight _
  | rejects =>
    rw [@follow_rejected line.defaultMtu line _ _ rfl handset credentials _ pendingKey inFlight _ rfl]
    exact (voices_start .rejects _).append (voices_ended voices_hangUp _ _ _)
  | accepts read proof => exact voices_transmit (.answers nonce _ _) handset line _ (some _) inFlight

/-- What a handshake of the credentials makes of a message of the peer is said with them. -/
theorem voices_handshakeMessage (message : Message) :
    Voices credentials ((proving handset line credentials (Handshake.new credentials.token nonce).start.2
      pendingKey inFlight).handshakeMessage message).effects := by
  have pushes := @voices_pushBlob credentials handset line (Handshake.new credentials.token nonce).start.2
    pendingKey inFlight
  have silent : ∀ state : Channel, Voices credentials (Turn.idle state : Turn Channel ChannelReport).effects :=
    fun state => voices_of_silent (by simp [Turn.idle])
  obtain ⟨id, payload⟩ := message
  cases id with
  | challengeSorcResponse => exact voices_answer payload
  | badChallengeSorcResponse =>
    have asked : (proving handset line credentials (Handshake.new credentials.token nonce).start.2 pendingKey
        inFlight).handshakeMessage ⟨.badChallengeSorcResponse, payload⟩ =
        (proving handset line credentials (Handshake.new credentials.token nonce).start.2 pendingKey
          inFlight).blobNeeded (Payload.rejectedCounter? payload) := rfl
    rw [asked, blobNeeded]
    split
    · exact voices_abort handset line _ pendingKey inFlight _
    · exact pushes
  | ltAck => exact voices_transmit (.challenges handset.nonces.draw.1) _ line _ pendingKey inFlight
  | ltBlobRequest =>
    simp only [handshakeMessage]
    split
    · exact pushes
    · exact silent _
  | _ => exact silent _

/-- Whatever is received while a handshake of the credentials runs. -/
theorem voices_receive (result : Except LinkError Bytes) :
    Voices credentials ((proving handset line credentials (Handshake.new credentials.token nonce).start.2
      pendingKey inFlight).receive result).effects := by
  have outcome := Link.received (proving handset line credentials
    (Handshake.new credentials.token nonce).start.2 pendingKey inFlight).link result
  rw [receive]
  generalize (proving handset line credentials (Handshake.new credentials.token nonce).start.2 pendingKey
    inFlight).link.receive result = lower at outcome ⊢
  cases outcome with
  | deaf result _ unconnected => cases unconnected
  | collects listening received meaningless =>
    rw [Turn.idle, absorb_silent]
    exact voices_of_silent (by simp)
  | hears connected received =>
    rw [Turn.report, absorb_report, Turn.after_nil]
    exact voices_handshakeMessage _
  | mishears connected cause kept =>
    obtain ⟨receiving, rfl⟩ := kept
    rw [Turn.report, absorb_report, Turn.after_nil]
    exact voices_abort handset { line with receiving } _ pendingKey inFlight _
  | settles asking received kind told limit => cases asking
  | failsMtu asking kept => cases asking

end

/-- A reply of the phone is said with its credentials. -/
theorem Reply.presents {handset heard : Handset} {handshake following : Handshake}
    {pendingKey key : Option Block} {arrived message : Message}
    (begun : handshake = (Handshake.new credentials.token handshake.nonce).start.2)
    (reply : Reply credentials handset handshake pendingKey arrived heard following key message) :
    Presents credentials message := by
  cases reply with
  | pushes kind readable => exact .pushes readable
  | renews kind =>
    rw [begun]
    exact .challenges handset.nonces.draw.1
  | answers kind read proof =>
    rw [begun]
    exact .answers _ _ _

/-- A frame that follows goes on with the package under way. -/
theorem Speaks.carries {frame : Bytes} {next : Line} (speaks : channel.Speaks)
    (lawful : Lawful defaultMtu channel) (closed : channel.state.isConnected = false)
    (confirmed : channel.link.line.confirm = (.next frame, next)) :
    ∃ credentials message, channel.credentials = some credentials ∧ Presents credentials message ∧
      Frame.Carries frame message.toBytes := by
  obtain ⟨package, _, sending, _⟩ := Line.confirm_eq_next confirmed
  obtain ⟨credentials, message, held, presents, same⟩ := speaks closed package sending
  have carries := (Line.underway_of_next confirmed sending (lawful.underway sending)).1
  exact ⟨credentials, message, held, presents, same ▸ carries⟩

/-- Until a session is established, every frame that a call writes is said with the credentials that the
call found. -/
theorem Lawful.voices (lawful : Lawful defaultMtu channel) (speaks : channel.Speaks)
    (closed : channel.state.isConnected = false) {frame : Bytes} {accepted : Bool}
    (written : .radio (.write frame accepted) ∈ (channel.act input).effects) :
    ∃ credentials message, channel.credentials = some credentials ∧ Presents credentials message ∧
      Frame.Carries frame message.toBytes := by
  by_cases hearing : channel.isChallenging = true ∧ ∃ result, input = .receive result
  · obtain ⟨challenging, result, rfl⟩ := hearing
    cases lawful with
    | @proving line handshake pendingKey inFlight handset credentials default limit begun underway pending =>
      rw [begun] at written
      obtain ⟨message, presents, carries⟩ := voices_receive result frame accepted written
      exact ⟨credentials, message, rfl, presents, carries⟩
    | _ => cases challenging
  have said : ∀ {credentials effects}, channel.credentials = some credentials →
      Voices credentials effects → .radio (.write frame accepted) ∈ effects →
      ∃ credentials message, channel.credentials = some credentials ∧ Presents credentials message ∧
        Frame.Carries frame message.toBytes := by
    intro credentials effects held voices member
    obtain ⟨message, presents, carries⟩ := voices frame accepted member
    exact ⟨credentials, message, held, presents, carries⟩
  have transition := act_transition lawful input
  generalize channel.act input = turn at transition written
  cases transition with
  | idle quiet => cases written
  | unconnected message closed => cases written
  | dials handset credentials => simp at written
  | redials handset same => simp at written
  | @asks handset credentials offered asked taken =>
    have here : .radio (.write frame accepted) ∈ offered.effects := by simpa using written
    subst asked
    exact said rfl (voices_start .asks _) here
  | @asksInVain handset credentials offered cause asked refused =>
    have here : .radio (.write frame accepted) ∈ offered.effects := by simpa [linkEndEffects] using written
    subst asked
    exact said rfl (voices_start .asks _) here
  | ends grounds =>
    exact absurd (by simpa [ended] using written) (grounds.no_write frame accepted)
  | proceeds confirmed =>
    cases List.mem_singleton.mp written
    exact speaks.carries lawful closed confirmed
  | @breaksOff _ next _ _ _ _ confirmed _ grounds =>
    have quiet := grounds.no_write frame accepted
    obtain ⟨rfl, rfl⟩ : frame = next ∧ accepted = false := by
      simpa [ended, Turn.after, quiet] using written
    exact speaks.carries lawful closed confirmed
  | collects listening received quiet => cases written
  | waits confirmed closed keyless => cases written
  | @opens handset line next credentials raw data mtu offered received kind told limit begun taken =>
    have here : .radio (.write frame accepted) ∈ offered.effects := by simpa [openingEffects] using written
    subst begun
    exact said rfl (voices_start (.challenges handset.drawNonce.1) _) here
  | @opensInVain handset line next credentials raw data mtu offered cause received begun refused =>
    have here : .radio (.write frame accepted) ∈ offered.effects := by
      simpa [openingEffects, hangUpEffects] using written
    subst begun
    exact said rfl (voices_start (.challenges handset.drawNonce.1) _) here
  | replies received reply begun taken => exact absurd ⟨rfl, _, rfl⟩ hearing
  | givesUp received kind begun => exact absurd ⟨rfl, _, rfl⟩ hearing
  | establishes confirmed => simp at written
  | seals begun taken => cases closed
  | refuses begun refused => cases closed
  | delivers confirmed => cases written
  | loses cause sending => cases written
  | declines confirmed => cases closed
  | hears received unprotected => cases written
  | mishears cause result kept => cases written

/-- A call leaves a package under way that is said with the credentials, as long as no session is
established. -/
theorem Lawful.speaks (lawful : Lawful defaultMtu channel) (speaks : channel.Speaks) (input : Input) :
    (channel.act input).state.Speaks := by
  have transition := act_transition lawful input
  generalize channel.act input = turn at transition ⊢
  intro closed package sending
  cases transition with
  | idle quiet => exact speaks closed package sending
  | unconnected message unlinked => exact speaks closed package sending
  | dials handset credentials => cases sending
  | redials handset same => cases sending
  | @asks handset credentials offered asked taken =>
    subst asked
    obtain ⟨other, held, carried, _⟩ := Link.underway_of_taken taken
    cases held.symm.trans sending
    exact ⟨credentials, limitRequest, rfl, .asks, carried⟩
  | asksInVain asked refused => cases sending
  | ends grounds => cases sending
  | proceeds confirmed =>
    obtain ⟨earlier, _, held, _, _, rfl⟩ := Line.confirm_eq_next confirmed
    cases sending
    exact speaks closed earlier held
  | breaksOff confirmed _ grounds => cases sending
  | collects listening received quiet =>
    obtain ⟨receiving, rfl⟩ := Line.receive_frame received
    exact speaks closed package sending
  | waits confirmed _ keyless =>
    obtain ⟨_, _, _, rfl⟩ := Line.confirm_eq_complete confirmed
    cases sending
  | @opens handset line next credentials raw data mtu offered received kind told limit begun taken =>
    subst begun
    obtain ⟨other, held, carried, _⟩ := Link.underway_of_taken taken
    cases held.symm.trans sending
    exact ⟨credentials, _, rfl, .challenges handset.drawNonce.1, carried⟩
  | opensInVain received begun refused => cases sending
  | @replies handset heard line next credentials handshake following pendingKey key inFlight raw data message
      offered received reply spoken taken =>
    obtain ⟨_, _, begun, _⟩ := lawful_proving_iff.mp lawful
    subst spoken
    obtain ⟨other, held, carried, _⟩ := Link.underway_of_taken taken
    cases held.symm.trans sending
    exact ⟨credentials, message, rfl, reply.presents begun, carried⟩
  | givesUp received kind begun => cases sending
  | establishes confirmed => cases closed
  | seals begun taken => cases closed
  | refuses begun refused => cases closed
  | delivers confirmed => cases closed
  | loses cause pending => cases closed
  | declines confirmed => cases closed
  | hears received unprotected => cases closed
  | mishears cause result kept => cases closed

end PhoneKey.Channel
