import PhoneKey.Proofs.Simulation.Replies

/-! # Answers that overtake

The radio may bring an answer before it confirms the last frame of the message that is answered. The phone's
own message counts as under way then, and the line refuses the next one: the handshake ends, and so does a
queued grant with all that are queued behind it.
-/

namespace PhoneKey

/-- A line with a message under way refuses another. -/
theorem Link.start_of_sending {handset : Handset} {line : Line} {package : Package} (state : LinkState)
    (sending : line.sending = some package) (message : Bytes) :
    Link.start ⟨handset, line, state⟩ message = ⟨some .sendingInProgress, ⟨handset, line, state⟩, []⟩ := by
  simp [start, Line.launch, Line.isBusy, sending]

namespace Channel

variable {defaultMtu : Nat} {line : Line} {package : Package}

/-- A message of the handshake that the line refuses ends the attempt. -/
theorem transmit_of_sending (handset : Handset) (credentials : Credentials) (handshake : Handshake)
    (key : Option Block) (inFlight : Option Message) (default : line.defaultMtu = defaultMtu)
    (sending : line.sending = some package) (spoken : Message) :
    (proving handset line credentials handshake key inFlight).transmit spoken =
      ended handset defaultMtu credentials.token.sorcId (.protocol (.handshakeFailed none)) hangUpEffects := by
  have refused := @Link.start_of_sending handset line package (.connected credentials.token.sorcId) sending
    spoken.toBytes
  obtain ⟨taken, _⟩ | ⟨_, ends⟩ :=
    transmit_proving default handset credentials handshake key inFlight refused.symm
  · cases taken
  · exact ends

/-- A sealed message that the line refuses leaves it as it was. -/
theorem offer_of_sending (handset : Handset) (credentials : Credentials) (context : SealingContext)
    (inFlight : Option Message) (sending : line.sending = some package) (spoken : Message) :
    ∃ following, (secured handset line credentials context inFlight).offer spoken =
      ⟨some .sendingInProgress, secured handset line credentials following inFlight, []⟩ := by
  have refused := @Link.start_of_sending handset line package (.connected credentials.token.sorcId) sending
    (context.encrypt spoken.toBytes).1
  have linked : (ConnectionState.connected credentials.token.sorcId : LinkState).isConnected = true := rfl
  refine ⟨(context.encrypt spoken.toBytes).2, ?_⟩
  simp only [offer, secured, Protection.protect, Link.offer, linked, if_true, refused]

end Channel

namespace Session

variable {defaultMtu now : Nat} {session : Session} {handset : Handset} {line : Line} {package : Package}
  {credentials : Credentials} {context : SealingContext} {inFlight : Option Message}

/-- The end of an attempt is announced with its reason. -/
theorem announces_of_ended {sorcId : Uuid} (engaged : session.state.sorcId? = some sorcId) (cause : EndCause)
    (lower : List Effect) :
    .announce (.connection ⟨.disconnected, cause.reason sorcId⟩) ∈
      (session.absorb now (Channel.ended handset defaultMtu sorcId cause lower)).effects := by
  have upper := @channelChanged_end { session with channel := .atRest handset defaultMtu } now sorcId engaged
    (cause.reason sorcId)
  rw [absorb, Channel.ended, Turn.forEach_singleton]
  simp only [channelReported, upper, Turn.after, List.mem_append]
  refine .inr ?_
  simp [finish, reset, publishGrants, publish, Turn.andThen]

/-- A queued grant that the line refuses takes the others with it; heartbeats before it are dropped. -/
theorem drain_of_sending {requests : List Request} {grant : UInt16} (listed : .grant grant ∈ requests)
    (channel : session.channel = .secured handset line credentials context inFlight)
    (sending : line.sending = some package) :
    .announce (.grants ⟨[], .failed .sendingFailed⟩) ∈ (session.drain requests).effects := by
  induction requests generalizing session context with
  | nil => cases listed
  | cons request rest ih =>
    obtain ⟨following, offered⟩ :=
      Channel.offer_of_sending handset credentials context inFlight sending request.message
    have refused : (session.forward request rest).1 = false := by
      simp only [forward, dispatch, channel, offered]
      rfl
    rw [drain_cons, refused, if_neg Bool.false_ne_true]
    cases request with
    | heartbeat =>
      have later : Request.grant grant ∈ rest := by simpa using listed
      have left : (session.forward .heartbeat rest).2.state.channel =
          .secured handset line credentials following inFlight := by
        simp only [forward, dispatch, channel, offered]
      exact List.mem_append_right _ (ih later left)
    | grant number =>
      refine List.mem_append_right _ ?_
      simp [abandonGrant, publishGrants, Turn.andThen]

end Session

/-- Unless the peer asks for a newer blob, the phone sends a message on every answer of the handshake. -/
theorem Answers.spoken {credentials : Credentials} {profile : SorcProfile} {nonce : Block} {peer : Sorc}
    {rank : Nat} {answer : Message} (answers : Answers credentials profile nonce peer rank answer)
    (serves : profile.Serves credentials) (current : ¬ profile.Outdates credentials.blob.counter)
    (handset : Handset) (line : Line) (inFlight : Option Message) :
    ∃ next handshake key spoken,
      (Channel.proving handset line credentials (credentials.token.begin nonce) none
          inFlight).handshakeMessage answer =
        (Channel.proving next line credentials handshake key inFlight).transmit spoken := by
  cases answers with
  | proves waiting => exact ⟨_, _, _, _, Channel.handshakeMessage_proof _ _ _ _ _⟩
  | acknowledges satisfied => exact ⟨_, _, _, _, Channel.handshakeMessage_ack _ _ _ _⟩
  | @requires least required =>
    have enough := serves.current least required
    obtain ⟨payload, readable, _⟩ := serves.blob (.inl ⟨least, required, enough⟩)
    refine ⟨handset, credentials.token.begin nonce, none, ⟨.ltBlob, payload⟩, ?_⟩
    rw [Channel.handshakeMessage_rejection, if_neg (UInt32.not_lt.mpr enough),
      Channel.pushBlob_readable _ _ _ _ readable]
  | @requests known unrequired requested =>
    have newer : known < credentials.blob.counter := by
      by_contra older
      exact current ⟨unrequired, known, requested, UInt32.not_lt.mp older⟩
    obtain ⟨payload, readable, _⟩ := serves.blob (.inr ⟨unrequired, known, requested, newer⟩)
    refine ⟨handset, credentials.token.begin nonce, none, ⟨.ltBlob, payload⟩, ?_⟩
    rw [Channel.handshakeMessage_request, if_pos newer, Channel.pushBlob_readable _ _ _ _ readable]

namespace Stage

variable {defaultMtu rank : Nat} {credentials : Credentials} {profile : SorcProfile} {session : Session}
  {frames : List Bytes} {peer : Sorc} {raw : Bytes} {package : Package}

/-- An answer of the handshake that overtakes ends the attempt. -/
theorem ends_attempt (now : Nat) (serves : profile.Serves credentials)
    (stage : Stage defaultMtu credentials profile rank session (raw :: frames) peer)
    (settled : Session.Settled defaultMtu session)
    (busy : session.channel.link.line.sending = some package) (closes : Frame.Closes raw)
    (challenging : session.state = .connecting credentials.token.sorcId .challenging)
    (current : ¬ profile.Outdates credentials.blob.counter) :
    .announce (.connection
        ⟨.disconnected, .connectingFailed credentials.token.sorcId (.handshakeFailed none)⟩) ∈
      (session.receive now (.ok raw)).effects := by
  have agrees := settled.agrees
  cases stage with
  | @proving _ _ _ _ heard sending receiving nonce inFlight answer channel vacant awaits answers listens =>
    obtain ⟨rfl, opening, last, whole, rfl, rfl⟩ := awaits.last closes
    have received := @Line.receive_last
      ⟨defaultMtu, profile.mtu.toNat, sending, Assembler.empty.gather opening⟩ _ _ opening whole rfl
    have told := Channel.receive_proving_message (.willing heard) credentials
      (credentials.token.begin nonce) none inFlight received
    obtain ⟨next, handshake, key, spoken, speaks⟩ := answers.spoken serves current (.willing heard)
      ⟨defaultMtu, profile.mtu.toNat, sending, .empty⟩ inFlight
    have engaged : session.state.sorcId? = some credentials.token.sorcId := by rw [challenging]; rfl
    rw [channel] at busy
    have refused := @Channel.transmit_of_sending defaultMtu ⟨defaultMtu, profile.mtu.toNat, sending, .empty⟩
      package next credentials handshake key inFlight rfl busy spoken
    rw [Session.receive, channel, told, speaks, refused]
    exact Session.announces_of_ended engaged _ _
  | settling channel brief awaits listens => simp [challenging, channel, Channel.settling] at agrees
  | asking channel waiting queued awaits opens listens inStep =>
    simp [challenging, channel, Channel.secured] at agrees

/-- An answer to a request that overtakes fails the grants that are queued. -/
theorem fails_grants {grant : UInt16} (now : Nat) (serves : profile.Serves credentials)
    (stage : Stage defaultMtu credentials profile rank session (raw :: frames) peer)
    (settled : Session.Settled defaultMtu session) (accurate : session.Accurate)
    (busy : session.channel.link.line.sending = some package) (closes : Frame.Closes raw)
    (queued : .grant grant ∈ session.queue.items) :
    .announce (.grants ⟨[], .failed .sendingFailed⟩) ∈ (session.receive now (.ok raw)).effects := by
  have connected : session.state.isConnected = true := by
    by_contra closed
    have empty := (settled.vacant (by simpa using closed)).queue
    simp [empty] at queued
  have agrees := settled.agrees
  cases stage with
  | @asking _ _ _ _ heard sending receiving inFlight data ours after theirs request channel waiting _ awaits
      opens listens inStep =>
    obtain ⟨rfl, opening, last, whole, rfl, rfl⟩ := awaits.last closes
    have received := @Line.receive_last
      ⟨defaultMtu, profile.mtu.toNat, sending, Assembler.empty.gather opening⟩ _ _ opening whole rfl
    have reached : session.state = .connected credentials.token.sorcId := by
      rw [agrees, channel]
      rfl
    have valid : (profile.answer request).isValid = true := by cases request <;> rfl
    have told := Channel.receive_secured_message (.willing heard) credentials inFlight received opens valid
    let hearing : Session :=
      { session with
        channel := .secured (.willing heard) ⟨defaultMtu, profile.mtu.toNat, sending, .empty⟩ credentials
          after inFlight
        lastHeard := now }
    obtain ⟨openGrants, effects, freed, _, _⟩ :=
      @Session.messageReceived_answer hearing credentials profile request serves reached waiting accurate
    rw [channel] at busy
    have drains : Session.serve { hearing with outstanding := none, openGrants } =
        Session.drain { hearing with outstanding := none, openGrants } session.queue.items := by
      simp [Session.serve, hearing, connected]
    rw [Session.receive, channel, told, Session.absorb_heard]
    refine freed ▸ List.mem_append_right _ ?_
    rw [drains]
    exact Session.drain_of_sending queued rfl busy
  | settling channel brief awaits listens =>
    simp [agrees, channel, Channel.settling, ConnectionState.isConnected] at connected
  | proving channel vacant awaits answers listens =>
    simp [agrees, channel, Channel.proving, ConnectionState.isConnected] at connected

end Stage

end PhoneKey
