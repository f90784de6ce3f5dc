import PhoneKey.Proofs.Channel.Transition

/-! # Every call is a transition

The calls of a channel are worked out here once, input by input and phase by phase: whatever a lawful
channel does is one of the transitions, and every transition leads to a lawful channel.
-/

namespace PhoneKey.Channel

variable {defaultMtu : Nat}

private theorem finish_of_engaged (channel : Channel) {handset : Handset} {sorcId : Uuid}
    (engaged : channel.state.sorcId? = some sorcId) (fresh : channel.link = .new handset defaultMtu)
    (cause : EndCause) : channel.finish cause = ended handset defaultMtu sorcId cause [] := by
  simp only [finish, engaged, forget, fresh]
  rfl

/-- Closing hangs up the link and leaves nothing behind. -/
theorem close_of_engaged (channel : Channel) {sorcId : Uuid}
    (engaged : channel.state.sorcId? = some sorcId) (linked : channel.link.state.sorcId? = some sorcId)
    (default : channel.link.line.defaultMtu = defaultMtu) (cause : EndCause) :
    channel.close cause = ended channel.link.handset defaultMtu sorcId cause hangUpEffects := by
  have lower := Link.close_of_engaged linked .userRequested
  rw [default] at lower
  have upper := finish_of_engaged { channel with link := .new channel.link.handset defaultMtu }
    engaged rfl cause
  rw [close, Link.isDisconnected_of_engaged engaged, if_neg Bool.false_ne_true, Link.disconnect, lower]
  exact congrArg (Turn.after _) upper

/-- A message that the link takes is in flight. -/
theorem transmit_of_taken {channel : Channel} {message : Message} {data : Bytes} {protection : Protection}
    {offered : Link.Offer} (sealed : channel.protection.protect message = (data, protection))
    (linked : channel.link.state.isConnected = true) (spoken : offered = channel.link.start data)
    (taken : offered.refusal = none) :
    channel.transmit message =
      ⟨{ channel with link := offered.link, protection, inFlight := some message }, [],
        offered.effects⟩ := by
  subst spoken
  simp only [transmit, offer, sealed, Link.offer, linked, if_true, taken]

theorem transmit_of_refused {channel : Channel} {message : Message} {data : Bytes} {protection : Protection}
    {offered : Link.Offer} {cause : LinkError}
    (sealed : channel.protection.protect message = (data, protection))
    (linked : channel.link.state.isConnected = true) (spoken : offered = channel.link.start data)
    (refused : offered.refusal = some cause) :
    channel.transmit message =
      (sendFailed
        { channel with link := offered.link, protection, inFlight := inFlightAfter channel.inFlight cause }
        cause).after offered.effects := by
  subst spoken
  simp only [transmit, offer, sealed, Link.offer, linked, if_true, refused]
  cases cause <;> rfl

private theorem sendFailed_of_challenging {channel : Channel} {sorcId : Uuid}
    (challenging : channel.state = .connecting sorcId .challenging)
    (linked : channel.link.state.sorcId? = some sorcId)
    (default : channel.link.line.defaultMtu = defaultMtu) (cause : LinkError) :
    channel.sendFailed cause = ended channel.link.handset defaultMtu sorcId
      (.protocol (.handshakeFailed channel.rejection)) hangUpEffects := by
  have engaged : channel.state.sorcId? = some sorcId := by rw [challenging]; rfl
  simp only [sendFailed, challenging]
  exact close_of_engaged channel engaged linked default _

theorem sendFailed_of_connected {channel : Channel} {sorcId : Uuid}
    (connected : channel.state = .connected sorcId) (cause : LinkError) :
    channel.sendFailed cause = .report channel (.messageSent (.error (.link cause))) := by
  simp only [sendFailed, connected]

/-- A message of the handshake is sent, or the attempt ends; with its cause if the peer is rejected. -/
theorem transmit_rejecting {line : Line} {offered : Link.Offer}
    {message : Message} (default : line.defaultMtu = defaultMtu) (handset : Handset)
    (credentials : Credentials) (handshake : Handshake) (pendingKey : Option Block)
    (inFlight : Option Message) (rejection : Option HandshakeError)
    (spoken : offered =
      Link.start ⟨handset, line, .connected credentials.token.sorcId⟩ message.toBytes) :
    (offered.refusal = none ∧
      transmit { proving handset line credentials handshake pendingKey inFlight with rejection } message =
        ⟨{ proving offered.link.handset offered.link.line credentials handshake pendingKey (some message)
            with rejection }, [], offered.effects⟩) ∨
    (offered.refusal ≠ none ∧
      transmit { proving handset line credentials handshake pendingKey inFlight with rejection } message =
        (ended offered.link.handset defaultMtu credentials.token.sorcId
          (.protocol (.handshakeFailed rejection)) hangUpEffects).after offered.effects) := by
  have whole := Link.link_start ⟨handset, line, .connected credentials.token.sorcId⟩ message.toBytes
  rw [← spoken] at whole
  cases outcome : offered.refusal with
  | none =>
    refine .inl ⟨rfl, (transmit_of_taken rfl rfl spoken outcome).trans ?_⟩
    rw [whole]
    rfl
  | some cause =>
    refine .inr ⟨nofun, (transmit_of_refused rfl rfl spoken outcome).trans ?_⟩
    have kept := Link.link_of_refused (spoken ▸ outcome)
    rw [← spoken] at kept
    have linked : offered.link.state.sorcId? = some credentials.token.sorcId := by
      rw [whole]
      rfl
    have same : offered.link.line.defaultMtu = defaultMtu := by
      rw [kept]
      exact default
    exact congrArg (Turn.after _) (sendFailed_of_challenging rfl linked same cause)

theorem transmit_proving {line : Line} {offered : Link.Offer}
    {message : Message} (default : line.defaultMtu = defaultMtu) (handset : Handset)
    (credentials : Credentials) (handshake : Handshake) (pendingKey : Option Block)
    (inFlight : Option Message)
    (spoken : offered =
      Link.start ⟨handset, line, .connected credentials.token.sorcId⟩ message.toBytes) :
    (offered.refusal = none ∧
      (proving handset line credentials handshake pendingKey inFlight).transmit message =
        ⟨proving offered.link.handset offered.link.line credentials handshake pendingKey (some message),
          [], offered.effects⟩) ∨
    (offered.refusal ≠ none ∧
      (proving handset line credentials handshake pendingKey inFlight).transmit message =
        (ended offered.link.handset defaultMtu credentials.token.sorcId
          (.protocol (.handshakeFailed none)) hangUpEffects).after offered.effects) :=
  transmit_rejecting default handset credentials handshake pendingKey inFlight none spoken

/-- The link of a lawful channel serves the same peer and keeps the default limit. -/
theorem Lawful.engaged {channel : Channel} {sorcId : Uuid} (lawful : Lawful defaultMtu channel)
    (engaged : channel.state.sorcId? = some sorcId) :
    channel.link.state.sorcId? = some sorcId ∧ channel.link.line.defaultMtu = defaultMtu := by
  cases lawful with
  | atRest handset => cases engaged
  | dialling handset credentials => exact ⟨engaged, rfl⟩
  | settling handset credentials default _ => exact ⟨engaged, default⟩
  | proving handset credentials default _ _ _ => exact ⟨engaged, default⟩
  | secured handset credentials default _ _ => exact ⟨engaged, default⟩

/-- A lawful channel is on the way to the peer that its link serves. -/
theorem Lawful.served {channel : Channel} {sorcId : Uuid} (lawful : Lawful defaultMtu channel)
    (served : channel.link.state.sorcId? = some sorcId) :
    channel.state.sorcId? = some sorcId ∧ channel.link.line.defaultMtu = defaultMtu := by
  cases lawful with
  | atRest handset => cases served
  | dialling handset credentials => exact ⟨served, rfl⟩
  | settling handset credentials default _ => exact ⟨served, default⟩
  | proving handset credentials default _ _ _ => exact ⟨served, default⟩
  | secured handset credentials default _ _ => exact ⟨served, default⟩

private theorem not_admitted {state : SessionState} {sorcId : Uuid} (engaged : state.isDisconnected = false)
    (elsewhere : state ≠ .connecting sorcId .physical) : admits state sorcId = false := by
  simp [admits, engaged, ConnectionState.isAt, elsewhere]

/-- The radio is asked once more, with the credentials at hand. -/
theorem connect_dialling (handset : Handset) {earlier credentials : Credentials}
    (same : earlier.token.sorcId = credentials.token.sorcId) :
    (dialling handset defaultMtu earlier).connect credentials =
      ⟨dialling handset defaultMtu credentials, [], [.radio (.connect credentials.token.sorcId)]⟩ := by
  simp [connect, dialling, new, admits, ConnectionState.isAt, ConnectionState.isDisconnected, same,
    Link.connect, absorb, Turn.idle, Turn.andThen, Turn.after]

private theorem connect_transition {channel : Channel} (lawful : Lawful defaultMtu channel)
    (credentials : Credentials) :
    Transition defaultMtu channel (.connect credentials) (channel.connect credentials) := by
  cases lawful with
  | atRest handset => exact .dials handset credentials
  | @dialling handset earlier =>
    by_cases same : earlier.token.sorcId = credentials.token.sorcId
    · exact connect_dialling handset same ▸ .redials handset same
    · have ignored := @not_admitted (dialling handset defaultMtu earlier).state
        credentials.token.sorcId rfl (by simpa [dialling] using same)
      rw [connect, ignored]
      exact .idle (not_chooses (by simp))
  | settling handset earlier _ _ =>
    rw [connect, not_admitted rfl (by simp [settling])]
    exact .idle (not_chooses (by simp))
  | proving handset earlier _ _ _ _ =>
    rw [connect, not_admitted rfl (by simp [proving])]
    exact .idle (not_chooses (by simp))
  | secured handset earlier _ _ _ => exact .idle (not_chooses (by simp))

private theorem close_transition {channel : Channel} (lawful : Lawful defaultMtu channel) (cause : EndCause) :
    Transition defaultMtu channel (.close cause) (channel.close cause) := by
  cases state : channel.state with
  | disconnected =>
    rw [close, state]
    exact .idle (not_chooses nofun)
  | connecting sorcId stage =>
    have engaged : channel.state.sorcId? = some sorcId := by rw [state]; rfl
    obtain ⟨linked, default⟩ := lawful.engaged engaged
    rw [close_of_engaged channel engaged linked default]
    exact .ends (.asked cause engaged)
  | connected sorcId =>
    have engaged : channel.state.sorcId? = some sorcId := by rw [state]; rfl
    obtain ⟨linked, default⟩ := lawful.engaged engaged
    rw [close_of_engaged channel engaged linked default]
    exact .ends (.asked cause engaged)

private theorem send_transition {channel : Channel} (lawful : Lawful defaultMtu channel) (message : Message) :
    Transition defaultMtu channel (.send message) (channel.send message) := by
  cases lawful with
  | atRest handset => exact .unconnected message rfl
  | dialling handset credentials => exact .unconnected message rfl
  | settling handset credentials _ _ => exact .unconnected message rfl
  | proving handset credentials _ _ _ _ => exact .unconnected message rfl
  | @secured line context inFlight handset credentials default _ _ =>
    obtain ⟨offered, spoken⟩ : ∃ offered, offered =
      Link.start ⟨handset, line, .connected credentials.token.sorcId⟩
        (context.encrypt message.toBytes).1 := ⟨_, rfl⟩
    have whole := Link.link_start ⟨handset, line, .connected credentials.token.sorcId⟩
      (context.encrypt message.toBytes).1
    rw [← spoken] at whole
    have sent : (secured handset line credentials context inFlight).send message =
        (secured handset line credentials context inFlight).transmit message := rfl
    rw [sent]
    cases outcome : offered.refusal with
    | none =>
      rw [transmit_of_taken rfl rfl spoken outcome, whole]
      exact .seals spoken outcome
    | some cause =>
      have kept := Link.link_of_refused (spoken ▸ outcome)
      rw [← spoken] at kept
      rw [transmit_of_refused rfl rfl spoken outcome, kept, sendFailed_of_connected rfl, Turn.after_report]
      exact .refuses spoken outcome

theorem absorb_report (channel : Channel) (link : Link) (news : LinkReport) (effects : List Effect) :
    channel.absorb ⟨link, [news], effects⟩ = (linkReported { channel with link } news).after effects := by
  rw [absorb, Turn.forEach_singleton]

theorem absorb_pair (channel : Channel) (link : Link) (first second : LinkReport) (effects : List Effect) :
    channel.absorb ⟨link, [first, second], effects⟩ =
      ((linkReported { channel with link } first).andThen fun next => linkReported next second).after
        effects := by
  rw [absorb, Turn.forEach_cons]
  simp only [Turn.forEach_singleton]

/-- The end of the link is the end of the channel, for the same cause. -/
theorem linkReported_of_ended {channel : Channel} {handset : Handset} {sorcId : Uuid}
    (engaged : channel.state.sorcId? = some sorcId) (fresh : channel.link = .new handset defaultMtu)
    (cause : EndCause) :
    channel.linkReported (.connectionChanged ⟨.disconnected, cause.reason sorcId⟩) =
      ended handset defaultMtu sorcId cause [] := by
  have upper := finish_of_engaged channel engaged fresh
  match cause with
  | .userRequested => exact upper .userRequested
  | .radio .connectingFailed => exact upper (.radio .connectingFailed)
  | .radio .connectionLost => exact upper (.radio .connectionLost)
  | .protocol .invalidMtuResponse => exact upper (.protocol .invalidMtuResponse)
  | .protocol (.handshakeFailed detail) => exact upper (.protocol (.handshakeFailed detail))
  | .protocol .blobOutdated => exact upper (.protocol .blobOutdated)
  | .protocol .heartbeatTimedOut => exact upper (.protocol .heartbeatTimedOut)

private theorem absorb_of_ended {channel : Channel} {sorcId : Uuid}
    (engaged : channel.state.sorcId? = some sorcId) (handset : Handset) (cause : EndCause)
    (effects : List Effect) :
    channel.absorb ⟨.new handset defaultMtu, [.connectionChanged ⟨.disconnected, cause.reason sorcId⟩],
      effects⟩ = ended handset defaultMtu sorcId cause effects := by
  have upper := @linkReported_of_ended defaultMtu { channel with link := .new handset defaultMtu } handset
    sorcId engaged rfl cause
  rw [absorb_report, upper]
  rfl

/-- The channel goes on as soon as its link asks for the limit. -/
theorem linkReported_of_reached (handset : Handset) (link : Link) (credentials : Credentials)
    (reason : LinkReason) :
    linkReported { dialling handset defaultMtu credentials with link }
        (.connectionChanged ⟨.connecting credentials.token.sorcId .requestingMtu, reason⟩) =
      ⟨{ settling handset (.new defaultMtu) credentials with link },
        [.connectionChanged ⟨.connecting credentials.token.sorcId .transport,
          .entered credentials.token.sorcId .transport⟩],
        [.announce (.channel ⟨.connecting credentials.token.sorcId .transport,
          .entered credentials.token.sorcId .transport⟩)]⟩ := by
  simp [linkReported, linkChanged, dialling, settling, ConnectionState.isAt, publish, new]

/-- The radio has reached the peer of the credentials, which is asked for its limit. -/
theorem radioEvent_of_asked {handset : Handset} {credentials : Credentials} {offered : Link.Offer}
    (asked : offered = Link.start ⟨handset, .new defaultMtu,
      .connecting credentials.token.sorcId .requestingMtu⟩ limitRequest.toBytes)
    (taken : offered.refusal = none) :
    (dialling handset defaultMtu credentials).radioEvent (.connected credentials.token.sorcId) =
      ⟨settling offered.link.handset offered.link.line credentials,
        [.connectionChanged ⟨.connecting credentials.token.sorcId .transport,
          .entered credentials.token.sorcId .transport⟩],
        .announce (.link ⟨.connecting credentials.token.sorcId .requestingMtu,
          .entered credentials.token.sorcId .requestingMtu⟩) :: offered.effects ++
        [.announce (.channel ⟨.connecting credentials.token.sorcId .transport,
          .entered credentials.token.sorcId .transport⟩)]⟩ := by
  have reached : (dialling handset defaultMtu credentials).link =
    ⟨handset, .new defaultMtu, .connecting credentials.token.sorcId .physical⟩ := rfl
  rw [radioEvent, reached, Link.radioEvent_of_asked asked taken, absorb_report, linkReported_of_reached]
  rfl

/-- A peer that was reached and cannot be asked for its limit is left at once. -/
theorem radioEvent_of_unasked {handset : Handset} {credentials : Credentials} {offered : Link.Offer}
    {cause : LinkError}
    (asked : offered = Link.start ⟨handset, .new defaultMtu,
      .connecting credentials.token.sorcId .requestingMtu⟩ limitRequest.toBytes)
    (refused : offered.refusal = some cause) :
    (dialling handset defaultMtu credentials).radioEvent (.connected credentials.token.sorcId) =
      ⟨atRest offered.link.handset defaultMtu,
        [.connectionChanged ⟨.connecting credentials.token.sorcId .transport,
          .entered credentials.token.sorcId .transport⟩,
         .connectionChanged ⟨.disconnected,
          .connectingFailed credentials.token.sorcId .invalidMtuResponse⟩],
        .announce (.link ⟨.connecting credentials.token.sorcId .requestingMtu,
          .entered credentials.token.sorcId .requestingMtu⟩) :: offered.effects ++
        .radio .disconnect :: linkEndEffects credentials.token.sorcId (.protocol .invalidMtuResponse) ++
        [.announce (.channel ⟨.connecting credentials.token.sorcId .transport,
            .entered credentials.token.sorcId .transport⟩),
         .announce (.channel ⟨.disconnected,
            .connectingFailed credentials.token.sorcId .invalidMtuResponse⟩)]⟩ := by
  have reached : (dialling handset defaultMtu credentials).link =
    ⟨handset, .new defaultMtu, .connecting credentials.token.sorcId .physical⟩ := rfl
  have upper : { settling handset (.new defaultMtu) credentials with
        link := .new offered.link.handset defaultMtu }.linkReported
      (.connectionChanged ⟨.disconnected,
        .connectingFailed credentials.token.sorcId .invalidMtuResponse⟩) =
      ended offered.link.handset defaultMtu credentials.token.sorcId (.protocol .invalidMtuResponse) [] :=
    linkReported_of_ended rfl rfl (.protocol .invalidMtuResponse)
  rw [radioEvent, reached, Link.radioEvent_of_unasked asked refused, absorb_pair, linkReported_of_reached,
    Turn.andThen]
  erw [upper]
  rfl

private theorem reached_transition (handset : Handset) (credentials : Credentials) :
    Transition defaultMtu (dialling handset defaultMtu credentials)
      (.radioEvent (.connected credentials.token.sorcId))
      ((dialling handset defaultMtu credentials).radioEvent (.connected credentials.token.sorcId)) := by
  obtain ⟨offered, asked⟩ : ∃ offered, offered = Link.start ⟨handset, .new defaultMtu,
    .connecting credentials.token.sorcId .requestingMtu⟩ limitRequest.toBytes := ⟨_, rfl⟩
  cases outcome : offered.refusal with
  | none =>
    rw [radioEvent_of_asked asked outcome]
    exact .asks asked outcome
  | some cause =>
    rw [radioEvent_of_unasked asked outcome]
    exact .asksInVain asked outcome

/-- A report that the peer is gone or was never there ends the connection to it. The link alone decides
whether one was lost. -/
theorem radioEvent_of_lost {channel : Channel} (lawful : Lawful defaultMtu channel) {event : RadioEvent}
    {failure : RadioFailure} (lost : ∀ sorcId, event ≠ .connected sorcId)
    (served : channel.link.state.sorcId? = some event.sorcId)
    (phase : failure = if channel.link.state.isConnected then .connectionLost else .connectingFailed) :
    channel.radioEvent event = ended channel.link.handset defaultMtu event.sorcId (.radio failure)
      (linkEndEffects event.sorcId (.radio failure)) := by
  have lower : channel.link.radioEvent event = channel.link.finish (.radio failure) := by
    rw [phase]
    cases event with
    | connected sorcId => exact absurd rfl (lost sorcId)
    | connectingFailed sorcId => exact if_pos served
    | disconnected sorcId => exact if_pos served
    | connectionLost sorcId => exact if_pos served
  obtain ⟨engaged, default⟩ := lawful.served served
  rw [radioEvent, lower, Link.finish_of_engaged served, default, absorb_of_ended engaged]
  rfl

/-- The radio reports that the peer is gone or was never there. -/
theorem lost_transition {channel : Channel} (lawful : Lawful defaultMtu channel) {event : RadioEvent}
    (lost : ∀ sorcId, event ≠ .connected sorcId) :
    Transition defaultMtu channel (.radioEvent event) (channel.radioEvent event) := by
  by_cases served : channel.link.state.sorcId? = some event.sorcId
  · rw [radioEvent_of_lost lawful lost served rfl]
    exact .ends (.radio (lawful.served served).1 rfl)
  · have lower : channel.link.radioEvent event = .idle channel.link := if_neg served
    rw [radioEvent, lower]
    exact .idle (not_chooses nofun)

private theorem radioEvent_transition {channel : Channel} (lawful : Lawful defaultMtu channel)
    (event : RadioEvent) : Transition defaultMtu channel (.radioEvent event) (channel.radioEvent event) := by
  cases event with
  | connected sorcId =>
    by_cases stale : channel.link.state = .connecting sorcId .physical
    · cases lawful with
      | dialling handset credentials =>
        cases stale
        exact reached_transition handset credentials
      | atRest handset => cases stale
      | settling handset credentials _ _ => cases stale
      | proving handset credentials _ _ _ _ => cases stale
      | secured handset credentials _ _ _ => cases stale
    · rw [radioEvent, Link.radioEvent_of_stale stale]
      exact .idle (not_chooses nofun)
  | connectingFailed sorcId => exact lost_transition lawful (by simp)
  | disconnected sorcId => exact lost_transition lawful (by simp)
  | connectionLost sorcId => exact lost_transition lawful (by simp)

theorem absorb_silent (channel : Channel) (link : Link) (effects : List Effect) :
    channel.absorb ⟨link, [], effects⟩ = ⟨{ channel with link }, [], effects⟩ := by
  simp [absorb, Turn.idle, Turn.after]

/-- A link that fails to settle the limit takes the channel with it. -/
theorem absorb_failMtu (handset : Handset) (line : Line) (credentials : Credentials) (link : Link)
    (engaged : link.state.sorcId? = some credentials.token.sorcId)
    (default : link.line.defaultMtu = defaultMtu) (effects : List Effect) :
    (settling handset line credentials).absorb (link.failMtu.after effects) =
      (ended link.handset defaultMtu credentials.token.sorcId (.protocol .invalidMtuResponse)
        (.radio .disconnect ::
          linkEndEffects credentials.token.sorcId (.protocol .invalidMtuResponse))).after effects := by
  rw [Link.failMtu_of_engaged engaged, default]
  refine (absorb_of_ended rfl link.handset (.protocol .invalidMtuResponse) _).trans ?_
  simp only [ended, Turn.after, List.append_assoc]
  rfl

private theorem confirm_settling {line : Line} (handset : Handset) (credentials : Credentials)
    (default : line.defaultMtu = defaultMtu) (result : Except LinkError Unit) :
    Transition defaultMtu (settling handset line credentials) (.confirm result)
      ((settling handset line credentials).confirm result) := by
  have outcome := Link.confirmed (settling handset line credentials).link result
  rw [confirm]
  generalize (settling handset line credentials).link.confirm result = lower at outcome ⊢
  cases outcome with
  | idle => exact .idle (not_chooses nofun)
  | proceeds confirmed =>
    rw [absorb_silent]
    exact .proceeds confirmed
  | @unwritten frame _ confirmed =>
    rw [Link.sendFailed_of_settling rfl]
    have failed := absorb_failMtu handset line credentials
      ⟨handset.answerWrite.2, line.dropSending.2, .connecting credentials.token.sorcId .requestingMtu⟩ rfl
      default [.radio (.write frame false)]
    exact failed ▸ .breaksOff confirmed rfl (.limit handset line credentials _)
  | completes confirmed => exact .waits confirmed rfl rfl
  | failed cause sending =>
    rw [Link.sendFailed_of_settling rfl]
    have failed := absorb_failMtu handset line credentials
      ⟨handset, line.dropSending.2, .connecting credentials.token.sorcId .requestingMtu⟩ rfl default []
    exact failed ▸ .ends (.limit handset line credentials _)

theorem dataSent_of_challenging {channel : Channel} {sorcId : Uuid}
    (challenging : channel.state = .connecting sorcId .challenging)
    (linked : channel.link.state.sorcId? = some sorcId)
    (default : channel.link.line.defaultMtu = defaultMtu) (cause : LinkError) :
    channel.dataSent (.error cause) = ended channel.link.handset defaultMtu sorcId
      (.protocol (.handshakeFailed channel.rejection)) hangUpEffects := by
  simp only [dataSent]
  split
  · exact sendFailed_of_challenging challenging linked default cause
  · exact @sendFailed_of_challenging defaultMtu { channel with inFlight := none } sorcId challenging linked
      default cause

private theorem dataSent_of_connected {channel : Channel} {sorcId : Uuid}
    (connected : channel.state = .connected sorcId) (cause : LinkError) :
    channel.dataSent (.error cause) =
      .report { channel with inFlight := inFlightAfter channel.inFlight cause }
        (.messageSent (.error (.link cause))) := by
  simp only [dataSent, inFlightAfter]
  split
  · exact sendFailed_of_connected connected cause
  · exact @sendFailed_of_connected { channel with inFlight := none } sorcId connected cause

private theorem confirm_proving {line : Line} {handshake : Handshake} {pendingKey : Option Block}
    {inFlight : Option Message} (handset : Handset) (credentials : Credentials)
    (default : line.defaultMtu = defaultMtu) (result : Except LinkError Unit) :
    Transition defaultMtu (proving handset line credentials handshake pendingKey inFlight)
      (.confirm result)
      ((proving handset line credentials handshake pendingKey inFlight).confirm result) := by
  have outcome :=
    Link.confirmed (proving handset line credentials handshake pendingKey inFlight).link result
  rw [confirm]
  generalize (proving handset line credentials handshake pendingKey inFlight).link.confirm result = lower
    at outcome ⊢
  cases outcome with
  | idle => exact .idle (not_chooses nofun)
  | proceeds confirmed =>
    rw [absorb_silent]
    exact .proceeds confirmed
  | unwritten confirmed =>
    rw [Link.sendFailed_of_not_settling rfl, Turn.after_report, absorb_report, linkReported,
      dataSent_of_challenging rfl rfl default]
    exact .breaksOff confirmed rfl (.handshake handset line credentials handshake pendingKey inFlight _ none)
  | completes confirmed =>
    cases pendingKey with
    | none => exact .waits confirmed rfl rfl
    | some key => exact .establishes confirmed
  | failed cause sending =>
    rw [Link.sendFailed_of_not_settling rfl, Turn.report, absorb_report, linkReported,
      dataSent_of_challenging rfl rfl default]
    exact .ends (.handshake handset line credentials handshake pendingKey inFlight _ none)

private theorem confirm_secured {line : Line} {context : SealingContext}
    {inFlight : Option Message} (handset : Handset) (credentials : Credentials)
    (accounted : ∀ package, line.sending = some package → inFlight.isSome = true)
    (result : Except LinkError Unit) :
    Transition defaultMtu (secured handset line credentials context inFlight)
      (.confirm result)
      ((secured handset line credentials context inFlight).confirm result) := by
  have outcome :=
    Link.confirmed (secured handset line credentials context inFlight).link result
  rw [confirm]
  generalize (secured handset line credentials context inFlight).link.confirm result = lower
    at outcome ⊢
  cases outcome with
  | idle => exact .idle (not_chooses nofun)
  | proceeds confirmed =>
    rw [absorb_silent]
    exact .proceeds confirmed
  | unwritten confirmed =>
    exact .declines confirmed
  | completes confirmed =>
    obtain ⟨package, sending, _, _⟩ := Line.confirm_eq_complete confirmed
    obtain ⟨message, rfl⟩ := Option.isSome_iff_exists.mp (accounted package sending)
    exact .delivers confirmed
  | failed cause sending =>
    rw [Link.sendFailed_of_not_settling rfl, Turn.report, absorb_report, linkReported,
      dataSent_of_connected rfl]
    exact .loses cause sending

/-- A settled limit opens the handshake. -/
theorem linkReported_of_settled (handset : Handset) (line limited : Line) (credentials : Credentials) :
    { settling handset line credentials with
        link := ⟨handset, limited, .connected credentials.token.sorcId⟩ }.linkReported
      (.connectionChanged ⟨.connected credentials.token.sorcId, .established credentials.token.sorcId⟩) =
      Turn.andThen
        ⟨proving handset.drawNonce.2 limited credentials (opening handset credentials).2 none none,
          [.connectionChanged ⟨.connecting credentials.token.sorcId .challenging,
            .entered credentials.token.sorcId .challenging⟩],
          [.announce (.channel ⟨.connecting credentials.token.sorcId .challenging,
            .entered credentials.token.sorcId .challenging⟩)]⟩
        fun channel => channel.transmit (opening handset credentials).1 := by
  simp [linkReported, linkChanged, settling, openHandshake, ConnectionState.isAt, new]
  rfl

/-- The peer has told its limit and the handshake opens. -/
theorem settled_transition {line next : Line} {raw data : Bytes} {mtu : Nat} (handset : Handset)
    (credentials : Credentials) (default : line.defaultMtu = defaultMtu)
    (received : line.receive raw = (.ok (some data), next))
    (kind : (Message.ofBytes data).id = .mtuReceive)
    (told : Payload.mtu? (Message.ofBytes data).payload = some mtu) (limit : Frame.headerSize < mtu) :
    Transition defaultMtu (settling handset line credentials) (.receive (.ok raw))
      ((settling handset line credentials).absorb
        (Link.publish
          ⟨handset, next.dropSending.2.withMtu mtu, .connecting credentials.token.sorcId .requestingMtu⟩
          (.connected credentials.token.sorcId) (.established credentials.token.sorcId))) := by
  obtain ⟨offered, spoken⟩ : ∃ offered, offered = (openingLink handset next credentials mtu).start
    (opening handset credentials).1.toBytes := ⟨_, rfl⟩
  have same : (next.dropSending.2.withMtu mtu).defaultMtu = defaultMtu := by
    obtain ⟨receiving, rfl⟩ := Line.receive_frame received
    exact default
  rw [Link.publish, absorb_report]
  erw [linkReported_of_settled]
  rw [Turn.andThen]
  rcases transmit_proving same handset.drawNonce.2 credentials (opening handset credentials).2 none
    none spoken with ⟨taken, sent⟩ | ⟨refused, sent⟩
  · rw [sent]
    exact .opens received kind told limit spoken taken
  · obtain ⟨cause, refused⟩ := Option.ne_none_iff_exists'.mp refused
    rw [sent]
    have row := @Transition.opensInVain defaultMtu handset line next credentials raw data mtu offered cause
      received spoken refused
    simpa [Turn.after, openingEffects, ended, EndCause.reason, EndCause.kind] using row

private theorem confirm_transition {channel : Channel} (lawful : Lawful defaultMtu channel)
    (result : Except LinkError Unit) :
    Transition defaultMtu channel (.confirm result) (channel.confirm result) := by
  cases lawful with
  | atRest handset =>
    rw [confirm, Link.confirm_of_free rfl]
    exact .idle (not_chooses nofun)
  | dialling handset credentials =>
    rw [confirm, Link.confirm_of_free rfl]
    exact .idle (not_chooses nofun)
  | settling handset credentials default _ => exact confirm_settling handset credentials default result
  | proving handset credentials default _ _ _ => exact confirm_proving handset credentials default result
  | secured handset credentials _ _ underway =>
    exact confirm_secured handset credentials (fun package sending => (underway package sending).2) result

private theorem quiet_of_collected {channel : Channel} {raw : Bytes} {message : Option Bytes} {line : Line}
    (received : channel.link.line.receive raw = (.ok message, line))
    (meaningless : ∀ data, message = some data →
      channel.link.isSettling = true ∧ (Message.ofBytes data).id ≠ .mtuReceive)
    (settled : channel.isChallenging = true → channel.link.isSettling = false) :
    ¬ channel.Chooses (.receive (.ok raw)) := by
  rintro ⟨_, data, _, same, read, chosen⟩
  cases same
  cases received.symm.trans read
  obtain ⟨settling, other⟩ := meaningless data rfl
  rcases chosen with ⟨_, kind⟩ | ⟨challenging, _⟩
  · exact other kind
  · cases (settled challenging).symm.trans settling

private theorem receive_settling {line : Line} (handset : Handset) (credentials : Credentials)
    (default : line.defaultMtu = defaultMtu) (result : Except LinkError Bytes) :
    Transition defaultMtu (settling handset line credentials) (.receive result)
      ((settling handset line credentials).receive result) := by
  have outcome := Link.received (settling handset line credentials).link result
  rw [receive]
  generalize (settling handset line credentials).link.receive result = lower at outcome ⊢
  cases outcome with
  | deaf result asleep _ => cases asleep
  | collects listening received meaningless =>
    exact .collects listening received (quiet_of_collected received meaningless nofun)
  | hears connected received => cases connected
  | mishears connected cause kept => cases connected
  | settles asking received kind told limit =>
    cases asking
    exact settled_transition handset credentials default received kind told limit
  | failsMtu asking kept =>
    obtain ⟨receiving, rfl⟩ := kept
    have failed := absorb_failMtu handset line credentials
      ⟨handset, { line with receiving }, .connecting credentials.token.sorcId .requestingMtu⟩ rfl default []
    exact failed ▸ .ends (.limit handset line credentials _)

theorem Reply.kind {credentials : Credentials} {handset heard : Handset} {handshake following : Handshake}
    {pendingKey key : Option Block} {arrived message : Message}
    (reply : Reply credentials handset handshake pendingKey arrived heard following key message) :
    message.id ∈ spokenInHandshake := by
  cases reply with
  | pushes kind readable => simp [spokenInHandshake]
  | renews kind => simp [spokenInHandshake, Handshake.renew, Handshake.start]
  | answers kind read proof => simp [spokenInHandshake, Handshake.response]

/-- What the phone says during the handshake is under way afterwards, or the attempt has ended. -/
theorem reply_transition {line next : Line} {handshake following : Handshake}
    {pendingKey key : Option Block} {inFlight : Option Message} {raw data : Bytes}
    {handset heard : Handset} {credentials : Credentials} {message : Message}
    (default : line.defaultMtu = defaultMtu) (received : line.receive raw = (.ok (some data), next))
    (reply : Reply credentials handset handshake pendingKey (.ofBytes data) heard following key message) :
    Transition defaultMtu (proving handset line credentials handshake pendingKey inFlight)
      (.receive (.ok raw))
      ((proving heard next credentials following key inFlight).transmit message) := by
  obtain ⟨offered, spoken⟩ : ∃ offered, offered =
    Link.start ⟨heard, next, .connected credentials.token.sorcId⟩ message.toBytes := ⟨_, rfl⟩
  have same : next.defaultMtu = defaultMtu := by
    obtain ⟨receiving, rfl⟩ := Line.receive_frame received
    exact default
  rcases transmit_proving same heard credentials following key inFlight spoken with
    ⟨taken, sent⟩ | ⟨refused, sent⟩
  · rw [sent]
    exact .replies received reply spoken taken
  · rw [sent]
    exact .givesUp received reply.kind spoken

/-- A peer without the key is told so, and the attempt ends whether it hears it or not. -/
theorem follow_rejected {line : Line} {offered : Link.Offer} {message : Message}
    (default : line.defaultMtu = defaultMtu) (handset : Handset) (credentials : Credentials)
    (handshake : Handshake) (pendingKey : Option Block) (inFlight : Option Message) (cause : HandshakeError)
    (spoken : offered =
      Link.start ⟨handset, line, .connected credentials.token.sorcId⟩ message.toBytes) :
    (proving handset line credentials handshake pendingKey inFlight).follow (.ok (.rejected message cause)) =
      (ended offered.link.handset defaultMtu credentials.token.sorcId
        (.protocol (.handshakeFailed (some cause))) hangUpEffects).after offered.effects := by
  have whole : (proving handset line credentials handshake pendingKey inFlight).follow
      (.ok (.rejected message cause)) =
      (transmit { proving handset line credentials handshake pendingKey inFlight with
        rejection := some cause } message).andThen (abortHandshake · (some cause)) := rfl
  rw [whole, Turn.andThen]
  rcases transmit_rejecting default handset credentials handshake pendingKey inFlight (some cause) spoken with
    ⟨taken, sent⟩ | ⟨refused, sent⟩
  · have kept : offered.link.line.defaultMtu = defaultMtu := by
      rw [spoken, (Link.mtu_start _ _).2]
      exact default
    have closed := close_of_engaged
      { proving offered.link.handset offered.link.line credentials handshake pendingKey (some message) with
        rejection := some cause } rfl rfl kept (.protocol (.handshakeFailed (some cause)))
    rw [sent, abortHandshake, closed]
    rfl
  · have resting : (atRest offered.link.handset defaultMtu).abortHandshake (some cause) =
        .idle (atRest offered.link.handset defaultMtu) := rfl
    rw [sent]
    simp [Turn.after, ended, resting, Turn.idle]

private theorem rejection_transition {line next : Line} {handshake : Handshake} {pendingKey : Option Block}
    {inFlight : Option Message} {raw data : Bytes} (handset : Handset) (credentials : Credentials)
    (default : line.defaultMtu = defaultMtu) (received : line.receive raw = (.ok (some data), next))
    {message : Message} (kind : message.id ∈ spokenInHandshake) (cause : HandshakeError) :
    Transition defaultMtu (proving handset line credentials handshake pendingKey inFlight)
      (.receive (.ok raw))
      ((proving handset next credentials handshake pendingKey inFlight).follow
        (.ok (.rejected message cause))) := by
  have same : next.defaultMtu = defaultMtu := by
    obtain ⟨receiving, rfl⟩ := Line.receive_frame received
    exact default
  rw [follow_rejected same handset credentials handshake pendingKey inFlight cause rfl]
  exact .givesUp received kind rfl

/-- The blob is pushed if it is readable. -/
theorem pushBlob_transition {line next : Line} {raw data : Bytes} (handset : Handset)
    (credentials : Credentials) (handshake : Handshake) (pendingKey : Option Block)
    (inFlight : Option Message) (default : line.defaultMtu = defaultMtu)
    (received : line.receive raw = (.ok (some data), next)) (kind : (Message.ofBytes data).id ≠ .ltAck) :
    Transition defaultMtu (proving handset line credentials handshake pendingKey inFlight)
      (.receive (.ok raw))
      ((proving handset next credentials handshake pendingKey inFlight).pushBlob) := by
  cases readable : Payload.blob credentials.blob.data with
  | error cause =>
    have same : next.defaultMtu = defaultMtu := by
      obtain ⟨receiving, rfl⟩ := Line.receive_frame received
      exact default
    have failed := close_of_engaged (proving handset next credentials handshake pendingKey inFlight)
      rfl rfl same (.protocol (.handshakeFailed none))
    simp only [pushBlob, proving, readable] at failed ⊢
    rw [abortHandshake, failed]
    exact .ends (.handshake handset line credentials handshake pendingKey inFlight _ none)
  | ok payload =>
    simp only [pushBlob, proving, readable]
    exact reply_transition default received (.pushes kind readable)

/-- What a message that arrives during the handshake leads to. -/
theorem handshakeMessage_transition {line next : Line} {handshake : Handshake} {pendingKey : Option Block}
    {inFlight : Option Message} {raw data : Bytes} (handset : Handset) (credentials : Credentials)
    (default : line.defaultMtu = defaultMtu) (received : line.receive raw = (.ok (some data), next)) :
    Transition defaultMtu (proving handset line credentials handshake pendingKey inFlight)
      (.receive (.ok raw))
      ((proving handset next credentials handshake pendingKey inFlight).handshakeMessage
        (.ofBytes data)) := by
  have same : next.defaultMtu = defaultMtu := by
    obtain ⟨receiving, rfl⟩ := Line.receive_frame received
    exact default
  have closed := close_of_engaged (proving handset next credentials handshake pendingKey inFlight)
    rfl rfl same
  have pushes := pushBlob_transition handset credentials handshake pendingKey inFlight default received
  have ignores (other : (Message.ofBytes data).id ≠ .ltAck) :
      Transition defaultMtu (proving handset line credentials handshake pendingKey inFlight)
        (.receive (.ok raw)) (.idle (proving handset next credentials handshake pendingKey inFlight)) :=
    .collects (.inr rfl) received (not_chooses_of_other received rfl other)
  cases kind : (Message.ofBytes data).id with
  | challengeSorcResponse =>
    have answers : (proving handset next credentials handshake pendingKey inFlight).handshakeMessage
        (.ofBytes data) = (proving handset next credentials handshake pendingKey inFlight).follow
          (handshake.answer (Message.ofBytes data).payload) := by
      simp only [handshakeMessage, kind, Handshake.respond]
      rfl
    have outcome := handshake.answered (Message.ofBytes data).payload
    rw [answers]
    generalize handshake.answer (Message.ofBytes data).payload = step at outcome ⊢
    cases outcome with
    | unreadable cause =>
      rw [follow, abortHandshake, closed]
      exact .ends (.handshake handset line credentials handshake pendingKey inFlight _ (some cause))
    | rejects => exact rejection_transition handset credentials default received (by decide) _
    | accepts read proof => exact reply_transition default received (.answers kind read proof)
  | badChallengeSorcResponse =>
    have needs : (proving handset next credentials handshake pendingKey inFlight).handshakeMessage
        (.ofBytes data) = (proving handset next credentials handshake pendingKey inFlight).blobNeeded
          (Payload.rejectedCounter? (Message.ofBytes data).payload) := by
      simp only [handshakeMessage, kind, Handshake.respond]
      rfl
    rw [needs, blobNeeded]
    split
    · rw [closed]
      exact .ends (.outdated handset line credentials handshake pendingKey inFlight _)
    · exact pushes (by simp [kind])
  | ltAck =>
    have renews : (proving handset next credentials handshake pendingKey inFlight).handshakeMessage
        (.ofBytes data) = (proving { handset with nonces := handset.nonces.draw.2 } next credentials
          (handshake.renew handset.nonces.draw.1).2 pendingKey inFlight).transmit
            (handshake.renew handset.nonces.draw.1).1 := by
      simp only [handshakeMessage, kind, Handshake.respond]
      rfl
    rw [renews]
    exact reply_transition default received (.renews kind)
  | ltBlobRequest =>
    simp only [handshakeMessage, kind]
    split
    · exact pushes (by simp [kind])
    · exact ignores (by simp [kind])
  | _ =>
    simp only [handshakeMessage, kind]
    exact ignores (by simp [kind])

private theorem receive_proving {line : Line} {handshake : Handshake} {pendingKey : Option Block}
    {inFlight : Option Message} (handset : Handset) (credentials : Credentials)
    (default : line.defaultMtu = defaultMtu) (result : Except LinkError Bytes) :
    Transition defaultMtu (proving handset line credentials handshake pendingKey inFlight)
      (.receive result)
      ((proving handset line credentials handshake pendingKey inFlight).receive result) := by
  have outcome :=
    Link.received (proving handset line credentials handshake pendingKey inFlight).link result
  rw [receive]
  generalize (proving handset line credentials handshake pendingKey inFlight).link.receive result = lower
    at outcome ⊢
  cases outcome with
  | deaf result _ unconnected => cases unconnected
  | collects listening received meaningless =>
    exact .collects listening received (quiet_of_collected received meaningless fun _ => rfl)
  | hears connected received =>
    rw [Turn.report, absorb_report, Turn.after_nil]
    exact handshakeMessage_transition handset credentials default received
  | mishears connected cause kept =>
    obtain ⟨receiving, rfl⟩ := kept
    have failed := close_of_engaged
      (proving handset { line with receiving } credentials handshake pendingKey inFlight) rfl rfl default
      (.protocol (.handshakeFailed none))
    rw [Turn.report, absorb_report, Turn.after_nil]
    refine (congrArg (Transition defaultMtu _ _) failed).mpr ?_
    exact .ends (.handshake handset line credentials handshake pendingKey inFlight _ none)
  | settles asking received kind told limit => cases asking
  | failsMtu asking kept => cases asking

private theorem receive_secured {line : Line} {context : SealingContext} {inFlight : Option Message}
    (handset : Handset) (credentials : Credentials) (result : Except LinkError Bytes) :
    Transition defaultMtu (secured handset line credentials context inFlight) (.receive result)
      ((secured handset line credentials context inFlight).receive result) := by
  have outcome := Link.received (secured handset line credentials context inFlight).link result
  rw [receive]
  generalize (secured handset line credentials context inFlight).link.receive result = lower at outcome ⊢
  cases outcome with
  | deaf result _ unconnected => cases unconnected
  | collects listening received meaningless =>
    exact .collects listening received (quiet_of_collected received meaningless fun _ => rfl)
  | @hears raw data next connected received =>
    obtain ⟨message, following, opened, unprotected⟩ := Protection.unprotected context data
    have heard : (secured handset next credentials context inFlight).dataReceived (.ok data) =
        .report (secured handset next credentials following inFlight)
          (.messageReceived (if message.isValid then .ok message else .error .decryptionFailed)) := by
      simp only [dataReceived, secured, opened]
    rw [Turn.report, absorb_report, Turn.after_nil]
    refine (congrArg (Transition defaultMtu _ _) heard).mpr ?_
    exact .hears received unprotected
  | mishears connected cause kept =>
    obtain ⟨receiving, rfl⟩ := kept
    exact .mishears cause _ rfl
  | settles asking received kind told limit => cases asking
  | failsMtu asking kept => cases asking

private theorem receive_transition {channel : Channel} (lawful : Lawful defaultMtu channel)
    (result : Except LinkError Bytes) :
    Transition defaultMtu channel (.receive result) (channel.receive result) := by
  cases lawful with
  | atRest handset =>
    refine .idle ?_
    rintro ⟨_, _, _, _, _, ⟨settling, _⟩ | ⟨challenging, _⟩⟩
    · cases settling
    · cases challenging
  | dialling handset credentials =>
    refine .idle ?_
    rintro ⟨_, _, _, _, _, ⟨settling, _⟩ | ⟨challenging, _⟩⟩
    · cases settling
    · cases challenging
  | settling handset credentials default _ => exact receive_settling handset credentials default result
  | proving handset credentials default _ _ _ _ => exact receive_proving handset credentials default result
  | secured handset credentials _ _ _ => exact receive_secured handset credentials result

/-- Whatever a lawful channel does is one of the transitions. -/
theorem act_transition {channel : Channel} (lawful : Lawful defaultMtu channel) (input : Input) :
    Transition defaultMtu channel input (channel.act input) := by
  cases input with
  | connect credentials => exact connect_transition lawful credentials
  | close cause => exact close_transition lawful cause
  | send message => exact send_transition lawful message
  | radioEvent event => exact radioEvent_transition lawful event
  | confirm result => exact confirm_transition lawful result
  | receive result => exact receive_transition lawful result

end PhoneKey.Channel
