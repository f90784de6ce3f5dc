import PhoneKey.Link
import PhoneKey.Proofs.Line

/-! # Outcomes of a link's calls

A message that is given to a link is either under way afterwards, or nothing changed but that a write
may have been tried. A confirmation has five outcomes.
-/

namespace PhoneKey.Link

theorem write_of_accepts (link : Link) (accepts : link.handset.accepts 0 = true) (frame : Bytes) :
    link.write frame =
      ⟨none, { link with handset := link.handset.answerWrite.2 }, [.radio (.write frame true)]⟩ := by
  simp [write, Handset.answerWrite, accepts]

theorem write_of_declines (link : Link) (declines : link.handset.accepts 0 = false) (frame : Bytes) :
    link.write frame =
      ⟨some .writeFailed,
        ⟨link.handset.answerWrite.2, link.line.dropSending.2, link.state⟩,
        [.radio (.write frame false)]⟩ := by
  simp [write, Handset.answerWrite, declines]

/-- A message that was taken is launched and its first frame written. -/
theorem start_taken {link : Link} {message : Bytes} (taken : (link.start message).refusal = none) :
    ∃ frame line, link.line.launch message = .ok (frame, line) ∧ link.handset.accepts 0 = true ∧
      link.start message =
        ⟨none, ⟨link.handset.answerWrite.2, line, link.state⟩, [.radio (.write frame true)]⟩ := by
  cases launched : link.line.launch message with
  | error cause => simp [start, launched] at taken
  | ok begun =>
    obtain ⟨frame, line⟩ := begun
    cases answer : link.handset.accepts 0 with
    | false =>
      have same := write_of_declines { link with line } answer frame
      simp [start, launched, same] at taken
    | true =>
      refine ⟨frame, line, rfl, rfl, ?_⟩
      simp only [start, launched]
      exact write_of_accepts { link with line } answer frame

/-- A message that was taken is under way. -/
theorem underway_of_taken {link : Link} {message : Bytes} (taken : (link.start message).refusal = none) :
    ∃ package, (link.start message).link.line.sending = some package ∧ package.message = message ∧
      package.Underway (link.start message).link.line.mtu := by
  obtain ⟨frame, line, launched, _, same⟩ := start_taken taken
  obtain ⟨_, first, rest, _, _, next⟩ := Line.launch_eq_ok launched
  have sending : line.sending = some ⟨message, first :: rest⟩ := by rw [next]
  obtain ⟨carried, underway, _⟩ := Line.underway_of_launch launched sending
  rw [same]
  exact ⟨_, sending, carried, underway⟩

/-- What a refused message leaves behind: the link as it was, but for a write that was declined. -/
theorem start_refused {link : Link} {message : Bytes} {cause : LinkError}
    (refused : (link.start message).refusal = some cause) :
    (link.line.launch message = .error cause ∧ link.start message = ⟨some cause, link, []⟩) ∨
    (∃ frame line, link.line.launch message = .ok (frame, line) ∧ link.handset.accepts 0 = false ∧
      cause = .writeFailed ∧
      link.start message =
        ⟨some .writeFailed, { link with handset := link.handset.answerWrite.2 },
          [.radio (.write frame false)]⟩) := by
  cases launched : link.line.launch message with
  | error failure =>
    simp only [start, launched, Option.some.injEq] at refused
    exact .inl ⟨congrArg _ refused, by simp [start, launched, refused]⟩
  | ok begun =>
    obtain ⟨frame, line⟩ := begun
    cases answer : link.handset.accepts 0 with
    | true =>
      have same := write_of_accepts { link with line } answer frame
      simp [start, launched, same] at refused
    | false =>
      have same := write_of_declines { link with line } answer frame
      have failed : start link message = write { link with line } frame := by simp [start, launched]
      rw [failed, same] at refused
      refine .inr ⟨frame, line, rfl, rfl, (Option.some.inj refused).symm, ?_⟩
      rw [failed, same, Line.dropSending_launch launched]

/-- Why a link on which frames have room refuses a message: it is busy, the message is too long, or the
radio declines the first frame. -/
def Refuses (link : Link) (message : Bytes) (cause : LinkError) : Prop :=
  link.line.isBusy = true ∧ cause = .sendingInProgress ∨
  link.line.isBusy = false ∧ maxMessageLength < message.length ∧ cause = .invalidFrame ∨
  link.line.isBusy = false ∧ message.length ≤ maxMessageLength ∧ link.handset.accepts 0 = false ∧
    cause = .writeFailed

theorem refusal_eq_some_iff {link : Link} (limit : Frame.headerSize < link.line.mtu) (message : Bytes)
    (cause : LinkError) : (link.start message).refusal = some cause ↔ link.Refuses message cause := by
  have room : Frame.sizeForMtu link.line.mtu ≠ 0 := by
    rw [Frame.sizeForMtu]
    omega
  constructor
  · intro refused
    rcases start_refused refused with ⟨launched, _⟩ | ⟨frame, line, launched, declines, same, _⟩
    · rcases (Line.launch_eq_error_iff _ _ _).mp launched with busy | ⟨free, same, narrow | long⟩
      · exact .inl busy
      · exact absurd narrow room
      · exact .inr (.inl ⟨free, long, same⟩)
    · obtain ⟨free, first, rest, split, _⟩ := Line.launch_eq_ok launched
      have fits : ¬ maxMessageLength < message.length := by
        intro long
        obtain ⟨failure, failed⟩ := (Frame.split_eq_error_iff message _).mpr (.inr long)
        cases split.symm.trans failed
      exact .inr (.inr ⟨free, by omega, declines, same⟩)
  · rintro (⟨busy, rfl⟩ | ⟨free, long, rfl⟩ | ⟨free, fits, declines, rfl⟩)
    · have launched := (Line.launch_eq_error_iff link.line message _).mpr (.inl ⟨busy, rfl⟩)
      simp only [start, launched]
    · have launched := (Line.launch_eq_error_iff link.line message _).mpr (.inr ⟨free, rfl, .inr long⟩)
      simp only [start, launched]
    · cases launched : link.line.launch message with
      | error cause =>
        rcases (Line.launch_eq_error_iff _ _ _).mp launched with ⟨busy, _⟩ | ⟨_, _, narrow | long⟩
        · cases free.symm.trans busy
        · exact absurd narrow room
        · omega
      | ok begun =>
        obtain ⟨frame, line⟩ := begun
        have declined := write_of_declines { link with line } declines frame
        simp only [start, launched, declined]

/-- While a package is under way, every other message is refused for that reason alone. -/
theorem refusal_of_sending {link : Link} {message : Bytes} {cause : LinkError} {package : Package}
    (refused : (link.start message).refusal = some cause) (sending : link.line.sending = some package) :
    cause = .sendingInProgress := by
  have busy : link.line.isBusy = true := by simp [Line.isBusy, sending]
  rcases start_refused refused with ⟨launched, _⟩ | ⟨_, _, launched, _⟩
  · rcases (Line.launch_eq_error_iff _ _ _).mp launched with ⟨_, same⟩ | ⟨free, _⟩
    · exact same
    · rw [busy] at free
      cases free
  · have free := (Line.launch_eq_ok launched).1
    rw [busy] at free
    cases free

/-- The link of a refused message differs by its handset at most. -/
theorem link_of_refused {link : Link} {message : Bytes} {cause : LinkError}
    (refused : (link.start message).refusal = some cause) :
    (link.start message).link = { link with handset := (link.start message).link.handset } := by
  rcases start_refused refused with ⟨_, same⟩ | ⟨_, _, _, _, _, same⟩ <;> rw [same]

/-- No frame of a refused message was accepted. -/
theorem no_write_of_refused {link : Link} {message : Bytes} {cause : LinkError}
    (refused : (link.start message).refusal = some cause) (frame : Bytes) :
    .radio (.write frame true) ∉ (link.start message).effects := by
  rcases start_refused refused with ⟨_, same⟩ | ⟨_, _, _, _, _, same⟩ <;> rw [same] <;> simp

/-- All that starting a message does to the surroundings is to write the frame that opens it. -/
theorem effects_start (link : Link) (message : Bytes) :
    (link.start message).effects = [] ∨ ∃ frame accepted,
      (link.start message).effects = [.radio (.write frame accepted)] ∧ Frame.Opens frame message := by
  cases outcome : (link.start message).refusal with
  | none =>
    obtain ⟨frame, line, launched, _, same⟩ := start_taken outcome
    exact .inr ⟨frame, true, by rw [same], Line.opens_of_launch launched⟩
  | some cause =>
    rcases start_refused outcome with ⟨_, same⟩ | ⟨frame, line, launched, _, _, same⟩
    · exact .inl (by rw [same])
    · exact .inr ⟨frame, false, by rw [same], Line.opens_of_launch launched⟩

theorem no_news_start (link : Link) (message : Bytes) (news : Announcement) :
    .announce news ∉ (link.start message).effects := by
  rcases effects_start link message with silent | ⟨frame, accepted, same, _⟩
  · simp [silent]
  · simp [same]

theorem no_news_of_offered {link : Link} {message : Bytes} {offered : Offer}
    (spoken : offered = link.start message) (news : Announcement) : .announce news ∉ offered.effects := by
  rw [spoken]
  exact no_news_start link message news

@[simp] theorem state_start (link : Link) (message : Bytes) :
    (link.start message).link.state = link.state := by
  cases outcome : (link.start message).refusal with
  | none =>
    obtain ⟨_, _, _, _, same⟩ := start_taken outcome
    rw [same]
  | some cause => rw [link_of_refused outcome]

theorem link_start (link : Link) (message : Bytes) :
    (link.start message).link =
      ⟨(link.start message).link.handset, (link.start message).link.line, link.state⟩ := by
  rw [← state_start link message]

/-- A message that is given to a link, taken or not, leaves its limits alone. -/
theorem mtu_start (link : Link) (message : Bytes) :
    (link.start message).link.line.mtu = link.line.mtu ∧
      (link.start message).link.line.defaultMtu = link.line.defaultMtu := by
  cases outcome : (link.start message).refusal with
  | none =>
    obtain ⟨_, _, launched, _, same⟩ := start_taken outcome
    rw [same]
    exact Line.mtu_of_launch launched
  | some cause =>
    rw [link_of_refused outcome]
    exact ⟨rfl, rfl⟩

/-- What is left of a link whose connection has ended. -/
theorem finish_of_engaged {link : Link} {sorcId : Uuid} (engaged : link.state.sorcId? = some sorcId)
    (cause : EndCause) :
    link.finish cause =
      ⟨.new link.handset link.line.defaultMtu, [.connectionChanged ⟨.disconnected, cause.reason sorcId⟩],
        [.announce (.link ⟨.disconnected, cause.reason sorcId⟩)]⟩ := by
  simp only [finish, engaged]
  rfl

theorem isDisconnected_of_engaged {Stage : Type} {state : ConnectionState Stage} {sorcId : Uuid}
    (engaged : state.sorcId? = some sorcId) : state.isDisconnected = false := by
  cases state with
  | disconnected => cases engaged
  | connecting _ _ => rfl
  | connected _ => rfl

theorem close_of_engaged {link : Link} {sorcId : Uuid} (engaged : link.state.sorcId? = some sorcId)
    (cause : EndCause) :
    link.close cause =
      ⟨.new link.handset link.line.defaultMtu, [.connectionChanged ⟨.disconnected, cause.reason sorcId⟩],
        [.radio .disconnect, .announce (.link ⟨.disconnected, cause.reason sorcId⟩)]⟩ := by
  rw [close, isDisconnected_of_engaged engaged, if_neg Bool.false_ne_true, finish_of_engaged engaged]
  rfl

/-- A link that cannot settle the limit hangs up. -/
theorem failMtu_of_engaged {link : Link} {sorcId : Uuid} (engaged : link.state.sorcId? = some sorcId) :
    link.failMtu =
      ⟨.new link.handset link.line.defaultMtu,
        [.connectionChanged ⟨.disconnected, .connectingFailed sorcId .invalidMtuResponse⟩],
        [.radio .disconnect,
          .announce (.link ⟨.disconnected, .connectingFailed sorcId .invalidMtuResponse⟩)]⟩ :=
  close_of_engaged engaged _

/-- That the peer was reached is news only while the radio is asked for it. -/
theorem radioEvent_of_stale {link : Link} {sorcId : Uuid}
    (stale : link.state ≠ .connecting sorcId .physical) :
    link.radioEvent (.connected sorcId) = .idle link := by
  simp [radioEvent, ConnectionState.isAt, stale]

/-- Any other report means that the peer of the link is gone, or concerns another one. -/
theorem radioEvent_of_gone (link : Link) {event : RadioEvent} (gone : ∀ sorcId, event ≠ .connected sorcId) :
    link.radioEvent event = .idle link ∨ ∃ cause, link.radioEvent event = link.finish cause := by
  by_cases served : link.state.sorcId? = some event.sorcId
  · refine .inr ?_
    cases event with
    | connected sorcId => exact absurd rfl (gone sorcId)
    | connectingFailed sorcId => exact ⟨_, if_pos served⟩
    | disconnected sorcId => exact ⟨_, if_pos served⟩
    | connectionLost sorcId => exact ⟨_, if_pos served⟩
  · exact .inl (if_neg served)

/-- The radio has reached the peer, which is asked for its limit. -/
theorem radioEvent_of_reached (handset : Handset) (line : Line) (sorcId : Uuid) :
    radioEvent ⟨handset, line, .connecting sorcId .physical⟩ (.connected sorcId) =
      (publish ⟨handset, line, .connecting sorcId .physical⟩ (.connecting sorcId .requestingMtu)
        (.entered sorcId .requestingMtu)).andThen askMtu := by
  simp [radioEvent, ConnectionState.sorcId?, RadioEvent.sorcId, ConnectionState.isAt]

/-- The peer was asked for its limit. -/
theorem radioEvent_of_asked {handset : Handset} {line : Line} {sorcId : Uuid} {offered : Offer}
    (asked : offered =
      start ⟨handset, line, .connecting sorcId .requestingMtu⟩ (Message.empty .mtuRequest).toBytes)
    (taken : offered.refusal = none) :
    radioEvent ⟨handset, line, .connecting sorcId .physical⟩ (.connected sorcId) =
      ⟨⟨offered.link.handset, offered.link.line, .connecting sorcId .requestingMtu⟩,
        [.connectionChanged ⟨.connecting sorcId .requestingMtu, .entered sorcId .requestingMtu⟩],
        .announce (.link ⟨.connecting sorcId .requestingMtu, .entered sorcId .requestingMtu⟩) ::
          offered.effects⟩ := by
  have whole := link_start ⟨handset, line, .connecting sorcId .requestingMtu⟩
    (Message.empty .mtuRequest).toBytes
  rw [← asked] at whole
  have ask : askMtu ⟨handset, line, .connecting sorcId .requestingMtu⟩ =
      ⟨offered.link, [], offered.effects⟩ := by
    subst asked
    simp only [askMtu, taken]
  simp only [radioEvent_of_reached, Turn.andThen, publish, ask]
  rw [whole]
  rfl

/-- The peer could not be asked for its limit, which ends the attempt. -/
theorem radioEvent_of_unasked {handset : Handset} {line : Line} {sorcId : Uuid} {offered : Offer}
    {cause : LinkError}
    (asked : offered =
      start ⟨handset, line, .connecting sorcId .requestingMtu⟩ (Message.empty .mtuRequest).toBytes)
    (refused : offered.refusal = some cause) :
    radioEvent ⟨handset, line, .connecting sorcId .physical⟩ (.connected sorcId) =
      ⟨.new offered.link.handset line.defaultMtu,
        [.connectionChanged ⟨.connecting sorcId .requestingMtu, .entered sorcId .requestingMtu⟩,
          .connectionChanged ⟨.disconnected, .connectingFailed sorcId .invalidMtuResponse⟩],
        .announce (.link ⟨.connecting sorcId .requestingMtu, .entered sorcId .requestingMtu⟩) ::
          offered.effects ++
          [.radio .disconnect,
            .announce (.link ⟨.disconnected, .connectingFailed sorcId .invalidMtuResponse⟩)]⟩ := by
  have kept := link_of_refused (asked ▸ refused)
  rw [← asked] at kept
  have engaged : offered.link.state.sorcId? = some sorcId := by rw [kept]; rfl
  have ask : askMtu ⟨handset, line, .connecting sorcId .requestingMtu⟩ =
      offered.link.failMtu.after offered.effects := by
    subst asked
    simp only [askMtu, refused]
  simp only [radioEvent_of_reached, Turn.andThen, publish, ask, failMtu_of_engaged engaged]
  rw [kept]
  rfl

theorem sendFailed_of_settling {link : Link} (settling : link.isSettling = true) (cause : LinkError) :
    link.sendFailed cause = link.failMtu := if_pos settling

theorem sendFailed_of_not_settling {link : Link} (settled : link.isSettling = false) (cause : LinkError) :
    link.sendFailed cause = .report link (.dataSent (.error cause)) := by
  rw [sendFailed, settled, if_neg Bool.false_ne_true]

/-- The outcomes of a confirmation. -/
inductive Confirmed (link : Link) : Except LinkError Unit → Turn Link LinkReport → Prop
  /-- No package is under way. -/
  | idle (result : Except LinkError Unit) (sending : link.line.sending = none) :
      Confirmed link result (.idle link)
  | proceeds {frame : Bytes} {line : Line} (confirmed : link.line.confirm = (.next frame, line)) :
      Confirmed link (.ok ())
        ⟨⟨link.handset.answerWrite.2, line, link.state⟩, [], [.radio (.write frame true)]⟩
  /-- The next frame was declined, which gives the package up. -/
  | unwritten {frame : Bytes} {line : Line} (confirmed : link.line.confirm = (.next frame, line)) :
      Confirmed link (.ok ())
        ((sendFailed ⟨link.handset.answerWrite.2, link.line.dropSending.2, link.state⟩ .writeFailed).after
          [.radio (.write frame false)])
  | completes {message : Bytes} {line : Line}
      (confirmed : link.line.confirm = (.complete message, line)) :
      Confirmed link (.ok ())
        (if link.isSettling then .idle { link with line }
          else .report { link with line } (.dataSent (.ok message)))
  /-- The radio failed to write a frame of the package. -/
  | failed (cause : LinkError) (sending : link.line.sending ≠ none) :
      Confirmed link (.error cause) (sendFailed { link with line := link.line.dropSending.2 } cause)

theorem confirmed (link : Link) (result : Except LinkError Unit) :
    Confirmed link result (link.confirm result) := by
  cases result with
  | error cause =>
    cases sending : link.line.sending with
    | none =>
      have same : link.confirm (.error cause) = .idle link := by simp [confirm, Line.dropSending, sending]
      exact same ▸ .idle _ sending
    | some package =>
      have same : link.confirm (.error cause) =
          sendFailed { link with line := link.line.dropSending.2 } cause := by
        simp [confirm, Line.dropSending, sending]
      exact same ▸ .failed cause (by simp [sending])
  | ok written =>
    cases progress : link.line.confirm with
    | mk outcome line =>
      cases outcome with
      | idle =>
        have same : link.confirm (.ok ()) = .idle link := by simp [confirm, progress]
        exact same ▸ .idle _ (Line.confirm_eq_idle progress).1
      | complete message =>
        have same : link.confirm (.ok ()) = (if link.isSettling then .idle { link with line }
            else .report { link with line } (.dataSent (.ok message))) := by simp [confirm, progress]
        exact same ▸ .completes progress
      | next frame =>
        have dropped : line.dropSending.2 = link.line.dropSending.2 := by
          obtain ⟨_, _, _, _, _, rfl⟩ := Line.confirm_eq_next progress
          rfl
        cases answer : link.handset.accepts 0 with
        | true =>
          have written := write_of_accepts { link with line } answer frame
          have same : link.confirm (.ok ()) =
              ⟨⟨link.handset.answerWrite.2, line, link.state⟩, [], [.radio (.write frame true)]⟩ := by
            simp [confirm, progress, written]
          exact same ▸ .proceeds progress
        | false =>
          have unwritten := write_of_declines { link with line } answer frame
          have same : link.confirm (.ok ()) =
              (sendFailed ⟨link.handset.answerWrite.2, link.line.dropSending.2, link.state⟩
                .writeFailed).after [.radio (.write frame false)] := by
            simp [confirm, progress, unwritten, dropped]
          exact same ▸ .unwritten progress

theorem confirm_of_free {link : Link} (free : link.line.sending = none) (result : Except LinkError Unit) :
    link.confirm result = .idle link := by
  cases result with
  | error cause => simp [confirm, Line.dropSending, free]
  | ok written => simp [confirm, Line.confirm, free]

/-- The outcomes of a received frame. -/
inductive Received (link : Link) : Except LinkError Bytes → Turn Link LinkReport → Prop
  /-- There is no peer to listen to yet. -/
  | deaf (result : Except LinkError Bytes) (asleep : link.isSettling = false)
      (unconnected : link.state.isConnected = false) : Received link result (.idle link)
  /-- The frame completes no message, or one that means nothing here. -/
  | collects {raw : Bytes} {message : Option Bytes} {line : Line}
      (listening : link.isSettling = true ∨ link.state.isConnected = true)
      (received : link.line.receive raw = (.ok message, line))
      (meaningless : ∀ data, message = some data →
        link.isSettling = true ∧ (Message.ofBytes data).id ≠ .mtuReceive) :
      Received link (.ok raw) (.idle { link with line })
  | hears {raw data : Bytes} {line : Line} (connected : link.state.isConnected = true)
      (received : link.line.receive raw = (.ok (some data), line)) :
      Received link (.ok raw) (.report { link with line } (.dataReceived (.ok data)))
  | mishears {result : Except LinkError Bytes} {line : Line} (connected : link.state.isConnected = true)
      (cause : LinkError) (kept : ∃ receiving, line = { link.line with receiving }) :
      Received link result (.report { link with line } (.dataReceived (.error cause)))
  /-- The peer has told its limit. -/
  | settles {raw data : Bytes} {line : Line} {sorcId : Uuid} {mtu : Nat}
      (asking : link.state = .connecting sorcId .requestingMtu)
      (received : link.line.receive raw = (.ok (some data), line))
      (kind : (Message.ofBytes data).id = .mtuReceive)
      (told : Payload.mtu? (Message.ofBytes data).payload = some mtu)
      (limit : Frame.headerSize < mtu) :
      Received link (.ok raw)
        (publish { link with line := line.dropSending.2.withMtu mtu } (.connected sorcId)
          (.established sorcId))
  | failsMtu {result : Except LinkError Bytes} {line : Line} (asking : link.isSettling = true)
      (kept : ∃ receiving, line = { link.line with receiving }) :
      Received link result (failMtu { link with line })

/-- What becomes of a message while the limit is being settled. -/
private theorem mtuReceived_received {link : Link} {raw data : Bytes} {line : Line} {sorcId : Uuid}
    (asking : link.state = .connecting sorcId .requestingMtu)
    (received : link.line.receive raw = (.ok (some data), line)) :
    Received link (.ok raw) (mtuReceived { link with line } sorcId (.ofBytes data)) := by
  have settling : link.isSettling = true := by simp [isSettling, asking]
  by_cases kind : (Message.ofBytes data).id = .mtuReceive
  · rw [mtuReceived, if_pos kind]
    cases told : Payload.mtu? (Message.ofBytes data).payload with
    | none => exact .failsMtu settling (Line.receive_frame received)
    | some mtu =>
      by_cases limit : Frame.headerSize < mtu
      · simp only [if_pos limit]
        exact .settles asking received kind told limit
      · simp only [if_neg limit]
        exact .failsMtu settling (Line.receive_frame received)
  · rw [mtuReceived, if_neg kind]
    refine .collects (.inl settling) received ?_
    rintro other ⟨⟩
    exact ⟨settling, kind⟩

theorem received (link : Link) (result : Except LinkError Bytes) :
    Received link result (link.receive result) := by
  cases state : link.state with
  | disconnected =>
    have same : link.receive result = .idle link := by simp only [receive, state]
    exact same ▸ .deaf result (by simp [isSettling, state]) (by rw [state]; rfl)
  | connecting sorcId stage =>
    cases stage with
    | physical =>
      have same : link.receive result = .idle link := by simp only [receive, state]
      exact same ▸ .deaf result (by simp [isSettling, state]) (by rw [state]; rfl)
    | requestingMtu =>
      have settling : link.isSettling = true := by simp [isSettling, state]
      cases result with
      | error cause =>
        have same : link.receive (.error cause) = failMtu { link with line := link.line.dropReceiving } := by
          simp only [receive, state]
        exact same ▸ .failsMtu settling ⟨_, rfl⟩
      | ok raw =>
        rcases outcome : link.line.receive raw with ⟨message, line⟩
        match message with
        | .error cause =>
          have same : link.receive (.ok raw) = failMtu { link with line } := by
            simp only [receive, state, outcome]
          exact same ▸ .failsMtu settling (Line.receive_frame outcome)
        | .ok none =>
          have same : link.receive (.ok raw) = .idle { link with line } := by
            simp only [receive, state, outcome]
          exact same ▸ .collects (.inl settling) outcome nofun
        | .ok (some data) =>
          have same : link.receive (.ok raw) = mtuReceived { link with line } sorcId (.ofBytes data) := by
            simp only [receive, state, outcome]
          exact same ▸ mtuReceived_received state outcome
  | connected sorcId =>
    have connected : link.state.isConnected = true := by rw [state]; rfl
    cases result with
    | error cause =>
      have same : link.receive (.error cause) =
          .report { link with line := link.line.dropReceiving } (.dataReceived (.error cause)) := by
        simp only [receive, state]
      exact same ▸ .mishears connected cause ⟨_, rfl⟩
    | ok raw =>
      rcases outcome : link.line.receive raw with ⟨message, line⟩
      match message with
      | .error cause =>
        have same : link.receive (.ok raw) = .report { link with line } (.dataReceived (.error cause)) := by
          simp only [receive, state, outcome]
        exact same ▸ .mishears connected cause (Line.receive_frame outcome)
      | .ok none =>
        have same : link.receive (.ok raw) = .idle { link with line } := by
          simp only [receive, state, outcome]
        exact same ▸ .collects (.inr connected) outcome nofun
      | .ok (some data) =>
        have same : link.receive (.ok raw) = .report { link with line } (.dataReceived (.ok data)) := by
          simp only [receive, state, outcome]
        exact same ▸ .hears connected outcome

end PhoneKey.Link
