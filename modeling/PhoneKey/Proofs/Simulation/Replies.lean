import PhoneKey.Proofs.Simulation.Stages

/-! # What the phone makes of the peer's frames

A frame that leaves its package open is put to the others. The frame that completes an answer takes the
connection to its next stage, given that the phone's own message is no longer under way.
-/

namespace PhoneKey

/-- The next frame leaves its package open, or it completes the message. -/
theorem Awaits.next {receiving : Assembler} {raw data : Bytes} {frames : List Bytes}
    (awaits : Awaits receiving (raw :: frames) data) :
    (∃ frame : Frame, raw = frame.toBytes ∧ frame.type.closes = false ∧ frame.flags = 0 ∧
      Awaits (receiving.append frame.payload) frames data) ∨
    (frames = [] ∧ ∃ opening last, Frame.Whole data opening last ∧ raw = last.toBytes ∧
      receiving = Assembler.empty.gather opening) := by
  obtain ⟨gathered, rest, last, whole, collected, coming⟩ := awaits
  cases rest with
  | nil =>
    rw [List.nil_append, List.map_singleton, List.cons.injEq] at coming
    rw [List.append_nil] at whole
    exact .inr ⟨coming.2, gathered, last, whole, coming.1, collected⟩
  | cons frame others =>
    rw [List.cons_append, List.map_cons, List.cons.injEq] at coming
    have member : frame ∈ gathered ++ frame :: others := by simp
    refine .inl ⟨frame, coming.1, whole.leaves frame member,
      whole.plain frame (List.mem_append_left _ member), gathered ++ [frame], others, last, ?_, ?_, coming.2⟩
    · rwa [List.append_assoc, List.singleton_append]
    · rw [collected, Assembler.gather, Assembler.gather, List.foldl_append]
      rfl

/-- Whether the bytes are those of a frame that closes its package. -/
def Frame.Closes (raw : Bytes) : Prop := ∃ frame, ofBytes raw = .ok frame ∧ frame.type.closes = true

private theorem Frame.Whole.closes_last {data : Bytes} {opening : List Frame} {last : Frame}
    (whole : Whole data opening last) : Closes last.toBytes :=
  ⟨last, ofBytes_toBytes_of_plain (whole.plain last (by simp)), whole.closes⟩

/-- A frame that closes its package completes the message. -/
theorem Awaits.last {receiving : Assembler} {raw data : Bytes} {frames : List Bytes}
    (awaits : Awaits receiving (raw :: frames) data) (closes : Frame.Closes raw) :
    frames = [] ∧ ∃ opening last, Frame.Whole data opening last ∧ raw = last.toBytes ∧
      receiving = Assembler.empty.gather opening := by
  rcases awaits.next with ⟨frame, rfl, leaves, plain, _⟩ | complete
  · obtain ⟨read, same, ends⟩ := closes
    rw [Frame.ofBytes_toBytes_of_plain plain] at same
    cases same
    cases leaves.symm.trans ends
  · exact complete

/-- What holds of a turn in which the phone got a frame: what is launched is counted by the rank. -/
structure Hears (defaultMtu : Nat) (credentials : Credentials) (profile : SorcProfile) (session : Session)
    (turn : SessionTurn) (prospect : Prospect) (launched : List Bytes) (before after : Nat) : Prop where
  leads : Leads defaultMtu credentials profile session turn prospect launched after
  bounded : after ≤ before
  spends : launched ≠ [] → after < before
  getsOn : session.state.GetsOn turn.state.state
  keeps : Account.Keeps turn.effects

/-- Of a session only its state, its open grants and the package under way matter. -/
theorem Hears.of_same {defaultMtu before after : Nat} {credentials : Credentials} {profile : SorcProfile}
    {session other : Session} {turn : SessionTurn} {prospect : Prospect} {launched : List Bytes}
    (hears : Hears defaultMtu credentials profile other turn prospect launched before after)
    (sending : other.channel.link.line.sending = session.channel.link.line.sending)
    (openGrants : other.openGrants = session.openGrants) (state : other.state = session.state) :
    Hears defaultMtu credentials profile session turn prospect launched before after where
  leads := ⟨hears.leads.smooth.of_same sending openGrants, hears.leads.stage⟩
  bounded := hears.bounded
  spends := hears.spends
  getsOn := state ▸ hears.getsOn
  keeps := hears.keeps

namespace Session

variable {session : Session} {defaultMtu mtu now : Nat} {credentials : Credentials} {nonces : Nonces}
  {answer : UInt16 → GrantResponse} {frame last : Frame} {opening : List Frame}

/-- A frame that leaves its package open is put to the others. -/
theorem receive_leaves {channel : Channel} {line : Line} {receiving : Assembler}
    (listens : session.channel = channel.onLine nonces { line with receiving })
    (listening : channel.link.isSettling = true ∨ channel.link.state.isConnected = true)
    (leaves : frame.type.closes = false) (plain : frame.flags = 0) :
    session.receive now (.ok frame.toBytes) =
      ⟨{ session with
          channel := channel.onLine nonces { line with receiving := receiving.append frame.payload } },
        [], []⟩ := by
  rw [receive, listens, Channel.receive_leaves nonces line receiving listening leaves plain, absorb_silent]

/-- A message of the handshake is launched. -/
theorem absorb_transmit {handshake : Handshake} {key : Option Block} {spoken : Message}
    (cut : Frame.split spoken.toBytes (Frame.sizeForMtu mtu) = .ok (opening ++ [last])) :
    session.absorb now ((Channel.proving (.willing nonces) ⟨defaultMtu, mtu, none, .empty⟩ credentials
        handshake key none).transmit spoken) =
      ⟨{ session with
          channel := .proving (.willing nonces)
            ⟨defaultMtu, mtu, some ⟨spoken.toBytes, opening ++ [last]⟩, .empty⟩ credentials handshake key
            (some spoken) }, [],
        [.radio (.write (opening.headD last).toBytes true)]⟩ := by
  have sent := @Channel.transmit_willing ⟨defaultMtu, mtu, none, .empty⟩ last spoken opening nonces
    credentials handshake key none rfl cut
  rw [sent, absorb_silent]
  rfl

/-- The peer's answer to a grant settles the oldest one, and the session goes on to serve the queue. -/
theorem messageReceived_grant {profile : SorcProfile} {sorcId : Uuid}
    (connected : session.state = .connected sorcId) (same : profile.sorcId = sorcId)
    (ascii : profile.grantText.all (· < 0x80) = true) (grant : UInt16) :
    session.messageReceived (profile.answer (.grant grant)) =
      (session.settle (profile.response grant)).andThen serve := by
  have reached : session.state.peer? = some sorcId := by rw [connected]; rfl
  have read : Grant.response? sorcId (profile.answer (.grant grant)).payload =
      some (profile.response grant) := by
    rw [SorcProfile.response, same]
    exact Grant.response?_answer _ grant profile.grantStatus ascii
  rw [← grantAnswered_eq]
  exact messageReceived_of_answer rfl reached read

/-- The peer's answer settles what is outstanding, and the session goes on to serve the queue. -/
theorem messageReceived_answer {profile : SorcProfile} {request : Request}
    (serves : profile.Serves credentials) (connected : session.state = .connected credentials.token.sorcId)
    (waiting : session.outstanding = some request) (accurate : session.Accurate) :
    ∃ openGrants effects,
      session.messageReceived (profile.answer request) =
        Turn.andThen ⟨{ session with outstanding := none, openGrants }, [], effects⟩ serve ∧
      session.Smooth profile.response ⟨{ session with outstanding := none, openGrants }, [], effects⟩ [] ∧
      Account.Keeps effects := by
  cases request with
  | heartbeat =>
    refine ⟨session.openGrants, [], ?_, .quiet rfl rfl rfl (.inr rfl) rfl, .of_harmless rfl⟩
    simp [messageReceived, SorcProfile.answer, Message.empty, waiting, Turn.andThen]
  | grant grant =>
    have listed : session.openGrants = grant :: session.queue.items.filterMap Request.grant? := by
      rw [accurate, pendingGrants, waiting]
      rfl
    have settles : session.Smooth profile.response (session.settle (profile.response grant)) [] :=
      .settles rfl waiting listed
    have answered := messageReceived_grant connected serves.honest.sorcId serves.ascii grant
    rw [settle_of_waiting waiting] at settles answered
    exact ⟨_, _, answered, settles, fun account => rfl⟩

end Session

namespace Stage

variable {defaultMtu rank : Nat} {credentials : Credentials} {profile : SorcProfile} {session : Session}
  {frames : List Bytes} {peer : Sorc} {raw : Bytes} {heard nonces : Nonces} {sending : Option Package}
  {receiving : Assembler}

/-- A frame that leaves its package open changes nothing but what is collected. -/
theorem hears_leaves {channel : Channel} {line : Line} {frame : Frame} (now : Nat)
    (collects : session.channel = channel.onLine heard { line with receiving })
    (listening : channel.link.isSettling = true ∨ channel.link.state.isConnected = true)
    (leaves : frame.type.closes = false) (plain : frame.flags = 0)
    (stage : Stage defaultMtu credentials profile rank
      { session with
        channel := channel.onLine heard { line with receiving := receiving.append frame.payload } }
      frames peer) :
    Hears defaultMtu credentials profile session (session.receive now (.ok frame.toBytes))
      ⟨frames, peer, nonces⟩ [] rank rank := by
  rw [Session.receive_leaves collects listening leaves plain]
  have same : session.channel.link.line.sending = line.sending := by rw [collects]; rfl
  refine ⟨⟨.quiet rfl rfl ?_ (.inr same.symm) rfl, stage⟩, Nat.le_refl rank, by simp, .refl _, .of_harmless rfl⟩
  rw [collects]
  rfl

/-- The peer's limit arrives, before or after the confirmation of the question, and the handshake opens. -/
theorem receive_limit (now : Nat) (serves : profile.Serves credentials)
    (remains : profile.Remains peer.profile)
    (channel : session.channel =
      .settling (.willing heard) ⟨defaultMtu, defaultMtu, sending, receiving⟩ credentials)
    (settled : Session.Settled defaultMtu session)
    (brief : ∀ package, sending = some package → package.pending.tail = [])
    (awaits : Awaits receiving (raw :: frames) (Message.toBytes ⟨.mtuReceive, [profile.mtu, 0]⟩))
    (listens : peer.Listens none) :
    ∃ launched after, Hears defaultMtu credentials profile session (session.receive now (.ok raw))
      ⟨frames, peer, nonces⟩ launched 4 after := by
  rcases awaits.next with ⟨frame, rfl, leaves, plain, following⟩ | ⟨rfl, opening, last, whole, rfl, rfl⟩
  · have collects : session.channel =
        (Channel.settling (.willing heard) (.resting defaultMtu defaultMtu) credentials).onLine heard
          { (⟨defaultMtu, defaultMtu, sending, .empty⟩ : Line) with receiving } := channel
    exact ⟨[], 4, hears_leaves now collects (.inl rfl) leaves plain (.settling rfl brief following listens)⟩
  · have received := @Line.receive_last ⟨defaultMtu, defaultMtu, sending, Assembler.empty.gather opening⟩ _ _
      opening whole rfl
    have size : 0 < Frame.sizeForMtu profile.mtu.toNat := Nat.sub_pos_of_lt serves.honest.room
    obtain ⟨beginning, ending, cut, complete⟩ := Frame.split_whole size (serves.fits heard.draw.1)
    have told := Channel.receive_limit heard credentials received serves.honest.room rfl cut
    obtain ⟨after, answer, replies, next, rest, taken, coming, answers, listens', bounded, _⟩ :=
      @answers_challenge credentials profile heard.draw.1 nonces peer beginning ending serves remains listens
        complete
    have underway : session.state = .connecting credentials.token.sorcId .transport := by
      rw [settled.agrees, channel]
      rfl
    rw [Session.receive, channel, told, Session.absorb_advanced]
    refine ⟨(beginning ++ [ending]).map Frame.toBytes, after, ⟨?_, ?_⟩, by omega, by omega,
      .inr ⟨_, _, underway, by simp, .inl rfl⟩, .of_harmless rfl⟩
    · refine .launches rfl rfl ?_ rfl rfl
      rw [channel]
      cases sending with
      | none => rfl
      | some package =>
        have written := brief package rfl
        simp [Channel.settling, Channel.new, Line.unwritten, written]
    · rw [taken]
      exact .proving rfl (by simp) coming answers listens'

/-- The phone turns to the blob if the peer wants it. -/
private theorem receive_wanted {nonce : Block} {inFlight : Option Message} {answer : Message} {last : Frame}
    {opening : List Frame} (now : Nat) (serves : profile.Serves credentials)
    (wants : profile.Wants credentials.blob.counter) (remains : profile.Remains peer.profile)
    (channel : session.channel =
      .proving (.willing heard) ⟨defaultMtu, profile.mtu.toNat, none, Assembler.empty.gather opening⟩
        credentials (credentials.token.begin nonce) none inFlight)
    (vacant : inFlight = none) (whole : Frame.Whole answer.toBytes opening last)
    (pushes : ∀ line : Line,
      (Channel.proving (.willing heard) line credentials (credentials.token.begin nonce) none
          none).handshakeMessage answer =
        (Channel.proving (.willing heard) line credentials (credentials.token.begin nonce) none
          none).pushBlob)
    (listens : peer.Listens none) :
    ∃ launched after, Hears defaultMtu credentials profile session
      (session.receive now (.ok last.toBytes)) ⟨[], peer, nonces⟩ launched 3 after := by
  obtain ⟨payload, readable, fits⟩ := serves.blob wants
  have received := @Line.receive_last ⟨defaultMtu, profile.mtu.toNat, none, Assembler.empty.gather opening⟩
    _ _ opening whole rfl
  have size : 0 < Frame.sizeForMtu profile.mtu.toNat := Nat.sub_pos_of_lt serves.honest.room
  obtain ⟨beginning, ending, cut, complete⟩ := Frame.split_whole size fits
  obtain ⟨replies, next, rest, taken, coming, answers, listens'⟩ :=
    @answers_blob credentials profile nonce nonces peer beginning ending payload serves remains listens complete
  have told := Channel.receive_proving_message (.willing heard) credentials (credentials.token.begin nonce)
    none inFlight received
  rw [Session.receive, channel, told, vacant, pushes,
    Channel.pushBlob_readable _ _ credentials _ readable, Session.absorb_transmit cut]
  refine ⟨(beginning ++ [ending]).map Frame.toBytes, 2, ⟨?_, ?_⟩, by omega, by omega, .refl _, .of_harmless rfl⟩
  · refine .launches rfl rfl ?_ rfl rfl
    rw [channel]
    rfl
  · rw [taken]
    exact .proving rfl (by simp) coming answers listens'

/-- An answer to the phone's message of the handshake arrives. -/
theorem receive_answer {nonce : Block} {inFlight : Option Message} {answer : Message} (now : Nat)
    (serves : profile.Serves credentials) (remains : profile.Remains peer.profile)
    (channel : session.channel =
      .proving (.willing heard) ⟨defaultMtu, profile.mtu.toNat, sending, receiving⟩ credentials
        (credentials.token.begin nonce) none inFlight)
    (vacant : sending = none → inFlight = none) (punctual : Frame.Closes raw → sending = none)
    (awaits : Awaits receiving (raw :: frames) answer.toBytes)
    (answers : Answers credentials profile nonce peer rank answer) (listens : peer.Listens none) :
    ∃ launched after, Hears defaultMtu credentials profile session (session.receive now (.ok raw))
      ⟨frames, peer, nonces⟩ launched rank after := by
  rcases awaits.next with ⟨frame, rfl, leaves, plain, following⟩ | ⟨rfl, opening, last, whole, rfl, rfl⟩
  · have collects : session.channel =
        (Channel.proving (.willing heard) (.resting defaultMtu profile.mtu.toNat) credentials
            (credentials.token.begin nonce) none inFlight).onLine heard
          { (⟨defaultMtu, profile.mtu.toNat, sending, .empty⟩ : Line) with receiving } := channel
    exact ⟨[], rank, hears_leaves now collects (.inr rfl) leaves plain
      (.proving rfl vacant following answers listens)⟩
  · obtain rfl := punctual whole.closes_last
    obtain rfl := vacant rfl
    have size : 0 < Frame.sizeForMtu profile.mtu.toNat := Nat.sub_pos_of_lt serves.honest.room
    have received := @Line.receive_last
      ⟨defaultMtu, profile.mtu.toNat, none, Assembler.empty.gather opening⟩ _ _ opening whole rfl
    have told := Channel.receive_proving_message (.willing heard) credentials
      (credentials.token.begin nonce) none none received
    have silent : session.channel.link.line.unwritten = [] := by
      rw [channel]
      rfl
    cases answers with
    | @proves sorcNonce waiting =>
      have fits : ((credentials.token.begin nonce).reply sorcNonce).toBytes.length ≤ maxMessageLength := by
        simp [Message.toBytes, Handshake.reply, Handshake.response, maxMessageLength]
      obtain ⟨beginning, ending, cut, complete⟩ := Frame.split_whole size fits
      obtain ⟨next, taken, listens'⟩ := @takeAll_reply credentials nonce nonces peer beginning ending
        sorcNonce (remains.honest serves.honest) listens waiting complete
      rw [Session.receive, channel, told, Channel.handshakeMessage_proof, Session.absorb_transmit cut]
      refine ⟨(beginning ++ [ending]).map Frame.toBytes, 0, ⟨.launches rfl rfl silent rfl rfl, ?_⟩,
        by omega, by omega, .refl _, .of_harmless rfl⟩
      rw [taken]
      exact .sealing rfl listens'
    | acknowledges satisfied =>
      obtain ⟨beginning, ending, cut, complete⟩ := Frame.split_whole size (serves.fits heard.draw.1)
      obtain ⟨after, answer, replies, next, rest, taken, coming, answers, listens', _, spent⟩ :=
        @answers_challenge credentials profile heard.draw.1 nonces peer beginning ending serves remains
          listens complete
      have bounded := spent satisfied
      have renewed : ((credentials.token.begin nonce).renew (Handset.willing heard).nonces.draw.1).1 =
        credentials.token.challenge heard.draw.1 := rfl
      have drawn : { Handset.willing heard with nonces := (Handset.willing heard).nonces.draw.2 } =
        .willing heard.draw.2 := rfl
      rw [Session.receive, channel, told, Channel.handshakeMessage_ack, renewed, drawn,
        Session.absorb_transmit cut]
      refine ⟨(beginning ++ [ending]).map Frame.toBytes, after, ⟨.launches rfl rfl silent rfl rfl, ?_⟩,
        by omega, by omega, .refl _, .of_harmless rfl⟩
      rw [taken]
      exact .proving rfl (by simp) coming answers listens'
    | @requires least required =>
      have enough := serves.current least required
      refine receive_wanted now serves (.inl ⟨least, required, enough⟩) remains channel rfl whole ?_ listens
      intro line
      rw [Channel.handshakeMessage_rejection, if_neg (UInt32.not_lt.mpr enough)]
    | @requests known unrequired requested =>
      by_cases newer : known < credentials.blob.counter
      · refine receive_wanted now serves (.inr ⟨unrequired, known, requested, newer⟩) remains channel rfl
          whole ?_ listens
        intro line
        rw [Channel.handshakeMessage_request, if_pos newer]
      · rw [Session.receive, channel, told, Channel.handshakeMessage_request, if_neg newer, Turn.idle,
          Session.absorb_silent]
        refine ⟨[], 0, ⟨.quiet rfl rfl ?_ (.inl rfl) rfl, ?_⟩, by omega, by simp, .refl _, .of_harmless rfl⟩
        · rw [silent]
          rfl
        · exact .waiting rfl ⟨unrequired, known, requested, UInt32.not_lt.mp newer⟩ listens

/-- The oldest queued request is launched once nothing is outstanding. -/
theorem serve {inFlight : Option Message} {ours theirs : SealingContext}
    (serves : profile.Serves credentials) (remains : profile.Remains peer.profile)
    (connected : session.state.isConnected = true)
    (channel : session.channel =
      .secured (.willing heard) ⟨defaultMtu, profile.mtu.toNat, none, .empty⟩ credentials ours inFlight)
    (free : session.outstanding = none) (listens : peer.Listens (some theirs)) (inStep : ours.InStep theirs) :
    ∃ launched after, Hears defaultMtu credentials profile session session.serve ⟨[], peer, nonces⟩ launched
      session.queue.items.length after := by
  cases queued : session.queue.items with
  | nil =>
    rw [Session.serve_of_empty queued]
    exact ⟨[], 0, ⟨.idle session, .idle channel free listens inStep⟩, Nat.zero_le _, by simp, .refl _,
      .of_harmless rfl⟩
  | cons request rest =>
    have size : 0 < Frame.sizeForMtu profile.mtu.toNat := Nat.sub_pos_of_lt serves.honest.room
    have fits : (ours.encrypt request.message.toBytes).1.length ≤ maxMessageLength := by
      have bound := (ours.length_encrypt request.message.toBytes).1
      have short := request.length_message
      simp only [maxMessageLength]
      omega
    obtain ⟨beginning, ending, cut, complete⟩ := Frame.split_whole size fits
    obtain ⟨replies, next, data, after, theirs', taken, coming, opens, listens', inStep'⟩ :=
      @Prospect.takeAll_request ⟨[], peer, nonces⟩ beginning ending request ours theirs
        ((serves.remains remains).handles request) complete listens inStep
    have same : peer.profile.answer request = profile.answer request := by
      rcases remains with kept | kept
      · rw [kept]
      · rw [kept]
        cases request <;> rfl
    rw [same] at opens
    rw [Session.serve_willing connected free queued channel rfl cut]
    refine ⟨(beginning ++ [ending]).map Frame.toBytes, rest.length, ⟨.launches rfl rfl ?_ rfl rfl, ?_⟩,
      by simp, by simp, .refl _, .of_harmless rfl⟩
    · rw [channel]
      rfl
    · rw [taken]
      exact .asking rfl rfl rfl coming opens listens' inStep'

/-- The answer to the outstanding request arrives and makes room for the next one. -/
theorem receive_response {inFlight : Option Message} {data : Bytes} {ours after theirs : SealingContext}
    {request : Request} (now : Nat) (serves : profile.Serves credentials)
    (remains : profile.Remains peer.profile)
    (channel : session.channel =
      .secured (.willing heard) ⟨defaultMtu, profile.mtu.toNat, sending, receiving⟩ credentials ours
        inFlight)
    (settled : Session.Settled defaultMtu session) (accurate : session.Accurate)
    (waiting : session.outstanding = some request) (punctual : Frame.Closes raw → sending = none)
    (awaits : Awaits receiving (raw :: frames) data)
    (opens : ours.decrypt data = .ok ((profile.answer request).toBytes, after))
    (listens : peer.Listens (some theirs)) (inStep : after.InStep theirs) :
    ∃ launched last, Hears defaultMtu credentials profile session (session.receive now (.ok raw))
      ⟨frames, peer, nonces⟩ launched session.queue.items.length last := by
  rcases awaits.next with ⟨frame, rfl, leaves, plain, following⟩ | ⟨rfl, opening, last, whole, rfl, rfl⟩
  · have collects : session.channel =
        (Channel.secured (.willing heard) (.resting defaultMtu profile.mtu.toNat) credentials ours
            inFlight).onLine heard
          { (⟨defaultMtu, profile.mtu.toNat, sending, .empty⟩ : Line) with receiving } := channel
    exact ⟨[], _, hears_leaves now collects (.inr rfl) leaves plain
      (.asking rfl waiting rfl following opens listens inStep)⟩
  · obtain rfl := punctual whole.closes_last
    have received := @Line.receive_last
      ⟨defaultMtu, profile.mtu.toNat, none, Assembler.empty.gather opening⟩ _ _ opening whole rfl
    have connected : session.state = .connected credentials.token.sorcId := by
      rw [settled.agrees, channel]
      rfl
    have valid : (profile.answer request).isValid = true := by cases request <;> rfl
    have told := Channel.receive_secured_message (.willing heard) credentials inFlight received opens valid
    rw [Session.receive, channel, told, Session.absorb_heard]
    -- The session as it is when it looks at the message.
    let hearing : Session :=
      { session with
        channel := .secured (.willing heard) ⟨defaultMtu, profile.mtu.toNat, none, .empty⟩ credentials
          after inFlight
        lastHeard := now }
    obtain ⟨openGrants, effects, freed, smooth, keeps⟩ :=
      @Session.messageReceived_answer hearing credentials profile request serves connected waiting accurate
    obtain ⟨launched, last, hears⟩ :=
      @serve defaultMtu credentials profile { hearing with outstanding := none, openGrants } peer heard nonces
        inFlight after theirs serves remains (by simp [hearing, connected, ConnectionState.isConnected]) rfl rfl
        listens inStep
    have whole : Hears defaultMtu credentials profile hearing (hearing.messageReceived (profile.answer request))
        ⟨[], peer, nonces⟩ launched session.queue.items.length last := by
      rw [freed]
      exact ⟨⟨smooth.andThen hears.leads.smooth, hears.leads.stage⟩, hears.bounded, hears.spends, hears.getsOn,
        keeps.append hears.keeps⟩
    refine ⟨launched, last, whole.of_same ?_ rfl rfl⟩
    rw [channel]
    rfl

/-- The phone gets the next frame of the peer. -/
theorem receive (now : Nat) (nonces : Nonces) (serves : profile.Serves credentials)
    (remains : profile.Remains peer.profile)
    (stage : Stage defaultMtu credentials profile rank session (raw :: frames) peer)
    (settled : Session.Settled defaultMtu session) (accurate : session.Accurate)
    (punctual : Frame.Closes raw →
      session.channel.link.isSettling = true ∨ session.channel.link.line.sending = none) :
    ∃ launched after, Hears defaultMtu credentials profile session (session.receive now (.ok raw))
      ⟨frames, peer, nonces⟩ launched rank after := by
  cases stage with
  | settling channel brief awaits listens =>
    exact receive_limit now serves remains channel settled brief awaits listens
  | proving channel vacant awaits answers listens =>
    refine receive_answer now serves remains channel vacant ?_ awaits answers listens
    intro closes
    simpa [channel, Channel.proving, Link.isSettling] using punctual closes
  | asking channel waiting queued awaits opens listens inStep =>
    subst queued
    refine receive_response now serves remains channel settled accurate waiting ?_ awaits opens listens inStep
    intro closes
    simpa [channel, Channel.secured, Link.isSettling] using punctual closes

/-- No grant is answered while the phone waits for a sign of life. -/
theorem orderly (now : Nat) (stage : Stage defaultMtu credentials profile rank session (raw :: frames) peer)
    (settled : Session.Settled defaultMtu session) : ¬ session.Strays ⟨now, .receive (.ok raw)⟩ := by
  rintro ⟨brought, beating, listed⟩
  have connected := Session.connected_of_waiting settled (by simp [beating])
  rw [settled.agrees] at connected
  cases stage with
  | settling channel brief awaits listens => simp [channel, Channel.settling, ConnectionState.isConnected]
      at connected
  | proving channel vacant awaits answers listens => simp [channel, Channel.proving,
      ConnectionState.isConnected] at connected
  | @asking _ _ _ _ heard sending receiving inFlight data ours after _ request channel waiting queued awaits
      opens listens inStep =>
    obtain rfl : request = .heartbeat := Option.some.inj (waiting.symm.trans beating)
    rcases awaits.next with ⟨frame, rfl, leaves, plain, _⟩ | ⟨rfl, opening, last, whole, rfl, rfl⟩
    · have collected := @Channel.receive_leaves
        (.secured (.willing heard) (.resting defaultMtu profile.mtu.toNat) credentials ours inFlight)
        frame heard ⟨defaultMtu, profile.mtu.toNat, sending, .empty⟩ receiving (.inr rfl) leaves plain
      have quiet : (session.channel.receive (.ok frame.toBytes)).reports = [] := by
        rw [channel]
        exact congrArg Turn.reports collected
      simp [Session.answer?, quiet, Session.answerIn?] at brought
    · have received := @Line.receive_last
        ⟨defaultMtu, profile.mtu.toNat, sending, Assembler.empty.gather opening⟩ _ _ opening whole rfl
      have told := Channel.receive_secured_message (.willing heard) credentials inFlight received opens rfl
      have answered : (session.channel.receive (.ok last.toBytes)).reports =
          [.messageReceived (.ok (.empty .heartbeatResponse))] := by
        rw [channel]
        exact congrArg Turn.reports told
      simp [Session.answer?, answered, Session.answerIn?, Message.empty] at brought

end Stage

end PhoneKey
