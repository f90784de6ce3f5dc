import PhoneKey.Proofs.Simulation.Replies

/-! # Commands and the passing of time

A command takes the connection from one stage to another without regard to what is on its way. A session
hangs up when it is told to, and when nothing was heard for too long.
-/

namespace PhoneKey

/-- A turn that ends the connection. -/
structure HangsUp (defaultMtu : Nat) (answer : UInt16 → GrantResponse) (turn : SessionTurn) : Prop where
  rests : ∃ nonces, turn.state.channel = .atRest (.willing nonces) defaultMtu
  hangsUp : ∃ rest, turn.effects = .radio .disconnect :: rest ∧ .radio .disconnect ∉ rest ∧
    rest.filterMap Effect.written? = []
  unfailing : ∀ effect ∈ turn.effects, effect.isFailure = false
  accounts : ∀ account : Account, (account.after turn.effects).Fits answer turn.state.openGrants

/-- What a command or the passing of time leads to. -/
inductive Obeys (defaultMtu : Nat) (credentials : Credentials) (profile : SorcProfile) (session : Session)
    (turn : SessionTurn) (prospect : Prospect) : Prop
  | goesOn {launched : List Bytes} {rank : Nat}
      (leads : Leads defaultMtu credentials profile session turn prospect launched rank)
  | hangsUp (ends : HangsUp defaultMtu profile.response turn)

namespace Session

variable {defaultMtu now : Nat} {session : Session} {answer : UInt16 → GrantResponse} {nonces : Nonces}

/-- Closing an attempt or a connection forgets its grants. -/
theorem close_of_engaged {sorcId : Uuid} (settled : Settled defaultMtu session)
    (engaged : session.channel.state.sorcId? = some sorcId) (cause : EndCause) :
    session.close now cause =
      (finish { session with channel := .atRest session.channel.link.handset defaultMtu }
        (cause.reason sorcId)).after
        (Channel.hangUpEffects ++ [.announce (.channel ⟨.disconnected, cause.reason sorcId⟩)]) := by
  obtain ⟨linked, default⟩ := settled.lawful.engaged engaged
  have closed := Channel.close_of_engaged session.channel engaged linked default cause
  have upper := @channelChanged_end
    { session with channel := .atRest session.channel.link.handset defaultMtu } now sorcId
    (settled.agrees ▸ engaged) (cause.reason sorcId)
  rw [close, closed, absorb, Channel.ended, Turn.forEach_singleton]
  exact congrArg (Turn.after _) upper

/-- The user's command and long silence end the connection without a failure. -/
theorem close_hangsUp {sorcId : Uuid} {cause : EndCause} (settled : Settled defaultMtu session)
    (willing : session.channel.link.handset = .willing nonces)
    (engaged : session.channel.state.sorcId? = some sorcId)
    (calm : cause = .userRequested ∨ cause = .protocol .heartbeatTimedOut) :
    HangsUp defaultMtu answer (session.close now cause) := by
  rw [close_of_engaged settled engaged, willing]
  have known : session.state.sorcId? = some sorcId := settled.agrees ▸ engaged
  rcases calm with rfl | rfl
  · refine ⟨⟨nonces, rfl⟩, ⟨_, rfl, ?_, rfl⟩, ?_, fun account => ⟨rfl, nofun⟩⟩
    · simp [finish, reset, publishGrants, publish, Turn.andThen, endTelemetry, EndCause.reason, EndCause.kind]
    · simp [finish, reset, publishGrants, publish, Turn.andThen, Turn.after, endTelemetry, EndCause.reason,
        EndCause.kind, Channel.hangUpEffects, Effect.isFailure]
  · refine ⟨⟨nonces, rfl⟩, ⟨_, rfl, ?_, ?_⟩, ?_, fun account => ⟨?_, ?_⟩⟩
    all_goals simp [finish, reset, publishGrants, publish, Turn.andThen, Turn.after, endTelemetry,
      EndCause.reason, EndCause.kind, Channel.hangUpEffects, Effect.isFailure, Effect.written?, known,
      Account.after, Account.note, Account.empty]

/-- A heartbeat that is due changes the queue at most. -/
theorem queueHeartbeat_eq (session : Session) : ∃ queue, session.queueHeartbeat = { session with queue } := by
  rw [queueHeartbeat]
  split
  · exact ⟨session.queue, rfl⟩
  · cases session.queue.enqueue .heartbeat with
    | ok queue => exact ⟨queue, rfl⟩
    | error cause => exact ⟨session.queue, rfl⟩

/-- A request for a grant is accepted or declined, and the account says so. -/
theorem Smooth.registers {sorcId : Uuid} {grant : UInt16} {queue : Backlog Request} {accepted : Bool}
    {openGrants : OpenGrants}
    (listed : openGrants = if accepted then session.openGrants ++ [grant] else session.openGrants) :
    Smooth answer session (register { session with queue } sorcId grant accepted openGrants) [] := by
  refine ⟨?_, ?_, ?_, .inr, ?_⟩
  · simp [register, publishGrants, Turn.andThen]
  · simp [register, publishGrants, Turn.andThen, Effect.isFailure]
  · simp [register, publishGrants, Turn.andThen, Effect.written?]
  · intro account fits
    cases accepted with
    | false => exact ⟨listed ▸ fits.accepted, fits.answered⟩
    | true =>
      refine ⟨?_, fits.answered⟩
      have noted : (account.after (register { session with queue } sorcId grant true openGrants).effects) =
        { account with accepted := account.accepted ++ [grant] } := rfl
      rw [noted, fits.accepted, List.append_assoc]
      exact congrArg _ listed.symm

end Session

namespace Stage

variable {defaultMtu rank : Nat} {credentials : Credentials} {profile : SorcProfile} {session : Session}
  {frames : List Bytes} {peer : Sorc}

/-- A stage does not depend on timers or on the list of open grants. -/
theorem of_same (stage : Stage defaultMtu credentials profile rank session frames peer) {next : Session}
    (channel : next.channel = session.channel) (outstanding : next.outstanding = session.outstanding)
    (queue : next.queue = session.queue) :
    Stage defaultMtu credentials profile rank next frames peer := by
  cases stage with
  | rest rests listens => exact .rest (channel.trans rests) listens
  | dialling dials listens => exact .dialling (channel.trans dials) listens
  | settling settles brief awaits listens => exact .settling (channel.trans settles) brief awaits listens
  | proving proves vacant awaits answers listens =>
    exact .proving (channel.trans proves) vacant awaits answers listens
  | waiting waits outdated listens => exact .waiting (channel.trans waits) outdated listens
  | sealing seals listens => exact .sealing (channel.trans seals) listens
  | idle idles free listens inStep => exact .idle (channel.trans idles) (outstanding.trans free) listens inStep
  | asking asks waiting queued awaits opens listens inStep =>
    exact .asking (channel.trans asks) (outstanding.trans waiting) (queue ▸ queued) awaits opens listens inStep

private theorem willing (stage : Stage defaultMtu credentials profile rank session frames peer) :
    ∃ nonces, session.channel.link.handset = .willing nonces := by
  cases stage with
  | rest channel listens => exact ⟨_, by rw [channel]; rfl⟩
  | dialling channel listens => exact ⟨_, by rw [channel]; rfl⟩
  | settling channel brief awaits listens => exact ⟨_, by rw [channel]; rfl⟩
  | proving channel vacant awaits answers listens => exact ⟨_, by rw [channel]; rfl⟩
  | waiting channel outdated listens => exact ⟨_, by rw [channel]; rfl⟩
  | sealing channel listens => exact ⟨_, by rw [channel]; rfl⟩
  | idle channel free listens inStep => exact ⟨_, by rw [channel]; rfl⟩
  | asking channel waiting queued awaits opens listens inStep => exact ⟨_, by rw [channel]; rfl⟩

variable (now : Nat) (nonces : Nonces)

private theorem stays (stage : Stage defaultMtu credentials profile rank session frames peer) :
    Leads defaultMtu credentials profile session (.idle session) ⟨frames, peer, nonces⟩ [] rank :=
  ⟨.idle session, stage⟩

/-- An attempt begins, or the radio is asked once more. -/
theorem connect (stage : Stage defaultMtu credentials profile rank session frames peer)
    (settled : Session.Settled defaultMtu session) :
    ∃ after, Leads defaultMtu credentials profile session (session.connect now credentials)
      ⟨frames, peer, nonces⟩ [] after := by
  cases admitted : Channel.admits session.state credentials.token.sorcId with
  | false =>
    simp only [Session.connect, admitted, Bool.false_eq_true, if_false]
    exact ⟨rank, stage.stays nonces⟩
  | true =>
    simp only [Session.connect, admitted, if_true]
    rw [settled.agrees] at admitted
    cases stage with
    | @rest _ _ heard channel listens =>
      have opened : session.channel.connect credentials =
          ⟨.dialling (.willing heard) defaultMtu credentials,
            [.connectionChanged ⟨.connecting credentials.token.sorcId .physical,
              .entered credentials.token.sorcId .physical⟩],
            [.announce (.channel ⟨.connecting credentials.token.sorcId .physical,
                .entered credentials.token.sorcId .physical⟩),
              .announce (.link ⟨.connecting credentials.token.sorcId .physical,
                .entered credentials.token.sorcId .physical⟩),
              .radio (.connect credentials.token.sorcId)]⟩ := by
        rw [channel]
        rfl
      rw [opened, Session.absorb_advanced]
      refine ⟨0, .quiet rfl rfl ?_ (.inl rfl) rfl, .dialling rfl listens⟩
      rw [channel]
      rfl
    | @dialling _ _ heard channel listens =>
      rw [channel, Channel.connect_dialling (.willing heard) rfl, Session.absorb_silent]
      exact ⟨0, .quiet rfl rfl (by rw [channel]) (.inl rfl) rfl, .dialling rfl listens⟩
    -- Later stages admit no attempt.
    | _ => simp_all [Channel.admits, ConnectionState.isDisconnected, ConnectionState.isAt, Channel.settling,
        Channel.proving, Channel.secured]

/-- The radio reaches the peer, which is asked for its limit; reports at other stages are stale. -/
theorem reach (room : Frame.headerSize < defaultMtu) (serves : profile.Serves credentials)
    (remains : profile.Remains peer.profile)
    (stage : Stage defaultMtu credentials profile rank session frames peer) :
    ∃ launched after, Leads defaultMtu credentials profile session
      (session.radioEvent now (.connected credentials.token.sorcId)) ⟨frames, peer, nonces⟩ launched after := by
  by_cases asked : session.channel.link.state = .connecting credentials.token.sorcId .physical
  · cases stage with
    | @dialling _ _ heard channel listens =>
      have size : 0 < Frame.sizeForMtu defaultMtu := Nat.sub_pos_of_lt room
      obtain ⟨last, cut, whole⟩ := Frame.split_singleton size Channel.limitRequest.id.toByte
      have reached := @Channel.radioEvent_reached last defaultMtu [] heard credentials cut
      obtain ⟨replies, next, rest, taken, awaits, listens'⟩ :=
        @takeAll_limitRequest credentials nonces peer [] _ (remains.honest serves.honest) listens whole
      have same : peer.profile.mtu = profile.mtu := by
        rcases remains with kept | kept
        · rw [kept]
        · rw [kept]
          rfl
      rw [Session.radioEvent, channel, reached, Session.absorb_advanced]
      refine ⟨_, 4, .launches rfl rfl ?_ rfl rfl, ?_⟩
      · rw [channel]
        rfl
      · rw [taken]
        refine .settling rfl ?_ (same ▸ awaits) listens'
        rintro package sending
        cases sending
        rfl
    -- The radio is asked for the peer at one stage only.
    | _ => simp_all [Channel.atRest, Channel.new, Link.new, Channel.settling, Channel.proving, Channel.secured]
  · have ignored : session.channel.radioEvent (.connected credentials.token.sorcId) =
        .idle session.channel := by
      rw [Channel.radioEvent, Link.radioEvent_of_stale asked, Turn.idle, Channel.absorb_silent]
      rfl
    rw [Session.radioEvent, ignored, Session.absorb_idle]
    exact ⟨[], rank, stage.stays nonces⟩

/-- The user ends the attempt or the connection, if there is one. -/
theorem disconnect (stage : Stage defaultMtu credentials profile rank session frames peer)
    (settled : Session.Settled defaultMtu session) :
    Obeys defaultMtu credentials profile session (session.disconnect now) ⟨frames, peer, nonces⟩ := by
  obtain ⟨heard, willing⟩ := stage.willing
  cases engaged : session.channel.state.sorcId? with
  | some sorcId => exact .hangsUp (Session.close_hangsUp settled willing engaged (.inl rfl))
  | none =>
    have idle : session.channel.close .userRequested = .idle session.channel := by
      cases state : session.channel.state with
      | disconnected => rw [Channel.close, state]; rfl
      | connecting sorcId step => simp [state, ConnectionState.sorcId?] at engaged
      | connected sorcId => simp [state, ConnectionState.sorcId?] at engaged
    rw [Session.disconnect, Session.close, idle, Session.absorb_idle]
    exact .goesOn (stage.stays nonces)

/-- A connected session serves its queue if nothing is outstanding. -/
theorem serve_again {next : Session} (serves : profile.Serves credentials)
    (remains : profile.Remains peer.profile)
    (stage : Stage defaultMtu credentials profile rank session frames peer)
    (settled : Session.Settled defaultMtu next) (connected : next.state.isConnected = true)
    (channel : next.channel = session.channel) (outstanding : next.outstanding = session.outstanding) :
    ∃ launched after, Leads defaultMtu credentials profile next next.serve ⟨frames, peer, nonces⟩ launched
      after := by
  have linked : session.channel.state.isConnected = true := by rw [← channel, ← settled.agrees, connected]
  cases stage with
  | idle idles free listens inStep =>
    obtain ⟨launched, after, hears⟩ := @serve defaultMtu credentials profile next peer _ nonces _ _ _ serves
      remains connected (channel.trans idles) (outstanding.trans free) listens inStep
    exact ⟨launched, after, hears.leads⟩
  | asking asks waiting queued awaits opens listens inStep =>
    rw [Session.serve_of_waiting (outstanding.trans waiting)]
    exact ⟨[], _, .idle next,
      .asking (channel.trans asks) (outstanding.trans waiting) rfl awaits opens listens inStep⟩
  | _ => simp_all [Channel.atRest, Channel.new, Channel.dialling, Channel.settling, Channel.proving,
      ConnectionState.isConnected]

/-- A grant is asked for. -/
theorem requestGrant (grant : UInt16) (serves : profile.Serves credentials)
    (remains : profile.Remains peer.profile)
    (stage : Stage defaultMtu credentials profile rank session frames peer)
    (settled : Session.Settled defaultMtu session) :
    ∃ launched after, Leads defaultMtu credentials profile session (session.requestGrant grant).2
      ⟨frames, peer, nonces⟩ launched after := by
  cases state : session.state with
  | disconnected =>
    rw [Session.requestGrant_of_closed (by rw [state]; rfl)]
    exact ⟨[], rank, stage.stays nonces⟩
  | connecting sorcId step =>
    rw [Session.requestGrant_of_closed (by rw [state]; rfl)]
    exact ⟨[], rank, stage.stays nonces⟩
  | connected sorcId =>
    have linked : session.state.isConnected = true := by rw [state]; rfl
    rw [Session.requestGrant_of_connected state]
    cases room : session.queue.enqueue (.grant grant) with
    | ok queue =>
      have registers : session.Smooth profile.response
          (Session.register { session with queue } sorcId grant true (session.openGrants ++ [grant])) [] :=
        .registers rfl
      obtain ⟨launched, after, leads⟩ := stage.serve_again nonces serves remains
        (settled.of_connected linked rfl rfl :
          Session.Settled defaultMtu
            (Session.register { session with queue } sorcId grant true (session.openGrants ++ [grant])).state)
        linked rfl rfl
      exact ⟨launched, after, registers.andThen leads.smooth, leads.stage⟩
    | error cause =>
      have registers : session.Smooth profile.response
          (session.register sorcId grant false session.openGrants) [] := .registers rfl
      obtain ⟨launched, after, leads⟩ := stage.serve_again nonces serves remains
        (settled.of_connected linked rfl rfl :
          Session.Settled defaultMtu (session.register sorcId grant false session.openGrants).state)
        linked rfl rfl
      exact ⟨launched, after, registers.andThen leads.smooth, leads.stage⟩

/-- Time passes: nothing happens, a heartbeat becomes due, or the peer was silent for too long. -/
theorem tick (serves : profile.Serves credentials) (remains : profile.Remains peer.profile)
    (stage : Stage defaultMtu credentials profile rank session frames peer)
    (settled : Session.Settled defaultMtu session) :
    Obeys defaultMtu credentials profile session (session.tick now) ⟨frames, peer, nonces⟩ := by
  cases connected : session.state.isConnected with
  | false =>
    simp only [Session.tick, connected]
    exact .goesOn (stage.stays nonces)
  | true =>
    have checked : Session.Settled defaultMtu
        { session with checkTimer := (session.checkTimer.poll now).2 } :=
      settled.of_connected connected rfl rfl
    simp only [Session.tick, connected, if_true]
    split
    · obtain ⟨heard, willing⟩ := stage.willing
      obtain ⟨sorcId, engaged⟩ : ∃ sorcId, session.channel.state.sorcId? = some sorcId := by
        rw [← settled.agrees]
        cases state : session.state <;> simp_all [ConnectionState.isConnected, ConnectionState.sorcId?]
      exact .hangsUp (Session.close_hangsUp checked willing engaged (.inr rfl))
    · let polled : Session :=
        { session with
          checkTimer := (session.checkTimer.poll now).2
          heartbeatTimer := (session.heartbeatTimer.poll now).2 }
      split
      · obtain ⟨queue, queued⟩ := polled.queueHeartbeat_eq
        have settled : Session.Settled defaultMtu { polled with queue } :=
          settled.of_connected connected rfl rfl
        obtain ⟨launched, after, leads⟩ := stage.serve_again nonces serves remains settled connected rfl rfl
        rw [queued]
        exact .goesOn ⟨leads.smooth.of_same rfl rfl, leads.stage⟩
      · have smooth : session.Smooth profile.response (.idle polled) [] := .of_same (.idle polled) rfl rfl
        exact .goesOn ⟨smooth, stage.of_same rfl rfl rfl⟩

end Stage

end PhoneKey
