import PhoneKey.Proofs.Channel.KeyProof
import PhoneKey.Proofs.Channel.Presentation
import PhoneKey.Proofs.Link.Negotiation
import PhoneKey.Proofs.Session.Radio
import PhoneKey.Proofs.Session.Renewal
import PhoneKey.Proofs.Session.Resync

/-! # A request to connect

Session, channel and link each decide for themselves whether a request to connect is taken, and the channel
puts the credentials by before the link has decided. As they are in step they decide alike: either all of
them take the request, the radio is asked once and the credentials are those that are presented from then
on, or nothing happens in any of them. What the phone says until the session is established is said with the
credentials of the last request that was taken.
-/

namespace PhoneKey

def Effect.radioCall? : Effect → Option RadioCall
  | .radio call => some call
  | _ => none

/-- What is asked of the radio, first to last. -/
def radioCalls (effects : List Effect) : List RadioCall := effects.filterMap Effect.radioCall?

/-- What the stream of the link publishes. -/
def linkChanges (effects : List Effect) : List LinkChange := effects.filterMap Effect.linkChange?

namespace Session

variable {defaultMtu now : Nat} {session : Session} {credentials : Credentials}

/-- Whether an attempt to reach a peer may start, or goes on with the radio still to answer. -/
def MayDial (session : Session) (sorcId : Uuid) : Prop :=
  session.state = .disconnected ∨ session.state = .connecting sorcId .physical

instance (session : Session) (sorcId : Uuid) : Decidable (session.MayDial sorcId) :=
  inferInstanceAs (Decidable (_ ∨ _))

theorem admits_iff (sorcId : Uuid) : Channel.admits session.state sorcId = true ↔ session.MayDial sorcId := by
  cases state : session.state with
  | disconnected => simp [Channel.admits, MayDial, state, ConnectionState.isDisconnected]
  | connecting other stage =>
    simp [Channel.admits, MayDial, state, ConnectionState.isDisconnected, ConnectionState.isAt]
  | connected other =>
    simp [Channel.admits, MayDial, state, ConnectionState.isDisconnected, ConnectionState.isAt]

/-- A session that is at rest starts an attempt. -/
theorem connect_of_rest (settled : Settled defaultMtu session) (rest : session.state = .disconnected)
    (now : Nat) (credentials : Credentials) :
    session.act ⟨now, .connect credentials⟩ =
      ⟨{ session with
          channel := .dialling session.channel.link.handset defaultMtu credentials
          state := .connecting credentials.token.sorcId .physical },
        [],
        [.announce (.channel ⟨.connecting credentials.token.sorcId .physical,
            .entered credentials.token.sorcId .physical⟩),
          .announce (.link ⟨.connecting credentials.token.sorcId .physical,
            .entered credentials.token.sorcId .physical⟩),
          .radio (.connect credentials.token.sorcId),
          .telemetry (.connectionChanged .disconnected (.connecting credentials.token.sorcId .physical)),
          .announce (.connection ⟨.connecting credentials.token.sorcId .physical,
            .entered credentials.token.sorcId .physical⟩)]⟩ := by
  have admitted := (admits_iff credentials.token.sorcId).mpr (.inl rest)
  obtain ⟨lawful, agrees, _⟩ := settled
  obtain ⟨channel, state, grants, queue, outstanding, heartbeats, checks, timeout, heard⟩ := session
  dsimp only at *
  subst rest
  cases lawful with
  | atRest handset => rfl
  | _ => cases agrees

/-- A session whose radio has not answered asks it once more, with the credentials at hand. -/
theorem connect_again (settled : Settled defaultMtu session)
    (dialling : session.state = .connecting credentials.token.sorcId .physical) (now : Nat) :
    session.act ⟨now, .connect credentials⟩ =
      ⟨{ session with channel := .dialling session.channel.link.handset defaultMtu credentials }, [],
        [.radio (.connect credentials.token.sorcId)]⟩ := by
  have admitted := (admits_iff credentials.token.sorcId).mpr (.inr dialling)
  obtain ⟨lawful, agrees, _⟩ := settled
  simp only [act, connect, admitted, if_true]
  obtain ⟨channel, state, grants, queue, outstanding, heartbeats, checks, timeout, heard⟩ := session
  dsimp only at *
  subst dialling
  cases lawful with
  | @dialling handset earlier =>
    have same : earlier.token.sorcId = credentials.token.sorcId := by
      injection agrees with peer
      exact peer.symm
    rw [Channel.connect_dialling handset same]
    rfl
  | _ => simp [Channel.atRest, Channel.settling, Channel.proving, Channel.secured, Channel.new] at agrees

private theorem connect_ignored (elsewhere : ¬ session.MayDial credentials.token.sorcId) (now : Nat) :
    session.act ⟨now, .connect credentials⟩ = .idle session := by
  have refused : Channel.admits session.state credentials.token.sorcId = false :=
    Bool.eq_false_iff.mpr (mt (admits_iff _).mp elsewhere)
  simp only [act, connect, refused, Bool.false_eq_true, if_false]

/-- What a request to connect comes to. -/
structure Connects (session : Session) (now : Nat) (credentials : Credentials) : Prop where
  /-- Nothing at all happens, in no layer, unless the session may dial. -/
  effective : session.act ⟨now, .connect credentials⟩ ≠ .idle session ↔
    session.MayDial credentials.token.sorcId
  asks : session.MayDial credentials.token.sorcId →
    radioCalls (session.act ⟨now, .connect credentials⟩).effects = [.connect credentials.token.sorcId]
  /-- All three streams tell of a new attempt, and of nothing when the attempt is an old one. -/
  publishes : session.MayDial credentials.token.sorcId →
    let effects := (session.act ⟨now, .connect credentials⟩).effects
    let entered {Stage : Type} (first : Stage) : Change (ConnectionState Stage) (ConnectionReason Stage) :=
      ⟨.connecting credentials.token.sorcId first, .entered credentials.token.sorcId first⟩
    session.state = .disconnected ∧ connectionChanges effects = [entered .physical] ∧
        channelChanges effects = [entered .physical] ∧ linkChanges effects = [entered .physical] ∨
      session.state ≠ .disconnected ∧ connectionChanges effects = [] ∧ channelChanges effects = [] ∧
        linkChanges effects = []
  /-- All three layers are on the way to the peer, and the credentials are at hand. -/
  reaches : session.MayDial credentials.token.sorcId →
    let next := (session.act ⟨now, .connect credentials⟩).state
    next.state = .connecting credentials.token.sorcId .physical ∧
      next.channel.state = .connecting credentials.token.sorcId .physical ∧
      next.channel.link.state = .connecting credentials.token.sorcId .physical ∧
      next.channel.credentials = some credentials

private theorem Settled.connects (settled : Settled defaultMtu session) (now : Nat)
    (credentials : Credentials) : Connects session now credentials := by
  by_cases dials : session.MayDial credentials.token.sorcId
  · rcases dials with rest | dialling
    · have taken := connect_of_rest settled rest now credentials
      refine ⟨iff_of_true ?_ (.inl rest), ?_, ?_, ?_⟩
      · intro same
        cases congrArg Turn.effects (taken.symm.trans same)
      all_goals
        intro _
        rw [taken]
      · rfl
      · exact .inl ⟨rest, rfl, rfl, rfl⟩
      · exact ⟨rfl, rfl, rfl, rfl⟩
    · have taken := connect_again settled dialling now
      refine ⟨iff_of_true ?_ (.inr dialling), ?_, ?_, ?_⟩
      · intro same
        cases congrArg Turn.effects (taken.symm.trans same)
      all_goals
        intro _
        rw [taken]
      · rfl
      · exact .inr ⟨by simp [dialling], rfl, rfl, rfl⟩
      · exact ⟨dialling, rfl, rfl, rfl⟩
  · have idle := connect_ignored dials now
    exact ⟨iff_of_false (not_not.mpr idle) dials, fun may => absurd may dials, fun may => absurd may dials,
      fun may => absurd may dials⟩

/-- The credentials of a call that is a request to connect, unless it is ignored. -/
def dialled? (call : Call Session Input) : Option Credentials :=
  match call.input.action with
  | .connect credentials => if call.before.MayDial credentials.token.sorcId then some credentials else none
  | _ => none

/-- The credentials of the last request to connect that was taken. -/
def lastDialled? (calls : List (Call Session Input)) : Option Credentials :=
  (calls.filterMap dialled?).getLast?

theorem lastDialled?_concat (calls : List (Call Session Input)) (call : Call Session Input) :
    lastDialled? (calls ++ [call]) = (dialled? call).or (lastDialled? calls) := by
  cases dialled : dialled? call with
  | none => simp [lastDialled?, List.filterMap_append, dialled]
  | some credentials => simp [lastDialled?, List.filterMap_append, dialled]

/-- A request that is taken is one that the channel is given. -/
theorem dialled?_eq (session : Session) (input : Input) :
    dialled? ⟨session, input⟩ =
      match session.lower? input with
      | some (.connect credentials) => some credentials
      | _ => none := by
  obtain ⟨now, action⟩ := input
  cases action with
  | connect credentials =>
    by_cases dials : session.MayDial credentials.token.sorcId
    · simp [dialled?, lower?, dials, (admits_iff _).mpr dials]
    · simp [dialled?, lower?, dials, Bool.eq_false_iff.mpr (mt (admits_iff _).mp dials)]
  | tick =>
    simp only [dialled?, lower?]
    split <;> simp_all
  | _ => rfl

/-- What a call may give to the channel: nothing to send, and no request to connect unless it is admitted. -/
inductive Gives (session : Session) : Channel.Input → Prop
  | connect {credentials : Credentials}
      (admitted : Channel.admits session.state credentials.token.sorcId = true) :
      Gives session (.connect credentials)
  | close (cause : EndCause) : Gives session (.close cause)
  | radioEvent (event : RadioEvent) : Gives session (.radioEvent event)
  | confirm (result : Except LinkError Unit) : Gives session (.confirm result)
  | receive (result : Except LinkError Bytes) : Gives session (.receive result)

private theorem gives_of_lower? {input : Input} {lower : Channel.Input}
    (asked : session.lower? input = some lower) : Gives session lower := by
  obtain ⟨now, action⟩ := input
  cases action with
  | connect credentials =>
    simp only [lower?] at asked
    split at asked
    · next admitted =>
      cases asked
      exact .connect admitted
    · cases asked
  | disconnect =>
    cases asked
    exact .close _
  | requestGrant grant => cases asked
  | radioEvent event =>
    cases asked
    exact .radioEvent event
  | confirm result =>
    cases asked
    exact .confirm result
  | receive result =>
    cases asked
    exact .receive result
  | tick =>
    simp only [lower?] at asked
    split at asked <;> cases asked
    exact .close _

private theorem Gives.unsent {lower : Channel.Input} (gives : Gives session lower) (message : Message) :
    lower ≠ .send message := by
  rintro rfl
  cases gives

private theorem Gives.admitted (gives : Gives session (.connect credentials)) :
    Channel.admits session.state credentials.token.sorcId = true := by
  cases gives with
  | connect admitted => exact admitted

/-- Without a connection a call is nothing but what the channel does. -/
theorem act_of_closed (closed : session.state.isConnected = false) (input : Input) :
    session.act input =
      match session.lower? input with
      | none => .idle session
      | some lower => session.absorb input.now (session.channel.act lower) := by
  obtain ⟨now, action⟩ := input
  cases action with
  | connect credentials =>
    simp only [act, connect, lower?]
    split <;> rfl
  | requestGrant grant =>
    simp only [act, requestGrant_of_closed closed, lower?]
  | tick => simp [act, tick, lower?, closed]
  | _ => rfl

/-- The channel and the writes are those of the channel's own call. -/
theorem absorb_of_closed (settled : Settled defaultMtu session) (closed : session.state.isConnected = false)
    {lower : Turn Channel ChannelReport} (served : session.Lower lower) (now : Nat) :
    (session.absorb now lower).state.channel = lower.state ∧
      ∀ frame accepted, .radio (.write frame accepted) ∈ (session.absorb now lower).effects →
        .radio (.write frame accepted) ∈ lower.effects := by
  obtain ⟨changes, changed⟩ := changes_of_closed (settled.lower served).2 closed
  have only : ∀ {report}, lower.reports = [report] → ∃ change, .connectionChanged change = report := by
    intro report reports
    have listed : report ∈ changes.map .connectionChanged := by
      rw [← changed, reports]
      exact List.mem_singleton_self report
    obtain ⟨change, _, same⟩ := List.mem_map.mp listed
    exact ⟨change, same⟩
  have outcome : Absorbed now session lower (session.absorb now lower) := absorbed settled served
  have below : ∀ {frame accepted} {first second : List Effect},
      (∀ effect ∈ second, effect.isOfLink = false) → .radio (.write frame accepted) ∈ first ++ second →
      .radio (.write frame accepted) ∈ first := by
    intro frame accepted first second beside written
    refine (List.mem_append.mp written).resolve_right fun later => ?_
    cases beside _ later
  generalize session.absorb now lower = turn at outcome ⊢
  cases outcome with
  | nothing reports => exact ⟨rfl, fun _ _ written => written⟩
  | advances reports advance reached => exact ⟨rfl, fun _ _ => below (beside_publish _ _ _)⟩
  | establishes reports opening reached => exact ⟨rfl, fun _ _ => below (beside_publish _ _ _)⟩
  | ends reports engaged reached => exact ⟨rfl, fun _ _ => below (beside_finish _ _)⟩
  | recoils reports advance engaged reached =>
    exact ⟨rfl, fun _ _ written => below (beside_publish _ _ _) (below (beside_finish _ _) written)⟩
  | sent reports => exact ⟨rfl, fun _ _ written => written⟩
  | fails reports => obtain ⟨_, ⟨⟩⟩ := only reports
  | hears reports => obtain ⟨_, ⟨⟩⟩ := only reports
  | mishears reports => obtain ⟨_, ⟨⟩⟩ := only reports

/-- A connection lasts through whatever leaves the clockwork alone. -/
theorem isConnected_of_clockwork {next : Session} (kept : next.clockwork = session.clockwork)
    (connected : session.state.isConnected = true) : next.state.isConnected = true := by
  have same : next.state = session.state := congrArg Clockwork.state kept
  rw [same]
  exact connected

/-- A connection lasts or ends in a call of the channel. -/
theorem rests_of_absorb (settled : Settled defaultMtu session) (connected : session.state.isConnected = true)
    {lower : Turn Channel ChannelReport} (served : session.Lower lower) (now : Nat) :
    (session.absorb now lower).state.state.isConnected = true ∨
      (session.absorb now lower).state.state = .disconnected := by
  have outcome : Absorbed now session lower (session.absorb now lower) := absorbed settled served
  generalize session.absorb now lower = turn at outcome ⊢
  cases outcome with
  | nothing reports => exact .inl connected
  | advances reports advance reached => cases connected.symm.trans advance.closed
  | establishes reports opening reached => exact .inl rfl
  | ends reports engaged reached => exact .inr rfl
  | recoils reports advance engaged reached => exact .inr rfl
  | sent reports => exact .inl connected
  | fails reports => exact .inl (isConnected_of_clockwork (clockwork_giveUp _ _) connected)
  | hears reports => exact .inl (isConnected_of_clockwork (clockwork_messageReceived _ _) connected)
  | mishears reports => exact .inl (isConnected_of_clockwork (clockwork_giveUp _ _) connected)

/-- A connection lasts or ends; no call goes straight on to the next. -/
theorem rests_of_act (settled : Settled defaultMtu session) (connected : session.state.isConnected = true)
    (input : Input) :
    (session.act input).state.state.isConnected = true ∨ (session.act input).state.state = .disconnected := by
  obtain ⟨now, action⟩ := input
  cases action with
  | connect credentials =>
    obtain ⟨sorcId, same⟩ := exists_connected connected
    have idle : session.act ⟨now, .connect credentials⟩ = .idle session :=
      connect_ignored (by simp [MayDial, same]) now
    rw [idle]
    exact .inl connected
  | disconnect => exact rests_of_absorb settled connected ⟨.close .userRequested, by simp, rfl⟩ now
  | requestGrant grant => exact .inl (isConnected_of_clockwork (clockwork_requestGrant session grant) connected)
  | radioEvent event => exact rests_of_absorb settled connected ⟨.radioEvent event, by simp, rfl⟩ now
  | confirm result => exact rests_of_absorb settled connected ⟨.confirm result, by simp, rfl⟩ now
  | receive result => exact rests_of_absorb settled connected ⟨.receive result, by simp, rfl⟩ now
  | tick =>
    have outcome : Ticked now session (session.tick now) := tick_ticked connected now
    rw [act]
    generalize session.tick now = turn at outcome ⊢
    cases outcome with
    | givesUp due silent =>
      have checked : Settled defaultMtu { session with checkTimer := (session.checkTimer.poll now).2 } :=
        settled.of_connected connected rfl rfl
      exact rests_of_absorb checked connected ⟨.close (.protocol .heartbeatTimedOut), by simp, rfl⟩ now
    | waits held early => exact .inl connected
    | beats held due =>
      have kept := (clockwork_serve (session.polled now).queueHeartbeat).trans (clockwork_queueHeartbeat _)
      exact .inl (isConnected_of_clockwork kept connected)

/-- While no session is established: the credentials at hand are those that were presented last, and what is
under way was said with them. -/
structure Presenting (calls : List (Call Session Input)) (session : Session) : Prop where
  held : session.state.isConnected = false → ∀ credentials, session.channel.credentials = some credentials →
    lastDialled? calls = some credentials
  speaks : session.channel.Speaks

private theorem channel_of_disconnected (settled : Settled defaultMtu session)
    (rest : session.state = .disconnected) : ∃ handset, session.channel = .atRest handset defaultMtu := by
  obtain ⟨lawful, agrees, _⟩ := settled
  generalize session.channel = channel at lawful agrees ⊢
  rw [rest] at agrees
  cases lawful with
  | atRest handset => exact ⟨handset, rfl⟩
  | _ => cases agrees

private theorem presenting_of_rest (settled : Settled defaultMtu session)
    (rest : session.state = .disconnected)
    (calls : List (Call Session Input)) : Presenting calls session := by
  obtain ⟨handset, same⟩ := channel_of_disconnected settled rest
  refine ⟨?_, ?_⟩
  · intro _ credentials held
    rw [same] at held
    cases held
  · rw [same]
    intro _ package sending
    cases sending

theorem credentials_of_act {calls : List (Call Session Input)} {lower : Channel.Input} {input : Input}
    (presenting : Presenting calls session) (settled : Settled defaultMtu session)
    (closed : session.state.isConnected = false) (asked : session.lower? input = some lower)
    (held : (session.channel.act lower).state.credentials = some credentials) :
    lastDialled? (calls ++ [⟨session, input⟩]) = some credentials := by
  have transition := Channel.act_transition settled.lawful lower
  rw [lastDialled?_concat, dialled?_eq, asked]
  cases lower with
  | connect given =>
    have admitted : Channel.admits session.channel.state given.token.sorcId = true :=
      settled.agrees ▸ (gives_of_lower? asked).admitted
    cases (Channel.credentials_connect settled.lawful admitted).symm.trans held
    rfl
  | _ => exact presenting.held closed credentials (transition.credentials (by simp) held)

theorem Presenting.act {calls : List (Call Session Input)} (presenting : Presenting calls session)
    (settled : Settled defaultMtu session) (input : Input) :
    Presenting (calls ++ [⟨session, input⟩]) (session.act input).state := by
  cases connected : session.state.isConnected with
  | true =>
    rcases rests_of_act settled connected input with lasts | rest
    · refine ⟨fun closed => ?_, fun closed => ?_⟩
      · cases lasts.symm.trans closed
      · rw [← (settled.act input).agrees] at closed
        cases lasts.symm.trans closed
    · exact presenting_of_rest (settled.act input) rest _
  | false =>
    cases asked : session.lower? input with
    | none =>
      have idle : session.act input = .idle session := by rw [act_of_closed connected, asked]
      have ignored : dialled? ⟨session, input⟩ = none := by rw [dialled?_eq, asked]
      rw [idle]
      refine ⟨fun closed credentials held => ?_, presenting.speaks⟩
      rw [lastDialled?_concat, ignored]
      exact presenting.held closed credentials held
    | some lower =>
      have absorbed : session.act input = session.absorb input.now (session.channel.act lower) := by
        rw [act_of_closed connected, asked]
      obtain ⟨same, _⟩ := absorb_of_closed settled connected ⟨lower, (gives_of_lower? asked).unsent, rfl⟩ input.now
      rw [← absorbed] at same
      refine ⟨fun _ credentials held => ?_, ?_⟩
      · rw [same] at held
        exact credentials_of_act presenting settled connected asked held
      · rw [same]
        exact settled.lawful.speaks presenting.speaks lower

theorem presenting_of_run (handset : Handset) (defaultMtu : Nat) (config : Config) (inputs : List Input) :
    Presenting ((fresh handset defaultMtu config).history inputs)
      ((fresh handset defaultMtu config).run inputs).state := by
  apply settled_run_induction (motive := Presenting)
  · exact presenting_of_rest (settled_fresh handset defaultMtu config) rfl []
  · intro calls session input settled presenting
    exact presenting.act settled input

/-- Until it is established, a session keeps to the credentials of the last request that was taken. -/
structure KeepsTo (calls : List (Call Session Input)) (session : Session) : Prop where
  /-- They are those of the peer, they are at hand, and the handshake is run with their token. -/
  holds : ∀ sorcId stage, session.state = .connecting sorcId stage →
    ∃ credentials, lastDialled? calls = some credentials ∧ credentials.token.sorcId = sorcId ∧
      session.channel.credentials = some credentials ∧
      (stage = .challenging → ∃ nonce,
        session.channel.handshake = some (Handshake.new credentials.token nonce).start.2)
  /-- Every frame that is written is part of a message that is said with them. -/
  voices : session.state.isConnected = false → ∀ input frame accepted,
    .radio (.write frame accepted) ∈ (session.act input).effects →
      ∃ credentials message, lastDialled? calls = some credentials ∧
        Channel.Presents credentials message ∧ Frame.Carries frame message.toBytes

private theorem Presenting.holds {calls : List (Call Session Input)} (presenting : Presenting calls session)
    (settled : Settled defaultMtu session) {sorcId : Uuid} {stage : SessionStage}
    (opening : session.state = .connecting sorcId stage) :
    ∃ credentials, lastDialled? calls = some credentials ∧ credentials.token.sorcId = sorcId ∧
      session.channel.credentials = some credentials ∧
      (stage = .challenging → ∃ nonce,
        session.channel.handshake = some (Handshake.new credentials.token nonce).start.2) := by
  have held := presenting.held (by rw [opening]; rfl)
  have agrees := settled.agrees.symm.trans opening
  have lawful := settled.lawful
  generalize session.channel = channel at held agrees lawful ⊢
  cases lawful with
  | atRest handset => cases agrees
  | dialling handset credentials =>
    cases agrees
    exact ⟨credentials, held credentials rfl, rfl, rfl, nofun⟩
  | settling handset credentials default underway =>
    cases agrees
    exact ⟨credentials, held credentials rfl, rfl, rfl, nofun⟩
  | @proving _ handshake _ _ handset credentials default limit begun underway pending =>
    cases agrees
    exact ⟨credentials, held credentials rfl, rfl, rfl, fun _ => ⟨handshake.nonce, congrArg some begun⟩⟩
  | secured handset credentials default limit underway => cases agrees

private theorem Presenting.voices {calls : List (Call Session Input)} (presenting : Presenting calls session)
    (settled : Settled defaultMtu session) (closed : session.state.isConnected = false) {input : Input}
    {frame : Bytes} {accepted : Bool}
    (written : .radio (.write frame accepted) ∈ (session.act input).effects) :
    ∃ credentials message, lastDialled? calls = some credentials ∧
      Channel.Presents credentials message ∧ Frame.Carries frame message.toBytes := by
  cases asked : session.lower? input with
  | none =>
    rw [act_of_closed closed, asked] at written
    cases written
  | some lower =>
    rw [act_of_closed closed, asked] at written
    obtain ⟨_, below⟩ := absorb_of_closed settled closed ⟨lower, (gives_of_lower? asked).unsent, rfl⟩ input.now
    obtain ⟨credentials, message, held, presents, carries⟩ :=
      settled.lawful.voices presenting.speaks (settled.agrees ▸ closed) (below _ _ written)
    exact ⟨credentials, message, presenting.held closed credentials held, presents, carries⟩

/-- After any inputs a request to connect is taken by all layers or by none, and until a session is
established the phone speaks for the request that was taken last. -/
theorem connects_of_run (handset : Handset) (defaultMtu : Nat) (config : Config) (inputs : List Input) :
    (∀ now credentials, Connects ((fresh handset defaultMtu config).run inputs).state now credentials) ∧
      KeepsTo ((fresh handset defaultMtu config).history inputs)
        ((fresh handset defaultMtu config).run inputs).state := by
  have settled := settled_of_run handset defaultMtu config inputs
  have presenting := presenting_of_run handset defaultMtu config inputs
  exact ⟨settled.connects, fun _ _ => presenting.holds settled,
    fun closed _ _ _ => presenting.voices settled closed⟩

end Session

end PhoneKey
