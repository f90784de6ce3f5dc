import PhoneKey.Proofs.Channel.Reachable

/-! # What a call writes

A call writes at most the frame that opens a package which it makes itself, or the next frame of the
package that was under way before. Whether messages are sealed is never decided between two frames of a
package, and no call that writes announces a change of it.
-/

namespace PhoneKey.Channel

variable {defaultMtu : Nat} {channel : Channel} {input : Input} {turn : Turn Channel ChannelReport}

/-- The messages that travel in clear. -/
def spokenInClear : List MessageId := .mtuRequest :: spokenInHandshake

/-- Whether effects write the frame that opens a package with some bytes. -/
def Begins (effects : List Effect) (data : Bytes) : Prop :=
  ∃ frame accepted, .radio (.write frame accepted) ∈ effects ∧ Frame.Opens frame data

/-- A call makes a package of a message: how the call found the channel, what it did, and the bytes that
the package carries. -/
inductive Launch (channel : Channel) (effects : List Effect) : Input → Message → Bytes → Prop
  | clear {input : Input} {message : Message} (closed : channel.state.isConnected = false)
      (unasked : ∀ given, input ≠ .send given) (kind : message.id ∈ spokenInClear)
      (begins : Begins effects message.toBytes) : Launch channel effects input message message.toBytes
  | sealed {context : SealingContext} (message : Message) (connected : channel.state.isConnected = true)
      (keyed : channel.protection = .sealed context)
      (begins : Begins effects (context.encrypt message.toBytes).1) :
      Launch channel effects (.send message) message (context.encrypt message.toBytes).1

theorem Launch.of_connected {message : Message} {data : Bytes}
    (launch : Launch channel turn.effects input message data) (connected : channel.state.isConnected = true) :
    input = .send message ∧ ∃ context, channel.protection = .sealed context ∧
      data = (context.encrypt message.toBytes).1 := by
  cases launch with
  | clear closed unasked kind begins => cases closed.symm.trans connected
  | sealed message connected keyed begins => exact ⟨rfl, _, keyed, rfl⟩

theorem Launch.of_closed {message : Message} {data : Bytes}
    (launch : Launch channel turn.effects input message data) (closed : channel.state.isConnected = false) :
    (∀ given, input ≠ .send given) ∧ message.id ∈ spokenInClear ∧ data = message.toBytes ∧
      Begins turn.effects message.toBytes := by
  cases launch with
  | clear closed unasked kind begins => exact ⟨unasked, kind, rfl, begins⟩
  | sealed message connected keyed begins => cases closed.symm.trans connected

/-- A channel's state after some effects, as its stream announces it. -/
def announced (state : SessionState) : List Effect → SessionState
  | [] => state
  | .announce (.channel change) :: rest => announced change.state rest
  | _ :: rest => announced state rest

theorem Lawful.underway {package : Package} (lawful : Lawful defaultMtu channel)
    (sending : channel.link.line.sending = some package) : package.Underway channel.link.line.mtu := by
  cases lawful with
  | atRest handset => cases sending
  | dialling handset credentials => cases sending
  | settling handset credentials default underway => exact (underway package sending).1
  | proving handset credentials default limit begun underway pending => exact (underway package sending).1
  | secured handset credentials default limit underway => exact (underway package sending).1

theorem Grounds.no_write {sorcId : Uuid} {cause : EndCause} {lower : List Effect}
    (grounds : Grounds channel input sorcId cause lower) (frame : Bytes) (accepted : Bool) :
    .radio (.write frame accepted) ∉ lower := by
  cases grounds <;> simp [hangUpEffects, linkEndEffects]

theorem Grounds.no_news {sorcId : Uuid} {cause : EndCause} {lower : List Effect}
    (grounds : Grounds channel input sorcId cause lower) (change : SessionChange) :
    .announce (.channel change) ∉ lower := by
  cases grounds <;> simp [hangUpEffects, linkEndEffects]

private theorem opens_of_offered {link : Link} {message : Bytes} {offered : Link.Offer} {frame : Bytes}
    {accepted : Bool} (spoken : offered = link.start message)
    (written : .radio (.write frame accepted) ∈ offered.effects) : Frame.Opens frame message := by
  subst spoken
  rcases Link.effects_start link message with silent | ⟨first, answer, same, opens⟩
  · rw [silent] at written
    cases written
  · rw [same, List.mem_singleton] at written
    cases written
    exact opens

theorem limitRequest_spoken : limitRequest.id ∈ spokenInClear := by decide

theorem opening_spoken (handset : Handset) (credentials : Credentials) :
    (opening handset credentials).1.id ∈ spokenInClear := by
  simp [opening, Handshake.start, spokenInClear, spokenInHandshake]

/-- Every frame that a call writes goes on with the package under way, or opens one that it makes. -/
theorem Transition.written {frame : Bytes} {accepted : Bool} (lawful : Lawful defaultMtu channel)
    (transition : Transition defaultMtu channel input turn)
    (written : .radio (.write frame accepted) ∈ turn.effects) :
    (∃ package, channel.link.line.sending = some package ∧ Frame.Carries frame package.message) ∨
      ∃ message data, Launch channel turn.effects input message data ∧ Frame.Opens frame data := by
  have continues : ∀ {next line answer}, channel.link.line.confirm = (.next next, line) →
      Effect.radio (.write frame accepted) = .radio (.write next answer) →
      ∃ package, channel.link.line.sending = some package ∧ Frame.Carries frame package.message := by
    intro next line answer confirmed same
    cases same
    obtain ⟨package, _, sending, _⟩ := Line.confirm_eq_next confirmed
    refine ⟨package, sending, ?_⟩
    exact (Line.underway_of_next confirmed sending (lawful.underway sending)).1
  have spoken : ∀ {message : Message}, channel.state.isConnected = false →
      (∀ given, input ≠ .send given) → message.id ∈ spokenInClear → Frame.Opens frame message.toBytes →
      ∃ message data, Launch channel turn.effects input message data ∧ Frame.Opens frame data :=
    fun closed unasked kind opens =>
      ⟨_, _, .clear closed unasked kind ⟨frame, accepted, written, opens⟩, opens⟩
  cases transition with
  | idle => cases written
  | unconnected message closed => cases written
  | dials handset credentials => simp at written
  | redials handset same => simp at written
  | @asks handset credentials offered asked taken =>
    have here : .radio (.write frame accepted) ∈ offered.effects := by simpa using written
    exact .inr (spoken rfl (by simp) limitRequest_spoken (opens_of_offered asked here))
  | @asksInVain handset credentials offered cause asked refused =>
    have here : .radio (.write frame accepted) ∈ offered.effects := by simpa [linkEndEffects] using written
    exact .inr (spoken rfl (by simp) limitRequest_spoken (opens_of_offered asked here))
  | ends grounds =>
    exact absurd (by simpa [ended] using written) (grounds.no_write frame accepted)
  | proceeds confirmed => exact .inl (continues confirmed (List.mem_singleton.mp written))
  | breaksOff confirmed closed grounds =>
    have quiet := grounds.no_write frame accepted
    exact .inl (continues confirmed (by simpa [ended, Turn.after, quiet] using written))
  | collects listening received quiet => cases written
  | waits confirmed closed keyless => cases written
  | @opens handset line next credentials raw data mtu offered received kind told limit begun taken =>
    have here : .radio (.write frame accepted) ∈ offered.effects := by simpa [openingEffects] using written
    exact .inr (spoken rfl (by simp) (opening_spoken handset credentials) (opens_of_offered begun here))
  | @opensInVain handset line next credentials raw data mtu offered cause received begun refused =>
    have here : .radio (.write frame accepted) ∈ offered.effects := by
      simpa [openingEffects, hangUpEffects] using written
    exact .inr (spoken rfl (by simp) (opening_spoken handset credentials) (opens_of_offered begun here))
  | replies received reply begun taken =>
    exact .inr (spoken rfl (by simp) (List.mem_cons_of_mem _ reply.kind) (opens_of_offered begun written))
  | @givesUp handset heard line next credentials handshake pendingKey inFlight raw data message offered cause
      received kind begun =>
    have here : .radio (.write frame accepted) ∈ offered.effects := by
      simpa [ended, Turn.after, hangUpEffects] using written
    exact .inr (spoken rfl (by simp) (List.mem_cons_of_mem _ kind) (opens_of_offered begun here))
  | establishes confirmed => simp at written
  | seals begun taken =>
    have opens := opens_of_offered begun written
    exact .inr ⟨_, _, .sealed _ rfl rfl ⟨frame, accepted, written, opens⟩, opens⟩
  | refuses begun refused =>
    have opens := opens_of_offered begun written
    exact .inr ⟨_, _, .sealed _ rfl rfl ⟨frame, accepted, written, opens⟩, opens⟩
  | delivers confirmed => cases written
  | loses cause sending => cases written
  | declines confirmed => exact .inl (continues confirmed (List.mem_singleton.mp written))
  | hears received unprotected => cases written
  | mishears cause result kept => cases written

/-- A call that writes announces no change of whether messages are sealed. -/
theorem Transition.announces {frame : Bytes} {accepted : Bool} {change : SessionChange}
    (transition : Transition defaultMtu channel input turn)
    (written : .radio (.write frame accepted) ∈ turn.effects)
    (told : .announce (.channel change) ∈ turn.effects) :
    change.state.isConnected = channel.state.isConnected := by
  have silent := fun link message => Link.no_news_start link message (.channel change)
  cases transition with
  | idle => cases written
  | unconnected message closed => cases written
  | dials handset credentials => simp at written
  | redials handset same => simp at told
  | @asks handset credentials offered asked taken =>
    subst asked
    obtain rfl : change = ⟨.connecting credentials.token.sorcId .transport,
      .entered credentials.token.sorcId .transport⟩ := by simpa [silent] using told
    rfl
  | @asksInVain handset credentials offered cause asked refused =>
    subst asked
    obtain rfl | rfl : change = ⟨.connecting credentials.token.sorcId .transport,
          .entered credentials.token.sorcId .transport⟩ ∨
        change = ⟨.disconnected, .connectingFailed credentials.token.sorcId .invalidMtuResponse⟩ := by
      simpa [silent, linkEndEffects] using told
    · rfl
    · rfl
  | ends grounds => exact absurd (by simpa [ended] using written) (grounds.no_write frame accepted)
  | proceeds confirmed => simp at told
  | @breaksOff _ _ _ sorcId cause lower confirmed closed grounds =>
    have quiet := grounds.no_news change
    obtain rfl : change = ⟨.disconnected, cause.reason sorcId⟩ := by
      simpa [ended, Turn.after, quiet] using told
    rw [closed]
    rfl
  | collects listening received quiet => cases written
  | waits confirmed closed keyless => cases written
  | @opens handset line next credentials raw data mtu offered received kind mtuTold limit spoken taken =>
    subst spoken
    obtain rfl : change = ⟨.connecting credentials.token.sorcId .challenging,
      .entered credentials.token.sorcId .challenging⟩ := by simpa [silent, openingEffects] using told
    rfl
  | @opensInVain handset line next credentials raw data mtu offered cause received spoken refused =>
    subst spoken
    obtain rfl | rfl : change = ⟨.connecting credentials.token.sorcId .challenging,
          .entered credentials.token.sorcId .challenging⟩ ∨
        change = ⟨.disconnected, .connectingFailed credentials.token.sorcId (.handshakeFailed none)⟩ := by
      simpa [silent, openingEffects, hangUpEffects] using told
    · rfl
    · rfl
  | replies received reply spoken taken =>
    subst spoken
    exact absurd told (silent _ _)
  | @givesUp handset heard line next credentials handshake pendingKey inFlight raw data message offered cause
      received kind spoken =>
    subst spoken
    obtain rfl : change = ⟨.disconnected,
        (EndCause.protocol (.handshakeFailed cause)).reason credentials.token.sorcId⟩ := by
      simpa [silent, ended, Turn.after, hangUpEffects] using told
    rfl
  | establishes confirmed => simp at written
  | seals spoken taken =>
    subst spoken
    exact absurd told (silent _ _)
  | refuses spoken refused =>
    subst spoken
    exact absurd told (silent _ _)
  | delivers confirmed => cases written
  | loses cause sending => cases written
  | declines confirmed => simp at told
  | hears received unprotected => cases written
  | mishears cause result kept => cases written

/-- Announcements that do not tell of a change of it leave open whether messages are sealed. -/
theorem isConnected_announced (state : SessionState) (effects : List Effect)
    (steady : ∀ change, .announce (.channel change) ∈ effects →
      change.state.isConnected = state.isConnected) :
    (announced state effects).isConnected = state.isConnected := by
  fun_induction announced state effects with
  | case1 state => rfl
  | case2 state change rest ih =>
    have same := steady change List.mem_cons_self
    rw [ih fun later told => (steady later (List.mem_cons_of_mem _ told)).trans same.symm, same]
  | case3 state effect rest other ih =>
    exact ih fun change told => steady change (List.mem_cons_of_mem _ told)

end PhoneKey.Channel
