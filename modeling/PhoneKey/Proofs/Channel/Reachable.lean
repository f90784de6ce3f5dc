import PhoneKey.Proofs.Channel.Steps

/-! # Lawful runs

A new channel is at rest, and every transition of a lawful channel leads to a lawful one. So a channel
is lawful after any inputs whatever, with any answers of the radio.
-/

namespace PhoneKey.Channel

variable {defaultMtu : Nat}

/-- The next frame of a package keeps a channel lawful. -/
theorem lawful_of_next {channel : Channel} {line : Line} {frame : Bytes}
    (lawful : Lawful defaultMtu channel) (confirmed : channel.link.line.confirm = (.next frame, line))
    (handset : Handset) :
    Lawful defaultMtu { channel with link := ⟨handset, line, channel.link.state⟩ } := by
  obtain ⟨package, _, sending, _⟩ := Line.confirm_eq_next confirmed
  cases lawful with
  | atRest handset => cases sending
  | dialling handset credentials => cases sending
  | settling _ credentials default underway =>
    obtain ⟨alive, carries⟩ := underway package sending
    obtain ⟨_, rfl, goes⟩ := Line.underway_of_next confirmed sending alive
    refine .settling handset credentials default ?_
    rintro following ⟨⟩
    exact ⟨goes, carries⟩
  | proving _ credentials default limit begun underway pending =>
    obtain ⟨alive, carries⟩ := underway package sending
    obtain ⟨_, rfl, goes⟩ := Line.underway_of_next confirmed sending alive
    refine .proving handset credentials default limit begun ?_ ?_
    · rintro following ⟨⟩
      exact ⟨goes, carries⟩
    · intro key held
      exact ⟨rfl, (pending key held).2⟩
  | secured _ credentials default limit underway =>
    obtain ⟨alive, carries⟩ := underway package sending
    obtain ⟨_, rfl, goes⟩ := Line.underway_of_next confirmed sending alive
    refine .secured handset credentials default limit ?_
    rintro following ⟨⟩
    exact ⟨goes, carries⟩

/-- What arrives concerns no package that is under way. -/
theorem lawful_of_collected {channel : Channel} {line : Line} {raw : Bytes} {message : Option Bytes}
    (lawful : Lawful defaultMtu channel)
    (listening : channel.link.isSettling = true ∨ channel.link.state.isConnected = true)
    (received : channel.link.line.receive raw = (.ok message, line)) :
    Lawful defaultMtu { channel with link := { channel.link with line } } := by
  obtain ⟨receiving, rfl⟩ := Line.receive_frame received
  cases lawful with
  | atRest handset => rcases listening with settling | connected <;> contradiction
  | dialling handset credentials => rcases listening with settling | connected <;> contradiction
  | settling handset credentials default underway =>
    exact .settling handset credentials default underway
  | proving handset credentials default limit begun underway pending =>
    exact .proving handset credentials default limit begun underway pending
  | secured handset credentials default limit underway =>
    exact .secured handset credentials default limit underway

/-- A message of the attempt has been written, so that nothing is under way. -/
theorem lawful_of_waiting {channel : Channel} {line : Line} {message : Bytes}
    (lawful : Lawful defaultMtu channel)
    (confirmed : channel.link.line.confirm = (.complete message, line))
    (closed : channel.state.isConnected = false) (keyless : channel.pendingKey = none) :
    Lawful defaultMtu
      { channel with link := { channel.link with line }, inFlight := none } := by
  obtain ⟨package, sending, _, rfl⟩ := Line.confirm_eq_complete confirmed
  cases lawful with
  | atRest handset => cases sending
  | dialling handset credentials => cases sending
  | settling handset credentials default underway =>
    exact .settling handset credentials default (Line.forall_of_vacant rfl)
  | proving handset credentials default limit begun underway pending =>
    cases keyless
    exact .proving handset credentials default limit begun (Line.forall_of_vacant rfl) nofun
  | secured handset credentials default limit underway => cases closed

/-- While a key waits for the answer to a proof to be written, nothing else can be said. -/
theorem keyless_of_taken {line next : Line} {handset heard : Handset} {credentials : Credentials}
    {handshake : Handshake} {pendingKey : Option Block} {inFlight : Option Message} {raw message : Bytes}
    {result : Option Bytes}
    (lawful : Lawful defaultMtu (proving handset line credentials handshake pendingKey inFlight))
    (received : line.receive raw = (.ok result, next))
    (taken : (Link.start ⟨heard, next, .connected credentials.token.sorcId⟩ message).refusal = none) :
    pendingKey = none := by
  obtain ⟨_, _, _, _, pending⟩ := lawful_proving_iff.mp lawful
  obtain ⟨receiving, rfl⟩ := Line.receive_frame received
  obtain ⟨_, _, launched, _⟩ := Link.start_taken taken
  have free : line.sending = none :=
    @Line.sending_of_not_busy { line with receiving } (Line.launch_eq_ok launched).1
  cases pendingKey with
  | none => rfl
  | some key => simpa [free] using (pending key rfl).1

/-- A reply of the phone is what is in flight then, and the key waits for the answer to a proof only. -/
theorem lawful_of_reply {line next : Line} {handset heard : Handset} {credentials : Credentials}
    {handshake following : Handshake} {pendingKey key : Option Block} {inFlight : Option Message}
    {raw data : Bytes} {message : Message} {offered : Link.Offer}
    (lawful : Lawful defaultMtu (proving handset line credentials handshake pendingKey inFlight))
    (received : line.receive raw = (.ok (some data), next))
    (reply : Reply credentials handset handshake pendingKey (.ofBytes data) heard following key message)
    (spoken : offered =
      Link.start ⟨heard, next, .connected credentials.token.sorcId⟩ message.toBytes)
    (taken : offered.refusal = none) :
    Lawful defaultMtu
      (proving offered.link.handset offered.link.line credentials following key (some message)) := by
  obtain ⟨default, limit, begun, underway, pending⟩ := lawful_proving_iff.mp lawful
  subst spoken
  have keyless : pendingKey = none := keyless_of_taken lawful received taken
  obtain ⟨receiving, rfl⟩ := Line.receive_frame received
  obtain ⟨package, sending, carried, alive⟩ := Link.underway_of_taken taken
  have limits := Link.mtu_start ⟨heard, { line with receiving }, .connected credentials.token.sorcId⟩
    message.toBytes
  refine .proving _ credentials (limits.2.trans default) ?_ ?_ ?_ ?_
  · rw [limits.1]
    exact limit
  · cases reply with
    | pushes kind readable => exact begun
    | renews kind =>
      rw [begun]
      rfl
    | answers kind read proof => exact begun
  · intro other held
    cases sending.symm.trans held
    exact ⟨alive, message, rfl, carried⟩
  · intro other held
    refine ⟨by rw [sending]; rfl, message, rfl, ?_⟩
    cases reply with
    | pushes kind readable => rw [keyless] at held; cases held
    | renews kind => rw [keyless] at held; cases held
    | answers kind read proof => rfl

/-- Every transition of a lawful channel leads to a lawful one. -/
theorem lawful_of_transition {channel : Channel} {input : Input} {turn : Turn Channel ChannelReport}
    (lawful : Lawful defaultMtu channel) (transition : Transition defaultMtu channel input turn) :
    Lawful defaultMtu turn.state := by
  cases transition with
  | idle => exact lawful
  | unconnected message closed => exact lawful
  | dials handset credentials => exact .dialling handset credentials
  | redials handset same => exact .dialling handset _
  | @asks handset credentials offered asked taken =>
    subst asked
    obtain ⟨package, sending, carried, alive⟩ := Link.underway_of_taken taken
    refine .settling _ credentials (Link.mtu_start _ _).2 ?_
    intro other held
    cases sending.symm.trans held
    exact ⟨alive, carried⟩
  | asksInVain asked refused => exact .atRest _
  | ends grounds => exact .atRest _
  | proceeds confirmed => exact lawful_of_next lawful confirmed _
  | breaksOff confirmed closed grounds => exact .atRest _
  | collects listening received quiet => exact lawful_of_collected lawful listening received
  | waits confirmed closed keyless => exact lawful_of_waiting lawful confirmed closed keyless
  | @opens handset line next credentials raw data mtu offered received kind told limit spoken taken =>
    obtain ⟨default, _⟩ := lawful_settling_iff.mp lawful
    obtain ⟨receiving, rfl⟩ := Line.receive_frame received
    subst spoken
    obtain ⟨package, sending, carried, alive⟩ := Link.underway_of_taken taken
    have limits := Link.mtu_start (openingLink handset { line with receiving } credentials mtu)
      (opening handset credentials).1.toBytes
    refine .proving _ credentials (limits.2.trans default) ?_ rfl ?_ (by simp)
    · rw [limits.1]
      exact limit
    · intro other held
      cases sending.symm.trans held
      exact ⟨alive, _, rfl, carried⟩
  | opensInVain received spoken refused => exact .atRest _
  | replies received reply spoken taken => exact lawful_of_reply lawful received reply spoken taken
  | givesUp received kind spoken => exact .atRest _
  | establishes confirmed =>
    obtain ⟨default, limit, _⟩ := lawful_proving_iff.mp lawful
    obtain ⟨package, sending, _, rfl⟩ := Line.confirm_eq_complete confirmed
    exact .secured _ _ default limit (Line.forall_of_vacant rfl)
  | @seals handset line credentials context inFlight message offered spoken taken =>
    obtain ⟨default, limit, _⟩ := lawful_secured_iff.mp lawful
    subst spoken
    obtain ⟨package, sending, carried, alive⟩ := Link.underway_of_taken taken
    have limits := Link.mtu_start ⟨handset, line, .connected credentials.token.sorcId⟩
      (context.encrypt message.toBytes).1
    refine .secured _ credentials (limits.2.trans default) ?_ ?_
    · rw [limits.1]
      exact limit
    · intro other held
      cases sending.symm.trans held
      exact ⟨alive, rfl⟩
  | @refuses handset line credentials context inFlight message offered cause spoken refused =>
    obtain ⟨default, limit, underway⟩ := lawful_secured_iff.mp lawful
    subst spoken
    refine .secured _ credentials default limit ?_
    intro package sending
    have busy : cause = .sendingInProgress := Link.refusal_of_sending refused sending
    rw [inFlightAfter, if_pos busy]
    exact underway package sending
  | delivers confirmed =>
    obtain ⟨default, limit, _⟩ := lawful_secured_iff.mp lawful
    obtain ⟨package, sending, _, rfl⟩ := Line.confirm_eq_complete confirmed
    exact .secured _ _ default limit (Line.forall_of_vacant rfl)
  | loses cause sending =>
    obtain ⟨default, limit, _⟩ := lawful_secured_iff.mp lawful
    exact .secured _ _ default limit (Line.forall_of_vacant rfl)
  | declines confirmed =>
    obtain ⟨default, limit, _⟩ := lawful_secured_iff.mp lawful
    exact .secured _ _ default limit (Line.forall_of_vacant rfl)
  | hears received opened =>
    obtain ⟨default, limit, underway⟩ := lawful_secured_iff.mp lawful
    obtain ⟨receiving, rfl⟩ := Line.receive_frame received
    exact .secured _ _ default limit underway
  | mishears cause result kept =>
    obtain ⟨default, limit, underway⟩ := lawful_secured_iff.mp lawful
    rw [kept]
    exact .secured _ _ default limit underway

/-- After any inputs a channel is lawful. -/
theorem lawful_of_run (handset : Handset) (defaultMtu : Nat) (inputs : List Input) :
    Lawful defaultMtu ((atRest handset defaultMtu).run inputs).state := by
  apply Turn.run_induction act (motive := fun _ channel => Lawful defaultMtu channel)
  · exact .atRest handset
  · intro earlier channel input lawful
    exact lawful_of_transition lawful (act_transition lawful input)

/-- What holds at rest and is kept by every call of a lawful channel holds of every run. -/
theorem lawful_run_induction {handset : Handset} {motive : List (Call Channel Input) → Channel → Prop}
    (base : motive [] (atRest handset defaultMtu))
    (advance : ∀ calls channel input, Lawful defaultMtu channel → motive calls channel →
      motive (calls ++ [⟨channel, input⟩]) (channel.act input).state)
    (inputs : List Input) :
    motive ((atRest handset defaultMtu).history inputs) ((atRest handset defaultMtu).run inputs).state := by
  have both : Lawful defaultMtu ((atRest handset defaultMtu).run inputs).state ∧
      motive ((atRest handset defaultMtu).history inputs)
        ((atRest handset defaultMtu).run inputs).state := by
    apply Turn.run_induction act
      (motive := fun calls channel => Lawful defaultMtu channel ∧ motive calls channel)
    · exact ⟨.atRest handset, base⟩
    · rintro calls channel input ⟨lawful, kept⟩
      exact ⟨lawful_of_transition lawful (act_transition lawful input), advance _ _ input lawful kept⟩
  exact both.2

/-- Credentials whose key and peer are zeros. -/
def zeroCredentials : Credentials where
  token := ⟨"", "", ⟨.zero⟩, "00000000000000000000000000000000", .zero, rfl⟩
  blob := ⟨0, ""⟩

/-- A handset that draws zeros and whose radio accepts so many writes. -/
def zeroHandset (accepted : Nat) : Handset := ⟨(· < accepted), ⟨fun _ => .zero⟩⟩

/-- What arrives from a peer that draws zeros, up to the phone's answer to its proof. -/
def zeroInputs : List Input :=
  let proof := (Aes.Cipher.ofKey .zero).encrypt (Block.zero.rotate.xor .zero)
  [.connect zeroCredentials, .radioEvent (.connected ⟨.zero⟩), .receive (.ok [0x30, 0, 2, 0, 0x07, 200]),
    .confirm (.ok ()), .receive (.ok ([0x30, 0, 33, 0, 0x02] ++ Block.zero.toList ++ proof.toList))]

end PhoneKey.Channel
