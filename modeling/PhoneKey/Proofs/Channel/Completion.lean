import PhoneKey.Proofs.Channel.KeyProof
import PhoneKey.Proofs.Link.Completion

/-! # Completions and the secure channel

A channel writes through its link alone, so that over a faithful radio the writes on the air stay within
their bounds here too. The session is established by the completion that is credited to the last frame of
the phone's last handshake message, which is one write early while a completion is overtaken.
-/

namespace PhoneKey.Channel

/-- What an input says about the frame that was written last. -/
def Input.completion? : Input → Option (Except LinkError Unit)
  | .confirm result => some result
  | _ => none

/-- The writes on the air stay within bounds throughout a turn, and belong to the link at its end. -/
def Keeps (air : Air) (turn : Turn Channel ChannelReport) : Prop :=
  Link.Keeps air turn.effects turn.state.link

variable {defaultMtu : Nat} {channel : Channel} {air : Air} {turn : Turn Channel ChannelReport}

private theorem keeps_idle (tracks : channel.link.Tracks air) : Keeps air (.idle channel) := .silent tracks

private theorem keeps_report (tracks : channel.link.Tracks air) (news : ChannelReport) :
    Keeps air (.report channel news) := .silent tracks

private theorem keeps_publish (tracks : channel.link.Tracks air) (state : SessionState)
    (reason : SessionReason) : Keeps air (channel.publish state reason) :=
  .of_neutral tracks (by simp [publish, Air.Neutral, Air.note])

private theorem Keeps.andThen {next : Channel → Turn Channel ChannelReport} (first : Keeps air turn)
    (second : turn.state.link.Tracks (air.after turn.effects) →
      Keeps (air.after turn.effects) (next turn.state)) : Keeps air (turn.andThen next) :=
  Link.Keeps.andThen first (second first.tracks)

/-- What the channel does after its link has done something. -/
theorem Keeps.after {effects : List Effect} {link : Link} (first : Link.Keeps air effects link)
    (second : link.Tracks (air.after effects) → Keeps (air.after effects) turn) :
    Keeps air (turn.after effects) :=
  Link.Keeps.andThen first (second first.tracks)

private theorem keeps_finish (tracks : channel.link.Tracks air) (cause : EndCause) :
    Keeps air (channel.finish cause) := by
  rw [finish]
  split
  · exact keeps_idle tracks
  · exact @keeps_publish channel.forget air tracks _ _

private theorem keeps_close (tracks : channel.link.Tracks air) (cause : EndCause) :
    Keeps air (channel.close cause) := by
  rw [close]
  split
  · exact keeps_idle tracks
  · refine Keeps.after (Link.keeps_close tracks .userRequested) fun gone => ?_
    exact @keeps_finish { channel with link := channel.link.disconnect.state } _ gone cause

private theorem keeps_sendFailed (tracks : channel.link.Tracks air) (cause : LinkError) :
    Keeps air (channel.sendFailed cause) := by
  rw [sendFailed]
  split
  · exact keeps_close tracks _
  · exact keeps_report tracks _
  · exact keeps_idle tracks

private theorem keeps_offer (tracks : channel.link.Tracks air) (message : Message) :
    Link.Keeps air (channel.offer message).effects (channel.offer message).channel.link :=
  Link.keeps_offer tracks (channel.protection.protect message).1

private theorem keeps_transmit (tracks : channel.link.Tracks air) (message : Message) :
    Keeps air (channel.transmit message) := by
  have offers := keeps_offer tracks message
  rw [transmit]
  split
  · exact offers
  · exact Keeps.after offers fun given => keeps_sendFailed given _

private theorem keeps_send (tracks : channel.link.Tracks air) (message : Message) :
    Keeps air (channel.send message) := by
  rw [send]
  split
  · exact keeps_transmit tracks message
  · exact keeps_report tracks _

private theorem keeps_pushBlob (tracks : channel.link.Tracks air) : Keeps air channel.pushBlob := by
  rw [pushBlob]
  split
  · exact keeps_close tracks _
  · split
    · exact keeps_transmit tracks _
    · exact keeps_close tracks _

private theorem keeps_blobNeeded (tracks : channel.link.Tracks air) (latest : Option UInt32) :
    Keeps air (channel.blobNeeded latest) := by
  simp only [blobNeeded]
  split
  · exact keeps_close tracks _
  · exact keeps_pushBlob tracks

private theorem keeps_openHandshake (tracks : channel.link.Tracks air) (sorcId : Uuid) :
    Keeps air (channel.openHandshake sorcId) := by
  rw [openHandshake]
  split
  · exact keeps_close tracks _
  · refine Keeps.andThen (keeps_publish ?_ _ _) fun ready => ?_
    · exact tracks.of_same rfl rfl id
    · apply keeps_transmit
      exact ready

private theorem keeps_follow (tracks : channel.link.Tracks air)
    (step : Except HandshakeError Handshake.Step) : Keeps air (channel.follow step) := by
  unfold follow
  split
  · exact keeps_transmit tracks _
  · apply keeps_transmit
    exact tracks
  · exact keeps_blobNeeded tracks _
  · refine Keeps.andThen ?_ fun told => keeps_close told _
    apply keeps_transmit
    exact tracks
  · exact keeps_close tracks _

private theorem keeps_response (tracks : channel.link.Tracks air) (message : Message)
    (handshake : Handshake) :
    Keeps air
      (let (step, next, nonces) := handshake.respond channel.link.handset.nonces message
      let handset := { channel.link.handset with nonces }
      follow { channel with handshake := some next, link := { channel.link with handset } } step) := by
  apply keeps_follow
  exact tracks.of_same rfl rfl id

private theorem keeps_handshakeMessage (tracks : channel.link.Tracks air) (message : Message) :
    Keeps air (channel.handshakeMessage message) := by
  rw [handshakeMessage]
  split
  iterate 3
    · split
      · exact keeps_close tracks _
      · exact keeps_response tracks message _
  · split
    · exact keeps_pushBlob tracks
    · exact keeps_idle tracks
  · exact keeps_idle tracks

private theorem keeps_enableSealing (tracks : channel.link.Tracks air) (key : Block) :
    Keeps air (channel.enableSealing key) := by
  rw [enableSealing]
  split
  · exact keeps_idle tracks
  · apply keeps_publish
    exact tracks

private theorem keeps_linkChanged (tracks : channel.link.Tracks air) (change : LinkChange) :
    Keeps air (channel.linkChanged change) := by
  rw [linkChanged]
  split
  · exact keeps_idle tracks
  · split
    · exact keeps_publish tracks _ _
    · exact keeps_idle tracks
  · split
    · exact keeps_openHandshake tracks _
    · exact keeps_idle tracks
  · split <;> exact keeps_finish tracks _

private theorem keeps_dataSent (tracks : channel.link.Tracks air) (result : Except LinkError Bytes) :
    Keeps air (channel.dataSent result) := by
  unfold dataSent
  split
  · split
    · exact keeps_sendFailed tracks _
    · apply keeps_sendFailed
      exact tracks
  · split
    · split
      · exact .silent tracks
      · apply keeps_enableSealing
        exact tracks
    · split
      · exact keeps_idle tracks
      · exact .silent tracks
    · exact keeps_idle tracks

private theorem keeps_dataReceived (tracks : channel.link.Tracks air) (result : Except LinkError Bytes) :
    Keeps air (channel.dataReceived result) := by
  unfold dataReceived
  split
  · split
    · exact keeps_handshakeMessage tracks _
    · exact keeps_close tracks _
  · split
    · exact .silent tracks
    · exact keeps_report tracks _
  · exact keeps_idle tracks

private theorem keeps_linkReported (tracks : channel.link.Tracks air) (news : LinkReport) :
    Keeps air (channel.linkReported news) := by
  cases news with
  | connectionChanged change => exact keeps_linkChanged tracks change
  | dataSent result => exact keeps_dataSent tracks result
  | dataReceived result => exact keeps_dataReceived tracks result

private theorem keeps_reported (tracks : channel.link.Tracks air) (reports : List LinkReport) :
    Keeps air (Turn.forEach linkReported channel reports) := by
  induction reports generalizing channel air with
  | nil => exact keeps_idle tracks
  | cons news rest ih => exact (keeps_linkReported tracks news).andThen fun told => ih told

private theorem keeps_absorb {lower : Turn Link LinkReport}
    (first : Link.Keeps air lower.effects lower.state) : Keeps air (channel.absorb lower) := by
  refine Keeps.after first fun tracks => ?_
  apply keeps_reported
  exact tracks

private theorem keeps_connect (tracks : channel.link.Tracks air) (credentials : Credentials) :
    Keeps air (channel.connect credentials) := by
  simp only [connect]
  split
  · refine Keeps.andThen ?_ fun ready => keeps_absorb (Link.keeps_connect ready _)
    split
    · apply keeps_publish
      exact tracks
    · exact .silent tracks
  · exact keeps_idle tracks

/-- Every call over a faithful radio keeps the writes on the air within their bounds. -/
theorem keeps_act (tracks : channel.link.Tracks air) (input : Input)
    (allowed : air.Allows input.completion?) :
    Keeps (air.take input.completion?) (channel.act input) := by
  cases input with
  | connect credentials => exact keeps_connect tracks credentials
  | close cause => exact keeps_close tracks cause
  | send message => exact keeps_send tracks message
  | radioEvent event => exact keeps_absorb (Link.keeps_radioEvent tracks event)
  | confirm result =>
    cases result with
    | ok written => exact keeps_absorb (Link.keeps_confirm tracks)
    | error cause => exact allowed.elim
  | receive result => exact keeps_absorb (Link.keeps_receive tracks result)

theorem tracks_of_runs {handset : Handset}
    (runs : Air.Runs act Input.completion? (atRest handset defaultMtu) channel air) :
    channel.link.Tracks air ∧ Lawful defaultMtu channel := by
  induction runs with
  | start => exact ⟨.clear handset defaultMtu _, .atRest handset⟩
  | next input earlier allowed ih =>
    obtain ⟨tracks, lawful⟩ := ih
    exact ⟨(keeps_act tracks input allowed).tracks, lawful_of_transition lawful (act_transition lawful input)⟩

/-- A session is established by the completion that is credited to the last handshake message. -/
theorem completes_of_established (lawful : Lawful defaultMtu channel) {input : Input}
    {change : SessionChange} {sorcId : Uuid} (published : Publishes (channel.act input) change)
    (established : change.reason = .established sorcId) :
    input = .confirm (.ok ()) ∧ ∃ message line, channel.inFlight = some message ∧
      message.id = .challengePhoneResponse ∧
      channel.link.line.confirm = (.complete message.toBytes, line) := by
  obtain ⟨handset, line, next, credentials, handshake, key, inFlight, data, rfl, rfl, confirmed, _⟩ :=
    (act_transition lawful input).established published established
  obtain ⟨_, _, _, underway, pending⟩ := lawful_proving_iff.mp lawful
  obtain ⟨package, sending, rfl, _⟩ := Line.confirm_eq_complete confirmed
  obtain ⟨_, message, flying, carried⟩ := underway package sending
  obtain ⟨_, response, same, kind⟩ := pending key rfl
  cases flying.symm.trans same
  exact ⟨rfl, message, next, flying, kind, carried ▸ confirmed⟩

/-- How a call over a faithful radio answers for the completions of writes. -/
structure Accounts (channel : Channel) (air : Air) (input : Input) : Prop where
  bounded : (air.take input.completion?).Throughout Air.Bounded (channel.act input).effects
  owed : air.Owes channel.link.line
  established : ∀ change sorcId, Publishes (channel.act input) change →
    change.reason = .established sorcId → input = .confirm (.ok ()) ∧ (air.overtaken = false →
      ∃ message, channel.inFlight = some message ∧ message.id = .challengePhoneResponse ∧
        air.Finishes channel.link.line.mtu message.toBytes)
  establishedEarly : air.overtaken = true → ∀ change sorcId, Publishes (channel.act input) change →
    change.reason = .established sorcId → ∃ message, channel.inFlight = some message ∧
      message.id = .challengePhoneResponse ∧ air.Anticipates channel.link.line.mtu message.toBytes

theorem accounts (tracks : channel.link.Tracks air) (lawful : Lawful defaultMtu channel) {input : Input}
    (allowed : air.Allows input.completion?) : Accounts channel air input where
  bounded := (keeps_act tracks input allowed).bounded
  owed := tracks.owes
  established change sorcId published established := by
    obtain ⟨completion, message, line, flying, kind, confirmed⟩ :=
      completes_of_established lawful published established
    exact ⟨completion, fun orderly => ⟨message, flying, kind, tracks.finishes confirmed orderly⟩⟩
  establishedEarly overtaken change sorcId published established := by
    obtain ⟨_, message, line, flying, kind, confirmed⟩ :=
      completes_of_established lawful published established
    exact ⟨message, flying, kind, tracks.anticipates confirmed overtaken⟩

end PhoneKey.Channel

namespace PhoneKey

/-- Over a faithful radio at most one write is uncompleted at any moment of any run of a link, or two from
the moment the peer's limit overtakes a completion until nothing is uncompleted. Outside of that, messages
are reported as sent, and sessions are established, by the completion of the last frame of the message, and
within it by the completion of the write before that frame. -/
theorem accounts_of_runs (handset : Handset) (defaultMtu : Nat) :
    (∀ link air input, Air.Runs Link.act Link.Input.completion? (.new handset defaultMtu) link air →
      air.Allows input.completion? → Link.Accounts link air input) ∧
    (∀ channel air input,
      Air.Runs Channel.act Channel.Input.completion? (.atRest handset defaultMtu) channel air →
      air.Allows input.completion? → Channel.Accounts channel air input) := by
  constructor
  · intro link air input runs allowed
    exact Link.accounts (Link.tracks_of_runs runs) allowed
  · intro channel air input runs allowed
    obtain ⟨tracks, lawful⟩ := Channel.tracks_of_runs runs
    exact Channel.accounts tracks lawful allowed

/-- A radio that accepts every write. -/
def acceptingHandset : Handset := ⟨fun _ => true, ⟨fun _ => .zero⟩⟩

/-- The peer's limit arrives after the completion of the request for it. -/
theorem accounts_settled : ∃ channel air,
    Air.Runs Channel.act Channel.Input.completion? (.atRest acceptingHandset 20) channel air ∧
      air.Allows (some (.ok ())) ∧ air.overtaken = false ∧ channel.isChallenging = true ∧
      Channel.Accounts channel air (.confirm (.ok ())) := by
  have runs : ∃ channel air,
      Air.Runs Channel.act Channel.Input.completion? (.atRest acceptingHandset 20) channel air ∧
      air.Allows (some (.ok ())) ∧ air.overtaken = false ∧ channel.isChallenging = true := by
    refine ⟨_, _, .next (Channel.Input.receive (.ok [0x30, 0, 2, 0, 7, 200]))
      (.next (Channel.Input.confirm (.ok ())) (.next (Channel.Input.radioEvent (.connected ⟨.zero⟩))
        (.next (Channel.Input.connect Channel.zeroCredentials) .start trivial) trivial) ?_) trivial, ?_, ?_, ?_⟩
    all_goals decide +kernel
  obtain ⟨channel, air, runs, allowed, orderly, proving⟩ := runs
  exact ⟨channel, air, runs, allowed, orderly, proving,
    (accounts_of_runs acceptingHandset 20).2 channel air _ runs allowed⟩

/-- The peer's limit arrives ahead of the completion of the request for it. A message is then sent, and the
completion of the request is taken for that of the message. -/
theorem sent_by_stale_completion : ∃ link air,
    Air.Runs Link.act Link.Input.completion? (.new acceptingHandset 20) link air ∧
      air.waiting = [[0x30, 0, 1, 0, 6], [0x30, 0, 1, 0, 12]] ∧
      (link.act (.confirm (.ok ()))).reports = [.dataSent (.ok [12])] := by
  refine ⟨_, _, .next (Link.Input.send [12]) (.next (Link.Input.receive (.ok [0x30, 0, 2, 0, 7, 200]))
    (.next (Link.Input.radioEvent (.connected ⟨.zero⟩))
      (.next (Link.Input.connect ⟨.zero⟩) .start trivial) trivial) trivial) trivial, ?_, ?_⟩
  · decide +kernel
  · exact Link.reports_of_complete (by decide +kernel) (by decide +kernel)

end PhoneKey
