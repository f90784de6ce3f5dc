import PhoneKey.Proofs.Air

/-! # Completions and a link

Every call of a link over a faithful radio keeps the writes on the air within their bounds. A message is
reported as sent by a completion only. It is that of the message's last frame, or of the write before it
while the completion of the request for the peer's limit is overtaken.
-/

namespace PhoneKey.Link

/-- A command from above or a report of the radio. -/
inductive Input where
  | connect (sorcId : Uuid)
  | close (cause : EndCause)
  | send (message : Bytes)
  | radioEvent (event : RadioEvent)
  | confirm (result : Except LinkError Unit)
  | receive (result : Except LinkError Bytes)

def act (link : Link) : Input → Turn Link LinkReport
  | .connect sorcId => link.connect sorcId
  | .close cause => link.close cause
  | .send message => link.send message
  | .radioEvent event => link.radioEvent event
  | .confirm result => link.confirm result
  | .receive result => link.receive result

/-- What an input says about the frame that was written last. -/
def Input.completion? : Input → Option (Except LinkError Unit)
  | .confirm result => some result
  | _ => none

variable {link : Link} {air : Air}

theorem exists_engaged {state : LinkState} (alive : state.isDisconnected = false) :
    ∃ sorcId, state.sorcId? = some sorcId := by
  cases state with
  | disconnected => cases alive
  | connecting sorcId stage => exact ⟨sorcId, rfl⟩
  | connected sorcId => exact ⟨sorcId, rfl⟩

theorem keeps_close (tracks : link.Tracks air) (cause : EndCause) :
    Keeps air (link.close cause).effects (link.close cause).state := by
  cases alive : link.state.isDisconnected with
  | true =>
    simp only [close, alive, if_true]
    exact .silent tracks
  | false =>
    obtain ⟨sorcId, engaged⟩ := exists_engaged alive
    rw [close_of_engaged engaged]
    have hangsUp : Keeps air [.radio .disconnect] link :=
      .of_neutral tracks (by simp [Air.Neutral, Air.note])
    exact hangsUp.andThen (.finish tracks.bounded _ _ _)

private theorem keeps_finish (tracks : link.Tracks air) (cause : EndCause) :
    Keeps air (link.finish cause).effects (link.finish cause).state := by
  cases engaged : link.state.sorcId? with
  | none =>
    simp only [finish, engaged]
    exact .silent tracks
  | some sorcId =>
    rw [finish_of_engaged engaged]
    exact .finish tracks.bounded _ _ _

theorem keeps_connect (tracks : link.Tracks air) (sorcId : Uuid) :
    Keeps air (link.connect sorcId).effects (link.connect sorcId).state := by
  rw [connect]
  split
  · next rest =>
    refine .of_neutral (tracks.of_same rfl rfl ?_) (by simp [publish, Turn.andThen, Air.Neutral, Air.note])
    intro connected
    cases state : link.state with
    | disconnected => rw [state] at connected; cases connected
    | connecting other stage => rw [state] at rest; cases rest
    | connected other => rw [state] at rest; cases rest
  · split
    · exact .of_neutral tracks (by simp [Air.Neutral, Air.note])
    · exact .silent tracks

theorem keeps_offer (tracks : link.Tracks air) (message : Bytes) :
    Keeps air (link.offer message).effects (link.offer message).link := by
  rw [offer]
  split
  · exact .start tracks message
  · exact .silent tracks

private theorem keeps_send (tracks : link.Tracks air) (message : Bytes) :
    Keeps air (link.send message).effects (link.send message).state := by
  rw [send]
  split <;> exact keeps_offer tracks message

/-- The radio has reached the peer, which is asked for its limit. -/
theorem keeps_askMtu (tracks : link.Tracks air) : Keeps air link.askMtu.effects link.askMtu.state := by
  have asks := Keeps.start tracks (Message.empty .mtuRequest).toBytes
  rw [askMtu]
  split
  · exact asks
  · exact asks.andThen (keeps_close asks.tracks _)

private theorem keeps_reached (tracks : link.Tracks air) (sorcId : Uuid) :
    Keeps air (link.radioEvent (.connected sorcId)).effects (link.radioEvent (.connected sorcId)).state := by
  by_cases dialling : link.state = .connecting sorcId .physical
  · obtain ⟨handset, line, _⟩ := link
    cases dialling
    rw [radioEvent_of_reached]
    have entered : Keeps air [.announce (.link ⟨.connecting sorcId .requestingMtu,
        .entered sorcId .requestingMtu⟩)] ⟨handset, line, .connecting sorcId .requestingMtu⟩ :=
      .of_neutral (tracks.of_same rfl rfl nofun) (by simp [Air.Neutral, Air.note])
    exact entered.andThen (keeps_askMtu entered.tracks)
  · rw [radioEvent_of_stale dialling]
    exact .silent tracks

theorem keeps_radioEvent (tracks : link.Tracks air) (event : RadioEvent) :
    Keeps air (link.radioEvent event).effects (link.radioEvent event).state := by
  by_cases reached : ∃ sorcId, event = .connected sorcId
  · obtain ⟨sorcId, rfl⟩ := reached
    exact keeps_reached tracks sorcId
  · rcases radioEvent_of_gone link fun sorcId same => reached ⟨sorcId, same⟩ with same | ⟨cause, same⟩
    · rw [same]
      exact .silent tracks
    · rw [same]
      exact keeps_finish tracks cause

private theorem keeps_sendFailed (tracks : link.Tracks air) (cause : LinkError) :
    Keeps air (link.sendFailed cause).effects (link.sendFailed cause).state := by
  rw [sendFailed]
  split
  · exact keeps_close tracks _
  · exact .silent tracks

/-- A completion is credited to the package under way, if there is one. -/
theorem keeps_confirm (tracks : link.Tracks air) :
    Keeps air.complete (link.confirm (.ok ())).effects (link.confirm (.ok ())).state := by
  have outcome := confirmed link (.ok ())
  generalize link.confirm (.ok ()) = turn at outcome ⊢
  cases outcome with
  | idle result vacant => exact .silent (tracks.completeIdle vacant)
  | proceeds confirmed =>
    obtain ⟨package, _, sending, _⟩ := Line.confirm_eq_next confirmed
    have between := (tracks.completeDropped sending link.handset).bounded
    exact .single between (tracks.completeNext confirmed link.handset.answerWrite.2)
  | @unwritten frame line confirmed =>
    obtain ⟨package, _, sending, _⟩ := Line.confirm_eq_next confirmed
    have dropped := tracks.completeDropped sending link.handset.answerWrite.2
    have declines : Keeps air.complete [.radio (.write frame false)] _ :=
      .of_neutral dropped (by simp [Air.Neutral, Air.note])
    exact declines.andThen (keeps_sendFailed declines.tracks _)
  | completes confirmed =>
    have last := tracks.completeLast confirmed
    split <;> exact .silent last

theorem keeps_receive (tracks : link.Tracks air) (result : Except LinkError Bytes) :
    Keeps air (link.receive result).effects (link.receive result).state := by
  have outcome := received link result
  generalize link.receive result = turn at outcome ⊢
  cases outcome with
  | deaf result asleep unconnected => exact .silent tracks
  | collects listening received meaningless =>
    obtain ⟨receiving, rfl⟩ := Line.receive_frame received
    exact .silent (tracks.of_same rfl rfl id)
  | hears connected received =>
    obtain ⟨receiving, rfl⟩ := Line.receive_frame received
    exact .silent (tracks.of_same rfl rfl id)
  | mishears connected cause kept =>
    obtain ⟨receiving, rfl⟩ := kept
    exact .silent (tracks.of_same rfl rfl id)
  | settles asking received kind told limit =>
    exact .single tracks.bounded (tracks.settle (by rw [asking]; rfl) rfl rfl _)
  | failsMtu asking kept =>
    obtain ⟨receiving, rfl⟩ := kept
    have same : Tracks { link with line := { link.line with receiving } } air := tracks.of_same rfl rfl id
    exact keeps_close same (.protocol .invalidMtuResponse)

/-- Every call over a faithful radio keeps the writes on the air within their bounds. -/
theorem keeps_act (tracks : link.Tracks air) (input : Input) (allowed : air.Allows input.completion?) :
    Keeps (air.take input.completion?) (link.act input).effects (link.act input).state := by
  cases input with
  | connect sorcId => exact keeps_connect tracks sorcId
  | close cause => exact keeps_close tracks cause
  | send message => exact keeps_send tracks message
  | radioEvent event => exact keeps_radioEvent tracks event
  | confirm result =>
    cases result with
    | ok written => exact keeps_confirm tracks
    | error cause => exact allowed.elim
  | receive result => exact keeps_receive tracks result

theorem tracks_of_runs {handset : Handset} {defaultMtu : Nat}
    (runs : Air.Runs act Input.completion? (new handset defaultMtu) link air) : link.Tracks air := by
  induction runs with
  | start => exact .clear handset defaultMtu _
  | next input earlier allowed ih => exact (keeps_act ih input allowed).tracks

private theorem unsent_finish (link : Link) (cause : EndCause) (message : Bytes) :
    .dataSent (.ok message) ∉ (link.finish cause).reports := by
  rw [finish]
  split <;> simp [Turn.idle, publish]

private theorem unsent_close (link : Link) (cause : EndCause) (message : Bytes) :
    .dataSent (.ok message) ∉ (link.close cause).reports := by
  rw [close]
  split
  · simp [Turn.idle]
  · exact unsent_finish link cause message

private theorem unsent_askMtu (link : Link) (message : Bytes) :
    .dataSent (.ok message) ∉ link.askMtu.reports := by
  rw [askMtu]
  split
  · simp
  · exact unsent_close _ _ message

private theorem unsent_sendFailed (link : Link) (cause : LinkError) (message : Bytes) :
    .dataSent (.ok message) ∉ (link.sendFailed cause).reports := by
  rw [sendFailed]
  split
  · exact unsent_close link _ message
  · simp [Turn.report]

private theorem unsent_radioEvent (link : Link) (event : RadioEvent) (message : Bytes) :
    .dataSent (.ok message) ∉ (link.radioEvent event).reports := by
  simp only [radioEvent]
  split
  · split
    · split
      · intro reported
        rcases List.mem_append.mp reported with entered | asked
        · simp [publish] at entered
        · exact unsent_askMtu _ message asked
      · simp [Turn.idle]
    · exact unsent_finish link _ message
  · simp [Turn.idle]

private theorem unsent_receive (link : Link) (result : Except LinkError Bytes) (message : Bytes) :
    .dataSent (.ok message) ∉ (link.receive result).reports := by
  have outcome := received link result
  generalize link.receive result = turn at outcome ⊢
  cases outcome with
  | failsMtu asking kept => exact unsent_close _ _ message
  | _ => simp [Turn.idle, Turn.report, publish]

theorem reports_of_complete {message : Bytes} (confirmed : link.line.confirm.1 = .complete message)
    (settled : link.isSettling = false) :
    (link.act (.confirm (.ok ()))).reports = [.dataSent (.ok message)] := by
  rcases outcome : link.line.confirm with ⟨progress, line⟩
  rw [outcome] at confirmed
  subst confirmed
  simp [act, confirm, outcome, settled, Turn.report]

/-- That a message was sent is reported by the completion that is credited to its last frame. -/
theorem completes_of_sent {input : Input} {message : Bytes}
    (sent : .dataSent (.ok message) ∈ (link.act input).reports) :
    input = .confirm (.ok ()) ∧ ∃ line, link.line.confirm = (.complete message, line) := by
  cases input with
  | connect sorcId =>
    simp only [act, connect] at sent
    split at sent
    · simp [publish, Turn.andThen] at sent
    · split at sent <;> simp [Turn.idle] at sent
  | close cause => exact absurd sent (unsent_close link cause message)
  | send data =>
    simp only [act, send] at sent
    split at sent <;> simp at sent
  | radioEvent event => exact absurd sent (unsent_radioEvent link event message)
  | receive result => exact absurd sent (unsent_receive link result message)
  | confirm result =>
    have outcome := confirmed link result
    simp only [act] at sent
    generalize link.confirm result = turn at outcome sent
    cases outcome with
    | idle result vacant => simp [Turn.idle] at sent
    | proceeds confirmed => simp at sent
    | unwritten confirmed => exact absurd sent (unsent_sendFailed _ _ message)
    | completes confirmed =>
      refine ⟨rfl, ?_⟩
      split at sent
      · simp [Turn.idle] at sent
      · obtain rfl : message = _ := by simpa [Turn.report] using sent
        exact ⟨_, confirmed⟩
    | failed cause sending => exact absurd sent (unsent_sendFailed _ _ message)

/-- How a call over a faithful radio answers for the completions of writes. -/
structure Accounts (link : Link) (air : Air) (input : Input) : Prop where
  bounded : (air.take input.completion?).Throughout Air.Bounded (link.act input).effects
  owed : air.Owes link.line
  sent : ∀ message, .dataSent (.ok message) ∈ (link.act input).reports →
    input = .confirm (.ok ()) ∧ (air.overtaken = false → air.Finishes link.line.mtu message)
  sentEarly : air.overtaken = true → ∀ message, .dataSent (.ok message) ∈ (link.act input).reports →
    air.Anticipates link.line.mtu message

theorem accounts (tracks : link.Tracks air) {input : Input} (allowed : air.Allows input.completion?) :
    Accounts link air input where
  bounded := (keeps_act tracks input allowed).bounded
  owed := tracks.owes
  sent message reported := by
    obtain ⟨completion, line, confirmed⟩ := completes_of_sent reported
    exact ⟨completion, tracks.finishes confirmed⟩
  sentEarly overtaken message reported := by
    obtain ⟨_, line, confirmed⟩ := completes_of_sent reported
    exact tracks.anticipates confirmed overtaken

end PhoneKey.Link
