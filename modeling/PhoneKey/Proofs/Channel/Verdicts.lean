import PhoneKey.Proofs.Channel.Keying
import PhoneKey.Proofs.Session.Course

/-! # Why a handshake failed

A channel says of a handshake that failed either nothing, so that its traffic was lost, or what was
wrong with the peer's response. The layer above may hand it any other cause, which is said as well. The
remaining causes are those of places that are never reached.
-/

namespace PhoneKey

/-- The cause for which a handshake is said to have failed, if that is what is said. -/
def ConnectionReason.handshakeFailure? {Stage : Type} :
    ConnectionReason Stage → Option (Option HandshakeError)
  | .connectingFailed _ (.handshakeFailed cause) => some cause
  | _ => none

def EndCause.handshakeFailure? : EndCause → Option (Option HandshakeError)
  | .protocol (.handshakeFailed cause) => some cause
  | _ => none

theorem EndCause.handshakeFailure?_eq_some_iff {cause : EndCause} {failure : Option HandshakeError} :
    cause.handshakeFailure? = some failure ↔ cause = .protocol (.handshakeFailed failure) := by
  unfold handshakeFailure?
  split <;> simp_all

private theorem EndCause.handshakeFailure?_reason (cause : EndCause) (sorcId : Uuid) :
    (cause.reason sorcId : SessionReason).handshakeFailure? = cause.handshakeFailure? := by
  cases cause with
  | userRequested => rfl
  | radio failure => cases failure <;> rfl
  | protocol failure => cases failure <;> rfl

/-- The causes for which handshakes are said to have failed. -/
def handshakeFailures (changes : List SessionChange) : List (Option HandshakeError) :=
  changes.filterMap fun change => change.reason.handshakeFailure?

/-- The causes that a channel finds by itself: what can be wrong with a response, or none at all. -/
def IsGenuine (cause : Option HandshakeError) : Prop :=
  cause = none ∨ cause = some .responseDoNotMatch ∨ cause = some .responseIsCorrupt

namespace Channel

variable {defaultMtu : Nat} {channel : Channel} {input : Input} {turn : Turn Channel ChannelReport}

/-- What gives a call grounds to name a cause: the layer above did, or a response arrives in the
handshake and this is wrong with it. -/
inductive Warrants (channel : Channel) : Input → HandshakeError → Prop
  | handed (cause : HandshakeError) (engaged : channel.state.isDisconnected = false) :
      Warrants channel (.close (.protocol (.handshakeFailed (some cause)))) cause
  | objects {handshake : Handshake} {raw data : Bytes} {line : Line} {cause : HandshakeError}
      (challenging : channel.isChallenging = true) (begun : channel.handshake = some handshake)
      (received : channel.link.line.receive raw = (.ok (some data), line))
      (objects : handshake.Objects (.ofBytes data) cause) :
      Warrants channel (.receive (.ok raw)) cause

private theorem Warrants.unique {first second : HandshakeError} (one : Warrants channel input first)
    (other : Warrants channel input second) : first = second := by
  cases one with
  | handed _ engaged =>
    cases other
    rfl
  | objects challenging begun received objects =>
    cases other with
    | objects challenging' begun' received' objects' =>
      cases begun.symm.trans begun'
      cases received.symm.trans received'
      rcases objects.answer with ⟨one, rfl⟩ | ⟨one, rfl⟩ <;>
        rcases objects'.answer with ⟨other, rfl⟩ | ⟨other, rfl⟩
      · rfl
      · cases one.symm.trans other
      · cases one.symm.trans other
      · rfl

/-- The causes for which a turn reports that the handshake failed. -/
def reportedFailures (turn : Turn Channel ChannelReport) : List (Option HandshakeError) :=
  handshakeFailures (reportedChanges turn.reports)

/-- A turn blames nobody: if the handshake fails then its traffic was lost. -/
def Spares (turn : Turn Channel ChannelReport) : Prop :=
  reportedFailures turn = [] ∨ reportedFailures turn = [none]

/-- A turn blames for what there are grounds for. -/
inductive Verdict (grounds : HandshakeError → Prop) (turn : Turn Channel ChannelReport) : Prop
  | spares (fair : ∀ cause, ¬ grounds cause) (spares : Spares turn) : Verdict grounds turn
  | blames {cause : HandshakeError} (grounded : grounds cause)
      (told : reportedFailures turn = [some cause]) : Verdict grounds turn

@[simp] theorem reportedFailures_after (turn : Turn Channel ChannelReport) (effects : List Effect) :
    reportedFailures (turn.after effects) = reportedFailures turn := rfl

private theorem reportedFailures_ended (handset : Handset) (sorcId : Uuid) (cause : EndCause)
    (lower : List Effect) : reportedFailures (ended handset defaultMtu sorcId cause lower) =
      cause.handshakeFailure?.toList := by
  have said := cause.handshakeFailure?_reason sorcId
  simp only [reportedFailures, reportedChanges, handshakeFailures, ended, List.filterMap_cons,
    List.filterMap_nil, ChannelReport.change?, said]
  cases cause.handshakeFailure? <;> rfl

private theorem Grounds.spares {sorcId : Uuid} {cause : EndCause} {lower : List Effect}
    (grounds : Grounds channel input sorcId cause lower) (idle : channel.isChallenging = false)
    (unasked : ∀ cause, input ≠ .close cause) (handset : Handset) :
    Spares (ended handset defaultMtu sorcId cause lower) := by
  rw [Spares, reportedFailures_ended]
  cases grounds with
  | asked cause engaged => exact absurd rfl (unasked cause)
  | handshake => cases idle
  | _ => exact .inl rfl

/-- While no handshake runs nobody is blamed, unless the layer above does. -/
theorem Transition.spares (transition : Transition defaultMtu channel input turn)
    (idle : channel.isChallenging = false) (unasked : ∀ cause, input ≠ .close cause) : Spares turn := by
  cases transition with
  | ends grounds => exact grounds.spares idle unasked _
  | breaksOff confirmed closed grounds =>
    rw [Spares, reportedFailures_after]
    exact grounds.spares idle unasked _
  | opensInVain received spoken refused => exact .inr rfl
  | givesUp received kind spoken => cases idle
  | _ => exact .inl rfl

/-- No message has failed to be sealed. -/
theorem Transition.ne_encryptionFailed (transition : Transition defaultMtu channel input turn) :
    ChannelReport.messageSent (.error .encryptionFailed) ∉ turn.reports := by
  cases transition <;> simp [Turn.idle, Turn.report, Turn.after, ended]

section Proving

variable {line : Line} {handshake : Handshake} {pendingKey : Option Block} {inFlight : Option Message}

private theorem spares_transmit (handset : Handset) (credentials : Credentials)
    (default : line.defaultMtu = defaultMtu) (message : Message) :
    Spares ((proving handset line credentials handshake pendingKey inFlight).transmit message) := by
  rcases transmit_proving default handset credentials handshake pendingKey inFlight rfl with
    ⟨taken, sent⟩ | ⟨refused, sent⟩
  · rw [sent]
    exact .inl rfl
  · rw [sent]
    exact .inr rfl

private theorem reportedFailures_close (handset : Handset) (credentials : Credentials)
    (default : line.defaultMtu = defaultMtu) (cause : EndCause) :
    reportedFailures ((proving handset line credentials handshake pendingKey inFlight).close cause) =
      cause.handshakeFailure?.toList := by
  rw [close_of_engaged (proving handset line credentials handshake pendingKey inFlight) rfl rfl default]
  exact reportedFailures_ended _ _ cause _

private theorem spares_pushBlob (handset : Handset) (credentials : Credentials)
    (default : line.defaultMtu = defaultMtu) :
    Spares (proving handset line credentials handshake pendingKey inFlight).pushBlob := by
  cases readable : Payload.blob credentials.blob.data with
  | error cause =>
    simp only [pushBlob, proving, readable]
    exact .inr (reportedFailures_close handset credentials default _)
  | ok payload =>
    simp only [pushBlob, proving, readable]
    exact spares_transmit handset credentials default _

/-- A message of the peer is blamed for what is wrong with it. -/
theorem verdict_handshakeMessage (handset : Handset) (credentials : Credentials)
    (default : line.defaultMtu = defaultMtu) (message : Message) :
    Verdict (handshake.Objects message)
      ((proving handset line credentials handshake pendingKey inFlight).handshakeMessage message) := by
  have other (kind : message.id ≠ .challengeSorcResponse) (cause : HandshakeError) :
      ¬ handshake.Objects message cause := fun objects => kind objects.kind
  obtain ⟨id, payload⟩ := message
  cases id with
  | challengeSorcResponse =>
    have answers : (proving handset line credentials handshake pendingKey inFlight).handshakeMessage
        ⟨.challengeSorcResponse, payload⟩ =
          (proving handset line credentials handshake pendingKey inFlight).follow
            (handshake.answer payload) := rfl
    have outcome := handshake.judged payload
    rw [answers]
    generalize handshake.answer payload = step at outcome ⊢
    cases outcome with
    | unreadable objects =>
      exact .blames objects (reportedFailures_close handset credentials default _)
    | rejects objects =>
      refine .blames objects ?_
      rw [follow_rejected default handset credentials handshake pendingKey inFlight _ rfl,
        reportedFailures_after, reportedFailures_ended]
      rfl
    | accepts response key fair => exact .spares fair (spares_transmit handset credentials default response)
  | badChallengeSorcResponse =>
    refine .spares (other (by simp)) ?_
    have needs : (proving handset line credentials handshake pendingKey inFlight).handshakeMessage
        ⟨.badChallengeSorcResponse, payload⟩ =
          (proving handset line credentials handshake pendingKey inFlight).blobNeeded
            (Payload.rejectedCounter? payload) := rfl
    rw [needs, blobNeeded]
    split
    · exact .inl (reportedFailures_close handset credentials default _)
    · exact spares_pushBlob handset credentials default
  | ltAck => exact .spares (other (by simp)) (spares_transmit _ credentials default _)
  | ltBlobRequest =>
    refine .spares (other (by simp)) ?_
    simp only [handshakeMessage]
    split
    · exact spares_pushBlob handset credentials default
    · exact .inl rfl
  | _ => exact .spares (other (by simp)) (.inl rfl)

private theorem spares_connect (handset : Handset) (credentials other : Credentials) :
    Spares ((proving handset line credentials handshake pendingKey inFlight).connect other) := by
  have busy : admits (proving handset line credentials handshake pendingKey inFlight).state
      other.token.sorcId = false := by
    simp [admits, proving, ConnectionState.isDisconnected, ConnectionState.isAt]
  rw [connect, busy]
  exact .inl rfl

private theorem spares_radioEvent (lawful : Lawful defaultMtu channel) (event : RadioEvent)
    (reached : channel.link.state.isConnected = true) : Spares (channel.radioEvent event) := by
  have idle (lower : channel.link.radioEvent event = .idle channel.link) :
      Spares (channel.radioEvent event) := by
    rw [radioEvent, lower]
    exact .inl rfl
  have lost (gone : ∀ sorcId, event ≠ .connected sorcId) : Spares (channel.radioEvent event) := by
    by_cases served : channel.link.state.sorcId? = some event.sorcId
    · rw [radioEvent_of_lost lawful gone served rfl, Spares, reportedFailures_ended]
      exact .inl rfl
    · exact idle (if_neg served)
  cases event with
  | connected sorcId =>
    refine idle (Link.radioEvent_of_stale fun stale => ?_)
    rw [stale] at reached
    cases reached
  | connectingFailed sorcId => exact lost (by simp)
  | disconnected sorcId => exact lost (by simp)
  | connectionLost sorcId => exact lost (by simp)

private theorem spares_confirm (handset : Handset) (credentials : Credentials)
    (default : line.defaultMtu = defaultMtu) (result : Except LinkError Unit) :
    Spares ((proving handset line credentials handshake pendingKey inFlight).confirm result) := by
  have outcome :=
    Link.confirmed (proving handset line credentials handshake pendingKey inFlight).link result
  rw [confirm]
  generalize (proving handset line credentials handshake pendingKey inFlight).link.confirm result = lower
    at outcome ⊢
  cases outcome with
  | idle => exact .inl rfl
  | proceeds confirmed =>
    rw [absorb_silent]
    exact .inl rfl
  | unwritten confirmed =>
    rw [Link.sendFailed_of_not_settling rfl, Turn.after_report, absorb_report, linkReported,
      dataSent_of_challenging rfl rfl default]
    exact .inr rfl
  | completes confirmed =>
    cases pendingKey with
    | none => exact .inl rfl
    | some key => exact .inl rfl
  | failed cause sending =>
    rw [Link.sendFailed_of_not_settling rfl, Turn.report, absorb_report, linkReported,
      dataSent_of_challenging rfl rfl default]
    exact .inr rfl

/-- What arrives during the handshake is blamed for what is wrong with it. -/
theorem verdict_receive (handset : Handset) (credentials : Credentials)
    (default : line.defaultMtu = defaultMtu) (result : Except LinkError Bytes) :
    Verdict (Warrants (proving handset line credentials handshake pendingKey inFlight) (.receive result))
      ((proving handset line credentials handshake pendingKey inFlight).receive result) := by
  have listening : (proving handset line credentials handshake pendingKey inFlight).link =
    ⟨handset, line, .connected credentials.token.sorcId⟩ := rfl
  have unheard (cause : LinkError) (next : Line) (same : next.defaultMtu = defaultMtu) :
      Spares ((proving handset line credentials handshake pendingKey inFlight).absorb
        (.report ⟨handset, next, .connected credentials.token.sorcId⟩ (.dataReceived (.error cause)))) := by
    rw [Turn.report, absorb_report]
    exact .inr (reportedFailures_close handset credentials same _)
  cases result with
  | error cause =>
    refine .spares ?_ (unheard cause line.dropReceiving default)
    rintro _ ⟨⟩
  | ok raw =>
    rcases received : line.receive raw with ⟨message, next⟩
    have same : next.defaultMtu = defaultMtu := by
      obtain ⟨receiving, rfl⟩ := Line.receive_frame received
      exact default
    rw [receive, listening]
    rcases message with cause | _ | data
    · simp only [Link.receive, received]
      refine .spares ?_ (unheard cause next same)
      rintro _ (_ | ⟨_, _, other, _⟩)
      cases received.symm.trans other
    · simp only [Link.receive, received]
      refine .spares ?_ (.inl rfl)
      rintro _ (_ | ⟨_, _, other, _⟩)
      cases received.symm.trans other
    · simp only [Link.receive, received]
      rw [Turn.report, absorb_report, Turn.after_nil]
      rcases verdict_handshakeMessage handset credentials same (.ofBytes data) with
        ⟨fair, spares⟩ | ⟨grounded, told⟩
      · refine .spares ?_ spares
        rintro cause (_ | ⟨_, begun, other, objects⟩)
        cases begun
        cases received.symm.trans other
        exact fair cause objects
      · exact .blames (.objects rfl rfl received grounded) told

end Proving

/-- A channel that is told to end for a cause names this cause. -/
theorem verdict_close (lawful : Lawful defaultMtu channel) (cause : EndCause) :
    Verdict (Warrants channel (.close cause)) (channel.close cause) := by
  cases peer : channel.state.sorcId? with
  | none =>
    have rests : channel.state.isDisconnected = true := by
      cases state : channel.state <;> simp_all [ConnectionState.sorcId?, ConnectionState.isDisconnected]
    rw [close, if_pos rests]
    refine .spares ?_ (.inl rfl)
    rintro _ ⟨_, engaged⟩
    cases rests.symm.trans engaged
  | some sorcId =>
    obtain ⟨linked, default⟩ := lawful.engaged peer
    have told : reportedFailures (channel.close cause) = cause.handshakeFailure?.toList := by
      rw [close_of_engaged channel peer linked default, reportedFailures_ended]
    cases named : cause.handshakeFailure? with
    | none =>
      refine .spares ?_ (.inl (by rw [told, named]; rfl))
      rintro detail ⟨⟩
      cases named
    | some failure =>
      cases EndCause.handshakeFailure?_eq_some_iff.mp named
      cases failure with
      | none =>
        refine .spares ?_ (.inr told)
        rintro detail ⟨⟩
      | some detail => exact .blames (.handed detail (Link.isDisconnected_of_engaged peer)) told

/-- Whatever a lawful channel is given, it blames for what there are grounds for. -/
theorem Lawful.verdict (lawful : Lawful defaultMtu channel) (input : Input) :
    Verdict (Warrants channel input) (channel.act input) := by
  by_cases asked : ∃ cause, input = .close cause
  · obtain ⟨cause, rfl⟩ := asked
    exact verdict_close lawful cause
  have unasked (cause : EndCause) : input ≠ .close cause := fun same => asked ⟨cause, same⟩
  cases running : channel.isChallenging with
  | false =>
    refine .spares ?_ ((act_transition lawful input).spares running unasked)
    rintro cause (_ | ⟨challenging, _, _, _⟩)
    · exact unasked _ rfl
    · cases running.symm.trans challenging
  | true =>
    cases lawful with
    | @proving line handshake pendingKey inFlight handset credentials default limit begun underway pending =>
      cases input with
      | close cause => exact absurd rfl (unasked cause)
      | receive result => exact verdict_receive handset credentials default result
      | confirm result => exact .spares (by rintro _ ⟨⟩) (spares_confirm handset credentials default result)
      | radioEvent event =>
        exact .spares (by rintro _ ⟨⟩) (spares_radioEvent
          (.proving handset credentials default limit begun underway pending) event rfl)
      | send message => exact .spares (by rintro _ ⟨⟩) (.inl rfl)
      | connect other => exact .spares (by rintro _ ⟨⟩) (spares_connect handset credentials other)
    | _ => cases running

/-- How a call says that the handshake failed. -/
structure Justified (before : Channel) (input : Input) : Prop where
  once : (handshakeFailures (channelChanges (before.act input).effects)).length ≤ 1
  /-- A cause is published if there are grounds for it, and only then. -/
  warranted : ∀ cause, some cause ∈ handshakeFailures (channelChanges (before.act input).effects) ↔
    Warrants before input cause
  sealable : ChannelReport.messageSent (.error .encryptionFailed) ∉ (before.act input).reports
  /-- The places that would name another cause are never reached: whatever they did, the call is the same. -/
  unfailing : ∀ blame, before.actOr blame input = before.act input

private theorem Lawful.justified (lawful : Lawful defaultMtu channel) (input : Input) :
    Justified channel input := by
  have published : handshakeFailures (channelChanges (channel.act input).effects) =
      reportedFailures (channel.act input) :=
    congrArg handshakeFailures (act_transition lawful input).publishes
  refine
    { once := ?_, warranted := ?_
      sealable := (act_transition lawful input).ne_encryptionFailed
      unfailing := fun _ => lawful.actOr_eq input }
  · rw [published]
    rcases lawful.verdict input with ⟨_, quiet | lost⟩ | ⟨_, told⟩
    · simp [quiet]
    · simp [lost]
    · simp [told]
  · intro cause
    rw [published]
    rcases lawful.verdict input with ⟨fair, quiet | lost⟩ | ⟨grounded, told⟩
    · simp [quiet, fair cause]
    · simp [lost, fair cause]
    · rw [told, List.mem_singleton, Option.some.injEq]
      constructor
      · rintro rfl
        exact grounded
      · exact fun other => other.unique grounded

/-- A channel to which no cause is handed names none but those that it finds. -/
theorem Lawful.genuine (lawful : Lawful defaultMtu channel)
    (unhanded : ∀ detail, input ≠ .close (.protocol (.handshakeFailed (some detail))))
    {cause : Option HandshakeError} (told : cause ∈ reportedFailures (channel.act input)) :
    IsGenuine cause := by
  rcases lawful.verdict input with ⟨_, quiet | lost⟩ | ⟨grounded, blamed⟩
  · rw [quiet] at told
    cases told
  · rw [lost] at told
    exact .inl (List.mem_singleton.mp told)
  · rw [blamed] at told
    cases List.mem_singleton.mp told
    cases grounded with
    | handed _ engaged => exact absurd rfl (unhanded _)
    | objects challenging begun received objects =>
      rcases objects.answer with ⟨_, rfl⟩ | ⟨_, rfl⟩
      · exact .inr (.inr rfl)
      · exact .inr (.inl rfl)

/-- In every run the handshake fails for a cause that was handed down, for what is wrong with the peer's
response, or without a cause. -/
theorem justified_of_mem_history {handset : Handset} {inputs : List Input} {call : Call Channel Input}
    (made : call ∈ (atRest handset defaultMtu).history inputs) : Justified call.before call.input := by
  obtain ⟨earlier, later, -, found⟩ := Turn.before_of_mem_calls act made
  rw [found]
  exact (lawful_of_run handset defaultMtu earlier).justified call.input

/-- The layer above may name a cause that the channel itself never finds. -/
theorem not_genuine_when_handed :
    ¬ ∀ handset defaultMtu inputs, ∀ cause ∈
        handshakeFailures (channelChanges ((atRest handset defaultMtu).run inputs).effects),
      IsGenuine cause := by
  intro genuine
  have named : some HandshakeError.noChallengeMessage ∈ handshakeFailures (channelChanges
      ((atRest (zeroHandset 0) 20).run [.connect zeroCredentials,
        .close (.protocol (.handshakeFailed (some .noChallengeMessage)))]).effects) := by decide +kernel
  rcases genuine _ _ _ _ named with same | same | same <;> cases same

end Channel

end PhoneKey
