import PhoneKey.Proofs.Channel.Reachable
import PhoneKey.Proofs.Handshake.Objections

/-! # Keys that always fit

A cipher is made from bytes, and the bytes may be too few or too many for a key. Whoever makes one or
counts on what was made before has to say what becomes of the connection if there is nothing. The
channel says it only for credentials, for the handshake and for the messages that a handshake knows. Here
all of these places are put back into a channel, with any answer whatever, and it turns out that the
answer is never asked for: a token is only made with a key text that stands for one block, a session key
is a block, and credentials and handshake are there when they are called for.
-/

namespace PhoneKey

@[simp] theorem Aes.Cipher.ofBytes_toList (key : Block) : ofBytes key.toList = .ok (.ofKey key) := rfl

/-- The cipher of a handshake, made from the key text of its token. -/
def LeaseToken.keyedCipher (token : LeaseToken) : Except HandshakeError Aes.Cipher :=
  match AccessKey.block token.accessKey with
  | .error _ => .error .cipherNotInitialised
  | .ok key =>
    match Aes.Cipher.ofBytes key.toList with
    | .error _ => .error .cipherNotInitialised
    | .ok cipher => .ok cipher

/-- The key text of a token always makes the cipher that its handshakes use. -/
theorem LeaseToken.keyedCipher_eq (token : LeaseToken) (nonce : Block) :
    token.keyedCipher = .ok (Handshake.new token nonce).cipher := by
  simp only [keyedCipher, token.key_eq, Aes.Cipher.ofBytes_toList]
  rfl

namespace SealingContext

/-- A new conversation, for which a cipher has to be made. -/
def keyed (key : Block) (outgoing : Direction) : Except CipherError SealingContext :=
  match Aes.Cipher.ofBytes key.toList with
  | .error cause => .error cause
  | .ok _ => .ok (.new key outgoing)

@[simp] theorem keyed_eq (key : Block) (outgoing : Direction) :
    keyed key outgoing = .ok (.new key outgoing) := rfl

/-- The envelope of a message, whose authentication code needs a cipher of its own. -/
def encryptKeyed (context : SealingContext) (message : Bytes) :
    Except CipherError (Bytes × SealingContext) :=
  let blocks := (Block.split (Envelope.plaintext context.outgoing message)).1
  let chain := Envelope.encryptChain context.cipher context.sealStart blocks
  let ciphertext := Block.join chain
  match Aes.Cipher.ofBytes context.key.toList with
  | .error cause => .error cause
  | .ok cipher =>
    .ok (ciphertext ++ Envelope.mac cipher context.sealStart ciphertext,
      { context with sealStart := Envelope.chainEnd context.sealStart chain })

@[simp] theorem encryptKeyed_eq (context : SealingContext) (message : Bytes) :
    context.encryptKeyed message = .ok (context.encrypt message) := rfl

end SealingContext

namespace Protection

/-- The bytes that are sent for a message, if it can be sealed. -/
def protectKeyed (protection : Protection) (message : Message) : Except CipherError (Bytes × Protection) :=
  match protection with
  | .clear => .ok (message.toBytes, .clear)
  | .sealed context =>
    match context.encryptKeyed message.toBytes with
    | .error cause => .error cause
    | .ok (data, next) => .ok (data, .sealed next)

@[simp] theorem protectKeyed_eq (protection : Protection) (message : Message) :
    protection.protectKeyed message = .ok (protection.protect message) := by
  cases protection with
  | clear => rfl
  | sealed context => simp [protectKeyed, protect]

end Protection

namespace LinkReport

/-- Whether a report neither brings a message nor tells that the connection is up. -/
def isPlain : LinkReport → Bool
  | .connectionChanged ⟨.connected _, _⟩ => false
  | .dataReceived (.ok _) => false
  | _ => true

end LinkReport

namespace Link

/-- Whether all that a link reports in a turn is plain. -/
def Plain (turn : Turn Link LinkReport) : Prop := ∀ report ∈ turn.reports, report.isPlain = true

private theorem plain_finish (link : Link) (cause : EndCause) : Plain (link.finish cause) := by
  unfold finish
  split <;> simp [Plain, Turn.idle, publish, LinkReport.isPlain]

private theorem plain_close (link : Link) (cause : EndCause) : Plain (link.close cause) := by
  unfold close
  split
  · simp [Plain, Turn.idle]
  · exact plain_finish link cause

private theorem plain_sendFailed (link : Link) (cause : LinkError) : Plain (link.sendFailed cause) := by
  unfold sendFailed
  split
  · exact plain_close link _
  · simp [Plain, Turn.report, LinkReport.isPlain]

private theorem plain_connect (link : Link) (sorcId : Uuid) : Plain (link.connect sorcId) := by
  unfold connect
  split
  · simp [Plain, publish, Turn.andThen, LinkReport.isPlain]
  · split <;> simp [Plain, Turn.idle]

private theorem plain_askMtu (link : Link) : Plain link.askMtu := by
  simp only [askMtu]
  split
  · simp [Plain]
  · exact plain_close _ _

private theorem plain_radioEvent (link : Link) (event : RadioEvent) : Plain (link.radioEvent event) := by
  unfold radioEvent
  split
  · cases event with
    | connected sorcId =>
      simp only
      split
      · intro report listed
        rcases List.mem_append.mp listed with first | later
        · rw [List.mem_singleton.mp first]
          rfl
        · exact plain_askMtu _ report later
      · simp [Plain, Turn.idle]
    | _ => exact plain_finish link _
  · simp [Plain, Turn.idle]

private theorem plain_confirm (link : Link) (result : Except LinkError Unit) :
    Plain (link.confirm result) := by
  have outcome := confirmed link result
  generalize link.confirm result = lower at outcome ⊢
  cases outcome with
  | idle => simp [Plain, Turn.idle]
  | proceeds confirmed => simp [Plain]
  | unwritten confirmed => exact plain_sendFailed _ _
  | completes confirmed => split <;> simp [Plain, Turn.idle, Turn.report, LinkReport.isPlain]
  | failed cause sending => exact plain_sendFailed _ _

/-- What arrives brings about at most one report. -/
theorem reports_receive (link : Link) (result : Except LinkError Bytes) :
    Plain (link.receive result) ∨ ∃ report, (link.receive result).reports = [report] := by
  have outcome := received link result
  generalize link.receive result = lower at outcome ⊢
  cases outcome with
  | deaf result asleep unconnected => exact .inl (by simp [Plain, Turn.idle])
  | collects listening received meaningless => exact .inl (by simp [Plain, Turn.idle])
  | hears connected received => exact .inr ⟨_, rfl⟩
  | mishears connected cause kept => exact .inr ⟨_, rfl⟩
  | settles asking received kind told limit => exact .inr ⟨_, rfl⟩
  | failsMtu asking kept => exact .inl (plain_close _ _)

end Link

namespace Channel

section Places

variable (blame : Channel → Turn Channel ChannelReport) (channel : Channel)

/-- `Channel.transmit`, with what becomes of a channel that cannot seal the message. -/
def transmitOr (message : Message) : Turn Channel ChannelReport :=
  match channel.protection.protectKeyed message with
  | .error _ => blame channel
  | .ok (data, protection) =>
    let offered := channel.link.offer data
    let inFlight := match offered.refusal with
      | none => some message
      | some .sendingInProgress => channel.inFlight
      | some _ => none
    let next := { channel with link := offered.link, protection, inFlight }
    match offered.refusal with
    | none => ⟨next, [], offered.effects⟩
    | some cause => (next.sendFailed cause).after offered.effects

def sendOr (message : Message) : Turn Channel ChannelReport :=
  if channel.state.isConnected then channel.transmitOr blame message
  else .report channel (.messageSent (.error (.link .notConnected)))

def pushBlobOr : Turn Channel ChannelReport :=
  match channel.credentials with
  | none => channel.abortHandshake none
  | some credentials =>
    match Payload.blob credentials.blob.data with
    | .ok payload => channel.transmitOr blame ⟨.ltBlob, payload⟩
    | .error _ => channel.abortHandshake none

def blobNeededOr (latest : Option UInt32) : Turn Channel ChannelReport :=
  let ours := channel.heldCounter?.getD 0
  if latest.any (ours < ·) then channel.close (.protocol .blobOutdated) else channel.pushBlobOr blame

/-- `Channel.openHandshake`, with what becomes of a channel without credentials or without a cipher. -/
def openHandshakeOr (sorcId : Uuid) : Turn Channel ChannelReport :=
  match channel.credentials with
  | none => blame channel
  | some credentials =>
    let (nonce, handset) := channel.link.handset.drawNonce
    let ready := { channel with link := { channel.link with handset } }
    match credentials.token.keyedCipher with
    | .error _ => blame ready
    | .ok _ =>
      let (opening, handshake) := (Handshake.new credentials.token nonce).start
      (ready.publish (.connecting sorcId .challenging) (.entered sorcId .challenging)).andThen
        fun next => transmitOr blame { next with handshake := some handshake } opening

/-- `Channel.follow`, with what becomes of a channel whose handshake does not know the message. -/
def followOr : Except HandshakeError Handshake.Step → Turn Channel ChannelReport
  | .ok (.send message) => channel.transmitOr blame message
  | .ok (.finished response sessionKey) =>
    transmitOr blame { channel with pendingKey := some sessionKey } response
  | .ok (.needsBlob latest) => channel.blobNeededOr blame latest
  | .ok (.rejected response cause) =>
    (transmitOr blame { channel with rejection := some cause } response).andThen
      (abortHandshake · (some cause))
  | .error .noChallengeMessage => blame channel
  | .error cause => channel.abortHandshake (some cause)

/-- `Channel.handshakeMessage`, with what becomes of a channel without a handshake. -/
def handshakeMessageOr (message : Message) : Turn Channel ChannelReport :=
  match message.id with
  | .challengeSorcResponse | .badChallengeSorcResponse | .ltAck =>
    match channel.handshake with
    | none => blame channel
    | some handshake =>
      let (step, next, nonces) := handshake.respond channel.link.handset.nonces message
      let handset := { channel.link.handset with nonces }
      followOr blame { channel with handshake := some next, link := { channel.link with handset } } step
  | .ltBlobRequest =>
    if channel.heldCounter?.any (Payload.blobRequestCounter message.payload < ·) then
      channel.pushBlobOr blame
    else .idle channel
  | _ => .idle channel

/-- `Channel.enableSealing`, with what becomes of a channel that cannot use its session key. -/
def enableSealingOr (key : Block) : Turn Channel ChannelReport :=
  match channel.state.sorcId? with
  | none => .idle channel
  | some sorcId =>
    match SealingContext.keyed key .toSorc with
    | .error _ => blame channel
    | .ok context =>
      publish { channel with protection := .sealed context, handshake := none }
        (.connected sorcId) (.established sorcId)

/-- `Channel.linkReported` for the reports that lead to one of these places, and for all others. -/
def linkReportedOr : LinkReport → Turn Channel ChannelReport
  | .connectionChanged ⟨.connected sorcId, _⟩ =>
    if channel.state.isAt sorcId .transport then channel.openHandshakeOr blame sorcId
    else .idle channel
  | .dataSent (.ok sent) =>
    match channel.state, channel.pendingKey with
    | .connecting _ .challenging, some key =>
      enableSealingOr blame { channel with inFlight := none, pendingKey := none } key
    | _, _ => channel.dataSent (.ok sent)
  | .dataReceived (.ok data) =>
    match channel.state with
    | .connecting _ .challenging => channel.handshakeMessageOr blame (.ofBytes data)
    | _ => channel.dataReceived (.ok data)
  | report => channel.linkReported report

def absorbOr (lower : Turn Link LinkReport) : Turn Channel ChannelReport :=
  (Turn.forEach (linkReportedOr blame) { channel with link := lower.state } lower.reports).after
    lower.effects

def connectOr (credentials : Credentials) : Turn Channel ChannelReport :=
  let sorcId := credentials.token.sorcId
  if admits channel.state sorcId then
    let ready := { channel with credentials := some credentials }
    let opened : Turn Channel ChannelReport :=
      if channel.state.isDisconnected then
        ready.publish (.connecting sorcId .physical) (.entered sorcId .physical)
      else .idle ready
    opened.andThen fun next => next.absorbOr blame (next.link.connect sorcId)
  else .idle channel

/-- `Channel.act`, with what becomes of a channel wherever a cipher, credentials, a handshake or a message
that the handshake knows is missing. -/
def actOr : Input → Turn Channel ChannelReport
  | .connect credentials => channel.connectOr blame credentials
  | .close cause => channel.close cause
  | .send message => channel.sendOr blame message
  | .radioEvent event => channel.absorbOr blame (channel.link.radioEvent event)
  | .confirm result => channel.absorbOr blame (channel.link.confirm result)
  | .receive result => channel.absorbOr blame (channel.link.receive result)

end Places

variable {blame : Channel → Turn Channel ChannelReport} {channel : Channel}

/-- Every message can be sealed. -/
@[simp] theorem transmitOr_eq (channel : Channel) (message : Message) :
    channel.transmitOr blame message = channel.transmit message := by
  rw [transmitOr, Protection.protectKeyed_eq]
  rfl

@[simp] theorem pushBlobOr_eq (channel : Channel) : channel.pushBlobOr blame = channel.pushBlob := by
  unfold pushBlobOr pushBlob
  cases channel.credentials with
  | none => rfl
  | some credentials =>
    cases readable : Payload.blob credentials.blob.data with
    | error cause => simp only [readable]
    | ok payload => simp only [readable, transmitOr_eq]

@[simp] theorem blobNeededOr_eq (channel : Channel) (latest : Option UInt32) :
    channel.blobNeededOr blame latest = channel.blobNeeded latest := by
  simp only [blobNeededOr, blobNeeded, pushBlobOr_eq]

/-- Every session key can be used. -/
@[simp] theorem enableSealingOr_eq (channel : Channel) (key : Block) :
    channel.enableSealingOr blame key = channel.enableSealing key := by
  unfold enableSealingOr enableSealing
  cases channel.state.sorcId? with
  | none => rfl
  | some sorcId => simp only [SealingContext.keyed_eq]

/-- With credentials at hand there is a cipher as well. -/
theorem openHandshakeOr_eq {credentials : Credentials} (presented : channel.credentials = some credentials)
    (sorcId : Uuid) : channel.openHandshakeOr blame sorcId = channel.openHandshake sorcId := by
  simp only [openHandshakeOr, openHandshake, presented, transmitOr_eq,
    credentials.token.keyedCipher_eq channel.link.handset.drawNonce.1]

private theorem followOr_eq {step : Except HandshakeError Handshake.Step}
    (known : step ≠ .error .noChallengeMessage) : channel.followOr blame step = channel.follow step := by
  unfold followOr
  split
  · simp only [transmitOr_eq, follow]
  · simp only [transmitOr_eq, follow]
  · simp only [blobNeededOr_eq, follow]
  · simp only [transmitOr_eq, follow]
  · exact absurd rfl known
  · simp only [follow]

/-- A handshake is only asked about the messages that it knows. -/
theorem handshakeMessageOr_eq {handshake : Handshake} (begun : channel.handshake = some handshake)
    (message : Message) : channel.handshakeMessageOr blame message = channel.handshakeMessage message := by
  have known (kind : message.id ∈ [.challengeSorcResponse, .badChallengeSorcResponse, .ltAck]) :=
    handshake.respond_ne_noChallengeMessage channel.link.handset.nonces kind
  cases kind : message.id with
  | challengeSorcResponse | badChallengeSorcResponse | ltAck =>
    simp only [handshakeMessageOr, handshakeMessage, begun, kind]
    exact followOr_eq (known (by simp [kind]))
  | ltBlobRequest => simp only [handshakeMessageOr, handshakeMessage, kind, pushBlobOr_eq]
  | _ => simp only [handshakeMessageOr, handshakeMessage, kind]

/-- Credentials and a handshake are there at the stages at which they are called for. -/
structure Equipped (channel : Channel) : Prop where
  presented : ∀ sorcId, channel.state = .connecting sorcId .transport → channel.credentials ≠ none
  begun : ∀ sorcId, channel.state = .connecting sorcId .challenging → channel.handshake ≠ none

/-- Whatever has become of its link, a lawful channel has what is called for. -/
theorem Lawful.equipped {defaultMtu : Nat} (lawful : Lawful defaultMtu channel) (link : Link) :
    Equipped { channel with link } where
  presented sorcId waiting := by
    cases lawful with
    | settling => exact Option.some_ne_none _
    | _ => cases waiting
  begun sorcId challenging := by
    cases lawful with
    | proving => exact Option.some_ne_none _
    | _ => cases challenging

private theorem dataSentOr_eq (channel : Channel) (sent : Bytes) :
    channel.linkReportedOr blame (.dataSent (.ok sent)) = channel.dataSent (.ok sent) := by
  simp only [linkReportedOr]
  split
  · next sorcId key challenging pending => simp only [dataSent, challenging, pending, enableSealingOr_eq]
  · rfl

/-- A plain report leads to none of the places at which something may be missing. -/
theorem linkReportedOr_of_plain (channel : Channel) {report : LinkReport} (plain : report.isPlain = true) :
    channel.linkReportedOr blame report = channel.linkReported report := by
  unfold linkReportedOr
  split
  · cases plain
  · exact dataSentOr_eq channel _
  · cases plain
  · rfl

private theorem linkReportedOr_eq (equipped : Equipped channel) (report : LinkReport) :
    channel.linkReportedOr blame report = channel.linkReported report := by
  by_cases plain : report.isPlain = true
  · exact linkReportedOr_of_plain channel plain
  unfold LinkReport.isPlain at plain
  split at plain
  · next sorcId reason =>
    simp only [linkReportedOr, linkReported, linkChanged]
    split
    · next waiting =>
      obtain ⟨credentials, presented⟩ := Option.ne_none_iff_exists'.mp
        (equipped.presented sorcId (by simpa [ConnectionState.isAt] using waiting))
      exact openHandshakeOr_eq presented sorcId
    · rfl
  · next data =>
    simp only [linkReportedOr, linkReported, dataReceived]
    split
    · next sorcId challenging =>
      obtain ⟨handshake, begun⟩ := Option.ne_none_iff_exists'.mp (equipped.begun sorcId challenging)
      simp only [challenging]
      exact handshakeMessageOr_eq begun _
    · rfl
  · exact absurd rfl plain

private theorem forEach_linkReportedOr {reports : List LinkReport}
    (plain : ∀ report ∈ reports, report.isPlain = true) (channel : Channel) :
    Turn.forEach (linkReportedOr blame) channel reports = Turn.forEach linkReported channel reports := by
  induction reports generalizing channel with
  | nil => rfl
  | cons report rest ih =>
    rw [Turn.forEach_cons, Turn.forEach_cons, linkReportedOr_of_plain channel (plain report (by simp))]
    exact Turn.andThen_congr (ih (fun later listed => plain later (List.mem_cons_of_mem _ listed)) _)

private theorem absorbOr_of_plain (channel : Channel) {lower : Turn Link LinkReport}
    (plain : Link.Plain lower) : channel.absorbOr blame lower = channel.absorb lower := by
  rw [absorbOr, absorb, forEach_linkReportedOr plain]

/-- Nothing that a lawful channel does depends on what it would do if something were missing. -/
theorem Lawful.actOr_eq {defaultMtu : Nat} (lawful : Lawful defaultMtu channel) (input : Input) :
    channel.actOr blame input = channel.act input := by
  cases input with
  | connect credentials =>
    simp only [actOr, act, connectOr, connect, absorbOr_of_plain _ (Link.plain_connect _ _)]
  | close cause => rfl
  | send message => simp only [actOr, act, sendOr, send, transmitOr_eq]
  | radioEvent event => exact absorbOr_of_plain channel (Link.plain_radioEvent channel.link event)
  | confirm result => exact absorbOr_of_plain channel (Link.plain_confirm channel.link result)
  | receive result =>
    rcases Link.reports_receive channel.link result with plain | ⟨report, only⟩
    · exact absorbOr_of_plain channel plain
    · simp only [actOr, act, receive, absorbOr, absorb, only, Turn.forEach_singleton]
      rw [linkReportedOr_eq (lawful.equipped _)]

end Channel

end PhoneKey
