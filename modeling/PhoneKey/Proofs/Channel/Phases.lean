import PhoneKey.Channel
import PhoneKey.Proofs.Link
import PhoneKey.Proofs.Run

/-! # Phases of a channel

Every command of the layer above and every report of the radio is an input of the channel. Between two
inputs a channel is in one of five phases, and each phase fixes how channel, link and line belong
together: which peer they name, whether there are credentials, a handshake or a sealing context, and
which message the package under way carries.
-/

namespace PhoneKey.Channel

/-- A command from above or a report of the radio. -/
inductive Input where
  | connect (credentials : Credentials)
  | close (cause : EndCause)
  | send (message : Message)
  | radioEvent (event : RadioEvent)
  | confirm (result : Except LinkError Unit)
  | receive (result : Except LinkError Bytes)

def act (channel : Channel) : Input → Turn Channel ChannelReport
  | .connect credentials => channel.connect credentials
  | .close cause => channel.close cause
  | .send message => channel.send message
  | .radioEvent event => channel.radioEvent event
  | .confirm result => channel.confirm result
  | .receive result => channel.receive result

/-- What a channel does with inputs that come one after the other. -/
def run (channel : Channel) (inputs : List Input) : Turn Channel ChannelReport :=
  Turn.forEach act channel inputs

/-- The calls of a run. -/
def history (channel : Channel) (inputs : List Input) : List (Call Channel Input) :=
  Turn.calls act channel inputs

/-- Whether an input makes the phone choose a nonce: the link is to settle its limit with it, or the peer
acknowledges a blob. -/
def Chooses (channel : Channel) (input : Input) : Prop :=
  ∃ raw data line, input = .receive (.ok raw) ∧ channel.link.line.receive raw = (.ok (some data), line) ∧
    (channel.link.isSettling = true ∧ (Message.ofBytes data).id = .mtuReceive ∨
      channel.isChallenging = true ∧ (Message.ofBytes data).id = .ltAck)

theorem not_chooses {channel : Channel} {input : Input} (other : ∀ raw, input ≠ .receive (.ok raw)) :
    ¬ channel.Chooses input := by
  rintro ⟨raw, _, _, same, _⟩
  exact other raw same

theorem not_chooses_of_other {channel : Channel} {raw data : Bytes} {line : Line}
    (received : channel.link.line.receive raw = (.ok (some data), line))
    (settled : channel.link.isSettling = false) (other : (Message.ofBytes data).id ≠ .ltAck) :
    ¬ channel.Chooses (.receive (.ok raw)) := by
  rintro ⟨_, _, _, same, read, chosen⟩
  cases same
  cases received.symm.trans read
  rcases chosen with ⟨settling, _⟩ | ⟨_, kind⟩
  · cases settled.symm.trans settling
  · exact other kind

/-- Nothing is connected; the line is as good as new. -/
def atRest (handset : Handset) (defaultMtu : Nat) : Channel := .new (.new handset defaultMtu)

/-- The radio was asked to connect to the peer of the credentials. -/
def dialling (handset : Handset) (defaultMtu : Nat) (credentials : Credentials) : Channel :=
  { new ⟨handset, .new defaultMtu, .connecting credentials.token.sorcId .physical⟩ with
    state := .connecting credentials.token.sorcId .physical
    credentials := some credentials }

/-- The peer is being asked for its limit. -/
def settling (handset : Handset) (line : Line) (credentials : Credentials) : Channel :=
  { new ⟨handset, line, .connecting credentials.token.sorcId .requestingMtu⟩ with
    state := .connecting credentials.token.sorcId .transport
    credentials := some credentials }

/-- The handshake runs over the link. -/
def proving (handset : Handset) (line : Line) (credentials : Credentials) (handshake : Handshake)
    (pendingKey : Option Block) (inFlight : Option Message) : Channel where
  link := ⟨handset, line, .connected credentials.token.sorcId⟩
  state := .connecting credentials.token.sorcId .challenging
  credentials := some credentials
  handshake := some handshake
  protection := .clear
  pendingKey
  inFlight
  rejection := none

/-- Messages travel under a session key. -/
def secured (handset : Handset) (line : Line) (credentials : Credentials) (context : SealingContext)
    (inFlight : Option Message) : Channel where
  link := ⟨handset, line, .connected credentials.token.sorcId⟩
  state := .connected credentials.token.sorcId
  credentials := some credentials
  handshake := none
  protection := .sealed context
  pendingKey := none
  inFlight
  rejection := none

/-- The message that asks the peer for its limit. -/
def limitRequest : Message := .empty .mtuRequest

/-- What holds of a channel between two inputs, phase by phase. -/
inductive Lawful (defaultMtu : Nat) : Channel → Prop
  | atRest (handset : Handset) : Lawful defaultMtu (atRest handset defaultMtu)
  | dialling (handset : Handset) (credentials : Credentials) :
      Lawful defaultMtu (dialling handset defaultMtu credentials)
  | settling {line : Line} (handset : Handset) (credentials : Credentials)
      (default : line.defaultMtu = defaultMtu)
      (underway : ∀ package, line.sending = some package →
        package.Underway line.mtu ∧ package.message = limitRequest.toBytes) :
      Lawful defaultMtu (settling handset line credentials)
  | proving {line : Line} {handshake : Handshake} {pendingKey : Option Block}
      {inFlight : Option Message} (handset : Handset) (credentials : Credentials)
      (default : line.defaultMtu = defaultMtu) (limit : Frame.headerSize < line.mtu)
      (begun : handshake = (Handshake.new credentials.token handshake.nonce).start.2)
      (underway : ∀ package, line.sending = some package →
        package.Underway line.mtu ∧
          ∃ message, inFlight = some message ∧ package.message = message.toBytes)
      (pending : ∀ key, pendingKey = some key → line.sending.isSome = true ∧
        ∃ message, inFlight = some message ∧ message.id = .challengePhoneResponse) :
      Lawful defaultMtu (proving handset line credentials handshake pendingKey inFlight)
  | secured {line : Line} {context : SealingContext} {inFlight : Option Message} (handset : Handset)
      (credentials : Credentials) (default : line.defaultMtu = defaultMtu)
      (limit : Frame.headerSize < line.mtu)
      (underway : ∀ package, line.sending = some package →
        package.Underway line.mtu ∧ inFlight.isSome = true) :
      Lawful defaultMtu (secured handset line credentials context inFlight)

variable {defaultMtu : Nat}

theorem lawful_settling_iff {line : Line} {handset : Handset} {credentials : Credentials} :
    Lawful defaultMtu (settling handset line credentials) ↔
      line.defaultMtu = defaultMtu ∧ ∀ package, line.sending = some package →
        package.Underway line.mtu ∧ package.message = limitRequest.toBytes := by
  constructor
  · intro lawful
    generalize same : settling handset line credentials = channel at lawful
    cases lawful with
    | settling _ _ default underway =>
      simp only [settling, new, mk.injEq, Link.mk.injEq] at same
      obtain ⟨⟨_, rfl, _⟩, _⟩ := same
      exact ⟨default, underway⟩
    | _ => simp [settling, atRest, dialling, proving, secured, new, Link.new] at same
  · rintro ⟨default, underway⟩
    exact .settling handset credentials default underway

theorem lawful_proving_iff {line : Line} {handset : Handset} {credentials : Credentials}
    {handshake : Handshake} {pendingKey : Option Block} {inFlight : Option Message} :
    Lawful defaultMtu (proving handset line credentials handshake pendingKey inFlight) ↔
      line.defaultMtu = defaultMtu ∧ Frame.headerSize < line.mtu ∧
      handshake = (Handshake.new credentials.token handshake.nonce).start.2 ∧
      (∀ package, line.sending = some package →
        package.Underway line.mtu ∧
          ∃ message, inFlight = some message ∧ package.message = message.toBytes) ∧
      (∀ key, pendingKey = some key → line.sending.isSome = true ∧
        ∃ message, inFlight = some message ∧ message.id = .challengePhoneResponse) := by
  constructor
  · intro lawful
    generalize same : proving handset line credentials handshake pendingKey inFlight = channel at lawful
    cases lawful with
    | proving _ _ default limit begun underway pending =>
      simp only [proving, mk.injEq, Link.mk.injEq, Option.some.injEq] at same
      obtain ⟨⟨_, rfl, _⟩, _, rfl, rfl, _, rfl, rfl, _⟩ := same
      exact ⟨default, limit, begun, underway, pending⟩
    | _ => simp [settling, atRest, dialling, proving, secured, new, Link.new] at same
  · rintro ⟨default, limit, begun, underway, pending⟩
    exact .proving handset credentials default limit begun underway pending

theorem lawful_secured_iff {line : Line} {handset : Handset} {credentials : Credentials}
    {context : SealingContext} {inFlight : Option Message} :
    Lawful defaultMtu (secured handset line credentials context inFlight) ↔
      line.defaultMtu = defaultMtu ∧ Frame.headerSize < line.mtu ∧
      ∀ package, line.sending = some package → package.Underway line.mtu ∧ inFlight.isSome = true := by
  constructor
  · intro lawful
    generalize same : secured handset line credentials context inFlight = channel at lawful
    cases lawful with
    | secured _ _ default limit underway =>
      simp only [secured, mk.injEq, Link.mk.injEq] at same
      obtain ⟨⟨_, rfl, _⟩, _, _, _, _, _, rfl, _⟩ := same
      exact ⟨default, limit, underway⟩
    | _ => simp [settling, atRest, dialling, proving, secured, new, Link.new] at same
  · rintro ⟨default, limit, underway⟩
    exact .secured handset credentials default limit underway

end PhoneKey.Channel
