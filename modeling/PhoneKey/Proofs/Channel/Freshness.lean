import PhoneKey.Proofs.Channel.Progress
import PhoneKey.Proofs.Channel.Reachable
import PhoneKey.Proofs.Line.Reception

/-! # Whose blob is newer

While the handshake runs, the peer names the counter of the blob that it holds in two ways: lowest byte first
when it asks for a newer one, and highest byte first behind a byte of its own when it rejects the challenge.
The phone pushes its blob to a peer that asks if the phone's is newer, and to one that rejects unless the
peer's is newer, in which case it hangs up. No other message outside the handshake has any consequence.
-/

namespace PhoneKey

namespace Bytes

/-- The value of one byte; missing bytes count as zero. -/
def digit (bytes : Bytes) (index : Nat) : Nat := (bytes.getD index 0).toNat

private theorem digit_lt (bytes : Bytes) (index : Nat) : bytes.digit index < 256 := UInt8.toNat_lt _

end Bytes

namespace Payload

/-- The counter in the first four bytes of a request, lowest first. -/
def requested (payload : Bytes) : Nat :=
  payload.digit 0 + 2 ^ 8 * payload.digit 1 + 2 ^ 16 * payload.digit 2 + 2 ^ 24 * payload.digit 3

/-- The counter in the four bytes of a rejection that follow the first, highest first. -/
def rejected (payload : Bytes) : Nat :=
  2 ^ 24 * payload.digit 1 + 2 ^ 16 * payload.digit 2 + 2 ^ 8 * payload.digit 3 + payload.digit 4

private theorem ofLittleEndian_take_four (payload : Bytes) :
    Bytes.ofLittleEndian (payload.take 4) = requested payload := by
  match payload with
  | [] => rfl
  | [a] => simp [requested, Bytes.digit, Bytes.ofLittleEndian]
  | [a, b] => simp [requested, Bytes.digit, Bytes.ofLittleEndian]
  | [a, b, c] =>
    simp [requested, Bytes.digit, Bytes.ofLittleEndian]
    omega
  | a :: b :: c :: d :: rest =>
    simp [requested, Bytes.digit, Bytes.ofLittleEndian]
    omega

private theorem toNat_blobRequestCounter (payload : Bytes) :
    (blobRequestCounter payload).toNat = requested payload := by
  have small : requested payload < 2 ^ 32 := by
    have := payload.digit_lt 0
    have := payload.digit_lt 1
    have := payload.digit_lt 2
    have := payload.digit_lt 3
    rw [requested]
    omega
  rw [blobRequestCounter, ofLittleEndian_take_four, UInt32.toNat_ofNat_of_lt' small]

/-- A rejection names a counter if it is long enough. -/
theorem rejectedCounter?_eq (payload : Bytes) :
    rejectedCounter? payload =
      if 5 ≤ payload.length then some (UInt32.ofNat (rejected payload)) else none := by
  match payload with
  | [] | [_] | [_, _] | [_, _, _] | [_, _, _, _] => rfl
  | x :: a :: b :: c :: d :: rest =>
    have value : Bytes.ofBigEndian [a, b, c, d] = rejected (x :: a :: b :: c :: d :: rest) := by
      simp [rejected, Bytes.digit, Bytes.ofBigEndian, Bytes.ofLittleEndian]
      omega
    rw [rejectedCounter?, value, if_pos (by simp)]

private theorem rejected_lt (payload : Bytes) : rejected payload < 2 ^ 32 := by
  have := payload.digit_lt 1
  have := payload.digit_lt 2
  have := payload.digit_lt 3
  have := payload.digit_lt 4
  rw [rejected]
  omega

theorem any_rejectedCounter?_iff (ours : UInt32) (payload : Bytes) :
    (rejectedCounter? payload).any (ours < ·) = true ↔
      5 ≤ payload.length ∧ ours.toNat < rejected payload := by
  have exact : (UInt32.ofNat (rejected payload)).toNat = rejected payload :=
    UInt32.toNat_ofNat_of_lt' (rejected_lt payload)
  rw [rejectedCounter?_eq]
  split
  · next long => rw [Option.any_some, decide_eq_true_iff, UInt32.lt_iff_toNat_lt, exact, and_iff_right long]
  · next short => simp [short]

theorem blob_eq_ok_iff (text : String) (bytes : Bytes) :
    blob text = .ok bytes ↔ text ≠ "" ∧ Base64.decode? text = some bytes := by
  rw [blob]
  split
  · next absent => simp [absent]
  · next present => split <;> simp_all

private theorem unreadable_of_blob {text : String} {cause : LeaseError} (failed : blob text = .error cause) :
    text = "" ∨ Base64.decode? text = none := by
  rw [blob] at failed
  split at failed
  · next absent => exact .inl absent
  · split at failed
    · cases failed
    · next undecodable => exact .inr undecodable

end Payload

namespace Channel

variable {defaultMtu : Nat} {channel : Channel}

/-- A channel on which a message has been completed, and nothing else has happened. -/
def heard (channel : Channel) : Channel :=
  { channel with link := { channel.link with line := channel.link.line.dropReceiving } }

/-- The blob is pushed: its bytes go out in a message of their own, or the attempt ends without a cause
because there are none. -/
inductive Pushes (channel : Channel) (credentials : Credentials) : Turn Channel ChannelReport → Prop
  | writes {bytes : Bytes} {first : Frame} {rest : List Frame} (filled : credentials.blob.data ≠ "")
      (read : Base64.decode? credentials.blob.data = some bytes)
      (cut : Frame.split (0x0b :: bytes) (Frame.sizeForMtu channel.link.mtu) = .ok (first :: rest)) :
      Pushes channel credentials
        ⟨{ channel with
            link := ⟨channel.link.handset.answerWrite.2,
              { channel.link.line with sending := some ⟨0x0b :: bytes, first :: rest⟩ }, channel.link.state⟩
            inFlight := some ⟨.ltBlob, bytes⟩ },
          [], [.radio (.write first.toBytes true)]⟩
  | fails (unreadable : credentials.blob.data = "" ∨ Base64.decode? credentials.blob.data = none) :
      Pushes channel credentials
        (ended channel.link.handset channel.link.line.defaultMtu credentials.token.sorcId
          (.protocol (.handshakeFailed none)) hangUpEffects)

/-- The attempt ends because the peer holds a newer blob. -/
def outdates (channel : Channel) (credentials : Credentials) : Turn Channel ChannelReport :=
  ended channel.link.handset channel.link.line.defaultMtu credentials.token.sorcId (.protocol .blobOutdated)
    hangUpEffects

private theorem Pushes.ne_idle {credentials : Credentials} {turn : Turn Channel ChannelReport}
    (pushes : Pushes channel credentials turn) (state : Channel) : turn ≠ .idle state := by
  intro same
  have silent := congrArg Turn.effects same
  cases pushes with
  | writes filled read cut => cases silent
  | fails unreadable => cases silent

private theorem Pushes.ne_outdates {credentials : Credentials} {turn : Turn Channel ChannelReport}
    (pushes : Pushes channel credentials turn) : turn ≠ outdates channel credentials := by
  intro same
  have reported := congrArg Turn.reports same
  cases pushes with
  | writes filled read cut => cases reported
  | fails unreadable => cases reported

/-- A whole message of the peer is looked at as a message of the handshake. -/
theorem receive_proving_data {line : Line} {raw data : Bytes} (handset : Handset)
    (credentials : Credentials) (handshake : Handshake) (key : Option Block) (inFlight : Option Message)
    (completes : line.Completes raw data) :
    (proving handset line credentials handshake key inFlight).receive (.ok raw) =
      (proving handset line.dropReceiving credentials handshake key inFlight).handshakeMessage
        (.ofBytes data) := by
  have lower : (proving handset line credentials handshake key inFlight).link.receive (.ok raw) =
      .report ⟨handset, line.dropReceiving, .connected credentials.token.sorcId⟩
        (.dataReceived (.ok data)) := by
    simp only [proving, Link.receive, Line.receive_of_completes completes]
    rfl
  rw [receive, lower, Turn.report, absorb_report, Turn.after_nil]
  rfl

section

variable {line : Line} {handset : Handset} {credentials : Credentials} {handshake : Handshake}
  {inFlight : Option Message}

/-- What it takes for a blob message to be written at once. -/
structure Unhindered (handset : Handset) (line : Line) (credentials : Credentials) : Prop where
  vacant : line.sending = none
  accepts : handset.accepts 0 = true
  limit : Frame.headerSize < line.mtu
  fits : ∀ bytes, Base64.decode? credentials.blob.data = some bytes → bytes.length < maxMessageLength

private theorem Unhindered.taken (unhindered : Unhindered handset line credentials) {bytes : Bytes}
    (read : Base64.decode? credentials.blob.data = some bytes) (state : LinkState) :
    (Link.start ⟨handset, line.dropReceiving, state⟩ (0x0b :: bytes)).refusal = none := by
  have short := unhindered.fits bytes read
  cases outcome : (Link.start ⟨handset, line.dropReceiving, state⟩ (0x0b :: bytes)).refusal with
  | none => rfl
  | some cause =>
    have free : line.dropReceiving.isBusy = false := by
      simp [Line.isBusy, Line.dropReceiving, unhindered.vacant, Assembler.isOpen, Assembler.empty]
    have limit : Frame.headerSize < line.dropReceiving.mtu := unhindered.limit
    rcases (Link.refusal_eq_some_iff limit _ _).mp outcome with ⟨busy, _⟩ | ⟨_, long, _⟩ | ⟨_, _, declines, _⟩
    · cases free.symm.trans busy
    · rw [List.length_cons] at long
      omega
    · cases unhindered.accepts.symm.trans declines

private theorem pushes_pushBlob (unhindered : Unhindered handset line credentials) :
    Pushes (proving handset line.dropReceiving credentials handshake none inFlight) credentials
      (proving handset line.dropReceiving credentials handshake none inFlight).pushBlob := by
  cases readable : Payload.blob credentials.blob.data with
  | error cause =>
    have aborted : (proving handset line.dropReceiving credentials handshake none inFlight).pushBlob =
        ended handset line.defaultMtu credentials.token.sorcId (.protocol (.handshakeFailed none))
          hangUpEffects := by
      simp only [pushBlob, proving, readable]
      exact close_of_engaged _ rfl rfl rfl _
    rw [aborted]
    exact .fails (Payload.unreadable_of_blob readable)
  | ok bytes =>
    obtain ⟨filled, read⟩ := (Payload.blob_eq_ok_iff _ _).mp readable
    have taken := unhindered.taken read (.connected credentials.token.sorcId)
    obtain ⟨frame, next, launched, _, started⟩ := Link.start_taken taken
    obtain ⟨_, first, rest, cut, rfl, rfl⟩ := Line.launch_eq_ok launched
    have sent := @transmit_of_taken
      (proving handset line.dropReceiving credentials handshake none inFlight) ⟨.ltBlob, bytes⟩ _ _ _
      rfl rfl started.symm rfl
    rw [pushBlob_readable handset line.dropReceiving credentials handshake readable, sent]
    exact .writes filled read cut

/-- A request is granted to a peer whose blob is older. -/
theorem handshakeMessage_requested (payload : Bytes) :
    (proving handset line credentials handshake none inFlight).handshakeMessage ⟨.ltBlobRequest, payload⟩ =
      if Payload.requested payload < credentials.blob.counter.toNat then
        (proving handset line credentials handshake none inFlight).pushBlob
      else .idle (proving handset line credentials handshake none inFlight) := by
  simp only [handshakeMessage, heldCounter?, proving, Option.map_some, Option.any_some, decide_eq_true_iff,
    UInt32.lt_iff_toNat_lt, Payload.toNat_blobRequestCounter]

/-- A rejection ends the attempt if it names a newer blob. -/
theorem handshakeMessage_rejected (payload : Bytes) :
    (proving handset line credentials handshake none inFlight).handshakeMessage
        ⟨.badChallengeSorcResponse, payload⟩ =
      if 5 ≤ payload.length ∧ credentials.blob.counter.toNat < Payload.rejected payload then
        outdates (proving handset line credentials handshake none inFlight) credentials
      else (proving handset line credentials handshake none inFlight).pushBlob := by
  have outdated : (proving handset line credentials handshake none inFlight).close
      (.protocol .blobOutdated) =
      outdates (proving handset line credentials handshake none inFlight) credentials :=
    close_of_engaged _ rfl rfl rfl _
  rw [← outdated]
  simp only [← Payload.any_rejectedCounter?_iff, handshakeMessage, proving, Handshake.respond, follow,
    blobNeeded, heldCounter?, Option.map_some, Option.getD_some]
  rfl

/-- A message that the handshake does not use has no consequence. -/
theorem handshakeMessage_foreign {message : Message}
    (foreign : message.id ∉ [.challengeSorcResponse, .badChallengeSorcResponse, .ltAck, .ltBlobRequest]) :
    channel.handshakeMessage message = .idle channel := by
  obtain ⟨id, payload⟩ := message
  cases id <;> first | rfl | simp at foreign

/-- The first bytes of the messages that the handshake uses. -/
def usedBytes : List UInt8 := [0x02, 0x03, 0x09, 0x0a]

private theorem foreign_of_bytes {data : Bytes} (unused : ∀ byte ∈ data.head?, byte ∉ usedBytes) :
    (Message.ofBytes data).id ∉ [.challengeSorcResponse, .badChallengeSorcResponse, .ltAck, .ltBlobRequest] := by
  cases data with
  | nil => decide
  | cons byte payload =>
    have other : byte ∉ usedBytes := unused byte rfl
    intro used
    simp only [List.mem_cons, List.not_mem_nil, or_false, Message.ofBytes] at used
    rcases used with kind | kind | kind | kind
    all_goals
      rw [MessageId.ofByte_eq_iff (by decide)] at kind
      rw [kind] at other
      exact other (by decide)

/-- What becomes of a message of the peer while the handshake runs, as far as blobs go. -/
structure Decides (channel : Channel) (credentials : Credentials) (raw data : Bytes) : Prop where
  /-- A request is granted if the blob at hand is newer, and otherwise changes nothing. -/
  requested : ∀ payload, data = 0x0a :: payload →
    (Pushes channel.heard credentials (channel.receive (.ok raw)) ↔
      Payload.requested payload < credentials.blob.counter.toNat) ∧
    (channel.receive (.ok raw) = .idle channel.heard ↔
      credentials.blob.counter.toNat ≤ Payload.requested payload)
  /-- A rejection ends the attempt if it names a newer blob than the one at hand, which is pushed
  otherwise. -/
  rejected : ∀ payload, data = 0x03 :: payload →
    (channel.receive (.ok raw) = outdates channel.heard credentials ↔
      5 ≤ payload.length ∧ credentials.blob.counter.toNat < Payload.rejected payload) ∧
    (Pushes channel.heard credentials (channel.receive (.ok raw)) ↔
      payload.length < 5 ∨ Payload.rejected payload ≤ credentials.blob.counter.toNat)
  foreign : (∀ byte ∈ data.head?, byte ∉ usedBytes) → channel.receive (.ok raw) = .idle channel.heard

private theorem decides_of_proving {raw data : Bytes} (unhindered : Unhindered handset line credentials)
    (completes : line.Completes raw data) :
    Decides (proving handset line credentials handshake none inFlight) credentials raw data := by
  have taken := receive_proving_data handset credentials handshake none inFlight completes
  have pushes := @pushes_pushBlob line handset credentials handshake inFlight unhindered
  have cleared : (proving handset line credentials handshake none inFlight).heard =
      proving handset line.dropReceiving credentials handshake none inFlight := rfl
  refine ⟨?_, ?_, ?_⟩
  · rintro payload rfl
    have asked : (Message.ofBytes (0x0a :: payload)) = ⟨.ltBlobRequest, payload⟩ := rfl
    rw [taken, asked, handshakeMessage_requested, cleared]
    by_cases newer : Payload.requested payload < credentials.blob.counter.toNat
    · rw [if_pos newer]
      exact ⟨iff_of_true pushes newer, iff_of_false (pushes.ne_idle _) (Nat.not_le.mpr newer)⟩
    · rw [if_neg newer]
      exact ⟨iff_of_false (fun pushed => pushed.ne_idle _ rfl) newer, iff_of_true rfl (Nat.not_lt.mp newer)⟩
  · rintro payload rfl
    have refused : (Message.ofBytes (0x03 :: payload)) = ⟨.badChallengeSorcResponse, payload⟩ := rfl
    rw [taken, refused, handshakeMessage_rejected, cleared]
    by_cases newer : 5 ≤ payload.length ∧ credentials.blob.counter.toNat < Payload.rejected payload
    · rw [if_pos newer]
      exact ⟨iff_of_true rfl newer, iff_of_false (fun pushed => pushed.ne_outdates rfl) (by omega)⟩
    · rw [if_neg newer]
      exact ⟨iff_of_false pushes.ne_outdates newer, iff_of_true pushes (by omega)⟩
  · intro unused
    rw [taken, handshakeMessage_foreign (foreign_of_bytes unused), cleared]

end

/-- While the handshake runs over a line on which nothing is under way and a radio that accepts a write, a
blob that fits a message is pushed exactly when it is wanted, whatever arrives. -/
theorem decides_of_run (handset : Handset) (defaultMtu : Nat) (inputs : List Input)
    (challenging : ((atRest handset defaultMtu).run inputs).state.isChallenging = true)
    (vacant : ((atRest handset defaultMtu).run inputs).state.link.line.sending = none)
    (accepts : ((atRest handset defaultMtu).run inputs).state.link.handset.accepts 0 = true) :
    ∃ credentials, ((atRest handset defaultMtu).run inputs).state.credentials = some credentials ∧
      ((∀ bytes, Base64.decode? credentials.blob.data = some bytes → bytes.length < maxMessageLength) →
        ∀ raw data, ((atRest handset defaultMtu).run inputs).state.link.line.Completes raw data →
          Decides ((atRest handset defaultMtu).run inputs).state credentials raw data) := by
  have lawful := lawful_of_run handset defaultMtu inputs
  generalize ((atRest handset defaultMtu).run inputs).state = channel at lawful challenging vacant accepts ⊢
  cases lawful with
  | @proving line handshake pendingKey inFlight handset credentials default limit begun underway pending =>
    obtain rfl : pendingKey = none := by
      cases pendingKey with
      | none => rfl
      | some key =>
        obtain ⟨busy, _⟩ := pending key rfl
        have free : line.sending = none := vacant
        simp [free] at busy
    exact ⟨credentials, rfl, fun fits raw data completes =>
      decides_of_proving ⟨vacant, accepts, limit, fits⟩ completes⟩
  | _ => cases challenging

/-- The phone's counter is five, and the peer asks with four. -/
theorem decides_requested :
    let credentials : Credentials := ⟨zeroCredentials.token, ⟨5, "AQID"⟩⟩
    let channel := ((atRest (zeroHandset 9) Frame.defaultMtu).run
      [.connect credentials, .radioEvent (.connected ⟨.zero⟩), .receive (.ok [0x30, 0, 2, 0, 0x07, 200]),
        .confirm (.ok ())]).state
    channel.isChallenging = true ∧ channel.link.line.sending = none ∧ channel.link.handset.accepts 0 = true ∧
      ∃ held, channel.credentials = some held ∧
        (∀ bytes, Base64.decode? held.blob.data = some bytes → bytes.length < maxMessageLength) ∧
        channel.link.line.Completes [0x30, 0, 2, 0, 0x0a, 4] [0x0a, 4] ∧
        Pushes channel.heard held (channel.receive (.ok [0x30, 0, 2, 0, 0x0a, 4])) := by
  intro credentials channel
  have challenging : channel.isChallenging = true := by decide +kernel
  have vacant : channel.link.line.sending = none := by decide +kernel
  have accepts : channel.link.handset.accepts 0 = true := by decide +kernel
  obtain ⟨held, same, decides⟩ := decides_of_run (zeroHandset 9) Frame.defaultMtu _ challenging vacant accepts
  have blob : channel.credentials.map (·.blob) = some ⟨5, "AQID"⟩ := by decide +kernel
  have known : held.blob = ⟨5, "AQID"⟩ := by
    have whole : channel.credentials = some held := same
    rw [whole] at blob
    exact Option.some.inj blob
  have read : Base64.decode? held.blob.data = some [1, 2, 3] := by
    rw [known]
    decide +kernel
  have fits : ∀ bytes, Base64.decode? held.blob.data = some bytes → bytes.length < maxMessageLength := by
    rintro bytes decoded
    cases read.symm.trans decoded
    decide
  have completes : channel.link.line.Completes [0x30, 0, 2, 0, 0x0a, 4] [0x0a, 4] := by decide +kernel
  have newer : Payload.requested [4] < held.blob.counter.toNat := by
    rw [known]
    decide
  exact ⟨challenging, vacant, accepts, held, same, fits, completes,
    ((decides fits _ _ completes).requested [4] rfl).1.mpr newer⟩

end Channel

end PhoneKey
