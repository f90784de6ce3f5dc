import PhoneKey.Proofs.Channel.Phases
import PhoneKey.Proofs.Frame
import PhoneKey.Proofs.Handshake
import PhoneKey.Simulation.Sorc

/-! # The simulated peer

The peer collects the frames of a message and answers the message with the frames of its own. An honest
peer proves that it holds the key, takes the phone's answer to the proof, and derives the same key.
-/

namespace PhoneKey

/-- The handshake of a token that was opened with a nonce. -/
def LeaseToken.begin (token : LeaseToken) (nonce : Block) : Handshake := (Handshake.new token nonce).start.2

/-- The message that opens the handshake of a token with a nonce. -/
def LeaseToken.challenge (token : LeaseToken) (nonce : Block) : Message :=
  (Handshake.new token nonce).start.1

theorem LeaseToken.length_challenge (token : LeaseToken) (first second : Block) :
    (token.challenge first).toBytes.length = (token.challenge second).toBytes.length := by
  simp [challenge, Handshake.start, Message.toBytes, Payload.challenge, Handshake.new]

/-- A peer of a token, under a limit that leaves room in its frames, that proves to hold the key. -/
structure SorcProfile.Honest (profile : SorcProfile) (token : LeaseToken) : Prop where
  sorcId : profile.sorcId = token.sorcId
  key : profile.key = token.key
  room : Frame.headerSize < profile.mtu.toNat
  whole : profile.corrupts = false
  proves : profile.forges = false

/-- A peer of a token that knows its key, whatever it makes of it. -/
structure SorcProfile.Shares (profile : SorcProfile) (token : LeaseToken) : Prop where
  sorcId : profile.sorcId = token.sorcId
  key : profile.key = token.key

theorem SorcProfile.Honest.shares {profile : SorcProfile} {token : LeaseToken}
    (honest : profile.Honest token) : profile.Shares token := ⟨honest.sorcId, honest.key⟩

/-- The peer asks for a blob, and one with this counter is new enough. -/
def SorcProfile.Wants (profile : SorcProfile) (counter : UInt32) : Prop :=
  (∃ least, profile.requiredBlob = some least ∧ least ≤ counter) ∨
  (profile.requiredBlob = none ∧ ∃ known, profile.requestedBlob = some known ∧ known < counter)

/-- A peer that asks for no blob any more. -/
def SorcProfile.satisfied (profile : SorcProfile) : SorcProfile :=
  { profile with requiredBlob := none, requestedBlob := none }

theorem SorcProfile.Honest.satisfied {profile : SorcProfile} {token : LeaseToken}
    (honest : profile.Honest token) : profile.satisfied.Honest token :=
  ⟨honest.sorcId, honest.key, honest.room, honest.whole, honest.proves⟩

namespace Sorc

variable {sorc : Sorc} {nonces : Nonces} {frame last : Frame} {opening : List Frame} {message : Message}

theorem receive_leaves (leaves : frame.type.closes = false) (plain : frame.flags = 0) :
    sorc.receive nonces frame.toBytes =
      ([], { sorc with assembler := sorc.assembler.append frame.payload }, nonces) := by
  rw [receive, Frame.ofBytes_toBytes_of_plain plain]
  simp only [Assembler.push_of_leaves leaves, Option.bind_none]

/-- The frames of an answer, if there is one. -/
def sayAny (sorc : Sorc) : Option Message → List Bytes × Sorc
  | none => ([], sorc)
  | some reply => sorc.say reply

/-- The last frame of a package completes what was collected, which is opened, recorded and answered. -/
theorem receive_closing {data : Bytes} {reply : Option Message} {opened next : Sorc} {rest : Nonces}
    (whole : Frame.Whole data opening last) (gathered : sorc.assembler = Assembler.empty.gather opening)
    (opens : open? { sorc with assembler := .empty } data = some (message, opened))
    (responded : respond { opened with received := opened.received ++ [message] } nonces message =
      (reply, next, rest)) :
    sorc.receive nonces last.toBytes = ((next.sayAny reply).1, (next.sayAny reply).2, rest) := by
  rw [receive, Frame.ofBytes_toBytes_of_plain (whole.plain last (by simp)), gathered]
  dsimp only
  rw [Assembler.push_last whole, Option.bind_some, opens]
  simp only [responded]
  cases reply <;> rfl

/-- Without a session messages come in clear. -/
theorem receive_last {reply : Option Message} {next : Sorc} {rest : Nonces}
    (whole : Frame.Whole message.toBytes opening last)
    (gathered : sorc.assembler = Assembler.empty.gather opening) (clear : sorc.session = none)
    (responded : respond { sorc with assembler := .empty, received := sorc.received ++ [message] } nonces
      message = (reply, next, rest)) :
    sorc.receive nonces last.toBytes = ((next.sayAny reply).1, (next.sayAny reply).2, rest) := by
  have opens : open? { sorc with assembler := .empty } message.toBytes =
      some (message, { sorc with assembler := .empty }) := by
    rw [open?, clear, Message.ofBytes_toBytes]
  exact receive_closing whole gathered opens responded

/-- Without a session a message is sent in clear. -/
theorem say_clear {frames : List Frame} (clear : sorc.session = none)
    (cut : Frame.split message.toBytes (Frame.sizeForMtu sorc.profile.mtu.toNat) = .ok frames) :
    sorc.say message = (frames.map Frame.toBytes, sorc) := by
  simp only [say, clear, Sorc.frame, cut]

/-- Frames without room for payload carry no message. -/
theorem say_narrow (clear : sorc.session = none) (narrow : sorc.profile.mtu.toNat ≤ Frame.headerSize) :
    sorc.say message = ([], sorc) := by
  have size : Frame.sizeForMtu sorc.profile.mtu.toNat = 0 := Nat.sub_eq_zero_of_le narrow
  simp only [say, clear, Sorc.frame, size, Frame.split]

theorem opening?_append (bytes : Bytes) (block : Block) : opening? (bytes ++ block.toList) = some block := by
  have size : ¬ (bytes ++ block.toList).length < Block.size := by
    rw [List.length_append, Block.length_toList, Block.size]
    omega
  have rest : (bytes ++ block.toList).length - Block.size = bytes.length := by
    rw [List.length_append, Block.length_toList, Block.size]
    omega
  rw [opening?, if_neg size, rest, List.drop_left]
  rfl

private theorem spoil_ne (proof : Block) : spoil proof ≠ proof := by
  intro same
  have byte : proof.w0.b0 ^^^ 0xff = proof.w0.b0 ^^^ 0 :=
    (congrArg (fun block => block.w0.b0) same).trans UInt8.xor_zero.symm
  cases (UInt8.xor_right_inj _).mp byte

theorem respond_limitRequest :
    sorc.respond nonces Channel.limitRequest =
      (some ⟨.mtuReceive, [sorc.profile.mtu, 0]⟩, sorc, nonces) := rfl

/-- A peer that requires a blob refuses the challenge and names its counter. -/
theorem respond_requiring {counter : UInt32} (token : LeaseToken) (nonce : Block)
    (required : sorc.profile.requiredBlob = some counter) :
    sorc.respond nonces (token.challenge nonce) =
      (some ⟨.badChallengeSorcResponse, 0 :: Bytes.bigEndian 4 counter.toNat⟩, sorc, nonces) := by
  have kind : (token.challenge nonce).id = .challengePhone := rfl
  simp only [respond, kind, meetChallenge, required]

/-- A peer that only requests a blob asks for it instead of answering the challenge. -/
theorem respond_requesting {counter : UInt32} (token : LeaseToken) (nonce : Block)
    (unrequired : sorc.profile.requiredBlob = none) (requested : sorc.profile.requestedBlob = some counter) :
    sorc.respond nonces (token.challenge nonce) =
      (some ⟨.ltBlobRequest, Bytes.littleEndian 4 counter.toNat⟩, sorc, nonces) := by
  have kind : (token.challenge nonce).id = .challengePhone := rfl
  simp only [respond, kind, meetChallenge, unrequired, requested]

/-- A peer asks for no blob any more once it has one. -/
theorem respond_blob (payload : Bytes) :
    sorc.respond nonces ⟨.ltBlob, payload⟩ =
      (some (.empty .ltAck), { sorc with profile := sorc.profile.satisfied }, nonces) := rfl

/-- An honest peer that asks for no blob answers a challenge with its proof. -/
theorem respond_challenge {token : LeaseToken} (honest : sorc.profile.Honest token) (nonce : Block)
    (unrequired : sorc.profile.requiredBlob = none) (unrequested : sorc.profile.requestedBlob = none) :
    sorc.respond nonces (token.challenge nonce) =
      (some ((token.begin nonce).proof nonces.draw.1),
        { sorc with
          handshake := some ⟨nonce, nonces.draw.1, (token.begin nonce).secondBlock nonces.draw.1⟩ },
        nonces.draw.2) := by
  have kind : (token.challenge nonce).id = .challengePhone := rfl
  have read : opening? (token.challenge nonce).payload = some (token.begin nonce).opening :=
    opening?_append _ _
  have known : (Aes.Cipher.ofKey token.key).decrypt (token.begin nonce).opening = nonce :=
    Aes.Cipher.decrypt_encrypt _ _
  simp only [respond, kind, meetChallenge, unrequired, unrequested, honest.whole, read, prove, honest.proves,
    honest.key, known, Bool.false_eq_true, if_false]
  rfl

/-- A peer that spoils its proofs answers a challenge with one that does not hold. -/
theorem respond_spoilt {token : LeaseToken} (shared : sorc.profile.key = token.key)
    (spoils : sorc.profile.corrupts = true ∨ sorc.profile.forges = true) (nonce : Block)
    (unrequired : sorc.profile.requiredBlob = none) (unrequested : sorc.profile.requestedBlob = none) :
    ∃ payload handshake rest, sorc.respond nonces (token.challenge nonce) =
        (some ⟨.challengeSorcResponse, payload⟩, { sorc with handshake }, rest) ∧
      payload.length ≤ 2 * Block.size ∧
      ∀ b1 b2, Payload.sorcResponse payload = .ok (b1, b2) →
        b2 ≠ (token.begin nonce).cipher.encrypt (nonce.rotate.xor b1) := by
  have kind : (token.challenge nonce).id = .challengePhone := rfl
  have read : opening? (token.challenge nonce).payload = some (token.begin nonce).opening :=
    opening?_append _ _
  have known : (Aes.Cipher.ofKey token.key).decrypt (token.begin nonce).opening = nonce :=
    Aes.Cipher.decrypt_encrypt _ _
  cases whole : sorc.profile.corrupts with
  | true =>
    have short : Payload.sorcResponse [0xc0, 0xff, 0xee] = .error .responseIsCorrupt := rfl
    refine ⟨[0xc0, 0xff, 0xee], sorc.handshake, nonces, ?_, by decide, fun b1 b2 told => ?_⟩
    · simp only [respond, kind, meetChallenge, unrequired, unrequested, whole, if_true]
    · cases short.symm.trans told
  | false =>
    have forges : sorc.profile.forges = true := by simpa [whole] using spoils
    let first := (token.begin nonce).firstBlock nonces.draw.1
    let second := (token.begin nonce).secondBlock nonces.draw.1
    refine ⟨first.toList ++ (spoil second).toList, some ⟨nonce, nonces.draw.1, spoil second⟩, nonces.draw.2,
      ?_, ?_, fun b1 b2 told holds => ?_⟩
    · simp only [respond, kind, meetChallenge, unrequired, unrequested, whole, read, prove, forges, shared,
        known, Bool.false_eq_true, if_false, if_true]
      rfl
    · simp [Block.length_toList, Block.size]
    · have same : Payload.sorcResponse (first.toList ++ (spoil second).toList) =
          .ok (first, spoil second) := rfl
      cases same.symm.trans told
      exact spoil_ne second holds

/-- The peer takes the answer to its proof and opens the session. -/
theorem respond_reply {token : LeaseToken} {nonce sorcNonce : Block} (shared : sorc.profile.key = token.key)
    (waiting : sorc.handshake =
      some ⟨nonce, sorcNonce, (token.begin nonce).secondBlock sorcNonce⟩) :
    sorc.respond nonces ((token.begin nonce).reply sorcNonce) =
      (none,
        { sorc with
          handshake := none
          session := some (.new (Handshake.sessionKey sorcNonce nonce) .toPhone) },
        nonces) := by
  have kind : ((token.begin nonce).reply sorcNonce).id = .challengePhoneResponse := rfl
  have accepted : sorc.accepts ⟨nonce, sorcNonce, (token.begin nonce).secondBlock sorcNonce⟩
      ((token.begin nonce).reply sorcNonce).payload = true := by
    have cipher : (token.begin nonce).cipher = Aes.Cipher.ofKey token.key := rfl
    simp [accepts, Handshake.reply, Handshake.response, shared, cipher]
  simp only [respond, kind, verify, waiting, accepted, if_true]

end Sorc

end PhoneKey
