import PhoneKey.Proofs.Handshake.Acceptance
import PhoneKey.Proofs.Simulation.Sorc

/-! # Agreement of phone and peer

Phone and peer undo each other's sums, rotations and encryptions: under any key and with any nonces, what
they send each other is accepted at both ends, and both derive one session key from it. A challenge that is
altered on its way is found out by the phone, since the peer then answers for another nonce. The peer takes
one answer to its own proof, at the first try.
-/

namespace PhoneKey

private theorem Block.eq_toList_of_ofBytes? {bytes : Bytes} {block : Block}
    (whole : ofBytes? bytes = some block) : bytes = block.toList := by
  unfold ofBytes? at whole
  split at whole
  · next found first =>
    cases whole
    unfold take? at first
    split at first
    · cases first
      rfl
    · cases first
  · cases whole

/-- Every key has a text. -/
theorem AccessKey.block_encode (key : Block) : block (Hex.encode key.toList) = .ok key := by
  have written : Hex.encode key.toList ≠ "" := by
    intro empty
    have length := congrArg (fun text => text.toList.length) empty
    simp [Hex.encode, Hex.encodeChars, Block.toList, Word.toList] at length
  rw [block, if_neg written, Hex.decode?_encode, Option.bind_some, Block.ofBytes?_toList]

private theorem LeaseToken.exists_key (key : Block) : ∃ token : LeaseToken, token.key = key :=
  ⟨⟨"", "", ⟨.zero⟩, _, key, AccessKey.block_encode key⟩, rfl⟩

namespace Sorc

/-- A peer that answers every challenge with a proof that it holds the key. -/
structure Proves (sorc : Sorc) (key : Block) : Prop where
  key : sorc.profile.key = key
  unrequired : sorc.profile.requiredBlob = none
  unrequested : sorc.profile.requestedBlob = none
  whole : sorc.profile.corrupts = false
  honest : sorc.profile.forges = false

variable {sorc : Sorc} {token : LeaseToken} {key nonce sorcNonce proof : Block} {nonces : Nonces}

theorem proves_new (token : LeaseToken) : (new (.ofToken token)).Proves token.key :=
  ⟨rfl, rfl, rfl, rfl, rfl⟩

/-- The peer takes the last block of a challenge for the nonce that it decrypts to, and answers as in a
handshake that was opened with this nonce. -/
theorem respond_opening (proves : sorc.Proves token.key) (nonces : Nonces) (front : Bytes) (b0 : Block) :
    let nonce := (Aes.Cipher.ofKey token.key).decrypt b0
    sorc.respond nonces ⟨.challengePhone, front ++ b0.toList⟩ =
      (some ((token.begin nonce).proof nonces.draw.1),
        { sorc with
          handshake := some ⟨nonce, nonces.draw.1, (token.begin nonce).secondBlock nonces.draw.1⟩ },
        nonces.draw.2) := by
  intro nonce
  have opened : (Aes.Cipher.ofKey token.key).encrypt nonce = b0 := Aes.Cipher.encrypt_decrypt _ b0
  have first : (token.begin nonce).firstBlock nonces.draw.1 =
      (Aes.Cipher.ofKey token.key).encrypt (nonces.draw.1.xor b0) := by rw [← opened]; rfl
  have second : (token.begin nonce).secondBlock nonces.draw.1 = (Aes.Cipher.ofKey token.key).encrypt
      (nonce.rotate.xor ((Aes.Cipher.ofKey token.key).encrypt (nonces.draw.1.xor b0))) := by
    rw [← first]
    rfl
  simp only [respond, meetChallenge, proves.unrequired, proves.unrequested, proves.whole, opening?_append,
    prove, proves.honest, proves.key, Handshake.proof, first, second, Bool.false_eq_true, if_false]
  rfl

/-- The check that the peer makes by decrypting is the phone's own computation. -/
theorem accepts_iff (shared : sorc.profile.key = key) (handshake : SorcHandshake) (payload : Bytes) :
    sorc.accepts handshake payload = true ↔ payload =
      ((Aes.Cipher.ofKey key).encrypt (handshake.sorcNonce.rotate.xor handshake.proof)).toList := by
  constructor
  · intro accepted
    unfold accepts at accepted
    split at accepted
    · cases accepted
    · next b3 whole =>
      rw [← of_decide_eq_true accepted, Block.rotate_rotateBack, Block.xor_xor_cancel_right, shared,
        Aes.Cipher.encrypt_decrypt]
      exact Block.eq_toList_of_ofBytes? whole
  · rintro rfl
    simp [accepts, shared]

/-- The peer opens the session with the one answer that it waits for. -/
theorem respond_awaited (shared : sorc.profile.key = key)
    (waiting : sorc.handshake = some ⟨nonce, sorcNonce, proof⟩) (nonces : Nonces) :
    sorc.respond nonces ⟨.challengePhoneResponse,
        ((Aes.Cipher.ofKey key).encrypt (sorcNonce.rotate.xor proof)).toList⟩ =
      (none,
        { sorc with
          handshake := none
          session := some (.new (Handshake.sessionKey sorcNonce nonce) .toPhone) },
        nonces) := by
  have accepted : sorc.accepts ⟨nonce, sorcNonce, proof⟩
      ((Aes.Cipher.ofKey key).encrypt (sorcNonce.rotate.xor proof)).toList = true :=
    (accepts_iff shared ⟨nonce, sorcNonce, proof⟩ _).mpr rfl
  simp only [respond, verify, waiting, accepted, if_true]

/-- Any other answer ends the handshake. -/
theorem respond_unawaited (shared : sorc.profile.key = key)
    (waiting : sorc.handshake = some ⟨nonce, sorcNonce, proof⟩) (nonces : Nonces) {payload : Bytes}
    (other : payload ≠ ((Aes.Cipher.ofKey key).encrypt (sorcNonce.rotate.xor proof)).toList) :
    sorc.respond nonces ⟨.challengePhoneResponse, payload⟩ =
      (none, { sorc with handshake := none }, nonces) := by
  have refused : sorc.accepts ⟨nonce, sorcNonce, proof⟩ payload = false :=
    Bool.eq_false_iff.mpr fun accepted =>
      other ((accepts_iff shared ⟨nonce, sorcNonce, proof⟩ payload).mp accepted)
  simp only [respond, verify, waiting, refused, Bool.false_eq_true, if_false]

end Sorc

/-- How phone and peer get on under a key, when each of them has chosen a nonce. -/
structure Agreement (key nonce sorcNonce : Block) : Prop where
  tokens : ∃ token : LeaseToken, token.key = key
  peers : ∀ token : LeaseToken, token.key = key → (Sorc.new (.ofToken token)).Proves key
  /-- What arrives as it was sent completes the handshake at both ends. -/
  completes : ∀ (token : LeaseToken) (sorc : Sorc) (nonces : Nonces), token.key = key → sorc.Proves key →
    nonces.draw.1 = sorcNonce →
    let (challenge, handshake) := (Handshake.new token nonce).start
    let sessionKey := Handshake.sessionKey sorcNonce nonce
    ∃ proof reply waiting, sorc.respond nonces challenge = (some proof, waiting, nonces.draw.2) ∧
      (∀ drawn, handshake.respond drawn proof = (.ok (.finished reply sessionKey), handshake, drawn)) ∧
      ∀ drawn, waiting.respond drawn reply =
        (none, { sorc with handshake := none, session := some (.new sessionKey .toPhone) }, drawn)
  /-- The phone rejects what the peer answers to any other last block of a challenge. -/
  detects : ∀ (token : LeaseToken) (sorc : Sorc) (nonces : Nonces) (front : Bytes) (b0 : Block),
    token.key = key → sorc.Proves key → nonces.draw.1 = sorcNonce →
    let handshake := (Handshake.new token nonce).start.2
    b0 ≠ handshake.opening →
    ∃ proof waiting,
      sorc.respond nonces ⟨.challengePhone, front ++ b0.toList⟩ = (some proof, waiting, nonces.draw.2) ∧
      ∀ drawn, handshake.respond drawn proof =
        (.ok (.rejected (.empty .badChallengePhoneResponse) .responseDoNotMatch), handshake, drawn)
  /-- The peer that waits for an answer to its proof takes one, and any other ends the handshake. -/
  admits : ∀ (sorc : Sorc) (proof : Block) (nonces : Nonces) (payload : Bytes), sorc.profile.key = key →
    sorc.handshake = some ⟨nonce, sorcNonce, proof⟩ →
    sorc.respond nonces ⟨.challengePhoneResponse, payload⟩ =
      (none,
        { sorc with
          handshake := none
          session :=
            if payload = ((Aes.Cipher.ofKey key).encrypt (sorcNonce.rotate.xor proof)).toList then
              some (.new (Handshake.sessionKey sorcNonce nonce) .toPhone)
            else sorc.session },
        nonces)

/-- Whatever the key and the nonces, phone and peer agree, and neither takes anything else. -/
theorem agreement (key nonce sorcNonce : Block) : Agreement key nonce sorcNonce where
  tokens := LeaseToken.exists_key key
  peers := by
    rintro token rfl
    exact Sorc.proves_new token
  completes := by
    rintro token sorc nonces rfl proves rfl
    have known : (Aes.Cipher.ofKey token.key).decrypt (token.begin nonce).opening = nonce :=
      Aes.Cipher.decrypt_encrypt _ _
    have met := Sorc.respond_opening proves nonces (Bytes.ofText token.leaseId ++
      Bytes.ofText token.sorcId.text ++ Bytes.ofText (Text.Casing.lowercase token.id))
      (token.begin nonce).opening
    rw [known] at met
    refine ⟨_, (token.begin nonce).reply nonces.draw.1, _, met, fun drawn => ?_, fun drawn => ?_⟩
    · exact congrArg (·, token.begin nonce, drawn) ((token.begin nonce).answer_proof nonces.draw.1)
    · exact Sorc.respond_reply proves.key rfl
  detects := by
    rintro token sorc nonces front b0 rfl proves rfl handshake altered
    -- The peer takes the altered block for the opening of a handshake with another nonce.
    let other := (Aes.Cipher.ofKey token.key).decrypt b0
    have changed : handshake.nonce ≠ (token.begin other).nonce := by
      intro same
      have opened : (Aes.Cipher.ofKey token.key).encrypt other = b0 := Aes.Cipher.encrypt_decrypt _ b0
      refine altered (opened.symm.trans ?_)
      exact congrArg (Aes.Cipher.ofKey token.key).encrypt same.symm
    have accepted : (token.begin other).Accepts ((token.begin other).proof nonces.draw.1).payload :=
      ⟨nonces, _, _, (token.begin other).answer_proof nonces.draw.1⟩
    refine ⟨_, _, Sorc.respond_opening proves nonces front b0, fun drawn => ?_⟩
    have stale := @Handshake.judge_of_stale (token.begin other) _ handshake drawn rfl changed accepted
    exact congrArg (·, handshake, drawn) stale
  admits := by
    intro sorc proof nonces payload shared waiting
    by_cases awaited : payload = ((Aes.Cipher.ofKey key).encrypt (sorcNonce.rotate.xor proof)).toList
    · rw [if_pos awaited, awaited]
      exact Sorc.respond_awaited shared waiting nonces
    · rw [if_neg awaited]
      exact Sorc.respond_unawaited shared waiting nonces awaited

end PhoneKey
