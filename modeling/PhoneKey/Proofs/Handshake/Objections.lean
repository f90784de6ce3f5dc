import PhoneKey.Proofs.Envelope
import PhoneKey.Proofs.Handshake

/-! # What can be said against a response

The peer's response proves the key with its second block, which has to be the one that follows from the
phone's nonce and from the first block. Only two things can be wrong with a response: it is too short to
hold two blocks, or the second one is another. Checking a response finds out which of them it is.
-/

namespace PhoneKey

theorem Payload.sorcResponse_append (b1 b2 : Block) (rest : Bytes) :
    sorcResponse (b1.toList ++ b2.toList ++ rest) = .ok (b1, b2) := by
  rw [List.append_assoc, sorcResponse, Block.split_toList_append, Block.split_toList_append]

/-- The only responses that hold no two blocks are those that are too short for them. -/
theorem Payload.short_of_sorcResponse {payload : Bytes} {cause : HandshakeError}
    (unreadable : sorcResponse payload = .error cause) :
    cause = .responseIsCorrupt ∧ payload.length < 2 * Block.size := by
  have whole := congrArg List.length (Block.join_split payload)
  have tail := Block.length_split_lt payload
  rw [List.length_append, Block.length_join] at whole
  simp only [Block.size] at tail ⊢
  cases blocks : Block.split payload with
  | mk found rest =>
    simp only [blocks] at whole tail
    rcases found with _ | ⟨first, _ | ⟨second, more⟩⟩
    · simp only [sorcResponse, blocks, Except.error.injEq] at unreadable
      simp only [List.length_nil] at whole
      exact ⟨unreadable.symm, by omega⟩
    · simp only [sorcResponse, blocks, Except.error.injEq] at unreadable
      simp only [List.length_cons, List.length_nil] at whole
      exact ⟨unreadable.symm, by omega⟩
    · simp [sorcResponse, blocks] at unreadable

theorem Payload.sorcResponse_of_short {payload : Bytes} (short : payload.length < 2 * Block.size) :
    sorcResponse payload = .error .responseIsCorrupt := by
  cases read : sorcResponse payload with
  | error cause => rw [(short_of_sorcResponse read).1]
  | ok blocks =>
    obtain ⟨rest, rfl⟩ := eq_of_sorcResponse read
    simp [Block.size] at short
    omega

namespace Handshake

/-- What is wrong with a message of the peer. -/
inductive Objects (handshake : Handshake) : Message → HandshakeError → Prop
  | mismatch {b1 b2 : Block} (rest : Bytes)
      (wrong : b2 ≠ handshake.cipher.encrypt (handshake.nonce.rotate.xor b1)) :
      Objects handshake ⟨.challengeSorcResponse, b1.toList ++ b2.toList ++ rest⟩ .responseDoNotMatch
  | corrupt {payload : Bytes} (short : payload.length < 2 * Block.size) :
      Objects handshake ⟨.challengeSorcResponse, payload⟩ .responseIsCorrupt

variable {handshake : Handshake} {message : Message} {cause : HandshakeError}

theorem Objects.kind (objects : handshake.Objects message cause) : message.id = .challengeSorcResponse := by
  cases objects <;> rfl

/-- Checking the response finds what is wrong with it. -/
theorem Objects.answer (objects : handshake.Objects message cause) :
    handshake.answer message.payload = .error cause ∧ cause = .responseIsCorrupt ∨
      handshake.answer message.payload = .ok (.rejected (.empty .badChallengePhoneResponse) cause) ∧
        cause = .responseDoNotMatch := by
  cases objects with
  | @mismatch b1 b2 rest wrong =>
    refine .inr ⟨?_, rfl⟩
    simp only [Handshake.answer, Payload.sorcResponse_append]
    exact if_pos fun proof => wrong ((handshake.proof_iff b1 b2).mp proof)
  | corrupt short =>
    refine .inl ⟨?_, rfl⟩
    simp only [Handshake.answer, Payload.sorcResponse_of_short short]

/-- Whatever checking a response finds wrong is wrong with it, and it finds nothing else. -/
inductive Judged (handshake : Handshake) (payload : Bytes) : Except HandshakeError Step → Prop
  | unreadable (objects : handshake.Objects ⟨.challengeSorcResponse, payload⟩ .responseIsCorrupt) :
      Judged handshake payload (.error .responseIsCorrupt)
  | rejects (objects : handshake.Objects ⟨.challengeSorcResponse, payload⟩ .responseDoNotMatch) :
      Judged handshake payload
        (.ok (.rejected (.empty .badChallengePhoneResponse) .responseDoNotMatch))
  | accepts (response : Message) (sessionKey : Block)
      (fair : ∀ cause, ¬ handshake.Objects ⟨.challengeSorcResponse, payload⟩ cause) :
      Judged handshake payload (.ok (.finished response sessionKey))

theorem judged (handshake : Handshake) (payload : Bytes) :
    Judged handshake payload (handshake.answer payload) := by
  cases read : Payload.sorcResponse payload with
  | error cause =>
    obtain ⟨rfl, short⟩ := Payload.short_of_sorcResponse read
    simp only [answer, read]
    exact .unreadable (.corrupt short)
  | ok blocks =>
    obtain ⟨b1, b2⟩ := blocks
    obtain ⟨rest, rfl⟩ := Payload.eq_of_sorcResponse read
    by_cases proof : b2 = handshake.cipher.encrypt (handshake.nonce.rotate.xor b1)
    · have accepted : ∃ response key, handshake.answer (b1.toList ++ b2.toList ++ rest) =
          .ok (.finished response key) := by
        simp only [answer, read, (handshake.proof_iff b1 b2).mpr proof, ne_eq, not_true_eq_false,
          if_false, Except.ok.injEq, Step.finished.injEq]
        exact ⟨_, _, rfl, rfl⟩
      obtain ⟨response, key, accepted⟩ := accepted
      rw [accepted]
      refine .accepts response key fun cause objects => ?_
      rcases objects.answer with ⟨other, _⟩ | ⟨other, _⟩ <;> cases accepted.symm.trans other
    · have objects := Objects.mismatch rest proof
      rcases objects.answer with ⟨_, other⟩ | ⟨rejected, _⟩
      · cases other
      · rw [rejected]
        exact .rejects objects

/-- A handshake knows every message of the handshake. -/
theorem respond_ne_noChallengeMessage (handshake : Handshake) (nonces : Nonces) {message : Message}
    (kind : message.id ∈ [.challengeSorcResponse, .badChallengeSorcResponse, .ltAck]) :
    (handshake.respond nonces message).1 ≠ .error .noChallengeMessage := by
  simp only [List.mem_cons, List.not_mem_nil, or_false] at kind
  rcases kind with kind | kind | kind
  · have outcome := handshake.judged message.payload
    simp only [respond, kind]
    generalize handshake.answer message.payload = step at outcome ⊢
    cases outcome <;> simp
  · simp [respond, kind]
  · simp [respond, kind]

end Handshake

end PhoneKey
