import PhoneKey.Proofs.Handshake.Objections

/-! # Which responses a handshake accepts

Whatever was done with a handshake since it was opened, the nonce at hand is the one that was sent last. A
response of at least two blocks is accepted if its second block is the one that follows from this nonce and
from the first block, and it is rejected otherwise. So every first block leaves one choice for the second,
and what was accepted once is rejected after the handshake was opened anew with another nonce.
-/

namespace PhoneKey

/-- The blocks of a response are its first sixteen bytes and the next sixteen. -/
theorem Payload.sorcResponse_eq_ok_iff {payload : Bytes} {b1 b2 : Block} :
    sorcResponse payload = .ok (b1, b2) ↔
      payload.take Block.size = b1.toList ∧ (payload.drop Block.size).take Block.size = b2.toList := by
  constructor
  · intro read
    have size : ∀ block : Block, block.toList.length = Block.size := Block.length_toList
    obtain ⟨rest, rfl⟩ := eq_of_sorcResponse read
    rw [List.append_assoc, List.take_left' (size b1), List.drop_left' (size b1), List.take_left' (size b2)]
    exact ⟨rfl, rfl⟩
  · rintro ⟨first, second⟩
    rw [← List.take_append_drop Block.size payload, first,
      ← List.take_append_drop Block.size (payload.drop Block.size), second, ← List.append_assoc]
    exact sorcResponse_append b1 b2 _

namespace Handshake

/-- What can be done with a handshake. -/
inductive Operation where
  | start
  | renew (nonce : Block)
  | respond (nonces : Nonces) (message : Message)

def operate (handshake : Handshake) : Operation → Handshake
  | .start => handshake.start.2
  | .renew nonce => (handshake.renew nonce).2
  | .respond nonces message => (handshake.respond nonces message).2.1

/-- The handshake after one operation and the next. -/
def use (handshake : Handshake) (operations : List Operation) : Handshake := operations.foldl operate handshake

/-- What the handshake makes of a response of the peer. -/
def judge (handshake : Handshake) (nonces : Nonces) (payload : Bytes) :
    Except HandshakeError Step × Handshake × Nonces :=
  handshake.respond nonces ⟨.challengeSorcResponse, payload⟩

/-- A handshake that was opened with the nonce at hand. -/
def Opened (handshake : Handshake) : Prop := handshake.opening = handshake.cipher.encrypt handshake.nonce

variable {handshake : Handshake} {nonces : Nonces} {payload : Bytes} {b1 b2 : Block}

private theorem opened_start (handshake : Handshake) : handshake.start.2.Opened := rfl

theorem Opened.operate (opened : handshake.Opened) (operation : Operation) :
    (handshake.operate operation).Opened := by
  cases operation with
  | start => exact opened_start handshake
  | renew nonce => exact opened_start _
  | respond nonces message =>
    simp only [Handshake.operate, respond]
    split
    · exact opened_start _
    all_goals exact opened

theorem Opened.use (opened : handshake.Opened) (operations : List Operation) :
    (handshake.use operations).Opened := by
  induction operations generalizing handshake with
  | nil => exact opened
  | cons operation rest ih => exact ih (opened.operate operation)

/-- An operation may bring another nonce; the key stays. -/
theorem cipher_operate (handshake : Handshake) (operation : Operation) :
    (handshake.operate operation).cipher = handshake.cipher := by
  cases operation with
  | respond nonces message =>
    simp only [operate, respond]
    split <;> rfl
  | _ => rfl

private theorem cipher_use (handshake : Handshake) (operations : List Operation) :
    (handshake.use operations).cipher = handshake.cipher := by
  induction operations generalizing handshake with
  | nil => rfl
  | cons operation rest ih => exact (ih _).trans (cipher_operate handshake operation)

private theorem judge_eq (handshake : Handshake) (nonces : Nonces) (payload : Bytes) :
    handshake.judge nonces payload = (handshake.answer payload, handshake, nonces) := rfl

/-- A response of two blocks is judged by the second of them. -/
theorem judge_of_blocks (nonces : Nonces) (read : Payload.sorcResponse payload = .ok (b1, b2)) :
    (handshake.judge nonces payload).1 =
      if b2 = handshake.cipher.encrypt (handshake.nonce.rotate.xor b1) then
        .ok (.finished (handshake.response b1 b2) (sessionKey (handshake.sorcNonce b1) handshake.nonce))
      else .ok (.rejected (.empty .badChallengePhoneResponse) .responseDoNotMatch) := by
  simp only [judge_eq, answer, read]
  by_cases proof : b2 = handshake.cipher.encrypt (handshake.nonce.rotate.xor b1)
  · rw [if_pos proof, if_neg (not_not.mpr ((handshake.proof_iff b1 b2).mpr proof))]
    rfl
  · rw [if_neg proof, if_pos fun holds => proof ((handshake.proof_iff b1 b2).mp holds)]

/-- The handshake is finished by a response. -/
def Accepts (handshake : Handshake) (payload : Bytes) : Prop :=
  ∃ nonces response key, (handshake.judge nonces payload).1 = .ok (.finished response key)

theorem accepts_iff (read : Payload.sorcResponse payload = .ok (b1, b2)) :
    handshake.Accepts payload ↔ b2 = handshake.cipher.encrypt (handshake.nonce.rotate.xor b1) := by
  constructor
  · rintro ⟨nonces, response, key, finished⟩
    rw [judge_of_blocks nonces read] at finished
    by_contra other
    rw [if_neg other] at finished
    cases finished
  · intro proof
    have finished := @judge_of_blocks handshake payload b1 b2 ⟨fun _ => .zero⟩ read
    rw [if_pos proof] at finished
    exact ⟨_, _, _, finished⟩

/-- Only a response of two blocks is accepted. -/
theorem Accepts.blocks (accepts : handshake.Accepts payload) :
    ∃ b1 b2, Payload.sorcResponse payload = .ok (b1, b2) := by
  obtain ⟨nonces, response, key, finished⟩ := accepts
  cases read : Payload.sorcResponse payload with
  | ok blocks => exact ⟨blocks.1, blocks.2, rfl⟩
  | error cause => simp [judge_eq, answer, read] at finished

theorem corrupt_iff (handshake : Handshake) (nonces : Nonces) (payload : Bytes) :
    (handshake.judge nonces payload).1 = .error .responseIsCorrupt ↔ payload.length < 2 * Block.size := by
  constructor
  · intro corrupt
    cases read : Payload.sorcResponse payload with
    | error cause => exact (Payload.short_of_sorcResponse read).2
    | ok blocks =>
      rw [judge_of_blocks nonces read] at corrupt
      split at corrupt <;> cases corrupt
  · intro short
    simp only [judge_eq, answer, Payload.sorcResponse_of_short short]

/-- How a handshake judges the responses of the peer. -/
structure Discerns (handshake : Handshake) : Prop where
  opened : handshake.Opened
  unchanged : ∀ nonces payload, (handshake.judge nonces payload).2 = (handshake, nonces)
  corrupt_iff : ∀ nonces payload,
    (handshake.judge nonces payload).1 = .error .responseIsCorrupt ↔ payload.length < 2 * Block.size
  /-- Any other response has two blocks, and they decide. -/
  blocks : ∀ payload : Bytes, 2 * Block.size ≤ payload.length → ∃ b1 b2 : Block,
    payload.take Block.size = b1.toList ∧ (payload.drop Block.size).take Block.size = b2.toList
  accepts_iff : ∀ (payload : Bytes) (b1 b2 : Block), payload.take Block.size = b1.toList →
    (payload.drop Block.size).take Block.size = b2.toList →
    (handshake.Accepts payload ↔ b2 = handshake.cipher.encrypt (handshake.nonce.rotate.xor b1))
  finishes : ∀ (nonces : Nonces) (payload : Bytes) (b1 b2 : Block), payload.take Block.size = b1.toList →
    (payload.drop Block.size).take Block.size = b2.toList → handshake.Accepts payload →
    let sorcNonce := (handshake.cipher.decrypt b1).xor handshake.opening
    (handshake.judge nonces payload).1 = .ok (.finished
      ⟨.challengePhoneResponse, (handshake.cipher.encrypt (sorcNonce.rotate.xor b2)).toList⟩
      (sessionKey sorcNonce handshake.nonce))
  rejects : ∀ nonces payload, 2 * Block.size ≤ payload.length → ¬ handshake.Accepts payload →
    (handshake.judge nonces payload).1 =
      .ok (.rejected (.empty .badChallengePhoneResponse) .responseDoNotMatch)
  /-- Every first block goes with one second block, whatever follows it. -/
  determined : ∀ b1 : Block, ∃ b2 : Block, ∀ (other : Block) (rest : Bytes),
    handshake.Accepts (b1.toList ++ other.toList ++ rest) ↔ other = b2
  /-- What was accepted under one nonce is rejected under any other. -/
  stale : ∀ operations, (handshake.use operations).nonce ≠ handshake.nonce →
    ∀ nonces payload, handshake.Accepts payload → ((handshake.use operations).judge nonces payload).1 =
      .ok (.rejected (.empty .badChallengePhoneResponse) .responseDoNotMatch)

/-- The second block tells the nonces under which it is accepted apart. -/
theorem judge_of_stale {other : Handshake} (nonces : Nonces) (shared : other.cipher = handshake.cipher)
    (changed : other.nonce ≠ handshake.nonce) (accepts : handshake.Accepts payload) :
    (other.judge nonces payload).1 =
      .ok (.rejected (.empty .badChallengePhoneResponse) .responseDoNotMatch) := by
  obtain ⟨b1, b2, read⟩ := accepts.blocks
  rw [judge_of_blocks nonces read, shared, (accepts_iff read).mp accepts]
  refine if_neg fun same => changed ?_
  have masked := handshake.cipher.encrypt_injective same
  rw [← Block.rotateBack_rotate other.nonce, ← Block.xor_xor_cancel_right other.nonce.rotate b1, ← masked,
    Block.xor_xor_cancel_right, Block.rotateBack_rotate]

theorem Opened.discerns (opened : handshake.Opened) : handshake.Discerns where
  opened := opened
  unchanged _ _ := rfl
  corrupt_iff := handshake.corrupt_iff
  blocks := by
    intro payload long
    cases read : Payload.sorcResponse payload with
    | ok blocks => exact ⟨blocks.1, blocks.2, Payload.sorcResponse_eq_ok_iff.mp read⟩
    | error cause => exact absurd (Payload.short_of_sorcResponse read).2 (Nat.not_lt.mpr long)
  accepts_iff _ _ _ first second := accepts_iff (Payload.sorcResponse_eq_ok_iff.mpr ⟨first, second⟩)
  finishes := by
    intro nonces payload b1 b2 first second accepts
    have read := Payload.sorcResponse_eq_ok_iff.mpr ⟨first, second⟩
    rw [judge_of_blocks nonces read, if_pos ((Handshake.accepts_iff read).mp accepts)]
    rfl
  rejects := by
    intro nonces payload long refused
    cases read : Payload.sorcResponse payload with
    | ok blocks =>
      rw [judge_of_blocks nonces read, if_neg fun proof => refused ((Handshake.accepts_iff read).mpr proof)]
    | error cause => exact absurd (Payload.short_of_sorcResponse read).2 (Nat.not_lt.mpr long)
  determined b1 := ⟨handshake.cipher.encrypt (handshake.nonce.rotate.xor b1), fun other rest =>
    Handshake.accepts_iff (Payload.sorcResponse_append b1 other rest)⟩
  stale operations changed nonces _ accepts :=
    judge_of_stale nonces (handshake.cipher_use operations) changed accepts

/-- However a handshake was used since it was opened, it accepts the right responses and no others. -/
theorem discerns_of_use (token : LeaseToken) (nonce : Block) (operations : List Operation) :
    Discerns ((new token nonce).start.2.use operations) :=
  ((opened_start (new token nonce)).use operations).discerns

end Handshake

end PhoneKey
