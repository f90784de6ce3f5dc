import Mathlib.Data.Finite.Prod
import Mathlib.Data.Fintype.EquivFin
import PhoneKey.Handshake

/-! # Proofs of the key

A block cipher under a fixed key is a bijection of the finitely many blocks, so the peer's proof
determines its second block. An answered proof is the right one, and the answer and the session key
follow from it and from the nonce that opened the handshake.
-/

namespace PhoneKey

instance UInt8.instFinite : Finite UInt8 := Finite.of_injective UInt8.toFin fun _ _ same => UInt8.toFin_inj.mp same

instance : Finite Word :=
  Finite.of_injective (fun word => (word.b0, word.b1, word.b2, word.b3)) fun left right same => by
    cases left
    cases right
    simp_all

instance : Finite Block :=
  Finite.of_injective (fun block => (block.w0, block.w1, block.w2, block.w3)) fun left right same => by
    cases left
    cases right
    simp_all

/-- Every block is the ciphertext of its decryption. -/
@[simp] theorem Aes.Cipher.encrypt_decrypt (cipher : Aes.Cipher) (block : Block) :
    cipher.encrypt (cipher.decrypt block) = block := by
  have injective : Function.Injective cipher.encrypt := fun _ _ same => cipher.encrypt_injective same
  obtain ⟨plain, rfl⟩ := Finite.injective_iff_surjective.mp injective block
  rw [cipher.decrypt_encrypt]

/-- The blocks of a peer's answer are its first thirty-two bytes. -/
theorem Payload.eq_of_sorcResponse {payload : Bytes} {b1 b2 : Block}
    (read : sorcResponse payload = .ok (b1, b2)) :
    ∃ rest, payload = b1.toList ++ b2.toList ++ rest := by
  have whole := Block.join_split payload
  cases blocks : Block.split payload with
  | mk found tail =>
    rw [blocks] at whole
    match found with
    | [] => simp [sorcResponse, blocks] at read
    | [single] => simp [sorcResponse, blocks] at read
    | first :: second :: rest =>
      simp only [sorcResponse, blocks, Except.ok.injEq, Prod.mk.injEq] at read
      obtain ⟨rfl, rfl⟩ := read
      refine ⟨Block.join rest ++ tail, ?_⟩
      rw [← whole]
      simp [Block.join]

namespace Handshake

/-- The nonce that the peer chose, as its first block tells it. -/
def sorcNonce (handshake : Handshake) (b1 : Block) : Block :=
  (handshake.cipher.decrypt b1).xor handshake.opening

/-- What the phone answers to a proof. -/
def response (handshake : Handshake) (b1 b2 : Block) : Message :=
  ⟨.challengePhoneResponse,
    (handshake.cipher.encrypt ((handshake.sorcNonce b1).rotate.xor b2)).toList⟩

/-- The check that the phone makes by decrypting is the peer's own computation. -/
theorem proof_iff (handshake : Handshake) (b1 b2 : Block) :
    ((handshake.cipher.decrypt b2).xor b1).rotateBack = handshake.nonce ↔
      b2 = handshake.cipher.encrypt (handshake.nonce.rotate.xor b1) := by
  constructor
  · intro proof
    rw [← proof, Block.rotate_rotateBack, Block.xor_xor_cancel_right, Aes.Cipher.encrypt_decrypt]
  · intro proof
    rw [proof, Aes.Cipher.decrypt_encrypt, Block.xor_xor_cancel_right, Block.rotateBack_rotate]

/-- The outcomes of a check of the peer's proof. -/
inductive Answered (handshake : Handshake) (payload : Bytes) : Except HandshakeError Step → Prop
  | unreadable (cause : HandshakeError) : Answered handshake payload (.error cause)
  | rejects : Answered handshake payload
      (.ok (.rejected (.empty .badChallengePhoneResponse) .responseDoNotMatch))
  | accepts {b1 b2 : Block} (read : Payload.sorcResponse payload = .ok (b1, b2))
      (proof : b2 = handshake.cipher.encrypt (handshake.nonce.rotate.xor b1)) :
      Answered handshake payload
        (.ok (.finished (handshake.response b1 b2) (sessionKey (handshake.sorcNonce b1) handshake.nonce)))

theorem answered (handshake : Handshake) (payload : Bytes) :
    Answered handshake payload (handshake.answer payload) := by
  cases read : Payload.sorcResponse payload with
  | error cause =>
    simp only [answer, read]
    exact .unreadable cause
  | ok blocks =>
    obtain ⟨b1, b2⟩ := blocks
    simp only [answer, read]
    by_cases proof : ((handshake.cipher.decrypt b2).xor b1).rotateBack = handshake.nonce
    · rw [if_neg (not_not.mpr proof)]
      exact .accepts read ((handshake.proof_iff b1 b2).mp proof)
    · rw [if_pos proof]
      exact .rejects

/-- The blocks by which an honest peer that chose a nonce proves that it holds the key. -/
def firstBlock (handshake : Handshake) (sorcNonce : Block) : Block :=
  handshake.cipher.encrypt (sorcNonce.xor handshake.opening)

def secondBlock (handshake : Handshake) (sorcNonce : Block) : Block :=
  handshake.cipher.encrypt (handshake.nonce.rotate.xor (handshake.firstBlock sorcNonce))

/-- The proof of an honest peer. -/
def proof (handshake : Handshake) (sorcNonce : Block) : Message :=
  ⟨.challengeSorcResponse,
    (handshake.firstBlock sorcNonce).toList ++ (handshake.secondBlock sorcNonce).toList⟩

/-- What the phone answers to the proof of an honest peer. -/
def reply (handshake : Handshake) (sorcNonce : Block) : Message :=
  handshake.response (handshake.firstBlock sorcNonce) (handshake.secondBlock sorcNonce)

@[simp] theorem sorcNonce_firstBlock (handshake : Handshake) (sorcNonce : Block) :
    handshake.sorcNonce (handshake.firstBlock sorcNonce) = sorcNonce := by
  simp [Handshake.sorcNonce, firstBlock]

/-- The phone reads the peer's nonce from an honest proof and finishes. -/
theorem answer_proof (handshake : Handshake) (sorcNonce : Block) :
    handshake.answer (handshake.proof sorcNonce).payload =
      .ok (.finished (handshake.reply sorcNonce) (sessionKey sorcNonce handshake.nonce)) := by
  have read : Payload.sorcResponse (handshake.proof sorcNonce).payload =
      .ok (handshake.firstBlock sorcNonce, handshake.secondBlock sorcNonce) := rfl
  have holds :=
    (handshake.proof_iff (handshake.firstBlock sorcNonce) (handshake.secondBlock sorcNonce)).mpr rfl
  have chosen := handshake.sorcNonce_firstBlock sorcNonce
  simp only [answer, read, holds, ne_eq, not_true_eq_false, if_false]
  rw [Handshake.sorcNonce] at chosen
  rw [reply, response, Handshake.sorcNonce, chosen]

end Handshake

end PhoneKey
