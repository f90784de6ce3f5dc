import PhoneKey.Proofs.Envelope

/-! # Opening what was sealed

An end that holds the key and expects the chain where the other end started it opens an envelope to
exactly the message that was sealed, whatever its bytes are, and both ends agree on the chain again.
-/

namespace PhoneKey

/-- Bytes that fill whole blocks are their blocks. -/
theorem Block.join_split_of_whole {bytes : Bytes} (whole : bytes.length % Block.size = 0) :
    Block.join (Block.split bytes).1 = bytes := by
  have parts := Block.join_split bytes
  have short := Block.length_split_lt bytes
  have total := congrArg List.length parts
  rw [List.length_append, Block.length_join] at total
  have none_left : (Block.split bytes).2 = [] := by
    rw [← List.length_eq_zero_iff]
    simp only [Block.size] at whole short
    omega
  rw [none_left, List.append_nil] at parts
  exact parts

namespace Envelope

/-- Decryption follows the chain back, whatever its start. -/
theorem decryptChain_encryptChain (cipher : Aes.Cipher) (start : Block) (blocks : List Block) :
    decryptChain cipher start (encryptChain cipher start blocks) = blocks := by
  induction blocks generalizing start with
  | nil => rfl
  | cons block rest ih =>
    rw [encryptChain, decryptChain, ih, Aes.Cipher.decrypt_encrypt, Block.xor_xor_cancel_right]

theorem padding_lt (messageLength : Nat) : padding messageLength < 16 := Nat.mod_lt _ (by decide)

/-- The header names the number of filled zeros in its high half, beside the direction. -/
theorem header_shift {filling : Nat} (small : filling < 16) (direction : Direction) :
    (((UInt8.ofNat filling <<< 4) ||| direction.toByte) >>> 4).toNat = filling := by
  have table : ∀ number < 16, (((UInt8.ofNat number <<< 4) ||| direction.toByte) >>> 4).toNat = number := by
    cases direction <;> decide
  exact table filling small

/-- What was filled in is dropped, and zeros that end the message stay. -/
theorem messageOf_plaintext (direction : Direction) (message : Bytes) :
    messageOf (plaintext direction message) = message := by
  have named := header_shift (padding_lt message.length) direction
  have enough : padding message.length ≤
      ((message ++ List.replicate (padding message.length) (0 : UInt8)).reverse.takeWhile (· == 0)).length := by
    rw [List.reverse_append, List.reverse_replicate, List.takeWhile_append_of_pos (by simp),
      List.length_append, List.length_replicate]
    omega
  simp only [plaintext, List.cons_append, messageOf, named, Nat.min_eq_left enough, List.length_append,
    List.length_replicate, Nat.add_sub_cancel]
  exact List.take_left' rfl

end Envelope

namespace SealingContext

/-- The blocks of a chain, read from its start, are those of the plaintext. -/
theorem join_decryptChain_chain (context : SealingContext) (message : Bytes) :
    Block.join (Envelope.decryptChain context.cipher context.sealStart (context.chain message)) =
      Envelope.plaintext context.outgoing message := by
  rw [chain, Envelope.decryptChain_encryptChain]
  exact Block.join_split_of_whole (Envelope.length_plaintext context.outgoing message).1

/-- An end that is in step with the sender opens the envelope to the message and stays in step. -/
theorem decrypt_encrypt {sender receiver : SealingContext} (shared : receiver.key = sender.key)
    (inStep : receiver.openStart = sender.sealStart) (message : Bytes) :
    receiver.decrypt (sender.encrypt message).1 =
      .ok (message, { receiver with openStart := (sender.encrypt message).2.sealStart }) := by
  rw [decrypt_fst_encrypt shared, inStep, if_pos rfl, join_decryptChain_chain,
    Envelope.messageOf_plaintext, snd_encrypt]

end SealingContext

end PhoneKey
