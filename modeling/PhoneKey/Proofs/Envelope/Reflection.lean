import PhoneKey.Proofs.Envelope.Conversation
import PhoneKey.Proofs.Run

/-! # Envelopes that come back

Both ends of a session seal under one key, and the authentication code for the start of the chain decides
what an end opens. The direction that the header names takes no part in it. What an end sealed itself is
refused only because it expects another start, and it opens when the start is the same.
-/

namespace PhoneKey

/-- The header names the direction in its low half, beside the number of filled zeros. -/
theorem Envelope.header_direction {filling : Nat} (small : filling < 16) (direction : Direction) :
    ((UInt8.ofNat filling <<< 4) ||| direction.toByte) &&& 0x0f = direction.toByte := by
  have table : ∀ number < 16,
      ((UInt8.ofNat number <<< 4) ||| direction.toByte) &&& 0x0f = direction.toByte := by
    cases direction <;> decide
  exact table filling small

namespace SealingContext

/-- What an end of a session is used for. -/
inductive Operation where
  | encrypt (message : Bytes)
  | decrypt (data : Bytes)

/-- Seals or opens, and reports the envelope or the message. -/
def operate (context : SealingContext) : Operation → Turn SealingContext (Except CipherError Bytes)
  | .encrypt message => .report (context.encrypt message).2 (.ok (context.encrypt message).1)
  | .decrypt data =>
    match context.decrypt data with
    | .ok (message, next) => .report next (.ok message)
    | .error cause => .report context (.error cause)

/-- Uses an end for one operation after the other. -/
def use (context : SealingContext) (operations : List Operation) :
    Turn SealingContext (Except CipherError Bytes) := Turn.forEach operate context operations

/-- The calls of an end that is used. -/
def uses (context : SealingContext) (operations : List Operation) : List (Call SealingContext Operation) :=
  Turn.calls operate context operations

/-- The direction that the header of an envelope names when it is decrypted, in its low half. -/
def named? (context : SealingContext) (data : Bytes) : Option UInt8 :=
  let ciphertext := data.take (data.length - Envelope.macSize)
  let plaintext := Block.join
    (Envelope.decryptChain context.cipher context.openStart (Block.split ciphertext).1)
  plaintext.head?.map (· &&& 0x0f)

variable {context : SealingContext} {key : Block} {direction : Direction} {operations : List Operation}

private theorem sameSession_of_operate (context : SealingContext) (operation : Operation) :
    context.SameSession (context.operate operation).state := by
  cases operation with
  | encrypt message => exact ⟨rfl, rfl⟩
  | decrypt data =>
    rw [operate]
    split
    · next opened => exact sameSession_of_decrypt opened
    · exact .refl context

private theorem sameSession_of_use (context : SealingContext) (operations : List Operation) :
    context.SameSession (context.use operations).state := by
  induction operations using List.reverseRecOn with
  | nil => exact .refl context
  | append_singleton operations operation ih =>
    rw [use, Turn.state_forEach_concat]
    exact ih.trans (sameSession_of_operate _ operation)

private theorem sameSession_of_mem_uses {call : Call SealingContext Operation}
    (made : call ∈ context.uses operations) : context.SameSession call.before := by
  obtain ⟨earlier, _, _, found⟩ := Turn.before_of_mem_calls operate made
  rw [found]
  exact sameSession_of_use context earlier

/-- Data opens if it is whole blocks and their code for the start that is expected, and only then. -/
theorem decrypt_iff (context : SealingContext) (data : Bytes) :
    (∃ opened, context.decrypt data = .ok opened) ↔
      ∃ blocks, blocks ≠ [] ∧ data = Block.join blocks ++
        Envelope.mac context.cipher context.openStart (Block.join blocks) := by
  constructor
  · rintro ⟨opened, decrypted⟩
    simp only [decrypt] at decrypted
    split at decrypted
    · cases decrypted
    · next readable =>
      obtain ⟨large, whole⟩ := not_or.mp readable
      split at decrypted
      · cases decrypted
      · next authentic =>
        have blocks := Block.join_split_of_whole (Decidable.not_not.mp whole)
        refine ⟨(Block.split (data.take (data.length - Envelope.macSize))).1, ?_, ?_⟩
        · intro none
          rw [none, Block.join, List.flatMap_nil] at blocks
          have empty := congrArg List.length blocks
          rw [List.length_nil, List.length_take] at empty
          omega
        · rw [blocks, Decidable.not_not.mp authentic, List.take_append_drop]
  · rintro ⟨blocks, some_block, rfl⟩
    have whole : (Block.join blocks).length % Block.size = 0 := by
      rw [Block.length_join, Block.size, Nat.mul_mod_right]
    have full : Block.join blocks ≠ [] := by
      intro empty
      have none := Block.split_join blocks
      rw [empty] at none
      exact some_block (Prod.mk.inj none).1.symm
    rw [decrypt_append context whole full (Envelope.length_mac ..), if_pos rfl]
    exact ⟨_, rfl⟩

/-- An envelope that was sealed from the start that an end expects names the direction of whoever sealed it. -/
theorem named?_encrypt {sender receiver : SealingContext} (shared : receiver.key = sender.key)
    (inStep : receiver.openStart = sender.sealStart) (message : Bytes) :
    receiver.named? (sender.encrypt message).1 = some sender.outgoing.toByte := by
  have same : receiver.cipher = sender.cipher := by rw [cipher, cipher, shared]
  have front : (sender.encrypt message).1.take ((sender.encrypt message).1.length - Envelope.macSize) =
      sender.ciphertext message := by
    rw [fst_encrypt, List.length_append, Envelope.length_mac, Nat.add_sub_cancel, List.take_left']
    rfl
  simp only [named?]
  rw [front, ciphertext, Block.split_join, same, inStep, join_decryptChain_chain]
  exact congrArg some (Envelope.header_direction (Envelope.padding_lt message.length) sender.outgoing)

private theorem snd_sealAll (context : SealingContext) (messages : List Bytes) :
    (context.sealAll messages).2.key = context.key ∧
      (context.sealAll messages).2.openStart = context.openStart := by
  induction messages generalizing context with
  | nil => exact ⟨rfl, rfl⟩
  | cons message rest ih => exact ih (context.encrypt message).2

/-- Envelopes that are opened in order by an end in step with the sender open to the messages. -/
theorem reports_use_sealAll {sender receiver : SealingContext} (shared : receiver.key = sender.key)
    (inStep : receiver.openStart = sender.sealStart) (messages : List Bytes) :
    (receiver.use ((sender.sealAll messages).1.map .decrypt)).reports = messages.map .ok := by
  induction messages generalizing sender receiver with
  | nil => rfl
  | cons message rest ih =>
    have opened := decrypt_encrypt shared inStep message
    have step : receiver.operate (.decrypt (sender.encrypt message).1) =
        .report { receiver with openStart := (sender.encrypt message).2.sealStart } (.ok message) := by
      simp only [operate, opened]
    have whole : (sender.sealAll (message :: rest)).1.map Operation.decrypt =
        .decrypt (sender.encrypt message).1 ::
          ((sender.encrypt message).2.sealAll rest).1.map .decrypt := rfl
    rw [whole, use, Turn.forEach_cons, step]
    have rest_opened := @ih (sender.encrypt message).2
      { receiver with openStart := (sender.encrypt message).2.sealStart } shared rfl
    exact congrArg (.ok message :: ·) rest_opened

/-- What an end makes of envelopes that come back to it, after some calls. -/
structure Undirected (context : SealingContext) (calls : List (Call SealingContext Operation)) : Prop where
  /-- The code decides what opens. -/
  opens_iff : ∀ data, (∃ opened, context.decrypt data = .ok opened) ↔
    ∃ blocks, blocks ≠ [] ∧ data = Block.join blocks ++
      Envelope.mac context.cipher context.openStart (Block.join blocks)
  /-- What does not open changes nothing. -/
  kept : ∀ data cause, context.decrypt data = .error cause →
    (context.operate (.decrypt data)).state = context
  /-- An envelope from the start that is expected opens whichever direction its header names. -/
  either : ∀ outgoing message,
    let sealer := { context with sealStart := context.openStart, outgoing }
    context.named? (sealer.encrypt message).1 = some outgoing.toByte ∧
      context.decrypt (sealer.encrypt message).1 =
        .ok (message, { context with openStart := (sealer.encrypt message).2.sealStart })
  /-- What the end sealed itself opens exactly if its code is also right for the start that is expected. -/
  own_iff : ∀ call ∈ calls, ∀ message, call.input = .encrypt message →
    ((∃ opened, context.decrypt (call.before.encrypt message).1 = .ok opened) ↔
      Envelope.mac context.cipher context.openStart (call.before.ciphertext message) =
        Envelope.mac context.cipher call.before.sealStart (call.before.ciphertext message))
  /-- What the end sealed from the very start that it expects opens to the message. -/
  own : ∀ call ∈ calls, ∀ message, call.input = .encrypt message →
    call.before.sealStart = context.openStart →
      context.named? (call.before.encrypt message).1 = some context.outgoing.toByte ∧
        context.decrypt (call.before.encrypt message).1 =
          .ok (message, { context with openStart := (call.before.encrypt message).2.sealStart })
  /-- While both chains of the end are at the same place, all that it goes on to seal can be returned to it. -/
  returned : context.openStart = context.sealStart → ∀ messages,
    ((context.sealAll messages).2.use ((context.sealAll messages).1.map .decrypt)).reports =
      messages.map .ok

/-- However an end was used before, it pays no attention to the direction of what it opens. -/
theorem undirected_of_use (key : Block) (direction : Direction) (operations : List Operation) :
    Undirected ((new key direction).use operations).state ((new key direction).uses operations) := by
  have session := sameSession_of_use (new key direction) operations
  have shared : ∀ call ∈ (new key direction).uses operations,
      call.before.key = ((new key direction).use operations).state.key ∧
        call.before.outgoing = ((new key direction).use operations).state.outgoing := by
    intro call made
    have before := sameSession_of_mem_uses made
    exact ⟨before.1.trans session.1.symm, before.2.trans session.2.symm⟩
  generalize ((new key direction).use operations).state = context at shared ⊢
  refine ⟨decrypt_iff context, ?_, ?_, ?_, ?_, ?_⟩
  · intro data cause refused
    simp only [operate, refused]
    rfl
  · intro outgoing message sealer
    exact ⟨@named?_encrypt sealer context rfl rfl message, @decrypt_encrypt sealer context rfl rfl message⟩
  · intro call made message _
    have sameKey := (shared call made).1
    have sameCipher : context.cipher = call.before.cipher := by rw [cipher, cipher, sameKey]
    rw [sameCipher]
    exact decrypt_encrypt_iff sameKey.symm message
  · intro call made message _ inStep
    obtain ⟨sameKey, sameWay⟩ := shared call made
    have named := named?_encrypt sameKey.symm inStep.symm message
    rw [sameWay] at named
    exact ⟨named, decrypt_encrypt sameKey.symm inStep.symm message⟩
  · intro level messages
    obtain ⟨sameKey, sameStart⟩ := snd_sealAll context messages
    exact reports_use_sealAll sameKey (sameStart.trans level) messages

end SealingContext

end PhoneKey
