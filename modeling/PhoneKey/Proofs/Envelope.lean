import PhoneKey.Envelope

/-! # Moves of the chains

Sealing moves the outgoing chain and opening moves the incoming one; key and direction stay those of the
session.
-/

namespace PhoneKey

theorem Block.length_split_lt (bytes : Bytes) : (Block.split bytes).2.length < Block.size := by
  fun_induction Block.split bytes with
  | case1 a0 a1 a2 a3 b0 b1 b2 b3 c0 c1 c2 c3 d0 d1 d2 d3 rest blocks tail whole ih =>
    rw [whole] at ih
    exact ih
  | case2 tail short =>
    iterate 16
      obtain _ | ⟨_, tail⟩ := tail
      · simp [Block.size]
    exact (short _ _ _ _ _ _ _ _ _ _ _ _ _ _ _ _ _ rfl).elim

namespace Envelope

/-- A plaintext fills whole blocks, and at least one. -/
theorem length_plaintext (direction : Direction) (message : Bytes) :
    (plaintext direction message).length % Block.size = 0 ∧
      Block.size ≤ (plaintext direction message).length := by
  simp only [plaintext, padding, Block.size, List.length_append, List.length_cons, List.length_replicate]
  omega

@[simp] theorem length_encryptChain (cipher : Aes.Cipher) (start : Block) (blocks : List Block) :
    (encryptChain cipher start blocks).length = blocks.length := by
  induction blocks generalizing start with
  | nil => rfl
  | cons block rest ih => rw [encryptChain, List.length_cons, ih, List.length_cons]

@[simp] theorem length_mac (cipher : Aes.Cipher) (start : Block) (ciphertext : Bytes) :
    (mac cipher start ciphertext).length = macSize := by
  simp [mac, macSize, Block.size]

end Envelope

namespace SealingContext

/-- The encrypted blocks of a message's envelope. -/
def chain (context : SealingContext) (message : Bytes) : List Block :=
  Envelope.encryptChain context.cipher context.sealStart
    (Block.split (Envelope.plaintext context.outgoing message)).1

/-- An envelope without its authentication code. -/
def ciphertext (context : SealingContext) (message : Bytes) : Bytes := Block.join (context.chain message)

theorem fst_encrypt (context : SealingContext) (message : Bytes) :
    (context.encrypt message).1 = context.ciphertext message ++
      Envelope.mac context.cipher context.sealStart (context.ciphertext message) := rfl

theorem snd_encrypt (context : SealingContext) (message : Bytes) :
    (context.encrypt message).2 =
      { context with sealStart := Envelope.chainEnd context.sealStart (context.chain message) } := rfl

/-- Every message makes at least one encrypted block. -/
theorem chain_ne_nil (context : SealingContext) (message : Bytes) : context.chain message ≠ [] := by
  intro empty
  obtain ⟨_, large⟩ := Envelope.length_plaintext context.outgoing message
  have whole := Block.join_split (Envelope.plaintext context.outgoing message)
  have short := Block.length_split_lt (Envelope.plaintext context.outgoing message)
  have none : (Block.split (Envelope.plaintext context.outgoing message)).1 = [] := by
    rw [← List.length_eq_zero_iff, ← Envelope.length_encryptChain context.cipher context.sealStart]
    exact congrArg List.length empty
  rw [none, Block.join, List.flatMap_nil, List.nil_append] at whole
  rw [whole] at short
  omega

/-- Sealing moves the outgoing chain to the last encrypted block of the envelope. -/
theorem ciphertext_eq (context : SealingContext) (message : Bytes) :
    ∃ front, context.ciphertext message = front ++ (context.encrypt message).2.sealStart.toList := by
  have some_last := context.chain_ne_nil message
  have last : (context.encrypt message).2.sealStart = (context.chain message).getLast some_last := by
    rw [snd_encrypt, Envelope.chainEnd, List.getLast?_eq_some_getLast some_last]
    rfl
  refine ⟨Block.join (context.chain message).dropLast, ?_⟩
  calc Block.join (context.chain message)
      = Block.join ((context.chain message).dropLast ++ [(context.chain message).getLast some_last]) := by
        rw [List.dropLast_concat_getLast]
    _ = Block.join (context.chain message).dropLast ++ (context.encrypt message).2.sealStart.toList := by
        rw [last]
        simp [Block.join]

/-- Whole encrypted blocks under a code open exactly if the code is the one for the chain that is expected. -/
theorem decrypt_append (context : SealingContext) {ciphertext code : Bytes}
    (whole : ciphertext.length % Block.size = 0) (some_block : ciphertext ≠ [])
    (size : code.length = Envelope.macSize) :
    context.decrypt (ciphertext ++ code) =
      if Envelope.mac context.cipher context.openStart ciphertext = code then
        .ok (Envelope.messageOf (Block.join (Envelope.decryptChain context.cipher context.openStart
            (Block.split ciphertext).1)),
          { context with
            openStart := Envelope.chainEnd context.openStart (Block.split ciphertext).1 })
      else .error .macMismatch := by
  have front : (ciphertext ++ code).length - Envelope.macSize = ciphertext.length := by
    rw [List.length_append, size, Nat.add_sub_cancel]
  have readable : ¬ ((ciphertext ++ code).length ≤ Envelope.macSize ∨ ciphertext.length % Block.size ≠ 0) := by
    have large := List.length_pos_iff.mpr some_block
    rw [List.length_append, size]
    omega
  simp only [decrypt, front, List.take_left', List.drop_left', if_neg readable]
  by_cases authentic : Envelope.mac context.cipher context.openStart ciphertext = code
  · rw [if_neg (fun forged => forged authentic), if_pos authentic]
  · rw [if_pos authentic, if_neg authentic]

theorem ciphertext_ne_nil (context : SealingContext) (message : Bytes) :
    context.ciphertext message ≠ [] := by
  intro empty
  have size := congrArg List.length empty
  rw [ciphertext, Block.length_join, List.length_nil] at size
  have some_block := List.length_pos_iff.mpr (context.chain_ne_nil message)
  omega

theorem length_ciphertext (context : SealingContext) (message : Bytes) :
    (context.ciphertext message).length % Block.size = 0 := by
  rw [ciphertext, Block.length_join, Block.size, Nat.mul_mod_right]

/-- What an end of the session that expects some start of the chain makes of an envelope. -/
theorem decrypt_fst_encrypt {sender receiver : SealingContext} (shared : receiver.key = sender.key)
    (message : Bytes) :
    receiver.decrypt (sender.encrypt message).1 =
      if Envelope.mac sender.cipher receiver.openStart (sender.ciphertext message) =
          Envelope.mac sender.cipher sender.sealStart (sender.ciphertext message) then
        .ok (Envelope.messageOf (Block.join
            (Envelope.decryptChain sender.cipher receiver.openStart (sender.chain message))),
          { receiver with openStart := Envelope.chainEnd receiver.openStart (sender.chain message) })
      else .error .macMismatch := by
  have same : receiver.cipher = sender.cipher := by rw [cipher, cipher, shared]
  rw [fst_encrypt, decrypt_append receiver (sender.length_ciphertext message)
    (sender.ciphertext_ne_nil message) (Envelope.length_mac ..), same, ciphertext, Block.split_join]

/-- An envelope opens at an end of the session exactly if its authentication code is also right for the
start of the chain that this end expects. -/
theorem decrypt_encrypt_iff {sender receiver : SealingContext} (shared : receiver.key = sender.key)
    (message : Bytes) :
    (∃ opened, receiver.decrypt (sender.encrypt message).1 = .ok opened) ↔
      Envelope.mac sender.cipher receiver.openStart (sender.ciphertext message) =
        Envelope.mac sender.cipher sender.sealStart (sender.ciphertext message) := by
  rw [decrypt_fst_encrypt shared]
  by_cases authentic : Envelope.mac sender.cipher receiver.openStart (sender.ciphertext message) =
      Envelope.mac sender.cipher sender.sealStart (sender.ciphertext message)
  · simp [authentic]
  · simp [authentic]

/-- Whether two contexts belong to the same end of one session. -/
def SameSession (context other : SealingContext) : Prop :=
  other.key = context.key ∧ other.outgoing = context.outgoing

theorem SameSession.refl (context : SealingContext) : context.SameSession context := ⟨rfl, rfl⟩

theorem SameSession.trans {first second third : SealingContext} (left : first.SameSession second)
    (right : second.SameSession third) : first.SameSession third :=
  ⟨right.1.trans left.1, right.2.trans left.2⟩

theorem sameSession_of_decrypt {context following : SealingContext} {data plain : Bytes}
    (opened : context.decrypt data = .ok (plain, following)) : context.SameSession following := by
  simp only [decrypt] at opened
  split at opened
  · cases opened
  · split at opened
    · cases opened
    · cases opened
      exact ⟨rfl, rfl⟩

/-- What opens is ciphertext with its own authentication code. -/
theorem authentic_of_decrypt {context following : SealingContext} {data plain : Bytes}
    (opened : context.decrypt data = .ok (plain, following)) :
    ∃ ciphertext, data = ciphertext ++ Envelope.mac context.cipher context.openStart ciphertext ∧
      plain = Envelope.messageOf
        (Block.join (Envelope.decryptChain context.cipher context.openStart (Block.split ciphertext).1)) := by
  simp only [decrypt] at opened
  split at opened
  · cases opened
  · split at opened
    · cases opened
    · next authentic =>
      cases opened
      refine ⟨data.take (data.length - Envelope.macSize), ?_, rfl⟩
      rw [Decidable.not_not.mp authentic, List.take_append_drop]

end SealingContext

/-- The outcomes of opening an envelope. -/
inductive Protection.Unprotected (context : SealingContext) (data : Bytes) : Message → SealingContext → Prop
  | opened {plain : Bytes} {following : SealingContext}
      (decrypted : context.decrypt data = .ok (plain, following)) :
      Unprotected context data (.ofBytes plain) following
  | closed {cause : CipherError} (failed : context.decrypt data = .error cause) :
      Unprotected context data .invalid context

/-- A protected connection stays protected, whatever arrives. -/
theorem Protection.unprotected (context : SealingContext) (data : Bytes) :
    ∃ message following, (Protection.sealed context).unprotect data = (message, .sealed following) ∧
      Unprotected context data message following := by
  cases outcome : context.decrypt data with
  | error cause => exact ⟨.invalid, context, by simp only [unprotect, outcome], .closed outcome⟩
  | ok result =>
    obtain ⟨plain, following⟩ := result
    exact ⟨.ofBytes plain, following, by simp only [unprotect, outcome], .opened outcome⟩

theorem Protection.Unprotected.sameSession {context following : SealingContext} {data : Bytes}
    {message : Message} (unprotected : Unprotected context data message following) :
    context.SameSession following := by
  cases unprotected with
  | opened decrypted => exact SealingContext.sameSession_of_decrypt decrypted
  | closed failed => exact .refl context

end PhoneKey
