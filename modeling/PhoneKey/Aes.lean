import PhoneKey.Aes.Mixing
import PhoneKey.Error

/-! # AES with a key of one block

A cipher is the list of its round keys. Encryption adds the first, passes the state through nine full
rounds and ends with a round that does not mix; decryption takes the same steps back. Main fact:
decryption undoes encryption, whatever the round keys.
-/

namespace PhoneKey.Aes

structure Cipher where
  first : Block
  middle : List Block
  last : Block
deriving DecidableEq, Repr, Inhabited

def roundConstants : List UInt8 := [0x01, 0x02, 0x04, 0x08, 0x10, 0x20, 0x40, 0x80, 0x1b]

def lastRoundConstant : UInt8 := 0x36

/-- The round key after `key`. -/
def nextKey (key : Block) (constant : UInt8) : Block :=
  let rotated : Word := ⟨key.w3.b1, key.w3.b2, key.w3.b3, key.w3.b0⟩
  let w0 := (key.w0.xor (substituteWord rotated)).xor ⟨constant, 0, 0, 0⟩
  let w1 := key.w1.xor w0
  let w2 := key.w2.xor w1
  ⟨w0, w1, w2, key.w3.xor w2⟩

/-- The round keys that follow `key`, one for each constant. -/
def keysAfter (key : Block) : List UInt8 → List Block
  | [] => []
  | constant :: rest => nextKey key constant :: keysAfter (nextKey key constant) rest

def Cipher.ofKey (key : Block) : Cipher :=
  let middle := keysAfter key roundConstants
  ⟨key, middle, nextKey (middle.getLast?.getD key) lastRoundConstant⟩

/-- A cipher for key bytes, which have to fill one block. -/
def Cipher.ofBytes (key : Bytes) : Except CipherError Cipher :=
  match Block.ofBytes? key with
  | some block => .ok (.ofKey block)
  | none => .error .invalidKey

def round (state key : Block) : Block := (mixColumns (shiftRows (substituteBytes state))).xor key

def unround (key state : Block) : Block :=
  unsubstituteBytes (unshiftRows (unmixColumns (state.xor key)))

def lastRound (state key : Block) : Block := (shiftRows (substituteBytes state)).xor key

def unlastRound (key state : Block) : Block := unsubstituteBytes (unshiftRows (state.xor key))

def Cipher.encrypt (cipher : Cipher) (block : Block) : Block :=
  lastRound (cipher.middle.foldl round (block.xor cipher.first)) cipher.last

def Cipher.decrypt (cipher : Cipher) (block : Block) : Block :=
  (cipher.middle.foldr unround (unlastRound cipher.last block)).xor cipher.first

@[simp] theorem unround_round (state key : Block) : unround key (round state key) = state := by
  simp [round, unround]

@[simp] theorem unlastRound_lastRound (state key : Block) :
    unlastRound key (lastRound state key) = state := by
  simp [lastRound, unlastRound]

private theorem foldr_unround_foldl_round (keys : List Block) (state : Block) :
    keys.foldr unround (keys.foldl round state) = state := by
  induction keys generalizing state with
  | nil => rfl
  | cons key rest ih => simp [ih]

@[simp] theorem Cipher.decrypt_encrypt (cipher : Cipher) (block : Block) :
    cipher.decrypt (cipher.encrypt block) = block := by
  simp [Cipher.encrypt, Cipher.decrypt, foldr_unround_foldl_round]

theorem Cipher.encrypt_injective (cipher : Cipher) {left right : Block}
    (same : cipher.encrypt left = cipher.encrypt right) : left = right := by
  rw [← cipher.decrypt_encrypt left, same, cipher.decrypt_encrypt]

/-- The example of the published standard. -/
example : Block.ofBytes? ((Cipher.ofKey ⟨⟨0x2b, 0x7e, 0x15, 0x16⟩, ⟨0x28, 0xae, 0xd2, 0xa6⟩,
      ⟨0xab, 0xf7, 0x15, 0x88⟩, ⟨0x09, 0xcf, 0x4f, 0x3c⟩⟩).encrypt
      ⟨⟨0x32, 0x43, 0xf6, 0xa8⟩, ⟨0x88, 0x5a, 0x30, 0x8d⟩, ⟨0x31, 0x31, 0x98, 0xa2⟩,
        ⟨0xe0, 0x37, 0x07, 0x34⟩⟩).toList =
    Block.ofBytes? [0x39, 0x25, 0x84, 0x1d, 0x02, 0xdc, 0x09, 0xfb, 0xdc, 0x11, 0x85, 0x97, 0x19,
      0x6a, 0x0b, 0x32] := by decide +kernel

end PhoneKey.Aes
