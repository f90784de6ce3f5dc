import PhoneKey.Aes.Cmac
import PhoneKey.Message

/-! # Sealed envelopes

An envelope is a message under a one-byte header, filled with zeros to whole blocks, encrypted with
chained blocks, and followed by eight bytes of an authentication code over the chain's start and the
ciphertext. The start of each direction's chain is the last ciphertext block of the envelope before.
An envelope that does not open changes nothing.
-/

namespace PhoneKey

inductive Direction where
  | toSorc
  | toPhone
deriving DecidableEq, Repr, Inhabited

def Direction.toByte : Direction → UInt8
  | .toSorc => 0
  | .toPhone => 1

def Direction.name : Direction → String
  | .toSorc => "ToSorc"
  | .toPhone => "ToPhone"

namespace Envelope

/-- Bytes of the authentication code. -/
def macSize : Nat := 8

/-- Zeros that fill a header and a message to whole blocks. -/
def padding (messageLength : Nat) : Nat := (Block.size - (messageLength + 1) % Block.size) % Block.size

/-- Header, message and filling. -/
def plaintext (direction : Direction) (message : Bytes) : Bytes :=
  let filling := padding message.length
  ((UInt8.ofNat filling <<< 4) ||| direction.toByte) :: message ++ List.replicate filling 0

/-- The message of a plaintext: the header names how many zeros were filled in, and no more zeros are
dropped than the text ends with. -/
def messageOf : Bytes → Bytes
  | [] => []
  | header :: body =>
    let zeros := (body.reverse.takeWhile (· == 0)).length
    body.take (body.length - min (header >>> 4).toNat zeros)

/-- The last block of a chain, or its start while it has none. -/
def chainEnd (start : Block) (blocks : List Block) : Block := blocks.getLast?.getD start

/-- Encrypts blocks in a chain from a start. -/
def encryptChain (cipher : Aes.Cipher) (start : Block) : List Block → List Block
  | [] => []
  | block :: rest =>
    let sealed := cipher.encrypt (block.xor start)
    sealed :: encryptChain cipher sealed rest

def decryptChain (cipher : Aes.Cipher) (start : Block) : List Block → List Block
  | [] => []
  | block :: rest => (cipher.decrypt block).xor start :: decryptChain cipher block rest

/-- The authentication code of ciphertext that was chained from a start. -/
def mac (cipher : Aes.Cipher) (start : Block) (ciphertext : Bytes) : Bytes :=
  (cipher.cmac (start.toList ++ ciphertext)).toList.drop (Block.size - macSize)

end Envelope

/-- One end of a sealed conversation: the key and the start of the next chain in each direction. -/
structure SealingContext where
  key : Block
  sealStart : Block
  openStart : Block
  outgoing : Direction
deriving DecidableEq, Repr, Inhabited

namespace SealingContext

/-- Both chains of a new conversation start from zero. -/
def new (key : Block) (outgoing : Direction) : SealingContext := ⟨key, .zero, .zero, outgoing⟩

def cipher (context : SealingContext) : Aes.Cipher := .ofKey context.key

/-- The envelope of a message, after which the outgoing chain has moved on. -/
def encrypt (context : SealingContext) (message : Bytes) : Bytes × SealingContext :=
  let cipher := context.cipher
  let blocks := (Block.split (Envelope.plaintext context.outgoing message)).1
  let chain := Envelope.encryptChain cipher context.sealStart blocks
  let ciphertext := Block.join chain
  (ciphertext ++ Envelope.mac cipher context.sealStart ciphertext,
    { context with sealStart := Envelope.chainEnd context.sealStart chain })

/-- Opens an envelope, after which the incoming chain has moved on. -/
def decrypt (context : SealingContext) (data : Bytes) : Except CipherError (Bytes × SealingContext) :=
  let ciphertext := data.take (data.length - Envelope.macSize)
  if data.length ≤ Envelope.macSize ∨ ciphertext.length % Block.size ≠ 0 then .error .invalidLength
  else
    let cipher := context.cipher
    if Envelope.mac cipher context.openStart ciphertext ≠ data.drop (data.length - Envelope.macSize) then
      .error .macMismatch
    else
      let chain := (Block.split ciphertext).1
      let plaintext := Block.join (Envelope.decryptChain cipher context.openStart chain)
      .ok (Envelope.messageOf plaintext,
        { context with openStart := Envelope.chainEnd context.openStart chain })

/-- The printed form, which shows neither the key nor the chains. -/
def describe (context : SealingContext) : String :=
  "EncryptionContext \x7b outgoing: " ++ context.outgoing.name ++ ", .. \x7d"

end SealingContext

/-- How the messages of a connection are protected: not at all, or sealed. -/
inductive Protection where
  | clear
  | sealed (context : SealingContext)
deriving DecidableEq, Repr, Inhabited

namespace Protection

def isSealed : Protection → Bool
  | .clear => false
  | .sealed _ => true

/-- The bytes that are sent for a message. -/
def protect (protection : Protection) (message : Message) : Bytes × Protection :=
  match protection with
  | .clear => (message.toBytes, .clear)
  | .sealed context =>
    let (data, next) := context.encrypt message.toBytes
    (data, .sealed next)

/-- The message of received bytes; an envelope that does not open yields the invalid one. -/
def unprotect (protection : Protection) (data : Bytes) : Message × Protection :=
  match protection with
  | .clear => (.ofBytes data, .clear)
  | .sealed context =>
    match context.decrypt data with
    | .ok (plain, next) => (.ofBytes plain, .sealed next)
    | .error _ => (.invalid, .sealed context)

def describe : Protection → String
  | .clear => "Unauthenticated"
  | .sealed context => "Authenticated(" ++ context.describe ++ ")"

end Protection

end PhoneKey
