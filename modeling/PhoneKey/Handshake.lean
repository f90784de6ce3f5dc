import PhoneKey.Aes
import PhoneKey.Lease
import PhoneKey.Message.Payload

/-! # The handshake

Phone and peer prove to each other that they hold the access key `k` without sending it. With `E` for
encryption of one block under `k` and `P` for the rotation of a block:

* the phone picks a nonce `nc` and sends `b0 = E nc`;
* the peer picks `nr` and answers `b1 = E (nr + b0)` and `b2 = E (P nc + b1)`;
* the phone checks `b2`, reads `nr` and answers `b3 = E (P nr + b2)`, which the peer checks.

The session key is made of both nonces.
-/

namespace PhoneKey

/-- Sixteen random bytes, as often as they are asked for. -/
structure Nonces where
  nth : Nat → Block

/-- The next nonce and the ones after it. -/
def Nonces.draw (nonces : Nonces) : Block × Nonces :=
  (nonces.nth 0, ⟨fun index => nonces.nth (index + 1)⟩)

/-- The phone's side of one handshake. -/
structure Handshake where
  token : LeaseToken
  nonce : Block
  /-- The nonce as it was sent. -/
  opening : Block

namespace Handshake

/-- First and last words of both nonces, the peer's before the phone's. -/
def sessionKey (sorcNonce phoneNonce : Block) : Block :=
  ⟨sorcNonce.w0, phoneNonce.w0, sorcNonce.w3, phoneNonce.w3⟩

/-- What the phone does with a message of the handshake. -/
inductive Step where
  | send (message : Message)
  | finished (response : Message) (sessionKey : Block)
  /-- The peer wants a blob that is at least as new as its counter. -/
  | needsBlob (counter : Option UInt32)
  /-- The peer did not prove that it holds the key. -/
  | rejected (response : Message) (cause : HandshakeError)
deriving DecidableEq, Repr, Inhabited

def new (token : LeaseToken) (nonce : Block) : Handshake := ⟨token, nonce, .zero⟩

def cipher (handshake : Handshake) : Aes.Cipher := .ofKey handshake.token.key

/-- Opens the handshake with the nonce at hand. -/
def start (handshake : Handshake) : Message × Handshake :=
  let opening := handshake.cipher.encrypt handshake.nonce
  (⟨.challengePhone, Payload.challenge handshake.token.leaseId handshake.token.sorcId
      handshake.token.id opening⟩,
    { handshake with opening })

/-- Opens the handshake anew with another nonce. -/
def renew (handshake : Handshake) (nonce : Block) : Message × Handshake :=
  start { handshake with nonce }

/-- Checks the peer's proof and answers it. -/
def answer (handshake : Handshake) (payload : Bytes) : Except HandshakeError Step :=
  match Payload.sorcResponse payload with
  | .error cause => .error cause
  | .ok (b1, b2) =>
    let cipher := handshake.cipher
    let proof := (cipher.decrypt b2).xor b1
    if proof.rotateBack ≠ handshake.nonce then
      .ok (.rejected (.empty .badChallengePhoneResponse) .responseDoNotMatch)
    else
      let sorcNonce := (cipher.decrypt b1).xor handshake.opening
      let b3 := cipher.encrypt (sorcNonce.rotate.xor b2)
      .ok (.finished ⟨.challengePhoneResponse, b3.toList⟩ (sessionKey sorcNonce handshake.nonce))

/-- Takes one message of the peer. Only an acknowledged blob draws a nonce, for the restart. -/
def respond (handshake : Handshake) (nonces : Nonces) (message : Message) :
    Except HandshakeError Step × Handshake × Nonces :=
  match message.id with
  | .ltAck =>
    let (nonce, rest) := nonces.draw
    let (opening, next) := handshake.renew nonce
    (.ok (.send opening), next, rest)
  | .badChallengeSorcResponse =>
    (.ok (.needsBlob (Payload.rejectedCounter? message.payload)), handshake, nonces)
  | .challengeSorcResponse => (handshake.answer message.payload, handshake, nonces)
  | _ => (.error .noChallengeMessage, handshake, nonces)

/-- The printed form, which shows no secret. -/
def describe (handshake : Handshake) : String :=
  "Challenger \x7b sorc_id: " ++ handshake.token.sorcId.text ++ ", .. \x7d"

end Handshake

end PhoneKey
