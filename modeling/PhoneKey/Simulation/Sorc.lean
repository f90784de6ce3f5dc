import PhoneKey.Envelope
import PhoneKey.Frame.Assembler
import PhoneKey.Frame.Package
import PhoneKey.Grant
import PhoneKey.Handshake

/-! # A simulated peer

The peer answers the phone's question for its limit, takes its side of the handshake and then seals
and opens messages under the session key. Its profile says how it behaves; an honest one answers
everything and proves that it holds the access key.
-/

namespace PhoneKey

/-- How a simulated peer behaves. -/
structure SorcProfile where
  sorcId : Uuid
  key : Block
  /-- The limit that the peer announces and keeps to. -/
  mtu : UInt8
  /-- Refuses challenges until a blob arrives, and names this counter. -/
  requiredBlob : Option UInt32
  /-- Asks for a blob that is newer than this counter instead of answering a challenge. -/
  requestedBlob : Option UInt32
  /-- Answers challenges with too few bytes. -/
  corrupts : Bool
  /-- Answers challenges with a proof that does not hold. -/
  forges : Bool
  answersHeartbeats : Bool
  answersGrants : Bool
  grantStatus : GrantStatus
  grantText : Bytes
deriving DecidableEq, Repr, Inhabited

/-- An honest peer that shares a token's key. -/
def SorcProfile.ofToken (token : LeaseToken) : SorcProfile where
  sorcId := token.sorcId
  key := token.key
  mtu := 20
  requiredBlob := none
  requestedBlob := none
  corrupts := false
  forges := false
  answersHeartbeats := true
  answersGrants := true
  grantStatus := .success
  grantText := Bytes.ofText "OK"

/-- The peer's side of a handshake that waits for the phone's proof. -/
structure SorcHandshake where
  phoneNonce : Block
  sorcNonce : Block
  proof : Block
deriving DecidableEq, Repr, Inhabited

structure Sorc where
  profile : SorcProfile
  handshake : Option SorcHandshake
  session : Option SealingContext
  assembler : Assembler
  /-- Every message of the phone, in clear. -/
  received : List Message
deriving DecidableEq, Repr, Inhabited

namespace Sorc

def new (profile : SorcProfile) : Sorc := ⟨profile, none, none, .empty, []⟩

def hasSession (sorc : Sorc) : Bool := sorc.session.isSome

/-- Forgets the link: handshake, session and unfinished packages. -/
def forgetLink (sorc : Sorc) : Sorc :=
  { sorc with handshake := none, session := none, assembler := .empty }

/-- The frames of a message's bytes; none if they do not fit the peer's limit. -/
def frame (sorc : Sorc) (data : Bytes) : List Bytes :=
  match Frame.split data (Frame.sizeForMtu sorc.profile.mtu.toNat) with
  | .ok frames => frames.map Frame.toBytes
  | .error _ => []

/-- The frames of a message, sealed if a session is up. -/
def say (sorc : Sorc) (message : Message) : List Bytes × Sorc :=
  match sorc.session with
  | none => (sorc.frame message.toBytes, sorc)
  | some context =>
    let (data, next) := context.encrypt message.toBytes
    (sorc.frame data, { sorc with session := some next })

/-- The answer to a grant. -/
def grantAnswer (grant : UInt16) (status : GrantStatus) (text : Bytes) : Message :=
  ⟨.serviceGrantTrigger, Grant.answer grant status text⟩

/-- The last block of a challenge. -/
def opening? (payload : Bytes) : Option Block :=
  if payload.length < Block.size then none
  else Block.ofBytes? (payload.drop (payload.length - Block.size))

/-- Spoils the first byte of a proof. -/
def spoil (proof : Block) : Block := { proof with w0 := { proof.w0 with b0 := proof.w0.b0 ^^^ 0xff } }

/-- Proves to the phone that the peer holds the key, with a nonce of the peer. -/
def prove (sorc : Sorc) (b0 sorcNonce : Block) : Message × Sorc :=
  let cipher := Aes.Cipher.ofKey sorc.profile.key
  let phoneNonce := cipher.decrypt b0
  let b1 := cipher.encrypt (sorcNonce.xor b0)
  let honest := cipher.encrypt (phoneNonce.rotate.xor b1)
  let b2 := if sorc.profile.forges then spoil honest else honest
  (⟨.challengeSorcResponse, b1.toList ++ b2.toList⟩,
    { sorc with handshake := some ⟨phoneNonce, sorcNonce, b2⟩ })

/-- Answers a challenge. Only a proof draws a nonce. -/
def meetChallenge (sorc : Sorc) (nonces : Nonces) (payload : Bytes) :
    Option Message × Sorc × Nonces :=
  match sorc.profile.requiredBlob, sorc.profile.requestedBlob with
  | some counter, _ =>
    (some ⟨.badChallengeSorcResponse, 0 :: Bytes.bigEndian 4 counter.toNat⟩, sorc, nonces)
  | none, some counter =>
    (some ⟨.ltBlobRequest, Bytes.littleEndian 4 counter.toNat⟩, sorc, nonces)
  | none, none =>
    if sorc.profile.corrupts then (some ⟨.challengeSorcResponse, [0xc0, 0xff, 0xee]⟩, sorc, nonces)
    else
      match opening? payload with
      | none => (none, sorc, nonces)
      | some b0 =>
        let (sorcNonce, rest) := nonces.draw
        let (message, next) := sorc.prove b0 sorcNonce
        (some message, next, rest)

/-- Whether a payload proves that the phone holds the key. -/
def accepts (sorc : Sorc) (handshake : SorcHandshake) (payload : Bytes) : Bool :=
  match Block.ofBytes? payload with
  | none => false
  | some b3 =>
    (((Aes.Cipher.ofKey sorc.profile.key).decrypt b3).xor handshake.proof).rotateBack =
      handshake.sorcNonce

/-- Checks the phone's proof, for which there is one try, and opens the session. -/
def verify (sorc : Sorc) (payload : Bytes) : Sorc :=
  match sorc.handshake with
  | none => sorc
  | some handshake =>
    if sorc.accepts handshake payload then
      let key := Handshake.sessionKey handshake.sorcNonce handshake.phoneNonce
      { sorc with handshake := none, session := some (.new key .toPhone) }
    else { sorc with handshake := none }

/-- Takes one message of the phone. -/
def respond (sorc : Sorc) (nonces : Nonces) (message : Message) :
    Option Message × Sorc × Nonces :=
  match message.id with
  | .mtuRequest => (some ⟨.mtuReceive, [sorc.profile.mtu, 0]⟩, sorc, nonces)
  | .challengePhone => sorc.meetChallenge nonces message.payload
  | .challengePhoneResponse => (none, sorc.verify message.payload, nonces)
  | .ltBlob =>
    let content := { sorc.profile with requiredBlob := none, requestedBlob := none }
    (some (.empty .ltAck), { sorc with profile := content }, nonces)
  | .heartbeatRequest =>
    (if sorc.profile.answersHeartbeats then some (.empty .heartbeatResponse) else none, sorc, nonces)
  | .serviceGrant =>
    let answer := (Grant.requested? message.payload).map fun grant =>
      grantAnswer grant sorc.profile.grantStatus sorc.profile.grantText
    (if sorc.profile.answersGrants then answer else none, sorc, nonces)
  | _ => (none, sorc, nonces)

/-- The message of received bytes, if they can be opened. -/
def open? (sorc : Sorc) (data : Bytes) : Option (Message × Sorc) :=
  match sorc.session with
  | none => some (.ofBytes data, sorc)
  | some context =>
    match context.decrypt data with
    | .ok (plain, next) => some (.ofBytes plain, { sorc with session := some next })
    | .error _ => none

/-- Takes one frame of the phone and answers with frames once it completes a message. -/
def receive (sorc : Sorc) (nonces : Nonces) (raw : Bytes) :
    List Bytes × Sorc × Nonces :=
  match Frame.ofBytes raw with
  | .error _ => ([], { sorc with assembler := .empty }, nonces)
  | .ok frame =>
    let (data, assembler) := sorc.assembler.push frame
    let collected := { sorc with assembler }
    match data.bind collected.open? with
    | none => ([], collected, nonces)
    | some (message, opened) =>
      let recorded := { opened with received := opened.received ++ [message] }
      match recorded.respond nonces message with
      | (none, next, rest) => ([], next, rest)
      | (some reply, next, rest) =>
        let (frames, last) := next.say reply
        (frames, last, rest)

end Sorc

end PhoneKey
