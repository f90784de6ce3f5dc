import PhoneKey.Bytes

/-! # Messages

A message is one identifying byte and a payload. Bytes that name no message stand for an invalid
one, which has a byte of its own on the wire.
-/

namespace PhoneKey

inductive MessageId where
  | challengePhone
  | challengeSorcResponse
  | badChallengeSorcResponse
  | challengePhoneResponse
  | badChallengePhoneResponse
  | mtuRequest
  | mtuReceive
  | ltAck
  | ltBlobRequest
  | ltBlob
  | heartbeatRequest
  | heartbeatResponse
  | phoneTest
  | sorcTest
  | serviceGrant
  | serviceGrantTrigger
  | notValid
deriving DecidableEq, Repr, Inhabited

namespace MessageId

def toByte : MessageId → UInt8
  | .challengePhone => 0x01
  | .challengeSorcResponse => 0x02
  | .badChallengeSorcResponse => 0x03
  | .challengePhoneResponse => 0x04
  | .badChallengePhoneResponse => 0x05
  | .mtuRequest => 0x06
  | .mtuReceive => 0x07
  | .ltAck => 0x09
  | .ltBlobRequest => 0x0a
  | .ltBlob => 0x0b
  | .heartbeatRequest => 0x0c
  | .heartbeatResponse => 0x0d
  | .phoneTest => 0x10
  | .sorcTest => 0x13
  | .serviceGrant => 0x20
  | .serviceGrantTrigger => 0x30
  | .notValid => 0xc8

/-- The name under which reports mention a message. -/
def name : MessageId → String
  | .challengePhone => "ChallengePhone"
  | .challengeSorcResponse => "ChallengeSorcResponse"
  | .badChallengeSorcResponse => "BadChallengeSorcResponse"
  | .challengePhoneResponse => "ChallengePhoneResponse"
  | .badChallengePhoneResponse => "BadChallengePhoneResponse"
  | .mtuRequest => "MtuRequest"
  | .mtuReceive => "MtuReceive"
  | .ltAck => "LtAck"
  | .ltBlobRequest => "LtBlobRequest"
  | .ltBlob => "LtBlob"
  | .heartbeatRequest => "HeartbeatRequest"
  | .heartbeatResponse => "HeartbeatResponse"
  | .phoneTest => "PhoneTest"
  | .sorcTest => "SorcTest"
  | .serviceGrant => "ServiceGrant"
  | .serviceGrantTrigger => "ServiceGrantTrigger"
  | .notValid => "NotValid"

/-- Every message that has a byte of its own. -/
def known : List MessageId :=
  [.challengePhone, .challengeSorcResponse, .badChallengeSorcResponse, .challengePhoneResponse,
   .badChallengePhoneResponse, .mtuRequest, .mtuReceive, .ltAck, .ltBlobRequest, .ltBlob,
   .heartbeatRequest, .heartbeatResponse, .phoneTest, .sorcTest, .serviceGrant, .serviceGrantTrigger]

def ofByte (byte : UInt8) : MessageId := (known.find? (·.toByte == byte)).getD .notValid

@[simp] theorem ofByte_toByte (id : MessageId) : ofByte id.toByte = id := by cases id <;> rfl

/-- Only its own byte names a message. -/
theorem ofByte_eq_iff {byte : UInt8} {id : MessageId} (valid : id ≠ .notValid) :
    ofByte byte = id ↔ byte = id.toByte := by
  constructor
  · intro named
    cases found : known.find? (·.toByte == byte) with
    | none => exact absurd (by simpa [ofByte, found] using named.symm) valid
    | some other =>
      obtain rfl : other = id := by simpa [ofByte, found] using named
      have named : (other.toByte == byte) = true := by simpa using List.find?_some found
      exact (beq_iff_eq.mp named).symm
  · rintro rfl
    exact ofByte_toByte id

end MessageId

structure Message where
  id : MessageId
  payload : Bytes
deriving DecidableEq, Repr, Inhabited

namespace Message

/-- A message without a payload. -/
def empty (id : MessageId) : Message := ⟨id, []⟩

/-- What stands for data that holds no message. -/
def invalid : Message := empty .notValid

def isValid (message : Message) : Bool := message.id != .notValid

def toBytes (message : Message) : Bytes := message.id.toByte :: message.payload

def ofBytes : Bytes → Message
  | [] => invalid
  | id :: payload => ⟨.ofByte id, payload⟩

@[simp] theorem ofBytes_toBytes (message : Message) : ofBytes message.toBytes = message := by
  simp [ofBytes, toBytes]

theorem ofBytes_eq_iff {data : Bytes} {message : Message} (valid : message.id ≠ .notValid) :
    ofBytes data = message ↔ data = message.toBytes := by
  constructor
  · rintro rfl
    cases data with
    | nil => exact absurd rfl valid
    | cons byte payload =>
      exact congrArg (· :: payload) ((MessageId.ofByte_eq_iff valid).mp rfl)
  · rintro rfl
    exact ofBytes_toBytes message

end Message

end PhoneKey
