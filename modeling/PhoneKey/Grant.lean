import PhoneKey.Message
import PhoneKey.Text.Blank
import PhoneKey.Uuid

/-! # Service grants

A grant is asked for by number. The answer carries the number, a status and a text, whose control
characters at both ends are dropped.
-/

namespace PhoneKey

inductive GrantStatus where
  | success
  | pending
  | failure
  | notAllowed
  | invalidTimeFrame
deriving DecidableEq, Repr, Inhabited

namespace GrantStatus

def toByte : GrantStatus → UInt8
  | .success => 0
  | .pending => 1
  | .failure => 2
  | .notAllowed => 3
  | .invalidTimeFrame => 4

def all : List GrantStatus := [.success, .pending, .failure, .notAllowed, .invalidTimeFrame]

def ofByte? (byte : UInt8) : Option GrantStatus := all.find? (·.toByte == byte)

def name : GrantStatus → String
  | .success => "Success"
  | .pending => "Pending"
  | .failure => "Failure"
  | .notAllowed => "NotAllowed"
  | .invalidTimeFrame => "InvalidTimeFrame"

@[simp] theorem ofByte?_toByte (status : GrantStatus) : ofByte? status.toByte = some status := by
  cases status <;> rfl

end GrantStatus

/-- The answer of the peer to a grant request. -/
structure GrantResponse where
  sorcId : Uuid
  grant : UInt16
  status : GrantStatus
  text : String
deriving DecidableEq, Repr, Inhabited

namespace Grant

/-- The payload of a request. -/
def request (grant : UInt16) : Bytes := Bytes.littleEndian 2 grant.toNat

/-- The grant that a request names. -/
def requested? : Bytes → Option UInt16
  | low :: high :: _ => some (UInt16.ofNat (Bytes.ofLittleEndian [low, high]))
  | _ => none

/-- The payload of an answer. -/
def answer (grant : UInt16) (status : GrantStatus) (text : Bytes) : Bytes :=
  Bytes.littleEndian 2 grant.toNat ++ status.toByte :: text

/-- Control characters of seven-bit text. -/
def isControl (byte : UInt8) : Bool := byte < 0x20 || byte == 0x7f

/-- Reads an answer; its status has to be known and its text has to be seven-bit. -/
def response? (sorcId : Uuid) : Bytes → Option GrantResponse
  | low :: high :: status :: text =>
    match GrantStatus.ofByte? status with
    | some status =>
      if text.all (· < 0x80) then
        some
          { sorcId
            grant := UInt16.ofNat (Bytes.ofLittleEndian [low, high])
            status
            text := String.ofList ((Text.trim isControl text).map fun byte => Char.ofNat byte.toNat) }
      else none
    | none => none
  | _ => none

/-- An answer is read as one of the given peer. -/
theorem sorcId_of_response? {sorcId : Uuid} {payload : Bytes} {response : GrantResponse}
    (read : response? sorcId payload = some response) : response.sorcId = sorcId := by
  unfold response? at read
  split at read
  · split at read
    · split at read
      · exact congrArg GrantResponse.sorcId (Option.some.inj read).symm
      · cases read
    · cases read
  · cases read

end Grant

end PhoneKey
