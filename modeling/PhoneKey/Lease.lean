import PhoneKey.Block
import PhoneKey.Error
import PhoneKey.Hex
import PhoneKey.Text.Quoted
import PhoneKey.Uuid

/-! # Lease tokens and their blobs

A token grants access to one peer and holds the key that both share, as text and as the block that
the text stands for. A blob proves to the peer that the lease is fresh; its counter orders blobs.
-/

namespace PhoneKey

namespace AccessKey

/-- Bytes of an access key. -/
def size : Nat := 16

/-- The block of a key text of thirty-two hexadecimal digits. -/
def block (text : String) : Except LeaseError Block :=
  if text = "" then .error .emptyAccessKey
  else
    match (Hex.decode? text).bind Block.ofBytes? with
    | some key => .ok key
    | none => .error .invalidAccessKey

end AccessKey

structure LeaseToken where
  id : String
  leaseId : String
  sorcId : Uuid
  accessKey : String
  key : Block
  key_eq : AccessKey.block accessKey = .ok key

namespace LeaseToken

def make (id leaseId : String) (sorcId : Uuid) (accessKey : String) : Except LeaseError LeaseToken :=
  match valid : AccessKey.block accessKey with
  | .ok key => .ok ⟨id, leaseId, sorcId, accessKey, key, valid⟩
  | .error cause => .error cause

/-- The printed form, which keeps the access key to itself. -/
def describe (token : LeaseToken) : String :=
  "LeaseToken \x7b id: " ++ Text.Quoted.quote token.id ++ ", lease_id: " ++
    Text.Quoted.quote token.leaseId ++ ", sorc_id: " ++ token.sorcId.text ++
    ", sorc_access_key: \"<redacted>\" \x7d"

end LeaseToken

structure LeaseBlob where
  counter : UInt32
  /-- The blob as base64 text. -/
  data : String
deriving DecidableEq, Repr, Inhabited

def LeaseBlob.make (counter : UInt32) (data : String) : Except LeaseError LeaseBlob :=
  if data = "" then .error .invalidBlob else .ok ⟨counter, data⟩

end PhoneKey
