import PhoneKey.Base64
import PhoneKey.Error
import PhoneKey.Message
import PhoneKey.Text.Casing
import PhoneKey.Uuid

/-! # Payloads

What the payloads of the link, handshake and blob messages hold, and how each is read. Readers take
what they need from the front and ignore the rest.
-/

namespace PhoneKey

/-- The bytes of a text in its transfer form. -/
def Bytes.ofText (text : String) : Bytes := text.toUTF8.toList

namespace Payload

/-- The limit that the peer announces, in the first byte. -/
def mtu? (payload : Bytes) : Option Nat := payload.head?.map UInt8.toNat

/-- Bytes of a challenge whose identifiers have their usual form. -/
def challengeSize : Nat := 36 * 3 + Block.size

/-- The opening challenge: lease, peer and token identifiers, then the encrypted nonce. Identifiers
are written as they are, whatever their length; the token's is put into lower case. -/
def challenge (leaseId : String) (sorcId : Uuid) (tokenId : String) (opening : Block) : Bytes :=
  Bytes.ofText leaseId ++ Bytes.ofText sorcId.text ++ Bytes.ofText (Text.Casing.lowercase tokenId) ++
    opening.toList

/-- The two blocks of the answer to a challenge. -/
def sorcResponse (payload : Bytes) : Except HandshakeError (Block × Block) :=
  match Block.split payload with
  | (first :: second :: _, _) => .ok (first, second)
  | _ => .error .responseIsCorrupt

/-- The blob counter behind the first byte of a rejected challenge, highest byte first. -/
def rejectedCounter? : Bytes → Option UInt32
  | _ :: a :: b :: c :: d :: _ => some (UInt32.ofNat (Bytes.ofBigEndian [a, b, c, d]))
  | _ => none

/-- The blob counter of a request, lowest byte first; missing bytes count as zero. -/
def blobRequestCounter (payload : Bytes) : UInt32 :=
  UInt32.ofNat (Bytes.ofLittleEndian (payload.take 4))

/-- The bytes of a blob from its text, which has to be present and well formed. -/
def blob (text : String) : Except LeaseError Bytes :=
  if text = "" then .error .invalidBlob
  else
    match Base64.decode? text with
    | some bytes => .ok bytes
    | none => .error .invalidBlob

end Payload

end PhoneKey
