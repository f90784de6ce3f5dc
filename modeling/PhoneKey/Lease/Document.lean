import PhoneKey.Json
import PhoneKey.Lease
import PhoneKey.Text.Blank

/-! # Lease documents

Tokens and blobs arrive as JSON. Identifiers may have any of their shapes and are kept in the usual
one. A blob's counter is a number in a text, with blanks around it and a plus sign if need be.
-/

namespace PhoneKey

/-- Why a lease document was refused. -/
inductive LeaseDocumentError where
  | tokenNotJson
  | unusableAccessKey (cause : LeaseError)
  | blobNotJson
  | counterNotNumber (counter : String)
  | emptyBlob (sorcId : Uuid)
deriving DecidableEq, Repr, Inhabited

namespace LeaseDocumentError

def message : LeaseDocumentError → String
  | .tokenNotJson => "lease token is not valid JSON"
  | .unusableAccessKey _ => "lease token carries an unusable access key"
  | .blobNotJson => "lease token blob is not valid JSON"
  | .counterNotNumber counter => "blob counter " ++ Text.Quoted.quote counter ++ " is not a number"
  | .emptyBlob sorcId => "blob for SORC " ++ sorcId.text ++ " is empty"

/-- The failure of the lease itself that lies beneath. -/
def cause? : LeaseDocumentError → Option LeaseError
  | .unusableAccessKey cause => some cause
  | _ => none

end LeaseDocumentError

namespace LeaseToken

/-- Identifiers of token, lease and peer, and the key text. -/
def fieldsOfJson? (document : String) : Option (Uuid × Uuid × Uuid × String) := do
  let record ← Json.parse? document
  match ← record.fields? ["leaseTokenId", "leaseId", "sorcId", "sorcAccessKey"] with
  | [tokenId, leaseId, sorcId, accessKey] =>
    some (← Uuid.ofText? (← tokenId.text?), ← Uuid.ofText? (← leaseId.text?),
      ← Uuid.ofText? (← sorcId.text?), ← accessKey.text?)
  | _ => none

def ofJson (document : String) : Except LeaseDocumentError LeaseToken :=
  match fieldsOfJson? document with
  | none => .error .tokenNotJson
  | some (tokenId, leaseId, sorcId, accessKey) =>
    match make tokenId.text leaseId.text sorcId accessKey with
    | .ok token => .ok token
    | .error cause => .error (.unusableAccessKey cause)

end LeaseToken

namespace LeaseBlob

/-- Identifier of the peer, blob text and counter text. -/
def fieldsOfJson? (document : String) : Option (Uuid × String × String) := do
  let record ← Json.parse? document
  match ← record.fields? ["sorcId", "blob", "blobMessageCounter"] with
  | [sorcId, blob, counter] => some (← Uuid.ofText? (← sorcId.text?), ← blob.text?, ← counter.text?)
  | _ => none

/-- Digits of a counter, after a plus sign if there is one. -/
def unsigned : List Char → List Char
  | '+' :: digits => digits
  | digits => digits

def counter? (text : String) : Option UInt32 :=
  let digits := unsigned (Text.trimBlanks text)
  let number := Json.ofDigits digits
  if digits ≠ [] ∧ digits.all Char.isDigit ∧ number < UInt32.size then some (.ofNat number) else none

def ofJson (document : String) : Except LeaseDocumentError LeaseBlob :=
  match fieldsOfJson? document with
  | none => .error .blobNotJson
  | some (sorcId, data, counterText) =>
    match counter? counterText with
    | none => .error (.counterNotNumber counterText)
    | some counter => if data = "" then .error (.emptyBlob sorcId) else .ok ⟨counter, data⟩

end LeaseBlob

end PhoneKey
