import PhoneKey.ChangeStream
import PhoneKey.Error
import PhoneKey.Grant

/-! # Progress of grant requests

The stream of grants carries the numbers that were accepted and not answered yet, oldest first.
-/

namespace PhoneKey

/-- Why the list of open grants was published. -/
inductive GrantReason where
  | initial
  /-- A request that was not accepted found the queue full. -/
  | requested (grant : UInt16) (accepted : Bool)
  | answered (response : GrantResponse)
  | failed (failure : RequestFailure)
  /-- The connection ended and took every request with it. -/
  | reset
deriving DecidableEq, Repr, Inhabited

instance : Replayable GrantReason := ⟨.initial⟩

abbrev OpenGrants := List UInt16

abbrev GrantChange := Change OpenGrants GrantReason

end PhoneKey
