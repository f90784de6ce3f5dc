import PhoneKey.Grant
import PhoneKey.Message

/-! # Requests

What a session asks of its peer: a sign of life, or a grant.
-/

namespace PhoneKey

inductive Request where
  | heartbeat
  | grant (number : UInt16)
deriving DecidableEq, Repr, Inhabited

/-- The message that carries a request. -/
def Request.message : Request → Message
  | .heartbeat => .empty .heartbeatRequest
  | .grant number => ⟨.serviceGrant, Grant.request number⟩

end PhoneKey
