import PhoneKey.Frame

/-! # Packages

A message that does not fit one frame is sent as a package: a frame that opens it and carries the
length of the whole message, frames in between, and a frame that closes it. A package in transit
keeps the frames that are still to be confirmed.
-/

namespace PhoneKey

/-- Cuts a list into pieces of `size + 1`, the last piece taking what is left. -/
def piecesOf {α : Type} (size : Nat) (items : List α) : List (List α) :=
  match items with
  | [] => []
  | item :: rest => (item :: rest.take size) :: piecesOf size (rest.drop size)
termination_by items.length
decreasing_by exact Nat.lt_succ_of_le (List.length_drop ▸ Nat.sub_le rest.length size)

/-- The largest message a package can announce. -/
def maxMessageLength : Nat := 65535

namespace Frame

/-- A frame that carries a piece behind the first, the last piece closing the package. -/
def following : Nat → List Bytes → List Frame
  | _, [] => []
  | index, [piece] => [⟨.eop, 0, UInt8.ofNat index, UInt16.ofNat piece.length, piece⟩]
  | index, piece :: rest =>
    ⟨.frag, 0, UInt8.ofNat index, UInt16.ofNat piece.length, piece⟩ :: following (index + 1) rest

/-- The frames of a message that has been cut into pieces. -/
def ofPieces (total : Nat) : List Bytes → List Frame
  | [] => [⟨.single, 0, 0, 0, []⟩]
  | [piece] => [⟨.single, 0, 0, UInt16.ofNat total, piece⟩]
  | piece :: rest => ⟨.sop, 0, 0, UInt16.ofNat total, piece⟩ :: following 1 rest

/-- Splits a message into frames of at most `size` payload bytes. -/
def split (message : Bytes) (size : Nat) : Except FrameError (List Frame) :=
  match size with
  | 0 => .error .emptyFrameSize
  | size + 1 =>
    if maxMessageLength < message.length then .error .messageTooLarge
    else .ok (ofPieces message.length (piecesOf size message))

end Frame

/-- A message on its way out, with the frames whose write is not confirmed yet. -/
structure Package where
  message : Bytes
  pending : List Frame
deriving DecidableEq, Repr, Inhabited

namespace Package

def make (message : Bytes) (size : Nat) : Except FrameError Package :=
  (Frame.split message size).map fun frames => ⟨message, frames⟩

/-- The frame that waits for its confirmation. -/
def waiting? (package : Package) : Option Frame := package.pending.head?

/-- Takes the waiting frame as written. -/
def confirm (package : Package) : Package := { package with pending := package.pending.tail }

end Package

end PhoneKey
