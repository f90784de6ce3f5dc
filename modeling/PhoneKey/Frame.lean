import PhoneKey.Bytes
import PhoneKey.Error

/-! # Frames

A frame is one write or notification: a type and flags in one byte, a sequence number, a length of
two bytes, lowest first, and the payload. Reading accepts every byte string with a known type and a
whole header, and writing what was read gives the same bytes.
-/

namespace PhoneKey

inductive FrameKind where
  | frag
  | sop
  | eop
  | single
  | noAck
  | ack
deriving DecidableEq, Repr, Inhabited

namespace FrameKind

/-- The high half of the first header byte. -/
def nibble : FrameKind → UInt8
  | .frag => 0x0
  | .sop => 0x1
  | .eop => 0x2
  | .single => 0x3
  | .noAck => 0x7
  | .ack => 0xb

def ofNibble? (nibble : UInt8) : Option FrameKind :=
  if nibble = 0x0 then some .frag
  else if nibble = 0x1 then some .sop
  else if nibble = 0x2 then some .eop
  else if nibble = 0x3 then some .single
  else if nibble = 0x7 then some .noAck
  else if nibble = 0xb then some .ack
  else none

def name : FrameKind → String
  | .frag => "Frag"
  | .sop => "Sop"
  | .eop => "Eop"
  | .single => "Single"
  | .noAck => "NoAck"
  | .ack => "Ack"

/-- Whether a frame of this type closes a package. -/
def closes : FrameKind → Bool
  | .single => true
  | .eop => true
  | _ => false

@[simp] theorem ofNibble?_nibble (type : FrameKind) : ofNibble? type.nibble = some type := by
  cases type <;> rfl

theorem nibble_of_ofNibble? {nibble : UInt8} {type : FrameKind} (known : ofNibble? nibble = some type) :
    type.nibble = nibble := by
  unfold ofNibble? at known
  split at known
  · next same => cases known; exact same.symm
  split at known
  · next same => cases known; exact same.symm
  split at known
  · next same => cases known; exact same.symm
  split at known
  · next same => cases known; exact same.symm
  split at known
  · next same => cases known; exact same.symm
  split at known
  · next same => cases known; exact same.symm
  · contradiction

end FrameKind

structure Frame where
  type : FrameKind
  /-- Only the low half of the flags is sent. -/
  flags : UInt8
  sequence : UInt8
  length : UInt16
  payload : Bytes
deriving DecidableEq, Repr, Inhabited

namespace Frame

/-- Bytes of a frame header. -/
def headerSize : Nat := 4

/-- Bytes a link carries in one write until the peer has told its own limit. -/
def defaultMtu : Nat := 20

/-- Payload bytes a frame may hold on a link that carries `mtu` bytes at once. -/
def sizeForMtu (mtu : Nat) : Nat := mtu - headerSize

def toBytes (frame : Frame) : Bytes :=
  ((frame.type.nibble <<< 4) ||| (frame.flags &&& 0x0f)) :: frame.sequence ::
    frame.length.toUInt8 :: (frame.length >>> 8).toUInt8 :: frame.payload

def ofBytes : Bytes → Except FrameError Frame
  | head :: sequence :: low :: high :: payload =>
    match FrameKind.ofNibble? (head >>> 4) with
    | some type => .ok
        { type
          flags := head &&& 0x0f
          sequence
          length := low.toUInt16 ||| (high.toUInt16 <<< 8)
          payload }
    | none => .error .unknownType
  | _ => .error .truncated

end Frame

end PhoneKey
