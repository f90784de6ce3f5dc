import PhoneKey.Frame

/-! # Reassembly

Payloads are collected until a frame closes its package; the collected bytes are then the message.
Frames are never reordered and gaps are not noticed.
-/

namespace PhoneKey

structure Assembler where
  /-- Payloads of the package that has started and not been closed, newest first. -/
  pieces : List Bytes
deriving DecidableEq, Repr, Inhabited

namespace Assembler

def empty : Assembler := ⟨[]⟩

/-- Whether a package has started and not been closed. -/
def isOpen (assembler : Assembler) : Bool := !assembler.pieces.isEmpty

/-- The bytes of the open package so far. -/
def collected (assembler : Assembler) : Bytes := assembler.pieces.reverse.flatten

def append (assembler : Assembler) (payload : Bytes) : Assembler := ⟨payload :: assembler.pieces⟩

@[simp] theorem collected_empty : empty.collected = [] := rfl

@[simp] theorem collected_append (assembler : Assembler) (payload : Bytes) :
    (assembler.append payload).collected = assembler.collected ++ payload := by
  simp [collected, append]

@[simp] theorem isOpen_append (assembler : Assembler) (payload : Bytes) :
    (assembler.append payload).isOpen = true := rfl

/-- Takes one frame and yields the message that it completes. -/
def push (assembler : Assembler) (frame : Frame) : Option Bytes × Assembler :=
  let grown := assembler.append frame.payload
  if frame.type.closes then (some grown.collected, empty) else (none, grown)

/-- The first message that a list of frames completes. -/
def firstMessage? (assembler : Assembler) : List Frame → Option Bytes
  | [] => none
  | frame :: rest =>
    match assembler.push frame with
    | (some message, _) => some message
    | (none, next) => firstMessage? next rest

end Assembler

/-- The message of a complete list of frames, as its receiver reads it. -/
def Frame.message? (frames : List Frame) : Option Bytes := Assembler.empty.firstMessage? frames

end PhoneKey
