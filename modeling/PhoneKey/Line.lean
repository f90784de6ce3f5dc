import PhoneKey.Frame.Package
import PhoneKey.Frame.Assembler

/-! # The line: whole messages over frames

A line holds at most one package on its way out and one on its way in. It never touches the radio:
it is told what the radio confirmed or received and answers with the frame to write next or with
the message that is complete.
-/

namespace PhoneKey

structure Line where
  defaultMtu : Nat
  mtu : Nat
  sending : Option Package
  receiving : Assembler
deriving DecidableEq, Repr, Inhabited

/-- What a confirmed write leads to. -/
inductive Confirmation where
  | next (frame : Bytes)
  | complete (message : Bytes)
  | idle
deriving DecidableEq, Repr, Inhabited

namespace Line

def new (defaultMtu : Nat) : Line := ⟨defaultMtu, defaultMtu, none, .empty⟩

/-- Takes effect from the next package on; the package under way keeps its frames. -/
def withMtu (line : Line) (mtu : Nat) : Line := { line with mtu }

/-- Whether a package is being sent or received. -/
def isBusy (line : Line) : Bool := line.sending.isSome || line.receiving.isOpen

/-- Cuts a message into frames and answers with the first frame to write. -/
def launch (line : Line) (message : Bytes) : Except LinkError (Bytes × Line) :=
  if line.isBusy then .error .sendingInProgress
  else
    match Package.make message (Frame.sizeForMtu line.mtu) with
    | .error cause => .error (.ofFrame cause)
    | .ok package =>
      match package.waiting? with
      | none => .error .invalidFrame
      | some frame => .ok (frame.toBytes, { line with sending := some package })

/-- The radio confirmed the frame that was written last. -/
def confirm (line : Line) : Confirmation × Line :=
  match line.sending with
  | none => (.idle, line)
  | some package =>
    let package := package.confirm
    match package.waiting? with
    | some frame => (.next frame.toBytes, { line with sending := some package })
    | none => (.complete package.message, { line with sending := none })

/-- Drops the package on its way out and tells whether there was one. -/
def dropSending (line : Line) : Bool × Line := (line.sending.isSome, { line with sending := none })

def dropReceiving (line : Line) : Line := { line with receiving := .empty }

/-- Takes one received frame and yields the message that it completes. -/
def receive (line : Line) (raw : Bytes) : Except LinkError (Option Bytes) × Line :=
  match Frame.ofBytes raw with
  | .error cause => (.error (.ofFrame cause), line.dropReceiving)
  | .ok frame =>
    let (message, receiving) := line.receiving.push frame
    (.ok message, { line with receiving })

/-- Drops both packages and returns to the default limit. -/
def reset (line : Line) : Line := new line.defaultMtu

end Line

end PhoneKey
