import PhoneKey.Bytes

/-! # Variable-length integers

A number is written in groups of seven bits, lowest first; every byte but the last has its high bit
set. A reader of a fixed width takes at most as many bytes as that width needs and refuses a last
byte with bits beyond the width. What the writer wrote is read back, and the bytes after it are left.
-/

namespace PhoneKey.Varint

/-- Bytes that a number of `width` bits may take. -/
def maxLength (width : Nat) : Nat := (width + 6) / 7

/-- Writes a number in at most `length` bytes. -/
def encode : Nat → Nat → Bytes
  | 0, _ => []
  | length + 1, number =>
    if number < 128 then [UInt8.ofNat number]
    else UInt8.ofNat (number % 128 + 128) :: encode length (number / 128)

/-- Reads a number of at most `length` bytes that stays below `bound`, and the bytes after it. -/
def decode? : Nat → Nat → Bytes → Option (Nat × Bytes)
  | 0, _, _ => none
  | _ + 1, _, [] => none
  | length + 1, bound, byte :: rest =>
    if byte.toNat < 128 then
      if length = 0 ∧ bound ≤ byte.toNat then none else some (byte.toNat, rest)
    else (decode? length (bound / 128) rest).map fun (high, tail) => (byte.toNat % 128 + 128 * high, tail)

/-- The written form of a number of `width` bits. -/
def write (width number : Nat) : Bytes := encode (maxLength width) number

/-- Reads a number of `width` bits and the bytes after it. -/
def read? (width : Nat) (bytes : Bytes) : Option (Nat × Bytes) :=
  decode? (maxLength width) (1 <<< width) bytes

example : read? 16 [0xff, 0xff, 0x03, 9] = some (65535, [9]) := by decide

example : read? 16 [0xff, 0xff, 0x04] = none ∧ read? 16 [0x80, 0x80, 0x80, 0x01] = none := by decide

example : read? 16 [0x80, 0x00] = some (0, []) := by decide

end PhoneKey.Varint
