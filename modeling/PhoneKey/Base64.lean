import PhoneKey.Bytes

/-! # Base64 text

The standard alphabet with canonical padding: four characters carry three bytes, a final group is
padded to four characters, and the bits that a final group does not use are zero. Every other text
is refused, so no two texts stand for the same bytes.
-/

namespace PhoneKey.Base64

def alphabet : List Char :=
  "ABCDEFGHIJKLMNOPQRSTUVWXYZabcdefghijklmnopqrstuvwxyz0123456789+/".toList

def digit (value : Nat) : Char := alphabet.getD value 'A'

def digitValue? (char : Char) : Option Nat := alphabet.findIdx? (· == char)

/-- One byte from a final group of two digits, whose last four bits are unused. -/
def oneByte? (first second : Char) : Option Bytes := do
  let a ← digitValue? first
  let b ← digitValue? second
  if b % 16 = 0 then some [UInt8.ofNat (a * 4 + b / 16)] else none

/-- Two bytes from a final group of three digits, whose last two bits are unused. -/
def twoBytes? (first second third : Char) : Option Bytes := do
  let a ← digitValue? first
  let b ← digitValue? second
  let c ← digitValue? third
  if c % 4 = 0 then
    some [UInt8.ofNat (a * 4 + b / 16), UInt8.ofNat (b % 16 * 16 + c / 4)]
  else none

/-- Three bytes from a whole group. -/
def threeBytes? (first second third fourth : Char) : Option Bytes := do
  let a ← digitValue? first
  let b ← digitValue? second
  let c ← digitValue? third
  let d ← digitValue? fourth
  some [UInt8.ofNat (a * 4 + b / 16), UInt8.ofNat (b % 16 * 16 + c / 4), UInt8.ofNat (c % 4 * 64 + d)]

def decodeChars? : List Char → Option Bytes
  | [] => some []
  | [first, second, '=', '='] => oneByte? first second
  | [first, second, third, '='] => twoBytes? first second third
  | first :: second :: third :: fourth :: rest => do
    let group ← threeBytes? first second third fourth
    let tail ← decodeChars? rest
    some (group ++ tail)
  | _ => none

def decode? (text : String) : Option Bytes := decodeChars? text.toList

/-- The padded text of a byte string. -/
def encodeChars : Bytes → List Char
  | [] => []
  | [x] => [digit (x.toNat / 4), digit (x.toNat % 4 * 16), '=', '=']
  | [x, y] =>
    [digit (x.toNat / 4), digit (x.toNat % 4 * 16 + y.toNat / 16), digit (y.toNat % 16 * 4), '=']
  | x :: y :: z :: rest =>
    digit (x.toNat / 4) :: digit (x.toNat % 4 * 16 + y.toNat / 16) ::
      digit (y.toNat % 16 * 4 + z.toNat / 64) :: digit (z.toNat % 64) :: encodeChars rest

def encode (bytes : Bytes) : String := String.ofList (encodeChars bytes)

example : decode? "AQID" = some [1, 2, 3] := by decide +kernel

example : decode? "AQ==" = some [1] ∧ decode? "AR==" = none ∧ decode? "AQ" = none := by decide +kernel

end PhoneKey.Base64
