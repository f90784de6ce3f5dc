import PhoneKey.Bytes

/-! # Hexadecimal text

Two digits a byte, high half first. Digits of either letter case are read and lower case is written,
so reading what was written gives the bytes back.
-/

namespace PhoneKey.Hex

def digits : List Char := "0123456789abcdef".toList

/-- The digit of a number below sixteen. -/
def digit (value : Nat) : Char := digits.getD value '0'

def digitValue? (char : Char) : Option Nat := digits.findIdx? (· == char.toLower)

def encodeChars : Bytes → List Char
  | [] => []
  | byte :: rest => digit (byte.toNat / 16) :: digit (byte.toNat % 16) :: encodeChars rest

def decodeChars? : List Char → Option Bytes
  | [] => some []
  | [_] => none
  | high :: low :: rest => do
    let highValue ← digitValue? high
    let lowValue ← digitValue? low
    let tail ← decodeChars? rest
    some (UInt8.ofNat (highValue * 16 + lowValue) :: tail)

def encode (bytes : Bytes) : String := String.ofList (encodeChars bytes)

/-- Refuses an odd number of digits and every other character. -/
def decode? (text : String) : Option Bytes := decodeChars? text.toList

private theorem digitValue?_digit : ∀ value < 16, digitValue? (digit value) = some value := by decide

private theorem decodeChars?_encodeChars (bytes : Bytes) : decodeChars? (encodeChars bytes) = some bytes := by
  induction bytes with
  | nil => rfl
  | cons byte rest ih =>
    have range := byte.toNat_lt
    simp only [encodeChars, decodeChars?, ih, digitValue?_digit (byte.toNat / 16) (by omega),
      digitValue?_digit (byte.toNat % 16) (by omega), Option.bind_eq_bind, Option.bind_some]
    rw [show byte.toNat / 16 * 16 + byte.toNat % 16 = byte.toNat by omega, UInt8.ofNat_toNat]

@[simp] theorem decode?_encode (bytes : Bytes) : decode? (encode bytes) = some bytes := by
  simp [decode?, encode, decodeChars?_encodeChars]

end PhoneKey.Hex
