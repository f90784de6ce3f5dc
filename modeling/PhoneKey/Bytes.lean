/-! # Byte strings and fixed-width integers

Byte strings are lists of bytes. An integer of a fixed width is written in either byte order; a
number that fits the width is read back unchanged.
-/

namespace PhoneKey

abbrev Bytes := List UInt8

namespace Bytes

/-- The lowest `width` base-256 digits of a number, lowest first. -/
def littleEndian : Nat → Nat → Bytes
  | 0, _ => []
  | width + 1, number => UInt8.ofNat (number % 256) :: littleEndian width (number / 256)

/-- The number whose base-256 digits are listed lowest first. -/
def ofLittleEndian : Bytes → Nat
  | [] => 0
  | byte :: rest => byte.toNat + 256 * ofLittleEndian rest

/-- The lowest `width` base-256 digits of a number, highest first. -/
def bigEndian (width number : Nat) : Bytes := (littleEndian width number).reverse

/-- The number whose base-256 digits are listed highest first. -/
def ofBigEndian (bytes : Bytes) : Nat := ofLittleEndian bytes.reverse

@[simp] theorem length_littleEndian (width number : Nat) :
    (littleEndian width number).length = width := by
  induction width generalizing number with
  | zero => rfl
  | succ width ih => simp [littleEndian, ih]

@[simp] theorem length_bigEndian (width number : Nat) : (bigEndian width number).length = width := by
  simp [bigEndian]

/-- How many numbers fit `width` base-256 digits. -/
def capacity : Nat → Nat
  | 0 => 1
  | width + 1 => 256 * capacity width

theorem ofLittleEndian_littleEndian (width : Nat) {number : Nat} (fits : number < capacity width) :
    ofLittleEndian (littleEndian width number) = number := by
  induction width generalizing number with
  | zero => exact (Nat.lt_one_iff.mp fits).symm
  | succ width ih =>
    have smaller : number / 256 < capacity width := Nat.div_lt_of_lt_mul fits
    have digit : number % 256 % 256 = number % 256 := by omega
    simp only [littleEndian, ofLittleEndian, ih smaller, UInt8.toNat_ofNat', digit]
    omega

theorem ofBigEndian_bigEndian (width : Nat) {number : Nat} (fits : number < capacity width) :
    ofBigEndian (bigEndian width number) = number := by
  simp [ofBigEndian, bigEndian, ofLittleEndian_littleEndian width fits]

/-- Exclusive or of the byte at one place, where there is one. -/
def flipAt (bytes : Bytes) (index : Nat) (mask : UInt8) : Bytes := bytes.modify index (· ^^^ mask)

end Bytes

end PhoneKey
