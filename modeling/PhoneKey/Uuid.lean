import PhoneKey.Block
import PhoneKey.Hex

/-! # Identifiers of 128 bits

An identifier is a block of bytes, ordered as a big-endian number. It is written in lower case with
hyphens and read in four shapes: hyphenated, hyphenated in braces, hyphenated after `urn:uuid:`, and
as thirty-two digits. Letters may have either case.
-/

namespace PhoneKey

structure Uuid where
  block : Block
deriving DecidableEq, Repr, Inhabited

namespace Uuid

def toBytes (id : Uuid) : Bytes := id.block.toList

def ofBytes? (bytes : Bytes) : Option Uuid := (Block.ofBytes? bytes).map Uuid.mk

/-- The value of an identifier as a number, which orders identifiers. -/
def toNat (id : Uuid) : Nat := Bytes.ofBigEndian id.toBytes

@[simp] theorem ofBytes?_toBytes (id : Uuid) : ofBytes? id.toBytes = some id := rfl

/-- Groups of eight, four, four, four and twelve digits with hyphens between them. -/
def hyphenate (digits : List Char) : List Char :=
  digits.take 8 ++ '-' :: (digits.drop 8).take 4 ++ '-' :: (digits.drop 12).take 4 ++
    '-' :: (digits.drop 16).take 4 ++ '-' :: digits.drop 20

/-- The hyphenated form in lower case. -/
def text (id : Uuid) : String := String.ofList (hyphenate (Hex.encodeChars id.toBytes))

/-- The digits of a hyphenated form, given that the hyphens stand where they belong. -/
def unhyphenate? (chars : List Char) : Option (List Char) :=
  let digits := chars.take 8 ++ (chars.drop 9).take 4 ++ (chars.drop 14).take 4 ++
    (chars.drop 19).take 4 ++ chars.drop 24
  if digits.length = 32 ∧ hyphenate digits = chars then some digits else none

/-- What a text holds inside braces or after the name of the identifier scheme. -/
def unwrap (chars : List Char) : List Char :=
  match chars with
  | '\x7b' :: rest => if chars.length = 38 ∧ rest.getLast? = some '\x7d' then rest.dropLast else chars
  | _ =>
    if chars.length = 45 ∧ (chars.take 9).map Char.toLower = "urn:uuid:".toList then chars.drop 9
    else chars

/-- Reads any of the four shapes. -/
def ofText? (source : String) : Option Uuid := do
  let chars := source.toList
  let digits ← if chars.length = 32 then some chars else unhyphenate? (unwrap chars)
  let bytes ← Hex.decodeChars? digits
  ofBytes? bytes

end Uuid

end PhoneKey
