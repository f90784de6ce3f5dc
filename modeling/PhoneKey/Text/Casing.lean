import PhoneKey.Text.Casing.Table

/-! # Lower-case text

Every character takes its lower-case mapping. A capital sigma takes the final form where it ends a
word: a cased letter stands before it and none after it, characters that case ignores left aside.
A capital I with a dot keeps the dot as a combining character.
-/

namespace PhoneKey.Text.Casing

/-- Whether the first character that case does not ignore is cased. -/
def reachesCased (chars : List Char) : Bool :=
  match chars.dropWhile caseIgnorable.has with
  | char :: _ => cased.has char
  | [] => false

def Lowering.covers (lowering : Lowering) (code : Nat) : Bool :=
  lowering.first ≤ code && code ≤ lowering.last && (code - lowering.first) % lowering.step == 0

/-- The lower-case mapping of a character that maps to a single one. -/
def lowerChar (char : Char) : Char :=
  match lowerings.find? (·.covers char.toNat) with
  | some lowering => Char.ofNat (char.toNat + lowering.shift).toNat
  | none => char

/-- Lowers the characters after `before`, which lists the characters in front of them, last first. -/
def lowerAfter : List Char → List Char → List Char
  | _, [] => []
  | before, char :: rest =>
    let lowered :=
      if char = 'Σ' then [if reachesCased before && !reachesCased rest then 'ς' else 'σ']
      else if char = 'İ' then ['i', '\u0307']
      else [lowerChar char]
    lowered ++ lowerAfter (char :: before) rest

def lowercase (text : String) : String := String.ofList (lowerAfter [] text.toList)

end PhoneKey.Text.Casing
