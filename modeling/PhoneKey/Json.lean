/-! # JSON documents

Reading a document gives its value, or nothing if the text breaks the grammar. An escape may name half
of a surrogate pair; a text in which a half stands alone has no characters, and whoever needs the text
has to refuse it. Numbers keep their spelling.
-/

namespace PhoneKey.Json

inductive Value where
  | null
  | bool (value : Bool)
  | number (spelling : List Char)
  /-- A text, or nothing where a half of a surrogate pair stands alone. -/
  | string (text : Option String)
  | array (items : List Value)
  | object (members : List (Option String × Value))
deriving Inhabited

def isBlank (char : Char) : Bool := char == ' ' || char == '\n' || char == '\t' || char == '\r'

def skipBlanks (chars : List Char) : List Char := chars.dropWhile isBlank

/-! ## Texts -/

/-- A character, or half of a surrogate pair. -/
inductive Piece where
  | char (value : Char)
  | half (code : Nat)

def hexDigit? (char : Char) : Option Nat := "0123456789abcdef".toList.findIdx? (· == char.toLower)

def escaped? : Char → Option Char
  | '"' => some '"'
  | '\\' => some '\\'
  | '/' => some '/'
  | 'b' => some '\x08'
  | 'f' => some '\x0c'
  | 'n' => some '\n'
  | 'r' => some '\r'
  | 't' => some '\t'
  | _ => none

def pieceOfCode (code : Nat) : Piece :=
  if 0xd800 ≤ code ∧ code < 0xe000 then .half code else .char (Char.ofNat code)

/-- The pieces of a text up to its closing quote, and what follows the quote. -/
def pieces? : List Char → Option (List Piece × List Char)
  | [] => none
  | '"' :: rest => some ([], rest)
  | '\\' :: 'u' :: a :: b :: c :: d :: rest => do
    let code := (((← hexDigit? a) * 16 + (← hexDigit? b)) * 16 + (← hexDigit? c)) * 16 + (← hexDigit? d)
    let (pieces, after) ← pieces? rest
    some (pieceOfCode code :: pieces, after)
  | '\\' :: char :: rest => do
    let value ← escaped? char
    let (pieces, after) ← pieces? rest
    some (.char value :: pieces, after)
  | char :: rest =>
    if char.toNat < 0x20 ∨ char = '\\' then none
    else do
      let (pieces, after) ← pieces? rest
      some (.char char :: pieces, after)

/-- The characters of a text whose surrogate halves all stand in pairs. -/
def chars? : List Piece → Option (List Char)
  | [] => some []
  | .char value :: rest => (chars? rest).map (value :: ·)
  | .half high :: .half low :: rest =>
    if high < 0xdc00 ∧ 0xdc00 ≤ low then
      (chars? rest).map (Char.ofNat (0x10000 + (high - 0xd800) * 0x400 + (low - 0xdc00)) :: ·)
    else none
  | .half _ :: _ => none

/-- A text whose opening quote has been read, and what follows it. -/
def text? (chars : List Char) : Option (Option String × List Char) :=
  (pieces? chars).map fun (pieces, rest) => ((chars? pieces).map String.ofList, rest)

/-! ## Numbers -/

/-- At least one digit, and what follows the digits. -/
def digits? (chars : List Char) : Option (List Char × List Char) :=
  match chars.takeWhile Char.isDigit with
  | [] => none
  | digits => some (digits, chars.dropWhile Char.isDigit)

/-- An integer without superfluous zeros in front. -/
def integer? (chars : List Char) : Option (List Char × List Char) :=
  match digits? chars with
  | some ('0' :: _ :: _, _) => none
  | result => result

def fraction? (chars : List Char) : Option (List Char × List Char) :=
  match chars with
  | '.' :: rest => (digits? rest).map fun (digits, after) => ('.' :: digits, after)
  | _ => some ([], chars)

def exponent? (chars : List Char) : Option (List Char × List Char) :=
  match chars with
  | [] => some ([], [])
  | mark :: rest =>
    if mark = 'e' ∨ mark = 'E' then
      match rest with
      | [] => none
      | sign :: tail =>
        if sign = '+' ∨ sign = '-' then
          (digits? tail).map fun (digits, after) => (mark :: sign :: digits, after)
        else (digits? rest).map fun (digits, after) => (mark :: digits, after)
    else some ([], chars)

/-- A number without its sign. -/
def magnitude? (chars : List Char) : Option (List Char × List Char) := do
  let (whole, afterWhole) ← integer? chars
  let (fraction, afterFraction) ← fraction? afterWhole
  let (exponent, rest) ← exponent? afterFraction
  some (whole ++ fraction ++ exponent, rest)

/-! ## Values -/

mutual

/-- A value and what follows it; the first argument bounds the nesting of calls. -/
def value? : Nat → List Char → Option (Value × List Char)
  | 0, _ => none
  | limit + 1, chars =>
    match skipBlanks chars with
    | 'n' :: 'u' :: 'l' :: 'l' :: rest => some (.null, rest)
    | 't' :: 'r' :: 'u' :: 'e' :: rest => some (.bool true, rest)
    | 'f' :: 'a' :: 'l' :: 's' :: 'e' :: rest => some (.bool false, rest)
    | '"' :: rest => (text? rest).map fun (text, after) => (.string text, after)
    | '[' :: rest =>
      match skipBlanks rest with
      | ']' :: after => some (.array [], after)
      | _ => (items? limit rest).map fun (items, after) => (.array items, after)
    | '\x7b' :: rest =>
      match skipBlanks rest with
      | '\x7d' :: after => some (.object [], after)
      | _ => (members? limit rest).map fun (members, after) => (.object members, after)
    | '-' :: rest => (magnitude? rest).map fun (spelling, after) => (.number ('-' :: spelling), after)
    | other => (magnitude? other).map fun (spelling, after) => (.number spelling, after)

/-- The items of an array that has at least one, up to its closing bracket. -/
def items? : Nat → List Char → Option (List Value × List Char)
  | 0, _ => none
  | limit + 1, chars => do
    let (item, rest) ← value? limit chars
    match skipBlanks rest with
    | ']' :: after => some ([item], after)
    | ',' :: after =>
      let (items, last) ← items? limit after
      some (item :: items, last)
    | _ => none

/-- The members of an object that has at least one, up to its closing brace. -/
def members? : Nat → List Char → Option (List (Option String × Value) × List Char)
  | 0, _ => none
  | limit + 1, chars =>
    match skipBlanks chars with
    | '"' :: quoted => do
      let (name, afterName) ← text? quoted
      match skipBlanks afterName with
      | ':' :: colon =>
        let (value, rest) ← value? limit colon
        match skipBlanks rest with
        | '\x7d' :: after => some ([(name, value)], after)
        | ',' :: after =>
          let (members, last) ← members? limit after
          some ((name, value) :: members, last)
        | _ => none
      | _ => none
    | _ => none

end

/-- The value of a whole document. -/
def parse? (document : String) : Option Value := do
  let chars := document.toList
  let (value, rest) ← value? (2 * chars.length + 2) chars
  if skipBlanks rest = [] then some value else none

/-! ## Reading a record -/

/-- The values of the named fields, in the order of the names. A record is an array of just these
values, or an object in which each name stands once, in any order and among other members. -/
def Value.fields? (names : List String) : Value → Option (List Value)
  | .array items => if items.length = names.length then some items else none
  | .object members =>
    if members.all (·.1.isSome) then
      names.mapM fun name =>
        match members.filter (·.1 == some name) with
        | [(_, value)] => some value
        | _ => none
    else none
  | _ => none

def Value.text? : Value → Option String
  | .string text => text
  | _ => none

/-- The number that a row of digits spells. -/
def ofDigits (digits : List Char) : Nat :=
  digits.foldl (fun value digit => value * 10 + (digit.toNat - '0'.toNat)) 0

/-- A number below a bound that is spelled with digits alone. -/
def Value.natBelow? (bound : Nat) : Value → Option Nat
  | .number spelling =>
    let number := ofDigits spelling
    if spelling.all Char.isDigit ∧ number < bound then some number else none
  | _ => none

end PhoneKey.Json
