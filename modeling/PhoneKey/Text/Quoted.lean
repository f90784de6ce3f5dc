import PhoneKey.Text.Quoted.Table

/-! # Quoted text

A quoted text stands between double quotes on one line and shows only visible characters. Quotes,
backslashes and the common control characters are written with a backslash and one sign, any other
character that would not be seen by its code point in braces.
-/

namespace PhoneKey.Text.Quoted

def codeEscape (char : Char) : List Char :=
  ['\\', 'u', '\x7b'] ++ Nat.toDigits 16 char.toNat ++ ['\x7d']

def encodeChar (char : Char) : List Char :=
  match char with
  | '\x00' => ['\\', '0']
  | '\t' => ['\\', 't']
  | '\r' => ['\\', 'r']
  | '\n' => ['\\', 'n']
  | '\\' => ['\\', '\\']
  | '"' => ['\\', '"']
  | _ => if attaching.has char || invisible.has char then codeEscape char else [char]

/-- The quoted form of a text. -/
def quote (text : String) : String :=
  String.ofList ('"' :: text.toList.flatMap encodeChar ++ ['"'])

end PhoneKey.Text.Quoted
