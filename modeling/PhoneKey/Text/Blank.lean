import PhoneKey.Text.CodePoints

/-! # Blanks and control characters around a text

Trimming drops the longest runs at both ends and leaves the inside of a text as it is.
-/

namespace PhoneKey.Text

/-- The code points with the property White_Space. -/
def blank : CodePoints :=
  [(0x9, 0xD), (0x20, 0x20), (0x85, 0x85), (0xA0, 0xA0), (0x1680, 0x1680), (0x2000, 0x200A),
   (0x2028, 0x2029), (0x202F, 0x202F), (0x205F, 0x205F), (0x3000, 0x3000)]

/-- Drops the longest runs of members of a class at both ends of a list. -/
def trim {α : Type} (drops : α → Bool) (items : List α) : List α :=
  ((items.dropWhile drops).reverse.dropWhile drops).reverse

def trimBlanks (text : String) : List Char := trim blank.has text.toList

end PhoneKey.Text
