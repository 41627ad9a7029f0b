/-!
# Blank characters

The characters with the Unicode property `White_Space`, and the two uses the console has for them:
deciding that a text says nothing, and dropping blanks from the ends of a line.  The zero width
space U+200B and the word joiners have no such property, so a text made of them is not blank.
-/

namespace SettingsConsole

namespace Text

/-- The ranges of code points with the property `White_Space`, ends included. -/
def blankRanges : List (Nat × Nat) :=
  [(0x9, 0xD), (0x20, 0x20), (0x85, 0x85), (0xA0, 0xA0), (0x1680, 0x1680), (0x2000, 0x200A),
   (0x2028, 0x2029), (0x202F, 0x202F), (0x205F, 0x205F), (0x3000, 0x3000)]

/-- Whether a character has the property `White_Space`. -/
def isBlank (c : Char) : Bool :=
  blankRanges.any fun (first, last) => first ≤ c.toNat && c.toNat ≤ last

/-- Whether a text is empty once blanks are dropped from both ends: all of it is blank. -/
def saysNothing (s : String) : Bool := s.toList.all isBlank

/-- The text from the first character that is not blank. -/
def dropBlanks (cs : List Char) : List Char := cs.dropWhile isBlank

/-- The text up to the last character that is not blank. -/
def dropBlanksEnd (cs : List Char) : List Char := (cs.reverse.dropWhile isBlank).reverse

example : saysNothing " \t\u3000\u00a0" := by decide
example : saysNothing "\u200b" = false := by decide

end Text

end SettingsConsole
