/-!
# Sets of characters

A set of characters that a standard defines is written as the list of its ranges of code points.
The tables of the library follow Unicode 17.
-/

namespace SettingsConsole

namespace Text

/-- Ranges of code points, ends included. -/
abbrev Ranges := List (Nat × Nat)

/-- Whether a character lies in one of some ranges. -/
def liesIn (ranges : Ranges) (c : Char) : Bool :=
  ranges.any fun (first, last) => first ≤ c.toNat && c.toNat ≤ last

end Text

end SettingsConsole
