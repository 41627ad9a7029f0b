import SettingsConsole.Json.Number

/-!
# Reading JSON

`Json.parse?` reads a whole text as one JSON value and accepts exactly the grammar of the standard:
four kinds of white space, no trailing text, no raw control character in a string, escaped
surrogates in pairs only, no number beyond the doubles, and at most `maxDepth` lists and objects
inside one another.  The functions below it take a text as a list of characters and give what they
read together with the rest.
-/

namespace SettingsConsole

namespace Json

/-- How many lists and objects may be open at once. -/
def maxDepth : Nat := 127

/-- The white space that may stand between tokens. -/
def isSpace (c : Char) : Bool := c = ' ' || c = '\t' || c = '\n' || c = '\r'

/-- The text after its leading white space. -/
def skipSpace (cs : List Char) : List Char := cs.dropWhile isSpace

/-! ## Strings -/

/-- The value of a hexadecimal digit. -/
def hexDigit? (c : Char) : Option Nat :=
  if c.isDigit then some (c.toNat - 48)
  else if 'a' ≤ c ∧ c ≤ 'f' then some (c.toNat - 87)
  else if 'A' ≤ c ∧ c ≤ 'F' then some (c.toNat - 55)
  else none

/-- The value of four hexadecimal digits. -/
def hexFour? (a b c d : Char) : Option Nat := do
  return (((← hexDigit? a) * 16 + (← hexDigit? b)) * 16 + (← hexDigit? c)) * 16 + (← hexDigit? d)

/-- The character that a one letter escape stands for. -/
def escaped? : Char → Option Char
  | '"' => some '"'
  | '\\' => some '\\'
  | '/' => some '/'
  | 'b' => some '\x08'
  | 'f' => some '\x0c'
  | 'n' => some '\n'
  | 'r' => some '\r'
  | 't' => some '\t'
  | _ => none

/-- Reads a string up to its closing quote as a list of code points, in which the two halves of an
escaped surrogate pair are still apart; `done` holds what came before, last first. -/
def readUnits (done : List Nat) : List Char → Option (List Nat × List Char)
  | '"' :: rest => some (done.reverse, rest)
  | '\\' :: 'u' :: a :: b :: c :: d :: rest =>
    match hexFour? a b c d with
    | some n => readUnits (n :: done) rest
    | none => none
  | '\\' :: c :: rest =>
    match escaped? c with
    | some e => readUnits (e.toNat :: done) rest
    | none => none
  | c :: rest => if c < ' ' ∨ c = '\\' then none else readUnits (c.toNat :: done) rest
  | [] => none

/-- Whether a code point is the first half of a surrogate pair. -/
def isHighSurrogate (n : Nat) : Bool := 0xD800 ≤ n && n < 0xDC00

/-- Whether a code point is the second half of a surrogate pair. -/
def isLowSurrogate (n : Nat) : Bool := 0xDC00 ≤ n && n < 0xE000

/-- Joins surrogate pairs; a half without its partner is an error. -/
def joinUnits : List Nat → Option (List Char)
  | [] => some []
  | [n] => if isHighSurrogate n || isLowSurrogate n then none else some [Char.ofNat n]
  | n :: m :: rest =>
    if isHighSurrogate n then
      if isLowSurrogate m then
        (joinUnits rest).map
          (Char.ofNat (0x10000 + (n - 0xD800) * 0x400 + (m - 0xDC00)) :: ·)
      else none
    else if isLowSurrogate n then none
    else (joinUnits (m :: rest)).map (Char.ofNat n :: ·)

/-- Reads a string after its opening quote. -/
def readString (cs : List Char) : Option (String × List Char) := do
  let (units, rest) ← readUnits [] cs
  return (String.ofList (← joinUnits units), rest)

/-! ## Values -/

/-- What reads one value from the start of a text. -/
abbrev ValueReader := List Char → Option (Json × List Char)

/-- Reads the elements of a list from its first one to the closing bracket. -/
def readItems (read : ValueReader) : Nat → List Json → List Char → Option (List Json × List Char)
  | 0, _, _ => none
  | fuel + 1, done, cs => do
    let (item, rest) ← read (skipSpace cs)
    match skipSpace rest with
    | ',' :: rest => readItems read fuel (item :: done) rest
    | ']' :: rest => return ((item :: done).reverse, rest)
    | _ => none

/-- Reads the fields of an object from its first one to the closing brace. -/
def readFields (read : ValueReader) :
    Nat → List (String × Json) → List Char → Option (List (String × Json) × List Char)
  | 0, _, _ => none
  | fuel + 1, done, cs =>
    match skipSpace cs with
    | '"' :: rest => do
      let (key, rest) ← readString rest
      match skipSpace rest with
      | ':' :: rest =>
        let (value, rest) ← read (skipSpace rest)
        match skipSpace rest with
        | ',' :: rest => readFields read fuel ((key, value) :: done) rest
        | '\x7d' :: rest => return (((key, value) :: done).reverse, rest)
        | _ => none
      | _ => none
    | _ => none

/-- Reads one value in which at most `depth` lists and objects are open at once. -/
def readValue : Nat → ValueReader
  | _, 'n' :: 'u' :: 'l' :: 'l' :: rest => some (.null, rest)
  | _, 't' :: 'r' :: 'u' :: 'e' :: rest => some (.bool true, rest)
  | _, 'f' :: 'a' :: 'l' :: 's' :: 'e' :: rest => some (.bool false, rest)
  | _, '"' :: rest => (readString rest).map fun (s, rest) => (.string s, rest)
  | depth + 1, '[' :: rest =>
    match skipSpace rest with
    | ']' :: rest => some (.list [], rest)
    | rest =>
      (readItems (readValue depth) rest.length [] rest).map fun (xs, rest) => (.list xs, rest)
  | depth + 1, '\x7b' :: rest =>
    match skipSpace rest with
    | '\x7d' :: rest => some (.object [], rest)
    | rest =>
      (readFields (readValue depth) rest.length [] rest).map fun (fs, rest) => (ofFields fs, rest)
  | _, cs => (Number.read? cs).map fun (n, rest) => (.number n, rest)

/-- The value of a text that is JSON as a whole. -/
def parse? (text : String) : Option Json := do
  let (value, rest) ← readValue maxDepth (skipSpace text.toList)
  if (skipSpace rest).isEmpty then return value else none

end Json

end SettingsConsole
