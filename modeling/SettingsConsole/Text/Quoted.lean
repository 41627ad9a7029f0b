import SettingsConsole.Text.Combining
import SettingsConsole.Text.Unseen

/-!
# Quoted texts

A text as it is shown inside a message: between quotes, with quotes, backslashes and characters
that would not be seen written as escapes.  Bytes that are no UTF-8 are shown as `\xHH`.
-/

namespace SettingsConsole

namespace Text

/-- A character inside quotes; `marks` are the quotes that are escaped. -/
def quoteChar (marks : List Char) (c : Char) : List Char :=
  if c = '\x00' then ['\\', '0']
  else if c = '\t' then ['\\', 't']
  else if c = '\r' then ['\\', 'r']
  else if c = '\n' then ['\\', 'n']
  else if c = '\\' ∨ c ∈ marks then ['\\', c]
  else if isUnseen c || isCombining c then
    ['\\', 'u', '\x7b'] ++ Nat.toDigits 16 c.toNat ++ ['\x7d']
  else [c]

/-- A text between double quotes. -/
def quoted (s : String) : String :=
  "\"" ++ String.ofList (s.toList.flatMap (quoteChar ['"'])) ++ "\""

/-! ## Bytes -/

/-- A run of bytes: a character, or one byte that belongs to none. -/
inductive Piece where
  | char (c : Char)
  | stray (byte : UInt8)
  deriving DecidableEq, Repr

/-- The value of a continuation byte. -/
def continuation? (b : UInt8) : Option Nat :=
  if 0x80 ≤ b ∧ b < 0xC0 then some (b.toNat - 0x80) else none

/-- The character in the given range with the given code point, if there is one. -/
def charIn? (first n : Nat) : Option Char :=
  if first ≤ n ∧ n.isValidChar then some (Char.ofNat n) else none

/-- The character of a lead byte and the bytes after it, with the number of those it takes: the
shortest form only, and no surrogate. -/
def leadChar? (b : UInt8) (rest : List UInt8) : Option (Char × Nat) :=
  let lead := b.toNat
  if lead < 0x80 then some (Char.ofNat lead, 0)
  else if 0xC0 ≤ lead ∧ lead < 0xE0 then do
    let x ← rest[0]? >>= continuation?
    return (← charIn? 0x80 ((lead - 0xC0) * 0x40 + x), 1)
  else if 0xE0 ≤ lead ∧ lead < 0xF0 then do
    let x ← rest[0]? >>= continuation?
    let y ← rest[1]? >>= continuation?
    return (← charIn? 0x800 (((lead - 0xE0) * 0x40 + x) * 0x40 + y), 2)
  else if 0xF0 ≤ lead ∧ lead < 0xF8 then do
    let x ← rest[0]? >>= continuation?
    let y ← rest[1]? >>= continuation?
    let z ← rest[2]? >>= continuation?
    return (← charIn? 0x10000 ((((lead - 0xF0) * 0x40 + x) * 0x40 + y) * 0x40 + z), 3)
  else none

/-- Splits bytes into characters and stray bytes; `skip` bytes at the front are part of the
character before them. -/
def pieces : Nat → List UInt8 → List Piece
  | _, [] => []
  | skip + 1, _ :: rest => pieces skip rest
  | 0, b :: rest =>
    match leadChar? b rest with
    | some (c, taken) => .char c :: pieces taken rest
    | none => .stray b :: pieces 0 rest

/-- The text of bytes that are UTF-8. -/
def decodeUtf8? (bytes : List UInt8) : Option String :=
  let chars := (pieces 0 bytes).mapM fun
    | .char c => some c
    | .stray _ => none
  chars.map String.ofList

/-- The upper case hexadecimal digit of a number below 16. -/
def upperHexDigit (n : Nat) : Char := if n < 10 then Char.ofNat (48 + n) else Char.ofNat (55 + n)

/-- A byte as two hexadecimal digits. -/
def hexByte (b : UInt8) : List Char :=
  [upperHexDigit (b.toNat / 16), upperHexDigit (b.toNat % 16)]

/-- Bytes between double quotes; both kinds of quotes are escaped. -/
def quotedBytes (bytes : List UInt8) : String :=
  let shown := (pieces 0 bytes).flatMap fun
    | .char c => quoteChar ['"', '\''] c
    | .stray b => ['\\', 'x'] ++ hexByte b
  "\"" ++ String.ofList shown ++ "\""

end Text

end SettingsConsole
