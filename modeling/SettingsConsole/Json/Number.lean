import SettingsConsole.Decimal.Shortest
import SettingsConsole.Json.Basic

/-!
# JSON numbers as text

Reading and writing of numbers.  A number without a point and an exponent that fits 64 bits, signed
or not, is whole; every other one is a double.  A double is computed from its first digits, as many
as fit 64 bits, scaled once by a power of ten, so the last bit need not be the nearest one.
-/

namespace SettingsConsole

namespace Json

namespace Number

/-- The largest whole number. -/
def maxWhole : Nat := Nat.pow 2 64 - 1

/-- The value of a decimal digit. -/
def digit? (c : Char) : Option Nat := if c.isDigit then some (c.toNat - 48) else none

/-- Digits read so far: their value, and how many further ones did not fit 64 bits. -/
structure Digits where
  value : Nat
  dropped : Nat
  deriving Repr

/-- Takes one more digit; from the first that does not fit on all are dropped. -/
def Digits.push (d : Digits) (n : Nat) : Digits :=
  if d.dropped = 0 ∧ d.value * 10 + n ≤ maxWhole then { d with value := d.value * 10 + n }
  else { d with dropped := d.dropped + 1 }

/-- The digits at the start of a text and what follows them. -/
def takeDigits (cs : List Char) : List Nat × List Char :=
  ((cs.takeWhile Char.isDigit).filterMap digit?, cs.dropWhile Char.isDigit)

/-- `10 ^ n` as a double. -/
def pow10 (n : Nat) : Float := Float.ofScientific 1 false n

/-- Divides by `1e308` while the exponent is too small for one division. -/
def scaleDown : Nat → Float → Nat → Float × Nat
  | 0, x, n => (x, n)
  | fuel + 1, x, n =>
    if n ≤ 308 ∨ x == 0.0 then (x, n) else scaleDown fuel (x / pow10 308) (n - 308)

/-- `significand * 10 ^ exponent` as a double, or nothing if it is beyond the doubles. -/
def scaled? (significand : Nat) (exponent : Int) : Option Float :=
  let x := significand.toUInt64.toFloat
  if 0 ≤ exponent then
    if exponent ≤ 308 then
      let y := x * pow10 exponent.toNat
      if y.isInf then none else some y
    else if significand = 0 then some x
    else none
  else
    let (y, n) := scaleDown 4 x exponent.natAbs
    if y == 0.0 then some y else some (y / pow10 n)

/-- The double of a sign and a magnitude. -/
def signed (negative : Bool) (x : Float) : Number :=
  .double (if negative then (-x).toBits else x.toBits)

/-- The largest exponent that is read as one. -/
def maxExponent : Nat := Nat.pow 2 31 - 1

/-- Reads the digits of an exponent, sign first, and gives the number scaled by it. -/
def readExponent (negative : Bool) (significand : Nat) (start : Int) (cs : List Char) :
    Option (Number × List Char) :=
  let (down, cs) := match cs with
    | '-' :: rest => (true, rest)
    | '+' :: rest => (false, rest)
    | cs => (false, cs)
  match takeDigits cs with
  | ([], _) => none
  | (ds, rest) =>
    let e := ds.foldl (fun acc d => acc * 10 + d) 0
    if e ≤ maxExponent then
      (scaled? significand (if down then start - e else start + e)).map
        fun x => (signed negative x, rest)
    else if significand ≠ 0 ∧ ¬ down then none
    else some (signed negative 0.0, rest)

/-- Reads what may follow the whole part of a number: a fraction, an exponent, or nothing. -/
def readTail (negative : Bool) (d : Digits) : List Char → Option (Number × List Char)
  | '.' :: rest =>
    match takeDigits rest with
    | ([], _) => none
    | (ds, rest) =>
      let full := ds.foldl Digits.push { d with dropped := 0 }
      let exponent : Int := (d.dropped : Int) - (ds.length - full.dropped : Nat)
      match rest with
      | 'e' :: rest | 'E' :: rest => readExponent negative full.value exponent rest
      | rest => (scaled? full.value exponent).map fun x => (signed negative x, rest)
  | 'e' :: rest | 'E' :: rest => readExponent negative d.value d.dropped rest
  | rest =>
    if d.dropped ≠ 0 then (scaled? d.value d.dropped).map fun x => (signed negative x, rest)
    else if ¬ negative then some (.whole d.value, rest)
    else if d.value ≠ 0 ∧ d.value ≤ Nat.pow 2 63 then some (.whole (-(d.value : Int)), rest)
    else some (signed true d.value.toUInt64.toFloat, rest)

/-- Reads a number from the start of a text; no leading zero may precede another digit. -/
def read? (cs : List Char) : Option (Number × List Char) :=
  let (negative, cs) := match cs with
    | '-' :: rest => (true, rest)
    | cs => (false, cs)
  match takeDigits cs with
  | ([], _) => none
  | (0 :: _ :: _, _) => none
  | (ds, rest) => readTail negative (ds.foldl Digits.push ⟨0, 0⟩) rest

/-! ## Writing -/

/-- Where the digits of a double are written without an exponent: the point may stand up to 16
places after the first digit and up to 4 zeros may precede it. -/
def isPositional (point : Int) : Bool := -5 < point && point ≤ 16

/-- A shortest decimal: positional with a point, or with one digit before the point and a signed
exponent. -/
def scaledText (d : Decimal.Scaled) : String :=
  let digits := toString d.digits
  let point : Int := digits.length + d.exponent
  if d.digits = 0 then "0.0"
  else if isPositional point then
    if 0 ≤ d.exponent then
      digits ++ String.ofList (List.replicate d.exponent.toNat '0') ++ ".0"
    else if 0 < point then
      String.ofList (digits.toList.take point.toNat) ++ "." ++
        String.ofList (digits.toList.drop point.toNat)
    else "0." ++ String.ofList (List.replicate (-point).toNat '0') ++ digits
  else
    let fraction := digits.toList.drop 1
    String.ofList (digits.toList.take 1) ++
      (if fraction.isEmpty then "" else "." ++ String.ofList fraction) ++ "e" ++
      (if 0 ≤ point - 1 then "+" else "-") ++ toString (point - 1).natAbs

/-- A double, sign first. -/
def doubleText (bits : UInt64) : String :=
  (if bits >>> 63 = 1 then "-" else "") ++ scaledText (Decimal.shortest bits)

/-- A number in JSON. -/
def text : Number → String
  | .whole n => toString n
  | .double bits => doubleText bits

end Number

end Json

end SettingsConsole
