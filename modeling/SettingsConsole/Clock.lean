/-!
# Points in time

Two clocks are read: a running one in milliseconds, on which notices expire and reloads fall due,
and the wall clock, which the status line shows.
-/

namespace SettingsConsole

/-- A reading of the wall clock, to the minute. -/
structure Timestamp where
  year : Int
  month : Nat
  day : Nat
  hour : Nat
  minute : Nat
  deriving DecidableEq, Repr

/-- The two clocks, read together when an event is handled. -/
structure Moment where
  /-- Milliseconds on the running clock. -/
  millis : Nat
  /-- The wall clock. -/
  wall : Timestamp
  deriving DecidableEq, Repr

namespace Timestamp

/-- The decimal digits of a number, filled up with zeros on the left to a width. -/
def padded (width n : Nat) : String :=
  let digits := toString n
  String.ofList (List.replicate (width - digits.length) '0') ++ digits

/-- A year in four digits; years outside 0 to 9999 carry a sign. -/
def yearText (year : Int) : String :=
  if year < 0 then "-" ++ padded 4 year.natAbs
  else if year < 10000 then padded 4 year.natAbs
  else "+" ++ padded 4 year.natAbs

/-- The hour on a twelve hour clock, where midnight and noon are 12. -/
def twelveHour (hour : Nat) : Nat := if hour % 12 = 0 then 12 else hour % 12

/-- Month, day, year and the time on a twelve hour clock, as in `03/14/2026 02:05pm`. -/
def text (t : Timestamp) : String :=
  padded 2 t.month ++ "/" ++ padded 2 t.day ++ "/" ++ yearText t.year ++ " " ++
    padded 2 (twelveHour t.hour) ++ ":" ++ padded 2 t.minute ++ (if t.hour < 12 then "am" else "pm")

end Timestamp

end SettingsConsole
