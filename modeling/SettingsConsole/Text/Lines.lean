/-!
# Lines of a text
-/

namespace SettingsConsole

namespace Text

/-- The lines of a text: it is cut at line feeds, and a carriage return before one is dropped. -/
def linesOf (s : String) : List String :=
  let lines := s.splitOn "\n"
  let whole := if lines.getLast? = some "" then lines.dropLast else lines
  whole.map fun l =>
    if l.toList.getLast? = some '\r' then String.ofList l.toList.dropLast else l

end Text

end SettingsConsole
