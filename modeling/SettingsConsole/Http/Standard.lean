import SettingsConsole.Http.Exchange
import SettingsConsole.Http.Url
import SettingsConsole.Json.Reader
import SettingsConsole.Json.Writer

/-!
# The web of the running console

Addresses in normal form, headers of printable text, and JSON in UTF-8, for a console that runs.
-/

namespace SettingsConsole

namespace Web

/-- Whether a text may stand in a header: no control characters but the tab. -/
def fitsHeader (s : String) : Bool := s.toList.all fun c => c = '\t' || (' ' ≤ c && c ≠ '\x7f')

/-- A header without the blanks at its end, which do not reach the service. -/
def trimHeader (s : String) : String :=
  String.ofList (s.toList.reverse.dropWhile fun c => c = ' ' || c = '\t').reverse

/-- The text of a body without a byte order mark at its start. -/
def withoutMark (s : String) : String :=
  match s.toList with
  | '\ufeff' :: rest => String.ofList rest
  | _ => s

/-- The web that a running console reaches. -/
instance standard : Web where
  address? text pairs := (Url.parse? text).map fun u => ((pairs.map u.addPairs).getD u).text
  header? text := if fitsHeader text then some (trimHeader text) else none
  write := Json.text
  bodyText := withoutMark
  read? := Json.parse?

end Web

end SettingsConsole
