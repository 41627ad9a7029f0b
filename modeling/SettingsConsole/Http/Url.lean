import SettingsConsole.Text.Quoted

/-!
# Addresses of requests

An absolute address of the web in its normal form: scheme and host in lower case, the default number
after the host left out, dot segments of the path resolved, characters that may not stand in a path
or a query percent-encoded, and no fragment.  Text that is percent-encoded already stays as it is.
Hosts are names of ASCII characters, dotted decimal addresses, or bracketed ones.
-/

namespace SettingsConsole

/-- An address in normal form. -/
structure Url where
  scheme : String
  host : String
  /-- The number after the host, if it is not the default one of the scheme. -/
  portNumber : Option Nat
  /-- The path, which starts with a slash. -/
  path : String
  query : Option String
  deriving DecidableEq, Repr

namespace Url

/-! ## Percent-encoding -/

/-- The bytes of a character in UTF-8, each as a percent sign and two digits. -/
def percentEncode (c : Char) : List Char :=
  (String.singleton c).toUTF8.toList.flatMap fun b => '%' :: Text.hexByte b

/-- Encodes the characters of a set and everything beyond ASCII. -/
def encodeWhere (set : Char → Bool) (cs : List Char) : List Char :=
  cs.flatMap fun c => if set c || c.toNat ≥ 0x7F || c < ' ' then percentEncode c else [c]

/-- What is encoded in a path. -/
def inPathSet (c : Char) : Bool := c ∈ [' ', '"', '<', '>', '\x60', '#', '?', '\x7b', '\x7d']

/-- What is encoded in a query. -/
def inQuerySet (c : Char) : Bool := c ∈ [' ', '"', '<', '>', '#', '\'']

/-! ## Parts of an address -/

/-- A text without controls and blanks at its ends, and without tabs and line ends anywhere. -/
def clean (cs : List Char) : List Char :=
  let isEdge (c : Char) : Bool := c ≤ ' '
  let inner := ((cs.dropWhile isEdge).reverse.dropWhile isEdge).reverse
  inner.filter fun c => c ≠ '\t' && c ≠ '\n' && c ≠ '\r'

/-- A letter of ASCII in lower case. -/
def lower (cs : List Char) : List Char := cs.map Char.toLower

/-- Splits at the first character of a set. -/
def splitAt (set : Char → Bool) (cs : List Char) : List Char × List Char :=
  (cs.takeWhile fun c => !set c, cs.dropWhile fun c => !set c)

/-- The scheme and what follows the colon. -/
def readScheme (cs : List Char) : Option (String × List Char) :=
  match splitAt (· = ':') cs with
  | (scheme, ':' :: rest) =>
    let scheme := String.ofList (lower scheme)
    if scheme = "http" ∨ scheme = "https" then some (scheme, rest) else none
  | _ => none

/-- The number that a scheme stands for if none is given. -/
def defaultPortNumber (scheme : String) : Nat := if scheme = "http" then 80 else 443

/-- A slash of either kind. -/
def isSlash (c : Char) : Bool := c = '/' || c = '\\'

/-- Whether a character may stand in the name of a host. -/
def isHostChar (c : Char) : Bool :=
  ' ' < c && c.toNat < 0x7F &&
    c ∉ ['#', '/', ':', '<', '>', '?', '@', '[', '\\', ']', '^', '|', '%']

/-- The value of digits. -/
def number? (cs : List Char) : Option Nat :=
  if cs.all Char.isDigit then some (cs.foldl (fun n c => n * 10 + (c.toNat - 48)) 0) else none

/-- A host: a name, a dotted decimal address, or a bracketed address. -/
def readHost? (cs : List Char) : Option String :=
  match cs with
  | [] => none
  | '[' :: inner =>
    let digits := inner.dropLast
    if inner.getLast? = some ']' ∧ digits ≠ [] ∧
        digits.all (fun c => c.isDigit || c ∈ [':', '.'] || ('a' ≤ c.toLower && c.toLower ≤ 'f'))
    then some (String.ofList (lower cs))
    else none
  | cs =>
    if ¬ cs.all isHostChar then none
    else
      let name := String.ofList (lower cs)
      let labels := name.splitOn "."
      match labels.getLast? with
      | some last =>
        if last ≠ "" ∧ last.toList.all Char.isDigit then
          let parts := labels.map fun l => number? l.toList
          let fits (p : Option Nat) : Bool := p.any (· < 256)
          if labels.length = 4 ∧ labels.all (· ≠ "") ∧ parts.all fits then
            some (".".intercalate (parts.map fun p => toString (p.getD 0)))
          else none
        else some name
      | none => none

/-- The number after a host; the default one is left out. -/
def readPortNumber? (scheme : String) : List Char → Option (Option Nat)
  | [] | [':'] => some none
  | ':' :: digits => do
    let n ← number? digits
    if n = defaultPortNumber scheme then some none
    else if n < 65536 then some (some n)
    else none
  | _ => none

/-- Where the host ends: at the colon before a number, unless that is inside brackets. -/
def splitHost (cs : List Char) : List Char × List Char :=
  match cs with
  | '[' :: _ =>
    match splitAt (· = ']') cs with
    | (inner, ']' :: rest) => (inner ++ [']'], rest)
    | (inner, rest) => (inner, rest)
  | cs => splitAt (· = ':') cs

/-- Splits a path at its slashes. -/
def segments (current : List Char) : List Char → List (List Char)
  | [] => [current.reverse]
  | c :: rest =>
    if isSlash c then current.reverse :: segments [] rest else segments (c :: current) rest

/-- A segment that stands for the present directory. -/
def isDot (segment : String) : Bool := segment ∈ [".", "%2e", "%2E"]

/-- A segment that stands for the directory above. -/
def isDoubleDot (segment : String) : Bool :=
  String.ofList (lower segment.toList) ∈ ["..", ".%2e", "%2e.", "%2e%2e"]

/-- Resolves dot segments; `done` holds the segments before, last first. -/
def resolveDots (done : List String) : List String → List String
  | [] => done.reverse
  | [last] =>
    if isDoubleDot last then (("" :: done.drop 1).reverse)
    else if isDot last then (("" :: done).reverse)
    else (last :: done).reverse
  | segment :: rest =>
    if isDoubleDot segment then resolveDots (done.drop 1) rest
    else if isDot segment then resolveDots done rest
    else resolveDots (segment :: done) rest

/-- The path in normal form. -/
def readPath (cs : List Char) : String :=
  let body := match cs with
    | c :: rest => if isSlash c then rest else cs
    | [] => []
  let encoded := (segments [] body).map fun s => String.ofList (encodeWhere inPathSet s)
  "/" ++ "/".intercalate (resolveDots [] encoded)

/-- The address that a text gives, if it is an absolute one of the web. -/
def parse? (text : String) : Option Url := do
  let (scheme, rest) ← readScheme (clean text.toList)
  let rest := rest.dropWhile isSlash
  let (authority, rest) := splitAt (fun c => isSlash c || c = '?' || c = '#') rest
  let (host, number) := splitHost (authority.reverse.takeWhile (· ≠ '@')).reverse
  let host ← readHost? host
  let portNumber ← readPortNumber? scheme number
  let (path, rest) := splitAt (fun c => c = '?' || c = '#') rest
  let query := match rest with
    | '?' :: rest =>
      some (String.ofList (encodeWhere inQuerySet (splitAt (· = '#') rest).1))
    | _ => none
  return { scheme, host, portNumber, path := readPath path, query }

/-- The address with a further pair in its query. -/
def addPair (u : Url) (pair : String × String) : Url :=
  let added := pair.1 ++ "=" ++ pair.2
  { u with query := match u.query with
    | none | some "" => some added
    | some q => some (q ++ "&" ++ added) }

/-- The address with further pairs in its query; a query without any pair is left out. -/
def addPairs (u : Url) (pairs : List (String × String)) : Url :=
  let u := pairs.foldl addPair u
  if u.query = some "" then { u with query := none } else u

/-- The written form of an address. -/
def text (u : Url) : String :=
  u.scheme ++ "://" ++ u.host ++
    (match u.portNumber with
      | some n => ":" ++ toString n
      | none => "") ++ u.path ++
    (match u.query with
      | some q => "?" ++ q
      | none => "")

end Url

end SettingsConsole
