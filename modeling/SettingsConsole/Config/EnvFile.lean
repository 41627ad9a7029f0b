import SettingsConsole.Config.Environment
import SettingsConsole.Text.Alphanumeric
import SettingsConsole.Text.Blank

/-!
# Files of environment variables

A file gives a variable a line, `KEY=VALUE`, with an optional `export` before it.  A value may be
quoted, quotes may span lines, `#` after a blank starts a comment, and `$NAME` or `${NAME}`
stands for a variable set before.  A variable that is set already is kept.  Reading stops at the
first line that is not of this form; the lines before it count.
-/

namespace SettingsConsole

namespace EnvFile

/-! ## Logical lines -/

/-- What is open at a point of the file. -/
inductive Opened where
  | nothing
  /-- A blank outside quotes. -/
  | blank
  | escape
  | single
  | singleEscape
  | double
  | doubleEscape
  deriving DecidableEq, Repr

namespace Opened

/-- What a character outside quotes opens. -/
def outside : Char → Opened
  | '\\' => .escape
  | '"' => .double
  | '\'' => .single
  | _ => .nothing

/-- What is open after a character. -/
def next : Opened → Char → Opened
  | .nothing, c => if Text.isBlank c ∧ c ≠ '\n' ∧ c ≠ '\r' then .blank else outside c
  | .blank, c => outside c
  | .escape, _ => .nothing
  | .single, '\\' => .singleEscape
  | .single, '\'' => .nothing
  | .single, _ => .single
  | .singleEscape, _ => .single
  | .double, '\\' => .doubleEscape
  | .double, '"' => .nothing
  | .double, _ => .double
  | .doubleEscape, _ => .double

end Opened

/-- Follows a line to its end, or to the comment in it: what is open there, and what comes before
the comment. -/
def follow (state : Opened) (done : List Char) : List Char → Opened × Option (List Char)
  | [] => (state, none)
  | c :: rest =>
    if state = .blank ∧ c = '#' then (state, some done.reverse)
    else follow (state.next c) (c :: done) rest

/-- The lines of a file, each with the line feed that ends it. -/
def physicalLines (current : List Char) : List Char → List (List Char)
  | [] => if current.isEmpty then [] else [current.reverse]
  | '\n' :: rest => ('\n' :: current).reverse :: physicalLines [] rest
  | c :: rest => physicalLines (c :: current) rest

/-- A line without the line feed, and the carriage return before it, that end it. -/
def chomp (line : List Char) : List Char :=
  match line.reverse with
  | '\n' :: '\r' :: rest => rest.reverse
  | '\n' :: rest => rest.reverse
  | _ => line

/-- Joins lines as long as something is open at their end.  `none` stands for a file that ends while
something is open. -/
def logicalLines (state : Opened) (pending : List Char) : List (List Char) →
    List (Option (List Char))
  | [] => if state = .nothing then [] else [none]
  | line :: rest =>
    let whole := pending ++ line
    if (Text.dropBlanks whole).head? = some '#' then some [] :: logicalLines .nothing [] rest
    else
      match follow state [] line with
      | (_, some before) => some (pending ++ before) :: logicalLines .nothing [] rest
      | (.nothing, none) => some (chomp whole) :: logicalLines .nothing [] rest
      | (state, none) => logicalLines state whole rest

/-! ## Values -/

/-- How far a reference to a variable is read. -/
inductive Reference where
  | absent
  /-- After the dollar sign. -/
  | bare
  /-- Between braces. -/
  | braced
  deriving DecidableEq, Repr

/-- A value that is being read. -/
structure Value where
  output : List Char
  inSingle : Bool
  inDouble : Bool
  escaped : Bool
  reference : Reference
  name : List Char
  /-- Only blanks and a comment may follow. -/
  ended : Bool
  /-- A comment has started. -/
  inComment : Bool
  deriving Repr

namespace Value

/-- Nothing is read yet. -/
def start : Value := ⟨[], false, false, false, .absent, [], false, false⟩

/-- Appends a character to the output, which is kept last first. -/
def push (v : Value) (c : Char) : Value := { v with output := c :: v.output }

/-- Replaces the reference by the value of the variable. -/
def resolve (lookup : String → String) (v : Value) : Value :=
  { v with output := (lookup (String.ofList v.name.reverse)).toList.reverse ++ v.output
           reference := .absent
           name := [] }

/-- Reads a character; nothing if it may not stand there. -/
def next (lookup : String → String) (v : Value) (c : Char) : Option Value :=
  if v.inComment then some v
  else if v.ended then
    if c = ' ' ∨ c = '\t' then some v
    else if c = '#' then some { v with inComment := true }
    else none
  else if v.escaped then
    let v := { v with escaped := false }
    if c = 'n' then some (v.push '\n')
    else if c ∈ ['\\', '\'', '"', '$', ' '] then some (v.push c)
    else none
  else if v.inSingle then
    if c = '\'' then some { v with inSingle := false } else some (v.push c)
  else if v.reference ≠ .absent ∧ Text.isAlphanumeric c then some { v with name := c :: v.name }
  else if v.reference = .bare then
    if c = '\x7b' ∧ v.name.isEmpty then some { v with reference := .braced }
    else
      let v := v.resolve lookup
      if c = '$' then some { v with reference := .bare } else some (v.push c)
  else if v.reference = .braced then
    if c = '\x7d' then some (v.resolve lookup) else some { v with name := c :: v.name }
  else if c = '$' then some { v with reference := .bare }
  else if v.inDouble then
    if c = '"' then some { v with inDouble := false }
    else if c = '\\' then some { v with escaped := true }
    else some (v.push c)
  else if c = '\'' then some { v with inSingle := true }
  else if c = '"' then some { v with inDouble := true }
  else if c = '\\' then some { v with escaped := true }
  else if c = ' ' ∨ c = '\t' then some { v with ended := true }
  else some (v.push c)

/-- The text of a value that has been read; nothing if something is open. -/
def finish (lookup : String → String) (v : Value) : Option String :=
  if v.reference = .braced ∨ v.inSingle ∨ v.inDouble then none
  else some (String.ofList (v.resolve lookup).output.reverse)

/-- Reads a value. -/
def read? (lookup : String → String) (cs : List Char) : Option String :=
  (cs.foldlM (next lookup) start).bind (finish lookup)

end Value

/-! ## Assignments -/

/-- Reads the name of a variable from the start of a line. -/
def readKey (cs : List Char) : Option (String × List Char) :=
  match cs with
  | c :: _ =>
    if c.isAlpha ∨ c = '_' then
      let inKey (d : Char) : Bool := d.isAlphanum || d = '_' || d = '.'
      some (String.ofList (cs.takeWhile inKey), Text.dropBlanks (cs.dropWhile inKey))
    else none
  | [] => none

/-- Reads an equals sign and the blanks after it. -/
def readEquals : List Char → Option (List Char)
  | '=' :: rest => some (Text.dropBlanks rest)
  | _ => none

/-- Reads the name of the variable and the equals sign, with an optional `export` before them. -/
def readTarget (cs : List Char) : Option (String × List Char) := do
  let (key, rest) ← readKey cs
  match readEquals rest with
  | some value => return (key, value)
  | none =>
    if key = "export" then
      let (key, rest) ← readKey rest
      return (key, ← readEquals rest)
    else none

/-- What a line says. -/
inductive LineMeaning where
  | nothing
  | malformed
  | assigns (key value : String)
  deriving DecidableEq, Repr

/-- Whether nothing or a comment follows. -/
def isOver (cs : List Char) : Bool := cs.isEmpty || cs.head? = some '#'

/-- Reads a line. -/
def readLine (lookup : String → String) (line : List Char) : LineMeaning :=
  let cs := Text.dropBlanks (Text.dropBlanksEnd line)
  if isOver cs then .nothing
  else
    match readTarget cs with
    | none => .malformed
    | some (key, value) =>
      if isOver value then .assigns key ""
      else
        match Value.read? lookup value with
        | some value => .assigns key value
        | none => .malformed

/-! ## Files -/

/-- Merges lines into an environment; `seen` holds the values the file gave so far. -/
def merge (e : Environment) (seen : List (String × String)) :
    List (Option (List Char)) → Environment
  | [] => e
  | none :: _ => e
  | some line :: rest =>
    let lookup (name : String) : String := (e.read? name).getD ((seen.lookup name).getD "")
    match readLine lookup line with
    | .nothing => merge e seen rest
    | .malformed => e
    | .assigns key value =>
      let e := if (e.read? key).isSome then e else e.set key value
      merge e ((key, value) :: seen) rest

/-- The text of a file without a byte order mark at its start. -/
def withoutMark : List Char → List Char
  | '\ufeff' :: rest => rest
  | cs => cs

/-- The environment after reading a file. -/
def load (text : String) (e : Environment) : Environment :=
  merge e [] (logicalLines .nothing [] (physicalLines [] (withoutMark text.toList)))

end EnvFile

end SettingsConsole
