import SchemaRegistry.Text.Quoted
/-!
# Why and where a TOML document is refused

A reader is at a position given by what is still to be read, and when it stops it says which part of
the document it was in, what could have stood there, and why the part is wrong although it can be
read. Any of the three may be missing. `Stop` collects them on the way out: of the parts that
contain each other the innermost is told, and all that could have stood at the place is listed from
the inside out. Line and column are computed only for the message, which shows the line and points
at the place.
-/

set_option autoImplicit false

namespace SchemaRegistry.Toml

/-! ## Causes -/

/-- Why a part that can be read is wrong. -/
inductive Cause where
  | outOfRange
  | tooLarge
  | tooSmall
  | tooDeep
  /-- A name for the second time, in the table of that header where it is known. -/
  | duplicate (name : String) (header : Option (List String))
  /-- A header for something that is there already and cannot be opened again. -/
  | reopened (name : String) (parent : List String)
  /-- A key that goes on below something that is no table. -/
  | notTable (path : List String) (kind : String)

def Cause.pathText (path : List String) : String := ".".intercalate path

/-- Where a table is, in a message about one of its names. -/
def Cause.placeText : List String → String
  | [] => "document root"
  | header => s!"table `{Cause.pathText header}`"

def Cause.message : Cause → String
  | .outOfRange => "value is out of range"
  | .tooLarge => "number too large to fit in target type"
  | .tooSmall => "number too small to fit in target type"
  | .tooDeep => "recursion limit exceeded"
  | .duplicate name none => s!"duplicate key `{name}`"
  | .duplicate name (some header) => s!"duplicate key `{name}` in {placeText header}"
  | .reopened name parent => s!"duplicate key `{Text.quote name}` in {placeText parent}"
  | .notTable path kind =>
    s!"dotted key `{pathText path}` attempted to extend non-table type ({kind})"

/-! ## Stops -/

/-- The end of a reading that failed. -/
structure Stop where
  /-- What was still to be read. -/
  rest : List Char
  /-- Whether the text cannot be meant as anything else either. -/
  isFinal : Bool := false
  /-- The innermost part of the document that has a name. -/
  part : Option String := none
  /-- What could have stood at the place. -/
  expected : List String := []
  cause : Option Cause := none

namespace Stop

/-- All that is told about the stop besides its place. -/
def reason (s : Stop) : String :=
  let part := s.part.toList.map fun name => s!"invalid {name}"
  let expected :=
    if s.expected.isEmpty then [] else ["expected " ++ ", ".intercalate s.expected]
  let cause := s.cause.toList.map Cause.message
  "\n".intercalate (part ++ expected ++ cause)

/-- What was read of a document. -/
def before (s : Stop) (document : List Char) : List Char :=
  document.take (document.length - s.rest.length)

/-- The part of a text behind its last line end. -/
def lastLine (cs : List Char) : List Char :=
  (cs.reverse.takeWhile (· ≠ '\n')).reverse

/-- How many octets characters take. -/
def octetCount (cs : List Char) : Nat :=
  (String.ofList cs).utf8ByteSize

/-- The number of lines before the place, and the column in its line, both from zero. The end of the
document belongs to the line of its last character, even if that is a line end. Columns count
characters, but octets where the character at the place takes several. -/
def position (s : Stop) (document : List Char) : Nat × Nat :=
  let before := s.before document
  match s.rest with
  | [] =>
    let line := before.dropLast
    (line.count '\n', (lastLine line).length + if before.isEmpty then 0 else 1)
  | c :: _ =>
    let line := lastLine before
    (before.count '\n', if c.utf8Size = 1 then line.length else octetCount line)

/-- The line of that number, from zero. -/
def lineAt : Nat → List Char → List Char
  | 0, cs => cs.takeWhile (· ≠ '\n')
  | n + 1, cs => lineAt n ((cs.dropWhile (· ≠ '\n')).drop 1)

/-- How many octets a message points at: those of the character, as far as the line goes. -/
def width (s : Stop) (line : List Char) (column : Nat) : Nat :=
  match s.rest with
  | [] => 1
  | c :: _ => max 1 (min c.utf8Size (octetCount line - column))

/-- The message about a document that is refused. -/
def message (s : Stop) (document : List Char) : String :=
  let (line, column) := s.position document
  let number := toString (line + 1)
  let content := lineAt line document
  let margin := "".pushn ' ' (number.length + 1) ++ "|"
  let pointer := "".pushn ' ' (column + 1) ++ "".pushn '^' (s.width content column)
  s!"TOML parse error at line {number}, column {column + 1}\n{margin}\n{number} | " ++
    String.ofList content ++ s!"\n{margin}{pointer}\n{s.reason}\n"

end Stop

end SchemaRegistry.Toml
