import SchemaRegistry.Json.Canonical
import SchemaRegistry.Json.Printer
import SchemaRegistry.Json.Reader
import SchemaRegistry.Schema.Format
import SchemaRegistry.Text.Line
/-!
# Canonical schema texts

The registry does not interpret schemas. It checks that a text has the form of its format, and
reduces it to a canonical text that equal schemas share. AVRO and JSON schemas are JSON documents,
and canonical is the sorted compact document. A PROTOBUF schema is a sequence of lines; canonical
are the lines without comments, without blanks at either end, and without the empty ones.

A canonical text can be taken *raw*, which keeps all that the schema says, or *normalized*, which
drops documentation: the members that hold it in AVRO and JSON, the width of blanks in PROTOBUF.
-/

set_option autoImplicit false

namespace SchemaRegistry

/-- What a canonical text keeps. -/
inductive Fidelity where
  | raw
  | normalized
  deriving DecidableEq

def Fidelity.ofNormalize (normalize : Bool) : Fidelity :=
  if normalize then .normalized else .raw

namespace Canonical

/-! ## JSON documents -/

/-- The canonical document of a tree, without the members that only document. -/
def ofTree (annotations : List String) (fidelity : Fidelity) (tree : Json) : String :=
  match fidelity with
  | .raw => tree.sorted.compact
  | .normalized => (tree.without annotations).sorted.compact

/-- The canonical form of a JSON document. -/
def ofJsonText (annotations : List String) (fidelity : Fidelity) (text : String) :
    Except Error String :=
  let document := Text.octets text
  match Json.parse document with
  | .ok tree => .ok (ofTree annotations fidelity tree)
  | .error stop => .error (.invalidSchema s!"Invalid schema: {stop.message document}")

/-! ## PROTOBUF lines -/

/-- The line up to a comment, `quote` being the mark of the literal that is open, if one is. A
backslash in a literal takes the next character with it, and a literal ends with its line. -/
def beforeComment (quote : Option Char) : List Char → List Char
  | [] => []
  | [c] => [c]
  | c :: d :: rest =>
    match quote with
    | some q =>
      -- An escaped mark does not close the literal.
      if c = '\\' then c :: d :: beforeComment quote rest
      else if c = q then c :: beforeComment none (d :: rest)
      else c :: beforeComment quote (d :: rest)
    | none =>
      if c = '"' ∨ c = '\'' then c :: beforeComment (some c) (d :: rest)
      else if c = '/' ∧ d = '/' then []
      else c :: beforeComment none (d :: rest)

/-- What a line says. -/
def lineContent (line : List Char) : List Char :=
  Text.trim (beforeComment none line)

/-- The lines of a schema that say something. -/
def contentLines (text : List Char) : List (List Char) :=
  ((Text.lines text).map lineContent).filter (!·.isEmpty)

/-- A line with one space between its words. -/
def collapse (line : List Char) : List Char :=
  [' '].intercalate (Text.words line)

/-- The canonical form of a sequence of lines. -/
def ofLines (fidelity : Fidelity) (text : String) : Except Error String :=
  match contentLines text.toList with
  | [] => .error (.invalidSchema "Protobuf schema has no definitions")
  | lines =>
    let lines := match fidelity with
      | .raw => lines
      | .normalized => lines.map collapse
    .ok (String.ofList (['\n'].intercalate lines))

end Canonical

/-- The members of a JSON document that only document it. -/
def Format.annotations : Format → List String
  | .avro => ["doc", "aliases"]
  | .json => ["description", "$comment"]
  | .protobuf => []

/-- The canonical text of a schema, or why it is none. -/
def canonicalize (format : Format) (text : String) (fidelity : Fidelity) : Except Error String :=
  if text.toList.all Text.isBlank then .error (.invalidSchema "Empty schema")
  else
    match format with
    | .protobuf => Canonical.ofLines fidelity text
    | .avro | .json => Canonical.ofJsonText format.annotations fidelity text

end SchemaRegistry
