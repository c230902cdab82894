import SchemaRegistry.Error
/-!
# Schema formats

The three formats that a schema can be written in. A request may leave the format out, which means
AVRO, and may write its name in any mixture of cases; stored documents use the upper-case name.
-/

set_option autoImplicit false

namespace SchemaRegistry

inductive Format where
  | avro
  | protobuf
  | json
  deriving DecidableEq, Inhabited

namespace Format

def name : Format → String
  | avro => "AVRO"
  | protobuf => "PROTOBUF"
  | json => "JSON"

def all : List Format := [avro, protobuf, json]

/-- Whether two texts differ at most in the case of the letters A to Z. -/
def sameName (a b : String) : Bool :=
  a.toList.map Char.toLower == b.toList.map Char.toLower

/-- The format of that name, in whatever case. -/
def ofName? (name : String) : Option Format :=
  all.find? fun format => sameName format.name name

/-- The format that a request asks for. -/
def ofRequest : Option String → Except Error Format
  | none => .ok avro
  | some name =>
    match ofName? name with
    | some format => .ok format
    | none => .error (.invalidSchema s!"Unknown schema type: {name}")

/-- A format in a document. -/
def shape : Json.Shape := .choice [name avro, name protobuf, name json]

def ofWire : shape.Val → Format
  | ⟨0, _⟩ => avro
  | ⟨1, _⟩ => protobuf
  | _ => json

def toWire : Format → shape.Val
  | avro => ⟨0, by decide⟩
  | protobuf => ⟨1, by decide⟩
  | json => ⟨2, by decide⟩

end Format

end SchemaRegistry
