import SchemaRegistry.Json.Shape.Write
import SchemaRegistry.Schema.Version
/-!
# Bodies of requests and answers

A schema is submitted as a `SchemaBody` and given back as a `SchemaAnswer`. Both leave out what is
the ordinary case: the format of an AVRO schema, and an empty list of references. The format of a
body is text, because a request may write it in any case and may write nonsense; that of an answer
is one of the three. Every failure is answered with an `ErrorBody`.
-/

set_option autoImplicit false

namespace SchemaRegistry

/-- A schema as it is submitted. -/
structure SchemaBody where
  schema : String
  formatName : Option String
  references : List Reference

namespace SchemaBody

def shape : Json.Shape :=
  .record "SchemaBody" <|
    .cons "schema" .required .text <|
    .cons "schemaType" .omissible (.optional .text) <|
    .cons "references" .omissible (.list Reference.shape) .nil

def ofWire : shape.Val → SchemaBody
  | (schema, formatName, references, ()) =>
    { schema, formatName, references := List.map Reference.ofWire references }

def toWire (b : SchemaBody) : shape.Val :=
  (b.schema, b.formatName, b.references.map Reference.toWire, ())

/-- The candidate that is submitted. -/
def candidate (b : SchemaBody) : Except Error Candidate :=
  (Format.ofRequest b.formatName).map fun format =>
    { format, references := b.references, text := b.schema }

/-- The body that submits a candidate. It always names the format. -/
def ofCandidate (c : Candidate) : SchemaBody :=
  { schema := c.text, formatName := some c.format.name, references := c.references }

end SchemaBody

/-- A version as it is given back. -/
structure SchemaAnswer where
  subject : String
  number : UInt32
  id : Int64
  format : Option Format
  references : List Reference
  schema : String

namespace SchemaAnswer

def shape : Json.Shape :=
  .record "SchemaResponse" <|
    .cons "subject" .required .text <|
    .cons "version" .required (.word .u32) <|
    .cons "id" .required (.word .i64) <|
    .cons "schemaType" .omissible (.optional Format.shape) <|
    .cons "references" .omissible (.list Reference.shape) <|
    .cons "schema" .required .text .nil

def ofWire : shape.Val → SchemaAnswer
  | (subject, number, id, format, references, schema, ()) =>
    { subject, number, id, format := Option.map Format.ofWire format
      references := List.map Reference.ofWire references, schema }

def toWire (a : SchemaAnswer) : shape.Val :=
  (a.subject, a.number, a.id, a.format.map Format.toWire, a.references.map Reference.toWire,
    a.schema, ())

/-- The answer that gives back a version. -/
def ofVersion (v : Version) : SchemaAnswer :=
  { subject := v.subject.rendered, number := v.number, id := v.id
    format := if v.format = .avro then none else some v.format
    references := v.references, schema := v.text }

end SchemaAnswer

/-- A failure as it is answered. -/
structure ErrorBody where
  code : UInt32
  message : String

namespace ErrorBody

def shape : Json.Shape :=
  .record "ErrorBody" <|
    .cons "error_code" .required (.word .u32) <|
    .cons "message" .required .text .nil

def ofWire : shape.Val → ErrorBody
  | (code, message, ()) => { code, message }

def toWire (b : ErrorBody) : shape.Val :=
  (b.code, b.message, ())

def ofError (e : Error) : ErrorBody :=
  { code := e.code, message := e.message }

end ErrorBody

end SchemaRegistry
