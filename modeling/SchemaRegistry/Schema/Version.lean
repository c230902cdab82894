import SchemaRegistry.Schema.Format
import SchemaRegistry.Schema.Reference
import SchemaRegistry.Subject.Name
/-!
# Versions

A subject has a sequence of versions, each of which is one schema. A version's number is given once
per subject and never again; its id belongs to the schema and is the same wherever the same schema
is registered. A `Candidate` is a schema that has no number yet, and `Registered` is what it is
given.
-/

set_option autoImplicit false

namespace SchemaRegistry

/-- A version of a subject. -/
structure Version where
  subject : Subject
  number : UInt32
  id : Int64
  format : Format
  references : List Reference
  text : String
  isDeleted : Bool
  deriving DecidableEq, Inhabited

/-- A schema that is to be registered or looked up. -/
structure Candidate where
  format : Format
  references : List Reference
  text : String
  deriving DecidableEq, Inhabited

/-- What a registered schema has been given. -/
structure Registered where
  id : Int64
  number : UInt32
  deriving DecidableEq, Inhabited

/-! ## Documents -/

namespace Subject

/-- A subject in a document. -/
def shape : Json.Shape :=
  .record "QualifiedSubject" <|
    .cons "tenant" .required .text <|
    .cons "context" .required .text <|
    .cons "local_name" .required .text .nil

def ofWire : shape.Val → Subject
  | (tenant, context, localName, ()) => { tenant, context, localName }

def toWire (s : Subject) : shape.Val :=
  (s.tenant, s.context, s.localName, ())

end Subject

namespace Version

def isLive (v : Version) : Bool := !v.isDeleted

/-- A version in a document. -/
def shape : Json.Shape :=
  .record "SchemaVersion" <|
    .cons "subject" .required Subject.shape <|
    .cons "version" .required (.word .u32) <|
    .cons "id" .required (.word .i64) <|
    .cons "schema_type" .required Format.shape <|
    .cons "references" .required (.list Reference.shape) <|
    .cons "schema" .required .text <|
    .cons "deleted" .required .flag .nil

def ofWire : shape.Val → Version
  | (subject, number, id, format, references, text, isDeleted, ()) =>
    { subject := .ofWire subject, number, id, format := .ofWire format
      references := List.map Reference.ofWire references, text, isDeleted }

def toWire (v : Version) : shape.Val :=
  (v.subject.toWire, v.number, v.id, v.format.toWire, v.references.map Reference.toWire, v.text,
    v.isDeleted, ())

end Version

namespace Registered

/-- The outcome of a registration in a document. -/
def shape : Json.Shape :=
  .record "RegisteredSchema" <|
    .cons "id" .required (.word .i64) <|
    .cons "version" .required (.word .u32) .nil

def ofWire : shape.Val → Registered
  | (id, number, ()) => { id, number }

def toWire (r : Registered) : shape.Val :=
  (r.id, r.number, ())

end Registered

end SchemaRegistry
