import SchemaRegistry.Error
import SchemaRegistry.Text.Class
/-!
# References

A schema may use types of other schemas. It names each of them by a reference: the name under which
it uses the type, and the version of a subject that defines it. `Reference.check` looks at the
reference alone; whether the version exists is for the catalog to say.
-/

set_option autoImplicit false

namespace SchemaRegistry

structure Reference where
  name : String
  /-- As a request writes it, or the rendered name once it is resolved. -/
  subject : String
  version : UInt32
  deriving DecidableEq, Inhabited

namespace Reference

/-- Whether a text has nothing but blanks. -/
def isBlankText (s : String) : Bool :=
  s.toList.all Text.isBlank

/-- Refuses a reference that cannot mean anything. -/
def check (r : Reference) : Except Error Unit :=
  if isBlankText r.name then .error (.invalidSchema "Reference name must not be empty")
  else if isBlankText r.subject then
    .error (.invalidSchema s!"Reference '{r.name}' has an empty subject")
  else if r.version = 0 then
    .error (.invalidSchema s!"Reference '{r.name}' has an invalid version 0")
  else .ok ()

/-- A reference in a document. -/
def shape : Json.Shape :=
  .record "SchemaReference" <|
    .cons "name" .required .text <|
    .cons "subject" .required .text <|
    .cons "version" .required (.word .u32) .nil

def ofWire : shape.Val → Reference
  | (name, subject, version, ()) => { name, subject, version }

def toWire (r : Reference) : shape.Val :=
  (r.name, r.subject, r.version, ())

end Reference

end SchemaRegistry
