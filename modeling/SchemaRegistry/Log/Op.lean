import SchemaRegistry.Json.Shape.Write
import SchemaRegistry.Schema.Version
/-!
# Operations and entries of the log

The history of a registry is a log of operations: a version is registered, versions of a subject are
marked as deleted, or they are removed for good. An entry is an operation with the offset at which
it stands and the instant of its appending. In documents an operation is a record tagged by its
kind.
-/

set_option autoImplicit false

namespace SchemaRegistry

/-- A change of the registry. -/
inductive Op where
  | register (version : Version)
  | softDelete (subject : Subject) (versions : List UInt32)
  | permanentDelete (subject : Subject) (versions : List UInt32)
  deriving DecidableEq

/-- An operation in its place in the log. -/
structure Entry where
  offset : Nat
  op : Op
  appendedAt : Instant
  deriving DecidableEq

namespace Op

/-- The subject that the operation changes. -/
def subject : Op → Subject
  | register version => version.subject
  | softDelete subject _ => subject
  | permanentDelete subject _ => subject

/-- The name of the kind of operation. -/
def kind : Op → String
  | register _ => "register"
  | softDelete .. => "soft_delete"
  | permanentDelete .. => "permanent_delete"

/-- What a deletion says: a subject and some of its versions. -/
def deletionFields : Json.Fields :=
  .cons "subject" .required Subject.shape <|
  .cons "versions" .required (.list (.word .u32)) .nil

/-- An operation in a document. -/
def shape : Json.Shape :=
  .tagged "LogOp" "op" <|
    .cons "register" "struct variant LogOp::Register"
      (.cons "version" .required Version.shape .nil) <|
    .cons "soft_delete" "struct variant LogOp::SoftDelete" deletionFields <|
    .cons "permanent_delete" "struct variant LogOp::PermanentDelete" deletionFields .nil

def ofWire : shape.Val → Op
  | .inl (version, ()) => register (.ofWire version)
  | .inr (.inl (subject, versions, ())) => softDelete (.ofWire subject) versions
  | .inr (.inr (.inl (subject, versions, ()))) => permanentDelete (.ofWire subject) versions

def toWire : Op → shape.Val
  | register version => .inl (version.toWire, ())
  | softDelete subject versions => .inr (.inl (subject.toWire, versions, ()))
  | permanentDelete subject versions => .inr (.inr (.inl (subject.toWire, versions, ())))

/-- The compact document of an operation. -/
def document (op : Op) : String :=
  shape.write op.toWire

end Op

namespace Entry

/-- An entry in a document. -/
def shape : Json.Shape :=
  .record "LogEntry" <|
    .cons "offset" .required (.word .u64) <|
    .cons "op" .required Op.shape <|
    .cons "appended_at" .required .instant .nil

def ofWire : shape.Val → Entry
  | (offset, op, appendedAt, ()) => { offset := offset.toNat, op := .ofWire op, appendedAt }

def toWire (e : Entry) : shape.Val :=
  (UInt64.ofNat e.offset, e.op.toWire, e.appendedAt, ())

end Entry

end SchemaRegistry
