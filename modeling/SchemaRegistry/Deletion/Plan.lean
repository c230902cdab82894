import SchemaRegistry.Catalog.References
/-!
# Deletions

A subject goes from absent to live when it is registered, from live to soft-deleted, and from there
to absent when it is permanently deleted; there is no way from live to absent at once. A plan says
what a deletion would do to a catalog: the operation to append, and the record of the versions that
change. A plan changes nothing itself, so a refused deletion has no effect.
-/

set_option autoImplicit false

namespace SchemaRegistry

/-- The versions that a deletion changed, ascending. -/
structure DeletionRecord where
  subject : Subject
  mode : DeletionMode
  versions : List UInt32
  deriving DecidableEq

namespace DeletionRecord

/-- A record in a document. -/
def shape : Json.Shape :=
  .record "DeleteRecord" <|
    .cons "subject" .required Subject.shape <|
    .cons "mode" .required DeletionMode.shape <|
    .cons "versions" .required (.list (.word .u32)) .nil

def ofWire : shape.Val → DeletionRecord
  | (subject, mode, versions, ()) => { subject := .ofWire subject, mode := .ofWire mode, versions }

def toWire (r : DeletionRecord) : shape.Val :=
  (r.subject.toWire, r.mode.toWire, r.versions, ())

end DeletionRecord

namespace Deletion

/-- Refuses a deletion that the state of the subject does not allow. -/
def check (state : SubjectState) (subject : Subject) (mode : DeletionMode) : Except Error Unit :=
  match state, mode with
  | .absent, _ => .error (.subjectNotFound subject.rendered)
  | .softDeleted, .soft | .live, .permanent =>
    .error (.subjectNotSoftDeleted subject.rendered mode)
  | .live, .soft | .softDeleted, .permanent => .ok ()

/-- The first of the versions that is used elsewhere, and the first version that uses it. -/
def firstReference? (c : Catalog) (subject : Subject) : List UInt32 → Option (UInt32 × Version)
  | [] => none
  | number :: rest =>
    match c.referencedBy subject number with
    | referrer :: _ => some (number, referrer)
    | [] => firstReference? c subject rest

/-- Refuses to remove versions that are used elsewhere. -/
def checkReferences (c : Catalog) (subject : Subject) (numbers : List UInt32) :
    Except Error Unit :=
  match firstReference? c subject numbers with
  | none => .ok ()
  | some (number, referrer) =>
    let schema := versionText subject number
    let user := versionText referrer.subject referrer.number
    .error (.referenceExists
      s!"One or more references exist to the schema {schema}, e.g. from {user}")

/-- The operation of a deletion. -/
def op (subject : Subject) (numbers : List UInt32) : DeletionMode → Op
  | .soft => .softDelete subject numbers
  | .permanent => .permanentDelete subject numbers

/-- What a deletion of a subject would do to a catalog. -/
def plan (c : Catalog) (subject : Subject) (mode : DeletionMode) :
    Except Error (Op × DeletionRecord) :=
  match check (c.state subject) subject mode with
  | .error e => .error e
  | .ok () =>
    -- A soft deletion leaves alone what is deleted already; a permanent one takes all.
    let versions := (c.versions subject mode.isPermanent).map (·.number)
    let decided := (op subject versions mode, { subject, mode, versions })
    match mode with
    | .soft => .ok decided
    | .permanent => (checkReferences c subject versions).map fun () => decided

end Deletion

end SchemaRegistry
