import SchemaRegistry.Catalog.Basic
/-!
# Finding schemas

A schema is looked for by fingerprint: under a subject, where the first version of equal fingerprint
is found, or anywhere, where only its id matters. A candidate is read before anything else, so that
an invalid one is reported whether or not the subject exists. A stored schema that cannot be read
stops the search when it is met.
-/

set_option autoImplicit false

namespace SchemaRegistry

/-- What a search under a subject comes to. -/
inductive Lookup where
  | found (version : Version)
  /-- The subject has versions, and none is equal. -/
  | noMatch
  | noSubject
  deriving DecidableEq

/-- The version found under a subject. -/
def Lookup.result (subject : Subject) : Lookup → Except Error Version
  | found version => .ok version
  | noMatch => .error .schemaNotFound
  | noSubject => .error (.subjectNotFound subject.rendered)

/-- A version of a subject, as messages name it. -/
def versionText (subject : Subject) (number : UInt32) : String :=
  s!"\x7bsubject={subject.rendered}, version={number}\x7d"

/-- The fingerprint of a row. -/
def Row.print (row : Row) (fidelity : Fidelity) : Except Error Fingerprint :=
  match row.prints with
  | some prints => .ok (prints.at fidelity)
  | none =>
    let key := versionText row.version.subject row.version.number
    .error (.internal s!"Stored schema {key} is unreadable")

/-- The first version of a fingerprint. -/
def Row.firstMatch (wanted : Fingerprint) (fidelity : Fidelity) :
    List Row → Except Error (Option Version)
  | [] => .ok none
  | row :: rest =>
    match row.print fidelity with
    | .error e => .error e
    | .ok print =>
      if print = wanted then .ok (some row.version) else firstMatch wanted fidelity rest

namespace Catalog

/-- The first version of a subject that is equal to a candidate whose references are resolved. -/
def find (c : Catalog) (subject : Subject) (candidate : Candidate) (fidelity : Fidelity)
    (includeDeleted : Bool) : Except Error Lookup :=
  match candidate.fingerprint fidelity with
  | .error e => .error e
  | .ok wanted =>
    match c.rowsOf subject includeDeleted with
    | [] => .ok .noSubject
    | rows =>
      (Row.firstMatch wanted fidelity rows).map fun
        | some version => .found version
        | none => .noMatch

/-- The id of the schema of a raw fingerprint, if it is stored anywhere. -/
def findId (c : Catalog) (wanted : Fingerprint) : Except Error (Option Int64) :=
  (Row.firstMatch wanted .raw c.rows).map fun found => found.map (·.id)

end Catalog

end SchemaRegistry
