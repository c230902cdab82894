import SchemaRegistry.Log.Op
import SchemaRegistry.Schema.Fingerprint
import SchemaRegistry.Subject.Pattern
/-!
# The catalog

A catalog is the state that a log leads to. It holds a row for every version that is stored, in the
order of listings: by subject, and within a subject by number. Each row carries the fingerprints of
its schema, so that no schema is read twice; a row whose schema cannot be read has none. Beside the
rows there are three things that outlive them: the highest number that each subject has given out,
the highest id, and the offset of the last entry applied. Only `Catalog.apply` changes a catalog,
and an entry at or below that offset changes nothing, so entries may be applied again.
-/

set_option autoImplicit false

namespace SchemaRegistry

/-- The fingerprints of a stored schema. -/
structure Prints where
  raw : Fingerprint
  normalized : Fingerprint
  deriving DecidableEq

def Prints.at (p : Prints) : Fidelity → Fingerprint
  | .raw => p.raw
  | .normalized => p.normalized

/-- The fingerprints of a version whose schema can be read. -/
def Prints.ofVersion? (v : Version) : Option Prints :=
  match v.fingerprint .raw, v.fingerprint .normalized with
  | .ok raw, .ok normalized => some { raw, normalized }
  | _, _ => none

/-- A stored version. -/
structure Row where
  version : Version
  prints : Option Prints
  deriving DecidableEq

namespace Row

def ofVersion (v : Version) : Row :=
  { version := v, prints := Prints.ofVersion? v }

/-- Whether the row belongs in front of another. -/
def isBefore (a b : Row) : Bool :=
  a.version.subject < b.version.subject ||
    a.version.subject == b.version.subject && a.version.number < b.version.number

/-- Whether two rows stand for the same number of the same subject. -/
def sameKey (a b : Row) : Bool :=
  a.version.subject == b.version.subject && a.version.number == b.version.number

/-- Whether the row is one of those versions of the subject. -/
def isAmong (subject : Subject) (numbers : List UInt32) (row : Row) : Bool :=
  row.version.subject == subject && numbers.contains row.version.number

def markDeleted (row : Row) : Row :=
  { row with version := { row.version with isDeleted := true } }

/-- The row put in its place, where it takes that of a row of the same key. -/
def insert (row : Row) : List Row → List Row
  | [] => [row]
  | other :: rest =>
    if row.isBefore other then row :: other :: rest
    else if row.sameKey other then row :: rest
    else other :: insert row rest

end Row

/-- The state that a log leads to. -/
structure Catalog where
  rows : List Row := []
  /-- The highest number given out by each subject that has given out one. -/
  highest : List (Subject × UInt32) := []
  maxId : Int64 := 0
  applied : Nat := 0

/-- The greater of two marks. -/
def greater {α : Type} [LT α] [DecidableLT α] (a b : α) : α :=
  if a < b then b else a

/-- A subject's mark raised to a number. -/
def raiseMark (subject : Subject) (n : UInt32) : List (Subject × UInt32) → List (Subject × UInt32)
  | [] => [(subject, n)]
  | (s, m) :: rest =>
    if s = subject then (s, greater m n) :: rest else (s, m) :: raiseMark subject n rest

namespace Catalog

def empty : Catalog := {}

/-! ## Changing -/

/-- The catalog after an operation, apart from the offset. -/
def perform (c : Catalog) : Op → Catalog
  | .register v =>
    { c with
      rows := (Row.ofVersion v).insert c.rows
      highest := raiseMark v.subject v.number c.highest
      maxId := greater c.maxId v.id }
  | .softDelete subject numbers =>
    { c with
      rows := c.rows.map fun row => if row.isAmong subject numbers then row.markDeleted else row }
  | .permanentDelete subject numbers =>
    { c with rows := c.rows.filter fun row => !row.isAmong subject numbers }

/-- The catalog after the operation at an offset. -/
def applyAt (c : Catalog) (offset : Nat) (op : Op) : Catalog :=
  if offset ≤ c.applied then c else { c.perform op with applied := offset }

/-- The catalog after an entry. -/
def apply (c : Catalog) (entry : Entry) : Catalog :=
  c.applyAt entry.offset entry.op

/-- The catalog after entries. -/
def applyAll (c : Catalog) (entries : List Entry) : Catalog :=
  entries.foldl apply c

/-- The catalog that a log leads to. -/
def ofEntries (entries : List Entry) : Catalog :=
  empty.applyAll entries

/-! ## Reading -/

/-- The rows of a subject, with or without the deleted ones. -/
def rowsOf (c : Catalog) (subject : Subject) (includeDeleted : Bool) : List Row :=
  c.rows.filter fun row =>
    row.version.subject == subject && (includeDeleted || row.version.isLive)

/-- The versions of a subject, ascending. -/
def versions (c : Catalog) (subject : Subject) (includeDeleted : Bool) : List Version :=
  (c.rowsOf subject includeDeleted).map (·.version)

def hasSubject (c : Catalog) (subject : Subject) (includeDeleted : Bool) : Bool :=
  !(c.versions subject includeDeleted).isEmpty

def state (c : Catalog) (subject : Subject) : SubjectState :=
  match c.versions subject true with
  | [] => .absent
  | versions => if versions.any Version.isLive then .live else .softDeleted

/-- The version of a subject by its number. -/
def get? (c : Catalog) (subject : Subject) (number : UInt32) : Option Version :=
  (c.versions subject true).find? (·.number == number)

/-- The subjects of a pattern, in order. -/
def list (c : Catalog) (pattern : Subject.Pattern) (includeDeleted : Bool) : List Subject :=
  ((c.rows.filter fun row =>
      pattern.covers row.version.subject && (includeDeleted || row.version.isLive)).map
    (·.version.subject)).eraseDups

/-- The highest number that a subject has given out, 0 if none. -/
def highestVersion (c : Catalog) (subject : Subject) : UInt32 :=
  (c.highest.lookup subject).getD 0

end Catalog

end SchemaRegistry
