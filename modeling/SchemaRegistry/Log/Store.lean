import SchemaRegistry.Json.Shape.Read
import SchemaRegistry.Log.Leadership
import SchemaRegistry.Log.Op
/-!
# Where the log is kept

Nodes share one log. It is kept in memory, as entries, or in a table, as rows of plain text. A row's
offset is a signed number and its operation and instant are documents that are read each time, so a
table that others have written to can hold rows that are no entries; one such row fails the whole
read. A new entry comes after the greatest offset there is. In memory offsets count from one without
gaps, and in a table they may have gaps, but they always increase.
-/

set_option autoImplicit false

namespace SchemaRegistry

/-- A row of the table. -/
structure LogRow where
  offset : Int
  kind : String
  subject : String
  document : String
  appendedAt : String
  deriving DecidableEq

/-- A log. The table may be gone. -/
inductive Store where
  | memory (entries : List Entry)
  | table (rows : Option (List LogRow))
  deriving DecidableEq

/-- Why a log cannot be read or written. -/
inductive StoreFlaw where
  | missingTable
  | document (message : String)
  | instant (flaw : Instant.Flaw)
  | offset (n : Int)
  /-- A failure of the device, in its own words. -/
  | device (message : String)
  deriving DecidableEq

def StoreFlaw.message : StoreFlaw → String
  | .missingTable => "database error: Rusqlite(\"no such table: log_entries\")"
  | .document message => s!"json error: {message}"
  | .instant flaw => s!"date/time parse error: {flaw.message}"
  | .offset n => s!"invalid log offset: {n}"
  | .device message => message

/-- Why a call on a log fails. -/
inductive LogFailure where
  /-- Another node leads, so nothing was written. -/
  | notLeader
  | store (flaw : StoreFlaw)
  deriving DecidableEq

namespace LogFailure

def message : LogFailure → String
  | notLeader => "this node is not the leader"
  | store flaw => s!"log store error: {flaw.message}"

/-- What the caller of the registry is told. -/
def error : LogFailure → Error
  | notLeader =>
    .operationTimeout "Leadership changed while writing to the log; retry the request"
  | store flaw => .store s!"Error in the backend datastore: {flaw.message}"

end LogFailure

/-! ## Rows -/

namespace LogRow

/-- The greatest offset that a table can hold. -/
def maxOffset : Int := 9223372036854775807

/-- The row that an appended operation becomes. -/
def ofOp (offset : Int) (now : Instant) (op : Op) : LogRow :=
  { offset, kind := op.kind, subject := op.subject.rendered, document := op.document
    appendedAt := now.offsetText }

/-- The operation of a row. -/
def op? (row : LogRow) : Except StoreFlaw Op :=
  let document := Text.octets row.document
  match Op.shape.ofDocument document with
  | .ok v => .ok (.ofWire v)
  | .error stop => .error (.document (stop.message document))

/-- The entry of a row. -/
def entry? (row : LogRow) : Except StoreFlaw Entry :=
  if row.offset < 0 then .error (.offset row.offset)
  else
    match row.op? with
    | .error flaw => .error flaw
    | .ok op =>
      match Instant.ofStrictText? row.appendedAt with
      | .error flaw => .error (.instant flaw)
      | .ok appendedAt => .ok { offset := row.offset.toNat, op, appendedAt }

/-- The row put in its place, where it takes that of a row of the same offset. -/
def insert (row : LogRow) : List LogRow → List LogRow
  | [] => [row]
  | other :: rest =>
    if row.offset < other.offset then row :: other :: rest
    else if row.offset = other.offset then row :: rest
    else other :: insert row rest

/-- The offset of a new row. -/
def nextOffset (rows : List LogRow) : Int :=
  match rows.getLast? with
  | none => 1
  | some last => last.offset + 1

end LogRow

/-! ## Reading and appending -/

namespace Store

/-- The log as a node finds it that joins. Joining sets up a table that is gone, with no rows. -/
def opened : Store → Store
  | table none => table (some [])
  | s => s

/-- The offset of a new entry in memory. -/
def nextOffset (entries : List Entry) : Nat :=
  match entries.getLast? with
  | none => 1
  | some last => last.offset + 1

/-- The entries behind an offset, in order. -/
def readAfter (s : Store) (offset : Nat) : Except StoreFlaw (List Entry) :=
  match s with
  -- Offsets in memory are places, so those behind an offset are the rest.
  | memory entries => .ok (entries.drop offset)
  | table rows =>
    if LogRow.maxOffset < offset then .error (.offset LogRow.maxOffset)
    else
      match rows with
      | none => .error .missingTable
      | some rows => (rows.filter fun row => (offset : Int) < row.offset).mapM LogRow.entry?

/-- The log with an operation appended, and its offset. A table whose greatest offset is below zero
takes the row and then has no offset to give for it. -/
def append (s : Store) (now : Instant) (op : Op) : Except StoreFlaw Nat × Store :=
  match s with
  | memory entries =>
    let offset := nextOffset entries
    (.ok offset, memory (entries ++ [{ offset, op, appendedAt := now }]))
  | table none => (.error .missingTable, table none)
  | table (some rows) =>
    let offset := LogRow.nextOffset rows
    (if offset < 0 then .error (.offset offset) else .ok offset.toNat,
      table (some (rows ++ [LogRow.ofOp offset now op])))

/-- The offset of the last entry, 0 if there is none. -/
def tail : Store → Except StoreFlaw Nat
  | memory entries => .ok entries.length
  | table none => .error .missingTable
  | table (some rows) =>
    match rows.getLast? with
    | none => .ok 0
    | some last => if last.offset < 0 then .error (.offset last.offset) else .ok last.offset.toNat

/-- How many entries there are. -/
def size : Store → Nat
  | memory entries => entries.length
  | table rows => (rows.getD []).length

end Store

end SchemaRegistry
