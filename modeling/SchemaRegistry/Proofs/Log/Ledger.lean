import SchemaRegistry.Node.Calls
import SchemaRegistry.Proofs.Json.Tagged
import SchemaRegistry.Proofs.Log.View
/-!
# A table keeps what memory keeps

A log in memory keeps entries as they are; a table keeps them as rows of text, which are read again
each time. Asked the same, both give the same answers, but for the instants of the entries. A
`Ledger` says what these answers are: it is the list of operations that leaders have appended, and
the offset of an operation is its place, counted from one.

Two things carry this. An operation is read back from the document that it is written as, whatever
texts and numbers it holds (`Op.ofDocument_octets_document`). And both kinds of store give the next
offset by looking at their last entry, so that offsets are places in both. Neither is about the
calls, which only ever see a store that `Keeps` a log.
-/

set_option autoImplicit false

namespace SchemaRegistry

/-! ## Documents of operations -/

theorem Subject.ofWire_toWire (s : Subject) : ofWire s.toWire = s := rfl

/-- The names of the formats differ, so each is read back. -/
theorem Format.ofWire_toWire (format : Format) : ofWire format.toWire = format := by
  cases format <;> rfl

theorem Version.ofWire_toWire (v : Version) : ofWire v.toWire = v := by
  have references :
      List.map Reference.ofWire (v.references.map Reference.toWire) = v.references := by
    rw [List.map_map]
    exact List.map_id v.references
  change { v with format := Format.ofWire v.format.toWire
                  references := List.map Reference.ofWire (v.references.map Reference.toWire) } = v
  rw [Format.ofWire_toWire, references]

namespace Op

/-- **An operation is read back as the one that was stored.** What kind it is stands in the tag. -/
theorem ofWire_toWire (op : Op) : ofWire op.toWire = op := by
  rcases op with v | ⟨subject, versions⟩ | ⟨subject, versions⟩
  · exact congrArg register v.ofWire_toWire
  · rfl
  · rfl

/-- The document of an operation is read back as the operation. -/
theorem ofDocument_octets_document (op : Op) :
    shape.ofDocument (Text.octets op.document) = .ok op.toWire :=
  (Json.Shape.ofDocument_octets_write_tagged (by decide) (by decide) op.toWire).1

/-- The document of an operation has the kind of the operation for its tag. -/
theorem parse_octets_document (op : Op) :
    ∃ members, Json.parse (Text.octets op.document) =
      .ok (.object (("op", .text op.kind) :: members)) := by
  have read : Json.parse (Text.octets op.document) = .ok (shape.tree op.toWire) :=
    (Json.Shape.ofDocument_octets_write_tagged (by decide) (by decide) op.toWire).2
  rw [read]
  rcases op with v | ⟨subject, versions⟩ | ⟨subject, versions⟩ <;> exact ⟨_, rfl⟩

end Op

/-! ## Stores that keep a log -/

namespace LogRow

/-- Whether a row says of an operation what a table is to say of it: the document is read as the
operation, its tag is the kind in the row, and the subject is written out. -/
structure Describes (row : LogRow) (op : Op) : Prop where
  read : row.op? = .ok op
  tag : ∃ members, Json.parse (Text.octets row.document) =
    .ok (.object (("op", .text row.kind) :: members))
  subject : row.subject = op.subject.rendered

/-- The columns of a row say the same as the operation in it, so a row can be found without reading
the operation. -/
theorem describes_ofOp (offset : Int) (now : Instant) (op : Op) :
    (ofOp offset now op).Describes op where
  read := by
    have document : Op.shape.ofDocument (Text.octets (ofOp offset now op).document) =
        .ok op.toWire := op.ofDocument_octets_document
    simp only [op?, document, op.ofWire_toWire]
  tag := op.parse_octets_document
  subject := rfl

/-- Whether a row is read as an entry, and describes its operation. -/
def Holds (row : LogRow) (e : Entry) : Prop :=
  row.entry? = .ok e ∧ row.Describes e.op

/-- The row of an operation is read as an entry with its offset. The one thing asked for is that the
time can be read back from how it is stored. -/
theorem holds_ofOp {now read : Instant} (readable : Instant.ofStrictText? now.offsetText = .ok read)
    (offset : Nat) (op : Op) :
    (ofOp offset now op).Holds { offset, op, appendedAt := read } := by
  have described := describes_ofOp offset now op
  refine ⟨?_, described⟩
  have stamp : (ofOp offset now op).appendedAt = now.offsetText := rfl
  have place : ¬ (ofOp offset now op).offset < 0 := by
    change ¬ (offset : Int) < 0
    omega
  unfold entry?
  rw [if_neg place]
  simp only [described.read, stamp, readable]
  rfl

end LogRow

namespace Store

/-- Whether a store keeps the entries of a log. -/
def Keeps : Store → List Entry → Prop
  | memory entries, log => entries = log
  | table none, _ => False
  | table (some rows), log => List.Forall₂ LogRow.Holds rows log

def isTable : Store → Bool
  | memory _ => false
  | table _ => true

variable {s : Store} {log : List Entry}

/-- The last row has the offset of the last entry, by which the next offset is told. -/
theorem getLast?_of_holds {rows : List LogRow} (h : List.Forall₂ LogRow.Holds rows log) :
    rows.getLast?.map (·.offset) = log.getLast?.map fun e => (e.offset : Int) := by
  induction h with
  | nil => rfl
  | cons holds rest ih =>
    rename_i row e rows log
    have first := LogRow.offset_eq_of_read holds.1
    rcases rest with _ | ⟨_, _⟩
    · simp [first]
    · simpa using ih

/-- A table and a list of entries give the next entry the same offset. -/
theorem nextOffset_of_holds {rows : List LogRow} (h : List.Forall₂ LogRow.Holds rows log) :
    LogRow.nextOffset rows = (Store.nextOffset log : Nat) := by
  have last := getLast?_of_holds h
  unfold LogRow.nextOffset Store.nextOffset
  rcases hrows : rows.getLast? with _ | row <;> rcases hlog : log.getLast? with _ | e <;>
    simp [hrows, hlog] at last ⊢
  exact last

/-- The entries behind an offset are read, in whatever way they are kept. -/
theorem Keeps.readAfter (h : s.Keeps log) (contiguous : Contiguous log) {offset : Nat}
    (bounded : (offset : Int) ≤ LogRow.maxOffset) : s.readAfter offset = .ok (log.drop offset) := by
  rcases s with entries | _ | rows
  · obtain rfl : entries = log := h
    rfl
  · exact h.elim
  · have kept : List.Forall₂ LogRow.Holds rows log := h
    have within : ¬ LogRow.maxOffset < (offset : Int) := by omega
    -- A row lies behind the offset exactly if its entry does, and then it is read as the entry.
    have behind : List.Forall₂ LogRow.Holds (rows.filter fun row => (offset : Int) < row.offset)
        (log.filter fun e => offset < e.offset) := by
      refine List.rel_filter (fun row e holds => ?_) kept
      have place := LogRow.offset_eq_of_read holds.1
      simp only [decide_eq_true_eq]
      omega
    rw [Store.readAfter, if_neg within, ← contiguous.filter_eq_drop]
    exact mapM_eq_ok_iff.mpr (behind.imp fun _ _ holds => holds.1)

/-- An operation is appended behind all entries, at the next place. A table has to be able to read
the instant again. -/
theorem Keeps.append (h : s.Keeps log) (contiguous : Contiguous log) {now : Instant}
    (readable : s.isTable = true → ∃ read, Instant.ofStrictText? now.offsetText = .ok read)
    (op : Op) :
    ∃ stamp, (s.append now op).1 = .ok (log.length + 1) ∧
      (s.append now op).2.Keeps (log ++ [Entry.next log op stamp]) := by
  have next := contiguous.nextOffset
  rcases s with entries | _ | rows
  · obtain rfl : entries = log := h
    refine ⟨now, congrArg Except.ok next, ?_⟩
    change entries ++ [{ offset := Store.nextOffset entries, op, appendedAt := now }] = _
    rw [next]
    rfl
  · exact h.elim
  · have kept : List.Forall₂ LogRow.Holds rows log := h
    obtain ⟨stamp, readable⟩ := readable rfl
    -- The table counts by its rows, and each row stands for one entry.
    have place : LogRow.nextOffset rows = (log.length + 1 : Nat) := by
      rw [← next, nextOffset_of_holds kept]
    refine ⟨stamp, ?_, ?_⟩
    · simp only [Store.append, place]
      rw [if_neg (by omega)]
      rfl
    · change List.Forall₂ LogRow.Holds (rows ++ [LogRow.ofOp (LogRow.nextOffset rows) now op]) _
      rw [place]
      exact List.rel_append kept (.cons (LogRow.holds_ofOp readable _ op) .nil)

end Store

/-! ## The ledger -/

/-- An entry without its instant. -/
def Entry.undated (e : Entry) : Nat × Op :=
  (e.offset, e.op)

/-- What a log comes to, however it is kept: who leads, and what leaders have appended. -/
structure Ledger where
  leadership : Leadership
  ops : List Op := []

namespace Ledger

/-- The operations with their places, counted from one. -/
def entries (l : Ledger) : List (Nat × Op) :=
  l.ops.mapIdx fun i op => (i + 1, op)

/-- The answer to a call, and the ledger after it. -/
def ask (l : Ledger) : LogCall → LogAnswer (Nat × Op) × Ledger
  | .append op =>
    if l.leadership.isLeader then
      (.appended (.ok (l.ops.length + 1)), { l with ops := l.ops ++ [op] })
    else (.appended (.error .notLeader), l)
  | .lead leadership => (.led, { l with leadership })
  | .readAfter offset => (.read (.ok (l.entries.drop offset)), l)

/-- The answers to calls one after the other. -/
def askAll (l : Ledger) : List LogCall → List (LogAnswer (Nat × Op)) × Ledger
  | [] => ([], l)
  | call :: calls =>
    let (answer, l) := l.ask call
    let (answers, l) := askAll l calls
    (answer :: answers, l)

end Ledger

/-- Offsets that count from one are told by the places of the entries. Only the time is left open.
-/
theorem Contiguous.map_undated {log : List Entry} (h : Contiguous log) :
    log.map Entry.undated = (log.map (·.op)).mapIdx fun i op => (i + 1, op) := by
  apply List.ext_getElem?
  intro k
  simp only [List.getElem?_map, List.getElem?_mapIdx]
  rcases hk : log[k]? with _ | e
  · rfl
  · simp [Entry.undated, h k e hk]

namespace Ledger

/-- A node in no trouble and a store agree with a ledger. -/
structure Agrees (l : Ledger) (n : Node) (s : Store) : Prop where
  trouble : n.trouble = none
  reads : n.nextReadFails = false
  leadership : n.leadership = l.leadership
  kept : ∃ log, s.Keeps log ∧ Contiguous log ∧ log.map (·.op) = l.ops

variable {l : Ledger} {n : Node} {s : Store}

/-- Whether a call of a log is refused depends on leadership alone, in memory as in a table. -/
theorem Agrees.appendFault (h : l.Agrees n s) :
    n.appendFault = if l.leadership.isLeader then none else some .notLeader := by
  simp [Node.appendFault, h.trouble, h.leadership]

theorem Agrees.readFault (h : l.Agrees n s) : n.readFault = none := by
  simp [Node.readFault, h.trouble, h.reads]

/-- One call gets the same answer, and leaves the same behind. -/
theorem Agrees.ask (h : l.Agrees n s) (now : Instant) (call : LogCall)
    (readable : s.isTable = true → ∃ read, Instant.ofStrictText? now.offsetText = .ok read)
    (bounded : ∀ offset : Nat, call = .readAfter offset → (offset : Int) ≤ LogRow.maxOffset) :
    (n.ask s now call).1.map Entry.undated = (l.ask call).1 ∧
      (l.ask call).2.Agrees (n.ask s now call).2.1 (n.ask s now call).2.2 := by
  obtain ⟨log, kept, contiguous, ops⟩ := h.kept
  rcases call with op | leadership | offset
  · by_cases leads : l.leadership.isLeader = true
    · -- The store gives the entry a time of its own, which is why the answers are compared without
      -- their times.
      obtain ⟨stamp, outcome, kept'⟩ := kept.append contiguous readable op
      have fault : n.appendFault = none := by rw [h.appendFault, if_pos leads]
      have length : log.length = l.ops.length := by rw [← ops, List.length_map]
      simp only [Node.ask, Node.append, fault, Store.write, outcome, Ledger.ask, if_pos leads]
      refine ⟨by rw [length]; rfl, h.trouble, ?_, h.leadership, ?_⟩
      · simp [h.trouble, h.reads]
      · refine ⟨_, kept', contiguous.append op stamp, ?_⟩
        rw [List.map_append, ops]
        rfl
    · -- Nothing is written where another node leads.
      have fault : n.appendFault = some .notLeader := by rw [h.appendFault, if_neg leads]
      simp only [Node.ask, Node.append, fault, Store.write, Ledger.ask, if_neg leads]
      refine ⟨rfl, h.trouble, ?_, h.leadership, h.kept⟩
      simp [h.trouble, h.reads]
  · exact ⟨rfl, h.trouble, h.reads, rfl, h.kept⟩
  · -- The offset column of a table is signed, which is why the offset asked for is bounded.
    have read := kept.readAfter contiguous (bounded offset rfl)
    simp only [Node.ask, Node.readAfter, h.readFault, Store.read, read, Ledger.ask]
    refine ⟨?_, h.trouble, rfl, h.leadership, h.kept⟩
    rw [entries, ← ops, ← contiguous.map_undated, ← List.map_drop]
    rfl

/-- A store stays of its kind. -/
theorem isTable_ask (n : Node) (s : Store) (now : Instant) (call : LogCall) :
    (n.ask s now call).2.2.isTable = s.isTable := by
  rcases call with op | leadership | offset
  · rcases fault : n.appendFault with _ | failure
    · simp only [Node.ask, Node.append, fault, Store.write]
      rcases s with entries | _ | rows <;> rfl
    · simp only [Node.ask, Node.append, fault, Store.write]
  · rfl
  · rfl

/-- So do any number of calls, one after the other. -/
theorem Agrees.askAll (h : l.Agrees n s) (clock : Nat → Instant) (calls : List LogCall)
    (readable : s.isTable = true →
      ∀ k, ∃ read, Instant.ofStrictText? (clock k).offsetText = .ok read)
    (bounded : ∀ offset : Nat, .readAfter offset ∈ calls → (offset : Int) ≤ LogRow.maxOffset) :
    (n.askAll clock s calls).1.map (·.map Entry.undated) = (l.askAll calls).1 ∧
      (l.askAll calls).2.Agrees (n.askAll clock s calls).2.1 (n.askAll clock s calls).2.2 ∧
      (n.askAll clock s calls).2.2.isTable = s.isTable := by
  induction calls generalizing l n s clock with
  | nil => exact ⟨rfl, h, rfl⟩
  | cons call calls ih =>
    have kind := isTable_ask n s (clock 0) call
    obtain ⟨answer, agrees⟩ := h.ask (clock 0) call (fun table => readable table 0)
      fun offset asked => bounded offset (by simp [asked])
    obtain ⟨answers, agrees', kind'⟩ := ih agrees (fun k => clock (k + 1))
      (fun table k => readable (kind ▸ table) (k + 1))
      fun offset asked => bounded offset (List.mem_cons_of_mem _ asked)
    refine ⟨?_, agrees', kind'.trans kind⟩
    simp only [Node.askAll, Ledger.askAll, List.map_cons, answer, answers]

end Ledger

/-! ## The two kinds of store -/

namespace Store

/-- **A table is as good as memory.** Whatever is appended and read in turn at a node that learns
now and then who leads, a log in a table gives the answers that a log in memory gives, apart from
the instants of entries, whatever the clocks show: those of the ledger, in which offsets count from
one and only a leader appends. At any time the table has one row for each operation appended, which
is read as that operation, whose kind is the tag of its document, and whose subject is written out;
and any row that is ever appended is read as the operation that it was made of. All that a table
needs is that the instants of its clock can be read as they are written, and that no offset is asked
for that is too great for it. -/
theorem table_refines_memory (leadership : Leadership) (inMemory inTable : Nat → Instant)
    (calls : List LogCall)
    (readable : ∀ k, ∃ read, Instant.ofStrictText? (inTable k).offsetText = .ok read)
    (bounded : ∀ offset, .readAfter offset ∈ calls → offset < 2 ^ 63) :
    let start : Node := { leadership }
    let ledger := ({ leadership } : Ledger).askAll calls
    (start.askAll inMemory (.memory []) calls).1.map (·.map Entry.undated) = ledger.1 ∧
      (start.askAll inTable (.table (some [])) calls).1.map (·.map Entry.undated) = ledger.1 ∧
      (∃ entries, (start.askAll inMemory (.memory []) calls).2.2 = .memory entries ∧
        entries.map Entry.undated = ledger.2.entries) ∧
      (∃ rows, (start.askAll inTable (.table (some [])) calls).2.2 = .table (some rows) ∧
        List.Forall₂ LogRow.Describes rows ledger.2.ops) ∧
      ∀ (offset : Int) (now : Instant) (op : Op), (LogRow.ofOp offset now op).Describes op := by
  intro start ledger
  -- Both stores are related to one ledger, and so to each other.
  have empty : ∀ s : Store, s.Keeps [] → Ledger.Agrees { leadership } start s := by
    intro s kept
    have contiguous : Contiguous [] := by simp [Contiguous]
    exact ⟨rfl, rfl, rfl, [], kept, contiguous, rfl⟩
  have within : ∀ offset : Nat, .readAfter offset ∈ calls → (offset : Int) ≤ LogRow.maxOffset := by
    intro offset asked
    have bound := bounded offset asked
    simp only [LogRow.maxOffset]
    omega
  -- Only a table asks for times that can be read back.
  obtain ⟨memoryAnswers, memoryAgrees, memoryKind⟩ :=
    (empty (.memory []) rfl).askAll inMemory calls (fun table => nomatch table) within
  obtain ⟨tableAnswers, tableAgrees, tableKind⟩ :=
    (empty (.table (some [])) .nil).askAll inTable calls (fun _ => readable) within
  refine ⟨memoryAnswers, tableAnswers, ?_, ?_, LogRow.describes_ofOp⟩
  · obtain ⟨log, kept, contiguous, ops⟩ := memoryAgrees.kept
    rcases hstore : (start.askAll inMemory (.memory []) calls).2.2 with entries | rows
    · rw [hstore] at kept
      obtain rfl : entries = log := kept
      exact ⟨entries, rfl, by rw [contiguous.map_undated, ops]; rfl⟩
    · rw [hstore] at memoryKind
      cases memoryKind
  · obtain ⟨log, kept, -, ops⟩ := tableAgrees.kept
    rcases hstore : (start.askAll inTable (.table (some [])) calls).2.2 with entries | _ | rows
    · rw [hstore] at tableKind
      cases tableKind
    · rw [hstore] at kept
      exact kept.elim
    · rw [hstore] at kept
      have holds : List.Forall₂ LogRow.Holds rows log := kept
      refine ⟨rows, rfl, ?_⟩
      rw [← ops, List.forall₂_map_right_iff]
      exact holds.imp fun _ _ holds => holds.2

/-- A registration with a quotation mark and a line end in its texts. -/
def quotedRegistration : Op :=
  .register
    { subject := { tenant := "default", context := ".", localName := "a\"b" }, number := 4294967295
      id := -1, format := .json, references := [{ name := "\n", subject := "\\", version := 0 }]
      text := "\u0000", isDeleted := true }

/-- An append, a change of leader, another append, and a reading of all there is. -/
def deposedCalls : List LogCall :=
  [.append quotedRegistration, .lead (.follower none), .append quotedRegistration, .readAfter 0]

/-- What a leader has appended is read from the table, and what it was refused afterwards is not. -/
theorem table_refines_memory_deposed :
    let start : Node := { leadership := .leader }
    (start.askAll (fun _ => default) (.table (some [])) deposedCalls).1.map (·.map Entry.undated) =
        [.appended (.ok 1), .led, .appended (.error .notLeader),
          .read (.ok [(1, quotedRegistration)])] ∧
      ∃ rows, (start.askAll (fun _ => default) (.table (some [])) deposedCalls).2.2 =
          .table (some rows) ∧ List.Forall₂ LogRow.Describes rows [quotedRegistration] := by
  have readable :
      ∀ _ : Nat, ∃ read, Instant.ofStrictText? (default : Instant).offsetText = .ok read :=
    fun _ => ⟨default, by decide +kernel⟩
  have bounded : ∀ offset, .readAfter offset ∈ deposedCalls → offset < 2 ^ 63 := by
    intro offset asked
    obtain rfl : offset = 0 := by simpa [deposedCalls] using asked
    omega
  obtain ⟨-, answers, -, rows, -⟩ := table_refines_memory .leader (fun _ => default)
    (fun _ => default) deposedCalls readable bounded
  exact ⟨answers, rows⟩

end Store

end SchemaRegistry
