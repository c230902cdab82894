import SchemaRegistry.Proofs.Catalog.Cache
import SchemaRegistry.Proofs.Log.Ids
import SchemaRegistry.Proofs.Log.Taken
/-!
# Maps and marks that are changed together

The rows of a catalog carry all that belongs to a version. An inventory keeps it in three maps: the
versions on the shelves of their subjects, the fingerprints in a table, and the highest number of
each subject in a list of marks. With the highest id and the offset that is reached there are five
things that an entry may change, and nothing but the way in which it changes them holds them
together. A deletion looks for a shelf first, so one of an unknown subject does not touch the table
either.

`Inventory.keeps_to_log` says what this comes to for any list of entries: versions stand where they
belong and no shelf is empty; the table has nothing of what is gone; the marks are the maxima over
all registrations that were taken, whatever was deleted; and a version is marked exactly if its last
registration says so or a deletion behind that names it. An inventory holds what the catalog of the
same entries holds.
-/

set_option autoImplicit false

namespace SchemaRegistry

/-- The table with the fingerprints of a key replaced by others, or by none. -/
def PrintTable.replace (t : PrintTable) (key : Subject × UInt32) : Option Prints → PrintTable
  | some prints => t.put key prints
  | none => t.drop key

/-! ## Inventories -/

/-- The state that entries lead to, in maps and marks. -/
structure Inventory where
  shelves : Std.TreeMap Subject Shelf := {}
  table : PrintTable := {}
  highest : List (Subject × UInt32) := []
  maxId : Int64 := 0
  applied : Nat := 0

namespace Inventory

/-- The inventory after an operation, apart from the offset. -/
def perform (x : Inventory) : Op → Inventory
  | .register v =>
    { x with
      shelves := Shelves.perform x.shelves (.register v)
      table := x.table.replace v.key (Prints.ofVersion? v)
      highest := raiseMark v.subject v.number x.highest
      maxId := greater x.maxId v.id }
  | .softDelete subject numbers =>
    { x with shelves := Shelves.perform x.shelves (.softDelete subject numbers) }
  | .permanentDelete subject numbers =>
    { x with
      shelves := Shelves.perform x.shelves (.permanentDelete subject numbers)
      table :=
        if x.shelves[subject]?.isSome then numbers.foldl (fun t n => t.drop (subject, n)) x.table
        else x.table }

def apply (x : Inventory) (e : Entry) : Inventory :=
  if e.offset ≤ x.applied then x else { x.perform e.op with applied := e.offset }

def ofEntries (entries : List Entry) : Inventory :=
  entries.foldl apply {}

/-- The version that is stored under a key. -/
def at? (x : Inventory) (key : Subject × UInt32) : Option Version :=
  Shelves.at? x.shelves key.1 key.2

/-- The highest number that a subject has given out, 0 if none. -/
def highestVersion (x : Inventory) (subject : Subject) : UInt32 :=
  (x.highest.lookup subject).getD 0

theorem ofEntries_concat (entries : List Entry) (e : Entry) :
    ofEntries (entries ++ [e]) = (ofEntries entries).apply e := by
  rw [ofEntries, List.foldl_concat]
  rfl

variable {x : Inventory}

/-- The first of the maps is changed as shelves are, so whatever is known of shelves is known of it.
-/
theorem shelves_perform (x : Inventory) (op : Op) :
    (x.perform op).shelves = Shelves.perform x.shelves op := by
  cases op <;> rfl

/-! ## What one operation does -/

/-- A registration sets the version of its own key and no other. -/
theorem at?_register (x : Inventory) (v : Version) (key : Subject × UInt32) :
    (x.perform (.register v)).at? key = if key = v.key then some v else x.at? key := by
  have own : key = v.key ↔ key.1 = v.subject ∧ key.2 = v.number := Prod.ext_iff
  rw [if_congr own rfl rfl]
  exact Shelves.at?_register v

/-- An operation leaves under a key what it registers there, or else what was there if it does not
remove it, with a mark if it sets one. -/
theorem at?_perform_iff {op : Op} {key : Subject × UInt32} {v : Version} :
    (x.perform op).at? key = some v ↔
      (op = .register v ∧ v.key = key) ∨
        (op.registersAt key = false ∧ op.removesAt key = false) ∧
          ∃ w, x.at? key = some w ∧ v = op.turn key w := by
  cases op with
  | register u =>
    rw [at?_register]
    -- Under its own key the new version is stored, whatever was there; other keys are not touched.
    by_cases own : key = u.key
    · have registered : (Op.register u).registersAt key = true := by
        rw [Op.registersAt, own, beq_self_eq_true]
      rw [if_pos own, registered, Option.some_inj, Op.register.injEq]
      constructor
      · rintro rfl
        exact Or.inl ⟨rfl, own.symm⟩
      · rintro (⟨same, -⟩ | ⟨⟨untouched, -⟩, -⟩)
        · exact same
        · cases untouched
    · rw [if_neg own]
      constructor
      · intro stored
        exact Or.inr ⟨⟨beq_false_of_ne (Ne.symm own), rfl⟩, v, stored, rfl⟩
      · rintro (⟨same, hkey⟩ | ⟨-, w, stored, rfl⟩)
        · cases same
          exact absurd hkey.symm own
        · exact stored
  | softDelete subject numbers =>
    have turned : ∀ w, (if key.1 = subject ∧ key.2 ∈ numbers then w.marked else w) =
        (Op.softDelete subject numbers).turn key w := by
      intro w
      simp only [Op.turn, Op.marksAt, Bool.and_eq_true, beq_iff_eq, List.contains_iff_mem]
    rw [at?, shelves_perform, Shelves.at?_softDelete, Option.map_eq_some_iff]
    simp only [turned]
    constructor
    · rintro ⟨w, stored, rfl⟩
      exact Or.inr ⟨⟨rfl, rfl⟩, w, stored, rfl⟩
    · rintro (⟨same, -⟩ | ⟨-, w, stored, rfl⟩)
      · cases same
      · exact ⟨w, stored, rfl⟩
  | permanentDelete subject numbers =>
    have removed : (Op.permanentDelete subject numbers).removesAt key = true ↔
        key.1 = subject ∧ key.2 ∈ numbers := by
      rw [Op.removesAt, Bool.and_eq_true, beq_iff_eq, List.contains_iff_mem]
    rw [at?, shelves_perform, Shelves.at?_permanentDelete]
    split
    · rename_i named
      rw [removed.mpr named]
      refine iff_of_false (Option.some_ne_none v).symm ?_
      rintro (⟨same, -⟩ | ⟨⟨-, untouched⟩, -⟩)
      · cases same
      · cases untouched
    · rename_i spared
      constructor
      · intro stored
        exact Or.inr ⟨⟨rfl, Bool.eq_false_iff.mpr (mt removed.mp spared)⟩, v, stored, rfl⟩
      · rintro (⟨same, -⟩ | ⟨-, w, stored, rfl⟩)
        · cases same
        · exact stored

/-- An operation raises the mark of a subject to the numbers that it registers of it. -/
theorem highestVersion_perform (x : Inventory) (op : Op) (subject : Subject) :
    ((x.perform op).highestVersion subject).toNat =
      ((op.registered?.toList.filter (·.subject = subject)).map (·.number.toNat)).foldl max
        (x.highestVersion subject).toNat := by
  cases op with
  | register v =>
    have raised := Catalog.highestVersion_register { highest := x.highest } v subject
    rw [Op.registered?, Option.toList_some, List.filter_singleton]
    by_cases own : v.subject = subject
    · rw [if_pos own.symm] at raised
      rw [decide_eq_true own, Bool.cond_true]
      exact raised
    · rw [if_neg (Ne.symm own)] at raised
      rw [decide_eq_false own, Bool.cond_false]
      exact raised
  | softDelete | permanentDelete => rfl

/-- The greatest id goes up with a registration and is never lowered, so a deletion gives no id
back. -/
theorem maxId_perform (x : Inventory) (op : Op) :
    (x.perform op).maxId.toInt =
      (op.registered?.toList.map (·.id.toInt)).foldl max x.maxId.toInt := by
  cases op with
  | register v => exact Catalog.toInt_greater x.maxId v.id
  | softDelete | permanentDelete => rfl

/-! ## What the entries taken come to -/

/-- The highest number under which some entries register a version of a subject, 0 if none does. -/
def highestNumber (past : List Entry) (subject : Subject) : Nat :=
  ((registrations past subject).map (·.number.toNat)).foldl max 0

/-- The highest id with which some entries register a version, or 0 if that is higher. -/
def highestId (past : List Entry) : Int :=
  ((past.filterMap (·.op.registered?)).map (·.id.toInt)).foldl max 0

/-- What an inventory is by the entries that it has taken. -/
structure Keeps (x : Inventory) (past : List Entry) : Prop where
  stored : ∀ key v, x.at? key = some v ↔ Leaves past key v
  highest : ∀ subject, (x.highestVersion subject).toNat = highestNumber past subject
  maxId : x.maxId.toInt = highestId past
  applied : x.applied = highestOffset past

variable {past : List Entry}

theorem keeps_nil : Keeps {} [] where
  stored _ _ := iff_of_false nofun leaves_nil
  highest _ := rfl
  maxId := rfl
  applied := rfl

/-- An entry that is taken is one more in the past. -/
theorem Keeps.perform (h : x.Keeps past) {e : Entry} (above : e.IsAbove past) :
    Keeps { x.perform e.op with applied := e.offset } (past ++ [e]) where
  stored key v := by
    rw [leaves_concat_iff]
    simp only [← h.stored]
    exact at?_perform_iff
  -- What is registered stands at the end, so both maxima are taken on from where they were.
  highest subject := by
    rw [highestNumber, registrations_concat, List.map_append, List.foldl_append]
    change ((x.perform e.op).highestVersion subject).toNat = _
    rw [highestVersion_perform, h.highest, highestNumber]
  maxId := by
    rw [highestId, List.filterMap_append, List.map_append, List.foldl_append]
    change (x.perform e.op).maxId.toInt = _
    rw [maxId_perform, h.maxId, highestId]
    rfl
  applied := by
    rw [highestOffset_concat]
    exact (max_eq_right (highestOffset_lt_iff.mpr above).le).symm

/-- An entry that is passed over is not among those taken, and one that is taken is performed. So
the log that is kept to grows exactly when the inventory changes. -/
theorem Keeps.apply {log : List Entry} (h : x.Keeps (taken log)) (e : Entry) :
    (x.apply e).Keeps (taken (log ++ [e])) := by
  rw [Inventory.apply, taken_concat, h.applied]
  -- Being above the offset that is reached is being above all that was taken.
  by_cases above : e.IsAbove (taken log)
  · rw [if_pos above, if_neg (highestOffset_lt_iff.mpr above).not_ge]
    exact h.perform above
  · rw [if_neg above, if_pos (not_lt.mp (mt highestOffset_lt_iff.mp above))]
    exact h

/-- What each entry keeps a whole log keeps, whatever its offsets are. -/
theorem keeps_ofEntries (log : List Entry) : (ofEntries log).Keeps (taken log) := by
  induction log using List.reverseRecOn with
  | nil => exact keeps_nil
  | append_singleton log e ih =>
    rw [ofEntries_concat]
    exact ih.apply e

/-! ## Inventories and catalogs -/

/-- The shelves of an inventory by themselves. -/
def toShelves (x : Inventory) : Shelves :=
  { shelves := x.shelves, applied := x.applied }

/-- The map of versions and the shelves of a log are one thing, and so are the offsets they have
come to. -/
theorem toShelves_ofEntries (log : List Entry) :
    (ofEntries log).toShelves = Shelves.ofEntries log := by
  induction log using List.reverseRecOn with
  | nil => rfl
  | append_singleton log e ih =>
    rw [ofEntries_concat, Shelves.ofEntries, List.foldl_concat]
    change _ = (Shelves.ofEntries log).apply e
    rw [← ih, Inventory.apply, Shelves.apply]
    change _ = if e.offset ≤ (ofEntries log).applied then _ else _
    split
    · rfl
    · rw [toShelves, shelves_perform]
      rfl

/-- Whether the marks of an inventory are those of a catalog. -/
def SameMarks (x : Inventory) (c : Catalog) : Prop :=
  x.highest = c.highest ∧ x.maxId = c.maxId ∧ x.applied = c.applied

/-- The two descriptions of a catalog pass over the same entries, and raise their marks alike by the
others. -/
theorem SameMarks.apply {c : Catalog} (h : x.SameMarks c) (e : Entry) :
    (x.apply e).SameMarks (c.apply e) := by
  obtain ⟨highest, maxId, applied⟩ := h
  rw [Inventory.apply, Catalog.apply, Catalog.applyAt, ← applied]
  split
  · exact ⟨highest, maxId, applied⟩
  · cases e.op with
    | register v =>
      refine ⟨?_, ?_, rfl⟩
      · exact congrArg (raiseMark v.subject v.number) highest
      · exact congrArg (greater · v.id) maxId
    | softDelete | permanentDelete => exact ⟨highest, maxId, rfl⟩

theorem sameMarks_ofEntries (log : List Entry) :
    (ofEntries log).SameMarks (Catalog.ofEntries log) := by
  induction log using List.reverseRecOn with
  | nil => exact ⟨rfl, rfl, rfl⟩
  | append_singleton log e ih =>
    rw [ofEntries_concat, Catalog.ofEntries_append]
    exact ih.apply e

/-! ## The table -/

/-- There is a shelf of a subject exactly if there are rows of it. That no shelf is empty is what
the one half hangs on. -/
theorem isSome_shelf {s : Shelves} {c : Catalog} (h : s.Holds c) (subject : Subject) :
    s.shelves[subject]?.isSome = c.hasSubject subject true := by
  rw [Bool.eq_iff_iff, Option.isSome_iff_exists, Catalog.hasSubject_true_iff]
  constructor
  · rintro ⟨shelf, hshelf⟩
    obtain ⟨n, v, hv⟩ := h.occupied subject shelf hshelf
    have there : Shelves.at? s.shelves subject n = some v := by
      rw [Shelves.at?, hshelf]
      exact hv
    obtain ⟨hkey, row, hrow, rfl⟩ := (h.mirrors subject n v).mp there
    exact ⟨row, hrow, (Prod.mk.inj hkey).1⟩
  · rintro ⟨row, hrow, rfl⟩
    have there := (h.mirrors row.version.subject row.version.number row.version).mpr
      ⟨rfl, row, hrow, rfl⟩
    obtain ⟨shelf, hshelf, -⟩ := Option.bind_eq_some_iff.mp there
    exact ⟨shelf, hshelf⟩

/-- An operation does to the table what it does to one that is kept beside the rows of a catalog. A
permanent deletion looks for a shelf where the other looks for rows, which is the same here. -/
theorem table_perform {c : Catalog} (h : x.toShelves.Holds c) (op : Op) :
    (x.perform op).table = x.table.perform c op := by
  cases op with
  | register v =>
    change x.table.replace v.key (Prints.ofVersion? v) = x.table.perform c (.register v)
    rw [PrintTable.perform]
    cases Prints.ofVersion? v <;> rfl
  | softDelete subject numbers => rfl
  | permanentDelete subject numbers =>
    rw [PrintTable.perform, ← isSome_shelf h subject]
    rfl

/-- So the table is the one that is kept beside the rows of the catalog. -/
theorem table_ofEntries (log : List Entry) :
    (ofEntries log).table = (Cached.ofEntries log).table := by
  induction log using List.reverseRecOn with
  | nil => rfl
  | append_singleton log e ih =>
    have holds := Shelves.holds_ofEntries log
    rw [← toShelves_ofEntries] at holds
    have cached : Cached.ofEntries (log ++ [e]) = (Cached.ofEntries log).apply e :=
      List.foldl_concat Cached.apply {} e log
    rw [ofEntries_concat, cached, Inventory.apply, Cached.apply, Cached.catalog_ofEntries,
      (sameMarks_ofEntries log).2.2]
    split
    · exact ih
    · exact (table_perform holds e.op).trans (by rw [ih])

/-- Whether an inventory holds what a catalog holds. -/
structure Represents (x : Inventory) (c : Catalog) : Prop where
  rows : ∀ key v, x.at? key = some v ↔ v.key = key ∧ ∃ row ∈ c.rows, row.version = v
  prints : ∀ row ∈ c.rows, x.table.get? row.version.key = row.prints
  marks : x.SameMarks c

/-- What holds of shelves, of the table beside rows and of the marks, put together. -/
theorem represents_ofEntries (log : List Entry) :
    (ofEntries log).Represents (Catalog.ofEntries log) := by
  have mirrors := (Shelves.holds_ofEntries log).mirrors
  rw [← toShelves_ofEntries] at mirrors
  refine ⟨fun key => mirrors key.1 key.2, fun row hrow => ?_, sameMarks_ofEntries log⟩
  rw [← Cached.catalog_ofEntries] at hrow
  rw [table_ofEntries]
  exact (Cached.coherent_ofEntries log).held row hrow

/-- The table has the fingerprints of what is stored and nothing else: what it has belongs to a row.
-/
theorem exists_at?_of_get? {log : List Entry} {key : Subject × UInt32} {prints : Prints}
    (found : (ofEntries log).table.get? key = some prints) :
    ∃ v, (ofEntries log).at? key = some v ∧ Prints.ofVersion? v = some prints := by
  have represents := represents_ofEntries log
  by_cases stored : (Catalog.ofEntries log).Stores key
  · obtain ⟨row, hrow, rfl⟩ := stored
    refine ⟨row.version, (represents.rows _ _).mpr ⟨rfl, row, hrow, rfl⟩, ?_⟩
    rw [← Catalog.faithful_ofEntries log row hrow, ← represents.prints row hrow]
    exact found
  · rw [← Cached.catalog_ofEntries] at stored
    rw [table_ofEntries, (Cached.coherent_ofEntries log).gone key stored] at found
    cases found

/-! ## The laws of an inventory -/

/-- What can be relied on in an inventory that has taken some entries. -/
structure Laws (x : Inventory) (past : List Entry) : Prop where
  stored : ∀ key v, x.at? key = some v ↔ Leaves past key v
  filed : ∀ subject n v, x.at? (subject, n) = some v → v.subject = subject ∧ v.number = n
  occupied : Shelves.Occupied x.shelves
  /-- There are fingerprints of nothing but what is stored, and they are its own. -/
  cached : ∀ key prints, x.table.get? key = some prints →
    ∃ v, x.at? key = some v ∧ Prints.ofVersion? v = some prints
  highest : ∀ subject, (x.highestVersion subject).toNat = highestNumber past subject
  maxId : x.maxId.toInt = highestId past
  applied : x.applied = highestOffset past
  /-- What is stored is what the last registration of its key has registered, and it is marked if it
  was registered so or if a deletion behind that names it. -/
  deleted : ∀ key v, x.at? key = some v →
    ∃ (w : Version) (after : List Entry), RegistersLast past key w after ∧ v.live = w.live ∧
      (v.isDeleted = true ↔ w.isDeleted = true ∨
        ∃ d ∈ after, ∃ numbers, d.op = .softDelete key.1 numbers ∧ key.2 ∈ numbers)

/-- What the inventory of a log says is told by the entries of the log that it has taken. -/
theorem laws_ofEntries (log : List Entry) : (ofEntries log).Laws (taken log) := by
  have keeps := keeps_ofEntries log
  have occupied := (Shelves.holds_ofEntries log).occupied
  rw [← toShelves_ofEntries] at occupied
  exact {
    stored := keeps.stored
    filed := fun _ _ _ stored => Prod.ext_iff.mp ((keeps.stored _ _).mp stored).key_eq
    occupied := occupied
    cached := fun _ _ => exists_at?_of_get?
    highest := keeps.highest
    maxId := keeps.maxId
    applied := keeps.applied
    deleted := fun _ _ stored => ((keeps.stored _ _).mp stored).isDeleted_iff }

/-- **The maps and marks of an inventory hold together.** For any list of entries, with any offsets
and any operations, the inventory holds what the catalog holds, and the laws hold over the entries
that are taken. -/
theorem keeps_to_log (log : List Entry) :
    (ofEntries log).Represents (Catalog.ofEntries log) ∧ (ofEntries log).Laws (taken log) :=
  ⟨represents_ofEntries log, laws_ofEntries log⟩

end Inventory

end SchemaRegistry
