import SchemaRegistry.Proofs.Catalog.Outcome
/-!
# Fingerprints kept apart

The rows of a catalog carry their fingerprints. They can as well be kept apart, in a table by
subject and number that is changed beside the rows: a registration puts the fingerprints of its
version there, or takes out what is there if the version cannot be read; a soft deletion leaves the
table alone; and a permanent deletion takes out what it names, unless there is nothing of its
subject, when it does not look at what it names. Nothing ties such a table to the rows but the way
in which both are changed.

`Catalog.searches_exact` says that this is enough, for every log: numbers registered again, with
another text or with one that cannot be read, deletions of what is not there, entries applied twice.
The table holds what the rows carry and nothing of what is gone, and a search that uses it comes to
the same as one that reads every version anew.
-/

set_option autoImplicit false

namespace SchemaRegistry

/-! ## The table -/

/-- Fingerprints by subject and number. -/
structure PrintTable where
  entries : List ((Subject × UInt32) × Prints) := []

namespace PrintTable

def get? (t : PrintTable) (key : Subject × UInt32) : Option Prints :=
  t.entries.lookup key

def drop (t : PrintTable) (key : Subject × UInt32) : PrintTable :=
  { entries := t.entries.filter (·.1 != key) }

def put (t : PrintTable) (key : Subject × UInt32) (prints : Prints) : PrintTable :=
  { entries := (key, prints) :: (t.drop key).entries }

/-- The table after an operation, which looks at the catalog only for whether there is anything of a
subject. -/
def perform (t : PrintTable) (c : Catalog) : Op → PrintTable
  | .register v =>
    match Prints.ofVersion? v with
    | some prints => t.put v.key prints
    | none => t.drop v.key
  | .softDelete .. => t
  | .permanentDelete subject numbers =>
    if c.hasSubject subject true then numbers.foldl (fun t n => t.drop (subject, n)) t else t

/-- What is dropped is gone and all else stays, so the table is known key by key. -/
theorem get?_drop (t : PrintTable) (key other : Subject × UInt32) :
    (t.drop key).get? other = if other = key then none else t.get? other := by
  rw [drop, get?, get?]
  induction t.entries with
  | nil => exact (ite_self _).symm
  | cons entry rest ih =>
    rw [List.filter_cons, List.lookup_cons]
    by_cases hentry : entry.1 = key
    · rw [if_neg (by simp [hentry]), ih, hentry]
      by_cases h : other = key
      · rw [if_pos h, if_pos h]
      · rw [if_neg h, if_neg h, beq_false_of_ne h]
    · rw [if_pos (by simp [hentry]), List.lookup_cons, ih]
      by_cases h : other = key
      · rw [if_pos h, if_pos h, h, beq_false_of_ne (Ne.symm hentry)]
      · rw [if_neg h, if_neg h]

/-- What is put in takes the place of what was there under its key, so no old fingerprints show
behind the new ones. -/
theorem get?_put (t : PrintTable) (key other : Subject × UInt32) (prints : Prints) :
    (t.put key prints).get? other = if other = key then some prints else t.get? other := by
  rw [put, get?, List.lookup_cons]
  by_cases h : other = key
  · rw [if_pos h, h, beq_self_eq_true]
  · have dropped := t.get?_drop key other
    rw [if_neg h] at dropped ⊢
    rw [beq_false_of_ne h]
    exact dropped

/-- Dropping key by key drops all that is named, in any order, and a key that is not there is passed
over. -/
theorem get?_dropAll (t : PrintTable) (subject : Subject) (numbers : List UInt32)
    (key : Subject × UInt32) :
    (numbers.foldl (fun t n => t.drop (subject, n)) t).get? key =
      if key.1 = subject ∧ key.2 ∈ numbers then none else t.get? key := by
  induction numbers generalizing t with
  | nil => simp
  | cons n rest ih =>
    rw [List.foldl_cons, ih, get?_drop]
    obtain ⟨s, m⟩ := key
    by_cases hs : s = subject
    · by_cases hm : m = n <;> simp [hs, hm]
    · simp [hs]

/-- A registration sets its own key whatever was there. A version that cannot be read leaves nothing
under its key, not the fingerprints of the version it replaces. -/
theorem get?_perform_register (t : PrintTable) (c : Catalog) (v : Version)
    (key : Subject × UInt32) :
    (t.perform c (.register v)).get? key =
      if key = v.key then Prints.ofVersion? v else t.get? key := by
  rw [perform]
  cases Prints.ofVersion? v with
  | some prints => exact t.get?_put v.key key prints
  | none => exact t.get?_drop v.key key

end PrintTable

/-! ## Catalogs with a table beside them -/

/-- A catalog, and beside it the fingerprints in a table. -/
structure Cached where
  catalog : Catalog := .empty
  table : PrintTable := {}

namespace Cached

def apply (s : Cached) (e : Entry) : Cached :=
  if e.offset ≤ s.catalog.applied then s
  else { catalog := s.catalog.apply e, table := s.table.perform s.catalog e.op }

def ofEntries (entries : List Entry) : Cached :=
  entries.foldl apply {}

/-- The fingerprint of a version, looked up by its subject and number. -/
def read (s : Cached) (f : Fidelity) (v : Version) : Except Error Fingerprint :=
  match s.table.get? v.key with
  | some prints => .ok (prints.at f)
  | none => .error v.unreadable

/-- The catalog beside the table is the catalog without it: nothing in the table has an effect on
the rows. -/
theorem catalog_apply (s : Cached) (e : Entry) : (s.apply e).catalog = s.catalog.apply e := by
  rw [apply]
  split
  · rename_i behind
    rw [Catalog.apply, Catalog.applyAt, if_pos behind]
  · rfl

theorem catalog_ofEntries (entries : List Entry) :
    (ofEntries entries).catalog = Catalog.ofEntries entries := by
  induction entries using List.reverseRecOn with
  | nil => rfl
  | append_singleton entries e ih =>
    rw [ofEntries, List.foldl_concat, catalog_apply, Catalog.ofEntries_append]
    exact congrArg (fun c : Catalog => c.apply e) ih

/-! ## What the table holds -/

/-- Whether the table holds what the rows carry, and nothing else. -/
structure Coherent (s : Cached) : Prop where
  held : ∀ row ∈ s.catalog.rows, s.table.get? row.version.key = row.prints
  gone : ∀ key, ¬ s.catalog.Stores key → s.table.get? key = none

variable {s : Cached}

/-- The row and the key are set together. Every other key has the row and the fingerprints that it
had, also where the new row takes the place of an old one. -/
theorem Coherent.register (h : s.Coherent) (sorted : s.catalog.Sorted) (v : Version)
    (applied : Nat) :
    Coherent { catalog := { s.catalog.perform (.register v) with applied }
               table := s.table.perform s.catalog (.register v) } where
  held row hrow := by
    rw [PrintTable.get?_perform_register]
    by_cases own : row.version.key = v.key
    · -- A key has one row, so this is the row that was put in.
      have same : row = .ofVersion v :=
        (Catalog.sorted_perform sorted (.register v)).eq_of_key hrow (Row.mem_insert_self _ _) own
      rw [if_pos own, same]
      rfl
    · rw [if_neg own]
      rcases Row.eq_or_mem_of_mem_insert hrow with rfl | hrow
      · exact absurd rfl own
      · exact h.held row hrow
  gone key unstored := by
    rw [PrintTable.get?_perform_register, if_neg, h.gone]
    · rintro ⟨row, hrow, rfl⟩
      refine unstored ⟨row, Row.mem_insert_of_mem hrow fun own => ?_, rfl⟩
      exact unstored ⟨.ofVersion v, Row.mem_insert_self _ _, own.symm⟩
    · rintro rfl
      exact unstored ⟨.ofVersion v, Row.mem_insert_self _ _, rfl⟩

/-- A mark does not touch the text, so fingerprints stay what they were and the table need not
change. -/
theorem Coherent.softDelete (h : s.Coherent) (subject : Subject) (numbers : List UInt32)
    (applied : Nat) :
    Coherent { catalog := { s.catalog.perform (.softDelete subject numbers) with applied }
               table := s.table } where
  held row hrow := by
    obtain ⟨old, hold, rfl⟩ := List.mem_map.mp hrow
    split <;> exact h.held old hold
  gone key unstored := by
    refine h.gone key ?_
    rintro ⟨row, hrow, rfl⟩
    refine unstored ⟨_, List.mem_map_of_mem hrow, ?_⟩
    split <;> rfl

/-- Rows and keys are taken out together. Where the subject has no rows the table is left alone, and
it has nothing of the subject either, since the two were coherent before. -/
theorem Coherent.permanentDelete (h : s.Coherent) (subject : Subject) (numbers : List UInt32)
    (applied : Nat) :
    Coherent { catalog := { s.catalog.perform (.permanentDelete subject numbers) with applied }
               table := s.table.perform s.catalog (.permanentDelete subject numbers) } where
  held row hrow := by
    obtain ⟨hrow, spared⟩ := List.mem_filter.mp hrow
    rw [PrintTable.perform]
    split
    · -- A row that stays is not among those that are dropped.
      rw [PrintTable.get?_dropAll, if_neg]
      · exact h.held row hrow
      · intro named
        rw [Row.isAmong_iff.mpr named] at spared
        cases spared
    · exact h.held row hrow
  gone key unstored := by
    have removed : s.catalog.Stores key → key.1 = subject ∧ key.2 ∈ numbers := by
      rintro ⟨row, hrow, rfl⟩
      by_contra spared
      refine unstored ⟨row, List.mem_filter.mpr ⟨hrow, ?_⟩, rfl⟩
      rw [Bool.eq_false_iff.mpr (mt Row.isAmong_iff.mp spared)]
      rfl
    by_cases stored : s.catalog.Stores key
    · -- What is removed was a row of the subject, so the deletion looked at what it names.
      obtain ⟨own, named⟩ := removed stored
      obtain ⟨row, hrow, rfl⟩ := stored
      have there : s.catalog.hasSubject subject true = true :=
        Catalog.hasSubject_true_iff.mpr ⟨row, hrow, own⟩
      rw [PrintTable.perform, if_pos there, PrintTable.get?_dropAll, if_pos ⟨own, named⟩]
    · rw [PrintTable.perform]
      split
      · rw [PrintTable.get?_dropAll, h.gone key stored, ite_self]
      · exact h.gone key stored

/-- **Every entry keeps the table coherent with the rows.** An entry that has been applied already
changes neither. -/
theorem Coherent.apply (h : s.Coherent) (sorted : s.catalog.Sorted) (e : Entry) :
    (s.apply e).Coherent := by
  rw [Cached.apply]
  split
  · exact h
  · rename_i ahead
    rw [Catalog.apply, Catalog.applyAt, if_neg ahead]
    cases e.op with
    | register v => exact h.register sorted v e.offset
    | softDelete subject numbers => exact h.softDelete subject numbers e.offset
    | permanentDelete subject numbers => exact h.permanentDelete subject numbers e.offset

theorem coherent_ofEntries (entries : List Entry) : (ofEntries entries).Coherent := by
  induction entries using List.reverseRecOn with
  | nil => exact ⟨nofun, fun _ _ => rfl⟩
  | append_singleton entries e ih =>
    have sorted : (ofEntries entries).catalog.Sorted :=
      catalog_ofEntries entries ▸ Catalog.sorted_ofEntries entries
    rw [ofEntries, List.foldl_concat]
    exact ih.apply sorted e

/-! ## Searches that use the table -/

/-- What a search reads from the table is what the row carries. Where the table has nothing the
version cannot be read, and the error is the same. -/
theorem Coherent.read_eq (h : s.Coherent) {row : Row} (hrow : row ∈ s.catalog.rows)
    (f : Fidelity) : row.print f = s.read f row.version := by
  rw [Row.print, Cached.read, h.held row hrow]
  cases row.prints <;> rfl

/-- What is known of a catalog with a table beside it. -/
structure Exact (s : Cached) : Prop where
  /-- The table holds for a stored version the fingerprints that it has. -/
  held : ∀ row ∈ s.catalog.rows, s.table.get? row.version.key = Prints.ofVersion? row.version
  gone : ∀ key, ¬ s.catalog.Stores key → s.table.get? key = none
  find : ∀ subject candidate f includeDeleted,
    s.catalog.findBy s.read subject candidate f includeDeleted =
      s.catalog.findBy Version.readAnew subject candidate f includeDeleted
  findId : ∀ wanted, s.catalog.findIdBy s.read wanted = s.catalog.findIdBy Version.readAnew wanted

end Cached

/-- **Fingerprints that are kept are those that would be taken anew.** In the catalog of any log, a
search comes to the same with the fingerprints that rows carry, with those of a table that is kept
beside the rows, and with none; and every outcome says what it ought to say. -/
theorem Catalog.searches_exact (entries : List Entry) :
    (Cached.ofEntries entries).catalog = ofEntries entries ∧ (Cached.ofEntries entries).Exact ∧
      (∀ subject candidate f includeDeleted,
        (ofEntries entries).find subject candidate f includeDeleted =
          (ofEntries entries).findBy Version.readAnew subject candidate f includeDeleted) ∧
      (∀ wanted, (ofEntries entries).findId wanted =
        (ofEntries entries).findIdBy Version.readAnew wanted) ∧
      Searches (ofEntries entries) := by
  have coherent := Cached.coherent_ofEntries entries
  have same := Cached.catalog_ofEntries entries
  have faithful := faithful_ofEntries entries
  have anew : ∀ row ∈ (ofEntries entries).rows, ∀ f, row.print f = row.version.readAnew f :=
    fun row hrow => (faithful row hrow).print_eq_readAnew
  have kept : ∀ row ∈ (Cached.ofEntries entries).catalog.rows, ∀ f,
      row.print f = (Cached.ofEntries entries).read f row.version :=
    fun row hrow => coherent.read_eq hrow
  refine ⟨same, ⟨fun row hrow => ?_, coherent.gone, fun subject candidate f includeDeleted => ?_,
    fun wanted => ?_⟩, find_eq_findBy anew, findId_eq_findIdBy anew,
    faithful.searches (sorted_ofEntries entries)⟩
  · rw [coherent.held row hrow]
    exact faithful row (same ▸ hrow)
  · rw [← find_eq_findBy kept, same, find_eq_findBy anew]
  · rw [← findId_eq_findIdBy kept, same, findId_eq_findIdBy anew]

end SchemaRegistry
