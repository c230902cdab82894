import Mathlib.Data.List.Induction
import Mathlib.Data.List.Sort
import SchemaRegistry.Proofs.Catalog.Lifecycle
import SchemaRegistry.Proofs.Log.History
/-!
# Versions kept by subject

A catalog keeps its rows in one list. They can as well be kept by subject, each subject with a shelf
of its own on which its versions stand by number. A registration makes the shelf if there is none,
and a permanent deletion takes it away when nothing is left on it. Then there are two ways to tell
that there is a subject: by what stands on its shelf, or by the shelf. Looking at the shelf alone is
right only as long as no empty one is left standing.

`Shelves.holds_ofEntries` says that none ever is, and that the shelves hold what the rows of the
catalog hold, for every log: numbers registered again, deletions of what is not there, entries
applied twice.
-/

set_option autoImplicit false

namespace SchemaRegistry

/-! ## The order of subjects -/

namespace Subject

instance : Ord Subject where
  compare := compareLex (compareOn tenant) (compareLex (compareOn context) (compareOn localName))

instance : Std.TransOrd Subject :=
  inferInstanceAs (Std.TransCmp
    (compareLex (compareOn tenant) (compareLex (compareOn context) (compareOn localName))))

instance : Std.LawfulEqOrd Subject where
  eq_of_compare {a b} h := by
    obtain ⟨htenant, hrest⟩ := compareLex_eq_eq.mp h
    obtain ⟨hcontext, hlocal⟩ := compareLex_eq_eq.mp hrest
    obtain ⟨_, _, _⟩ := a
    obtain ⟨_, _, _⟩ := b
    rw [mk.injEq]
    exact ⟨Std.LawfulEqOrd.eq_of_compare htenant, Std.LawfulEqOrd.eq_of_compare hcontext,
      Std.LawfulEqOrd.eq_of_compare hlocal⟩

end Subject

/-! ## Shelves -/

/-- The version with the mark of deletion. -/
def Version.marked (v : Version) : Version :=
  { v with isDeleted := true }

@[simp] theorem Version.key_marked (v : Version) : v.marked.key = v.key := rfl

@[simp] theorem Version.marked_marked (v : Version) : v.marked.marked = v.marked := rfl

/-- The versions of one subject, by number. -/
abbrev Shelf := Std.TreeMap UInt32 Version

namespace Shelf

def versions (shelf : Shelf) : List Version :=
  shelf.toList.map Prod.snd

def mark (shelf : Shelf) (n : UInt32) : Shelf :=
  shelf.modify n Version.marked

def markAll (shelf : Shelf) (numbers : List UInt32) : Shelf :=
  numbers.foldl mark shelf

def eraseAll (shelf : Shelf) (numbers : List UInt32) : Shelf :=
  numbers.foldl Std.TreeMap.erase shelf

end Shelf

/-- The versions that are stored, by subject. -/
structure Shelves where
  shelves : Std.TreeMap Subject Shelf := {}
  applied : Nat := 0

namespace Shelves

def perform (shelves : Std.TreeMap Subject Shelf) : Op → Std.TreeMap Subject Shelf
  | .register v =>
    shelves.insert v.subject ((shelves[v.subject]?.getD {}).insert v.number v)
  | .softDelete subject numbers =>
    match shelves[subject]? with
    | some shelf => shelves.insert subject (shelf.markAll numbers)
    | none => shelves
  | .permanentDelete subject numbers =>
    match shelves[subject]? with
    | some shelf =>
      let left := shelf.eraseAll numbers
      if left.isEmpty then shelves.erase subject else shelves.insert subject left
    | none => shelves

def apply (s : Shelves) (e : Entry) : Shelves :=
  if e.offset ≤ s.applied then s else { shelves := perform s.shelves e.op, applied := e.offset }

def ofEntries (entries : List Entry) : Shelves :=
  entries.foldl apply {}

/-- The state of a subject. That it is there is told by its shelf. -/
def state (s : Shelves) (subject : Subject) : SubjectState :=
  match s.shelves[subject]? with
  | none => .absent
  | some shelf => if shelf.versions.any Version.isLive then .live else .softDeleted

def versions (s : Shelves) (subject : Subject) (includeDeleted : Bool) : List Version :=
  (s.shelves[subject]?.toList.flatMap Shelf.versions).filter fun v => includeDeleted || v.isLive

def hasSubject (s : Shelves) (subject : Subject) (includeDeleted : Bool) : Bool :=
  !(s.versions subject includeDeleted).isEmpty

/-- The subjects of a pattern. With the deleted ones, whatever has a shelf is listed. -/
def list (s : Shelves) (pattern : Subject.Pattern) (includeDeleted : Bool) : List Subject :=
  ((s.shelves.toList.filter fun entry => pattern.covers entry.1).filter fun entry =>
    includeDeleted || entry.2.versions.any Version.isLive).map Prod.fst

/-! ## What stands where -/

section

variable {shelves : Std.TreeMap Subject Shelf} {subject other : Subject} {n : UInt32}

/-- What stands on the shelf of a subject under a number. -/
def at? (shelves : Std.TreeMap Subject Shelf) (subject : Subject) (n : UInt32) : Option Version :=
  shelves[subject]?.bind (·[n]?)

/-- Whether something stands on every shelf. -/
def Occupied (shelves : Std.TreeMap Subject Shelf) : Prop :=
  ∀ (subject : Subject) (shelf : Shelf), shelves[subject]? = some shelf →
    ∃ (n : UInt32) (v : Version), shelf[n]? = some v

/-- A map with a new shelf has that shelf under its subject and the old ones under all others. -/
theorem getElem?_insert (shelf : Shelf) :
    (shelves.insert subject shelf)[other]? =
      if other = subject then some shelf else shelves[other]? := by
  rw [Std.TreeMap.getElem?_insert]
  by_cases own : other = subject
  · simp [own]
  · simp [own, Ne.symm own]

/-- Under its subject nothing but the new shelf counts, not even for numbers that the old one had.
-/
theorem at?_insert (shelf : Shelf) :
    at? (shelves.insert subject shelf) other n =
      if other = subject then shelf[n]? else at? shelves other n := by
  rw [at?, getElem?_insert]
  split <;> rfl

/-- To mark a version that is not there does nothing, so no version comes into being by it. -/
theorem getElem?_mark (shelf : Shelf) (m : UInt32) :
    (shelf.mark m)[n]? = shelf[n]?.map fun v => if n = m then v.marked else v := by
  rw [Shelf.mark, Std.TreeMap.getElem?_modify]
  by_cases own : n = m
  · subst own
    simp
  · simp [own, Ne.symm own]

/-- Marks do not depend on their order, and a number that comes twice is marked once. -/
theorem getElem?_markAll (numbers : List UInt32) (shelf : Shelf) :
    (shelf.markAll numbers)[n]? = shelf[n]?.map fun v => if n ∈ numbers then v.marked else v := by
  rw [Shelf.markAll]
  induction numbers generalizing shelf with
  | nil => simp
  | cons m rest ih =>
    rw [List.foldl_cons, ih, getElem?_mark, Option.map_map]
    congr 1
    funext v
    by_cases first : n = m
    · by_cases later : n ∈ rest <;> simp [first ▸ later, first]
    · simp [first]

theorem getElem?_eraseAll (numbers : List UInt32) (shelf : Shelf) :
    (shelf.eraseAll numbers)[n]? = if n ∈ numbers then none else shelf[n]? := by
  rw [Shelf.eraseAll]
  induction numbers generalizing shelf with
  | nil => simp
  | cons m rest ih =>
    rw [List.foldl_cons, ih, Std.TreeMap.getElem?_erase]
    by_cases first : n = m
    · subst first
      simp
    · simp [first, Ne.symm first]

/-- A registration puts its version in its place, over one that had the same number. A shelf that
was not there counts as an empty one. -/
theorem at?_register (v : Version) :
    at? (perform shelves (.register v)) subject n =
      if subject = v.subject ∧ n = v.number then some v else at? shelves subject n := by
  rw [perform, at?_insert]
  by_cases own : subject = v.subject
  · subst own
    rw [if_pos rfl, Std.TreeMap.getElem?_insert, at?]
    by_cases same : n = v.number
    · simp [same]
    · cases shelves[v.subject]? <;> simp [same, Ne.symm same]
  · rw [if_neg own, if_neg fun h => own h.1]

/-- A soft deletion marks the versions of its own subject that it names, and takes none away. -/
theorem at?_softDelete (numbers : List UInt32) :
    at? (perform shelves (.softDelete subject numbers)) other n =
      (at? shelves other n).map fun v =>
        if other = subject ∧ n ∈ numbers then v.marked else v := by
  rw [perform]
  cases hshelf : shelves[subject]? with
  | none =>
    by_cases own : other = subject
    · rw [own, at?, hshelf]
      rfl
    · simp [own]
  | some shelf =>
    simp only [at?_insert]
    by_cases own : other = subject
    · subst own
      rw [if_pos rfl, getElem?_markAll, at?, hshelf]
      simp
    · simp [own]

theorem at?_erase :
    at? (shelves.erase subject) other n =
      if other = subject then none else at? shelves other n := by
  rw [at?, Std.TreeMap.getElem?_erase]
  by_cases own : other = subject
  · simp [own]
  · simp [own, Ne.symm own, at?]

/-- A permanent deletion takes away what it names and nothing else. That an empty shelf is taken
away too makes no difference here: there is nothing on it. -/
theorem at?_permanentDelete (numbers : List UInt32) :
    at? (perform shelves (.permanentDelete subject numbers)) other n =
      if other = subject ∧ n ∈ numbers then none else at? shelves other n := by
  rw [perform]
  cases hshelf : shelves[subject]? with
  | none =>
    by_cases own : other = subject
    · simp [own, at?, hshelf]
    · simp [own]
  | some shelf =>
    have left := getElem?_eraseAll (n := n) numbers shelf
    have there : at? shelves subject n = shelf[n]? := by
      rw [at?, hshelf]
      rfl
    by_cases own : other = subject
    · subst own
      simp only [true_and]
      rw [there, ← left]
      split
      · -- The shelf is taken away, and nothing was left on it.
        rename_i empty
        rw [at?_erase, if_pos rfl, Std.TreeMap.getElem?_of_isEmpty empty]
      · rw [at?_insert, if_pos rfl]
    · have spared : ¬ (other = subject ∧ n ∈ numbers) := fun h => own h.1
      simp only
      rw [if_neg spared]
      split
      · rw [at?_erase, if_neg own]
      · rw [at?_insert, if_neg own]

/-! ## No shelf is empty -/

/-- A shelf with a version on it can be put up without leaving an empty one. -/
theorem Occupied.insert (h : Occupied shelves) {shelf : Shelf} {v : Version}
    (there : shelf[n]? = some v) : Occupied (shelves.insert subject shelf) := by
  intro other found hfound
  rw [getElem?_insert] at hfound
  split at hfound
  · cases hfound
    exact ⟨n, v, there⟩
  · exact h other found hfound

/-- **No operation leaves an empty shelf.** A registration has just put something on its shelf,
marking takes nothing away, and a permanent deletion looks whether anything is left. -/
theorem Occupied.perform (h : Occupied shelves) (op : Op) : Occupied (perform shelves op) := by
  cases op with
  | register v => exact h.insert (v := v) (n := v.number) (by simp)
  | softDelete subject numbers =>
    rw [Shelves.perform]
    cases hshelf : shelves[subject]? with
    | none => exact h
    | some shelf =>
      obtain ⟨n, v, there⟩ := h subject shelf hshelf
      have marked := getElem?_markAll (n := n) numbers shelf
      rw [there] at marked
      exact h.insert marked
  | permanentDelete subject numbers =>
    rw [Shelves.perform]
    cases hshelf : shelves[subject]? with
    | none => exact h
    | some shelf =>
      simp only
      split
      · -- The shelf is taken away, and the others are as they were.
        intro other found hfound
        rw [Std.TreeMap.getElem?_erase] at hfound
        split at hfound
        · cases hfound
        · exact h other found hfound
      · rename_i some
        -- The shelf is put back since something is left on it.
        obtain ⟨n, hn⟩ :=
          Std.TreeMap.isEmpty_eq_false_iff_exists_mem.mp (Bool.eq_false_iff.mpr some)
        exact h.insert (Std.TreeMap.getElem?_eq_some_getElem hn)

end

/-! ## Shelves and rows -/

/-- Whether the versions on the shelves are those of the rows, each in the place of its key. -/
def Mirrors (shelves : Std.TreeMap Subject Shelf) (c : Catalog) : Prop :=
  ∀ subject n v, at? shelves subject n = some v ↔
    v.key = (subject, n) ∧ ∃ row ∈ c.rows, row.version = v

section

variable {shelves : Std.TreeMap Subject Shelf} {c : Catalog}

/-- A row is put in the place of the one with its key, or before the first with a greater one, and
either way the rows with other keys are what they were. On the shelves the place is found by the key
itself. -/
theorem Mirrors.register (h : Mirrors shelves c) (sorted : c.Sorted) (w : Version) :
    Mirrors (perform shelves (.register w)) (c.perform (.register w)) := by
  intro subject n v
  rw [at?_register]
  split
  · rename_i own
    obtain ⟨rfl, rfl⟩ := own
    rw [Option.some_inj]
    constructor
    · rintro rfl
      exact ⟨rfl, .ofVersion w, Row.mem_insert_self _ _, rfl⟩
    · rintro ⟨hkey, row, hrow, rfl⟩
      -- A key has one row, so this is the row that was put in.
      have same : row = .ofVersion w :=
        (Catalog.sorted_perform sorted (.register w)).eq_of_key hrow (Row.mem_insert_self _ _) hkey
      rw [same]
      rfl
  · rename_i other
    rw [h]
    refine and_congr_right fun hkey => ⟨?_, ?_⟩
    · rintro ⟨row, hrow, rfl⟩
      refine ⟨row, Row.mem_insert_of_mem hrow fun same => other ?_, rfl⟩
      exact Prod.mk.inj (hkey.symm.trans same)
    · rintro ⟨row, hrow, rfl⟩
      rcases Row.eq_or_mem_of_mem_insert hrow with rfl | hrow
      · exact absurd (Prod.mk.inj hkey.symm) other
      · exact ⟨row, hrow, rfl⟩

/-- Rows and shelves are both marked where they are, so that each version has its mark in both or in
neither. -/
theorem Mirrors.softDelete (h : Mirrors shelves c) (own : Subject) (numbers : List UInt32) :
    Mirrors (perform shelves (.softDelete own numbers)) (c.perform (.softDelete own numbers)) := by
  intro subject n v
  have marked : ∀ row : Row,
      (if row.isAmong own numbers then row.markDeleted else row).version =
        if row.version.subject = own ∧ row.version.number ∈ numbers then row.version.marked
        else row.version := by
    intro row
    simp only [Row.isAmong_iff]
    split <;> rfl
  rw [at?_softDelete, Option.map_eq_some_iff]
  constructor
  · rintro ⟨old, hold, rfl⟩
    obtain ⟨hkey, row, hrow, rfl⟩ := (h _ _ _).mp hold
    obtain ⟨rfl, rfl⟩ := Prod.mk.inj hkey
    refine ⟨?_, _, List.mem_map_of_mem hrow, marked row⟩
    split <;> rfl
  · rintro ⟨hkey, row, hrow, rfl⟩
    obtain ⟨old, hold, rfl⟩ := List.mem_map.mp hrow
    rw [marked] at hkey ⊢
    -- A mark changes neither subject nor number.
    have before : old.version.key = (subject, n) := by
      rw [← hkey]
      split <;> rfl
    obtain ⟨rfl, rfl⟩ := Prod.mk.inj before
    exact ⟨old.version, (h _ _ _).mpr ⟨rfl, old, hold, rfl⟩, rfl⟩

/-- A row is taken out exactly if its version is taken from its shelf. -/
theorem Mirrors.permanentDelete (h : Mirrors shelves c) (own : Subject) (numbers : List UInt32) :
    Mirrors (perform shelves (.permanentDelete own numbers))
      (c.perform (.permanentDelete own numbers)) := by
  intro subject n v
  rw [at?_permanentDelete]
  constructor
  · intro hat
    split at hat
    · cases hat
    · rename_i spared
      obtain ⟨hkey, row, hrow, rfl⟩ := (h _ _ _).mp hat
      obtain ⟨rfl, rfl⟩ := Prod.mk.inj hkey
      refine ⟨rfl, row, List.mem_filter.mpr ⟨hrow, ?_⟩, rfl⟩
      rw [Bool.eq_false_iff.mpr (mt Row.isAmong_iff.mp spared)]
      rfl
  · rintro ⟨hkey, row, hrow, rfl⟩
    obtain ⟨rfl, rfl⟩ := Prod.mk.inj hkey
    rw [if_neg, (h _ _ _)]
    · exact ⟨rfl, row, (List.mem_filter.mp hrow).1, rfl⟩
    · rintro ⟨same, named⟩
      exact Catalog.not_mem_rows_permanentDelete hrow same named

end

/-- Whether the shelves hold what a catalog holds, and no shelf is empty. -/
structure Holds (s : Shelves) (c : Catalog) : Prop where
  applied : s.applied = c.applied
  occupied : Occupied s.shelves
  mirrors : Mirrors s.shelves c

/-- An entry that has been applied already is passed over by both. Any other is performed on both,
in the same order. -/
theorem Holds.apply {s : Shelves} {c : Catalog} (h : s.Holds c) (sorted : c.Sorted) (e : Entry) :
    (s.apply e).Holds (c.apply e) := by
  rw [Shelves.apply, Catalog.apply, Catalog.applyAt, h.applied]
  split
  · exact h
  · refine ⟨rfl, h.occupied.perform e.op, ?_⟩
    cases e.op with
    | register v => exact h.mirrors.register sorted v
    | softDelete subject numbers => exact h.mirrors.softDelete subject numbers
    | permanentDelete subject numbers => exact h.mirrors.permanentDelete subject numbers

/-- The shelves that a log leads to hold what the rows of its catalog hold, and none is empty. -/
theorem holds_ofEntries (entries : List Entry) :
    (ofEntries entries).Holds (Catalog.ofEntries entries) := by
  induction entries using List.reverseRecOn with
  | nil =>
    refine ⟨rfl, fun _ _ h => ?_, fun subject n v => ⟨fun h => ?_, fun h => ?_⟩⟩
    · cases h
    · cases h
    · obtain ⟨-, row, hrow, -⟩ := h
      cases hrow
  | append_singleton entries e ih =>
    rw [ofEntries, List.foldl_concat, Catalog.ofEntries_append]
    exact ih.apply (Catalog.sorted_ofEntries entries) e

end Shelves

end SchemaRegistry
