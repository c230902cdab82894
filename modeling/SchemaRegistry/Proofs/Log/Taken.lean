import SchemaRegistry.Proofs.Catalog.Shelves
import SchemaRegistry.Proofs.Log.Registrations
/-!
# What a list of entries leaves behind

A list of entries may be anything: offsets that come again, go back or leave gaps, operations that
nobody has planned. Of such a list not every entry counts. One that is not above all that were taken
before it has been taken already, as far as a catalog can tell, and is passed over. `taken` is the
list of the others, told from the offsets alone.

What the taken entries leave under a key is told from the entries as well. It is the version of the
last registration of the key, and it is gone if something behind that has removed it. A mark of
deletion behind it stays, and one in front of it does not count, even if the same version is
registered again (`leaves_concat_iff` is this, one entry after the other).
-/

set_option autoImplicit false

namespace SchemaRegistry

/-! ## Entries that are taken -/

/-- Whether an entry is above all of some entries. Offsets begin at one, so nothing is taken at 0.
-/
def Entry.IsAbove (e : Entry) (past : List Entry) : Prop :=
  0 < e.offset ∧ ∀ d ∈ past, d.offset < e.offset

instance (e : Entry) (past : List Entry) : Decidable (e.IsAbove past) :=
  inferInstanceAs (Decidable (_ ∧ _))

/-- The entries of a list that are above all that are taken before them. -/
def taken (log : List Entry) : List Entry :=
  log.foldl (fun past e => if e.IsAbove past then past ++ [e] else past) []

theorem taken_concat (log : List Entry) (e : Entry) :
    taken (log ++ [e]) = if e.IsAbove (taken log) then taken log ++ [e] else taken log := by
  rw [taken, List.foldl_concat]
  rfl

-- Of the offsets 2, 1, 5, 5 and 7, those that come late or again are passed over.
example (op : Op) (now : Instant) :
    taken [⟨2, op, now⟩, ⟨1, op, now⟩, ⟨5, op, now⟩, ⟨5, op, now⟩, ⟨7, op, now⟩] =
      [⟨2, op, now⟩, ⟨5, op, now⟩, ⟨7, op, now⟩] := rfl

/-- The highest offset of some entries, 0 if there are none. -/
def highestOffset (past : List Entry) : Nat :=
  (past.map Entry.offset).foldl max 0

theorem highestOffset_concat (past : List Entry) (e : Entry) :
    highestOffset (past ++ [e]) = max (highestOffset past) e.offset := by
  rw [highestOffset, List.map_append, List.map_singleton, List.foldl_concat]
  rfl

/-- To be above all entries is to be above the highest of them. -/
theorem highestOffset_lt_iff {past : List Entry} {e : Entry} :
    highestOffset past < e.offset ↔ e.IsAbove past := by
  rw [Entry.IsAbove]
  induction past using List.reverseRecOn with
  | nil => simp [highestOffset]
  | append_singleton past d ih =>
    rw [highestOffset_concat, max_lt_iff, ih, List.forall_mem_append, and_assoc]
    simp

/-! ## Operations at a key -/

namespace Op

/-- Whether the operation registers the version of a key. -/
def registersAt (key : Subject × UInt32) : Op → Bool
  | .register v => v.key == key
  | _ => false

/-- Whether the operation marks the version of a key as deleted. -/
def marksAt (key : Subject × UInt32) : Op → Bool
  | .softDelete subject numbers => key.1 == subject && numbers.contains key.2
  | _ => false

/-- Whether the operation removes the version of a key for good. -/
def removesAt (key : Subject × UInt32) : Op → Bool
  | .permanentDelete subject numbers => key.1 == subject && numbers.contains key.2
  | _ => false

theorem marksAt_iff {op : Op} {key : Subject × UInt32} :
    op.marksAt key = true ↔ ∃ numbers, op = .softDelete key.1 numbers ∧ key.2 ∈ numbers := by
  cases op with
  | softDelete subject numbers =>
    rw [marksAt, Bool.and_eq_true, beq_iff_eq, List.contains_iff_mem]
    constructor
    · rintro ⟨own, named⟩
      exact ⟨numbers, by rw [own], named⟩
    · rintro ⟨others, same, named⟩
      obtain ⟨own, rfl⟩ := Op.softDelete.inj same
      exact ⟨own.symm, named⟩
  | register | permanentDelete => simp [marksAt]

/-- What the operation makes of the version under a key, if it leaves one there. -/
def turn (key : Subject × UInt32) (op : Op) (v : Version) : Version :=
  if op.marksAt key then v.marked else v

end Op

/-! ## What is left under a key -/

/-- Whether a version is the last that some entries register under a key, with these entries after.
-/
def RegistersLast (past : List Entry) (key : Subject × UInt32) (w : Version)
    (after : List Entry) : Prop :=
  ∃ (before : List Entry) (e : Entry),
    past = before ++ e :: after ∧ e.op = .register w ∧ w.key = key ∧
    ∀ d ∈ after, d.op.registersAt key = false

/-- The last registration is at the end, or there is an entry at the end that is not one. -/
theorem registersLast_concat_iff {past after : List Entry} {e : Entry} {key : Subject × UInt32}
    {w : Version} :
    RegistersLast (past ++ [e]) key w after ↔
      (after = [] ∧ e.op = .register w ∧ w.key = key) ∨
        ∃ between, after = between ++ [e] ∧ RegistersLast past key w between ∧
          e.op.registersAt key = false := by
  constructor
  · rintro ⟨before, d, same, registers, hkey, later⟩
    -- What stands at the end of both lists is the same: the registration, or the last entry
    -- after it.
    cases after using List.reverseRecOn with
    | nil =>
      obtain ⟨-, hlast⟩ := List.append_inj' same rfl
      obtain rfl : e = d := List.singleton_inj.mp hlast
      exact Or.inl ⟨rfl, registers, hkey⟩
    | append_singleton between last =>
      rw [← List.cons_append, ← List.append_assoc] at same
      obtain ⟨rfl, hlast⟩ := List.append_inj' same rfl
      obtain rfl : e = last := List.singleton_inj.mp hlast
      rw [List.forall_mem_append, List.forall_mem_singleton] at later
      exact Or.inr ⟨between, rfl, ⟨before, d, rfl, registers, hkey, later.1⟩, later.2⟩
  · rintro (⟨rfl, registers, hkey⟩ |
      ⟨between, rfl, ⟨before, d, rfl, registers, hkey, later⟩, other⟩)
    · exact ⟨past, e, rfl, registers, hkey, nofun⟩
    · refine ⟨before, d, by simp, registers, hkey, ?_⟩
      rw [List.forall_mem_append, List.forall_mem_singleton]
      exact ⟨later, other⟩

theorem RegistersLast.key_eq {past after : List Entry} {key : Subject × UInt32} {w : Version}
    (h : RegistersLast past key w after) : w.key = key := by
  obtain ⟨before, e, -, -, hkey, -⟩ := h
  exact hkey

/-- Whether a version is what some entries have left under a key. -/
def Leaves (past : List Entry) (key : Subject × UInt32) (v : Version) : Prop :=
  ∃ (w : Version) (after : List Entry), RegistersLast past key w after ∧
    (∀ d ∈ after, d.op.removesAt key = false) ∧
      v = if after.any fun d => d.op.marksAt key then w.marked else w

theorem leaves_nil {key : Subject × UInt32} {v : Version} : ¬ Leaves [] key v := by
  rintro ⟨w, after, ⟨before, e, same, -⟩, -⟩
  exact List.append_ne_nil_of_right_ne_nil before (List.cons_ne_nil e after) same.symm

/-- A mark that is set at the end is set on what was there before. -/
theorem turn_marked {after : List Entry} {e : Entry} {key : Subject × UInt32} {w : Version} :
    (if (after ++ [e]).any fun d => d.op.marksAt key then w.marked else w) =
      e.op.turn key (if after.any fun d => d.op.marksAt key then w.marked else w) := by
  rw [List.any_append, List.any_cons, List.any_nil, Bool.or_false, Op.turn]
  cases after.any fun d => d.op.marksAt key <;> cases e.op.marksAt key <;> rfl

/-- One more entry leaves what it registers, or else what was there if it does not remove it, with a
mark if it sets one. -/
theorem leaves_concat_iff {past : List Entry} {e : Entry} {key : Subject × UInt32} {v : Version} :
    Leaves (past ++ [e]) key v ↔
      (e.op = .register v ∧ v.key = key) ∨
        (e.op.registersAt key = false ∧ e.op.removesAt key = false) ∧
          ∃ w, Leaves past key w ∧ v = e.op.turn key w := by
  constructor
  · rintro ⟨w, after, last, spared, rfl⟩
    rcases registersLast_concat_iff.mp last with
      ⟨rfl, registers, hkey⟩ | ⟨between, rfl, last, other⟩
    · exact Or.inl ⟨registers, hkey⟩
    · rw [List.forall_mem_append, List.forall_mem_singleton] at spared
      exact Or.inr ⟨⟨other, spared.2⟩, _, ⟨w, between, last, spared.1, rfl⟩, turn_marked⟩
  · rintro (⟨registers, hkey⟩ | ⟨⟨other, spares⟩, u, ⟨w, between, last, spared, rfl⟩, rfl⟩)
    · exact ⟨v, [], registersLast_concat_iff.mpr (Or.inl ⟨rfl, registers, hkey⟩), nofun, rfl⟩
    · refine ⟨w, between ++ [e],
        registersLast_concat_iff.mpr (Or.inr ⟨between, rfl, last, other⟩), ?_,
        turn_marked.symm⟩
      rw [List.forall_mem_append, List.forall_mem_singleton]
      exact ⟨spared, spares⟩

theorem Leaves.key_eq {past : List Entry} {key : Subject × UInt32} {v : Version}
    (h : Leaves past key v) : v.key = key := by
  obtain ⟨w, after, last, -, rfl⟩ := h
  rw [← last.key_eq]
  split <;> rfl

/-- A version that is left is marked if it was registered so, or marked since. -/
theorem Leaves.isDeleted_iff {past : List Entry} {key : Subject × UInt32} {v : Version}
    (h : Leaves past key v) :
    ∃ (w : Version) (after : List Entry), RegistersLast past key w after ∧ v.live = w.live ∧
      (v.isDeleted = true ↔ w.isDeleted = true ∨
        ∃ d ∈ after, ∃ numbers, d.op = .softDelete key.1 numbers ∧ key.2 ∈ numbers) := by
  obtain ⟨w, after, last, -, rfl⟩ := h
  have marked : (after.any fun d => d.op.marksAt key) = true ↔
      ∃ d ∈ after, ∃ numbers, d.op = .softDelete key.1 numbers ∧ key.2 ∈ numbers := by
    simp only [List.any_eq_true, Op.marksAt_iff]
  refine ⟨w, after, last, ?_, ?_⟩
  · split <;> rfl
  · rw [← marked]
    split
    · rename_i marks
      exact iff_of_true rfl (Or.inr marks)
    · rename_i unmarked
      exact (or_iff_left unmarked).symm

end SchemaRegistry
