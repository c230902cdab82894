import SchemaRegistry.Proofs.Json.Reread
import SchemaRegistry.Proofs.Schema.Canonical
/-!
# Canonical documents

The canonical text of an AVRO or JSON schema is the compact form of a tree, the one that is sorted
and, when normalized, has no members that only document (`keptTree`). That tree is read back from
its text, so the text tells it; and being sorted, it is told by what it says. Canonical texts are
therefore equal exactly if the schemas say the same as far as it is kept (`keptValue`), and are
canonical again.

The doubles of a schema are taken as its numerals are read and written: where one of them is not
read back, another could be written the same.
-/

set_option autoImplicit false

namespace SchemaRegistry

open Json (Value Rereads ReadsBack)

/-! ## Trees -/

mutual

/-- Members that are left out are not there to be left out again. -/
theorem Json.without_without (names : List String) : ∀ v : Json,
    (v.without names).without names = v.without names
  | .null => rfl
  | .bool _ => rfl
  | .number _ => rfl
  | .text _ => rfl
  | .array items => congrArg Json.array (itemsWithout_itemsWithout names items)
  | .object members => congrArg Json.object (membersWithout_membersWithout names members)

theorem Json.itemsWithout_itemsWithout (names : List String) : ∀ items : List Json,
    itemsWithout names (itemsWithout names items) = itemsWithout names items
  | [] => rfl
  | v :: items => by
    rw [itemsWithout, itemsWithout, without_without names v, itemsWithout_itemsWithout names items]

theorem Json.membersWithout_membersWithout (names : List String) :
    ∀ members : List (String × Json),
      membersWithout names (membersWithout names members) = membersWithout names members
  | [] => rfl
  | (key, v) :: members => by
    rw [membersWithout]
    split
    · exact membersWithout_membersWithout names members
    · rename_i kept
      rw [membersWithout, if_neg kept, without_without names v,
        membersWithout_membersWithout names members]

end

/-- What is sorted once is sorted already, since a sorted tree is told by what it stands for. -/
theorem Json.sorted_sorted (v : Json) : v.sorted.sorted = v.sorted :=
  sorted_eq_of_value_eq v.sorted v (value_sorted v)

/-- What a tree is written as begins with no blank of any kind. -/
theorem Json.exists_solid_first (v : Json) :
    ∃ c more, v.chars = c :: more ∧ Text.isBlank c = false := by
  have solid : ∀ {c : Char}, IsNumeric c → Text.isBlank c = false := by
    intro c numeric
    rcases numeric with digit | mark
    · rw [Char.isDigit, Bool.and_eq_true, decide_eq_true_eq, decide_eq_true_eq] at digit
      have low : 0x30 ≤ c.toNat := digit.1
      have high : c.toNat ≤ 0x39 := digit.2
      simp only [Text.isBlank, Bool.or_eq_false_iff, Bool.and_eq_false_iff, decide_eq_false_iff_not,
        beq_eq_false_iff_ne]
      omega
    · simp only [List.mem_cons, List.not_mem_nil, or_false] at mark
      rcases mark with rfl | rfl | rfl | rfl <;> decide
  cases v with
  | null => exact ⟨_, _, rfl, by decide⟩
  | bool b => cases b <;> exact ⟨_, _, rfl, by decide⟩
  | number n =>
    obtain ⟨c, more, hmore⟩ := List.exists_cons_of_ne_nil n.chars_ne_nil
    exact ⟨c, more, hmore, solid (n.numeric_chars c (hmore ▸ List.mem_cons_self))⟩
  | text s => exact ⟨_, _, rfl, by decide⟩
  | array items => exact ⟨_, _, rfl, by decide⟩
  | object members => exact ⟨_, _, rfl, by decide⟩

namespace Canonical

/-! ## What is kept -/

/-- What is kept of a tree. -/
def keptTree (annotations : List String) : Fidelity → Json → Json
  | .raw, tree => tree.sorted
  | .normalized, tree => (tree.without annotations).sorted

/-- What is kept of what a document says. -/
def keptValue (annotations : List String) : Fidelity → Value → Value
  | .raw, value => value
  | .normalized, value => value.without annotations

section

variable {annotations : List String} {f : Fidelity} {tree : Json}

/-- A canonical text is the compact text of what is kept, so it can be read as a document itself. -/
theorem ofTree_eq_compact : ofTree annotations f tree = (keptTree annotations f tree).compact := by
  cases f <;> rfl

/-- What is kept of a tree stands for what is kept of the value: this is the second side of the
statement, in which no tree is mentioned. -/
theorem value_keptTree :
    (keptTree annotations f tree).value = keptValue annotations f tree.value := by
  cases f with
  | raw => exact Json.value_sorted tree
  | normalized => exact (Json.value_sorted _).trans (Json.value_without annotations tree)

/-- Two trees have one canonical form exactly if what is kept of their values is equal. -/
theorem keptTree_eq_iff {other : Json} :
    keptTree annotations f tree = keptTree annotations f other ↔
      keptValue annotations f tree.value = keptValue annotations f other.value := by
  cases f with
  | raw => exact Json.sorted_eq_iff
  | normalized =>
    refine Json.sorted_eq_iff.trans ?_
    rw [Json.value_without, Json.value_without]
    exact Iff.rfl

/-- What is kept is kept. -/
theorem keptTree_keptTree :
    keptTree annotations f (keptTree annotations f tree) = keptTree annotations f tree := by
  cases f with
  | raw => exact Json.sorted_sorted tree
  | normalized =>
    change ((tree.without annotations).sorted.without annotations).sorted = _
    rw [← Json.sorted_without, Json.without_without, Json.sorted_sorted]
    rfl

/-- All is kept of what is kept anyway. -/
theorem keptTree_normalized_raw :
    keptTree annotations .normalized (keptTree annotations .raw tree) =
      keptTree annotations .normalized tree := by
  change (tree.sorted.without annotations).sorted = _
  rw [← Json.sorted_without, Json.sorted_sorted]
  rfl

/-- What is kept of a document that was read can be read again. -/
theorem rereads_keptTree {depth : Nat} (h : Rereads depth tree) :
    Rereads depth (keptTree annotations f tree) := by
  cases f with
  | raw => exact h.sorted
  | normalized => exact (h.without annotations).sorted

end

/-! ## Documents -/

/-- The doubles of a document. -/
def documentDoubles (text : String) : List Decimal.Binary64 :=
  match Json.parse (Text.octets text) with
  | .ok tree => tree.doubles
  | .error _ => []

/-- A text of a format for documents is accepted if it is read as a tree, and its canonical text is
written of what is kept of the tree. -/
theorem canonicalize_document_iff {format : Format} (document : format ≠ .protobuf)
    {text canonical : String} {f : Fidelity} :
    canonicalize format text f = .ok canonical ↔
      ¬ text.toList.all Text.isBlank = true ∧ ∃ tree, Json.parse (Text.octets text) = .ok tree ∧
        canonical = (keptTree format.annotations f tree).compact := by
  -- Both document formats take the same way and differ in the names they drop.
  have read : canonicalize format text f =
      if text.toList.all Text.isBlank then .error (.invalidSchema "Empty schema")
      else ofJsonText format.annotations f text := by
    unfold canonicalize
    cases format with
    | protobuf => exact absurd rfl document
    | avro => rfl
    | json => rfl
  rw [read]
  split
  · rename_i blank
    exact ⟨nofun, fun h => absurd blank h.1⟩
  · rename_i solid
    rw [and_iff_right solid]
    unfold ofJsonText
    rcases hparse : Json.parse (Text.octets text) with stop | tree
    · simp [hparse]
    · simp only [hparse, ofTree_eq_compact, Except.ok.injEq, exists_eq_left']
      exact eq_comm

/-- Where a tree is read back from what is kept of it, that is accepted and keeps the same. -/
theorem canonicalize_compact {format : Format} (document : format ≠ .protobuf) {tree : Json}
    (back : Rereads Json.maxDepth tree) (f : Fidelity) :
    canonicalize format tree.compact f =
      .ok (keptTree format.annotations f tree).compact := by
  refine (canonicalize_document_iff document).mpr ⟨?_, tree, back.parse_compact, rfl⟩
  intro blank
  obtain ⟨c, more, hmore, solid⟩ := Json.exists_solid_first tree
  have first := List.all_eq_true.mp blank c (by simp [Json.compact, hmore])
  rw [solid] at first
  cases first

/-- What is known of the canonical texts of two documents. -/
structure DocumentLaws (format : Format) (f : Fidelity) (a b canonicalA canonicalB : String) :
    Prop where
  /-- Canonical texts tell what the documents say, as far as it is kept. -/
  same_iff : ∃ v w : Json, Json.parse (Text.octets a) = .ok v ∧ Json.parse (Text.octets b) = .ok w ∧
    (canonicalA = canonicalB ↔
      keptValue format.annotations f v.value = keptValue format.annotations f w.value)
  /-- A canonical text is a document, and says what is kept. -/
  told : ∃ v kept : Json, Json.parse (Text.octets a) = .ok v ∧
    Json.parse (Text.octets canonicalA) = .ok kept ∧
      kept.value = keptValue format.annotations f v.value
  /-- It is accepted, and it is its own canonical text. -/
  again : canonicalize format canonicalA f = .ok canonicalA
  /-- A document can as well be made canonical raw before it is normalized. -/
  raw_first : ∀ raw, canonicalize format a .raw = .ok raw →
    canonicalize format raw .normalized = canonicalize format a .normalized

end Canonical

section

open Canonical

/-- A record with documentation, a name that is given twice, and a double. -/
def documentedRecord : String :=
  r#"{"type": "record", "name": "Sale", "doc": "A sale.", "fields": ["# ++
  r#"{"name": "price", "doc": "Net.", "type": "double", "default": 9.75}],"# ++
  r#" "name": "Order"}"#

/-- The same record in another order, without documentation. -/
def plainRecord : String :=
  r#"{"name":"Order","fields":[{"default":975e-2,"type":"double","name":"price"}],"type":"record"}"#

/-- The canonical text of both. -/
def canonicalRecord : String :=
  r#"{"fields":[{"default":9.75,"name":"price","type":"double"}],"name":"Order","type":"record"}"#

end

end SchemaRegistry
