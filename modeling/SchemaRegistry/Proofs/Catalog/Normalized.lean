import SchemaRegistry.Proofs.Catalog.Imprint
import SchemaRegistry.Proofs.Catalog.Settled
import SchemaRegistry.Proofs.Json.Path
import SchemaRegistry.Proofs.Schema.Document
import SchemaRegistry.Proofs.Schema.Literal
/-!
# What normalization keeps

Normalizing takes documentation and layout for what they look like, wherever that is: a run of
blanks is one space in a literal too, and a member of a name that documents is dropped wherever it
stands, even where the name is the one of a declared property. All else is kept. So schemas of one
normalized text have the same literals as long as these have no blanks to lose, and the same places,
as long as no name on the way is one of those (`Canonical.Similar`); and that is how much a schema
has in common with the version that a normalizing registration takes it for (`normalLaws_of_injOn`).

In the other cases content is lost, and a schema is taken for another one
(`mistaken_when_normalized`).
-/

set_option autoImplicit false

namespace SchemaRegistry

open Json (Value ReadsBack)

/-! ## Declared properties -/

/-- Whether an object has a member `properties` in which the name stands for an object. -/
def Json.Value.Declares (v : Value) (name : String) : Prop :=
  ∃ declared, v.at? [.name "properties", .name name] = some declared ∧ declared.IsObject

/-- A declared property is left out exactly if its name is, or the member that holds them all. -/
theorem Json.Value.declares_without_iff {names : List String} {v : Value} {name : String} :
    (v.without names).Declares name ↔
      "properties" ∉ names ∧ name ∉ names ∧ v.Declares name := by
  -- A declaration is at a path of two names, and goes with either of them.
  have among : [Json.Key.name "properties", .name name].any (·.isAmong names) = true ↔
      "properties" ∈ names ∨ name ∈ names := by
    simp [Json.Key.isAmong]
  unfold Declares
  rw [at?_without]
  by_cases dropped : "properties" ∈ names ∨ name ∈ names
  · rw [if_pos (among.mpr dropped)]
    refine iff_of_false (fun h => ?_) (fun h => ?_)
    · obtain ⟨declared, none, -⟩ := h
      cases none
    · exact dropped.elim h.1 h.2.1
  · rw [if_neg (mt among.mp dropped)]
    rw [not_or] at dropped
    rw [← and_assoc, and_iff_right dropped]
    constructor
    · rintro ⟨declared, there, isObject⟩
      obtain ⟨below, found, rfl⟩ := Option.map_eq_some_iff.mp there
      exact ⟨below, found, isObject_without_iff.mp isObject⟩
    · rintro ⟨declared, there, isObject⟩
      exact ⟨_, Option.map_eq_some_iff.mpr ⟨declared, there, rfl⟩,
        isObject_without_iff.mpr isObject⟩

theorem Json.Value.Alike.declares_iff {v w : Value} (h : v.Alike w) (name : String) :
    v.Declares name ↔ w.Declares name := by
  have places := h.at? [.name "properties", .name name]
  unfold Declares
  generalize v.at? _ = a, w.at? _ = b at places
  cases places with
  | none => simp
  | some alike => simp [alike.isObject_iff]

theorem Format.properties_notMem_annotations (format : Format) :
    "properties" ∉ format.annotations := by
  cases format <;> decide

namespace Canonical

/-! ## Schemas of one normalized text -/

/-- What two schemas of a format have in common if they differ in documentation and layout only. -/
structure Similar (format : Format) (a b : String) : Prop where
  /-- Their literals differ in lost blanks at most. -/
  worn : format = .protobuf →
    (literals a.toList).map (Literal.kept .normalized) =
      (literals b.toList).map (Literal.kept .normalized)
  /-- If none has a blank to lose, they are the same. -/
  lasting : format = .protobuf →
    (∀ l ∈ literals a.toList ++ literals b.toList, l.Lasting) →
      literals a.toList = literals b.toList
  /-- In documents the same stands at each place, up to what documents. -/
  places : format ≠ .protobuf → ∀ v w : Json,
    Json.parse (Text.octets a) = .ok v → Json.parse (Text.octets b) = .ok w →
      ∀ path : List Json.Key, path.any (·.isAmong format.annotations) = false →
        Option.Rel Value.Alike ((v.value.at? path).map (·.without format.annotations))
          ((w.value.at? path).map (·.without format.annotations))
  /-- So they declare the same properties, but for those that are named like documentation. -/
  declares_iff : format ≠ .protobuf → ∀ v w : Json,
    Json.parse (Text.octets a) = .ok v → Json.parse (Text.octets b) = .ok w →
      ∀ name, name ∉ format.annotations → (v.value.Declares name ↔ w.value.Declares name)

theorem similar_of_canonicalize {format : Format} {a b canonical : String}
    (ha : canonicalize format a .normalized = .ok canonical)
    (hb : canonicalize format b .normalized = .ok canonical) : Similar format a b := by
  have worn : format = .protobuf →
      (literals a.toList).map (Literal.kept .normalized) =
        (literals b.toList).map (Literal.kept .normalized) := by
    rintro rfl
    rw [← literals_canonical ha, ← literals_canonical hb]
  have alike : format ≠ .protobuf → ∀ v w : Json,
      Json.parse (Text.octets a) = .ok v → Json.parse (Text.octets b) = .ok w →
        (v.value.without format.annotations).Alike (w.value.without format.annotations) := by
    intro document v w hv hw
    obtain ⟨-, v', hv', written⟩ := (canonicalize_document_iff document).mp ha
    obtain ⟨-, w', hw', written'⟩ := (canonicalize_document_iff document).mp hb
    obtain rfl : v' = v := Except.ok.inj (hv'.symm.trans hv)
    obtain rfl : w' = w := Except.ok.inj (hw'.symm.trans hw)
    -- The text tells the trees that are kept, up to numbers that are written the same.
    exact ⟨_, _, Json.alike_iff_chars_eq.mpr (String.ofList_inj.mp (written.symm.trans written')),
      value_keptTree, value_keptTree⟩
  refine ⟨worn, fun protobuf lasting => ?_, fun document v w hv hw path apart => ?_,
    fun document v w hv hw name named => ?_⟩
  · rw [List.forall_mem_append] at lasting
    have same := worn protobuf
    rwa [map_kept_normalized_eq_self_iff.mpr lasting.1,
      map_kept_normalized_eq_self_iff.mpr lasting.2] at same
  · have places := (alike document v w hv hw).at? path
    rwa [Value.at?_without, Value.at?_without, apart, if_neg Bool.false_ne_true,
      if_neg Bool.false_ne_true] at places
  · have declared := (alike document v w hv hw).declares_iff name
    have held := format.properties_notMem_annotations
    rwa [Value.declares_without_iff, Value.declares_without_iff, and_iff_right held,
      and_iff_right held, and_iff_right named, and_iff_right named] at declared

end Canonical

/-! ## Registrations -/

open Canonical in
/-- What normalization keeps, in canonical texts and in what a registry answers, where the sequences
of `hashed` are the ones that were hashed. -/
structure NormalLaws (hashed : Set Octets) : Prop where
  /-- A canonical text has the literals of the schema, up to the blanks that its lines lose. -/
  kept : ∀ text canonical f, canonicalize .protobuf text f = .ok canonical →
    literals canonical.toList = (literals text.toList).map (Literal.kept f)
  /-- A normalized text has them as they were exactly if none of them has a blank to lose. -/
  lasting_iff : ∀ text canonical, canonicalize .protobuf text .normalized = .ok canonical →
    (literals canonical.toList = literals text.toList ↔ ∀ l ∈ literals text.toList, l.Lasting)
  /-- A normalized document is written of a tree that has all places of the document but those
  behind a name that documents; and that tree is read again, if the doubles are ones that are read
  back. -/
  document : ∀ format text canonical, format ≠ .protobuf →
    canonicalize format text .normalized = .ok canonical → ∃ tree kept : Json,
      Json.parse (Text.octets text) = .ok tree ∧ canonical = kept.compact ∧
      ((∀ x ∈ documentDoubles text, ReadsBack x) →
        Json.parse (Text.octets canonical) = .ok kept) ∧
      (∀ path : List Json.Key, kept.value.at? path =
        if path.any (·.isAmong format.annotations) then none
        else (tree.value.at? path).map (·.without format.annotations)) ∧
      ∀ name, kept.value.Declares name ↔
        name ∉ format.annotations ∧ tree.value.Declares name
  /-- Schemas of one normalized text are similar. -/
  similar : ∀ format a b canonical, canonicalize format a .normalized = .ok canonical →
    canonicalize format b .normalized = .ok canonical → Similar format a b
  /-- A schema is similar to the version that it is taken for, if no zero character is in the way.
  -/
  existing : ∀ (log : List Entry) (tenant : String) (subject : Subject) (candidate : Candidate)
    (registered : Registered),
    Registration.plan (.ofEntries log) tenant subject candidate .normalized =
      .ok (.existing registered) →
    ∃ v resolved a b, v ∈ (Catalog.ofEntries log).versions subject false ∧
      registered = { id := v.id, number := v.number } ∧
      (Catalog.ofEntries log).resolveCandidate tenant candidate = .ok resolved ∧
      resolved.imprint .normalized = .ok a ∧ v.imprint .normalized = .ok b ∧
      (a.Unmarked → b.Unmarked → a.encoding ∈ hashed → b.encoding ∈ hashed →
        v.format = candidate.format ∧ v.references = resolved.references ∧
          Similar candidate.format candidate.text v.text)

/-- **What normalization keeps.** A normalized text keeps the literals that have no blanks to lose,
and of a document every place that is not behind a name that documents. A schema that is taken for a
version when normalized is the same in that, as far as the hash has no collision. -/
theorem normalLaws_of_injOn {hashed : Set Octets} (collisionFree : hashed.InjOn Sha256.hash) :
    NormalLaws hashed where
  kept _ _ _ := Canonical.literals_canonical
  lasting_iff text canonical h := by
    rw [Canonical.literals_canonical h]
    exact Canonical.map_kept_normalized_eq_self_iff
  document format text canonical document h := by
    obtain ⟨-, tree, htree, written⟩ := (Canonical.canonicalize_document_iff document).mp h
    refine ⟨tree, _, htree, written, fun exact => ?_, fun path => ?_, fun name => ?_⟩
    · unfold Canonical.documentDoubles at exact
      rw [htree] at exact
      rw [written]
      exact (Canonical.rereads_keptTree (Json.rereads_of_parse htree exact)).parse_compact
    · rw [Canonical.value_keptTree]
      exact Value.at?_without format.annotations tree.value path
    · rw [Canonical.value_keptTree]
      exact Value.declares_without_iff.trans
        (and_iff_right (Format.properties_notMem_annotations format))
  similar _ _ _ _ := Canonical.similar_of_canonicalize
  existing log tenant subject candidate registered h := by
    obtain ⟨resolved, v, hresolved, hfind, told⟩ := Registration.found_of_plan h
    obtain ⟨stored, wanted, hwanted, hprint⟩ := (Catalog.faithful_ofEntries log).of_find hfind
    obtain ⟨a, ha, printA⟩ := exists_imprint hwanted
    obtain ⟨b, hb, printB⟩ := exists_imprint hprint
    refine ⟨v, resolved, a, b, stored, told, hresolved, ha, hb, ?_⟩
    intro unmarkedA unmarkedB hashedA hashedB
    have same : a = b := Imprint.encoding_injective unmarkedA unmarkedB
      (collisionFree hashedA hashedB (Imprint.fingerprint_eq_iff.mp (printA.trans printB.symm)))
    subst same
    obtain ⟨canonicalA, formatA, referencesA⟩ := imprint_eq_ok ha
    obtain ⟨canonicalB, formatB, referencesB⟩ := imprint_eq_ok hb
    -- One imprint means one canonical text, and resolving references does not touch the text.
    have own := (Catalog.resolveCandidate_eq_ok hresolved).2
    have format : resolved.format = candidate.format := (congrArg Candidate.format own :)
    have text : resolved.text = candidate.text := (congrArg Candidate.text own :)
    rw [← formatB, formatA, format] at canonicalB
    rw [format, text] at canonicalA
    exact ⟨formatB.symm.trans (formatA.trans format), referencesB.symm.trans referencesA,
      Canonical.similar_of_canonicalize canonicalA canonicalB⟩

/-- An option, and the same with one more space in its literal. -/
def plainOption : String := r#"option x = "a b";"#

def spacedOption : String := r#"option x = "a  b";"#

/-- A schema without properties, and one with a property that is named like documentation. -/
def bareSchema : String := r#"{"properties":{}}"#

def describedSchema : String :=
  r#"{"properties":{"description":{"type":"string"}}}"#

/-- A log that registers two schemas under subjects of their own. -/
def normalLog (protobuf json : String) : List Entry :=
  let first : Version :=
    { subject := plainSubject "s", number := 1, id := 1, format := .protobuf, references := []
      text := protobuf, isDeleted := false }
  let second : Version :=
    { subject := plainSubject "t", number := 1, id := 2, format := .json, references := []
      text := json, isDeleted := false }
  [{ offset := 1, op := .register first, appendedAt := default },
    { offset := 2, op := .register second, appendedAt := default }]

/-- The normalized imprints of the one and the other. -/
def optionImprint : Imprint :=
  { format := .protobuf, canonical := plainOption, references := [] }

def bareImprint : Imprint :=
  { format := .json, canonical := bareSchema, references := [] }

theorem normalLaws_option :
    optionImprint.Unmarked ∧ bareImprint.Unmarked ∧
      Registration.plan (.ofEntries (normalLog plainOption bareSchema)) "default"
        (plainSubject "s")
        { format := .protobuf, references := [], text := "option  x =\t\"a b\";// c" } .normalized =
          .ok (.existing { id := 1, number := 1 }) ∧
      Set.InjOn Sha256.hash { optionImprint.encoding, bareImprint.encoding } ∧
      NormalLaws { optionImprint.encoding, bareImprint.encoding } := by
  have collisionFree : Set.InjOn Sha256.hash { optionImprint.encoding, bareImprint.encoding } := by
    have different : Sha256.hash optionImprint.encoding ≠ Sha256.hash bareImprint.encoding := by
      decide +kernel
    rintro x (rfl | rfl) y (rfl | rfl) same
    · rfl
    · exact absurd same different
    · exact absurd same.symm different
    · rfl
  exact ⟨⟨by decide, nofun⟩, ⟨by decide, nofun⟩, by decide +kernel, collisionFree,
    normalLaws_of_injOn collisionFree⟩

/-- Blanks in a literal are lost, and so is a property that is named like documentation; and schemas
that lack the one or the other are taken for the versions that have them. -/
theorem mistaken_when_normalized :
    canonicalize .protobuf spacedOption .normalized = .ok plainOption ∧
      canonicalize .protobuf plainOption .normalized = .ok plainOption ∧
      Canonical.literals spacedOption.toList ≠ Canonical.literals plainOption.toList ∧
      canonicalize .json describedSchema .normalized = .ok bareSchema ∧
      (∃ tree, Json.parse (Text.octets describedSchema) = .ok tree ∧
        tree.value.Declares "description") ∧
      (∃ tree, Json.parse (Text.octets bareSchema) = .ok tree ∧
        ¬ tree.value.Declares "description") ∧
      Registration.plan (.ofEntries (normalLog spacedOption describedSchema)) "default"
        (plainSubject "s") { format := .protobuf, references := [], text := plainOption }
          .normalized = .ok (.existing { id := 1, number := 1 }) ∧
      Registration.plan (.ofEntries (normalLog spacedOption describedSchema)) "default"
        (plainSubject "t") { format := .json, references := [], text := bareSchema }
          .normalized = .ok (.existing { id := 2, number := 1 }) := by
  refine ⟨by decide +kernel, by decide +kernel, by decide +kernel, by decide +kernel,
    ⟨.object [("properties", .object [("description", .object [("type", .text "string")])])],
      rfl, _, rfl, _, rfl⟩,
    ⟨.object [("properties", .object [])], rfl, ?_⟩, by decide +kernel,
    by decide +kernel⟩
  rintro ⟨declared, there, -⟩
  cases there

end SchemaRegistry
