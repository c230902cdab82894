import SchemaRegistry.Proofs.Json.Alike
import SchemaRegistry.Proofs.Json.Sorted
import SchemaRegistry.Schema.Canonical
/-!
# What raw canonical texts keep

A text is canonicalized in two steps, though the code takes them in one: it is read as a document or
as lines (`Canonical.content`), and that is written with more or less kept (`Content.canonical`).
Reading does not depend on what is kept. What is written raw says enough to tell what is written
normalized (`canonicalize_normalized_eq`): raw documents tell trees up to numbers that are written
the same, and raw lines can be cut at their line feeds again.
-/

set_option autoImplicit false

namespace SchemaRegistry

namespace Canonical

/-! ## Reading and writing apart -/

/-- What a schema text is read as. -/
inductive Content where
  | document (tree : Json)
  | lines (ls : List (List Char))

/-- What is written of it. -/
def Content.canonical (annotations : List String) (fidelity : Fidelity) : Content → String
  | .document tree => ofTree annotations fidelity tree
  | .lines ls =>
    let kept := match fidelity with
      | .raw => ls
      | .normalized => ls.map collapse
    String.ofList (['\n'].intercalate kept)

def documentContent (text : String) : Except Error Content :=
  match Json.parse (Text.octets text) with
  | .ok tree => .ok (.document tree)
  | .error stop => .error (.invalidSchema s!"Invalid schema: {stop.message (Text.octets text)}")

def linesContent (text : String) : Except Error Content :=
  if contentLines text.toList = [] then
    .error (.invalidSchema "Protobuf schema has no definitions")
  else .ok (.lines (contentLines text.toList))

/-- What a text of the format is read as, or why it is no schema. -/
def content (format : Format) (text : String) : Except Error Content :=
  if text.toList.all Text.isBlank then .error (.invalidSchema "Empty schema")
  else
    match format with
    | .protobuf => linesContent text
    | .avro | .json => documentContent text

/-- A document is read first, and the canonical text is made of what was read and of nothing else.
-/
theorem ofJsonText_eq_map (annotations : List String) (f : Fidelity) (text : String) :
    ofJsonText annotations f text = (documentContent text).map (·.canonical annotations f) := by
  unfold ofJsonText documentContent
  rcases hparse : Json.parse (Text.octets text) with stop | tree
  · simp only [hparse]
    rfl
  · simp only [hparse]
    rfl

theorem ofLines_eq_map (annotations : List String) (f : Fidelity) (text : String) :
    ofLines f text = (linesContent text).map (·.canonical annotations f) := by
  unfold ofLines linesContent
  rcases hlines : contentLines text.toList with _ | ⟨line, rest⟩
  · rfl
  · rw [if_neg (List.cons_ne_nil line rest)]
    rfl

/-- **A canonical text is a function of the content.** Both fidelities start from one content, so
whatever can be read at one can be read at the other. -/
theorem canonicalize_eq_map (format : Format) (text : String) (f : Fidelity) :
    canonicalize format text f =
      (content format text).map (·.canonical format.annotations f) := by
  unfold canonicalize content
  split
  · rfl
  · cases format with
    | protobuf => exact ofLines_eq_map _ f text
    | avro => exact ofJsonText_eq_map _ f text
    | json => exact ofJsonText_eq_map _ f text

/-- A canonical text is written of what the text is read as. -/
theorem exists_content {format : Format} {text canonical : String} {f : Fidelity}
    (h : canonicalize format text f = .ok canonical) :
    ∃ x, content format text = .ok x ∧ x.canonical format.annotations f = canonical := by
  rw [canonicalize_eq_map] at h
  rcases hx : content format text with e | x
  · rw [hx] at h
    cases h
  · rw [hx] at h
    exact ⟨x, rfl, Except.ok.inj h⟩

/-! ## Lines can be cut apart -/

/-- A comment is cut off, and nothing is put in its place. -/
theorem beforeComment_subset (quote : Option Char) (line : List Char) :
    beforeComment quote line ⊆ line := by
  fun_induction beforeComment quote line <;> simp_all [List.subset_def]

theorem trim_subset (text : List Char) : Text.trim text ⊆ text := by
  intro c hc
  rw [Text.trim, Text.trimRight, List.mem_reverse] at hc
  have kept := (List.dropWhile_sublist _).subset hc
  rw [List.mem_reverse] at kept
  exact (List.dropWhile_sublist _).subset kept

theorem lineContent_subset (line : List Char) : lineContent line ⊆ line :=
  List.Subset.trans (trim_subset _) (beforeComment_subset none line)

theorem dropReturn_subset (line : List Char) : Text.dropReturn line ⊆ line := by
  unfold Text.dropReturn
  split
  · exact (List.dropLast_sublist line).subset
  · exact List.Subset.refl line

/-- No line has a line feed in it. -/
theorem notMem_of_mem_linesFrom {line : List Char} (hline : '\n' ∉ line) :
    ∀ {text l : List Char}, l ∈ Text.linesFrom line text → '\n' ∉ l := by
  intro text l hl
  fun_induction Text.linesFrom line text with
  | case1 line empty => cases hl
  | case2 line nonempty =>
    rw [List.mem_singleton.mp hl]
    exact hline
  | case3 line rest ih =>
    rcases List.mem_cons.mp hl with rfl | hl
    · exact fun hmem => hline (dropReturn_subset line hmem)
    · exact ih List.not_mem_nil hl
  | case4 line c rest differs ih =>
    refine ih ?_ hl
    rw [List.mem_append, List.mem_singleton, not_or]
    exact ⟨hline, fun same => differs same.symm⟩

/-- A line has no line feed in it, so the lines can be told from the text that they are joined to.
-/
theorem notMem_of_mem_contentLines {text l : List Char} (hl : l ∈ contentLines text) :
    '\n' ∉ l := by
  obtain ⟨line, hline, rfl⟩ := List.mem_map.mp (List.mem_of_mem_filter hl)
  exact fun hmem =>
    notMem_of_mem_linesFrom List.not_mem_nil hline (lineContent_subset line hmem)

/-- Whether lines can be cut apart where they were joined. -/
def Apart (ls : List (List Char)) : Prop :=
  ls ≠ [] ∧ ∀ l ∈ ls, '\n' ∉ l

/-- Lines that are not empty and have no line feed in them are told by the text that they are joined
to. An empty list and a list of one empty line would both be the empty text. -/
theorem Apart.eq_of_intercalate_eq {ls ms : List (List Char)} (hls : Apart ls) (hms : Apart ms)
    (h : ['\n'].intercalate ls = ['\n'].intercalate ms) : ls = ms := by
  rw [← List.splitOn_intercalate '\n' hls.2 hls.1, h, List.splitOn_intercalate '\n' hms.2 hms.1]

/-! ## Raw texts decide -/

/-- What a text of the format can be read as: a document, or lines that can be cut apart. -/
def Content.Of (format : Format) : Content → Prop
  | .document _ => format ≠ .protobuf
  | .lines ls => format = .protobuf ∧ Apart ls

/-- What kind of content a schema has is told by its format. -/
theorem Content.of_content {format : Format} {text : String} {x : Content}
    (h : content format text = .ok x) : x.Of format := by
  have document : documentContent text = .ok x → ∃ tree, x = .document tree := by
    intro hx
    unfold documentContent at hx
    split at hx
    · exact ⟨_, (Except.ok.inj hx).symm⟩
    · cases hx
  -- The lines come from a cut at line feeds, so none of them holds one.
  have lines : linesContent text = .ok x → ∃ ls, x = .lines ls ∧ Apart ls := by
    intro hx
    unfold linesContent at hx
    split at hx
    · cases hx
    · rename_i some
      exact ⟨_, (Except.ok.inj hx).symm, some, fun l => notMem_of_mem_contentLines⟩
  unfold content at h
  split at h
  · cases h
  · cases format with
    | protobuf =>
      obtain ⟨ls, rfl, apart⟩ := lines h
      exact ⟨rfl, apart⟩
    | avro =>
      obtain ⟨tree, rfl⟩ := document h
      exact nofun
    | json =>
      obtain ⟨tree, rfl⟩ := document h
      exact nofun

/-- Trees that are written the same as they are, are so without some members. -/
theorem ofTree_normalized_eq {annotations : List String} {a b : Json}
    (h : ofTree annotations .raw a = ofTree annotations .raw b) :
    ofTree annotations .normalized a = ofTree annotations .normalized b := by
  have alike : Json.Alike a.sorted b.sorted := Json.alike_iff_chars_eq.mpr (String.ofList_inj.mp h)
  change String.ofList (a.without annotations).sorted.chars =
    String.ofList (b.without annotations).sorted.chars
  rw [Json.sorted_without, Json.sorted_without, (alike.without annotations).chars_eq]

/-- **Equal raw texts have equal normalized ones.** A raw text says what the content is, as far as
normalizing looks at it. -/
theorem Content.normalized_eq {format : Format} {annotations : List String} {x y : Content}
    (hx : x.Of format) (hy : y.Of format)
    (h : x.canonical annotations .raw = y.canonical annotations .raw) :
    x.canonical annotations .normalized = y.canonical annotations .normalized := by
  -- Without the format, a document and a line could be written the same.
  cases x with
  | document a =>
    cases y with
    | document b => exact ofTree_normalized_eq h
    | lines ms => exact absurd hy.1 hx
  | lines ls =>
    cases y with
    | document b => exact absurd hx.1 hy
    | lines ms =>
      obtain rfl := hx.2.eq_of_intercalate_eq hy.2 (String.ofList_inj.mp h)
      rfl

end Canonical

open Canonical in
/-- Texts of one raw canonical text have one normalized canonical text. -/
theorem canonicalize_normalized_eq {format : Format} {a b canonical : String}
    (ha : canonicalize format a .raw = .ok canonical)
    (hb : canonicalize format b .raw = .ok canonical) :
    canonicalize format a .normalized = canonicalize format b .normalized := by
  obtain ⟨x, hx, hxraw⟩ := exists_content ha
  obtain ⟨y, hy, hyraw⟩ := exists_content hb
  rw [canonicalize_eq_map, canonicalize_eq_map format b, hx, hy]
  exact congrArg Except.ok (Content.normalized_eq (Content.of_content hx) (Content.of_content hy)
    (hxraw.trans hyraw.symm))

end SchemaRegistry
