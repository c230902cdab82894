import Mathlib.Data.List.Forall2
import SchemaRegistry.Proofs.Schema.Canonical
import SchemaRegistry.Proofs.Schema.Comment
import SchemaRegistry.Proofs.Text.Line
/-!
# Canonical lines

The lines of a canonical PROTOBUF text are `Clean`: they say something, neither begin nor end with a
blank, and have no comment. Reading a clean line again changes nothing, and squeezing its blanks
leaves it clean, because a blank neither opens nor closes a literal, ends what a backslash takes
with it as well alone as in a run, and keeps two slashes apart that were apart. So canonical texts
are canonical again, and what they are told apart by are the lines: that is `lineLaws`.

What the lines are is said without the functions that find them. A line says what stands in front of
its first comment between its blanks (`Says`), and a text tells what the pieces between its line
feeds say, as far as they say something (`Tells`). A normalized text has the same lines with each
run of blanks made one space (`Text.squeezed`). That this is done by splitting lines into words and
joining these again is left to the proofs, so the laws would not hold of lines that keep their
blanks.
-/

set_option autoImplicit false

namespace SchemaRegistry

namespace Canonical

open Text (isBlank squeezed Trimmed encoded)

/-! ## Blanks in a line -/

/-- Whether an open literal was opened by a quotation mark. -/
def Quoting.Proper : Quoting → Prop
  | .outside => True
  | .inside mark | .escaped mark => mark = '"' ∨ mark = '\''

theorem Quoting.proper_outside : Quoting.outside.Proper := True.intro

/-- The mark of an open literal stays one of the two quotation marks, character by character. -/
theorem Quoting.Proper.step {q : Quoting} (h : q.Proper) (c : Char) : (q.step c).Proper := by
  cases q with
  | outside =>
    rw [Quoting.step]
    split
    · rename_i opens
      exact opens
    · exact True.intro
  | inside mark =>
    rw [Quoting.step]
    split
    · exact h
    · split
      · exact True.intro
      · exact h
  | escaped mark => exact h

/-- A blank is none of the characters that a reader looks for. -/
theorem apart_of_isBlank {c : Char} (h : isBlank c = true) :
    c ≠ '"' ∧ c ≠ '\'' ∧ c ≠ '\\' ∧ c ≠ '/' := by
  refine ⟨?_, ?_, ?_, ?_⟩ <;>
  · rintro rfl
    exact absurd h (by decide)

/-- What a blank leads to: it only ends what a backslash takes with it. -/
def Quoting.afterBlank : Quoting → Quoting
  | .escaped mark => .inside mark
  | q => q

/-- No quotation mark is a blank, and neither is the backslash, so a blank does no more than end an
escape. -/
theorem Quoting.Proper.step_of_isBlank {q : Quoting} (h : q.Proper) {c : Char}
    (hc : isBlank c = true) : q.step c = q.afterBlank := by
  obtain ⟨double, single, backslash, -⟩ := apart_of_isBlank hc
  cases q with
  | outside => exact if_neg (not_or.mpr ⟨double, single⟩)
  | inside mark =>
    have unclosed : c ≠ mark := by
      rcases h with rfl | rfl
      · exact double
      · exact single
    exact (if_neg backslash).trans (if_neg unclosed)
  | escaped mark => rfl

theorem Quoting.Proper.afterBlank {q : Quoting} (h : q.Proper) : q.afterBlank.Proper := by
  cases q <;> exact h

/-- A second blank does nothing more, and so a run of blanks does what one space does. This is why a
line may be squeezed without its quoting being disturbed. -/
theorem Quoting.afterBlank_afterBlank (q : Quoting) : q.afterBlank.afterBlank = q.afterBlank := by
  cases q <;> rfl

/-- No comment begins at a blank. -/
theorem plain_blank_cons_iff {q : Quoting} (proper : q.Proper) {c : Char} (hc : isBlank c = true)
    {rest : List Char} : Plain q (c :: rest) ↔ Plain q.afterBlank rest := by
  rw [plain_cons_iff, proper.step_of_isBlank hc]
  refine and_iff_right fun begins => ?_
  exact (apart_of_isBlank hc).2.2.2 (Quoting.beginsComment_cons_iff.mp begins).2.1

/-- Squeezing blanks makes no comment. -/
theorem Plain.squeezed {q : Quoting} (proper : q.Proper) {line : List Char} (h : Plain q line) :
    Plain q (squeezed line) := by
  induction line generalizing q with
  | nil => exact h
  | cons c rest ih =>
    by_cases hc : isBlank c = true
    · have behind := ih (proper.step c) (plain_cons_iff.mp h).2
      rw [proper.step_of_isBlank hc] at behind
      rw [Text.squeezed_cons_of_isBlank hc]
      split
      · -- Another blank follows, and two of them lead where one does.
        rename_i further
        cases rest with
        | nil => cases further
        | cons d rest =>
          have hd : isBlank d = true := further
          rw [Text.squeezed_blanks hd] at behind ⊢
          rw [plain_blank_cons_iff proper.afterBlank (by decide),
            Quoting.afterBlank_afterBlank] at behind
          exact (plain_blank_cons_iff proper (by decide)).mpr behind
      · exact (plain_blank_cons_iff proper (by decide)).mpr behind
    · obtain ⟨here, behind⟩ := plain_cons_iff.mp h
      rw [Text.squeezed_cons_of_not_isBlank (Bool.eq_false_iff.mpr hc)]
      refine plain_cons_iff.mpr ⟨fun begins => here ?_, ih (proper.step c) behind⟩
      obtain ⟨outside, slash, next⟩ := Quoting.beginsComment_cons_iff.mp begins
      -- The second slash is no blank made a space, so it followed the first before.
      rw [Text.head?_squeezed, Option.map_eq_some_iff] at next
      obtain ⟨d, hd, same⟩ := next
      refine Quoting.beginsComment_cons_iff.mpr ⟨outside, slash, ?_⟩
      split at same
      · exact absurd same (by decide)
      · rw [hd, same]

/-- Blanks in front stand outside of literals and begin no comment. -/
theorem plain_dropWhile {line : List Char} (h : Plain .outside line) :
    Plain .outside (line.dropWhile isBlank) := by
  induction line with
  | nil => exact h
  | cons c rest ih =>
    by_cases hc : isBlank c = true
    · rw [List.dropWhile_cons_of_pos hc]
      exact ih ((plain_blank_cons_iff Quoting.proper_outside hc).mp h)
    · rw [List.dropWhile_cons_of_neg hc]
      exact h

/-! ## Clean lines -/

/-- What every line of a canonical text is. -/
structure Clean (line : List Char) : Prop where
  nonempty : line ≠ []
  trimmed : Trimmed line
  plain : Plain .outside line
  unbroken : '\n' ∉ line

namespace Clean

variable {line : List Char}

/-- What a clean line says is the line: there is no comment to cut off and nothing to trim. -/
theorem lineContent_eq (h : Clean line) : lineContent line = line := by
  rw [lineContent, beforeComment_of_plain h.plain, h.trimmed.trim_eq]

/-- The words of a clean line, joined by spaces, are the line with its runs of blanks squeezed. That
it is trimmed matters: blanks at an end would be squeezed, but there is no word to join them to. -/
theorem collapse_eq (h : Clean line) : collapse line = squeezed line :=
  h.trimmed.intercalate_words

/-- Squeezing makes a clean line no less clean. -/
theorem squeezed (h : Clean line) : Clean (squeezed line) where
  nonempty := Text.squeezed_ne_nil h.nonempty
  trimmed := h.trimmed.squeezed
  plain := h.plain.squeezed Quoting.proper_outside
  unbroken hmem := by
    rcases Text.mem_squeezed hmem with same | hmem
    · exact absurd same (by decide)
    · exact h.unbroken hmem

end Clean

/-- What the lines of a text say is clean: the comment is cut off first, and trimming what is left
makes none. -/
theorem clean_of_mem_contentLines {text line : List Char} (h : line ∈ contentLines text) :
    Clean line := by
  have unbroken := notMem_of_mem_contentLines h
  obtain ⟨hmem, nonempty⟩ := List.mem_filter.mp h
  obtain ⟨whole, -, rfl⟩ := List.mem_map.mp hmem
  refine ⟨by simpa using nonempty, Text.trimmed_trim _, ?_, unbroken⟩
  have plain : Plain .outside (beforeComment none whole) :=
    beforeComment_eq_uncommented none whole ▸ plain_uncommented .outside whole
  have kept := List.rdropWhile_prefix isBlank ((beforeComment none whole).dropWhile isBlank)
  exact (plain_dropWhile plain).of_isPrefix kept

/-- Clean lines are the lines of the text that they make. -/
theorem lines_intercalate_of_clean {ls : List (List Char)} (clean : ∀ l ∈ ls, Clean l) :
    Text.lines (['\n'].intercalate ls) = ls := by
  refine Text.lines_intercalate (fun l hl => (clean l hl).nonempty)
    (fun l hl => (clean l hl).unbroken) ?_
  intro l hl last
  exact absurd ((clean l hl).trimmed.last _ last) (by decide)

/-- They are its content too. -/
theorem contentLines_intercalate {ls : List (List Char)} (clean : ∀ l ∈ ls, Clean l) :
    contentLines (['\n'].intercalate ls) = ls := by
  rw [contentLines, lines_intercalate_of_clean clean,
    List.map_congr_left fun l hl => (clean l hl).lineContent_eq, List.map_id']
  exact List.filter_eq_self.mpr fun l hl => by simpa using (clean l hl).nonempty

/-! ## What a text tells -/

/-- Whether a line says a text: it stands between blanks in front of the first comment, and neither
begins nor ends with a blank itself. -/
def Says (line said : List Char) : Prop :=
  ∃ front back, CutAtComment line (front ++ said ++ back) ∧
    (∀ c ∈ front, isBlank c = true) ∧ (∀ c ∈ back, isBlank c = true) ∧ Trimmed said

/-- Whether a text tells some lines: they are what the pieces between its line feeds say, in order,
without those that say nothing. -/
def Tells (text : List Char) (told : List (List Char)) : Prop :=
  ∃ said, List.Forall₂ Says (text.splitOn '\n') said ∧ told = said.filter (!·.isEmpty)

/-- Cutting and trimming a line finds what it says. -/
theorem says_iff {line said : List Char} : Says line said ↔ lineContent line = said := by
  rw [lineContent, Text.trim_eq_iff]
  constructor
  · rintro ⟨front, back, cut, blank⟩
    exact ⟨front, back, cutAtComment_iff.mp cut, blank⟩
  · rintro ⟨front, back, kept, blank⟩
    exact ⟨front, back, cutAtComment_iff.mpr kept, blank⟩

/-- A blank at the end of a line changes nothing of what it says, behind a comment or not. -/
theorem lineContent_concat (line : List Char) {c : Char} (hc : isBlank c = true) :
    lineContent (line ++ [c]) = lineContent line := by
  rw [lineContent, lineContent, beforeComment_eq_uncommented, beforeComment_eq_uncommented]
  rcases uncommented_concat (quotingOf none) line (apart_of_isBlank hc).2.2.2 with same | longer
  · rw [same]
  · rw [longer, Text.trim_concat _ hc]

/-- So a line says the same with the carriage return that its line feed follows. -/
theorem lineContent_dropReturn (line : List Char) :
    lineContent (Text.dropReturn line) = lineContent line := by
  rw [Text.dropReturn]
  split
  · rename_i returned
    obtain ⟨kept, rfl⟩ := List.getLast?_eq_some_iff.mp returned
    rw [List.dropLast_concat, lineContent_concat kept (by decide)]
  · rfl

/-- A text is cut at its line feeds from the front, so the first character opens a new line or joins
the first one. -/
theorem splitOn_lineFeed_cons (c : Char) (rest : List Char) :
    (c :: rest).splitOn '\n' =
      if c = '\n' then [] :: rest.splitOn '\n' else (rest.splitOn '\n').modifyHead (c :: ·) := by
  rw [List.splitOn_eq_splitOnP, List.splitOn_eq_splitOnP, List.splitOnP_cons_eq_if_modifyHead]
  simp only [beq_iff_eq]

/-- The content of a text does not depend on how its lines are ended: it is that of the pieces
between line feeds. The induction is on the reader of lines, with the line being read in front of
the first piece that is left. -/
theorem filter_linesFrom (line text : List Char) :
    ((Text.linesFrom line text).map lineContent).filter (!·.isEmpty) =
      (((text.splitOn '\n').modifyHead (line ++ ·)).map lineContent).filter (!·.isEmpty) := by
  fun_induction Text.linesFrom line text with
  | case1 line empty =>
    rw [List.isEmpty_iff.mp empty]
    rfl
  | case2 line nonempty =>
    rw [List.splitOn_nil, List.modifyHead_cons, List.append_nil]
  | case3 line rest ih =>
    have whole : (rest.splitOn '\n').modifyHead ([] ++ ·) = rest.splitOn '\n' :=
      congrFun List.modifyHead_id _
    rw [whole] at ih
    rw [splitOn_lineFeed_cons, if_pos rfl, List.modifyHead_cons, List.append_nil, List.map_cons,
      List.map_cons, List.filter_cons, List.filter_cons, lineContent_dropReturn, ih]
  | case4 line c rest differs ih =>
    have more : (line ++ ·) ∘ (c :: ·) = fun piece : List Char => line ++ [c] ++ piece := by
      funext piece
      exact List.append_cons line c piece
    rw [ih, splitOn_lineFeed_cons, if_neg differs, List.modifyHead_modifyHead, more]

/-- The lines that the program goes through are those between line feeds. It also takes a carriage
return off each, which trimming would do anyhow. -/
theorem contentLines_eq (text : List Char) :
    contentLines text = ((text.splitOn '\n').map lineContent).filter (!·.isEmpty) := by
  have whole : (text.splitOn '\n').modifyHead ([] ++ ·) = text.splitOn '\n' :=
    congrFun List.modifyHead_id _
  have read := filter_linesFrom [] text
  rw [whole] at read
  exact read

/-- The content lines of a text are what it tells. -/
theorem tells_iff {text : List Char} {told : List (List Char)} :
    Tells text told ↔ contentLines text = told := by
  have same : ∀ said, List.Forall₂ Says (text.splitOn '\n') said ↔
      (text.splitOn '\n').map lineContent = said := by
    intro said
    have found : Says = fun line told => lineContent line = told := by
      funext line told
      exact propext says_iff
    rw [found, ← List.forall₂_map_left_iff, List.forall₂_eq_eq_eq]
  rw [contentLines_eq, Tells]
  simp only [same]
  constructor
  · rintro ⟨said, rfl, rfl⟩
    rfl
  · rintro rfl
    exact ⟨_, rfl, rfl⟩

/-! ## Canonical texts -/

/-- The lines that are written. -/
def keptLines : Fidelity → List (List Char) → List (List Char)
  | .raw, ls => ls
  | .normalized, ls => ls.map squeezed

/-- No line is lost by being squeezed, so a schema without content is one at either fidelity. -/
theorem keptLines_eq_nil_iff {f : Fidelity} {ls : List (List Char)} :
    keptLines f ls = [] ↔ ls = [] := by
  cases f with
  | raw => exact Iff.rfl
  | normalized => exact List.map_eq_nil_iff

/-- What is written is clean, squeezed or not. -/
theorem clean_of_mem_keptLines {f : Fidelity} {ls : List (List Char)} (clean : ∀ l ∈ ls, Clean l) :
    ∀ l ∈ keptLines f ls, Clean l := by
  cases f with
  | raw => exact clean
  | normalized =>
    intro l hl
    obtain ⟨whole, hwhole, rfl⟩ := List.mem_map.mp hl
    exact (clean whole hwhole).squeezed

theorem keptLines_keptLines (f : Fidelity) (ls : List (List Char)) :
    keptLines f (keptLines f ls) = keptLines f ls := by
  cases f with
  | raw => rfl
  | normalized =>
    rw [keptLines, keptLines, List.map_map]
    exact List.map_congr_left fun l _ => Text.squeezed_squeezed l

/-- A text with a content line has a character that is no blank. -/
theorem not_all_isBlank {text : String} (h : contentLines text.toList ≠ []) :
    ¬ text.toList.all isBlank = true := by
  obtain ⟨line, rest, hlines⟩ := List.exists_cons_of_ne_nil h
  have hline : line ∈ contentLines text.toList := by
    rw [hlines]
    exact List.mem_cons_self
  have clean := clean_of_mem_contentLines hline
  obtain ⟨c, more, rfl⟩ := List.exists_cons_of_ne_nil clean.nonempty
  obtain ⟨whole, hwhole, same⟩ := List.mem_map.mp (List.mem_of_mem_filter hline)
  intro blank
  have first : c ∈ whole := lineContent_subset whole (same ▸ List.mem_cons_self)
  have solid := clean.trimmed.first c rfl
  rw [List.all_eq_true.mp blank c (Text.mem_of_mem_lines hwhole first)] at solid
  cases solid

/-- A PROTOBUF text is accepted if some line says something, and its canonical text consists of
those lines. -/
theorem canonicalize_protobuf_iff {text canonical : String} {f : Fidelity} :
    canonicalize .protobuf text f = .ok canonical ↔
      contentLines text.toList ≠ [] ∧
        canonical.toList = ['\n'].intercalate (keptLines f (contentLines text.toList)) := by
  have written :
      (Content.lines (contentLines text.toList)).canonical Format.protobuf.annotations f =
        String.ofList (['\n'].intercalate (keptLines f (contentLines text.toList))) := by
    cases f with
    | raw => rfl
    | normalized =>
      -- The lines are clean, and on a clean line the collapse is the squeeze.
      have squeezes : (contentLines text.toList).map collapse =
          (contentLines text.toList).map squeezed :=
        List.map_congr_left fun l hl => (clean_of_mem_contentLines hl).collapse_eq
      rw [Content.canonical, keptLines, ← squeezes]
  rw [canonicalize_eq_map, content]
  by_cases none : contentLines text.toList = []
  · have refused : ∀ x, linesContent text ≠ .ok x := by
      intro x
      rw [linesContent, if_pos none]
      exact nofun
    constructor
    · intro h
      split at h
      · cases h
      · rw [linesContent, if_pos none] at h
        cases h
    · exact fun h => absurd none h.1
  · rw [if_neg (not_all_isBlank none)]
    change (linesContent text).map _ = _ ↔ _
    rw [linesContent, if_neg none, Except.map, written, Except.ok.injEq, and_iff_right none]
    rw [← String.toList_inj, String.toList_ofList, eq_comm]

/-- A text that has a line that says something is accepted, raw and normalized. -/
theorem canonicalize_eq_ok {text : String} {f : Fidelity} (some : contentLines text.toList ≠ []) :
    canonicalize .protobuf text f =
      .ok (String.ofList (['\n'].intercalate (keptLines f (contentLines text.toList)))) :=
  canonicalize_protobuf_iff.mpr ⟨some, String.toList_ofList⟩

/-- The same with what the text tells in place of the lines that are found in it. -/
theorem canonicalize_iff_of_tells {text canonical : String} {f : Fidelity}
    {told : List (List Char)} (tells : Tells text.toList told) :
    canonicalize .protobuf text f = .ok canonical ↔
      told ≠ [] ∧ canonical.toList = ['\n'].intercalate (keptLines f told) := by
  rw [← tells_iff.mp tells]
  exact canonicalize_protobuf_iff

/-- The lines of a canonical text are the lines that were written. -/
theorem contentLines_canonical {text canonical : String} {f : Fidelity}
    (h : canonicalize .protobuf text f = .ok canonical) :
    contentLines canonical.toList = keptLines f (contentLines text.toList) := by
  obtain ⟨-, written⟩ := canonicalize_protobuf_iff.mp h
  rw [written]
  exact contentLines_intercalate
    (clean_of_mem_keptLines fun l => clean_of_mem_contentLines)

/-- Between its line feeds a canonical text has the lines that were written. -/
theorem splitOn_canonical {text canonical : String} {f : Fidelity}
    (h : canonicalize .protobuf text f = .ok canonical) :
    canonical.toList.splitOn '\n' = keptLines f (contentLines text.toList) := by
  obtain ⟨some, written⟩ := canonicalize_protobuf_iff.mp h
  have clean := clean_of_mem_keptLines (f := f)
    fun l (hl : l ∈ contentLines text.toList) => clean_of_mem_contentLines hl
  rw [written, List.splitOn_intercalate '\n' (fun l hl => (clean l hl).unbroken)]
  exact mt keptLines_eq_nil_iff.mp some

/-- Canonical texts are told apart by what is kept of the lines that their schemas tell. -/
theorem canonical_eq_iff {a b canonicalA canonicalB : String} {f : Fidelity}
    {toldA toldB : List (List Char)} (tellsA : Tells a.toList toldA) (tellsB : Tells b.toList toldB)
    (ha : canonicalize .protobuf a f = .ok canonicalA)
    (hb : canonicalize .protobuf b f = .ok canonicalB) :
    canonicalA = canonicalB ↔ keptLines f toldA = keptLines f toldB := by
  constructor
  · rintro rfl
    rw [← tells_iff.mp tellsA, ← tells_iff.mp tellsB, ← splitOn_canonical ha,
      ← splitOn_canonical hb]
  · intro same
    rw [← String.toList_inj, ((canonicalize_iff_of_tells tellsA).mp ha).2,
      ((canonicalize_iff_of_tells tellsB).mp hb).2, same]

/-- What is known of the canonical texts of PROTOBUF. -/
structure LineLaws : Prop where
  /-- What a text tells is settled by the text. -/
  told : ∀ text, ∃! told, Tells text told
  /-- A text is accepted if it tells something, and what is written are the lines that it tells,
  squeezed if the text is normalized. -/
  written : ∀ (text : String) told, Tells text.toList told → ∀ f canonical,
    (canonicalize .protobuf text f = .ok canonical ↔
      told ≠ [] ∧ canonical.toList = ['\n'].intercalate (keptLines f told))
  /-- What is kept does not matter for whether a text is accepted. -/
  accepted_iff : ∀ text, (∃ canonical, canonicalize .protobuf text .normalized = .ok canonical) ↔
    ∃ canonical, canonicalize .protobuf text .raw = .ok canonical
  /-- A canonical text is accepted, and it is its own canonical text. -/
  again : ∀ text f canonical, canonicalize .protobuf text f = .ok canonical →
    canonicalize .protobuf canonical f = .ok canonical
  /-- A text can as well be made canonical raw before it is normalized. -/
  raw_first : ∀ text raw, canonicalize .protobuf text .raw = .ok raw →
    canonicalize .protobuf raw .normalized = canonicalize .protobuf text .normalized
  /-- Raw texts are equal if the schemas tell the same lines. -/
  raw_iff : ∀ (a b : String) toldA toldB, Tells a.toList toldA → Tells b.toList toldB →
    ∀ rawA rawB, canonicalize .protobuf a .raw = .ok rawA →
      canonicalize .protobuf b .raw = .ok rawB → (rawA = rawB ↔ toldA = toldB)
  /-- Normalized texts are equal if these lines are, up to the width of their blanks. -/
  normalized_iff : ∀ (a b : String) toldA toldB, Tells a.toList toldA → Tells b.toList toldB →
    ∀ normalA normalB, canonicalize .protobuf a .normalized = .ok normalA →
      canonicalize .protobuf b .normalized = .ok normalB →
        (normalA = normalB ↔ toldA.map squeezed = toldB.map squeezed)
  /-- No line of a canonical text is empty, begins or ends with a blank, or has a comment. -/
  clean : ∀ text f canonical, canonicalize .protobuf text f = .ok canonical →
    ∀ line ∈ canonical.toList.splitOn '\n', Clean line
  /-- Every blank in a line of a normalized text is a space that stands alone. -/
  spaced : ∀ text canonical, canonicalize .protobuf text .normalized = .ok canonical →
    ∀ line ∈ canonical.toList.splitOn '\n', Text.Spaced line
  /-- A line is cut where its first comment begins. -/
  cut : ∀ line, CutAtComment line (beforeComment none line)
  /-- A reader of octets cuts it there too, and so between two characters. -/
  boundary : ∀ line : String, ∃ kept dropped, line = kept ++ dropped ∧
    kept.toList = beforeComment none line.toList ∧
      commentStart none (Text.octets line) = (Text.octets kept).length

end Canonical

open Canonical in
/-- **Canonical lines.** Making a PROTOBUF text canonical is a projection, raw or normalized, and
the one goes through the other. What a canonical text tells are the lines of the schema that say
something, without their comments, whatever characters these are made of; and a normalized text
tells them with each run of blanks made one space. -/
theorem lineLaws : LineLaws where
  told text := ⟨contentLines text, tells_iff.mpr rfl, fun _ tells => (tells_iff.mp tells).symm⟩
  written _ _ tells _ _ := canonicalize_iff_of_tells tells
  accepted_iff text := by
    constructor <;>
    · rintro ⟨_, accepted⟩
      exact ⟨_, canonicalize_eq_ok (canonicalize_protobuf_iff.mp accepted).1⟩
  again text f canonical h := by
    have lines := contentLines_canonical h
    obtain ⟨some, written⟩ := canonicalize_protobuf_iff.mp h
    refine canonicalize_protobuf_iff.mpr ⟨?_, ?_⟩
    · rw [lines]
      exact mt keptLines_eq_nil_iff.mp some
    · rw [lines, keptLines_keptLines, written]
  raw_first text raw h := by
    have lines : contentLines raw.toList = contentLines text.toList := contentLines_canonical h
    obtain ⟨some, -⟩ := canonicalize_protobuf_iff.mp h
    have solid : contentLines raw.toList ≠ [] := by
      rw [lines]
      exact some
    rw [canonicalize_eq_ok solid, canonicalize_eq_ok some, lines]
  raw_iff _ _ _ _ tellsA tellsB _ _ ha hb := canonical_eq_iff tellsA tellsB ha hb
  normalized_iff _ _ _ _ tellsA tellsB _ _ ha hb := canonical_eq_iff tellsA tellsB ha hb
  clean text f canonical h line hline := by
    rw [splitOn_canonical h] at hline
    exact clean_of_mem_keptLines (fun l => clean_of_mem_contentLines) line hline
  spaced text canonical h line hline := by
    rw [splitOn_canonical h] at hline
    obtain ⟨whole, -, rfl⟩ := List.mem_map.mp hline
    exact Text.squeezed_eq_self_iff.mp (Text.squeezed_squeezed whole)
  cut := cutAtComment_beforeComment
  boundary line := by
    obtain ⟨dropped, split⟩ := (cutAtComment_beforeComment line.toList).isPrefix
    refine ⟨.ofList (beforeComment none line.toList), .ofList dropped, ?_, String.toList_ofList, ?_⟩
    · rw [← String.ofList_append, split, String.ofList_toList]
    · have counted := @commentStart_encoded none nofun line.toList
      rwa [← Text.octets_ofList, String.ofList_toList, ← Text.octets_ofList] at counted

-- A literal that nothing closes keeps its line to the end, a backslash takes one character with it.
example : canonicalize .protobuf
    "a = \"x//y\";  // z\r\nb = 'é\\é  //\n\t// c\n d \\\t" .normalized =
    .ok "a = \"x//y\";\nb = 'é\\é //\nd \\" := by
  decide +kernel

end SchemaRegistry
