import SchemaRegistry.Proofs.Schema.Lines
/-!
# Literals of a PROTOBUF schema

The literals of a line are what stands between the marks that a reader of the line goes by, the last
one being open if nothing closes it. A canonical text has the literals of its schema, each with the
blanks worn as the blanks of its line are (`literals_canonical`): an open literal loses its blanks
at the end with the line, and when normalized, a run of blanks is one space, in a literal as
elsewhere. Only literals that are `Lasting` come through all of that as they are.
-/

set_option autoImplicit false

namespace SchemaRegistry

namespace Canonical

open Text (isBlank squeezed)

/-- A literal: what stands behind its mark, and whether the mark comes again. -/
structure Literal where
  content : List Char
  isClosed : Bool
  deriving DecidableEq

namespace Literal

/-- The literal with a further character at the front. -/
def push (c : Char) (l : Literal) : Literal :=
  { l with content := c :: l.content }

/-- The literal on a line without blanks at the end. -/
def cropped (l : Literal) : Literal :=
  if l.isClosed then l else { l with content := l.content.rdropWhile isBlank }

/-- The literal with a space in place of each run of blanks. -/
def squeezed (l : Literal) : Literal :=
  { l with content := Text.squeezed l.content }

/-- A character that is no blank is kept, so it may as well be put in front afterwards. -/
theorem squeezed_push_of_not_isBlank (l : Literal) {c : Char} (hc : isBlank c = false) :
    (l.push c).squeezed = l.squeezed.push c := by
  unfold squeezed push
  rw [Text.squeezed_cons_of_not_isBlank hc]

/-- A blank in front of another is lost, and in front of anything else it becomes a space. -/
theorem squeezed_push_of_isBlank (l : Literal) {c : Char} (hc : isBlank c = true) :
    (l.push c).squeezed =
      if l.content.head?.any isBlank then l.squeezed else l.squeezed.push ' ' := by
  unfold squeezed push
  rw [Text.squeezed_cons_of_isBlank hc]
  split <;> rfl

/-- What a canonical text has of the literal. -/
def kept : Fidelity → Literal → Literal
  | .raw, l => l.cropped
  | .normalized, l => l.cropped.squeezed

end Literal

/-- The literals in the rest of a line, the first of which may be open already. -/
def literalsFrom (q : Quoting) : List Char → List Literal
  | [] => if q = .outside then [] else [{ content := [], isClosed := false }]
  | c :: rest =>
    if q = .outside then literalsFrom (q.step c) rest
    else if q.step c = .outside then
      { content := [], isClosed := true } :: literalsFrom .outside rest
    else (literalsFrom (q.step c) rest).modifyHead (.push c)

/-- The literals of a line, as far as its comment. -/
def lineLiterals (line : List Char) : List Literal :=
  literalsFrom .outside (beforeComment none line)

/-- The literals of a schema. -/
def literals (text : List Char) : List Literal :=
  (Text.lines text).flatMap lineLiterals

/-! ## Literals of a line -/

section

variable {q : Quoting} {c : Char} {rest : List Char}

/-- Outside of literals a character belongs to none, and only where the quoting goes from there
matters. -/
theorem literalsFrom_outside_cons :
    literalsFrom .outside (c :: rest) = literalsFrom (Quoting.outside.step c) rest :=
  if_pos rfl

/-- The mark that closes a literal leaves it empty so far: its content is put in front character by
character. -/
theorem literalsFrom_of_closes (isOpen : q ≠ .outside) (closes : q.step c = .outside) :
    literalsFrom q (c :: rest) =
      { content := [], isClosed := true } :: literalsFrom .outside rest :=
  (if_neg isOpen).trans (if_pos closes)

/-- Within a literal the character belongs to it, and the literal goes on with the rest. -/
theorem literalsFrom_of_goesOn (isOpen : q ≠ .outside) (goesOn : q.step c ≠ .outside) :
    literalsFrom q (c :: rest) = (literalsFrom (q.step c) rest).modifyHead (.push c) :=
  (if_neg isOpen).trans (if_neg goesOn)

end

/-- What is open at the end of a line is an open literal without characters. -/
theorem map_literalsFrom_nil {g : Literal → Literal} (q : Quoting)
    (h : g { content := [], isClosed := false } = { content := [], isClosed := false }) :
    (literalsFrom q []).map g = literalsFrom q [] := by
  rw [literalsFrom]
  split
  · rfl
  · rw [List.map_singleton, h]

/-- A blank closes no literal and opens none. All it does is end an escape. -/
theorem Quoting.afterBlank_eq_outside_iff {q : Quoting} :
    q.afterBlank = .outside ↔ q = .outside := by
  cases q <;> simp [afterBlank]

/-- A blank does not close a literal. -/
theorem Quoting.Proper.goesOn {q : Quoting} (proper : q.Proper) (isOpen : q ≠ .outside) {c : Char}
    (hc : isBlank c = true) : q.step c ≠ .outside := by
  rw [proper.step_of_isBlank hc]
  exact mt Quoting.afterBlank_eq_outside_iff.mp isOpen

/-- Blanks between literals belong to none. -/
theorem literalsFrom_outside_of_isBlank {c : Char} (hc : isBlank c = true) (rest : List Char) :
    literalsFrom .outside (c :: rest) = literalsFrom .outside rest := by
  rw [literalsFrom_outside_cons, Quoting.proper_outside.step_of_isBlank hc]
  rfl

/-- A blank within a literal belongs to it, escaped or not. -/
theorem literalsFrom_of_isBlank {q : Quoting} (proper : q.Proper) (isOpen : q ≠ .outside) {c : Char}
    (hc : isBlank c = true) (rest : List Char) :
    literalsFrom q (c :: rest) = (literalsFrom q.afterBlank rest).modifyHead (.push c) := by
  rw [literalsFrom_of_goesOn isOpen (proper.goesOn isOpen hc), proper.step_of_isBlank hc]

/-- A literal that is open comes first. It goes on to the end of the line unless it is closed, and
begins with a blank if the rest of the line does. -/
theorem literalsFrom_of_open {q : Quoting} (proper : q.Proper) (isOpen : q ≠ .outside)
    (line : List Char) : ∃ l ls, literalsFrom q line = l :: ls ∧
      (l.isClosed = false → l.content = line) ∧
        l.content.head?.any isBlank = line.head?.any isBlank := by
  induction line generalizing q with
  | nil => exact ⟨_, _, if_neg isOpen, fun _ => rfl, rfl⟩
  | cons c rest ih =>
    by_cases closes : q.step c = .outside
    · have solid : isBlank c = false :=
        Bool.eq_false_iff.mpr fun hc => proper.goesOn isOpen hc closes
      exact ⟨_, _, literalsFrom_of_closes isOpen closes, nofun, solid.symm⟩
    · obtain ⟨l, ls, split, whole, -⟩ := ih (proper.step c) closes
      refine ⟨l.push c, ls, ?_, fun unclosed => congrArg (c :: ·) (whole unclosed), rfl⟩
      rw [literalsFrom_of_goesOn isOpen closes, split, List.modifyHead_cons]

/-! ## Blanks at the ends of a line -/

/-- The blanks in front of a line stand outside of all literals. -/
theorem literalsFrom_dropWhile (line : List Char) :
    literalsFrom .outside (line.dropWhile isBlank) = literalsFrom .outside line := by
  induction line with
  | nil => rfl
  | cons c rest ih =>
    by_cases hc : isBlank c = true
    · rw [List.dropWhile_cons_of_pos hc, ih, literalsFrom_outside_of_isBlank hc]
    · rw [List.dropWhile_cons_of_neg hc]

/-- Where a literal goes on, it loses the blanks at its end if it is open to the end of the line,
and if it is closed there is more than blanks to come. -/
theorem literalsFrom_rdropWhile_of_goesOn {q : Quoting} (proper : q.Proper) (isOpen : q ≠ .outside)
    {c : Char} (goesOn : q.step c ≠ .outside) {rest : List Char}
    (behind : literalsFrom (q.step c) (rest.rdropWhile isBlank) =
      (literalsFrom (q.step c) rest).map Literal.cropped) :
    literalsFrom q ((c :: rest).rdropWhile isBlank) =
      (literalsFrom q (c :: rest)).map Literal.cropped := by
  obtain ⟨⟨content, isClosed⟩, ls, split, whole, -⟩ :=
    literalsFrom_of_open (proper.step c) goesOn rest
  rw [split, List.map_cons] at behind
  rw [literalsFrom_of_goesOn isOpen goesOn, split, List.modifyHead_cons, List.map_cons]
  cases isClosed with
  | true =>
    rw [Text.rdropWhile_cons, if_neg, literalsFrom_of_goesOn isOpen goesOn, behind]
    · rfl
    · rintro ⟨-, none⟩
      rw [none, literalsFrom, if_neg goesOn] at behind
      cases behind
  | false =>
    obtain rfl : content = rest := whole rfl
    change _ = Literal.mk ((c :: content).rdropWhile isBlank) false :: _
    rw [Text.rdropWhile_cons]
    split
    · rename_i blank
      rw [blank.2, literalsFrom, if_neg goesOn, List.cons.injEq] at behind
      rw [literalsFrom, if_neg isOpen, behind.2]
    · rw [literalsFrom_of_goesOn isOpen goesOn, behind]
      rfl

/-- Without its blanks at the end a line has the same literals, but for the blanks of an open one.
-/
theorem literalsFrom_rdropWhile {q : Quoting} (proper : q.Proper) (line : List Char) :
    literalsFrom q (line.rdropWhile isBlank) = (literalsFrom q line).map Literal.cropped := by
  induction line generalizing q with
  | nil => exact (map_literalsFrom_nil q rfl).symm
  | cons c rest ih =>
    have behind := ih (proper.step c)
    by_cases outside : q = .outside
    · subst outside
      rw [Text.rdropWhile_cons, literalsFrom_outside_cons, ← behind]
      split
      · rename_i blank
        rw [blank.2, Quoting.proper_outside.step_of_isBlank blank.1]
        rfl
      · exact literalsFrom_outside_cons
    by_cases closes : q.step c = .outside
    · have solid : ¬ isBlank c = true := fun hc => proper.goesOn outside hc closes
      rw [closes] at behind
      rw [Text.rdropWhile_cons, if_neg fun blank => solid blank.1,
        literalsFrom_of_closes outside closes, literalsFrom_of_closes outside closes,
        List.map_cons, behind]
      rfl
    · exact literalsFrom_rdropWhile_of_goesOn proper outside closes behind

/-! ## Runs of blanks -/

/-- In front of a blank it does not matter whether another one is behind. -/
theorem literalsFrom_afterBlank {q : Quoting} (proper : q.Proper) {line : List Char}
    (blank : line.head?.any isBlank = true) :
    literalsFrom q.afterBlank line = literalsFrom q line := by
  cases line with
  | nil => cases blank
  | cons c rest =>
    have hc : isBlank c = true := blank
    by_cases outside : q = .outside
    · rw [outside]
      rfl
    have outside' := mt Quoting.afterBlank_eq_outside_iff.mp outside
    rw [literalsFrom_of_isBlank proper outside hc,
      literalsFrom_of_isBlank proper.afterBlank outside' hc, Quoting.afterBlank_afterBlank]

/-- A line with its blanks squeezed has the literals of the line, with their blanks squeezed. -/
theorem literalsFrom_squeezed {q : Quoting} (proper : q.Proper) (line : List Char) :
    literalsFrom q (squeezed line) = (literalsFrom q line).map Literal.squeezed := by
  induction line generalizing q with
  | nil => exact (map_literalsFrom_nil q rfl).symm
  | cons c rest ih =>
    by_cases hc : isBlank c = true
    · rw [Text.squeezed_cons_of_isBlank hc]
      by_cases outside : q = .outside
      · subst outside
        rw [literalsFrom_outside_of_isBlank hc, ← ih proper]
        split
        · rfl
        · exact literalsFrom_outside_of_isBlank (by decide) _
      -- Whether the blank is written goes by what follows it, in the line as in the literal.
      have outside' := mt Quoting.afterBlank_eq_outside_iff.mp outside
      obtain ⟨l, ls, split, -, first⟩ := literalsFrom_of_open proper.afterBlank outside' rest
      have behind := ih proper.afterBlank
      rw [split, List.map_cons] at behind
      rw [literalsFrom_of_isBlank proper outside hc, split, List.modifyHead_cons, List.map_cons,
        l.squeezed_push_of_isBlank hc, first]
      split
      · rename_i further
        rw [← Text.any_head?_squeezed] at further
        rw [← literalsFrom_afterBlank proper further, behind]
      · rw [literalsFrom_of_isBlank proper outside (by decide), behind, List.modifyHead_cons]
    · have solid := Bool.eq_false_iff.mpr hc
      have behind := ih (proper.step c)
      rw [Text.squeezed_cons_of_not_isBlank solid]
      by_cases outside : q = .outside
      · subst outside
        exact behind
      by_cases closes : q.step c = .outside
      · rw [closes] at behind
        rw [literalsFrom_of_closes outside closes, literalsFrom_of_closes outside closes, behind]
        rfl
      · obtain ⟨l, ls, split, -⟩ := literalsFrom_of_open (proper.step c) closes rest
        rw [split] at behind
        rw [literalsFrom_of_goesOn outside closes, literalsFrom_of_goesOn outside closes, behind,
          split, List.modifyHead_cons, List.map_cons, List.map_cons, List.modifyHead_cons]
        exact congrArg (· :: _) (l.squeezed_push_of_not_isBlank solid).symm

/-! ## Literals of a schema -/

/-- **Trimming a line crops its last literal, if that is open, and touches no other.** A closed
literal has its mark behind it, which is no blank. -/
theorem literalsFrom_lineContent (line : List Char) :
    literalsFrom .outside (lineContent line) = (lineLiterals line).map Literal.cropped := by
  have cropped := literalsFrom_rdropWhile Quoting.proper_outside
    ((beforeComment none line).dropWhile isBlank)
  rwa [literalsFrom_dropWhile] at cropped

/-- Lines that say nothing have no literals. -/
theorem flatMap_contentLines (text : List Char) :
    (contentLines text).flatMap (literalsFrom .outside) =
      (literals text).map Literal.cropped := by
  unfold contentLines literals
  induction Text.lines text with
  | nil => rfl
  | cons line ls ih =>
    rw [List.map_cons, List.flatMap_cons, List.map_append, ← ih, ← literalsFrom_lineContent]
    by_cases empty : lineContent line = []
    · rw [empty, List.filter_cons_of_neg (by simp)]
      rfl
    · rw [List.filter_cons_of_pos (by simpa using empty), List.flatMap_cons]

/-- A clean line has no comment, so all of it is looked at. -/
theorem lineLiterals_of_clean {line : List Char} (clean : Clean line) :
    lineLiterals line = literalsFrom .outside line := by
  rw [lineLiterals, beforeComment_of_plain clean.plain]

/-- A canonical text has the literals of the schema, as far as their blanks are kept. -/
theorem literals_canonical {text canonical : String} {f : Fidelity}
    (h : canonicalize .protobuf text f = .ok canonical) :
    literals canonical.toList = (literals text.toList).map (Literal.kept f) := by
  have clean : ∀ l ∈ contentLines text.toList, Clean l := fun l => clean_of_mem_contentLines
  have cleanKept := clean_of_mem_keptLines (f := f) clean
  rw [(canonicalize_protobuf_iff.mp h).2, literals, lines_intercalate_of_clean cleanKept,
    List.flatMap_congr fun l hl => lineLiterals_of_clean (cleanKept l hl)]
  cases f with
  | raw => exact flatMap_contentLines text.toList
  | normalized =>
    calc ((contentLines text.toList).map Text.squeezed).flatMap (literalsFrom .outside)
        = (contentLines text.toList).flatMap fun l =>
            (literalsFrom .outside l).map Literal.squeezed := by
          rw [List.flatMap_map]
          refine List.flatMap_congr fun l hl => ?_
          exact literalsFrom_squeezed Quoting.proper_outside l
      _ = ((literals text.toList).map Literal.cropped).map Literal.squeezed := by
          rw [← List.map_flatMap, flatMap_contentLines]
      _ = (literals text.toList).map (Literal.kept .normalized) := List.map_map

-- A mark in a comment opens nothing, and an escaped one closes nothing.
example : (literals "a = 'x  y'; // 'z'\nb = \"\\\"  ".toList).map (Literal.kept .normalized) =
    [{ content := ['x', ' ', 'y'], isClosed := true },
      { content := ['\\', '"'], isClosed := false }] := by
  decide +kernel

/-! ## Literals that come through -/

/-- Whether no blank of the literal is lost: each of them is a space that stands alone, and none
stands at the end of a line. -/
structure Literal.Lasting (l : Literal) : Prop where
  spaced : Text.Spaced l.content
  ended : l.isClosed = false → ∀ c ∈ l.content.getLast?, isBlank c = false

/-- There is nothing to crop where no blank stands at the end. -/
theorem Literal.Lasting.cropped_eq {l : Literal} (h : l.Lasting) : l.cropped = l := by
  obtain ⟨content, isClosed⟩ := l
  cases isClosed with
  | true => rfl
  | false =>
    have whole : content.rdropWhile isBlank = content := by
      refine List.rdropWhile_eq_self_iff.mpr fun nonempty blank => ?_
      rw [h.ended rfl _ (List.getLast?_eq_some_getLast nonempty)] at blank
      cases blank
    exact congrArg (Literal.mk · false) whole

/-- A literal without a blank that could be lost is kept as it is, at either fidelity. -/
theorem Literal.Lasting.kept_eq {l : Literal} (h : l.Lasting) (f : Fidelity) : l.kept f = l := by
  cases f with
  | raw => exact h.cropped_eq
  | normalized =>
    rw [kept, h.cropped_eq]
    exact congrArg (Literal.mk · l.isClosed) (Text.squeezed_eq_self_iff.mpr h.spaced)

/-- Only such literals come through normalization. -/
theorem Literal.kept_normalized_eq_self_iff {l : Literal} : l.kept .normalized = l ↔ l.Lasting := by
  refine ⟨fun h => ?_, fun lasting => lasting.kept_eq .normalized⟩
  obtain ⟨content, isClosed⟩ := l
  cases isClosed with
  | true =>
    have same : Text.squeezed content = content := congrArg Literal.content h
    exact ⟨Text.squeezed_eq_self_iff.mp same, nofun⟩
  | false =>
    have same : Text.squeezed (content.rdropWhile isBlank) = content := congrArg Literal.content h
    -- What is dropped at the end is not made up for.
    have shorter := Text.length_squeezed_le (content.rdropWhile isBlank)
    rw [same] at shorter
    have isPrefix := List.rdropWhile_prefix isBlank content
    have whole : content.rdropWhile isBlank = content := isPrefix.eq_of_length_le shorter
    rw [whole] at same
    refine ⟨Text.squeezed_eq_self_iff.mp same, fun _ c hc => ?_⟩
    obtain ⟨nonempty, rfl⟩ := List.mem_getLast?_eq_getLast hc
    exact Bool.eq_false_iff.mpr (List.rdropWhile_eq_self_iff.mp whole nonempty)

/-- The literals of a schema survive normalizing only if each of them does, since the list keeps its
order. -/
theorem map_kept_normalized_eq_self_iff {ls : List Literal} :
    ls.map (Literal.kept .normalized) = ls ↔ ∀ l ∈ ls, l.Lasting := by
  induction ls with
  | nil => exact iff_of_true rfl fun l hl => absurd hl List.not_mem_nil
  | cons l ls ih =>
    rw [List.map_cons, List.cons.injEq, ih, Literal.kept_normalized_eq_self_iff,
      List.forall_mem_cons]

end Canonical

end SchemaRegistry
