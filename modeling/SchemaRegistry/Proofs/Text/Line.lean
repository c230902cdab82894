import Mathlib.Data.List.DropRight
import SchemaRegistry.Text.Line
/-!
# Lines and blanks

Lines that are joined by line feeds are read as the same lines again, as long as each says something
and none ends with a carriage return. A text that is trimmed begins and ends with something else
than a blank, and there the words joined by single spaces are the text with each run of blanks made
one space. `squeezed` does that from left to right, one character at a time, so that what depends on
the characters in their order can be followed through it.
-/

set_option autoImplicit false

namespace SchemaRegistry.Text

/-! ## Lines -/

/-- What has no line feed in it joins the line that is being read. -/
theorem linesFrom_append {piece : List Char} (unbroken : '\n' ∉ piece) (line rest : List Char) :
    linesFrom line (piece ++ rest) = linesFrom (line ++ piece) rest := by
  induction piece generalizing line with
  | nil => rw [List.nil_append, List.append_nil]
  | cons c piece ih =>
    rw [List.mem_cons, not_or] at unbroken
    rw [List.cons_append, linesFrom, ih unbroken.2, List.append_assoc, List.singleton_append]
    exact fun same => unbroken.1 same.symm

/-- Lines are cut out of the text, and nothing is put into them. -/
theorem mem_of_mem_linesFrom {line text l : List Char} {c : Char} (hl : l ∈ linesFrom line text)
    (hc : c ∈ l) : c ∈ line ∨ c ∈ text := by
  fun_induction linesFrom line text with
  | case1 line empty => cases hl
  | case2 line nonempty =>
    rw [List.mem_singleton] at hl
    exact Or.inl (hl ▸ hc)
  | case3 line rest ih =>
    rcases List.mem_cons.mp hl with rfl | hl
    · refine Or.inl ?_
      -- At the end of a line a carriage return may be dropped, but nothing is added.
      unfold dropReturn at hc
      split at hc
      · exact (List.dropLast_sublist line).subset hc
      · exact hc
    · rcases ih hl with hmem | hmem
      · cases hmem
      · exact Or.inr (List.mem_cons_of_mem _ hmem)
  | case4 line d rest differs ih =>
    rcases ih hl with hmem | hmem
    · rcases List.mem_append.mp hmem with hmem | hmem
      · exact Or.inl hmem
      · rw [List.mem_singleton.mp hmem]
        exact Or.inr List.mem_cons_self
    · exact Or.inr (List.mem_cons_of_mem _ hmem)

/-- What stands in a line stands in the text. -/
theorem mem_of_mem_lines {text l : List Char} {c : Char} (hl : l ∈ lines text) (hc : c ∈ l) :
    c ∈ text :=
  (mem_of_mem_linesFrom hl hc).resolve_left List.not_mem_nil

/-- Lines that are joined are read as what they were. -/
theorem lines_intercalate {ls : List (List Char)} (written : ∀ l ∈ ls, l ≠ [])
    (unbroken : ∀ l ∈ ls, '\n' ∉ l) (unreturned : ∀ l ∈ ls, l.getLast? ≠ some '\r') :
    lines (['\n'].intercalate ls) = ls := by
  induction ls with
  | nil => rfl
  | cons l ls ih =>
    obtain ⟨writtenFirst, writtenOthers⟩ := List.forall_mem_cons.mp written
    obtain ⟨unbrokenFirst, unbrokenOthers⟩ := List.forall_mem_cons.mp unbroken
    obtain ⟨unreturnedFirst, unreturnedOthers⟩ := List.forall_mem_cons.mp unreturned
    cases ls with
    | nil =>
      have whole := linesFrom_append unbrokenFirst [] []
      rw [List.append_nil, List.nil_append] at whole
      rw [List.intercalate_singleton, lines, whole, linesFrom,
        if_neg (by simpa using writtenFirst)]
    | cons m ls =>
      have further := ih writtenOthers unbrokenOthers unreturnedOthers
      rw [lines] at further
      rw [List.intercalate_cons_cons, lines, List.append_assoc, linesFrom_append unbrokenFirst,
        List.nil_append, List.singleton_append, linesFrom, further, dropReturn,
        if_neg unreturnedFirst]

/-! ## Trimming -/

/-- Whether a text neither begins nor ends with a blank. -/
structure Trimmed (text : List Char) : Prop where
  first : ∀ c ∈ text.head?, isBlank c = false
  last : ∀ c ∈ text.getLast?, isBlank c = false

theorem head?_dropWhile_isBlank (text : List Char) :
    ∀ c ∈ (text.dropWhile isBlank).head?, isBlank c = false := by
  intro c hc
  have head := List.head?_dropWhile_not isBlank text
  rw [Option.mem_def.mp hc] at head
  exact Bool.eq_false_iff.mpr (by simpa using head)

/-- Both ends are seen to: what is dropped at the end leaves the front as it was, unless nothing is
left. -/
theorem trimmed_trim (text : List Char) : Trimmed (trim text) where
  first c hc := by
    obtain ⟨behind, split⟩ := List.rdropWhile_prefix isBlank (text.dropWhile isBlank)
    refine head?_dropWhile_isBlank text c ?_
    rw [← split]
    exact List.mem_head?_append_of_mem_head? hc
  last c hc := by
    have nonempty : trim text ≠ [] := by
      intro none
      rw [none] at hc
      cases hc
    have last := List.rdropWhile_last_not isBlank (text.dropWhile isBlank) nonempty
    rw [List.getLast?_eq_some_getLast nonempty] at hc
    cases hc
    exact Bool.eq_false_iff.mpr last

theorem Trimmed.dropWhile_eq {text : List Char} (h : Trimmed text) :
    text.dropWhile isBlank = text := by
  cases text with
  | nil => rfl
  | cons c rest => rw [List.dropWhile_cons_of_neg (by simp [h.first c rfl])]

/-- What is trimmed already stays as it is, so trimming twice is trimming once. -/
theorem Trimmed.trim_eq {text : List Char} (h : Trimmed text) : trim text = text := by
  rw [trim, h.dropWhile_eq]
  refine List.rdropWhile_eq_self_iff.mpr fun nonempty => ?_
  rw [h.last _ (List.getLast?_eq_some_getLast nonempty)]
  exact Bool.false_ne_true

/-- A trimmed text keeps its front when blanks are dropped, even if other text stands behind it; an
empty one has no front to keep. -/
theorem Trimmed.dropWhile_append {text : List Char} (h : Trimmed text) (some : text ≠ [])
    (back : List Char) : (text ++ back).dropWhile isBlank = text ++ back := by
  obtain ⟨c, rest, rfl⟩ := List.exists_cons_of_ne_nil some
  rw [List.cons_append, List.dropWhile_cons_of_neg (by simp [h.first c rfl])]

/-- Blanks behind a text that is trimmed are dropped, and nothing else. -/
theorem Trimmed.trimRight_append {text back : List Char} (h : Trimmed text)
    (blank : ∀ c ∈ back, isBlank c = true) : trimRight (text ++ back) = text := by
  have behind : ∀ c ∈ back.reverse, isBlank c = true := by
    intro c hc
    exact blank c (List.mem_reverse.mp hc)
  have trimmed : text.reverse.dropWhile isBlank = text.reverse := by
    have kept := h.trim_eq
    rw [trim, h.dropWhile_eq, trimRight] at kept
    rw [← List.reverse_eq_iff]
    exact kept
  rw [trimRight, List.reverse_append, List.dropWhile_append_of_pos behind, trimmed,
    List.reverse_reverse]

/-- **Trimming, said without its steps.** What is left of a text is the trimmed text that stands in
it between blanks, and there is only one. -/
theorem trim_eq_iff {text middle : List Char} :
    trim text = middle ↔ ∃ front back, text = front ++ middle ++ back ∧
      (∀ c ∈ front, isBlank c = true) ∧ (∀ c ∈ back, isBlank c = true) ∧ Trimmed middle := by
  constructor
  · rintro rfl
    have front := List.takeWhile_append_dropWhile (p := isBlank) (l := text)
    have back := List.takeWhile_append_dropWhile (p := isBlank)
      (l := (text.dropWhile isBlank).reverse)
    refine ⟨text.takeWhile isBlank, ((text.dropWhile isBlank).reverse.takeWhile isBlank).reverse,
      ?_, fun c hc => List.mem_takeWhile_imp hc, fun c hc => ?_, trimmed_trim text⟩
    · rw [List.append_assoc, trim, trimRight, ← List.reverse_append, back, List.reverse_reverse,
        front]
    · exact List.mem_takeWhile_imp (List.mem_reverse.mp hc)
  · rintro ⟨front, back, rfl, blankFront, blankBack, trimmed⟩
    rw [trim, List.append_assoc, List.dropWhile_append_of_pos blankFront]
    by_cases none : middle = []
    · subst none
      rw [List.nil_append, List.dropWhile_eq_nil_iff.mpr blankBack]
      rfl
    · rw [trimmed.dropWhile_append none, trimmed.trimRight_append blankBack]

/-- A blank more at the end is trimmed too. -/
theorem trim_concat (text : List Char) {c : Char} (hc : isBlank c = true) :
    trim (text ++ [c]) = trim text := by
  obtain ⟨front, back, split, blankFront, blankBack, trimmed⟩ :=
    trim_eq_iff.mp (Eq.refl (trim text))
  refine trim_eq_iff.mpr ⟨front, back ++ [c], ?_, blankFront, ?_, trimmed⟩
  · rw [← List.append_assoc, ← split]
  · rw [List.forall_mem_append, List.forall_mem_singleton]
    exact ⟨blankBack, hc⟩

/-- A character at the front is dropped with what follows it, if all of that is blank. -/
theorem rdropWhile_cons (c : Char) (rest : List Char) :
    (c :: rest).rdropWhile isBlank =
      if isBlank c ∧ rest.rdropWhile isBlank = [] then [] else c :: rest.rdropWhile isBlank := by
  induction rest using List.reverseRecOn with
  | nil =>
    rw [← List.nil_append [c], List.rdropWhile_concat, List.rdropWhile_nil]
    by_cases hc : isBlank c = true <;> simp [hc]
  | append_singleton rest d ih =>
    rw [← List.cons_append]
    by_cases hd : isBlank d = true
    · rw [List.rdropWhile_concat_pos isBlank _ _ hd, List.rdropWhile_concat_pos isBlank _ _ hd, ih]
    · rw [List.rdropWhile_concat_neg isBlank _ _ hd, List.rdropWhile_concat_neg isBlank _ _ hd,
        if_neg fun blank => List.concat_ne_nil d rest blank.2, List.cons_append]

/-! ## Runs of blanks -/

/-- The text with a space in place of each run of blanks. -/
def squeezed : List Char → List Char
  | [] => []
  | c :: rest =>
    if isBlank c then
      -- The last blank of a run stands for the run.
      if rest.head?.any isBlank then squeezed rest else ' ' :: squeezed rest
    else c :: squeezed rest

theorem squeezed_cons_of_not_isBlank {c : Char} (h : isBlank c = false) (rest : List Char) :
    squeezed (c :: rest) = c :: squeezed rest := by
  rw [squeezed, if_neg (by simp [h])]

/-- What follows a blank decides whether the blank is written. -/
theorem squeezed_cons_of_isBlank {c : Char} (h : isBlank c = true) (rest : List Char) :
    squeezed (c :: rest) = if rest.head?.any isBlank then squeezed rest else ' ' :: squeezed rest :=
  if_pos h

/-- A run of blanks at the front is one space. -/
theorem squeezed_blanks {c : Char} (h : isBlank c = true) (rest : List Char) :
    squeezed (c :: rest) = ' ' :: squeezed (rest.dropWhile isBlank) := by
  induction rest generalizing c with
  | nil => rw [squeezed_cons_of_isBlank h]; rfl
  | cons d rest ih =>
    rw [squeezed_cons_of_isBlank h, List.head?_cons, Option.any_some]
    by_cases hd : isBlank d = true
    · rw [if_pos hd, ih hd, List.dropWhile_cons_of_pos hd]
    · rw [if_neg hd, List.dropWhile_cons_of_neg hd]

/-- A text that is squeezed begins as the text does, up to which blank it is. -/
theorem head?_squeezed (text : List Char) :
    (squeezed text).head? = text.head?.map fun c => if isBlank c then ' ' else c := by
  cases text with
  | nil => rfl
  | cons c rest =>
    by_cases hc : isBlank c = true
    · rw [squeezed_blanks hc, List.head?_cons, List.head?_cons, Option.map_some, if_pos hc]
    · rw [squeezed_cons_of_not_isBlank (Bool.eq_false_iff.mpr hc), List.head?_cons, List.head?_cons,
        Option.map_some, if_neg hc]

/-- Squeezing keeps whether a blank stands in front, which is what the next character to the left
asks. -/
theorem any_head?_squeezed (text : List Char) :
    (squeezed text).head?.any isBlank = text.head?.any isBlank := by
  rw [head?_squeezed]
  cases text.head? with
  | none => rfl
  | some c =>
    rw [Option.map_some, Option.any_some, Option.any_some]
    by_cases hc : isBlank c = true
    · rw [if_pos hc, hc]
      rfl
    · rw [if_neg hc]

/-- A run of blanks becomes one space and is not lost, so what was something is still something. -/
theorem squeezed_ne_nil {text : List Char} (h : text ≠ []) : squeezed text ≠ [] := by
  cases text with
  | nil => exact absurd rfl h
  | cons c rest =>
    intro none
    have head := head?_squeezed (c :: rest)
    rw [none] at head
    cases head

/-- The last character stays, except that a blank becomes a space. -/
theorem getLast?_squeezed (text : List Char) :
    (squeezed text).getLast? = text.getLast?.map fun c => if isBlank c then ' ' else c := by
  induction text with
  | nil => rfl
  | cons c rest ih =>
    cases rest with
    | nil =>
      by_cases hc : isBlank c = true
      · rw [squeezed_blanks hc, List.getLast?_singleton, Option.map_some, if_pos hc]
        rfl
      · rw [squeezed_cons_of_not_isBlank (Bool.eq_false_iff.mpr hc), List.getLast?_singleton,
          Option.map_some, if_neg hc]
        rfl
    | cons d rest =>
      -- What is put in front of a text that is not empty leaves its end.
      have more : ∀ b, (b :: squeezed (d :: rest)).getLast? = (squeezed (d :: rest)).getLast? := by
        intro b
        obtain ⟨e, others, written⟩ := List.exists_cons_of_ne_nil
          (squeezed_ne_nil (List.cons_ne_nil d rest))
        rw [written, List.getLast?_cons_cons]
      rw [List.getLast?_cons_cons, ← ih]
      by_cases hc : isBlank c = true
      · rw [squeezed_cons_of_isBlank hc]
        split
        · rfl
        · exact more ' '
      · rw [squeezed_cons_of_not_isBlank (Bool.eq_false_iff.mpr hc)]
        exact more c

theorem squeezed_squeezed (text : List Char) : squeezed (squeezed text) = squeezed text := by
  induction text with
  | nil => rfl
  | cons c rest ih =>
    by_cases hc : isBlank c = true
    · rw [squeezed_cons_of_isBlank hc]
      split
      · exact ih
      · rename_i apart
        rw [squeezed_cons_of_isBlank (by decide), any_head?_squeezed, if_neg apart, ih]
    · have solid := Bool.eq_false_iff.mpr hc
      rw [squeezed_cons_of_not_isBlank solid, squeezed_cons_of_not_isBlank solid, ih]

theorem mem_squeezed {text : List Char} {c : Char} (h : c ∈ squeezed text) :
    c = ' ' ∨ c ∈ text := by
  induction text with
  | nil => cases h
  | cons d rest ih =>
    by_cases hd : isBlank d = true
    · rw [squeezed_cons_of_isBlank hd] at h
      split at h
      · exact (ih h).imp_right (List.mem_cons_of_mem d)
      · rcases List.mem_cons.mp h with rfl | h
        · exact Or.inl rfl
        · exact (ih h).imp_right (List.mem_cons_of_mem d)
    · rw [squeezed_cons_of_not_isBlank (Bool.eq_false_iff.mpr hd)] at h
      rcases List.mem_cons.mp h with rfl | h
      · exact Or.inr List.mem_cons_self
      · exact (ih h).imp_right (List.mem_cons_of_mem d)

/-- Whether every blank is a space, and no other blank follows it. -/
def Spaced : List Char → Prop
  | [] => True
  | c :: rest => (isBlank c = true → c = ' ' ∧ rest.head?.any isBlank = false) ∧ Spaced rest

instance Spaced.decidable : ∀ text, Decidable (Spaced text)
  | [] => inferInstanceAs (Decidable True)
  | _ :: rest =>
    have := decidable rest
    inferInstanceAs (Decidable (_ ∧ Spaced rest))

/-- A text does not grow by being squeezed, which is why a fixed point can be told from its length.
-/
theorem length_squeezed_le (text : List Char) : (squeezed text).length ≤ text.length := by
  induction text with
  | nil => exact Nat.le_refl 0
  | cons c rest ih =>
    rw [squeezed, List.length_cons]
    split
    · split
      · exact Nat.le_succ_of_le ih
      · exact Nat.succ_le_succ ih
    · exact Nat.succ_le_succ ih

/-- What is squeezed has no other blanks, and what has no others is squeezed. -/
theorem squeezed_eq_self_iff {text : List Char} : squeezed text = text ↔ Spaced text := by
  induction text with
  | nil => exact iff_of_true rfl True.intro
  | cons c rest ih =>
    by_cases hc : isBlank c = true
    · rw [squeezed_cons_of_isBlank hc, Spaced, imp_iff_right hc]
      by_cases further : rest.head?.any isBlank = true
      · rw [if_pos further, further]
        refine iff_of_false (fun same => ?_) (fun h => nomatch h.1.2)
        have longer := length_squeezed_le rest
        rw [same, List.length_cons] at longer
        omega
      · rw [if_neg further, List.cons.injEq, ih, and_iff_left (Bool.eq_false_iff.mpr further),
          eq_comm]
    · rw [squeezed_cons_of_not_isBlank (Bool.eq_false_iff.mpr hc), List.cons.injEq, ih, Spaced]
      simp [hc]

/-- Blanks become blanks and all else stays, so the ends are as they were. -/
theorem Trimmed.squeezed {text : List Char} (h : Trimmed text) : Trimmed (squeezed text) where
  first c hc := by
    rw [head?_squeezed, Option.mem_def, Option.map_eq_some_iff] at hc
    obtain ⟨d, hd, rfl⟩ := hc
    rw [h.first d hd]
    exact h.first d hd
  last c hc := by
    rw [getLast?_squeezed, Option.mem_def, Option.map_eq_some_iff] at hc
    obtain ⟨d, hd, rfl⟩ := hc
    rw [h.last d hd]
    exact h.last d hd

/-! ## Words -/

/-- Where something else than a blank is to come, there is a word to come. -/
theorem wordsFrom_ne_nil {word text : List Char}
    (h : word ≠ [] ∨ text ≠ [] ∧ ∀ c ∈ text.getLast?, isBlank c = false) :
    wordsFrom word text ≠ [] := by
  fun_induction wordsFrom word text with
  | case1 word empty =>
    rcases h with h | h
    · exact absurd (List.isEmpty_iff.mp empty) h
    · exact absurd rfl h.1
  | case2 word nonempty => simp
  | case3 word c rest blank empty ih =>
    rcases h with h | ⟨-, last⟩
    · exact absurd (List.isEmpty_iff.mp empty) h
    · cases rest with
      | nil => rw [last c rfl] at blank; cases blank
      | cons d rest => exact ih (Or.inr ⟨List.cons_ne_nil d rest, last⟩)
  | case4 word c rest blank nonempty ih => simp
  | case5 word c rest solid ih => exact ih (Or.inl (by simp))

/-- The words of a text that does not end with a blank, joined by spaces, while one is read. -/
theorem intercalate_wordsFrom {text : List Char} (last : ∀ c ∈ text.getLast?, isBlank c = false)
    (word : List Char) :
    [' '].intercalate (wordsFrom word text) =
      if word = [] then squeezed (text.dropWhile isBlank) else word ++ squeezed text := by
  induction text generalizing word with
  | nil =>
    by_cases hword : word = []
    · rw [if_pos hword, hword]
      rfl
    · rw [if_neg hword, wordsFrom, if_neg (by simpa using hword), List.intercalate_singleton]
      exact (List.append_nil word).symm
  | cons c rest ih =>
    have lastRest : ∀ d ∈ rest.getLast?, isBlank d = false := by
      intro d hd
      cases rest with
      | nil => cases hd
      | cons e rest => exact last d hd
    by_cases hc : isBlank c = true
    · -- A blank is not the last character, so that another word follows.
      have more : rest ≠ [] := by
        rintro rfl
        rw [last c rfl] at hc
        cases hc
      -- With an empty word the rest begins afresh, and its leading blanks belong to this run.
      have further := ih lastRest []
      rw [if_pos rfl] at further
      by_cases hword : word = []
      · rw [wordsFrom, if_pos hc, if_pos (by simp [hword]), further, if_pos hword,
          List.dropWhile_cons_of_pos hc]
      · obtain ⟨next, words, hwords⟩ := List.exists_cons_of_ne_nil
          (@wordsFrom_ne_nil [] rest (Or.inr ⟨more, lastRest⟩))
        rw [hwords] at further
        rw [wordsFrom, if_pos hc, if_neg (by simpa using hword), hwords, List.intercalate_cons_cons,
          further, if_neg hword, squeezed_blanks hc, List.append_assoc, List.singleton_append]
    · have solid := Bool.eq_false_iff.mpr hc
      rw [wordsFrom, if_neg hc, ih lastRest, if_neg (by simp), squeezed_cons_of_not_isBlank solid,
        List.dropWhile_cons_of_neg hc, squeezed_cons_of_not_isBlank solid]
      by_cases hword : word = []
      · rw [if_pos hword, hword]
        rfl
      · rw [if_neg hword, List.append_assoc, List.singleton_append]

/-- The words of a trimmed text, joined by spaces, are the text with its runs of blanks squeezed. -/
theorem Trimmed.intercalate_words {text : List Char} (h : Trimmed text) :
    [' '].intercalate (words text) = Text.squeezed text := by
  rw [words, intercalate_wordsFrom h.last, if_pos rfl, h.dropWhile_eq]

end SchemaRegistry.Text
