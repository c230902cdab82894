import SchemaRegistry.Text.Class
/-!
# Lines, trimming and words

A line ends at a line feed or at a carriage return followed by a line feed; a carriage return
anywhere else is an ordinary blank. Trimming and splitting into words go by the standard's blanks.
The functions work on lists of characters, so that what they keep is seen by plain list reasoning.
-/

set_option autoImplicit false

namespace SchemaRegistry.Text

/-- The line without the carriage return that its line feed may follow. -/
def dropReturn (line : List Char) : List Char :=
  if line.getLast? = some '\r' then line.dropLast else line

/-- The lines of a text. `line` is the line being read. The last line need not be ended by a line
feed, and then a carriage return at its end is its own. -/
def linesFrom (line : List Char) : List Char → List (List Char)
  | [] => if line.isEmpty then [] else [line]
  | '\n' :: rest => dropReturn line :: linesFrom [] rest
  | c :: rest => linesFrom (line ++ [c]) rest

/-- The lines of a text, without their ends. -/
def lines (text : List Char) : List (List Char) :=
  linesFrom [] text

/-- Without the blanks at the end. -/
def trimRight (text : List Char) : List Char :=
  (text.reverse.dropWhile isBlank).reverse

/-- Without the blanks at both ends. -/
def trim (text : List Char) : List Char :=
  trimRight (text.dropWhile isBlank)

/-- The words of a text, `word` being the one that is read. -/
def wordsFrom (word : List Char) : List Char → List (List Char)
  | [] => if word.isEmpty then [] else [word]
  | c :: rest =>
    if isBlank c then
      if word.isEmpty then wordsFrom [] rest else word :: wordsFrom [] rest
    else wordsFrom (word ++ [c]) rest

/-- The maximal runs of characters that are not blank. -/
def words (text : List Char) : List (List Char) :=
  wordsFrom [] text

/-- The pieces of a list between the members that satisfy `p`: one more than there are such. -/
def splitAt {α : Type} (p : α → Bool) : List α → List (List α)
  | [] => [[]]
  | c :: rest =>
    if p c then [] :: splitAt p rest
    else
      match splitAt p rest with
      | [] => [[c]]
      | piece :: pieces => (c :: piece) :: pieces

theorem splitAt_of_forall {α : Type} {p : α → Bool} {xs : List α} (h : ∀ x ∈ xs, p x = false) :
    splitAt p xs = [xs] := by
  induction xs with
  | nil => rfl
  | cons x xs ih =>
    obtain ⟨first, others⟩ := List.forall_mem_cons.mp h
    rw [splitAt, if_neg (by simp [first]), ih others]

theorem splitAt_ne_nil {α : Type} (p : α → Bool) (xs : List α) : splitAt p xs ≠ [] := by
  induction xs with
  | nil => simp [splitAt]
  | cons x xs ih =>
    rw [splitAt]
    split
    · simp
    · split <;> simp

theorem splitAt_append_cons {α : Type} {p : α → Bool} {x : α} (h : p x = true) (xs ys : List α) :
    splitAt p (xs ++ x :: ys) = splitAt p xs ++ splitAt p ys := by
  induction xs with
  | nil => simp [splitAt, h]
  | cons y xs ih =>
    rw [List.cons_append, splitAt, splitAt, ih]
    split
    · rfl
    · obtain ⟨piece, pieces, hpieces⟩ := List.exists_cons_of_ne_nil (splitAt_ne_nil p xs)
      simp [hpieces]

end SchemaRegistry.Text
