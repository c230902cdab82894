import Mathlib.Tactic.SplitIfs
import SchemaRegistry.Json.Stop
/-!
# What numerals are made of

The numeral of a number is not empty, and each of its characters is a digit, a sign, the point or
the letter of the exponent. That is all that other places need to know of it: no such character is a
control character, none begins another kind of value, and none may follow a value.
-/

set_option autoImplicit false

namespace SchemaRegistry

/-- Whether the character can stand in a numeral. -/
def IsNumeric (c : Char) : Prop :=
  c.isDigit = true ∨ c ∈ ['-', '+', '.', 'e']

/-- Whether all the characters can stand in a numeral. -/
def Numeric (text : List Char) : Prop :=
  ∀ c ∈ text, IsNumeric c

/-- The marks of a numeral are listed, so that each of them is checked by going through the list. -/
theorem IsNumeric.of_mem {c : Char} (h : c ∈ ['-', '+', '.', 'e']) : IsNumeric c :=
  Or.inr h

/-- No character of a numeral is a control character. -/
theorem IsNumeric.le_toNat {c : Char} (h : IsNumeric c) : 0x20 ≤ c.toNat := by
  rcases h with digit | mark
  · rw [Char.isDigit, Bool.and_eq_true, decide_eq_true_eq] at digit
    have low : 0x30 ≤ c.toNat := digit.1
    omega
  · simp only [List.mem_cons, List.not_mem_nil, or_false] at mark
    rcases mark with rfl | rfl | rfl | rfl <;> decide

/-- What stands around a numeral is apart from it. -/
theorem IsNumeric.ne {c d : Char} (h : IsNumeric c) (hd : d.isDigit = false)
    (mark : d ∉ ['-', '+', '.', 'e']) : c ≠ d := by
  rintro rfl
  rcases h with digit | hmem
  · rw [hd] at digit
    cases digit
  · exact mark hmem

namespace Numeric

@[simp] theorem nil : Numeric [] :=
  fun _ h => absurd h List.not_mem_nil

@[simp] theorem cons_iff {c : Char} {text : List Char} :
    Numeric (c :: text) ↔ IsNumeric c ∧ Numeric text :=
  List.forall_mem_cons

@[simp] theorem append_iff {text more : List Char} :
    Numeric (text ++ more) ↔ Numeric text ∧ Numeric more :=
  List.forall_mem_append

/-- Whether characters can stand in a numeral does not depend on their order, so whatever is cut out
of one can. -/
theorem of_subset {text more : List Char} (h : Numeric more) (sub : text ⊆ more) : Numeric text :=
  fun c hc => h c (sub hc)

theorem toDigits (n : Nat) : Numeric (Nat.toDigits 10 n) :=
  fun _ hc => Or.inl (Nat.isDigit_of_mem_toDigits (by decide) (by decide) hc)

/-- Zeros are put behind the digits of a large number, and between the point and those of a small
one. -/
theorem zeros (n : Nat) : Numeric (List.replicate n '0') := by
  intro c hc
  rw [List.eq_of_mem_replicate hc]
  exact Or.inl rfl

end Numeric

theorem isNumeric_zero : IsNumeric '0' := Or.inl rfl

/-! ## The digits of a double -/

/-- Without its last zeros a numeral has fewer characters and no new ones. -/
theorem Decimal.numeric_dropTrailingZeros {digits : List Char} (h : Numeric digits) :
    Numeric (dropTrailingZeros digits) := by
  unfold dropTrailingZeros
  split
  · simp [isNumeric_zero]
  · refine h.of_subset fun c hc => ?_
    rw [List.mem_reverse] at hc
    exact List.mem_reverse.mp ((List.dropWhile_sublist _).subset hc)

/-- The shortest digits of a double are searched for among whole numbers, so they are digits too. -/
theorem Decimal.numeric_shortest (x : Binary64) : Numeric (shortest x).digits := by
  unfold shortest
  split
  · simp [isNumeric_zero]
  · dsimp only
    split
    · simp [isNumeric_zero]
    · exact numeric_dropTrailingZeros (.toDigits _)

/-! ## Numerals -/

namespace Json

/-- A double is written in four ways, with a point or an exponent where it needs one, and all four
are made of its digits and the marks. -/
theorem numeric_doubleChars (x : Decimal.Binary64) : Numeric (doubleChars x) := by
  have minus : IsNumeric '-' := .of_mem (by decide)
  have plus : IsNumeric '+' := .of_mem (by decide)
  have point : IsNumeric '.' := .of_mem (by decide)
  have letter : IsNumeric 'e' := .of_mem (by decide)
  have digits := Decimal.numeric_shortest x
  have sign : Numeric (if x.negative then ['-'] else []) := by
    split <;> simp [minus]
  unfold doubleChars
  dsimp only
  split
  · split
    · simp [sign, isNumeric_zero, point, Numeric.zeros, digits]
    · split
      · simp [sign, isNumeric_zero, point, Numeric.zeros, digits]
      · have whole := digits.of_subset (List.take_subset ((Decimal.shortest x).order.toNat + 1) _)
        have rest := digits.of_subset (List.drop_subset ((Decimal.shortest x).order.toNat + 1) _)
        simp [sign, point, whole, rest]
  · -- In scientific notation only the point, the letter and the sign come between digits.
    have first := digits.of_subset (List.take_subset 1 _)
    have exponent : Numeric (if (Decimal.shortest x).order < 0 then ['-'] else ['+']) := by
      split <;> simp [minus, plus]
    have power := Numeric.toDigits (Decimal.shortest x).order.natAbs
    have tail : Numeric (Decimal.shortest x).digits.tail :=
      digits.of_subset fun _ hc => List.mem_of_mem_tail hc
    cases hmore : (Decimal.shortest x).digits.tail with
    | nil => simp [sign, first, letter, exponent, power]
    | cons d more =>
      rw [hmore] at tail
      simp [sign, first, point, letter, exponent, power, Numeric.cons_iff.mp tail]

/-- Each of the ways to write a double has a point or an exponent in it. -/
theorem doubleChars_ne_nil (x : Decimal.Binary64) : doubleChars x ≠ [] := by
  unfold doubleChars
  dsimp only
  split_ifs <;> simp

/-- The numeral of a number is made of digits and marks. -/
theorem Number.numeric_chars (n : Number) : Numeric n.chars := by
  cases n with
  | integer n =>
    have minus : IsNumeric '-' := .of_mem (by decide)
    have digits := Numeric.toDigits n.natAbs
    change Numeric (integerChars n)
    unfold integerChars
    split <;> simp [minus, digits]
  | double x => exact numeric_doubleChars x

/-- Whatever the number is, something is written of it, so a value is never mistaken for nothing. -/
theorem Number.chars_ne_nil (n : Number) : n.chars ≠ [] := by
  cases n with
  | integer n =>
    have digits : Nat.toDigits 10 n.natAbs ≠ [] := Nat.toDigits_ne_nil
    simp [Number.chars, integerChars, digits]
  | double x => exact doubleChars_ne_nil x

end Json

end SchemaRegistry
