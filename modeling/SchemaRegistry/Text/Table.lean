import SchemaRegistry.Text.Line
/-!
# Tables of characters

A large table of the character standard is written as text, because it is far shorter so. A row is a
range of code points, then a colon, then what the table says of them: `41-5a:61` and `bc:31,2044,34`
are rows, all numbers being hexadecimal and rows separated by blanks. If a row says one code point,
it says it of the first of its range, and of the others what lies as far behind.
-/

set_option autoImplicit false

namespace SchemaRegistry.Text.Table

/-- What a table says of the code points of a range. -/
structure Row where
  first : Nat
  last : Nat
  values : List Nat
  deriving DecidableEq

/-- A digit of a number, whatever its value has been so far. -/
def digit (n : Nat) (c : Char) : Nat :=
  n * 16 + if c.isDigit then c.toNat - '0'.toNat else c.toNat - 'a'.toNat + 10

def number (cs : List Char) : Nat := cs.foldl digit 0

/-- The row that a text between blanks is. -/
def Row.ofChars (cs : List Char) : Row :=
  let range := (splitAt (· == '-') (cs.takeWhile (· ≠ ':'))).map number
  let values := (splitAt (· == ',') ((cs.dropWhile (· ≠ ':')).drop 1)).map number
  { first := range.head?.getD 0, last := range.getLast?.getD 0, values }

/-- The rows of a table. -/
def ofText (s : String) : List Row :=
  ((splitAt isBlank s.toList).filter (!·.isEmpty)).map Row.ofChars

/-- What a row says of one of its code points. -/
def Row.valuesAt (row : Row) (n : Nat) : List Nat :=
  match row.values with
  | [value] => [value + (n - row.first)]
  | values => values

/-- What a table says of a character, if it is in the table. -/
def find? (rows : List Row) (c : Char) : Option (List Char) :=
  (rows.find? fun row => row.first ≤ c.toNat && c.toNat ≤ row.last).map fun row =>
    (row.valuesAt c.toNat).map Char.ofNat

end SchemaRegistry.Text.Table
