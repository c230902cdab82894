/-!
# Classes of characters

A class with few members is written out, and a class with many is a list of ranges of code points,
in a module of its own.

Two small classes decide what a name or a schema may be. Both are those of the character standard,
not only their ASCII part: a no-break space is a blank, and U+0085 is a blank and a control
character at once.
-/

set_option autoImplicit false

namespace SchemaRegistry.Text

/-- Whether the character is in one of the ranges. -/
def inRanges (ranges : List (Nat × Nat)) (c : Char) : Bool :=
  ranges.any fun (low, high) => low ≤ c.toNat && c.toNat ≤ high

/-- The standard's white space: 25 code points. -/
def isBlank (c : Char) : Bool :=
  let n := c.toNat
  (0x09 ≤ n && n ≤ 0x0d) || n == 0x20 || n == 0x85 || n == 0xa0 || n == 0x1680 ||
    (0x2000 ≤ n && n ≤ 0x200a) || n == 0x2028 || n == 0x2029 || n == 0x202f || n == 0x205f ||
    n == 0x3000

/-- The control characters: U+0000 to U+001F and U+007F to U+009F. -/
def isControl (c : Char) : Bool :=
  c.toNat < 0x20 || (0x7f ≤ c.toNat && c.toNat ≤ 0x9f)

end SchemaRegistry.Text
