import SchemaRegistry.Json.Quotation
/-!
# Percent encoding

In an address an octet may be written as a percent sign and two hexadecimal digits. Decoding takes
such triples for the octets they stand for and leaves a percent sign alone that starts none.
Encoding writes a triple for every octet that its set of characters does not let through, and for
every octet that is not ASCII. The sets differ by place: a segment of a path must not be cut by a
slash, a query not by a fragment.
-/

set_option autoImplicit false

namespace SchemaRegistry.Percent

open Json (hexDigit?)

/-- The octets with every triple replaced by what it stands for. -/
def decode : Octets → Octets
  | 0x25 :: a :: b :: rest =>
    match hexDigit? a, hexDigit? b with
    | some x, some y => UInt8.ofNat (x * 16 + y) :: decode rest
    | _, _ => 0x25 :: decode (a :: b :: rest)
  | b :: rest => b :: decode rest
  | [] => []

/-- An octet as a percent sign and two upper-case digits. -/
def triple (b : UInt8) : List Char :=
  ['%', (Nat.digitChar (b.toNat / 16)).toUpper, (Nat.digitChar (b.toNat % 16)).toUpper]

/-- The text with triples for the octets that are not ASCII and those that the set holds. -/
def encode (isSpecial : Char → Bool) (s : List Char) : List Char :=
  s.flatMap fun c =>
    if c.toNat < 0x80 && !isSpecial c then [c] else (String.utf8EncodeChar c).flatMap triple

/-! ## Sets -/

/-- Control characters of ASCII. -/
def isControl (c : Char) : Bool :=
  c.toNat < 0x20 || c.toNat == 0x7f

/-- What a fragment must not hold. -/
def inFragment (c : Char) : Bool :=
  isControl c || c == ' ' || c == '"' || c == '<' || c == '>' || c == '\x60'

/-- What a query must not hold; in some schemes a single quote is among it. -/
def inQuery (quote : Bool) (c : Char) : Bool :=
  isControl c || c == ' ' || c == '"' || c == '#' || c == '<' || c == '>' || (quote && c == '\'')

/-- What a path must not hold. -/
def inPath (c : Char) : Bool :=
  inFragment c || c == '#' || c == '?' || c == '\x7b' || c == '\x7d'

/-- What a name or a password must not hold. -/
def inUser (c : Char) : Bool :=
  inPath c || ['/', ':', ';', '=', '@', '[', '\\', ']', '^', '|'].contains c

/-- What a segment of a path must not hold; in some schemes a backslash is among it. -/
def inSegment (backslash : Bool) (c : Char) : Bool :=
  inPath c || c == '/' || c == '%' || (backslash && c == '\\')

end SchemaRegistry.Percent
