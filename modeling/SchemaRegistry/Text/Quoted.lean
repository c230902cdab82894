import SchemaRegistry.Text.Extender
import SchemaRegistry.Text.Printable
/-!
# Text quoted in messages

Foreign text in a message is spelled so that it reads as one line and cannot end the quotation
early: the usual backslash letters, and `\u` with the code point in lower-case hexadecimal, without
padding, for whatever cannot be shown. There are two spellings. `escape` is for text that the
message itself puts between single quotes; only its first character can attach to the quotation
mark, so only there is an extender spelled out. `quote` writes the double quotes too, spells out
every extender, and leaves single quotes alone, because they cannot end it.
-/

set_option autoImplicit false

namespace SchemaRegistry.Text

/-- The code point as a `\u` escape. -/
def codePointEscape (c : Char) : List Char :=
  ['\\', 'u', '\x7b'] ++ Nat.toDigits 16 c.toNat ++ ['\x7d']

/-- One character, for a quotation in which the characters of `quotes` are special. -/
def escapeChar (quotes : List Char) (spellExtender : Bool) (c : Char) : List Char :=
  if c = '\x00' then ['\\', '0']
  else if c = '\t' then ['\\', 't']
  else if c = '\r' then ['\\', 'r']
  else if c = '\n' then ['\\', 'n']
  else if c = '\\' then ['\\', '\\']
  else if quotes.contains c then ['\\', c]
  else if spellExtender && isExtender c then codePointEscape c
  else if isPrintable c then [c]
  else codePointEscape c

/-- The inside of a quotation whose marks the message supplies. -/
def escapeChars : List Char → List Char
  | [] => []
  | c :: rest => escapeChar ['\'', '"'] true c ++ rest.flatMap (escapeChar ['\'', '"'] false)

/-- `escapeChars` on strings. -/
def escape (s : String) : String :=
  String.ofList (escapeChars s.toList)

/-- The text between double quotes, every unsafe character spelled out. -/
def quote (s : String) : String :=
  String.ofList ('"' :: s.toList.flatMap (escapeChar ['"'] true) ++ ['"'])

end SchemaRegistry.Text
